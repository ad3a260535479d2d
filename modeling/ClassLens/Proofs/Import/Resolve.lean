import ClassLens.Import.Resolve
import ClassLens.Proofs.Path.Joining
import Mathlib.Data.List.Basic
/-
  Imports — where they lead

  An import of a component leads to a normal path whatever is written: the
  component's own path has to be absolute, what is written is seen from its
  directory, and the path that results is normalised.

  What is proved:
    1. `resolveImport_eq_some` — when an import leads to a file, and to which;
    2. `isNormal_of_mem_importPaths` — all stylesheets that a component imports
       have normal paths;
    3. `importStatements_eq` — the statements of a component with an absolute
       path are its imports that lead to a file.
-/

namespace ClassLens

/-- The path that a component's import is resolved from: what is written behind
`./`, seen from the component's directory. -/
def ImportStatement.target? (component : Path) (written : Text) : Option Path :=
  component.parent?.map fun directory => directory.joinText (written.drop 2)

theorem mem_of_mem_distinctPaths {paths : List Path} {p : Path} (h : p ∈ distinctPaths paths) :
    p ∈ paths := by
  have hseen : ∀ (rest seen : List Path),
      p ∈ rest.foldl (fun seen q => if seen.any (· == q) then seen else seen ++ [q]) seen →
        p ∈ seen ∨ p ∈ rest := by
    intro rest
    induction rest with
    | nil => exact fun seen hmem => .inl hmem
    | cons q rest ih =>
      intro seen hmem
      rw [List.foldl_cons] at hmem
      rcases ih _ hmem with hseen | hrest
      · split at hseen
        · exact .inl hseen
        · rcases List.mem_append.mp hseen with hold | hnew
          · exact .inl hold
          · exact .inr (List.mem_cons.mpr (.inl (List.mem_singleton.mp hnew)))
      · exact .inr (List.mem_cons_of_mem q hrest)
  rcases hseen paths [] h with hnil | hmem
  · cases hnil
  · exact hmem

/-- A path that an earlier one equals is left out. -/
theorem distinctPaths_eq (paths : List Path) : distinctPaths paths = paths.eraseDups := by
  have hseen : ∀ (rest seen : List Path),
      rest.foldl (fun seen q => if seen.any (· == q) then seen else seen ++ [q]) seen =
        List.eraseDupsBy.loop (· == ·) rest seen.reverse := by
    intro rest
    induction rest with
    | nil =>
      intro seen
      rw [List.eraseDupsBy.loop, List.reverse_reverse]
      rfl
    | cons q rest ih =>
      intro seen
      have hany : seen.reverse.any (fun p => q == p) = seen.any (· == q) := by
        rw [List.any_reverse]
        simp only [BEq.comm]
      rw [List.foldl_cons, List.eraseDupsBy.loop, hany, ih]
      cases seen.any (· == q) <;> simp
  exact hseen paths []

/-- A statement is accepted for a component with an absolute path only, and leads
where it was resolved to. -/
theorem ImportStatement.of_create {written : Text} {resolved component : Path} {line : Nat}
    {statement : ImportStatement}
    (h : ImportStatement.create written resolved component line = .ok statement) :
    statement.resolved = resolved ∧ component.isAbsolute = true := by
  unfold ImportStatement.create at h
  split at h
  · cases h
  · split at h
    · cases h
    · split at h
      · cases h
      · rename_i habsolute
        split at h
        · cases h
        · cases h
          exact ⟨rfl, by simpa using habsolute⟩

theorem ImportStatement.isSameDirectory_iff {written : Text} :
    ImportStatement.isSameDirectory written = true ↔
      Text.startsWith ['.', '/'] written = true ∧
        Text.contains ['.', '.', '/'] written = false := by
  unfold ImportStatement.isSameDirectory
  rw [Bool.and_eq_true, Bool.and_eq_true]
  constructor
  · rintro ⟨⟨hdot, hup⟩, -⟩
    exact ⟨hdot, by simpa [ImportStatement.stepsUp] using hup⟩
  · rintro ⟨hdot, hup⟩
    refine ⟨⟨hdot, by simpa [ImportStatement.stepsUp] using hup⟩, ?_⟩
    -- what begins with a dot begins with no alias mark
    obtain ⟨rest, rfl⟩ := Text.startsWith_iff.mp hdot
    rfl

theorem resolveImport_eq_some {disk : Disk} {component resolved : Path} {written : Text} :
    resolveImport disk component written = some resolved ↔
      ImportStatement.isSameDirectory written = true ∧
        ∃ directory, component.parent? = some directory ∧
          resolved = (directory.joinText (written.drop 2)).normalize ∧
          disk.isFile resolved = true := by
  unfold resolveImport
  cases hsame : ImportStatement.isSameDirectory written with
  | false => simp
  | true =>
    cases hparent : component.parent? with
    | none => simp
    | some directory =>
      simp only [Bool.not_true, Bool.false_eq_true, if_false, true_and, Option.some.injEq,
        exists_eq_left']
      split
      · rename_i hfile
        constructor
        · intro heq
          cases heq
          exact ⟨rfl, hfile⟩
        · rintro ⟨rfl, -⟩
          rfl
      · rename_i hfile
        constructor
        · intro heq
          cases heq
        · rintro ⟨rfl, htrue⟩
          exact absurd htrue hfile

theorem isNormal_of_resolveImport {disk : Disk} {component resolved : Path} {written : Text}
    (hcomponent : component.isAbsolute = true)
    (h : resolveImport disk component written = some resolved) : resolved.IsNormal := by
  obtain ⟨-, directory, hparent, rfl, -⟩ := resolveImport_eq_some.mp h
  have hdirectory := Path.isAbsolute_parent hcomponent hparent
  exact Path.isNormal_normalize (Path.isAbsolute_join hdirectory _)

theorem isNormal_of_mem_importPaths {disk : Disk} {text : Text} {component p : Path}
    (h : p ∈ importPaths disk text component) : p.IsNormal := by
  obtain ⟨statement, hstatement, rfl⟩ := List.mem_map.mp (mem_of_mem_distinctPaths h)
  obtain ⟨found, -, hfound⟩ := List.mem_filterMap.mp hstatement
  split at hfound
  · cases hfound
  · split at hfound
    · cases hfound
    · rename_i resolved hresolved
      split at hfound
      · rename_i made hmade
        cases hfound
        obtain ⟨hwhere, hcomponent⟩ := ImportStatement.of_create hmade
        rw [hwhere]
        exact isNormal_of_resolveImport hcomponent hresolved
      · cases hfound

/-! ## Statements of a component with an absolute path -/

theorem le_line_of_mem_scanFrom {text : Text} {line skip : Nat} {found : ImportScan.Found}
    (h : found ∈ ImportScan.scanFrom line skip text) : line ≤ found.line := by
  induction text generalizing line skip with
  | nil => cases h
  | cons c text ih =>
    have hnext : line ≤ if c = '\n' then line + 1 else line := by split <;> omega
    cases skip with
    | succ skip => exact Nat.le_trans hnext (ih h)
    | zero =>
      rw [ImportScan.scanFrom] at h
      split at h
      · exact Nat.le_trans hnext (ih h)
      · rcases List.mem_cons.mp h with rfl | h
        · exact Nat.le_refl line
        · exact Nat.le_trans hnext (ih h)

theorem importStatements_eq (disk : Disk) (text : Text) {component : Path}
    (hcomponent : component.isAbsolute = true) :
    importStatements disk text component = (ImportScan.scan text).filterMap fun found =>
      (resolveImport disk component found.path).map fun resolved =>
        ⟨found.path, resolved, component, found.line⟩ := by
  unfold importStatements
  refine List.filterMap_congr fun found hfound => ?_
  cases hresolved : resolveImport disk component found.path with
  | none => split <;> rfl
  | some resolved =>
    have habsolute := (isNormal_of_resolveImport hcomponent hresolved).1
    obtain ⟨hsame, -⟩ := resolveImport_eq_some.mp hresolved
    have hsupported : isUnsupported found.path = false := by
      unfold ImportStatement.isSameDirectory at hsame
      unfold isUnsupported
      simp only [Bool.and_eq_true, Bool.not_eq_true'] at hsame
      rw [hsame.1.2, hsame.2, Bool.or_false]
    have hline : ¬ found.line < 1 := Nat.not_lt.mpr (le_line_of_mem_scanFrom hfound)
    have hcreate : ImportStatement.create found.path resolved component found.line =
        .ok ⟨found.path, resolved, component, found.line⟩ := by
      unfold ImportStatement.create
      simp [hsame, habsolute, hcomponent, hline]
    simp [hsupported, hcreate]

end ClassLens
