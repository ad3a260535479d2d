import ClassLens.Proofs.Index.Holdings
/-
  Freshness — what the index knows is what the disk holds

  `upToDate U disk` is the standard of sheets that are up to date with the disk
  at every stylesheet outside `U`, the stylesheets whose last change is still to
  be followed. What is read now is up to this standard. A change of a file puts
  its path into `U`; it can be taken out again once the cache has nothing for it,
  the components that import it are built anew, and no run is past it.

  What is proved:
    1. `yields_upToDate` — what is read and built now is up to date;
    2. `HoldsOnly.settle`, `Run.Carries.settle` — when stylesheets can be taken
       out of `U`;
    3. `FreshBut.sheet?_eq`, `FreshBut.rebuild` — what a component that is up to
       date holds.
-/

namespace ClassLens

/-- A run is past a stylesheet: it is done with it, or has begun to find out what
it is like. -/
def Run.Passed (r : Run) (p : Path) : Prop :=
  (∃ done, r.imports = done ++ r.todo ∧ p ∈ done) ∨
    (r.todo.head? = some p ∧ r.phase ≠ .consult ∧ r.phase ≠ .look)

namespace Index

/-- Up to date with the disk outside `U`. -/
def upToDate (U : Path → Prop) (disk : Disk) : Standard where
  asks := Path.IsNormal
  bears p stamp := ¬ U p → ∀ content modified, disk.file? p = some (content, modified) →
    stamp = .time modified
  holds s := s.path.IsNormal ∧ (¬ U s.path → readAnew? disk s.path = some s)
  lacks p := ¬ U p → readAnew? disk p = none

/-- A component of normal imports that was gathered up to date outside `U`, unless
it is in `X`, the components to be built anew. -/
structure FreshBut (U X : Path → Prop) (disk : Disk) (k : Component) : Prop where
  normal : ∀ p ∈ k.imports, p.IsNormal
  eq_build : k = Component.build k.path k.imports k.sheets
  gathered : X k.path ∨ Gathered (upToDate U disk).Finds k.imports k.sheets

variable {U V X Y : Path → Prop} {disk disk' : Disk} {idx : Index} {k : Component}

theorem yields_upToDate (U X : Path → Prop) (disk : Disk) :
    Yields disk (upToDate U disk) (FreshBut U X disk) where
  stamping := by
    intro p stamp _ hstamp _ content modified hfile
    unfold Disk.stamp at hstamp
    unfold Disk.file? at hfile
    cases hfind : disk.find p with
    | error cause =>
      rw [hfind] at hfile
      cases hfile
    | ok found =>
      obtain ⟨place, node⟩ := found
      rw [hfind] at hstamp hfile
      cases node with
      | directory changed => cases hfile
      | file held time =>
        cases hstamp
        cases hfile
        rfl
  reading := by
    intro p stamp text hp hbears hread
    refine ⟨hp, fun hU => ?_⟩
    obtain ⟨place, modified, hfind⟩ := Disk.read_parts hread
    have hfile : disk.file? p = some (.text text, modified) := by
      unfold Disk.file?
      rw [hfind]
    rw [hbears hU _ _ hfile]
    show readAnew? disk p = some (Sheet.build text p (.time modified))
    rw [readAnew?_eq, hfile]
  failing := by
    rintro p cause - (hstamp | hread) -
    · unfold readAnew? Sheet.read
      rw [hstamp]
      rfl
    · exact readAnew?_eq_none hread
  building := fun _ _ _ himports hgathered => ⟨himports, rfl, .inr hgathered⟩
  asking := fun _ hk => hk.normal

/-! ## Fewer stylesheets, and other disks -/

theorem finds_of_agree {p : Path} (hp : p.IsNormal)
    (hagree : ¬ V p → ¬ U p ∧ disk'.file? p = disk.file? p) {found : Option Sheet}
    (h : (upToDate U disk).Finds p found) : (upToDate V disk').Finds p found := by
  have hsame : ¬ V p → ¬ U p ∧ readAnew? disk' p = readAnew? disk p := by
    intro hV
    obtain ⟨hU, hfile⟩ := hagree hV
    exact ⟨hU, by rw [readAnew?_eq, readAnew?_eq, hfile]⟩
  cases found with
  | none =>
    intro hV
    obtain ⟨hU, hanew⟩ := hsame hV
    rw [hanew, h hU]
  | some s =>
    obtain ⟨hpath, hnormal, hread⟩ := h
    refine ⟨hpath, hnormal, ?_⟩
    rw [hnormal.eq_of_beq hp hpath] at hread ⊢
    intro hV
    obtain ⟨hU, hanew⟩ := hsame hV
    rw [hanew, hread hU]

/-- A stylesheet can be taken out of `U` on a disk that holds the same there, or once
the cache has nothing for it and all that import it are built anew. -/
theorem HoldsOnly.settle (h : HoldsOnly (upToDate U disk).holds (FreshBut U X disk) idx)
    (hagree : ∀ q : Path, q.IsNormal → ¬ V q → ¬ U q ∧ disk'.file? q = disk.file? q ∨
      idx.cache.get? q = none ∧
        ∀ c k, idx.components.get? c = some k → q ∈ k.imports → Y k.path)
    (hsub : ∀ c, X c → Y c) : HoldsOnly (upToDate V disk').holds (FreshBut V Y disk') idx where
  cached := by
    intro q s hs
    obtain ⟨hpath, hnormal, hread⟩ := h.cached q s hs
    have hfinds : (upToDate U disk).Finds s.path (some s) := ⟨BEq.rfl, hnormal, hread⟩
    refine ⟨hpath, (finds_of_agree hnormal (fun hV => ?_) hfinds).2⟩
    rcases hagree s.path hnormal hV with hsame | ⟨hnone, -⟩
    · exact hsame
    · rw [Table.get?_congr _ hpath, hs] at hnone
      cases hnone
  built := by
    intro c k hget
    obtain ⟨hpath, hk⟩ := h.built c k hget
    refine ⟨hpath, hk.normal, hk.eq_build, ?_⟩
    rcases hk.gathered with hX | hgathered
    · exact .inl (hsub _ hX)
    · by_cases hY : Y k.path
      · exact .inl hY
      · refine .inr (hgathered.mono fun p hp found hfound => ?_)
        refine finds_of_agree (hk.normal p hp) (fun hV => ?_) hfound
        rcases hagree p (hk.normal p hp) hV with hsame | ⟨-, himports⟩
        · exact hsame
        · exact absurd (himports c k hget hp) hY

end Index

/-- A run stays up to date where it is not past a stylesheet that is taken out of `U`. -/
theorem Run.Carries.settle {U V : Path → Prop} {disk disk' : Disk} {r : Run}
    (h : r.Carries (Index.upToDate U disk))
    (hagree : ∀ q : Path, q.IsNormal → r.Passed q → ¬ V q → ¬ U q ∧ disk'.file? q = disk.file? q) :
    r.Carries (Index.upToDate V disk') := by
  obtain ⟨done, himports, hgathered⟩ := h.gathered
  refine ⟨h.asked, ⟨done, himports, ?_⟩, h.fresh, fun p hp => ?_⟩
  · refine hgathered.mono fun p hp found hfound => ?_
    have hnormal : p.IsNormal := h.asked p (himports ▸ List.mem_append_left _ hp)
    exact Index.finds_of_agree hnormal (hagree p hnormal (.inl ⟨done, himports, hp⟩)) hfound
  · have hnormal : p.IsNormal :=
      h.asked p (himports ▸ List.mem_append_right _ (List.mem_of_mem_head? hp))
    have hknows := h.knows p hp
    have hhere : r.phase ≠ .consult → r.phase ≠ .look →
        ¬ V p → ¬ U p ∧ disk'.file? p = disk.file? p :=
      fun hconsult hlook => hagree p hnormal (.inr ⟨hp, hconsult, hlook⟩)
    cases hphase : r.phase with
    | consult => trivial
    | look => trivial
    | check s =>
      have hfinds : (Index.upToDate U disk).Finds p (some s) := by
        rw [hphase] at hknows
        exact hknows
      exact Index.finds_of_agree hnormal (hhere (by simp [hphase]) (by simp [hphase])) hfinds
    | got found =>
      have hfinds : (Index.upToDate U disk).Finds p found := by
        rw [hphase] at hknows
        exact hknows
      exact Index.finds_of_agree hnormal (hhere (by simp [hphase]) (by simp [hphase])) hfinds
    | fetch stamp =>
      rw [hphase] at hknows
      intro hV content modified hfile
      obtain ⟨hU, hsame⟩ := hhere (by simp [hphase]) (by simp [hphase]) hV
      exact hknows hU content modified (hsame ▸ hfile)

namespace Index

variable {U X : Path → Prop} {disk : Disk} {k : Component}

/-! ## What a component that is up to date holds -/

/-- What is found for a normal path outside `U` is what reading it anew gives. -/
theorem eq_readAnew?_of_finds {p : Path} (hp : p.IsNormal) (hU : ¬ U p) {found : Option Sheet}
    (h : (upToDate U disk).Finds p found) : found = readAnew? disk p := by
  cases found with
  | none => exact (h hU).symm
  | some s =>
    obtain ⟨hpath, hnormal, hread⟩ := h
    rw [hnormal.eq_of_beq hp hpath] at hread
    exact (hread hU).symm

theorem FreshBut.sheet?_eq (h : FreshBut U X disk k) (hX : ¬ X k.path) {p : Path}
    (hp : p.IsNormal) (hU : ¬ U p) (himports : k.imports.any (· == p) = true) :
    k.sheet? p = readAnew? disk p := by
  have hfind := (h.gathered.resolve_left hX).find?_eq (p := p) (x := readAnew? disk p)
    (fun q s hs => hs.1) fun q hq hqp found hfound => ?_
  · rw [if_pos himports] at hfind
    exact hfind
  · rw [(h.normal q hq).eq_of_beq hp hqp] at hfound
    exact eq_readAnew?_of_finds hp hU hfound

/-- With all imports outside `U`, indexing the component with nothing known
before gives the same component. -/
theorem FreshBut.rebuild (h : FreshBut U X disk k) (hX : ¬ X k.path)
    (hU : ∀ p ∈ k.imports, ¬ U p) {c : Path} (hc : (k.path == c) = true) :
    (indexComponent disk empty k.path k.imports).components.get? c = some k := by
  have hsheets : k.sheets = gather (readAnew? disk) k.imports :=
    (h.gathered.resolve_left hX).eq_gather fun p hp found hfound =>
      eq_readAnew?_of_finds (h.normal p hp) (hU p hp) hfound
  have hanew : ∀ p ∈ k.imports, answer? disk empty p = readAnew? disk p :=
    fun p _ => answer?_eq disk empty p
  rw [indexComponent_components disk empty k.path h.normal, Table.get?_insert, if_pos hc,
    gather_congr hanew, ← hsheets, ← h.eq_build]

end Index

end ClassLens
