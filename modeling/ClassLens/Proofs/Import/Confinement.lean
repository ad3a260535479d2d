import ClassLens.Proofs.Import.Resolve
/-
  Confinement — which imports stay in the component's directory

  Only what begins with `./` and holds no `../` is followed, and what is behind
  `./` is seen from the component's directory. The names behind it lead down
  from there; the one parent step that is not told apart, at the very end,
  leads to no file as long as the component is in a directory at all. But a
  slash behind `./` makes an absolute path of the rest, which is followed
  wherever it leads.

  What is proved:
    1. `steps_of_not_stepsUp`, `steps_of_stylesheet` — the steps of what is
       written behind `./`;
    2. `not_isFile_of_above` — there is no file on the way to a
       directory;
    3. `imports_stay_unless_rooted` — every import that is not rooted stays in
       the directory, and where a rooted one leads;
    4. `rooted_import_leaves` — a rooted one that leads elsewhere.
-/

namespace ClassLens

namespace Path

/-- The path lies inside the directory: its segments go on behind those of the directory. -/
def Inside (p directory : Path) : Prop :=
  directory.segments <+: p.segments ∧ directory.segments ≠ p.segments

instance (p directory : Path) : Decidable (p.Inside directory) :=
  inferInstanceAs (Decidable (_ ∧ _))

/-- The path has no dot and no parent step. -/
def IsPlain (p : Path) : Prop := ∀ s ∈ p.segments, s ≠ .here ∧ s ≠ .up

theorem IsNormal.isPlain {p : Path} (h : p.IsNormal) : p.IsPlain := by
  obtain ⟨names, hnames, rfl⟩ := h.eq_ofSegments
  intro s hs
  rw [segments_ofSegments hnames] at hs
  rcases List.mem_cons.mp hs with rfl | hs
  · simp
  · obtain ⟨n, -, rfl⟩ := List.mem_map.mp hs
    simp

theorem exists_names_of_pieces {pieces : List Bytes} (h : [dot, dot] ∉ pieces) :
    ∃ names : List Bytes, pieces.filterMap innerSegment? = names.map .name := by
  induction pieces with
  | nil => exact ⟨[], rfl⟩
  | cons piece pieces ih =>
    rw [List.mem_cons, not_or] at h
    obtain ⟨names, hnames⟩ := ih h.2
    by_cases hskip : piece = [] ∨ piece = [dot]
    · have hnone : innerSegment? piece = none := by simp [innerSegment?, hskip]
      exact ⟨names, by rw [List.filterMap_cons_none hnone, hnames]⟩
    · have hup : piece ≠ [dot, dot] := fun heq => h.1 heq.symm
      have hname : innerSegment? piece = some (.name piece) := by simp [innerSegment?, hskip, hup]
      exact ⟨piece :: names, by rw [List.filterMap_cons_some hname, hnames]; rfl⟩

/-- Where no parent step has a slash behind it, all steps but the last are names. -/
theorem exists_names_of_split {rest last : Text} {front : List Text}
    (hrest : Text.contains ['.', '.', '/'] rest = false)
    (hsplit : Text.split (· = '/') rest = front ++ [last]) :
    ∃ names : List Bytes,
      (ofText rest).steps = names.map .name ++ (innerSegment? (Utf8.encode last)).toList := by
  have hup : [dot, dot] ∉ front.map Utf8.encode := by
    intro hmem
    obtain ⟨piece, hpiece, hdots⟩ := List.mem_map.mp hmem
    have hdots : piece = ['.', '.'] := Utf8.encode_injective hdots
    have hinfix := Text.infix_join_of_mem ['/'] (hdots ▸ hpiece) last
    rw [← hsplit, Text.join_split, ← Text.contains_iff] at hinfix
    simp [hrest] at hinfix
  obtain ⟨names, hnames⟩ := exists_names_of_pieces hup
  refine ⟨names, ?_⟩
  rw [steps_ofText, hsplit, List.filterMap_append, ← hnames, List.filterMap_map]
  congr 1

/-- What is written without a slash behind a parent step leads down, with at
most one parent step at the end. -/
theorem steps_of_not_stepsUp {rest : Text} (h : Text.contains ['.', '.', '/'] rest = false) :
    ∃ names : List Bytes, (ofText rest).steps = names.map .name ∨
      (ofText rest).steps = names.map .name ++ [.up] := by
  obtain ⟨front, last, hsplit⟩ := Text.exists_split_append (p := (· = '/')) rest (b := []) (by simp)
  rw [List.append_nil] at hsplit
  obtain ⟨names, hsteps⟩ := exists_names_of_split h hsplit
  rw [hsteps]
  cases hlast : innerSegment? (Utf8.encode (last ++ [])) with
  | none => exact ⟨names, .inl (by simp)⟩
  | some s =>
    cases s with
    | root => exact absurd hlast (innerSegment?_ne_root _).1
    | here => exact absurd hlast (innerSegment?_ne_root _).2
    | up => exact ⟨names, .inr rfl⟩
    | name n => exact ⟨names ++ [n], .inl (by simp)⟩

theorem steps_of_stylesheet {rest : Text} (h : Text.contains ['.', '.', '/'] rest = false)
    (hcss : ImportScan.cssSuffix <:+ rest) :
    ∃ names : List Bytes, names ≠ [] ∧ (ofText rest).steps = names.map .name := by
  obtain ⟨before, rfl⟩ := hcss
  obtain ⟨front, last, hsplit⟩ :=
    Text.exists_split_append (p := (· = '/')) before (b := ImportScan.cssSuffix)
      (by simp [ImportScan.cssSuffix])
  obtain ⟨names, hsteps⟩ := exists_names_of_split h hsplit
  have hlong : 4 ≤ (Utf8.encode (last ++ ImportScan.cssSuffix)).length := by
    have hsuffix : Text.bytes ImportScan.cssSuffix = 4 := rfl
    rw [Utf8.length_encode, Text.bytes_append, hsuffix]
    omega
  generalize Utf8.encode (last ++ ImportScan.cssSuffix) = piece at hsteps hlong
  have hname : innerSegment? piece = some (.name piece) := by
    have hnil : piece ≠ [] := fun heq => by simp [heq] at hlong
    have hdot : piece ≠ [dot] := fun heq => by simp [heq] at hlong
    have hup : piece ≠ [dot, dot] := fun heq => by simp [heq] at hlong
    simp [innerSegment?, hnil, hdot, hup]
  refine ⟨names ++ [piece], by simp, ?_⟩
  rw [hsteps, hname]
  simp

end Path

namespace Disk

/-- The path leads to a directory. -/
def LeadsToDirectory (d : Disk) (p : Path) : Prop :=
  ∃ place changed, d.find p = .ok (place, .directory changed)

theorem exists_file? {d : Disk} {p : Path} (h : d.isFile p = true) :
    ∃ content modified, d.file? p = some (content, modified) := by
  unfold isFile at h
  split at h
  · rename_i place content modified hfind
    exact ⟨content, modified, by simp [file?, hfind]⟩
  · cases h

theorem not_isFile_of_above {d : Disk} {p directory : Path} (hp : p.IsNormal)
    (hdirectory : directory.IsNormal) (hfront : p.segments <+: directory.segments)
    (hleads : d.LeadsToDirectory directory) : d.isFile p = false := by
  rw [Bool.eq_false_iff]
  intro hfile
  obtain ⟨place, changed, hfind⟩ := hleads
  obtain ⟨heads, hheads, rfl⟩ := hp.eq_ofSegments
  obtain ⟨names, hnames, rfl⟩ := hdirectory.eq_ofSegments
  rw [Path.segments_ofSegments hheads, Path.segments_ofSegments hnames, List.cons_prefix_cons]
    at hfront
  have hheadsFront : heads <+: names := by
    obtain ⟨_, hstart, hmap⟩ := List.prefix_map_iff.mp hfront.2
    rwa [(List.map_inj_right fun _ _ => Segment.name.inj).mp hmap]
  by_cases hsame : heads = names
  · -- the directory itself is no file
    rw [hsame] at hfile
    simp [isFile, hfind] at hfile
  · have hne : names ≠ [] := by
      rintro rfl
      exact hsame (List.prefix_nil.mp hheadsFront)
    rw [find_eq_ok d hdirectory.1, Path.pieces_ofSegments, walk_empty_piece,
      Text.split_join hne fun n hn => (hnames n hn).2.2.2] at hfind
    obtain ⟨-, -, ⟨-, hwalk⟩, hnode⟩ := hfind
    obtain ⟨-, -, hdirectories, -⟩ := (walk_names d hnames [] place _).mp ⟨hwalk, hnode⟩
    -- the file is at the location of one of the directories on the way
    obtain ⟨content, modified, hheld⟩ := exists_file? hfile
    obtain ⟨-, -, -, hnode⟩ := (file?_eq_some d hp content modified).mp hheld
    have hlocation : location (Path.ofSegments (.root :: heads.map .name)) =
        names.take heads.length := by
      rw [location_ofSegments hheads]
      exact List.prefix_iff_eq_take.mp hheadsFront
    have hshort : heads.length < names.length := by
      have hle := hheadsFront.length_le
      have hlength : heads.length ≠ names.length := fun heq =>
        hsame (hheadsFront.eq_of_length heq)
      omega
    obtain ⟨number, hthere⟩ := hdirectories heads.length hshort
    rw [List.nil_append, ← hlocation, hnode] at hthere
    cases hthere

end Disk

/-! ## Where imports lead -/

/-- What is behind `./` is an absolute path. -/
def ImportStatement.IsRooted (written : Text) : Prop := (written.drop 2).head? = some '/'

instance (written : Text) : Decidable (ImportStatement.IsRooted written) :=
  inferInstanceAs (Decidable (_ = _))

theorem isStylesheetPath_of_importAt? {cs path rest : Text}
    (h : ImportScan.importAt? cs = some (path, rest)) :
    ImportScan.isStylesheetPath path = true := by
  have hquoted : ∃ tail, ImportScan.quotedPath? tail = some (path, rest) := by
    unfold ImportScan.importAt? at h
    obtain ⟨behind, -, h⟩ := Option.bind_eq_some_iff.mp h
    obtain ⟨words, -, h⟩ := Option.bind_eq_some_iff.mp h
    split at h
    · exact ⟨_, h⟩
    · exact ⟨_, h⟩
  obtain ⟨tail, htail⟩ := hquoted
  unfold ImportScan.quotedPath? at htail
  split at htail
  · cases htail
  · simp only at htail
    split at htail
    · cases htail
    · split at htail
      · rename_i hparts
        cases htail
        exact hparts.2.2
      · cases htail

theorem isStylesheetPath_of_mem_scanFrom {text : Text} {line skip : Nat}
    {found : ImportScan.Found} (h : found ∈ ImportScan.scanFrom line skip text) :
    ImportScan.isStylesheetPath found.path = true := by
  induction text generalizing line skip with
  | nil => cases h
  | cons c text ih =>
    cases skip with
    | succ skip => exact ih h
    | zero =>
      rw [ImportScan.scanFrom] at h
      split at h
      · exact ih h
      · rename_i path rest himport
        rcases List.mem_cons.mp h with rfl | h
        · exact isStylesheetPath_of_importAt? himport
        · exact ih h

/-- A rooted import leads to the path behind `./`, whatever the component. -/
theorem resolved_of_isRooted {disk : Disk} {component resolved : Path} {written : Text}
    (h : resolveImport disk component written = some resolved)
    (hrooted : ImportStatement.IsRooted written) :
    resolved = (Path.ofText (written.drop 2)).normalize := by
  obtain ⟨-, directory, -, rfl, -⟩ := resolveImport_eq_some.mp h
  have habsolute : (Path.ofText (written.drop 2)).isAbsolute = true := by
    rw [Path.isAbsolute_ofText, hrooted]
    rfl
  exact congrArg Path.normalize (Path.join_of_isAbsolute directory habsolute)

/-- What is followed and not rooted is a relative path without a slash behind a parent step. -/
theorem rest_of_not_isRooted {written : Text}
    (hsame : ImportStatement.isSameDirectory written = true)
    (hrooted : ¬ ImportStatement.IsRooted written) :
    (Path.ofText (written.drop 2)).isAbsolute = false ∧
      Text.contains ['.', '.', '/'] (written.drop 2) = false := by
  constructor
  · rw [Path.isAbsolute_ofText]
    exact beq_eq_false_iff_ne.mpr hrooted
  · obtain ⟨-, hup⟩ := ImportStatement.isSameDirectory_iff.mp hsame
    rw [Bool.eq_false_iff] at hup ⊢
    intro hrest
    apply hup
    rw [Text.contains_iff] at hrest ⊢
    exact hrest.trans (List.drop_suffix 2 written).isInfix

theorem cssSuffix_of_isStylesheetPath {written : Text}
    (hsame : ImportStatement.isSameDirectory written = true)
    (hcss : ImportScan.isStylesheetPath written = true) :
    ImportScan.cssSuffix <:+ written.drop 2 := by
  obtain ⟨hstart, -⟩ := ImportStatement.isSameDirectory_iff.mp hsame
  obtain ⟨rest, rfl⟩ := Text.startsWith_iff.mp hstart
  unfold ImportScan.isStylesheetPath at hcss
  rw [Bool.and_eq_true, List.isSuffixOf_iff_suffix] at hcss
  rcases List.suffix_cons_iff.mp hcss.2 with heq | hsuffix
  · cases heq
  · rcases List.suffix_cons_iff.mp hsuffix with heq | hsuffix
    · cases heq
    · exact hsuffix

/-- An import that is not rooted leads to a place below or above the component's
directory, or to the directory itself. -/
theorem segments_of_not_isRooted {disk : Disk} {component resolved directory : Path}
    {written : Text} (hcomponent : component.isAbsolute = true)
    (h : resolveImport disk component written = some resolved)
    (hparent : component.parent? = some directory)
    (hrooted : ¬ ImportStatement.IsRooted written) :
    directory.normalize.segments <+: resolved.segments ∨
      resolved.segments <+: directory.normalize.segments := by
  obtain ⟨hsame, directory', hparent', rfl, -⟩ := resolveImport_eq_some.mp h
  obtain rfl : directory = directory' := Option.some.inj (hparent.symm.trans hparent')
  have hdirectory := Path.isAbsolute_parent hcomponent hparent
  obtain ⟨hrelative, hup⟩ := rest_of_not_isRooted hsame hrooted
  obtain ⟨names, hdown | hback⟩ := Path.steps_of_not_stepsUp hup
  · left
    have hsegments := Path.normalize_join_names hdirectory hrelative hdown
    exact ⟨names.map .name, hsegments.symm⟩
  · exact Path.normalize_join_names_up hdirectory hrelative hback

/-- An import of a stylesheet that is not rooted leads to a place below the component's
directory. -/
theorem inside_of_not_isRooted {disk : Disk} {component resolved directory : Path}
    {written : Text} (hcomponent : component.isAbsolute = true)
    (h : resolveImport disk component written = some resolved)
    (hparent : component.parent? = some directory)
    (hcss : ImportScan.isStylesheetPath written = true)
    (hrooted : ¬ ImportStatement.IsRooted written) : resolved.Inside directory.normalize := by
  obtain ⟨hsame, directory', hparent', rfl, -⟩ := resolveImport_eq_some.mp h
  obtain rfl : directory = directory' := Option.some.inj (hparent.symm.trans hparent')
  have hdirectory := Path.isAbsolute_parent hcomponent hparent
  obtain ⟨hrelative, hup⟩ := rest_of_not_isRooted hsame hrooted
  obtain ⟨names, hne, hdown⟩ :=
    Path.steps_of_stylesheet hup (cssSuffix_of_isStylesheetPath hsame hcss)
  have hsegments := Path.normalize_join_names hdirectory hrelative hdown
  refine ⟨⟨names.map .name, hsegments.symm⟩, fun heq => hne ?_⟩
  have hnil : names.map Segment.name = [] :=
    List.append_cancel_left (hsegments.symm.trans (heq.symm.trans (List.append_nil _).symm))
  exact List.map_eq_nil_iff.mp hnil

/-- **Imports stay in the component's directory unless they are rooted.** What
is followed leads to a file, by a path without dots and parent steps. If it is
not rooted, the file lies inside the normal directory of the component,
provided that this leads to a directory at all; the proviso is not needed for
what is found in a text. A rooted import leads to the absolute path behind
`./`, be it inside the directory or not. -/
theorem imports_stay_unless_rooted (disk : Disk) {component : Path}
    (hcomponent : component.isAbsolute = true) :
    (∀ written resolved, resolveImport disk component written = some resolved →
      disk.isFile resolved = true ∧ resolved.IsPlain ∧
      ∃ directory, component.parent? = some directory ∧
        (¬ ImportStatement.IsRooted written →
          resolved.Inside directory.normalize ∨ ¬ disk.LeadsToDirectory directory.normalize) ∧
        (ImportStatement.IsRooted written →
          resolved = (Path.ofText (written.drop 2)).normalize)) ∧
    (∀ text, ∀ s ∈ importStatements disk text component,
      disk.isFile s.resolved = true ∧ s.resolved.IsPlain ∧
      ∃ directory, component.parent? = some directory ∧
        (¬ ImportStatement.IsRooted s.written → s.resolved.Inside directory.normalize) ∧
        (ImportStatement.IsRooted s.written →
          s.resolved = (Path.ofText (s.written.drop 2)).normalize)) := by
  constructor
  · intro written resolved h
    have hnormal := isNormal_of_resolveImport hcomponent h
    obtain ⟨-, directory, hparent, -, hfile⟩ := resolveImport_eq_some.mp h
    refine ⟨hfile, hnormal.isPlain, directory, hparent, fun hrooted => ?_, resolved_of_isRooted h⟩
    have hdirectory := Path.isNormal_normalize (Path.isAbsolute_parent hcomponent hparent)
    by_cases hbelow : resolved.segments <+: directory.normalize.segments
    · -- a file cannot stand on the way to the directory
      right
      intro hleads
      have hnone := Disk.not_isFile_of_above hnormal hdirectory hbelow hleads
      rw [hfile] at hnone
      cases hnone
    · left
      rcases segments_of_not_isRooted hcomponent h hparent hrooted with habove | hfront
      · exact ⟨habove, fun heq => hbelow (heq ▸ List.prefix_rfl)⟩
      · exact absurd hfront hbelow
  · intro text s hs
    rw [importStatements_eq disk text hcomponent] at hs
    obtain ⟨found, hfound, hs⟩ := List.mem_filterMap.mp hs
    obtain ⟨resolved, h, rfl⟩ := Option.map_eq_some_iff.mp hs
    have hcss := isStylesheetPath_of_mem_scanFrom hfound
    obtain ⟨-, directory, hparent, -, hfile⟩ := resolveImport_eq_some.mp h
    exact ⟨hfile, (isNormal_of_resolveImport hcomponent h).isPlain, directory, hparent,
      inside_of_not_isRooted hcomponent h hparent hcss, resolved_of_isRooted h⟩

namespace ImportStatement.Sample

/-- A component, the directory it is in, a stylesheet beside that directory and
one below it. -/
def directory : Path := ⟨[0x2F, 0x77, 0x2F, 0x73]⟩
def component : Path := ⟨[0x2F, 0x77, 0x2F, 0x73, 0x2F, 0x63]⟩
def beside : Path := ⟨[0x2F, 0x77, 0x2F, 0x61, 0x2E, 0x63, 0x73, 0x73]⟩
def below : Path :=
  ⟨[0x2F, 0x77, 0x2F, 0x73, 0x2F, 0x74, 0x2F, 0x61, 0x2E, 0x63, 0x73, 0x73]⟩

def disk : Disk := (Disk.empty.write beside (.text []) 1).write below (.text []) 1

end ImportStatement.Sample

open ImportStatement in
/-- Of a rooted import and one that leads below the directory, the second stays inside. -/
theorem imports_stay_unless_rooted_below :
    Sample.component.isAbsolute = true ∧
    resolveImport Sample.disk Sample.component "./t/./a.css".toList = some Sample.below ∧
    Sample.disk.LeadsToDirectory Sample.directory.normalize ∧
    Sample.below.Inside Sample.directory.normalize := by
  have hresolved : resolveImport Sample.disk Sample.component "./t/./a.css".toList =
      some Sample.below := rfl
  have hleads : Sample.disk.LeadsToDirectory Sample.directory.normalize := ⟨_, _, rfl⟩
  obtain ⟨-, -, directory, hparent, hstays, -⟩ :=
    (@imports_stay_unless_rooted Sample.disk Sample.component rfl).1 _ _ hresolved
  obtain rfl : Sample.directory = directory := Option.some.inj hparent
  refine ⟨rfl, hresolved, hleads, ?_⟩
  rcases hstays (by decide) with hinside | hnone
  · exact hinside
  · exact absurd hleads hnone

open ImportStatement in
/-- A rooted import of a component leads to a stylesheet beside the component's directory. -/
theorem rooted_import_leaves :
    importStatements Sample.disk "import './/w/a.css'".toList Sample.component =
      [⟨".//w/a.css".toList, Sample.beside, Sample.component, 1⟩] ∧
    resolveImport Sample.disk Sample.component ".//w/a.css".toList = some Sample.beside ∧
    Sample.component.parent? = some Sample.directory ∧
    ¬ Sample.beside.Inside Sample.directory.normalize :=
  ⟨rfl, rfl, rfl, by decide⟩

end ClassLens
