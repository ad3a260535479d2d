import ClassLens.Engine.Index
import ClassLens.Proofs.Import.Confinement
import ClassLens.Proofs.Path.Beginnings
/-
  Keys — one key for each place that imports lead to

  A path spells out a location when its segments are followed from the root one
  by one: a name goes down, a parent step goes up, and the root has nothing
  above it. Normalising an absolute path keeps the location and forgets all
  else. So the normal path can take the place of the path wherever more steps
  follow, and imports that spell out one location share the entries of the
  index, however they are written and wherever they stand.

  What is proved:
    1. `foldl_fold_eq` — folding segments onto a stack is following them;
    2. `normalize_eq` — the normal path is the plainest one to the location;
    3. `location_join` — the steps of a relative path are followed from where
       the path in front leads;
    4. `normalize_beq_iff` — normal paths are equal when they spell out one location;
    5. `one_key_for_each_place` — the normal form, its composition, and the
       entries that imports share.
-/

namespace ClassLens

namespace Path

/-- The names of a location as a stack above the root, innermost first. -/
def stackOf (place : Location) : List Segment := place.reverse.map .name ++ [.root]

theorem stackOf_snoc (place : Location) (n : Bytes) :
    stackOf (place ++ [n]) = .name n :: stackOf place := by
  unfold stackOf
  simp

theorem popName_stackOf (place : Location) :
    popName (stackOf place) = stackOf place.dropLast := by
  rcases List.eq_nil_or_concat place with rfl | ⟨front, n, rfl⟩
  · rfl
  · rw [List.concat_eq_append, stackOf_snoc, List.dropLast_concat]
    rfl

/-- Folding segments onto the stack of a location is following them from there. -/
theorem foldl_fold_eq {segs : List Segment} (hroot : .root ∉ segs) (place : Location) :
    segs.foldl fold (stackOf place) = stackOf (segs.foldl Disk.follow place) := by
  induction segs generalizing place with
  | nil => rfl
  | cons s rest ih =>
    rw [List.mem_cons, not_or] at hroot
    rw [List.foldl_cons, List.foldl_cons, ← ih hroot.2]
    congr 1
    cases s with
    | root => exact absurd rfl hroot.1
    | here => rfl
    | up => exact popName_stackOf place
    | name n => exact (stackOf_snoc place n).symm

theorem root_not_mem_steps (p : Path) : .root ∉ p.steps := by
  intro hmem
  rcases isStep_of_mem_steps hmem with hup | ⟨n, -, hname⟩
  · cases hup
  · cases hname

theorem normalSegments_eq {p : Path} (h : p.isAbsolute = true) :
    normalSegments p.segments = .root :: (Disk.location p).map .name := by
  unfold normalSegments
  rw [segments_of_isAbsolute h, List.foldl_cons, location_eq_steps]
  show (p.steps.foldl fold (stackOf [])).reverse = _
  rw [foldl_fold_eq (root_not_mem_steps p)]
  unfold stackOf
  simp

theorem normalize_eq {p : Path} (h : p.isAbsolute = true) :
    p.normalize = ofSegments (.root :: (Disk.location p).map .name) := by
  unfold normalize
  rw [normalSegments_eq h]

theorem location_normalize {p : Path} (h : p.isAbsolute = true) :
    Disk.location p.normalize = Disk.location p := by
  rw [normalize_eq h]
  exact Disk.location_ofSegments (Disk.isNamed_location p)

/-- The steps of a relative path are followed from where the path in front leads. -/
theorem location_join (p : Path) {q : Path} (hq : q.isAbsolute = false) :
    Disk.location (p.join q.spelling) = q.steps.foldl Disk.follow (Disk.location p) := by
  rw [location_eq_steps, location_eq_steps, steps_join p hq, List.foldl_append]

theorem normalize_join_normalize {p q : Path} (hp : p.isAbsolute = true)
    (hq : q.isAbsolute = false) :
    (p.join q.spelling).normalize = (p.normalize.join q.spelling).normalize := by
  have hnormal := (isNormal_normalize hp).1
  have hplace : Disk.location (p.join q.spelling) =
      Disk.location (p.normalize.join q.spelling) := by
    calc Disk.location (p.join q.spelling)
        = q.steps.foldl Disk.follow (Disk.location p) := location_join p hq
      _ = q.steps.foldl Disk.follow (Disk.location p.normalize) := by rw [location_normalize hp]
      _ = Disk.location (p.normalize.join q.spelling) := (location_join p.normalize hq).symm
  rw [normalize_eq (isAbsolute_join hp q.spelling),
    normalize_eq (isAbsolute_join hnormal q.spelling), hplace]

/-- Normal paths are equal exactly when they spell out one location. -/
theorem normalize_beq_iff {p q : Path} (hp : p.isAbsolute = true) (hq : q.isAbsolute = true) :
    (p.normalize == q.normalize) = true ↔ Disk.location p = Disk.location q := by
  constructor
  · intro h
    have hsame := (isNormal_normalize hp).eq_of_beq (isNormal_normalize hq) h
    rw [← location_normalize hp, ← location_normalize hq, hsame]
  · intro h
    rw [normalize_eq hp, normalize_eq hq, h]
    exact BEq.rfl

end Path

theorem target?_of_resolveImport {disk : Disk} {component resolved : Path} {written : Text}
    (hcomponent : component.isAbsolute = true)
    (h : resolveImport disk component written = some resolved) :
    ∃ target, ImportStatement.target? component written = some target ∧
      target.isAbsolute = true ∧ resolved = target.normalize := by
  obtain ⟨-, directory, hparent, hresolved, -⟩ := resolveImport_eq_some.mp h
  refine ⟨directory.joinText (written.drop 2), ?_, ?_, hresolved⟩
  · unfold ImportStatement.target?
    rw [hparent]
    rfl
  · exact Path.isAbsolute_join (Path.isAbsolute_parent hcomponent hparent) _

/-- **One key for each place.** Normalising an absolute path gives an absolute
path without dots and parent steps, which normalising leaves as it is; and a
relative path seen from the normal path comes to the same as seen from the path
itself. Two absolute paths have equal normal paths exactly when they spell out
one location. So two imports that lead to stylesheets, of any two components,
have equal keys exactly when the paths they are resolved from spell out one
location, and then they share what an index has in its cache and among its
dependents. -/
theorem one_key_for_each_place :
    (∀ a : Path, a.isAbsolute = true →
      a.normalize.isAbsolute = true ∧ a.normalize.IsPlain ∧ a.normalize.normalize = a.normalize ∧
      (∀ b : Path, b.isAbsolute = false →
        (a.join b.spelling).normalize = (a.normalize.join b.spelling).normalize) ∧
      (∀ a' : Path, a'.isAbsolute = true →
        ((a.normalize == a'.normalize) = true ↔ Disk.location a = Disk.location a'))) ∧
    (∀ (disk disk' : Disk) (component component' resolved resolved' : Path)
        (written written' : Text),
      component.isAbsolute = true → component'.isAbsolute = true →
      resolveImport disk component written = some resolved →
      resolveImport disk' component' written' = some resolved' →
      ∃ target target', ImportStatement.target? component written = some target ∧
        ImportStatement.target? component' written' = some target' ∧
        ((resolved == resolved') = true ↔ Disk.location target = Disk.location target') ∧
        (Disk.location target = Disk.location target' → ∀ idx : Index,
          idx.cache.get? resolved = idx.cache.get? resolved' ∧
          idx.dependents.get? resolved = idx.dependents.get? resolved')) := by
  constructor
  · intro a ha
    have hnormal := Path.isNormal_normalize ha
    exact ⟨hnormal.1, hnormal.isPlain, hnormal.2, fun b => Path.normalize_join_normalize ha,
      fun a' => Path.normalize_beq_iff ha⟩
  · intro disk disk' component component' resolved resolved' written written' hc hc' h h'
    obtain ⟨target, htarget, habsolute, rfl⟩ := target?_of_resolveImport hc h
    obtain ⟨target', htarget', habsolute', rfl⟩ := target?_of_resolveImport hc' h'
    have hkeys := Path.normalize_beq_iff habsolute habsolute'
    refine ⟨target, target', htarget, htarget', hkeys, ?_⟩
    intro hplace idx
    have hequal := hkeys.mpr hplace
    exact ⟨Table.get?_congr _ hequal, Table.get?_congr _ hequal⟩

namespace ImportStatement.Sample

/-- The component of the sample, reached through a directory below it and back,
with a slash too many. -/
def roundabout : Path :=
  ⟨[0x2F, 0x77, 0x2F, 0x2F, 0x73, 0x2F, 0x74, 0x2F, 0x2E, 0x2E, 0x2F, 0x63]⟩

end ImportStatement.Sample

open ImportStatement in
/-- Two components whose paths are spelled in different ways import one
stylesheet under one key; and steps that go up beyond the root from a path are
the same steps seen from its normal form. -/
theorem one_key_for_each_place_roundabout :
    resolveImport Sample.disk Sample.component "./t/./a.css".toList = some Sample.below ∧
    resolveImport Sample.disk Sample.roundabout "./t//a.css".toList = some Sample.below ∧
    (∃ target target', target? Sample.component "./t/./a.css".toList = some target ∧
      target? Sample.roundabout "./t//a.css".toList = some target' ∧ target ≠ target' ∧
      Disk.location target = Disk.location target') ∧
    (Sample.roundabout.join (Path.ofText "../../.././x".toList).spelling).normalize =
      (Sample.roundabout.normalize.join
        (Path.ofText "../../.././x".toList).spelling).normalize := by
  have hplain : resolveImport Sample.disk Sample.component "./t/./a.css".toList =
      some Sample.below := rfl
  have hround : resolveImport Sample.disk Sample.roundabout "./t//a.css".toList =
      some Sample.below := rfl
  obtain ⟨hpaths, himports⟩ := one_key_for_each_place
  obtain ⟨-, -, -, hjoin, -⟩ := hpaths Sample.roundabout rfl
  obtain ⟨target, target', htarget, htarget', hkeys, -⟩ :=
    himports _ _ _ _ _ _ _ _ rfl rfl hplain hround
  refine ⟨hplain, hround, ⟨target, target', htarget, htarget', ?_, hkeys.mp BEq.rfl⟩,
    hjoin (Path.ofText "../../.././x".toList) rfl⟩
  rintro rfl
  have hspellings : (target? Sample.component "./t/./a.css".toList).map Path.spelling ≠
      (target? Sample.roundabout "./t//a.css".toList).map Path.spelling := by decide
  exact hspellings (by rw [htarget, htarget'])

end ClassLens
