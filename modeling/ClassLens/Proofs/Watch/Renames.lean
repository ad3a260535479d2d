import ClassLens.Proofs.Engine.Removal
import ClassLens.Proofs.Watch.Following
/-
  Renames — what the index forgets when a stylesheet is moved away

  A rename takes a file away from its old path, and the index should know
  nothing of it any longer. A report that tells the source from the target says
  so, and counts as a deletion. A report that does not say which end it is about
  counts as a modification; but what was modified has to be a file, and the old
  path leads to none. So such a report is passed over at the old path, and the
  index goes on with what it knew.

  What is proved:
    1. `Linked.not_knows_removeSheet` — a deleted stylesheet is not known;
    2. `knows_of_dispatch`, `knows_of_dispatchAll` — no change makes another
       one known;
    3. `dispatchAll_modified` — modifications leave the index alone;
    4. `renames_forgotten_unless_unsaid` — after which renames the old path is
       still known;
    5. `rename_unsaid_keeps_sheet` — a rename after which it is.
-/

namespace ClassLens

namespace Index

/-- The index goes by a stylesheet: a component imports it, or it is in the cache. -/
def Knows (idx : Index) (sheet : Path) : Prop :=
  (∃ component, Imports idx.components component sheet) ∨ (idx.cache.get? sheet).isSome

theorem Linked.not_knows_removeSheet {idx : Index} (h : Linked idx) (sheet : Path) :
    ¬ (idx.removeSheet sheet).Knows sheet := by
  rintro (⟨component, himports⟩ | hcached)
  · obtain ⟨hbefore, hnot⟩ := (h.imports_removeSheet sheet component sheet).mp himports
    exact hnot hbefore
  · rw [removeSheet_cache, Table.get?_erase, if_pos BEq.rfl] at hcached
    cases hcached

theorem Linked.knows_of_removeSheet {idx : Index} (h : Linked idx) {sheet q : Path}
    (hq : (idx.removeSheet sheet).Knows q) : idx.Knows q := by
  rcases hq with ⟨component, himports⟩ | hcached
  · exact .inl ⟨component, ((h.imports_removeSheet sheet component q).mp himports).1⟩
  · right
    rw [removeSheet_cache, Table.get?_erase] at hcached
    split at hcached
    · cases hcached
    · exact hcached

theorem knows_of_dropComponent {idx : Index} {component q : Path}
    (hq : (idx.dropComponent component).Knows q) : idx.Knows q := by
  rcases hq with ⟨d, himports⟩ | hcached
  · rw [dropComponent_components, imports_erase] at himports
    exact .inl ⟨d, himports.1⟩
  · have hcache : (idx.dropComponent component).cache = idx.cache := unlink_cache idx component
    rw [hcache] at hcached
    exact .inr hcached

end Index

namespace Watch

open Index

variable {watch : Watch} {disk : Disk} {e : Engine} {q : Path}

/-! ## Changes on their way into the index -/

/-- No change makes a stylesheet known: what is read is read a window later. -/
theorem knows_of_dispatch (h : Linked e.index) {change : FileChange}
    (hq : (watch.dispatch disk e change).index.Knows q) : e.index.Knows q := by
  unfold dispatch at hq
  split at hq
  · exact hq
  · exact Linked.knows_of_removeSheet h hq
  · exact hq
  · exact knows_of_dropComponent hq
  · exact hq

theorem knows_of_dispatchAll (h : Linked e.index) {changes : List FileChange}
    (hq : (watch.dispatchAll disk e changes).index.Knows q) : e.index.Knows q := by
  induction changes generalizing e with
  | nil => exact hq
  | cons change rest ih =>
    apply knows_of_dispatch h
    exact ih (h.dispatch watch disk change) hq

theorem not_knows_dispatchAll (h : Linked e.index) {changes : List FileChange} {p : Path}
    (hp : ⟨p, .deleted⟩ ∈ changes) (hsheet : watch.filter.kindOfPath p = some .stylesheet) :
    ¬ (watch.dispatchAll disk e changes).index.Knows p := by
  induction changes generalizing e with
  | nil => cases hp
  | cons change rest ih =>
    have hlinked := h.dispatch watch disk change
    rcases List.mem_cons.mp hp with rfl | hp
    · intro hknows
      have hafter := knows_of_dispatchAll hlinked hknows
      rw [Workload.dispatch_deleted hsheet] at hafter
      exact Linked.not_knows_removeSheet h p hafter
    · exact ih hlinked hp

theorem dispatch_modified (watch : Watch) (disk : Disk) (e : Engine) (p : Path) :
    (watch.dispatch disk e ⟨p, .modified⟩).index = e.index := by
  unfold dispatch
  split
  · rfl
  · rename_i hdeleted
    cases hdeleted
  · rfl
  · rename_i hdeleted
    cases hdeleted
  · rfl

theorem dispatchAll_modified (watch : Watch) (disk : Disk) (e : Engine) (paths : List Path) :
    (watch.dispatchAll disk e (paths.map fun p => ⟨p, .modified⟩)).index = e.index := by
  induction paths generalizing e with
  | nil => rfl
  | cons p rest ih => exact (ih _).trans (dispatch_modified watch disk e p)

theorem dispatch_missing {p : Path} (h : disk.exists? p = false) :
    watch.dispatch disk e ⟨p, .modified⟩ = e := by
  have hfile : disk.isFile p = false := by
    unfold Disk.exists? at h
    unfold Disk.isFile
    split at h
    · cases h
    · rename_i hfind
      rw [hfind]
  have hclass : watch.filter.classify disk ⟨p, .modified⟩ = none := by
    unfold Filter.classify
    simp [hfile]
  unfold dispatch
  rw [hclass]

theorem dispatchAll_missing {paths : List Path} (h : ∀ p ∈ paths, disk.exists? p = false) :
    watch.dispatchAll disk e (paths.map fun p => ⟨p, .modified⟩) = e := by
  induction paths with
  | nil => rfl
  | cons p rest ih =>
    rw [List.forall_mem_cons] at h
    unfold dispatchAll
    rw [List.map_cons, List.foldl_cons, dispatch_missing h.1]
    exact ih h.2

end Watch

/-! ## Renames -/

/-- The paths that a rename took a file away from: the first one when both ends
are reported, and otherwise those that no longer exist. -/
def NativeEvent.vanished (disk : Disk) (event : NativeEvent) : List Path :=
  match event.kind, event.paths with
  | .rename .both, source :: _ :: _ => [source]
  | .rename .both, _ => []
  | _, paths => paths.filter fun p => !disk.exists? p

/-- Where the source of a rename is told from the target, what vanished counts as deleted. -/
theorem NativeEvent.deleted_of_vanished {disk : Disk} {event : NativeEvent} {p : Path}
    (hkind : event.kind = .rename .source ∨ event.kind = .rename .both)
    (hp : p ∈ event.vanished disk) : ⟨p, .deleted⟩ ∈ event.changes := by
  obtain ⟨kind, paths⟩ := event
  rcases hkind with rfl | rfl
  · exact List.mem_map_of_mem (List.mem_filter.mp hp).1
  · rcases paths with _ | ⟨source, _ | ⟨target, rest⟩⟩
    · cases hp
    · cases hp
    · obtain rfl : p = source := List.mem_singleton.mp hp
      exact List.mem_cons_self

open Watch in
/-- **A rename is forgotten at its source unless the report leaves out which end
it is about.** Take any engine that can be reached, any disk and a report of a
rename that is not about the target alone, and let the changes it amounts to be
passed on. A stylesheet that the file was renamed from is then known, to some
component or to the cache, only if the report did not say which end it is about
and the stylesheet was known before. Such a report leaves the whole index as it
is, and where all its paths have vanished it leaves no trace at all. -/
theorem renames_forgotten_unless_unsaid (watch : Watch) (disk : Disk) (window : Nat)
    (script : List (Disk × Workload.Action)) (event : NativeEvent) {which : RenameEnd}
    (hkind : event.kind = .rename which) (hwhich : which ≠ .target) :
    let before := (Workload.run window script).engine
    let after := watch.dispatchAll disk before event.changes
    (∀ p ∈ event.vanished disk, watch.filter.kindOfPath p = some .stylesheet →
      (after.index.Knows p ↔ which = .unknown ∧ before.index.Knows p)) ∧
    (which = .unknown → after.index = before.index ∧
      ((∀ p ∈ event.paths, p ∈ event.vanished disk) → after = before)) := by
  intro before after
  have hlinked : Index.Linked before.index := Workload.linked_run window script
  obtain ⟨kind, paths⟩ := event
  obtain rfl : kind = .rename which := hkind
  by_cases hunknown : which = .unknown
  · subst hunknown
    have hindex : after.index = before.index := dispatchAll_modified watch disk before paths
    refine ⟨fun p _ _ => by simp [hindex], fun _ => ⟨hindex, fun hall => ?_⟩⟩
    apply dispatchAll_missing
    intro p hp
    have hgone := (List.mem_filter.mp (hall p hp)).2
    simpa using hgone
  · have htold : NativeKind.rename which = .rename .source ∨
        NativeKind.rename which = .rename .both := by
      cases which with
      | source => exact .inl rfl
      | target => exact absurd rfl hwhich
      | both => exact .inr rfl
      | unknown => exact absurd rfl hunknown
    refine ⟨fun p hp hsheet => ?_, fun heq => absurd heq hunknown⟩
    have hforgotten : ¬ after.index.Knows p :=
      not_knows_dispatchAll hlinked (NativeEvent.deleted_of_vanished htold hp) hsheet
    exact ⟨fun hknows => absurd hknows hforgotten, fun hboth => absurd hboth.1 hunknown⟩

namespace Watch.Sample

/-- A stylesheet that a component imports, and a path to move it to. -/
def sheet : Path := ⟨[0x2F, 0x61, 0x2E, 0x63, 0x73, 0x73]⟩
def target : Path := ⟨[0x2F, 0x62, 0x2E, 0x63, 0x73, 0x73]⟩
def component : Path := ⟨[0x2F, 0x63]⟩

def watch : Watch := ⟨⟨["css".toList], [], []⟩, false, none⟩

/-- The disk before and after the move. -/
def old : Disk := Disk.empty.write sheet (.text ".x{}".toList) 1
def new : Disk := (old.remove sheet).write target (.text ".x{}".toList) 1

/-- The component is indexed before the move. -/
def script : List (Disk × Workload.Action) := [(old, .index component [sheet])]

theorem knows_sheet : (Workload.run 0 script).engine.index.Knows sheet :=
  .inr (by decide +kernel)

end Watch.Sample

open Watch.Sample in
/-- A move that is reported with both ends is forgotten. -/
theorem renames_forgotten_unless_unsaid_both :
    let event : NativeEvent := ⟨.rename .both, [sheet, target]⟩
    watch.filter.kindOfPath sheet = some .stylesheet ∧ sheet ∈ event.vanished new ∧
    (Workload.run 0 script).engine.index.Knows sheet ∧
    ¬ (watch.dispatchAll new (Workload.run 0 script).engine event.changes).index.Knows sheet := by
  intro event
  have hsheet : watch.filter.kindOfPath sheet = some .stylesheet := by decide
  have hvanished : sheet ∈ event.vanished new := List.mem_singleton.mpr rfl
  have hkind : event.kind = .rename .both := rfl
  obtain ⟨hiff, -⟩ := renames_forgotten_unless_unsaid watch new 0 script event hkind (by simp)
  refine ⟨hsheet, hvanished, knows_sheet, ?_⟩
  intro hknows
  obtain ⟨hunknown, -⟩ := (hiff sheet hvanished hsheet).mp hknows
  cases hunknown

open Watch.Sample in
/-- A move whose report does not say which end it is about leaves the old path
known, though nothing exists there any longer: the component still imports it,
and its sheet is still in the cache. -/
theorem rename_unsaid_keeps_sheet :
    let event : NativeEvent := ⟨.rename .unknown, [sheet]⟩
    let after := watch.dispatchAll new (Workload.run 0 script).engine event.changes
    watch.filter.kindOfPath sheet = some .stylesheet ∧ event.vanished new = [sheet] ∧
    Index.Imports after.index.components component sheet ∧
    (after.index.cache.get? sheet).isSome = true := by
  refine ⟨by decide, ?_, ⟨_, rfl, rfl⟩, by decide +kernel⟩
  have hgone : new.exists? sheet = false := by decide +kernel
  simp [NativeEvent.vanished, hgone]

end ClassLens
