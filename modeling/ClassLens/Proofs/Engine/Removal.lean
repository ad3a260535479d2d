import ClassLens.Proofs.Engine.Interleaving
import ClassLens.Proofs.Index.Freshness
/-
  Removal — what is left once a stylesheet is gone

  Removing a stylesheet first drops its own list of dependents and then forgets
  the components that were on it, each of which leaves the lists of all it
  imports. The result is told here without that order: components that import
  the stylesheet are gone and no others, and every list of dependents is the
  old one without them.

  What is proved:
    1. `LinkedOn.dropComponent_get?`, `LinkedOn.dropAll_dependents` — the lists
       of dependents after one and after several components are forgotten;
    2. `Linked.removeSheet_components`, `Linked.removeSheet_dependents`,
       `removeSheet_cache` — the three tables after a removal;
    3. `Workload.removal_drops_what_depends` — the same for every engine that
       can be reached, and that a second removal does nothing.
-/

namespace ClassLens

namespace Index

/-! ## Lists of dependents without some components -/

/-- A list of dependents without the components that are gone; `none` when nothing is left. -/
def left? (gone : Path → Bool) (paths : List Path) : Option (List Path) :=
  match paths.filter (fun c => !gone c) with
  | [] => none
  | rest => some rest

theorem dropPath_eq_left? (c : Path) : dropPath c = left? (· == c) := rfl

theorem left?_eq (gone : Path → Bool) (paths : List Path) :
    left? gone paths =
      if paths.filter (fun c => !gone c) = [] then none
      else some (paths.filter fun c => !gone c) := by
  unfold left?
  split
  · rename_i hnil
    rw [if_pos hnil]
  · rename_i hne
    rw [if_neg hne]

theorem left?_bind_left? (first second : Path → Bool) (paths : List Path) :
    (left? first paths).bind (left? second) = left? (fun c => first c || second c) paths := by
  have hboth : (paths.filter fun c => !(first c || second c)) =
      (paths.filter fun c => !first c).filter fun c => !second c := by
    simp [List.filter_filter, Bool.and_comm]
  rw [left?_eq, left?_eq, hboth]
  split
  · rename_i hnil
    simp [hnil]
  · rw [Option.bind_some, left?_eq]

theorem left?_of_none_gone {gone : Path → Bool} {paths : List Path} (hne : paths ≠ [])
    (h : ∀ c ∈ paths, gone c = false) : left? gone paths = some paths := by
  have hkeep : paths.filter (fun c => !gone c) = paths :=
    List.filter_eq_self.mpr fun c hc => by simp [h c hc]
  rw [left?_eq, hkeep, if_neg hne]

theorem left?_of_all_gone {gone : Path → Bool} {paths : List Path}
    (h : ∀ c ∈ paths, gone c = true) : left? gone paths = none := by
  have hnil : paths.filter (fun c => !gone c) = [] :=
    List.filter_eq_nil_iff.mpr fun c hc => by simp [h c hc]
  rw [left?_eq, if_pos hnil]

theorem left?_congr {f g : Path → Bool} {paths : List Path} (h : ∀ c ∈ paths, f c = g c) :
    left? f paths = left? g paths := by
  have hsame : (paths.filter fun c => !f c) = paths.filter fun c => !g c :=
    List.filter_congr fun c hc => by rw [h c hc]
  rw [left?_eq, left?_eq, hsame]

/-! ## Forgetting components -/

theorem unlinkFrom_get? (component : Path) (sheets : List Path) (t : Table Path (List Path))
    (q : Path) :
    (unlinkFrom component sheets t).get? q =
      if sheets.any (· == q) then (t.get? q).bind (dropPath component) else t.get? q := by
  have htwice : ∀ paths, (dropPath component paths).bind (dropPath component) =
      dropPath component paths := fun paths => by
    rw [dropPath_eq_left?, left?_bind_left?]
    simp
  unfold unlinkFrom
  induction sheets generalizing t with
  | nil => rfl
  | cons sheet rest ih =>
    rw [List.foldl_cons, ih, Table.get?_update, List.any_cons]
    by_cases hq : (sheet == q) = true
    · simp [hq, Table.get?_congr t hq, Option.bind_assoc, htwice]
    · simp [hq]

/-- The lists of dependents once a component is forgotten: it leaves those it is on. -/
theorem LinkedOn.dropComponent_get? {P : Path → Prop} {idx : Index} (h : LinkedOn P idx)
    (component q : Path) :
    (idx.dropComponent component).dependents.get? q =
      (idx.dependents.get? q).bind (dropPath component) := by
  -- where the component does not import the stylesheet it is not on the list either
  have hother : ¬ Imports idx.components component q →
      (idx.dependents.get? q).bind (dropPath component) = idx.dependents.get? q := by
    intro hnot
    cases hpaths : idx.dependents.get? q with
    | none => rfl
    | some paths =>
      have hne : paths ≠ [] := fun hnil => h.occupied q (hnil ▸ hpaths)
      refine left?_of_none_gone hne fun c hc => Bool.eq_false_iff.mpr fun hcc => hnot ?_
      exact ((h.inverse q component).mp ⟨paths, hpaths, List.any_eq_true.mpr ⟨c, hc, hcc⟩⟩).1
  show (idx.unlink component).dependents.get? q = _
  unfold unlink
  cases hget : idx.components.get? component with
  | none =>
    refine (hother ?_).symm
    rintro ⟨k, hk, -⟩
    rw [hget] at hk
    cases hk
  | some k =>
    rw [unlinkFrom_get?]
    split
    · rfl
    · rename_i hnot
      refine (hother ?_).symm
      rintro ⟨k', hk', himports⟩
      rw [hget] at hk'
      cases hk'
      exact hnot himports

theorem LinkedOn.dropAll_dependents {P : Path → Prop} {idx : Index} (h : LinkedOn P idx)
    (gone : List Path) (q : Path) :
    (gone.foldl Index.dropComponent idx).dependents.get? q =
      (idx.dependents.get? q).bind (left? fun c => gone.any (· == c)) := by
  induction gone generalizing idx with
  | nil =>
    cases hpaths : idx.dependents.get? q with
    | none => simp [hpaths]
    | some paths =>
      have hne : paths ≠ [] := fun hnil => h.occupied q (hnil ▸ hpaths)
      exact hpaths.trans (left?_of_none_gone hne fun _ _ => rfl).symm
  | cons d rest ih =>
    rw [List.foldl_cons, ih (h.dropComponent d), h.dropComponent_get?, Option.bind_assoc]
    congr 1
    funext paths
    rw [dropPath_eq_left?, left?_bind_left?]
    refine left?_congr fun c _ => ?_
    rw [List.any_cons, BEq.comm]

theorem dropAll_components (idx : Index) (gone : List Path) :
    (gone.foldl dropComponent idx).components.entries =
      idx.components.entries.filter fun e => !gone.any (· == e.1) := by
  induction gone generalizing idx with
  | nil => exact (List.filter_eq_self.mpr fun _ _ => rfl).symm
  | cons d rest ih =>
    rw [List.foldl_cons, ih, dropComponent_components]
    show (idx.components.entries.filter fun e => !(e.1 == d)).filter _ = _
    rw [List.filter_filter]
    refine List.filter_congr fun e _ => ?_
    rw [List.any_cons, BEq.comm (a := d)]
    simp [Bool.and_comm]

/-! ## Removing a stylesheet -/

/-- Whether a component is indexed and imports a stylesheet. -/
def importsSheet (idx : Index) (sheet component : Path) : Bool :=
  (idx.components.get? component).any fun k => k.imports.any (· == sheet)

theorem importsSheet_iff (idx : Index) (sheet component : Path) :
    idx.importsSheet sheet component = true ↔ Imports idx.components component sheet := by
  unfold importsSheet Imports
  simp [Option.any_eq_true]

theorem Linked.any_dependentsOf_eq {idx : Index} (h : Linked idx) (sheet c : Path) :
    (idx.dependentsOf sheet).any (· == c) = idx.importsSheet sheet c := by
  rw [Bool.eq_iff_iff, any_dependentsOf, h.lists_iff, importsSheet_iff]

theorem Linked.removeSheet_components {idx : Index} (h : Linked idx) (sheet : Path) :
    (idx.removeSheet sheet).components.entries =
      idx.components.entries.filter fun e => !e.2.imports.any (· == sheet) := by
  refine (dropAll_components _ (idx.dependentsOf sheet)).trans (List.filter_congr fun e he => ?_)
  have hget : idx.components.get? e.1 = some e.2 :=
    Table.get?_of_mem h.components_distinct he BEq.rfl
  rw [h.any_dependentsOf_eq]
  unfold importsSheet
  rw [hget, Option.any_some]

theorem Linked.imports_removeSheet {idx : Index} (h : Linked idx) (sheet component q : Path) :
    Imports (idx.removeSheet sheet).components component q ↔
      Imports idx.components component q ∧ ¬ Imports idx.components component sheet := by
  have hdrop := imports_dropAll
    { idx.forget sheet with dependents := (idx.forget sheet).dependents.erase sheet }
    (idx.dependentsOf sheet) component q
  rw [any_dependentsOf, h.lists_iff] at hdrop
  exact hdrop

theorem Linked.left?_own {idx : Index} (h : Linked idx) (sheet : Path) :
    (idx.dependents.get? sheet).bind (left? (idx.importsSheet sheet)) = none := by
  cases hpaths : idx.dependents.get? sheet with
  | none => rfl
  | some paths =>
    refine left?_of_all_gone fun c hc => ?_
    rw [importsSheet_iff, ← h.lists_iff]
    exact ⟨paths, hpaths, List.any_eq_true.mpr ⟨c, hc, BEq.rfl⟩⟩

/-- The lists of dependents left are the old ones without what imports the stylesheet. -/
theorem Linked.removeSheet_dependents {idx : Index} (h : Linked idx) (sheet q : Path) :
    (idx.removeSheet sheet).dependents.get? q =
      (idx.dependents.get? q).bind (left? (idx.importsSheet sheet)) := by
  have hforget : Linked (idx.forget sheet) := h.of_eq rfl rfl
  have hdrop : (idx.removeSheet sheet).dependents.get? q = _ :=
    (hforget.eraseList sheet).dropAll_dependents (idx.dependentsOf sheet) q
  rw [hdrop]
  show ((idx.dependents.erase sheet).get? q).bind _ = _
  rw [Table.get?_erase]
  split
  · rename_i hq
    rw [← Table.get?_congr _ hq, h.left?_own, Option.bind_none]
  · congr 1
    funext paths
    exact left?_congr fun c _ => h.any_dependentsOf_eq sheet c

theorem removeSheet_cache (idx : Index) (sheet : Path) :
    (idx.removeSheet sheet).cache = idx.cache.erase sheet := dropAll_cache _ _

theorem removeSheet_of_unknown {idx : Index} {sheet : Path}
    (hdependents : idx.dependents.get? sheet = none) (hcache : idx.cache.get? sheet = none) :
    idx.removeSheet sheet = idx := by
  have hgone : idx.dependentsOf sheet = [] := by
    unfold dependentsOf
    rw [hdependents, Option.getD_none]
  unfold removeSheet forget
  simp only [hgone, List.foldl_nil, Table.erase_of_get?_eq_none hdependents,
    Table.erase_of_get?_eq_none hcache]

end Index

namespace Workload

open Index

/-- **A removal drops exactly what depends on the stylesheet.** Whatever
happened to an engine before, the components left are those that do not import
the stylesheet, as they were; the dependents are the inverse of the imports
left, each list the old one without the components dropped and none of them
empty; the cache has lost the stylesheet and nothing else. A second removal
changes nothing. -/
theorem removal_drops_what_depends (window : Nat) (script : List (Disk × Action)) (sheet : Path) :
    let idx := (run window script).index
    let after := idx.removeSheet sheet
    after.components.entries =
        (idx.components.entries.filter fun e => !e.2.imports.any (· == sheet)) ∧
      (∀ q component, Lists after.dependents q component ↔ Imports after.components component q) ∧
      (∀ q, after.dependents.get? q =
        (idx.dependents.get? q).bind (left? (idx.importsSheet sheet))) ∧
      after.dependents.get? sheet = none ∧
      (∀ e ∈ after.dependents.entries, e.2 ≠ []) ∧
      after.cache = idx.cache.erase sheet ∧
      after.removeSheet sheet = after := by
  intro idx after
  have hlinked : Linked idx := linked_run window script
  have hafter : Linked after := hlinked.removeSheet sheet
  have hself : after.dependents.get? sheet = none :=
    (hlinked.removeSheet_dependents sheet sheet).trans (hlinked.left?_own sheet)
  refine ⟨hlinked.removeSheet_components sheet, hafter.lists_iff,
    hlinked.removeSheet_dependents sheet, hself, ?_, removeSheet_cache idx sheet, ?_⟩
  · intro e he hnil
    have hget := Table.get?_of_mem hafter.dependents_distinct he BEq.rfl
    exact hafter.occupied e.1 (hget.trans (congrArg some hnil))
  · refine removeSheet_of_unknown hself ?_
    rw [removeSheet_cache, Table.get?_erase, if_pos BEq.rfl]

end Workload

end ClassLens
