import ClassLens.Proofs.Stylesheet.SourceOrder
import ClassLens.Proofs.Table
import ClassLens.Stylesheet.Sheet
/-
  Classes — the definitions of a stylesheet, sorted by name

  A sheet lists under every class name the definitions with this name, in the
  order of the stylesheet, and nothing else. Beside the list it keeps the first
  of them.

  What is proved:
    1. `all_foldl_add`, `first_foldl_add`, `keys_foldl_add` — what adding
       definitions one by one lists under a name, and what it keeps;
    2. `Sheet.occurrencesOf_build` — the definitions of a class in a sheet;
    3. `firstOfEach_extract`, `Sheet.firstOfEach_build` — the two tables of a
       stylesheet, and of its sheet, go together.
-/

namespace ClassLens

namespace Stylesheet

theorem all_foldl_add (ds : List Definition) (cs : Classes) (name : Text) :
    ((ds.foldl Classes.add cs).all.get? name).getD [] =
      (cs.all.get? name).getD [] ++ ds.filter (·.name = name) := by
  induction ds generalizing cs with
  | nil => simp
  | cons d rest ih =>
    have hadd : ((cs.add d).all.get? name).getD [] =
        (cs.all.get? name).getD [] ++ [d].filter (·.name = name) := by
      show ((cs.all.insert d.name _).get? name).getD [] = _
      rw [Table.get?_insert]
      by_cases hname : d.name = name
      · simp [hname]
      · simp [hname]
    rw [List.foldl_cons, ih, hadd, List.append_assoc, ← List.filter_append, List.singleton_append]

theorem first_foldl_add (ds : List Definition) (cs : Classes) (name : Text) :
    (ds.foldl Classes.add cs).first.get? name =
      (cs.first.get? name).or (ds.filter (·.name = name)).head? := by
  induction ds generalizing cs with
  | nil => simp
  | cons d rest ih =>
    have hadd : (cs.add d).first.get? name =
        (cs.first.get? name).or ([d].filter (·.name = name)).head? := by
      show (cs.first.insertNew d.name d).get? name = _
      rw [Table.get?_insertNew]
      unfold Table.contains
      by_cases hname : d.name = name
      · rw [hname]
        cases cs.first.get? name <;> simp [hname]
      · simp [hname]
    rw [List.foldl_cons, ih, hadd, Option.or_assoc, ← List.head?_append, ← List.filter_append,
      List.singleton_append]

theorem keys_foldl_add (ds : List Definition) {cs : Classes} (h : cs.first.keys = cs.all.keys) :
    (ds.foldl Classes.add cs).first.keys = (ds.foldl Classes.add cs).all.keys := by
  induction ds generalizing cs with
  | nil => exact h
  | cons d rest ih =>
    refine ih ?_
    show (cs.first.insertNew d.name d).keys = (cs.all.insert d.name _).keys
    rw [Table.keys_insertNew, Table.keys_insert, h]

theorem distinct_foldl_add (ds : List Definition) {cs : Classes} (hfirst : cs.first.Distinct)
    (hall : cs.all.Distinct) :
    (ds.foldl Classes.add cs).first.Distinct ∧ (ds.foldl Classes.add cs).all.Distinct := by
  induction ds generalizing cs with
  | nil => exact ⟨hfirst, hall⟩
  | cons d rest ih =>
    exact ih (Table.distinct_insertNew hfirst d.name d) (Table.distinct_insert hall d.name _)

/-! ## The two tables of a stylesheet -/

/-- A table of definitions holds the first of each list of a table of lists,
and the lists hold definitions of their class in source order. -/
structure FirstOfEach (first : Table Text Definition) (all : Table Text (List Definition)) :
    Prop where
  same_keys : ∀ name, name ∈ first.keys ↔ name ∈ all.keys
  occupied : ∀ name ds, all.get? name = some ds → ds ≠ []
  increasing : ∀ name ds, all.get? name = some ds →
    ds.Pairwise fun d d' => d.offset < d'.offset
  named : ∀ name ds, all.get? name = some ds → ∀ d ∈ ds, d.name = name
  first_eq : ∀ name ds, all.get? name = some ds → first.get? name = ds.head?

theorem get?_all_extract {css name : Text} {ds : List Definition}
    (h : (extract css).all.get? name = some ds) :
    ds = (definitions css).filter (·.name = name) := by
  have hall := all_foldl_add (definitions css) .empty name
  have hget : ((definitions css).foldl Classes.add .empty).all.get? name = some ds := h
  rw [hget] at hall
  exact hall

theorem get?_first_extract (css name : Text) :
    (extract css).first.get? name = ((definitions css).filter (·.name = name)).head? :=
  first_foldl_add (definitions css) .empty name

theorem keys_extract (css : Text) : (extract css).first.keys = (extract css).all.keys :=
  keys_foldl_add (definitions css) rfl

theorem firstOfEach_extract (css : Text) : FirstOfEach (extract css).first (extract css).all where
  same_keys := fun name => by rw [keys_extract]
  occupied := by
    intro name ds hget hnil
    -- a key without a definition would have nothing kept under it either
    have hkey : name ∈ (extract css).all.keys :=
      Table.mem_keys_iff.mpr (Option.isSome_iff_exists.mpr ⟨ds, hget⟩)
    rw [← keys_extract, Table.mem_keys_iff] at hkey
    unfold Table.contains at hkey
    rw [get?_first_extract, ← get?_all_extract hget, hnil] at hkey
    cases hkey
  increasing := by
    intro name ds hget
    rw [get?_all_extract hget]
    exact (definitions_increasing css).filter _
  named := by
    intro name ds hget d hd
    rw [get?_all_extract hget] at hd
    exact of_decide_eq_true (List.mem_filter.mp hd).2
  first_eq := by
    intro name ds hget
    rw [get?_first_extract, ← get?_all_extract hget]

theorem FirstOfEach.inFile {first : Table Text Definition} {all : Table Text (List Definition)}
    (h : FirstOfEach first all) (path : Path) :
    FirstOfEach ⟨first.entries.map fun e => (e.1, e.2.inFile path)⟩
      ⟨all.entries.map fun e => (e.1, e.2.map (·.inFile path))⟩ := by
  have hall : ∀ name ds,
      (⟨all.entries.map fun e => (e.1, e.2.map (·.inFile path))⟩ : Table Text _).get? name =
        some ds → ∃ ds', all.get? name = some ds' ∧ ds = ds'.map (·.inFile path) := by
    intro name ds hget
    rw [Table.get?_map] at hget
    obtain ⟨ds', hds', heq⟩ := Option.map_eq_some_iff.mp hget
    exact ⟨ds', hds', heq.symm⟩
  constructor
  case same_keys =>
    intro name
    have hkeys := h.same_keys name
    unfold Table.keys at hkeys ⊢
    simpa [Function.comp_def] using hkeys
  case occupied =>
    intro name ds hget
    obtain ⟨ds', hds', rfl⟩ := hall name ds hget
    simpa using h.occupied name ds' hds'
  case increasing =>
    intro name ds hget
    obtain ⟨ds', hds', rfl⟩ := hall name ds hget
    exact List.pairwise_map.mpr (h.increasing name ds' hds')
  case named =>
    intro name ds hget d hd
    obtain ⟨ds', hds', rfl⟩ := hall name ds hget
    obtain ⟨d', hd', rfl⟩ := List.mem_map.mp hd
    exact h.named name ds' hds' d' hd'
  case first_eq =>
    intro name ds hget
    obtain ⟨ds', hds', rfl⟩ := hall name ds hget
    rw [Table.get?_map first (·.inFile path), h.first_eq name ds' hds', List.head?_map]

end Stylesheet

namespace Sheet

/-- A sheet lists the definitions of a class in source order. -/
theorem occurrencesOf_build (content : Text) (path : Path) (modified : Stamp) (name : Text) :
    (build content path modified).occurrencesOf name =
      ((Stylesheet.definitions content).filter (·.name = name)).map (·.inFile path) := by
  have hread : (build content path modified).occurrences.get? name =
      ((Stylesheet.extract content).all.get? name).map (List.map (·.inFile path)) :=
    Table.get?_map _ _ name
  have hmap : ∀ found : Option (List Definition),
      (found.map (List.map (·.inFile path))).getD [] = (found.getD []).map (·.inFile path) :=
    fun found => by cases found <;> rfl
  unfold occurrencesOf
  rw [hread, hmap]
  exact congrArg _ (Stylesheet.all_foldl_add (Stylesheet.definitions content) .empty name)

/-- A sheet is what its own text makes. -/
def IsBuilt (s : Sheet) : Prop := s = build s.content s.path s.modified

/-- The two tables of a sheet go together. -/
theorem firstOfEach_build (content : Text) (path : Path) (modified : Stamp) :
    Stylesheet.FirstOfEach (build content path modified).classes
      (build content path modified).occurrences :=
  (Stylesheet.firstOfEach_extract content).inFile path

theorem distinct_build (content : Text) (path : Path) (modified : Stamp) :
    (build content path modified).classes.Distinct ∧
      (build content path modified).occurrences.Distinct := by
  obtain ⟨hfirst, hall⟩ := @Stylesheet.distinct_foldl_add (Stylesheet.definitions content) .empty
    Table.distinct_empty Table.distinct_empty
  exact ⟨List.pairwise_map.mpr hfirst, List.pairwise_map.mpr hall⟩

end Sheet

end ClassLens
