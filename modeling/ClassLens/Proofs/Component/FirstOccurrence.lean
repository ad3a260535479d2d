import ClassLens.Proofs.Stylesheet.Classes
import ClassLens.Proofs.Text.Order
import ClassLens.Component.Basic
import Mathlib
/-
  First occurrences — from the text of a stylesheet to its components

  The winning definition of a class is the first of all its definitions, in a
  stylesheet and in a component. The entries of a table can be visited in any
  order, so nothing here may depend on it: everything is said of sheets and
  components whose tables are shuffled.

  What is proved:
    1. `Sheet.Shuffled.firstOfEach` — the two tables of a sheet go together in
       whatever order their entries stand;
    2. `definition?_build`, `definition?_eq_head?` — the winning definition of
       a component;
    3. `classNames_increasing`, `mem_classNames` — the names of a component;
    4. `first_occurrence_wins` — the whole law, from text to component.
-/

namespace ClassLens

namespace Table

variable {κ α : Type}

/-- The same entries, in any order. -/
def Shuffled (t u : Table κ α) : Prop := t.entries.Perm u.entries

theorem Shuffled.mem_keys {t u : Table κ α} (h : t.Shuffled u) (k : κ) :
    k ∈ t.keys ↔ k ∈ u.keys := (List.Perm.map _ h).mem_iff

end Table

namespace Stylesheet

theorem FirstOfEach.shuffled {first first' : Table Text Definition}
    {all all' : Table Text (List Definition)} (h : FirstOfEach first' all')
    (hfirst : first.Shuffled first') (hall : all.Shuffled all') (hfirst' : first'.Distinct)
    (hall' : all'.Distinct) : FirstOfEach first all := by
  have hget : ∀ name, all.get? name = all'.get? name := Table.get?_perm hall' hall
  constructor
  case same_keys =>
    intro name
    rw [hfirst.mem_keys, hall.mem_keys]
    exact h.same_keys name
  case occupied => exact fun name ds hds => h.occupied name ds (hget name ▸ hds)
  case increasing => exact fun name ds hds => h.increasing name ds (hget name ▸ hds)
  case named => exact fun name ds hds => h.named name ds (hget name ▸ hds)
  case first_eq =>
    intro name ds hds
    rw [Table.get?_perm hfirst' hfirst]
    exact h.first_eq name ds (hget name ▸ hds)

theorem FirstOfEach.get?_eq {first : Table Text Definition} {all : Table Text (List Definition)}
    (h : FirstOfEach first all) (name : Text) :
    first.get? name = ((all.get? name).getD []).head? := by
  cases hall : all.get? name with
  | some ds => exact h.first_eq name ds hall
  | none =>
    have hkey : name ∉ first.keys := by
      rw [h.same_keys, Table.mem_keys_iff, Table.contains, hall]
      simp
    rw [Table.mem_keys_iff, Table.contains, Option.not_isSome_iff_eq_none] at hkey
    exact hkey

end Stylesheet

namespace Sheet

/-- The same sheet with the entries of its tables in any order. -/
structure Shuffled (s t : Sheet) : Prop where
  path : s.path = t.path
  modified : s.modified = t.modified
  content : s.content = t.content
  classes : s.classes.Shuffled t.classes
  occurrences : s.occurrences.Shuffled t.occurrences

variable {s t : Sheet}

theorem Shuffled.firstOfEach (h : s.Shuffled t) (ht : t.IsBuilt) :
    Stylesheet.FirstOfEach s.classes s.occurrences := by
  obtain ⟨hclasses, hoccurrences⟩ := distinct_build t.content t.path t.modified
  have hlaw := firstOfEach_build t.content t.path t.modified
  rw [← ht] at hclasses hoccurrences hlaw
  exact hlaw.shuffled h.classes h.occurrences hclasses hoccurrences

theorem Shuffled.occurrencesOf_eq (h : s.Shuffled t) (ht : t.IsBuilt) (name : Text) :
    s.occurrencesOf name = t.occurrencesOf name := by
  have hdistinct := (distinct_build t.content t.path t.modified).2
  rw [← ht] at hdistinct
  unfold Sheet.occurrencesOf
  rw [Table.get?_perm hdistinct h.occurrences]

theorem isValid_of_mem_occurrencesOf (ht : t.IsBuilt) {name : Text} {d : Definition}
    (h : d ∈ t.occurrencesOf name) : ClassName.isValid name = true := by
  rw [ht, occurrencesOf_build] at h
  obtain ⟨d', hd', rfl⟩ := List.mem_map.mp h
  obtain ⟨hmem, hname⟩ := List.mem_filter.mp hd'
  obtain ⟨head, -, hrule⟩ := List.mem_flatMap.mp hmem
  obtain ⟨relative, hclass, -⟩ := Stylesheet.mem_ruleDefinitions hrule
  rw [← of_decide_eq_true hname]
  exact (Stylesheet.classAt_of_mem_selectorClasses hclass).1

end Sheet

namespace Component

/-- The same component with the entries of its table in any order. -/
structure Shuffled (c d : Component) : Prop where
  path : c.path = d.path
  imports : c.imports = d.imports
  sheets : c.sheets = d.sheets
  classes : c.classes.Shuffled d.classes

/-! ## The winning definition -/

theorem get?_foldl_addSheet (sheets : List Sheet) (t : Table Text Definition) (name : Text) :
    (sheets.foldl addSheet t).get? name =
      (t.get? name).or (sheets.findSome? (·.classes.get? name)) := by
  induction sheets generalizing t with
  | nil => simp
  | cons s rest ih =>
    have hadd : (addSheet t s).get? name = (t.get? name).or (s.classes.get? name) :=
      Table.get?_foldl_insertNew s.classes.entries t name
    rw [List.foldl_cons, ih, hadd, List.findSome?_cons, Option.or_assoc]
    cases s.classes.get? name <;> rfl

theorem distinct_foldl_addSheet (sheets : List Sheet) {t : Table Text Definition}
    (h : t.Distinct) : (sheets.foldl addSheet t).Distinct := by
  induction sheets generalizing t with
  | nil => exact h
  | cons s rest ih => exact ih (Table.distinct_foldl_insertNew s.classes.entries h)

theorem definition?_build (path : Path) (imports : List Path) (sheets : List Sheet) (name : Text) :
    (build path imports sheets).definition? name = sheets.findSome? (·.classes.get? name) :=
  get?_foldl_addSheet sheets Table.empty name

/-- The winning definition of a class is the first of all its definitions. -/
theorem definition?_eq_head? {path : Path} {imports : List Path} {sheets : List Sheet}
    (h : ∀ s ∈ sheets, Stylesheet.FirstOfEach s.classes s.occurrences) (name : Text) :
    (build path imports sheets).definition? name =
      ((build path imports sheets).occurrences name).head? := by
  have hsheets : ∀ sheets : List Sheet,
      (∀ s ∈ sheets, Stylesheet.FirstOfEach s.classes s.occurrences) →
      sheets.findSome? (·.classes.get? name) =
        sheets.findSome? fun s => (s.occurrencesOf name).head? := by
    intro sheets hlaw
    induction sheets with
    | nil => rfl
    | cons s rest ih =>
      have hfirst : s.classes.get? name = (s.occurrencesOf name).head? :=
        (hlaw s List.mem_cons_self).get?_eq name
      rw [List.findSome?_cons, List.findSome?_cons, hfirst,
        ih fun t ht => hlaw t (List.mem_cons_of_mem s ht)]
  unfold occurrences
  rw [definition?_build, List.head?_flatMap]
  exact hsheets sheets h

theorem hasClass_iff {path : Path} {imports : List Path} {sheets : List Sheet}
    (h : ∀ s ∈ sheets, Stylesheet.FirstOfEach s.classes s.occurrences) (name : Text) :
    (build path imports sheets).hasClass name = true ↔
      (build path imports sheets).occurrences name ≠ [] := by
  show ((build path imports sheets).definition? name).isSome = true ↔ _
  rw [definition?_eq_head? h, List.isSome_head?]

/-! ## Shuffled components -/

section Shuffles

variable {path : Path} {imports : List Path} {sheets : List Sheet} {c : Component}

theorem Shuffled.definition?_eq (h : c.Shuffled (build path imports sheets)) (name : Text) :
    c.definition? name = (build path imports sheets).definition? name :=
  Table.get?_perm (distinct_foldl_addSheet sheets Table.distinct_empty) h.classes name

theorem Shuffled.occurrences_eq (h : c.Shuffled (build path imports sheets)) (name : Text) :
    c.occurrences name = (build path imports sheets).occurrences name := by
  unfold occurrences
  rw [h.sheets]

theorem mem_classNames (h : c.Shuffled (build path imports sheets)) (name : Text) :
    name ∈ c.classNames ↔ (build path imports sheets).hasClass name = true := by
  unfold classNames hasClass Text.sorted
  rw [(List.mergeSort_perm c.classes.keys Text.le).mem_iff, h.classes.mem_keys,
    Table.mem_keys_iff]

theorem classNames_increasing (h : c.Shuffled (build path imports sheets))
    (hvalid : ∀ name, (build path imports sheets).hasClass name = true →
      ClassName.isValid name = true) :
    c.classNames.Pairwise fun a b => Utf8.encode a < Utf8.encode b := by
  have hdistinct : (build path imports sheets).classes.Distinct :=
    distinct_foldl_addSheet sheets Table.distinct_empty
  refine Text.sorted_increasing ?_ fun name hname character hcharacter => ?_
  · exact (List.Perm.map _ h.classes).nodup_iff.mpr (Table.nodup_keys hdistinct)
  · have hclass := hvalid name (Table.mem_keys_iff.mp ((h.classes.mem_keys name).mp hname))
    have hpart := Stylesheet.toNat_of_isPart (Stylesheet.isPart_of_mem hclass hcharacter)
    omega

end Shuffles

/-! ## From text to component -/

/-- Shuffling the sheets of a component changes no list of definitions. -/
theorem occurrences_of_shuffled {sheets built : List Sheet}
    (h : List.Forall₂ Sheet.Shuffled sheets built) (hbuilt : ∀ t ∈ built, t.IsBuilt)
    (name : Text) :
    sheets.flatMap (·.occurrencesOf name) = built.flatMap (·.occurrencesOf name) := by
  induction h with
  | nil => rfl
  | cons hst _ ih =>
    rw [List.flatMap_cons, List.flatMap_cons,
      hst.occurrencesOf_eq (hbuilt _ List.mem_cons_self),
      ih fun t ht => hbuilt t (List.mem_cons_of_mem _ ht)]

theorem firstOfEach_of_shuffled {sheets built : List Sheet}
    (h : List.Forall₂ Sheet.Shuffled sheets built) (hbuilt : ∀ t ∈ built, t.IsBuilt) :
    ∀ s ∈ sheets, Stylesheet.FirstOfEach s.classes s.occurrences := by
  induction h with
  | nil => exact fun s hs => by cases hs
  | cons hst _ ih =>
    intro s hs
    rcases List.mem_cons.mp hs with rfl | hs
    · exact hst.firstOfEach (hbuilt _ List.mem_cons_self)
    · exact ih (fun t ht => hbuilt t (List.mem_cons_of_mem _ ht)) s hs

/-- **The first occurrence wins, from file to component.** The two tables that
are made of a stylesheet have the same keys, every list holds something, has
increasing offsets and the key as name throughout, and the kept definition is
its first; so it is in every sheet. In a component of such sheets the winning
definition of a class is the first of all its definitions, which are those of
the sheets one after the other; and the class names are exactly the names with
a definition, in strict order of their bytes. The order in which the tables
are visited plays no part in any of it. -/
theorem first_occurrence_wins :
    (∀ css, Stylesheet.FirstOfEach (Stylesheet.extract css).first (Stylesheet.extract css).all) ∧
    (∀ css file modified s, Sheet.Shuffled s (Sheet.build css file modified) →
      Stylesheet.FirstOfEach s.classes s.occurrences) ∧
    ∀ path imports sheets built c, List.Forall₂ Sheet.Shuffled sheets built →
      (∀ t ∈ built, Sheet.IsBuilt t) → Shuffled c (build path imports sheets) →
      (∀ name,
        c.definition? name = (c.occurrences name).head? ∧
        (c.definition? name = none ↔ c.occurrences name = []) ∧
        (c.hasClass name = false ↔ c.occurrences name = []) ∧
        c.occurrences name = built.flatMap (·.occurrencesOf name) ∧
        (name ∈ c.classNames ↔ c.occurrences name ≠ [])) ∧
      c.classNames.Pairwise fun a b => Utf8.encode a < Utf8.encode b := by
  refine ⟨Stylesheet.firstOfEach_extract, fun css file modified s hs => hs.firstOfEach rfl, ?_⟩
  intro path imports sheets built c hsheets hbuilt hc
  have hlaw := firstOfEach_of_shuffled hsheets hbuilt
  have hall : ∀ name, c.occurrences name = built.flatMap (·.occurrencesOf name) := fun name =>
    (hc.occurrences_eq name).trans (occurrences_of_shuffled hsheets hbuilt name)
  have hfirst : ∀ name, c.definition? name = (c.occurrences name).head? := fun name => by
    rw [hc.definition?_eq, hc.occurrences_eq, definition?_eq_head? hlaw]
  have hclass : ∀ name, (build path imports sheets).hasClass name = true ↔
      c.occurrences name ≠ [] := fun name => by
    rw [hc.occurrences_eq, hasClass_iff hlaw]
  refine ⟨fun name => ⟨hfirst name, ?_, ?_, hall name, ?_⟩, ?_⟩
  · rw [hfirst, List.head?_eq_none_iff]
  · have hsome : c.hasClass name = (c.occurrences name).head?.isSome :=
      congrArg Option.isSome (hfirst name)
    rw [hsome]
    cases c.occurrences name <;> simp
  · rw [mem_classNames hc, hclass]
  · refine classNames_increasing hc fun name hname => ?_
    obtain ⟨d, hd⟩ := List.exists_mem_of_ne_nil _ ((hclass name).mp hname)
    rw [hall] at hd
    obtain ⟨t, ht, hdt⟩ := List.mem_flatMap.mp hd
    exact Sheet.isValid_of_mem_occurrencesOf (hbuilt t ht) hdt

namespace Sample

/-- Two stylesheets that both define `y`. -/
def built : List Sheet :=
  [Sheet.build ".x{} .y{}".toList ⟨[0x2F, 0x61]⟩ (.time 1),
    Sheet.build ".y{} .a{}".toList ⟨[0x2F, 0x62]⟩ (.time 1)]

/-- A sheet with the entries of its tables from last to first. -/
def reversed (s : Sheet) : Sheet :=
  { s with
    classes := ⟨s.classes.entries.reverse⟩
    occurrences := ⟨s.occurrences.entries.reverse⟩ }

/-- The component of both, with all entries from last to first. -/
def component : Component :=
  let c := build ⟨[0x2F, 0x63]⟩ [] (built.map reversed)
  { c with classes := ⟨c.classes.entries.reverse⟩ }

theorem shuffled : List.Forall₂ Sheet.Shuffled (built.map reversed) built := by
  rw [List.forall₂_map_left_iff, List.forall₂_same]
  exact fun s _ => ⟨rfl, rfl, rfl, List.reverse_perm _, List.reverse_perm _⟩

end Sample

/-- The first stylesheet wins and the names are sorted, from whichever end the
tables are visited. -/
theorem first_occurrence_wins_reversed :
    (∀ name, Sample.component.definition? name = (Sample.component.occurrences name).head?) ∧
    (Sample.component.occurrences ['y']).map (·.offset) = [5, 0] ∧
    Sample.component.classNames = [['a'], ['x'], ['y']] := by
  have hbuilt : ∀ t ∈ Sample.built, Sheet.IsBuilt t := by
    intro t ht
    simp only [Sample.built, List.mem_cons, List.not_mem_nil, or_false] at ht
    rcases ht with rfl | rfl <;> rfl
  have hlaw := first_occurrence_wins.2.2 ⟨[0x2F, 0x63]⟩ [] (Sample.built.map Sample.reversed)
    Sample.built Sample.component Sample.shuffled hbuilt
    ⟨rfl, rfl, rfl, List.reverse_perm _⟩
  exact ⟨fun name => (hlaw.1 name).1, by decide +kernel, by cbv⟩

end Component

end ClassLens
