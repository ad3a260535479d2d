import ClassLens.Component.Basic
import Mathlib.Data.List.Forall2
/-
  Likeness — the same but for the spelling of paths

  One file can be read through several spellings of its path, and a sheet keeps
  the spelling it was read through. Sheets and components are alike when they
  agree in everything and their paths are equal as paths.

  What is proved:
    1. `Table.Alike.get?`, `Table.Alike.insertNew` — tables with alike values
       answer alike, and stay alike when written to;
    2. `Sheet.alike_build` — one text read through two spellings;
    3. `Component.alike_build` — components of alike sheets are alike;
    4. `Component.Alike.sheet?` — what alike components hold for a path.
-/

namespace ClassLens

/-- The same definition, in a file whose path may be spelled differently. -/
structure Definition.Alike (d e : Definition) : Prop where
  file : (d.file == e.file) = true
  rest : d = e.inFile d.file

namespace Table

variable {κ α β : Type}

/-- The same keys in the same order, with related values. -/
def Alike (R : α → β → Prop) (t : Table κ α) (u : Table κ β) : Prop :=
  List.Forall₂ (fun a b => a.1 = b.1 ∧ R a.2 b.2) t.entries u.entries

variable [BEq κ] {R : α → β → Prop} {t : Table κ α} {u : Table κ β}

theorem Alike.get? (h : t.Alike R u) (k : κ) : Option.Rel R (t.get? k) (u.get? k) := by
  unfold Alike at h
  unfold Table.get?
  generalize t.entries = as, u.entries = bs at h
  induction h with
  | nil => exact .none
  | @cons a b _ _ hab _ ih =>
    unfold lookup
    rw [hab.1]
    split
    · exact .some hab.2
    · exact ih

theorem Alike.contains_eq (h : t.Alike R u) (k : κ) : t.contains k = u.contains k := by
  have hget := h.get? k
  unfold Table.contains
  generalize t.get? k = v, u.get? k = w at hget
  cases hget <;> rfl

theorem Alike.insert (h : t.Alike R u) (k : κ) {v : α} {w : β} (hvw : R v w) :
    (t.insert k v).Alike R (u.insert k w) := by
  unfold Alike at h ⊢
  show List.Forall₂ _ (put k v t.entries) (put k w u.entries)
  generalize t.entries = as, u.entries = bs at h
  induction h with
  | nil => exact .cons ⟨rfl, hvw⟩ .nil
  | @cons a b _ _ hab hrest ih =>
    unfold put
    rw [hab.1]
    split
    · exact .cons ⟨rfl, hvw⟩ hrest
    · exact .cons ⟨rfl, hab.2⟩ ih

theorem Alike.insertNew (h : t.Alike R u) (k : κ) {v : α} {w : β} (hvw : R v w) :
    (t.insertNew k v).Alike R (u.insertNew k w) := by
  unfold Table.insertNew
  rw [h.contains_eq k]
  split
  · exact h
  · exact h.insert k hvw

end Table

namespace Sheet

/-- The same sheet, read through a path that may be spelled differently. -/
structure Alike (s t : Sheet) : Prop where
  path : (s.path == t.path) = true
  modified : s.modified = t.modified
  content : s.content = t.content
  classes : s.classes.Alike Definition.Alike t.classes
  occurrences : s.occurrences.Alike (List.Forall₂ Definition.Alike) t.occurrences

theorem Alike.refl (s : Sheet) : s.Alike s := by
  have hdefinition : ∀ d : Definition, d.Alike d := fun _ => ⟨BEq.rfl, rfl⟩
  constructor
  case path => exact BEq.rfl
  case modified => rfl
  case content => rfl
  case classes => exact List.forall₂_same.mpr fun entry _ => ⟨rfl, hdefinition entry.2⟩
  case occurrences =>
    exact List.forall₂_same.mpr fun entry _ =>
      ⟨rfl, List.forall₂_same.mpr fun d _ => hdefinition d⟩

/-- One text read through two spellings of a path. -/
theorem alike_build {p q : Path} (h : (p == q) = true) (content : Text) (modified : Stamp) :
    (build content p modified).Alike (build content q modified) := by
  have hdefinition : ∀ d : Definition, (d.inFile p).Alike (d.inFile q) := fun _ => ⟨h, rfl⟩
  constructor
  case path => exact h
  case modified => rfl
  case content => rfl
  case classes =>
    show List.Forall₂ _ (List.map _ _) (List.map _ _)
    rw [List.forall₂_map_left_iff, List.forall₂_map_right_iff, List.forall₂_same]
    exact fun entry _ => ⟨rfl, hdefinition entry.2⟩
  case occurrences =>
    show List.Forall₂ _ (List.map _ _) (List.map _ _)
    rw [List.forall₂_map_left_iff, List.forall₂_map_right_iff, List.forall₂_same]
    refine fun entry _ => ⟨rfl, ?_⟩
    rw [List.forall₂_map_left_iff, List.forall₂_map_right_iff, List.forall₂_same]
    exact fun d _ => hdefinition d

theorem any_path_of_alike {ss ts : List Sheet} (h : List.Forall₂ Alike ss ts) (p : Path) :
    ss.any (·.path == p) = ts.any (·.path == p) := by
  induction h with
  | nil => rfl
  | cons hst _ ih => rw [List.any_cons, List.any_cons, ih, BEq.congr_left hst.path]

theorem find?_path_of_alike {ss ts : List Sheet} (h : List.Forall₂ Alike ss ts) (p : Path) :
    Option.Rel Alike (ss.find? (·.path == p)) (ts.find? (·.path == p)) := by
  induction h with
  | nil => exact .none
  | @cons s t _ _ hst _ ih =>
    have hpath : (s.path == p) = (t.path == p) := BEq.congr_left hst.path
    rw [List.find?_cons, List.find?_cons, hpath]
    split
    · exact .some hst
    · exact ih

end Sheet

namespace Component

/-- The same component, of sheets read through paths that may be spelled differently. -/
structure Alike (c d : Component) : Prop where
  path : c.path = d.path
  imports : c.imports = d.imports
  sheets : List.Forall₂ Sheet.Alike c.sheets d.sheets
  classes : c.classes.Alike Definition.Alike d.classes

theorem alike_addSheet {t u : Table Text Definition} (h : t.Alike Definition.Alike u)
    {s r : Sheet} (hsheet : s.Alike r) :
    (addSheet t s).Alike Definition.Alike (addSheet u r) := by
  have hentries := hsheet.classes
  unfold Table.Alike at hentries
  unfold addSheet
  generalize s.classes.entries = as, r.classes.entries = bs at hentries
  induction hentries generalizing t u with
  | nil => exact h
  | @cons a b _ _ hab _ ih =>
    obtain ⟨name, d⟩ := a
    obtain ⟨name', e⟩ := b
    obtain ⟨rfl, hde⟩ := hab
    exact ih (h.insertNew name hde)

/-- Components of alike sheets are alike. -/
theorem alike_build (path : Path) (imports : List Path) {ss ts : List Sheet}
    (h : List.Forall₂ Sheet.Alike ss ts) :
    (build path imports ss).Alike (build path imports ts) := by
  have hclasses : ∀ {t u : Table Text Definition}, t.Alike Definition.Alike u →
      (ss.foldl addSheet t).Alike Definition.Alike (ts.foldl addSheet u) := by
    induction h with
    | nil => exact fun htable => htable
    | cons hst _ ih => exact fun htable => ih (alike_addSheet htable hst)
  exact ⟨rfl, rfl, h, hclasses .nil⟩

theorem Alike.sheet? {c d : Component} (h : c.Alike d) (p : Path) :
    Option.Rel Sheet.Alike (c.sheet? p) (d.sheet? p) :=
  Sheet.find?_path_of_alike h.sheets p

end Component

end ClassLens
