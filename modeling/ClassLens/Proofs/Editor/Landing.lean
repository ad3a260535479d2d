import ClassLens.Editor.Lookup
import ClassLens.Proofs.Document.Places
import ClassLens.Proofs.Stylesheet.Offsets
/-
  Landing — where going to a definition leads

  A stylesheet records of each definition its offset and its line; the column
  is counted in the text when an editor asks for it. Together they name a place
  of the stylesheet, opened as a document: the dot of the class, whatever
  comments and characters of many bytes stand before it.

  What is proved:
    1. `Token.positionAt_eq`, `Token.offsetAt?_eq` — line and column are the
       place of the token, and lead back to it;
    2. `Sheet.mem_occurrencesOf_of_get?` — the definition that is kept for a
       name is one of those listed under it;
    3. `Sheet.definition_points_at_token` — every definition of a sheet points
       at its token, and an editor that goes there lands on it.
-/

namespace ClassLens

namespace Stylesheet

namespace Token

variable {css : Text} {d : Definition} {before after : Text} {doc : Document}

theorem place_eq (token : Token css d before after) (column : Nat) :
    (⟨d.line - 1, column⟩ : Position) = ⟨Text.newlines before, column⟩ := by
  rw [token.line_eq, Nat.add_sub_cancel_left]

/-- The offset of a definition has the line of the definition, and the column of its dot. -/
theorem positionAt_eq (token : Token css d before after) (hdoc : doc.text = css) :
    doc.positionAt d.offset =
      .ok ⟨d.line - 1, Text.units (before.reverse.takeWhile (· ≠ '\n'))⟩ := by
  rw [token.place_eq, token.offset_eq]
  exact Document.positionAt_eq (hdoc.trans token.text_eq)

theorem offsetAt?_eq (token : Token css d before after) (hdoc : doc.text = css) :
    doc.offsetAt? ⟨d.line - 1, Text.units (before.reverse.takeWhile (· ≠ '\n'))⟩ =
      some d.offset := by
  rw [token.place_eq, token.offset_eq]
  exact Document.offsetAt?_eq (hdoc.trans token.text_eq) ⟨by decide, by decide⟩

end Token

end Stylesheet

namespace Sheet

theorem mem_occurrencesOf_of_get? {s : Sheet} (hs : s.IsBuilt) {name : Text} {d : Definition}
    (h : s.classes.get? name = some d) : d ∈ s.occurrencesOf name := by
  have heach := firstOfEach_build s.content s.path s.modified
  rw [← hs] at heach
  have hkey : name ∈ s.classes.keys :=
    Table.mem_keys_iff.mpr (Option.isSome_iff_exists.mpr ⟨d, h⟩)
  obtain ⟨ds, hds⟩ :=
    Option.isSome_iff_exists.mp (Table.mem_keys_iff.mp ((heach.same_keys name).mp hkey))
  have hfirst : ds.head? = some d := by rw [← heach.first_eq name ds hds, h]
  unfold occurrencesOf
  rw [hds]
  exact List.mem_of_mem_head? hfirst

/-- Every definition that the sheet of a text holds points at its token in the
text, and line and column are the place of the token in a document with this
text: going to the definition lands on it. -/
theorem definition_points_at_token (disk : Disk) (css : Text) (path : Path) {name : Text}
    {d : Definition}
    (hd : d ∈ (ofContent disk css path).occurrencesOf name ∨
      (ofContent disk css path).classes.get? name = some d) :
    d.name = name ∧ (∃ before after, Stylesheet.Token css d before after) ∧
      ∃ column, (ofContent disk css path).columnOf d = .ok column ∧
        (∀ doc : Document, doc.text = css →
          doc.positionAt d.offset = .ok ⟨d.line - 1, column⟩ ∧
            doc.offsetAt? ⟨d.line - 1, column⟩ = some d.offset) ∧
        ∀ (c : Component) (uri : Uri), c.sheet? path = some (ofContent disk css path) →
          Uri.ofPath? path = some uri →
          destinationOf c d = .ok (some ⟨uri, ⟨d.line - 1, column⟩, ⟨d.line - 1, column⟩⟩) := by
  have hbuilt : (ofContent disk css path).IsBuilt := rfl
  have hmem : d ∈ (ofContent disk css path).occurrencesOf name :=
    hd.elim id (mem_occurrencesOf_of_get? hbuilt)
  obtain ⟨hfile, hname, before, after, token⟩ := exists_token hbuilt hmem
  refine ⟨hname, ⟨before, after, token⟩, _, columnOf_eq token, ?_, ?_⟩
  · intro doc hdoc
    exact ⟨token.positionAt_eq hdoc, token.offsetAt?_eq hdoc⟩
  · intro c uri hsheet huri
    have hpath : d.file = path := hfile
    unfold destinationOf
    rw [hpath, huri, hsheet]
    simp only [columnOf_eq token]
    rfl

/-! A stylesheet with characters of two and four bytes before a token, and a comment behind it. -/

namespace Accented

def css : Text := "/* é\n😀 */ a > .title/* ü */{}".toList

def file : Path := .ofText "/s.css".toList

def sheet : Sheet := ofContent Disk.empty css file

def document : Document := ⟨file, css, 1⟩

end Accented

open Accented in
theorem definition_points_at_token_accented :
    ∃ d ∈ sheet.occurrencesOf "title".toList, d.offset = 18 ∧ d.line = 2 ∧
      (∃ before after, Stylesheet.Token css d before after) ∧
      ∃ column, sheet.columnOf d = .ok column ∧ document.positionAt 18 = .ok ⟨1, column⟩ ∧
        document.offsetAt? ⟨1, column⟩ = some 18 := by
  have hfound : (sheet.occurrencesOf "title".toList).map (fun d => (d.offset, d.line)) =
      [(18, 2)] := by decide +kernel
  obtain ⟨d, hd, hplace⟩ :
      ∃ d ∈ sheet.occurrencesOf "title".toList, (d.offset, d.line) = (18, 2) := by
    rw [← List.mem_map, hfound]
    exact List.mem_singleton.mpr rfl
  obtain ⟨hoffset, hline⟩ := Prod.mk.inj hplace
  obtain ⟨-, htoken, column, hcolumn, hplaces, -⟩ :=
    definition_points_at_token Disk.empty css file (.inl hd)
  obtain ⟨hposition, hback⟩ := hplaces document rfl
  rw [hoffset, hline] at hposition hback
  exact ⟨d, hd, hoffset, hline, htoken, column, hcolumn, hposition, hback⟩

end Sheet

end ClassLens
