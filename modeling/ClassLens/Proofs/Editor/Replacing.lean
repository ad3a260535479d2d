import ClassLens.Proofs.Document.Positions
import ClassLens.Proofs.Document.Spans
import ClassLens.Proofs.Document.Tokens
import ClassLens.Proofs.Editor.Agreement
import ClassLens.Proofs.Editor.Resolving
/-
  Replacing — a completion replaces the token around the cursor

  The cursor comes as a line and a column in UTF-16 units. The value around it
  and the token in the value are found by bytes on the line, and the ends of the
  token go back to lines and columns. `TokenAt` is the token as it stands in the
  text; what a completion offers is compared with it.

  The start of the token is searched for as the byte behind the last blank
  before the cursor, so a blank of more bytes makes the search fail. This is the
  only way for a completion to fail.

  What is proved:
    1. `ValueAt.exists_token` — around every place in a value there is a token;
    2. `ValueAt.cursorAt_of_wide`, `TokenAt.cursorAt_eq` — the token is found,
       or the blank before it is wide;
    3. `TokenAt.exists_range` — the ends of the token as places on the line
       lead back to the token;
    4. `Component.IsBuilt.classNames_increasing` — class names in strict order;
    5. `completion_replaces_token` — what every completion replaces, and by what.
-/

namespace ClassLens

/-- A place in a value of a document: the line it is on, the value, and the text of
the value before the place and behind it. -/
structure ValueAt (doc : Document) (attr : Text) (p : Position) where
  line : Document.Line doc.text p.line
  value : AttributeValue
  before : Text
  behind : Text
  mem : value ∈ attributeValues attr line.shown
  parts : value.text = before ++ behind
  column_eq : Document.byteColumn p.character line.shown = value.start + Text.bytes before

/-- The token around a place in a value: what is typed of it up to the place, and the
tail behind the place. It holds no blank, and on either side of it there is a
blank or the end of the value. -/
structure TokenAt (doc : Document) (attr : Text) (p : Position) extends ValueAt doc attr p where
  left : Text
  typed : Text
  tail : Text
  right : Text
  before_eq : before = left ++ typed
  behind_eq : behind = tail ++ right
  solid : ∀ c ∈ typed ++ tail, Text.isBlank c = false
  left_ends : ∀ c, left.getLast? = some c → Text.isBlank c = true
  right_starts : ∀ c, right.head? = some c → Text.isBlank c = true

/-- The last blank of a text is longer than one byte. -/
def LastBlankWide (cs : Text) : Prop :=
  ∃ left c typed, cs = left ++ c :: typed ∧ Text.isBlank c = true ∧
    (∀ d ∈ typed, Text.isBlank d = false) ∧ 1 < c.utf8Size

/-! ## Behind the last blank -/

theorem last_blank_parts (cs : Text) :
    ∃ left typed, cs = left ++ typed ∧ (∀ c, left.getLast? = some c → Text.isBlank c = true) ∧
      ∀ c ∈ typed, Text.isBlank c = false := by
  obtain ⟨typed, left, hparts, htyped, hleft⟩ := first_blank_parts cs.reverse
  refine ⟨left.reverse, typed.reverse, ?_, fun c hc => hleft c ?_, fun c hc => htyped c ?_⟩
  · rw [← List.reverse_append, ← hparts, List.reverse_reverse]
  · rwa [List.getLast?_reverse] at hc
  · exact List.mem_reverse.mp hc

theorem behindLastBlank_of_solid {cs : Text} (h : ∀ c ∈ cs, Text.isBlank c = false) :
    behindLastBlank cs = 0 := by
  have hnone : cs.reverse.dropWhile (!Text.isBlank ·) = [] := by
    rw [List.dropWhile_eq_nil_iff]
    intro c hc
    rw [h c (List.mem_reverse.mp hc)]
    rfl
  unfold behindLastBlank
  rw [hnone]

theorem behindLastBlank_append {c : Char} {typed : Text} (hc : Text.isBlank c = true)
    (htyped : ∀ d ∈ typed, Text.isBlank d = false) (left : Text) :
    behindLastBlank (left ++ c :: typed) = Text.bytes left + 1 := by
  have hsolid : ∀ d ∈ typed.reverse, (!Text.isBlank d) = true := by
    intro d hd
    rw [htyped d (List.mem_reverse.mp hd)]
    rfl
  have hreverse : (left ++ c :: typed).reverse = typed.reverse ++ c :: left.reverse := by simp
  have hfound : (left ++ c :: typed).reverse.dropWhile (!Text.isBlank ·) = c :: left.reverse := by
    rw [hreverse, List.dropWhile_append_of_pos hsolid, List.dropWhile_cons_of_neg (by simp [hc])]
  unfold behindLastBlank
  rw [hfound]
  exact congrArg (· + 1) (Text.bytes_reverse left)

/-- Unless it is wide, the last blank leads to the start of what follows it. -/
theorem behindLastBlank_eq {left typed : Text}
    (hleft : ∀ c, left.getLast? = some c → Text.isBlank c = true)
    (htyped : ∀ c ∈ typed, Text.isBlank c = false) (hnarrow : ¬ LastBlankWide (left ++ typed)) :
    behindLastBlank (left ++ typed) = Text.bytes left := by
  rcases List.eq_nil_or_concat left with rfl | ⟨init, c, rfl⟩
  · exact behindLastBlank_of_solid htyped
  · have hc : Text.isBlank c = true := hleft c (by simp)
    have hparts : init.concat c ++ typed = init ++ c :: typed := by simp
    have hsize : ¬ 1 < c.utf8Size := fun hwide =>
      hnarrow ⟨init, c, typed, hparts, hc, htyped, hwide⟩
    have hpos := Char.utf8Size_pos c
    rw [hparts, behindLastBlank_append hc htyped, List.concat_eq_append, Text.bytes_append,
      Text.bytes_cons, Text.bytes_nil]
    omega

theorem cut?_of_lastBlankWide {cs : Text} (h : LastBlankWide cs) :
    Text.cut? (behindLastBlank cs) cs = none := by
  obtain ⟨left, c, typed, rfl, hc, htyped, hwide⟩ := h
  rw [behindLastBlank_append hc htyped]
  exact Text.cut?_of_inside ⟨left, c, typed, rfl, by omega, by omega⟩

/-! ## The value around a place -/

section Places

variable {doc : Document} {attr : Text} {p : Position}

/-- Columns lead to character boundaries, so a value that the column touches is
parted there. -/
theorem exists_valueAt (l : Document.Line doc.text p.line) {v : AttributeValue}
    (h : attributeValueAt? attr l.shown (Document.byteColumn p.character l.shown) = some v) :
    Nonempty (ValueAt doc attr p) := by
  obtain ⟨hmem, hstart, hstop⟩ := attributeValueAt?_eq_some.mp h
  obtain ⟨q, front, rest, hstands⟩ := standsIn_of_mem hmem
  obtain ⟨reached, ⟨⟨beyond, hshown⟩, -⟩, hcolumn⟩ :=
    Document.exists_reaches p.character l.shown
  rw [AttributeValue.stop] at hstop
  rw [hcolumn, hstands.start_eq] at hstart hstop
  obtain ⟨before, rfl, hvalue⟩ :=
    Text.parts_of_bytes_le (hstands.line_eq.symm.trans hshown.symm) hstart
  rw [Text.bytes_append] at hstop
  obtain ⟨behind, hparts, -⟩ := Text.parts_of_bytes_le hvalue.symm (by omega)
  refine ⟨l, v, before, behind, hmem, hparts, ?_⟩
  rw [hcolumn, hstands.start_eq, Text.bytes_append]

namespace ValueAt

variable (w : ValueAt doc attr p)

theorem attributeValueAt?_eq :
    attributeValueAt? attr w.line.shown (Document.byteColumn p.character w.line.shown) =
      some w.value := by
  refine attributeValueAt?_eq_some.mpr ⟨w.mem, ?_, ?_⟩
  · rw [w.column_eq]
    exact Nat.le_add_right _ _
  · rw [w.column_eq, AttributeValue.stop, w.parts, Text.bytes_append]
    omega

theorem cut?_eq :
    Text.cut? (Document.byteColumn p.character w.line.shown - w.value.start) w.value.text =
      some (w.before, w.behind) := by
  rw [w.column_eq, Nat.add_sub_cancel_left, w.parts]
  exact Text.cut?_append w.before w.behind

/-- Around every place in a value there is a token, an empty one between blanks. -/
theorem exists_token : ∃ u : TokenAt doc attr p, u.toValueAt = w := by
  obtain ⟨left, typed, hbefore, hleft, htyped⟩ := last_blank_parts w.before
  obtain ⟨tail, right, hbehind, htail, hright⟩ := first_blank_parts w.behind
  refine ⟨⟨w, left, typed, tail, right, hbefore, hbehind, fun c hc => ?_, hleft, hright⟩, rfl⟩
  rcases List.mem_append.mp hc with hc | hc
  · exact htyped c hc
  · exact htail c hc

theorem cursorAt_of_wide (h : LastBlankWide w.before) :
    cursorAt attr w.line.shown (Document.byteColumn p.character w.line.shown) =
      .error .insideCharacter := by
  unfold cursorAt
  simp only [w.attributeValueAt?_eq, w.cut?_eq, cut?_of_lastBlankWide h]

end ValueAt

/-! ## The token around a place -/

namespace TokenAt

variable (u : TokenAt doc attr p)

/-- The byte offset of the token's first character. -/
def start : Nat := Text.bytes u.line.above + (u.value.start + Text.bytes u.left)

/-- The byte offset behind the token's last character. -/
def stop : Nat := u.start + Text.bytes (u.typed ++ u.tail)

/-- What completion should know around the place. -/
def cursor : Cursor where
  replaceStart := u.value.start + Text.bytes u.left
  replaceStop := u.value.start + Text.bytes u.left + Text.bytes (u.typed ++ u.tail)
  typed := u.typed
  existing := ((classTokens u.value.text).filter (·.1 ≠ Text.bytes u.left)).map (·.2)

/-- A range names the ends of the token by places on its line. -/
structure IsRange (range : Range) : Prop where
  start_line : range.start.line = p.line
  stop_line : range.stop.line = p.line
  start_eq : doc.offsetAt? range.start = some u.start
  stop_eq : doc.offsetAt? range.stop = some u.stop

theorem cursorAt_eq (h : ¬ LastBlankWide u.before) :
    cursorAt attr u.line.shown (Document.byteColumn p.character u.line.shown) =
      .ok (some u.cursor) := by
  have htyped : ∀ c ∈ u.typed, Text.isBlank c = false := fun c hc =>
    u.solid c (List.mem_append_left _ hc)
  have htail : ∀ c ∈ u.tail, Text.isBlank c = false := fun c hc =>
    u.solid c (List.mem_append_right _ hc)
  have hstart : behindLastBlank u.before = Text.bytes u.left := by
    rw [u.before_eq] at h ⊢
    exact behindLastBlank_eq u.left_ends htyped h
  have hcut : Text.cut? (Text.bytes u.left) u.before = some (u.left, u.typed) := by
    rw [u.before_eq]
    exact Text.cut?_append u.left u.typed
  have hstop : u.behind.takeWhile (!Text.isBlank ·) = u.tail := by
    rw [u.behind_eq]
    exact takeWhile_of_solid htail u.right_starts
  have hreplace : Document.byteColumn p.character u.line.shown + Text.bytes u.tail =
      u.cursor.replaceStop := by
    rw [u.column_eq, u.before_eq, cursor]
    simp only [Text.bytes_append]
    omega
  unfold cursorAt
  simp only [u.attributeValueAt?_eq, u.cut?_eq, hstart, hcut, hstop, hreplace]
  rfl

theorem shown_parts : ∃ front rest, u.start = Text.bytes (u.line.above ++ front) ∧
    u.line.shown = front ++ ((u.typed ++ u.tail) ++ rest) := by
  obtain ⟨q, front, rest, hstands⟩ := (spans_attributeValues attr u.line.shown).standsIn u.mem
  refine ⟨front ++ u.left, u.right ++ rest, ?_, ?_⟩
  · rw [start, hstands.start_eq, Text.bytes_append, Text.bytes_append]
  · have hline := hstands.line_eq
    rw [List.nil_append, u.parts, u.before_eq, u.behind_eq] at hline
    simpa using hline

theorem text_parts : ∃ front rest, u.start = Text.bytes front ∧
    doc.text = front ++ ((u.typed ++ u.tail) ++ rest) := by
  obtain ⟨front, rest, hstart, hshown⟩ := u.shown_parts
  refine ⟨u.line.above ++ front, rest ++ (u.line.returns ++ u.line.below), hstart, ?_⟩
  have htext := u.line.text_eq
  rw [hshown] at htext
  simpa using htext

theorem slice?_eq : Text.slice? u.start u.stop doc.text = some (u.typed ++ u.tail) := by
  obtain ⟨front, rest, hstart, htext⟩ := u.text_parts
  rw [stop, hstart, htext]
  exact Text.slice?_append front (u.typed ++ u.tail) rest

theorem slice?_typed :
    Text.slice? u.start (u.start + Text.bytes u.typed) doc.text = some u.typed := by
  obtain ⟨front, rest, hstart, htext⟩ := u.text_parts
  rw [hstart, htext, List.append_assoc]
  exact Text.slice?_append front u.typed (u.tail ++ rest)

theorem offsetAt?_eq : doc.offsetAt? p = some (u.start + Text.bytes u.typed) := by
  have hoffset := u.line.offsetAt?_eq p.character
  rw [u.column_eq, u.before_eq, Text.bytes_append] at hoffset
  rw [start, Nat.add_assoc, Nat.add_assoc]
  exact hoffset

theorem exists_range :
    ∃ range, doc.rangeOf u.start u.stop = .ok range ∧ u.IsRange range := by
  obtain ⟨front, rest, hstart, hshown⟩ := u.shown_parts
  have hstop : u.stop = Text.bytes (u.line.above ++ (front ++ (u.typed ++ u.tail))) := by
    rw [stop, hstart, ← Text.bytes_append, List.append_assoc]
  have hstartshown : front <+: u.line.shown := ⟨_, hshown.symm⟩
  have hstopshown : front ++ (u.typed ++ u.tail) <+: u.line.shown :=
    ⟨rest, by rw [hshown, List.append_assoc]⟩
  refine ⟨⟨⟨p.line, Text.units front⟩, ⟨p.line, Text.units (front ++ (u.typed ++ u.tail))⟩⟩,
    ?_, rfl, rfl, ?_, ?_⟩
  · unfold Document.rangeOf
    rw [hstart, hstop, u.line.positionAt_eq hstartshown, u.line.positionAt_eq hstopshown]
    rfl
  · rw [hstart]
    exact u.line.offsetAt?_units hstartshown
  · rw [hstop]
    exact u.line.offsetAt?_units hstopshown

theorem within_value : Text.bytes u.line.above + u.value.start ≤ u.start ∧
    u.stop ≤ Text.bytes u.line.above + u.value.stop := by
  rw [stop, start, AttributeValue.stop, u.parts, u.before_eq, u.behind_eq]
  simp only [Text.bytes_append]
  omega

end TokenAt

end Places

/-! ## The classes that are offered -/

namespace Component.IsBuilt

variable {k : Component}

theorem shuffled (h : k.IsBuilt) : k.Shuffled (Component.build k.path k.imports k.sheets) := by
  rw [← h.eq_build]
  exact ⟨rfl, rfl, rfl, List.Perm.refl _⟩

theorem classNames_increasing (h : k.IsBuilt) :
    k.classNames.Pairwise fun a b => Utf8.encode a < Utf8.encode b := by
  refine Component.classNames_increasing h.shuffled fun name hname => ?_
  rw [← h.eq_build] at hname
  -- a class has a first definition, and only class names have definitions
  have hfirst : (k.occurrences name).head?.isSome = true := by
    rw [← h.definition?_eq]
    exact hname
  obtain ⟨d, hd⟩ := Option.isSome_iff_exists.mp hfirst
  obtain ⟨s, hs, hmem⟩ := List.mem_flatMap.mp (List.mem_of_head? hd)
  exact Sheet.isValid_of_mem_occurrencesOf (h.sheets s hs) hmem

theorem mem_candidates (h : k.IsBuilt) {cursor : Cursor} {name : Text} :
    name ∈ candidates k cursor ↔
      k.hasClass name = true ∧ name ∉ cursor.existing ∧ cursor.typed <+: name := by
  have hclass : name ∈ k.classNames ↔ k.hasClass name = true := by
    rw [Component.mem_classNames h.shuffled, ← h.eq_build]
  unfold candidates Text.startsWith
  rw [List.mem_filter, hclass]
  simp

end Component.IsBuilt

section Offering

variable {doc : Document} {attr : Text} {p : Position} {k : Component} {range : Range}
  {ids : List Nat}

theorem map_label_offeredItems (range : Range) {names : List Text}
    (h : ids.length = names.length) : (offeredItems range names ids).map (·.label) = names := by
  unfold offeredItems
  rw [List.map_map]
  exact List.map_fst_zip (Nat.le_of_eq h.symm)

/-- Each item puts a class of the component that begins with what is typed in the
place of the token. -/
theorem TokenAt.offered_item (u : TokenAt doc attr p) (hk : k.IsBuilt)
    (hlength : ids.length = (candidates k u.cursor).length) {item : Item}
    (hitem : item ∈ offeredItems range (candidates k u.cursor) ids) :
    item.edit = some (range, item.label) ∧ k.hasClass item.label = true ∧
      u.typed <+: item.label := by
  have hlabel : item.label ∈ candidates k u.cursor := by
    rw [← map_label_offeredItems range hlength]
    exact List.mem_map_of_mem hitem
  obtain ⟨hclass, -, htyped⟩ := hk.mem_candidates.mp hlabel
  obtain ⟨⟨name, id⟩, -, rfl⟩ := List.mem_map.mp hitem
  exact ⟨rfl, hclass, htyped⟩

theorem offeredItems_increasing {cursor : Cursor} (hk : k.IsBuilt)
    (hlength : ids.length = (candidates k cursor).length) :
    (offeredItems range (candidates k cursor) ids).Pairwise fun a b =>
      Utf8.encode a.label < Utf8.encode b.label := by
  have hsorted : (candidates k cursor).Pairwise fun a b => Utf8.encode a < Utf8.encode b :=
    hk.classNames_increasing.filter _
  rwa [← map_label_offeredItems range hlength, List.pairwise_map] at hsorted

theorem TokenAt.mem_offered (u : TokenAt doc attr p) (hk : k.IsBuilt)
    (hlength : ids.length = (candidates k u.cursor).length) {name : Text}
    (hclass : k.hasClass name = true) (htyped : u.typed <+: name)
    (hname : name ∉ (classTokens u.value.text).map (·.2)) :
    name ∈ (offeredItems range (candidates k u.cursor) ids).map (·.label) := by
  rw [map_label_offeredItems range hlength, hk.mem_candidates]
  refine ⟨hclass, fun hexisting => hname ?_, htyped⟩
  obtain ⟨token, htoken, rfl⟩ := List.mem_map.mp hexisting
  exact List.mem_map_of_mem (List.mem_of_mem_filter htoken)

end Offering

/-! ## Completions -/

section Completions

variable {disk : Disk} {e : Engine} {t : ItemTable} {doc : Document} {p : Position} {attr : Text}

theorem complete_of_no_value (h : ¬ Nonempty (ValueAt doc attr p)) :
    (complete disk e t doc p attr).2.2 = .ok none := by
  unfold complete
  split
  · rfl
  · rename_i start shown hrow
    have hexists : p.line < doc.lineCount := by
      rw [← Nat.not_le, ← Document.row?_eq_none_iff, hrow]
      exact Option.some_ne_none _
    obtain ⟨l⟩ := Document.nonempty_line_iff.mpr hexists
    obtain ⟨rfl, rfl⟩ := Prod.mk.inj (Option.some.inj (hrow.symm.trans l.row?_eq))
    have hnone : attributeValueAt? attr l.shown (Document.byteColumn p.character l.shown) = none :=
      Option.eq_none_iff_forall_ne_some.mpr fun v hv => h (exists_valueAt l hv)
    have hcursor : cursorAt attr l.shown (Document.byteColumn p.character l.shown) = .ok none := by
      unfold cursorAt
      rw [hnone]
    rw [hcursor]

theorem complete_of_wide (w : ValueAt doc attr p) (h : LastBlankWide w.before) :
    (complete disk e t doc p attr).2.2 = .error .insideCharacter := by
  unfold complete
  simp only [w.line.row?_eq, w.cursorAt_of_wide h]

theorem complete_of_token (u : TokenAt doc attr p) (h : ¬ LastBlankWide u.before) {k : Component}
    (hk : (e.ensureDocument disk doc).2 = some k) :
    ∃ range ids, u.IsRange range ∧ ids.length = (candidates k u.cursor).length ∧
      (complete disk e t doc p attr).2.2 =
        .ok (some (offeredItems range (candidates k u.cursor) ids)) := by
  obtain ⟨range, hrange, hends⟩ := u.exists_range
  have hensured : e.ensureDocument disk doc = ((e.ensureDocument disk doc).1, some k) := by
    rw [← hk]
  have hreplaced : doc.rangeOf (Text.bytes u.line.above + u.cursor.replaceStart)
      (Text.bytes u.line.above + u.cursor.replaceStop) = .ok range := by
    rw [← hrange, TokenAt.stop, TokenAt.start, Nat.add_assoc _ _ (Text.bytes (u.typed ++ u.tail))]
    rfl
  let pending := (candidates k u.cursor).map fun name => (⟨doc.path, name⟩ : PendingItem)
  refine ⟨range, (t.replace pending).2, hends, ?_, ?_⟩
  · rw [ItemTable.replace, ItemTable.length_registerAll, List.length_map]
  · unfold complete
    simp only [u.line.row?_eq, u.cursorAt_eq h]
    rw [hensured]
    simp only [hreplaced]
    rfl

end Completions

/-- **A completion replaces the token around the cursor.** Take an engine after any
run, and any place in a document. A completion fails exactly if the place is in a
value whose last blank before the place is longer than one byte, and gives no list
exactly if the place is in no value. All items of a list replace one stretch of the
line of the place, which holds the place and stays inside of the value. There stands
the token around the place: no blanks, with blanks or the ends of the value around
it. Each item puts its label there, a class of the document's component that begins
with what is typed, and labels come in strict order of their bytes. No class that
begins so and does not stand in the value is left out. -/
theorem completion_replaces_token (window : Nat) (script : List (Disk × Workload.Action))
    (disk : Disk) (t : ItemTable) (doc : Document) (p : Position) (attr : Text) :
    let e := (Workload.run window script).engine
    let answer := (complete disk e t doc p attr).2.2
    ((∃ fault, answer = .error fault) ↔ ∃ w : ValueAt doc attr p, LastBlankWide w.before) ∧
    (answer = .ok none ↔ ¬ Nonempty (ValueAt doc attr p)) ∧
    ∀ items, answer = .ok (some items) →
      ∃ (u : TokenAt doc attr p) (k : Component), (e.ensureDocument disk doc).2 = some k ∧
        doc.offsetAt? p = some (u.start + Text.bytes u.typed) ∧
        Text.bytes u.line.above + u.value.start ≤ u.start ∧
        u.stop ≤ Text.bytes u.line.above + u.value.stop ∧
        Text.slice? u.start (u.start + Text.bytes u.typed) doc.text = some u.typed ∧
        Text.slice? u.start u.stop doc.text = some (u.typed ++ u.tail) ∧
        (∀ item ∈ items, ∃ range, item.edit = some (range, item.label) ∧ u.IsRange range ∧
          k.hasClass item.label = true ∧ u.typed <+: item.label) ∧
        (items.Pairwise fun a b => Utf8.encode a.label < Utf8.encode b.label) ∧
        ∀ name, k.hasClass name = true → u.typed <+: name →
          name ∉ (classTokens u.value.text).map (·.2) → name ∈ items.map (·.label) := by
  intro e answer
  obtain ⟨k, hk, hbuilt⟩ := Workload.ensureDocument_built window script disk doc
  have hwide : ∀ w : ValueAt doc attr p, LastBlankWide w.before →
      answer = .error .insideCharacter := complete_of_wide
  by_cases hvalue : Nonempty (ValueAt doc attr p)
  · obtain ⟨w⟩ := hvalue
    obtain ⟨u, rfl⟩ := w.exists_token
    have hsome : ¬ ¬ Nonempty (ValueAt doc attr p) := fun hnot => hnot ⟨u.toValueAt⟩
    by_cases hblank : LastBlankWide u.before
    · rw [hwide u.toValueAt hblank]
      refine ⟨⟨fun _ => ⟨u.toValueAt, hblank⟩, fun _ => ⟨_, rfl⟩⟩, ?_,
        fun items hitems => (by cases hitems)⟩
      exact ⟨fun hnone => (by cases hnone), fun hnot => absurd hnot hsome⟩
    · obtain ⟨range, ids, hrange, hlength, hanswer⟩ := complete_of_token (t := t) u hblank hk
      change answer = _ at hanswer
      refine ⟨⟨?_, fun ⟨w, hw⟩ => ⟨_, hwide w hw⟩⟩, ?_, fun items hitems => ?_⟩
      · rw [hanswer]
        rintro ⟨fault, hfault⟩
        cases hfault
      · rw [hanswer]
        exact ⟨fun hnone => (by cases hnone), fun hnot => absurd hnot hsome⟩
      · rw [hanswer] at hitems
        cases hitems
        refine ⟨u, k, hk, u.offsetAt?_eq, u.within_value.1, u.within_value.2, u.slice?_typed,
          u.slice?_eq, fun item hitem => ?_, offeredItems_increasing hbuilt hlength,
          fun name => u.mem_offered hbuilt hlength⟩
        obtain ⟨hedit, hclass, htyped⟩ := u.offered_item hbuilt hlength hitem
        exact ⟨range, hedit, hrange, hclass, htyped⟩
  · have hanswer : answer = .ok none := complete_of_no_value hvalue
    refine ⟨⟨?_, fun ⟨w, _⟩ => absurd ⟨w⟩ hvalue⟩, ⟨fun _ => hvalue, fun _ => hanswer⟩,
      fun items hitems => ?_⟩
    · rw [hanswer]
      rintro ⟨fault, hfault⟩
      cases hfault
    · rw [hanswer] at hitems
      cases hitems

/-- In an unfinished value the whole token is replaced, also what follows the cursor;
behind an ideographic space the same completion fails. -/
example :
    let disk := Disk.empty.write ⟨[0x2F, 0x61, 0x2E, 0x63, 0x73, 0x73]⟩ (.text ".x{}".toList) 1
    let edits := fun (line : String) (column : Nat) =>
      (complete disk (Engine.new 300) ItemTable.empty
        ⟨⟨[0x2F, 0x63]⟩, "import './a.css'\n".toList ++ line.toList, 1⟩ ⟨1, column⟩
        "styleName".toList).2.2.toOption.map (Option.map (List.map (·.edit)))
    edits "<p styleName='ä xé y" 17 = some (some [some (⟨⟨1, 16⟩, ⟨1, 18⟩⟩, ['x'])]) ∧
      edits "<p styleName='ä\u3000xé y" 17 = none := by
  decide +kernel

end ClassLens
