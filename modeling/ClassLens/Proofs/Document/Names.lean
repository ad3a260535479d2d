import ClassLens.Proofs.Document.Spans
/-
  Names — which attributes a line's values are read from

  In front of the quote of a value stands an equals sign, and in front of that
  the name of an attribute: all the name characters up to there. The scan does
  not look at where that name begins. It takes the configured name behind any
  word boundary. So a name that begins with a letter is read at the end of a
  longer name as well, behind a mark; and in front of a name that begins with a
  mark there is a boundary only where a longer name goes on into it.

  What is proved:
    1. `isNamePart_of_isBlank` — no blank is part of a name;
    2. `assignedName?_append`, `parts_of_assignedName?` — the name in front of
       an equals sign, and what stands around it;
    3. `exists_opensAt_iff` — an opening ends at a quote exactly when the
       configured name ends that name, behind a boundary;
    4. `OutsideQuote.opened_iff` — a value is then opened, outside of the others;
    5. `values_follow_name_ends` — all values of a line, and how far this is from
       reading the configured attribute alone;
    6. `value_of_another_attribute` — a value that is not the attribute's own.
-/

namespace ClassLens

/-- Whether a character may stand in the name of an attribute: what words are made
of, letters, digits and `_`, and five marks. -/
def isNamePart (c : Char) : Bool := Text.isWord c || "-:.$@".toList.contains c

/-- The name characters at the end of a text. -/
def nameAtEnd (cs : Text) : Text := (cs.reverse.takeWhile isNamePart).reverse

/-- The name that a value behind a text is assigned to, where the text ends in an
equals sign with optional blanks around it. -/
def assignedName? (before : Text) : Option Text :=
  match Text.trimStart before.reverse with
  | '=' :: rest => some (nameAtEnd (Text.trimStart rest).reverse)
  | _ => none

variable {attr : Text}

/-! ## Name characters -/

theorem isNamePart_of_isWord {c : Char} (h : Text.isWord c = true) : isNamePart c = true := by
  unfold isNamePart
  rw [h, Bool.true_or]

theorem not_quote_of_isNamePart {c : Char} (h : isNamePart c = true) : ¬ (c = '"' ∨ c = '\'') := by
  rintro (rfl | rfl) <;> cases h

/-- The code points of the blanks. -/
def blankCodes : List Nat :=
  [0x09, 0x0A, 0x0B, 0x0C, 0x0D, 0x20, 0x85, 0xA0, 0x1680, 0x2000, 0x2001, 0x2002, 0x2003,
   0x2004, 0x2005, 0x2006, 0x2007, 0x2008, 0x2009, 0x200A, 0x2028, 0x2029, 0x202F, 0x205F, 0x3000]

theorem mem_blankCodes {c : Char} (h : Text.isBlank c = true) : c.toNat ∈ blankCodes := by
  simp only [Text.isBlank, Bool.or_eq_true, Bool.and_eq_true, decide_eq_true_eq, beq_iff_eq] at h
  simp only [blankCodes, List.mem_cons, List.not_mem_nil, or_false]
  omega

theorem isNamePart_of_isBlank {c : Char} (h : Text.isBlank c = true) : isNamePart c = false := by
  have hcodes : ∀ n ∈ blankCodes, isNamePart (Char.ofNat n) = false := by decide +kernel
  have hcode := hcodes c.toNat (mem_blankCodes h)
  rwa [Char.ofNat_toNat] at hcode

theorem isBlank_of_isNamePart {c : Char} (h : isNamePart c = true) : Text.isBlank c = false := by
  cases hblank : Text.isBlank c with
  | false => rfl
  | true => rw [isNamePart_of_isBlank hblank] at h; cases h

/-! ## The name in front of an equals sign -/

theorem nameAtEnd_append {name : Text} (hname : ∀ c ∈ name, isNamePart c = true) (left : Text) :
    nameAtEnd (left ++ name) = nameAtEnd left ++ name := by
  have hreverse : ∀ c ∈ name.reverse, isNamePart c = true := fun c hc =>
    hname c (List.mem_reverse.mp hc)
  unfold nameAtEnd
  rw [List.reverse_append, List.takeWhile_append_of_pos hreverse, List.reverse_append,
    List.reverse_reverse]

theorem exists_append_nameAtEnd (cs : Text) : ∃ left, cs = left ++ nameAtEnd cs :=
  ⟨(cs.reverse.dropWhile isNamePart).reverse, by
    unfold nameAtEnd
    rw [← List.reverse_append, List.takeWhile_append_dropWhile, List.reverse_reverse]⟩

/-- In front of a word character stands a name. -/
theorem isWord?_nameAtEnd (cs : Text) :
    Text.isWord? (nameAtEnd cs).getLast? = Text.isWord? cs.getLast? := by
  unfold nameAtEnd
  rw [List.getLast?_reverse, List.getLast?_eq_head?_reverse]
  cases cs.reverse with
  | nil => rfl
  | cons c rest =>
    cases hpart : isNamePart c with
    | true => simp [hpart]
    | false =>
      have hword : Text.isWord c = false := by
        cases h : Text.isWord c with
        | false => rfl
        | true => rw [isNamePart_of_isWord h] at hpart; cases hpart
      simp [hpart, Text.isWord?, hword]

theorem assignedName?_append {left blanks blanks' : Text}
    (hleft : ∀ c ∈ left.getLast?, Text.isBlank c = false)
    (hblanks : ∀ c ∈ blanks, Text.isBlank c = true)
    (hblanks' : ∀ c ∈ blanks', Text.isBlank c = true) :
    assignedName? (left ++ (blanks ++ '=' :: blanks')) = some (nameAtEnd left) := by
  have hreverse : (left ++ (blanks ++ '=' :: blanks')).reverse =
      blanks'.reverse ++ '=' :: (blanks.reverse ++ left.reverse) := by simp
  have htrim' : Text.trimStart (blanks'.reverse ++ '=' :: (blanks.reverse ++ left.reverse)) =
      '=' :: (blanks.reverse ++ left.reverse) := by
    apply dropWhile_isBlank
    · intro c hc
      exact hblanks' c (List.mem_reverse.mp hc)
    · intro c hc
      cases hc
      rfl
  have htrim : Text.trimStart (blanks.reverse ++ left.reverse) = left.reverse := by
    apply dropWhile_isBlank
    · intro c hc
      exact hblanks c (List.mem_reverse.mp hc)
    · rwa [List.head?_reverse]
  unfold assignedName?
  rw [hreverse, htrim']
  simp only [htrim, List.reverse_reverse]

theorem parts_of_assignedName? {before name : Text} (h : assignedName? before = some name) :
    ∃ left blanks blanks', before = left ++ (blanks ++ '=' :: blanks') ∧ nameAtEnd left = name ∧
      (∀ c ∈ blanks, Text.isBlank c = true) ∧ (∀ c ∈ blanks', Text.isBlank c = true) := by
  obtain ⟨blanks', hblanks', hbefore, -⟩ := Text.trimStart_parts before.reverse
  unfold assignedName? at h
  split at h
  · rename_i rest htrim
    obtain ⟨blanks, hblanks, hrest, -⟩ := Text.trimStart_parts rest
    refine ⟨(Text.trimStart rest).reverse, blanks.reverse, blanks'.reverse, ?_,
      Option.some.inj h, ?_, ?_⟩
    · calc before = (blanks' ++ '=' :: (blanks ++ Text.trimStart rest)).reverse := by
            rw [← hrest, ← htrim, ← hbefore, List.reverse_reverse]
        _ = _ := by simp
    · intro c hc
      exact hblanks c (List.mem_reverse.mp hc)
    · intro c hc
      exact hblanks' c (List.mem_reverse.mp hc)
  · cases h

/-! ## Openings and names -/

/-- Only the characters of a name can stand on the right of a boundary in an opening. -/
theorem isWord?_opening {blanks rest : Text} (hblanks : ∀ c ∈ blanks, Text.isBlank c = true) :
    Text.isWord? (attr ++ (blanks ++ '=' :: rest)).head? = Text.isWord? attr.head? := by
  cases attr with
  | cons c name => rfl
  | nil =>
    cases blanks with
    | nil => rfl
    | cons c blanks =>
      have hpart := isNamePart_of_isBlank (hblanks c List.mem_cons_self)
      unfold isNamePart at hpart
      exact (Bool.or_eq_false_iff.mp hpart).1

/-- What stands in front of the blanks of an opening is not blank: it is the name,
or for an empty name the word in front of the boundary. -/
theorem not_isBlank_getLast? (hattr : ∀ c ∈ attr, isNamePart c = true) {done : Text}
    (hboundary : Text.isBoundary done.getLast? attr.head? = true) :
    ∀ c ∈ (done ++ attr).getLast?, Text.isBlank c = false := by
  intro c hc
  apply isBlank_of_isNamePart
  rcases List.eq_nil_or_concat attr with rfl | ⟨front, last, rfl⟩
  · rw [List.append_nil] at hc
    rw [hc] at hboundary
    exact isNamePart_of_isWord (by simpa [Text.isBoundary, Text.isWord?] using hboundary)
  · rw [List.concat_eq_append, ← List.append_assoc, List.getLast?_concat] at hc
    obtain rfl : last = c := Option.some.inj hc
    exact hattr last (by simp)

/-- An opening ends at a quote exactly when the configured name ends the name that
the value is assigned to, behind a boundary. -/
theorem exists_opensAt_iff (hattr : ∀ c ∈ attr, isNamePart c = true) {before : Text}
    {q : Char} (hq : q = '"' ∨ q = '\'') (behind : Text) :
    (∃ done opening, before ++ [q] = done ++ opening ∧
      OpensAt attr done (opening ++ behind) q opening behind) ↔
    ∃ front, assignedName? before = some (front ++ attr) ∧
      Text.isBoundary front.getLast? attr.head? = true := by
  have hhead : ∀ {blanks blanks' : Text}, (∀ c ∈ blanks, Text.isBlank c = true) →
      Text.isWord? (attr ++ (blanks ++ '=' :: (blanks' ++ [q])) ++ behind).head? =
        Text.isWord? attr.head? := by
    intro blanks blanks' hblanks
    rw [List.append_assoc, List.append_assoc, List.cons_append]
    exact isWord?_opening hblanks
  constructor
  · rintro ⟨done, opening, hbefore, hboundary, ⟨-, blanks, blanks', hblanks, hblanks', rfl⟩, -⟩
    have hparts : before ++ [q] = done ++ attr ++ (blanks ++ '=' :: blanks') ++ [q] := by
      rw [hbefore]
      simp
    obtain rfl := List.append_cancel_right hparts
    have hbound : Text.isBoundary done.getLast? attr.head? = true := by
      unfold Text.isBoundary at hboundary ⊢
      rwa [hhead hblanks] at hboundary
    refine ⟨nameAtEnd done, ?_, ?_⟩
    · rw [assignedName?_append (not_isBlank_getLast? hattr hbound) hblanks hblanks',
        nameAtEnd_append hattr]
    · unfold Text.isBoundary at hbound ⊢
      rwa [isWord?_nameAtEnd]
  · rintro ⟨front, hassigned, hbound⟩
    obtain ⟨left, blanks, blanks', rfl, hname, hblanks, hblanks'⟩ :=
      parts_of_assignedName? hassigned
    obtain ⟨far, hfar⟩ := exists_append_nameAtEnd left
    rw [hname, ← List.append_assoc] at hfar
    obtain rfl := hfar
    rw [nameAtEnd_append hattr] at hname
    have hfront : nameAtEnd (far ++ front) = front := List.append_cancel_right hname
    refine ⟨far ++ front, attr ++ (blanks ++ '=' :: (blanks' ++ [q])), by simp, ?_,
      ⟨hq, blanks, blanks', hblanks, hblanks', rfl⟩, rfl⟩
    unfold Text.isBoundary at hbound ⊢
    rwa [hhead hblanks, ← isWord?_nameAtEnd, hfront]

/-! ## Quotes outside of the values -/

/-- A quote of a line that is neither in a value that started before it nor the
closing quote of one. -/
structure OutsideQuote (attr line before : Text) (q : Char) (behind : Text) : Prop where
  line_eq : line = before ++ q :: behind
  isQuote : q = '"' ∨ q = '\''
  outside : ∀ v ∈ attributeValues attr line,
    v.start ≤ Text.bytes before → v.stop < Text.bytes before

/-- An opening that ends outside of the values starts outside of them: there is no
quote in it that could close one. -/
theorem OutsideQuote.outside_opening (hattr : '"' ∉ attr ∧ '\'' ∉ attr)
    {line before behind : Text} {q : Char} (h : OutsideQuote attr line before q behind)
    {done opening : Text} (hbefore : before ++ [q] = done ++ opening)
    (hopening : IsOpening attr q opening) {v : AttributeValue}
    (hv : v ∈ attributeValues attr line) (hstart : v.start ≤ Text.bytes done) :
    v.stop < Text.bytes done := by
  obtain ⟨init, rfl, hfree⟩ := hopening.eq_concat hattr
  rw [← List.append_assoc] at hbefore
  obtain rfl : before = done ++ init := List.append_cancel_right hbefore
  have hle : Text.bytes done ≤ Text.bytes (done ++ init) := by
    rw [Text.bytes_append]
    omega
  have hbeforequote := h.outside v hv (Nat.le_trans hstart hle)
  obtain ⟨q', front, rest, hstands⟩ := standsIn_of_mem hv
  apply Nat.lt_of_not_ge
  intro hge
  rw [hstands.stop_eq] at hge hbeforequote
  -- the character at the end of the value stands in the opening, before its quote
  have hline : front ++ v.text ++ rest = done ++ init ++ q :: behind := by
    rw [List.append_assoc, ← hstands.line_eq, h.line_eq]
  obtain ⟨x, hx, hrest⟩ := Text.parts_of_bytes_le hline (Nat.le_of_lt hbeforequote)
  have hne : x ≠ [] := by
    rintro rfl
    rw [hx, List.append_nil] at hbeforequote
    exact Nat.lt_irrefl _ hbeforequote
  obtain ⟨c, x', rfl⟩ := List.exists_cons_of_ne_nil hne
  obtain ⟨y, -, rfl⟩ := Text.parts_of_bytes_le hx hge
  have hclosed : v.closed = true := by
    cases hc : v.closed with
    | true => rfl
    | false =>
      rw [hstands.unclosed hc] at hrest
      cases hrest
  have hquote := hstands.closed_iff.mp hclosed
  rw [hrest] at hquote
  obtain rfl : c = q' := Option.some.inj hquote
  exact hfree c (by simp) hstands.isQuote

/-- Each value is opened by a quote outside of the values before it. -/
theorem exists_outsideQuote {line : Text} {v : AttributeValue}
    (hv : v ∈ attributeValues attr line) :
    ∃ before q behind, OutsideQuote attr line before q behind ∧
      v.start = Text.bytes (before ++ [q]) := by
  obtain ⟨q, front, rest, hstands⟩ := standsIn_of_mem hv
  obtain ⟨before, rfl⟩ : ∃ before, front = before ++ [q] := by
    rcases List.eq_nil_or_concat front with rfl | ⟨before, last, rfl⟩
    · cases hstands.quote_before
    · have hlast := hstands.quote_before
      rw [List.concat_eq_append, List.getLast?_concat] at hlast
      exact ⟨before, by rw [List.concat_eq_append, Option.some.inj hlast]⟩
  have hstart : v.start = Text.bytes before + 1 := by
    obtain ⟨done, opening, hfront, hopens⟩ := hstands.opened
    rw [hstands.start_eq, Text.bytes_append, hopens.isOpening.bytes_quote]
  refine ⟨before, q, v.text ++ rest, ⟨?_, hstands.isQuote, fun w hw hle => ?_⟩, hstands.start_eq⟩
  · rw [hstands.line_eq, List.append_assoc, List.singleton_append]
  · have hvstop : v.start ≤ v.stop := Nat.le_add_right _ _
    rcases eq_or_apart (spans_attributeValues attr line).apart hw hv with rfl | hbefore | hbehind
    · omega
    · omega
    · omega

/-- At a quote outside of the values before it a value is opened exactly when the
configured name ends the name in front, behind a boundary. -/
theorem OutsideQuote.opened_iff (hattr : ∀ c ∈ attr, isNamePart c = true)
    {line before behind : Text} {q : Char} (h : OutsideQuote attr line before q behind) :
    (∃ v ∈ attributeValues attr line, v.start = Text.bytes (before ++ [q])) ↔
    ∃ front, assignedName? before = some (front ++ attr) ∧
      Text.isBoundary front.getLast? attr.head? = true := by
  have hquotes : '"' ∉ attr ∧ '\'' ∉ attr :=
    ⟨fun hmem => not_quote_of_isNamePart (hattr _ hmem) (.inl rfl),
      fun hmem => not_quote_of_isNamePart (hattr _ hmem) (.inr rfl)⟩
  have hspans := spans_attributeValues attr line
  rw [← exists_opensAt_iff hattr h.isQuote behind]
  constructor
  · rintro ⟨v, hv, hstart⟩
    obtain ⟨q', front, rest, hstands⟩ := standsIn_of_mem hv
    have hline : front ++ (v.text ++ rest) = (before ++ [q]) ++ behind := by
      rw [← hstands.line_eq, h.line_eq, List.append_assoc, List.singleton_append]
    have hbytes : Text.bytes front = Text.bytes (before ++ [q]) := hstands.start_eq ▸ hstart
    obtain ⟨rfl, hrest⟩ := Text.eq_of_bytes_eq hline hbytes
    obtain rfl : q = q' := by
      have hlast := hstands.quote_before
      rw [List.getLast?_concat] at hlast
      exact Option.some.inj hlast
    obtain ⟨done, opening, hfront, hopens⟩ := hstands.opened
    rw [hrest] at hopens
    exact ⟨done, opening, hfront, hopens⟩
  · rintro ⟨done, opening, hbefore, hopens⟩
    have hline : [] ++ line = done ++ (opening ++ behind) := by
      rw [List.nil_append, h.line_eq, ← List.append_assoc, ← hbefore, List.append_assoc,
        List.singleton_append]
    rw [hbefore]
    exact hspans.opened hquotes hopens hline (Nat.zero_le _) fun v hv =>
      h.outside_opening hquotes hbefore hopens.isOpening hv

/-- **Values follow the ends of names.** Let the configured name consist of name
characters. Each value of a line is opened by a quote outside of the values before
it. At such a quote a value is opened exactly when an equals sign stands in front,
with optional blanks around it, and the name before that ends in the configured
one, behind a word boundary or as a whole. So the configured attribute itself is
read exactly when its name begins with a word character, and a longer name that
ends in it is read as well exactly when just one of the two characters where the
configured name begins is a word character. -/
theorem values_follow_name_ends {name : Text} (hname : ∀ c ∈ name, isNamePart c = true)
    (line : Text) :
    (∀ v ∈ attributeValues name line, ∃ before q behind,
      OutsideQuote name line before q behind ∧ v.start = Text.bytes (before ++ [q])) ∧
    ∀ before q behind, OutsideQuote name line before q behind →
      let opened := ∃ v ∈ attributeValues name line, v.start = Text.bytes (before ++ [q])
      (opened ↔ ∃ front, assignedName? before = some (front ++ name) ∧
        Text.isBoundary front.getLast? name.head? = true) ∧
      (assignedName? before = some name → (opened ↔ Text.isWord? name.head? = true)) ∧
      ∀ front c, assignedName? before = some (front ++ c :: name) →
        (opened ↔ Text.isWord c ≠ Text.isWord? name.head?) := by
  refine ⟨fun v hv => exists_outsideQuote hv, fun before q behind houtside => ?_⟩
  intro opened
  have hopened := houtside.opened_iff hname
  -- the name in front is one, so what stands in it before the configured one is known
  have hfront : ∀ front, assignedName? before = some (front ++ name) →
      (opened ↔ Text.isBoundary front.getLast? name.head? = true) := by
    intro front hassigned
    refine hopened.trans ⟨?_, fun hbound => ⟨front, hassigned, hbound⟩⟩
    rintro ⟨front', hassigned', hbound⟩
    rw [hassigned] at hassigned'
    rwa [List.append_cancel_right (Option.some.inj hassigned')]
  refine ⟨hopened, fun hassigned => ?_, fun front c hassigned => ?_⟩
  · rw [hfront [] hassigned]
    simp [Text.isBoundary, Text.isWord?]
  · have hlonger := hfront (front ++ [c]) (by rw [hassigned, List.append_assoc]; rfl)
    rw [hlonger, List.getLast?_concat]
    simp [Text.isBoundary, Text.isWord?]

namespace NameEnds

def name : Text := "styleName".toList

/-- A line with the attribute, and one with a longer name that ends in the same way. -/
def own : Text := "<p styleName = 'x'>".toList
def other : Text := "<p data-styleName=\"x\">".toList

end NameEnds

open NameEnds in
/-- The value of the attribute is read, blanks around the equals sign or not. -/
theorem values_follow_name_ends_own :
    (∀ c ∈ name, isNamePart c = true) ∧
    OutsideQuote name own "<p styleName = ".toList '\'' "x'>".toList ∧
    ∃ v ∈ attributeValues name own, v.start = 16 := by
  have hall : name.all isNamePart = true := by decide +kernel
  have hname : ∀ c ∈ name, isNamePart c = true := List.all_eq_true.mp hall
  have hvalues : attributeValues name own = [⟨16, "x".toList, true⟩] := by decide +kernel
  have houtside : OutsideQuote name own "<p styleName = ".toList '\'' "x'>".toList :=
    ⟨rfl, .inr rfl, by rw [hvalues]; decide⟩
  obtain ⟨-, hquotes⟩ := values_follow_name_ends hname own
  obtain ⟨-, hown, -⟩ := hquotes _ _ _ houtside
  exact ⟨hname, houtside, (hown (by decide +kernel)).mpr (by decide +kernel)⟩

open NameEnds in
/-- A longer name that ends in the configured one behind a mark has its value read
too, at a quote outside of all values; and a name that begins with a mark is not
found where it stands. -/
theorem value_of_another_attribute :
    (OutsideQuote name other "<p data-styleName=".toList '"' "x\">".toList ∧
      assignedName? "<p data-styleName=".toList = some "data-styleName".toList ∧
      ∃ v ∈ attributeValues name other, v.start = Text.bytes "<p data-styleName=\"".toList) ∧
    (OutsideQuote ":class".toList "<p :class='x'>".toList "<p :class=".toList '\'' "x'>".toList ∧
      assignedName? "<p :class=".toList = some ":class".toList ∧
      attributeValues ":class".toList "<p :class='x'>".toList = []) := by
  have hvalues : attributeValues name other = [⟨19, "x".toList, true⟩] := by decide +kernel
  have hnone : attributeValues ":class".toList "<p :class='x'>".toList = [] := by decide +kernel
  refine ⟨⟨⟨rfl, .inl rfl, by rw [hvalues]; decide⟩, by decide +kernel, ?_⟩,
    ⟨rfl, .inr rfl, by rw [hnone]; decide⟩, by decide +kernel, hnone⟩
  rw [hvalues]
  exact ⟨_, List.mem_singleton_self _, by decide⟩

end ClassLens
