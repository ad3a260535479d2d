import ClassLens.Proofs.Stylesheet.Subjects
import ClassLens.Proofs.Stylesheet.SelectorTree
/-
  Selector lists — the scans find what the tree of a list defines

  Three scans look for the classes of a list: for commas, for combinators, and
  for dots and colons, each outside brackets only. The text of every part of a
  tree brings each scan back to the depth it started at, so a scan sees just
  the characters it looks for where the tree has them.

  What is proved:
    1. `crosses`, `Nested.crosses_text`, `Compound.crosses_text` — the texts
       that a scan crosses without a find;
    2. `compoundClass_text` — the scan of a compound;
    3. `lastCompound_text`, `subjectClass_text` — the scan of a selector;
    4. `splitSelectors_listText` — the scan of a list;
    5. `selectorClasses_listText` — a list defines what its tree defines.
-/

namespace ClassLens

namespace Stylesheet

/-! ## Crossing a text -/

/-- The bracket depth behind a text in which no character that `p` holds of is
outside brackets, or `none` if there is one. -/
def crosses (p : Char → Bool) : Nat → Text → Option Nat
  | depth, [] => some depth
  | depth, c :: cs => if p c ∧ depth = 0 then none else crosses p (bracketDepth depth c) cs

theorem crosses_append (p : Char → Bool) (depth : Nat) (a b : Text) :
    crosses p depth (a ++ b) = (crosses p depth a).bind fun depth' => crosses p depth' b := by
  induction a generalizing depth with
  | nil => rfl
  | cons c a ih =>
    rw [List.cons_append, crosses, crosses]
    split
    · rfl
    · exact ih _

theorem crosses_append_of_eq {p : Char → Bool} {depth depth' : Nat} {a : Text}
    (h : crosses p depth a = some depth') (b : Text) :
    crosses p depth (a ++ b) = crosses p depth' b := by
  rw [crosses_append, h, Option.bind_some]

theorem bracketDepth_of_flat {c : Char} (h : isBracket c = false) (depth : Nat) :
    bracketDepth depth c = depth := by
  simp only [isBracket, Bool.or_eq_false_iff, decide_eq_false_iff_not] at h
  simp [bracketDepth, h]

theorem bracketDepth_opening (b : Bracket) (depth : Nat) :
    bracketDepth depth b.opening = depth + 1 := by
  cases b <;> rfl

theorem bracketDepth_closing (b : Bracket) (depth : Nat) :
    bracketDepth (depth + 1) b.closing = depth := by
  cases b <;> rfl

theorem crosses_flat {p : Char → Bool} {depth : Nat} {cs : Text}
    (h : ∀ c ∈ cs, isBracket c = false ∧ (p c = false ∨ 0 < depth)) :
    crosses p depth cs = some depth := by
  induction cs with
  | nil => rfl
  | cons c cs ih =>
    obtain ⟨hflat, hpass⟩ := h c List.mem_cons_self
    have hnot : ¬ (p c = true ∧ depth = 0) := by
      rintro ⟨hp, rfl⟩
      rcases hpass with hpass | hpass
      · rw [hp] at hpass
        cases hpass
      · exact absurd hpass (Nat.lt_irrefl 0)
    rw [crosses, if_neg hnot, bracketDepth_of_flat hflat]
    exact ih fun d hd => h d (List.mem_cons_of_mem c hd)

/-- What brackets hold is crossed whatever a scan looks for. -/
theorem Nested.crosses_text (p : Char → Bool) (n : Nested) (depth : Nat) :
    crosses p (depth + 1) n.text = some (depth + 1) := by
  induction n generalizing depth with
  | done => rfl
  | plain text flat next ih =>
    have htext : crosses p (depth + 1) text = some (depth + 1) := by
      apply crosses_flat
      intro c hc
      exact ⟨Bool.eq_false_iff.mpr (List.any_eq_false.mp flat c hc), .inr (Nat.succ_pos depth)⟩
    rw [Nested.text, crosses_append_of_eq htext, ih]
  | group opened closed inner next ihInner ihNext =>
    rw [Nested.text, crosses, if_neg (by simp), bracketDepth_opening,
      crosses_append_of_eq (ihInner (depth + 1)), crosses, if_neg (by simp), bracketDepth_closing,
      ihNext]

theorem crosses_bracketed {p : Char → Bool} (b : Bracket) (hp : p b.opening = false) (n : Nested) :
    crosses p 0 (b.opening :: (n.text ++ [b.closing])) = some 0 := by
  rw [crosses, if_neg (by simp [hp]), bracketDepth_opening,
    crosses_append_of_eq (n.crosses_text p 0), crosses, if_neg (by simp), bracketDepth_closing,
    crosses]

/-! ## The texts of a tree -/

/-- Whether a character can stand outside the brackets of a compound. -/
def isCompoundChar (c : Char) : Bool :=
  ClassName.isPart c || c ∈ ['#', '.', ':', '*', '[', '(']

/-- A scan that finds nothing in a compound outside its brackets. -/
def SparesCompounds (p : Char → Bool) : Prop := ∀ c, isCompoundChar c = true → p c = false

theorem SparesCompounds.parts {p : Char → Bool} (hp : SparesCompounds p) (c : Char)
    (h : ClassName.isPart c = true) : p c = false :=
  hp c (by simp [isCompoundChar, h])

theorem isBracket_of_isPart {c : Char} (h : ClassName.isPart c = true) : isBracket c = false := by
  refine Bool.eq_false_iff.mpr fun hbracket => ?_
  simp only [isBracket, Bool.or_eq_true, decide_eq_true_eq] at hbracket
  rcases hbracket with ((rfl | rfl) | rfl) | rfl <;> cases h

theorem sparesCompounds_comma : SparesCompounds (· = ',') := by
  intro c hc
  refine Bool.eq_false_iff.mpr fun hcomma => ?_
  obtain rfl := of_decide_eq_true hcomma
  cases hc

theorem sparesCompounds_isCombinator : SparesCompounds isCombinator := by
  intro c hc
  refine Bool.eq_false_iff.mpr fun hcombinator => ?_
  simp only [isCombinator, Bool.or_eq_true, decide_eq_true_eq] at hcombinator
  rcases hcombinator with (((((rfl | rfl) | rfl) | rfl) | rfl) | rfl) | rfl <;> cases hc

theorem crosses_cons {p : Char → Bool} {c : Char} (hflat : isBracket c = false) (hp : p c = false)
    (depth : Nat) (cs : Text) : crosses p depth (c :: cs) = crosses p depth cs := by
  rw [crosses, if_neg (by simp [hp]), bracketDepth_of_flat hflat]

theorem Ident.crosses_text {p : Char → Bool} (hp : ∀ c, ClassName.isPart c = true → p c = false)
    (name : Ident) (depth : Nat) : crosses p depth name.text = some depth := by
  apply crosses_flat
  intro c hc
  have hpart := isPart_of_mem name.valid hc
  exact ⟨isBracket_of_isPart hpart, .inl (hp c hpart)⟩

theorem crosses_elementText {p : Char → Bool} (hp : ∀ c, ClassName.isPart c = true → p c = false)
    (hstar : p '*' = false) (element : Option Element) :
    crosses p 0 (elementText element) = some 0 := by
  cases element with
  | none => rfl
  | some element =>
    cases element with
    | any => exact crosses_cons rfl hstar 0 []
    | named name => exact name.crosses_text hp 0

section

variable {p : Char → Bool} (hp : SparesCompounds p)

include hp

theorem Simple.crosses_text (part : Simple) : crosses p 0 part.text = some 0 := by
  have hname : ∀ name : Ident, crosses p 0 name.text = some 0 := fun name =>
    name.crosses_text hp.parts 0
  cases part with
  | id name => rw [Simple.text, crosses_cons rfl (hp '#' rfl), hname]
  | className name => rw [Simple.text, crosses_cons rfl (hp '.' rfl), hname]
  | attr inside => exact crosses_bracketed .square (hp '[' rfl) inside
  | pseudo isElement name arguments =>
    have harguments : crosses p 0 (argumentsText arguments) = some 0 := by
      cases arguments with
      | none => rfl
      | some inside => exact crosses_bracketed .round (hp '(' rfl) inside
    have hcolons : crosses p 0 (if isElement then [':', ':'] else [':']) = some 0 := by
      have hcolon := crosses_cons rfl (hp ':' rfl) 0
      cases isElement with
      | false => exact hcolon []
      | true => exact (hcolon [':']).trans (hcolon [])
    rw [Simple.text, crosses_append_of_eq hcolons, crosses_append_of_eq (hname name), harguments]

theorem Compound.crosses_text (c : Compound) : crosses p 0 c.text = some 0 := by
  have helement := crosses_elementText hp.parts (hp '*' rfl) c.element
  rw [Compound.text, crosses_append_of_eq helement]
  induction c.parts with
  | nil => rfl
  | cons part parts ih => rw [List.flatMap_cons, crosses_append_of_eq (part.crosses_text hp), ih]

end

/-! ## Compounds -/

/-- Whether the scan for the class of a compound looks for a character. -/
def endsOrNames (c : Char) : Bool := c = ':' || c = '.'

theorem compoundClass_crosses {depth depth' : Nat} {a : Text}
    (h : crosses endsOrNames depth a = some depth') (offset : Nat) (found : Option (Nat × Text))
    (rest : Text) :
    compoundClass depth offset found (a ++ rest) =
      compoundClass depth' (offset + Text.bytes a) found rest := by
  induction a generalizing depth offset with
  | nil =>
    cases h
    rfl
  | cons c a ih =>
    rw [crosses] at h
    split at h
    · cases h
    · rename_i hnot
      have hcolon : ¬ (c = ':' ∧ depth = 0) := fun hc => hnot ⟨by simp [endsOrNames, hc.1], hc.2⟩
      have hdot : ¬ (c = '.' ∧ depth = 0 ∧ found.isNone = true) :=
        fun hc => hnot ⟨by simp [endsOrNames, hc.1], hc.2.1⟩
      rw [List.cons_append, compoundClass, if_neg hcolon]
      simp only [if_neg hdot]
      rw [ih h, Text.bytes_cons, Nat.add_assoc]

theorem endsOrNames_of_isPart (c : Char) (h : ClassName.isPart c = true) :
    endsOrNames c = false := by
  refine Bool.eq_false_iff.mpr fun hfound => ?_
  simp only [endsOrNames, Bool.or_eq_true, decide_eq_true_eq] at hfound
  rcases hfound with rfl | rfl <;> cases h

theorem leading?_append {name after : Text} (hname : ClassName.isValid name = true)
    (hafter : Ends after) : ClassName.leading? (name ++ after) = some name := by
  cases name with
  | nil => cases hname
  | cons c name =>
    simp only [ClassName.isValid, Bool.and_eq_true] at hname
    have htake : (name ++ after).takeWhile ClassName.isPart = name := by
      rw [List.takeWhile_append_of_pos (List.all_eq_true.mp hname.2)]
      cases after with
      | nil => simp
      | cons d after => simp [hafter d rfl]
    simp [ClassName.leading?, hname.1, htake]

theorem ends_parts (parts : List Simple) : Ends (parts.flatMap Simple.text) := by
  cases parts with
  | nil => exact ends_nil
  | cons part parts =>
    rw [List.flatMap_cons]
    cases part with
    | id name => exact ends_cons rfl _
    | className name => exact ends_cons rfl _
    | attr inside => exact ends_cons rfl _
    | pseudo isElement name arguments => cases isElement <;> exact ends_cons rfl _

theorem compoundClass_className (name : Ident) {rest : Text} (hrest : Ends rest) (offset : Nat)
    (found : Option (Nat × Text)) :
    compoundClass 0 offset found ('.' :: (name.text ++ rest)) =
      compoundClass 0 (offset + Text.bytes (Simple.className name).text)
        (found.or (some (offset, name.text))) rest := by
  have hname := leading?_append name.valid hrest
  have hcross := name.crosses_text endsOrNames_of_isPart 0
  rw [compoundClass, if_neg (by decide), hname, show bracketDepth 0 '.' = 0 from rfl]
  rw [compoundClass_crosses hcross, Simple.text, Text.bytes_cons, Nat.add_assoc]
  cases found <;> rfl

theorem compoundClass_parts (parts : List Simple) (offset : Nat) (found : Option (Nat × Text)) :
    compoundClass 0 offset found (parts.flatMap Simple.text) =
      if parts.any Simple.isPseudo then none else found.or (partClasses offset parts).head? := by
  induction parts generalizing offset found with
  | nil => simp [compoundClass, partClasses]
  | cons part parts ih =>
    rw [List.flatMap_cons, List.any_cons]
    cases part with
    | id name =>
      have hcross : crosses endsOrNames 0 (Simple.id name).text = some 0 := by
        rw [Simple.text, crosses_cons rfl rfl, name.crosses_text endsOrNames_of_isPart]
      rw [compoundClass_crosses hcross, ih]
      rfl
    | attr inside =>
      have hcross : crosses endsOrNames 0 (Simple.attr inside).text = some 0 :=
        crosses_bracketed .square rfl inside
      rw [compoundClass_crosses hcross, ih]
      rfl
    | className name =>
      have hdot := compoundClass_className name (ends_parts parts) offset found
      refine hdot.trans ?_
      rw [ih, partClasses, List.head?_cons, Option.or_assoc]
      rfl
    | pseudo isElement name arguments =>
      cases isElement <;> rfl

theorem compoundClass_text (c : Compound) : compoundClass 0 0 none c.text = c.class? := by
  have helement := crosses_elementText endsOrNames_of_isPart rfl c.element
  rw [Compound.text, compoundClass_crosses helement, compoundClass_parts, Nat.zero_add,
    Option.none_or]
  rfl

/-! ## Selectors -/

theorem lastCompound_crosses {depth depth' : Nat} {a : Text}
    (h : crosses isCombinator depth a = some depth') (start : Nat) (run rest : Text) :
    lastCompound depth start run (a ++ rest) =
      lastCompound depth' start (a.reverse ++ run) rest := by
  induction a generalizing depth run with
  | nil =>
    cases h
    rfl
  | cons c a ih =>
    rw [crosses] at h
    split at h
    · cases h
    · rename_i hnot
      rw [List.cons_append, lastCompound, if_neg hnot, ih h, List.reverse_cons, List.append_assoc,
        List.singleton_append]

theorem lastCompound_combinators {a : Text} (ha : ∀ c ∈ a, isCombinator c = true) (start : Nat)
    {run : Text} (hrun : a ≠ [] ∨ run = []) (rest : Text) :
    lastCompound 0 start run (a ++ rest) =
      lastCompound 0 (start + Text.bytes run + Text.bytes a) [] rest := by
  induction a generalizing start run with
  | nil =>
    obtain rfl : run = [] := hrun.resolve_left fun hne => hne rfl
    simp
  | cons c a ih =>
    have hc := ha c List.mem_cons_self
    have ha' : ∀ d ∈ a, isCombinator d = true := fun d hd => ha d (List.mem_cons_of_mem c hd)
    rw [List.cons_append, lastCompound, if_pos ⟨hc, rfl⟩, ih ha' _ (.inr rfl), Text.bytes_cons,
      utf8Size_of_isCombinator hc, Text.bytes_nil, Nat.add_zero, Nat.add_assoc]

theorem Gap.cases_of_mem (g : Gap) {c : Char} (hc : c ∈ g.text) :
    c = ' ' ∨ c = '\t' ∨ c = '\r' ∨ c = '\n' := by
  have hwhite := List.all_eq_true.mp g.white c hc
  simpa only [isWhite, Bool.or_eq_true, decide_eq_true_eq, or_assoc] using hwhite

theorem Gap.isCombinator_of_mem (g : Gap) {c : Char} (hc : c ∈ g.text) : isCombinator c = true := by
  rcases g.cases_of_mem hc with rfl | rfl | rfl | rfl <;> rfl

theorem Gap.isBlank_of_mem (g : Gap) {c : Char} (hc : c ∈ g.text) : Text.isBlank c = true := by
  rcases g.cases_of_mem hc with rfl | rfl | rfl | rfl <;> rfl

theorem Joint.isCombinator_of_mem (j : Joint) {c : Char} (hc : c ∈ j.text) :
    isCombinator c = true := by
  cases j with
  | descendant gap ne => exact gap.isCombinator_of_mem hc
  | sign before mark after =>
    rcases List.mem_append.mp hc with hc | hc
    · exact before.isCombinator_of_mem hc
    · rcases List.mem_cons.mp hc with rfl | hc
      · cases mark <;> rfl
      · exact after.isCombinator_of_mem hc

theorem Joint.text_ne_nil (j : Joint) : j.text ≠ [] := by
  cases j with
  | descendant gap ne => exact ne
  | sign before mark after => simp [Joint.text]

/-- The compounds before the subject are passed over. -/
theorem lastCompound_lead (lead : List (Compound × Joint)) (start : Nat) (rest : Text) :
    lastCompound 0 start [] (leadText lead ++ rest) =
      lastCompound 0 (start + Text.bytes (leadText lead)) [] rest := by
  induction lead generalizing start with
  | nil => rfl
  | cons pair lead ih =>
    obtain ⟨compound, joint⟩ := pair
    have hcompound := compound.crosses_text sparesCompounds_isCombinator
    have hjoint : ∀ c ∈ joint.text, isCombinator c = true := fun c => joint.isCombinator_of_mem
    have htext : leadText ((compound, joint) :: lead) =
        compound.text ++ (joint.text ++ leadText lead) := by
      simp [leadText]
    rw [htext, List.append_assoc, List.append_assoc, lastCompound_crosses hcompound,
      lastCompound_combinators hjoint _ (.inl joint.text_ne_nil), ih, List.append_nil,
      Text.bytes_reverse, Text.bytes_append, Text.bytes_append, Nat.add_assoc, Nat.add_assoc]

theorem lastCompound_text (g : Gap) (lead : List (Compound × Joint)) (subject : Compound) :
    lastCompound 0 0 [] (g.text ++ (leadText lead ++ subject.text)) =
      (Text.bytes g.text + Text.bytes (leadText lead), subject.text) := by
  have hsubject := subject.crosses_text sparesCompounds_isCombinator
  have hwhole :=
    lastCompound_crosses hsubject (Text.bytes g.text + Text.bytes (leadText lead)) [] []
  rw [lastCompound_combinators (fun c => g.isCombinator_of_mem) _ (.inr rfl), lastCompound_lead]
  rw [List.append_nil, List.append_nil, lastCompound, List.reverse_reverse] at hwhole
  rw [Text.bytes_nil, Nat.zero_add, hwhole]

/-! ### What is trimmed -/

theorem trimEnd_append_blanks (a : Text) {blanks : Text}
    (h : ∀ c ∈ blanks, Text.isBlank c = true) : Text.trimEnd (a ++ blanks) = Text.trimEnd a := by
  unfold Text.trimEnd
  rw [List.reverse_append,
    List.dropWhile_append_of_pos fun c hc => h c (List.mem_reverse.mp hc)]

/-- The last character, if there is one, is no blank. -/
def Solid (a : Text) : Prop := ∀ c ∈ a.getLast?, Text.isBlank c = false

theorem Solid.trimEnd_eq {a : Text} (h : Solid a) : Text.trimEnd a = a := by
  unfold Text.trimEnd
  cases hreverse : a.reverse with
  | nil => simpa using (List.reverse_eq_nil_iff.mp hreverse).symm
  | cons c rest =>
    have hlast : a.getLast? = some c := by rw [← List.head?_reverse, hreverse, List.head?_cons]
    rw [List.dropWhile_cons_of_neg (by simp [h c hlast]), ← hreverse, List.reverse_reverse]

theorem solid_nil : Solid [] := fun _ hc => by cases hc

theorem solid_append_of_ne (a : Text) {b : Text} (hb : Solid b) (hne : b ≠ []) :
    Solid (a ++ b) := by
  intro c hc
  rw [List.getLast?_append, List.getLast?_eq_some_getLast hne, Option.some_or,
    ← List.getLast?_eq_some_getLast hne] at hc
  exact hb c hc

theorem solid_concat (a : Text) {c : Char} (h : Text.isBlank c = false) : Solid (a ++ [c]) := by
  refine solid_append_of_ne a (fun d hd => ?_) (List.cons_ne_nil c [])
  cases hd
  exact h

theorem Solid.append {a b : Text} (ha : Solid a) (hb : Solid b) : Solid (a ++ b) := by
  by_cases hnil : b = []
  · rw [hnil, List.append_nil]
    exact ha
  · exact solid_append_of_ne a hb hnil

theorem Ident.solid_text (name : Ident) : Solid name.text := fun _ hc =>
  isBlank_of_isPart (isPart_of_mem name.valid (List.mem_of_getLast? hc))

theorem Simple.solid_text (part : Simple) : Solid part.text := by
  cases part with
  | id name => exact (solid_concat [] rfl : Solid ['#']).append name.solid_text
  | className name => exact (solid_concat [] rfl : Solid ['.']).append name.solid_text
  | attr inside => exact solid_concat ('[' :: inside.text) rfl
  | pseudo isElement name arguments =>
    have hcolons : Solid (if isElement then [':', ':'] else [':']) := by
      cases isElement with
      | false => exact solid_concat [] rfl
      | true => exact solid_concat [':'] rfl
    have harguments : Solid (argumentsText arguments) := by
      cases arguments with
      | none => exact solid_nil
      | some inside => exact solid_concat ('(' :: inside.text) rfl
    exact hcolons.append (name.solid_text.append harguments)

theorem Compound.solid_text (c : Compound) : Solid c.text := by
  have helement : Solid (elementText c.element) := by
    cases c.element with
    | none => exact solid_nil
    | some element =>
      cases element with
      | any => exact solid_concat [] rfl
      | named name => exact name.solid_text
  refine helement.append ?_
  induction c.parts with
  | nil => exact solid_nil
  | cons part parts ih => exact part.solid_text.append ih

theorem Listed.trimEnd_text {item : Listed} (hne : item.selector.subject.text ≠ []) :
    Text.trimEnd item.text =
      item.before.text ++ (leadText item.selector.lead ++ item.selector.subject.text) := by
  have hsolid : Solid (item.before.text ++ item.selector.text) :=
    solid_append_of_ne _ (solid_append_of_ne _ item.selector.subject.solid_text hne) (by
      simp [Complex.text, hne])
  have htext : item.text = (item.before.text ++ item.selector.text) ++ item.after.text := by
    rw [Listed.text, List.append_assoc]
  rw [htext, trimEnd_append_blanks _ fun c => item.after.isBlank_of_mem, hsolid.trimEnd_eq,
    Complex.text]

/-- Without a subject, trimming leaves nothing, or ends at a sign. -/
theorem Listed.exists_trimEnd_text {item : Listed} (hnil : item.selector.subject.text = []) :
    ∃ (g : Gap) (lead : List (Compound × Joint)),
      Text.trimEnd item.text = g.text ++ leadText lead := by
  obtain ⟨before, ⟨lead, subject, joined⟩, after⟩ := item
  simp only [Listed.text, Complex.text] at hnil ⊢
  rw [hnil, List.append_nil]
  rcases List.eq_nil_or_concat lead with rfl | ⟨init, ⟨compound, joint⟩, rfl⟩
  · refine ⟨⟨[], rfl⟩, [], ?_⟩
    have hblank : ∀ c ∈ before.text ++ after.text, Text.isBlank c = true := fun c hc =>
      (List.mem_append.mp hc).elim before.isBlank_of_mem after.isBlank_of_mem
    exact trimEnd_append_blanks [] hblank
  · cases joint with
    | descendant gap ne =>
      exact absurd hnil (joined (compound, .descendant gap ne) (by simp) rfl)
    | sign gap mark gap' =>
      -- the same selector, without the white space behind its last sign
      let bare : Joint := .sign gap mark ⟨[], rfl⟩
      have hmark : Text.isBlank mark.char = false := by cases mark <;> rfl
      have hbare : leadText (init ++ [(compound, bare)]) =
          (leadText init ++ (compound.text ++ gap.text)) ++ [mark.char] := by
        simp [bare, leadText, Joint.text]
      have htext : before.text ++
            (leadText (init.concat (compound, .sign gap mark gap')) ++ after.text) =
          (before.text ++ leadText (init ++ [(compound, bare)])) ++ (gap'.text ++ after.text) := by
        simp [bare, leadText, Joint.text]
      have hblank : ∀ c ∈ gap'.text ++ after.text, Text.isBlank c = true := fun c hc =>
        (List.mem_append.mp hc).elim gap'.isBlank_of_mem after.isBlank_of_mem
      have hsolid : Solid (before.text ++ leadText (init ++ [(compound, bare)])) := by
        rw [hbare, ← List.append_assoc]
        exact solid_concat _ hmark
      refine ⟨before, init ++ [(compound, bare)], ?_⟩
      rw [htext, trimEnd_append_blanks _ hblank, hsolid.trimEnd_eq]

theorem Listed.subjectClass_text (item : Listed) :
    subjectClass item.text = item.selector.subject.class?.map fun (offset, name) =>
      (Text.bytes item.before.text + Text.bytes (leadText item.selector.lead) + offset, name) := by
  by_cases hnil : item.selector.subject.text = []
  · obtain ⟨g, lead, htrim⟩ := item.exists_trimEnd_text hnil
    have hlast := lastCompound_text g lead item.selector.subject
    have hclass := compoundClass_text item.selector.subject
    rw [hnil] at hlast hclass
    rw [List.append_nil] at hlast
    simp only [subjectClass, htrim, hlast]
    rw [← hclass]
    rfl
  · have hlast := lastCompound_text item.before item.selector.lead item.selector.subject
    simp only [subjectClass, item.trimEnd_text hnil, hlast, compoundClass_text]

/-! ## Lists -/

theorem splitSelectors_crosses {depth depth' : Nat} {a : Text}
    (h : crosses (· = ',') depth a = some depth') (start : Nat) (run rest : Text) :
    splitSelectors depth start run (a ++ rest) =
      splitSelectors depth' start (a.reverse ++ run) rest := by
  induction a generalizing depth run with
  | nil =>
    cases h
    rfl
  | cons c a ih =>
    rw [crosses] at h
    split at h
    · cases h
    · rename_i hnot
      rw [decide_eq_true_eq] at hnot
      rw [List.cons_append, splitSelectors, if_neg hnot, ih h, List.reverse_cons,
        List.append_assoc, List.singleton_append]

theorem crosses_comma_of_isCombinator {a : Text} (h : ∀ c ∈ a, isCombinator c = true) :
    crosses (· = ',') 0 a = some 0 := by
  apply crosses_flat
  intro c hc
  have hcombinator := h c hc
  simp only [isCombinator, Bool.or_eq_true, decide_eq_true_eq] at hcombinator
  rcases hcombinator with (((((rfl | rfl) | rfl) | rfl) | rfl) | rfl) | rfl <;>
    exact ⟨rfl, .inl rfl⟩

theorem crosses_comma_leadText (lead : List (Compound × Joint)) :
    crosses (· = ',') 0 (leadText lead) = some 0 := by
  induction lead with
  | nil => rfl
  | cons pair lead ih =>
    have hcompound := pair.1.crosses_text sparesCompounds_comma
    have hjoint : crosses (· = ',') 0 pair.2.text = some 0 :=
      crosses_comma_of_isCombinator fun c => pair.2.isCombinator_of_mem
    rw [leadText, List.flatMap_cons, List.append_assoc, crosses_append_of_eq hcompound,
      crosses_append_of_eq hjoint]
    exact ih

/-- No comma separates anything inside a selector of a list. -/
theorem Listed.crosses_comma (item : Listed) : crosses (· = ',') 0 item.text = some 0 := by
  have hgap : ∀ g : Gap, crosses (· = ',') 0 g.text = some 0 := fun g =>
    crosses_comma_of_isCombinator fun c => g.isCombinator_of_mem
  rw [Listed.text, Complex.text, crosses_append_of_eq (hgap item.before), List.append_assoc,
    crosses_append_of_eq (crosses_comma_leadText item.selector.lead),
    crosses_append_of_eq (item.selector.subject.crosses_text sparesCompounds_comma),
    hgap item.after]

/-- The selectors with their offsets in the text of their list. -/
def piecesFrom (start : Nat) : List Listed → List (Nat × Listed)
  | [] => []
  | item :: items => (start, item) :: piecesFrom (start + Text.bytes item.text + 1) items

theorem splitSelectors_listText (item : Listed) (items : List Listed) (start : Nat) :
    splitSelectors 0 start [] (listText (item :: items)) =
      (piecesFrom start (item :: items)).map fun piece => (piece.1, piece.2.text) := by
  induction items generalizing item start with
  | nil =>
    have hpiece := splitSelectors_crosses item.crosses_comma start [] []
    rw [List.append_nil, List.append_nil, splitSelectors, List.reverse_reverse] at hpiece
    exact hpiece
  | cons next items ih =>
    have htext : listText (item :: next :: items) =
        item.text ++ ',' :: listText (next :: items) := by
      simp [listText, Text.join]
    rw [htext, splitSelectors_crosses item.crosses_comma, splitSelectors, if_pos ⟨rfl, rfl⟩, ih,
      List.append_nil, List.reverse_reverse, Text.bytes_reverse]
    rfl

/-- Leaving out the names found so far, class by class, leaves out all repeats. -/
theorem firstOfName_eq_dropRepeats (classes : List (Nat × Text)) :
    firstOfName classes = dropRepeats classes := by
  have hfold : ∀ found : List (Nat × Text),
      classes.foldl (fun found c => if found.any (·.2 = c.2) then found else found ++ [c]) found =
        found ++ (dropRepeats classes).filter fun c => !found.any (·.2 = c.2) := by
    induction classes with
    | nil => simp [dropRepeats]
    | cons c cs ih =>
      intro found
      rw [List.foldl_cons, dropRepeats]
      by_cases hseen : found.any (·.2 = c.2) = true
      · rw [if_pos hseen, ih, List.filter_cons_of_neg (by simp [hseen]), List.filter_filter]
        congr 1
        apply List.filter_congr
        intro d _
        by_cases hname : d.2 = c.2
        · simp only [hname, hseen, Bool.not_true, Bool.false_and]
        · simp [hname]
      · rw [if_neg hseen, ih, List.filter_cons_of_pos (by simp [hseen]), List.filter_filter,
          List.append_assoc, List.singleton_append]
        congr 2
        apply List.filter_congr
        intro d _
        simp [List.any_append, Bool.not_or, eq_comm]
  exact (hfold []).trans (List.filter_eq_self.mpr fun _ _ => rfl)

theorem filterMap_piecesFrom (start : Nat) (items : List Listed) :
    ((piecesFrom start items).map fun piece => (piece.1, piece.2.text)).filterMap
        (fun (start, selector) =>
          (subjectClass selector).map fun (offset, name) => (start + offset, name)) =
      subjectClasses start items := by
  induction items generalizing start with
  | nil => rfl
  | cons item items ih =>
    rw [piecesFrom, List.map_cons, List.filterMap_cons, ih, subjectClasses]
    simp only [item.subjectClass_text, Option.map_map, Function.comp_def]
    cases item.selector.subject.class? <;> rfl

/-- A selector list defines the classes that its tree defines. -/
theorem selectorClasses_listText (items : List Listed) :
    selectorClasses (listText items) = definedBy items := by
  unfold selectorClasses definedBy
  rw [firstOfName_eq_dropRepeats]
  cases items with
  | nil => rfl
  | cons item items => rw [splitSelectors_listText, filterMap_piecesFrom]

/-- Brackets hide a comma and a dot, a pseudo-class takes its compound out, and
a repeated name is left out. -/
example :
    let tight : Gap := { text := [] }
    let blank : Gap := { text := [' '] }
    let quoted : Nested := .plain "k='.x,'".toList rfl .done
    let b : Ident := { text := ['b'] }
    let card : Ident := { text := "card".toList }
    let first : Complex := ⟨[(⟨some (.named card), []⟩, .sign blank .child blank)],
      ⟨some .any, [.attr quoted, .className b, .className card]⟩, by simp [Joint.isDescendant]⟩
    let second : Complex := ⟨[], ⟨none, [.className card, .pseudo false b none]⟩, by simp⟩
    let third : Complex := ⟨[], ⟨none, [.className b]⟩, by simp⟩
    let items : List Listed := [⟨tight, first, blank⟩, ⟨blank, second, tight⟩,
      ⟨tight, third, blank⟩]
    listText items = "card > *[k='.x,'].b.card , .card:b,.b ".toList ∧
      definedBy items = [(17, "b".toList)] :=
  ⟨rfl, rfl⟩

end Stylesheet

end ClassLens
