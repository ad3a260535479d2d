import ClassLens.Proofs.Stylesheet.Scanning
import ClassLens.Stylesheet.Selector
/-
  Subjects — where the classes of a selector list stand

  Every class that a selector list defines is written in it: at its offset
  there is a dot, then the name, and then nothing that could go on with the
  name. The three scans behind it, for commas, for combinators and for dots,
  each report a part of their text and the offset of that part. None of them
  reports anything inside brackets.

  What is proved:
    1. `splitSelectors_spec`, `lastCompound_spec`, `compoundClass_spec` — the
       part that each scan reports, with as many brackets open before it as
       when the scan began;
    2. `topClassAt_of_mem_selectorClasses`, `classAt_of_mem_selectorClasses` —
       every class stands at its offset, outside all brackets;
    3. `ClassAt.lt_bytes` — inside the list.
-/

namespace ClassLens

namespace Text

theorem trimEnd_append (cs : Text) :
    ∃ blanks, cs = trimEnd cs ++ blanks ∧ ∀ c ∈ blanks, isBlank c = true := by
  refine ⟨(cs.reverse.takeWhile isBlank).reverse, ?_, fun c hc => ?_⟩
  · unfold trimEnd
    rw [← List.reverse_append, List.takeWhile_append_dropWhile, List.reverse_reverse]
  · exact (List.all_eq_true.mp List.all_takeWhile) c (List.mem_reverse.mp hc)

end Text

namespace Stylesheet

/-- Nothing in front of the text could go on with a class name. -/
def Ends (after : Text) : Prop := ∀ c, after.head? = some c → ClassName.isPart c = false

theorem ends_nil : Ends [] := fun _ h => by cases h

theorem ends_cons {c : Char} (h : ClassName.isPart c = false) (cs : Text) : Ends (c :: cs) := by
  intro d hd
  cases hd
  exact h

theorem Ends.append {a b : Text} (ha : Ends a) (hb : Ends b) : Ends (a ++ b) := by
  cases a with
  | nil => exact hb
  | cons c a => exact ends_cons (ha c rfl) (a ++ b)

theorem leading?_eq_some {cs name : Text} (h : ClassName.leading? cs = some name) :
    ∃ after, cs = name ++ after ∧ Ends after := by
  cases cs with
  | nil => cases h
  | cons c cs =>
    simp only [ClassName.leading?] at h
    split at h
    · cases h
      refine ⟨cs.dropWhile ClassName.isPart, by simp, fun d hd => ?_⟩
      have hnot := List.head?_dropWhile_not ClassName.isPart cs
      rw [hd] at hnot
      simpa using hnot
    · cases h

theorem toNat_of_isPart {c : Char} (h : ClassName.isPart c = true) :
    (48 ≤ c.toNat ∧ c.toNat ≤ 57) ∨ (65 ≤ c.toNat ∧ c.toNat ≤ 90) ∨
      (97 ≤ c.toNat ∧ c.toNat ≤ 122) ∨ c.toNat = 95 ∨ c.toNat = 45 := by
  have hranges : ClassName.isPart c =
      (decide (c.val ≥ 65 ∧ c.val ≤ 90) || (c.val ≥ 97 && c.val ≤ 122) ||
        (c.val ≥ 48 && c.val ≤ 57) || c = '_' || c = '-') := rfl
  rw [hranges] at h
  simp only [Bool.or_eq_true, Bool.and_eq_true, decide_eq_true_eq, UInt32.le_iff_toNat_le,
    ge_iff_le] at h
  rcases h with (((hupper | hlower) | hdigit) | rfl) | rfl
  · exact .inr (.inl hupper)
  · exact .inr (.inr (.inl hlower))
  · exact .inl hdigit
  · exact .inr (.inr (.inr (.inl rfl)))
  · exact .inr (.inr (.inr (.inr rfl)))

theorem isPart_of_isStart {c : Char} (h : ClassName.isStart c = true) :
    ClassName.isPart c = true := by
  simp only [ClassName.isStart, ClassName.isPart, Char.isAlphanum, Bool.or_eq_true] at h ⊢
  rcases h with (halpha | hline) | hhyphen
  · exact .inl (.inl (.inl halpha))
  · exact .inl (.inr hline)
  · exact .inr hhyphen

theorem isPart_of_mem {name : Text} (h : ClassName.isValid name = true) {c : Char}
    (hc : c ∈ name) : ClassName.isPart c = true := by
  cases name with
  | nil => cases hc
  | cons first rest =>
    simp only [ClassName.isValid, Bool.and_eq_true] at h
    rcases List.mem_cons.mp hc with rfl | hc
    · exact isPart_of_isStart h.1
    · exact List.all_eq_true.mp h.2 c hc

theorem ends_of_blank {blanks : Text} (h : ∀ c ∈ blanks, Text.isBlank c = true) : Ends blanks := by
  intro c hc
  have hblank := h c (List.mem_of_mem_head? hc)
  simp only [Text.isBlank, Bool.or_eq_true, Bool.and_eq_true, decide_eq_true_eq, beq_iff_eq]
    at hblank
  refine Bool.eq_false_iff.mpr fun hpart => ?_
  have hnumber := toNat_of_isPart hpart
  omega

theorem isBlank_of_isPart {c : Char} (h : ClassName.isPart c = true) : Text.isBlank c = false := by
  refine Bool.eq_false_iff.mpr fun hblank => ?_
  have hends : Ends [c] := ends_of_blank fun d hd => by rwa [List.mem_singleton.mp hd]
  rw [hends c rfl] at h
  cases h

/-! ## The three scans -/

/-- A selector is a part of its list, with a comma or nothing behind it, and no
bracket before it is left open. -/
theorem splitSelectors_spec {depth start : Nat} {run cs : Text} {s : Nat} {piece : Text}
    (hdepth : run.reverse.foldl bracketDepth 0 = depth)
    (h : (s, piece) ∈ splitSelectors depth start run cs) :
    ∃ before after, run.reverse ++ cs = before ++ (piece ++ after) ∧
      s = start + Text.bytes before ∧ Ends after ∧ before.foldl bracketDepth 0 = 0 := by
  -- the piece so far is in `run`, and `start` is the offset of its first character
  induction cs generalizing depth start run with
  | nil =>
    simp only [splitSelectors, List.mem_singleton, Prod.mk.injEq] at h
    obtain ⟨rfl, rfl⟩ := h
    exact ⟨[], [], by simp, by simp, ends_nil, rfl⟩
  | cons c cs ih =>
    unfold splitSelectors at h
    split at h
    · rename_i hcomma
      have hends : Ends (c :: cs) := ends_cons (by rw [hcomma.1]; rfl) cs
      rcases List.mem_cons.mp h with h | h
      · cases h
        exact ⟨[], c :: cs, by simp, by simp, hends, rfl⟩
      · obtain ⟨before, after, heq, hs, hafter, htop⟩ := @ih 0 _ [] rfl h
        have hsize : Text.bytes [c] = 1 := by rw [hcomma.1]; rfl
        have hopen : bracketDepth 0 c = 0 := by rw [hcomma.1]; rfl
        refine ⟨run.reverse ++ c :: before, after, ?_, ?_, hafter, ?_⟩
        · simpa using heq
        · rw [hs, Text.bytes_append, Text.bytes_reverse, Text.bytes_cons]
          simp only [Text.bytes_cons, Text.bytes_nil] at hsize
          omega
        · rw [List.foldl_append, hdepth, hcomma.2, List.foldl_cons, hopen, htop]
    · have hnext : (c :: run).reverse.foldl bracketDepth 0 = bracketDepth depth c := by
        rw [List.reverse_cons, List.foldl_append, hdepth]
        rfl
      obtain ⟨before, after, heq, hs, hrest⟩ := ih hnext h
      exact ⟨before, after, by simpa using heq, hs, hrest⟩

theorem utf8Size_of_isCombinator {c : Char} (h : isCombinator c = true) : c.utf8Size = 1 := by
  simp only [isCombinator, Bool.or_eq_true, decide_eq_true_eq] at h
  rcases h with (((((rfl | rfl) | rfl) | rfl) | rfl) | rfl) | rfl <;> rfl

theorem bracketDepth_of_isCombinator {c : Char} (h : isCombinator c = true) (depth : Nat) :
    bracketDepth depth c = depth := by
  simp only [isCombinator, Bool.or_eq_true, decide_eq_true_eq] at h
  rcases h with (((((rfl | rfl) | rfl) | rfl) | rfl) | rfl) | rfl <;> rfl

/-- The last compound is the end of its selector, and no bracket before it is left open. -/
theorem lastCompound_spec {depth : Nat} (start : Nat) {run : Text} (cs : Text)
    (hdepth : run.reverse.foldl bracketDepth 0 = depth) :
    ∃ before, run.reverse ++ cs = before ++ (lastCompound depth start run cs).2 ∧
      (lastCompound depth start run cs).1 = start + Text.bytes before ∧
      before.foldl bracketDepth 0 = 0 := by
  induction cs generalizing depth start run with
  | nil => exact ⟨[], by simp [lastCompound], by simp [lastCompound], rfl⟩
  | cons c cs ih =>
    unfold lastCompound
    split
    · rename_i hcombinator
      obtain ⟨before, heq, hs, htop⟩ := @ih 0 (start + Text.bytes run + 1) [] rfl
      refine ⟨run.reverse ++ c :: before, by simpa using heq, ?_, ?_⟩
      · rw [hs, Text.bytes_append, Text.bytes_reverse, Text.bytes_cons,
          utf8Size_of_isCombinator hcombinator.1]
        omega
      · rw [List.foldl_append, hdepth, hcombinator.2, List.foldl_cons,
          bracketDepth_of_isCombinator hcombinator.1, htop]
    · have hnext : (c :: run).reverse.foldl bracketDepth 0 = bracketDepth depth c := by
        rw [List.reverse_cons, List.foldl_append, hdepth]
        rfl
      obtain ⟨before, heq, hrest⟩ := ih start hnext
      exact ⟨before, by simpa using heq, hrest⟩

/-- A class with a given offset stands in a text: a dot, its name, and nothing
that could go on with the name. -/
def ClassAt (cs : Text) (offset : Nat) (name : Text) : Prop :=
  ClassName.isValid name = true ∧ ∃ before after, cs = before ++ '.' :: (name ++ after) ∧
    Text.bytes before = offset ∧ Ends after

theorem ClassAt.embed {cs : Text} {offset : Nat} {name : Text} (h : ClassAt cs offset name)
    (pre : Text) {post : Text} (hpost : Ends post) :
    ClassAt (pre ++ (cs ++ post)) (Text.bytes pre + offset) name := by
  obtain ⟨hvalid, before, after, rfl, hoffset, hafter⟩ := h
  refine ⟨hvalid, pre ++ before, after ++ post, by simp, ?_, hafter.append hpost⟩
  rw [Text.bytes_append, hoffset]

theorem ClassAt.lt_bytes {cs : Text} {offset : Nat} {name : Text} (h : ClassAt cs offset name) :
    offset < Text.bytes cs := by
  obtain ⟨-, before, after, rfl, rfl, -⟩ := h
  have hdot : Char.utf8Size '.' = 1 := rfl
  rw [Text.bytes_append, Text.bytes_cons, hdot]
  omega

/-- A class stands in a text outside all brackets, of which `depth` are open
where the text begins. -/
def TopClassAt (depth : Nat) (cs : Text) (offset : Nat) (name : Text) : Prop :=
  ClassName.isValid name = true ∧ ∃ before after, cs = before ++ '.' :: (name ++ after) ∧
    Text.bytes before = offset ∧ Ends after ∧ before.foldl bracketDepth depth = 0

theorem TopClassAt.classAt {depth : Nat} {cs : Text} {offset : Nat} {name : Text}
    (h : TopClassAt depth cs offset name) : ClassAt cs offset name := by
  obtain ⟨hvalid, before, after, htext, hoffset, hafter, -⟩ := h
  exact ⟨hvalid, before, after, htext, hoffset, hafter⟩

theorem TopClassAt.embed {depth depth' : Nat} {cs pre post : Text} {offset : Nat} {name : Text}
    (h : TopClassAt depth' cs offset name) (hpre : pre.foldl bracketDepth depth = depth')
    (hpost : Ends post) :
    TopClassAt depth (pre ++ (cs ++ post)) (Text.bytes pre + offset) name := by
  obtain ⟨hvalid, before, after, rfl, hoffset, hafter, htop⟩ := h
  refine ⟨hvalid, pre ++ before, after ++ post, by simp, ?_, hafter.append hpost, ?_⟩
  · rw [Text.bytes_append, hoffset]
  · rw [List.foldl_append, hpre, htop]

theorem compoundClass_spec {depth offset : Nat} {found : Option (Nat × Text)} {cs : Text}
    {o : Nat} {name : Text} (h : compoundClass depth offset found cs = some (o, name)) :
    found = some (o, name) ∨
      ∃ relative, o = offset + relative ∧ TopClassAt depth cs relative name := by
  induction cs generalizing depth offset found with
  | nil => exact .inl h
  | cons c cs ih =>
    unfold compoundClass at h
    split at h
    · cases h
    · simp only at h
      rcases ih h with hfound | ⟨relative, ho, hat⟩
      · split at hfound
        · -- the class that starts with this very dot
          rename_i hdot
          obtain ⟨leading, hleading, heq⟩ := Option.map_eq_some_iff.mp hfound
          cases heq
          obtain ⟨after, rfl, hafter⟩ := leading?_eq_some hleading
          refine .inr ⟨0, rfl, ClassName.isValid_of_leading? hleading, [], after, ?_, rfl, hafter,
            hdot.2.1⟩
          rw [hdot.1]
          rfl
        · exact .inl hfound
      · have hpre : [c].foldl bracketDepth depth = bracketDepth depth c := rfl
        have hembed := hat.embed hpre ends_nil
        refine .inr ⟨c.utf8Size + relative, by omega, ?_⟩
        simpa using hembed

/-! ## Selector lists -/

theorem topClassAt_of_subjectClass {selector : Text} {offset : Nat} {name : Text}
    (h : subjectClass selector = some (offset, name)) : TopClassAt 0 selector offset name := by
  unfold subjectClass at h
  obtain ⟨⟨relative, found⟩, hclass, heq⟩ := Option.map_eq_some_iff.mp h
  cases heq
  obtain ⟨blanks, hselector, hblanks⟩ := Text.trimEnd_append selector
  obtain ⟨before, hcompound, hstart, htop⟩ :=
    @lastCompound_spec 0 0 [] (Text.trimEnd selector) rfl
  rcases compoundClass_spec hclass with hnone | ⟨r, hr, hat⟩
  · cases hnone
  · -- a name at the very end of the compound is ended by the blanks behind it
    have hembed := hat.embed htop (ends_of_blank hblanks)
    have hwhole : before ++ ((lastCompound 0 0 [] (Text.trimEnd selector)).2 ++ blanks) =
        selector := by
      rw [← List.append_assoc, ← hcompound]
      exact hselector.symm
    rw [hwhole] at hembed
    rw [hstart, hr, Nat.zero_add, Nat.zero_add]
    exact hembed

theorem firstOfName_sublist (classes : List (Nat × Text)) :
    (firstOfName classes).Sublist classes := by
  have hkeep : ∀ (classes found : List (Nat × Text)),
      (classes.foldl (fun found c => if found.any (·.2 = c.2) then found else found ++ [c])
        found).Sublist (found ++ classes) := by
    intro classes
    induction classes with
    | nil => intro found; simp
    | cons c rest ih =>
      intro found
      rw [List.foldl_cons]
      split
      · exact (ih found).trans ((List.sublist_cons_self c rest).append_left found)
      · simpa using ih (found ++ [c])
  exact hkeep classes []

/-- Every class that a selector list defines stands in it at its offset, outside all brackets. -/
theorem topClassAt_of_mem_selectorClasses {cs : Text} {offset : Nat} {name : Text}
    (h : (offset, name) ∈ selectorClasses cs) : TopClassAt 0 cs offset name := by
  obtain ⟨⟨start, selector⟩, hpiece, hclass⟩ :=
    List.mem_filterMap.mp ((firstOfName_sublist _).subset h)
  obtain ⟨⟨relative, found⟩, hsubject, heq⟩ := Option.map_eq_some_iff.mp hclass
  cases heq
  obtain ⟨before, after, hlist, hstart, hafter, htop⟩ :=
    @splitSelectors_spec 0 0 [] cs start selector rfl hpiece
  have hembed := (topClassAt_of_subjectClass hsubject).embed htop hafter
  rw [← hlist] at hembed
  rw [hstart, Nat.zero_add]
  exact hembed

theorem classAt_of_mem_selectorClasses {cs : Text} {offset : Nat} {name : Text}
    (h : (offset, name) ∈ selectorClasses cs) : ClassAt cs offset name :=
  (topClassAt_of_mem_selectorClasses h).classAt

end Stylesheet

end ClassLens
