import ClassLens.Proofs.Stylesheet.Subjects
import ClassLens.Stylesheet.Extract
/-
  Source order — definitions come with increasing offsets

  A selector list names its classes from left to right, and the head of every
  block starts behind the opening brace of the block before. So the offsets of
  all definitions of a stylesheet increase strictly.

  What is proved:
    1. `selectorClasses_increasing` — the classes of one selector list;
    2. `headsFrom_increasing`, `head_eq_of_overlap` — the heads of the blocks;
    3. `definitions_increasing` — all definitions of a stylesheet.
-/

namespace ClassLens

namespace Stylesheet

/-! ## The classes of one selector list -/

theorem le_of_mem_splitSelectors {depth start : Nat} {run cs : Text} {piece : Nat × Text}
    (h : piece ∈ splitSelectors depth start run cs) : start ≤ piece.1 := by
  induction cs generalizing depth start run with
  | nil =>
    rw [splitSelectors, List.mem_singleton] at h
    exact Nat.le_of_eq (congrArg Prod.fst h).symm
  | cons c cs ih =>
    unfold splitSelectors at h
    split at h
    · rcases List.mem_cons.mp h with rfl | hlater
      · exact Nat.le_refl start
      · have hle := ih hlater
        omega
    · exact ih h

theorem splitSelectors_increasing (depth start : Nat) (run cs : Text) :
    (splitSelectors depth start run cs).Pairwise fun a b => a.1 + Text.bytes a.2 < b.1 := by
  induction cs generalizing depth start run with
  | nil => exact List.pairwise_singleton _ _
  | cons c cs ih =>
    unfold splitSelectors
    split
    · refine List.pairwise_cons.mpr ⟨fun piece hpiece => ?_, ih _ _ _⟩
      have hle := le_of_mem_splitSelectors hpiece
      rw [Text.bytes_reverse]
      omega
    · exact ih _ _ _

theorem selectorClasses_increasing (prelude : Text) :
    (selectorClasses prelude).Pairwise fun a b => a.1 < b.1 := by
  refine List.Pairwise.sublist (firstOfName_sublist _) ?_
  refine (splitSelectors_increasing 0 0 [] prelude).filterMap _ ?_
  rintro ⟨start, selector⟩ ⟨start', selector'⟩ hlt ⟨a, name⟩ ha ⟨b, name'⟩ hb
  obtain ⟨⟨offset, found⟩, hclass, heq⟩ := Option.map_eq_some_iff.mp ha
  obtain ⟨⟨offset', found'⟩, -, heq'⟩ := Option.map_eq_some_iff.mp hb
  cases heq
  cases heq'
  have hinside := (topClassAt_of_subjectClass hclass).classAt.lt_bytes
  simp only at hlt ⊢
  omega

/-! ## Heads -/

theorem le_of_mem_headsFrom {start : Nat} {run cs : Text} {h : Head}
    (hmem : h ∈ headsFrom start run cs) : start ≤ h.start := by
  induction cs generalizing start run with
  | nil => cases hmem
  | cons c cs ih =>
    unfold headsFrom at hmem
    split at hmem
    · rcases List.mem_cons.mp hmem with rfl | hlater
      · exact Nat.le_refl start
      · have hle := ih hlater
        omega
    · split at hmem
      · have hle := ih hmem
        omega
      · exact ih hmem

theorem headsFrom_increasing (start : Nat) (run cs : Text) :
    (headsFrom start run cs).Pairwise fun h h' => h.brace < h'.start := by
  induction cs generalizing start run with
  | nil => exact List.Pairwise.nil
  | cons c cs ih =>
    unfold headsFrom
    split
    · refine List.pairwise_cons.mpr ⟨fun later hlater => ?_, ih _ _⟩
      have hle := le_of_mem_headsFrom hlater
      show start + Text.bytes run.reverse < later.start
      rw [Text.bytes_reverse]
      omega
    · split
      · exact ih _ _
      · exact ih _ _

/-- Two heads that overlap are one. -/
theorem head_eq_of_overlap {cs : Text} {h h' : Head} (hmem : h ∈ heads cs) (hmem' : h' ∈ heads cs)
    {offset : Nat} (hin : h.start ≤ offset ∧ offset < h.brace)
    (hin' : h'.start ≤ offset ∧ offset < h'.brace) : h = h' := by
  obtain ⟨front, back, hparts⟩ := List.append_of_mem hmem
  have hordered : (front ++ h :: back).Pairwise fun h h' => h.brace < h'.start :=
    hparts ▸ headsFrom_increasing 0 [] cs
  rw [List.pairwise_append, List.pairwise_cons] at hordered
  rw [hparts, List.mem_append, List.mem_cons] at hmem'
  rcases hmem' with hfront | heq | hback
  · have hlt := hordered.2.2 h' hfront h List.mem_cons_self
    omega
  · exact heq.symm
  · have hlt := hordered.2.1.1 h' hback
    omega

/-! ## Definitions -/

theorem eq_of_mem_ruleDefinitions {css stripped : Text} {h : Head} {d : Definition}
    (hd : d ∈ ruleDefinitions css stripped h) :
    ∃ relative, (relative, d.name) ∈ selectorClasses h.prelude ∧
      d = ⟨d.name, ⟨[]⟩, lineAt stripped (h.start + relative), declarations h.body,
        (Text.slice? h.selectorStart h.stop css).getD
          ((Text.slice? h.selectorStart h.stop stripped).getD []), h.start + relative⟩ := by
  unfold ruleDefinitions at hd
  split at hd
  · cases hd
  · obtain ⟨⟨relative, name⟩, hclass, hmade⟩ := List.mem_filterMap.mp hd
    unfold Definition.create at hmade
    refine ⟨relative, ?_, ?_⟩ <;> grind [Definition.atOffset]

theorem mem_ruleDefinitions {css stripped : Text} {h : Head} {d : Definition}
    (hd : d ∈ ruleDefinitions css stripped h) :
    ∃ relative, (relative, d.name) ∈ selectorClasses h.prelude ∧ d.offset = h.start + relative := by
  obtain ⟨relative, hclass, heq⟩ := eq_of_mem_ruleDefinitions hd
  exact ⟨relative, hclass, congrArg Definition.offset heq⟩

theorem offset_mem_head {css stripped : Text} {h : Head} {d : Definition}
    (hd : d ∈ ruleDefinitions css stripped h) : h.start ≤ d.offset ∧ d.offset < h.brace := by
  obtain ⟨relative, hclass, hoffset⟩ := mem_ruleDefinitions hd
  have hinside := (classAt_of_mem_selectorClasses hclass).lt_bytes
  unfold Head.brace
  omega

theorem ruleDefinitions_increasing (css stripped : Text) (h : Head) :
    (ruleDefinitions css stripped h).Pairwise fun d d' => d.offset < d'.offset := by
  unfold ruleDefinitions
  split
  · exact List.Pairwise.nil
  · refine (selectorClasses_increasing h.prelude).filterMap _ ?_
    rintro ⟨relative, name⟩ ⟨relative', name'⟩ hlt d hd d' hd'
    unfold Definition.create at hd hd'
    grind [Definition.atOffset]

/-- The definitions of a stylesheet come with increasing offsets. -/
theorem definitions_increasing (css : Text) :
    (definitions css).Pairwise fun d d' => d.offset < d'.offset := by
  refine List.pairwise_flatMap.mpr ⟨fun h _ => ruleDefinitions_increasing css _ h, ?_⟩
  refine (headsFrom_increasing 0 [] (stripComments css)).imp fun {h h'} hlt d hd d' hd' => ?_
  have hbefore := (offset_mem_head hd).2
  have hbehind := (offset_mem_head hd').1
  omega

end Stylesheet

end ClassLens
