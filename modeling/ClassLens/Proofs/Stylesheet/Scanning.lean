import ClassLens.Stylesheet.Comment
import ClassLens.Stylesheet.Block
/-
  Scanning — how the scanners pass over what does not concern them

  Blanking comments leaves a text without comments as it is. Looking for the
  brace that closes a block passes over flat text and over whole blocks.
  Looking for heads passes over the declarations of a block.

  What is proved:
    1. `stripFrom_of_uncommented`, with `uncommented_append_cons` to put
       uncommented texts together;
    2. `Passes`, which flat text and blocks have, and `closeBlock_of_passes` —
       a block ends at the first brace behind what is passed over;
    3. `headsFrom_flat`, `headsFrom_body`, `mem_heads` — where heads come from.
-/

namespace ClassLens

theorem Text.bytes_reverse (cs : Text) : bytes cs.reverse = bytes cs := by
  induction cs with
  | nil => rfl
  | cons c cs ih =>
    rw [List.reverse_cons, bytes_append, ih]
    simp [bytes, Nat.add_comm]

namespace Stylesheet

/-! ## Comments -/

/-- No slash has a slash or a star behind it. -/
def Uncommented : Text → Prop
  | [] => True
  | c :: cs => ¬ (c = '/' ∧ (cs.head? = some '*' ∨ cs.head? = some '/')) ∧ Uncommented cs

theorem stripFrom_of_uncommented {cs : Text} (h : Uncommented cs) (ok : Bool) :
    stripFrom (.code ok) cs = cs := by
  induction cs generalizing ok with
  | nil => rfl
  | cons c cs ih =>
    obtain ⟨hc, hcs⟩ := h
    have hstep : commentStep (.code ok) c cs.head? = (true, .code (allowsLine ok c)) := by
      have hblock : ¬ (c = '/' ∧ cs.head? = some '*') := fun hand => hc ⟨hand.1, .inl hand.2⟩
      have hline : ¬ (c = '/' ∧ cs.head? = some '/' ∧ ok = true) :=
        fun hand => hc ⟨hand.1, .inr hand.2.1⟩
      simp only [commentStep, if_neg hblock, if_neg hline]
    simp only [stripFrom, hstep, ih hcs]

theorem uncommented_of_not_contains {cs : Text} (hblock : Text.contains ['/', '*'] cs = false)
    (hline : Text.contains ['/', '/'] cs = false) : Uncommented cs := by
  induction cs with
  | nil => trivial
  | cons c cs ih =>
    simp only [Text.contains, Bool.or_eq_false_iff] at hblock hline
    refine ⟨?_, ih hblock.2 hline.2⟩
    rintro ⟨rfl, hnext⟩
    cases cs with
    | nil => simp at hnext
    | cons d cs =>
      rcases hnext with hnext | hnext
      · cases hnext
        simp [Text.startsWith] at hblock
      · cases hnext
        simp [Text.startsWith] at hline

/-- A text without slashes joins on to any text without comments. -/
theorem uncommented_append {a b : Text} (ha : ∀ c ∈ a, c ≠ '/') (hb : Uncommented b) :
    Uncommented (a ++ b) := by
  induction a with
  | nil => exact hb
  | cons c a ih =>
    have hc := ha c List.mem_cons_self
    exact ⟨fun hslash => hc hslash.1, ih fun d hd => ha d (List.mem_cons_of_mem c hd)⟩

/-- Two texts without comments make no comment with a mark between them. -/
theorem uncommented_append_cons {a b : Text} {c : Char} (ha : Uncommented a)
    (hc : c ≠ '/' ∧ c ≠ '*') (hb : Uncommented b) : Uncommented (a ++ c :: b) := by
  induction a with
  | nil => exact ⟨fun hslash => hc.1 hslash.1, hb⟩
  | cons d a ih =>
    obtain ⟨hd, ha⟩ := ha
    refine ⟨?_, ih ha⟩
    rintro ⟨rfl, hnext⟩
    cases a with
    | nil =>
      rcases hnext with hnext | hnext
      · exact hc.2 (Option.some.inj hnext)
      · exact hc.1 (Option.some.inj hnext)
    | cons e a => exact hd ⟨rfl, hnext⟩

/-! ## The end of a block -/

/-- The search for a closing brace passes over the text, however deep it is. -/
def Passes (a : Text) : Prop :=
  ∀ depth more, closeBlock (depth + 1) .outside (a ++ more) =
    (closeBlock (depth + 1) .outside more).map fun r => (a ++ r.1, r.2)

theorem Passes.append {a b : Text} (ha : Passes a) (hb : Passes b) : Passes (a ++ b) := by
  intro depth more
  rw [List.append_assoc, ha, hb, Option.map_map]
  simp [Function.comp_def]

theorem passes_of_flat {a : Text}
    (h : ∀ c ∈ a, c ≠ '{' ∧ c ≠ '}' ∧ c ≠ '"' ∧ c ≠ '\'') : Passes a := by
  intro depth more
  induction a with
  | nil => simp
  | cons c a ih =>
    obtain ⟨hopen, hclose, hdouble, hsingle⟩ := h c List.mem_cons_self
    have ih := ih fun d hd => h d (List.mem_cons_of_mem c hd)
    have hquoting : Quoting.next .outside c = .outside := by simp [Quoting.next, hdouble, hsingle]
    -- the character changes neither the depth nor the quoting
    rw [List.cons_append, closeBlock]
    simp only [hopen, hclose, and_false, false_and, if_false, hquoting, ih, Option.map_map]
    rfl

theorem Passes.block {a : Text} (h : Passes a) : Passes ('{' :: (a ++ ['}'])) := by
  intro depth more
  -- the closing brace is met one level deeper, so it does not end the search
  have hinner : closeBlock (depth + 2) .outside ('}' :: more) =
      (closeBlock (depth + 1) .outside more).map fun r => ('}' :: r.1, r.2) := by
    rw [closeBlock]
    simp [Quoting.next]
  rw [List.cons_append, closeBlock, List.append_assoc, List.singleton_append]
  have hopen : closeBlock (depth + 1 + 1) .outside (a ++ '}' :: more) =
      (closeBlock (depth + 1) .outside more).map fun r => (a ++ '}' :: r.1, r.2) := by
    rw [h (depth + 1) ('}' :: more), hinner, Option.map_map]
    rfl
  simp [Quoting.next, hopen, Function.comp_def]

theorem closeBlock_of_passes {a : Text} (h : Passes a) (rest : Text) :
    closeBlock 1 .outside (a ++ '}' :: rest) = some (a, rest) := by
  rw [h 0 ('}' :: rest)]
  simp [closeBlock]

/-! ## Heads -/

theorem headsFrom_flat {a : Text} (h : ∀ c ∈ a, c ≠ '{' ∧ c ≠ '}' ∧ c ≠ ';') (start : Nat)
    (run more : Text) :
    headsFrom start run (a ++ more) = headsFrom start (a.reverse ++ run) more := by
  induction a generalizing run with
  | nil => rfl
  | cons c a ih =>
    obtain ⟨hopen, hclose, hsemi⟩ := h c List.mem_cons_self
    rw [List.cons_append, headsFrom, if_neg hopen, if_neg (by simp [hclose, hsemi]),
      ih fun d hd => h d (List.mem_cons_of_mem c hd)]
    simp

theorem headsFrom_head {a : Text} (h : ∀ c ∈ a, c ≠ '{' ∧ c ≠ '}' ∧ c ≠ ';') (start : Nat)
    (more : Text) :
    headsFrom start [] (a ++ '{' :: more) =
      ⟨start, a, more⟩ :: headsFrom (start + Text.bytes a + 1) [] more := by
  rw [headsFrom_flat h, List.append_nil, headsFrom, if_pos rfl, List.reverse_reverse,
    Text.bytes_reverse]

theorem headsFrom_body {a : Text} (h : ∀ c ∈ a, c ≠ '{' ∧ c ≠ '}') (start : Nat)
    (run more : Text) :
    headsFrom start run (a ++ '}' :: more) =
      headsFrom (start + Text.bytes run + Text.bytes a + 1) [] more := by
  induction a generalizing start run with
  | nil => simp [headsFrom]
  | cons c a ih =>
    obtain ⟨hopen, hclose⟩ := h c List.mem_cons_self
    have ih := ih fun d hd => h d (List.mem_cons_of_mem c hd)
    rw [List.cons_append, headsFrom, if_neg hopen]
    -- a semicolon begins a new stretch, but the length passed over is the same
    by_cases hsemi : c = ';'
    · have hsize : Char.utf8Size ';' = 1 := rfl
      rw [if_pos (.inr hsemi), ih, hsemi, Text.bytes_cons, hsize, Text.bytes_nil]
      congr 1
      omega
    · rw [if_neg (by simp [hclose, hsemi]), ih, Text.bytes_cons, Text.bytes_cons]
      congr 1
      omega

/-- Behind a brace or a semicolon the search for heads starts anew. -/
theorem mem_headsFrom_of_mark {front rest : Text} {mark : Char} {h : Head}
    (hmark : mark = '{' ∨ mark = '}' ∨ mark = ';') (start : Nat) (run : Text)
    (hmem : h ∈ headsFrom (start + Text.bytes run + Text.bytes front + 1) [] rest) :
    h ∈ headsFrom start run (front ++ mark :: rest) := by
  induction front generalizing start run with
  | nil =>
    rw [List.nil_append, headsFrom]
    rcases hmark with rfl | rfl | rfl
    · exact List.mem_cons_of_mem _ hmem
    · exact hmem
    · exact hmem
  | cons c front ih =>
    -- a mark on the way begins a new stretch, but the length passed over is the same
    have hcut : c.utf8Size = 1 →
        h ∈ headsFrom (start + Text.bytes run + 1) [] (front ++ mark :: rest) := by
      intro hsize
      apply ih
      rw [Text.bytes_cons, hsize] at hmem
      rw [Text.bytes_nil, Nat.add_zero]
      rwa [← Nat.add_assoc] at hmem
    rw [List.cons_append, headsFrom]
    split
    · rename_i hopen
      exact List.mem_cons_of_mem _ (hcut (by rw [hopen]; rfl))
    · split
      · rename_i hclose
        exact hcut (by rcases hclose with rfl | rfl <;> rfl)
      · apply ih
        rw [Text.bytes_cons] at hmem
        rwa [Text.bytes_cons, Nat.add_comm c.utf8Size, ← Nat.add_assoc, Nat.add_assoc _ c.utf8Size]

theorem mem_heads {before prelude : Text}
    (hbefore : ∀ c ∈ before.getLast?, c = '{' ∨ c = '}' ∨ c = ';')
    (hprelude : ∀ c ∈ prelude, c ≠ '{' ∧ c ≠ '}' ∧ c ≠ ';') (rest : Text) :
    ⟨Text.bytes before, prelude, rest⟩ ∈ heads (before ++ (prelude ++ '{' :: rest)) := by
  unfold heads
  rcases List.eq_nil_or_concat before with rfl | ⟨front, mark, rfl⟩
  · rw [List.nil_append, headsFrom_head hprelude]
    exact List.mem_cons_self
  · have hmark := hbefore mark (by simp)
    have hsize : mark.utf8Size = 1 := by rcases hmark with rfl | rfl | rfl <;> rfl
    rw [List.concat_eq_append, List.append_assoc, List.singleton_append]
    apply mem_headsFrom_of_mark hmark
    rw [headsFrom_head hprelude]
    simp [hsize]

end Stylesheet

end ClassLens
