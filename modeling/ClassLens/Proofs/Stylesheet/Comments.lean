import ClassLens.Proofs.Stylesheet.Scanning
import ClassLens.Stylesheet.Comment
/-
  Comments — what blanking them makes of each character

  The scan for comments marks every character as kept or not. A character that
  is kept stays as it is; one that is not becomes blanks of the same length,
  and a line break stays one. So whatever of the blanked text is no blank can
  be found in the text itself, at the same offset and on the same line.

  What is proved:
    1. `stripFrom_eq`, `map_fst_marksFrom` — the marks determine the blanked
       text, and give the text back;
    2. `flatMap_remains_parts`, `flatMap_remains_word` — a character, or a
       word, of the blanked text was kept;
    3. `slash_of_marksFrom` — behind a kept character a comment starts with a slash;
    4. `not_mem_blankBytes` — no byte of a kept stretch is blanked.
-/

namespace ClassLens

namespace Stylesheet

/-- Every character with whether it is kept. -/
def marksFrom : CommentMode → Text → List (Char × Bool)
  | _, [] => []
  | mode, c :: cs =>
    (c, (commentStep mode c cs.head?).1) :: marksFrom (commentStep mode c cs.head?).2 cs

/-- What remains of a marked character. -/
def remains : Char × Bool → Text
  | (c, true) => [c]
  | (c, false) => blanked c

theorem stripFrom_eq (mode : CommentMode) (css : Text) :
    stripFrom mode css = (marksFrom mode css).flatMap remains := by
  induction css generalizing mode with
  | nil => rfl
  | cons c cs ih =>
    rw [stripFrom, marksFrom, List.flatMap_cons, ← ih]
    rcases commentStep mode c cs.head? with ⟨kept, mode'⟩
    cases kept <;> rfl

theorem map_fst_marksFrom (mode : CommentMode) (css : Text) :
    (marksFrom mode css).map (·.1) = css := by
  induction css generalizing mode with
  | nil => rfl
  | cons c cs ih => rw [marksFrom, List.map_cons, ih]

theorem map_fst_kept (word : Text) : (word.map fun c => (c, true)).map (·.1) = word := by
  rw [List.map_map]
  exact List.map_id word

/-! ## Sizes -/

theorem bytes_blanked (c : Char) : Text.bytes (blanked c) = c.utf8Size := by
  have hspaces : ∀ n : Nat, Text.bytes (List.replicate n ' ') = n := by
    intro n
    induction n with
    | zero => rfl
    | succ n ih =>
      have hspace : Char.utf8Size ' ' = 1 := rfl
      rw [List.replicate_succ, Text.bytes_cons, ih, hspace]
      omega
  unfold blanked
  split
  · rename_i hbreak
    rw [hbreak]
    rfl
  · exact hspaces c.utf8Size

theorem newlines_blanked (c : Char) : Text.newlines (blanked c) = Text.newlines [c] := by
  unfold blanked Text.newlines
  split
  · rename_i hbreak
    rw [hbreak]
  · rename_i hbreak
    simp [List.count_replicate, hbreak]

theorem mem_blanked {c x : Char} (h : x ∈ blanked c) : x = '\n' ∨ x = ' ' := by
  unfold blanked at h
  split at h
  · exact .inl (List.mem_singleton.mp h)
  · exact .inr (List.eq_of_mem_replicate h)

theorem bytes_flatMap_remains (marks : List (Char × Bool)) :
    Text.bytes (marks.flatMap remains) = Text.bytes (marks.map (·.1)) := by
  induction marks with
  | nil => rfl
  | cons m marks ih =>
    obtain ⟨c, kept⟩ := m
    have hremains : Text.bytes (remains (c, kept)) = c.utf8Size := by
      cases kept
      · exact bytes_blanked c
      · simp [remains]
    rw [List.flatMap_cons, Text.bytes_append, hremains, ih, List.map_cons, Text.bytes_cons]

theorem newlines_flatMap_remains (marks : List (Char × Bool)) :
    Text.newlines (marks.flatMap remains) = Text.newlines (marks.map (·.1)) := by
  induction marks with
  | nil => rfl
  | cons m marks ih =>
    obtain ⟨c, kept⟩ := m
    have hremains : Text.newlines (remains (c, kept)) = Text.newlines [c] := by
      cases kept
      · exact newlines_blanked c
      · rfl
    unfold Text.newlines at ih hremains ⊢
    rw [List.flatMap_cons, List.count_append, hremains, ih, List.map_cons, ← List.count_append,
      List.singleton_append]

theorem remains_ne_nil (m : Char × Bool) : remains m ≠ [] := by
  obtain ⟨c, kept⟩ := m
  cases kept
  · intro hnil
    have hbytes := bytes_blanked c
    have hpos := Char.utf8Size_pos c
    have hempty : blanked c = [] := hnil
    rw [hempty, Text.bytes_nil] at hbytes
    omega
  · exact List.cons_ne_nil c []

/-! ## What the blanked text holds -/

theorem flatMap_remains_parts {marks : List (Char × Bool)} {pre post : Text} {x : Char}
    (hx : x ≠ '\n' ∧ x ≠ ' ') (h : marks.flatMap remains = pre ++ x :: post) :
    ∃ before after, marks = before ++ (x, true) :: after ∧ before.flatMap remains = pre ∧
      after.flatMap remains = post := by
  induction marks generalizing pre with
  | nil => simp at h
  | cons m marks ih =>
    rw [List.flatMap_cons] at h
    rcases List.append_eq_append_iff.mp h with ⟨more, rfl, hrest⟩ | ⟨more, hhead, hrest⟩
    · obtain ⟨before, after, rfl, rfl, hafter⟩ := ih hrest
      exact ⟨m :: before, after, rfl, rfl, hafter⟩
    · cases more with
      | nil =>
        have hrest' : marks.flatMap remains = [] ++ x :: post := hrest.symm
        obtain ⟨before, after, rfl, hbefore, hafter⟩ := ih hrest'
        refine ⟨m :: before, after, rfl, ?_, hafter⟩
        rw [List.flatMap_cons, hhead, hbefore, List.append_nil]
        simp
      | cons y more =>
        -- the character is among what remains of this one, and blanks do not hold it
        obtain ⟨rfl, hpost⟩ := List.cons.inj hrest
        obtain ⟨c, kept⟩ := m
        cases kept with
        | false =>
          have hmem : x ∈ remains (c, false) := by
            rw [hhead]
            simp
          rcases mem_blanked hmem with hbreak | hspace
          · exact absurd hbreak hx.1
          · exact absurd hspace hx.2
        | true =>
          have hone : [c] = pre ++ x :: more := hhead
          obtain ⟨rfl, hcons⟩ : pre = [] ∧ [c] = x :: more := by
            cases pre with
            | nil => exact ⟨rfl, hone⟩
            | cons p pre => simp at hone
          cases hcons
          exact ⟨[], marks, rfl, rfl, hpost.symm⟩

theorem flatMap_remains_word {marks : List (Char × Bool)} {word rest : Text}
    (hword : ∀ c ∈ word, c ≠ '\n' ∧ c ≠ ' ') (h : marks.flatMap remains = word ++ rest) :
    ∃ after, marks = word.map (·, true) ++ after ∧ after.flatMap remains = rest := by
  induction word generalizing marks with
  | nil => exact ⟨marks, rfl, h⟩
  | cons c word ih =>
    have h' : marks.flatMap remains = [] ++ c :: (word ++ rest) := h
    obtain ⟨before, after, rfl, hbefore, hafter⟩ :=
      flatMap_remains_parts (hword c List.mem_cons_self) h'
    obtain rfl : before = [] := by
      cases before with
      | nil => rfl
      | cons m before =>
        rw [List.flatMap_cons, List.append_eq_nil_iff] at hbefore
        exact absurd hbefore.1 (remains_ne_nil m)
    obtain ⟨later, rfl, hlater⟩ := ih (fun d hd => hword d (List.mem_cons_of_mem c hd)) hafter
    exact ⟨later, rfl, hlater⟩

/-- A character is kept only outside comments, or at the end of one. -/
theorem mode_of_kept {mode : CommentMode} {c : Char} {next : Option Char}
    (h : (commentStep mode c next).1 = true) : ∃ ok, (commentStep mode c next).2 = .code ok := by
  cases mode <;> simp only [commentStep] at h ⊢ <;> grind

/-- Behind a kept character a comment starts with a slash. -/
theorem slash_of_marksFrom {mode : CommentMode} {css : Text} {before after : List (Char × Bool)}
    {x c : Char} (h : marksFrom mode css = before ++ (x, true) :: (c, false) :: after) :
    c = '/' := by
  induction css generalizing mode before with
  | nil => simp [marksFrom] at h
  | cons d css ih =>
    rw [marksFrom] at h
    cases before with
    | cons m before => exact ih (List.cons.inj h).2
    | nil =>
      -- the kept character leaves the scan in code, where only a slash opens a comment
      obtain ⟨hhead, hrest⟩ := List.cons.inj h
      obtain ⟨ok, hmode⟩ := mode_of_kept (Prod.mk.inj hhead).2
      rw [hmode] at hrest
      cases css with
      | nil => cases hrest
      | cons e css =>
        obtain ⟨rfl, hfalse⟩ := Prod.mk.inj (List.cons.inj hrest).1
        simp only [commentStep] at hfalse
        grind

/-! ## The bytes of comments -/

/-- The bytes of the characters that are not kept, counted from `start`. -/
def blankBytes (start : Nat) : List (Char × Bool) → List Nat
  | [] => []
  | (c, kept) :: marks =>
    (if kept then [] else List.range' start c.utf8Size) ++ blankBytes (start + c.utf8Size) marks

/-- The offsets of the bytes that blanking comments overwrites. -/
def commentBytes (css : Text) : List Nat := blankBytes 0 (marksFrom (.code true) css)

theorem blankBytes_append (start : Nat) (a b : List (Char × Bool)) :
    blankBytes start (a ++ b) =
      blankBytes start a ++ blankBytes (start + Text.bytes (a.map (·.1))) b := by
  induction a generalizing start with
  | nil => rfl
  | cons m a ih =>
    rw [List.cons_append, blankBytes, ih, blankBytes, List.append_assoc, List.map_cons,
      Text.bytes_cons, Nat.add_assoc]

theorem blankBytes_kept (start : Nat) (word : Text) :
    blankBytes start (word.map (·, true)) = [] := by
  induction word generalizing start with
  | nil => rfl
  | cons c word ih =>
    rw [List.map_cons, blankBytes, ih]
    rfl

theorem mem_blankBytes {start n : Nat} {marks : List (Char × Bool)}
    (h : n ∈ blankBytes start marks) :
    start ≤ n ∧ n < start + Text.bytes (marks.map (·.1)) := by
  induction marks generalizing start with
  | nil => cases h
  | cons m marks ih =>
    rw [blankBytes] at h
    rw [List.map_cons, Text.bytes_cons]
    rcases List.mem_append.mp h with h | h
    · split at h
      · cases h
      · rw [List.mem_range'_1] at h
        omega
    · have hlater := ih h
      omega

theorem not_mem_blankBytes {start n : Nat} {before after : List (Char × Bool)} {word : Text}
    (hfrom : start + Text.bytes (before.map (·.1)) ≤ n)
    (hto : n < start + Text.bytes (before.map (·.1)) + Text.bytes word) :
    n ∉ blankBytes start (before ++ (word.map (·, true) ++ after)) := by
  rw [blankBytes_append, blankBytes_append, blankBytes_kept, List.nil_append, map_fst_kept]
  -- what is blanked lies before the stretch or behind it
  intro hmem
  rcases List.mem_append.mp hmem with hmem | hmem
  · have hbound := (mem_blankBytes hmem).2
    omega
  · have hbound := (mem_blankBytes hmem).1
    omega

end Stylesheet

end ClassLens
