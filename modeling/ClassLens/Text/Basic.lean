/-
  Text — characters, and offsets counted in bytes

  A text is its list of characters. Every offset, column and length of this
  project counts bytes of the text's UTF-8 form, except the columns an editor
  sends, which count UTF-16 units. An offset can fall inside a character;
  cutting a text there is refused.

  What this holds:
    1. `bytes` and `units`, the two lengths of a text;
    2. `cut?` and `slice?`, cutting at byte offsets;
    3. `split`, `contains`, `startsWith` and the order of texts;
    4. laws: cutting takes a text apart without loss (`cut?_append`,
       `append_of_cut?_eq_some`), and so does splitting (`join_split`).
-/

namespace ClassLens

/-- A text as its characters. -/
abbrev Text := List Char

namespace Text

/-- The number of bytes of the UTF-8 form. -/
def bytes : Text → Nat
  | [] => 0
  | c :: cs => c.utf8Size + bytes cs

/-- The number of UTF-16 units of one character. -/
def charUnits (c : Char) : Nat := if c.toNat < 0x10000 then 1 else 2

def units : Text → Nat
  | [] => 0
  | c :: cs => charUnits c + units cs

/-- The text before and after a byte offset, or `none` when the offset lies
inside a character or past the end. -/
def cut? : Nat → Text → Option (Text × Text)
  | 0, cs => some ([], cs)
  | _ + 1, [] => none
  | n + 1, c :: cs =>
    if c.utf8Size ≤ n + 1 then
      (cut? (n + 1 - c.utf8Size) cs).map fun (before, after) => (c :: before, after)
    else none

/-- The text between two byte offsets, or `none` when one of them lies inside a
character, past the end, or the first lies behind the second. -/
def slice? (start stop : Nat) (cs : Text) : Option Text := do
  let (before, _) ← cut? stop cs
  let (_, middle) ← cut? start before
  return middle

/-- The characters that start at or after a byte offset, with the offset of the
first of them (or the length of the text, when there is none). -/
def fromOffset (offset : Nat) : Nat → Text → Nat × Text
  | pos, [] => (pos, [])
  | pos, c :: cs =>
    if pos < offset then fromOffset offset (pos + c.utf8Size) cs else (pos, c :: cs)

/-- The pieces between the items that `p` holds of: one more than there are such items. -/
def split {α : Type} (p : α → Bool) : List α → List (List α)
  | [] => [[]]
  | c :: cs =>
    if p c then [] :: split p cs
    else match split p cs with
      | [] => [[c]]
      | piece :: rest => (c :: piece) :: rest

def startsWith (start : Text) (cs : Text) : Bool := start.isPrefixOf cs

/-- Whether `part` occurs somewhere in the text. -/
def contains (part : Text) : Text → Bool
  | [] => part.isEmpty
  | c :: cs => startsWith part (c :: cs) || contains part cs

/-- Whether `a` comes no later than `b` in the order of code points, which is
also the order of the UTF-8 bytes. -/
def le : Text → Text → Bool
  | [], _ => true
  | _ :: _, [] => false
  | a :: as, b :: bs => if a = b then le as bs else decide (a.toNat < b.toNat)

def sorted (ts : List Text) : List Text := ts.mergeSort le

/-- The number of line breaks. -/
def newlines (cs : Text) : Nat := cs.count '\n'

/-- The number of line breaks that start before a byte offset. -/
def newlinesBefore (offset : Nat) : Nat → Text → Nat
  | _, [] => 0
  | pos, c :: cs =>
    if pos < offset then
      (if c = '\n' then 1 else 0) + newlinesBefore offset (pos + c.utf8Size) cs
    else 0

/-- Texts, or other lists, joined with `sep` between them. -/
def join {α : Type} (sep : List α) : List (List α) → List α
  | [] => []
  | [t] => t
  | t :: ts => t ++ sep ++ join sep ts

/-- The decimal digits of a number. -/
def ofNat (n : Nat) : Text := Nat.toDigits 10 n

/-! ## Laws of `bytes`, `cut?` and `split` -/

@[simp] theorem bytes_nil : bytes [] = 0 := rfl

@[simp] theorem bytes_cons (c : Char) (cs : Text) : bytes (c :: cs) = c.utf8Size + bytes cs := rfl

@[simp] theorem bytes_append (a b : Text) : bytes (a ++ b) = bytes a + bytes b := by
  induction a with
  | nil => simp
  | cons c cs ih => simp [ih, Nat.add_assoc]

theorem cut?_append (a b : Text) : cut? (bytes a) (a ++ b) = some (a, b) := by
  induction a with
  | nil => cases b <;> rfl
  | cons c cs ih =>
    have hpos : 0 < c.utf8Size := Char.utf8Size_pos c
    obtain ⟨n, hn⟩ : ∃ n, bytes (c :: cs) = n + 1 := ⟨bytes (c :: cs) - 1, by simp; omega⟩
    have hle : c.utf8Size ≤ n + 1 := by simp at hn; omega
    have hrest : n + 1 - c.utf8Size = bytes cs := by simp at hn; omega
    rw [hn]
    simp [cut?, hle, hrest, ih]

/-- What a cut gives are the two parts of the text, the first one of the given length. -/
theorem append_of_cut?_eq_some {n : Nat} {cs a b : Text} (h : cut? n cs = some (a, b)) :
    a ++ b = cs ∧ bytes a = n := by
  induction cs generalizing n a b with
  | nil =>
    cases n with
    | zero =>
      simp only [cut?, Option.some.injEq, Prod.mk.injEq] at h
      obtain ⟨rfl, rfl⟩ := h
      exact ⟨rfl, rfl⟩
    | succ n => simp [cut?] at h
  | cons c cs ih =>
    cases n with
    | zero =>
      simp only [cut?, Option.some.injEq, Prod.mk.injEq] at h
      obtain ⟨rfl, rfl⟩ := h
      exact ⟨rfl, rfl⟩
    | succ n =>
      by_cases hle : c.utf8Size ≤ n + 1
      · simp only [cut?, hle, if_true, Option.map_eq_some_iff, Prod.mk.injEq] at h
        obtain ⟨⟨before, after⟩, hcut, rfl, rfl⟩ := h
        obtain ⟨happend, hbytes⟩ := ih hcut
        refine ⟨by rw [List.cons_append, happend], ?_⟩
        rw [bytes_cons, hbytes]
        omega
      · simp [cut?, hle] at h

theorem split_ne_nil {α : Type} (p : α → Bool) (cs : List α) : split p cs ≠ [] := by
  cases cs with
  | nil => simp [split]
  | cons c cs =>
    unfold split
    split
    · simp
    · split <;> simp

theorem join_split {α : Type} [DecidableEq α] (sep : α) (cs : List α) :
    join [sep] (split (· = sep) cs) = cs := by
  induction cs with
  | nil => rfl
  | cons c cs ih =>
    obtain ⟨piece, rest, hsplit⟩ := List.exists_cons_of_ne_nil (split_ne_nil (· = sep) cs)
    rw [hsplit] at ih
    by_cases hc : c = sep
    · subst hc
      simp [split, hsplit, join, ih]
    · cases rest with
      | nil =>
        simp only [join] at ih
        simp [split, hsplit, hc, join, ih]
      | cons next rest =>
        have hjoin : join [sep] ((c :: piece) :: next :: rest) = c :: cs := by
          rw [← ih]
          rfl
        simpa [split, hsplit, hc] using hjoin

end Text

end ClassLens
