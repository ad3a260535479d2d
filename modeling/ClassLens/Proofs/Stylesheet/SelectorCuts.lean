import ClassLens.Proofs.Stylesheet.Bytewise
import ClassLens.Proofs.Text.Split
import ClassLens.Proofs.Stylesheet.Subjects
/-
  Selector cuts — the classes of a selector list, found on bytes

  A selector list can be taken apart by its bytes: each scan looks at one byte
  after the other, and cuts the text at offsets it has counted. A cut is refused
  inside a character and past the end. The scans cut only next to ASCII bytes,
  and these are never inside a character, so no cut is refused and the classes
  are those of the scans by characters.

  What is proved:
    1. `scanBytes_encode` — a scan that ignores bytes from 128 on sees the characters;
    2. `splitSelectors?_eq`, `lastCompound?_eq`, `compoundClass?_eq` — the three
       scans, each with every cut it makes;
    3. `selectorClasses?_eq` — the classes of a selector list.
-/

namespace ClassLens

namespace Stylesheet

/-! ## Scans -/

/-- The state after a scan of bytes from an offset on, each with its offset and
as the character with its number. -/
def scanBytes {σ : Type} (f : σ → Nat → Char → σ) : σ → Nat → Bytes → σ
  | s, _, [] => s
  | s, i, b :: bs => scanBytes f (f s i (Char.ofUInt8 b)) (i + 1) bs

/-- The state after a scan of characters, each with its byte offset. -/
def scanText {σ : Type} (f : σ → Nat → Char → σ) : σ → Nat → Text → σ
  | s, _, [] => s
  | s, i, c :: cs => scanText f (f s i c) (i + c.utf8Size) cs

/-- Characters beyond ASCII do not change the state of a scan. -/
def IgnoresHigh {σ : Type} (f : σ → Nat → Char → σ) : Prop :=
  ∀ s i c, 0x80 ≤ c.toNat → f s i c = s

theorem scanBytes_high {σ : Type} {f : σ → Nat → Char → σ} (hf : IgnoresHigh f) (s : σ) (i : Nat)
    {high : Bytes} (hhigh : ∀ b ∈ high, 0x80 ≤ b.toNat) (bs : Bytes) :
    scanBytes f s i (high ++ bs) = scanBytes f s (i + high.length) bs := by
  induction high generalizing i with
  | nil => rfl
  | cons b high ih =>
    have hb : f s i (Char.ofUInt8 b) = s := by
      apply hf
      rw [Utf8.toNat_ofUInt8]
      exact hhigh b List.mem_cons_self
    rw [List.cons_append, scanBytes, hb, ih _ fun d hd => hhigh d (List.mem_cons_of_mem b hd),
      List.length_cons, Nat.add_assoc, Nat.add_comm 1]

/-- A scan that ignores bytes from 128 on sees the characters of the text. -/
theorem scanBytes_encode {σ : Type} {f : σ → Nat → Char → σ} (hf : IgnoresHigh f) (s : σ) (i : Nat)
    (cs : Text) : scanBytes f s i (Utf8.encode cs) = scanText f s i cs := by
  induction cs generalizing s i with
  | nil => rfl
  | cons c cs ih =>
    rw [Utf8.encode_cons, scanText]
    by_cases hc : c.toNat < 0x80
    · have hback : Char.ofUInt8 (UInt8.ofNat c.toNat) = c := Utf8.ofUInt8_ofNat hc
      rw [Text.encodeChar_of_lt hc, List.singleton_append, scanBytes, hback,
        Utf8.utf8Size_of_lt hc, ih]
    · have hhigh := Nat.le_of_not_lt hc
      rw [scanBytes_high hf s i fun b hb => Utf8.le_of_mem_encodeChar hhigh hb,
        String.length_utf8EncodeChar, hf s i c hhigh, ih]

/-! ## The three scans of a selector list -/

/-- The list taken apart up to a byte: the bracket depth, the offset of the
current piece, and the pieces before it, unless one could not be cut out. -/
structure Splitting where
  depth : Nat
  start : Nat
  pieces : Option (List (Nat × Text))

/-- The pieces with the one from the current start up to an offset. -/
def Splitting.cutAt (list : Text) (s : Splitting) (i : Nat) : Option (List (Nat × Text)) := do
  let pieces ← s.pieces
  let piece ← Text.slice? s.start i list
  return pieces ++ [(s.start, piece)]

def Splitting.next (list : Text) (s : Splitting) (i : Nat) (c : Char) : Splitting :=
  if c = ',' ∧ s.depth = 0 then ⟨0, i + 1, s.cutAt list i⟩
  else { s with depth := bracketDepth s.depth c }

/-- The selectors of a list, each cut out by its byte offsets. -/
def splitSelectors? (list : Text) : Option (List (Nat × Text)) :=
  (scanBytes (Splitting.next list) ⟨0, 0, some []⟩ 0 (Utf8.encode list)).cutAt list
    (Utf8.encode list).length

/-- The bracket depth and the offset behind the last combinator, after one more character. -/
def compoundStart (s : Nat × Nat) (i : Nat) (c : Char) : Nat × Nat :=
  if isCombinator c ∧ s.1 = 0 then (0, i + 1) else (bracketDepth s.1 c, s.2)

/-- The last compound of a selector, cut off at its byte offset. -/
def lastCompound? (selector : Text) : Option (Nat × Text) :=
  let start := (scanBytes compoundStart (0, 0) 0 (Utf8.encode selector)).2
  (Text.cut? start selector).map fun (_, compound) => (start, compound)

/-- The search for the class of a compound: going on, given up at a colon, or
refused a cut. -/
inductive ClassSearch where
  | going (depth : Nat) (found : Option (Nat × Text))
  | givenUp
  | refused

def ClassSearch.next (compound : Text) : ClassSearch → Nat → Char → ClassSearch
  | .going depth found, i, c =>
    if c = ':' ∧ depth = 0 then .givenUp
    else if c = '.' ∧ depth = 0 ∧ found.isNone then
      match Text.cut? i compound with
      | some (_, rest) => .going depth ((ClassName.leading? rest.tail).map fun name => (i, name))
      | none => .refused
    else .going (bracketDepth depth c) found
  | s, _, _ => s

def ClassSearch.result? : ClassSearch → Option (Option (Nat × Text))
  | .going _ found => some found
  | .givenUp => some none
  | .refused => none

/-- The class of a compound, its name read from what is behind its byte offset. -/
def compoundClass? (compound : Text) : Option (Option (Nat × Text)) :=
  (scanBytes (ClassSearch.next compound) (.going 0 none) 0 (Utf8.encode compound)).result?

/-- The class that a selector defines. -/
def subjectClass? (selector : Text) : Option (Option (Nat × Text)) := do
  let (start, compound) ← lastCompound? (Text.trimEnd selector)
  let found ← compoundClass? compound
  return found.map fun (offset, name) => (start + offset, name)

/-- The classes that a selector list defines. -/
def selectorClasses? (list : Text) : Option (List (Nat × Text)) := do
  let pieces ← splitSelectors? list
  let found ← pieces.mapM fun (start, selector) =>
    (subjectClass? selector).map fun class? =>
      class?.map fun (offset, name) => (start + offset, name)
  return firstOfName (found.filterMap id)

/-! ## What is ignored -/

theorem ne_of_high {c : Char} (hc : 0x80 ≤ c.toNat) {d : Char} (hd : d.toNat < 0x80) : c ≠ d := by
  rintro rfl
  omega

theorem bracketDepth_high {c : Char} (hc : 0x80 ≤ c.toNat) (depth : Nat) :
    bracketDepth depth c = depth := by
  have hopen : ¬ (c = '(' ∨ c = '[') := by
    rintro (rfl | rfl) <;> exact absurd hc (by decide)
  have hclose : ¬ (c = ')' ∨ c = ']') := by
    rintro (rfl | rfl) <;> exact absurd hc (by decide)
  simp [bracketDepth, hopen, hclose]

theorem ignoresHigh_splitting (list : Text) : IgnoresHigh (Splitting.next list) := by
  intro s i c hc
  have hcomma : c ≠ ',' := ne_of_high hc (by decide)
  simp [Splitting.next, hcomma, bracketDepth_high hc]

theorem ignoresHigh_compoundStart : IgnoresHigh compoundStart := by
  intro s i c hc
  have hnot : isCombinator c = false := by
    refine Bool.eq_false_iff.mpr fun h => ?_
    simp only [isCombinator, Bool.or_eq_true, decide_eq_true_eq] at h
    rcases h with (((((rfl | rfl) | rfl) | rfl) | rfl) | rfl) | rfl <;>
      exact absurd hc (by decide)
  simp [compoundStart, hnot, bracketDepth_high hc]

theorem ignoresHigh_classSearch (compound : Text) : IgnoresHigh (ClassSearch.next compound) := by
  intro s i c hc
  have hcolon : c ≠ ':' := ne_of_high hc (by decide)
  have hdot : c ≠ '.' := ne_of_high hc (by decide)
  cases s with
  | going depth found => simp [ClassSearch.next, hcolon, hdot, bracketDepth_high hc]
  | givenUp => rfl
  | refused => rfl

/-! ## Every cut succeeds -/

theorem scan_splitting {list : Text} (pre run cs : Text) (depth : Nat)
    (pieces : List (Nat × Text)) (hlist : list = pre ++ (run.reverse ++ cs)) :
    (scanText (Splitting.next list) ⟨depth, Text.bytes pre, some pieces⟩
        (Text.bytes pre + Text.bytes run) cs).cutAt list (Text.bytes list) =
      some (pieces ++ splitSelectors depth (Text.bytes pre) run cs) := by
  -- `pre` is cut into pieces already, and `run` is what was read of the next one
  induction cs generalizing pre run depth pieces with
  | nil =>
    have hcut := Text.slice?_append pre run.reverse []
    rw [List.append_nil, Text.bytes_reverse] at hcut
    rw [List.append_nil] at hlist
    have hend : Text.bytes list = Text.bytes pre + Text.bytes run := by
      rw [hlist, Text.bytes_append, Text.bytes_reverse]
    rw [scanText, splitSelectors, Splitting.cutAt, hend, hlist, hcut]
    rfl
  | cons c cs ih =>
    rw [scanText]
    by_cases hcomma : c = ',' ∧ depth = 0
    · obtain ⟨rfl, rfl⟩ := hcomma
      have hcut := Text.slice?_append pre run.reverse (',' :: cs)
      rw [Text.bytes_reverse, ← hlist] at hcut
      have hpiece : (⟨0, Text.bytes pre, some pieces⟩ : Splitting).cutAt list
          (Text.bytes pre + Text.bytes run) =
          some (pieces ++ [(Text.bytes pre, run.reverse)]) := by
        rw [Splitting.cutAt, hcut]
        rfl
      have hnext : Text.bytes (pre ++ (run.reverse ++ [','])) =
          Text.bytes pre + Text.bytes run + 1 := by
        simp only [Text.bytes_append, Text.bytes_reverse]
        exact (Nat.add_assoc _ _ _).symm
      have hrest := ih (pre ++ (run.reverse ++ [','])) [] 0
        (pieces ++ [(Text.bytes pre, run.reverse)]) (by simp [hlist])
      rw [hnext, Text.bytes_nil, Nat.add_zero] at hrest
      rw [Splitting.next, if_pos ⟨rfl, rfl⟩, hpiece, splitSelectors, if_pos ⟨rfl, rfl⟩]
      refine hrest.trans ?_
      simp
    · have hrest := ih pre (c :: run) (bracketDepth depth c) pieces (by simp [hlist])
      rw [Text.bytes_cons, Nat.add_comm c.utf8Size, ← Nat.add_assoc] at hrest
      rw [Splitting.next, if_neg hcomma, splitSelectors, if_neg hcomma]
      exact hrest

theorem splitSelectors?_eq (list : Text) :
    splitSelectors? list = some (splitSelectors 0 0 [] list) := by
  have h := @scan_splitting list [] [] list 0 [] rfl
  rw [splitSelectors?, scanBytes_encode (ignoresHigh_splitting list), Utf8.length_encode]
  exact h

theorem scan_compoundStart (cs run : Text) (depth start : Nat) :
    (scanText compoundStart (depth, start) (start + Text.bytes run) cs).2 =
      (lastCompound depth start run cs).1 := by
  induction cs generalizing run depth start with
  | nil => rfl
  | cons c cs ih =>
    rw [scanText, compoundStart, lastCompound]
    by_cases hcombinator : isCombinator c ∧ depth = 0
    · have hrest := ih [] 0 (start + Text.bytes run + 1)
      rw [if_pos hcombinator, if_pos hcombinator, utf8Size_of_isCombinator hcombinator.1]
      exact hrest
    · have hrest := ih (c :: run) (bracketDepth depth c) start
      rw [Text.bytes_cons, Nat.add_comm c.utf8Size, ← Nat.add_assoc] at hrest
      rw [if_neg hcombinator, if_neg hcombinator]
      exact hrest

theorem lastCompound?_eq (selector : Text) :
    lastCompound? selector = some (lastCompound 0 0 [] selector) := by
  have hscan : (scanBytes compoundStart (0, 0) 0 (Utf8.encode selector)).2 =
      (lastCompound 0 0 [] selector).1 := by
    rw [scanBytes_encode ignoresHigh_compoundStart]
    exact scan_compoundStart selector [] 0 0
  obtain ⟨before, hparts, hstart, -⟩ := @lastCompound_spec 0 0 [] selector rfl
  have hcut : Text.cut? (lastCompound 0 0 [] selector).1 selector =
      some (before, (lastCompound 0 0 [] selector).2) := by
    have h := Text.cut?_append before (lastCompound 0 0 [] selector).2
    rw [← hparts, ← Nat.zero_add (Text.bytes before), ← hstart] at h
    exact h
  simp only [lastCompound?, hscan, hcut, Option.map_some]

theorem scan_classSearch {compound : Text} (pre cs : Text) (depth : Nat)
    (found : Option (Nat × Text)) (hcompound : compound = pre ++ cs) :
    (scanText (ClassSearch.next compound) (.going depth found) (Text.bytes pre) cs).result? =
      some (compoundClass depth (Text.bytes pre) found cs) := by
  -- once the search has given up, it stays so
  have hgivenUp : ∀ (cs : Text) (i : Nat),
      scanText (ClassSearch.next compound) .givenUp i cs = .givenUp := by
    intro cs
    induction cs with
    | nil => exact fun _ => rfl
    | cons c cs ih => exact fun i => ih _
  induction cs generalizing pre depth found with
  | nil => rfl
  | cons c cs ih =>
    have hrest := fun depth found => ih (pre ++ [c]) depth found (by simp [hcompound])
    simp only [Text.bytes_append, Text.bytes_cons, Text.bytes_nil, Nat.add_zero] at hrest
    rw [scanText, compoundClass, ClassSearch.next]
    by_cases hcolon : c = ':' ∧ depth = 0
    · rw [if_pos hcolon, if_pos hcolon, hgivenUp]
      rfl
    rw [if_neg hcolon, if_neg hcolon]
    by_cases hdot : c = '.' ∧ depth = 0 ∧ found.isNone = true
    · have hcut : Text.cut? (Text.bytes pre) compound = some (pre, c :: cs) := by
        rw [hcompound]
        exact Text.cut?_append pre (c :: cs)
      obtain ⟨rfl, rfl, hnone⟩ := hdot
      simp only [hcut, hnone, and_self, if_true, List.tail_cons]
      exact hrest 0 _
    · simp only [if_neg hdot]
      exact hrest _ found

theorem compoundClass?_eq (compound : Text) :
    compoundClass? compound = some (compoundClass 0 0 none compound) := by
  have h := @scan_classSearch compound [] compound 0 none rfl
  rw [compoundClass?, scanBytes_encode (ignoresHigh_classSearch compound)]
  exact h

theorem subjectClass?_eq (selector : Text) :
    subjectClass? selector = some (subjectClass selector) := by
  simp [subjectClass?, lastCompound?_eq, compoundClass?_eq, subjectClass]

theorem mapM_eq_some_map {α β : Type} {f : α → Option β} {g : α → β} {l : List α}
    (h : ∀ a ∈ l, f a = some (g a)) : l.mapM f = some (l.map g) := by
  induction l with
  | nil => rfl
  | cons a l ih =>
    rw [List.mapM_cons, h a List.mem_cons_self, ih fun b hb => h b (List.mem_cons_of_mem a hb)]
    rfl

/-- No cut is refused, and the classes are those found by characters. -/
theorem selectorClasses?_eq (list : Text) :
    selectorClasses? list = some (selectorClasses list) := by
  have hall : (splitSelectors 0 0 [] list).mapM (fun (start, selector) =>
      (subjectClass? selector).map fun class? =>
        class?.map fun (offset, name) => (start + offset, name)) =
      some ((splitSelectors 0 0 [] list).map fun (start, selector) =>
        (subjectClass selector).map fun (offset, name) => (start + offset, name)) := by
    apply mapM_eq_some_map
    intro piece _
    simp only [subjectClass?_eq, Option.map_some]
  unfold selectorClasses? selectorClasses
  rw [splitSelectors?_eq, Option.bind_eq_bind, Option.bind_some, hall]
  rw [Option.bind_eq_bind, Option.bind_some, List.filterMap_map]
  rfl

end Stylesheet

end ClassLens
