import ClassLens.Proofs.Stylesheet.Comments
import ClassLens.Proofs.Text.Encoding
import ClassLens.Proofs.Text.Split
/-
  Bytewise — blanking comments in a buffer of bytes

  Comments can be blanked in place: a scan walks over the bytes of a text, and
  where a comment opens it cuts the text there, searches the end of the comment
  in what is behind the cut, overwrites the bytes in between and goes on behind
  them. Such a scan could be refused a cut, inside a character or past the end;
  it could overwrite half a character; it could fail to move on. None of this
  happens, and what it leaves are the bytes of the text with its comments
  blanked.

  What is proved:
    1. `charAt_eq_some_iff` — a byte below 128 is found where its character stands;
    2. `encode_blanked` — blanking bytes one by one blanks whole characters;
    3. `ByteScan.rounds_block`, `ByteScan.rounds_line`, `ByteScan.rounds_kept` —
       one round of the scan;
    4. `stripBytes?_eq` — the scan gets through, with the bytes of
       `stripComments`.
-/

namespace ClassLens

namespace Utf8

/-- The byte at an offset, as the character with its number. Below 128 that is
the character that the byte stands for. -/
def charAt (bytes : Bytes) (i : Nat) : Option Char := bytes[i]?.map Char.ofUInt8

theorem toNat_ofUInt8 (b : UInt8) : (Char.ofUInt8 b).toNat = b.toNat :=
  UInt8.toNat_toUInt32 b

theorem ofUInt8_ofNat {c : Char} (hc : c.toNat < 0x80) :
    Char.ofUInt8 (UInt8.ofNat c.toNat) = c := by
  rw [← Char.toNat_inj, toNat_ofUInt8, toNat_ofNat_of_lt (by omega)]

theorem charAt_ascii {c : Char} (hc : c.toNat < 0x80) (a b : Text) :
    charAt (encode (a ++ c :: b)) (Text.bytes a) = some c := by
  unfold charAt
  rw [encode_append, encode_cons, Text.encodeChar_of_lt hc, ← length_encode,
    List.getElem?_append_right (Nat.le_refl _), Nat.sub_self, List.singleton_append,
    List.getElem?_cons_zero, Option.map_some, ofUInt8_ofNat hc]

theorem charAt_high {c : Char} (hc : 0x80 ≤ c.toNat) (a b : Text) {j : Nat} (hj : j < c.utf8Size) :
    ∃ x, charAt (encode (a ++ c :: b)) (Text.bytes a + j) = some x ∧ 0x80 ≤ x.toNat := by
  have hlt : j < (String.utf8EncodeChar c).length := by rwa [String.length_utf8EncodeChar]
  refine ⟨Char.ofUInt8 (String.utf8EncodeChar c)[j], ?_, ?_⟩
  · unfold charAt
    rw [encode_append, encode_cons, ← length_encode,
      List.getElem?_append_right (Nat.le_add_right _ _), Nat.add_sub_cancel_left,
      List.getElem?_append_left hlt, List.getElem?_eq_getElem hlt]
    rfl
  · rw [toNat_ofUInt8]
    exact le_of_mem_encodeChar hc (List.getElem_mem hlt)

theorem charAt_eq_some_iff {d : Char} (hd : d.toNat < 0x80) (a b : Text) :
    charAt (encode (a ++ b)) (Text.bytes a) = some d ↔ b.head? = some d := by
  cases b with
  | nil =>
    have hnone : charAt (encode (a ++ [])) (Text.bytes a) = none := by
      unfold charAt
      rw [List.append_nil, ← length_encode, List.getElem?_eq_none (Nat.le_refl _), Option.map_none]
    rw [hnone]
    simp
  | cons c b =>
    by_cases hc : c.toNat < 0x80
    · rw [charAt_ascii hc]
      rfl
    · obtain ⟨x, hx, hhigh⟩ := charAt_high (Nat.le_of_not_lt hc) a b (Char.utf8Size_pos c)
      rw [Nat.add_zero] at hx
      rw [hx]
      constructor
      · intro heq
        cases heq
        omega
      · intro heq
        cases heq
        omega

end Utf8

namespace Text

/-- The byte offset at which a text first holds `part`, which is not empty. -/
def find? (part : Text) : Text → Option Nat
  | [] => none
  | c :: cs => if startsWith part (c :: cs) then some 0 else (find? part cs).map (c.utf8Size + ·)

end Text

namespace Stylesheet

/-- The blank that stands for a byte of a comment. -/
def blankByte (b : UInt8) : UInt8 := if b = 0x0A then 0x0A else 0x20

/-- A scan for comments in the middle of a text: the offset of the byte it
looks at, whether a line comment can start there, and the bytes as they are
after the comments so far were overwritten. -/
structure ByteScan where
  offset : Nat
  lineAllowed : Bool
  out : Bytes

namespace ByteScan

/-- The bytes up to `stop` overwritten, if they exist. -/
def blankTo (s : ByteScan) (stop : Nat) : Option ByteScan :=
  if s.offset ≤ stop ∧ stop ≤ s.out.length then
    some ⟨stop, s.lineAllowed, s.out.take s.offset ++
      (((s.out.drop s.offset).take (stop - s.offset)).map blankByte ++ s.out.drop stop)⟩
  else none

/-- One round: a comment is overwritten, or one byte passed over. There is no
result when the text cannot be cut where it has to be. -/
def step (css : Text) (s : ByteScan) : Option ByteScan :=
  let bytes := Utf8.encode css
  if Utf8.charAt bytes s.offset = some '/' ∧ Utf8.charAt bytes (s.offset + 1) = some '*' then
    (Text.cut? (s.offset + 2) css).bind fun (_, rest) =>
      s.blankTo <| match Text.find? ['*', '/'] rest with
        | some n => s.offset + 2 + n + 2
        | none => bytes.length
  else if Utf8.charAt bytes s.offset = some '/' ∧ Utf8.charAt bytes (s.offset + 1) = some '/' ∧
      s.lineAllowed = true then
    (Text.cut? s.offset css).bind fun (_, rest) =>
      s.blankTo <| match Text.find? ['\n'] rest with
        | some n => s.offset + n
        | none => bytes.length
  else
    (Utf8.charAt bytes s.offset).map fun c =>
      { s with offset := s.offset + 1, lineAllowed := allowsLine s.lineAllowed c }

/-- The bytes after the whole scan. There is no result when a round has none,
or does not move on. -/
def run (css : Text) (s : ByteScan) : Option Bytes :=
  if s.offset < (Utf8.encode css).length then
    match s.step css with
    | none => none
    | some s' => if s.offset < s'.offset then run css s' else none
  else some s.out
termination_by (Utf8.encode css).length - s.offset
decreasing_by omega

end ByteScan

/-- The bytes of a text with its comments blanked in place. -/
def stripBytes? (css : Text) : Option Bytes := ByteScan.run css ⟨0, true, Utf8.encode css⟩

/-! ## Blanking bytes -/

/-- Blanking bytes one by one blanks whole characters. -/
theorem encode_blanked (c : Char) :
    Utf8.encode (blanked c) = (String.utf8EncodeChar c).map blankByte := by
  unfold blanked
  split
  · rename_i hbreak
    rw [hbreak]
    rfl
  · rename_i hbreak
    -- only a line break has the byte of a line break
    have hbytes : ∀ b ∈ String.utf8EncodeChar c, blankByte b = 0x20 := by
      intro b hb
      refine if_neg fun heq => hbreak ?_
      by_cases hc : c.toNat < 0x80
      · rw [Text.encodeChar_of_lt hc, List.mem_singleton, heq] at hb
        rw [← Char.toNat_inj, ← Utf8.toNat_ofNat_of_lt (show c.toNat < 256 by omega), ← hb]
        rfl
      · have hhigh := Utf8.le_of_mem_encodeChar (Nat.le_of_not_lt hc) hb
        rw [heq] at hhigh
        exact absurd hhigh (by decide)
    have hspaces : ∀ n : Nat, Utf8.encode (List.replicate n ' ') = List.replicate n 0x20 := by
      intro n
      induction n with
      | zero => rfl
      | succ n ih =>
        rw [List.replicate_succ, Utf8.encode_cons, ih]
        rfl
    rw [hspaces, ← String.length_utf8EncodeChar]
    exact (List.map_eq_replicate_iff.mpr hbytes).symm

theorem encode_flatMap_blanked (cs : Text) :
    Utf8.encode (cs.flatMap blanked) = (Utf8.encode cs).map blankByte := by
  induction cs with
  | nil => rfl
  | cons c cs ih =>
    rw [List.flatMap_cons, Utf8.encode_append, encode_blanked, ih, Utf8.encode_cons,
      List.map_append]

/-! ## The ends of comments -/

theorem stripFrom_until {mode : CommentMode} {ending : Text}
    (hskip : ∀ c cs, Text.startsWith ending (c :: cs) = false →
      stripFrom mode (c :: cs) = blanked c ++ stripFrom mode cs) (cs : Text) :
    (∃ y rest, cs = y ++ (ending ++ rest) ∧ Text.find? ending cs = some (Text.bytes y) ∧
      stripFrom mode cs = y.flatMap blanked ++ stripFrom mode (ending ++ rest)) ∨
    Text.find? ending cs = none ∧ stripFrom mode cs = cs.flatMap blanked := by
  induction cs with
  | nil => exact .inr ⟨rfl, by cases mode <;> rfl⟩
  | cons c cs ih =>
    by_cases hend : Text.startsWith ending (c :: cs) = true
    · obtain ⟨rest, hrest⟩ := Text.startsWith_iff.mp hend
      exact .inl ⟨[], rest, hrest, by simp [Text.find?, hend], by simp [hrest]⟩
    · have hstep := hskip c cs (Bool.eq_false_iff.mpr hend)
      rcases ih with ⟨y, rest, rfl, hfind, hstrip⟩ | ⟨hfind, hstrip⟩
      · refine .inl ⟨c :: y, rest, rfl, ?_, ?_⟩
        · simp [Text.find?, hend, hfind]
        · simp [hstep, hstrip]
      · refine .inr ⟨?_, ?_⟩
        · simp [Text.find?, hend, hfind]
        · simp [hstep, hstrip]

theorem stripFrom_block (ok : Bool) (c : Char) (cs : Text)
    (h : Text.startsWith ['*', '/'] (c :: cs) = false) :
    stripFrom (.block ok) (c :: cs) = blanked c ++ stripFrom (.block ok) cs := by
  have hnot : ¬ (c = '*' ∧ cs.head? = some '/') := by
    rintro ⟨rfl, hnext⟩
    obtain ⟨rest, rfl⟩ := List.head?_eq_some_iff.mp hnext
    cases h
  simp [stripFrom, commentStep, hnot]

theorem stripFrom_line (c : Char) (cs : Text) (h : Text.startsWith ['\n'] (c :: cs) = false) :
    stripFrom .line (c :: cs) = blanked c ++ stripFrom .line cs := by
  have hnot : c ≠ '\n' := by
    rintro rfl
    cases h
  simp [stripFrom, commentStep, hnot]

/-! ## Rounds of the scan -/

namespace ByteScan

theorem blankTo_eq {done x rest : Text} {offset : Nat} (h : offset = Text.bytes done) (ok : Bool) :
    blankTo ⟨offset, ok, Utf8.encode (done ++ (x ++ rest))⟩ (offset + Text.bytes x) =
      some ⟨offset + Text.bytes x, ok, Utf8.encode (done ++ (x.flatMap blanked ++ rest))⟩ := by
  subst h
  have hlength : Text.bytes done + Text.bytes x ≤ (Utf8.encode (done ++ (x ++ rest))).length := by
    simp
  have htake : (Utf8.encode (done ++ (x ++ rest))).take (Text.bytes done) = Utf8.encode done := by
    rw [Utf8.encode_append, ← Utf8.length_encode, List.take_left]
  have hdrop : (Utf8.encode (done ++ (x ++ rest))).drop (Text.bytes done) =
      Utf8.encode x ++ Utf8.encode rest := by
    rw [Utf8.encode_append, ← Utf8.length_encode, List.drop_left, Utf8.encode_append]
  have hmiddle : (Utf8.encode x ++ Utf8.encode rest).take (Text.bytes x) = Utf8.encode x := by
    rw [← Utf8.length_encode, List.take_left]
  have hbehind : (Utf8.encode (done ++ (x ++ rest))).drop (Text.bytes done + Text.bytes x) =
      Utf8.encode rest := by
    rw [← List.drop_drop, hdrop, ← Utf8.length_encode x, List.drop_left]
  unfold blankTo
  simp only [htake, hdrop, hbehind, Nat.add_sub_cancel_left, hmiddle]
  rw [if_pos ⟨Nat.le_add_right _ _, hlength⟩, Utf8.encode_append, Utf8.encode_append,
    encode_flatMap_blanked]

theorem run_step {css : Text} {s s' : ByteScan} (hinside : s.offset < Text.bytes css)
    (hstep : step css s = some s') (hmoves : s.offset < s'.offset) : run css s = run css s' := by
  rw [run, Utf8.length_encode, if_pos hinside, hstep]
  exact if_pos hmoves

/-- Some rounds of the scan, from byte `a` of a text of which `todo` is left,
with the bytes of `done` made so far: they read `x` and write `y` in its place,
as blanking comments does. -/
structure Rounds (css a done : Text) (ok : Bool) (todo x y rest : Text) (ok' : Bool) : Prop where
  parts : todo = x ++ rest
  moves : x ≠ []
  bytes_eq : Text.bytes y = Text.bytes x
  strip_eq : stripFrom (.code ok) todo = y ++ stripFrom (.code ok') rest
  run_eq : run css ⟨Text.bytes a, ok, Utf8.encode (done ++ todo)⟩ =
    run css ⟨Text.bytes (a ++ x), ok', Utf8.encode (done ++ (y ++ rest))⟩

variable {css a done todo : Text} {ok : Bool}

theorem Rounds.ofBlankTo {x rest : Text} (hcss : css = a ++ todo)
    (hdone : Text.bytes a = Text.bytes done) (hparts : todo = x ++ rest) (hmoves : x ≠ [])
    (hstrip : stripFrom (.code ok) todo = x.flatMap blanked ++ stripFrom (.code ok) rest)
    (hstep : step css ⟨Text.bytes a, ok, Utf8.encode (done ++ todo)⟩ =
      blankTo ⟨Text.bytes a, ok, Utf8.encode (done ++ todo)⟩ (Text.bytes a + Text.bytes x)) :
    Rounds css a done ok todo x (x.flatMap blanked) rest ok := by
  have hpos : 0 < Text.bytes x := by
    obtain ⟨c, x, rfl⟩ := List.exists_cons_of_ne_nil hmoves
    have hsize := Char.utf8Size_pos c
    rw [Text.bytes_cons]
    omega
  have hinside : Text.bytes a < Text.bytes css := by
    rw [hcss, hparts, Text.bytes_append, Text.bytes_append]
    omega
  rw [hparts, blankTo_eq hdone, ← Text.bytes_append] at hstep
  refine ⟨hparts, hmoves, ?_, hstrip, ?_⟩
  · rw [← Utf8.length_encode, encode_flatMap_blanked, List.length_map, Utf8.length_encode]
  · rw [hparts]
    refine run_step hinside hstep ?_
    rw [Text.bytes_append]
    exact Nat.lt_add_of_pos_right hpos

theorem rounds_block {b : Text} (hcss : css = a ++ '/' :: '*' :: b)
    (hdone : Text.bytes a = Text.bytes done) :
    ∃ x rest, Rounds css a done ok ('/' :: '*' :: b) x (x.flatMap blanked) rest ok := by
  have hslash : Utf8.charAt (Utf8.encode css) (Text.bytes a) = some '/' := by
    rw [hcss]
    exact Utf8.charAt_ascii (by decide) a ('*' :: b)
  have hstar : Utf8.charAt (Utf8.encode css) (Text.bytes a + 1) = some '*' := by
    have h := Utf8.charAt_ascii (c := '*') (by decide) (a ++ ['/']) b
    rw [List.append_assoc, Text.bytes_append] at h
    rw [hcss]
    exact h
  have hcut : Text.cut? (Text.bytes a + 2) css = some (a ++ ['/', '*'], b) := by
    have h := Text.cut?_append (a ++ ['/', '*']) b
    rw [Text.bytes_append, List.append_assoc] at h
    rw [hcss]
    exact h
  have hopen : stripFrom (.code ok) ('/' :: '*' :: b) =
      ['/', '*'].flatMap blanked ++ stripFrom (.block ok) b := rfl
  have hsize : Text.bytes ['/', '*'] = 2 ∧ Text.bytes ['*', '/'] = 2 := ⟨rfl, rfl⟩
  rcases stripFrom_until (stripFrom_block ok) b with ⟨y, rest, rfl, hfind, hstrip⟩ | ⟨hfind, hstrip⟩
  · refine ⟨['/', '*'] ++ (y ++ ['*', '/']), rest, .ofBlankTo hcss hdone (by simp) (by simp) ?_ ?_⟩
    · rw [hopen, hstrip]
      simp [stripFrom, commentStep]
    · simp only [step, hslash, hstar, hcut, hfind, and_self, if_true, Option.bind_some]
      simp only [Text.bytes_append, hsize]
      congr 1
      omega
  · refine ⟨'/' :: '*' :: b, [], .ofBlankTo hcss hdone (by simp) (by simp) ?_ ?_⟩
    · rw [hopen, hstrip]
      simp [stripFrom]
    · simp only [step, hslash, hstar, hcut, hfind, and_self, if_true, Option.bind_some,
        Utf8.length_encode]
      rw [hcss, Text.bytes_append]

theorem rounds_line {b : Text} (hcss : css = a ++ '/' :: '/' :: b)
    (hdone : Text.bytes a = Text.bytes done) :
    ∃ x rest, Rounds css a done true ('/' :: '/' :: b) x (x.flatMap blanked) rest true := by
  have hslash : Utf8.charAt (Utf8.encode css) (Text.bytes a) = some '/' := by
    rw [hcss]
    exact Utf8.charAt_ascii (by decide) a ('/' :: b)
  have hsecond : Utf8.charAt (Utf8.encode css) (Text.bytes a + 1) = some '/' := by
    have h := Utf8.charAt_ascii (c := '/') (by decide) (a ++ ['/']) b
    rw [List.append_assoc, Text.bytes_append] at h
    rw [hcss]
    exact h
  have hcut : Text.cut? (Text.bytes a) css = some (a, '/' :: '/' :: b) := by
    rw [hcss]
    exact Text.cut?_append a _
  have hopen : stripFrom (.code true) ('/' :: '/' :: b) = stripFrom .line ('/' :: '/' :: b) := rfl
  rcases stripFrom_until stripFrom_line ('/' :: '/' :: b) with
    ⟨y, rest, hparts, hfind, hstrip⟩ | ⟨hfind, hstrip⟩
  · have hne : y ≠ [] := by
      rintro rfl
      cases hparts
    refine ⟨y, '\n' :: rest, .ofBlankTo hcss hdone hparts hne ?_ ?_⟩
    · rw [hopen, hstrip]
      rfl
    · simp [step, hslash, hsecond, hcut, hfind]
  · refine ⟨'/' :: '/' :: b, [], .ofBlankTo hcss hdone (by simp) (by simp) ?_ ?_⟩
    · rw [hopen, hstrip]
      simp [stripFrom]
    · have hlength : (Utf8.encode css).length = Text.bytes a + Text.bytes ('/' :: '/' :: b) := by
        rw [hcss, Utf8.length_encode, Text.bytes_append]
      simp [step, hslash, hsecond, hcut, hfind, hlength]

theorem step_pass {s : ByteScan} {x : Char}
    (hx : Utf8.charAt (Utf8.encode css) s.offset = some x)
    (hblock : ¬ (x = '/' ∧ Utf8.charAt (Utf8.encode css) (s.offset + 1) = some '*'))
    (hline : ¬ (x = '/' ∧ Utf8.charAt (Utf8.encode css) (s.offset + 1) = some '/' ∧
      s.lineAllowed = true)) :
    step css s = some ⟨s.offset + 1, allowsLine s.lineAllowed x, s.out⟩ := by
  simp only [step, hx, Option.some.injEq]
  rw [if_neg hblock, if_neg hline]
  rfl

theorem allowsLine_high {c : Char} (hc : 0x80 ≤ c.toNat) (ok : Bool) :
    allowsLine ok c = false := by
  have hmark : ¬ (c = '\n' ∨ c = '{' ∨ c = '}' ∨ c = ';') := by
    rintro (rfl | rfl | rfl | rfl) <;> exact absurd hc (by decide)
  have hblank : ¬ (c = ' ' ∨ c = '\t' ∨ c = '\r') := by
    rintro (rfl | rfl | rfl) <;> exact absurd hc (by decide)
  simp [allowsLine, hmark, hblank]

/-- Bytes from 128 on are passed over, and no line comment can start behind them. -/
theorem run_high (offset n : Nat) (ok : Bool) (out : Bytes) (hinside : offset + n ≤ Text.bytes css)
    (hhigh : ∀ j < n, ∃ x, Utf8.charAt (Utf8.encode css) (offset + j) = some x ∧
      0x80 ≤ x.toNat) :
    run css ⟨offset, if n = 0 then false else ok, out⟩ = run css ⟨offset + n, false, out⟩ := by
  induction n generalizing offset ok with
  | zero => rfl
  | succ n ih =>
    obtain ⟨x, hx, hx80⟩ := hhigh 0 (by omega)
    have hslash : x ≠ '/' := by
      rintro rfl
      exact absurd hx80 (by decide)
    have hstep : step css ⟨offset, ok, out⟩ = some ⟨offset + 1, false, out⟩ := by
      have h := step_pass (s := ⟨offset, ok, out⟩) hx (by simp [hslash]) (by simp [hslash])
      rwa [allowsLine_high hx80] at h
    have hrest := ih (offset + 1) false (by omega) fun j hj => by
      have h := hhigh (j + 1) (by omega)
      rwa [show offset + (j + 1) = offset + 1 + j by omega] at h
    rw [ite_self, Nat.add_assoc, Nat.add_comm 1 n] at hrest
    rw [if_neg (by omega), run_step (show offset < _ by omega) hstep (Nat.lt_succ_self _), hrest]

theorem rounds_kept {c : Char} {b : Text} (hcss : css = a ++ c :: b)
    (hblock : ¬ (c = '/' ∧ b.head? = some '*'))
    (hline : ¬ (c = '/' ∧ b.head? = some '/' ∧ ok = true)) :
    Rounds css a done ok (c :: b) [c] [c] b (allowsLine ok c) := by
  refine ⟨rfl, List.cons_ne_nil c [], rfl, ?_, ?_⟩
  · simp only [stripFrom, commentStep, if_neg hblock, if_neg hline]
    rfl
  have hpos := Char.utf8Size_pos c
  have hinside : Text.bytes a + c.utf8Size ≤ Text.bytes css := by
    rw [hcss, Text.bytes_append, Text.bytes_cons]
    omega
  rw [Text.bytes_append, Text.bytes_cons, Text.bytes_nil, Nat.add_zero]
  by_cases hc : c.toNat < 0x80
  · have hsize := Utf8.utf8Size_of_lt hc
    have hx : Utf8.charAt (Utf8.encode css) (Text.bytes a) = some c := by
      rw [hcss]
      exact Utf8.charAt_ascii hc a b
    -- behind an ASCII character the next byte is the first one of the next character
    have hnext : ∀ d : Char, d.toNat < 0x80 →
        Utf8.charAt (Utf8.encode css) (Text.bytes a + 1) = some d → b.head? = some d := by
      intro d hd hat
      rw [← Utf8.charAt_eq_some_iff hd (a ++ [c]) b, List.append_assoc, Text.bytes_append]
      simp only [Text.bytes_cons, Text.bytes_nil, hsize, List.singleton_append, Nat.add_zero]
      rwa [← hcss]
    rw [hsize]
    apply run_step (show Text.bytes a < _ by omega) _ (Nat.lt_succ_self _)
    apply step_pass hx
    · exact fun h => hblock ⟨h.1, hnext '*' (by decide) h.2⟩
    · exact fun h => hline ⟨h.1, hnext '/' (by decide) h.2.1, h.2.2⟩
  · have hhigh := Nat.le_of_not_lt hc
    have hrun := run_high _ _ ok (Utf8.encode (done ++ c :: b)) hinside fun j hj => by
      rw [hcss]
      exact Utf8.charAt_high hhigh a b hj
    rw [if_neg (by omega)] at hrun
    rw [allowsLine_high hhigh]
    exact hrun

/-- From every place between characters the scan goes on. -/
theorem exists_rounds (ok : Bool) {c : Char} {b : Text} (hcss : css = a ++ c :: b)
    (hdone : Text.bytes a = Text.bytes done) :
    ∃ x y rest ok', Rounds css a done ok (c :: b) x y rest ok' := by
  by_cases hblock : c = '/' ∧ b.head? = some '*'
  · obtain ⟨rfl, hnext⟩ := hblock
    obtain ⟨b, rfl⟩ := List.head?_eq_some_iff.mp hnext
    obtain ⟨x, rest, hrounds⟩ := rounds_block hcss hdone
    exact ⟨x, _, rest, ok, hrounds⟩
  by_cases hline : c = '/' ∧ b.head? = some '/' ∧ ok = true
  · obtain ⟨rfl, hnext, rfl⟩ := hline
    obtain ⟨b, rfl⟩ := List.head?_eq_some_iff.mp hnext
    obtain ⟨x, rest, hrounds⟩ := rounds_line hcss hdone
    exact ⟨x, _, rest, true, hrounds⟩
  · exact ⟨[c], [c], b, allowsLine ok c, rounds_kept hcss hblock hline⟩

/-- The scan gets through what is left of a text, and leaves it blanked. -/
theorem run_eq (a done todo : Text) (ok : Bool) (hcss : css = a ++ todo)
    (hdone : Text.bytes a = Text.bytes done) :
    run css ⟨Text.bytes a, ok, Utf8.encode (done ++ todo)⟩ =
      some (Utf8.encode (done ++ stripFrom (.code ok) todo)) := by
  -- the induction is on the length of what is left, since a comment is one round
  induction hn : todo.length using Nat.strongRecOn generalizing a done todo ok with
  | _ n ih =>
    cases todo with
    | nil =>
      rw [run, Utf8.length_encode, if_neg (by simp [hcss])]
      rfl
    | cons c b =>
      obtain ⟨x, y, rest, ok', hrounds⟩ := exists_rounds ok hcss hdone
      have hlength := congrArg List.length hrounds.parts
      have hx := List.length_pos_iff.mpr hrounds.moves
      rw [List.length_append] at hlength
      have hrest := ih rest.length (by omega) (a ++ x) (done ++ y) rest ok'
        (by rw [hcss, hrounds.parts, List.append_assoc])
        (by rw [Text.bytes_append, Text.bytes_append, hdone, hrounds.bytes_eq]) rfl
      rw [hrounds.run_eq, hrounds.strip_eq, ← List.append_assoc, ← List.append_assoc]
      exact hrest

end ByteScan

/-- Blanking the comments of a text in place gets through, with the bytes of
the text without comments. -/
theorem stripBytes?_eq (css : Text) :
    stripBytes? css = some (Utf8.encode (stripComments css)) :=
  ByteScan.run_eq [] [] css true rfl rfl

end Stylesheet

end ClassLens
