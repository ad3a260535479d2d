import ClassLens.Proofs.Text.Order
/-
  Encoding — a text and its bytes

  The bytes of a text determine it: reading them strictly gives the text back.
  A character beyond ASCII has only bytes from 128 on, so a byte below stands
  for an ASCII character wherever it occurs.

  What is proved:
    1. `length_encode` — how many bytes there are;
    2. `decode?_encode` — reading them gives the text back;
    3. `utf8Size_of_lt`, `le_of_mem_encodeChar` — which bytes are those of ASCII characters.
-/

namespace ClassLens

namespace Utf8

@[simp] theorem encode_nil : encode [] = [] := rfl

@[simp] theorem encode_cons (c : Char) (cs : Text) :
    encode (c :: cs) = String.utf8EncodeChar c ++ encode cs := List.flatMap_cons

@[simp] theorem encode_append (a b : Text) : encode (a ++ b) = encode a ++ encode b :=
  List.flatMap_append

@[simp] theorem length_encode (cs : Text) : (encode cs).length = Text.bytes cs := by
  induction cs with
  | nil => rfl
  | cons c cs ih =>
    rw [encode_cons, List.length_append, String.length_utf8EncodeChar, ih, Text.bytes_cons]

/-! ## Reading the bytes of a text -/

theorem width_eq (a : UInt8) : width a =
    if a.toNat < 0x80 then 1 else if a.toNat < 0xC2 then 0 else if a.toNat < 0xE0 then 2
    else if a.toNat < 0xF0 then 3 else if a.toNat < 0xF5 then 4 else 0 := by
  simp only [width, UInt8.lt_iff_toNat_lt]
  rfl

theorem isTail_eq (b : UInt8) : isTail b = decide (0x80 ≤ b.toNat ∧ b.toNat ≤ 0xBF) := by
  simp only [isTail, UInt8.le_iff_toNat_le, Bool.decide_and]
  rfl

theorem isSecond_of_toNat {a b : UInt8} (hlow : 0x80 ≤ b.toNat) (hhigh : b.toNat ≤ 0xBF)
    (hE0 : a.toNat = 0xE0 → 0xA0 ≤ b.toNat) (hF0 : a.toNat = 0xF0 → 0x90 ≤ b.toNat)
    (hED : a.toNat = 0xED → b.toNat ≤ 0x9F) (hF4 : a.toNat = 0xF4 → b.toNat ≤ 0x8F) :
    isSecond a b = true := by
  simp only [isSecond, ← UInt8.toNat_inj, Bool.and_eq_true, decide_eq_true_eq]
  constructor
  · split
    · exact UInt8.le_iff_toNat_le.mpr (hE0 ‹_›)
    · split
      · exact UInt8.le_iff_toNat_le.mpr (hF0 ‹_›)
      · exact UInt8.le_iff_toNat_le.mpr hlow
  · split
    · exact UInt8.le_iff_toNat_le.mpr (hED ‹_›)
    · split
      · exact UInt8.le_iff_toNat_le.mpr (hF4 ‹_›)
      · exact UInt8.le_iff_toNat_le.mpr hhigh

theorem toNat_ofNat_of_lt {n : Nat} (h : n < 256) : (UInt8.ofNat n).toNat = n := by
  rw [UInt8.toNat_ofNat']
  exact Nat.mod_eq_of_lt h

theorem stretches_one {a : UInt8} (ha : width a = 1) (rest : Bytes) :
    stretches (a :: rest) = some (Char.ofNat a.toNat) :: stretches rest := by
  rw [stretches.eq_def]
  simp [ha]

theorem stretches_two {a b : UInt8} (ha : width a = 2) (hb : isSecond a b = true) (rest : Bytes) :
    stretches (a :: b :: rest) = some (character 0xC0 a [b]) :: stretches rest := by
  rw [stretches.eq_def]
  simp [ha, hb]

theorem stretches_three {a b c : UInt8} (ha : width a = 3) (hb : isSecond a b = true)
    (hc : isTail c = true) (rest : Bytes) :
    stretches (a :: b :: c :: rest) = some (character 0xE0 a [b, c]) :: stretches rest := by
  rw [stretches.eq_def]
  simp [ha, hb, hc]

theorem stretches_four {a b c d : UInt8} (ha : width a = 4) (hb : isSecond a b = true)
    (hc : isTail c = true) (hd : isTail d = true) (rest : Bytes) :
    stretches (a :: b :: c :: d :: rest) =
      some (character 0xF0 a [b, c, d]) :: stretches rest := by
  rw [stretches.eq_def]
  simp [ha, hb, hc, hd]

theorem toNat_sub_mark {a mark : UInt8} {n : Nat} (h : a.toNat = n + mark.toNat) :
    (a - mark).toNat = n := by
  have hle : mark ≤ a := by
    rw [UInt8.le_iff_toNat_le]
    omega
  rw [UInt8.toNat_sub_of_le _ _ hle]
  omega

/-! The bytes behind the first one of a character have six bits each. -/

theorem toNat_six (n : Nat) : (UInt8.ofNat (n % 64 + 128)).toNat = n % 64 + 128 :=
  toNat_ofNat_of_lt (by omega)

theorem isTail_six (n : Nat) : isTail (UInt8.ofNat (n % 64 + 128)) = true := by
  rw [isTail_eq, toNat_six, decide_eq_true_eq]
  omega

theorem low_six (n : Nat) : (UInt8.ofNat (n % 64 + 128) - 0x80).toNat = n % 64 :=
  toNat_sub_mark (toNat_six n)

/-- The bytes of a character are read as this character. -/
theorem stretches_encodeChar (c : Char) (rest : Bytes) :
    stretches (String.utf8EncodeChar c ++ rest) = some c :: stretches rest := by
  have hvalid : c.toNat < 0xD800 ∨ 0xDFFF < c.toNat ∧ c.toNat < 0x110000 := c.valid
  have hback : ∀ n, n = c.toNat → Char.ofNat n = c := fun n hn => by rw [hn, Char.ofNat_toNat]
  have hval : c.val.toNat = c.toNat := rfl
  unfold String.utf8EncodeChar
  simp only [hval]
  by_cases hone : c.toNat ≤ 0x7F
  · have ha : (UInt8.ofNat c.toNat).toNat = c.toNat := toNat_ofNat_of_lt (by omega)
    rw [if_pos hone]
    refine (stretches_one ?_ rest).trans ?_
    · rw [width_eq, ha, if_pos (by omega)]
    · rw [ha, hback _ rfl]
  by_cases htwo : c.toNat ≤ 0x7FF
  · have ha : (UInt8.ofNat (c.toNat / 64 % 32 + 192)).toNat = c.toNat / 64 + 192 := by
      rw [toNat_ofNat_of_lt (by omega)]
      omega
    have hhigh : (UInt8.ofNat (c.toNat / 64 % 32 + 192) - 0xC0).toNat = c.toNat / 64 :=
      toNat_sub_mark ha
    rw [if_neg hone, if_pos htwo]
    refine (stretches_two ?_ ?_ rest).trans ?_
    · rw [width_eq, ha, if_neg (by omega), if_neg (by omega), if_pos (by omega)]
    · apply isSecond_of_toNat <;> rw [toNat_six] <;> omega
    · refine congrArg (fun found => some found :: stretches rest) (hback _ ?_)
      simp only [List.foldl_cons, List.foldl_nil, hhigh, low_six]
      omega
  by_cases hthree : c.toNat ≤ 0xFFFF
  · have ha : (UInt8.ofNat (c.toNat / 4096 % 16 + 224)).toNat = c.toNat / 4096 + 224 := by
      rw [toNat_ofNat_of_lt (by omega)]
      omega
    have hhigh : (UInt8.ofNat (c.toNat / 4096 % 16 + 224) - 0xE0).toNat = c.toNat / 4096 :=
      toNat_sub_mark ha
    rw [if_neg hone, if_neg htwo, if_pos hthree]
    refine (stretches_three ?_ ?_ (isTail_six _) rest).trans ?_
    · rw [width_eq, ha, if_neg (by omega), if_neg (by omega), if_neg (by omega), if_pos (by omega)]
    · apply isSecond_of_toNat <;> rw [toNat_six] <;> omega
    · refine congrArg (fun found => some found :: stretches rest) (hback _ ?_)
      simp only [List.foldl_cons, List.foldl_nil, hhigh, low_six]
      omega
  · have ha : (UInt8.ofNat (c.toNat / 262144 % 8 + 240)).toNat = c.toNat / 262144 + 240 := by
      rw [toNat_ofNat_of_lt (by omega)]
      omega
    have hhigh : (UInt8.ofNat (c.toNat / 262144 % 8 + 240) - 0xF0).toNat = c.toNat / 262144 :=
      toNat_sub_mark ha
    rw [if_neg hone, if_neg htwo, if_neg hthree]
    refine (stretches_four ?_ ?_ (isTail_six _) (isTail_six _) rest).trans ?_
    · rw [width_eq, ha, if_neg (by omega), if_neg (by omega), if_neg (by omega), if_neg (by omega),
        if_pos (by omega)]
    · apply isSecond_of_toNat <;> rw [toNat_six] <;> omega
    · refine congrArg (fun found => some found :: stretches rest) (hback _ ?_)
      simp only [List.foldl_cons, List.foldl_nil, hhigh, low_six]
      omega

theorem decode?_encode (cs : Text) : decode? (encode cs) = some cs := by
  have hstretches : stretches (encode cs) = cs.map some := by
    induction cs with
    | nil => rfl
    | cons c cs ih => rw [encode_cons, stretches_encodeChar, ih, List.map_cons]
  have hsome : ∀ found : Text, (found.map some).mapM id = some found := by
    intro found
    induction found with
    | nil => rfl
    | cons c found ih =>
      rw [List.map_cons, List.mapM_cons, ih]
      rfl
  unfold decode?
  rw [hstretches, hsome]

/-! ## ASCII bytes -/

theorem utf8Size_of_lt {c : Char} (hc : c.toNat < 0x80) : c.utf8Size = 1 := by
  rw [← String.length_utf8EncodeChar, Text.encodeChar_of_lt hc]
  rfl

theorem le_of_mem_encodeChar {c : Char} {b : UInt8} (hc : 0x80 ≤ c.toNat)
    (hb : b ∈ String.utf8EncodeChar c) : 0x80 ≤ b.toNat := by
  have hval : c.val.toNat = c.toNat := rfl
  unfold String.utf8EncodeChar at hb
  rw [hval, if_neg (by omega)] at hb
  split at hb
  · simp only [List.mem_cons, List.not_mem_nil, or_false] at hb
    rcases hb with rfl | rfl <;> rw [toNat_ofNat_of_lt (by omega)] <;> omega
  · split at hb
    · simp only [List.mem_cons, List.not_mem_nil, or_false] at hb
      rcases hb with rfl | rfl | rfl <;> rw [toNat_ofNat_of_lt (by omega)] <;> omega
    · simp only [List.mem_cons, List.not_mem_nil, or_false] at hb
      rcases hb with rfl | rfl | rfl | rfl <;> rw [toNat_ofNat_of_lt (by omega)] <;> omega

end Utf8

end ClassLens
