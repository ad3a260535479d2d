import ClassLens.Text.Utf8
/-
  The order of texts

  Texts are sorted by code points, character by character. Where all
  characters are ASCII this is the order of the bytes.

  What is proved:
    1. `le_trans`, `le_total` — sorting puts texts in order;
    2. `encode_lt_of_le` — different ASCII texts in order have their bytes in
       strict order;
    3. `sorted_increasing` — different ASCII texts come out of sorting in
       strict order of their bytes.
-/

namespace ClassLens

namespace Text

theorem le_trans : ∀ a b c : Text, le a b = true → le b c = true → le a c = true
  | [], _, _, _, _ => rfl
  | _ :: _, [], _, h, _ => by cases h
  | _ :: _, _ :: _, [], _, h => by cases h
  | x :: as, y :: bs, z :: cs, hab, hbc => by
    have ih := le_trans as bs cs
    simp only [le] at hab hbc ⊢
    split at hab
    · rename_i hxy
      subst hxy
      split at hbc
      · rename_i hxz
        rw [if_pos hxz]
        exact ih hab hbc
      · rename_i hxz
        rwa [if_neg hxz]
    · split at hbc
      · rename_i hxy hyz
        subst hyz
        rwa [if_neg hxy]
      · have hlt : x.toNat < z.toNat := by
          have hxy := of_decide_eq_true hab
          have hyz := of_decide_eq_true hbc
          omega
        have hne : x ≠ z := fun heq => by
          rw [heq] at hlt
          omega
        rw [if_neg hne]
        exact decide_eq_true hlt

theorem le_total : ∀ a b : Text, (le a b || le b a) = true
  | [], _ => rfl
  | _ :: _, [] => rfl
  | x :: as, y :: bs => by
    have ih := le_total as bs
    simp only [le]
    by_cases hxy : x = y
    · simpa [hxy] using ih
    · have hne : x.toNat ≠ y.toNat := fun heq => hxy (Char.toNat_inj.mp heq)
      rw [if_neg hxy, if_neg (Ne.symm hxy)]
      rcases Nat.lt_or_gt_of_ne hne with hlt | hgt
      · simp [hlt]
      · simp [hgt]

theorem encodeChar_of_lt {c : Char} (h : c.toNat < 0x80) :
    String.utf8EncodeChar c = [UInt8.ofNat c.toNat] := by
  unfold String.utf8EncodeChar
  exact if_pos (Nat.le_of_lt_succ h)

theorem ofNat_lt_ofNat {m n : Nat} (hn : n < 0x80) (h : m < n) :
    UInt8.ofNat m < UInt8.ofNat n := by
  rw [UInt8.lt_iff_toNat_lt, UInt8.toNat_ofNat', UInt8.toNat_ofNat']
  omega

theorem encode_lt_of_le {a b : Text} (ha : ∀ c ∈ a, c.toNat < 0x80) (hb : ∀ c ∈ b, c.toNat < 0x80)
    (hle : le a b = true) (hne : a ≠ b) : Utf8.encode a < Utf8.encode b := by
  induction a generalizing b with
  | nil =>
    cases b with
    | nil => exact absurd rfl hne
    | cons y bs =>
      have hy := encodeChar_of_lt (hb y List.mem_cons_self)
      unfold Utf8.encode
      rw [List.flatMap_cons, hy]
      exact List.nil_lt_cons _ _
  | cons x as ih =>
    cases b with
    | nil => cases hle
    | cons y bs =>
      have hxlt := ha x List.mem_cons_self
      have hylt := hb y List.mem_cons_self
      unfold Utf8.encode
      rw [List.flatMap_cons, List.flatMap_cons, encodeChar_of_lt hxlt, encodeChar_of_lt hylt]
      refine List.cons_lt_cons_iff.mpr ?_
      simp only [le] at hle
      split at hle
      · rename_i hxy
        refine .inr ⟨by rw [hxy], ih (fun c hc => ha c (List.mem_cons_of_mem x hc))
          (fun c hc => hb c (List.mem_cons_of_mem y hc)) hle fun heq => hne ?_⟩
        rw [hxy, heq]
      · exact .inl (ofNat_lt_ofNat hylt (of_decide_eq_true hle))

/-- Different ASCII texts come out of sorting in strict order of their bytes. -/
theorem sorted_increasing {ts : List Text} (hnodup : ts.Nodup)
    (hascii : ∀ t ∈ ts, ∀ c ∈ t, c.toNat < 0x80) :
    (sorted ts).Pairwise fun a b => Utf8.encode a < Utf8.encode b := by
  have hperm : (sorted ts).Perm ts := List.mergeSort_perm ts le
  have hne : (sorted ts).Pairwise (· ≠ ·) := hperm.nodup_iff.mpr hnodup
  have hle : (sorted ts).Pairwise fun a b => le a b = true :=
    List.pairwise_mergeSort le_trans le_total ts
  refine (hle.and hne).imp_of_mem fun ha hb hab => ?_
  exact encode_lt_of_le (hascii _ (hperm.mem_iff.mp ha)) (hascii _ (hperm.mem_iff.mp hb))
    hab.1 hab.2

end Text

end ClassLens
