import ClassLens.Path.Basic
/-
  The order of paths

  Paths are compared segment by segment: the root comes first, then dots,
  parent steps and names, and names go by their bytes. Spellings do not matter,
  so two paths that are each no later than the other are equal, but need not be
  spelled alike.

  What is proved:
    1. `Utf8.le_trans`, `Utf8.le_total`, `Utf8.le_antisymm` — the order of
       bytes;
    2. `segmentLe_*`, `segmentsLe_*` — the same for segments, and for lists of
       them;
    3. `Path.le_trans`, `Path.le_total` — sorting puts paths in order;
       `Path.beq_of_le` — paths in order both ways are equal.
-/

namespace ClassLens

namespace Utf8

theorem le_antisymm : ∀ a b : Bytes, le a b = true → le b a = true → a = b
  | [], [], _, _ => rfl
  | [], _ :: _, _, h => by cases h
  | _ :: _, [], h, _ => by cases h
  | x :: as, y :: bs, hab, hba => by
    have ih := le_antisymm as bs
    simp only [le] at hab hba
    by_cases hxy : x = y
    · subst hxy
      rw [if_pos rfl] at hab hba
      rw [ih hab hba]
    · rw [if_neg hxy] at hab
      rw [if_neg (Ne.symm hxy)] at hba
      exact absurd (of_decide_eq_true hba) (UInt8.lt_asymm (of_decide_eq_true hab))

theorem le_trans : ∀ a b c : Bytes, le a b = true → le b c = true → le a c = true
  | [], _, _, _, _ => rfl
  | _ :: _, [], _, h, _ => by cases h
  | _ :: _, _ :: _, [], _, h => by cases h
  | x :: as, y :: bs, z :: cs, hab, hbc => by
    have ih := le_trans as bs cs
    simp only [le] at hab hbc ⊢
    split at hab
    · rename_i hxy
      subst hxy
      split at hbc
      · rename_i hxz
        rw [if_pos hxz]
        exact ih hab hbc
      · rename_i hxz
        rwa [if_neg hxz]
    · split at hbc
      · rename_i hxy hyz
        subst hyz
        rwa [if_neg hxy]
      · have hlt : x < z := UInt8.lt_trans (of_decide_eq_true hab) (of_decide_eq_true hbc)
        rw [if_neg (UInt8.ne_of_lt hlt)]
        exact decide_eq_true hlt

theorem le_total : ∀ a b : Bytes, (le a b || le b a) = true
  | [], _ => rfl
  | _ :: _, [] => rfl
  | x :: as, y :: bs => by
    have ih := le_total as bs
    simp only [le]
    by_cases hxy : x = y
    · simpa [hxy] using ih
    · rw [if_neg hxy, if_neg (Ne.symm hxy)]
      rcases UInt8.lt_or_lt_of_ne hxy with hlt | hgt
      · simp [hlt]
      · simp [hgt]

end Utf8

namespace Path

/-! ## Segments -/

theorem segmentLe_antisymm {a b : Segment} (hab : segmentLe a b = true)
    (hba : segmentLe b a = true) : a = b := by
  cases a <;> cases b <;> simp_all [segmentLe, rank]
  exact Utf8.le_antisymm _ _ hab hba

theorem segmentLe_trans {a b c : Segment} (hab : segmentLe a b = true)
    (hbc : segmentLe b c = true) : segmentLe a c = true := by
  cases a <;> cases b <;> cases c <;> simp_all [segmentLe, rank]
  exact Utf8.le_trans _ _ _ hab hbc

theorem segmentLe_total (a b : Segment) : (segmentLe a b || segmentLe b a) = true := by
  cases a <;> cases b <;> simp [segmentLe, rank]
  exact Bool.or_eq_true_iff.mp (Utf8.le_total _ _)

theorem segmentsLe_antisymm : ∀ as bs : List Segment,
    segmentsLe as bs = true → segmentsLe bs as = true → as = bs
  | [], [], _, _ => rfl
  | [], _ :: _, _, h => by cases h
  | _ :: _, [], h, _ => by cases h
  | a :: as, b :: bs, hab, hba => by
    have ih := segmentsLe_antisymm as bs
    simp only [segmentsLe] at hab hba
    by_cases heq : a = b
    · subst heq
      rw [if_pos rfl] at hab hba
      rw [ih hab hba]
    · rw [if_neg heq] at hab
      rw [if_neg (Ne.symm heq)] at hba
      exact absurd (segmentLe_antisymm hab hba) heq

theorem segmentsLe_trans : ∀ as bs cs : List Segment,
    segmentsLe as bs = true → segmentsLe bs cs = true → segmentsLe as cs = true
  | [], _, _, _, _ => rfl
  | _ :: _, [], _, h, _ => by cases h
  | _ :: _, _ :: _, [], _, h => by cases h
  | a :: as, b :: bs, c :: cs, hab, hbc => by
    have ih := segmentsLe_trans as bs cs
    simp only [segmentsLe] at hab hbc ⊢
    split at hab
    · rename_i heq
      subst heq
      split at hbc
      · rename_i hac
        rw [if_pos hac]
        exact ih hab hbc
      · rename_i hac
        rwa [if_neg hac]
    · rename_i hne
      split at hbc
      · rename_i heq
        subst heq
        rwa [if_neg hne]
      · have hac : a ≠ c := by
          rintro rfl
          exact hne (segmentLe_antisymm hab hbc)
        rw [if_neg hac]
        exact segmentLe_trans hab hbc

theorem segmentsLe_total : ∀ as bs : List Segment, (segmentsLe as bs || segmentsLe bs as) = true
  | [], _ => rfl
  | _ :: _, [] => rfl
  | a :: as, b :: bs => by
    have ih := segmentsLe_total as bs
    simp only [segmentsLe]
    by_cases heq : a = b
    · simpa [heq] using ih
    · rw [if_neg heq, if_neg (Ne.symm heq)]
      exact segmentLe_total a b

/-! ## Paths -/

theorem le_trans (p q r : Path) (hpq : le p q = true) (hqr : le q r = true) : le p r = true :=
  segmentsLe_trans _ _ _ hpq hqr

theorem le_total (p q : Path) : (le p q || le q p) = true := segmentsLe_total _ _

theorem beq_of_le {p q : Path} (hpq : le p q = true) (hqp : le q p = true) : (p == q) = true :=
  (beq_iff p q).mpr (segmentsLe_antisymm _ _ hpq hqp)

theorem lt_of_le_of_ne {p q : Path} (hle : le p q = true) (hne : (p == q) = false) :
    le q p = false := by
  cases hqp : le q p with
  | false => rfl
  | true => rw [beq_of_le hle hqp] at hne; cases hne

theorem lt_of_lt_of_le {p q r : Path} (hpq : le q p = false) (hqr : le q r = true) :
    le r p = false := by
  cases hrp : le r p with
  | false => rfl
  | true => rw [le_trans q r p hqr hrp] at hpq; cases hpq

end Path

end ClassLens
