import ClassLens.Table
/-
  Tables with one entry for each key

  `insert`, `erase` and `update` never make a second entry for a key, so every
  table built by them has distinct keys. In such a table the entries and
  `get?` say the same.

  What is proved:
    1. `distinct_insert`, `distinct_erase`, `distinct_update` — distinct keys
       stay distinct;
    2. `get?_update` — reading after an update;
    3. `get?_of_mem` and `mem_of_get?` — an entry is what `get?` finds under
       its key, and what `get?` finds is an entry;
    4. `erase_of_get?_eq_none` — erasing what is not there;
    5. `get?_perm` — the order of the entries does not matter to `get?`;
    6. `get?_filter_key` — reading after leaving entries out;
    7. `get?_foldl_insert`, `get?_foldl_insertNew`, `keys_foldl_insert` — the
       values and the keys of pairs written in order.
-/

namespace ClassLens

namespace Table

variable {κ α : Type} [BEq κ]

/-- No two entries have equal keys. -/
def Distinct (t : Table κ α) : Prop := t.entries.Pairwise fun a b => (a.1 == b.1) = false

theorem distinct_empty : (empty : Table κ α).Distinct := List.Pairwise.nil

theorem key_of_mem_put {k : κ} {v : α} {es : List (κ × α)} {e : κ × α} (h : e ∈ put k v es) :
    e.1 = k ∨ ∃ e' ∈ es, e'.1 = e.1 := by
  induction es with
  | nil =>
    simp only [put, List.mem_singleton] at h
    exact .inl (by rw [h])
  | cons x rest ih =>
    obtain ⟨k', v'⟩ := x
    simp only [put] at h
    split at h
    · rcases List.mem_cons.mp h with h | h
      · exact .inr ⟨(k', v'), List.mem_cons_self, by rw [h]⟩
      · exact .inr ⟨e, List.mem_cons_of_mem _ h, rfl⟩
    · rcases List.mem_cons.mp h with h | h
      · exact .inr ⟨(k', v'), List.mem_cons_self, by rw [h]⟩
      · rcases ih h with h | ⟨e', he', hk⟩
        · exact .inl h
        · exact .inr ⟨e', List.mem_cons_of_mem _ he', hk⟩

theorem pairwise_put {k : κ} {v : α} {es : List (κ × α)}
    (h : es.Pairwise fun a b => (a.1 == b.1) = false) :
    (put k v es).Pairwise fun a b => (a.1 == b.1) = false := by
  induction es with
  | nil => simp [put]
  | cons x rest ih =>
    obtain ⟨k', v'⟩ := x
    obtain ⟨hhead, htail⟩ := List.pairwise_cons.mp h
    simp only [put]
    split
    · exact List.pairwise_cons.mpr ⟨hhead, htail⟩
    · rename_i hk
      refine List.pairwise_cons.mpr ⟨?_, ih htail⟩
      intro e he
      rcases key_of_mem_put he with hek | ⟨e', he', hek⟩
      · rw [hek]
        simpa using hk
      · rw [← hek]
        exact hhead e' he'

theorem distinct_insert {t : Table κ α} (h : t.Distinct) (k : κ) (v : α) :
    (t.insert k v).Distinct := pairwise_put h

theorem distinct_filter {t : Table κ α} (h : t.Distinct) (p : κ × α → Bool) :
    Distinct ⟨t.entries.filter p⟩ := List.Pairwise.filter p h

theorem distinct_erase {t : Table κ α} (h : t.Distinct) (k : κ) : (t.erase k).Distinct :=
  distinct_filter h _

theorem distinct_update {t : Table κ α} (h : t.Distinct) (k : κ) (f : α → Option α) :
    (t.update k f).Distinct := by
  unfold update
  split
  · exact h
  · split
    · exact distinct_insert h k _
    · exact distinct_erase h k

theorem distinct_insertNew {t : Table κ α} (h : t.Distinct) (k : κ) (v : α) :
    (t.insertNew k v).Distinct := by
  unfold insertNew
  split
  · exact h
  · exact distinct_insert h k v

theorem distinct_foldl_insertNew (pairs : List (κ × α)) {t : Table κ α} (h : t.Distinct) :
    (pairs.foldl (fun t e => t.insertNew e.1 e.2) t).Distinct := by
  induction pairs generalizing t with
  | nil => exact h
  | cons e rest ih => exact ih (distinct_insertNew h e.1 e.2)

theorem distinct_foldl_insert (pairs : List (κ × α)) {t : Table κ α} (h : t.Distinct) :
    (pairs.foldl (fun t e => t.insert e.1 e.2) t).Distinct := by
  induction pairs generalizing t with
  | nil => exact h
  | cons e rest ih => exact ih (distinct_insert h e.1 e.2)

/-! ## Reading -/

theorem get?_congr [EquivBEq κ] (t : Table κ α) {k j : κ} (h : (k == j) = true) :
    t.get? k = t.get? j := by
  unfold get?
  induction t.entries with
  | nil => rfl
  | cons e rest ih =>
    have hcongr : (e.1 == k) = (e.1 == j) := BEq.congr_right h
    simp only [lookup, hcongr, ih]

theorem of_get?_insert [EquivBEq κ] {t : Table κ α} {k j : κ} {v w : α}
    (h : (t.insert k w).get? j = some v) : ((k == j) = true ∧ v = w) ∨ t.get? j = some v := by
  rw [get?_insert] at h
  split at h
  · exact .inl ⟨‹_›, (Option.some.inj h).symm⟩
  · exact .inr h

theorem of_get?_erase [EquivBEq κ] {t : Table κ α} {k j : κ} {v : α}
    (h : (t.erase k).get? j = some v) : t.get? j = some v := by
  rw [get?_erase] at h
  split at h
  · cases h
  · exact h

theorem get?_update [EquivBEq κ] (t : Table κ α) (k j : κ) (f : α → Option α) :
    (t.update k f).get? j = if k == j then (t.get? k).bind f else t.get? j := by
  unfold update
  cases hk : t.get? k with
  | none =>
    by_cases hj : (k == j) = true
    · simp [hj, ← get?_congr t hj, hk]
    · simp [hj]
  | some v =>
    cases hf : f v with
    | none => simp [hf, get?_erase]
    | some w => simp [hf, get?_insert]

theorem mem_of_get? {t : Table κ α} {k : κ} {v : α} (h : t.get? k = some v) :
    ∃ j, (j, v) ∈ t.entries ∧ (j == k) = true := by
  unfold get? at h
  induction hes : t.entries generalizing t with
  | nil => simp [hes, lookup] at h
  | cons e rest ih =>
    obtain ⟨j, w⟩ := e
    simp only [hes, lookup] at h
    split at h
    · rename_i hj
      simp only [Option.some.injEq] at h
      exact ⟨j, by simp [h], hj⟩
    · obtain ⟨i, hmem, hi⟩ := ih (t := ⟨rest⟩) h rfl
      exact ⟨i, List.mem_cons_of_mem _ hmem, hi⟩

theorem get?_of_mem [EquivBEq κ] {t : Table κ α} (hd : t.Distinct) {k j : κ} {v : α}
    (h : (j, v) ∈ t.entries) (hk : (j == k) = true) : t.get? k = some v := by
  unfold get?
  unfold Distinct at hd
  induction hes : t.entries generalizing t with
  | nil => simp [hes] at h
  | cons e rest ih =>
    obtain ⟨i, w⟩ := e
    rw [hes] at h hd
    obtain ⟨hhead, htail⟩ := List.pairwise_cons.mp hd
    rcases List.mem_cons.mp h with h | h
    · simp only [Prod.mk.injEq] at h
      simp [lookup, ← h.1, hk, h.2]
    · have hij : (i == k) = false := by
        have hne := hhead (j, v) h
        rw [← hne]
        exact (BEq.congr_right hk).symm
      simp only [lookup, hij, Bool.false_eq_true, if_false]
      exact ih (t := ⟨rest⟩) htail h rfl

theorem key_ne_of_get?_eq_none {t : Table κ α} {k : κ} (h : t.get? k = none) :
    ∀ e ∈ t.entries, (e.1 == k) = false := by
  unfold get? at h
  induction hes : t.entries generalizing t with
  | nil => simp
  | cons e rest ih =>
    obtain ⟨j, v⟩ := e
    simp only [hes, lookup] at h
    split at h
    · cases h
    · rename_i hj
      intro e' he'
      rcases List.mem_cons.mp he' with rfl | he'
      · simpa using hj
      · exact ih (t := ⟨rest⟩) h rfl e' he'

theorem erase_of_get?_eq_none {t : Table κ α} {k : κ} (h : t.get? k = none) : t.erase k = t := by
  have hkeep : (t.entries.filter fun e => !(e.1 == k)) = t.entries :=
    List.filter_eq_self.mpr fun e he => by simp [key_ne_of_get?_eq_none h e he]
  unfold erase
  rw [hkeep]

/-- With distinct keys, the order of the entries does not matter to `get?`. -/
theorem get?_perm [EquivBEq κ] {t u : Table κ α} (hd : u.Distinct)
    (h : t.entries.Perm u.entries) (k : κ) : t.get? k = u.get? k := by
  have ht : t.Distinct := (h.pairwise_iff fun hne => by rwa [BEq.comm]).mpr hd
  cases hk : u.get? k with
  | none =>
    rw [Option.eq_none_iff_forall_ne_some]
    intro v hv
    obtain ⟨j, hmem, hj⟩ := mem_of_get? hv
    rw [get?_of_mem hd (h.mem_iff.mp hmem) hj] at hk
    cases hk
  | some v =>
    obtain ⟨j, hmem, hj⟩ := mem_of_get? hk
    exact get?_of_mem ht (h.mem_iff.mpr hmem) hj

/-- Writing only what is new: what was there stays, and of the pairs the first one counts. -/
theorem get?_foldl_insertNew [EquivBEq κ] (pairs : List (κ × α)) (t : Table κ α) (k : κ) :
    (pairs.foldl (fun t e => t.insertNew e.1 e.2) t).get? k =
      (t.get? k).or ((⟨pairs⟩ : Table κ α).get? k) := by
  induction pairs generalizing t with
  | nil => exact (Option.or_none).symm
  | cons e rest ih =>
    have hhead : (⟨e :: rest⟩ : Table κ α).get? k =
        if e.1 == k then some e.2 else (⟨rest⟩ : Table κ α).get? k := rfl
    rw [List.foldl_cons, ih, get?_insertNew, hhead]
    unfold contains
    by_cases hk : (e.1 == k) = true
    · rw [get?_congr t hk]
      cases t.get? k <;> simp [hk]
    · simp [hk]

theorem get?_filter_key (t : Table κ α) {p : κ → Bool}
    (hp : ∀ j k, (j == k) = true → p j = p k) (k : κ) :
    (⟨t.entries.filter fun e => p e.1⟩ : Table κ α).get? k = if p k then t.get? k else none := by
  unfold get?
  induction t.entries with
  | nil => simp [lookup]
  | cons e rest ih =>
    by_cases hk : (e.1 == k) = true
    · have hsame := hp e.1 k hk
      by_cases hpk : p k = true
      · simp [lookup, hsame, hpk, hk]
      · simpa [lookup, hsame, hpk] using ih
    · by_cases hpe : p e.1 = true
      · simpa [lookup, hpe, hk] using ih
      · simpa [lookup, hpe, hk] using ih

theorem size_erase [EquivBEq κ] {t : Table κ α} (hd : t.Distinct) (k : κ) :
    (t.erase k).size + (if t.contains k then 1 else 0) = t.size := by
  obtain ⟨es⟩ := t
  unfold size erase contains get?
  unfold Distinct at hd
  induction es with
  | nil => rfl
  | cons e rest ih =>
    obtain ⟨j, v⟩ := e
    obtain ⟨hhead, htail⟩ := List.pairwise_cons.mp hd
    have ih := ih htail
    by_cases hj : (j == k) = true
    · -- no later key equals `k`, so the rest stays whole
      have hrest : rest.filter (fun e => !(e.1 == k)) = rest := by
        rw [List.filter_eq_self]
        intro e he
        have hne := hhead e he
        rw [BEq.congr_left hj, BEq.comm] at hne
        simp [hne]
      simp [hj, hrest, lookup]
    · simp only [lookup, hj, Bool.not_false, List.filter_cons_of_pos, List.length_cons,
        Bool.false_eq_true, if_false] at ih ⊢
      omega

/-! ## Keys in order -/

theorem get?_map {β : Type} (t : Table κ α) (f : α → β) (k : κ) :
    (⟨t.entries.map fun e => (e.1, f e.2)⟩ : Table κ β).get? k = (t.get? k).map f := by
  unfold get?
  induction t.entries with
  | nil => rfl
  | cons e rest ih =>
    rw [List.map_cons, lookup, lookup, ih]
    split <;> rfl

section LawfulKeys

variable [LawfulBEq κ]

theorem keys_insert (t : Table κ α) (k : κ) (v : α) :
    (t.insert k v).keys = if k ∈ t.keys then t.keys else t.keys ++ [k] := by
  unfold insert keys
  induction t.entries with
  | nil => rfl
  | cons e rest ih =>
    by_cases hk : (e.1 == k) = true
    · have heq : e.1 = k := eq_of_beq hk
      simp [put, heq]
    · have hne : e.1 ≠ k := fun heq => hk (beq_iff_eq.mpr heq)
      simp only [put, hk, Bool.false_eq_true, if_false, List.map_cons, ih, List.mem_cons,
        Ne.symm hne, false_or]
      split <;> rfl

theorem mem_keys_iff {t : Table κ α} {k : κ} : k ∈ t.keys ↔ t.contains k = true := by
  unfold keys contains get?
  induction t.entries with
  | nil => simp [lookup]
  | cons e rest ih =>
    rw [List.map_cons, List.mem_cons, ih, lookup, eq_comm, ← beq_iff_eq]
    split
    · rename_i hk
      simp [hk]
    · rename_i hk
      simp [hk]

theorem nodup_keys {t : Table κ α} (h : t.Distinct) : t.keys.Nodup :=
  List.pairwise_map.mpr (h.imp fun hne => ne_of_beq_false hne)

theorem keys_insertNew (t : Table κ α) (k : κ) (v : α) :
    (t.insertNew k v).keys = if k ∈ t.keys then t.keys else t.keys ++ [k] := by
  unfold insertNew
  by_cases hk : k ∈ t.keys
  · rw [if_pos hk, if_pos (mem_keys_iff.mp hk)]
  · rw [if_neg fun hcontains => hk (mem_keys_iff.mpr hcontains), keys_insert]

theorem entries_eq_map_keys {t : Table κ α} (h : t.Distinct) (default : α) :
    t.entries = t.keys.map fun k => (k, (t.get? k).getD default) := by
  have hentry : ∀ e ∈ t.entries, e = (e.1, (t.get? e.1).getD default) := by
    intro e he
    rw [get?_of_mem h he BEq.rfl]
    rfl
  unfold keys
  rw [List.map_map]
  exact (List.map_id _).symm.trans (List.map_congr_left hentry)

/-- Writing pairs in order: keys stand in order of first appearance. -/
theorem keys_foldl_insert (pairs : List (κ × α)) (t : Table κ α) :
    (pairs.foldl (fun t e => t.insert e.1 e.2) t).keys =
      t.keys ++ ((pairs.map (·.1)).filter (!t.keys.contains ·)).eraseDups := by
  induction pairs generalizing t with
  | nil => simp
  | cons e rest ih =>
    rw [List.foldl_cons, ih, keys_insert, List.map_cons]
    by_cases hmem : e.1 ∈ t.keys
    · rw [if_pos hmem, List.filter_cons_of_neg (by simp [hmem])]
    · rw [if_neg hmem, List.filter_cons_of_pos (by simp [hmem]), List.eraseDups_cons,
        List.append_assoc, List.singleton_append, List.filter_filter]
      -- later keys are new if they are neither this one nor there before
      have hnew : (fun k => !(t.keys ++ [e.1]).contains k) =
          fun k => !(k == e.1) && !t.keys.contains k := by
        funext k
        rw [Bool.eq_iff_iff]
        simp [and_comm]
      rw [hnew]

theorem get?_foldl_insert (pairs : List (κ × α)) (t : Table κ α) (k : κ) :
    (pairs.foldl (fun t e => t.insert e.1 e.2) t).get? k =
      (pairs.reverse.lookup k).or (t.get? k) := by
  induction pairs generalizing t with
  | nil => rfl
  | cons e rest ih =>
    have hlast : [e].lookup k = if e.1 == k then some e.2 else none := by
      rw [List.lookup_cons, BEq.comm]
      cases (e.1 == k) <;> rfl
    rw [List.foldl_cons, ih, get?_insert, List.reverse_cons, List.lookup_append, hlast]
    cases rest.reverse.lookup k with
    | none => cases (e.1 == k) <;> rfl
    | some v => rfl

end LawfulKeys

end Table

end ClassLens
