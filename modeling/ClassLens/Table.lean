/-
  Tables — finite maps that remember the order of first insertion

  A table is a list of entries, one for each key up to the key type's own
  Boolean equality. Writing under a key that is already present replaces the
  value and keeps both the place and the first spelling of the key, so two
  keys that compare equal but look different share one entry.

  What this holds:
    1. `Table`, with `get?`, `insert`, `insertNew`, `erase`, `update`;
    2. one equation per operation through `get?`, for key types whose
       equality is an equivalence (`get?_insert`, `get?_insertNew`,
       `get?_erase`).
-/

namespace ClassLens

/-- A finite map in order of first insertion. -/
structure Table (κ α : Type) where
  entries : List (κ × α)
  deriving Repr, DecidableEq

namespace Table

variable {κ α : Type}

def empty : Table κ α := ⟨[]⟩

instance : Inhabited (Table κ α) := ⟨empty⟩

/-- The keys, as first written, in order of first insertion. -/
def keys (t : Table κ α) : List κ := t.entries.map (·.1)

/-- The values in the order of their keys. -/
def values (t : Table κ α) : List α := t.entries.map (·.2)

def size (t : Table κ α) : Nat := t.entries.length

def isEmpty (t : Table κ α) : Bool := t.entries.isEmpty

variable [BEq κ]

/-- The value under `k` in a list of entries: the first entry whose key equals `k`. -/
def lookup (k : κ) : List (κ × α) → Option α
  | [] => none
  | (k', v) :: rest => if k' == k then some v else lookup k rest

def get? (t : Table κ α) (k : κ) : Option α := lookup k t.entries

/-- Whether there is an entry under `k`. -/
def contains (t : Table κ α) (k : κ) : Bool := (t.get? k).isSome

/-- Writes `v` under `k` in a list of entries, in place when `k` is present. -/
def put (k : κ) (v : α) : List (κ × α) → List (κ × α)
  | [] => [(k, v)]
  | (k', v') :: rest => if k' == k then (k', v) :: rest else (k', v') :: put k v rest

/-- Writes `v` under `k`. A key already present keeps its place and spelling. -/
def insert (t : Table κ α) (k : κ) (v : α) : Table κ α := ⟨put k v t.entries⟩

/-- Writes `v` under `k` unless the table already has an entry there. -/
def insertNew (t : Table κ α) (k : κ) (v : α) : Table κ α :=
  if t.contains k then t else t.insert k v

/-- The table without its entry under `k`. -/
def erase (t : Table κ α) (k : κ) : Table κ α :=
  ⟨t.entries.filter fun e => !(e.1 == k)⟩

/-- Replaces the value under `k`, if any, by its image under `f`; `none` drops the entry. -/
def update (t : Table κ α) (k : κ) (f : α → Option α) : Table κ α :=
  match t.get? k with
  | none => t
  | some v =>
    match f v with
    | some w => t.insert k w
    | none => t.erase k

/-! ## Each operation through `get?` -/

@[simp] theorem get?_empty (k : κ) : (empty : Table κ α).get? k = none := rfl

theorem lookup_put [EquivBEq κ] (k j : κ) (v : α) (es : List (κ × α)) :
    lookup j (put k v es) = if k == j then some v else lookup j es := by
  induction es with
  | nil => simp [put, lookup]
  | cons e rest ih =>
    obtain ⟨k', v'⟩ := e
    by_cases hk : (k' == k) = true
    · have hcongr : (k' == j) = (k == j) := BEq.congr_left hk
      by_cases hj : (k == j) = true <;> simp [put, lookup, hk, hcongr, hj]
    · by_cases hj : (k' == j) = true
      · have hne : (k == j) = false := by
          cases h : (k == j) with
          | false => rfl
          | true => exact absurd (BEq.trans hj (BEq.symm h)) hk
        simp [put, lookup, hk, hj, hne]
      · simp [put, lookup, hk, hj, ih]

/-- Reading after writing: the new value under an equal key, the old one elsewhere. -/
theorem get?_insert [EquivBEq κ] (t : Table κ α) (k j : κ) (v : α) :
    (t.insert k v).get? j = if k == j then some v else t.get? j :=
  lookup_put k j v t.entries

/-- Reading after writing only what is new: the new value where nothing was, the old one
elsewhere. -/
theorem get?_insertNew [EquivBEq κ] (t : Table κ α) (k j : κ) (v : α) :
    (t.insertNew k v).get? j = if k == j && !t.contains k then some v else t.get? j := by
  unfold insertNew
  by_cases h : t.contains k = true
  · simp [h]
  · have hfalse : t.contains k = false := by simpa using h
    rw [if_neg h, get?_insert, hfalse]
    simp

theorem lookup_filter_ne [EquivBEq κ] (k j : κ) (es : List (κ × α)) :
    lookup j (es.filter fun e => !(e.1 == k)) = if k == j then none else lookup j es := by
  induction es with
  | nil => simp [lookup]
  | cons e rest ih =>
    obtain ⟨k', v'⟩ := e
    by_cases hk : (k' == k) = true
    · have hcongr : (k' == j) = (k == j) := BEq.congr_left hk
      by_cases hj : (k == j) = true <;> simp [lookup, hk, hcongr, hj, ih]
    · by_cases hj : (k' == j) = true
      · have hne : (k == j) = false := by
          cases h : (k == j) with
          | false => rfl
          | true => exact absurd (BEq.trans hj (BEq.symm h)) hk
        simp [lookup, hk, hj, hne]
      · simp [lookup, hk, hj, ih]

theorem get?_erase [EquivBEq κ] (t : Table κ α) (k j : κ) :
    (t.erase k).get? j = if k == j then none else t.get? j :=
  lookup_filter_ne k j t.entries

end Table

end ClassLens
