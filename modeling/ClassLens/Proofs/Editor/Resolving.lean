import ClassLens.Editor.Completion
/-
  Resolving — an item is documented as long as its list is the latest one

  An editor asks for lists and later for the documentation of single items.
  Lists for any documents, changes of the engine and clearings of the table may
  come in between. `Offers` writes down every item that was ever offered, and
  the list whose items the table should know.

  What is proved:
    1. `ItemTable.registerAll_spec` — numbers are given one after the other,
       and the table finds each item under its own;
    2. `complete_cases` — a completion offers one item for each new number, or
       leaves the table alone;
    3. `Kept.next` and `kept_run` — the table knows the items of the latest
       list and no others, through every event and every sequence of them;
    4. `resolve_documents_latest_list` — no number is given twice, and an item
       is documented exactly when it is on the latest list and its own class
       still has definitions in the component it was offered for.
-/

namespace ClassLens

/-! ## Numbers -/

@[simp] theorem Json.nat?_ofNat (n : Nat) : (Json.ofNat n).nat? = some n := by
  simp [Json.ofNat, Json.nat?]

theorem Json.eq_ofNat_of_nat? {j : Json} {n : Nat} (h : j.nat? = some n) : j = .ofNat n := by
  cases j with
  | int k =>
    simp only [nat?] at h
    split at h
    · cases h
    · cases h
      simp only [ofNat]
      congr
      omega
  | _ => cases h

theorem Json.ofNat_injective {m n : Nat} (h : Json.ofNat m = .ofNat n) : m = n := by
  have hnat := congrArg Json.nat? h
  rw [nat?_ofNat, nat?_ofNat] at hnat
  exact Option.some.inj hnat

namespace ItemTable

theorem length_registerAll (t : ItemTable) (items : List PendingItem) :
    (t.registerAll items).2.length = items.length := by
  induction items generalizing t with
  | nil => rfl
  | cons item rest ih => exact congrArg Nat.succ (ih (t.register item).1)

/-- As long as the numbers last, items get the next ones in order, and the table
finds each item under its own number. -/
theorem registerAll_spec (items : List PendingItem) {t : ItemTable} {m : Nat}
    (hnext : t.nextId = m % idLimit) (hlast : m + items.length ≤ idLimit) :
    (t.registerAll items).2 = List.range' m items.length ∧
    (t.registerAll items).1.nextId = (m + items.length) % idLimit ∧
    ∀ id, (t.registerAll items).1.entries.get? id =
      if id < m then t.entries.get? id else (items[id - m]?).or (t.entries.get? id) := by
  induction items generalizing t m with
  | nil =>
    refine ⟨rfl, hnext, fun id => ?_⟩
    simp [registerAll]
  | cons item rest ih =>
    rw [List.length_cons] at hlast
    have hm : t.nextId = m := hnext.trans (Nat.mod_eq_of_lt (by omega))
    obtain ⟨hids, hnext', hentries⟩ := ih (t := (t.register item).1) (m := m + 1)
      (by simp only [register, hm]) (by omega)
    refine ⟨?_, ?_, fun id => ?_⟩
    · show t.nextId :: ((t.register item).1.registerAll rest).2 = _
      rw [hids, hm, List.length_cons, List.range'_succ]
    · show ((t.register item).1.registerAll rest).1.nextId = _
      rw [hnext', List.length_cons]
      congr 1
      omega
    · show ((t.register item).1.registerAll rest).1.entries.get? id = _
      rw [hentries id]
      show (if id < m + 1 then (t.entries.insert t.nextId item).get? id
        else (rest[id - (m + 1)]?).or ((t.entries.insert t.nextId item).get? id)) = _
      rw [Table.get?_insert, hm]
      rcases Nat.lt_trichotomy id m with hlt | rfl | hgt
      · have hne : (m == id) = false := beq_false_of_ne (by omega)
        rw [if_pos (by omega), if_pos hlt, hne]
        rfl
      · simp
      · have hne : (m == id) = false := beq_false_of_ne (by omega)
        have hsub : id - m = id - (m + 1) + 1 := by omega
        have hlater : ¬ id < m + 1 := by omega
        have hnot : ¬ id < m := by omega
        rw [if_neg hlater, if_neg hnot, hne, hsub, List.getElem?_cons_succ]
        rfl

end ItemTable

/-! ## Completions -/

/-- The item that is offered for a class under a number. -/
def offeredItem (range : Range) (name : Text) (id : Nat) : Item :=
  { label := name, edit := some (range, name), data := some (.ofNat id)
    documentation := none, others := [("kind".toList, .ofNat itemKind)] }

/-- The items that are offered for classes, each under its number. -/
def offeredItems (range : Range) (names : List Text) (ids : List Nat) : List Item :=
  (names.zip ids).map fun (name, id) => offeredItem range name id

theorem offeredItems_getElem? (range : Range) (names : List Text) (m i : Nat) :
    (offeredItems range names (List.range' m names.length))[i]? =
      (names[i]?).map fun name => offeredItem range name (m + i) := by
  induction names generalizing m i with
  | nil => rfl
  | cons name rest ih =>
    rw [List.length_cons, List.range'_succ]
    cases i with
    | zero => rfl
    | succ i =>
      show (offeredItems range rest (List.range' (m + 1) rest.length))[i]? = _
      rw [ih, List.getElem?_cons_succ, Nat.add_right_comm, Nat.add_assoc]

theorem length_offeredItems (range : Range) {names : List Text} {ids : List Nat}
    (h : ids.length = names.length) : (offeredItems range names ids).length = names.length := by
  simp [offeredItems, h]

section Completions

variable {disk : Disk} {e e' : Engine} {t t' : ItemTable} {doc : Document} {p : Position}
  {attr : Text} {answer : Except Fault (Option (List Item))}

/-- A completion offers items under the numbers that the table gives them, or
leaves the table alone. -/
theorem complete_cases (h : complete disk e t doc p attr = (e', t', answer)) :
    (∃ (range : Range) (names : List Text) (ids : List Nat),
      t.replace (names.map fun name => ⟨doc.path, name⟩) = (t', ids) ∧
      answer = .ok (some (offeredItems range names ids))) ∨
    (t' = t ∧ ∀ items, answer ≠ .ok (some items)) := by
  unfold complete at h
  split at h
  · cases h
    exact .inr ⟨rfl, by simp⟩
  · split at h
    · cases h
      exact .inr ⟨rfl, by simp⟩
    · cases h
      exact .inr ⟨rfl, by simp⟩
    · split at h
      · cases h
        exact .inr ⟨rfl, by simp⟩
      · split at h
        · cases h
          exact .inr ⟨rfl, by simp⟩
        · rename_i cursor _ _ _ c _ _ range _
          cases h
          exact .inl ⟨range, candidates c cursor, _, rfl, rfl⟩

end Completions

/-! ## Sequences of events -/

/-- A list that was offered for a document. -/
structure Listing where
  document : Path
  items : List Item

/-- The engine and the table, with every item that was ever offered and the list
whose items can be documented. -/
structure Offers where
  engine : Engine
  table : ItemTable
  issued : List Item
  latest : Option Listing

namespace Offers

/-- What happens between an editor and the engine. -/
inductive Event where
  | complete (disk : Disk) (doc : Document) (place : Position) (attr : Text)
  | resolve (item : Item)
  | change (engine : Engine)
  | clear

/-- Nothing was offered yet. -/
def start (e : Engine) : Offers := ⟨e, ItemTable.empty, [], none⟩

/-- Only a completion that gives a list takes the place of the latest one. -/
def next (s : Offers) : Event → Offers
  | .complete disk doc place attr =>
    match ClassLens.complete disk s.engine s.table doc place attr with
    | (e, t, .ok (some items)) => ⟨e, t, s.issued ++ items, some ⟨doc.path, items⟩⟩
    | (e, t, _) => { s with engine := e, table := t }
  | .resolve _ => s
  | .change e => { s with engine := e }
  | .clear => { s with table := s.table.clear, latest := none }

/-- What was offered after some events. -/
def run (e : Engine) (events : List Event) : Offers := events.foldl next (start e)

/-- The documentation due to an item: it is on the latest list, and its class
has definitions in the component it was offered for. -/
def Due (s : Offers) (item : Item) (text : Text) : Prop :=
  ∃ (list : Listing) (c : Component), s.latest = some list ∧ item ∈ list.items ∧
    s.engine.component? list.document = some c ∧ c.occurrences item.label ≠ [] ∧
    text = c.markdown (c.occurrences item.label)

/-- Items are numbered in the order they were offered, and the table knows those
of the latest list. -/
structure Kept (s : Offers) : Prop where
  numbers : ∀ (i : Nat) item, s.issued[i]? = some item →
    item.data = some (.ofNat i) ∧ item.documentation = none
  counter : s.table.nextId = s.issued.length % ItemTable.idLimit
  listed : ∀ list, s.latest = some list → ∀ item ∈ list.items, item ∈ s.issued
  entries : ∀ id pending, s.table.entries.get? id = some pending ↔
    ∃ list item, s.latest = some list ∧ item ∈ list.items ∧ item.data = some (.ofNat id) ∧
      pending = ⟨list.document, item.label⟩

section Keeping

variable {s : Offers}

theorem kept_start (e : Engine) : (start e).Kept where
  numbers := fun i item h => by cases h
  counter := rfl
  listed := fun list h => by cases h
  entries := by
    intro id pending
    refine ⟨fun hget => (by cases hget), ?_⟩
    rintro ⟨list, item, hlatest, -⟩
    cases hlatest

theorem Kept.mem_issued (h : s.Kept) {item : Item} (hitem : item ∈ s.issued) :
    ∃ i < s.issued.length, s.issued[i]? = some item ∧ item.data = some (.ofNat i) ∧
      item.documentation = none := by
  obtain ⟨i, hi⟩ := List.mem_iff_getElem?.mp hitem
  exact ⟨i, (List.getElem?_eq_some_iff.mp hi).1, hi, h.numbers i item hi⟩

theorem Kept.eq_of_data (h : s.Kept) {a b : Item} (ha : a ∈ s.issued) (hb : b ∈ s.issued)
    (hdata : a.data = b.data) : a = b := by
  obtain ⟨i, -, hi, hai, -⟩ := h.mem_issued ha
  obtain ⟨j, -, hj, hbj, -⟩ := h.mem_issued hb
  rw [hai, hbj] at hdata
  rw [Json.ofNat_injective (Option.some.inj hdata), hj] at hi
  exact (Option.some.inj hi).symm

theorem Kept.clear (h : s.Kept) : (s.next .clear).Kept where
  numbers := h.numbers
  counter := h.counter
  listed := fun list hlatest => by cases hlatest
  entries := by
    intro id pending
    refine ⟨fun hget => (by cases hget), ?_⟩
    rintro ⟨list, item, hlatest, -⟩
    cases hlatest

/-- A new list takes the next numbers, and its items are all that the table knows. -/
theorem Kept.offer (h : s.Kept) (e : Engine) (range : Range) {document : Path}
    {names : List Text} {t : ItemTable} {ids : List Nat}
    (hreplace : s.table.replace (names.map fun name => ⟨document, name⟩) = (t, ids))
    (hlast : (s.issued ++ offeredItems range names ids).length ≤ ItemTable.idLimit) :
    Kept ⟨e, t, s.issued ++ offeredItems range names ids,
      some ⟨document, offeredItems range names ids⟩⟩ := by
  have hlength : ids.length = names.length := by
    have hcount := s.table.clear.length_registerAll (names.map fun name => ⟨document, name⟩)
    rw [List.length_map] at hcount
    rw [← hcount]
    exact congrArg (fun r => r.2.length) hreplace.symm
  rw [List.length_append, length_offeredItems range hlength] at hlast
  obtain ⟨hids, hnext, hentries⟩ := ItemTable.registerAll_spec
    (names.map fun name => ⟨document, name⟩) (t := s.table.clear) h.counter
    (by rw [List.length_map]; exact hlast)
  rw [List.length_map] at hids hnext
  unfold ItemTable.replace at hreplace
  rw [hreplace] at hids hnext hentries
  subst hids
  have hitem := offeredItems_getElem? range names s.issued.length
  refine ⟨fun i item hi => ?_, ?_, fun list hlatest item hitem => ?_, fun id pending => ?_⟩
  · rcases Nat.lt_or_ge i s.issued.length with hold | hnew
    · rw [List.getElem?_append_left hold] at hi
      exact h.numbers i item hi
    · rw [List.getElem?_append_right hnew, hitem] at hi
      obtain ⟨name, -, rfl⟩ := Option.map_eq_some_iff.mp hi
      rw [show s.issued.length + (i - s.issued.length) = i by omega]
      exact ⟨rfl, rfl⟩
  · show t.nextId = _
    rw [hnext, List.length_append, length_offeredItems range hlength]
  · cases hlatest
    exact List.mem_append_right _ hitem
  · show t.entries.get? id = some pending ↔ _
    rw [hentries id, show s.table.clear.entries.get? id = none from rfl, Option.or_none]
    constructor
    · intro hget
      split at hget
      · cases hget
      · rename_i hnew
        rw [List.getElem?_map] at hget
        obtain ⟨name, hname, rfl⟩ := Option.map_eq_some_iff.mp hget
        refine ⟨_, offeredItem range name id, rfl, List.mem_iff_getElem?.mpr ?_, rfl, rfl⟩
        refine ⟨id - s.issued.length, ?_⟩
        rw [hitem, hname, show s.issued.length + (id - s.issued.length) = id by omega]
        rfl
    · rintro ⟨list, item, hlatest, hmem, hdata, rfl⟩
      cases hlatest
      obtain ⟨i, hi⟩ := List.mem_iff_getElem?.mp hmem
      rw [hitem] at hi
      obtain ⟨name, hname, rfl⟩ := Option.map_eq_some_iff.mp hi
      have hid : s.issued.length + i = id := Json.ofNat_injective (Option.some.inj hdata)
      rw [if_neg (by omega), ← hid, Nat.add_sub_cancel_left, List.getElem?_map, hname]
      rfl

theorem Kept.next (h : s.Kept) (event : Event)
    (hlast : (s.next event).issued.length ≤ ItemTable.idLimit) : (s.next event).Kept := by
  cases event with
  | resolve item => exact h
  | change e => exact ⟨h.numbers, h.counter, h.listed, h.entries⟩
  | clear => exact h.clear
  | complete disk doc place attr =>
    cases hcomplete : ClassLens.complete disk s.engine s.table doc place attr with
    | mk e rest =>
      obtain ⟨t, answer⟩ := rest
      rcases complete_cases hcomplete with ⟨range, names, ids, hreplace, rfl⟩ | ⟨rfl, hnone⟩
      · simp only [Offers.next, hcomplete] at hlast ⊢
        exact h.offer e range hreplace hlast
      · have hnext : s.next (.complete disk doc place attr) = { s with engine := e } := by
          cases answer with
          | error fault => simp only [Offers.next, hcomplete]
          | ok list =>
            cases list with
            | none => simp only [Offers.next, hcomplete]
            | some items => exact absurd rfl (hnone items)
        rw [hnext]
        exact ⟨h.numbers, h.counter, h.listed, h.entries⟩

theorem length_issued_next (s : Offers) (event : Event) :
    s.issued.length ≤ (s.next event).issued.length := by
  cases event with
  | complete disk doc place attr =>
    simp only [next]
    split
    · rw [List.length_append]
      exact Nat.le_add_right _ _
    · exact Nat.le_refl _
  | _ => exact Nat.le_refl _

theorem length_issued_foldl (s : Offers) (events : List Event) :
    s.issued.length ≤ (events.foldl next s).issued.length := by
  induction events generalizing s with
  | nil => exact Nat.le_refl _
  | cons event rest ih => exact Nat.le_trans (length_issued_next s event) (ih (s.next event))

theorem kept_run (e : Engine) (events : List Event)
    (hfew : (run e events).issued.length ≤ ItemTable.idLimit) : (run e events).Kept := by
  have hfold : ∀ s : Offers, s.Kept →
      (events.foldl Offers.next s).issued.length ≤ ItemTable.idLimit →
      (events.foldl Offers.next s).Kept := by
    clear hfew
    induction events with
    | nil => exact fun s h _ => h
    | cons event rest ih =>
      intro s h hlast
      exact ih _ (h.next event (Nat.le_trans (length_issued_foldl _ rest) hlast)) hlast
  exact hfold (start e) (kept_start e) hfew

/-- The table leads from an item's number to the documentation due to the item. -/
theorem Kept.documentation?_iff (h : s.Kept) (x : Item) (text : Text) :
    documentation? s.engine s.table x = some text ↔
      ∃ item ∈ s.issued, x.data = item.data ∧ s.Due item text := by
  unfold documentation?
  constructor
  · intro hdoc
    obtain ⟨data, hdata, hdoc⟩ := Option.bind_eq_some_iff.mp hdoc
    obtain ⟨id, hid, hdoc⟩ := Option.bind_eq_some_iff.mp hdoc
    obtain ⟨pending, hpending, hdoc⟩ := Option.bind_eq_some_iff.mp hdoc
    obtain ⟨c, hc, hdoc⟩ := Option.bind_eq_some_iff.mp hdoc
    obtain ⟨list, item, hlatest, hmem, hitem, rfl⟩ := (h.entries id pending).mp hpending
    simp only at hc hdoc
    split at hdoc
    · cases hdoc
    · rename_i hfound
      cases hdoc
      refine ⟨item, h.listed list hlatest item hmem, ?_, list, c, hlatest, hmem, hc, ?_, rfl⟩
      · rw [hdata, Json.eq_ofNat_of_nat? hid, hitem]
      · simpa using hfound
  · rintro ⟨item, hissued, hdata, list, c, hlatest, hmem, hc, hfound, rfl⟩
    obtain ⟨id, -, -, hid, -⟩ := h.mem_issued hissued
    have hpending := (h.entries id _).mpr ⟨list, item, hlatest, hmem, hid, rfl⟩
    rw [hdata, hid]
    simp only [bind, Option.bind_some, Json.nat?_ofNat, hpending, hc]
    rw [if_neg (by simpa using hfound)]

end Keeping

end Offers

/-- **Items are never mixed up.** Lists are asked for and given for any
documents, the engine changes in any way, and the table is cleared, in any order,
with no more items offered than there are numbers. Then no two items carry the
same number. An item gets documentation exactly when it is on the latest list,
which the table still knows, and its class has definitions in the component it was
offered for: the documentation shows all of these. Every other item stays as it is. -/
theorem resolve_documents_latest_list (e : Engine) (events : List Offers.Event)
    (hfew : (Offers.run e events).issued.length ≤ ItemTable.idLimit) :
    let s := Offers.run e events
    s.issued.Pairwise (fun a b => a.data ≠ b.data) ∧
    (∀ item ∈ s.issued, ∃ id, item.data = some (.ofNat id)) ∧
    (∀ item ∈ s.issued, (resolve s.engine s.table item).documentation.isSome ↔
      ∃ text, s.Due item text) ∧
    (∀ item ∈ s.issued, ∀ x : Item, x.data = item.data →
      (∀ text, s.Due item text →
        resolve s.engine s.table x = { x with documentation := some (markdownJson text) }) ∧
      ((¬ ∃ text, s.Due item text) → resolve s.engine s.table x = x)) ∧
    (∀ x : Item, (∀ item ∈ s.issued, x.data ≠ item.data) → resolve s.engine s.table x = x) := by
  intro s
  have h : s.Kept := Offers.kept_run e events hfew
  have hdue : ∀ item ∈ s.issued, ∀ x : Item, x.data = item.data → ∀ text,
      documentation? s.engine s.table x = some text ↔ s.Due item text := by
    intro item hitem x hdata text
    rw [h.documentation?_iff]
    constructor
    · rintro ⟨item', hitem', hdata', hdue⟩
      rwa [h.eq_of_data hitem hitem' (hdata.symm.trans hdata')]
    · exact fun hdue => ⟨item, hitem, hdata, hdue⟩
  have hnone : ∀ x : Item, (∀ text, documentation? s.engine s.table x ≠ some text) →
      resolve s.engine s.table x = x := by
    intro x hx
    unfold resolve
    rw [Option.eq_none_iff_forall_ne_some.mpr hx]
  have hsome : ∀ (x : Item) text, documentation? s.engine s.table x = some text →
      resolve s.engine s.table x = { x with documentation := some (markdownJson text) } := by
    intro x text hx
    unfold resolve
    rw [hx]
  refine ⟨?_, fun item hitem => ?_, fun item hitem => ?_, fun item hitem x hdata => ⟨?_, ?_⟩, ?_⟩
  · rw [List.pairwise_iff_getElem]
    intro i j hi hj hij hdata
    rw [(h.numbers i _ (List.getElem?_eq_getElem hi)).1,
      (h.numbers j _ (List.getElem?_eq_getElem hj)).1] at hdata
    have heq := Json.ofNat_injective (Option.some.inj hdata)
    omega
  · obtain ⟨id, -, -, hid, -⟩ := h.mem_issued hitem
    exact ⟨id, hid⟩
  · constructor
    · intro hdoc
      by_cases hex : ∃ text, s.Due item text
      · exact hex
      · obtain ⟨-, -, -, -, hplain⟩ := h.mem_issued hitem
        rw [hnone item fun text htext => hex ⟨text, (hdue item hitem item rfl text).mp htext⟩,
          hplain] at hdoc
        cases hdoc
    · rintro ⟨text, htext⟩
      rw [hsome item text ((hdue item hitem item rfl text).mpr htext)]
      rfl
  · exact fun text htext => hsome x text ((hdue item hitem x hdata text).mpr htext)
  · exact fun hex => hnone x fun text htext => hex ⟨text, (hdue item hitem x hdata text).mp htext⟩
  · intro x hforeign
    refine hnone x fun text htext => ?_
    obtain ⟨item, hitem, hdata, -⟩ := (h.documentation?_iff x text).mp htext
    exact hforeign item hitem hdata

namespace Offers.Sample

/-- A stylesheet, and a document that imports it. -/
def sheet : Path := ⟨[0x2F, 0x61, 0x2E, 0x63, 0x73, 0x73]⟩

def disk : Disk := Disk.empty.write sheet (.text ".x{}".toList) 1

def doc : Document where
  path := ⟨[0x2F, 0x63]⟩
  text := "import './a.css'\n<p styleName=\"\">".toList
  version := 1

def attr : Text := "styleName".toList

/-- The class is offered twice; outside of the value nothing is. -/
def events : List Event :=
  [.complete disk doc ⟨1, 14⟩ attr, .complete disk doc ⟨1, 14⟩ attr,
    .complete disk doc ⟨0, 0⟩ attr]

def offers : Offers := run (Engine.new 300) events

end Offers.Sample

/-- The item of a list that was replaced stays as it is. The same class on the
latest list is documented, also after a completion that gave no list. -/
theorem resolve_documents_latest_list_superseded :
    ∃ old new, Offers.Sample.offers.issued = [old, new] ∧ old.data ≠ new.data ∧
      resolve Offers.Sample.offers.engine Offers.Sample.offers.table old = old ∧
      ∃ text, Offers.Sample.offers.Due new text ∧
        resolve Offers.Sample.offers.engine Offers.Sample.offers.table new =
          { new with documentation := some (markdownJson text) } := by
  have hlength : Offers.Sample.offers.issued.length = 2 := by decide +kernel
  have hshown : Offers.Sample.offers.issued.map (fun item =>
      (resolve Offers.Sample.offers.engine Offers.Sample.offers.table
        item).documentation.isSome) = [false, true] := by decide +kernel
  obtain ⟨hdistinct, -, hiff, hresolve, -⟩ := resolve_documents_latest_list (Engine.new 300)
    Offers.Sample.events (Nat.le_trans (Nat.le_of_eq hlength) (by decide))
  change Offers.Sample.offers.issued.Pairwise _ at hdistinct
  change ∀ item ∈ Offers.Sample.offers.issued, _ at hiff hresolve
  obtain ⟨old, new, hissued⟩ : ∃ old new, Offers.Sample.offers.issued = [old, new] := by
    match Offers.Sample.offers.issued, hlength with
    | [old, new], _ => exact ⟨old, new, rfl⟩
  rw [hissued] at hshown hdistinct hiff hresolve
  obtain ⟨hold, hnew⟩ : (resolve Offers.Sample.offers.engine Offers.Sample.offers.table
        old).documentation.isSome = false ∧
      (resolve Offers.Sample.offers.engine Offers.Sample.offers.table
        new).documentation.isSome = true := by
    simpa using hshown
  obtain ⟨text, hdue⟩ := (hiff new (by simp)).mp hnew
  have hsuperseded : ¬ ∃ text, Offers.Sample.offers.Due old text := by
    intro hdue
    exact Bool.false_ne_true (hold.symm.trans ((hiff old (by simp)).mpr hdue))
  exact ⟨old, new, hissued, List.rel_of_pairwise_cons hdistinct (by simp),
    (hresolve old (by simp) old rfl).2 hsuperseded, text, hdue,
    (hresolve new (by simp) new rfl).1 text hdue⟩

end ClassLens
