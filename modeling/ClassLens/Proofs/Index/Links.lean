import ClassLens.Proofs.Table
import ClassLens.Engine.Index
/-
  Links — the dependents are the inverse of the import lists

  A component is listed under exactly the stylesheets it imports. This is said
  for a set of stylesheets (`LinkedOn`), because removing a stylesheet first
  drops its whole list and only then forgets the components that were on it:
  in between the tables agree everywhere else.

  What is proved:
    1. `lists_unlinkFrom`, `lists_linkTo` — who is listed after one component
       left or joined the lists of its imports;
    2. `LinkedOn.dropComponent`, `Linked.commit`, `Linked.removeSheet`,
       `Linked.indexComponent`, `Linked.updateSheet` — every operation keeps
       the agreement;
    3. `Linked.isConsistent` — the check of the index then succeeds.
-/

namespace ClassLens

namespace Index

/-- A component is listed among the dependents of a stylesheet. -/
def Lists (t : Table Path (List Path)) (sheet component : Path) : Prop :=
  ∃ paths, t.get? sheet = some paths ∧ paths.any (· == component) = true

/-- A component is indexed and imports a stylesheet. -/
def Imports (t : Table Path Component) (component sheet : Path) : Prop :=
  ∃ c, t.get? component = some c ∧ c.imports.any (· == sheet) = true

/-- No list of dependents is empty. -/
def Occupied (t : Table Path (List Path)) : Prop := ∀ sheet, t.get? sheet ≠ some []

theorem imports_congr {t : Table Path Component} {c d : Path} (h : (c == d) = true) (p : Path) :
    Imports t c p ↔ Imports t d p := by
  unfold Imports
  rw [Table.get?_congr t h]

theorem any_beq_congr {p q : Path} (h : (p == q) = true) (paths : List Path) :
    paths.any (· == p) = paths.any (· == q) := by
  have hfun : (fun x : Path => x == p) = fun x => x == q := funext fun x => BEq.congr_right h
  rw [hfun]

/-! ## Taking a component off the lists of some stylesheets -/

theorem any_filter_ne (component d : Path) (paths : List Path) :
    (paths.filter fun q => !(q == component)).any (· == d) = true ↔
      paths.any (· == d) = true ∧ ¬ (component == d) = true := by
  simp only [List.any_eq_true, List.mem_filter]
  constructor
  · rintro ⟨q, ⟨hq, hne⟩, hqd⟩
    refine ⟨⟨q, hq, hqd⟩, fun hcd => ?_⟩
    have hqc : (q == component) = true := BEq.trans hqd (BEq.symm hcd)
    simp [hqc] at hne
  · rintro ⟨⟨q, hq, hqd⟩, hcd⟩
    refine ⟨q, ⟨hq, ?_⟩, hqd⟩
    have hqc : ¬ (q == component) = true := fun h => hcd (BEq.trans (BEq.symm h) hqd)
    simpa using hqc

theorem dropPath_eq_some {component : Path} {paths rest : List Path} :
    dropPath component paths = some rest ↔
      paths.filter (fun q => !(q == component)) = rest ∧ rest ≠ [] := by
  unfold dropPath
  split
  · rename_i h
    constructor
    · intro e
      cases e
    · rintro ⟨e, hne⟩
      exact absurd (e.symm.trans h) hne
  · rename_i h
    constructor
    · intro e
      simp only [Option.some.injEq] at e
      exact ⟨e, fun hnil => h (by rw [e, hnil])⟩
    · rintro ⟨e, -⟩
      rw [e]

theorem lists_update (t : Table Path (List Path)) (component sheet p d : Path) :
    Lists (t.update sheet (dropPath component)) p d ↔
      Lists t p d ∧ ¬ ((component == d) = true ∧ (sheet == p) = true) := by
  unfold Lists
  rw [Table.get?_update]
  by_cases hs : (sheet == p) = true
  · simp only [hs, if_true, and_true, Table.get?_congr t hs, Option.bind_eq_some_iff,
      dropPath_eq_some]
    constructor
    · rintro ⟨rest, ⟨paths, hget, hfilter, -⟩, hd⟩
      rw [← hfilter] at hd
      obtain ⟨hany, hne⟩ := (any_filter_ne component d paths).mp hd
      exact ⟨⟨paths, hget, hany⟩, hne⟩
    · rintro ⟨⟨paths, hget, hany⟩, hne⟩
      have hd := (any_filter_ne component d paths).mpr ⟨hany, hne⟩
      refine ⟨_, ⟨paths, hget, rfl, fun hnil => ?_⟩, hd⟩
      rw [hnil] at hd
      simp at hd
  · simp [hs]

theorem occupied_update {t : Table Path (List Path)} (h : Occupied t) (component sheet : Path) :
    Occupied (t.update sheet (dropPath component)) := by
  intro p
  rw [Table.get?_update]
  by_cases hs : (sheet == p) = true
  · rw [if_pos hs]
    intro hnil
    obtain ⟨paths, -, hdrop⟩ := Option.bind_eq_some_iff.mp hnil
    exact (dropPath_eq_some.mp hdrop).2 rfl
  · simpa [hs] using h p

theorem lists_unlinkFrom (component : Path) (sheets : List Path) (t : Table Path (List Path))
    (p d : Path) :
    Lists (unlinkFrom component sheets t) p d ↔
      Lists t p d ∧ ¬ ((component == d) = true ∧ sheets.any (· == p) = true) := by
  unfold unlinkFrom
  induction sheets generalizing t with
  | nil => simp
  | cons sheet rest ih =>
    rw [List.foldl_cons, ih, lists_update, List.any_cons, Bool.or_eq_true]
    grind

theorem unlinkFrom_keeps (component : Path) (sheets : List Path) {t : Table Path (List Path)}
    (hd : t.Distinct) (ho : Occupied t) :
    (unlinkFrom component sheets t).Distinct ∧ Occupied (unlinkFrom component sheets t) := by
  unfold unlinkFrom
  induction sheets generalizing t with
  | nil => exact ⟨hd, ho⟩
  | cons sheet rest ih =>
    exact ih (Table.distinct_update hd _ _) (occupied_update ho component sheet)

/-! ## Putting a component on the lists of some stylesheets -/

theorem any_addPath (paths : List Path) (c d : Path) :
    (addPath paths c).any (· == d) = true ↔ paths.any (· == d) = true ∨ (c == d) = true := by
  unfold addPath
  split
  · rename_i h
    constructor
    · exact .inl
    · rintro (hd | hcd)
      · exact hd
      · rw [← any_beq_congr hcd]
        exact h
  · simp

theorem addPath_ne_nil (paths : List Path) (c : Path) : addPath paths c ≠ [] := by
  intro h
  have hc : (addPath paths c).any (· == c) = true := (any_addPath paths c c).mpr (.inr BEq.rfl)
  rw [h] at hc
  simp at hc

theorem lists_insert (t : Table Path (List Path)) (component sheet p d : Path) :
    Lists (t.insert sheet (addPath ((t.get? sheet).getD []) component)) p d ↔
      Lists t p d ∨ ((component == d) = true ∧ (sheet == p) = true) := by
  unfold Lists
  rw [Table.get?_insert]
  by_cases hs : (sheet == p) = true
  · simp only [hs, if_true, and_true, Option.some.injEq, exists_eq_left', any_addPath,
      Table.get?_congr t hs]
    cases t.get? p with
    | none => simp
    | some paths => simp
  · simp [hs]

theorem lists_linkTo (component : Path) (sheets : List Path) (t : Table Path (List Path))
    (p d : Path) :
    Lists (linkTo component sheets t) p d ↔
      Lists t p d ∨ ((component == d) = true ∧ sheets.any (· == p) = true) := by
  unfold linkTo
  induction sheets generalizing t with
  | nil => simp
  | cons sheet rest ih =>
    rw [List.foldl_cons, ih, lists_insert, List.any_cons, Bool.or_eq_true]
    grind

theorem linkTo_keeps (component : Path) (sheets : List Path) {t : Table Path (List Path)}
    (hd : t.Distinct) (ho : Occupied t) :
    (linkTo component sheets t).Distinct ∧ Occupied (linkTo component sheets t) := by
  unfold linkTo
  induction sheets generalizing t with
  | nil => exact ⟨hd, ho⟩
  | cons sheet rest ih =>
    refine ih (Table.distinct_insert hd _ _) (fun p => ?_)
    rw [Table.get?_insert]
    split
    · simpa using addPath_ne_nil _ component
    · exact ho p

/-! ## Agreement of components and dependents -/

/-- Keys are distinct, no list is empty, and under the stylesheets that `P`
holds of a component is listed exactly when it imports them; elsewhere nothing
is listed. -/
structure LinkedOn (P : Path → Prop) (idx : Index) : Prop where
  components_distinct : idx.components.Distinct
  dependents_distinct : idx.dependents.Distinct
  occupied : Occupied idx.dependents
  inverse : ∀ p c, Lists idx.dependents p c ↔ Imports idx.components c p ∧ P p

/-- The dependents are the inverse of the import lists. -/
abbrev Linked (idx : Index) : Prop := LinkedOn (fun _ => True) idx

theorem linked_empty : Linked empty where
  components_distinct := Table.distinct_empty
  dependents_distinct := Table.distinct_empty
  occupied := by intro p; simp [empty]
  inverse := by intro p c; simp [empty, Lists, Imports]

theorem Linked.lists_iff {idx : Index} (h : Linked idx) (p c : Path) :
    Lists idx.dependents p c ↔ Imports idx.components c p := by
  simpa using h.inverse p c

/-- The cache plays no part in the agreement. -/
theorem LinkedOn.of_eq {P : Path → Prop} {idx idx' : Index} (h : LinkedOn P idx)
    (hc : idx'.components = idx.components) (hd : idx'.dependents = idx.dependents) :
    LinkedOn P idx' where
  components_distinct := hc ▸ h.components_distinct
  dependents_distinct := hd ▸ h.dependents_distinct
  occupied := hd ▸ h.occupied
  inverse := hc ▸ hd ▸ h.inverse

@[simp] theorem unlink_cache (idx : Index) (c : Path) : (idx.unlink c).cache = idx.cache := by
  unfold unlink
  split <;> rfl

@[simp] theorem unlink_components (idx : Index) (c : Path) :
    (idx.unlink c).components = idx.components := by
  unfold unlink
  split <;> rfl

theorem commit_components (idx : Index) (k : Component) :
    (idx.commit k).components = idx.components.insert k.path k := by
  show (idx.unlink k.path).components.insert k.path k = _
  rw [unlink_components]

theorem of_get?_commit {idx : Index} {k k' : Component} {c : Path}
    (h : (idx.commit k).components.get? c = some k') :
    ((k.path == c) = true ∧ k' = k) ∨ idx.components.get? c = some k' := by
  rw [commit_components] at h
  exact Table.of_get?_insert h

theorem lists_unlink (idx : Index) (component p d : Path) :
    Lists (idx.unlink component).dependents p d ↔
      Lists idx.dependents p d ∧
        ¬ ((component == d) = true ∧ Imports idx.components component p) := by
  unfold unlink Imports
  split
  · rename_i h
    simp [h]
  · rename_i previous h
    simp only [h, lists_unlinkFrom, Option.some.injEq, exists_eq_left']

theorem unlink_keeps (idx : Index) (component : Path) (hd : idx.dependents.Distinct)
    (ho : Occupied idx.dependents) :
    (idx.unlink component).dependents.Distinct ∧ Occupied (idx.unlink component).dependents := by
  unfold unlink
  split
  · exact ⟨hd, ho⟩
  · exact unlinkFrom_keeps component _ hd ho

theorem imports_insert (t : Table Path Component) (c : Component) (d p : Path) :
    Imports (t.insert c.path c) d p ↔
      if (c.path == d) = true then c.imports.any (· == p) = true else Imports t d p := by
  unfold Imports
  rw [Table.get?_insert]
  split <;> simp

theorem imports_erase (t : Table Path Component) (component d p : Path) :
    Imports (t.erase component) d p ↔ Imports t d p ∧ ¬ (component == d) = true := by
  unfold Imports
  rw [Table.get?_erase]
  split <;> simp [*]

/-- Forgetting a component keeps the agreement, also where it holds of some stylesheets only. -/
theorem LinkedOn.dropComponent {P : Path → Prop} {idx : Index} (h : LinkedOn P idx)
    (component : Path) : LinkedOn P (idx.dropComponent component) where
  components_distinct := by
    show Table.Distinct ((idx.unlink component).components.erase component)
    rw [unlink_components]
    exact Table.distinct_erase h.components_distinct component
  dependents_distinct := (unlink_keeps idx component h.dependents_distinct h.occupied).1
  occupied := (unlink_keeps idx component h.dependents_distinct h.occupied).2
  inverse := by
    intro p d
    show Lists (idx.unlink component).dependents p d ↔
      Imports ((idx.unlink component).components.erase component) d p ∧ P p
    rw [lists_unlink, h.inverse, unlink_components, imports_erase]
    by_cases hd : (component == d) = true
    · simp only [imports_congr hd, hd, true_and, and_false, false_and,
        iff_false, not_and, not_not_intro]
      exact fun himports hnot => hnot himports.1
    · simp [hd]

/-- Putting a component in place of what was known about its path keeps the agreement. -/
theorem Linked.commit {idx : Index} (h : Linked idx) (c : Component) : Linked (idx.commit c) where
  components_distinct := by
    show Table.Distinct ((idx.unlink c.path).components.insert c.path c)
    rw [unlink_components]
    exact Table.distinct_insert h.components_distinct c.path c
  dependents_distinct :=
    have hk := unlink_keeps idx c.path h.dependents_distinct h.occupied
    (linkTo_keeps c.path c.imports hk.1 hk.2).1
  occupied :=
    have hk := unlink_keeps idx c.path h.dependents_distinct h.occupied
    (linkTo_keeps c.path c.imports hk.1 hk.2).2
  inverse := by
    intro p d
    show Lists (linkTo c.path c.imports (idx.unlink c.path).dependents) p d ↔
      Imports ((idx.unlink c.path).components.insert c.path c) d p ∧ True
    rw [lists_linkTo, lists_unlink, h.lists_iff, unlink_components, imports_insert]
    by_cases hd : (c.path == d) = true
    · -- what the component imported before is gone, what it imports now is there
      rw [imports_congr hd, if_pos hd]
      simp [hd]
    · simp [hd]

/-! ## Reading stylesheets -/

theorem consult_links (disk : Disk) (idx : Index) (p : Path) :
    (consult disk idx p).1.components = idx.components ∧
      (consult disk idx p).1.dependents = idx.dependents := by
  have hreload : (reload disk idx p).1.components = idx.components ∧
      (reload disk idx p).1.dependents = idx.dependents := by
    unfold reload
    split <;> exact ⟨rfl, rfl⟩
  unfold consult
  split
  · split
    · exact hreload
    · exact ⟨rfl, rfl⟩
  · exact hreload

theorem consultAll_links (disk : Disk) (imports : List Path) (idx : Index) (sheets : List Sheet) :
    (consultAll disk imports idx sheets).1.components = idx.components ∧
      (consultAll disk imports idx sheets).1.dependents = idx.dependents := by
  induction imports generalizing idx sheets with
  | nil => exact ⟨rfl, rfl⟩
  | cons p rest ih =>
    unfold consultAll
    split
    · exact ih idx sheets
    · obtain ⟨hc, hd⟩ := consult_links disk idx p
      split <;> rename_i hconsult <;> rw [hconsult] at hc hd
      · exact ⟨(ih _ _).1.trans hc, (ih _ _).2.trans hd⟩
      · exact ⟨(ih _ _).1.trans hc, (ih _ _).2.trans hd⟩

theorem indexComponent_eq (disk : Disk) (idx : Index) (component : Path) (imports : List Path) :
    indexComponent disk idx component imports =
      (consultAll disk imports idx []).1.commit
        (Component.build component imports (consultAll disk imports idx []).2) := rfl

theorem Linked.indexComponent {idx : Index} (h : Linked idx) (disk : Disk) (component : Path)
    (imports : List Path) : Linked (indexComponent disk idx component imports) := by
  obtain ⟨hc, hd⟩ := consultAll_links disk imports idx []
  rw [indexComponent_eq]
  exact Linked.commit (h.of_eq hc hd) _

/-! ## Changes of files -/

theorem updateSheet_eq (disk : Disk) (idx : Index) (sheet : Path) :
    updateSheet disk idx sheet =
      (rebuilds (idx.forget sheet) sheet).foldl
        (fun idx work => indexComponent disk idx work.1 work.2) (idx.forget sheet) := rfl

theorem indexed_of_mem_rebuilds {idx : Index} {sheet : Path} {work : Path × List Path}
    (h : work ∈ idx.rebuilds sheet) :
    ∃ k, idx.components.get? work.1 = some k ∧ k.imports = work.2 := by
  obtain ⟨c, -, hc⟩ := List.mem_filterMap.mp h
  obtain ⟨k, hk, rfl⟩ := Option.map_eq_some_iff.mp hc
  exact ⟨k, hk, rfl⟩

theorem Linked.updateSheet {idx : Index} (h : Linked idx) (disk : Disk) (sheet : Path) :
    Linked (updateSheet disk idx sheet) := by
  rw [updateSheet_eq]
  have hforget : Linked (idx.forget sheet) := h.of_eq rfl rfl
  -- the work list is fixed beforehand, so each of its components is indexed on what came before
  generalize rebuilds (idx.forget sheet) sheet = work
  generalize idx.forget sheet = start at hforget
  induction work generalizing start with
  | nil => exact hforget
  | cons w rest ih => exact ih _ (hforget.indexComponent disk w.1 w.2)

theorem lists_erase (t : Table Path (List Path)) (sheet p d : Path) :
    Lists (t.erase sheet) p d ↔ Lists t p d ∧ ¬ (sheet == p) = true := by
  unfold Lists
  rw [Table.get?_erase]
  split <;> simp [*]

/-- Dropping the list of a stylesheet leaves the agreement everywhere else. -/
theorem Linked.eraseList {idx : Index} (h : Linked idx) (sheet : Path) :
    LinkedOn (fun p => ¬ (sheet == p) = true)
      { idx with dependents := idx.dependents.erase sheet } where
  components_distinct := h.components_distinct
  dependents_distinct := Table.distinct_erase h.dependents_distinct sheet
  occupied := by
    intro p
    show (idx.dependents.erase sheet).get? p ≠ some []
    rw [Table.get?_erase]
    split
    · simp
    · exact h.occupied p
  inverse := by
    intro p c
    rw [lists_erase, h.lists_iff]

theorem LinkedOn.dropAll {P : Path → Prop} {idx : Index} (h : LinkedOn P idx)
    (gone : List Path) : LinkedOn P (gone.foldl Index.dropComponent idx) := by
  induction gone generalizing idx with
  | nil => exact h
  | cons c rest ih => exact ih (h.dropComponent c)

theorem dropComponent_components (idx : Index) (c : Path) :
    (idx.dropComponent c).components = idx.components.erase c := by
  show (idx.unlink c).components.erase c = _
  rw [unlink_components]

theorem of_get?_dropComponent {idx : Index} {component c : Path} {k : Component}
    (h : (idx.dropComponent component).components.get? c = some k) :
    idx.components.get? c = some k := by
  rw [dropComponent_components] at h
  exact Table.of_get?_erase h

theorem dropAll_cache (idx : Index) (gone : List Path) :
    (gone.foldl dropComponent idx).cache = idx.cache := by
  induction gone generalizing idx with
  | nil => rfl
  | cons c rest ih => exact (ih _).trans (unlink_cache idx c)

theorem dropAll_get? (idx : Index) (gone : List Path) (c : Path) :
    (gone.foldl dropComponent idx).components.get? c =
      if gone.any (· == c) then none else idx.components.get? c := by
  induction gone generalizing idx with
  | nil => rfl
  | cons d rest ih =>
    rw [List.foldl_cons, ih, dropComponent_components, Table.get?_erase, List.any_cons]
    cases (d == c) <;> cases rest.any (· == c) <;> rfl

theorem imports_dropAll (idx : Index) (gone : List Path) (d p : Path) :
    Imports (gone.foldl dropComponent idx).components d p ↔
      Imports idx.components d p ∧ ¬ gone.any (· == d) = true := by
  unfold Imports
  rw [dropAll_get?]
  split <;> simp [*]

theorem any_dependentsOf (idx : Index) (sheet c : Path) :
    (idx.dependentsOf sheet).any (· == c) = true ↔ Lists idx.dependents sheet c := by
  unfold dependentsOf Lists
  cases idx.dependents.get? sheet <;> simp

theorem Linked.mem_rebuilds {idx : Index} (h : Linked idx) {c sheet : Path} {k : Component}
    (hget : idx.components.get? c = some k) (himports : k.imports.any (· == sheet) = true) :
    ∃ d, (d == c) = true ∧ (d, k.imports) ∈ idx.rebuilds sheet := by
  have hlists := (h.lists_iff sheet c).mpr ⟨k, hget, himports⟩
  obtain ⟨d, hd, hdc⟩ := List.any_eq_true.mp ((any_dependentsOf idx sheet c).mpr hlists)
  have hget' : idx.components.get? d = some k := (Table.get?_congr _ hdc).trans hget
  refine ⟨d, hdc, List.mem_filterMap.mpr ⟨d, hd, ?_⟩⟩
  exact Option.map_eq_some_iff.mpr ⟨k, hget', rfl⟩

theorem Linked.removeSheet {idx : Index} (h : Linked idx) (sheet : Path) :
    Linked (idx.removeSheet sheet) := by
  have hforget : Linked (idx.forget sheet) := h.of_eq rfl rfl
  have hleft := (hforget.eraseList sheet).dropAll (idx.dependentsOf sheet)
  refine ⟨hleft.components_distinct, hleft.dependents_distinct, hleft.occupied, fun p c => ?_⟩
  -- nothing that is left imports the stylesheet, so the agreement has no exception any more
  have hinverse := hleft.inverse p c
  have himports := imports_dropAll
    { idx.forget sheet with dependents := idx.dependents.erase sheet } (idx.dependentsOf sheet) c p
  rw [any_dependentsOf, h.lists_iff] at himports
  show Lists _ p c ↔ Imports _ c p ∧ True
  rw [and_true]
  refine hinverse.trans ⟨fun hboth => hboth.1, fun hi => ⟨hi, fun hsheet => ?_⟩⟩
  obtain ⟨⟨k, hget, hany⟩, hnot⟩ := himports.mp hi
  exact hnot ⟨k, hget, by rw [any_beq_congr hsheet]; exact hany⟩

/-! ## The check of the tables -/

theorem Linked.isConsistent {idx : Index} (h : Linked idx) : idx.isConsistent = true := by
  unfold Index.isConsistent
  rw [Bool.and_eq_true]
  constructor
  · unfold forwardConsistent
    simp only [List.all_eq_true]
    rintro ⟨path, c⟩ hentry sheet hsheet
    have hget := Table.get?_of_mem h.components_distinct hentry BEq.rfl
    have hany : c.imports.any (· == sheet) = true := List.any_eq_true.mpr ⟨sheet, hsheet, BEq.rfl⟩
    obtain ⟨paths, hpaths, hlisted⟩ := (h.lists_iff sheet path).mpr ⟨c, hget, hany⟩
    simp only [hpaths, hlisted]
  · unfold backwardConsistent
    simp only [List.all_eq_true, Bool.and_eq_true]
    rintro ⟨sheet, paths⟩ hentry
    have hget := Table.get?_of_mem h.dependents_distinct hentry BEq.rfl
    refine ⟨?_, fun path hpath => ?_⟩
    · have hne : paths ≠ [] := fun hnil => h.occupied sheet (hnil ▸ hget)
      simpa using hne
    · have hany : paths.any (· == path) = true := List.any_eq_true.mpr ⟨path, hpath, BEq.rfl⟩
      obtain ⟨c, hc, himports⟩ := (h.lists_iff sheet path).mp ⟨paths, hget, hany⟩
      simp only [hc, himports]

end Index

end ClassLens
