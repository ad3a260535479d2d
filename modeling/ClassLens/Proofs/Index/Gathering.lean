import ClassLens.Proofs.Disk.Files
import ClassLens.Proofs.Index.Links
import ClassLens.Proofs.Path.Normal
/-
  Gathering — the sheets of a component without the cache in between

  Consulting one stylesheet changes the cache in one place, so what the index
  answers for a stylesheet is the same at every moment of indexing a component.
  The sheets of the component are therefore gathered by a fixed look at each
  import, and the cache holds afterwards what it held or what was answered.

  What is proved:
    1. `consult_cache`, `answer?_consult`, `OwnPaths.consult` — what one
       consultation does to the cache and to later answers;
    2. `consultAll_sheets`, `consultAll_cache` — the same for a whole import
       list;
    3. `find?_gather` — the sheet held for an import is what the look at it
       found.
-/

namespace ClassLens

namespace Sheet

theorem read_eq_ok {disk : Disk} {p : Path} {s : Sheet} (h : read disk p = .ok s) :
    s.path = p ∧ s.isStale disk = false := by
  unfold read at h
  split at h
  · cases h
  · rename_i stamp hstamp
    split at h
    · cases h
    · cases h
      refine ⟨rfl, ?_⟩
      have hpath : ∀ content, (build content p stamp).path = p := fun _ => rfl
      have hmodified : ∀ content, (build content p stamp).modified = stamp := fun _ => rfl
      unfold isStale
      rw [hpath, hstamp]
      simp [hmodified]

end Sheet

namespace Index

/-- What the index answers for a stylesheet: the cached sheet unless its file
changed since, or what reading it anew gives. -/
def answer? (disk : Disk) (idx : Index) (p : Path) : Option Sheet := (consult disk idx p).2

/-- What reading a stylesheet anew gives. -/
def readAnew? (disk : Disk) (p : Path) : Option Sheet := (Sheet.read disk p).toOption

theorem readAnew?_eq_some {disk : Disk} {p : Path} {s : Sheet} :
    readAnew? disk p = some s ↔ Sheet.read disk p = .ok s := by
  unfold readAnew?
  cases Sheet.read disk p <;> simp [Except.toOption]

theorem readAnew?_eq (disk : Disk) (p : Path) :
    readAnew? disk p =
      match disk.file? p with
      | some (.text content, modified) => some (Sheet.build content p (.time modified))
      | _ => none := by
  unfold readAnew? Sheet.read Disk.stamp Disk.read Disk.file?
  cases disk.find p with
  | error cause => rfl
  | ok found =>
    obtain ⟨place, node⟩ := found
    cases node with
    | directory changed => rfl
    | file content modified => cases content <;> rfl

theorem readAnew?_eq_none {p : Path} {cause : DiskError} (h : disk.read p = .error cause) :
    readAnew? disk p = none := by
  unfold readAnew? Sheet.read
  rw [h]
  cases disk.stamp p <;> rfl

/-- An answer is the cached sheet, which then is fresh, or what is read anew. -/
theorem answer?_eq (disk : Disk) (idx : Index) (p : Path) :
    answer? disk idx p =
      match idx.cache.get? p with
      | some s => if s.isStale disk then readAnew? disk p else some s
      | none => readAnew? disk p := by
  have hreload : (reload disk idx p).2 = readAnew? disk p := by
    unfold reload readAnew?
    cases Sheet.read disk p <;> rfl
  unfold answer? consult
  cases idx.cache.get? p with
  | none => exact hreload
  | some s =>
    simp only
    split
    · exact hreload
    · rfl

theorem consult_cache (disk : Disk) (idx : Index) (p q : Path) :
    (consult disk idx p).1.cache.get? q =
      if p == q then answer? disk idx p else idx.cache.get? q := by
  have hreload : (reload disk idx p).1.cache.get? q =
      if p == q then (reload disk idx p).2 else idx.cache.get? q := by
    unfold reload
    split
    · rename_i s hread
      show (idx.cache.insert s.path s).get? q = _
      rw [Table.get?_insert, (Sheet.read_eq_ok hread).1]
    · exact Table.get?_erase idx.cache p q
  unfold answer? consult
  cases hget : idx.cache.get? p with
  | none => exact hreload
  | some s =>
    simp only
    split
    · exact hreload
    · show idx.cache.get? q = if p == q then some s else idx.cache.get? q
      split
      · rename_i hpq
        rw [← Table.get?_congr idx.cache hpq, hget]
      · rfl

/-- What was answered is either fresh or what reading gives anew, so once it is
in the cache the answer stays the same. -/
theorem answer?_of_cached {disk : Disk} {idx idx' : Index} {p : Path}
    (h : idx'.cache.get? p = answer? disk idx p) : answer? disk idx' p = answer? disk idx p := by
  rw [answer?_eq disk idx', h, answer?_eq]
  cases hanew : readAnew? disk p with
  | none =>
    cases idx.cache.get? p with
    | none => simp
    | some s => cases hstale : s.isStale disk <;> simp [hstale]
  | some anew =>
    have hfresh := (Sheet.read_eq_ok (readAnew?_eq_some.mp hanew)).2
    cases idx.cache.get? p with
    | none => simp [hfresh]
    | some s => cases hstale : s.isStale disk <;> simp [hstale, hfresh]

theorem answer?_congr {disk : Disk} {idx idx' : Index} {p : Path}
    (h : idx'.cache.get? p = idx.cache.get? p) : answer? disk idx' p = answer? disk idx p := by
  rw [answer?_eq, answer?_eq, h]

/-- Asking again gives the same answer. -/
theorem answer?_consult {disk : Disk} {idx : Index} {p q : Path} (hp : p.IsNormal)
    (hq : q.IsNormal) : answer? disk (consult disk idx p).1 q = answer? disk idx q := by
  have hcache := consult_cache disk idx p q
  by_cases hpq : (p == q) = true
  · rw [if_pos hpq, hp.eq_of_beq hq hpq] at hcache
    rw [hp.eq_of_beq hq hpq]
    exact answer?_of_cached hcache
  · rw [if_neg hpq] at hcache
    exact answer?_congr hcache

/-- The cache holds every sheet under its own path. -/
def OwnPaths (t : Table Path Sheet) : Prop := ∀ q s, t.get? q = some s → (s.path == q) = true

theorem OwnPaths.answer? {disk : Disk} {idx : Index} (h : OwnPaths idx.cache) {p : Path} {s : Sheet}
    (hs : answer? disk idx p = some s) : (s.path == p) = true := by
  have hanew : readAnew? disk p = some s → (s.path == p) = true := by
    intro hread
    rw [(Sheet.read_eq_ok (readAnew?_eq_some.mp hread)).1]
    exact BEq.rfl
  rw [answer?_eq] at hs
  split at hs
  · rename_i cached hcached
    split at hs
    · exact hanew hs
    · cases hs
      exact h p s hcached
  · exact hanew hs

theorem OwnPaths.consult {disk : Disk} {idx : Index} (h : OwnPaths idx.cache) (p : Path) :
    OwnPaths (consult disk idx p).1.cache := by
  intro q s hs
  rw [consult_cache] at hs
  split at hs
  · rename_i hpq
    exact BEq.trans (h.answer? hs) hpq
  · exact h q s hs

/-! ## Import lists -/

/-- The sheets that a look at each of the given paths finds, in order, behind
those found already. A path that one of them is of is passed over. -/
def gatherOnto (look : Path → Option Sheet) : List Path → List Sheet → List Sheet
  | [], sheets => sheets
  | p :: rest, sheets =>
    if sheets.any (·.path == p) then gatherOnto look rest sheets
    else gatherOnto look rest (sheets ++ (look p).toList)

/-- The sheets that a look at each of the given paths finds, in order. -/
def gather (look : Path → Option Sheet) (imports : List Path) : List Sheet :=
  gatherOnto look imports []

theorem gatherOnto_congr {look look' : Path → Option Sheet} {imports : List Path}
    (h : ∀ p ∈ imports, look p = look' p) (sheets : List Sheet) :
    gatherOnto look imports sheets = gatherOnto look' imports sheets := by
  induction imports generalizing sheets with
  | nil => rfl
  | cons p rest ih =>
    have hrest := ih fun q hq => h q (List.mem_cons_of_mem p hq)
    unfold gatherOnto
    rw [h p List.mem_cons_self]
    split
    · exact hrest sheets
    · exact hrest _

theorem gather_congr {look look' : Path → Option Sheet} {imports : List Path}
    (h : ∀ p ∈ imports, look p = look' p) : gather look imports = gather look' imports :=
  gatherOnto_congr h []

theorem gatherOnto_append (look : Path → Option Sheet) (imports others : List Path)
    (sheets : List Sheet) :
    gatherOnto look (imports ++ others) sheets =
      gatherOnto look others (gatherOnto look imports sheets) := by
  induction imports generalizing sheets with
  | nil => rfl
  | cons p rest ih =>
    rw [List.cons_append, gatherOnto, gatherOnto]
    split
    · exact ih sheets
    · exact ih _

theorem consultAll_cons (disk : Disk) (p : Path) (rest : List Path) (idx : Index)
    (sheets : List Sheet) :
    consultAll disk (p :: rest) idx sheets =
      if sheets.any (·.path == p) then consultAll disk rest idx sheets
      else consultAll disk rest (consult disk idx p).1 (sheets ++ (answer? disk idx p).toList) := by
  rw [consultAll]
  split
  · rfl
  · unfold answer?
    split
    · rename_i hconsult
      simp [hconsult]
    · rename_i hconsult
      simp [hconsult]

/-- Indexing a component gathers the answers for its imports. -/
theorem consultAll_sheets (disk : Disk) {imports : List Path} (h : ∀ p ∈ imports, p.IsNormal)
    (idx : Index) (sheets : List Sheet) :
    (consultAll disk imports idx sheets).2 = gatherOnto (answer? disk idx) imports sheets := by
  induction imports generalizing idx sheets with
  | nil => rfl
  | cons p rest ih =>
    have hp := h p List.mem_cons_self
    have hrest := fun q hq => h q (List.mem_cons_of_mem p hq)
    rw [consultAll_cons, gatherOnto]
    split
    · exact ih hrest idx sheets
    · -- consulting this import changes no answer for the later ones
      rw [ih hrest]
      exact gatherOnto_congr (fun q hq => answer?_consult hp (hrest q hq)) _

theorem consultAll_cache (disk : Disk) {imports : List Path} (h : ∀ p ∈ imports, p.IsNormal)
    (idx : Index) (sheets : List Sheet) {q : Path} (hq : q.IsNormal) :
    (consultAll disk imports idx sheets).1.cache.get? q = idx.cache.get? q ∨
      (consultAll disk imports idx sheets).1.cache.get? q = answer? disk idx q := by
  induction imports generalizing idx sheets with
  | nil => exact .inl rfl
  | cons p rest ih =>
    have hp := h p List.mem_cons_self
    have hrest := fun q hq => h q (List.mem_cons_of_mem p hq)
    rw [consultAll_cons]
    split
    · exact ih hrest idx sheets
    · rcases ih hrest (consult disk idx p).1 (sheets ++ (answer? disk idx p).toList) with
        hkept | hans
      · rw [hkept, consult_cache]
        split
        · rename_i hpq
          exact .inr (by rw [hp.eq_of_beq hq hpq])
        · exact .inl rfl
      · exact .inr (hans.trans (answer?_consult hp hq))

theorem indexComponent_components (disk : Disk) (idx : Index) (component : Path)
    {imports : List Path} (h : ∀ p ∈ imports, p.IsNormal) :
    (indexComponent disk idx component imports).components =
      idx.components.insert component
        (Component.build component imports (gather (answer? disk idx) imports)) := by
  rw [indexComponent_eq, consultAll_sheets disk h]
  show ((consultAll disk imports idx []).1.unlink component).components.insert component _ = _
  rw [unlink_components, (consultAll_links disk imports idx []).1]
  rfl

/-! ## The sheet held for an import -/

theorem look_of_mem_gatherOnto {look : Path → Option Sheet} {imports : List Path}
    (hlook : ∀ p ∈ imports, ∀ s, look p = some s → s.path = p) {sheets : List Sheet}
    (hsheets : ∀ s ∈ sheets, look s.path = some s ∧ s.path.IsNormal)
    (himports : ∀ p ∈ imports, p.IsNormal) {s : Sheet} (hs : s ∈ gatherOnto look imports sheets) :
    look s.path = some s ∧ s.path.IsNormal := by
  induction imports generalizing sheets with
  | nil => exact hsheets s hs
  | cons p rest ih =>
    have hrest := fun q hq => himports q (List.mem_cons_of_mem p hq)
    have hlook' := fun q hq => hlook q (List.mem_cons_of_mem p hq)
    unfold gatherOnto at hs
    split at hs
    · exact ih hlook' hsheets hrest hs
    · refine ih hlook' (fun t ht => ?_) hrest hs
      rcases List.mem_append.mp ht with ht | ht
      · exact hsheets t ht
      · have hfound : look p = some t := by simpa using ht
        rw [hlook p List.mem_cons_self t hfound]
        exact ⟨hfound, himports p List.mem_cons_self⟩

theorem mem_gatherOnto_of_mem (look : Path → Option Sheet) (imports : List Path)
    {sheets : List Sheet} {s : Sheet} (hs : s ∈ sheets) : s ∈ gatherOnto look imports sheets := by
  induction imports generalizing sheets with
  | nil => exact hs
  | cons p rest ih =>
    unfold gatherOnto
    split
    · exact ih hs
    · exact ih (List.mem_append_left _ hs)

theorem exists_mem_gatherOnto {look : Path → Option Sheet} {imports : List Path}
    (hlook : ∀ p ∈ imports, ∀ s, look p = some s → s.path = p) {p : Path}
    (hp : p ∈ imports) {s : Sheet} (hs : look p = some s) (sheets : List Sheet) :
    ∃ t ∈ gatherOnto look imports sheets, (t.path == p) = true := by
  induction imports generalizing sheets with
  | nil => cases hp
  | cons q rest ih =>
    unfold gatherOnto
    rcases List.mem_cons.mp hp with rfl | hrest
    · split
      · rename_i hany
        obtain ⟨t, ht, htp⟩ := List.any_eq_true.mp hany
        exact ⟨t, mem_gatherOnto_of_mem look rest ht, htp⟩
      · have hmem : s ∈ sheets ++ (look p).toList := by simp [hs]
        refine ⟨s, mem_gatherOnto_of_mem look rest hmem, ?_⟩
        rw [hlook p List.mem_cons_self s hs]
        exact BEq.rfl
    · have hlook' := fun r hr => hlook r (List.mem_cons_of_mem q hr)
      split
      · exact ih hlook' hrest sheets
      · exact ih hlook' hrest _

/-- The sheet held for an import is what the look at it found. -/
theorem find?_gather {look : Path → Option Sheet} {imports : List Path}
    (hlook : ∀ p ∈ imports, ∀ s, look p = some s → s.path = p)
    (himports : ∀ p ∈ imports, p.IsNormal) {p : Path} (hp : p.IsNormal)
    (hmem : imports.any (· == p) = true) :
    (gather look imports).find? (·.path == p) = look p := by
  have hmem : p ∈ imports := by
    obtain ⟨q, hq, hqp⟩ := List.any_eq_true.mp hmem
    rwa [← (himports q hq).eq_of_beq hp hqp]
  cases hfind : (gather look imports).find? (·.path == p) with
  | none =>
    cases hs : look p with
    | none => rfl
    | some s =>
      obtain ⟨t, ht, htp⟩ := exists_mem_gatherOnto hlook hmem hs []
      exact absurd htp (List.find?_eq_none.mp hfind t ht)
  | some s =>
    have hs : s ∈ gather look imports := List.mem_of_find?_eq_some hfind
    have hsp : (s.path == p) = true := by simpa using List.find?_some hfind
    obtain ⟨hfound, hnormal⟩ := look_of_mem_gatherOnto hlook (by simp) himports hs
    rw [← hnormal.eq_of_beq hp hsp]
    exact hfound.symm

end Index

end ClassLens
