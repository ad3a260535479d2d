import ClassLens.Proofs.Component.Alike
import ClassLens.Proofs.Disk.Spelling
import ClassLens.Proofs.Index.Freshness
import ClassLens.Proofs.Stylesheet.Classes
/-
  Trust — a cache that does not show

  A cached sheet is handed out without reading its file, on the strength of the
  time the file bears. Where that is enough, so that no sheet with the right
  time holds anything but what the file holds, indexing a component gives what
  it gives without any cache.

  What is proved:
    1. `readAnew?_of_beq` — reading through another spelling of a path;
    2. `Trusted.answer?_alike`, `Trusted.answer?_eq_readAnew?` — what the index
       answers is what reading anew gives;
    3. `Trusted.indexComponent_alike` — so is the component it builds;
    4. `Trusted.indexComponent_cache` — what cannot be read leaves no trace in
       the cache.
-/

namespace ClassLens

namespace Sheet

theorem read_parts {disk : Disk} {p : Path} {s : Sheet} (h : read disk p = .ok s) :
    ∃ stamp content, disk.stamp p = .ok stamp ∧ disk.read p = .ok content ∧
      s = build content p stamp := by
  unfold read at h
  split at h
  · cases h
  · rename_i stamp hstamp
    split at h
    · cases h
    · rename_i content hcontent
      cases h
      exact ⟨stamp, content, hstamp, hcontent, rfl⟩

theorem stamp_of_fresh {disk : Disk} {s : Sheet} (h : s.isStale disk = false) :
    disk.stamp s.path = .ok s.modified := by
  unfold isStale at h
  split at h
  · rename_i stamp hstamp
    have hsame : s.modified = stamp := by simpa using h
    rw [hstamp, hsame]
  · cases h

end Sheet

namespace Index

variable {disk : Disk} {idx : Index}

/-- A sheet read through some spelling of a normal path is read through the
normal path as well. -/
theorem readAnew?_of_beq {p q : Path} (hq : q.IsNormal) (h : (p == q) = true) {s : Sheet}
    (hread : readAnew? disk p = some s) : ∃ t, readAnew? disk q = some t ∧ s.Alike t := by
  rw [readAnew?_eq] at hread
  split at hread
  · rename_i content modified hfile
    cases hread
    refine ⟨Sheet.build content q (.time modified), ?_, Sheet.alike_build h content _⟩
    rw [readAnew?_eq, Disk.file?_of_beq hq h hfile]
  · cases hread

/-- A sheet whose file bears its time and holds its text is what reading gives. -/
theorem readAnew?_self {s : Sheet} (hbuilt : s.IsBuilt) (hfresh : s.isStale disk = false)
    (hread : disk.read s.path = .ok s.content) : readAnew? disk s.path = some s := by
  rw [readAnew?_eq_some]
  unfold Sheet.read
  rw [Sheet.stamp_of_fresh hfresh, hread]
  exact congrArg Except.ok hbuilt.symm

/-- Every sheet is cached under its own path, and one whose file still bears its
time is what reading the file gives. -/
def Trusted (disk : Disk) (cache : Table Path Sheet) : Prop :=
  ∀ q s, cache.get? q = some s →
    (s.path == q) = true ∧ (s.isStale disk = false → readAnew? disk s.path = some s)

/-- With a trusted cache the index answers what reading anew gives. -/
theorem Trusted.answer?_alike (h : Trusted disk idx.cache) {q : Path} (hq : q.IsNormal) :
    Option.Rel Sheet.Alike (answer? disk idx q) (readAnew? disk q) := by
  have hsame : Option.Rel Sheet.Alike (readAnew? disk q) (readAnew? disk q) := by
    cases readAnew? disk q with
    | none => exact .none
    | some s => exact .some (Sheet.Alike.refl s)
  rw [answer?_eq]
  split
  · rename_i s hs
    split
    · exact hsame
    · rename_i hfresh
      obtain ⟨hpath, hread⟩ := h q s hs
      obtain ⟨t, ht, hst⟩ := readAnew?_of_beq hq hpath (hread (Bool.eq_false_iff.mpr hfresh))
      rw [ht]
      exact .some hst
  · exact hsame

/-- Where the cached sheet was read through the very path, the answer is the same sheet. -/
theorem Trusted.answer?_eq_readAnew? (h : Trusted disk idx.cache) {q : Path}
    (hpath : ∀ s, idx.cache.get? q = some s → s.path = q) :
    answer? disk idx q = readAnew? disk q := by
  rw [answer?_eq]
  split
  · rename_i s hs
    split
    · rfl
    · rename_i hfresh
      rw [← (h q s hs).2 (Bool.eq_false_iff.mpr hfresh), hpath s hs]
  · rfl

/-! ## Import lists -/

theorem gatherOnto_alike {look look' : Path → Option Sheet} {imports : List Path}
    (h : ∀ p ∈ imports, Option.Rel Sheet.Alike (look p) (look' p)) {ss ts : List Sheet}
    (hsheets : List.Forall₂ Sheet.Alike ss ts) :
    List.Forall₂ Sheet.Alike (gatherOnto look imports ss) (gatherOnto look' imports ts) := by
  induction imports generalizing ss ts with
  | nil => exact hsheets
  | cons p rest ih =>
    have hrest := fun q hq => h q (List.mem_cons_of_mem p hq)
    have hfound : List.Forall₂ Sheet.Alike (look p).toList (look' p).toList := by
      have hp := h p List.mem_cons_self
      generalize look p = found, look' p = found' at hp
      cases hp with
      | none => exact .nil
      | some hst => exact .cons hst .nil
    unfold gatherOnto
    rw [Sheet.any_path_of_alike hsheets p]
    split
    · exact ih hrest hsheets
    · exact ih hrest (List.rel_append hsheets hfound)

/-- The component that indexing on a trusted cache builds is the one that is
built without a cache. -/
theorem Trusted.indexComponent_alike (h : Trusted disk idx.cache) (component : Path)
    {imports : List Path} (himports : ∀ p ∈ imports, p.IsNormal) :
    ∃ k, (indexComponent disk idx component imports).components.get? component = some k ∧
      k.Alike (Component.build component imports (gather (readAnew? disk) imports)) := by
  have hsheets : List.Forall₂ Sheet.Alike (gather (answer? disk idx) imports)
      (gather (readAnew? disk) imports) :=
    gatherOnto_alike (fun p hp => h.answer?_alike (himports p hp)) .nil
  refine ⟨_, ?_, Component.alike_build component imports hsheets⟩
  rw [indexComponent_components disk idx component himports, Table.get?_insert, if_pos BEq.rfl]

theorem consultAll_cache_none {imports : List Path} (himports : ∀ p ∈ imports, p.IsNormal)
    (hpaths : ∀ p ∈ imports, ∀ s, answer? disk idx p = some s → (s.path == p) = true)
    {q : Path} (hq : q ∈ imports) (hnone : answer? disk idx q = none) {sheets : List Sheet}
    (hsheets : sheets.any (·.path == q) = false) :
    (consultAll disk imports idx sheets).1.cache.get? q = none := by
  induction imports generalizing idx sheets with
  | nil => cases hq
  | cons p rest ih =>
    have hp := himports p List.mem_cons_self
    have hrest := fun r hr => himports r (List.mem_cons_of_mem p hr)
    have hqn := himports q hq
    have hpaths_rest := fun r hr => hpaths r (List.mem_cons_of_mem p hr)
    -- what is answered for the other imports stays the same after each consultation
    have hkept : ∀ r : Path, r.IsNormal →
        answer? disk (consult disk idx p).1 r = answer? disk idx r :=
      fun r hr => answer?_consult hp hr
    rw [consultAll_cons]
    by_cases hpq : p = q
    · subst hpq
      rw [hsheets, if_neg Bool.false_ne_true]
      have hcache : (consult disk idx p).1.cache.get? p = none := by
        rw [consult_cache, if_pos BEq.rfl, hnone]
      rcases consultAll_cache disk hrest (consult disk idx p).1
        (sheets ++ (answer? disk idx p).toList) hp with hsame | hanswer
      · rw [hsame, hcache]
      · rw [hanswer, hkept p hp, hnone]
    · have hmem : q ∈ rest := by
        rcases List.mem_cons.mp hq with heq | hmem
        · exact absurd heq.symm hpq
        · exact hmem
      split
      · exact ih hrest hpaths_rest hmem hnone hsheets
      · refine ih hrest (fun r hr s hs => ?_) hmem ((hkept q hqn).trans hnone) ?_
        · exact hpaths_rest r hr s ((hkept r (hrest r hr)).symm.trans hs)
        · rw [List.any_append, hsheets, Bool.false_or, List.any_eq_false]
          intro s hs hsq
          have hanswer : answer? disk idx p = some s := by simpa using hs
          have hsp := hpaths p List.mem_cons_self s hanswer
          exact hpq (hp.eq_of_beq hqn (BEq.trans (BEq.symm hsp) hsq))

theorem Trusted.indexComponent_cache (h : Trusted disk idx.cache) (component : Path)
    {imports : List Path} (himports : ∀ p ∈ imports, p.IsNormal) {q : Path} (hq : q ∈ imports)
    (hread : readAnew? disk q = none) :
    (indexComponent disk idx component imports).cache.get? q = none := by
  have hcache : (indexComponent disk idx component imports).cache =
      (consultAll disk imports idx []).1.cache := unlink_cache _ component
  have hnone : answer? disk idx q = none := by
    have halike := h.answer?_alike (himports q hq)
    rw [hread] at halike
    generalize answer? disk idx q = found at halike
    cases halike
    rfl
  rw [hcache]
  refine consultAll_cache_none himports (fun p hp s hs => ?_) hq hnone rfl
  have halike := h.answer?_alike (himports p hp)
  rw [hs] at halike
  generalize hanew : readAnew? disk p = found at halike
  cases halike with
  | some hst =>
    rw [← (Sheet.read_eq_ok (readAnew?_eq_some.mp hanew)).1]
    exact hst.path

end Index

end ClassLens
