import ClassLens.Proofs.Engine.Built
import ClassLens.Proofs.Engine.Keeping
import ClassLens.Proofs.Engine.Removal
/-
  Rebuilding — following a change touches its dependents only

  Following a change of a stylesheet builds its dependents one after the other.
  Each of them leaves the lists of dependents and comes back to them, and puts
  what it reads into the cache that all share. With normal paths none of this
  can be told from the outside: what the index answers for a stylesheet is the
  same before and after each of them, so every dependent comes out as if it was
  the only one, in whatever order they are visited.

  What is proved:
    1. `consultAll_cache_held`, `consultAll_cache_other`,
       `answer?_indexComponent` — the cache after one component is indexed, and
       the answers it gives;
    2. `buildAll_get?`, `buildAll_get?_other`, `buildAll_cache_congr` — what
       several jobs build, and that their order does not show in the cache;
    3. `Workload.normal_run` — with normal paths asked for, all paths held are
       normal, in every state;
    4. `Workload.update_rebuilds_dependents` — what an update does, in every
       order.
-/

namespace ClassLens

namespace Index

/-! ## The cache after one component is indexed -/

variable {disk : Disk} {idx : Index}

theorem consultAll_cache_other {imports : List Path} {q : Path}
    (hq : imports.any (· == q) = false) (sheets : List Sheet) :
    (consultAll disk imports idx sheets).1.cache.get? q = idx.cache.get? q := by
  induction imports generalizing idx sheets with
  | nil => rfl
  | cons p rest ih =>
    rw [List.any_cons, Bool.or_eq_false_iff] at hq
    rw [consultAll_cons]
    split
    · exact ih hq.2 sheets
    · rw [ih hq.2, consult_cache, hq.1]
      simp

theorem consultAll_cache_held {imports : List Path} (hnormal : ∀ p ∈ imports, p.IsNormal)
    (hown : OwnPaths idx.cache) {sheets : List Sheet}
    (hread : ∀ s ∈ sheets, ∀ p : Path, p.IsNormal → (s.path == p) = true →
      idx.cache.get? p = answer? disk idx p) {p : Path} (hp : p.IsNormal)
    (hheld : p ∈ imports ∨ idx.cache.get? p = answer? disk idx p) :
    (consultAll disk imports idx sheets).1.cache.get? p = answer? disk idx p := by
  induction imports generalizing idx sheets with
  | nil =>
    rcases hheld with hmem | hheld
    · cases hmem
    · exact hheld
  | cons r rest ih =>
    have hr := hnormal r List.mem_cons_self
    have hrest := fun q hq => hnormal q (List.mem_cons_of_mem r hq)
    rw [consultAll_cons]
    split
    · -- passed over, because a sheet of this path was read before
      rename_i hany
      obtain ⟨s, hs, hsr⟩ := List.any_eq_true.mp hany
      refine ih hrest hown hread ?_
      rcases hheld with hmem | hheld
      · rcases List.mem_cons.mp hmem with rfl | hmem
        · exact .inr (hread s hs p hp hsr)
        · exact .inl hmem
      · exact .inr hheld
    · have hkept : ∀ q : Path, q.IsNormal →
          (r == q) = true ∨ idx.cache.get? q = answer? disk idx q →
          (consult disk idx r).1.cache.get? q = answer? disk (consult disk idx r).1 q := by
        intro q hq hcase
        rw [answer?_consult hr hq, consult_cache]
        split
        · rename_i hrq
          rw [hr.eq_of_beq hq hrq]
        · rename_i hrq
          exact hcase.resolve_left hrq
      rw [← answer?_consult hr hp]
      refine ih hrest (hown.consult r) (fun s hs q hq hsq => ?_) ?_
      · rcases List.mem_append.mp hs with hs | hs
        · exact hkept q hq (.inr (hread s hs q hq hsq))
        · have hsr := hown.answer? (Option.mem_toList.mp hs)
          exact hkept q hq (.inl (BEq.trans (BEq.symm hsr) hsq))
      · rcases hheld with hmem | hheld
        · rcases List.mem_cons.mp hmem with rfl | hmem
          · exact .inr (hkept p hp (.inl BEq.rfl))
          · exact .inl hmem
        · exact .inr (hkept p hp (.inr hheld))

theorem indexComponent_cache (disk : Disk) (idx : Index) (component : Path)
    (imports : List Path) :
    (indexComponent disk idx component imports).cache =
      (consultAll disk imports idx []).1.cache := unlink_cache _ component

theorem answer?_indexComponent (disk : Disk) (idx : Index) (component : Path) {imports : List Path}
    (hnormal : ∀ p ∈ imports, p.IsNormal) {p : Path} (hp : p.IsNormal) :
    answer? disk (indexComponent disk idx component imports) p = answer? disk idx p := by
  have hcache := indexComponent_cache disk idx component imports
  rcases consultAll_cache disk hnormal idx [] hp with hkept | hanswer
  · exact answer?_congr (by rw [hcache, hkept])
  · exact answer?_of_cached (by rw [hcache, hanswer])

theorem OwnPaths.indexComponent (h : OwnPaths idx.cache) (component : Path) {imports : List Path} :
    OwnPaths (indexComponent disk idx component imports).cache := by
  rw [indexComponent_cache]
  generalize hsheets : ([] : List Sheet) = sheets
  clear hsheets
  induction imports generalizing idx sheets with
  | nil => exact h
  | cons p rest ih =>
    rw [consultAll_cons]
    split
    · exact ih h sheets
    · exact ih (h.consult p) _

/-! ## Several components one after the other -/

/-- The index after some jobs, one after the other. -/
def buildAll (disk : Disk) (idx : Index) (jobs : List Job) : Index :=
  jobs.foldl (fun idx job => indexComponent disk idx job.1 job.2) idx

variable {jobs : List Job}

/-- The component that a job builds, from the answers there are before. -/
def built (disk : Disk) (idx : Index) (job : Job) : Component :=
  Component.build job.1 job.2 (gather (answer? disk idx) job.2)

theorem indexComponent_get? (component : Path) {imports : List Path}
    (hnormal : ∀ p ∈ imports, p.IsNormal) (c : Path) :
    (indexComponent disk idx component imports).components.get? c =
      if component == c then some (built disk idx (component, imports))
      else idx.components.get? c := by
  rw [indexComponent_components disk idx component hnormal, Table.get?_insert]
  rfl

theorem buildAll_get?_other (hnormal : ∀ job ∈ jobs, ∀ p ∈ job.2, p.IsNormal) {c : Path}
    (hc : ∀ job ∈ jobs, (job.1 == c) = false) :
    (buildAll disk idx jobs).components.get? c = idx.components.get? c := by
  induction jobs generalizing idx with
  | nil => rfl
  | cons job rest ih =>
    have hjob := hnormal job List.mem_cons_self
    refine (ih (fun j hj => hnormal j (List.mem_cons_of_mem job hj))
      (fun j hj => hc j (List.mem_cons_of_mem job hj))).trans ?_
    rw [indexComponent_get? job.1 hjob, hc job List.mem_cons_self]
    simp

/-- What a job is about is what this job builds, whatever the others did before. -/
theorem buildAll_get? (hnormal : ∀ job ∈ jobs, ∀ p ∈ job.2, p.IsNormal) {c : Path} {job : Job}
    (hmem : job ∈ jobs) (hc : (job.1 == c) = true)
    (honly : ∀ j ∈ jobs, (j.1 == c) = true → j = job) :
    (buildAll disk idx jobs).components.get? c = some (built disk idx job) := by
  induction jobs generalizing idx with
  | nil => cases hmem
  | cons first rest ih =>
    have hfirst := hnormal first List.mem_cons_self
    have hrest := fun j hj => hnormal j (List.mem_cons_of_mem first hj)
    have honly' := fun j hj => honly j (List.mem_cons_of_mem first hj)
    show (buildAll disk (indexComponent disk idx first.1 first.2) rest).components.get? c = _
    by_cases hlater : job ∈ rest
    · -- the answers are the same after the first job
      rw [ih hrest hlater honly']
      have hanswers : ∀ p ∈ job.2, answer? disk (indexComponent disk idx first.1 first.2) p =
          answer? disk idx p := fun p hp =>
        answer?_indexComponent disk idx first.1 hfirst (hnormal job hmem p hp)
      unfold built
      rw [gather_congr hanswers]
    · have hothers : ∀ j ∈ rest, (j.1 == c) = false := fun j hj =>
        Bool.eq_false_iff.mpr fun hjc => hlater (honly' j hj hjc ▸ hj)
      have heq : first = job := by
        rcases List.mem_cons.mp hmem with heq | hmem
        · exact heq.symm
        · exact absurd hmem hlater
      rw [buildAll_get?_other hrest hothers, indexComponent_get? first.1 hfirst, heq, if_pos hc]

theorem buildAll_cache_held (hnormal : ∀ job ∈ jobs, ∀ p ∈ job.2, p.IsNormal)
    (hown : OwnPaths idx.cache) {p : Path} (hp : p.IsNormal)
    (hheld : (∃ job ∈ jobs, p ∈ job.2) ∨ idx.cache.get? p = answer? disk idx p) :
    (buildAll disk idx jobs).cache.get? p = answer? disk idx p := by
  induction jobs generalizing idx with
  | nil =>
    rcases hheld with ⟨job, hmem, -⟩ | hheld
    · cases hmem
    · exact hheld
  | cons first rest ih =>
    have hfirst := hnormal first List.mem_cons_self
    have hsame := answer?_indexComponent disk idx first.1 hfirst hp
    have hread : p ∈ first.2 ∨ idx.cache.get? p = answer? disk idx p →
        (indexComponent disk idx first.1 first.2).cache.get? p = answer? disk idx p := by
      intro hcase
      rw [indexComponent_cache]
      exact consultAll_cache_held hfirst hown (by simp) hp hcase
    rw [← hsame] at hread ⊢
    refine ih (fun j hj => hnormal j (List.mem_cons_of_mem first hj))
      (hown.indexComponent first.1) ?_
    rcases hheld with ⟨job, hmem, hpj⟩ | hheld
    · rcases List.mem_cons.mp hmem with rfl | hmem
      · exact .inr (hread (.inl hpj))
      · exact .inl ⟨job, hmem, hpj⟩
    · exact .inr (hread (.inr (hsame ▸ hheld)))

theorem buildAll_cache_other {q : Path} (hq : ∀ job ∈ jobs, job.2.any (· == q) = false) :
    (buildAll disk idx jobs).cache.get? q = idx.cache.get? q := by
  induction jobs generalizing idx with
  | nil => rfl
  | cons first rest ih =>
    refine (ih fun j hj => hq j (List.mem_cons_of_mem first hj)).trans ?_
    rw [indexComponent_cache]
    exact consultAll_cache_other (hq first List.mem_cons_self) []

/-- The cache does not depend on the order of the jobs. -/
theorem buildAll_cache_congr {others : List Job}
    (hnormal : ∀ job ∈ jobs, ∀ p ∈ job.2, p.IsNormal) (hown : OwnPaths idx.cache)
    (hsame : ∀ job, job ∈ jobs ↔ job ∈ others) (q : Path) :
    (buildAll disk idx jobs).cache.get? q = (buildAll disk idx others).cache.get? q := by
  have hnormal' : ∀ job ∈ others, ∀ p ∈ job.2, p.IsNormal := fun job hjob =>
    hnormal job ((hsame job).mpr hjob)
  -- what is asked for holds its answer in both orders, the rest is as before
  by_cases hasked : ∃ job ∈ jobs, ∃ p ∈ job.2, (p == q) = true
  · obtain ⟨job, hjob, p, hp, hpq⟩ := hasked
    have hpn := hnormal job hjob p hp
    rw [← Table.get?_congr _ hpq, ← Table.get?_congr _ hpq,
      buildAll_cache_held hnormal hown hpn (.inl ⟨job, hjob, hp⟩),
      buildAll_cache_held hnormal' hown hpn (.inl ⟨job, (hsame job).mp hjob, hp⟩)]
  · have hnot : ∀ job ∈ jobs, job.2.any (· == q) = false := fun job hjob =>
      List.any_eq_false.mpr fun p hp hpq => hasked ⟨job, hjob, p, hp, hpq⟩
    rw [buildAll_cache_other hnot,
      buildAll_cache_other fun job hjob => hnot job ((hsame job).mpr hjob)]

/-! ## Normal paths only -/

/-- A component with its imports, all by normal paths. -/
def NormalJob (job : Job) : Prop := job.1.IsNormal ∧ ∀ p ∈ job.2, p.IsNormal

/-- All paths on the lists of dependents have a property. -/
def ListsOnly (P : Path → Prop) (t : Table Path (List Path)) : Prop :=
  ∀ q paths, t.get? q = some paths → ∀ d ∈ paths, P d

/-- Components are known by normal paths, and so are their imports. -/
structure Normal (idx : Index) : Prop where
  path_eq : ∀ c k, idx.components.get? c = some k → (k.path == c) = true
  components : ∀ c k, idx.components.get? c = some k → NormalJob (k.path, k.imports)
  dependents : ListsOnly Path.IsNormal idx.dependents

section

variable {P : Path → Prop} {t : Table Path (List Path)}

theorem ListsOnly.unlinkFrom (h : ListsOnly P t) (component : Path) (sheets : List Path) :
    ListsOnly P (unlinkFrom component sheets t) := by
  intro q paths hget d hd
  rw [unlinkFrom_get?] at hget
  split at hget
  · obtain ⟨before, hbefore, hdrop⟩ := Option.bind_eq_some_iff.mp hget
    rw [← (dropPath_eq_some.mp hdrop).1] at hd
    exact h q before hbefore d (List.mem_of_mem_filter hd)
  · exact h q paths hget d hd

theorem ListsOnly.linkTo (h : ListsOnly P t) {component : Path} (hc : P component)
    (sheets : List Path) : ListsOnly P (linkTo component sheets t) := by
  unfold Index.linkTo
  refine List.foldlRecOn sheets _ h fun t' h' sheet _ => ?_
  intro q paths hget d hd
  rcases Table.of_get?_insert hget with ⟨-, rfl⟩ | hget
  · have hbefore : ∀ d' ∈ (t'.get? sheet).getD [], P d' := by
      cases hlist : t'.get? sheet with
      | none => simp
      | some before => exact h' sheet before hlist
    unfold addPath at hd
    split at hd
    · exact hbefore d hd
    · rcases List.mem_append.mp hd with hd | hd
      · exact hbefore d hd
      · rw [List.mem_singleton.mp hd]
        exact hc
  · exact h' q paths hget d hd

theorem ListsOnly.unlink (h : ListsOnly P idx.dependents) (component : Path) :
    ListsOnly P (idx.unlink component).dependents := by
  unfold Index.unlink
  split
  · exact h
  · exact h.unlinkFrom component _

theorem ListsOnly.erase (h : ListsOnly P t) (sheet : Path) : ListsOnly P (t.erase sheet) :=
  fun q paths hget => h q paths (Table.of_get?_erase hget)

end

theorem Normal.commit (h : Normal idx) {k : Component} (hk : NormalJob (k.path, k.imports)) :
    Normal (idx.commit k) := by
  refine ⟨fun c k' hget => ?_, fun c k' hget => ?_, ?_⟩
  · rcases of_get?_commit hget with ⟨hc, rfl⟩ | hbefore
    · exact hc
    · exact h.path_eq c k' hbefore
  · rcases of_get?_commit hget with ⟨-, rfl⟩ | hbefore
    · exact hk
    · exact h.components c k' hbefore
  · exact (h.dependents.unlink k.path).linkTo hk.1 k.imports

theorem Normal.dropComponent (h : Normal idx) (component : Path) :
    Normal (idx.dropComponent component) where
  path_eq := fun c k hget => h.path_eq c k (of_get?_dropComponent hget)
  components := fun c k hget => h.components c k (of_get?_dropComponent hget)
  dependents := h.dependents.unlink component

theorem Normal.of_mem_dependentsOf (h : Normal idx) {sheet d : Path}
    (hd : d ∈ idx.dependentsOf sheet) : d.IsNormal := by
  unfold dependentsOf at hd
  cases hlist : idx.dependents.get? sheet with
  | none => simp [hlist] at hd
  | some paths =>
    rw [hlist, Option.getD_some] at hd
    exact h.dependents sheet paths hlist d hd

theorem normal_empty : Normal empty where
  path_eq := fun _ _ hget => by cases hget
  components := fun _ _ hget => by cases hget
  dependents := fun _ _ hget => by cases hget

theorem keeps_normal (disk : Disk) :
    Keeps disk Normal (fun r => NormalJob (r.component, r.imports)) NormalJob where
  start := fun _ h => h
  step := by
    intro idx r hidx hr
    have hturn := Run.turn_step disk idx r
    generalize Run.step disk idx r = result at hturn ⊢
    refine ⟨?_, fun r' hr' => ?_⟩
    · cases hturn with
      | install done => exact hidx.commit hr
      | keep p rest s todo given => exact ⟨hidx.path_eq, hidx.components, hidx.dependents⟩
      | lose p rest todo given => exact ⟨hidx.path_eq, hidx.components, hidx.dependents⟩
      | _ => exact hidx
    · -- a run that goes on is still about the same job
      cases hturn <;> cases hr' <;> exact hr
  rebuilds := by
    intro idx sheet hidx job hjob
    obtain ⟨d, hd, hsome⟩ := List.mem_filterMap.mp hjob
    obtain ⟨k, hk, rfl⟩ := Option.map_eq_some_iff.mp hsome
    exact ⟨hidx.of_mem_dependentsOf hd, (hidx.components d k hk).2⟩
  forget := fun _ _ h => ⟨h.path_eq, h.components, h.dependents⟩
  unlist := fun _ sheet h => ⟨h.path_eq, h.components, h.dependents.erase sheet⟩
  drop := fun _ component h => h.dropComponent component
  empty := normal_empty

/-! ## Following a change in any order -/

/-- The jobs for some components, from what each of them imports. -/
def jobsFor (idx : Index) (order : List Path) : List Job :=
  order.filterMap fun component =>
    (idx.components.get? component).map fun c => (component, c.imports)

/-- Follows a change of a stylesheet, with its dependents visited in the given order. -/
def updateVisiting (disk : Disk) (idx : Index) (sheet : Path) (order : List Path) : Index :=
  buildAll disk (idx.forget sheet) (idx.jobsFor order)

theorem updateSheet_eq_visiting (disk : Disk) (idx : Index) (sheet : Path) :
    updateSheet disk idx sheet = updateVisiting disk idx sheet (idx.dependentsOf sheet) := rfl

/-- A list of dependents as a set: whether a path is on it. -/
def dependentSet (idx : Index) (sheet : Path) : Option (Path → Bool) :=
  (idx.dependents.get? sheet).map fun paths component => paths.any (· == component)

theorem dependentSet_eq {idx' : Index} (h : Occupied idx.dependents)
    (h' : Occupied idx'.dependents)
    (hsame : ∀ q d, Lists idx'.dependents q d ↔ Lists idx.dependents q d) (q : Path) :
    idx'.dependentSet q = idx.dependentSet q := by
  -- a list is never empty, so there is one exactly where somebody is listed
  have hmember : ∀ {t : Table Path (List Path)}, Occupied t → ∀ {paths}, t.get? q = some paths →
      ∃ d, Lists t q d := by
    intro t hoccupied paths hget
    cases paths with
    | nil => exact absurd hget (hoccupied q)
    | cons d rest => exact ⟨d, d :: rest, hget, by simp⟩
  unfold dependentSet
  cases hget : idx.dependents.get? q with
  | none =>
    cases hget' : idx'.dependents.get? q with
    | none => rfl
    | some paths' =>
      obtain ⟨d, hd⟩ := hmember h' hget'
      obtain ⟨paths, hpaths, -⟩ := (hsame q d).mp hd
      rw [hget] at hpaths
      cases hpaths
  | some paths =>
    cases hget' : idx'.dependents.get? q with
    | none =>
      obtain ⟨d, hd⟩ := hmember h hget
      obtain ⟨paths', hpaths', -⟩ := (hsame q d).mpr hd
      rw [hget'] at hpaths'
      cases hpaths'
    | some paths' =>
      simp only [Option.map_some, Option.some.injEq]
      funext d
      have hiff := hsame q d
      unfold Lists at hiff
      simp only [hget, hget', Option.some.injEq, exists_eq_left'] at hiff
      exact Bool.eq_iff_iff.mpr hiff

section

variable {sheet : Path} {order : List Path}

theorem mem_jobsFor {job : Job} :
    job ∈ idx.jobsFor order ↔
      job.1 ∈ order ∧ ∃ k, idx.components.get? job.1 = some k ∧ k.imports = job.2 := by
  unfold jobsFor
  rw [List.mem_filterMap]
  constructor
  · rintro ⟨d, hd, hsome⟩
    obtain ⟨k, hk, rfl⟩ := Option.map_eq_some_iff.mp hsome
    exact ⟨hd, k, hk, rfl⟩
  · rintro ⟨hd, k, hk, himports⟩
    refine ⟨job.1, hd, ?_⟩
    rw [hk, Option.map_some, himports]

theorem Normal.jobsFor (h : Normal idx) : ∀ job ∈ idx.jobsFor order, ∀ p ∈ job.2, p.IsNormal := by
  intro job hjob
  obtain ⟨-, k, hk, himports⟩ := mem_jobsFor.mp hjob
  rw [← himports]
  exact (h.components job.1 k hk).2

theorem Normal.exists_job (h : Normal idx) (hlinked : Linked idx)
    (horder : order.Perm (idx.dependentsOf sheet)) {c : Path} {k : Component}
    (hk : idx.components.get? c = some k) (himports : k.imports.any (· == sheet) = true) :
    (k.path, k.imports) ∈ idx.jobsFor order := by
  obtain ⟨d, hdc, hmem⟩ := hlinked.mem_rebuilds hk himports
  obtain ⟨hd, hd'⟩ := mem_jobsFor.mp hmem
  have heq : d = k.path := (h.of_mem_dependentsOf hd).eq_of_beq (h.components c k hk).1
    (BEq.trans hdc (BEq.symm (h.path_eq c k hk)))
  rw [← heq]
  exact mem_jobsFor.mpr ⟨horder.mem_iff.mpr hd, hd'⟩

theorem Normal.job_eq (h : Normal idx) (hlinked : Linked idx)
    (horder : order.Perm (idx.dependentsOf sheet)) {c : Path} {k : Component}
    (hk : idx.components.get? c = some k) {job : Job} (hjob : job ∈ idx.jobsFor order)
    (hjc : (job.1 == c) = true) :
    job = (k.path, k.imports) ∧ k.imports.any (· == sheet) = true := by
  obtain ⟨hmem, k', hk', himports⟩ := mem_jobsFor.mp hjob
  have hlisted := horder.mem_iff.mp hmem
  rw [Table.get?_congr _ hjc, hk] at hk'
  cases hk'
  constructor
  · have heq : job.1 = k.path := (h.of_mem_dependentsOf hlisted).eq_of_beq
      (h.components c k hk).1 (BEq.trans hjc (BEq.symm (h.path_eq c k hk)))
    rw [← heq, himports]
  · have hany := (any_dependentsOf idx sheet job.1).mp
      (List.any_eq_true.mpr ⟨job.1, hlisted, BEq.rfl⟩)
    obtain ⟨k', hk', hsheet⟩ := (hlinked.lists_iff sheet job.1).mp hany
    rw [Table.get?_congr _ hjc, hk] at hk'
    cases hk'
    exact hsheet

/-- What is indexed after an update: dependents as they are built from the answers
without the stylesheet in the cache, the others as they were. -/
theorem Normal.updateVisiting_get? (h : Normal idx) (hlinked : Linked idx) (disk : Disk)
    (horder : order.Perm (idx.dependentsOf sheet)) (c : Path) :
    (updateVisiting disk idx sheet order).components.get? c =
      (idx.components.get? c).map fun k =>
        if k.imports.any (· == sheet) then built disk (idx.forget sheet) (k.path, k.imports)
        else k := by
  unfold updateVisiting
  cases hk : idx.components.get? c with
  | none =>
    refine (buildAll_get?_other h.jobsFor fun job hjob => ?_).trans hk
    refine Bool.eq_false_iff.mpr fun hjc => ?_
    obtain ⟨-, k, hk', -⟩ := mem_jobsFor.mp hjob
    rw [Table.get?_congr _ hjc, hk] at hk'
    cases hk'
  | some k =>
    rw [Option.map_some]
    split
    · rename_i himports
      exact buildAll_get? h.jobsFor (h.exists_job hlinked horder hk himports) (h.path_eq c k hk)
        fun job hjob hjc => (h.job_eq hlinked horder hk hjob hjc).1
    · rename_i himports
      refine (buildAll_get?_other h.jobsFor fun job hjob => ?_).trans hk
      exact Bool.eq_false_iff.mpr fun hjc => himports (h.job_eq hlinked horder hk hjob hjc).2

theorem Linked.updateVisiting (h : Linked idx) (disk : Disk) (sheet : Path) (order : List Path) :
    Linked (updateVisiting disk idx sheet order) :=
  have hforget : Linked (idx.forget sheet) := h.of_eq rfl rfl
  List.foldlRecOn _ _ hforget fun _ h' job _ => h'.indexComponent disk job.1 job.2

/-- An update changes no import list, and so no list of dependents. -/
theorem Normal.updateVisiting_imports (h : Normal idx) (hlinked : Linked idx) (disk : Disk)
    (horder : order.Perm (idx.dependentsOf sheet)) (c : Path) :
    ((updateVisiting disk idx sheet order).components.get? c).map (·.imports) =
      (idx.components.get? c).map (·.imports) := by
  rw [h.updateVisiting_get? hlinked disk horder, Option.map_map]
  congr 1
  funext k
  simp only [Function.comp_apply]
  split <;> rfl

theorem Normal.updateVisiting_dependentSet (h : Normal idx) (hlinked : Linked idx) (disk : Disk)
    (horder : order.Perm (idx.dependentsOf sheet)) (q : Path) :
    (updateVisiting disk idx sheet order).dependentSet q = idx.dependentSet q := by
  have hafter := hlinked.updateVisiting disk sheet order
  refine dependentSet_eq hlinked.occupied hafter.occupied (fun q d => ?_) q
  rw [hafter.lists_iff, hlinked.lists_iff]
  have hsame := h.updateVisiting_imports hlinked disk horder d
  have himports : ∀ t : Table Path Component, Imports t d q ↔
      ∃ imports, (t.get? d).map (·.imports) = some imports ∧ imports.any (· == q) = true := by
    intro t
    unfold Imports
    simp
  rw [himports, himports, hsame]

end

end Index

namespace Workload

open Index

theorem normal_run (window : Nat) {script : List (Disk × Action)}
    (hscript : ∀ step ∈ script, ∀ job ∈ step.2.jobs, NormalJob job) :
    Normal (run window script).index :=
  ((kept_new window normal_empty).performAll
    fun step hstep => ⟨keeps_normal step.1, hscript step hstep⟩).index

/-- **An update builds the dependents anew and nothing else, in any order.**
Whatever happened to an engine that was only asked for normal paths: after an
update of a stylesheet, with its dependents visited in any order, the same
components are indexed, with the same imports, and all lists of dependents hold
the same. A component that imports the stylesheet is what indexing it alone
gives with the stylesheet out of the cache, and every other component is
untouched. Components and cache are those of the update in its own order. -/
theorem update_rebuilds_dependents (window : Nat) {script : List (Disk × Action)}
    (hscript : ∀ step ∈ script, ∀ job ∈ step.2.jobs, NormalJob job) (disk : Disk) (sheet : Path)
    {order : List Path} (horder : order.Perm ((run window script).index.dependentsOf sheet)) :
    let idx := (run window script).index
    let after := updateVisiting disk idx sheet order
    (∀ c, (after.components.get? c).map (·.imports) = (idx.components.get? c).map (·.imports)) ∧
      (∀ q, after.dependentSet q = idx.dependentSet q) ∧
      (∀ c k, idx.components.get? c = some k → k.imports.any (· == sheet) = true →
        after.components.get? c =
          (Index.indexComponent disk (idx.forget sheet) k.path k.imports).components.get? c) ∧
      (∀ c k, idx.components.get? c = some k → k.imports.any (· == sheet) = false →
        after.components.get? c = some k) ∧
      (∀ c, after.components.get? c = (Index.updateSheet disk idx sheet).components.get? c) ∧
      (∀ q, after.dependentSet q = (Index.updateSheet disk idx sheet).dependentSet q) ∧
      (∀ q, after.cache.get? q = (Index.updateSheet disk idx sheet).cache.get? q) := by
  intro idx after
  have hlinked : Linked idx := linked_run window script
  have hnormal : Normal idx := normal_run window hscript
  have hown : OwnPaths (idx.forget sheet).cache := by
    have hbuilt := (built_run window script).index
    exact fun q s hs => (hbuilt.cached q s (Table.of_get?_erase hs)).1
  have hself : (idx.dependentsOf sheet).Perm (idx.dependentsOf sheet) := List.Perm.refl _
  have hget := hnormal.updateVisiting_get? hlinked disk horder
  have hset := hnormal.updateVisiting_dependentSet hlinked disk horder
  refine ⟨hnormal.updateVisiting_imports hlinked disk horder, hset, fun c k hk himports => ?_,
    fun c k hk himports => ?_, fun c => ?_, fun q => ?_, fun q => ?_⟩
  · rw [hget c, hk, Option.map_some, if_pos himports,
      indexComponent_get? k.path (hnormal.components c k hk).2, if_pos (hnormal.path_eq c k hk)]
  · rw [hget c, hk, Option.map_some, himports]
    simp
  · rw [updateSheet_eq_visiting, hget, hnormal.updateVisiting_get? hlinked disk hself]
  · rw [updateSheet_eq_visiting, hset, hnormal.updateVisiting_dependentSet hlinked disk hself]
  · rw [updateSheet_eq_visiting]
    refine buildAll_cache_congr hnormal.jobsFor hown (fun job => ?_) q
    rw [mem_jobsFor, mem_jobsFor, horder.mem_iff]

namespace Shared

/-- Two stylesheets, `/a.css` and `/b.css`, and two components that share the first one. -/
def a : Path := ⟨[0x2F, 0x61, 0x2E, 0x63, 0x73, 0x73]⟩
def b : Path := ⟨[0x2F, 0x62, 0x2E, 0x63, 0x73, 0x73]⟩
def c : Path := ⟨[0x2F, 0x63]⟩
def d : Path := ⟨[0x2F, 0x64]⟩

/-- The disk before and after the first stylesheet changes, at the same time of the clock. -/
def old : Disk := (Disk.empty.write a (.text ".x{}".toList) 1).write b (.text ".y{}".toList) 1
def new : Disk := old.write a (.text ".z{}".toList) 1

def script : List (Disk × Action) := [(old, .index c [a]), (old, .index d [b, a, a])]

theorem normal : ∀ step ∈ script, ∀ job ∈ step.2.jobs, NormalJob job := by
  have ha : a.IsNormal := ⟨rfl, rfl⟩
  have hb : b.IsNormal := ⟨rfl, rfl⟩
  have hc : c.IsNormal := ⟨rfl, rfl⟩
  have hd : d.IsNormal := ⟨rfl, rfl⟩
  simp [script, Action.jobs, NormalJob, ha, hb, hc, hd]

end Shared

/-- Visited in the other order, both components have the new text of the
stylesheet they share, and index and cache are the same. -/
theorem update_rebuilds_dependents_reversed :
    let idx := (run 300 Shared.script).index
    let after := updateVisiting Shared.new idx Shared.a [Shared.d, Shared.c]
    (∀ e, after.components.get? e =
        (Index.updateSheet Shared.new idx Shared.a).components.get? e) ∧
      (∀ q, after.cache.get? q = (Index.updateSheet Shared.new idx Shared.a).cache.get? q) ∧
      (after.components.get? Shared.c).map (·.classes.keys) = some ["z".toList] ∧
      (after.components.get? Shared.d).map (·.classes.keys) = some ["y".toList, "z".toList] := by
  intro idx after
  have hlisted : idx.dependentsOf Shared.a = [Shared.c, Shared.d] := rfl
  have horder : [Shared.d, Shared.c].Perm (idx.dependentsOf Shared.a) := by
    rw [hlisted]
    exact List.Perm.swap _ _ _
  obtain ⟨-, -, -, -, hcomponents, -, hcache⟩ :=
    update_rebuilds_dependents 300 Shared.normal Shared.new Shared.a horder
  exact ⟨hcomponents, hcache, by decide +kernel, by decide +kernel⟩

end Workload

end ClassLens
