import ClassLens.Proofs.Flight.Turns
/-
  Holdings — what every sheet and every component of an index is like

  Sheets enter the cache when they are read, and components enter the index
  when a run has gathered their sheets. So a property of all sheets lasts as
  soon as reading gives it, and a property of all components as soon as it
  follows from how their sheets were gathered. A `Standard` says what is asked of
  paths, of times, of sheets and of stylesheets that cannot be read; `Yields` says
  that the disk gives it, and `HoldsOnly` that an index holds nothing else.

  What is proved:
    1. `Gathered.holds`, `Gathered.apart`, `Gathered.eq_gather`,
       `Gathered.find?_eq` — what gathered sheets are like;
    2. `HoldsOnly.commit`, `HoldsOnly.dropComponent`, `HoldsOnly.forget` — single
       changes of an index;
    3. `Run.Carries.step` — one step of a run, with what is left of it;
    4. `Run.Carries.finish` — what a run installs that nothing interrupts.
-/

namespace ClassLens

/-- No two sheets are of the same path. -/
def Sheet.Apart (sheets : List Sheet) : Prop :=
  sheets.Pairwise fun s t => (s.path == t.path) = false

/-! ## Gathered sheets -/

/-- The sheets gathered for some imports, in order: what was found for each import,
unless a sheet of its path was there before. -/
inductive Gathered (found : Path → Option Sheet → Prop) : List Path → List Sheet → Prop where
  | nil : Gathered found [] []
  | pass {imports : List Path} {sheets : List Sheet} {p : Path}
      (before : Gathered found imports sheets) (read : sheets.any (·.path == p) = true) :
      Gathered found (imports ++ [p]) sheets
  | take {imports : List Path} {sheets : List Sheet} {p : Path} {s? : Option Sheet}
      (before : Gathered found imports sheets) (new : sheets.any (·.path == p) = false)
      (here : found p s?) : Gathered found (imports ++ [p]) (sheets ++ s?.toList)

namespace Gathered

variable {found found' : Path → Option Sheet → Prop} {imports : List Path} {sheets : List Sheet}

theorem mono (h : Gathered found imports sheets)
    (hsub : ∀ p ∈ imports, ∀ s?, found p s? → found' p s?) : Gathered found' imports sheets := by
  induction h with
  | nil => exact .nil
  | pass before read ih => exact .pass (ih fun p hp => hsub p (List.mem_append_left _ hp)) read
  | take before new here ih =>
    refine .take (ih fun p hp => hsub p (List.mem_append_left _ hp)) new ?_
    exact hsub _ (List.mem_append_right _ (List.mem_singleton_self _)) _ here

theorem exists_of_mem (h : Gathered found imports sheets) {s : Sheet} (hs : s ∈ sheets) :
    ∃ p ∈ imports, found p (some s) := by
  induction h with
  | nil => cases hs
  | pass before read ih =>
    obtain ⟨p, hp, hfound⟩ := ih hs
    exact ⟨p, List.mem_append_left _ hp, hfound⟩
  | @take imports sheets p s? before new here ih =>
    rcases List.mem_append.mp hs with hs | hs
    · obtain ⟨p, hp, hfound⟩ := ih hs
      exact ⟨p, List.mem_append_left _ hp, hfound⟩
    · rw [Option.mem_toList] at hs
      exact ⟨p, List.mem_append_right _ (List.mem_singleton_self _), hs ▸ here⟩

theorem apart (h : Gathered found imports sheets)
    (hpath : ∀ p s, found p (some s) → (s.path == p) = true) : Sheet.Apart sheets := by
  induction h with
  | nil => exact List.Pairwise.nil
  | pass before read ih => exact ih
  | @take imports sheets p s? before new here ih =>
    refine List.pairwise_append.mpr ⟨ih, by cases s? <;> simp, fun s hs t ht => ?_⟩
    -- nothing before is of this path, or it would have been passed over
    rw [Option.mem_toList] at ht
    have htp := hpath p t (ht ▸ here)
    exact Bool.eq_false_iff.mpr fun hst => List.any_eq_false.mp new s hs (BEq.trans hst htp)

/-- Where the same is found for an import each time, it is what a look at it finds. -/
theorem eq_gather {look : Path → Option Sheet} (h : Gathered found imports sheets)
    (hlook : ∀ p ∈ imports, ∀ s?, found p s? → s? = look p) :
    sheets = Index.gather look imports := by
  induction h with
  | nil => rfl
  | @pass imports sheets p before read ih =>
    have hsheets := ih fun q hq => hlook q (List.mem_append_left _ hq)
    unfold Index.gather at hsheets ⊢
    rw [Index.gatherOnto_append, ← hsheets, Index.gatherOnto, if_pos read]
    rfl
  | @take imports sheets p s? before new here ih =>
    have hsheets := ih fun q hq => hlook q (List.mem_append_left _ hq)
    have hp := hlook p (List.mem_append_right _ (List.mem_singleton_self _)) s? here
    unfold Index.gather at hsheets ⊢
    rw [Index.gatherOnto_append, ← hsheets, Index.gatherOnto, new, hp]
    rfl

/-- Where the same is found for an import each time, it is the sheet held for it.
For anything else no sheet is held. -/
theorem find?_eq {p : Path} {x : Option Sheet} (h : Gathered found imports sheets)
    (hpath : ∀ q s, found q (some s) → (s.path == q) = true)
    (hx : ∀ q ∈ imports, (q == p) = true → ∀ s?, found q s? → s? = x) :
    sheets.find? (·.path == p) = if imports.any (· == p) then x else none := by
  induction h with
  | nil => rfl
  | @pass imports sheets q before read ih =>
    have ih := ih fun r hr => hx r (List.mem_append_left _ hr)
    rw [ih]
    cases hqp : (q == p) with
    | false => simp [hqp]
    | true =>
      -- a sheet of this path was found before, so it was asked for before
      have hany : imports.any (· == p) = true := by
        apply Classical.byContradiction
        intro hnot
        rw [if_neg hnot] at ih
        obtain ⟨s, hs, hsq⟩ := List.any_eq_true.mp read
        exact List.find?_eq_none.mp ih s hs (BEq.trans hsq hqp)
      simp [hany]
  | @take imports sheets q s? before new here ih =>
    have ih := ih fun r hr => hx r (List.mem_append_left _ hr)
    have hlast := hx q (List.mem_append_right _ (List.mem_singleton_self _))
    have hfound : s?.toList.find? (·.path == p) = if q == p then s? else none := by
      cases s? with
      | none => simp
      | some s =>
        have hsp : (s.path == p) = (q == p) := BEq.congr_left (hpath q s here)
        cases hqp : (q == p) <;> simp [hsp, hqp]
    rw [List.find?_append, ih, hfound]
    cases hqp : (q == p) with
    | false => cases hany : imports.any (· == p) <;> simp [hany, hqp]
    | true =>
      rw [hlast hqp s? here]
      cases hany : imports.any (· == p) <;> simp [hany, hqp]

end Gathered

/-! ## Standards -/

/-- What is asked of paths, of the times of stylesheets, of sheets, and of
stylesheets that cannot be read. -/
structure Standard where
  asks : Path → Prop
  bears : Path → Stamp → Prop
  holds : Sheet → Prop
  lacks : Path → Prop

/-- What may be found for an import. -/
def Standard.Finds (S : Standard) (p : Path) : Option Sheet → Prop
  | some s => (s.path == p) = true ∧ S.holds s
  | none => S.lacks p

/-- What a run may know of the stylesheet it is at. -/
def Standard.Knows (S : Standard) (p : Path) : Phase → Prop
  | .check s => S.Finds p (some s)
  | .fetch modified => S.bears p modified
  | .got found => S.Finds p found
  | _ => True

theorem Gathered.holds {S : Standard} {imports : List Path} {sheets : List Sheet}
    (h : Gathered S.Finds imports sheets) : ∀ s ∈ sheets, S.holds s := by
  intro s hs
  obtain ⟨p, -, hfound⟩ := h.exists_of_mem hs
  exact hfound.2

theorem Gathered.sheets_apart {S : Standard} {imports : List Path} {sheets : List Sheet}
    (h : Gathered S.Finds imports sheets) : Sheet.Apart sheets := h.apart fun _ _ hs => hs.1

namespace Index

/-- What the disk gives for a path that is asked for is up to the standard, and
what is built of such sheets is a component with `K`, which imports only such paths. -/
structure Yields (disk : Disk) (S : Standard) (K : Component → Prop) : Prop where
  stamping : ∀ p modified, S.asks p → disk.stamp p = .ok modified → S.bears p modified
  reading : ∀ p modified text, S.asks p → S.bears p modified → disk.read p = .ok text →
    S.holds (Sheet.build text p modified)
  failing : ∀ p cause, S.asks p → disk.stamp p = .error cause ∨ disk.read p = .error cause →
    S.lacks p
  building : ∀ component imports sheets, (∀ p ∈ imports, S.asks p) →
    Gathered S.Finds imports sheets → K (Component.build component imports sheets)
  asking : ∀ k, K k → ∀ p ∈ k.imports, S.asks p

/-- Sheets are cached under their own paths and have `Q`, and components are indexed
under their own paths and have `K`. -/
structure HoldsOnly (Q : Sheet → Prop) (K : Component → Prop) (idx : Index) : Prop where
  cached : ∀ q s, idx.cache.get? q = some s → (s.path == q) = true ∧ Q s
  built : ∀ c k, idx.components.get? c = some k → (k.path == c) = true ∧ K k

variable {Q : Sheet → Prop} {K : Component → Prop} {disk : Disk} {idx : Index}

theorem holdsOnly_empty (Q : Sheet → Prop) (K : Component → Prop) : HoldsOnly Q K empty where
  cached := fun _ _ h => by cases h
  built := fun _ _ h => by cases h

/-! ## Single changes -/

/-- A component that is installed may be better than those that were there. -/
theorem HoldsOnly.commit {L : Component → Prop} (h : HoldsOnly Q K idx) {k : Component} (hk : L k)
    (hothers : ∀ k', (k.path == k'.path) = false → K k' → L k') :
    HoldsOnly Q L (idx.commit k) where
  cached := by
    have hcache : (idx.commit k).cache = idx.cache := unlink_cache idx k.path
    rw [hcache]
    exact h.cached
  built := by
    intro c k' hget
    rw [commit_components, Table.get?_insert] at hget
    split at hget
    · rename_i hc
      cases hget
      exact ⟨hc, hk⟩
    · rename_i hc
      obtain ⟨hpath, hk'⟩ := h.built c k' hget
      refine ⟨hpath, hothers k' (Bool.eq_false_iff.mpr fun hsame => ?_) hk'⟩
      exact hc (BEq.trans hsame hpath)

theorem HoldsOnly.dropComponent (h : HoldsOnly Q K idx) (component : Path) :
    HoldsOnly Q K (idx.dropComponent component) where
  cached := by
    have hcache : (idx.dropComponent component).cache = idx.cache := unlink_cache idx component
    rw [hcache]
    exact h.cached
  built := fun c k hget => h.built c k (of_get?_dropComponent hget)

theorem HoldsOnly.forget (h : HoldsOnly Q K idx) (sheet : Path) :
    HoldsOnly Q K (idx.forget sheet) where
  cached := fun q s hget => h.cached q s (Table.of_get?_erase hget)
  built := h.built

theorem HoldsOnly.rebuilds {P : Path → Prop} (h : HoldsOnly Q K idx)
    (hasking : ∀ k, K k → ∀ p ∈ k.imports, P p) {sheet : Path} {work : Path × List Path}
    (hwork : work ∈ idx.rebuilds sheet) : ∀ p ∈ work.2, P p := by
  obtain ⟨k, hk, himports⟩ := indexed_of_mem_rebuilds hwork
  rw [← himports]
  exact hasking k (h.built work.1 k hk).2

end Index

/-! ## Runs -/

namespace Run

open Index

/-- What a run has gathered, and what it knows of the stylesheet it is at, is up
to the standard. -/
structure Carries (S : Standard) (r : Run) : Prop where
  asked : ∀ p ∈ r.imports, S.asks p
  gathered : ∃ done, r.imports = done ++ r.todo ∧ Gathered S.Finds done r.sheets
  fresh : r.phase ≠ .consult → ∀ p, r.todo.head? = some p → r.sheets.any (·.path == p) = false
  knows : ∀ p, r.todo.head? = some p → S.Knows p r.phase

variable {S : Standard} {K : Component → Prop} {disk : Disk} {idx : Index} {r : Run}

theorem carries_start (component : Path) {imports : List Path} (h : ∀ p ∈ imports, S.asks p) :
    (start component imports).Carries S where
  asked := h
  gathered := ⟨[], rfl, .nil⟩
  fresh := fun hphase => absurd rfl hphase
  knows := fun _ _ => trivial

theorem Carries.pass (h : r.Carries S) {p : Path} {rest : List Path} (htodo : r.todo = p :: rest)
    (hread : r.sheets.any (·.path == p) = true) : (r.next rest none).Carries S where
  asked := h.asked
  gathered := by
    obtain ⟨done, himports, hgathered⟩ := h.gathered
    have hsheets : (r.next rest none).sheets = r.sheets := List.append_nil _
    refine ⟨done ++ [p], ?_, hsheets ▸ .pass hgathered hread⟩
    rw [List.append_assoc]
    exact himports.trans (congrArg (done ++ ·) htodo)
  fresh := fun hphase => absurd rfl hphase
  knows := fun _ _ => trivial

theorem Carries.next (h : r.Carries S) {p : Path} {rest : List Path} (htodo : r.todo = p :: rest)
    (hphase : r.phase ≠ .consult) {found : Option Sheet} (hfound : S.Finds p found) :
    (r.next rest found).Carries S where
  asked := h.asked
  gathered := by
    obtain ⟨done, himports, hgathered⟩ := h.gathered
    have hnew := h.fresh hphase p (by rw [htodo]; rfl)
    refine ⟨done ++ [p], ?_, .take hgathered hnew hfound⟩
    rw [List.append_assoc]
    exact himports.trans (congrArg (done ++ ·) htodo)
  fresh := fun hphase => absurd rfl hphase
  knows := fun _ _ => trivial

theorem Carries.stay (h : r.Carries S)
    (hcached : ∀ q s, idx.cache.get? q = some s → (s.path == q) = true ∧ S.holds s)
    (hyields : Yields disk S K) {p : Path} {rest : List Path} {phase : Phase}
    (htodo : r.todo = p :: rest)
    (hstays : Stays disk idx r p phase) : Carries S { r with phase } := by
  have hhead : r.todo.head? = some p := by rw [htodo]; rfl
  have hasks : S.asks p := by
    obtain ⟨done, himports, -⟩ := h.gathered
    exact h.asked p (by rw [himports, htodo]; simp)
  have hknown := h.knows p hhead
  have hnew : r.sheets.any (·.path == p) = false := by
    cases hstays with
    | find at_ new cached => exact new
    | miss at_ new missing => exact new
    | expire at_ stale => exact h.fresh (by simp [at_]) p hhead
    | stamp at_ bears => exact h.fresh (by simp [at_]) p hhead
    | read at_ holds => exact h.fresh (by simp [at_]) p hhead
    | fail at_ =>
      obtain ⟨hphase, -⟩ | ⟨modified, hphase, -⟩ := at_ <;> exact h.fresh (by simp [hphase]) p hhead
  refine ⟨h.asked, h.gathered, fun _ q hq => ?_, fun q hq => ?_⟩
  · cases hhead.symm.trans hq
    exact hnew
  · cases hhead.symm.trans hq
    cases hstays with
    | find at_ new cached => exact hcached p _ cached
    | miss at_ new missing => trivial
    | expire at_ stale => trivial
    | stamp at_ bears => exact hyields.stamping p _ hasks bears
    | read at_ holds =>
      rw [at_] at hknown
      exact ⟨BEq.rfl, hyields.reading p _ _ hasks hknown holds⟩
    | @fail cause at_ =>
      refine hyields.failing p cause hasks ?_
      obtain ⟨-, hstamp⟩ | ⟨modified, -, hread⟩ := at_
      · exact .inl hstamp
      · exact .inr hread

theorem Carries.builds (h : r.Carries S) (hyields : Yields disk S K) (hdone : r.todo = []) :
    K (Component.build r.component r.imports r.sheets) := by
  obtain ⟨imports, himports, hgathered⟩ := h.gathered
  rw [hdone, List.append_nil] at himports
  exact hyields.building _ _ _ h.asked (himports ▸ hgathered)

/-- What is left of a run after one step. It matters only what the cache holds. -/
theorem Carries.left (h : r.Carries S) (hyields : Yields disk S K)
    (hcached : ∀ q s, idx.cache.get? q = some s → (s.path == q) = true ∧ S.holds s) {r' : Run}
    (hr' : (Run.step disk idx r).2 = some r') : r'.Carries S := by
  have hturn := turn_step disk idx r
  generalize Run.step disk idx r = result at hturn hr'
  cases hturn with
  | install done => cases hr'
  | stay p rest phase todo stays =>
    cases hr'
    exact h.stay hcached hyields todo stays
  | pass p rest todo at_ read =>
    cases hr'
    exact h.pass todo read
  | take p rest s todo checked fresh =>
    have hknown := h.knows p (by rw [todo]; rfl)
    rw [checked] at hknown
    cases hr'
    exact h.next todo (by simp [checked]) hknown
  | keep p rest s todo given =>
    have hknown := h.knows p (by rw [todo]; rfl)
    rw [given] at hknown
    cases hr'
    exact h.next todo (by simp [given]) hknown
  | lose p rest todo given =>
    have hknown := h.knows p (by rw [todo]; rfl)
    rw [given] at hknown
    cases hr'
    exact h.next todo (by simp [given]) hknown

theorem Carries.cached_step (h : r.Carries S) (disk : Disk)
    (hcached : ∀ q s, idx.cache.get? q = some s → (s.path == q) = true ∧ S.holds s) :
    ∀ q s, (Run.step disk idx r).1.cache.get? q = some s → (s.path == q) = true ∧ S.holds s := by
  have hturn := turn_step disk idx r
  generalize Run.step disk idx r = result at hturn ⊢
  cases hturn with
  | install done =>
    have hcache : (idx.commit (Component.build r.component r.imports r.sheets)).cache = idx.cache :=
      unlink_cache idx _
    rw [hcache]
    exact hcached
  | keep p rest s todo given =>
    have hknown := h.knows p (by rw [todo]; rfl)
    rw [given] at hknown
    intro q t hget
    rcases Table.of_get?_insert hget with ⟨hq, rfl⟩ | hbefore
    · exact ⟨hq, hknown.2⟩
    · exact hcached q t hbefore
  | lose p rest todo given => exact fun q s hget => hcached q s (Table.of_get?_erase hget)
  | _ => exact hcached

theorem Carries.step (h : r.Carries S) (hidx : HoldsOnly S.holds K idx)
    (hyields : Yields disk S K) :
    HoldsOnly S.holds K (Run.step disk idx r).1 ∧
      ∀ r', (Run.step disk idx r).2 = some r' → r'.Carries S := by
  refine ⟨⟨h.cached_step disk hidx.cached, ?_⟩, fun r' hr' => h.left hyields hidx.cached hr'⟩
  have hturn := turn_step disk idx r
  generalize Run.step disk idx r = result at hturn ⊢
  cases hturn with
  | install done => exact (hidx.commit (h.builds hyields done) fun _ _ hk => hk).built
  | _ => exact hidx.built

/-- A run that nothing interrupts installs a component of its imports, gathered up to the
standard. It matters only what the cache holds. -/
theorem Carries.finish (h : r.Carries S) (hyields : Yields disk S K)
    (hcached : ∀ q s, idx.cache.get? q = some s → (s.path == q) = true ∧ S.holds s) :
    (∀ q s, (r.finish disk idx).cache.get? q = some s → (s.path == q) = true ∧ S.holds s) ∧
      ∃ k, K k ∧ k.imports = r.imports ∧ ∀ c, (r.finish disk idx).components.get? c =
        if r.component == c then some k else idx.components.get? c := by
  induction hleft : r.stepsLeft using Nat.strongRecOn generalizing idx r with
  | ind left ih =>
    have hcached' := h.cached_step disk hcached
    cases hstep : Run.step disk idx r with
    | mk idx' left? =>
      rw [hstep] at hcached'
      cases left? with
      | none =>
        rw [finish_over hstep]
        exact ⟨hcached', _, h.builds hyields (step_none hstep).1, rfl, get?_of_step_none hstep⟩
      | some r' =>
        obtain ⟨hcomponents, hcomponent, himports, hless⟩ := step_some hstep
        have hcarries : r'.Carries S := h.left hyields hcached (by rw [hstep])
        rw [finish_step hstep, ← hcomponent, ← himports, ← hcomponents]
        exact ih r'.stepsLeft (hleft ▸ hless) hcarries hcached' rfl

end Run

end ClassLens
