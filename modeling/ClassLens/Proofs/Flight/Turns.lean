import ClassLens.Engine.Run
import ClassLens.Proofs.Index.Gathering
/-
  Turns — what one step of a run can do

  A run installs its component, goes on with the stylesheet it is at, or is done
  with it: passed over, taken from the cache, read, or found unreadable. `Turn`
  has one case for each, `Stays` says how a run goes on with its stylesheet, and
  everything about runs is derived from the two.

  What is proved:
    1. `turn_step` — a step of a run is one of its turns;
    2. `step_some` — a run that goes on is about the same job and has less to
       do;
    3. `step_none` — a run that is over has installed its component;
    4. `held_step` — a run goes on holding what it holds;
    5. `finish_step`, `finish_over` and `finish_start` — a run that nothing
       interrupts, and that it indexes its component.
-/

namespace ClassLens

section

variable {α : Type} (steps : α → Nat)

@[simp] theorem totalSteps_nil : totalSteps steps [] = 0 := rfl

@[simp] theorem totalSteps_cons (first : α) (rest : List α) :
    totalSteps steps (first :: rest) = steps first + totalSteps steps rest := rfl

@[simp] theorem totalSteps_append (xs ys : List α) :
    totalSteps steps (xs ++ ys) = totalSteps steps xs + totalSteps steps ys := by
  induction xs with
  | nil => simp
  | cons first rest ih => simp [ih, Nat.add_assoc]

end

namespace Run

variable {disk : Disk} {idx idx' : Index} {r r' : Run}

/-- How a run goes on with the stylesheet it is at. -/
inductive Stays (disk : Disk) (idx : Index) (r : Run) (p : Path) : Phase → Prop where
  /-- A cached sheet is to be checked. -/
  | find {s : Sheet} (at_ : r.phase = .consult) (new : r.sheets.any (·.path == p) = false)
      (cached : idx.cache.get? p = some s) : Stays disk idx r p (.check s)
  /-- No sheet is cached. -/
  | miss (at_ : r.phase = .consult) (new : r.sheets.any (·.path == p) = false)
      (missing : idx.cache.get? p = none) : Stays disk idx r p .look
  /-- The cached sheet is stale. -/
  | expire {s : Sheet} (at_ : r.phase = .check s) (stale : s.isStale disk = true) :
      Stays disk idx r p .look
  /-- The stylesheet is there. -/
  | stamp {modified : Stamp} (at_ : r.phase = .look) (bears : disk.stamp p = .ok modified) :
      Stays disk idx r p (.fetch modified)
  /-- The stylesheet is read. -/
  | read {modified : Stamp} {text : Text} (at_ : r.phase = .fetch modified)
      (holds : disk.read p = .ok text) :
      Stays disk idx r p (.got (some (Sheet.build text p modified)))
  /-- The stylesheet is not there, or cannot be read. -/
  | fail {cause : DiskError} (at_ : r.phase = .look ∧ disk.stamp p = .error cause ∨
      ∃ modified, r.phase = .fetch modified ∧ disk.read p = .error cause) :
      Stays disk idx r p (.got none)

/-- What one step of a run makes of the index, and what is left of the run. -/
inductive Turn (disk : Disk) (idx : Index) (r : Run) : Index × Option Run → Prop where
  /-- The component is put in its place. -/
  | install (done : r.todo = []) :
      Turn disk idx r (idx.commit (Component.build r.component r.imports r.sheets), none)
  /-- The run stays at its stylesheet. -/
  | stay (p : Path) (rest : List Path) (phase : Phase) (todo : r.todo = p :: rest)
      (stays : Stays disk idx r p phase) : Turn disk idx r (idx, some { r with phase })
  /-- The stylesheet was read for an import before. -/
  | pass (p : Path) (rest : List Path) (todo : r.todo = p :: rest) (at_ : r.phase = .consult)
      (read : r.sheets.any (·.path == p) = true) : Turn disk idx r (idx, some (r.next rest none))
  /-- The cached sheet is taken. -/
  | take (p : Path) (rest : List Path) (s : Sheet) (todo : r.todo = p :: rest)
      (checked : r.phase = .check s) (fresh : s.isStale disk = false) :
      Turn disk idx r (idx, some (r.next rest (some s)))
  /-- The sheet that was read is taken. -/
  | keep (p : Path) (rest : List Path) (s : Sheet) (todo : r.todo = p :: rest)
      (given : r.phase = .got (some s)) :
      Turn disk idx r (idx.remember s, some (r.next rest (some s)))
  /-- The stylesheet could not be read. -/
  | lose (p : Path) (rest : List Path) (todo : r.todo = p :: rest) (given : r.phase = .got none) :
      Turn disk idx r (idx.forget p, some (r.next rest none))

theorem turn_step (disk : Disk) (idx : Index) (r : Run) : Turn disk idx r (step disk idx r) := by
  obtain ⟨component, imports, todo, sheets, phase⟩ := r
  unfold step
  cases todo with
  | nil => exact .install rfl
  | cons p rest =>
    cases phase with
    | consult =>
      simp only
      split
      · rename_i hread
        exact .pass p rest rfl rfl hread
      · rename_i hnew
        have hnew := Bool.eq_false_iff.mpr hnew
        split
        · rename_i s hs
          exact .stay p rest (.check s) rfl (.find rfl hnew hs)
        · rename_i hmissing
          exact .stay p rest .look rfl (.miss rfl hnew hmissing)
    | check s =>
      simp only
      split
      · rename_i hstale
        exact .stay p rest .look rfl (.expire rfl hstale)
      · rename_i hfresh
        exact .take p rest s rfl rfl (Bool.eq_false_iff.mpr hfresh)
    | look =>
      simp only
      split
      · rename_i modified hstamp
        exact .stay p rest (.fetch modified) rfl (.stamp rfl hstamp)
      · rename_i cause hstamp
        exact .stay p rest (.got none) rfl (.fail (.inl ⟨rfl, hstamp⟩))
    | fetch modified =>
      simp only
      split
      · rename_i text hread
        exact .stay p rest _ rfl (.read rfl hread)
      · rename_i cause hread
        exact .stay p rest (.got none) rfl (.fail (.inr ⟨modified, rfl, hread⟩))
    | got found =>
      cases found with
      | some s => exact .keep p rest s rfl rfl
      | none => exact .lose p rest rfl rfl

/-! ## What is left to do -/

theorem number_le (phase : Phase) : phase.number ≤ 4 := by
  cases phase <;> simp [Phase.number]

theorem Stays.number_lt {p : Path} {phase : Phase} (h : Stays disk idx r p phase) :
    r.phase.number < phase.number := by
  cases h with
  | find at_ new cached => simp [at_, Phase.number]
  | miss at_ new missing => simp [at_, Phase.number]
  | expire at_ stale => simp [at_, Phase.number]
  | stamp at_ bears => simp [at_, Phase.number]
  | read at_ holds => simp [at_, Phase.number]
  | fail at_ =>
    obtain ⟨hphase, -⟩ | ⟨modified, hphase, -⟩ := at_ <;> simp [hphase, Phase.number]

theorem stepsLeft_start (component : Path) (imports : List Path) :
    (start component imports).stepsLeft = 5 * imports.length + 1 := by
  unfold stepsLeft start
  cases imports with
  | nil => rfl
  | cons p rest =>
    simp only [Phase.number, List.length_cons]
    omega

theorem stepsLeft_pos (r : Run) : 0 < r.stepsLeft := by
  have hnumber := number_le r.phase
  unfold stepsLeft
  split <;> omega

theorem stepsLeft_next {p : Path} {rest : List Path} (h : r.todo = p :: rest)
    (found : Option Sheet) : (r.next rest found).stepsLeft < r.stepsLeft := by
  have hnumber := number_le r.phase
  unfold stepsLeft next
  rw [h]
  cases rest with
  | nil =>
    simp only [List.length_nil]
    omega
  | cons q rest =>
    have hzero : Phase.consult.number = 0 := rfl
    simp only [hzero, List.length_cons]
    omega

theorem stepsLeft_stay {p : Path} {rest : List Path} {phase : Phase} (h : r.todo = p :: rest)
    (hstays : Stays disk idx r p phase) : stepsLeft { r with phase } < r.stepsLeft := by
  have hless := hstays.number_lt
  have hnumber := number_le phase
  unfold stepsLeft
  simp only [h]
  omega

/-- A run that goes on is still about the same component, has less to do, and has
installed nothing. -/
theorem step_some (h : step disk idx r = (idx', some r')) :
    idx'.components = idx.components ∧ r'.component = r.component ∧ r'.imports = r.imports ∧
      r'.stepsLeft < r.stepsLeft := by
  have hturn := turn_step disk idx r
  rw [h] at hturn
  cases hturn with
  | stay p rest phase todo stays => exact ⟨rfl, rfl, rfl, stepsLeft_stay todo stays⟩
  | pass p rest todo at_ read => exact ⟨rfl, rfl, rfl, stepsLeft_next todo none⟩
  | take p rest s todo checked fresh => exact ⟨rfl, rfl, rfl, stepsLeft_next todo (some s)⟩
  | keep p rest s todo given => exact ⟨rfl, rfl, rfl, stepsLeft_next todo (some s)⟩
  | lose p rest todo given => exact ⟨rfl, rfl, rfl, stepsLeft_next todo none⟩

/-- A run that is over has installed the component of its imports. -/
theorem step_none (h : step disk idx r = (idx', none)) :
    r.todo = [] ∧ idx' = idx.commit (Component.build r.component r.imports r.sheets) := by
  have hturn := turn_step disk idx r
  rw [h] at hturn
  cases hturn with
  | install done => exact ⟨done, rfl⟩

theorem get?_of_step_none (h : step disk idx r = (idx', none)) (c : Path) :
    idx'.components.get? c =
      if r.component == c then some (Component.build r.component r.imports r.sheets)
      else idx.components.get? c := by
  rw [(step_none h).2, Index.commit_components, Table.get?_insert]
  rfl

/-! ## What a run holds -/

/-- The sheets that a run holds: those gathered, and the one it has just read. -/
def held (r : Run) : List Sheet :=
  match r.todo, r.phase with
  | _ :: _, .got (some s) => r.sheets ++ [s]
  | _, _ => r.sheets

theorem drive_congr {n m : Nat} (hn : r.stepsLeft ≤ n) (hm : r.stepsLeft ≤ m) :
    drive disk n idx r = drive disk m idx r := by
  induction n generalizing idx r m with
  | zero =>
    have hpos := stepsLeft_pos r
    omega
  | succ n ih =>
    have hpos := stepsLeft_pos r
    obtain ⟨m, rfl⟩ : ∃ k, m = k + 1 := ⟨m - 1, by omega⟩
    rw [drive, drive]
    cases hstep : step disk idx r with
    | mk idx' left =>
      cases left with
      | none => rfl
      | some r' =>
        have hless := (step_some hstep).2.2.2
        exact ih (by omega) (by omega)

theorem finish_step (h : step disk idx r = (idx', some r')) :
    finish disk idx r = finish disk idx' r' := by
  have hless := (step_some h).2.2.2
  have hdrive : drive disk (r.stepsLeft + 1) idx r = drive disk r.stepsLeft idx' r' := by
    rw [drive, h]
  unfold finish
  rw [drive_congr (Nat.le_refl _) (Nat.le_succ _), hdrive]
  exact drive_congr (Nat.le_of_lt hless) (Nat.le_refl _)

theorem finish_over (h : step disk idx r = (idx', none)) : finish disk idx r = idx' := by
  have hpos := stepsLeft_pos r
  obtain ⟨n, hn⟩ : ∃ n, r.stepsLeft = n + 1 := ⟨r.stepsLeft - 1, by omega⟩
  unfold finish
  rw [hn, drive, h]

section

variable {component p : Path} {imports rest : List Path} {sheets : List Sheet}

theorem finish_look (disk : Disk) (idx : Index) :
    finish disk idx ⟨component, imports, p :: rest, sheets, .look⟩ =
      finish disk (idx.reload disk p).1
        ⟨component, imports, rest, sheets ++ (idx.reload disk p).2.toList, .consult⟩ := by
  unfold Index.reload Sheet.read
  cases hstamp : disk.stamp p with
  | error cause =>
    have hlook : step disk idx ⟨component, imports, p :: rest, sheets, .look⟩ =
        (idx, some ⟨component, imports, p :: rest, sheets, .got none⟩) := by
      simp only [step, hstamp]
    rw [finish_step hlook, finish_step rfl]
    rfl
  | ok modified =>
    have hlook : step disk idx ⟨component, imports, p :: rest, sheets, .look⟩ =
        (idx, some ⟨component, imports, p :: rest, sheets, .fetch modified⟩) := by
      simp only [step, hstamp]
    rw [finish_step hlook]
    cases hread : disk.read p with
    | error cause =>
      have hfetch : step disk idx ⟨component, imports, p :: rest, sheets, .fetch modified⟩ =
          (idx, some ⟨component, imports, p :: rest, sheets, .got none⟩) := by
        simp only [step, hread]
      rw [finish_step hfetch, finish_step rfl]
      rfl
    | ok text =>
      have hfetch : step disk idx ⟨component, imports, p :: rest, sheets, .fetch modified⟩ =
          (idx, some ⟨component, imports, p :: rest, sheets,
            .got (some (Sheet.build text p modified))⟩) := by
        simp only [step, hread]
      rw [finish_step hfetch, finish_step rfl]
      rfl

theorem finish_consult (disk : Disk) (idx : Index)
    (hnew : ¬ sheets.any (·.path == p) = true) :
    finish disk idx ⟨component, imports, p :: rest, sheets, .consult⟩ =
      finish disk (idx.consult disk p).1
        ⟨component, imports, rest, sheets ++ (idx.consult disk p).2.toList, .consult⟩ := by
  unfold Index.consult
  cases hcached : idx.cache.get? p with
  | none =>
    have hconsult : step disk idx ⟨component, imports, p :: rest, sheets, .consult⟩ =
        (idx, some ⟨component, imports, p :: rest, sheets, .look⟩) := by
      simp only [step, if_neg hnew, hcached]
    rw [finish_step hconsult, finish_look]
  | some s =>
    have hconsult : step disk idx ⟨component, imports, p :: rest, sheets, .consult⟩ =
        (idx, some ⟨component, imports, p :: rest, sheets, .check s⟩) := by
      simp only [step, if_neg hnew, hcached]
    rw [finish_step hconsult]
    cases hstale : s.isStale disk with
    | true =>
      have hcheck : step disk idx ⟨component, imports, p :: rest, sheets, .check s⟩ =
          (idx, some ⟨component, imports, p :: rest, sheets, .look⟩) := by
        simp only [step, hstale, if_true]
      rw [finish_step hcheck, finish_look]
      simp only [hstale, if_true]
    | false =>
      have hcheck : step disk idx ⟨component, imports, p :: rest, sheets, .check s⟩ =
          (idx, some ⟨component, imports, rest, sheets ++ [s], .consult⟩) := by
        simp only [step, hstale]
        rfl
      rw [finish_step hcheck]
      simp only [hstale]
      rfl

theorem finish_consultAll (disk : Disk) (idx : Index) (component : Path) (imports todo : List Path)
    (sheets : List Sheet) :
    finish disk idx ⟨component, imports, todo, sheets, .consult⟩ =
      (Index.consultAll disk todo idx sheets).1.commit
        (Component.build component imports (Index.consultAll disk todo idx sheets).2) := by
  induction todo generalizing idx sheets with
  | nil => exact finish_over rfl
  | cons p rest ih =>
    rw [Index.consultAll_cons]
    split
    · rename_i hread
      have hpass : step disk idx ⟨component, imports, p :: rest, sheets, .consult⟩ =
          (idx, some ⟨component, imports, rest, sheets ++ [], .consult⟩) := by
        simp only [step, if_pos hread]
        rfl
      rw [finish_step hpass, List.append_nil, ih]
    · rename_i hnew
      rw [finish_consult disk idx hnew, ih]
      rfl

end

/-- A run that nothing interrupts does what indexing its component at once does. -/
theorem finish_start (disk : Disk) (idx : Index) (component : Path) (imports : List Path) :
    finish disk idx (start component imports) =
      Index.indexComponent disk idx component imports :=
  finish_consultAll disk idx component imports imports []

end Run

end ClassLens
