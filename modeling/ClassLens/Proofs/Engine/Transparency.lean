import ClassLens.Proofs.Engine.AtOnce
import ClassLens.Proofs.Index.Trust
/-
  Transparency — indexing through the cache and without it

  An engine answers from its cache as long as a file bears the time it was read
  at. Where the time of a file tells its content, at all the moments that a run
  meets and at the present one, this cannot be seen from outside: the component
  that is installed is the one that a new engine installs.

  What is proved:
    1. `Disk.timesTell_of_files` — when the times of files tell their content;
    2. `Workload.recorded_run` — every sheet in the cache was read at one of
       the moments of the run;
    3. `Workload.Recorded.readAnew?`, `Workload.trusted_run` — so a sheet whose
       file bears its time is what reading the file gives;
    4. `Workload.cache_transparent` — the component of an engine with any past
       and of a new one.
-/

namespace ClassLens

/-- Whether two nodes, if they are files with the same time, hold the same. -/
def Node.agree : Node → Node → Bool
  | .file content modified, .file content' modified' =>
    modified ≠ modified' || content = content'
  | _, _ => true

namespace Disk

/-- At no two of the given moments does a path bear the same time and hold
different texts, or a text at one of them only. -/
def TimesTell (disks : List Disk) : Prop :=
  ∀ d ∈ disks, ∀ d' ∈ disks, ∀ p stamp, d.stamp p = .ok stamp → d'.stamp p = .ok stamp →
    ∀ text, d.read p = .ok text → d'.read p = .ok text

theorem node?_of_find {d : Disk} {p : Path} {place : Location} {node : Node}
    (h : d.find p = .ok (place, node)) : d.node? place = some node := by
  unfold find at h
  simp only [bind, Except.bind, pure, Except.pure, throw, throwThe, MonadExceptOf.throw] at h
  split at h
  · cases h
  · split at h
    · cases h
    · split at h
      · cases h
      · split at h
        · cases h
        · split at h
          · rename_i hnode
            cases h
            exact hnode
          · cases h

theorem find_of_read {d : Disk} {p : Path} {stamp : Stamp} {text : Text}
    (hstamp : d.stamp p = .ok stamp) (hread : d.read p = .ok text) :
    ∃ place modified, d.find p = .ok (place, .file (.text text) modified) ∧
      stamp = .time modified := by
  unfold Disk.stamp at hstamp
  unfold Disk.read at hread
  cases hfind : d.find p with
  | error cause =>
    rw [hfind] at hread
    cases hread
  | ok found =>
    obtain ⟨place, node⟩ := found
    rw [hfind] at hread hstamp
    cases node with
    | directory changed => cases hread
    | file content modified =>
      cases content with
      | binary => cases hread
      | text chars =>
        cases hread
        cases hstamp
        exact ⟨place, modified, rfl, rfl⟩

/-- It is enough that files with the same time hold the same. -/
theorem timesTell_of_files {disks : List Disk}
    (h : ∀ d ∈ disks, ∀ d' ∈ disks, ∀ e ∈ d.nodes.entries, ∀ e' ∈ d'.nodes.entries,
      e.2.agree e'.2 = true) : TimesTell disks := by
  intro d hd d' hd' p stamp hstamp hstamp' text hread
  obtain ⟨place, modified, hfind, rfl⟩ := find_of_read hstamp hread
  obtain ⟨key, hmem, -⟩ := Table.mem_of_get? (node?_of_find hfind)
  unfold Disk.stamp at hstamp'
  unfold Disk.read
  cases hfind' : d'.find p with
  | error cause =>
    rw [hfind'] at hstamp'
    cases hstamp'
  | ok found =>
    obtain ⟨place', node⟩ := found
    obtain ⟨key', hmem', -⟩ := Table.mem_of_get? (node?_of_find hfind')
    rw [hfind'] at hstamp'
    cases node with
    | directory changed => cases hstamp'
    | file content modified' =>
      cases hstamp'
      have hsame : content = .text text := by
        have hagree := h d hd d' hd' _ hmem _ hmem'
        simp [Node.agree] at hagree
        exact hagree.symm
      rw [hsame]
      rfl

end Disk

namespace Workload

open Index

/-! ## Where cached sheets come from -/

/-- The sheet was read at one of the given moments, through a path with `P`. -/
def Recorded (P : Path → Prop) (disks : List Disk) (s : Sheet) : Prop :=
  P s.path ∧ ∃ d ∈ disks, readAnew? d s.path = some s

/-- Sheets are read at one of the given moments, through paths with `P`, and with
the times their files bear then. -/
def recorded (P : Path → Prop) (disks : List Disk) (d : Disk) : Standard :=
  ⟨P, fun p stamp => d.stamp p = .ok stamp, Recorded P disks, fun _ => True⟩

theorem yields_recorded (P : Path → Prop) {disks : List Disk} {d : Disk} (hd : d ∈ disks) :
    Yields d (recorded P disks d) fun k => ∀ p ∈ k.imports, P p where
  stamping := fun _ _ _ hstamp => hstamp
  reading := by
    intro p stamp text hp hstamp hread
    have hsheet : Sheet.read d p = .ok (Sheet.build text p stamp) := by
      have hstamp : d.stamp p = .ok stamp := hstamp
      unfold Sheet.read
      rw [hstamp, hread]
    exact ⟨hp, d, hd, readAnew?_eq_some.mpr hsheet⟩
  failing := fun _ _ _ _ => trivial
  building := fun _ _ _ himports _ => himports
  asking := fun _ himports => himports

/-- Every sheet in the cache was read at one of the moments of the run, through
a path that the run asked for. -/
theorem recorded_run (window : Nat) {script : List (Disk × Action)}
    (hatonce : ∀ step ∈ script, step.2.AtOnce) {q : Path} {s : Sheet}
    (hs : (run window script).index.cache.get? q = some s) :
    (s.path == q) = true ∧
      Recorded (fun p => ∃ step ∈ script, p ∈ step.2.imports) (script.map (·.1)) s := by
  have hholds := HoldsOnly.runAtOnce
    (S := recorded (fun p => ∃ step ∈ script, p ∈ step.2.imports) (script.map (·.1)))
    (fun _ => rfl) window
    (fun step hstep => ⟨hatonce step hstep, fun p hp => ⟨step, hstep, hp⟩⟩)
    (fun step hstep => yields_recorded _ (List.mem_map_of_mem (f := Prod.fst) hstep))
  exact hholds.cached q s hs

/-- A sheet that was read when its file bore the present time is what reading
the file gives now. -/
theorem Recorded.readAnew? {P : Path → Prop} {disks : List Disk} {disk : Disk} {s : Sheet}
    (h : Recorded P disks s) (htimes : Disk.TimesTell (disk :: disks))
    (hfresh : s.isStale disk = false) : readAnew? disk s.path = some s := by
  obtain ⟨-, d, hd, hread⟩ := h
  obtain ⟨stamp, content, hstamp, hcontent, hs⟩ := Sheet.read_parts (readAnew?_eq_some.mp hread)
  have hbuilt : s.IsBuilt := by
    rw [hs]
    rfl
  have hparts : s.modified = stamp ∧ s.content = content := by
    rw [hs]
    exact ⟨rfl, rfl⟩
  apply readAnew?_self hbuilt hfresh
  rw [hparts.2]
  refine htimes d (List.mem_cons_of_mem disk hd) disk List.mem_cons_self s.path stamp hstamp ?_
    content hcontent
  rw [Sheet.stamp_of_fresh hfresh, hparts.1]

theorem trusted_run (window : Nat) {script : List (Disk × Action)} {disk : Disk}
    (hatonce : ∀ step ∈ script, step.2.AtOnce)
    (htimes : Disk.TimesTell (disk :: script.map (·.1))) :
    Trusted disk (run window script).index.cache := by
  intro q s hs
  obtain ⟨hpath, hrecorded⟩ := recorded_run window hatonce hs
  exact ⟨hpath, hrecorded.readAnew? htimes⟩

/-! ## The component that is installed -/

/-- **The cache is transparent.** After any run of whole operations on an engine,
with the files changing in any way between them as long as their times tell
their content, indexing a component with normal imports installs what a new
engine installs: the same sheets in the same order with the same classes and
definitions, and the same winning definitions. They are the very same where the
run asked for normal paths only; otherwise a sheet may name its file by another
spelling. An import that cannot be read gives no sheet and leaves none in the
cache, in either engine. -/
theorem cache_transparent (window window' : Nat) (component : Path)
    {script : List (Disk × Action)} {disk : Disk} {imports : List Path}
    (hatonce : ∀ step ∈ script, step.2.AtOnce)
    (htimes : Disk.TimesTell (disk :: script.map (·.1))) (himports : ∀ p ∈ imports, p.IsNormal) :
    ∃ k fresh,
      ((run window script).engine.indexComponent disk component imports).component? component =
        some k ∧
      ((Engine.new window').indexComponent disk component imports).component? component =
        some fresh ∧
      k.Alike fresh ∧
      ((∀ step ∈ script, ∀ p ∈ step.2.imports, p.IsNormal) → k = fresh) ∧
      ∀ p ∈ imports, ∀ cause, disk.read p = .error cause →
        k.sheet? p = none ∧ fresh.sheet? p = none ∧
        ((run window script).engine.indexComponent disk component imports).index.cache.get? p =
          none ∧
        ((Engine.new window').indexComponent disk component imports).index.cache.get? p =
          none := by
  have hpast : Trusted disk (run window script).index.cache := trusted_run window hatonce htimes
  have hnew : Trusted disk Index.empty.cache := fun _ _ hs => by cases hs
  have hanew : ∀ p, answer? disk Index.empty p = readAnew? disk p := answer?_eq disk Index.empty
  obtain ⟨k, hk, halike⟩ := hpast.indexComponent_alike component himports
  have hfresh : (indexComponent disk Index.empty component imports).components.get? component =
      some (Component.build component imports (gather (readAnew? disk) imports)) := by
    rw [indexComponent_components disk _ component himports, Table.get?_insert, if_pos BEq.rfl,
      gather_congr fun p _ => hanew p]
  refine ⟨k, _, hk, hfresh, halike, fun hnormal => ?_, fun p hp cause hcause => ?_⟩
  · -- cached sheets are of normal paths, so each is of the very path it is asked for by
    have hsame : ∀ p ∈ imports,
        answer? disk (run window script).index p = readAnew? disk p := by
      intro p hp
      apply hpast.answer?_eq_readAnew?
      intro s hs
      obtain ⟨hpath, ⟨step, hstep, hasked⟩, -⟩ := recorded_run window hatonce hs
      exact (hnormal step hstep _ hasked).eq_of_beq (himports p hp) hpath
    have hk' : (indexComponent disk (run window script).index component imports).components.get?
        component = some k := hk
    rw [indexComponent_components disk _ component himports, Table.get?_insert, if_pos BEq.rfl,
      gather_congr hsame] at hk'
    exact (Option.some.inj hk').symm
  · have hnone : readAnew? disk p = none := readAnew?_eq_none hcause
    have hfresh_none : (Component.build component imports
        (gather (readAnew? disk) imports)).sheet? p = none := by
      have hany : imports.any (· == p) = true := List.any_eq_true.mpr ⟨p, hp, BEq.rfl⟩
      have hpaths : ∀ q ∈ imports, ∀ s, readAnew? disk q = some s → s.path = q :=
        fun q _ s hs => (Sheet.read_eq_ok (readAnew?_eq_some.mp hs)).1
      exact (find?_gather hpaths himports (himports p hp) hany).trans hnone
    have hk_none : k.sheet? p = none := by
      have hrel := halike.sheet? p
      rw [hfresh_none] at hrel
      generalize k.sheet? p = found at hrel
      cases hrel
      rfl
    exact ⟨hk_none, hfresh_none, hpast.indexComponent_cache component himports hp hnone,
      hnew.indexComponent_cache component himports hp hnone⟩

namespace Sample

/-- Two stylesheets, `/a.css` and `/b.css`, the first in another spelling as well. -/
def a : Path := ⟨[0x2F, 0x61, 0x2E, 0x63, 0x73, 0x73]⟩
def a' : Path := ⟨[0x2F, 0x2F, 0x61, 0x2E, 0x63, 0x73, 0x73]⟩
def b : Path := ⟨[0x2F, 0x62, 0x2E, 0x63, 0x73, 0x73]⟩

/-- The first stylesheet changes and changes back, with its times; the second
one can be read at first, and later cannot. -/
def first : Disk := (Disk.empty.write a (.text ".x{}".toList) 1).write b (.text ".y{}".toList) 2
def second : Disk := first.write a (.text ".z{}".toList) 3
def third : Disk := first.write b .binary 4

/-- A component, and a run that reads the first stylesheet through its other spelling. -/
def component : Path := ⟨[0x2F, 0x63]⟩
def script : List (Disk × Action) :=
  [(first, .index component [a', b]), (second, .removeSheet b), (first, .ensure component [a', b])]

/-- The engine after the run, and a new one, with the component indexed anew. -/
def known : Engine := (run 300 script).engine.indexComponent third component [a, b]
def fresh : Engine := (Engine.new 300).indexComponent third component [a, b]

theorem atOnce : ∀ step ∈ script, step.2.AtOnce := by
  simp [script, Action.AtOnce]

theorem timesTell : Disk.TimesTell (third :: script.map (·.1)) := by
  apply Disk.timesTell_of_files
  decide +kernel

end Sample

/-- The sheet that was read through the other spelling is handed out, and the
component is the new engine's; there is no sheet of what cannot be read any more. -/
theorem cache_transparent_respelled :
    ∃ k fresh, Sample.known.component? Sample.component = some k ∧
      Sample.fresh.component? Sample.component = some fresh ∧ k.Alike fresh ∧
      k.sheets.map (·.path.spelling) = [Sample.a'.spelling] ∧
      fresh.sheets.map (·.path.spelling) = [Sample.a.spelling] ∧
      k.sheet? Sample.b = none ∧ Sample.known.index.cache.get? Sample.b = none := by
  have himports : ∀ p ∈ [Sample.a, Sample.b], p.IsNormal := by
    intro p hp
    simp only [List.mem_cons, List.not_mem_nil, or_false] at hp
    rcases hp with rfl | rfl <;> exact ⟨rfl, rfl⟩
  obtain ⟨k, fresh, hk, hfresh, halike, -, hnone⟩ :=
    cache_transparent 300 300 Sample.component Sample.atOnce Sample.timesTell himports
  have hread : Sample.third.read Sample.b = .error .notText := by decide +kernel
  obtain ⟨hsheet, -, hcache, -⟩ := hnone Sample.b (by simp) .notText hread
  refine ⟨k, fresh, hk, hfresh, halike, ?_, ?_, hsheet, hcache⟩
  · have hpaths : (Sample.known.component? Sample.component).map
        (fun k => k.sheets.map (·.path.spelling)) = some [Sample.a'.spelling] := by
      decide +kernel
    have hk : Sample.known.component? Sample.component = some k := hk
    rw [hk] at hpaths
    exact Option.some.inj hpaths
  · have hpaths : (Sample.fresh.component? Sample.component).map
        (fun k => k.sheets.map (·.path.spelling)) = some [Sample.a.spelling] := by
      decide +kernel
    have hfresh : Sample.fresh.component? Sample.component = some fresh := hfresh
    rw [hfresh] at hpaths
    exact Option.some.inj hpaths

end Workload

end ClassLens
