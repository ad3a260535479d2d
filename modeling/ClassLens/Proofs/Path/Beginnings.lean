import ClassLens.Proofs.Path.Joining
/-
  Beginnings — what the absolute form of a path keeps, and what it forgets

  A path begins at the root, with a dot, or right with its first step. Equality
  of paths tells the three apart. Seen from a working directory the last two
  come to the same: the absolute form keeps the steps of the path and forgets
  the dot, and it can be the form of a path from the root as well. Among paths
  that begin alike it tells all that equality tells.

  What is proved:
    1. `segments_eq_mark` — the segments are the beginning and the steps;
    2. `steps_absoluteIn` — the steps of an absolute form;
    3. `beq_of_sameFrom` — paths that begin alike and have one absolute form
       are equal;
    4. `beginning_join_names`, `steps_join_names` — names behind a path;
    5. `sameFrom_iff_location` — without parent steps, absolute forms are
       equal exactly when they spell out one location.
-/

namespace ClassLens

namespace Path

/-- Where a path begins. -/
inductive Beginning where
  | root
  | here
  | plain
  deriving Repr, DecidableEq

/-- The segment that stands for a beginning. -/
def Beginning.mark : Beginning → List Segment
  | .root => [.root]
  | .here => [.here]
  | .plain => []

/-- Where the path begins: at the root, with a dot, or with its first step. -/
def beginning (p : Path) : Beginning :=
  if p.isAbsolute then .root
  else if p.pieces.head? = some [dot] then .here
  else .plain

/-- Seen from the directory `cwd` two paths have one absolute form. -/
def SameFrom (cwd p q : Path) : Prop := (absoluteIn cwd p == absoluteIn cwd q) = true

instance (cwd p q : Path) : Decidable (SameFrom cwd p q) :=
  inferInstanceAs (Decidable ((absoluteIn cwd p == absoluteIn cwd q) = true))

/-! ## Beginnings and steps -/

theorem segments_eq_mark (p : Path) : p.segments = p.beginning.mark ++ p.steps := by
  unfold segments steps beginning
  by_cases habsolute : p.isAbsolute = true
  · rw [if_pos habsolute, if_pos habsolute]
    rfl
  · rw [if_neg habsolute, if_neg habsolute]
    cases hpieces : p.pieces with
    | nil => rfl
    | cons first rest =>
      simp only [List.head?_cons, Option.some.injEq]
      by_cases hdot : first = [dot]
      · have hnone : innerSegment? first = none := by simp [innerSegment?, hdot]
        rw [if_pos hdot, if_pos hdot, List.filterMap_cons_none hnone]
        rfl
      · rw [if_neg hdot, if_neg hdot]
        rfl

theorem isAbsolute_eq_beginning (p : Path) : p.isAbsolute = decide (p.beginning = .root) := by
  unfold beginning
  cases p.isAbsolute with
  | true => rfl
  | false =>
    simp only [Bool.false_eq_true, if_false]
    split <;> rfl

theorem pieces_of_slash_not_mem {bytes : Bytes} (h : slash ∉ bytes) : pieces ⟨bytes⟩ = [bytes] :=
  Text.split_of_forall_not fun _ hc => decide_eq_false fun heq => h (heq ▸ hc)

theorem steps_segmentBytes {s : Segment} (h : IsStep s) : steps ⟨segmentBytes s⟩ = [s] := by
  unfold steps
  rw [pieces_of_slash_not_mem h.slash_not_mem, List.filterMap_cons_some h.innerSegment?]
  rfl

/-! ## Absolute forms -/

theorem steps_join_steps (p : Path) {segs : List Segment} (h : ∀ s ∈ segs, IsStep s) :
    (segs.foldl (fun q s => q.join (segmentBytes s)) p).steps = p.steps ++ segs := by
  induction segs generalizing p with
  | nil => exact (List.append_nil _).symm
  | cons s rest ih =>
    rw [List.forall_mem_cons] at h
    have hjoin : (p.join (segmentBytes s)).steps = p.steps ++ steps ⟨segmentBytes s⟩ :=
      steps_join p (isAbsolute_of_slash_not_mem h.1.slash_not_mem)
    rw [List.foldl_cons, ih _ h.2, hjoin, steps_segmentBytes h.1, List.append_assoc]
    rfl

theorem steps_ofSteps {segs : List Segment} (h : ∀ s ∈ segs, IsStep s) :
    (ofSegments (.root :: segs)).steps = segs := by
  rw [← unmarked_segments, segments_ofSteps h]
  rfl

theorem steps_plainIn (cwd p : Path) :
    (plainIn cwd p).steps = if p.isAbsolute then p.steps else cwd.steps ++ p.steps := by
  have hsteps : ∀ s ∈ p.steps, IsStep s := fun s => isStep_of_mem_steps
  have hslash : ∀ whole : Path, (whole.join []).steps = whole.steps := by
    intro whole
    have hjoin := steps_join whole (q := ⟨[]⟩) rfl
    rw [hjoin]
    exact List.append_nil _
  -- a slash at the end changes no steps
  have hwhole : ∀ whole : Path,
      (if p.spelling.getLast? == some slash then whole.join [] else whole).steps = whole.steps := by
    intro whole
    split
    · exact hslash whole
    · rfl
  unfold plainIn
  simp only [hwhole]
  have hmark := segments_eq_mark p
  have habsolute := isAbsolute_eq_beginning p
  cases hbeginning : p.beginning with
  | root =>
    rw [hbeginning] at hmark habsolute
    rw [hmark, habsolute]
    exact steps_ofSteps hsteps
  | here =>
    rw [hbeginning] at hmark habsolute
    rw [hmark, habsolute]
    exact steps_join_steps cwd hsteps
  | plain =>
    rw [hbeginning] at hmark habsolute
    rw [hmark, habsolute]
    simp only [Beginning.mark, List.nil_append, reduceCtorEq, decide_false, Bool.false_eq_true,
      if_false]
    split
    · -- no step is a dot
      rename_i rest hhere
      rcases hsteps .here (by rw [hhere]; exact List.mem_cons_self) with hup | ⟨n, -, hname⟩
      · cases hup
      · cases hname
    · exact steps_join_steps cwd hsteps

theorem double_beq {p : Path} (h : p.isAbsolute = true) : (p.double == p) = true := by
  have habsolute : p.double.isAbsolute = true := rfl
  rw [beq_iff, segments, segments, if_pos h, if_pos habsolute, pieces_double]
  rfl

theorem isAbsolute_of_startsDouble {p : Path} (h : p.startsDouble = true) :
    p.isAbsolute = true := by
  unfold startsDouble at h
  unfold isAbsolute
  split at h
  · rename_i a b rest hspelling
    rw [hspelling]
    simp only [Bool.and_eq_true] at h
    exact beq_iff_eq.mpr (congrArg some (beq_iff_eq.mp h.1.1))
  · cases h

theorem isAbsolute_plainIn {cwd p : Path} (h : p.isAbsolute = true ∨ cwd.isAbsolute = true) :
    (plainIn cwd p).isAbsolute = true := by
  have hwhole : ∀ whole : Path, whole.isAbsolute = true →
      (if p.spelling.getLast? == some slash then whole.join [] else whole).isAbsolute = true := by
    intro whole hwhole
    split
    · exact isAbsolute_join hwhole []
    · exact hwhole
  unfold plainIn
  apply hwhole
  split
  · rename_i habsolute
    rw [segments_of_isAbsolute habsolute]
    rfl
  · rename_i hrelative
    have hcwd := h.resolve_left hrelative
    exact List.foldlRecOn (motive := fun q : Path => q.isAbsolute = true) _ _ hcwd
      fun _ hq s _ => isAbsolute_join hq (segmentBytes s)

theorem absoluteIn_beq (cwd p : Path) : (absoluteIn cwd p == plainIn cwd p) = true := by
  unfold absoluteIn
  split
  · rename_i hdouble
    exact double_beq (isAbsolute_plainIn (.inl (isAbsolute_of_startsDouble hdouble)))
  · exact BEq.rfl

/-- The absolute form takes the steps of the path, behind those of the directory
where the path does not start at the root. -/
theorem steps_absoluteIn (cwd p : Path) :
    (absoluteIn cwd p).steps = if p.isAbsolute then p.steps else cwd.steps ++ p.steps :=
  (steps_of_beq (absoluteIn_beq cwd p)).trans (steps_plainIn cwd p)

/-- Paths that begin alike and have one absolute form are equal. -/
theorem beq_of_sameFrom {cwd p q : Path} (hbeginning : p.beginning = q.beginning)
    (h : SameFrom cwd p q) : (p == q) = true := by
  have hsteps := steps_of_beq h
  rw [steps_absoluteIn, steps_absoluteIn, isAbsolute_eq_beginning p, isAbsolute_eq_beginning q,
    hbeginning] at hsteps
  have hsame : p.steps = q.steps := by
    split at hsteps
    · exact hsteps
    · exact List.append_cancel_left hsteps
  rw [beq_iff, segments_eq_mark p, segments_eq_mark q, hbeginning, hsame]

theorem beginning_of_beq {p q : Path} (h : (p == q) = true) : p.beginning = q.beginning := by
  have hsegments := (beq_iff p q).mp h
  rw [segments_eq_mark p, segments_eq_mark q, steps_of_beq h] at hsegments
  have hmark := List.append_cancel_right hsegments
  cases hp : p.beginning <;> cases hq : q.beginning <;> simp_all [Beginning.mark]

/-! ## Names behind a path -/

theorem beginning_join_name {p : Path} (hp : p.spelling ≠ []) {n : Bytes} (hn : IsName n) :
    (p.join n).beginning = p.beginning ∧ (p.join n).spelling ≠ [] := by
  have hrelative : (n.head? == some slash) = false := isAbsolute_of_slash_not_mem hn.2.2.2
  obtain ⟨b, bytes, hspelling⟩ := List.exists_cons_of_ne_nil hp
  have hhead : ∀ front rest : Bytes,
      (Text.split (· = slash) front ++ Text.split (· = slash) rest).head? =
        (Text.split (· = slash) front).head? := by
    intro front rest
    obtain ⟨piece, pieces, hsplit⟩ :=
      List.exists_cons_of_ne_nil (Text.split_ne_nil (· = slash) front)
    rw [hsplit]
    rfl
  have hpieces : (p.join n).pieces.head? = p.pieces.head? := by
    unfold join pieces
    rw [hrelative]
    simp only [Bool.false_eq_true, if_false, hp, false_or]
    split
    · rename_i hlast
      obtain ⟨front, hfront⟩ := List.getLast?_eq_some_iff.mp hlast
      rw [hfront, List.append_assoc, List.singleton_append, split_slash, split_slash, hhead, hhead]
    · rw [split_slash, hhead]
  have habsolute : (p.join n).isAbsolute = p.isAbsolute := by
    unfold join isAbsolute
    rw [hrelative, hspelling]
    simp only [Bool.false_eq_true, if_false]
    split <;> rfl
  constructor
  · unfold beginning
    rw [hpieces, habsolute]
  · unfold join
    rw [hrelative, hspelling]
    simp only [Bool.false_eq_true, if_false]
    split <;> simp

theorem beginning_join_names {p : Path} (hp : p.spelling ≠ []) {names : List Bytes}
    (hnames : ∀ n ∈ names, IsName n) : (names.foldl join p).beginning = p.beginning := by
  induction names generalizing p with
  | nil => rfl
  | cons n rest ih =>
    rw [List.forall_mem_cons] at hnames
    obtain ⟨hbeginning, hne⟩ := beginning_join_name hp hnames.1
    rw [List.foldl_cons, ih hne hnames.2, hbeginning]

theorem steps_join_names (p : Path) {names : List Bytes} (hnames : ∀ n ∈ names, IsName n) :
    (names.foldl join p).steps = p.steps ++ names.map .name := by
  have hsteps : ∀ s ∈ names.map Segment.name, IsStep s := fun _ => isStep_of_mem_names hnames
  rw [← steps_join_steps p hsteps, List.foldl_map]
  rfl

/-- A path spells out the location that its steps lead to, wherever it begins. -/
theorem location_eq_steps (p : Path) : Disk.location p = p.steps.foldl Disk.follow [] := by
  unfold Disk.location
  rw [segments_eq_mark]
  cases p.beginning <;> rfl

theorem isAbsolute_absoluteIn {cwd : Path} (hcwd : cwd.isAbsolute = true) (p : Path) :
    (absoluteIn cwd p).isAbsolute = true :=
  isAbsolute_of_beq (absoluteIn_beq cwd p) (isAbsolute_plainIn (.inr hcwd))

theorem exists_names {segs : List Segment} (h : ∀ s ∈ segs, IsStep s) (hup : .up ∉ segs) :
    ∃ names : List Bytes, segs = names.map .name := by
  induction segs with
  | nil => exact ⟨[], rfl⟩
  | cons s rest ih =>
    rw [List.forall_mem_cons] at h
    rw [List.mem_cons, not_or] at hup
    obtain ⟨names, rfl⟩ := ih h.2 hup.2
    rcases h.1 with rfl | ⟨n, -, rfl⟩
    · exact absurd rfl hup.1
    · exact ⟨n :: names, rfl⟩

theorem IsNormal.up_not_mem {p : Path} (h : p.IsNormal) : .up ∉ p.steps := by
  obtain ⟨names, hnames, rfl⟩ := h.eq_ofSegments
  rw [steps_ofSteps fun _ => isStep_of_mem_names hnames]
  simp

theorem up_not_mem_absoluteIn {cwd p : Path} (hcwd : .up ∉ cwd.steps) (hp : .up ∉ p.steps) :
    .up ∉ (absoluteIn cwd p).steps := by
  rw [steps_absoluteIn]
  split
  · exact hp
  · rw [List.mem_append, not_or]
    exact ⟨hcwd, hp⟩

/-- Without parent steps, absolute forms are equal exactly when they spell out one location. -/
theorem sameFrom_iff_location {cwd p q : Path} (habsolute : cwd.isAbsolute = true)
    (hcwd : .up ∉ cwd.steps) (hp : .up ∉ p.steps) (hq : .up ∉ q.steps) :
    SameFrom cwd p q ↔ Disk.location (absoluteIn cwd p) = Disk.location (absoluteIn cwd q) := by
  rw [location_eq_steps, location_eq_steps]
  constructor
  · intro h
    rw [steps_of_beq h]
  · intro hplace
    obtain ⟨names, hnames⟩ :=
      exists_names (fun _ => isStep_of_mem_steps) (up_not_mem_absoluteIn hcwd hp)
    obtain ⟨names', hnames'⟩ :=
      exists_names (fun _ => isStep_of_mem_steps) (up_not_mem_absoluteIn hcwd hq)
    rw [hnames, hnames', Disk.foldl_follow, Disk.foldl_follow, List.nil_append,
      List.nil_append] at hplace
    unfold SameFrom
    rw [beq_iff, segments_of_isAbsolute (isAbsolute_absoluteIn habsolute p),
      segments_of_isAbsolute (isAbsolute_absoluteIn habsolute q), hnames, hnames', hplace]

end Path

end ClassLens
