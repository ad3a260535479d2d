import ClassLens.Path.Normal
import ClassLens.Proofs.Text.Split
/-
  Normal paths — one spelling for each place

  An absolute path that normalising leaves as it is names the root and then
  names only. Two such paths that are equal are spelled alike.

  What is proved:
    1. `isStep_of_mem_pieces` — pieces name steps, which are parent steps and
       names; `segments_ofSteps`, `segments_ofSegments` — the plainest path of
       the root and some steps has these as its segments;
    2. `normalSegments_of_isAbsolute` — normalising an absolute path leaves
       the root and names;
    3. `IsNormal.eq_ofSegments`, `IsNormal.eq_of_beq` — the shape of a normal
       path, and that equal ones are the same.
-/

namespace ClassLens

namespace Path

/-- An absolute path in normal form. -/
def IsNormal (p : Path) : Prop := p.isAbsolute = true ∧ p.normalize = p

theorem IsNormal.eq_of_beq {p q : Path} (hp : p.IsNormal) (hq : q.IsNormal)
    (h : (p == q) = true) : p = q := by
  have hsegments : p.segments = q.segments := (beq_iff p q).mp h
  rw [← hp.2, ← hq.2]
  unfold normalize
  rw [hsegments]

/-- The bytes of a name: not empty, no dots alone, and no slash. -/
def IsName (n : Bytes) : Prop := n ≠ [] ∧ n ≠ [dot] ∧ n ≠ [dot, dot] ∧ slash ∉ n

theorem innerSegment?_of_isName {n : Bytes} (h : IsName n) : innerSegment? n = some (.name n) := by
  obtain ⟨hnil, hdot, hup, -⟩ := h
  simp [innerSegment?, hnil, hdot, hup]

theorem isName_of_innerSegment? {piece n : Bytes} (hslash : slash ∉ piece)
    (h : innerSegment? piece = some (.name n)) : IsName n := by
  unfold innerSegment? at h
  split at h
  · cases h
  · rename_i hskip
    split at h
    · cases h
    · rename_i hup
      cases h
      simp only [not_or] at hskip
      exact ⟨hskip.1, hskip.2, hup, hslash⟩

theorem innerSegment?_ne_root (piece : Bytes) :
    innerSegment? piece ≠ some .root ∧ innerSegment? piece ≠ some .here := by
  unfold innerSegment?
  split
  · simp
  · split <;> simp

/-! ## Steps -/

/-- A step goes up, or down to a name. -/
def IsStep (s : Segment) : Prop := s = .up ∨ ∃ n, IsName n ∧ s = .name n

theorem isStep_of_mem_pieces {p : Path} {s : Segment}
    (h : s ∈ p.pieces.filterMap innerSegment?) : IsStep s := by
  obtain ⟨piece, hpiece, hsegment⟩ := List.mem_filterMap.mp h
  have hslash : slash ∉ piece := fun hmem => by
    have hnot := Text.not_of_mem_split hpiece hmem
    simp at hnot
  cases s with
  | root => exact absurd hsegment (innerSegment?_ne_root piece).1
  | here => exact absurd hsegment (innerSegment?_ne_root piece).2
  | up => exact .inl rfl
  | name n => exact .inr ⟨n, isName_of_innerSegment? hslash hsegment, rfl⟩

theorem isStep_of_mem_names {names : List Bytes} (h : ∀ n ∈ names, IsName n) {s : Segment}
    (hs : s ∈ names.map .name) : IsStep s := by
  obtain ⟨n, hn, rfl⟩ := List.mem_map.mp hs
  exact .inr ⟨n, h n hn, rfl⟩

theorem IsStep.isName {n : Bytes} (h : IsStep (.name n)) : IsName n := by
  rcases h with hup | ⟨m, hm, hname⟩
  · cases hup
  · cases hname
    exact hm

theorem IsStep.innerSegment? {s : Segment} (h : IsStep s) :
    Path.innerSegment? (segmentBytes s) = some s := by
  rcases h with rfl | ⟨n, hn, rfl⟩
  · rfl
  · exact innerSegment?_of_isName hn

theorem IsStep.slash_not_mem {s : Segment} (h : IsStep s) : slash ∉ segmentBytes s := by
  rcases h with rfl | ⟨n, hn, rfl⟩
  · decide
  · exact hn.2.2.2

theorem filterMap_segmentBytes {segs : List Segment} (h : ∀ s ∈ segs, IsStep s) :
    (segs.map segmentBytes).filterMap innerSegment? = segs := by
  induction segs with
  | nil => rfl
  | cons s rest ih =>
    rw [List.forall_mem_cons] at h
    rw [List.map_cons, List.filterMap_cons_some h.1.innerSegment?, ih h.2]

theorem pieces_ofSteps (segs : List Segment) :
    (ofSegments (.root :: segs)).pieces =
      [] :: Text.split (· = slash) (Text.join [slash] (segs.map segmentBytes)) := by
  show Text.split _ (slash :: Text.join [slash] (segs.map segmentBytes)) = _
  simp [Text.split]

theorem pieces_ofSegments (names : List Bytes) :
    (ofSegments (.root :: names.map .name)).pieces =
      [] :: Text.split (· = slash) (Text.join [slash] names) := by
  have hbytes : (names.map Segment.name).map segmentBytes = names := by
    rw [List.map_map]
    exact List.map_id names
  rw [pieces_ofSteps, hbytes]

/-- The plainest path of the root and some steps has these as its segments. -/
theorem segments_ofSteps {segs : List Segment} (h : ∀ s ∈ segs, IsStep s) :
    (ofSegments (.root :: segs)).segments = .root :: segs := by
  have habsolute : (ofSegments (.root :: segs)).isAbsolute = true := rfl
  have hempty : Path.innerSegment? [] = none := rfl
  unfold segments
  rw [if_pos habsolute, pieces_ofSteps, List.filterMap_cons_none hempty]
  congr 1
  by_cases hnil : segs = []
  · rw [hnil]
    rfl
  · have hslashes : ∀ bytes ∈ segs.map segmentBytes, slash ∉ bytes := by
      intro bytes hbytes
      obtain ⟨s, hs, rfl⟩ := List.mem_map.mp hbytes
      exact (h s hs).slash_not_mem
    rw [Text.split_join (by simpa using hnil) hslashes]
    exact filterMap_segmentBytes h

theorem segments_ofSegments {names : List Bytes} (h : ∀ n ∈ names, IsName n) :
    (ofSegments (.root :: names.map .name)).segments = .root :: names.map .name :=
  segments_ofSteps fun _ => isStep_of_mem_names h

/-! ## Folding -/

/-- What folding makes of a stack of names above the root. -/
theorem foldl_fold {segs : List Segment} (hsegs : ∀ s ∈ segs, IsStep s) (stack : List Bytes)
    (hstack : ∀ n ∈ stack, IsName n) :
    ∃ names : List Bytes, (∀ n ∈ names, IsName n) ∧
      segs.foldl fold (stack.map .name ++ [.root]) = names.map .name ++ [.root] := by
  induction segs generalizing stack with
  | nil => exact ⟨stack, hstack, rfl⟩
  | cons s rest ih =>
    have hrest : ∀ s ∈ rest, IsStep s := fun s hs => hsegs s (List.mem_cons_of_mem _ hs)
    rw [List.foldl_cons]
    rcases hsegs s List.mem_cons_self with rfl | ⟨n, hn, rfl⟩
    · -- a parent step takes one name back, and nothing from the root
      cases stack with
      | nil => exact ih hrest [] (by simp)
      | cons m stack => exact ih hrest stack fun k hk => hstack k (List.mem_cons_of_mem m hk)
    · have hpush : ∀ k ∈ n :: stack, IsName k := by
        intro k hk
        rcases List.mem_cons.mp hk with rfl | hk
        · exact hn
        · exact hstack k hk
      exact ih hrest (n :: stack) hpush

theorem normalSegments_of_isAbsolute {p : Path} (h : p.isAbsolute = true) :
    ∃ names : List Bytes,
      (∀ n ∈ names, IsName n) ∧ normalSegments p.segments = .root :: names.map .name := by
  have hsegs : ∀ s ∈ p.pieces.filterMap innerSegment?, IsStep s := fun _ => isStep_of_mem_pieces
  obtain ⟨names, hnames, hfold⟩ := foldl_fold hsegs [] (by simp)
  refine ⟨names.reverse, fun n hn => hnames n (List.mem_reverse.mp hn), ?_⟩
  unfold normalSegments segments
  rw [if_pos h, List.foldl_cons]
  show (List.foldl fold [.root] _).reverse = _
  rw [show ([.root] : List Segment) = ([] : List Bytes).map .name ++ [.root] from rfl, hfold]
  simp

/-- A normal path is the plainest one of the root and some names. -/
theorem IsNormal.eq_ofSegments {p : Path} (h : p.IsNormal) :
    ∃ names : List Bytes, (∀ n ∈ names, IsName n) ∧ p = ofSegments (.root :: names.map .name) := by
  obtain ⟨names, hnames, hsegs⟩ := normalSegments_of_isAbsolute h.1
  refine ⟨names, hnames, ?_⟩
  rw [← hsegs]
  exact h.2.symm

end Path

end ClassLens
