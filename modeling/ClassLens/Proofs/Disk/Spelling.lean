import ClassLens.Proofs.Disk.Files
import Mathlib.Data.List.Flatten
/-
  Spellings — other ways to write a normal path

  Spare slashes, dots and a slash at the end make another spelling of the same
  path. Such a spelling may be too long to look up, or ask for a directory
  where a file is; but where it leads anywhere, the normal path leads there too.

  What is proved:
    1. `Path.isAbsolute_of_beq` — all spellings of an absolute path are absolute;
    2. `walk_of_pieces` — walking over pieces passes through the names among them;
    3. `find_of_beq`, `file?_of_beq` — what a spelling leads to, the normal
       path leads to.
-/

namespace ClassLens

namespace Text

theorem mem_join_of_mem {α : Type} (sep : List α) {ts : List (List α)} {t : List α} (ht : t ∈ ts)
    {c : α} (hc : c ∈ t) : c ∈ join sep ts := by
  induction ts with
  | nil => cases ht
  | cons u rest ih =>
    cases rest with
    | nil =>
      rw [List.mem_singleton] at ht
      exact ht ▸ hc
    | cons v rest =>
      show c ∈ u ++ sep ++ join sep (v :: rest)
      rcases List.mem_cons.mp ht with rfl | ht
      · exact List.mem_append_left _ (List.mem_append_left _ hc)
      · exact List.mem_append_right _ (ih ht)

theorem mem_of_mem_join {α : Type} {sep : List α} {ts : List (List α)} {c : α}
    (h : c ∈ join sep ts) : c ∈ sep ∨ ∃ t ∈ ts, c ∈ t := by
  induction ts with
  | nil => cases h
  | cons t rest ih =>
    cases rest with
    | nil => exact .inr ⟨t, List.mem_cons_self, h⟩
    | cons u rest =>
      have h : c ∈ t ++ sep ++ join sep (u :: rest) := h
      rw [List.mem_append, List.mem_append] at h
      rcases h with (h | h) | h
      · exact .inr ⟨t, List.mem_cons_self, h⟩
      · exact .inl h
      · rcases ih h with hsep | ⟨v, hv, hc⟩
        · exact .inl hsep
        · exact .inr ⟨v, List.mem_cons_of_mem t hv, hc⟩

/-- A separator behind each piece is one more than there are between them. -/
theorem join_append {α : Type} (sep : List α) {ts : List (List α)} (h : ts ≠ []) :
    join sep ts ++ sep = ts.flatMap (· ++ sep) := by
  induction ts with
  | nil => exact absurd rfl h
  | cons t rest ih =>
    cases rest with
    | nil => simp [join]
    | cons u rest =>
      have hjoin : join sep (t :: u :: rest) = t ++ sep ++ join sep (u :: rest) := rfl
      rw [hjoin, List.append_assoc, ih (by simp)]
      rfl

theorem length_join_le {α : Type} (sep : List α) {ts us : List (List α)} (h : ts.Sublist us) :
    (join sep ts).length ≤ (join sep us).length := by
  by_cases hts : ts = []
  · simp [hts, join]
  · have hus : us ≠ [] := fun hnil => hts (List.sublist_nil.mp (hnil ▸ h))
    have hlength := (h.flatMap (· ++ sep)).length_le
    rw [← join_append sep hts, ← join_append sep hus, List.length_append,
      List.length_append] at hlength
    omega

end Text

namespace Path

theorem pieces_of_isAbsolute {p : Path} (h : p.isAbsolute = true) :
    ∃ rest : List Bytes, rest ≠ [] ∧ p.pieces = [] :: rest ∧
      p.spelling = slash :: Text.join [slash] rest := by
  unfold isAbsolute at h
  cases hspelling : p.spelling with
  | nil => simp [hspelling] at h
  | cons b bytes =>
    have hb : b = slash := by simpa [hspelling] using h
    refine ⟨Text.split (· = slash) bytes, Text.split_ne_nil _ _, ?_, ?_⟩
    · unfold pieces
      simp [hspelling, hb, Text.split]
    · rw [Text.join_split, hb]

theorem isAbsolute_iff {p : Path} : p.isAbsolute = true ↔ p.segments.head? = some .root := by
  constructor
  · intro h
    unfold segments
    rw [if_pos h]
    rfl
  · intro h
    refine Classical.byContradiction fun hnot => ?_
    unfold segments at h
    rw [if_neg hnot] at h
    have hinner : ∀ pieces : List Bytes,
        (pieces.filterMap innerSegment?).head? ≠ some .root := by
      intro pieces hroot
      have hmem := List.mem_of_mem_head? hroot
      obtain ⟨piece, -, hpiece⟩ := List.mem_filterMap.mp hmem
      exact (innerSegment?_ne_root piece).1 hpiece
    split at h
    · split at h
      · cases h
      · exact hinner _ h
    · cases h

theorem sublist_of_filterMap {pieces names : List Bytes}
    (h : pieces.filterMap innerSegment? = names.map .name) : names.Sublist pieces := by
  induction pieces generalizing names with
  | nil =>
    obtain rfl : names = [] := List.map_eq_nil_iff.mp h.symm
    exact List.Sublist.slnil
  | cons piece rest ih =>
    cases hsegment : innerSegment? piece with
    | none =>
      rw [List.filterMap_cons_none hsegment] at h
      exact (ih h).cons piece
    | some segment =>
      rw [List.filterMap_cons_some hsegment] at h
      cases names with
      | nil => cases h
      | cons name names =>
        rw [List.map_cons, List.cons.injEq] at h
        obtain ⟨rfl, hrest⟩ := h
        have hpiece : piece = name := by
          unfold innerSegment? at hsegment
          split at hsegment
          · cases hsegment
          · split at hsegment
            · cases hsegment
            · exact Segment.name.inj (Option.some.inj hsegment)
        rw [hpiece]
        exact (ih hrest).cons_cons name

theorem isAbsolute_of_beq {p q : Path} (h : (p == q) = true) (hq : q.isAbsolute = true) :
    p.isAbsolute = true := by
  rw [isAbsolute_iff] at hq ⊢
  rw [(beq_iff p q).mp h]
  exact hq

end Path

namespace Disk

/-- Walking over pieces passes through the names among them. -/
theorem walk_of_pieces (d : Disk) {pieces names : List Bytes}
    (h : pieces.filterMap Path.innerSegment? = names.map .name) {place spot : Location}
    (hwalk : d.walk place pieces = .ok spot) : d.walk place names = .ok spot := by
  induction pieces generalizing names place with
  | nil =>
    have hnil : names = [] := List.map_eq_nil_iff.mp h.symm
    rw [hnil]
    exact hwalk
  | cons piece rest ih =>
    unfold walk at hwalk
    split at hwalk
    · cases hwalk
    · cases hwalk
    · rename_i changed hplace
      split at hwalk
      · -- an empty piece or a dot names nothing
        rename_i hskip
        have hnone : Path.innerSegment? piece = none := by simp [Path.innerSegment?, hskip]
        rw [List.filterMap_cons_none hnone] at h
        exact ih h hwalk
      · rename_i hskip
        split at hwalk
        · -- a parent step is no name
          rename_i hup
          have hsome : Path.innerSegment? piece = some .up := by
            simp [Path.innerSegment?, hup]
          rw [List.filterMap_cons_some hsome] at h
          cases names <;> cases h
        · rename_i hup
          have hsome : Path.innerSegment? piece = some (.name piece) := by
            simp [Path.innerSegment?, hskip, hup]
          rw [List.filterMap_cons_some hsome] at h
          cases names with
          | nil => cases h
          | cons name names =>
            rw [List.map_cons, List.cons.injEq, Segment.name.injEq] at h
            obtain ⟨rfl, hrest⟩ := h
            split at hwalk
            · cases hwalk
            · rename_i hlong
              split at hwalk
              · cases hwalk
              · rename_i below hbelow
                unfold walk
                simp only [hplace, hskip, hup, hlong, hbelow, if_false]
                exact ih hrest hwalk

/-- What any spelling of a normal path leads to, the normal path leads to. -/
theorem find_of_beq {d : Disk} {p q : Path} (hq : q.IsNormal) (h : (p == q) = true)
    {place : Location} {node : Node} (hfind : d.find p = .ok (place, node)) :
    d.find q = .ok (place, node) := by
  have hp : p.isAbsolute = true := Path.isAbsolute_of_beq h hq.1
  rw [find_eq_ok d hp] at hfind
  obtain ⟨hzero, hlength, hwalk, hnode⟩ := hfind
  have hsegments : p.segments = q.segments := (Path.beq_iff p q).mp h
  obtain ⟨rest, hrest, hpieces, hspelling⟩ := Path.pieces_of_isAbsolute hp
  rw [find_eq_ok d hq.1]
  obtain ⟨names, hnames, rfl⟩ := hq.eq_ofSegments
  have hsplit : rest.filterMap Path.innerSegment? = names.map .name := by
    rw [Path.segments_ofSegments hnames] at hsegments
    unfold Path.segments at hsegments
    rw [if_pos hp, hpieces, List.filterMap_cons_none rfl] at hsegments
    exact (List.cons.inj hsegments).2
  -- the names are pieces, so they hold no other bytes and need no more room
  have hsublist : names.Sublist rest := Path.sublist_of_filterMap hsplit
  have hplain : (Path.ofSegments (.root :: names.map .name)).spelling =
      Path.slash :: Text.join [Path.slash] names := by
    have hbytes : (names.map Segment.name).map Path.segmentBytes = names := by
      rw [List.map_map]
      exact List.map_id names
    show Path.slash :: Text.join _ ((names.map Segment.name).map Path.segmentBytes) = _
    rw [hbytes]
  rw [hspelling] at hzero hlength
  rw [hpieces, walk_empty_piece] at hwalk
  rw [hplain, Path.pieces_ofSegments, walk_empty_piece]
  refine ⟨?_, ?_, ⟨hwalk.1, ?_⟩, hnode⟩
  · simp only [List.contains_eq_mem, decide_eq_false_iff_not, List.mem_cons, not_or] at hzero ⊢
    refine ⟨hzero.1, fun hmem => ?_⟩
    rcases Text.mem_of_mem_join hmem with hslash | ⟨name, hname, hin⟩
    · exact hzero.1 (List.mem_singleton.mp hslash)
    · exact hzero.2 (Text.mem_join_of_mem _ (hsublist.mem hname) hin)
  · have hshorter := Text.length_join_le [Path.slash] hsublist
    simp only [List.length_cons] at hlength ⊢
    omega
  · have hnames_walk := walk_of_pieces d hsplit hwalk.2
    by_cases hnil : names = []
    · -- the root itself: one empty piece, and the root is a directory
      subst hnil
      exact (walk_empty_piece d [] place []).mpr ⟨hwalk.1, hnames_walk⟩
    · rw [Text.split_join hnil fun n hn => (hnames n hn).2.2.2]
      exact hnames_walk

theorem file?_of_beq {d : Disk} {p q : Path} (hq : q.IsNormal) (h : (p == q) = true)
    {file : Content × Int} (hfile : d.file? p = some file) : d.file? q = some file := by
  unfold file? at hfile
  split at hfile
  · rename_i hfind
    unfold file?
    rw [find_of_beq hq h hfind]
    exact hfile
  · cases hfile

theorem read_of_beq {d : Disk} {p q : Path} (hq : q.IsNormal) (h : (p == q) = true)
    {text : Text} (hread : d.read p = .ok text) : d.read q = .ok text := by
  obtain ⟨place, modified, hfind⟩ := read_parts hread
  unfold read
  rw [find_of_beq hq h hfind]
  rfl

end Disk

end ClassLens
