import ClassLens.Proofs.Disk.Spelling
/-
  Reaching — where a path leads, if it leads anywhere

  A walk can fail in many ways, and then the spelling matters. A walk that
  succeeds ends where following the segments of the path ends, whatever the
  spelling. A slash at the end of a path asks for a directory, so no path to a
  file ends in one.

  What is proved:
    1. `walk_place` — a walk that succeeds ends where its segments lead;
    2. `find_eq_of_beq`, `read_eq_of_beq` — spellings of one path that lead
       anywhere lead to the same node;
    3. `isFile_spelling` — a path to a file does not end in a slash;
    4. `Proper` — names on a disk are names, and each location has one node;
       every change of a disk keeps this;
    5. `exists_names_below`, `filesBelow_spelling` — files found below a directory
       of such a disk are spelled with names behind it, so without a slash at
       the end.
-/

namespace ClassLens

namespace Path

/-- The segments that the pieces of a path name, wherever the path starts. -/
def steps (p : Path) : List Segment := p.pieces.filterMap innerSegment?

/-- Segments without the mark in front that says where a path starts. -/
def unmarked : List Segment → List Segment
  | .root :: rest => rest
  | .here :: rest => rest
  | segments => segments

theorem unmarked_filterMap (pieces : List Bytes) :
    unmarked (pieces.filterMap innerSegment?) = pieces.filterMap innerSegment? := by
  unfold unmarked
  split
  · rename_i rest hroot
    have hmem : Segment.root ∈ pieces.filterMap innerSegment? := by simp [hroot]
    obtain ⟨piece, -, hpiece⟩ := List.mem_filterMap.mp hmem
    exact absurd hpiece (innerSegment?_ne_root piece).1
  · rename_i rest hhere
    have hmem : Segment.here ∈ pieces.filterMap innerSegment? := by simp [hhere]
    obtain ⟨piece, -, hpiece⟩ := List.mem_filterMap.mp hmem
    exact absurd hpiece (innerSegment?_ne_root piece).2
  · rfl

theorem unmarked_segments (p : Path) : unmarked p.segments = p.steps := by
  unfold segments steps
  by_cases habsolute : p.isAbsolute = true
  · rw [if_pos habsolute]
    rfl
  · rw [if_neg habsolute]
    cases hpieces : p.pieces with
    | nil => rfl
    | cons first rest =>
      by_cases hdot : first = [dot]
      · have hnone : innerSegment? first = none := by simp [innerSegment?, hdot]
        simp only [hdot, if_true]
        rw [← hdot, List.filterMap_cons_none hnone]
        rfl
      · simp only [hdot, if_false]
        exact unmarked_filterMap (first :: rest)

theorem isStep_of_mem_steps {p : Path} {s : Segment} (h : s ∈ p.steps) : IsStep s :=
  isStep_of_mem_pieces h

theorem isAbsolute_of_slash_not_mem {bytes : Bytes} (h : slash ∉ bytes) :
    isAbsolute ⟨bytes⟩ = false := by
  apply Bool.eq_false_iff.mpr
  intro hhead
  exact h (List.mem_of_mem_head? (eq_of_beq hhead))

theorem steps_of_beq {p q : Path} (h : (p == q) = true) : p.steps = q.steps := by
  rw [← unmarked_segments, ← unmarked_segments, (beq_iff p q).mp h]

theorem split_slash (a b : Bytes) :
    Text.split (· = slash) (a ++ slash :: b) =
      Text.split (· = slash) a ++ Text.split (· = slash) b := by
  induction a with
  | nil => simp [Text.split]
  | cons c a ih =>
    obtain ⟨piece, rest, hsplit⟩ := List.exists_cons_of_ne_nil (Text.split_ne_nil (· = slash) a)
    rw [hsplit] at ih
    by_cases hc : c = slash <;> simp [Text.split, hc, hsplit, ih]

theorem pieces_double (p : Path) : p.double.pieces = [] :: p.pieces := by
  show Text.split (· = slash) (slash :: p.spelling) = _
  simp [Text.split, pieces]

theorem isAbsolute_congr {p q : Path} (h : (p == q) = true) : p.isAbsolute = q.isAbsolute := by
  rw [Bool.eq_iff_iff]
  exact ⟨isAbsolute_of_beq (BEq.symm h), isAbsolute_of_beq h⟩

theorem steps_join (p : Path) {q : Path} (hq : q.isAbsolute = false) :
    (p.join q.spelling).steps = p.steps ++ q.steps := by
  unfold join
  rw [show (q.spelling.head? == some slash) = false from hq]
  simp only [Bool.false_eq_true, if_false]
  split
  · rename_i hends
    rcases hends with hnil | hlast
    · unfold steps pieces
      rw [hnil]
      rfl
    · obtain ⟨before, hbefore⟩ := List.getLast?_eq_some_iff.mp hlast
      unfold steps pieces
      simp only [hbefore, List.append_assoc, List.singleton_append, split_slash,
        List.filterMap_append]
      rfl
  · unfold steps pieces
    simp only [split_slash, List.filterMap_append]

end Path

namespace Disk

variable {d : Disk}

/-! ## Walks that succeed -/

/-- A walk that succeeds ends where the segments of its pieces lead. -/
theorem walk_place {pieces : List Bytes} {place spot : Location}
    (h : d.walk place pieces = .ok spot) :
    spot = (pieces.filterMap Path.innerSegment?).foldl follow place := by
  induction pieces generalizing place with
  | nil =>
    cases h
    rfl
  | cons piece rest ih =>
    unfold walk at h
    split at h
    · cases h
    · cases h
    · split at h
      · rename_i hskip
        have hnone : Path.innerSegment? piece = none := by simp [Path.innerSegment?, hskip]
        rw [List.filterMap_cons_none hnone]
        exact ih h
      · rename_i hskip
        split at h
        · rename_i hup
          have hsome : Path.innerSegment? piece = some .up := by simp [Path.innerSegment?, hup]
          rw [List.filterMap_cons_some hsome]
          exact ih h
        · rename_i hup
          have hsome : Path.innerSegment? piece = some (.name piece) := by
            simp [Path.innerSegment?, hskip, hup]
          rw [List.filterMap_cons_some hsome]
          split at h
          · cases h
          · split at h
            · cases h
            · exact ih h

theorem walk_append (d : Disk) (place : Location) (pieces rest : List Bytes) :
    d.walk place (pieces ++ rest) = (d.walk place pieces).bind fun spot => d.walk spot rest := by
  generalize hgo : (fun spot => d.walk spot rest) = go
  induction pieces generalizing place with
  | nil =>
    rw [← hgo]
    rfl
  | cons piece pieces ih =>
    rw [List.cons_append]
    unfold walk
    split
    · rfl
    · rfl
    · simp only [ih]
      split
      · rfl
      · split
        · rfl
        · split
          · rfl
          · split <;> rfl

/-- The path that is walked: a relative one is seen from the working directory. -/
def whole (d : Disk) (p : Path) : Path := if p.isAbsolute then p else d.cwd.join p.spelling

theorem find_eq (d : Disk) (p : Path) :
    d.find p = (do
      if p.spelling.contains 0 then throw .nullByte
      if p.spelling = [] then throw .notFound
      if p.spelling.length > maxPathBytes then throw .nameTooLong
      let place ← d.walk [] (d.whole p).pieces
      match d.node? place with
      | some n => return (place, n)
      | none => throw .notFound) := rfl

theorem find_parts {p : Path} {place : Location} {node : Node}
    (h : d.find p = .ok (place, node)) :
    p.spelling ≠ [] ∧ d.walk [] (d.whole p).pieces = .ok place ∧ d.node? place = some node := by
  rw [find_eq] at h
  by_cases hzero : p.spelling.contains 0 = true
  · rw [if_pos hzero] at h
    cases h
  · rw [if_neg hzero] at h
    by_cases hnil : p.spelling = []
    · rw [if_pos hnil] at h
      cases h
    · rw [if_neg hnil] at h
      by_cases hlong : p.spelling.length > maxPathBytes
      · rw [if_pos hlong] at h
        cases h
      · rw [if_neg hlong] at h
        cases hwalk : d.walk [] (d.whole p).pieces with
        | error cause =>
          rw [hwalk] at h
          cases h
        | ok spot =>
          rw [hwalk] at h
          cases hnode : d.node? spot with
          | none =>
            simp only [bind, Except.bind, hnode] at h
            cases h
          | some found =>
            simp only [bind, pure, Except.bind, Except.pure, hnode] at h
            cases h
            exact ⟨hnil, rfl, hnode⟩

/-- Spellings of one path that lead anywhere lead to the same node. -/
theorem find_eq_of_beq {p q : Path} (h : (p == q) = true) {a b : Location × Node}
    (hp : d.find p = .ok a) (hq : d.find q = .ok b) : a = b := by
  obtain ⟨place, node⟩ := a
  obtain ⟨spot, other⟩ := b
  obtain ⟨-, hwalkp, hnodep⟩ := find_parts hp
  obtain ⟨-, hwalkq, hnodeq⟩ := find_parts hq
  have hsteps : (d.whole p).steps = (d.whole q).steps := by
    unfold whole
    rw [Path.isAbsolute_congr h]
    cases hrelative : q.isAbsolute with
    | true => exact Path.steps_of_beq h
    | false =>
      have hrelative' : p.isAbsolute = false := (Path.isAbsolute_congr h).trans hrelative
      simp only [Bool.false_eq_true, if_false]
      rw [Path.steps_join _ hrelative', Path.steps_join _ hrelative, Path.steps_of_beq h]
  have hplace : place = spot := by
    calc place = (d.whole p).steps.foldl follow [] := walk_place hwalkp
      _ = (d.whole q).steps.foldl follow [] := by rw [hsteps]
      _ = spot := (walk_place hwalkq).symm
  subst hplace
  rw [hnodep] at hnodeq
  rw [Option.some.inj hnodeq]

theorem read_eq_of_beq {p q : Path} (h : (p == q) = true) {s t : Text} (hp : d.read p = .ok s)
    (hq : d.read q = .ok t) : s = t := by
  obtain ⟨place, modified, hfindp⟩ := read_parts hp
  obtain ⟨spot, other, hfindq⟩ := read_parts hq
  have hsame := find_eq_of_beq h hfindp hfindq
  simp only [Prod.mk.injEq, Node.file.injEq, Content.text.injEq] at hsame
  exact hsame.2.1

/-! ## Paths to files -/

/-- A path to a file does not end in a slash, which asks for a directory. -/
theorem isFile_spelling {p : Path} (h : d.isFile p = true) :
    p.spelling.getLast? ≠ some Path.slash := by
  intro hlast
  unfold isFile at h
  split at h
  · rename_i place content modified hfind
    obtain ⟨hnil, hwalk, hnode⟩ := find_parts hfind
    obtain ⟨before, hbefore⟩ := List.getLast?_eq_some_iff.mp hlast
    have hends : ∃ front, (d.whole p).spelling = front ++ [Path.slash] := by
      unfold whole
      split
      · exact ⟨before, hbefore⟩
      · rename_i hrelative
        unfold Path.join
        rw [if_neg (by simpa [Path.isAbsolute] using hrelative)]
        split
        · exact ⟨d.cwd.spelling ++ before, by simp [hbefore]⟩
        · exact ⟨d.cwd.spelling ++ Path.slash :: before, by simp [hbefore]⟩
    obtain ⟨front, hfront⟩ := hends
    unfold Path.pieces at hwalk
    rw [hfront, Path.split_slash, walk_append] at hwalk
    cases hstart : d.walk [] (Text.split (· = Path.slash) front) with
    | error cause =>
      rw [hstart] at hwalk
      cases hwalk
    | ok spot =>
      rw [hstart] at hwalk
      obtain ⟨⟨changed, hdirectory⟩, hrest⟩ := (walk_empty_piece d spot place []).mp hwalk
      cases hrest
      rw [hdirectory] at hnode
      cases hnode
  · cases h

/-! ## Proper disks -/

/-- All names on the way to a location are names. -/
def IsNamed (place : Location) : Prop := ∀ n ∈ place, Path.IsName n

/-- Every location has one node, and names on the way to it that are names. -/
structure Proper (d : Disk) : Prop where
  distinct : d.nodes.Distinct
  named : ∀ e ∈ d.nodes.entries, IsNamed e.1

theorem IsNamed.dropLast {place : Location} (h : IsNamed place) : IsNamed place.dropLast :=
  fun n hn => h n (List.dropLast_subset place hn)

theorem isName_of_mem_segments {p : Path} {n : Bytes} (h : .name n ∈ p.segments) :
    Path.IsName n := by
  have hstep : .name n ∈ p.steps := by
    rw [← Path.unmarked_segments]
    unfold Path.unmarked
    split
    · rename_i rest hroot
      rw [hroot] at h
      simpa using h
    · rename_i rest hhere
      rw [hhere] at h
      simpa using h
    · exact h
  exact (Path.isStep_of_mem_steps hstep).isName

theorem IsNamed.follow {place : Location} (h : IsNamed place) {segment : Segment}
    (hsegment : ∀ n, segment = .name n → Path.IsName n) : IsNamed (follow place segment) := by
  cases segment with
  | name n =>
    intro m hm
    rcases List.mem_append.mp hm with hm | hm
    · exact h m hm
    · rw [List.mem_singleton.mp hm]
      exact hsegment n rfl
  | up => exact h.dropLast
  | root => exact h
  | here => exact h

theorem IsNamed.foldl_follow {segments : List Segment} {place : Location} (h : IsNamed place)
    (hsegments : ∀ n, .name n ∈ segments → Path.IsName n) :
    IsNamed (segments.foldl Disk.follow place) := by
  induction segments generalizing place with
  | nil => exact h
  | cons segment rest ih =>
    refine ih (h.follow fun n hn => ?_) fun n hn => hsegments n (List.mem_cons_of_mem _ hn)
    exact hsegments n (hn ▸ List.mem_cons_self)

theorem IsNamed.waypoints {segments : List Segment} {place spot : Location} (h : IsNamed place)
    (hsegments : ∀ n, .name n ∈ segments → Path.IsName n)
    (hspot : spot ∈ waypoints place segments) : IsNamed spot := by
  induction segments generalizing place with
  | nil => cases hspot
  | cons segment rest ih =>
    rcases List.mem_cons.mp hspot with rfl | hspot
    · exact h
    · refine ih (h.follow fun n hn => ?_) (fun n hn => hsegments n (List.mem_cons_of_mem _ hn))
        hspot
      exact hsegments n (hn ▸ List.mem_cons_self)

theorem isNamed_nil : IsNamed [] := fun n hn => by cases hn

theorem isNamed_location (p : Path) : IsNamed (location p) :=
  isNamed_nil.foldl_follow fun _ => isName_of_mem_segments

theorem Proper.insert (h : d.Proper) {spot : Location} (hspot : IsNamed spot) (node : Node)
    (changes : Nat) : Proper ⟨d.nodes.insert spot node, d.cwd, changes⟩ where
  distinct := Table.distinct_insert h.distinct spot node
  named := by
    intro e he
    rcases Table.key_of_mem_put he with hkey | ⟨e', he', hkey⟩
    · rw [hkey]
      exact hspot
    · rw [← hkey]
      exact h.named e' he'

theorem Proper.putAt (h : d.Proper) {spot : Location} (hspot : IsNamed spot) (node : Node) :
    (d.putAt spot node).Proper := by
  unfold Disk.putAt
  simp only
  split
  · exact h.insert hspot node _
  · exact (h.insert hspot.dropLast _ _).insert hspot node _

theorem Proper.addDirectory (h : d.Proper) {spot : Location} (hspot : IsNamed spot) :
    (d.addDirectory spot).Proper := by
  unfold Disk.addDirectory
  split
  · exact h
  · exact h.putAt hspot _

theorem Proper.addParents (h : d.Proper) (p : Path) : (d.addParents p).Proper := by
  unfold Disk.addParents
  refine List.foldlRecOn _ _ h fun d' h' spot hspot => h'.addDirectory ?_
  exact isNamed_nil.waypoints (fun _ => isName_of_mem_segments) hspot

theorem proper_empty : empty.Proper where
  distinct := Table.distinct_insert Table.distinct_empty _ _
  named := by
    intro e he
    rw [List.mem_singleton.mp he]
    exact isNamed_nil

theorem Proper.write (h : d.Proper) (p : Path) (content : Content) (modified : Int) :
    (d.write p content modified).Proper := (h.addParents p).putAt (isNamed_location p) _

theorem Proper.makeDirectory (h : d.Proper) (p : Path) : (d.makeDirectory p).Proper :=
  (h.addParents p).addDirectory (isNamed_location p)

theorem Proper.remove (h : d.Proper) (p : Path) : (d.remove p).Proper := by
  unfold Disk.remove
  simp only
  split
  · exact h
  · have hleft : Proper { d with
        nodes := ⟨d.nodes.entries.filter fun e => !(location p).isPrefixOf e.1⟩ } :=
      ⟨Table.distinct_filter h.distinct _, fun e he => h.named e (List.mem_filter.mp he).1⟩
    exact hleft.insert (isNamed_location p).dropLast _ _

theorem getLast?_join (p : Path) {n : Bytes} (hn : Path.IsName n) :
    (p.join n).spelling.getLast? ≠ some Path.slash := by
  obtain ⟨hnil, -, -, hslash⟩ := hn
  have hhead : (n.head? == some Path.slash) = false := Path.isAbsolute_of_slash_not_mem hslash
  have hlast : n.getLast? ≠ some Path.slash :=
    fun hlast => hslash (List.mem_of_mem_getLast? hlast)
  have hends : ∀ front : Bytes, (front ++ n).getLast? ≠ some Path.slash := by
    intro front
    rw [List.getLast?_append, Option.or_of_isSome (by simpa using hnil)]
    exact hlast
  unfold Path.join
  rw [hhead]
  simp only [Bool.false_eq_true, if_false]
  split
  · exact hends _
  · rw [← List.singleton_append, ← List.append_assoc]
    exact hends _

/-- A file below a directory of a proper disk is spelled as the directory with names
behind it. It is not at the place of the directory, so there is such a name. -/
theorem Proper.exists_names_below (h : d.Proper) {p f : Path} (hf : f ∈ d.filesBelow p) :
    p.spelling ≠ [] ∧ ∃ names : List Bytes, names ≠ [] ∧ (∀ n ∈ names, Path.IsName n) ∧
      f = names.foldl Path.join p := by
  unfold filesBelow at hf
  split at hf
  · rename_i place changed hfind
    obtain ⟨⟨l, node⟩, hentry, hsome⟩ := List.mem_filterMap.mp hf
    cases node with
    | directory changed => cases hsome
    | file content modified =>
      simp only at hsome
      split at hsome
      · rename_i hbelow
        cases hsome
        obtain ⟨hspelling, -, hnode⟩ := find_parts hfind
        have hne : l.drop place.length ≠ [] := by
          intro hnil
          have hplace : l = place := by
            obtain ⟨rest, rfl⟩ := List.isPrefixOf_iff_prefix.mp hbelow
            rw [List.drop_left] at hnil
            rw [hnil, List.append_nil]
          unfold node? at hnode
          rw [Table.get?_of_mem h.distinct hentry (beq_iff_eq.mpr hplace)] at hnode
          cases hnode
        exact ⟨hspelling, _, hne, fun n hn => h.named _ hentry n (List.mem_of_mem_drop hn), rfl⟩
      · cases hsome
  · cases hf

theorem Proper.filesBelow_spelling (h : d.Proper) {p f : Path} (hf : f ∈ d.filesBelow p) :
    f.spelling.getLast? ≠ some Path.slash := by
  obtain ⟨-, names, hne, hnames, rfl⟩ := h.exists_names_below hf
  rw [← List.dropLast_concat_getLast hne, List.foldl_append]
  exact getLast?_join _ (hnames _ (List.getLast_mem hne))

end Disk

theorem Path.plainIn_of_beq (cwd : Path) {p q : Path} (h : (p == q) = true)
    (hp : p.spelling.getLast? ≠ some slash) (hq : q.spelling.getLast? ≠ some slash) :
    plainIn cwd p = plainIn cwd q := by
  unfold plainIn
  simp only [(beq_iff p q).mp h, isAbsolute_congr h, beq_iff_eq, hp, hq]

end ClassLens
