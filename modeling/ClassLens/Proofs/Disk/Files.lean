import ClassLens.Proofs.Path.Normal
import ClassLens.Proofs.Table
import ClassLens.Disk
/-
  Files — what the disk holds at normal paths

  A normal path leads to a file exactly when the file is at the location the
  path spells out and there are directories all the way to it. So a change at
  one location is seen at the one normal path that spells it, and nowhere else.

  What is proved:
    1. `file?_eq_some` — what a normal path leads to, without walking;
    2. `location_injective` — different normal paths spell different locations;
    3. `alteredAt_write`, `alteredAt_remove` — writing or removing a file
       alters the disk at its path only.
-/

namespace ClassLens

namespace Disk

/-- What the file that a path leads to holds, and the time it bears. -/
def file? (d : Disk) (p : Path) : Option (Content × Int) :=
  match d.find p with
  | .ok (_, .file content modified) => some (content, modified)
  | _ => none

theorem read_parts {d : Disk} {p : Path} {text : Text} (h : d.read p = .ok text) :
    ∃ place modified, d.find p = .ok (place, .file (.text text) modified) := by
  unfold read at h
  cases hfind : d.find p with
  | error cause =>
    rw [hfind] at h
    cases h
  | ok found =>
    obtain ⟨place, node⟩ := found
    rw [hfind] at h
    cases node with
    | directory changed => cases h
    | file content modified =>
      cases content with
      | binary => cases h
      | text chars =>
        cases h
        exact ⟨place, modified, rfl⟩

/-- At all normal paths but `p` two disks hold the same files. -/
def AlteredAt (p : Path) (d d' : Disk) : Prop :=
  ∀ q : Path, q.IsNormal → (q == p) = false → d'.file? q = d.file? q

/-- There is a directory at a location. -/
def HasDirectory (d : Disk) (place : Location) : Prop := ∃ n, d.node? place = some (.directory n)

/-- A path is short enough to be looked up, and so are its names. -/
def Fits (p : Path) : Prop :=
  p.spelling.contains 0 = false ∧ p.spelling.length ≤ maxPathBytes ∧
    ∀ n ∈ location p, n.length ≤ maxNameBytes

/-! ## Locations of normal paths -/

theorem foldl_follow (place : Location) (names : List Bytes) :
    (names.map Segment.name).foldl follow place = place ++ names := by
  induction names generalizing place with
  | nil => simp
  | cons n rest ih =>
    rw [List.map_cons, List.foldl_cons, ih]
    simp [follow]

theorem location_ofSegments {names : List Bytes} (h : ∀ n ∈ names, Path.IsName n) :
    location (Path.ofSegments (.root :: names.map .name)) = names := by
  unfold location
  rw [Path.segments_ofSegments h, List.foldl_cons]
  exact foldl_follow [] names

theorem location_injective {p q : Path} (hp : p.IsNormal) (hq : q.IsNormal)
    (h : location p = location q) : p = q := by
  obtain ⟨names, hnames, rfl⟩ := hp.eq_ofSegments
  obtain ⟨others, hothers, rfl⟩ := hq.eq_ofSegments
  rw [location_ofSegments hnames, location_ofSegments hothers] at h
  rw [h]

/-! ## Walking over names -/

/-- Walking over names reaches the node below exactly when there are directories all the way. -/
theorem walk_names (d : Disk) {names : List Bytes} (h : ∀ n ∈ names, Path.IsName n)
    (place spot : Location) (node : Node) :
    d.walk place names = .ok spot ∧ d.node? spot = some node ↔
      spot = place ++ names ∧ (∀ n ∈ names, n.length ≤ maxNameBytes) ∧
        (∀ i < names.length, d.HasDirectory (place ++ names.take i)) ∧
        d.node? spot = some node := by
  induction names generalizing place with
  | nil =>
    simp only [walk, Except.ok.injEq]
    constructor
    · rintro ⟨rfl, hnode⟩
      simp [hnode]
    · rintro ⟨rfl, -, -, hnode⟩
      exact ⟨(List.append_nil place).symm, hnode⟩
  | cons n rest ih =>
    obtain ⟨hnil, hdot, hup, -⟩ := h n List.mem_cons_self
    have ih := ih (fun m hm => h m (List.mem_cons_of_mem n hm)) (place ++ [n])
    -- the first name asks for a directory here, the others for directories below it
    have hsteps : (∀ i < (n :: rest).length, d.HasDirectory (place ++ (n :: rest).take i)) ↔
        d.HasDirectory place ∧
          ∀ i < rest.length, d.HasDirectory (place ++ [n] ++ rest.take i) := by
      constructor
      · intro hall
        refine ⟨by simpa using hall 0 (by simp), fun i hi => ?_⟩
        simpa using hall (i + 1) (by simpa using hi)
      · rintro ⟨hhere, hbelow⟩ i hi
        cases i with
        | zero => simpa using hhere
        | succ i => simpa using hbelow i (by simpa using hi)
    rw [hsteps]
    unfold walk
    simp only [hnil, hdot, hup, or_self, if_false, List.forall_mem_cons]
    cases hplace : d.node? place with
    | none => simp [HasDirectory, hplace]
    | some here =>
      cases here with
      | file content modified => simp [HasDirectory, hplace]
      | directory changed =>
        have hhere : d.HasDirectory place := ⟨changed, hplace⟩
        by_cases hlong : n.length > maxNameBytes
        · simp only [hlong, if_true]
          constructor
          · rintro ⟨herror, -⟩
            cases herror
          · rintro ⟨-, ⟨hshort, -⟩, -⟩
            omega
        · simp only [hlong, if_false]
          cases hbelow : d.node? (place ++ [n]) with
          | none =>
            -- there is nothing below, so neither a directory to go on from nor the node
            refine ⟨fun hfail => absurd hfail.1 (by simp), ?_⟩
            rintro ⟨rfl, -, ⟨-, hdirs⟩, hnode⟩
            cases rest with
            | nil =>
              rw [hbelow] at hnode
              cases hnode
            | cons m rest =>
              obtain ⟨k, hk⟩ := hdirs 0 (by simp)
              simp [hbelow] at hk
          | some below =>
            simp only
            rw [ih, List.append_assoc, List.singleton_append]
            constructor
            · rintro ⟨hspot, hshort, hdirs, hnode⟩
              exact ⟨hspot, ⟨by omega, hshort⟩, ⟨hhere, hdirs⟩, hnode⟩
            · rintro ⟨hspot, ⟨-, hshort⟩, ⟨-, hdirs⟩, hnode⟩
              exact ⟨hspot, hshort, hdirs, hnode⟩

theorem find_eq_ok (d : Disk) {p : Path} (h : p.isAbsolute = true) (place : Location)
    (node : Node) :
    d.find p = .ok (place, node) ↔
      p.spelling.contains 0 = false ∧ p.spelling.length ≤ maxPathBytes ∧
        d.walk [] p.pieces = .ok place ∧ d.node? place = some node := by
  have hne : p.spelling ≠ [] := fun hnil => by simp [Path.isAbsolute, hnil] at h
  unfold find
  simp only [h, if_true, hne, if_false]
  by_cases hzero : p.spelling.contains 0 = true
  · simp only [hzero, if_true]
    constructor
    · intro hfail
      cases hfail
    · rintro ⟨hnot, -⟩
      cases hnot
  · simp only [hzero, Bool.false_eq_true, if_false]
    by_cases hlong : p.spelling.length > maxPathBytes
    · simp only [hlong, if_true]
      constructor
      · intro hfail
        cases hfail
      · rintro ⟨-, hshort, -⟩
        omega
    · simp only [hlong, if_false]
      cases hwalk : d.walk [] p.pieces with
      | error cause => simp [bind, Except.bind]
      | ok spot =>
        cases hspot : d.node? spot with
        | none =>
          simp only [bind, Except.bind, hspot, Except.ok.injEq]
          constructor
          · intro hfail
            cases hfail
          · rintro ⟨-, -, rfl, hnode⟩
            rw [hspot] at hnode
            cases hnode
        | some found =>
          simp only [bind, Except.bind, hspot, pure, Except.pure, Except.ok.injEq, Prod.mk.injEq]
          constructor
          · rintro ⟨rfl, rfl⟩
            exact ⟨by simp, by omega, rfl, hspot⟩
          · rintro ⟨-, -, rfl, hnode⟩
            rw [hspot] at hnode
            exact ⟨rfl, Option.some.inj hnode⟩

theorem walk_empty_piece (d : Disk) (place spot : Location) (rest : List Bytes) :
    d.walk place ([] :: rest) = .ok spot ↔ d.HasDirectory place ∧ d.walk place rest = .ok spot := by
  cases hplace : d.node? place with
  | none => simp [walk, HasDirectory, hplace]
  | some here => cases here <;> simp [walk, HasDirectory, hplace]

/-- A normal path leads to the file at its location if there are directories all the way. -/
theorem file?_eq_some (d : Disk) {p : Path} (h : p.IsNormal) (content : Content) (modified : Int) :
    d.file? p = some (content, modified) ↔
      Fits p ∧ location p ≠ [] ∧
        (∀ i < (location p).length, d.HasDirectory ((location p).take i)) ∧
        d.node? (location p) = some (.file content modified) := by
  have hfind : d.file? p = some (content, modified) ↔
      ∃ place, d.find p = .ok (place, .file content modified) := by
    unfold file?
    split
    · rename_i hok
      simp only [hok, Option.some.injEq, Prod.mk.injEq, Except.ok.injEq, Node.file.injEq]
      exact ⟨fun heq => ⟨_, rfl, heq⟩, fun ⟨_, _, heq⟩ => heq⟩
    · rename_i hother
      simp only [reduceCtorEq, false_iff, not_exists]
      exact fun place hok => hother _ _ _ hok
  rw [hfind]
  simp only [find_eq_ok d h.1]
  obtain ⟨names, hnames, rfl⟩ := h.eq_ofSegments
  unfold Fits
  rw [location_ofSegments hnames, Path.pieces_ofSegments]
  simp only [walk_empty_piece]
  by_cases hnil : names = []
  · -- the root is a directory or leads nowhere, in no case to a file
    subst hnil
    have hsplit : Text.split (· = Path.slash) (Text.join [Path.slash] []) = [[]] := rfl
    simp only [hsplit, walk_empty_piece, ne_eq, not_true_eq_false, false_and, and_false, iff_false]
    rintro ⟨place, -, -, ⟨-, ⟨k, hroot⟩, hwalk⟩, hnode⟩
    simp only [walk, Except.ok.injEq] at hwalk
    rw [← hwalk, hroot] at hnode
    cases hnode
  · rw [Text.split_join hnil fun n hn => (hnames n hn).2.2.2]
    constructor
    · rintro ⟨place, hzero, hshort, ⟨-, hwalk⟩, hnode⟩
      obtain ⟨rfl, hshorts, hdirs, hspot⟩ := (walk_names d hnames [] place _).mp ⟨hwalk, hnode⟩
      exact ⟨⟨hzero, hshort, hshorts⟩, hnil, hdirs, hspot⟩
    · rintro ⟨⟨hzero, hshort, hshorts⟩, -, hdirs, hspot⟩
      obtain ⟨hwalk, hnode⟩ :=
        (walk_names d hnames [] names (.file content modified)).mpr ⟨rfl, hshorts, hdirs, hspot⟩
      have hroot : d.HasDirectory [] := by
        simpa using hdirs 0 (List.length_pos_iff.mpr hnil)
      exact ⟨names, hzero, hshort, ⟨hroot, hwalk⟩, hnode⟩

/-! ## Changing one file -/

/-- Two disks with the same directories on the way to a normal path and the same
file at its location hold the same file there. -/
theorem file?_congr {d d' : Disk} {q : Path} (h : q.IsNormal)
    (hdirs : ∀ i < (location q).length,
      (d'.HasDirectory ((location q).take i) ↔ d.HasDirectory ((location q).take i)))
    (hfile : ∀ content modified, d'.node? (location q) = some (.file content modified) ↔
      d.node? (location q) = some (.file content modified)) :
    d'.file? q = d.file? q := by
  have hsame : ∀ v, d'.file? q = some v ↔ d.file? q = some v := by
    rintro ⟨content, modified⟩
    rw [file?_eq_some d' h, file?_eq_some d h, hfile]
    have hall : (∀ i < (location q).length, d'.HasDirectory ((location q).take i)) ↔
        ∀ i < (location q).length, d.HasDirectory ((location q).take i) :=
      forall_congr' fun i => imp_congr_right fun hi => hdirs i hi
    rw [hall]
  exact Option.ext hsame

/-- Where no directory is at the location of `p`, and away from it and from what
lies below it directories and files are the same, files differ at `p` only. -/
theorem alteredAt_of_nodes {d d' : Disk} {p : Path} (hp : p.IsNormal)
    (hspot : ¬ d.HasDirectory (location p)) (hspot' : ¬ d'.HasDirectory (location p))
    (hdirs : ∀ place, ¬ location p <+: place → (d'.HasDirectory place ↔ d.HasDirectory place))
    (hfiles : ∀ place, ¬ location p <+: place → ∀ content modified,
      d'.node? place = some (.file content modified) ↔
        d.node? place = some (.file content modified)) :
    AlteredAt p d d' := by
  intro q hq hne
  by_cases hbelow : location p <+: location q
  · -- a place below one that is no directory cannot be reached
    have hlength : (location p).length < (location q).length := by
      have hle := hbelow.length_le
      have hlocation : (location p).length ≠ (location q).length := fun heq => by
        rw [location_injective hp hq (hbelow.eq_of_length heq)] at hne
        simp at hne
      omega
    have htake : (location q).take (location p).length = location p :=
      (List.prefix_iff_eq_take.mp hbelow).symm
    have hnone : ∀ e : Disk, ¬ e.HasDirectory (location p) → e.file? q = none := by
      intro e he
      rw [Option.eq_none_iff_forall_ne_some]
      rintro ⟨content, modified⟩ hsome
      have hway := ((file?_eq_some e hq content modified).mp hsome).2.2.1 _ hlength
      rw [htake] at hway
      exact he hway
    rw [hnone d hspot, hnone d' hspot']
  · refine file?_congr hq (fun i _ => hdirs _ fun htake => ?_) (hfiles _ hbelow)
    exact hbelow (htake.trans (List.take_prefix i _))

theorem touch_keeps {d : Disk} {parent : Location} (h : d.HasDirectory parent) (place : Location) :
    ((d.touch parent).HasDirectory place ↔ d.HasDirectory place) ∧
      ∀ content modified, (d.touch parent).node? place = some (.file content modified) ↔
        d.node? place = some (.file content modified) := by
  obtain ⟨k, hk⟩ := h
  unfold HasDirectory touch node?
  unfold node? at hk
  simp only [Table.get?_insert, beq_iff_eq]
  by_cases hplace : parent = place
  · subst hplace
    simp [hk]
  · simp [hplace]

theorem node?_insert (d : Disk) (spot place : Location) (node : Node) :
    node? { d with nodes := d.nodes.insert spot node } place =
      if spot = place then some node else d.node? place := by
  unfold node?
  simp only [Table.get?_insert, beq_iff_eq]

/-- Putting a file where a directory can hold it alters the disk at its path only. -/
theorem alteredAt_putAt {d : Disk} {p : Path} (hp : p.IsNormal)
    (hparent : d.HasDirectory (location p).dropLast) (hspot : ¬ d.HasDirectory (location p))
    (content : Content) (modified : Int) :
    AlteredAt p d (d.putAt (location p) (.file content modified)) := by
  have haway : ∀ place, ¬ location p <+: place → location p ≠ place :=
    fun place hnot heq => hnot (heq ▸ List.prefix_rfl)
  unfold putAt
  by_cases hthere : d.nodes.contains (location p) = true
  · simp only [hthere, if_true]
    refine alteredAt_of_nodes hp hspot ?_ (fun place hnot => ?_) (fun place hnot => ?_)
    · simp [HasDirectory, node?_insert]
    · simp [HasDirectory, node?_insert, haway place hnot]
    · simp [node?_insert, haway place hnot]
  · simp only [hthere]
    refine alteredAt_of_nodes hp hspot ?_ (fun place hnot => ?_) (fun place hnot => ?_)
    · simp [HasDirectory, node?_insert]
    · have hkeeps := (touch_keeps hparent place).1
      simpa [HasDirectory, node?_insert, haway place hnot] using hkeeps
    · simpa [node?_insert, haway place hnot] using (touch_keeps hparent place).2

theorem mem_waypoints {place spot : Location} {names : List Bytes}
    (h : spot ∈ waypoints place (names.map Segment.name)) :
    ∃ i < names.length, spot = place ++ names.take i := by
  induction names generalizing place with
  | nil => cases h
  | cons n rest ih =>
    rcases List.mem_cons.mp h with rfl | hbelow
    · exact ⟨0, by simp, by simp⟩
    · obtain ⟨i, hi, rfl⟩ := ih hbelow
      exact ⟨i + 1, by simpa using hi, by simp [follow]⟩

theorem addParents_of_contains {d : Disk} {p : Path}
    (h : ∀ spot ∈ waypoints [] p.segments, d.nodes.contains spot = true) : d.addParents p = d := by
  unfold addParents
  generalize waypoints [] p.segments = spots at h
  induction spots with
  | nil => rfl
  | cons spot rest ih =>
    have hspot : d.addDirectory spot = d := by
      unfold addDirectory
      rw [if_pos (h spot List.mem_cons_self)]
    rw [List.foldl_cons, hspot]
    exact ih fun other hother => h other (List.mem_cons_of_mem spot hother)

theorem alteredAt_write {d : Disk} {p : Path} (hp : p.IsNormal) (hroot : location p ≠ [])
    (hway : ∀ i < (location p).length, d.HasDirectory ((location p).take i))
    (hspot : ¬ d.HasDirectory (location p)) (content : Content) (modified : Int) :
    AlteredAt p d (d.write p content modified) := by
  have hlength : 0 < (location p).length := List.length_pos_iff.mpr hroot
  have hparent : d.HasDirectory (location p).dropLast := by
    rw [List.dropLast_eq_take]
    exact hway _ (by omega)
  have hparents : d.addParents p = d := by
    refine addParents_of_contains fun spot hmem => ?_
    obtain ⟨names, hnames, rfl⟩ := hp.eq_ofSegments
    rw [location_ofSegments hnames] at hway hlength
    rw [Path.segments_ofSegments hnames] at hmem
    have hthere : ∃ i < names.length, spot = names.take i := by
      rcases List.mem_cons.mp hmem with rfl | hmem
      · exact ⟨0, hlength, rfl⟩
      · simpa [follow] using mem_waypoints hmem
    obtain ⟨i, hi, rfl⟩ := hthere
    obtain ⟨k, hk⟩ := hway i hi
    unfold node? at hk
    simp [Table.contains, hk]
  unfold write
  rw [hparents]
  exact alteredAt_putAt hp hparent hspot content modified

/-- Removing a file alters the disk at its path only. -/
theorem alteredAt_remove {d : Disk} {p : Path} (hp : p.IsNormal)
    (hparent : d.HasDirectory (location p).dropLast) (hspot : ¬ d.HasDirectory (location p)) :
    AlteredAt p d (d.remove p) := by
  have haway : ∀ place, ¬ location p <+: place → (location p).isPrefixOf place = false :=
    fun place hnot => Bool.eq_false_iff.mpr fun hprefix =>
      hnot (List.isPrefixOf_iff_prefix.mp hprefix)
  unfold remove
  simp only
  split
  · exact fun q _ _ => rfl
  · rename_i hthere
    have hroot : location p ≠ [] := fun hnil => hthere (.inl hnil)
    generalize hleft : ({ d with
      nodes := ⟨d.nodes.entries.filter fun e => !(location p).isPrefixOf e.1⟩ } : Disk) = left
    have hnode : ∀ place, left.node? place =
        if (location p).isPrefixOf place then none else d.node? place := by
      intro place
      rw [← hleft]
      unfold node?
      have hkeys : ∀ j k : Location, (j == k) = true →
          (!(location p).isPrefixOf j) = !(location p).isPrefixOf k := fun j k hjk => by
        rw [eq_of_beq hjk]
      rw [Table.get?_filter_key d.nodes hkeys]
      cases (location p).isPrefixOf place <;> rfl
    have hkept : ∀ place, ¬ location p <+: place → left.node? place = d.node? place :=
      fun place hnot => by simp [hnode, haway place hnot]
    have hup : ¬ location p <+: (location p).dropLast := fun hprefix => by
      have hle := hprefix.length_le
      have hpos := List.length_pos_iff.mpr hroot
      rw [List.length_dropLast] at hle
      omega
    have hparent' : left.HasDirectory (location p).dropLast := by
      unfold HasDirectory
      rw [hkept _ hup]
      exact hparent
    refine alteredAt_of_nodes hp hspot ?_ (fun place hnot => ?_) (fun place hnot => ?_)
    · rw [(touch_keeps hparent' _).1]
      simp [HasDirectory, hnode]
    · rw [(touch_keeps hparent' place).1]
      unfold HasDirectory
      rw [hkept place hnot]
    · intro content modified
      rw [(touch_keeps hparent' place).2, hkept place hnot]

end Disk

end ClassLens
