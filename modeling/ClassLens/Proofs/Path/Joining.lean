import ClassLens.Proofs.Disk.Reaching
import ClassLens.Proofs.Text.Encoding
/-
  Joining — a path seen from another, and what normalising makes of it

  A relative path seen from an absolute one adds its steps behind the segments
  of that one. Normalising folds the steps onto what the absolute path comes to
  by itself: a name is added, a parent step takes one back.

  What is proved:
    1. `isAbsolute_join`, `isAbsolute_parent` — absolute paths stay absolute;
    2. `segments_join` — the segments of a relative path seen from an absolute
       one;
    3. `isNormal_normalize`, `segments_normalize` — normalising an absolute
       path gives a normal one, and what it names;
    4. `segments_normalize_join` — the steps behind, folded onto the normal
       directory, with the two cases `normalize_join_names` and
       `normalize_join_names_up`;
    5. `steps_ofText`, `isAbsolute_ofText` — paths that are given as texts.
-/

namespace ClassLens

namespace Utf8

theorem slash_mem_encodeChar {c : Char} (h : Path.slash ∈ String.utf8EncodeChar c) : c = '/' := by
  by_cases hascii : c.toNat < 0x80
  · rw [Text.encodeChar_of_lt hascii, List.mem_singleton] at h
    have hnat : c.toNat = '/'.toNat := by
      have hbyte : (UInt8.ofNat c.toNat).toNat = Path.slash.toNat := by rw [h]
      rw [toNat_ofNat_of_lt (by omega)] at hbyte
      exact hbyte
    exact Char.toNat_inj.mp hnat
  · have hhigh := le_of_mem_encodeChar (Nat.le_of_not_lt hascii) h
    have hslash : Path.slash.toNat = 0x2F := rfl
    omega

/-- The pieces between slashes are the same for a text and for its bytes. -/
theorem split_encode (cs : Text) :
    Text.split (· = Path.slash) (encode cs) = (Text.split (· = '/') cs).map encode := by
  induction cs with
  | nil => rfl
  | cons c cs ih =>
    obtain ⟨piece, rest, hsplit⟩ := List.exists_cons_of_ne_nil (Text.split_ne_nil (· = '/') cs)
    rw [hsplit] at ih
    by_cases hc : c = '/'
    · subst hc
      have hbyte : encode ('/' :: cs) = Path.slash :: encode cs := rfl
      rw [hbyte]
      simp [Text.split, hsplit, ih]
    · -- the bytes of another character join the first piece
      have hnone : ∀ b ∈ String.utf8EncodeChar c, b ≠ Path.slash := by
        intro b hb hslash
        exact hc (slash_mem_encodeChar (hslash ▸ hb))
      have hjoin : ∀ (a : Bytes), (∀ b ∈ a, b ≠ Path.slash) →
          Text.split (· = Path.slash) (a ++ encode cs) =
            (a ++ encode piece) :: rest.map encode := by
        intro a ha
        induction a with
        | nil => simpa using ih
        | cons b a iha =>
          have hb := ha b List.mem_cons_self
          have hrest := iha fun d hd => ha d (List.mem_cons_of_mem b hd)
          simp [Text.split, hb, hrest]
      rw [encode_cons, hjoin _ hnone]
      simp [Text.split, hc, hsplit]

theorem encode_injective {a b : Text} (h : encode a = encode b) : a = b := by
  have hdecode := congrArg decode? h
  rw [decode?_encode, decode?_encode] at hdecode
  exact Option.some.inj hdecode

end Utf8

namespace Path

/-! ## Absolute paths -/

theorem segments_of_isAbsolute {p : Path} (h : p.isAbsolute = true) :
    p.segments = .root :: p.steps := by
  unfold segments steps
  rw [if_pos h]

theorem isAbsolute_join {p : Path} (h : p.isAbsolute = true) (q : Bytes) :
    (p.join q).isAbsolute = true := by
  have hhead : ∀ tail : Bytes, (p.spelling ++ tail).head? = p.spelling.head? := by
    intro tail
    cases hspelling : p.spelling with
    | nil => simp [isAbsolute, hspelling] at h
    | cons b bytes => rfl
  unfold join
  split
  · rename_i hq
    exact hq
  · split
    · show ((p.spelling ++ q).head? == some slash) = true
      rw [hhead]
      exact h
    · show ((p.spelling ++ slash :: q).head? == some slash) = true
      rw [hhead]
      exact h

theorem isAbsolute_parent {p directory : Path} (h : p.isAbsolute = true)
    (hparent : p.parent? = some directory) : directory.isAbsolute = true := by
  unfold parent? at hparent
  rw [segments_of_isAbsolute h] at hparent
  cases hsteps : p.steps with
  | nil =>
    rw [hsteps] at hparent
    cases hparent
  | cons s rest =>
    rw [hsteps] at hparent
    split at hparent
    · cases hparent
    · cases hparent
    · cases hparent
      rfl

theorem join_of_isAbsolute (p : Path) {q : Path} (hq : q.isAbsolute = true) :
    p.join q.spelling = q := by
  unfold join
  exact if_pos hq

/-- A relative path seen from an absolute one adds its steps. -/
theorem segments_join {p q : Path} (hp : p.isAbsolute = true) (hq : q.isAbsolute = false) :
    (p.join q.spelling).segments = p.segments ++ q.steps := by
  rw [segments_of_isAbsolute (isAbsolute_join hp q.spelling), segments_of_isAbsolute hp,
    steps_join p hq]
  rfl

/-! ## Normal paths -/

theorem foldl_fold_names (names : List Bytes) (stack : List Segment) :
    (names.map Segment.name).foldl fold stack = (names.map Segment.name).reverse ++ stack := by
  induction names generalizing stack with
  | nil => rfl
  | cons n rest ih =>
    rw [List.map_cons, List.foldl_cons, ih]
    simp [fold]

theorem segments_normalize {p : Path} (h : p.isAbsolute = true) :
    p.normalize.segments = normalSegments p.segments := by
  obtain ⟨names, hnames, hsegments⟩ := normalSegments_of_isAbsolute h
  unfold normalize
  rw [hsegments, segments_ofSegments hnames]

theorem isNormal_normalize {p : Path} (h : p.isAbsolute = true) : p.normalize.IsNormal := by
  obtain ⟨names, hnames, hsegments⟩ := normalSegments_of_isAbsolute h
  have hnormal : p.normalize = ofSegments (.root :: names.map .name) := by
    unfold normalize
    rw [hsegments]
  refine ⟨by rw [hnormal]; rfl, ?_⟩
  rw [hnormal]
  unfold normalize normalSegments
  rw [segments_ofSegments hnames, List.foldl_cons, foldl_fold_names]
  simp [fold]

/-- The steps of a relative path are folded onto what the path in front comes to by itself. -/
theorem segments_normalize_join {p q : Path} (hp : p.isAbsolute = true)
    (hq : q.isAbsolute = false) :
    (p.join q.spelling).normalize.segments =
      (q.steps.foldl fold p.normalize.segments.reverse).reverse := by
  rw [segments_normalize (isAbsolute_join hp q.spelling), segments_normalize hp,
    segments_join hp hq]
  unfold normalSegments
  rw [List.foldl_append, List.reverse_reverse]

theorem normalize_join_names {p q : Path} {names : List Bytes} (hp : p.isAbsolute = true)
    (hq : q.isAbsolute = false) (hsteps : q.steps = names.map .name) :
    (p.join q.spelling).normalize.segments = p.normalize.segments ++ names.map .name := by
  rw [segments_normalize_join hp hq, hsteps, foldl_fold_names]
  simp

/-- With one parent step behind them, the names lead to a place above or below
the normal directory, or to the directory itself. -/
theorem normalize_join_names_up {p q : Path} {names : List Bytes} (hp : p.isAbsolute = true)
    (hq : q.isAbsolute = false) (hsteps : q.steps = names.map .name ++ [.up]) :
    p.normalize.segments <+: (p.join q.spelling).normalize.segments ∨
      (p.join q.spelling).normalize.segments <+: p.normalize.segments := by
  rw [segments_normalize_join hp hq, hsteps, List.foldl_append, foldl_fold_names]
  show _ <+: (popName _).reverse ∨ (popName _).reverse <+: _
  rcases List.eq_nil_or_concat names with rfl | ⟨front, last, rfl⟩
  · -- nothing but the parent step, which takes back at most one name of the directory
    right
    have hsuffix : ∀ stack : List Segment, popName stack <:+ stack := by
      intro stack
      unfold popName
      split
      · exact List.suffix_cons _ _
      · exact List.suffix_rfl
    rw [← List.reverse_suffix, List.reverse_reverse]
    exact hsuffix _
  · -- the parent step takes back the last of the names
    left
    have hpop : popName (((front.concat last).map Segment.name).reverse ++
        p.normalize.segments.reverse) =
          (front.map Segment.name).reverse ++ p.normalize.segments.reverse := by
      simp [popName]
    rw [hpop]
    simp

/-! ## Paths as texts -/

theorem steps_ofText (cs : Text) :
    (ofText cs).steps = (Text.split (· = '/') cs).filterMap (innerSegment? <| Utf8.encode ·) := by
  unfold steps pieces ofText
  rw [Utf8.split_encode, List.filterMap_map]
  rfl

theorem isAbsolute_ofText (cs : Text) : (ofText cs).isAbsolute = (cs.head? == some '/') := by
  cases cs with
  | nil => rfl
  | cons c cs =>
    rw [Bool.eq_iff_iff]
    simp only [List.head?_cons, beq_iff_eq, Option.some.injEq]
    constructor
    · intro h
      have hhead : Path.slash ∈ String.utf8EncodeChar c := by
        have hne : String.utf8EncodeChar c ≠ [] := by
          intro hnil
          have hpos := Char.utf8Size_pos c
          rw [← String.length_utf8EncodeChar, hnil] at hpos
          exact absurd hpos (by simp)
        obtain ⟨b, bytes, hbytes⟩ := List.exists_cons_of_ne_nil hne
        have hb : b = slash := by simpa [isAbsolute, ofText, hbytes] using h
        rw [hbytes, hb]
        exact List.mem_cons_self
      exact Utf8.slash_mem_encodeChar hhead
    · rintro rfl
      rfl

end Path

end ClassLens
