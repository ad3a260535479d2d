import ClassLens.Editor.Unknown
import ClassLens.Proofs.Component.FirstOccurrence
import ClassLens.Proofs.Document.Values
import ClassLens.Proofs.Import.Resolve
import ClassLens.Proofs.Disk.Spelling
import ClassLens.Proofs.Engine.Built
/-
  Unknown classes — what is reported, from files and text

  The report for a document that is not indexed yet is set against a reading
  of the document and the disk that uses neither index nor cache: the words of
  the closed values on its lines, less those that some stylesheet it imports
  defines.

  What is proved:
    1. `usages_names` — the class names that a document uses are the words of
       its closed values;
    2. `Gathered.any_contains`, `yields_mirrors` — what a component defines whose
       sheets are what the files hold;
    3. `Engine.ensureDocument_judging` — the component that the document gets;
    4. `Workload.mirrors_run` — engines that are what the files hold;
    5. `unknown_are_undefined` — the names that are reported;
       `unknown_by_run_in_flight` — one that the document's own import defines.
-/

namespace ClassLens

/-- The lines of a document, without carriage returns at their ends. -/
def Document.shownLines (doc : Document) : List Text :=
  (doc.text.splitOn '\n').map Document.dropReturns

/-- The words of a value: what stands between its blanks. -/
def words (value : Text) : List Text := (value.splitOnP Text.isBlank).filter (· ≠ [])

/-- Whether one of the stylesheets that can be read as text defines a class. -/
def definedBy (disk : Disk) (sheets : List Path) (name : Text) : Bool :=
  sheets.any fun p =>
    match disk.read p with
    | .ok content => (Stylesheet.extract content).first.contains name
    | .error _ => false

/-! ## The names a document uses -/

theorem tokensFrom_texts (offset : Nat) (pieces : List Text) :
    (tokensFrom offset pieces).map (·.2) = pieces.filter (· ≠ []) := by
  induction pieces generalizing offset with
  | nil => rfl
  | cons piece rest ih =>
    unfold tokensFrom
    by_cases hpiece : piece = []
    · simp [hpiece, ih]
    · simp [hpiece, ih]

theorem classTokens_words (value : Text) : (classTokens value).map (·.2) = words value := by
  unfold classTokens words
  rw [tokensFrom_texts, Text.split_eq_splitOnP]

theorem usagesOnLine_names (attr : Text) (start : Nat) {line : Text} {values : List (Text × Text)}
    (h : ClosedValues attr [] line values) :
    (usagesOnLine attr start line).map (·.name) = values.flatMap fun v => words v.2 := by
  unfold usagesOnLine
  rw [attributeValues_eq h, List.map_flatMap, List.flatMap_map]
  congr 1
  funext v
  rw [List.map_map, ← classTokens_words]
  rfl

theorem exists_closedValues_lines (attr : Text) (lines : List Text) :
    ∃ values, List.Forall₂ (ClosedValues attr []) lines values := by
  induction lines with
  | nil => exact ⟨[], .nil⟩
  | cons line rest ih =>
    obtain ⟨values, hline⟩ := exists_closedValues attr [] line
    obtain ⟨later, hrest⟩ := ih
    exact ⟨values :: later, .cons hline hrest⟩

theorem lineStartsFrom_names {attr : Text} (start : Nat) {lines : List Text}
    {values : List (List (Text × Text))}
    (h : List.Forall₂ (ClosedValues attr []) (lines.map Document.dropReturns) values) :
    ((Document.lineStartsFrom start lines).flatMap fun (start, line) =>
      usagesOnLine attr start (Document.dropReturns line)).map (·.name) =
        values.flatten.flatMap fun v => words v.2 := by
  induction lines generalizing start values with
  | nil =>
    cases h
    rfl
  | cons line rest ih =>
    cases h with
    | cons hline hrest =>
      rw [Document.lineStartsFrom, List.flatMap_cons, List.map_append,
        usagesOnLine_names attr start hline, ih _ hrest, List.flatten_cons,
        List.flatMap_append]

/-- The class names that a document uses are the words of its closed values. -/
theorem usages_names (doc : Document) {attr : Text} {values : List (List (Text × Text))}
    (h : List.Forall₂ (ClosedValues attr []) doc.shownLines values) :
    (usages doc attr).map (·.name) = values.flatten.flatMap fun v => words v.2 := by
  unfold usages Document.rows
  rw [Text.split_eq_splitOnP]
  exact lineStartsFrom_names 0 h

/-! ## What the stylesheets on the disk define -/

theorem Sheet.contains_build (content : Text) (path : Path) (modified : Stamp) (name : Text) :
    (Sheet.build content path modified).classes.contains name =
      (Stylesheet.extract content).first.contains name := by
  have hget : (Sheet.build content path modified).classes.get? name =
      ((Stylesheet.extract content).first.get? name).map (·.inFile path) :=
    Table.get?_map (Stylesheet.extract content).first (·.inFile path) name
  unfold Table.contains
  rw [hget, Option.isSome_map]

/-- A sheet is made of what its file holds. -/
def Sheet.Mirrors (disk : Disk) (s : Sheet) : Prop :=
  s.IsBuilt ∧ disk.read s.path = .ok s.content

/-- A component has the classes that the stylesheets define which it imports. -/
structure Component.Mirrors (disk : Disk) (k : Component) : Prop where
  normal : ∀ p ∈ k.imports, p.IsNormal
  classes : ∀ name, k.hasClass name = definedBy disk k.imports name

/-- Sheets are what their files hold now, whatever times these bear. -/
def Standard.mirrors (disk : Disk) : Standard where
  asks := Path.IsNormal
  bears _ _ := True
  holds := Sheet.Mirrors disk
  lacks p := ∀ text, disk.read p ≠ .ok text

/-- Sheets that were gathered for some imports define what the imports define. -/
theorem Gathered.any_contains {disk : Disk} {imports : List Path} {sheets : List Sheet}
    (h : Gathered (Standard.mirrors disk).Finds imports sheets)
    (hnormal : ∀ p ∈ imports, p.IsNormal) (name : Text) :
    sheets.any (·.classes.contains name) = definedBy disk imports name := by
  -- a sheet of a normal path defines what the file of that path defines
  have hsheet : ∀ {s : Sheet} {p : Path}, p.IsNormal → (s.path == p) = true →
      s.Mirrors disk → s.classes.contains name = definedBy disk [p] name := by
    rintro s p hp hpath ⟨hbuilt, hread⟩
    rw [hbuilt, Sheet.contains_build]
    simp [definedBy, Disk.read_of_beq hp hpath hread]
  have hsnoc : ∀ (imports : List Path) (p : Path), definedBy disk (imports ++ [p]) name =
      (definedBy disk imports name || definedBy disk [p] name) := fun _ _ => List.any_append
  induction h with
  | nil => rfl
  | @pass imports sheets p before read ih =>
    have ih := ih (fun q hq => hnormal q (List.mem_append_left _ hq))
    rw [hsnoc, ← ih]
    obtain ⟨s, hs, hpath⟩ := List.any_eq_true.mp read
    have hp := hnormal p (List.mem_append_right _ (List.mem_singleton_self p))
    rw [← hsheet hp hpath (before.holds s hs)]
    -- the sheet is among those that were gathered before
    cases hdefines : s.classes.contains name with
    | false => simp
    | true => simpa using ⟨s, hs, hdefines⟩
  | @take imports sheets p s? before new here ih =>
    have ih := ih (fun q hq => hnormal q (List.mem_append_left _ hq))
    have hp := hnormal p (List.mem_append_right _ (List.mem_singleton_self p))
    rw [hsnoc, List.any_append, ih]
    congr 1
    cases s? with
    | none =>
      have hlacks : ∀ text, disk.read p ≠ .ok text := here
      cases hread : disk.read p with
      | error cause => simp [definedBy, hread]
      | ok text => exact absurd hread (hlacks text)
    | some s =>
      rw [← hsheet hp here.1 here.2]
      simp

theorem yields_mirrors (disk : Disk) :
    Index.Yields disk (.mirrors disk) (Component.Mirrors disk) where
  stamping := fun _ _ _ _ => trivial
  reading := fun _ _ _ _ _ hread => ⟨rfl, hread⟩
  failing := by
    rintro p cause - (hstamp | hread) text htext
    · obtain ⟨place, modified, hfind⟩ := Disk.read_parts htext
      unfold Disk.stamp at hstamp
      rw [hfind] at hstamp
      cases hstamp
    · rw [hread] at htext
      cases htext
  building := by
    intro component imports sheets hnormal hgathered
    refine ⟨hnormal, fun name => ?_⟩
    show ((Component.build component imports sheets).definition? name).isSome = _
    rw [Component.definition?_build, List.isSome_findSome?]
    exact hgathered.any_contains hnormal name
  asking := fun _ hk => hk.normal

/-- Every cached sheet is made of what its file holds now. -/
def Index.Mirrors (disk : Disk) (cache : Table Path Sheet) : Prop :=
  ∀ q s, cache.get? q = some s → (s.path == q) = true ∧ s.Mirrors disk

/-! ## The component of a document that is not indexed yet -/

namespace Engine

/-- The run in flight for a component. -/
def flying? (e : Engine) (path : Path) : Option Run := (e.inFlight.get? path).bind e.runs.get?

/-- The imports by which a document is judged that is not indexed yet: those of the run
in flight for it, and its own if there is none. -/
def judging (disk : Disk) (e : Engine) (doc : Document) : List Path :=
  match e.flying? doc.path with
  | some r => r.imports
  | none => importPaths disk doc.text doc.path

/-- The run in flight for a component, if there is one, is not over, is about the
component, and is up to a standard. -/
def FliesBy (e : Engine) (S : Standard) (path : Path) : Prop :=
  ∀ n, e.inFlight.get? path = some n →
    ∃ r, e.runs.get? n = some r ∧ (r.component == path) = true ∧ r.Carries S

variable {disk : Disk} {e : Engine} {doc : Document}

/-- The index once the run in flight for a document is over, or else its component built. -/
theorem ensureDocument_index (disk : Disk) (h : e.component? doc.path = none) :
    (e.ensureDocument disk doc).1.index =
      (match e.inFlight.get? doc.path with
        | some n => match e.runs.get? n with
          | some r => r.finish disk e.index
          | none => e.index
        | none => Index.indexComponent disk e.index doc.path
            (importPaths disk doc.text doc.path)) ∧
    (e.ensureDocument disk doc).2 = (e.ensureDocument disk doc).1.component? doc.path := by
  have hindexed : e.index.components.get? doc.path = none := h
  unfold Engine.ensureDocument
  rw [h]
  simp only [ensure, Flight.ask, flight, hindexed]
  cases e.inFlight.get? doc.path with
  | none => exact ⟨rfl, rfl⟩
  | some n => exact ⟨rfl, rfl⟩

/-- A document that is not indexed yet gets a component of the imports by which it is
judged, and it is up to the standard of the run that builds it. -/
theorem ensureDocument_judging {S : Standard} {K : Component → Prop}
    (hyields : Index.Yields disk S K) (hindex : e.component? doc.path = none)
    (hcache : ∀ q s, e.index.cache.get? q = some s → (s.path == q) = true ∧ S.holds s)
    (hown : ∀ p ∈ importPaths disk doc.text doc.path, S.asks p) (hflies : e.FliesBy S doc.path) :
    (∀ q s, (e.ensureDocument disk doc).1.index.cache.get? q = some s →
      (s.path == q) = true ∧ S.holds s) ∧
    ∃ k, (e.ensureDocument disk doc).2 = some k ∧ K k ∧ k.imports = e.judging disk doc := by
  obtain ⟨hafter, hanswer⟩ := ensureDocument_index disk hindex
  rw [hanswer]
  unfold component? judging flying?
  rw [hafter]
  -- a run for the document that is brought to its end
  have hfinish : ∀ r : Run, (r.component == doc.path) = true → r.Carries S →
      (∀ q s, (r.finish disk e.index).cache.get? q = some s → (s.path == q) = true ∧ S.holds s) ∧
        ∃ k, (r.finish disk e.index).components.get? doc.path = some k ∧ K k ∧
          k.imports = r.imports := by
    intro r hpath hcarries
    obtain ⟨hcached, k, hk, himports, hget⟩ := hcarries.finish hyields hcache
    exact ⟨hcached, k, (hget doc.path).trans (if_pos hpath), hk, himports⟩
  cases hflight : e.inFlight.get? doc.path with
  | none =>
    simp only [Option.bind_none]
    rw [← Run.finish_start]
    exact hfinish _ BEq.rfl (Run.carries_start doc.path hown)
  | some n =>
    obtain ⟨r, hruns, hpath, hcarries⟩ := hflies n hflight
    simp only [Option.bind_some, hruns]
    exact hfinish r hpath hcarries

end Engine

/-- In every state the run in flight for a component is up to the standard of all runs. -/
theorem Workload.fliesBy_run {window : Nat} {script : List (Disk × Action)} {S : Standard}
    (hruns : ∀ n r, (run window script).flight.runs.get? n = some r → r.Carries S) (path : Path) :
    (run window script).engine.FliesBy S path := by
  intro n hentry
  obtain ⟨-, r, hr, hpath⟩ := (ownRuns_run window script).entries path n hentry
  exact ⟨r, hr, hpath, hruns n r hr⟩

/-- Whatever happens to an engine while no file changes, its cached sheets and the runs in
flight are what the files hold. -/
theorem Workload.mirrors_run (disk : Disk) (window : Nat) (script : List Action)
    (hjobs : ∀ a ∈ script, ∀ job ∈ a.jobs, ∀ p ∈ job.2, p.IsNormal) :
    Index.Mirrors disk (run window (script.map (disk, ·))).engine.index.cache ∧
      ∀ path, (run window (script.map (disk, ·))).engine.FliesBy (.mirrors disk) path := by
  have hkept : (run window (script.map (disk, ·))).Kept _ (Run.Carries (.mirrors disk)) _ :=
    (kept_new window (Index.holdsOnly_empty _ _)).performAll fun step hstep => by
      obtain ⟨a, ha, rfl⟩ := List.mem_map.mp hstep
      exact ⟨keeps_holdsOnly (yields_mirrors disk), hjobs a ha⟩
  exact ⟨hkept.index.cached, fliesBy_run hkept.runs⟩

/-! ## The report -/

/-- **Exactly the undefined names are reported, by the imports of the run in flight if
there is one.** For a document that is not indexed yet, on an engine whose cached
sheets are what their files hold, the names reported are the words of the closed
values on the document's lines, in order and as often as they stand there, without
those that a stylesheet defines by which the document is judged. These are the ones
it imports, unless an earlier query for its path has a run in flight: then they are
the ones that query asked for. -/
theorem unknown_are_undefined (disk : Disk) (e : Engine) (doc : Document) (attr : Text)
    (hindex : e.component? doc.path = none) (hcache : Index.Mirrors disk e.index.cache)
    (hflies : e.FliesBy (.mirrors disk) doc.path) :
    (∃ values, List.Forall₂ (ClosedValues attr []) doc.shownLines values) ∧
    ∀ values, List.Forall₂ (ClosedValues attr []) doc.shownLines values →
      (unknownClasses disk e doc attr).2.map (·.name) =
        (values.flatten.flatMap fun v => words v.2).filter fun name =>
          !definedBy disk (e.judging disk doc) name := by
  refine ⟨exists_closedValues_lines attr doc.shownLines, fun values hvalues => ?_⟩
  rw [← usages_names doc hvalues]
  obtain ⟨-, k, hk, hmirrors, himports⟩ := Engine.ensureDocument_judging (yields_mirrors disk)
    hindex hcache (fun p hp => isNormal_of_mem_importPaths hp) hflies
  rw [← himports]
  unfold unknownClasses
  simp only
  split
  · -- a document that uses no names is not indexed, and there is nothing to report
    rename_i hempty
    rw [List.isEmpty_iff.mp hempty]
    rfl
  · have hensured : e.ensureDocument disk doc = ((e.ensureDocument disk doc).1, some k) :=
      Prod.ext rfl hk
    rw [hensured]
    simp only [hmirrors.classes]
    rw [List.filter_map]
    rfl

namespace Document.Sample

/-- A stylesheet and a second one that is no text. -/
def a : Path := ⟨[0x2F, 0x61, 0x2E, 0x63, 0x73, 0x73]⟩
def b : Path := ⟨[0x2F, 0x62, 0x2E, 0x63, 0x73, 0x73]⟩

def disk : Disk := (Disk.empty.write a (.text ".x{}".toList) 5).write b .binary 5

/-- A document that imports both. -/
def doc : Document where
  path := ⟨[0x2F, 0x63]⟩
  text := ("import './a.css'\nimport './b.css'\n" ++
    "<p styleName=\"y x  y\" styleName='z'>\r\n<p styleName='w").toList
  version := 1

/-- What happens first: another component takes the first stylesheet into the cache. -/
def past : List Workload.Action := [.index ⟨[0x2F, 0x64]⟩ [a]]
def engine : Engine := (Workload.run 300 (past.map (disk, ·))).engine

theorem past_jobs : ∀ x ∈ past, ∀ job ∈ x.jobs, ∀ p ∈ job.2, p.IsNormal := by
  intro x hx job hjob p hp
  cases List.mem_singleton.mp hx
  cases List.mem_singleton.mp hjob
  cases List.mem_singleton.mp hp
  exact ⟨rfl, rfl⟩

/-- An engine on which an earlier text of the document has begun to be indexed, from
the first stylesheet, and the document now, which imports another one. -/
def other : Disk := disk.write b (.text ".y{}".toList) 5
def flying : Engine :=
  (Workload.run 300 [(other, .beginQuery doc.path [a]), (other, .stepQuery 0)]).engine
def later : Document :=
  { doc with text := "import './b.css'\n<p styleName=\"y\">".toList, version := 2 }

end Document.Sample

/-- A repeated name is reported twice, a name of the second value too, and an
unclosed value not at all. -/
theorem unknown_are_undefined_repeated :
    Document.Sample.engine.component? Document.Sample.doc.path = none ∧
    Document.Sample.engine.flying? Document.Sample.doc.path = none ∧
    ∃ values, List.Forall₂ (ClosedValues "styleName".toList []) Document.Sample.doc.shownLines
        values ∧
      ((values.flatten.flatMap fun v => words v.2).filter fun name =>
        !definedBy Document.Sample.disk (importPaths Document.Sample.disk Document.Sample.doc.text
          Document.Sample.doc.path) name) = [['y'], ['y'], ['z']] := by
  have hindex : Document.Sample.engine.component? Document.Sample.doc.path = none :=
    Option.isNone_iff_eq_none.mp (by decide +kernel)
  have hflying : Document.Sample.engine.flying? Document.Sample.doc.path = none := rfl
  obtain ⟨hcache, hruns⟩ := Workload.mirrors_run Document.Sample.disk 300 Document.Sample.past
    Document.Sample.past_jobs
  obtain ⟨⟨values, hvalues⟩, hreport⟩ := unknown_are_undefined Document.Sample.disk
    Document.Sample.engine Document.Sample.doc "styleName".toList hindex hcache (hruns _)
  refine ⟨hindex, hflying, values, hvalues, (hreport values hvalues).symm.trans ?_⟩
  decide +kernel

/-- A name is reported that the document's own import defines: the run in flight for its
path is one from another stylesheet. -/
theorem unknown_by_run_in_flight :
    Document.Sample.flying.component? Document.Sample.later.path = none ∧
      Document.Sample.flying.index.cache.entries.isEmpty = true ∧
      definedBy Document.Sample.other (importPaths Document.Sample.other
        Document.Sample.later.text Document.Sample.later.path) ['y'] = true ∧
      (unknownClasses Document.Sample.other Document.Sample.flying Document.Sample.later
        "styleName".toList).2.map (·.name) = [['y']] :=
  ⟨Option.isNone_iff_eq_none.mp (by decide +kernel), by decide +kernel, by decide +kernel,
    by decide +kernel⟩

end ClassLens
