import ClassLens.Server.Basic
import ClassLens.Proofs.Editor.Sources
import ClassLens.Proofs.Editor.Usages
/-
  Reports — which text an open document is judged by

  An editor opens a document, changes it and closes it, and gets a report for
  each text it sends. The component of the document is built for the first of
  these texts that uses a class name, and no later text takes its place. So a
  report is about the class names of the new text, but goes by the imports of
  that first one.

  What is proved:
    1. `receive_of_received`, `receive_untouched` — what the server makes of a
       message about a document;
    2. `Follows.receive` and `Follows.after` — the components of the server
       come from the first texts, through every message and every sequence of
       them;
    3. `reports_go_by_first_text` — the report that answers a message, and when
       it is the one that the text itself asks for;
    4. `report_ignores_new_import` — a class that the new text imports is
       reported as unknown.
-/

namespace ClassLens

namespace Server

/-! ## Texts that messages bring -/

/-- The document that was opened: its name, its text and its version. -/
def opened? (params : Json) : Option (Uri × Text × Int) :=
  (uri? params ["textDocument", "uri"]).map fun uri =>
    (uri, text params ["textDocument", "text"], int params ["textDocument", "version"])

/-- The document that was changed, with the last of the texts. -/
def changed? (params : Json) : Option (Uri × Text × Int) :=
  match uri? params ["textDocument", "uri"], (itemsAt params ["contentChanges"]).getLast? with
  | some uri, some change =>
    some (uri, text change ["text"], int params ["textDocument", "version"])
  | _, _ => none

/-- What a notification says was opened or changed. -/
def received? (m : Message) : Option (Uri × Text × Int) :=
  if m.isRequest then none
  else
    match Method.ofName? m.method with
    | some .didOpen => (m.params.bind Method.didOpen.params.normalize?).bind opened?
    | some .didChange => (m.params.bind Method.didChange.params.normalize?).bind changed?
    | _ => none

/-- A text as a document, if it is the text of a component. -/
def component? (c : Config) : Uri × Text × Int → Option (Uri × Document)
  | (uri, text, version) =>
    match uri.toPath? with
    | none => none
    | some path => if c.isComponent path then some (uri, ⟨path, text, version⟩) else none

/-- The component document that a message brings. -/
def brings? (c : Config) (m : Message) : Option (Uri × Document) :=
  (received? m).bind (component? c)

/-- A message opens, changes or closes a document. -/
def IsAboutDocument (m : Message) : Prop :=
  Method.ofName? m.method = some .didOpen ∨ Method.ofName? m.method = some .didChange ∨
    Method.ofName? m.method = some .didClose

theorem isAboutDocument_of_brings {c : Config} {m : Message} {found : Uri × Document}
    (h : brings? c m = some found) : IsAboutDocument m := by
  obtain ⟨received, hreceived, -⟩ := Option.bind_eq_some_iff.mp h
  unfold received? at hreceived
  split at hreceived
  · cases hreceived
  · split at hreceived
    · rename_i hname
      exact .inl hname
    · rename_i hname
      exact .inr (.inl hname)
    · cases hreceived

/-- The server after some messages. -/
def after (disk : Disk) (s : Server) (ms : List Message) : Server :=
  ms.foldl (fun s m => (receive disk s m).1) s

/-- The text of a component that a message brings, if it uses a class name. -/
def textFor? (c : Config) (path : Path) (m : Message) : Option Text :=
  match brings? c m with
  | some (_, doc) =>
    if doc.path == path && !(usages doc c.attributeName).isEmpty then some doc.text else none
  | none => none

/-- The first text of a component that uses a class name. -/
def firstText? (c : Config) (ms : List Message) (path : Path) : Option Text :=
  ms.findSome? (textFor? c path)

section Messages

variable {disk : Disk} {s : Server} {m : Message} {uri : Uri} {doc : Document}
  {texts : Table Path Text}

theorem keep_eq (disk : Disk) (s : Server) (uri : Uri) (text : Text) (version : Int) :
    keep disk s uri text version =
      match component? s.config (uri, text, version) with
      | some (uri, doc) => publish disk { s with documents := s.documents.insert uri doc } uri doc
      | none => (s, .silence, []) := by
  unfold keep component?
  simp only
  cases uri.toPath? with
  | none => rfl
  | some path =>
    simp only
    split <;> rfl

theorem receive_running (hrunning : s.stage = .running) {method : Method}
    (hname : Method.ofName? m.method = some method)
    (hmethod : method = .didOpen ∨ method = .didChange ∨ method = .didClose) :
    receive disk s m = handle disk s m method := by
  have hopen : s.closedFor = none := by
    unfold closedFor
    rw [hrunning]
  unfold receive
  rw [if_neg (by rw [hrunning]; decide), hname]
  rcases hmethod with rfl | rfl | rfl <;> simp only [hopen]

/-- What becomes of a document that was opened or changed, if one was. -/
def keep? (disk : Disk) (s : Server) : Option (Uri × Text × Int) → Outcome
  | some (uri, text, version) => keep disk s uri text version
  | none => (s, .silence, [])

theorem run_didOpen (disk : Disk) (s : Server) (params : Json) :
    run disk s params .didOpen = keep? disk s (opened? params) := by
  unfold run didOpen opened?
  cases uri? params ["textDocument", "uri"] <;> rfl

theorem run_didChange (disk : Disk) (s : Server) (params : Json) :
    run disk s params .didChange = keep? disk s (changed? params) := by
  unfold run didChange changed?
  cases uri? params ["textDocument", "uri"] with
  | none => rfl
  | some uri => cases (itemsAt params ["contentChanges"]).getLast? <;> rfl

theorem handle_notification {method : Method} {read : Json → Option (Uri × Text × Int)}
    (hrun : ∀ params, run disk s params method = keep? disk s (read params))
    (hmethod : method.isRequest = false) (hnotify : m.isRequest = false) :
    handle disk s m method = keep? disk s ((m.params.bind method.params.normalize?).bind read) := by
  unfold handle
  rw [if_neg (by rw [hnotify, hmethod]; simp)]
  cases m.params.bind method.params.normalize? with
  | some params => exact hrun params
  | none =>
    unfold refuse
    rw [hnotify]
    rfl

theorem receive_of_received (hrunning : s.stage = .running) {uri : Uri} {text : Text}
    {version : Int} (h : received? m = some (uri, text, version)) :
    receive disk s m = keep disk s uri text version := by
  unfold received? at h
  split at h
  · cases h
  · rename_i hnotify
    have hnotify : m.isRequest = false := Bool.eq_false_iff.mpr hnotify
    split at h
    · rename_i hname
      rw [receive_running hrunning hname (by simp),
        handle_notification (run_didOpen disk s) rfl hnotify, h]
      rfl
    · rename_i hname
      rw [receive_running hrunning hname (by simp),
        handle_notification (run_didChange disk s) rfl hnotify, h]
      rfl
    · cases h

/-- Nothing that reports go by has changed. -/
structure Untouched (s s' : Server) : Prop where
  stage : s'.stage = s.stage
  config : s'.config = s.config
  engine : s'.engine = s.engine

theorem Untouched.refl (s : Server) : Untouched s s := ⟨rfl, rfl, rfl⟩

theorem didClose_untouched (s : Server) (params : Json) : Untouched s (didClose s params).1 := by
  unfold didClose
  split
  · exact .refl s
  · split
    · exact ⟨rfl, rfl, rfl⟩
    · exact .refl s

theorem receive_untouched (hrunning : s.stage = .running) (hm : IsAboutDocument m)
    (h : received? m = none) : Untouched s (receive disk s m).1 := by
  unfold received? at h
  cases hrequest : m.isRequest with
  | true =>
    -- these methods are notifications, and a request for one is refused
    have hrefused : ∀ {method : Method}, method.isRequest = false →
        Untouched s (handle disk s m method).1 := by
      intro method hmethod
      unfold handle
      rw [if_pos (by rw [hrequest, hmethod]; simp)]
      exact .refl s
    rcases hm with hname | hname | hname
    all_goals
      rw [receive_running hrunning hname (by simp)]
      exact hrefused rfl
  | false =>
    rw [hrequest, if_neg Bool.false_ne_true] at h
    rcases hm with hname | hname | hname
    · simp only [hname] at h
      rw [receive_running hrunning hname (by simp),
        handle_notification (run_didOpen disk s) rfl hrequest, h]
      exact .refl s
    · simp only [hname] at h
      rw [receive_running hrunning hname (by simp),
        handle_notification (run_didChange disk s) rfl hrequest, h]
      exact .refl s
    · rw [receive_running hrunning hname (by simp)]
      unfold handle
      rw [if_neg (by rw [hrequest]; decide)]
      split
      · exact didClose_untouched s _
      · exact .refl s

/-! ## Reports -/

/-- The uses of class names in a document that the stylesheets do not define
which a text of its component imports. -/
def undefinedBy (disk : Disk) (attr text : Text) (doc : Document) : List Usage :=
  (usages doc attr).filter fun u => !definedBy disk (importPaths disk text doc.path) u.name

/-- The names that the stylesheets do not define which a text of a component imports. -/
def undefinedNames (disk : Disk) (text : Text) (path : Path) (names : List Text) : List Text :=
  names.filter fun name => !definedBy disk (importPaths disk text path) name

theorem undefinedBy_names (disk : Disk) (text : Text) (doc : Document) {attr : Text}
    {values : List (List (Text × Text))}
    (h : List.Forall₂ (ClosedValues attr []) doc.shownLines values) :
    (undefinedBy disk attr text doc).map (·.name) =
      undefinedNames disk text doc.path (values.flatten.flatMap fun v => words v.2) := by
  unfold undefinedNames
  rw [← usages_names doc h, List.filter_map]
  rfl

/-- Two texts leave the same names undefined if they define the same of them,
and only then. -/
theorem undefinedNames_eq_iff (disk : Disk) (text text' : Text) (path : Path)
    (names : List Text) :
    undefinedNames disk text path names = undefinedNames disk text' path names ↔
      ∀ name ∈ names, definedBy disk (importPaths disk text path) name =
        definedBy disk (importPaths disk text' path) name := by
  unfold undefinedNames
  constructor
  · intro h name hname
    have hmem := congrArg (name ∈ ·) h
    simp only [List.mem_filter, hname, true_and, Bool.not_eq_true', eq_iff_iff] at hmem
    exact Bool.eq_iff_iff.mpr (by simpa [Bool.not_eq_false] using not_congr hmem)
  · intro h
    refine List.filter_congr fun name hname => ?_
    rw [h name hname]

/-- What is answered and sent when these uses are reported. -/
def reported (c : Config) (uri : Uri) (doc : Document) (unknown : List Usage) :
    Reply × List Outgoing :=
  match unknown.mapM fun u => do return (⟨u.name, ← doc.rangeOf u.start u.stop⟩ : Diagnostic) with
  | .error fault => (.stopped fault, [])
  | .ok found =>
    (.silence, [publication uri (found.map (Diagnostic.toJson c.diagnosticSeverity))
      (some doc.version)])

/-- An answer sends one report for each of these names, in this order. -/
def Flags (c : Config) (uri : Uri) (doc : Document) (answer : Reply × List Outgoing)
    (names : List Text) : Prop :=
  ∃ found : List Diagnostic, answer = (.silence,
    [publication uri (found.map (Diagnostic.toJson c.diagnosticSeverity)) (some doc.version)]) ∧
    found.map (·.name) = names

/-- Reports can be told apart by their wording. -/
theorem names_of_toJson {severity : Severity} {found found' : List Diagnostic}
    (h : found.map (Diagnostic.toJson severity) = found'.map (Diagnostic.toJson severity)) :
    found.map (·.name) = found'.map (·.name) := by
  let wording : Text → Option Json := fun name =>
    some (.str ("Class '".toList ++ name ++ "' not found in imported CSS files".toList))
  have hwording : ∀ a b, wording a = wording b → a = b := by
    intro a b hab
    have htexts := Json.str.inj (Option.some.inj hab)
    exact List.append_cancel_left (List.append_cancel_right htexts)
  have hread : ∀ ds : List Diagnostic, (ds.map (Diagnostic.toJson severity)).map
      (Json.field? "message") = (ds.map (·.name)).map wording := by
    intro ds
    rw [List.map_map, List.map_map]
    rfl
  have hsame := congrArg (List.map (Json.field? "message")) h
  rw [hread, hread] at hsame
  exact (List.map_inj_right hwording).mp hsame

theorem Flags.unique {c : Config} {answer : Reply × List Outgoing} {names names' : List Text}
    (h : Flags c uri doc answer names) (h' : Flags c uri doc answer names') : names = names' := by
  obtain ⟨found, hanswer, rfl⟩ := h
  obtain ⟨found', hanswer', rfl⟩ := h'
  refine names_of_toJson (?_ : found.map (Diagnostic.toJson c.diagnosticSeverity) = _)
  have hsent := List.head_eq_of_cons_eq (congrArg Prod.snd (hanswer.symm.trans hanswer'))
  have hparams := congrArg (fun o => (o.params.field? "diagnostics").bind Json.items?) hsent
  exact Option.some.inj hparams

/-- In a document whose blanks have one byte each, every use is reported. -/
theorem flags_reported (c : Config) (uri : Uri)
    (hone : ∀ ch ∈ doc.text, Text.isBlank ch = true → ch.utf8Size = 1) {unknown : List Usage}
    (h : ∀ u ∈ unknown, u ∈ usages doc c.attributeName) :
    Flags c uri doc (reported c uri doc unknown) (unknown.map (·.name)) := by
  obtain ⟨found, hfound, hnames⟩ := exists_ranges hone h
  refine ⟨found, ?_, hnames⟩
  unfold reported
  rw [hfound]

/-- The server runs with its settings, and its components come from the given texts. -/
structure Follows (disk : Disk) (c : Config) (texts : Table Path Text) (s : Server) : Prop where
  running : s.stage = .running
  config : s.config = c
  built : s.engine.BuiltFrom disk texts

/-- A report goes by the text of the component, or by its own where there is none. -/
theorem Follows.publish {c : Config} (h : Follows disk c texts s) (hwanted : c.diagnostics = true)
    (uri : Uri) (doc : Document) :
    Follows disk c (noted c.attributeName texts doc) (publish disk s uri doc).1 ∧
      (Server.publish disk s uri doc).2 =
        reported c uri doc (undefinedBy disk c.attributeName (source texts doc) doc) := by
  obtain ⟨hrunning, rfl, hbuilt⟩ := h
  obtain ⟨hnoted, hunknown⟩ := hbuilt.unknownClasses doc s.config.attributeName
  unfold Server.publish
  rw [hwanted, if_neg (by decide)]
  unfold reported undefinedBy diagnose
  rw [← hunknown]
  simp only
  cases ((unknownClasses disk s.engine doc s.config.attributeName).2.mapM fun u => do
      return (⟨u.name, ← doc.rangeOf u.start u.stop⟩ : Diagnostic)) with
  | error fault => exact ⟨⟨hrunning, rfl, hnoted⟩, rfl⟩
  | ok found => exact ⟨⟨hrunning, rfl, hnoted⟩, rfl⟩

/-! ## Messages one after another -/

/-- The texts of components after one more message. -/
def notedFrom (c : Config) (texts : Table Path Text) (m : Message) : Table Path Text :=
  match brings? c m with
  | some (_, doc) => noted c.attributeName texts doc
  | none => texts

theorem get?_notedFrom (c : Config) (texts : Table Path Text) (m : Message) (path : Path) :
    (notedFrom c texts m).get? path = (texts.get? path).or (textFor? c path m) := by
  unfold notedFrom textFor? noted
  cases brings? c m with
  | none => simp
  | some found =>
    simp only
    split
    · rename_i hempty
      simp [hempty]
    · rename_i hused
      have hentry : (⟨[(found.2.path, found.2.text)]⟩ : Table Path Text).get? path =
          if found.2.path == path then some found.2.text else none := rfl
      have hinserted := Table.get?_foldl_insertNew [(found.2.path, found.2.text)] texts path
      rw [hentry] at hinserted
      refine hinserted.trans ?_
      simp [hused]

theorem get?_foldl_notedFrom (c : Config) (texts : Table Path Text) (ms : List Message)
    (path : Path) :
    (ms.foldl (notedFrom c) texts).get? path = (texts.get? path).or (firstText? c ms path) := by
  unfold firstText?
  induction ms generalizing texts with
  | nil => simp
  | cons m ms ih =>
    rw [List.foldl_cons, ih, get?_notedFrom, Option.or_assoc, List.findSome?_cons]
    cases textFor? c path m <;> rfl

/-- A message about a document changes the texts by what it brings, and is
answered by a report for that. -/
theorem Follows.receive {c : Config} (h : Follows disk c texts s) (hwanted : c.diagnostics = true)
    (hm : IsAboutDocument m) :
    Follows disk c (notedFrom c texts m) (Server.receive disk s m).1 ∧
    ∀ uri doc, brings? c m = some (uri, doc) → (Server.receive disk s m).2 =
      reported c uri doc (undefinedBy disk c.attributeName (source texts doc) doc) := by
  obtain rfl := h.config
  unfold notedFrom
  cases hreceived : received? m with
  | none =>
    have hnone : brings? s.config m = none := by
      unfold brings?
      rw [hreceived]
      rfl
    obtain ⟨hstage, hconfig, hengine⟩ := receive_untouched h.running hm hreceived
    rw [hnone]
    refine ⟨⟨hstage.trans h.running, hconfig, ?_⟩, fun _ _ hfound => by cases hfound⟩
    rw [hengine]
    exact h.built
  | some found =>
    obtain ⟨uri, text, version⟩ := found
    have hbrings : brings? s.config m = component? s.config (uri, text, version) := by
      unfold brings?
      rw [hreceived]
      rfl
    rw [receive_of_received h.running hreceived, keep_eq, hbrings]
    cases component? s.config (uri, text, version) with
    | none => exact ⟨h, fun _ _ hfound => by cases hfound⟩
    | some kept =>
      obtain ⟨uri, doc⟩ := kept
      have hkept : Follows disk s.config texts { s with documents := s.documents.insert uri doc } :=
        ⟨h.running, h.config, h.built⟩
      obtain ⟨hnext, hreport⟩ := hkept.publish hwanted uri doc
      refine ⟨hnext, fun uri' doc' hfound => ?_⟩
      cases hfound
      exact hreport

/-- Through any messages about documents, the components come from the first texts. -/
theorem Follows.after {c : Config} (h : Follows disk c texts s) (hwanted : c.diagnostics = true)
    {ms : List Message} (hms : ∀ m ∈ ms, IsAboutDocument m) :
    Follows disk c (ms.foldl (notedFrom c) texts) (Server.after disk s ms) := by
  induction ms generalizing s texts with
  | nil => exact h
  | cons m ms ih =>
    exact ih (h.receive hwanted (hms m List.mem_cons_self)).1
      fun m' hm' => hms m' (List.mem_cons_of_mem m hm')

end Messages

/-- The text that a document is judged by behind some messages. -/
def judgedBy (c : Config) (ms : List Message) (doc : Document) : Text :=
  (firstText? c ms doc.path).getD doc.text

/-- **Reports go by the first text.** Take a server that runs, reports, and has
nothing indexed nor about to be, and let any messages open, change and close
documents. A message that then brings the text of a component is answered by a
report of the class names that it uses and that are not defined by the imports of
the first text of the component with class names. If no blank is longer than one
byte, the report is sent and names words of closed values; and it names those that
the imports of the new text do not define exactly when both imports define the same
of these words. -/
theorem reports_go_by_first_text (disk : Disk) {s : Server} (hrunning : s.stage = .running)
    (hwanted : s.config.diagnostics = true) (hnew : s.engine.index = Index.empty)
    (hidle : s.engine.inFlight = Table.empty)
    {ms : List Message} (hms : ∀ m ∈ ms, IsAboutDocument m) {m : Message} {uri : Uri}
    {doc : Document} (hbrings : brings? s.config m = some (uri, doc)) :
    (receive disk (after disk s ms) m).2 =
      reported s.config uri doc
        (undefinedBy disk s.config.attributeName (judgedBy s.config ms doc) doc) ∧
    ((∀ c ∈ doc.text, Text.isBlank c = true → c.utf8Size = 1) → ∀ values used,
      List.Forall₂ (ClosedValues s.config.attributeName []) doc.shownLines values →
      used = (values.flatten.flatMap fun v => words v.2) →
      Flags s.config uri doc (receive disk (after disk s ms) m).2
        (undefinedNames disk (judgedBy s.config ms doc) doc.path used) ∧
      (Flags s.config uri doc (receive disk (after disk s ms) m).2
          (undefinedNames disk doc.text doc.path used) ↔
        ∀ name ∈ used, definedBy disk (importPaths disk (judgedBy s.config ms doc) doc.path) name =
          definedBy disk (importPaths disk doc.text doc.path) name)) := by
  have hstart : Follows disk s.config Table.empty s :=
    ⟨hrunning, rfl, Engine.builtFrom_empty hnew hidle⟩
  have hsource : source (ms.foldl (notedFrom s.config) Table.empty) doc =
      judgedBy s.config ms doc := by
    unfold source judgedBy
    rw [get?_foldl_notedFrom, Table.get?_empty, Option.none_or]
  have hreport := ((hstart.after hwanted hms).receive hwanted (isAboutDocument_of_brings hbrings)).2
    uri doc hbrings
  rw [hsource] at hreport
  refine ⟨hreport, ?_⟩
  rintro hone values used hvalues rfl
  have hflags := flags_reported s.config uri hone
    fun u (hu : u ∈ undefinedBy disk s.config.attributeName (judgedBy s.config ms doc) doc) =>
      (List.mem_filter.mp hu).1
  rw [← hreport, undefinedBy_names disk _ doc hvalues] at hflags
  refine ⟨hflags, ?_⟩
  rw [← undefinedNames_eq_iff]
  constructor
  · intro hown
    exact hflags.unique hown
  · intro hsame
    rw [← hsame]
    exact hflags

namespace Sample

/-- Two stylesheets, and a component that imports the one and then the other. -/
def files : Disk :=
  (Disk.empty.write ⟨[0x2F, 0x61, 0x2E, 0x63, 0x73, 0x73]⟩ (.text ".x{}".toList) 1).write
    ⟨[0x2F, 0x62, 0x2E, 0x63, 0x73, 0x73]⟩ (.text ".y{}".toList) 1

def first : Text := "import './a.css'\n<p styleName='x'>".toList
def later : Text := "import './b.css'\n<p styleName='y'>".toList

def doc : Document := ⟨⟨[0x2F, 0x63, 0x2E, 0x6A, 0x73]⟩, later, 2⟩

def server : Server := { Server.new with stage := .running }

def opened : Message where
  isRequest := false
  method := "textDocument/didOpen".toList
  params := some (Json.ofFields [("textDocument", Json.ofFields
    [("uri", .ofString "file:///c.js"), ("languageId", .ofString "js"), ("version", .ofNat 1),
      ("text", .str first)])])

def changed : Message where
  isRequest := false
  method := "textDocument/didChange".toList
  params := some (Json.ofFields
    [("textDocument", Json.ofFields [("uri", .ofString "file:///c.js"), ("version", .ofNat 2)]),
      ("contentChanges", .arr [Json.ofFields [("text", .str later)]])])

/-- The wordings of the reports that were sent. -/
def wordings (sent : List Outgoing) : List (List (Option Text)) :=
  sent.map fun o => (((o.params.field? "diagnostics").bind Json.items?).getD []).map fun report =>
    (report.field? "message").bind Json.text?

end Sample

/-- The changed text is judged by the opened one: its class is reported, where the
imports of the changed text ask for no report. -/
theorem reports_go_by_first_text_changed :
    ∃ uri, brings? Sample.server.config Sample.changed = some (uri, Sample.doc) ∧
      Flags Sample.server.config uri Sample.doc
        (receive Sample.files (after Sample.files Sample.server [Sample.opened])
          Sample.changed).2 [['y']] ∧
      ¬ Flags Sample.server.config uri Sample.doc
        (receive Sample.files (after Sample.files Sample.server [Sample.opened])
          Sample.changed).2 [] := by
  have hread : (brings? Sample.server.config Sample.changed).map (fun found =>
      (found.2.path.spelling, found.2.text, found.2.version)) =
        some (Sample.doc.path.spelling, Sample.doc.text, Sample.doc.version) := by
    decide +kernel
  obtain ⟨⟨uri, ⟨⟨_⟩, _, _⟩⟩, hbrings, hparts⟩ := Option.map_eq_some_iff.mp hread
  cases hparts
  have hms : ∀ m ∈ [Sample.opened], IsAboutDocument m := by
    intro m hm
    rw [List.mem_singleton.mp hm]
    exact .inl rfl
  obtain ⟨values, hvalues⟩ := exists_closedValues_lines Sample.server.config.attributeName
    Sample.doc.shownLines
  have hused : [['y']] = values.flatten.flatMap fun v => words v.2 := by
    rw [← usages_names Sample.doc hvalues]
    decide +kernel
  have hone : ∀ c ∈ Sample.doc.text, Text.isBlank c = true → c.utf8Size = 1 := by
    have hall : (Sample.doc.text.all fun c => !Text.isBlank c || c.utf8Size == 1) = true := by
      decide +kernel
    simpa [or_iff_not_imp_left] using List.all_eq_true.mp hall
  obtain ⟨hflags, hown⟩ := (reports_go_by_first_text Sample.files rfl rfl rfl rfl hms hbrings).2
    hone values [['y']] hvalues hused
  have hjudged : undefinedNames Sample.files
      (judgedBy Sample.server.config [Sample.opened] Sample.doc) Sample.doc.path [['y']] =
        [['y']] := by
    decide +kernel
  have hnone : undefinedNames Sample.files Sample.doc.text Sample.doc.path [['y']] = [] := by
    decide +kernel
  refine ⟨uri, hbrings, by rwa [← hjudged], fun hempty => ?_⟩
  rw [← hnone] at hempty
  exact absurd (hown.mp hempty) (by decide +kernel)

/-- A class is reported as unknown though the text that uses it imports a
stylesheet that defines it. -/
theorem report_ignores_new_import :
    definedBy Sample.files (importPaths Sample.files Sample.later Sample.doc.path) ['y'] = true ∧
    Sample.wordings (receive Sample.files (after Sample.files Sample.server [Sample.opened])
      Sample.changed).2.2 = [[some "Class 'y' not found in imported CSS files".toList]] := by
  constructor <;> decide +kernel

end Server

end ClassLens
