import ClassLens.Editor.Lookup
import ClassLens.Proofs.Document.Places
import ClassLens.Proofs.Editor.Unknown
import ClassLens.Proofs.Engine.Built
import ClassLens.Proofs.Stylesheet.Offsets
/-
  Agreement — hovering, going to the definition, and the report

  The report of unknown classes splits values at blanks and asks whether the
  component has a class. Hovering and going to the definition take the run of
  class name characters around the cursor, and ask for all definitions and for
  the winning one. For a name that stands between blanks or quotes all three
  are about the same name and come to the same answer.

  What is proved:
    1. `UsedName.classAt?_eq` — the class at any place on a name is that name;
    2. `UsedName.mem_usages` — the name is among those the document uses;
    3. `Component.IsBuilt.definition?_eq`, `Component.IsBuilt.exists_destination`
       — a class has a winning definition when it has any, and a place to go to;
    4. `Workload.ensureDocument_built`, `Asked.ensureDocument` — there is a
       component to ask, and it stays the same while the features are asked;
    5. `features_agree` — the three answers.
-/

namespace ClassLens

/-- A class name in a closed value of a document, with all that stands around it:
the lines above and below, what is before the value on its line, and what
separates the name from the rest of the value. -/
structure UsedName (doc : Document) (attr : Text) where
  above : Text
  line : Text
  below : Text
  values : List (Text × Text)
  before : Text
  left : Text
  name : Text
  right : Text
  text_eq : doc.text = above ++ (line ++ below)
  above_ends : above = [] ∨ above.getLast? = some '\n'
  line_unbroken : '\n' ∉ line
  below_starts : below = [] ∨ below.head? = some '\n'
  closed : ClosedValues attr [] (Document.dropReturns line) values
  value_mem : (before, left ++ (name ++ right)) ∈ values
  left_ends : ∀ c, left.getLast? = some c → Text.isBlank c = true
  right_starts : ∀ c, right.head? = some c → Text.isBlank c = true
  name_nonempty : name ≠ []
  name_parts : ∀ c ∈ name, ClassName.isPart c = true

namespace UsedName

variable {doc : Document} {attr : Text} (u : UsedName doc attr)

/-- The byte offset of the name's first character. -/
def start : Nat := Text.bytes (u.above ++ (u.before ++ u.left))

/-- The byte offset behind the name's last character. -/
def stop : Nat := u.start + Text.bytes u.name

/-- The place is on the name's line, from just before its first character to
just behind its last. -/
def Touches (p : Position) : Prop :=
  p.line = u.above.count '\n' ∧ Text.units (u.before ++ u.left) ≤ p.character ∧
    p.character ≤ Text.units (u.before ++ u.left) + Text.units u.name

/-! ## The class at a place -/

theorem not_isPart_of_isBlank {c : Char} (h : Text.isBlank c = true) :
    ClassName.isPart c = false := by
  have hends : Stylesheet.Ends [c] := Stylesheet.ends_of_blank (by simpa using h)
  exact hends c rfl

theorem not_isPart_of_quote {q : Char} (h : q = '"' ∨ q = '\'') : ClassName.isPart q = false := by
  rcases h with rfl | rfl <;> rfl

theorem line_parts : ∃ init c post,
    Document.dropReturns u.line = (u.before ++ u.left) ++ (u.name ++ post) ∧
      u.before ++ u.left = init ++ [c] ∧ ClassName.isPart c = false ∧ Stylesheet.Ends post := by
  obtain ⟨q, init, tail, hquote, hbefore, hparts⟩ := u.closed.parts u.value_mem
  rw [List.nil_append] at hparts
  have hline : Document.dropReturns u.line =
      (u.before ++ u.left) ++ (u.name ++ (u.right ++ q :: tail)) := by
    rw [hparts]
    simp
  have hpost : Stylesheet.Ends (u.right ++ q :: tail) := by
    apply Stylesheet.Ends.append
    · exact fun c hc => not_isPart_of_isBlank (u.right_starts c hc)
    · exact Stylesheet.ends_cons (not_isPart_of_quote hquote) tail
  -- in front of it is the last blank of what is left of it, or else the opening quote
  rcases List.eq_nil_or_concat u.left with hleft | ⟨left, c, hleft⟩
  · refine ⟨init, q, u.right ++ q :: tail, hline, ?_, not_isPart_of_quote hquote, hpost⟩
    rw [hbefore, hleft, List.append_nil]
  · have hblank : Text.isBlank c = true := u.left_ends c (by simp [hleft])
    refine ⟨u.before ++ left, c, _, hline, ?_, not_isPart_of_isBlank hblank, hpost⟩
    rw [hleft]
    simp

theorem text_parts : ∃ post, doc.text = (u.above ++ (u.before ++ u.left)) ++ (u.name ++ post) := by
  obtain ⟨-, -, post, hline, -⟩ := u.line_parts
  obtain ⟨returns, hreturns⟩ := Document.dropReturns_parts u.line
  refine ⟨post ++ (returns ++ u.below), ?_⟩
  rw [u.text_eq, hreturns, hline]
  simp

theorem row?_eq {p : Position} (hp : u.Touches p) :
    doc.row? p.line = some (Text.bytes u.above, Document.dropReturns u.line) := by
  rw [hp.1]
  exact Document.row?_eq u.text_eq u.above_ends u.line_unbroken u.below_starts

theorem byteColumn_mem {p : Position} (hp : u.Touches p) :
    Text.bytes (u.before ++ u.left) ≤
        Document.byteColumn p.character (Document.dropReturns u.line) ∧
      Document.byteColumn p.character (Document.dropReturns u.line) ≤
        Text.bytes (u.before ++ u.left) + Text.bytes u.name := by
  obtain ⟨-, -, post, hline, -⟩ := u.line_parts
  obtain ⟨-, hfrom, hto⟩ := hp
  obtain ⟨n, hn⟩ := Nat.exists_eq_add_of_le hfrom
  have hlength : n ≤ u.name.length := by
    rw [Text.units_of_isPart u.name_parts] at hto
    omega
  rw [hline, hn, Document.byteColumn_append, Document.byteColumn_of_isPart u.name_parts _ hlength,
    Text.bytes_of_isPart u.name_parts]
  omega

theorem exists_attributeValueAt? {column : Nat}
    (hfrom : Text.bytes (u.before ++ u.left) ≤ column)
    (hto : column ≤ Text.bytes (u.before ++ u.left) + Text.bytes u.name) :
    ∃ v, attributeValueAt? attr (Document.dropReturns u.line) column = some v := by
  have hmem : (⟨Text.bytes u.before, u.left ++ (u.name ++ u.right), true⟩ : AttributeValue) ∈
      attributeValues attr (Document.dropReturns u.line) := by
    have hclosed := attributeValues_eq u.closed
    have hvalue := List.mem_map_of_mem
      (f := fun v : Text × Text => (⟨Text.bytes v.1, v.2, true⟩ : AttributeValue)) u.value_mem
    rw [← hclosed] at hvalue
    exact (List.mem_filter.mp hvalue).1
  rw [← Option.isSome_iff_exists]
  unfold attributeValueAt?
  rw [List.find?_isSome]
  refine ⟨_, hmem, ?_⟩
  unfold AttributeValue.touches AttributeValue.stop
  simp only [Text.bytes_append, Bool.and_eq_true, decide_eq_true_eq] at hfrom hto ⊢
  omega

/-- The class at any place on a name is the name, between its two offsets. -/
theorem classAt?_eq {p : Position} (hp : u.Touches p) :
    classAt? doc p attr = some (u.name, u.start, u.stop) := by
  obtain ⟨hfrom, hto⟩ := u.byteColumn_mem hp
  obtain ⟨v, hv⟩ := u.exists_attributeValueAt? hfrom hto
  obtain ⟨init, c, post, hline, hpre, hc, hpost⟩ := u.line_parts
  have hbytes := Text.bytes_of_isPart u.name_parts
  have hstart : u.start = Text.bytes u.above + Text.bytes (u.before ++ u.left) :=
    Text.bytes_append _ _
  have hword : doc.wordAt? p = some (u.start, u.stop) := by
    -- no class name goes on across the character in front, so the run is the name alone
    have hfound := Document.find?_wordRuns hc u.name_parts u.name_nonempty hpost
      (hpre ▸ hfrom) (hpre ▸ hbytes ▸ hto)
    rw [List.append_cons, ← hpre, ← hline] at hfound
    unfold Document.wordAt?
    rw [u.row?_eq hp]
    simp only [hfound, Option.map_some, stop, hstart, hbytes, Nat.add_assoc]
  have hslice : Text.slice? (u.start - Text.bytes u.above) (u.stop - Text.bytes u.above)
      (Document.dropReturns u.line) = some u.name := by
    have hfirst : u.start - Text.bytes u.above = Text.bytes (u.before ++ u.left) := by omega
    have hlast : u.stop - Text.bytes u.above =
        Text.bytes (u.before ++ u.left) + Text.bytes u.name := by
      unfold stop
      omega
    rw [hfirst, hlast, hline]
    exact Text.slice?_append _ _ _
  unfold classAt?
  rw [u.row?_eq hp]
  simp [hv, hword, hslice]

/-! ## The name among those used -/

/-- What stands between blanks, or between a blank and an end of the value, is a word of it. -/
theorem mem_words : u.name ∈ words (u.left ++ (u.name ++ u.right)) := by
  have hname : ∀ c ∈ u.name, Text.isBlank c = false := by
    intro c hc
    refine Bool.eq_false_iff.mpr fun hblank => ?_
    have hpart := u.name_parts c hc
    rw [not_isPart_of_isBlank hblank] at hpart
    cases hpart
  have hfirst : u.name ∈ (u.name ++ u.right).splitOnP Text.isBlank := by
    cases hright : u.right with
    | nil => rw [List.append_nil, List.splitOnP_eq_singleton hname, List.mem_singleton]
    | cons c right =>
      have hblank : Text.isBlank c = true := u.right_starts c (by rw [hright]; rfl)
      rw [List.splitOnP_append_cons _ _ hblank, List.splitOnP_eq_singleton hname]
      exact List.mem_append_left _ (List.mem_singleton.mpr rfl)
  unfold words
  refine List.mem_filter.mpr ⟨?_, decide_eq_true u.name_nonempty⟩
  rcases List.eq_nil_or_concat u.left with hleft | ⟨left, c, hleft⟩
  · rw [hleft, List.nil_append]
    exact hfirst
  · have hblank : Text.isBlank c = true := u.left_ends c (by simp [hleft])
    rw [hleft, List.concat_append, List.splitOnP_append_cons _ _ hblank]
    exact List.mem_append_right _ hfirst

theorem mem_usages : u.name ∈ (usages doc attr).map (·.name) := by
  have hrow : (Text.bytes u.above, u.line) ∈ doc.rows := by
    have hget := Document.lineStartsFrom_getElem? u.above_ends u.line_unbroken u.below_starts 0
    rw [← u.text_eq, Nat.zero_add] at hget
    exact List.mem_of_getElem? hget
  have hline : u.name ∈ (usagesOnLine attr (Text.bytes u.above)
      (Document.dropReturns u.line)).map (·.name) := by
    rw [usagesOnLine_names attr _ u.closed]
    exact List.mem_flatMap.mpr ⟨_, u.value_mem, u.mem_words⟩
  unfold usages
  rw [List.map_flatMap]
  exact List.mem_flatMap.mpr ⟨_, hrow, hline⟩

end UsedName

/-! ## What a component answers -/

theorem Sheet.Apart.find?_path {sheets : List Sheet} (h : Sheet.Apart sheets) {s : Sheet}
    (hs : s ∈ sheets) : sheets.find? (·.path == s.path) = some s := by
  induction sheets with
  | nil => cases hs
  | cons t rest ih =>
    obtain ⟨hfirst, hrest⟩ := List.pairwise_cons.mp h
    rcases List.mem_cons.mp hs with rfl | hs
    · exact List.find?_cons_of_pos BEq.rfl
    · rw [List.find?_cons_of_neg (by simp [hfirst s hs])]
      exact ih hrest hs

namespace Component.IsBuilt

variable {k : Component}

theorem definition?_eq (h : k.IsBuilt) (name : Text) :
    k.definition? name = (k.occurrences name).head? := by
  have hlaw : ∀ s ∈ k.sheets, Stylesheet.FirstOfEach s.classes s.occurrences := by
    intro s hs
    rw [h.sheets s hs]
    exact Sheet.firstOfEach_build s.content s.path s.modified
  rw [h.eq_build]
  exact Component.definition?_eq_head? hlaw name

theorem exists_destination (h : k.IsBuilt) (habsolute : ∀ s ∈ k.sheets, s.path.isAbsolute = true)
    {name : Text} {d : Definition} (hd : d ∈ k.occurrences name) :
    ∃ place, destinationOf k d = .ok (some place) := by
  obtain ⟨s, hs, hmem⟩ := List.mem_flatMap.mp hd
  obtain ⟨hfile, column, hcolumn⟩ := Sheet.columnOf_eq_ok (h.sheets s hs) hmem
  have hsheet : k.sheet? s.path = some s := h.apart.find?_path hs
  unfold destinationOf
  rw [hfile, hsheet]
  unfold Uri.ofPath?
  rw [if_pos (habsolute s hs)]
  simp only [hcolumn]
  exact ⟨_, rfl⟩

end Component.IsBuilt

/-! ## The component that is asked -/

section Asking

variable {disk : Disk} {doc : Document} {attr : Text} {e : Engine} {k : Component}

/-- The component that is handed out is the one that is there from then on. -/
theorem component?_ensureDocument (disk : Disk) (e : Engine) (doc : Document) :
    (e.ensureDocument disk doc).1.component? doc.path = (e.ensureDocument disk doc).2 := by
  cases hindexed : e.component? doc.path with
  | some k =>
    unfold Engine.ensureDocument
    rw [hindexed]
    exact hindexed
  | none => exact (Engine.ensureDocument_index disk hindexed).2.symm

/-- A document gets a component. It was indexed, or else is up to the standard of the
run that builds it. -/
theorem Engine.ensureDocument_yields {S : Standard} {K L : Component → Prop}
    (hyields : Index.Yields disk S K) (hbetter : ∀ k, K k → L k)
    (hindexed : ∀ k, e.component? doc.path = some k → L k)
    (hcache : ∀ q s, e.index.cache.get? q = some s → (s.path == q) = true ∧ S.holds s)
    (hown : ∀ p ∈ importPaths disk doc.text doc.path, S.asks p) (hflies : e.FliesBy S doc.path) :
    ∃ k, (e.ensureDocument disk doc).2 = some k ∧ L k := by
  cases hcomponent : e.component? doc.path with
  | some k =>
    have hanswer : (e.ensureDocument disk doc).2 = some k := by
      unfold Engine.ensureDocument
      rw [hcomponent]
    exact ⟨k, hanswer, hindexed k hcomponent⟩
  | none =>
    obtain ⟨-, k, hk, hyielded, -⟩ :=
      ensureDocument_judging hyields hcomponent hcache hown hflies
    exact ⟨k, hk, hbetter k hyielded⟩

/-- After any run a document gets a component, and it is built. -/
theorem Workload.ensureDocument_built (window : Nat) (script : List (Disk × Action))
    (disk : Disk) (doc : Document) :
    ∃ k, ((run window script).engine.ensureDocument disk doc).2 = some k ∧ k.IsBuilt := by
  have hkept := built_run window script
  exact Engine.ensureDocument_yields (yields_built disk) (fun _ hk => hk)
    (fun k hk => (hkept.index.built _ k hk).2) hkept.index.cached (fun _ _ => trivial)
    (fliesBy_run hkept.runs doc.path)

/-- Sheets are made of texts, and asked for by absolute paths. -/
def Standard.absolute : Standard :=
  { Standard.built with asks := fun p => p.isAbsolute = true }

/-- A sheet may be of another spelling of the import, which is absolute as well. -/
theorem yields_absolute (disk : Disk) : Index.Yields disk .absolute fun k =>
    (k.IsBuilt ∧ ∀ s ∈ k.sheets, s.path.isAbsolute = true) ∧
      ∀ p ∈ k.imports, p.isAbsolute = true where
  stamping := fun _ _ _ _ => trivial
  reading := fun _ _ _ _ _ _ => rfl
  failing := fun _ _ _ _ => trivial
  building := by
    intro component imports sheets himports hgathered
    refine ⟨⟨⟨rfl, hgathered.holds, hgathered.sheets_apart⟩, fun s hs => ?_⟩, himports⟩
    obtain ⟨p, hp, hfound⟩ := hgathered.exists_of_mem hs
    exact Path.isAbsolute_of_beq hfound.1 (himports p hp)
  asking := fun _ hk => hk.2

/-- The sheets of the component that a document gets are of absolute paths if those of a
component known before are, and the imports of a run in flight. -/
theorem Workload.ensureDocument_absolute (window : Nat) (script : List (Disk × Action))
    (disk : Disk) (doc : Document)
    (hindexed : ∀ k, (run window script).engine.component? doc.path = some k →
      ∀ s ∈ k.sheets, s.path.isAbsolute = true)
    (hflying : ∀ r, (run window script).engine.flying? doc.path = some r →
      ∀ p ∈ r.imports, p.isAbsolute = true) :
    ∃ k, ((run window script).engine.ensureDocument disk doc).2 = some k ∧
      k.IsBuilt ∧ ∀ s ∈ k.sheets, s.path.isAbsolute = true := by
  have hkept := built_run window script
  refine Engine.ensureDocument_yields (yields_absolute disk) (fun _ hk => hk.1)
    (fun k hk => ⟨(hkept.index.built doc.path k hk).2, hindexed k hk⟩) hkept.index.cached
    (fun p hp => (isNormal_of_mem_importPaths hp).1) fun n hentry => ?_
  obtain ⟨r, hr, hpath, -, hgathered, hfresh, hknows⟩ := fliesBy_run hkept.runs doc.path n hentry
  refine ⟨r, hr, hpath, hflying r ?_, hgathered, hfresh, hknows⟩
  unfold Engine.flying?
  rw [hentry]
  exact hr

/-- What becomes of an engine when the features are asked about a document, in
any order and as often as one likes. -/
inductive Asked (disk : Disk) (doc : Document) (attr : Text) (e : Engine) : Engine → Prop where
  | nothing : Asked disk doc attr e e
  | unknown {e' : Engine} (before : Asked disk doc attr e e') :
      Asked disk doc attr e (unknownClasses disk e' doc attr).1
  | hover {e' : Engine} (before : Asked disk doc attr e e') (p : Position) :
      Asked disk doc attr e (hover disk e' doc p attr).1
  | definition {e' : Engine} (before : Asked disk doc attr e e') (p : Position) :
      Asked disk doc attr e (goToDefinition disk e' doc p attr).1

theorem unknownClasses_engine (disk : Disk) (e : Engine) (doc : Document) (attr : Text) :
    (unknownClasses disk e doc attr).1 = e ∨
      (unknownClasses disk e doc attr).1 = (e.ensureDocument disk doc).1 := by
  unfold unknownClasses
  simp only
  split
  · exact .inl rfl
  · right
    split <;> rename_i hensured <;> rw [hensured]

theorem hover_engine (disk : Disk) (e : Engine) (doc : Document) (p : Position) (attr : Text) :
    (hover disk e doc p attr).1 = e ∨
      (hover disk e doc p attr).1 = (e.ensureDocument disk doc).1 := by
  unfold hover
  split
  · exact .inl rfl
  · right
    split
    · rename_i hensured
      rw [hensured]
    · rename_i hensured
      simp only
      split <;> rw [hensured]

theorem goToDefinition_engine (disk : Disk) (e : Engine) (doc : Document) (p : Position)
    (attr : Text) :
    (goToDefinition disk e doc p attr).1 = e ∨
      (goToDefinition disk e doc p attr).1 = (e.ensureDocument disk doc).1 := by
  unfold goToDefinition
  split
  · exact .inl rfl
  · right
    split
    · rename_i hensured
      rw [hensured]
    · rename_i hensured
      split <;> rw [hensured]

theorem ensureDocument_next {e' : Engine} (hk : (e.ensureDocument disk doc).2 = some k)
    (h : e' = e ∨ e' = (e.ensureDocument disk doc).1) :
    (e'.ensureDocument disk doc).2 = some k := by
  rcases h with rfl | rfl
  · exact hk
  · have hindexed := (component?_ensureDocument disk e doc).trans hk
    rw [Engine.ensureDocument, hindexed]

/-- Whatever was asked before, the same component answers. -/
theorem Asked.ensureDocument {e' : Engine} (h : Asked disk doc attr e e')
    (hk : (e.ensureDocument disk doc).2 = some k) :
    (e'.ensureDocument disk doc).2 = some k := by
  induction h with
  | nothing => exact hk
  | unknown _ ih => exact ensureDocument_next ih (unknownClasses_engine disk _ doc attr)
  | hover _ p ih => exact ensureDocument_next ih (hover_engine disk _ doc p attr)
  | definition _ p ih => exact ensureDocument_next ih (goToDefinition_engine disk _ doc p attr)

/-! ## The three answers -/

variable {name : Text} {start stop : Nat} {p : Position}

theorem mem_unknownClasses (hk : (e.ensureDocument disk doc).2 = some k)
    (hname : name ∈ (usages doc attr).map (·.name)) :
    name ∈ (unknownClasses disk e doc attr).2.map (·.name) ↔ k.definition? name = none := by
  have hensured : e.ensureDocument disk doc = ((e.ensureDocument disk doc).1, some k) :=
    Prod.ext rfl hk
  have hclass : ∀ name, (!k.hasClass name) = (k.definition? name).isNone := fun name =>
    Option.not_isSome (k.definition? name)
  unfold unknownClasses
  rw [hensured]
  obtain ⟨u, hu, rfl⟩ := List.mem_map.mp hname
  have hsome : (usages doc attr).isEmpty = false := by
    refine Bool.eq_false_iff.mpr fun hempty => ?_
    rw [List.isEmpty_iff.mp hempty] at hu
    cases hu
  simp only [hsome, Bool.false_eq_true, if_false, hclass, List.mem_map, List.mem_filter,
    Option.isNone_iff_eq_none]
  constructor
  · rintro ⟨v, ⟨-, hv⟩, hsame⟩
    rw [← hsame]
    exact hv
  · intro hnone
    exact ⟨u, ⟨hu, hnone⟩, rfl⟩

theorem hover_eq (hclass : classAt? doc p attr = some (name, start, stop))
    (hk : (e.ensureDocument disk doc).2 = some k) :
    (hover disk e doc p attr).2 =
      if (k.occurrences name).isEmpty then .ok none
      else do return some ⟨k.markdown (k.occurrences name), ← doc.rangeOf start stop⟩ := by
  have hensured : e.ensureDocument disk doc = ((e.ensureDocument disk doc).1, some k) :=
    Prod.ext rfl hk
  unfold hover
  rw [hclass]
  simp only
  rw [hensured]
  simp only
  split <;> rfl

theorem goToDefinition_eq (hclass : classAt? doc p attr = some (name, start, stop))
    (hk : (e.ensureDocument disk doc).2 = some k) :
    (goToDefinition disk e doc p attr).2 =
      match k.definition? name with
      | none => .ok none
      | some d => destinationOf k d := by
  have hensured : e.ensureDocument disk doc = ((e.ensureDocument disk doc).1, some k) :=
    Prod.ext rfl hk
  unfold goToDefinition
  rw [hclass]
  simp only
  rw [hensured]
  simp only
  cases k.definition? name <;> rfl

end Asking

/-- **The features agree.** Take an engine after any run, and a class name in a
closed value of a document, between blanks or quotes. At any place on the name,
the class there is the name, between its two offsets. Hovering and going to the
definition answer there without fault, and the same however often and in
whatever order the features were asked before; one shows nothing exactly when
the other goes nowhere, which is exactly when the name is reported. -/
theorem features_agree (window : Nat) (script : List (Disk × Workload.Action)) (disk : Disk)
    {doc : Document} {attr : Text} (u : UsedName doc attr) {p : Position} (hp : u.Touches p)
    (habsolute : ∀ k, (Workload.run window script).engine.component? doc.path = some k →
      ∀ s ∈ k.sheets, s.path.isAbsolute = true)
    (hflying : ∀ r, (Workload.run window script).engine.flying? doc.path = some r →
      ∀ p ∈ r.imports, p.isAbsolute = true) :
    classAt? doc p attr = some (u.name, u.start, u.stop) ∧
    Text.slice? u.start u.stop doc.text = some u.name ∧
    ∃ shown found, (shown = none ↔ found = none) ∧
      ∀ e, Asked disk doc attr (Workload.run window script).engine e →
        (hover disk e doc p attr).2 = .ok shown ∧
        (goToDefinition disk e doc p attr).2 = .ok found ∧
        (u.name ∈ (unknownClasses disk e doc attr).2.map (·.name) ↔ shown = none) := by
  have hclass := u.classAt?_eq hp
  obtain ⟨post, htext⟩ := u.text_parts
  have hslice : Text.slice? u.start u.stop doc.text = some u.name := by
    rw [htext]
    exact Text.slice?_append _ _ _
  refine ⟨hclass, hslice, ?_⟩
  obtain ⟨k, hk, hkbuilt, hkabsolute⟩ :=
    Workload.ensureDocument_absolute window script disk doc habsolute hflying
  have hfirst := hkbuilt.definition?_eq u.name
  cases hfound : k.occurrences u.name with
  | nil =>
    -- nothing defines the name
    rw [hfound, List.head?_nil] at hfirst
    refine ⟨none, none, by simp, fun e he => ?_⟩
    have hke := he.ensureDocument hk
    refine ⟨?_, ?_, ?_⟩
    · rw [hover_eq hclass hke, hfound]
      rfl
    · rw [goToDefinition_eq hclass hke, hfirst]
    · rw [mem_unknownClasses hke u.mem_usages, hfirst]
      simp
  | cons d ds =>
    -- the first definition is the one to go to
    rw [hfound, List.head?_cons] at hfirst
    have hd : d ∈ k.occurrences u.name := by
      rw [hfound]
      exact List.mem_cons_self
    obtain ⟨range, hrange⟩ := Document.exists_rangeOf htext
    obtain ⟨place, hplace⟩ := hkbuilt.exists_destination hkabsolute hd
    refine ⟨some ⟨k.markdown (d :: ds), range⟩, some place, by simp, fun e he => ?_⟩
    have hke := he.ensureDocument hk
    refine ⟨?_, ?_, ?_⟩
    · rw [hover_eq hclass hke, hfound, UsedName.stop, UsedName.start, hrange]
      rfl
    · rw [goToDefinition_eq hclass hke, hfirst]
      exact hplace
    · rw [mem_unknownClasses hke u.mem_usages, hfirst]
      simp

namespace UsedName

namespace Sample

/-- A document that uses three names in two values, one next to the other. -/
def doc : Document where
  path := ⟨[0x2F, 0x63]⟩
  text := "import './a.css'\nstyleName=\"y x\" styleName='z'\r\n".toList
  version := 1

def attr : Text := "styleName".toList

def line : Text := "styleName=\"y x\" styleName='z'\r".toList

def values : List (Text × Text) :=
  [("styleName=\"".toList, "y x".toList), ("styleName=\"y x\" styleName='".toList, ['z'])]

theorem closed : ClosedValues attr [] (Document.dropReturns line) values := by
  have hfirst : OpensAt attr [] (Document.dropReturns line) '"' "styleName=\"".toList
      "y x\" styleName='z'".toList :=
    ⟨by decide +kernel, ⟨.inl rfl, [], [], by simp, by simp, by decide +kernel⟩, by decide +kernel⟩
  have hspace : Unopened attr "styleName=\"y x\"".toList [' '] "styleName='z'".toList := by
    refine Unopened.cons (fun q opening behind hopens => ?_) (unopened_nil _ _ _)
    -- a quote and a space have no boundary between them
    have hboundary := hopens.boundary
    revert hboundary
    decide +kernel
  have hsecond : OpensAt attr "styleName=\"y x\" ".toList "styleName='z'".toList '\''
      "styleName='".toList "z'".toList :=
    ⟨by decide +kernel, ⟨.inr rfl, [], [], by simp, by simp, by decide +kernel⟩, by decide +kernel⟩
  exact .closed (unopened_nil _ _ _) hfirst (by decide +kernel)
    (.closed hspace hsecond (by decide +kernel) (.none (unopened_nil _ _ _)))

/-- The second name of the first value, up to its closing quote. -/
def x : UsedName doc attr where
  above := "import './a.css'\n".toList
  line := line
  below := ['\n']
  values := values
  before := "styleName=\"".toList
  left := ['y', ' ']
  name := ['x']
  right := []
  text_eq := by decide +kernel
  above_ends := .inr (by decide +kernel)
  line_unbroken := by decide +kernel
  below_starts := .inr rfl
  closed := closed
  value_mem := by decide +kernel
  left_ends := by simp [Text.isBlank]
  right_starts := by simp
  name_nonempty := by simp
  name_parts := List.forall_mem_singleton.mpr rfl

/-- The only name of the second value, from its opening quote. -/
def z : UsedName doc attr where
  above := "import './a.css'\n".toList
  line := line
  below := ['\n']
  values := values
  before := "styleName=\"y x\" styleName='".toList
  left := []
  name := ['z']
  right := []
  text_eq := by decide +kernel
  above_ends := .inr (by decide +kernel)
  line_unbroken := by decide +kernel
  below_starts := .inr rfl
  closed := closed
  value_mem := by decide +kernel
  left_ends := by simp
  right_starts := by simp
  name_nonempty := by simp
  name_parts := List.forall_mem_singleton.mpr rfl

/-- The document is indexed already, with the stylesheet that defines `x`. -/
def script : List (Disk × Workload.Action) :=
  [(Document.Sample.disk, .index doc.path [Document.Sample.a])]

def engine : Engine := (Workload.run 300 script).engine

theorem absolute : ∀ k, engine.component? doc.path = some k →
    ∀ s ∈ k.sheets, s.path.isAbsolute = true := by
  intro k hk s hs
  have hall : ((engine.component? doc.path).map fun k =>
      k.sheets.all (·.path.isAbsolute)) = some true := by
    decide +kernel
  rw [hk] at hall
  exact List.all_eq_true.mp (Option.some.inj hall) s hs

theorem idle : ∀ r, engine.flying? doc.path = some r → ∀ p ∈ r.imports, p.isAbsolute = true := by
  intro r hr
  cases (show engine.flying? doc.path = none from rfl).symm.trans hr

end Sample

/-- Behind the last character of a defined name both features answer, before the
first of an undefined one neither does, and only the second is reported. -/
theorem features_agree_at_quotes :
    (∃ shown found,
      (hover Document.Sample.disk Sample.engine Sample.doc ⟨1, 14⟩ Sample.attr).2 =
        .ok (some shown) ∧
      (goToDefinition Document.Sample.disk Sample.engine Sample.doc ⟨1, 14⟩ Sample.attr).2 =
        .ok (some found)) ∧
    (hover Document.Sample.disk Sample.engine Sample.doc ⟨1, 27⟩ Sample.attr).2 = .ok none ∧
    (goToDefinition Document.Sample.disk Sample.engine Sample.doc ⟨1, 27⟩ Sample.attr).2 =
      .ok none ∧
    classAt? Sample.doc ⟨1, 14⟩ Sample.attr = some (['x'], 30, 31) ∧
    classAt? Sample.doc ⟨1, 27⟩ Sample.attr = some (['z'], 44, 45) := by
  have hx : Sample.x.Touches ⟨1, 14⟩ := by
    unfold Touches
    decide +kernel
  have hz : Sample.z.Touches ⟨1, 27⟩ := by
    unfold Touches
    decide +kernel
  have hreport : (unknownClasses Document.Sample.disk Sample.engine Sample.doc
      Sample.attr).2.map (·.name) = [['y'], ['z']] := by
    decide +kernel
  obtain ⟨hclassx, -, shownx, foundx, hbothx, hagreex⟩ :=
    features_agree 300 Sample.script Document.Sample.disk Sample.x hx
      Sample.absolute Sample.idle
  obtain ⟨hclassz, -, shownz, foundz, hbothz, hagreez⟩ :=
    features_agree 300 Sample.script Document.Sample.disk Sample.z hz
      Sample.absolute Sample.idle
  obtain ⟨hshownx, hfoundx, hmemx⟩ := hagreex Sample.engine .nothing
  obtain ⟨hshownz, hfoundz, hmemz⟩ := hagreez Sample.engine .nothing
  rw [hreport] at hmemx hmemz
  have hsomex : shownx ≠ none := fun hnone => absurd (hmemx.mpr hnone) (by decide +kernel)
  have hnonez : shownz = none := hmemz.mp (by decide +kernel)
  obtain ⟨shown, rfl⟩ := Option.ne_none_iff_exists'.mp hsomex
  obtain ⟨found, rfl⟩ := Option.ne_none_iff_exists'.mp fun hnone => hsomex (hbothx.mpr hnone)
  rw [hbothz.mp hnonez] at hfoundz
  rw [hnonez] at hshownz
  have hspanx : (Sample.x.start, Sample.x.stop) = (30, 31) := by decide +kernel
  have hspanz : (Sample.z.start, Sample.z.stop) = (44, 45) := by decide +kernel
  rw [hspanx] at hclassx
  rw [hspanz] at hclassz
  exact ⟨⟨shown, found, hshownx, hfoundx⟩, hshownz, hfoundz, hclassx, hclassz⟩

end UsedName

end ClassLens
