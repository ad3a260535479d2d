import ClassLens.Proofs.Disk.Reaching
import ClassLens.Proofs.Editor.Unknown
/-
  Sources — the texts that components were built from

  A component is built from the text of the first document that asks for it,
  and the documents of the same path that come later are judged by what that
  text imports. With the disk as it is, nothing else of the engine shows in a
  report: neither what other documents had read nor in what order.

  What is proved:
    1. `importPaths_of_beq` — the imports of a text do not depend on how the
       path of its component is spelled;
    2. `Mirrors.indexComponent` — a cache of what the files hold goes on being one;
    3. `BuiltFrom.ensureDocument`, `BuiltFrom.unknownClasses` — which text a
       document is judged by, and which texts are kept after it.
-/

namespace ClassLens

/-! ## Spellings of a component -/

theorem Path.parent?_of_beq {p q : Path} (h : (p == q) = true) : p.parent? = q.parent? := by
  unfold parent?
  rw [(beq_iff p q).mp h]

theorem importPaths_of_beq (disk : Disk) (text : Text) {p q : Path} (h : (p == q) = true) :
    importPaths disk text p = importPaths disk text q := by
  have hresolve : ∀ written, resolveImport disk p written = resolveImport disk q written := by
    intro written
    unfold resolveImport
    rw [Path.parent?_of_beq h]
  -- a statement may be refused for its component, but only if that is relative
  have hcreate : ∀ written resolved line,
      ((ImportStatement.create written resolved p line).toOption.map (·.resolved)) =
        (ImportStatement.create written resolved q line).toOption.map (·.resolved) := by
    intro written resolved line
    unfold ImportStatement.create
    rw [Path.isAbsolute_congr h]
    repeat' split
    all_goals rfl
  unfold importPaths importStatements
  rw [List.map_filterMap, List.map_filterMap]
  congr 2
  funext found
  rw [hresolve]
  split
  · rfl
  · split
    · rfl
    · rename_i resolved _
      have hsame := hcreate found.path resolved found.line
      split <;> split <;> simp_all [Except.toOption]

/-! ## Caches -/

namespace Index

variable {disk : Disk} {idx : Index}

theorem Mirrors.indexComponent (h : Mirrors disk idx.cache) (component : Path)
    {imports : List Path} (hnormal : ∀ p ∈ imports, p.IsNormal) :
    Mirrors disk (indexComponent disk idx component imports).cache := by
  rw [← Run.finish_start]
  exact ((Run.carries_start component hnormal).finish (yields_mirrors disk) h).1

end Index

/-! ## Texts of components -/

/-- The text that a document is judged by: that of its component, or its own. -/
def source (texts : Table Path Text) (doc : Document) : Text :=
  (texts.get? doc.path).getD doc.text

/-- The texts of components after one more document. One without class names
asks for no component. -/
def noted (attr : Text) (texts : Table Path Text) (doc : Document) : Table Path Text :=
  if (usages doc attr).isEmpty then texts else texts.insertNew doc.path doc.text

/-- No run is in flight, the cache holds what the files hold, and each component has the
classes that the stylesheets define which its text imports. -/
structure Engine.BuiltFrom (disk : Disk) (texts : Table Path Text) (e : Engine) : Prop where
  landed : ∀ c, e.inFlight.get? c = none
  mirrors : Index.Mirrors disk e.index.cache
  components : ∀ c, Option.Rel
    (fun k text => ∀ name, k.hasClass name = definedBy disk (importPaths disk text c) name)
    (e.component? c) (texts.get? c)

namespace Engine

variable {disk : Disk} {texts : Table Path Text} {e : Engine}

theorem builtFrom_empty (h : e.index = Index.empty) (hflight : e.inFlight = Table.empty) :
    e.BuiltFrom disk Table.empty where
  landed := by
    rw [hflight]
    exact fun _ => rfl
  mirrors := by
    rw [h]
    intro _ _ hget
    cases hget
  components := by
    intro c
    unfold component?
    rw [h]
    exact .none

/-- What is not indexed yet, nor about to be, is built from the imports that the document
has now. -/
theorem ensureDocument_of_none {doc : Document} (h : e.component? doc.path = none)
    (hflight : e.inFlight.get? doc.path = none) :
    e.ensureDocument disk doc =
      (e.indexComponent disk doc.path (importPaths disk doc.text doc.path),
        (e.indexComponent disk doc.path (importPaths disk doc.text doc.path)).component?
          doc.path) := by
  unfold Engine.ensureDocument
  rw [h]
  unfold ensure Flight.ask
  rw [show (e.flight []).index.components.get? doc.path = none from h]
  simp only
  rw [show (e.flight []).inFlight.get? doc.path = none from hflight]
  rfl

theorem BuiltFrom.indexDocument (h : e.BuiltFrom disk texts) {doc : Document} {k : Component}
    (htext : texts.get? doc.path = none)
    (hk : (e.indexComponent disk doc.path (importPaths disk doc.text doc.path)).component?
      doc.path = some k)
    (hclass : ∀ name, k.hasClass name =
      definedBy disk (importPaths disk doc.text doc.path) name) :
    (e.indexComponent disk doc.path (importPaths disk doc.text doc.path)).BuiltFrom disk
      (texts.insertNew doc.path doc.text) where
  landed := h.landed
  mirrors := h.mirrors.indexComponent _ fun _ hp => isNormal_of_mem_importPaths hp
  components := by
    intro c
    have hnew : texts.contains doc.path = false := by
      unfold Table.contains
      rw [htext]
      rfl
    rw [Table.get?_insertNew, hnew, Bool.not_false, Bool.and_true]
    cases hc : (doc.path == c) with
    | true =>
      rw [if_pos rfl, show (e.indexComponent disk doc.path _).component? c = some k from
        (Table.get?_congr _ hc).symm.trans hk]
      refine .some fun name => ?_
      rw [hclass, importPaths_of_beq disk doc.text hc]
    | false =>
      have hother : (e.indexComponent disk doc.path
          (importPaths disk doc.text doc.path)).component? c = e.component? c := by
        show (Index.indexComponent disk e.index doc.path _).components.get? c = _
        rw [Index.indexComponent_components disk e.index doc.path
          fun p hp => isNormal_of_mem_importPaths hp, Table.get?_insert, hc]
        rfl
      rw [if_neg Bool.false_ne_true, hother]
      exact h.components c

/-- A document gets the component of the text it is judged by. -/
theorem BuiltFrom.ensureDocument (h : e.BuiltFrom disk texts) (doc : Document) :
    (e.ensureDocument disk doc).1.BuiltFrom disk (texts.insertNew doc.path doc.text) ∧
    ∃ k, (e.ensureDocument disk doc).2 = some k ∧
      ∀ name, k.hasClass name =
        definedBy disk (importPaths disk (source texts doc) doc.path) name := by
  have hdoc := h.components doc.path
  cases htext : texts.get? doc.path with
  | some text =>
    rw [htext] at hdoc
    cases hk : e.component? doc.path with
    | none =>
      rw [hk] at hdoc
      cases hdoc
    | some k =>
      rw [hk] at hdoc
      have hkept : texts.insertNew doc.path doc.text = texts := by
        unfold Table.insertNew Table.contains
        rw [htext]
        rfl
      have hfound : e.ensureDocument disk doc = (e, some k) := by
        unfold Engine.ensureDocument
        rw [hk]
      rw [hkept, hfound]
      cases hdoc with
      | some hclass =>
        refine ⟨h, k, rfl, ?_⟩
        unfold source
        rw [htext]
        exact hclass
  | none =>
    rw [htext] at hdoc
    have hnone : e.component? doc.path = none := by
      generalize e.component? doc.path = found at hdoc
      cases hdoc
      rfl
    have hlanded := h.landed doc.path
    obtain ⟨-, k, hk, hmirrors, himports⟩ := ensureDocument_judging (yields_mirrors disk) hnone
      h.mirrors (fun p hp => isNormal_of_mem_importPaths hp) fun n hentry => by
        rw [hlanded] at hentry
        cases hentry
    unfold judging flying? at himports
    rw [hlanded] at himports
    have hclass := hmirrors.classes
    rw [himports] at hclass
    rw [ensureDocument_of_none hnone hlanded] at hk ⊢
    refine ⟨h.indexDocument htext hk hclass, k, hk, ?_⟩
    unfold source
    rw [htext]
    exact hclass

/-- A report holds the names that the text does not define by which the document
is judged, and the document's own text is kept if there was none. -/
theorem BuiltFrom.unknownClasses (h : e.BuiltFrom disk texts) (doc : Document) (attr : Text) :
    (unknownClasses disk e doc attr).1.BuiltFrom disk (noted attr texts doc) ∧
    (unknownClasses disk e doc attr).2 = (usages doc attr).filter fun u =>
      !definedBy disk (importPaths disk (source texts doc) doc.path) u.name := by
  unfold ClassLens.unknownClasses noted
  simp only
  split
  · rename_i hempty
    rw [List.isEmpty_iff.mp hempty]
    exact ⟨h, rfl⟩
  · obtain ⟨hbuilt, k, hk, hclass⟩ := h.ensureDocument doc
    have hensured : e.ensureDocument disk doc = ((e.ensureDocument disk doc).1, some k) := by
      rw [← hk]
    rw [hensured]
    refine ⟨hbuilt, ?_⟩
    simp only [hclass]

end Engine

end ClassLens
