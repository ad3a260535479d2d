import ClassLens.Proofs.Check.Independence
import ClassLens.Proofs.Editor.Apart
import ClassLens.Proofs.Path.Beginnings
/-
  Repeats — which files a check takes up more than once

  Repeated files are dropped while their paths are still as they were given, and
  only afterwards are the paths made absolute. Equality sees through spare
  slashes and inner dots, but it tells a path from the root, one with a leading
  dot and a plain one apart. So a file given with two beginnings is checked
  twice, and all that is found in it is reported twice. Nothing else makes a
  check repeat itself.

  What is proved:
    1. `expand_beginning`, `expand_steps` — the files that a given path stands
       for begin as it does and go on with names;
    2. `pairwise_beginnings`, `pairwise_checked_iff` — files with one absolute form begin
       differently;
    3. `pairwise_findings_of_files` — findings at one place come from two files
       that begin differently;
    4. `repeats_only_across_beginnings` — all of it, and when nothing is repeated;
    5. `repeats_with_leading_dot` — a check that repeats itself.
-/

namespace ClassLens

namespace Check

/-- Two findings are at one place of one file. -/
def Finding.SamePlace (a b : Finding) : Prop :=
  (a.file == b.file) = true ∧ a.line = b.line ∧ a.column = b.column

variable {disk : Disk} {c : Config} {ignored : List Glob.Pattern} {p q f g : Path}

/-! ## Given paths -/

theorem expand_beginning (hdisk : disk.Proper) (h : f ∈ expand disk c ignored p) :
    f.beginning = p.beginning := by
  rcases expand_parts hdisk h with rfl | ⟨hp, names, hnames, rfl⟩
  · rfl
  · exact Path.beginning_join_names hp hnames

theorem expand_steps (hdisk : disk.Proper) (h : f ∈ expand disk c ignored p)
    (hp : .up ∉ p.segments) : .up ∉ f.steps := by
  have hsteps : .up ∉ p.steps := by
    rw [Path.segments_eq_mark, List.mem_append, not_or] at hp
    exact hp.2
  rcases expand_parts hdisk h with rfl | ⟨-, names, hnames, rfl⟩
  · exact hsteps
  · rw [Path.steps_join_names p hnames]
    simpa using hsteps

/-! ## Files -/

/-- Of paths in strict order, those with one absolute form begin differently. -/
theorem pairwise_beginnings (cwd : Path) {ps : List Path} (h : ps.Pairwise Before) :
    ps.Pairwise fun f g => Path.SameFrom cwd f g → f.beginning ≠ g.beginning := by
  apply h.imp
  intro f g hfg hsame hbeginning
  exact hfg.segments_ne ((Path.beq_iff f g).mp (Path.beq_of_sameFrom hbeginning hsame))

theorem sameFrom_of_beq (hdisk : disk.Proper) {paths : List Path}
    (hf : f ∈ sortedPaths (paths.flatMap (expand disk c ignored)))
    (hg : g ∈ expand disk c ignored p) (h : (f == g) = true) : Path.SameFrom disk.cwd f g := by
  have hplain := Path.plainIn_of_beq disk.cwd h (spelling_of_mem_sortedPaths hdisk hf)
    (expand_spelling hdisk hg)
  exact BEq.trans (Path.absoluteIn_beq disk.cwd f)
    (hplain ▸ BEq.symm (Path.absoluteIn_beq disk.cwd g))

/-- All absolute forms are different exactly when no file that is checked is reached from
two given paths that begin differently. -/
theorem pairwise_checked_iff (hdisk : disk.Proper) (paths : List Path) :
    let checked := (sortedPaths (paths.flatMap (expand disk c ignored))).filter (isReadable disk)
    (checked.Pairwise fun f g => ¬ Path.SameFrom disk.cwd f g) ↔
      ∀ p ∈ paths, ∀ q ∈ paths, ∀ f ∈ expand disk c ignored p, ∀ g ∈ expand disk c ignored q,
        checked.any (· == f) = true → checked.any (· == g) = true → Path.SameFrom disk.cwd f g →
          p.beginning = q.beginning := by
  intro checked
  constructor
  · intro hpairwise p hp q hq f hf g hg hfchecked hgchecked hsame
    obtain ⟨f', hf', hff⟩ := List.any_eq_true.mp hfchecked
    obtain ⟨g', hg', hgg⟩ := List.any_eq_true.mp hgchecked
    have hfbeginning := (Path.beginning_of_beq hff).trans (expand_beginning hdisk hf)
    have hgbeginning := (Path.beginning_of_beq hgg).trans (expand_beginning hdisk hg)
    -- if they began differently, both would be checked
    apply Classical.byContradiction
    intro hne
    have hdistinct : f' ≠ g' := by
      rintro rfl
      exact hne (hfbeginning.symm.trans hgbeginning)
    have hsymm : Std.Symm fun x y : Path => ¬ Path.SameFrom disk.cwd x y :=
      ⟨fun x y hxy hyx => hxy (BEq.symm hyx)⟩
    apply hpairwise.forall hf' hg' hdistinct
    exact BEq.trans (sameFrom_of_beq hdisk (List.mem_filter.mp hf').1 hf hff)
      (BEq.trans hsame (BEq.symm (sameFrom_of_beq hdisk (List.mem_filter.mp hg').1 hg hgg)))
  · intro hgiven
    have hbeginnings := (pairwise_beginnings disk.cwd
      (increasing_sortedPaths (paths.flatMap (expand disk c ignored)))).filter (isReadable disk)
    refine hbeginnings.imp_of_mem fun {f g} hf hg hdiffer hsame => hdiffer hsame ?_
    have hself : ∀ x ∈ checked, checked.any (· == x) = true :=
      fun x hx => List.any_eq_true.mpr ⟨x, hx, BEq.rfl⟩
    obtain ⟨p, hp, hfp⟩ :=
      List.mem_flatMap.mp (mem_of_mem_sortedPaths (List.mem_filter.mp hf).1)
    obtain ⟨q, hq, hgq⟩ :=
      List.mem_flatMap.mp (mem_of_mem_sortedPaths (List.mem_filter.mp hg).1)
    rw [expand_beginning hdisk hfp, expand_beginning hdisk hgq]
    exact hgiven p hp q hq f hfp g hgq (hself f hf) (hself g hg) hsame

/-! ## Findings -/

theorem run_eq (disk : Disk) (hvalid : Glob.parseAll c.ignorePatterns = .ok ignored)
    (paths : List Path) :
    run disk c paths = .ok ((((sortedPaths (paths.flatMap (expand disk c ignored))).filter
      (isReadable disk)).mapM (findingsOf disk c.attributeName)).map fun found =>
        ⟨found.length, found.flatten⟩) := by
  unfold run
  rw [files_eq disk hvalid]
  simp only [checkFiles_eq _ (current_new disk _), Report.empty, Nat.zero_add, List.nil_append]

theorem findingsOf_parts {attr : Text} {found : List Finding}
    (h : findingsOf disk attr f = .ok found) :
    (∀ a ∈ found, a.file = Path.absoluteIn disk.cwd f) ∧
      found.Pairwise fun a b => ¬ (a.line = b.line ∧ a.column = b.column) := by
  unfold findingsOf at h
  split at h
  · cases h
    exact ⟨fun a ha => absurd ha List.not_mem_nil, .nil⟩
  · unfold findingsIn at h
    refine ⟨fun a ha => ?_, pairwise_findings List.filter_sublist h⟩
    obtain ⟨u, -, hu⟩ := exists_of_mem_mapM h ha
    obtain ⟨p, -, rfl⟩ := finding_eq_ok.mp hu
    rfl

/-- Findings at one place come from two files that begin differently. -/
theorem pairwise_findings_of_files {attr : Text} {files : List Path} {found : List (List Finding)}
    (hfiles : files.Pairwise fun f g => Path.SameFrom disk.cwd f g → f.beginning ≠ g.beginning)
    (h : files.mapM (findingsOf disk attr) = .ok found) :
    found.flatten.Pairwise fun a b => a.SamePlace b → ∃ f ∈ files, ∃ g ∈ files,
      a.file = Path.absoluteIn disk.cwd f ∧ b.file = Path.absoluteIn disk.cwd g ∧
        f.beginning ≠ g.beginning := by
  refine List.pairwise_flatten.mpr ⟨fun fs hfs => ?inside, ?across⟩
  case inside =>
    obtain ⟨f, -, hf⟩ := exists_of_mem_mapM h hfs
    refine (findingsOf_parts hf).2.imp fun {a b} hne hsame => ?_
    exact absurd hsame.2 hne
  case across =>
    refine pairwise_of_mapM h hfiles fun f hf g hg hdiffer as bs has hbs a ha b hb hsame => ?_
    have hafile := (findingsOf_parts has).1 a ha
    have hbfile := (findingsOf_parts hbs).1 b hb
    refine ⟨f, hf, g, hg, hafile, hbfile, hdiffer ?_⟩
    have hfile := hsame.1
    rwa [hafile, hbfile] at hfile

end Check

open Check in
/-- **A check repeats itself only across beginnings.** Take a proper disk, ignored
globs that can be read, and any given paths. Of the files that are checked, two
have one absolute path only if one of them begins at the root, with a dot or
plainly, and the other one does not begin alike; so no file is checked more than
three times. All absolute paths are different exactly when no file that is checked,
in whatever spelling, is reached from two given paths that begin differently. A
report counts the files that are checked, and two findings in it are at one place
only if they come from two of these files that begin differently. Where neither the
working directory nor a given path has a parent step, absolute paths are the same
exactly when they spell out one location. -/
theorem repeats_only_across_beginnings {disk : Disk} (hdisk : disk.Proper) (c : Config)
    {ignored : List Glob.Pattern} (hvalid : Glob.parseAll c.ignorePatterns = .ok ignored)
    (paths : List Path) :
    ∃ found, files disk c paths = .ok found ∧
      let checked := found.filter (isReadable disk)
      (checked.Pairwise fun f g => Path.SameFrom disk.cwd f g → f.beginning ≠ g.beginning) ∧
      ((checked.Pairwise fun f g => ¬ Path.SameFrom disk.cwd f g) ↔
        ∀ p ∈ paths, ∀ q ∈ paths, ∀ f ∈ expand disk c ignored p, ∀ g ∈ expand disk c ignored q,
          checked.any (· == f) = true → checked.any (· == g) = true →
            Path.SameFrom disk.cwd f g → p.beginning = q.beginning) ∧
      (∀ report, run disk c paths = .ok (.ok report) →
        report.filesChecked = checked.length ∧
        report.findings.Pairwise fun a b => a.SamePlace b → ∃ f ∈ checked, ∃ g ∈ checked,
          a.file = Path.absoluteIn disk.cwd f ∧ b.file = Path.absoluteIn disk.cwd g ∧
            f.beginning ≠ g.beginning) ∧
      (disk.cwd.IsNormal → (∀ p ∈ paths, .up ∉ p.segments) → ∀ f ∈ checked, ∀ g ∈ checked,
        (Path.SameFrom disk.cwd f g ↔ Disk.location (Path.absoluteIn disk.cwd f) =
          Disk.location (Path.absoluteIn disk.cwd g))) := by
  refine ⟨_, files_eq disk hvalid paths, ?_⟩
  intro checked
  have hbeginnings : checked.Pairwise fun f g =>
      Path.SameFrom disk.cwd f g → f.beginning ≠ g.beginning :=
    (pairwise_beginnings disk.cwd (increasing_sortedPaths _)).filter _
  refine ⟨hbeginnings, pairwise_checked_iff hdisk paths, fun report hrun => ?reports,
    fun hcwd hgiven f hf g hg => ?locations⟩
  case reports =>
    rw [run_eq disk hvalid] at hrun
    simp only [Except.ok.injEq] at hrun
    cases hmapped : checked.mapM (findingsOf disk c.attributeName) with
    | error fault =>
      rw [hmapped] at hrun
      cases hrun
    | ok found =>
      rw [hmapped] at hrun
      cases hrun
      refine ⟨?_, ?_⟩
      · exact length_of_mapM hmapped
      · exact pairwise_findings_of_files hbeginnings hmapped
  case locations =>
    have hup : ∀ f ∈ checked, .up ∉ f.steps := by
      intro f hf
      obtain ⟨p, hp, hfp⟩ := List.mem_flatMap.mp
        (mem_of_mem_sortedPaths (List.mem_filter.mp hf).1)
      exact expand_steps hdisk hfp (hgiven p hp)
    exact Path.sameFrom_iff_location hcwd.1 hcwd.up_not_mem (hup f hf) (hup g hg)

namespace Check.Sample

/-- The component that was given as seen from its directory, with a dot in front;
and the one from the root, with a slash and a dot too many. -/
def dotted : Path := ⟨[0x2E, 0x2F, 0x63, 0x2E, 0x6A, 0x73]⟩
def roundabout : Path := ⟨[0x2F, 0x77, 0x2F, 0x2F, 0x2E, 0x2F, 0x63, 0x2E, 0x6A, 0x73]⟩

theorem exists_ignored : ∃ ignored, Glob.parseAll Config.standard.ignorePatterns = .ok ignored :=
  exists_eq_ok_of_isOk (by decide +kernel)

theorem sortedPaths_expand {p q : Path} (ignored : List Glob.Pattern) (hp : disk.isFile p = true)
    (hq : disk.isFile q = true) (hle : Path.le p q = true) :
    sortedPaths ([p, q].flatMap (expand disk Config.standard ignored)) = dropRepeated [p, q] := by
  have hfiles : [p, q].flatMap (expand disk Config.standard ignored) = [p, q] := by
    simp [expand, hp, hq]
  unfold sortedPaths
  rw [hfiles, List.mergeSort_of_pairwise (by simpa using hle)]

end Check.Sample

open Check Check.Sample in
/-- One component in two spellings that begin alike is checked once. -/
theorem repeats_only_across_beginnings_roundabout :
    Sample.disk.Proper ∧ ∃ report, run Sample.disk Config.standard [first, roundabout] =
      .ok (.ok report) ∧ report.filesChecked = 1 ∧
        report.findings.Pairwise fun a b => ¬ a.SamePlace b := by
  obtain ⟨ignored, hvalid⟩ := exists_ignored
  obtain ⟨found, hfiles, -, -, hreports, -⟩ :=
    repeats_only_across_beginnings proper Config.standard hvalid [first, roundabout]
  have hsorted := sortedPaths_expand (p := first) (q := roundabout) ignored (by decide)
    (by decide) (by decide)
  rw [files_eq Sample.disk hvalid, hsorted] at hfiles
  obtain rfl : [first] = found := Except.ok.inj hfiles
  have hok : (([first].filter (isReadable Sample.disk)).mapM
      (findingsOf Sample.disk Config.standard.attributeName)).isOk = true := by decide +kernel
  obtain ⟨findings, hmapped⟩ := exists_eq_ok_of_isOk hok
  have hrun : run Sample.disk Config.standard [first, roundabout] =
      .ok (.ok ⟨findings.length, findings.flatten⟩) := by
    rw [run_eq Sample.disk hvalid, hsorted]
    exact congrArg (Except.ok <| Except.map _ ·) hmapped
  obtain ⟨hlength, hapart⟩ := hreports _ hrun
  refine ⟨proper, _, hrun, hlength.trans (by decide +kernel), hapart.imp ?_⟩
  intro a b hrepeated hsame
  obtain ⟨f, hf, g, hg, -, -, hdiffer⟩ := hrepeated hsame
  apply hdiffer
  rw [List.mem_singleton.mp (List.mem_filter.mp hf).1,
    List.mem_singleton.mp (List.mem_filter.mp hg).1]

open Check Check.Sample in
/-- One component, given plainly and with a dot in front, is checked twice, and
what is found in it is reported twice. -/
theorem repeats_with_leading_dot :
    Path.SameFrom Sample.disk.cwd dotted given ∧
    ∃ report, run Sample.disk Config.standard [dotted, given] = .ok (.ok report) ∧
      report.filesChecked = 2 ∧ ∃ a b, report.findings = [a, b] ∧ a.SamePlace b := by
  obtain ⟨ignored, hvalid⟩ := exists_ignored
  refine ⟨by decide, ?_⟩
  rw [run_eq Sample.disk hvalid, sortedPaths_expand ignored (by decide) (by decide) (by decide)]
  have hplaces : (((dropRepeated [dotted, given]).filter (isReadable Sample.disk)).mapM
      (findingsOf Sample.disk Config.standard.attributeName)).toOption.map (fun findings =>
        findings.flatten.map fun a => (a.file.spelling, a.line, a.column)) =
      some [(first.spelling, 2, 17), (first.spelling, 2, 17)] := by decide +kernel
  cases hmapped : ((dropRepeated [dotted, given]).filter (isReadable Sample.disk)).mapM
      (findingsOf Sample.disk Config.standard.attributeName) with
  | error fault =>
    rw [hmapped] at hplaces
    cases hplaces
  | ok findings =>
    rw [hmapped] at hplaces
    obtain ⟨a, later, hfindings, ha, hlater⟩ := List.map_eq_cons_iff.mp (Option.some.inj hplaces)
    obtain ⟨b, last, rfl, hb, hlast⟩ := List.map_eq_cons_iff.mp hlater
    obtain rfl := List.map_eq_nil_iff.mp hlast
    refine ⟨_, rfl, (length_of_mapM hmapped).trans (by decide +kernel), a, b, hfindings, ?_⟩
    obtain ⟨hfile, hplace⟩ := Prod.mk.inj (ha.trans hb.symm)
    obtain ⟨hline, hcolumn⟩ := Prod.mk.inj hplace
    have hspelled : a.file = b.file := congrArg Path.mk hfile
    exact ⟨by rw [hspelled]; exact BEq.rfl, hline, hcolumn⟩

end ClassLens
