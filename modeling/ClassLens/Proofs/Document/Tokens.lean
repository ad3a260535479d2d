import ClassLens.Proofs.Document.Values
import ClassLens.Proofs.Text.Split
/-
  Tokens — the class names of a value, and where they are said to stand

  A class name is a maximal run of characters that are not blank. The offsets
  of class names are counted with one byte for each blank, so a blank of two or
  three bytes moves all that follows it to the front.

  What is proved:
    1. `isRun_append` — the runs of a value, from its first blank on;
    2. `exists_runs` — the class names are the runs, at offsets that take every
       blank for one byte;
    3. `IsRun.slice?_eq`, `IsRun.slice?_ne` — behind short blanks a name stands
       at its offset, and right behind the first long one it does not;
    4. `tokens_are_runs` — when all names stand at their offsets.
-/

namespace ClassLens

/-- A maximal run of characters that are not blank, with what stands before it
and behind it in a value. -/
structure IsRun (value before token behind : Text) : Prop where
  parts : value = before ++ (token ++ behind)
  nonempty : token ≠ []
  solid : ∀ c ∈ token, Text.isBlank c = false
  left_ends : ∀ c, before.getLast? = some c → Text.isBlank c = true
  right_starts : ∀ c, behind.head? = some c → Text.isBlank c = true

/-- All maximal runs of a value in their order, each with what stands before it. -/
structure RunsOf (value : Text) (runs : List (Text × Text)) : Prop where
  mem_iff : ∀ before token, (before, token) ∈ runs ↔ ∃ behind, IsRun value before token behind
  increasing : runs.Pairwise fun a b => Text.bytes a.1 < Text.bytes b.1

/-- The length of a text in bytes when every blank is taken for one. -/
def narrowBytes : Text → Nat
  | [] => 0
  | c :: cs => (if Text.isBlank c then 1 else c.utf8Size) + narrowBytes cs

/-! ## The runs of a value -/

theorem takeWhile_of_solid {token behind : Text} (hsolid : ∀ c ∈ token, Text.isBlank c = false)
    (hbehind : ∀ c, behind.head? = some c → Text.isBlank c = true) :
    (token ++ behind).takeWhile (!Text.isBlank ·) = token := by
  rw [List.takeWhile_append_of_pos fun c hc => by rw [hsolid c hc]; rfl]
  cases behind with
  | nil => simp
  | cons c behind => simp [hbehind c rfl]

/-- The first run of a value goes up to its first blank; all others are runs of what
follows the blank. -/
theorem isRun_append {a tail before token behind : Text}
    (ha : ∀ c ∈ a, Text.isBlank c = false)
    (htail : ∀ c, tail.head? = some c → Text.isBlank c = true) :
    IsRun (a ++ tail) before token behind ↔
      (a ≠ [] ∧ before = [] ∧ token = a ∧ behind = tail) ∨
      ∃ c rest before', tail = c :: rest ∧ before = a ++ c :: before' ∧
        IsRun rest before' token behind := by
  constructor
  · rintro ⟨hparts, hne, hsolid, hleft, hright⟩
    rcases List.append_eq_append_iff.mp hparts with ⟨x, rfl, rfl⟩ | ⟨x, rfl, hrest⟩
    · -- the run lies behind the first blank
      cases x with
      | nil =>
        obtain ⟨d, token, rfl⟩ := List.exists_cons_of_ne_nil hne
        have hblank := htail d rfl
        rw [hsolid d List.mem_cons_self] at hblank
        cases hblank
      | cons c before' =>
        refine .inr ⟨c, _, before', rfl, rfl, rfl, hne, hsolid, fun d hd => hleft d ?_, hright⟩
        simp [List.getLast?_append, List.getLast?_cons, hd]
    · -- the run starts before the first blank, so nothing stands before it
      obtain rfl : before = [] := by
        rcases List.eq_nil_or_concat before with hnil | ⟨init, d, rfl⟩
        · exact hnil
        · have hblank := hleft d (by simp)
          rw [ha d (by simp)] at hblank
          cases hblank
      have htoken : token = x := by
        rw [← takeWhile_of_solid hsolid hright, hrest]
        exact takeWhile_of_solid ha htail
      subst htoken
      exact .inl ⟨hne, rfl, rfl, List.append_cancel_left hrest⟩
  · rintro (⟨hne, rfl, rfl, rfl⟩ | ⟨c, rest, before', rfl, rfl, hrun⟩)
    · exact ⟨rfl, hne, ha, by simp, htail⟩
    · refine ⟨by rw [hrun.parts]; simp, hrun.nonempty, hrun.solid, fun d hd => ?_,
        hrun.right_starts⟩
      rcases List.eq_nil_or_concat before' with rfl | ⟨init, e, rfl⟩
      · obtain rfl : c = d := by simpa using hd
        exact htail c rfl
      · exact hrun.left_ends d (by simpa [List.getLast?_append, List.getLast?_cons] using hd)

@[simp] theorem narrowBytes_nil : narrowBytes [] = 0 := rfl

theorem narrowBytes_cons (c : Char) (cs : Text) :
    narrowBytes (c :: cs) = (if Text.isBlank c then 1 else c.utf8Size) + narrowBytes cs := rfl

theorem narrowBytes_append (a b : Text) : narrowBytes (a ++ b) = narrowBytes a + narrowBytes b := by
  induction a with
  | nil => simp
  | cons c a ih => rw [List.cons_append, narrowBytes_cons, narrowBytes_cons, ih, Nat.add_assoc]

theorem narrowBytes_cons_blank {c : Char} (hc : Text.isBlank c = true) (cs : Text) :
    narrowBytes (c :: cs) = 1 + narrowBytes cs := by
  rw [narrowBytes_cons, if_pos hc]

theorem narrowBytes_le (cs : Text) : narrowBytes cs ≤ Text.bytes cs := by
  induction cs with
  | nil => exact Nat.le_refl 0
  | cons c cs ih =>
    have hpos := Char.utf8Size_pos c
    rw [narrowBytes_cons, Text.bytes_cons]
    split <;> omega

theorem narrowBytes_eq_bytes {cs : Text} (h : ∀ c ∈ cs, Text.isBlank c = true → c.utf8Size = 1) :
    narrowBytes cs = Text.bytes cs := by
  induction cs with
  | nil => rfl
  | cons c cs ih =>
    have hcs := ih fun d hd => h d (List.mem_cons_of_mem c hd)
    rw [narrowBytes_cons, hcs, Text.bytes_cons]
    split
    · rename_i hc
      rw [h c List.mem_cons_self hc]
    · rfl

/-- The run up to the first blank, if there is one. -/
def firstRun (a : Text) : List (Text × Text) := if a = [] then [] else [([], a)]

theorem mem_firstRun {a before token : Text} :
    (before, token) ∈ firstRun a ↔ a ≠ [] ∧ before = [] ∧ token = a := by
  unfold firstRun
  split <;> simp_all

theorem tokensFrom_cons (offset : Nat) (a : Text) (pieces : List Text) :
    tokensFrom offset (a :: pieces) =
      (firstRun a).map (fun r => (offset + narrowBytes r.1, r.2)) ++
        tokensFrom (offset + Text.bytes a + 1) pieces := by
  rw [tokensFrom, firstRun]
  split <;> simp

theorem first_blank_parts (value : Text) :
    ∃ a tail, value = a ++ tail ∧ (∀ c ∈ a, Text.isBlank c = false) ∧
      ∀ c, tail.head? = some c → Text.isBlank c = true := by
  refine ⟨value.takeWhile (!Text.isBlank ·), value.dropWhile (!Text.isBlank ·),
    List.takeWhile_append_dropWhile.symm, fun c hc => ?_, fun c hc => ?_⟩
  · simpa using List.all_eq_true.mp List.all_takeWhile c hc
  · have hnot := List.head?_dropWhile_not (!Text.isBlank ·) value
    rw [hc] at hnot
    simpa using hnot

/-- Every value has its runs, and the class names of the value are these. -/
theorem exists_runs (value : Text) :
    ∃ runs, RunsOf value runs ∧ ∀ offset, tokensFrom offset (Text.split Text.isBlank value) =
      runs.map fun r => (offset + narrowBytes r.1, r.2) := by
  -- what follows the first blank is shorter
  induction hlength : value.length using Nat.strongRecOn generalizing value with
  | ind n ih =>
    obtain ⟨a, tail, rfl, ha, htail⟩ := first_blank_parts value
    cases tail with
    | nil =>
      refine ⟨firstRun a, ⟨fun before token => ?_, ?_⟩, fun offset => ?_⟩
      · rw [mem_firstRun]
        simp only [isRun_append ha htail]
        simp
      · unfold firstRun
        split <;> simp
      · rw [List.append_nil, Text.split_of_forall_not ha, tokensFrom_cons]
        simp [tokensFrom]
    | cons c rest =>
      obtain ⟨later, hlater, htokens⟩ :=
        ih rest.length (by rw [List.length_append, List.length_cons] at hlength; omega) rest rfl
      have hc := htail c rfl
      refine ⟨firstRun a ++ later.map fun r => (a ++ c :: r.1, r.2),
        ⟨fun before token => ?_, ?_⟩, fun offset => ?_⟩
      · simp only [List.mem_append, mem_firstRun, List.mem_map, isRun_append ha htail]
        constructor
        · rintro (hfirst | ⟨⟨before', token'⟩, hmem, heq⟩)
          · exact ⟨c :: rest, .inl ⟨hfirst.1, hfirst.2.1, hfirst.2.2, rfl⟩⟩
          · obtain ⟨rfl, rfl⟩ := Prod.mk.inj heq
            obtain ⟨behind, hrun⟩ := (hlater.mem_iff before' token').mp hmem
            exact ⟨behind, .inr ⟨c, rest, before', rfl, rfl, hrun⟩⟩
        · rintro ⟨behind, ⟨hne, hbefore, htoken, -⟩ | ⟨c', rest', before', heq, rfl, hrun⟩⟩
          · exact .inl ⟨hne, hbefore, htoken⟩
          · obtain ⟨rfl, rfl⟩ := List.cons.inj heq
            exact .inr ⟨(before', token), (hlater.mem_iff before' token).mpr ⟨behind, hrun⟩, rfl⟩
      · rw [List.pairwise_append, List.pairwise_map]
        refine ⟨by unfold firstRun; split <;> simp, hlater.increasing.imp fun hlt => ?_, ?_⟩
        · simp only [Text.bytes_append, Text.bytes_cons]
          omega
        · rintro ⟨before, token⟩ hfirst r hr
          obtain ⟨-, rfl, -⟩ := mem_firstRun.mp hfirst
          obtain ⟨r', -, rfl⟩ := List.mem_map.mp hr
          have hpos := Char.utf8Size_pos c
          simp only [Text.bytes_append, Text.bytes_cons, Text.bytes_nil]
          omega
      · have hnarrow : narrowBytes a = Text.bytes a :=
          narrowBytes_eq_bytes fun d hd hblank => by
            rw [ha d hd] at hblank
            cases hblank
        rw [Text.split_append_cons ha hc, tokensFrom_cons, htokens, List.map_append, List.map_map]
        congr 2
        funext r
        simp only [Function.comp_apply, narrowBytes_append, narrowBytes_cons_blank hc, hnarrow,
          Prod.mk.injEq, and_true]
        omega

/-! ## Where the offsets point -/

namespace IsRun

variable {value before token behind : Text}

theorem slice?_eq (h : IsRun value before token behind)
    (hone : ∀ c ∈ before, Text.isBlank c = true → c.utf8Size = 1) :
    Text.slice? (narrowBytes before) (narrowBytes before + Text.bytes token) value =
      some token := by
  rw [narrowBytes_eq_bytes hone, h.parts]
  exact Text.slice?_append before token behind

theorem head?_trimStart (h : IsRun value before token behind) (y : Text) :
    ∃ d, (Text.trimStart (y ++ (token ++ behind))).head? = some d ∧ Text.isBlank d = false := by
  have hnot := List.head?_dropWhile_not Text.isBlank (y ++ (token ++ behind))
  obtain ⟨blanks, hblanks, hparts, -⟩ := Text.trimStart_parts (y ++ (token ++ behind))
  unfold Text.trimStart at hparts ⊢
  cases hafter : (y ++ (token ++ behind)).dropWhile Text.isBlank with
  | nil =>
    -- the run itself is not blank
    obtain ⟨d, hd⟩ := List.exists_mem_of_ne_nil token h.nonempty
    rw [hafter, List.append_nil] at hparts
    have hblank := hblanks d (by rw [← hparts]; simp [hd])
    rw [h.solid d hd] at hblank
    cases hblank
  | cons d rest =>
    rw [hafter] at hnot
    exact ⟨d, rfl, by simpa using hnot⟩

/-- Where a wide blank stands before some run, the first such blank is in a gap
that leads up to a run. -/
theorem exists_first_wide (h : IsRun value before token behind) {c : Char} (hc : c ∈ before)
    (hblank : Text.isBlank c = true) (hwide : c.utf8Size ≠ 1) :
    ∃ (x blanks token' behind' : Text) (w : Char),
      IsRun value (x ++ w :: blanks) token' behind' ∧
      (∀ d ∈ x, Text.isBlank d = true → d.utf8Size = 1) ∧ w.utf8Size ≠ 1 ∧
      ∀ d ∈ w :: blanks, Text.isBlank d = true := by
  let wide : Char → Bool := fun d => Text.isBlank d && d.utf8Size != 1
  have hfound : (List.find? wide before).isSome := by
    rw [List.find?_isSome]
    exact ⟨c, hc, by simp [wide, hblank, hwide]⟩
  obtain ⟨w, hw⟩ := Option.isSome_iff_exists.mp hfound
  obtain ⟨hwwide, x, y, rfl, hx⟩ := List.find?_eq_some_iff_append.mp hw
  simp only [wide, Bool.and_eq_true, bne_iff_ne] at hwwide
  -- behind that blank there may be more, and then there is a run, at the latest the given one
  obtain ⟨blanks, hblanks, hrest, -⟩ := Text.trimStart_parts (y ++ (token ++ behind))
  obtain ⟨token', behind', hafter, hsolid, hbehind⟩ :=
    first_blank_parts (Text.trimStart (y ++ (token ++ behind)))
  have hgap : ∀ d ∈ w :: blanks, Text.isBlank d = true := by
    intro d hd
    rcases List.mem_cons.mp hd with rfl | hd
    · exact hwwide.1
    · exact hblanks d hd
  have hne : token' ≠ [] := by
    rintro rfl
    obtain ⟨d, hhead, hd⟩ := h.head?_trimStart y
    rw [hafter, List.nil_append] at hhead
    rw [hbehind d hhead] at hd
    cases hd
  refine ⟨x, blanks, token', behind', w, ⟨?_, hne, hsolid, fun d hd => hgap d ?_, hbehind⟩,
    fun d hd hdblank => ?_, hwwide.2, hgap⟩
  · rw [hafter] at hrest
    rw [h.parts, List.append_assoc, List.append_assoc, List.cons_append, List.cons_append, hrest]
  · rw [List.getLast?_append, List.getLast?_cons] at hd
    exact List.mem_of_getLast? (by simpa [List.getLast?_cons] using hd)
  · simpa [wide, hdblank] using hx d hd

/-- A run behind the first wide blank of the value, and nothing but blanks behind that,
does not stand at its offset. -/
theorem slice?_ne {x blanks : Text} {w : Char} (h : IsRun value (x ++ w :: blanks) token behind)
    (hx : ∀ d ∈ x, Text.isBlank d = true → d.utf8Size = 1) (hwide : w.utf8Size ≠ 1)
    (hgap : ∀ d ∈ w :: blanks, Text.isBlank d = true) :
    Text.slice? (narrowBytes (x ++ w :: blanks))
      (narrowBytes (x ++ w :: blanks) + Text.bytes token) value ≠ some token := by
  intro hslice
  obtain ⟨p, s, hvalue, hp⟩ := Text.parts_of_slice? hslice
  have hnarrow := narrowBytes_le blanks
  have hpos := Char.utf8Size_pos w
  rw [narrowBytes_append, narrowBytes_eq_bytes hx,
    narrowBytes_cons_blank (hgap w List.mem_cons_self)] at hp
  -- the offset falls behind `x` and before the end of the gap
  obtain ⟨z, hz, hrest⟩ : ∃ z, x ++ w :: blanks = p ++ z ∧ token ++ s = z ++ (token ++ behind) := by
    refine Text.parts_of_bytes_le (hvalue.symm.trans h.parts) ?_
    rw [Text.bytes_append, Text.bytes_cons]
    omega
  obtain ⟨u, -, hwz⟩ : ∃ u, p = x ++ u ∧ w :: blanks = u ++ z :=
    Text.parts_of_bytes_le hz (by omega)
  have hznonempty : z ≠ [] := by
    rintro rfl
    have hbytes := congrArg Text.bytes hz
    simp only [Text.bytes_append, Text.bytes_cons, Text.bytes_nil] at hbytes
    omega
  -- so what stands there is a blank, and no run starts with one
  obtain ⟨d, z, rfl⟩ := List.exists_cons_of_ne_nil hznonempty
  obtain ⟨e, token, rfl⟩ := List.exists_cons_of_ne_nil h.nonempty
  obtain rfl : e = d := (List.cons.inj hrest).1
  have hblank := hgap e (by rw [hwz]; simp)
  rw [h.solid e List.mem_cons_self] at hblank
  cases hblank

end IsRun

/-- **The class names of a value are its runs, and their offsets take every blank
for one byte.** They come in the order of the runs. All of them stand at their
offsets exactly when no blank before a run is longer than one byte. -/
theorem tokens_are_runs (value : Text) :
    ∃ runs, RunsOf value runs ∧
      classTokens value = runs.map (fun r => (narrowBytes r.1, r.2)) ∧
      ((∀ t ∈ classTokens value,
          Text.slice? t.1 (t.1 + Text.bytes t.2) value = some t.2) ↔
        ∀ r ∈ runs, ∀ c ∈ r.1, Text.isBlank c = true → c.utf8Size = 1) := by
  obtain ⟨runs, hruns, htokens⟩ := exists_runs value
  have heq : classTokens value = runs.map fun r => (narrowBytes r.1, r.2) := by
    simpa [classTokens] using htokens 0
  refine ⟨runs, hruns, heq, ?_, ?_⟩
  · rintro hright ⟨before, token⟩ hr c hc hblank
    refine Decidable.byContradiction fun hwide => ?_
    obtain ⟨behind, hrun⟩ := (hruns.mem_iff before token).mp hr
    obtain ⟨x, blanks, token', behind', w, hrun', hx, hw, hgap⟩ :=
      hrun.exists_first_wide hc hblank hwide
    refine hrun'.slice?_ne hx hw hgap (hright (_, token') ?_)
    rw [heq]
    exact List.mem_map_of_mem (f := fun r : Text × Text => (narrowBytes r.1, r.2))
      ((hruns.mem_iff _ token').mpr ⟨behind', hrun'⟩)
  · intro hone t ht
    rw [heq] at ht
    obtain ⟨⟨before, token⟩, hr, rfl⟩ := List.mem_map.mp ht
    obtain ⟨behind, hrun⟩ := (hruns.mem_iff before token).mp hr
    exact hrun.slice?_eq (hone _ hr)

/-- Behind an ideographic space of three bytes a name is said to stand inside of the space. -/
theorem classTokens_behind_wide_blank :
    classTokens "a\u3000b".toList = [(0, ['a']), (2, ['b'])] ∧
    Text.slice? 2 3 "a\u3000b".toList = none ∧
    IsRun "a\u3000b".toList "a\u3000".toList ['b'] [] ∧
    Text.slice? 4 5 "a\u3000b".toList = some ['b'] := by
  refine ⟨by decide, by decide, ⟨by decide, by simp, ?_, ?_, by simp⟩, by decide⟩
  · exact List.forall_mem_singleton.mpr rfl
  · intro c hc
    obtain rfl : '\u3000' = c := Option.some.inj hc
    rfl

end ClassLens
