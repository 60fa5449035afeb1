import LineSieve.Proofs.Session.Run
import LineSieve.Proofs.Session.Winner

/-!
# What the history of a run says

A session keeps a flag and the place of a rule. Both can be told from the lines alone: which
lines are in a region follows from which earlier lines were won and by which rules, and the
flag is the one that the last of the wins with a flag has set. `Explains` puts together what
the history says of every line; every run of a general set follows it.

The proof is a simulation. `Agrees` relates a session to the history before a place, one line
keeps it (`Agrees.step`), and so it holds all along a run.
-/

namespace LineSieve.Session

open Rule

variable {rules : GeneralRules} {lines : List String}

/-! ### The history -/

/-- No line strictly between two places matches the pattern. -/
def Quiet (lines : List String) (p : Regex) (j i : Nat) : Prop :=
  ∀ k, j < k → k < i → ∀ line, lines[k]? = some line → p.isMatch line.toList = false

/-- Place `i` is in a region: an earlier line that is not in one was won by a rule with an
until pattern, and no line between the two matches it. -/
def InRegion (rules : GeneralRules) (lines : List String) (i : Nat) : Prop :=
  ∃ j, ∃ _ : j < i, ¬ InRegion rules lines j ∧
    ∃ line w p, lines[j]? = some line ∧ Wins rules line w ∧ w.rule.untilPattern = some p ∧
      Quiet lines p j i
termination_by i

/-- The line at place `j` is not in a region and has a win. -/
def WonAt (rules : GeneralRules) (lines : List String) (j : Nat) (w : Win) : Prop :=
  ¬ InRegion rules lines j ∧ ∃ line, lines[j]? = some line ∧ Wins rules line w

/-- The flag behind the first `n` lines: that of the last win with a flag, or the empty one
if there is no such win. -/
def FlagAt (rules : GeneralRules) (lines : List String) (n : Nat) (flag : String) : Prop :=
  (∃ j < n, ∃ w, WonAt rules lines j w ∧ w.rule.flag = some flag ∧
      ∀ k, j < k → k < n → ∀ v, WonAt rules lines k v → v.rule.flag = none) ∨
    flag = "" ∧ ∀ k < n, ∀ v, WonAt rules lines k v → v.rule.flag = none

theorem inRegion_iff (i : Nat) :
    InRegion rules lines i ↔
      ∃ j < i, ∃ w p, WonAt rules lines j w ∧ w.rule.untilPattern = some p ∧
        Quiet lines p j i := by
  rw [InRegion]
  constructor
  · rintro ⟨j, hj, ho, line, w, p, hl, hw, hp, hq⟩
    exact ⟨j, hj, w, p, ⟨ho, line, hl, hw⟩, hp, hq⟩
  · rintro ⟨j, hj, w, p, ⟨ho, line, hl, hw⟩, hp, hq⟩
    exact ⟨j, hj, ho, line, w, p, hl, hw, hp, hq⟩

theorem WonAt.unique {j : Nat} {v w : Win} (hv : WonAt rules lines j v)
    (hw : WonAt rules lines j w) : v = w := by
  obtain ⟨_, line, hl, hv⟩ := hv
  obtain ⟨_, line', hl', hw⟩ := hw
  rw [hl] at hl'
  rw [← Option.some.inj hl'] at hw
  exact hv.unique hw

theorem Quiet.mono {p : Regex} {j j' i i' : Nat} (h : Quiet lines p j i) (hj : j ≤ j')
    (hi : i' ≤ i) : Quiet lines p j' i' :=
  fun k hjk hki => h k (by omega) (by omega)

theorem Quiet.succ {p : Regex} {j i : Nat} {line : String} (h : Quiet lines p j i)
    (hl : lines[i]? = some line) (hno : p.isMatch line.toList = false) :
    Quiet lines p j (i + 1) := by
  intro k hjk hki between hb
  by_cases hk : k < i
  · exact h k hjk hk between hb
  · have hk : k = i := by omega
    rw [hk, hl] at hb
    rw [← Option.some.inj hb]
    exact hno

/-! ### Regions, line by line -/

theorem not_inRegion_zero : ¬ InRegion rules lines 0 := by
  rw [inRegion_iff]
  rintro ⟨j, hj, _⟩
  exact Nat.not_lt_zero j hj

/-- A place has at most one opening line, and the win of that line is the only one that can
keep the region open. -/
theorem opener_unique {i j j' : Nat} {v w : Win} {p q : Regex}
    (hv : WonAt rules lines j v) (hp : v.rule.untilPattern = some p) (hj : j < i)
    (hpq : Quiet lines p j i) (hw : WonAt rules lines j' w)
    (hq : w.rule.untilPattern = some q) (hj' : j' < i) (hqq : Quiet lines q j' i) :
    j = j' := by
  -- the later of two opening lines would stand in the region of the earlier one
  rcases Nat.lt_trichotomy j j' with hlt | he | hlt
  · have hq' := hpq.mono (Nat.le_refl j) (Nat.le_of_lt hj')
    exact absurd ((inRegion_iff j').mpr ⟨j, hlt, v, p, hv, hp, hq'⟩) hw.1
  · exact he
  · have hq' := hqq.mono (Nat.le_refl j') (Nat.le_of_lt hj)
    exact absurd ((inRegion_iff j).mpr ⟨j', hlt, w, q, hw, hq, hq'⟩) hv.1

/-- A line that ends the region of an earlier one is the last in it. -/
theorem not_inRegion_succ_of_match {i j : Nat} {w : Win} {p : Regex} {line : String}
    (hj : j < i) (hw : WonAt rules lines j w) (hp : w.rule.untilPattern = some p)
    (hq : Quiet lines p j i) (hl : lines[i]? = some line)
    (hm : p.isMatch line.toList = true) : ¬ InRegion rules lines (i + 1) := by
  rw [inRegion_iff]
  rintro ⟨j', hj', v, q, hv, hvq, hqq⟩
  have hin : InRegion rules lines i := (inRegion_iff i).mpr ⟨j, hj, w, p, hw, hp, hq⟩
  have hne : j' ≠ i := by
    intro he
    rw [he] at hv
    exact hv.1 hin
  have hlt : j' < i := by omega
  have he : j = j' :=
    opener_unique hw hp hj hq hv hvq hlt (hqq.mono (Nat.le_refl j') (Nat.le_succ i))
  subst he
  have hvw := hv.unique hw
  subst hvw
  rw [hp] at hvq
  have hno := hqq i hlt (Nat.lt_succ_self i) line hl
  rw [← Option.some.inj hvq, hm] at hno
  cases hno

/-- Behind a line outside of regions there is one only if the line opens it. -/
theorem not_inRegion_succ_of_not_open {i : Nat} (ho : ¬ InRegion rules lines i)
    (hw : ∀ w, WonAt rules lines i w → w.rule.untilPattern = none) :
    ¬ InRegion rules lines (i + 1) := by
  rw [inRegion_iff]
  rintro ⟨j, hj, v, q, hv, hvq, hqq⟩
  by_cases hji : j < i
  · exact ho ((inRegion_iff i).mpr
      ⟨j, hji, v, q, hv, hvq, hqq.mono (Nat.le_refl j) (Nat.le_succ i)⟩)
  · have he : j = i := by omega
    subst he
    rw [hw v hv] at hvq
    cases hvq

/-! ### Flags, line by line -/

theorem FlagAt.zero : FlagAt rules lines 0 "" :=
  Or.inr ⟨rfl, fun k hk => absurd hk (Nat.not_lt_zero k)⟩

theorem FlagAt.succ_of_flag {n : Nat} {w : Win} {flag : String}
    (hw : WonAt rules lines n w) (hf : w.rule.flag = some flag) :
    FlagAt rules lines (n + 1) flag := by
  refine Or.inl ⟨n, Nat.lt_succ_self n, w, hw, hf, ?_⟩
  intro k hnk hk
  omega

theorem FlagAt.succ_of_none {n : Nat} {flag : String} (h : FlagAt rules lines n flag)
    (hno : ∀ v, WonAt rules lines n v → v.rule.flag = none) :
    FlagAt rules lines (n + 1) flag := by
  -- a win between the last one with a flag and the new place is old or at place `n`
  have hext : ∀ j, (∀ k, j < k → k < n → ∀ v, WonAt rules lines k v → v.rule.flag = none) →
      ∀ k, j < k → k < n + 1 → ∀ v, WonAt rules lines k v → v.rule.flag = none := by
    intro j hold k hjk hk v hv
    by_cases hkn : k < n
    · exact hold k hjk hkn v hv
    · have he : k = n := by omega
      rw [he] at hv
      exact hno v hv
  rcases h with ⟨j, hj, w, hw, hf, hold⟩ | ⟨hf, hold⟩
  · exact Or.inl ⟨j, by omega, w, hw, hf, hext j hold⟩
  · refine Or.inr ⟨hf, ?_⟩
    intro k hk v hv
    by_cases hkn : k < n
    · exact hold k hkn v hv
    · have he : k = n := by omega
      rw [he] at hv
      exact hno v hv

/-- The history says of only one flag that it is the current one. -/
theorem FlagAt.unique {n : Nat} {f g : String} (hf : FlagAt rules lines n f)
    (hg : FlagAt rules lines n g) : f = g := by
  rcases hf with ⟨j, hj, v, hv, hvf, hj'⟩ | ⟨rfl, hnone⟩
  · rcases hg with ⟨k, hk, w, hw, hwg, hk'⟩ | ⟨_, hnone⟩
    · rcases Nat.lt_trichotomy j k with hlt | he | hlt
      · have hno := hj' k hlt hk w hw
        rw [hwg] at hno
        cases hno
      · rw [← he] at hw
        rw [hv.unique hw, hwg] at hvf
        exact (Option.some.inj hvf).symm
      · have hno := hk' j hlt hj v hv
        rw [hvf] at hno
        cases hno
    · have hno := hnone j hj v hv
      rw [hvf] at hno
      cases hno
  · rcases hg with ⟨k, hk, w, hw, hwg, _⟩ | ⟨rfl, _⟩
    · have hno := hnone k hk w hw
      rw [hwg] at hno
      cases hno
    · rfl

/-! ### The simulation -/

/-- What a session knows is what the history before place `n` says. -/
structure Agrees (rules : GeneralRules) (lines : List String) (n : Nat) (s : Session) :
    Prop where
  /-- A region is that of a line which has opened it. -/
  opened : ∀ index, s.region = some index → ∃ j < n, ∃ w p, WonAt rules lines j w ∧
    w.index = index ∧ w.rule.untilPattern = some p ∧ Quiet lines p j n
  outside : s.region = none → ¬ InRegion rules lines n
  flag : FlagAt rules lines n s.flag

theorem Agrees.start : Agrees rules lines 0 start where
  opened _ h := by cases h
  outside _ := not_inRegion_zero
  flag := FlagAt.zero

theorem Agrees.region_iff {n : Nat} {s : Session} (h : Agrees rules lines n s) :
    s.region.isSome = true ↔ InRegion rules lines n := by
  cases hr : s.region with
  | none => simp [h.outside hr]
  | some index =>
    obtain ⟨j, hj, w, p, hw, _, hp, hq⟩ := h.opened index hr
    simp [(inRegion_iff n).mpr ⟨j, hj, w, p, hw, hp, hq⟩]

theorem Agrees.region_none {n : Nat} {s : Session} (h : Agrees rules lines n s)
    (ho : ¬ InRegion rules lines n) : s.region = none := by
  rw [← h.region_iff] at ho
  simpa using ho

theorem Agrees.step_region {n index : Nat} {s : Session} {line : String}
    (h : Agrees rules lines n s) (hl : lines[n]? = some line)
    (hr : s.region = some index) :
    Agrees rules lines (n + 1) (s.stepGeneral rules line).2 := by
  obtain ⟨j, hj, w, p, hw, rfl, hp, hq⟩ := h.opened index hr
  have hin : InRegion rules lines n := (inRegion_iff n).mpr ⟨j, hj, w, p, hw, hp, hq⟩
  have hflag : FlagAt rules lines (n + 1) s.flag :=
    h.flag.succ_of_none fun v hv => absurd hin hv.1
  obtain ⟨_, opener, _, hwins⟩ := id hw
  rw [stepGeneral_of_region hr, endsRegion_of_rule hwins.rule_at hp]
  cases hm : p.isMatch line.toList with
  | true =>
    have hclosed := not_inRegion_succ_of_match hj hw hp hq hl hm
    exact ⟨fun _ hi => (by cases hi), fun _ => hclosed, hflag⟩
  | false =>
    have hopen : ∀ i, s.region = some i → ∃ j < n + 1, ∃ w p, WonAt rules lines j w ∧
        w.index = i ∧ w.rule.untilPattern = some p ∧ Quiet lines p j (n + 1) := by
      intro i hi
      rw [hr] at hi
      exact ⟨j, by omega, w, p, hw, Option.some.inj hi, hp, hq.succ hl hm⟩
    exact ⟨hopen, fun hno => by simp [hr] at hno, hflag⟩

theorem Agrees.step_unmatched {n : Nat} {s : Session} {line : String}
    (h : Agrees rules lines n s) (hl : lines[n]? = some line) (hr : s.region = none)
    (hu : Unmatched rules line) :
    Agrees rules lines (n + 1) (s.stepGeneral rules line).2 := by
  have hnowin : ∀ w, ¬ WonAt rules lines n w := by
    rintro w ⟨_, line', hl', hw⟩
    rw [hl] at hl'
    rw [← Option.some.inj hl'] at hw
    exact hw.not_unmatched hu
  rw [stepGeneral_of_unmatched hr hu]
  refine ⟨fun index hi => by simp [hr] at hi, fun _ => ?_, ?_⟩
  · exact not_inRegion_succ_of_not_open (h.outside hr) fun w hw => absurd hw (hnowin w)
  · exact h.flag.succ_of_none fun w hw => absurd hw (hnowin w)

theorem Agrees.step_won {n : Nat} {s : Session} {line : String} {w : Win}
    (h : Agrees rules lines n s) (hl : lines[n]? = some line) (hr : s.region = none)
    (hw : Wins rules line w) :
    Agrees rules lines (n + 1) (s.stepGeneral rules line).2 := by
  have hwon : WonAt rules lines n w := ⟨h.outside hr, line, hl, hw⟩
  have hflag : FlagAt rules lines (n + 1) (w.rule.flag.getD s.flag) := by
    cases hf : w.rule.flag with
    | some flag => exact FlagAt.succ_of_flag hwon hf
    | none =>
      refine h.flag.succ_of_none fun v hv => ?_
      rw [hv.unique hwon]
      exact hf
  rw [stepGeneral_of_wins hr hw]
  cases hp : w.rule.untilPattern with
  | none =>
    refine ⟨fun index hi => by simp at hi, fun _ => ?_, hflag⟩
    refine not_inRegion_succ_of_not_open (h.outside hr) fun v hv => ?_
    rw [hv.unique hwon]
    exact hp
  | some p =>
    refine ⟨fun index hi => ?_, fun hno => by simp at hno, hflag⟩
    have hindex : w.index = index := by simpa using hi
    have hquiet : Quiet lines p n (n + 1) := fun k hnk hk => by omega
    exact ⟨n, Nat.lt_succ_self n, w, p, hwon, hindex, hp, hquiet⟩

theorem Agrees.step {n : Nat} {s : Session} {line : String} (h : Agrees rules lines n s)
    (hl : lines[n]? = some line) :
    Agrees rules lines (n + 1) (s.stepGeneral rules line).2 := by
  cases hr : s.region with
  | some index => exact h.step_region hl hr
  | none =>
    rcases unmatched_or_wins rules line with hu | ⟨w, hw⟩
    · exact h.step_unmatched hl hr hu
    · exact h.step_won hl hr hw

theorem agrees_after (rules : GeneralRules) {lines : List String} {n : Nat}
    (hn : n ≤ lines.length) : Agrees rules lines n (after (.general rules) lines n) := by
  induction n with
  | zero => exact Agrees.start
  | succ n ih =>
    have hl : lines[n]? = some lines[n] := List.getElem?_eq_getElem hn
    rw [after_succ (.general rules) hl]
    exact (ih (Nat.le_of_succ_le hn)).step hl

/-! ### The law -/

/-- What the history of lines says of the run over them. -/
structure Explains (rules : GeneralRules) (lines : List String) : Prop where
  /-- The session is in a region where the history says so. -/
  region : ∀ n ≤ lines.length,
    (after (.general rules) lines n).region.isSome = true ↔ InRegion rules lines n
  /-- The current flag is the one that the history says. -/
  flag : ∀ n ≤ lines.length, ∀ flag,
    FlagAt rules lines n flag ↔ (after (.general rules) lines n).flag = flag
  /-- A line in a region is passed through and leaves the flag. What the prefix pattern and
  the sources are does not matter to it, only where the region ends. -/
  passed : ∀ i line, lines[i]? = some line → InRegion rules lines i →
    (outputs (.general rules) lines)[i]? = some (some line) ∧
      (after (.general rules) lines (i + 1)).flag = (after (.general rules) lines i).flag ∧
      ∀ others : GeneralRules,
        (∀ index, (after (.general rules) lines i).region = some index →
          endsRegion others index line = endsRegion rules index line) →
        (after (.general rules) lines i).stepGeneral others line =
          (after (.general rules) lines i).stepGeneral rules line
  /-- A line outside of regions is dropped if it is unmatched, and only then. -/
  dropped : ∀ i line, lines[i]? = some line → ¬ InRegion rules lines i →
    ((outputs (.general rules) lines)[i]? = some none ↔ Unmatched rules line)
  /-- Any other line has a win, and is written as that says, with the flag behind it. -/
  kept : ∀ i line, lines[i]? = some line → ¬ InRegion rules lines i →
    ¬ Unmatched rules line → ∃ w flag, Wins rules line w ∧ FlagAt rules lines (i + 1) flag ∧
      (outputs (.general rules) lines)[i]? = some (some (w.fields ++ " " ++
        Text.padLeft flag 4 ++ " " ++ Text.padLeft (w.rule.tag.getD "") 4 ++ " " ++
        render w.rule w.groups w.content))

/-- Every run of a general set is explained by its history. -/
theorem history_explains_run (rules : GeneralRules) (lines : List String) :
    Explains rules lines where
  region n hn := (agrees_after rules hn).region_iff
  flag n hn flag := by
    have h := (agrees_after rules hn).flag
    constructor
    · exact fun hf => h.unique hf
    · rintro rfl
      exact h
  passed i line hl hin := by
    obtain ⟨hi, _⟩ := List.getElem?_eq_some_iff.mp hl
    have hsome := (agrees_after rules (Nat.le_of_lt hi)).region_iff.mpr hin
    obtain ⟨index, hr⟩ := Option.isSome_iff_exists.mp hsome
    have hstep := stepGeneral_of_region hr
    rw [outputs_getElem? _ hl, after_succ _ hl]
    simp only [step, hstep]
    refine ⟨trivial, ?_, ?_⟩
    · split <;> rfl
    · intro others hends
      rw [hends index hr]
  dropped i line hl ho := by
    obtain ⟨hi, _⟩ := List.getElem?_eq_some_iff.mp hl
    have hr := (agrees_after rules (Nat.le_of_lt hi)).region_none ho
    rw [outputs_getElem? _ hl]
    simp only [step]
    constructor
    · intro hnone
      rcases unmatched_or_wins rules line with hu | ⟨w, hw⟩
      · exact hu
      · rw [stepGeneral_of_wins hr hw] at hnone
        simp at hnone
    · intro hu
      rw [stepGeneral_of_unmatched hr hu]
  kept i line hl ho hno := by
    obtain ⟨hi, _⟩ := List.getElem?_eq_some_iff.mp hl
    have hr := (agrees_after rules (Nat.le_of_lt hi)).region_none ho
    obtain ⟨w, hw⟩ := (unmatched_or_wins rules line).resolve_left hno
    have hflag := (agrees_after rules hi).flag
    rw [after_succ _ hl] at hflag
    rw [outputs_getElem? _ hl]
    simp only [step, stepGeneral_of_wins hr hw] at hflag ⊢
    exact ⟨w, _, hw, hflag, rfl⟩

end LineSieve.Session
