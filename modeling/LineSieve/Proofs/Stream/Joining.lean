import LineSieve.Proofs.Record.Streams
import LineSieve.Proofs.Rule.Compiling
import LineSieve.Proofs.Stream.Passing

/-!
# Runs one after another

Bytes that end with a line feed can be cut off: what stands behind them is cut into lines as if it
stood alone. So a run over both parts does what a run over the first does and then, with the
evaluator and the sink as they are left, a run over the second. What the second run counts from
zero the whole run counts on: it reads line `m` of the second part as the line `n + m` if the first
part has `n` lines.
-/

namespace LineSieve.Text

open Utf8 (Byte)

/-! ### Lines of two parts -/

theorem rawLinesFrom_append_ended {xs : List Byte} (h : xs.getLast? = some lineFeed)
    (line ys : List Byte) :
    rawLinesFrom line (xs ++ ys) = rawLinesFrom line xs ++ rawLines ys := by
  induction xs generalizing line with
  | nil => cases h
  | cons b rest ih =>
    by_cases hrest : rest = []
    · subst hrest
      obtain rfl : b = lineFeed := by simpa using h
      simp [rawLinesFrom, rawLines]
    · have hlast : rest.getLast? = some lineFeed := by
        rwa [List.getLast?_cons_of_ne_nil hrest] at h
      by_cases hb : b = lineFeed
      · simp [rawLinesFrom, hb, ih hlast]
      · simp [rawLinesFrom, hb, ih hlast]

/-- Bytes are no lines, or the last line of them is ended. -/
def Ended (bytes : List Byte) : Prop := bytes = [] ∨ bytes.getLast? = some lineFeed

theorem Ended.rawLines_append {xs : List Byte} (h : Ended xs) (ys : List Byte) :
    rawLines (xs ++ ys) = rawLines xs ++ rawLines ys := by
  rcases h with rfl | hlast
  · rfl
  · exact rawLinesFrom_append_ended hlast [] ys

end LineSieve.Text

namespace LineSieve

/-- An error as it is reported behind `n` lines that were read before: lines are numbered on. -/
def Error.behind (n : Nat) : Error → Error
  | .system (.invalidLine m fault) => .system (.invalidLine (n + m) fault)
  | e => e

theorem Error.behind_of_ne {e : Error} (h : ∀ m fault, e ≠ .system (.invalidLine m fault))
    (n : Nat) : e.behind n = e := by
  unfold behind
  split
  · next m fault => exact absurd rfl (h m fault)
  · rfl

end LineSieve

namespace LineSieve.Stream

open Text
open Text.Utf8 (Byte)

variable {σ : Type} {eval : Evaluator σ}

/-! ### Going on -/

/-- A run goes on behind lines if it would have ended there without an error. -/
theorem runLines_append (cancel : Cancel σ) (eval : Evaluator σ) (fault : Option SystemError)
    (p : Progress σ) (xs ys : List (List Byte)) :
    runLines cancel eval fault p (xs ++ ys) =
      match runLines cancel eval none p xs with
      | (.error e, q) => (.error e, q)
      | (.ok _, q) => runLines cancel eval fault q ys := by
  induction xs generalizing p with
  | nil =>
    -- the check behind the first lines is the check before the others
    cases hc : p.cancelled? cancel with
    | none => simp only [List.nil_append, runLines, hc]
    | some e => cases ys <;> simp only [List.nil_append, runLines, hc]
  | cons raw rest ih =>
    cases hc : p.cancelled? cancel with
    | some e => simp only [List.cons_append, runLines, hc]
    | none =>
      rcases hread : p.read eval raw with ⟨_ | e, q⟩
      · simp only [List.cons_append, runLines, hc, hread, ih]
      · simp only [List.cons_append, runLines, hc, hread]

/-- A run that succeeds reports what it has counted. -/
theorem stats_of_runLines_ok {cancel : Cancel σ} {fault : Option SystemError} {p q : Progress σ}
    {raws : List (List Byte)} {stats : Stats}
    (h : runLines cancel eval fault p raws = (.ok stats, q)) : q.stats = stats := by
  induction raws generalizing p with
  | nil =>
    unfold runLines at h
    split at h
    · cases h
    · cases h
    · cases h
      rfl
  | cons raw rest ih =>
    unfold runLines at h
    split at h
    · cases h
    · split at h
      · cases h
      · exact ih h

/-! ### Counting on -/

/-- The counts of two runs together. -/
def Stats.add (first second : Stats) : Stats :=
  ⟨first.linesRead + second.linesRead, first.linesKept + second.linesKept⟩

/-- A run as far as it has come, behind lines that were counted before. -/
def Progress.behind (before : Stats) (p : Progress σ) : Progress σ :=
  { p with stats := before.add p.stats }

/-- How a run ends behind lines that were counted before. -/
def endBehind (before : Stats) : Outcome σ → Outcome σ
  | (.ok stats, p) => (.ok (before.add stats), p.behind before)
  | (.error e, p) => (.error (e.behind before.linesRead), p.behind before)

/-- The evaluator takes every line, whatever it knows. -/
def Tireless (eval : Evaluator σ) : Prop :=
  ∀ s text, ∃ output next, eval s text = (.ok output, next)

theorem tireless_sieve (rules : Rule.Set) : Tireless (sieve rules) :=
  fun s text => ⟨(s.step rules text).1, (s.step rules text).2, rfl⟩

theorem Sink.eq_full_of_write {sink next : Sink} {bytes : List Byte} {e : SystemError}
    (h : sink.write bytes = (some e, next)) : e = full := by
  unfold write at h
  split at h
  · cases h
  · next room _ =>
    by_cases hle : bytes.length ≤ room
    · simp [hle] at h
    · simp only [hle, if_false, Prod.mk.injEq, Option.some.injEq] at h
      exact h.1.symm

theorem Progress.keep_behind (before : Stats) (p : Progress σ) (output : String) :
    (p.behind before).keep output =
      ((p.keep output).1.map (Error.behind before.linesRead), (p.keep output).2.behind before) := by
  rcases hwrite : p.sink.write (Utf8.encode output ++ [lineFeed]) with ⟨_ | e, sink⟩
  · simp only [keep, behind, hwrite]
    rfl
  · obtain rfl := Sink.eq_full_of_write hwrite
    simp only [keep, behind, hwrite]
    rfl

theorem Progress.read_behind (heval : Tireless eval) (before : Stats) (p : Progress σ)
    (raw : List Byte) :
    (p.behind before).read eval raw =
      ((p.read eval raw).1.map (Error.behind before.linesRead),
        (p.read eval raw).2.behind before) := by
  cases hd : Utf8.decode (chomp raw) with
  | error fault => simp only [read, hd, behind, Stats.add, Error.behind, Option.map, Nat.add_assoc]
  | ok text =>
    obtain ⟨output, next, he⟩ := heval p.state text
    cases output with
    | none => simp only [read, hd, behind, evaluate, he, Stats.add, Option.map, Nat.add_assoc]
    | some output =>
      have hkeep :=
        keep_behind before ⟨next, p.sink, ⟨p.stats.linesRead + 1, p.stats.linesKept⟩⟩ output
      simp only [behind, Stats.add, ← Nat.add_assoc] at hkeep
      simp only [read, hd, behind, evaluate, he, Stats.add, hkeep]

theorem runLines_behind (heval : Tireless eval) (before : Stats) (p : Progress σ)
    (raws : List (List Byte)) :
    runLines never eval none (p.behind before) raws =
      endBehind before (runLines never eval none p raws) := by
  induction raws generalizing p with
  | nil => rfl
  | cons raw rest ih =>
    have hc : never p.stats.linesRead p.state = false := rfl
    have hb : never (p.behind before).stats.linesRead (p.behind before).state = false := rfl
    have hread := Progress.read_behind heval before p raw
    rcases hp : p.read eval raw with ⟨_ | e, q⟩
    · rw [hp] at hread
      rw [runLines_cons_of_continue hc hp, runLines_cons_of_continue hb hread, ih]
    · rw [hp] at hread
      rw [runLines_cons_of_stop hc hp, runLines_cons_of_stop hb hread]
      rfl

/-! ### Runs one after another -/

section Joined

variable {first second whole : Source} {sink : Sink} {state : σ}

/-- The bytes of two sources are those of a third one, and the last line of the first is ended. -/
structure Joins (first second whole : Source) : Prop where
  bytes_eq : whole.bytes = first.bytes ++ second.bytes
  ended : Ended first.bytes
  first_fault : first.fault = none
  second_fault : second.fault = none
  whole_fault : whole.fault = none

theorem Joins.rawLines_eq (h : Joins first second whole) :
    whole.rawLines = first.rawLines ++ second.rawLines := by
  rw [Source.rawLines_eq h.whole_fault, Source.rawLines_eq h.first_fault,
    Source.rawLines_eq h.second_fault, h.bytes_eq, h.ended.rawLines_append]

theorem Joins.run_eq_of_error (h : Joins first second whole) {cancel : Cancel σ} {e : Error}
    {stop : Progress σ} (hrun : run cancel eval state first sink = (.error e, stop)) :
    run cancel eval state whole sink = (.error e, stop) := by
  rw [run, h.first_fault] at hrun
  rw [run, h.whole_fault, h.rawLines_eq, runLines_append, hrun]

/-- Behind the first source the run goes on as one over the second, but it counts on. -/
theorem Joins.run_eq_of_ok (h : Joins first second whole) (heval : Tireless eval) {stats : Stats}
    {mid : Progress σ} (hrun : run never eval state first sink = (.ok stats, mid)) :
    run never eval state whole sink =
      endBehind stats (run never eval mid.state second mid.sink) := by
  rw [run, h.first_fault] at hrun
  have hmid : mid = (Progress.start mid.state mid.sink).behind stats := by
    rw [← stats_of_runLines_ok hrun]
    rfl
  rw [run, h.whole_fault, h.rawLines_eq, runLines_append, hrun]
  dsimp only
  rw [hmid, runLines_behind heval, run, h.second_fault]
  rfl

/-- A run over two parts, the first of which ends with a line, is a run over the first and then one
over the second with the session and the sink as they are left. What is written and the session
at the end are the same, the counts add up, and a line that is not UTF-8 has the number that it has
in the whole. If the first run fails, the run over both fails in the same way at the same place. -/
theorem runs_join (rules : Rule.Set) (session : Session) (first second whole : Source)
    (sink : Sink) (h : Joins first second whole) :
    (∀ e stop, runRules rules session first sink = (.error e, stop) →
      runRules rules session whole sink = (.error e, stop)) ∧
    ∀ stats mid, runRules rules session first sink = (.ok stats, mid) →
      let next := runRules rules mid.state second mid.sink
      (runRules rules session whole sink).2.sink = next.2.sink ∧
      (runRules rules session whole sink).2.state = next.2.state ∧
      (∀ more, next.1 = .ok more → (runRules rules session whole sink).1 =
        .ok ⟨stats.linesRead + more.linesRead, stats.linesKept + more.linesKept⟩) ∧
      (∀ m fault, next.1 = .error (.system (.invalidLine m fault)) →
        (runRules rules session whole sink).1 =
          .error (.system (.invalidLine (stats.linesRead + m) fault))) ∧
      ∀ e, next.1 = .error e → (∀ m fault, e ≠ .system (.invalidLine m fault)) →
        (runRules rules session whole sink).1 = .error e := by
  refine ⟨fun e stop hrun => h.run_eq_of_error hrun, fun stats mid hrun => ?_⟩
  have hwhole : runRules rules session whole sink =
      endBehind stats (runRules rules mid.state second mid.sink) :=
    h.run_eq_of_ok (tireless_sieve rules) hrun
  rw [hwhole]
  rcases runRules rules mid.state second mid.sink with ⟨e | more, stop⟩
  · refine ⟨rfl, rfl, fun _ hmore => (nomatch hmore), ?_, ?_⟩
    · rintro m fault ⟨⟩
      rfl
    · rintro _ ⟨⟩ hother
      exact congrArg Except.error (Error.behind_of_ne hother _)
  · refine ⟨rfl, rfl, ?_, fun _ _ herror => (nomatch herror), fun _ herror => (nomatch herror)⟩
    rintro _ ⟨⟩
    rfl

/-- The first part ends within a region, and the second line of the second part is not UTF-8. -/
theorem runs_join_within_region :
    let rules := Rule.rulesOrNone (.ofList [("type", .text "general"), ("rules", .array
      [.record [("src", .text "^b"), ("until", .text "e"), ("flag", .text "F")]])])
    let first : Source := ⟨[[98, 10, 120], [10]], none⟩
    let second : Source := .ofBytes [121, 13, 10, 255, 10, 101]
    let whole : Source := ⟨[[98, 10], [120, 10, 121, 13], [10, 255, 10, 101]], none⟩
    let mid := (runRules rules .start first .unlimited).2
    let next := runRules rules mid.state second mid.sink
    (runRules rules .start first .unlimited).1 = .ok ⟨2, 2⟩ ∧ mid.state = ⟨"F", some 0⟩ ∧
      next.1 = .error (.system (.invalidLine 2 ⟨0, some 1⟩)) ∧
      (runRules rules .start whole .unlimited).1 =
        .error (.system (.invalidLine 4 ⟨0, some 1⟩)) ∧
      (runRules rules .start whole .unlimited).2.sink = next.2.sink ∧
      (runRules rules .start whole .unlimited).2.state = next.2.state := by
  intro rules first second whole mid next
  have hfirst : (runRules rules .start first .unlimited).1 = .ok ⟨2, 2⟩ := by decide +kernel
  have hnext : next.1 = .error (.system (.invalidLine 2 ⟨0, some 1⟩)) := by decide +kernel
  obtain ⟨-, hok⟩ := runs_join rules .start first second whole .unlimited
    ⟨rfl, .inr rfl, rfl, rfl, rfl⟩
  obtain ⟨hsink, hstate, -, hinvalid, -⟩ := hok ⟨2, 2⟩ mid (Prod.ext hfirst rfl)
  exact ⟨hfirst, by decide +kernel, hnext, hinvalid 2 _ hnext, hsink, hstate⟩

end Joined

end LineSieve.Stream
