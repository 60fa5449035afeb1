import LineSieve.Proofs.Stream.Passing

/-!
# Where runs halt

A run halts at the first check that fails, in the order of the loop: whether it is cancelled,
whether there is a line, whether the line is UTF-8, and whether the evaluator takes it.
`Halts` says where that is and what has come about by then, without a sink.

Every run halts at one of these places and has written the outputs of the lines before it, and
nothing else. A sink that is too small cuts this short at a byte, and the evaluator is not asked
any more. Which texts the evaluator is asked is seen by an evaluator that notes them.
-/

namespace LineSieve.Stream

open Text
open Text.Utf8 (Byte)

variable {σ : Type} {cancel : Cancel σ} {eval : Evaluator σ} {start : σ} {source : Source}

/-! ### Places -/

/-- Where a run halts if there is room for everything: the outputs of the lines that got through,
the texts that the evaluator was asked, how the run ends and what the evaluator knows then. -/
structure Halt (σ : Type) where
  outputs : List (Option String)
  asked : List String
  result : Except Error Stats
  state : σ

/-- A run halts. Each case is one check that fails, or none; `k` lines got through before. -/
inductive Halts (cancel : Cancel σ) (eval : Evaluator σ) (start : σ) (source : Source) :
    Halt σ → Prop
  | finished {texts outputs last} :
      Passes cancel eval 0 start source.contents texts outputs last →
      cancel source.contents.length last = false → source.fault = none →
      Halts cancel eval start source
        ⟨outputs, texts, .ok ⟨source.contents.length, keptCount outputs⟩, last⟩
  | sourceFailed {texts outputs last e} :
      Passes cancel eval 0 start source.contents texts outputs last →
      cancel source.contents.length last = false → source.fault = some e →
      Halts cancel eval start source ⟨outputs, texts, .error (.system e), last⟩
  | cancelled {k texts outputs last} :
      k ≤ source.contents.length →
      Passes cancel eval 0 start (source.contents.take k) texts outputs last →
      cancel k last = true →
      Halts cancel eval start source ⟨outputs, texts, .error (.cancelled k), last⟩
  | invalid {k line fault texts outputs last} :
      source.contents[k]? = some line →
      Passes cancel eval 0 start (source.contents.take k) texts outputs last →
      cancel k last = false → Utf8.decode line = .error fault →
      Halts cancel eval start source
        ⟨outputs, texts, .error (.system (.invalidLine (k + 1) fault)), last⟩
  | refused {k line text e next texts outputs last} :
      source.contents[k]? = some line →
      Passes cancel eval 0 start (source.contents.take k) texts outputs last →
      cancel k last = false → Utf8.decode line = .ok text →
      eval last text = (.error e, next) →
      Halts cancel eval start source ⟨outputs, texts ++ [text], .error e, next⟩

theorem Passes.as_take {n : Nat} {s last : σ} {lines : List (List Byte)} {texts : List String}
    {outputs : List (Option String)} (h : Passes cancel eval n s lines texts outputs last) :
    Passes cancel eval n s (lines.take lines.length) texts outputs last := by
  rwa [List.take_length]

theorem exists_halts (cancel : Cancel σ) (eval : Evaluator σ) (start : σ) (source : Source) :
    ∃ halt, Halts cancel eval start source halt := by
  rcases passes_or_blocked cancel eval 0 start source.contents with
    ⟨texts, outputs, last, hpass⟩ | ⟨k, line, texts, outputs, last, hline, hpass, hblock⟩
  · cases hc : cancel source.contents.length last with
    | true => exact ⟨_, .cancelled (Nat.le_refl _) hpass.as_take hc⟩
    | false =>
      cases hf : source.fault with
      | none => exact ⟨_, .finished hpass hc hf⟩
      | some e => exact ⟨_, .sourceFailed hpass hc hf⟩
  · rw [Nat.zero_add] at hblock
    cases hc : cancel k last with
    | true =>
      obtain ⟨hk, _⟩ := List.getElem?_eq_some_iff.mp hline
      exact ⟨_, .cancelled (Nat.le_of_lt hk) hpass hc⟩
    | false =>
      rcases hblock with hyes | ⟨fault, hd⟩ | ⟨text, e, next, hd, he⟩
      · rw [hc] at hyes
        cases hyes
      · exact ⟨_, .invalid hline hpass hc hd⟩
      · exact ⟨_, .refused hline hpass hc hd he⟩

theorem Halts.passes {halt : Halt σ} (h : Halts cancel eval start source halt) :
    ∃ k texts more last, k ≤ source.contents.length ∧ halt.asked = texts ++ more ∧
      Passes cancel eval 0 start (source.contents.take k) texts halt.outputs last := by
  have hlt : ∀ {k line}, source.contents[k]? = some line → k ≤ source.contents.length := by
    intro k line hline
    obtain ⟨hk, _⟩ := List.getElem?_eq_some_iff.mp hline
    exact Nat.le_of_lt hk
  cases h with
  | finished hpass _ _ | sourceFailed hpass _ _ =>
    exact ⟨_, _, [], _, Nat.le_refl _, (List.append_nil _).symm, hpass.as_take⟩
  | cancelled hk hpass _ => exact ⟨_, _, [], _, hk, (List.append_nil _).symm, hpass⟩
  | invalid hline hpass _ _ =>
    exact ⟨_, _, [], _, hlt hline, (List.append_nil _).symm, hpass⟩
  | @refused k line text e next texts outputs last hline hpass _ _ _ =>
    exact ⟨_, _, [text], _, hlt hline, rfl, hpass⟩

theorem Halts.line_at {halt : Halt σ} (h : Halts cancel eval start source halt) {m : Nat}
    (hm : m < halt.outputs.length) :
    ∃ line text output mid next, source.contents[m]? = some line ∧
      halt.asked.take (m + 1) = halt.asked.take m ++ [text] ∧
      halt.outputs.take (m + 1) = halt.outputs.take m ++ [output] ∧
      Passes cancel eval 0 start (source.contents.take m) (halt.asked.take m)
        (halt.outputs.take m) mid ∧
      cancel m mid = false ∧ Utf8.decode line = .ok text ∧ eval mid text = (.ok output, next) ∧
      Passes cancel eval 0 start (source.contents.take (m + 1)) (halt.asked.take (m + 1))
        (halt.outputs.take (m + 1)) next := by
  obtain ⟨k, texts, more, last, hk, hasked, hpass⟩ := h.passes
  obtain ⟨htexts, houtputs⟩ := hpass.length_eq
  have hline := hpass.line_at (houtputs ▸ hm)
  rw [List.length_take, Nat.min_eq_left hk] at htexts houtputs
  have htake : ∀ {i}, i ≤ m + 1 → halt.asked.take i = texts.take i := by
    intro i hi
    rw [hasked, List.take_append_of_le_length (by omega)]
  rwa [List.getElem?_take_of_lt (by omega), List.take_take, List.take_take,
    Nat.min_eq_left (by omega), Nat.min_eq_left (by omega), ← htake (Nat.le_succ m),
    ← htake (Nat.le_refl _), Nat.zero_add] at hline

/-! ### Runs up to a place -/

theorem map_chomp_take_rawLines (source : Source) (k : Nat) :
    (source.rawLines.take k).map chomp = source.contents.take k := by
  rw [List.map_take, source.map_chomp_rawLines]

/-- A run comes out behind the first `k` lines. -/
theorem run_eq_behind {k : Nat} (hk : k ≤ source.contents.length) {texts : List String}
    {outputs : List (Option String)} {last : σ}
    (h : Passes cancel eval 0 start (source.contents.take k) texts outputs last) {sink : Sink}
    (hfit : sink.Fits (outputBytes outputs).length) :
    ∃ next, sink.Extends (outputBytes outputs) next ∧
      run cancel eval start source sink =
        runLines cancel eval source.fault ⟨last, next, ⟨k, keptCount outputs⟩⟩
          (source.rawLines.drop k) := by
  obtain ⟨next, hext, hrun⟩ := runLines_of_passes h source.fault
    (p := .start start sink) rfl rfl hfit (map_chomp_take_rawLines source k)
    (source.rawLines.drop k)
  refine ⟨next, hext, ?_⟩
  rw [List.take_append_drop, List.length_take, Nat.min_eq_left hk] at hrun
  simpa only [run, Progress.start, Stats.zero, Nat.zero_add] using hrun

/-- Behind all lines a run that is not cancelled ends as the source does. -/
theorem run_at_end {texts : List String} {outputs : List (Option String)} {last : σ}
    (h : Passes cancel eval 0 start source.contents texts outputs last)
    (hc : cancel source.contents.length last = false) {sink : Sink}
    (hfit : sink.Fits (outputBytes outputs).length) :
    ∃ stop : Progress σ, stop.state = last ∧
      stop.sink.written = sink.written ++ outputBytes outputs ∧
      run cancel eval start source sink =
        (match source.fault with
        | none => .ok ⟨source.contents.length, keptCount outputs⟩
        | some e => .error (.system e), stop) := by
  obtain ⟨next, hext, hrun⟩ := run_eq_behind (Nat.le_refl _) h.as_take hfit
  have hdrop : source.rawLines.drop source.contents.length = [] := by
    rw [← source.map_chomp_rawLines, List.length_map, List.drop_length]
  refine ⟨⟨last, next, ⟨source.contents.length, keptCount outputs⟩⟩, rfl, hext.written_eq, ?_⟩
  rw [hrun, hdrop]
  cases hf : source.fault with
  | none => simp only [runLines, Progress.cancelled?, hc, Bool.false_eq_true, if_false]
  | some e => simp only [runLines, Progress.cancelled?, hc, Bool.false_eq_true, if_false]

theorem run_at_line {k : Nat} {line : List Byte} (hline : source.contents[k]? = some line)
    {texts : List String} {outputs : List (Option String)} {last : σ}
    (h : Passes cancel eval 0 start (source.contents.take k) texts outputs last) {sink : Sink}
    (hfit : sink.Fits (outputBytes outputs).length) :
    ∃ raw rest next, chomp raw = line ∧ sink.Extends (outputBytes outputs) next ∧
      run cancel eval start source sink =
        runLines cancel eval source.fault ⟨last, next, ⟨k, keptCount outputs⟩⟩ (raw :: rest) := by
  obtain ⟨hk, _⟩ := List.getElem?_eq_some_iff.mp hline
  obtain ⟨next, hext, hrun⟩ := run_eq_behind (Nat.le_of_lt hk) h hfit
  rw [← source.map_chomp_rawLines, List.getElem?_map, Option.map_eq_some_iff] at hline
  obtain ⟨raw, hraw, rfl⟩ := hline
  obtain ⟨hk, rfl⟩ := List.getElem?_eq_some_iff.mp hraw
  rw [List.drop_eq_getElem_cons hk] at hrun
  exact ⟨_, _, next, rfl, hext, hrun⟩

/-- If there is room for the outputs before it, a run halts where it halts without a limit. -/
theorem run_of_halts {halt : Halt σ} (h : Halts cancel eval start source halt) {sink : Sink}
    (hfit : sink.Fits (outputBytes halt.outputs).length) :
    ∃ stop : Progress σ, stop.state = halt.state ∧
      stop.sink.written = sink.written ++ outputBytes halt.outputs ∧
      run cancel eval start source sink = (halt.result, stop) := by
  cases h with
  | @finished texts outputs last hpass hc hf =>
    have hend := run_at_end hpass hc hfit
    rwa [hf] at hend
  | @sourceFailed texts outputs last e hpass hc hf =>
    have hend := run_at_end hpass hc hfit
    rwa [hf] at hend
  | @cancelled k texts outputs last hk hpass hc =>
    obtain ⟨next, hext, hrun⟩ := run_eq_behind hk hpass hfit
    refine ⟨⟨last, next, ⟨k, keptCount outputs⟩⟩, rfl, hext.written_eq, ?_⟩
    rw [hrun]
    cases source.rawLines.drop k with
    | nil => simp only [runLines, Progress.cancelled?, hc, if_true]
    | cons => simp only [runLines, Progress.cancelled?, hc, if_true]
  | @invalid k line fault texts outputs last hline hpass hc hd =>
    obtain ⟨raw, rest, next, rfl, hext, hrun⟩ := run_at_line hline hpass hfit
    obtain ⟨stop, hstate, hsink, hread⟩ :=
      Progress.read_of_invalid (p := ⟨last, next, ⟨k, keptCount outputs⟩⟩) eval hd
    refine ⟨stop, hstate, ?_, ?_⟩
    · rw [hsink, hext.written_eq]
    · rw [hrun, runLines_cons_of_stop hc hread]
  | @refused k line text e state texts outputs last hline hpass hc hd he =>
    obtain ⟨raw, rest, next, rfl, hext, hrun⟩ := run_at_line hline hpass hfit
    obtain ⟨stop, hstate, hsink, hread⟩ :=
      Progress.read_of_refused (p := ⟨last, next, ⟨k, keptCount outputs⟩⟩) hd he
    refine ⟨stop, hstate, ?_, ?_⟩
    · rw [hsink, hext.written_eq]
    · rw [hrun, runLines_cons_of_stop hc hread]

/-- A run ends with the first output that does not fit. -/
theorem run_of_full {m : Nat} {line : List Byte} {texts : List String} {text : String}
    {outputs : List (Option String)} {output : Option String} {mid next : σ}
    (hline : source.contents[m]? = some line)
    (hpass : Passes cancel eval 0 start (source.contents.take m) texts outputs mid)
    (hc : cancel m mid = false) (hd : Utf8.decode line = .ok text)
    (he : eval mid text = (.ok output, next)) {room : Nat}
    (hle : (outputBytes outputs).length ≤ room)
    (hlt : room < (outputBytes (outputs ++ [output])).length) :
    ∃ stop : Progress σ, stop.state = next ∧
      stop.sink.written = (outputBytes (outputs ++ [output])).take room ∧
      run cancel eval start source (.limited room) = (.error (.system Sink.full), stop) := by
  have hfit : (Sink.limited room).Fits (outputBytes outputs).length := by
    intro other hother
    cases hother
    exact hle
  obtain ⟨raw, rest, sink, rfl, hext, hrun⟩ := run_at_line hline hpass hfit
  have hleft : sink.room = some (room - (outputBytes outputs).length) := hext.room_eq
  have hbytes := outputBytes_append outputs [output]
  rw [hbytes, List.length_append] at hlt
  obtain ⟨stop, hstate, hwritten, hread⟩ :=
    Progress.read_of_full (p := ⟨mid, sink, ⟨m, keptCount outputs⟩⟩) hd he hleft (by omega)
  refine ⟨stop, hstate, ?_, ?_⟩
  · rw [hwritten, hext.written_eq, Sink.written_limited, List.nil_append, hbytes,
      List.take_append, List.take_of_length_le hle]
  · rw [hrun, runLines_cons_of_stop hc hread]

/-! ### What the evaluator is asked -/

/-- An evaluator that notes the texts that it is asked. -/
def noting (eval : Evaluator σ) : Evaluator (σ × List String) := fun known text =>
  let (result, next) := eval known.1 text
  (result, next, known.2 ++ [text])

/-- A cancellation that looks past the notes. -/
def pastNotes (cancel : Cancel σ) : Cancel (σ × List String) := fun n known => cancel n known.1

/-- The texts that the evaluator is asked in a run. -/
def asked (cancel : Cancel σ) (eval : Evaluator σ) (start : σ) (source : Source) (sink : Sink) :
    List String :=
  (run (pastNotes cancel) (noting eval) (start, []) source sink).2.state.2

theorem noting_eq {s next : σ} {text : String} {result : Except Error (Option String)}
    (h : eval s text = (result, next)) (notes : List String) :
    noting eval (s, notes) text = (result, next, notes ++ [text]) := by
  simp only [noting, h]

theorem Passes.noted {n : Nat} {s last : σ} {lines : List (List Byte)} {texts : List String}
    {outputs : List (Option String)} (h : Passes cancel eval n s lines texts outputs last)
    (notes : List String) :
    Passes (pastNotes cancel) (noting eval) n (s, notes) lines texts outputs
      (last, notes ++ texts) := by
  induction h generalizing notes with
  | nil n s =>
    rw [List.append_nil]
    exact .nil n (s, notes)
  | @cons n s line text output next lines texts outputs last hc hd he _ ih =>
    have hrest := ih (notes ++ [text])
    rw [List.append_assoc, List.singleton_append] at hrest
    exact .cons hc hd (noting_eq he notes) hrest

theorem Halts.noted {halt : Halt σ} (h : Halts cancel eval start source halt) :
    Halts (pastNotes cancel) (noting eval) (start, []) source
      ⟨halt.outputs, halt.asked, halt.result, halt.state, halt.asked⟩ := by
  cases h with
  | finished hpass hc hf => exact .finished (hpass.noted []) hc hf
  | sourceFailed hpass hc hf => exact .sourceFailed (hpass.noted []) hc hf
  | cancelled hk hpass hc => exact .cancelled hk (hpass.noted []) hc
  | invalid hline hpass hc hd => exact .invalid hline (hpass.noted []) hc hd
  | @refused k line text e next texts outputs last hline hpass hc hd he =>
    exact .refused hline (hpass.noted []) hc hd (noting_eq he texts)

/-! ### Where runs halt -/

/-- How a run ends: its result, what the evaluator knows then, what was written and which texts
the evaluator was asked. -/
structure Ends (cancel : Cancel σ) (eval : Evaluator σ) (start : σ) (source : Source)
    (sink : Sink) (result : Except Error Stats) (state : σ) (written : List Byte)
    (texts : List String) : Prop where
  result_eq : (run cancel eval start source sink).1 = result
  state_eq : (run cancel eval start source sink).2.state = state
  written_eq : (run cancel eval start source sink).2.sink.written = written
  asked_eq : asked cancel eval start source sink = texts

theorem Halts.ends_behind {halt : Halt σ} (h : Halts cancel eval start source halt) {sink : Sink}
    (hfit : sink.Fits (outputBytes halt.outputs).length) :
    Ends cancel eval start source sink halt.result halt.state
      (sink.written ++ outputBytes halt.outputs) halt.asked := by
  obtain ⟨stop, hstate, hwritten, hrun⟩ := run_of_halts h hfit
  obtain ⟨noted, hnotes, _, hnoted⟩ := run_of_halts h.noted hfit
  refine ⟨by rw [hrun], by rw [hrun, hstate], by rw [hrun, hwritten], ?_⟩
  rw [asked, hnoted, hnotes]

theorem Halts.ends {halt : Halt σ} (h : Halts cancel eval start source halt) {sink : Sink}
    (hempty : sink.written = []) (hfit : sink.Fits (outputBytes halt.outputs).length) :
    Ends cancel eval start source sink halt.result halt.state (outputBytes halt.outputs)
      halt.asked := by
  have hends := h.ends_behind hfit
  rwa [hempty, List.nil_append] at hends

/-- A run that has written all there was room for ends with the line whose output did not fit. -/
theorem Halts.ends_of_full {halt : Halt σ} (h : Halts cancel eval start source halt)
    {room : Nat} (hfull : room < (outputBytes halt.outputs).length) :
    ∃ m last, m < halt.outputs.length ∧ FirstTooLong halt.outputs room m ∧
      Passes cancel eval 0 start (source.contents.take (m + 1)) (halt.asked.take (m + 1))
        (halt.outputs.take (m + 1)) last ∧
      Ends cancel eval start source (.limited room) (.error (.system Sink.full)) last
        ((outputBytes halt.outputs).take room) (halt.asked.take (m + 1)) := by
  obtain ⟨m, hm, hle, hlt⟩ := exists_firstTooLong hfull
  obtain ⟨line, text, output, mid, next, hline, htext, houtput, hbefore, hc, hd, he, hbehind⟩ :=
    h.line_at hm
  have hlt' := hlt
  rw [houtput] at hlt'
  obtain ⟨stop, hstate, hwritten, hrun⟩ := run_of_full hline hbefore hc hd he hle hlt'
  -- with notes the run ends at the same line, so the notes are those of its texts
  obtain ⟨noted, hnotes, _, hnoted⟩ :=
    run_of_full hline (hbefore.noted []) hc hd (noting_eq he _) hle hlt'
  have htake : (outputBytes (halt.outputs.take (m + 1))).take room =
      (outputBytes halt.outputs).take room := by
    rw [← List.take_append_drop (m + 1) halt.outputs, outputBytes_append,
      List.take_append_of_le_length (Nat.le_of_lt hlt), List.take_append_drop]
  refine ⟨m, next, hm, ⟨hle, hlt⟩, hbehind, by rw [hrun], by rw [hrun, hstate], ?_, ?_⟩
  · rw [hrun, hwritten, ← houtput, htake]
  · rw [asked, hnoted, hnotes, htext, List.nil_append]

/-- Every run halts at one of the places that `Halts` names. It comes out there with the outputs
of the lines before it written and the evaluator asked once for each of them, and for the line
that it refuses. If the sink is too small for these outputs, exactly what there was room for is
written, and the evaluator is not asked behind the first output that does not fit. -/
theorem run_halts (cancel : Cancel σ) (eval : Evaluator σ) (start : σ) (source : Source) :
    (∃ halt, Halts cancel eval start source halt) ∧
    ∀ halt, Halts cancel eval start source halt →
      Ends cancel eval start source .unlimited halt.result halt.state (outputBytes halt.outputs)
        halt.asked ∧
      ∀ room,
        ((outputBytes halt.outputs).length ≤ room →
          Ends cancel eval start source (.limited room) halt.result halt.state
            (outputBytes halt.outputs) halt.asked) ∧
        (room < (outputBytes halt.outputs).length →
          ∃ m last, m < halt.outputs.length ∧ FirstTooLong halt.outputs room m ∧
            Passes cancel eval 0 start (source.contents.take (m + 1)) (halt.asked.take (m + 1))
              (halt.outputs.take (m + 1)) last ∧
            Ends cancel eval start source (.limited room) (.error (.system Sink.full)) last
              ((outputBytes halt.outputs).take room) (halt.asked.take (m + 1))) := by
  refine ⟨exists_halts cancel eval start source, fun halt h => ⟨?_, fun room => ⟨?_, ?_⟩⟩⟩
  · exact h.ends rfl fun room hr => by cases hr
  · intro hle
    refine h.ends rfl fun other hother => ?_
    cases hother
    exact hle
  · exact h.ends_of_full

end LineSieve.Stream
