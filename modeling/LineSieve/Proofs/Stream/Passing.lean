import LineSieve.Proofs.Stream.Lines
import LineSieve.Stream.Run

/-!
# Lines that get through

`Passes` relates lines to what is made of them as long as nothing goes wrong: no check finds the
run cancelled, every line is UTF-8 and the evaluator refuses none. It says nothing of writing.
A run over such lines comes out behind them with their outputs written if the sink has room for
all of them (`runLines_of_passes`).
-/

namespace LineSieve.Stream

open Text
open Text.Utf8 (Byte)

variable {σ : Type} {cancel : Cancel σ} {eval : Evaluator σ}

/-! ### Outputs -/

/-- The bytes of outputs, each as a line. -/
def outputBytes (outputs : List (Option String)) : List Byte :=
  outputs.flatMap fun output =>
    match output with
    | some text => Utf8.encode text ++ [lineFeed]
    | none => []

/-- The number of outputs that are kept. -/
def keptCount (outputs : List (Option String)) : Nat := outputs.countP Option.isSome

theorem outputBytes_some (text : String) :
    outputBytes [some text] = Utf8.encode text ++ [lineFeed] := by
  simp [outputBytes]

theorem outputBytes_append (xs ys : List (Option String)) :
    outputBytes (xs ++ ys) = outputBytes xs ++ outputBytes ys := List.flatMap_append

theorem outputBytes_cons (output : Option String) (rest : List (Option String)) :
    outputBytes (output :: rest) = outputBytes [output] ++ outputBytes rest :=
  outputBytes_append [output] rest

/-- The output behind the first `m` is the first that does not fit. -/
def FirstTooLong (outputs : List (Option String)) (room m : Nat) : Prop :=
  (outputBytes (outputs.take m)).length ≤ room ∧ room < (outputBytes (outputs.take (m + 1))).length

theorem exists_firstTooLong {outputs : List (Option String)} {room : Nat}
    (h : room < (outputBytes outputs).length) :
    ∃ m, m < outputs.length ∧ FirstTooLong outputs room m := by
  induction outputs generalizing room with
  | nil => simp [outputBytes] at h
  | cons output rest ih =>
    by_cases hfirst : room < (outputBytes [output]).length
    · exact ⟨0, Nat.succ_pos _, Nat.zero_le _, hfirst⟩
    · rw [outputBytes_cons, List.length_append] at h
      have hrest : room - (outputBytes [output]).length < (outputBytes rest).length := by omega
      obtain ⟨m, hm, hle, hlt⟩ := ih hrest
      refine ⟨m + 1, Nat.succ_lt_succ hm, ?_, ?_⟩
      · rw [List.take_succ_cons, outputBytes_cons, List.length_append]
        omega
      · rw [List.take_succ_cons, outputBytes_cons, List.length_append]
        omega

theorem keptCount_cons (output : Option String) (rest : List (Option String)) :
    keptCount (output :: rest) = keptCount [output] + keptCount rest := by
  unfold keptCount
  rw [← List.singleton_append, List.countP_append]

/-! ### Lines -/

/-- Lines get through from where `n` lines have been read and the evaluator knows `s`: these
are their texts and their outputs, and what the evaluator knows behind them. -/
inductive Passes (cancel : Cancel σ) (eval : Evaluator σ) :
    Nat → σ → List (List Byte) → List String → List (Option String) → σ → Prop
  | nil (n s) : Passes cancel eval n s [] [] [] s
  | cons {n s line text output next lines texts outputs last} :
      cancel n s = false → Utf8.decode line = .ok text → eval s text = (.ok output, next) →
      Passes cancel eval (n + 1) next lines texts outputs last →
      Passes cancel eval n s (line :: lines) (text :: texts) (output :: outputs) last

def Blocked (cancel : Cancel σ) (eval : Evaluator σ) (n : Nat) (s : σ) (line : List Byte) :
    Prop :=
  cancel n s = true ∨ (∃ fault, Utf8.decode line = .error fault) ∨
    ∃ text e next, Utf8.decode line = .ok text ∧ eval s text = (.error e, next)

theorem Passes.length_eq {n : Nat} {s last : σ} {lines : List (List Byte)}
    {texts : List String} {outputs : List (Option String)}
    (h : Passes cancel eval n s lines texts outputs last) :
    texts.length = lines.length ∧ outputs.length = lines.length := by
  induction h with
  | nil => exact ⟨rfl, rfl⟩
  | cons _ _ _ _ ih => simp [ih.1, ih.2]

/-- Each of the lines that get through is one that the evaluator takes. -/
theorem Passes.line_at {n : Nat} {s last : σ} {lines : List (List Byte)} {texts : List String}
    {outputs : List (Option String)} (h : Passes cancel eval n s lines texts outputs last)
    {m : Nat} (hm : m < lines.length) :
    ∃ line text output mid next, lines[m]? = some line ∧
      texts.take (m + 1) = texts.take m ++ [text] ∧
      outputs.take (m + 1) = outputs.take m ++ [output] ∧
      Passes cancel eval n s (lines.take m) (texts.take m) (outputs.take m) mid ∧
      cancel (n + m) mid = false ∧ Utf8.decode line = .ok text ∧
      eval mid text = (.ok output, next) ∧
      Passes cancel eval n s (lines.take (m + 1)) (texts.take (m + 1)) (outputs.take (m + 1))
        next := by
  induction h generalizing m with
  | nil => cases hm
  | @cons n s line text output next lines texts outputs last hc hd he _ ih =>
    cases m with
    | zero =>
      exact ⟨line, text, output, s, next, rfl, rfl, rfl, .nil n s, hc, hd, he,
        .cons hc hd he (.nil _ _)⟩
    | succ m =>
      obtain ⟨lineAt, textAt, outputAt, mid, nextAt, hline, htexts, houtputs, hbefore, hcancel,
        hdecode, heval, hbehind⟩ := ih (Nat.lt_of_succ_lt_succ hm)
      refine ⟨lineAt, textAt, outputAt, mid, nextAt, hline, congrArg (text :: ·) htexts,
        congrArg (output :: ·) houtputs, .cons hc hd he hbefore, ?_, hdecode, heval,
        .cons hc hd he hbehind⟩
      rwa [Nat.add_right_comm] at hcancel

theorem passes_or_blocked (cancel : Cancel σ) (eval : Evaluator σ) (n : Nat) (s : σ)
    (lines : List (List Byte)) :
    (∃ texts outputs last, Passes cancel eval n s lines texts outputs last) ∨
      ∃ k line texts outputs last, lines[k]? = some line ∧
        Passes cancel eval n s (lines.take k) texts outputs last ∧
        Blocked cancel eval (n + k) last line := by
  induction lines generalizing n s with
  | nil => exact Or.inl ⟨[], [], s, .nil n s⟩
  | cons line rest ih =>
    have hfirst : Blocked cancel eval n s line → ∃ k l texts outputs last,
        (line :: rest)[k]? = some l ∧
          Passes cancel eval n s ((line :: rest).take k) texts outputs last ∧
          Blocked cancel eval (n + k) last l :=
      fun hb => ⟨0, line, [], [], s, rfl, .nil n s, hb⟩
    cases hc : cancel n s with
    | true => exact Or.inr (hfirst (Or.inl hc))
    | false =>
      cases hd : Utf8.decode line with
      | error fault => exact Or.inr (hfirst (Or.inr (Or.inl ⟨fault, hd⟩)))
      | ok text =>
        cases he : eval s text with
        | mk result next =>
          cases result with
          | error e => exact Or.inr (hfirst (Or.inr (Or.inr ⟨text, e, next, hd, he⟩)))
          | ok output =>
            rcases ih (n + 1) next with ⟨texts, outputs, last, hp⟩ |
              ⟨k, l, texts, outputs, last, hl, hp, hb⟩
            · exact Or.inl ⟨text :: texts, output :: outputs, last, .cons hc hd he hp⟩
            · refine Or.inr ⟨k + 1, l, text :: texts, output :: outputs, last, hl,
                .cons hc hd he hp, ?_⟩
              rwa [Nat.add_right_comm, Nat.add_assoc] at hb

/-! ### Sinks -/

/-- The sink has room for some more bytes. -/
def Sink.Fits (sink : Sink) (count : Nat) : Prop := ∀ room, sink.room = some room → count ≤ room

/-- The sink with some more bytes written. -/
structure Sink.Extends (sink : Sink) (bytes : List Byte) (next : Sink) : Prop where
  written_eq : next.written = sink.written ++ bytes
  room_eq : next.room = sink.room.map (· - bytes.length)

theorem Sink.Extends.refl (sink : Sink) : sink.Extends [] sink := by
  refine ⟨by simp, ?_⟩
  cases h : sink.room <;> simp

theorem Sink.Extends.trans {a b c : Sink} {xs ys : List Byte} (hab : a.Extends xs b)
    (hbc : b.Extends ys c) : a.Extends (xs ++ ys) c := by
  refine ⟨?_, ?_⟩
  · rw [hbc.written_eq, hab.written_eq, List.append_assoc]
  · rw [hbc.room_eq, hab.room_eq, Option.map_map]
    congr 1
    funext room
    simp only [Function.comp_apply, List.length_append]
    omega

theorem Sink.write_of_fits {sink : Sink} {bytes : List Byte} (h : sink.Fits bytes.length) :
    ∃ next, sink.write bytes = (none, next) ∧ sink.Extends bytes next := by
  cases hr : sink.room with
  | none =>
    refine ⟨(sink.write bytes).2, by simp [write, hr], ?_, by simp [write, hr]⟩
    exact written_write_of_room_none hr bytes
  | some room =>
    have hle := h room hr
    refine ⟨(sink.write bytes).2, by simp [write, hr, hle], ?_, by simp [write, hr]⟩
    rw [written_write_of_room_some hr, List.take_of_length_le hle]

theorem Sink.write_of_full {sink : Sink} {bytes : List Byte} {room : Nat}
    (hr : sink.room = some room) (h : room < bytes.length) :
    ∃ next, sink.write bytes = (some full, next) ∧
      next.written = sink.written ++ bytes.take room :=
  ⟨(sink.write bytes).2, by simp [write, hr, Nat.not_le.mpr h],
    written_write_of_room_some hr bytes⟩

/-! ### One line -/

namespace Progress

variable {p : Progress σ} {raw : List Byte} {text : String} {next : σ}

theorem read_of_fits {output : Option String} (hd : Utf8.decode (chomp raw) = .ok text)
    (he : eval p.state text = (.ok output, next))
    (hfit : p.sink.Fits (outputBytes [output]).length) :
    ∃ sink, p.sink.Extends (outputBytes [output]) sink ∧
      p.read eval raw = (none, ⟨next, sink, ⟨p.stats.linesRead + 1,
        p.stats.linesKept + keptCount [output]⟩⟩) := by
  cases output with
  | none => exact ⟨p.sink, Sink.Extends.refl p.sink, by simp [read, evaluate, hd, he, keptCount]⟩
  | some out =>
    rw [outputBytes_some] at hfit ⊢
    obtain ⟨sink, hwrite, hext⟩ := Sink.write_of_fits hfit
    exact ⟨sink, hext, by simp [read, evaluate, keep, hd, he, hwrite, keptCount]⟩

theorem read_of_full {output : Option String} {room : Nat}
    (hd : Utf8.decode (chomp raw) = .ok text) (he : eval p.state text = (.ok output, next))
    (hr : p.sink.room = some room) (hfull : room < (outputBytes [output]).length) :
    ∃ last : Progress σ, last.state = next ∧
      last.sink.written = p.sink.written ++ (outputBytes [output]).take room ∧
      p.read eval raw = (some (.system Sink.full), last) := by
  cases output with
  | none => simp [outputBytes] at hfull
  | some out =>
    rw [outputBytes_some] at hfull ⊢
    obtain ⟨sink, hwrite, hwritten⟩ := Sink.write_of_full hr hfull
    refine ⟨⟨next, sink, ⟨p.stats.linesRead + 1, p.stats.linesKept⟩⟩, rfl, hwritten, ?_⟩
    simp [read, evaluate, keep, hd, he, hwrite]

theorem read_of_invalid (eval : Evaluator σ) {fault : Utf8.Fault}
    (hd : Utf8.decode (chomp raw) = .error fault) :
    ∃ last : Progress σ, last.state = p.state ∧ last.sink = p.sink ∧
      p.read eval raw =
        (some (.system (.invalidLine (p.stats.linesRead + 1) fault)), last) :=
  ⟨⟨p.state, p.sink, ⟨p.stats.linesRead + 1, p.stats.linesKept⟩⟩, rfl, rfl,
    by simp only [read, hd]⟩

theorem read_of_refused {e : Error} (hd : Utf8.decode (chomp raw) = .ok text)
    (he : eval p.state text = (.error e, next)) :
    ∃ last : Progress σ, last.state = next ∧ last.sink = p.sink ∧
      p.read eval raw = (some e, last) :=
  ⟨⟨next, p.sink, ⟨p.stats.linesRead + 1, p.stats.linesKept⟩⟩, rfl, rfl,
    by simp only [read, evaluate, hd, he]⟩

end Progress

/-! ### Runs -/

theorem runLines_cons_of_continue {fault : Option SystemError} {p next : Progress σ}
    {raw : List Byte} {rest : List (List Byte)}
    (hc : cancel p.stats.linesRead p.state = false) (hread : p.read eval raw = (none, next)) :
    runLines cancel eval fault p (raw :: rest) = runLines cancel eval fault next rest := by
  simp [runLines, Progress.cancelled?, hc, hread]

theorem runLines_cons_of_stop {fault : Option SystemError} {p last : Progress σ}
    {raw : List Byte} {rest : List (List Byte)} {e : Error}
    (hc : cancel p.stats.linesRead p.state = false) (hread : p.read eval raw = (some e, last)) :
    runLines cancel eval fault p (raw :: rest) = (.error e, last) := by
  simp [runLines, Progress.cancelled?, hc, hread]

/-- A run comes out behind lines that get through if there is room for their outputs. -/
theorem runLines_of_passes {n : Nat} {s last : σ} {lines : List (List Byte)}
    {texts : List String} {outputs : List (Option String)}
    (h : Passes cancel eval n s lines texts outputs last) (fault : Option SystemError)
    {p : Progress σ} (hn : p.stats.linesRead = n) (hs : p.state = s)
    (hfit : p.sink.Fits (outputBytes outputs).length) {raws : List (List Byte)}
    (hraws : raws.map chomp = lines) (rest : List (List Byte)) :
    ∃ sink, p.sink.Extends (outputBytes outputs) sink ∧
      runLines cancel eval fault p (raws ++ rest) =
        runLines cancel eval fault ⟨last, sink, ⟨p.stats.linesRead + lines.length,
          p.stats.linesKept + keptCount outputs⟩⟩ rest := by
  induction h generalizing p raws with
  | nil n s =>
    have hnil : raws = [] := by simpa using hraws
    subst hs hnil
    exact ⟨p.sink, Sink.Extends.refl p.sink, rfl⟩
  | @cons n s line text output next lines texts outputs last hc hd he _ ih =>
    obtain ⟨raw, more, rfl, hraw, hmore⟩ := List.map_eq_cons_iff.mp hraws
    subst hs hn hraw
    rw [outputBytes_cons, List.length_append] at hfit
    have hfirst : p.sink.Fits (outputBytes [output]).length :=
      fun room hr => Nat.le_trans (Nat.le_add_right _ _) (hfit room hr)
    obtain ⟨sink, hext, hread⟩ := Progress.read_of_fits hd he hfirst
    -- what the first output leaves of the room is enough for the others
    have hrest : sink.Fits (outputBytes outputs).length := by
      intro room hr
      rw [hext.room_eq, Option.map_eq_some_iff] at hr
      obtain ⟨before, hb, rfl⟩ := hr
      have hle := hfit before hb
      omega
    obtain ⟨final, hfinal, hrun⟩ := ih (p := ⟨next, sink, ⟨p.stats.linesRead + 1,
      p.stats.linesKept + keptCount [output]⟩⟩) rfl rfl hrest hmore
    refine ⟨final, ?_, ?_⟩
    · rw [outputBytes_cons]
      exact hext.trans hfinal
    · have hcount : p.stats.linesRead + 1 + lines.length =
          p.stats.linesRead + (lines.length + 1) := by omega
      rw [List.cons_append, runLines_cons_of_continue hc hread, hrun, keptCount_cons output outputs,
        List.length_cons, hcount, Nat.add_assoc]

end LineSieve.Stream
