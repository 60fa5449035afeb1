import Mathlib.Data.List.ReduceOption
import LineSieve.Proofs.Session.OneLine
import LineSieve.Proofs.Stream.Refiltering
import LineSieve.Proofs.Stream.Sessions

/-!
# Counting what is kept

Each output that is one line is a line of the result. With rules that put no line feed into an
output, the line feeds of a result are as many as lines were kept, and whoever reads the result
reads that many lines.
-/

namespace LineSieve.Text

/-! ### Line feeds of lines -/

variable {texts : List String}

theorem count_lineBytes (h : ∀ t ∈ texts, OneLine t) :
    (lineBytes texts).count lineFeed = texts.length := by
  induction texts with
  | nil => rfl
  | cons text rest ih =>
    rw [List.forall_mem_cons] at h
    have hno := List.count_eq_zero.mpr (oneLine_iff_encode.mp h.1)
    rw [lineBytes_cons, List.count_append, hno, List.count_cons_self, ih h.2, Nat.zero_add,
      List.length_cons]

theorem lineBytes_ended (texts : List String) :
    lineBytes texts = [] ∨ (lineBytes texts).getLast? = some lineFeed := by
  rcases List.eq_nil_or_concat' texts with rfl | ⟨before, last, rfl⟩
  · exact Or.inl rfl
  · right
    rw [lineBytes, List.flatMap_append, List.flatMap_singleton, ← List.append_assoc,
      List.getLast?_concat]

end LineSieve.Text

namespace LineSieve.Stream

open Text
open Text.Utf8 (Byte)

variable {σ : Type} {cancel : Cancel σ} {eval : Evaluator σ} {state : σ} {source : Source}
  {sink : Sink} {rules : Rule.Set}

/-! ### Outputs as lines -/

theorem outputBytes_eq_lineBytes (outputs : List (Option String)) :
    outputBytes outputs = lineBytes outputs.reduceOption := by
  induction outputs with
  | nil => rfl
  | cons output rest ih =>
    rw [outputBytes_cons, ih]
    cases output with
    | none => rfl
    | some text =>
      rw [outputBytes_some, List.reduceOption_cons_of_some, lineBytes_cons, List.append_assoc]
      rfl

theorem keptCount_eq_length (outputs : List (Option String)) :
    keptCount outputs = outputs.reduceOption.length := by
  rw [keptCount, List.reduceOption_length_eq, List.countP_eq_length_filter]

/-- The outputs of lines that get through plain rules are lines. -/
theorem Passes.oneLine_of_mem {cancel : Cancel Session} {n : Nat} {s last : Session}
    {lines : List (List Byte)} {texts : List String} {outputs : List (Option String)}
    (h : Passes cancel (sieve rules) n s lines texts outputs last) (hrules : rules.IsPlain)
    (hflag : OneLine s.flag) (htexts : ∀ t ∈ texts, OneLine t) :
    ∀ t ∈ outputs.reduceOption, OneLine t := by
  induction h with
  | nil => exact List.forall_mem_nil _
  | @cons n s line text output next lines texts outputs last _ _ heval _ ih =>
    rw [List.forall_mem_cons] at htexts
    rw [sieve, Prod.mk.injEq, Except.ok.injEq] at heval
    obtain ⟨houtput, rfl⟩ := heval
    have hrest := ih (Session.oneLine_flag_step hrules hflag text) htexts.2
    cases output with
    | none => exact hrest
    | some t =>
      rw [List.reduceOption_cons_of_some, List.forall_mem_cons]
      exact ⟨Session.oneLine_output_step hrules hflag htexts.1 houtput, hrest⟩

/-! ### Reading a result -/

/-- A run that succeeds has read all lines of its source. -/
theorem linesRead_of_ok {stats : Stats} (h : (run cancel eval state source sink).1 = .ok stats) :
    stats.linesRead = source.contents.length := by
  obtain ⟨-, texts, outputs, last, -, rfl, -⟩ := exists_passes_of_ok h
  rfl

/-- Sessions read texts to their end. -/
theorem exists_runRules_ok {texts : List String}
    (hcontents : source.contents = texts.map Utf8.encode) (hfault : source.fault = none)
    (rules : Rule.Set) (s : Session) :
    ∃ kept, (runRules rules s source .unlimited).1 = .ok ⟨texts.length, kept⟩ := by
  have hpass := passes_sieve rules 0 s texts
  rw [← hcontents] at hpass
  have hends := (Halts.finished hpass rfl hfault).ends Sink.written_unlimited
    fun room hr => nomatch hr
  refine ⟨keptCount (s.steps rules texts).1, ?_⟩
  rw [runRules, hends.result_eq, hcontents, List.length_map]

/-- One kept line is one line of the result, for lists and for general sets from markup. Whatever
the session has read before, a run that succeeds adds as many line feeds to what is written as it
has kept lines, the last of them at the end. A run over what was added reads as many lines if it
succeeds, and with a session it does. -/
theorem kept_lines_are_lines (rules : Rule.Set)
    (hrules : rules.kind ≠ .general ∨ ∃ text, Rule.compile (Markup.read text) = .ok rules)
    (before : List String) (cancel : Cancel Session) (source : Source) (sink : Sink)
    (stats : Stats)
    (hok : (run cancel (sieve rules) (Session.start.steps rules before).2 source sink).1 =
      .ok stats) :
    ∃ out,
      (run cancel (sieve rules) (Session.start.steps rules before).2 source sink).2.sink.written =
        sink.written ++ out ∧
      out.count lineFeed = stats.linesKept ∧
      (out = [] ∨ out.getLast? = some lineFeed) ∧
      ∀ again : Source, again.bytes = out → again.fault = none →
        (∀ (σ : Type) (cancel : Cancel σ) (eval : Evaluator σ) (state : σ) (sink : Sink)
            (others : Stats), (run cancel eval state again sink).1 = .ok others →
          others.linesRead = stats.linesKept) ∧
        ∀ (others : Rule.Set) (s : Session),
          ∃ kept, (runRules others s again .unlimited).1 = .ok ⟨stats.linesKept, kept⟩ := by
  have hplain : rules.IsPlain := by
    rcases hrules with hkind | ⟨text, hcompile⟩
    · exact Rule.Set.isPlain_of_kind hkind
    · exact Rule.isPlain_of_compile_read hcompile
  have hflag : OneLine (Session.start.steps rules before).2.flag :=
    Session.oneLine_flag_steps hplain oneLine_empty before
  obtain ⟨hfault, texts, outputs, last, hpass, rfl, hends⟩ := exists_passes_of_ok hok
  have htexts : ∀ t ∈ texts, OneLine t := by
    intro t ht
    rw [oneLine_iff_encode]
    apply Source.not_mem_of_mem_contents hfault
    rw [← hpass.encode_eq]
    exact List.mem_map_of_mem ht
  have hkept := hpass.oneLine_of_mem hplain hflag htexts
  have hwritten := hends.written_eq
  rw [outputBytes_eq_lineBytes] at hwritten
  rw [keptCount_eq_length]
  generalize outputs.reduceOption = kept at *
  refine ⟨lineBytes kept, hwritten, count_lineBytes hkept, lineBytes_ended kept, ?_⟩
  intro again hbytes hagain
  have hfeeds : ∀ t ∈ kept, lineFeed ∉ Utf8.encode t :=
    fun t ht => oneLine_iff_encode.mp (hkept t ht)
  have hcontents := contents_of_lineBytes hfeeds hbytes hagain
  have hlength : again.contents.length = kept.length := by
    rw [hcontents, List.length_map, List.length_map]
  constructor
  · intro σ cancel eval state sink others hothers
    rw [linesRead_of_ok hothers, hlength]
  · intro others s
    obtain ⟨number, hresult⟩ := exists_runRules_ok hcontents hagain others s
    rw [List.length_map] at hresult
    exact ⟨number, hresult⟩

/-- The session has a flag from before. A region ends, and the next line has a template. -/
theorem kept_lines_are_lines_behind_region :
    let text :=
      "type:general\nrules:\n[\nsrc:^b(.)\nflag:F\nuntil:e\n-\nsrc:k\ndest:D\ntag:T\n]\n"
    let rules := Rule.rulesOrNone (Markup.read text)
    let before := ["b1", "x\ny"]
    let cancel : Cancel Session := fun n _ => 10 < n
    let source : Source := ⟨[[98, 13], [10, 101, 10, 97], [10, 107]], none⟩
    let sink : Sink := ⟨[[64]], some 100⟩
    rules.kind = .general ∧
      (run cancel (sieve rules) (Session.start.steps rules before).2 source sink).1 =
        .ok ⟨4, 3⟩ ∧
      ∃ out,
        (run cancel (sieve rules) (Session.start.steps rules before).2 source sink).2.sink.written =
          64 :: out ∧
        out.count lineFeed = 3 ∧ out.getLast? = some lineFeed ∧
        ∃ kept, (runRules rules .start (.ofBytes out) .unlimited).1 = .ok ⟨3, kept⟩ := by
  intro text rules before cancel source sink
  have hcompile : Rule.compile (Markup.read text) = .ok rules :=
    Rule.compile_eq_ok_rulesOrNone (by decide +kernel)
  have hok : (run cancel (sieve rules) (Session.start.steps rules before).2 source sink).1 =
      .ok ⟨4, 3⟩ := by decide +kernel
  obtain ⟨out, hwritten, hcount, hended, hagain⟩ :=
    kept_lines_are_lines rules (.inr ⟨_, hcompile⟩) before cancel source sink ⟨4, 3⟩ hok
  have hlast : out.getLast? = some lineFeed := by
    rcases hended with rfl | hlast
    · cases hcount
    · exact hlast
  obtain ⟨kept, hresult⟩ := (hagain (.ofBytes out) (by simp [Source.ofBytes, Source.bytes]) rfl).2
    rules .start
  have hsink : sink.written ++ out = 64 :: out := rfl
  exact ⟨by decide +kernel, hok, out, hwritten.trans hsink, hcount, hlast, kept, hresult⟩

end LineSieve.Stream
