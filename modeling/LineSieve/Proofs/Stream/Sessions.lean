import LineSieve.Proofs.Session.Run
import LineSieve.Proofs.Stream.Halting
import LineSieve.Proofs.Text.Utf8

/-!
# Runs of sessions

A session takes every line, so what a run of a session reads and how it ends is decided by the
source alone, but for the count of the kept lines: it reads all lines, or those before the first
that is not UTF-8. What is written is what the session makes of these lines one after another. So
sessions can be compared line by line, and what holds of the lines holds of every stream.
-/

namespace LineSieve.Stream

open Text
open Text.Utf8 (Byte)

variable {source : Source}

/-! ### What sessions read -/

/-- The lines of texts get through every session. -/
theorem passes_sieve (rules : Rule.Set) (n : Nat) (s : Session) (texts : List String) :
    Passes never (sieve rules) n s (texts.map Utf8.encode) texts (s.steps rules texts).1
      (s.steps rules texts).2 := by
  induction texts generalizing n s with
  | nil => exact .nil n s
  | cons text rest ih => exact .cons rfl (Utf8.decode_encode text) rfl (ih (n + 1) _)

/-- Lines are texts, all of them or up to the first that is not UTF-8. -/
theorem exists_texts (lines : List (List Byte)) :
    ∃ texts : List String, lines = texts.map Utf8.encode ∨
      ∃ line rest fault, lines = texts.map Utf8.encode ++ line :: rest ∧
        Utf8.decode line = .error fault := by
  induction lines with
  | nil => exact ⟨[], .inl rfl⟩
  | cons line rest ih =>
    cases hd : Utf8.decode line with
    | error fault => exact ⟨[], .inr ⟨line, rest, fault, rfl, hd⟩⟩
    | ok text =>
      obtain ⟨texts, htexts⟩ := ih
      refine ⟨text :: texts, ?_⟩
      rw [List.map_cons, Utf8.encode_of_decode hd]
      rcases htexts with rfl | ⟨bad, more, fault, rfl, hbad⟩
      · exact .inl rfl
      · exact .inr ⟨bad, more, fault, rfl, hbad⟩

/-- How a run ends that reads some lines and keeps some of them. -/
def ending (fault : Option Error) (read kept : Nat) : Except Error Stats :=
  match fault with
  | none => .ok ⟨read, kept⟩
  | some e => .error e

/-- Every session reads some texts of a source one after another and then ends. -/
def Reads (source : Source) (texts : List String) (fault : Option Error) : Prop :=
  ∀ (rules : Rule.Set) (s : Session), Ends never (sieve rules) s source .unlimited
    (ending fault texts.length (keptCount (s.steps rules texts).1)) (s.steps rules texts).2
    (outputBytes (s.steps rules texts).1) texts

theorem exists_reads (source : Source) : ∃ texts fault, Reads source texts fault := by
  obtain ⟨texts, htexts⟩ := exists_texts source.contents
  rcases htexts with hall | ⟨line, rest, fault, hlines, hd⟩
  · -- Every session takes all lines; the source then ends or fails.
    have hpass : ∀ rules s, Passes never (sieve rules) 0 s source.contents texts
        (s.steps rules texts).1 (s.steps rules texts).2 := by
      intro rules s
      rw [hall]
      exact passes_sieve rules 0 s texts
    cases hfault : source.fault with
    | none =>
      refine ⟨texts, none, fun rules s => ?_⟩
      have hends := (Halts.finished (hpass rules s) rfl hfault).ends Sink.written_unlimited
        fun room hr => nomatch hr
      rwa [hall, List.length_map] at hends
    | some e =>
      refine ⟨texts, some (.system e), fun rules s => ?_⟩
      exact (Halts.sourceFailed (hpass rules s) rfl hfault).ends Sink.written_unlimited
        fun room hr => nomatch hr
  · -- Every session stops at the first line that is not UTF-8.
    refine ⟨texts, some (.system (.invalidLine (texts.length + 1) fault)), fun rules s => ?_⟩
    have hline : source.contents[texts.length]? = some line := by
      rw [hlines, List.getElem?_append_right (by simp)]
      simp
    have hpass := passes_sieve rules 0 s texts
    have htake : source.contents.take texts.length = texts.map Utf8.encode := by
      rw [hlines, List.take_left' (List.length_map _)]
    rw [← htake] at hpass
    exact (Halts.invalid hline hpass rfl hd).ends Sink.written_unlimited
      fun room hr => nomatch hr

/-! ### Sets that keep the same lines -/

theorem keptCount_congr {outputs others : List (Option String)}
    (h : outputs.map Option.isSome = others.map Option.isSome) :
    keptCount outputs = keptCount others := by
  have hcount : ∀ xs : List (Option String), keptCount xs = (xs.map Option.isSome).countP id := by
    intro xs
    rw [keptCount, List.countP_map]
    rfl
  rw [hcount, hcount, h]

/-- Fresh sessions of two sets read the same texts of a source, end alike, with the same counts or
the same error, and keep the same lines; each writes its outputs for these lines. -/
structure KeepAlike (first second : Rule.Set) (source : Source) (texts : List String) : Prop where
  ends_alike : ∃ result last last',
    Ends never (sieve first) .start source .unlimited result last
      (outputBytes (Session.outputs first texts)) texts ∧
    Ends never (sieve second) .start source .unlimited result last'
      (outputBytes (Session.outputs second texts)) texts
  places : (Session.outputs first texts).map Option.isSome =
    (Session.outputs second texts).map Option.isSome

theorem Reads.keepAlike {texts : List String} {fault : Option Error} (h : Reads source texts fault)
    {first second : Rule.Set}
    (hplaces : (Session.outputs first texts).map Option.isSome =
      (Session.outputs second texts).map Option.isSome) : KeepAlike first second source texts where
  ends_alike := by
    have hfirst := h first .start
    have hsecond := h second .start
    have hcount : keptCount (Session.start.steps first texts).1 =
      keptCount (Session.start.steps second texts).1 := keptCount_congr hplaces
    rw [← hcount] at hsecond
    exact ⟨_, _, _, hfirst, hsecond⟩
  places := hplaces

end LineSieve.Stream
