import LineSieve.Proofs.Stream.Completion
import LineSieve.Proofs.Text.LineBytes
import LineSieve.Rule.Compile

/-!
# Filtering a result again

A list set looks at each line by itself, so from texts it writes those that it accepts, each as a
line. A result is read as the same texts again, but for a carriage return at the end of one:
behind it stands the line feed, and both together are taken for the end of the line. So a result
filtered again is the same exactly if no line of it ends with a carriage return.
-/

namespace LineSieve.Rule.Set

/-- Does a list set keep a line? A general set is none. -/
def accepts : Set → String → Bool
  | texts exclude members, line => Session.containsAny members line != exclude
  | patterns exclude members, line => Session.matchesAny members line != exclude
  | general _, _ => false

end LineSieve.Rule.Set

namespace LineSieve.Stream

open Text
open Text.Utf8 (Byte)

variable {rules : Rule.Set} {session : Session} {source : Source} {texts : List String}

/-! ### Runs of list sets -/

/-- What a list set makes of a line. -/
def listOutput (rules : Rule.Set) (line : String) : Option String :=
  if rules.accepts line then some line else none

theorem sieve_list (h : rules.kind ≠ .general) (session : Session) (line : String) :
    sieve rules session line = (.ok (listOutput rules line), session) := by
  match rules with
  | .texts _ _ => rfl
  | .patterns _ _ => rfl
  | .general _ => exact absurd rfl h

theorem outputBytes_listOutput (rules : Rule.Set) (texts : List String) :
    outputBytes (texts.map (listOutput rules)) = lineBytes (texts.filter rules.accepts) := by
  induction texts with
  | nil => rfl
  | cons text rest ih =>
    rw [List.map_cons, outputBytes_cons, ih, List.filter_cons]
    cases haccepts : rules.accepts text with
    | false => simp [listOutput, haccepts, outputBytes]
    | true => simp [listOutput, haccepts, outputBytes_some, lineBytes_cons]

theorem keptCount_listOutput (rules : Rule.Set) (texts : List String) :
    keptCount (texts.map (listOutput rules)) = (texts.filter rules.accepts).length := by
  rw [keptCount, List.countP_map, List.countP_eq_length_filter]
  congr 2
  funext text
  cases haccepts : rules.accepts text with
  | false => simp [listOutput, haccepts]
  | true => simp [listOutput, haccepts]

/-- The lines of texts get through a list set, which learns nothing from them. -/
theorem passes_list (h : rules.kind ≠ .general) (session : Session) (n : Nat)
    (texts : List String) :
    Passes never (sieve rules) n session (texts.map Utf8.encode) texts
      (texts.map (listOutput rules)) session := by
  induction texts generalizing n with
  | nil => exact .nil n session
  | cons text rest ih =>
    exact .cons rfl (Utf8.decode_encode text) (sieve_list h session text) (ih (n + 1))

/-- A list set reads all texts, writes those that it accepts and leaves the session as it is. -/
theorem ends_list (h : rules.kind ≠ .general) (session : Session)
    (hcontents : source.contents = texts.map Utf8.encode) (hfault : source.fault = none) :
    Ends never (sieve rules) session source .unlimited
      (.ok ⟨texts.length, (texts.filter rules.accepts).length⟩) session
      (lineBytes (texts.filter rules.accepts)) texts := by
  have hpass := passes_list h session 0 texts
  rw [← hcontents] at hpass
  have hends := (Halts.finished hpass rfl hfault).ends Sink.written_unlimited
    fun room hr => nomatch hr
  rwa [hcontents, List.length_map, keptCount_listOutput, outputBytes_listOutput] at hends

theorem runRules_list (h : rules.kind ≠ .general) (session : Session)
    (hcontents : source.contents = texts.map Utf8.encode) (hfault : source.fault = none) :
    (runRules rules session source .unlimited).1 =
        .ok ⟨texts.length, (texts.filter rules.accepts).length⟩ ∧
      (runRules rules session source .unlimited).2.sink.written =
        lineBytes (texts.filter rules.accepts) := by
  have hends := ends_list h session hcontents hfault
  exact ⟨hends.result_eq, hends.written_eq⟩

theorem Source.not_mem_of_mem_contents (hfault : source.fault = none) {line : List Byte}
    (h : line ∈ source.contents) : lineFeed ∉ line := by
  rw [Source.contents, hfault] at h
  obtain ⟨piece, hpiece, rfl⟩ := List.mem_map.mp h
  intro hmem
  apply not_mem_of_mem_pieces hpiece
  rw [dropLastByte] at hmem
  split_ifs at hmem
  · exact List.dropLast_subset _ hmem
  · exact hmem

/-- The lines of a run that succeeds are texts without line feeds. -/
theorem exists_texts_of_ok {stats : Stats}
    (h : (runRules rules session source .unlimited).1 = .ok stats) :
    source.fault = none ∧ ∃ texts : List String, source.contents = texts.map Utf8.encode ∧
      ∀ t ∈ texts, lineFeed ∉ Utf8.encode t := by
  obtain ⟨hfault, texts, _, _, hpass, _, _⟩ := exists_passes_of_ok h
  refine ⟨hfault, texts, hpass.encode_eq.symm, fun t ht => ?_⟩
  apply Source.not_mem_of_mem_contents hfault
  rw [← hpass.encode_eq]
  exact List.mem_map_of_mem ht

/-! ### Results as sources -/

theorem contents_of_lineBytes (htexts : ∀ t ∈ texts, lineFeed ∉ Utf8.encode t)
    (hbytes : source.bytes = lineBytes texts) (hfault : source.fault = none) :
    source.contents = (texts.map dropReturn).map Utf8.encode := by
  rw [Source.contents, hfault, hbytes, Option.isSome_none, if_neg (by decide),
    pieces_lineBytes htexts, List.map_map, List.map_map]
  exact List.map_congr_left fun text _ => (encode_dropReturn text).symm

/-- Texts without carriage returns at their ends are no longer as lines, and shorter if one had a
carriage return. -/
theorem length_lineBytes_dropReturn (texts : List String) :
    (lineBytes (texts.map dropReturn)).length ≤ (lineBytes texts).length ∧
      ((∃ t ∈ texts, (Utf8.encode t).getLast? = some carriageReturn) →
        (lineBytes (texts.map dropReturn)).length < (lineBytes texts).length) := by
  induction texts with
  | nil => simp
  | cons text rest ih =>
    obtain ⟨hle, hlt⟩ := ih
    have hfirst := length_dropLastByte_le carriageReturn (Utf8.encode text)
    rw [List.map_cons, length_lineBytes_cons, length_lineBytes_cons, encode_dropReturn]
    refine ⟨by omega, ?_⟩
    rintro ⟨t, ht, hlast⟩
    rcases List.mem_cons.mp ht with rfl | ht
    · have := length_dropLastByte_lt hlast
      omega
    · have := hlt ⟨t, ht, hlast⟩
      omega

theorem dropReturn_eq_self {text : String}
    (h : (Utf8.encode text).getLast? ≠ some carriageReturn) : dropReturn text = text := by
  apply Utf8.encode_injective
  rw [encode_dropReturn, dropLastByte_eq_self_iff.mpr h]

/-- What a list set has kept is filtered again without an error: as many lines are read as were
kept. The result is the same if no line of it ends with a carriage return, and then all lines are
kept; it is shorter if one does. -/
theorem refilter (rules : Rule.Set) (hlist : rules.kind ≠ .general) (source again : Source)
    (stats : Stats) (hok : (runRules rules .start source .unlimited).1 = .ok stats)
    (hbytes : again.bytes = (runRules rules .start source .unlimited).2.sink.written)
    (hfault : again.fault = none) :
    ∃ kept,
      (runRules rules .start again .unlimited).1 = .ok ⟨stats.linesKept, kept⟩ ∧
      ((∀ line ∈ pieces again.bytes, line.getLast? ≠ some carriageReturn) →
        kept = stats.linesKept ∧
        (runRules rules .start again .unlimited).2.sink.written = again.bytes) ∧
      ((∃ line ∈ pieces again.bytes, line.getLast? = some carriageReturn) →
        (runRules rules .start again .unlimited).2.sink.written.length < again.bytes.length) := by
  obtain ⟨hsource, texts, hcontents, htexts⟩ := exists_texts_of_ok hok
  obtain ⟨hresult, hwritten⟩ := runRules_list hlist .start hcontents hsource
  rw [hresult, Except.ok.injEq] at hok
  rw [hwritten] at hbytes
  subst hok
  generalize hkept : texts.filter rules.accepts = kept at *
  have hfeeds : ∀ t ∈ kept, lineFeed ∉ Utf8.encode t := by
    intro t ht
    rw [← hkept] at ht
    exact htexts t (List.mem_of_mem_filter ht)
  have hpieces : pieces again.bytes = kept.map Utf8.encode := by
    rw [hbytes, pieces_lineBytes hfeeds]
  obtain ⟨hagain, hout⟩ :=
    runRules_list hlist .start (contents_of_lineBytes hfeeds hbytes hfault) hfault
  rw [List.length_map] at hagain
  refine ⟨_, hagain, ?_, ?_⟩
  · intro hplain
    have hsame : kept.map dropReturn = kept := by
      refine (List.map_congr_left fun t ht => ?_).trans (List.map_id kept)
      refine dropReturn_eq_self (hplain _ ?_)
      rw [hpieces]
      exact List.mem_map_of_mem ht
    have hall : kept.filter rules.accepts = kept := by
      rw [← hkept, List.filter_filter]
      simp
    rw [hout, hsame, hall, hbytes]
    exact ⟨rfl, rfl⟩
  · rintro ⟨line, hline, hlast⟩
    rw [hpieces] at hline
    obtain ⟨t, ht, rfl⟩ := List.mem_map.mp hline
    rw [hout, hbytes]
    calc (lineBytes ((kept.map dropReturn).filter rules.accepts)).length
        ≤ (lineBytes (kept.map dropReturn)).length :=
          length_lineBytes_of_sublist List.filter_sublist
      _ < (lineBytes kept).length := (length_lineBytes_dropReturn kept).2 ⟨t, ht, hlast⟩

/-- One result is the same when it is filtered again; from the other a carriage return goes. -/
theorem refilter_two_results :
    let rules : Rule.Set := .texts false ["a"]
    let plain : Source := .ofBytes [97, 13, 10, 98, 10, 97]
    let plainAgain : Source := .ofBytes [97, 10, 97, 10]
    let twice : Source := .ofBytes [97, 13, 13, 10]
    let twiceAgain : Source := .ofBytes [97, 13, 10]
    ((runRules rules .start plain .unlimited).1 = .ok ⟨3, 2⟩ ∧
      (runRules rules .start plainAgain .unlimited).1 = .ok ⟨2, 2⟩ ∧
      (runRules rules .start plainAgain .unlimited).2.sink.written = plainAgain.bytes) ∧
    (runRules rules .start twice .unlimited).1 = .ok ⟨1, 1⟩ ∧
      (runRules rules .start twiceAgain .unlimited).2.sink.written.length < 3 := by
  intro rules plain plainAgain twice twiceAgain
  obtain ⟨kept, hresult, hsame, -⟩ :=
    refilter rules (by decide) plain plainAgain ⟨3, 2⟩ rfl rfl rfl
  obtain ⟨rfl, hout⟩ := hsame (by decide)
  obtain ⟨-, -, -, hless⟩ := refilter rules (by decide) twice twiceAgain ⟨1, 1⟩ rfl rfl rfl
  exact ⟨⟨rfl, hresult, hout⟩, rfl, hless (by decide)⟩

/-- Lists do not in general give the same result again: behind a second carriage return the first
stays in the result, where it is taken for a part of the line end. -/
theorem refilter_not_same :
    ¬∀ (record : Record) (rules : Rule.Set) (bytes : List Byte) (stats : Stats),
      Rule.compile record = .ok rules → rules.kind ≠ .general →
      (runRules rules .start (.ofBytes bytes) .unlimited).1 = .ok stats →
      let out := (runRules rules .start (.ofBytes bytes) .unlimited).2.sink.written
      (runRules rules .start (.ofBytes out) .unlimited).1 =
          .ok ⟨stats.linesKept, stats.linesKept⟩ ∧
        (runRules rules .start (.ofBytes out) .unlimited).2.sink.written = out := by
  intro h
  have hsame := h (.ofList [("type", .text "stringlist"), ("rules", .array [.text "a"])])
    (.texts false ["a"]) [97, 13, 13, 10] ⟨1, 1⟩ rfl (by decide) rfl
  exact absurd hsame.2 (by decide)

end LineSieve.Stream
