import LineSieve.Proofs.Rule.Compiling
import LineSieve.Proofs.Stream.Refiltering
import LineSieve.Proofs.Stream.Sessions
import LineSieve.Rule.Quick

/-!
# Lists and their twins

Each kind of lists has a twin that keeps the lines it drops. The same rules are compiled for both
or refused for both, and the two sets share out every stream: both read all of it, and each line is
written by the one or by the other, which one being told by the line alone.
-/

namespace LineSieve.Rule

variable {k twin : Kind} {record other : Record}

/-! ### Twins -/

/-- A kind of lists and the one with the same rules that keeps the other lines. -/
inductive Kind.Twins : Kind → Kind → Prop
  | texts : Twins .textList .textListExclude
  | patterns : Twins .patternList .patternListExclude

/-- A list set and the one that keeps the other lines. -/
inductive Set.Twins : Set → Set → Prop
  | texts (members : List String) : Twins (.texts false members) (.texts true members)
  | patterns (members : List Regex) : Twins (.patterns false members) (.patterns true members)

theorem Set.Twins.kind_ne {inc exc : Set} (h : inc.Twins exc) :
    inc.kind ≠ .general ∧ exc.kind ≠ .general := by
  cases h <;> exact ⟨Kind.noConfusion, Kind.noConfusion⟩

/-- The twin keeps a line exactly if the set drops it. -/
theorem Set.Twins.accepts_eq {inc exc : Set} (h : inc.Twins exc) (line : String) :
    exc.accepts line = !inc.accepts line := by
  cases h with
  | texts members => simp [accepts]
  | patterns members => simp [accepts]

/-! ### Compiling for both kinds -/

/-- Two results are the same error, or two sets that are in a relation. -/
def Both {ε : Type} (related : Set → Set → Prop) (a b : Except ε Set) : Prop :=
  (∃ e, a = .error e ∧ b = .error e) ∨ ∃ inc exc, a = .ok inc ∧ b = .ok exc ∧ related inc exc

section

variable {ε ε' α : Type} {related weaker : Set → Set → Prop} {a b : Except ε Set}

theorem both_map {f g : α → Set} (h : ∀ x, related (f x) (g x)) (result : Except ε α) :
    Both related (result.map f) (result.map g) := by
  cases result with
  | error e => exact .inl ⟨e, rfl, rfl⟩
  | ok x => exact .inr ⟨f x, g x, rfl, rfl, h x⟩

theorem both_bind {f g : α → Except ε Set} (h : ∀ x, Both related (f x) (g x))
    (result : Except ε α) : Both related (result.bind f) (result.bind g) := by
  cases result with
  | error e => exact .inl ⟨e, rfl, rfl⟩
  | ok x => exact h x

theorem Both.of_ok {inc exc : Set} (h : Both related a b) (ha : a = .ok inc)
    (hb : b = .ok exc) : related inc exc := by
  subst ha hb
  rcases h with ⟨e, he, -⟩ | ⟨_, _, ⟨⟩, ⟨⟩, hsets⟩
  · cases he
  · exact hsets

theorem Both.mapError (h : Both related a b) (f : ε → ε') :
    Both related (a.mapError f) (b.mapError f) := by
  rcases h with ⟨e, rfl, rfl⟩ | ⟨inc, exc, rfl, rfl, hsets⟩
  · exact .inl ⟨f e, rfl, rfl⟩
  · exact .inr ⟨inc, exc, rfl, rfl, hsets⟩

theorem Both.imp (h : Both related a b) (himp : ∀ inc exc, related inc exc → weaker inc exc) :
    Both weaker a b := by
  rcases h with herror | ⟨inc, exc, ha, hb, hsets⟩
  · exact .inl herror
  · exact .inr ⟨inc, exc, ha, hb, himp inc exc hsets⟩

end

theorem both_compileKind (build : String → Option Regex) (hk : k.Twins twin)
    (items : List Item) :
    Both Set.Twins (compileKind build record items k) (compileKind build other items twin) := by
  cases hk with
  | texts => exact both_map Set.Twins.texts _
  | patterns => exact both_bind (fun texts => both_map Set.Twins.patterns _) _

/-- The same rules are compiled to twins for two kinds that are twins, or they have the same
fault. -/
theorem both_compile (hk : k.Twins twin) (hrecord : Declares record k)
    (hother : Declares other twin) (hrules : record.get? "rules" = other.get? "rules") :
    Both Set.Twins (compile record) (compile other) := by
  have hsame : rulesOf record = rulesOf other := by rw [rulesOf, rulesOf, hrules]
  rw [compile, compile, compileWith, compileWith, kindOf_eq_ok_iff.mpr hrecord,
    kindOf_eq_ok_iff.mpr hother, hsame]
  cases rulesOf other with
  | error e => exact .inl ⟨e, rfl, rfl⟩
  | ok items => exact both_compileKind _ hk items

/-- Texts are compiled as they are. -/
theorem compile_of_texts {texts : List String} (hrecord : Declares record .textList)
    (hrules : record.get? "rules" = some (.array (texts.map .text))) :
    compile record = .ok (.texts false texts) := by
  rw [compile, compileWith_of_kind_of_rules hrecord hrules]
  simp only [compileKind, textsFrom_eq_ok_iff.mpr rfl, Except.map]

/-! ### Quick filters -/

namespace Quick

theorem kind_twins {filter other : Quick} (hpattern : filter.isPattern = other.isPattern)
    (hinc : filter.exclude = false) (hexc : other.exclude = true) :
    filter.kind.Twins other.kind := by
  unfold kind
  rw [hinc, hexc, ← hpattern]
  cases filter.isPattern with
  | false => exact .texts
  | true => exact .patterns

theorem get?_toRecord (q : Quick) :
    q.toRecord.get? "type" = some (.text q.kind.name) ∧
      q.toRecord.get? "rules" = some (.array [.text q.text]) := ⟨rfl, rfl⟩

theorem declares_kind (q : Quick) : Declares q.toRecord q.kind := by
  refine .named ⟨(get?_toRecord q).1, ?_⟩ (ofName?_eq_some_iff.mp (Kind.ofName?_name q.kind))
  cases q.kind <;> decide

end Quick
end LineSieve.Rule

namespace LineSieve.Stream

open Text Rule
open Text.Utf8 (Byte)

/-! ### Sharing out -/

/-- Two rule sets share out every stream of texts. Whatever the sessions know, both read all lines
and write those that they accept, unchanged and in order; each line is accepted by exactly one of
them, whatever lines are around it. -/
structure SharesOut (inc exc : Rule.Set) : Prop where
  one_accepts : ∀ line, exc.accepts line = !inc.accepts line
  runs : ∀ (s t : Session) (source : Source), source.fault = none →
    (∀ line ∈ source.contents, ∃ text, Utf8.decode line = .ok text) →
    ∃ texts : List String, texts.map Utf8.encode = source.contents ∧
      Ends never (sieve inc) s source .unlimited
        (.ok ⟨texts.length, (texts.filter inc.accepts).length⟩) s
        (lineBytes (texts.filter inc.accepts)) texts ∧
      Ends never (sieve exc) t source .unlimited
        (.ok ⟨texts.length, (texts.filter exc.accepts).length⟩) t
        (lineBytes (texts.filter exc.accepts)) texts ∧
      (texts.filter inc.accepts).length + (texts.filter exc.accepts).length = texts.length

theorem exists_texts_of_decode {lines : List (List Byte)}
    (h : ∀ line ∈ lines, ∃ text, Utf8.decode line = .ok text) :
    ∃ texts : List String, texts.map Utf8.encode = lines := by
  obtain ⟨texts, rfl | ⟨line, rest, fault, rfl, hbad⟩⟩ := exists_texts lines
  · exact ⟨texts, rfl⟩
  · obtain ⟨text, htext⟩ := h line (List.mem_append_right _ List.mem_cons_self)
    rw [hbad] at htext
    cases htext

theorem sharesOut_of_twins {inc exc : Rule.Set} (h : inc.Twins exc) : SharesOut inc exc where
  one_accepts := h.accepts_eq
  runs s t source hfault hdecode := by
    obtain ⟨texts, htexts⟩ := exists_texts_of_decode hdecode
    have hexc : exc.accepts = fun line => !inc.accepts line := funext h.accepts_eq
    refine ⟨texts, htexts, ends_list h.kind_ne.1 s htexts.symm hfault,
      ends_list h.kind_ne.2 t htexts.symm hfault, ?_⟩
    rw [hexc]
    exact (List.length_eq_length_filter_add inc.accepts).symm

/-- The same rules, compiled for a kind of lists and for its twin, are refused for both with the
same fault or give two sets that share out every stream; texts are never refused. Quick filters of
one text are such a pair. -/
theorem twins_share_out :
    (∀ (inc exc : Record) (k twin : Kind), k.Twins twin → Declares inc k → Declares exc twin →
      inc.get? "rules" = exc.get? "rules" →
      Both SharesOut (compile inc) (compile exc) ∧
      ∀ texts : List String, k = .textList →
        inc.get? "rules" = some (.array (texts.map .text)) → (compile inc).isOk = true) ∧
    ∀ (isPattern : Bool) (text : String), text ≠ "" →
      ∃ inc exc, Quick.ofText isPattern false text = .ok inc ∧
        Quick.ofText isPattern true text = .ok exc ∧ Both SharesOut inc.compile exc.compile ∧
        (isPattern = false → inc.compile.isOk = true) := by
  have hsets : ∀ inc exc : Rule.Set, inc.Twins exc → SharesOut inc exc :=
    fun inc exc => sharesOut_of_twins
  constructor
  · intro inc exc k twin hk hinc hexc hrules
    refine ⟨(both_compile hk hinc hexc hrules).imp hsets, ?_⟩
    rintro texts rfl htexts
    rw [compile_of_texts hinc htexts]
    rfl
  · intro isPattern text hne
    have hkinds : (Quick.kind ⟨isPattern, false, text, hne⟩).Twins
        (Quick.kind ⟨isPattern, true, text, hne⟩) := Quick.kind_twins rfl rfl rfl
    refine ⟨⟨isPattern, false, text, hne⟩, ⟨isPattern, true, text, hne⟩, dif_neg hne, dif_neg hne,
      ?_, ?_⟩
    · have hboth := both_compile hkinds (Quick.declares_kind _) (Quick.declares_kind _) rfl
      exact (hboth.imp hsets).mapError _
    · rintro rfl
      have hcompile : compile (Quick.toRecord ⟨false, false, text, hne⟩) =
          .ok (.texts false [text]) := compile_of_texts (Quick.declares_kind _) rfl
      rw [Quick.compile, hcompile]
      rfl

/-- Of three lines, the first with a carriage return before its end, two are kept by the one list
and one by the other, in sessions that differ. Lists without rules share out streams too. -/
theorem twins_share_out_three_lines :
    let record (kind : String) (texts : List String) : Record :=
      .ofList [("type", .text kind), ("rules", .array (texts.map .text))]
    let inc : Rule.Set := .texts false ["a", "c"]
    let exc : Rule.Set := .texts true ["a", "c"]
    let source : Source := ⟨[[97, 120, 13], [10, 98, 10, 99]], none⟩
    let inRegion : Session := ⟨"F", some 0⟩
    compile (record "stringlist" ["a", "c"]) = .ok inc ∧
      compile (record "stringlist_notcontainany" ["a", "c"]) = .ok exc ∧
      Ends never (sieve inc) .start source .unlimited (.ok ⟨3, 2⟩) .start
        [97, 120, 10, 99, 10] ["ax", "b", "c"] ∧
      Ends never (sieve exc) inRegion source .unlimited (.ok ⟨3, 1⟩) inRegion
        [98, 10] ["ax", "b", "c"] ∧
      Both SharesOut (compile (record "" [])) (compile (record "regexlist_notmatchany" [])) := by
  intro record inc exc source inRegion
  obtain ⟨htwins, -⟩ := twins_share_out
  have hinc : compile (record "stringlist" ["a", "c"]) = .ok inc := rfl
  have hexc : compile (record "stringlist_notcontainany" ["a", "c"]) = .ok exc := rfl
  obtain ⟨hboth, -⟩ := htwins (record "stringlist" ["a", "c"])
    (record "stringlist_notcontainany" ["a", "c"]) _ _ .texts
    (.named ⟨rfl, by decide⟩ .textList) (.named ⟨rfl, by decide⟩ .textListExclude) rfl
  have hunnamed : ∀ name, ¬ Names (record "" []) "type" name := by
    rintro name ⟨hname, hne⟩
    cases hname
    exact hne rfl
  obtain ⟨hempty, -⟩ := htwins (record "" []) (record "regexlist_notmatchany" []) _ _ .patterns
    (.unnamed hunnamed) (.named ⟨rfl, by decide⟩ .patternListExclude) rfl
  have hcontents : source.contents = ["ax", "b", "c"].map Utf8.encode := by decide
  have hdecode : ∀ line ∈ source.contents, ∃ text, Utf8.decode line = .ok text := by
    rw [hcontents]
    intro line hline
    obtain ⟨text, -, rfl⟩ := List.mem_map.mp hline
    exact ⟨text, Utf8.decode_encode text⟩
  obtain ⟨texts, htexts, hfirst, hsecond, -⟩ :=
    (hboth.of_ok hinc hexc).runs .start inRegion source rfl hdecode
  obtain rfl : texts = ["ax", "b", "c"] :=
    Utf8.encode_injective.list_map (htexts.trans hcontents)
  exact ⟨hinc, hexc, hfirst, hsecond, hempty⟩

end LineSieve.Stream
