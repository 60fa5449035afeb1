import LineSieve.Cli.Run
import LineSieve.Proofs.Record.Reloading
import LineSieve.Proofs.Settings.Loading

/-!
# Printed configurations

A configuration that is checked can be printed as a document. Whatever it was read from, a file
with what was printed gives the same record when it is read as a document, and so the same rule set
or the same fault. It rests on the doubles among the items being read back from their texts, which
not all doubles are.
-/

namespace LineSieve.Cli

open Text.Utf8 (Byte)

variable {fs : FileSystem} {path : Path} {r : Record}

/-! ### Configuration files -/

/-- A configuration is read from the bytes of a document or from lines of markup. -/
theorem readConfig_cases (h : fs.readConfig path = .ok r) :
    (∃ bytes, Record.ofJsonBytes bytes = .ok r) ∨
      ∃ lines, (Record.ofMarkupLines lines).1 = .ok r := by
  cases hfile : fs.isFile path with
  | false =>
    rw [FileSystem.readConfig, hfile] at h
    cases h
  | true =>
    obtain ⟨bytes, hread, -⟩ := FileSystem.exists_of_isFile hfile
    rw [FileSystem.readConfig_of_read hfile hread] at h
    cases hformat : Format.ofPath path with
    | json =>
      rw [hformat, recordOfLines, Results.mapError_eq_ok_iff] at h
      exact .inl ⟨bytes, h⟩
    | markup =>
      rw [hformat, recordOfLines, Results.mapError_eq_ok_iff] at h
      exact .inr ⟨_, h⟩

theorem configured_of_readConfig (h : fs.readConfig path = .ok r) : r.Configured := by
  rcases readConfig_cases h with ⟨_, hjson⟩ | ⟨_, hmarkup⟩
  · exact Record.configured_of_ofJsonBytes hjson
  · exact .markup hmarkup

theorem numbers_fit_of_readConfig (h : fs.readConfig path = .ok r) :
    r.Numbers Json.Number.Fits := by
  rcases readConfig_cases h with ⟨_, hjson⟩ | ⟨_, hmarkup⟩
  · exact Record.numbers_fit_of_ofJsonBytes hjson
  · exact Record.numbers_of_ofMarkupLines hmarkup

/-- A file with a printed document gives the record of it. -/
theorem readConfig_of_printed (hflat : r.Flat) (hnumbers : r.Numbers Json.Number.Fits)
    (hdoubles : r.Doubles Json.Survives) (hfile : fs.isFile path = true)
    (hformat : Format.ofPath path = .json)
    (hread : fs.read path = .ok (Text.Utf8.encode (r.toDoc.indented ++ "\n"))) :
    fs.readConfig path = .ok r := by
  rw [FileSystem.readConfig_of_read hfile hread, hformat, recordOfLines,
    Record.ofJsonBytes_indented hflat hnumbers hdoubles]
  rfl

/-! ### Checking -/

theorem printed_of_check {source : SourceArgs}
    (hlocate : source.settings.checked.locate fs = .ok path) (hread : fs.readConfig path = .ok r)
    (stdin : List Byte) :
    ∃ more, (Command.run stdin fs (.check source true)).printed =
      .line r.toDoc.indented :: more := by
  have hdump : dump fs path = .ok [.line r.toDoc.indented] := by
    rw [dump, hread]
    rfl
  refine ⟨(inspect fs path).printed, ?_⟩
  simp only [Command.run, hlocate, hdump, if_true, Response.before, List.singleton_append]

/-- The document of a configuration gives the same record again. So does a file with what is
printed for a configuration that is checked, if the doubles among its items are read back where they
are printed alone: it is compiled to the same rule set, or refused with the same error. -/
theorem dump_reloads :
    (∀ r : Record, r.Configured → Record.ofDoc r.toDoc = .ok r) ∧
    ∀ (stdin : List Byte) (source : SourceArgs) (fs : FileSystem) (path : Path) (r : Record),
      source.settings.checked.locate fs = .ok path → fs.readConfig path = .ok r →
      ∃ shown more, (Command.run stdin fs (.check source true)).printed = shown :: more ∧
        (r.Doubles Json.Survives →
          ∀ (elapsed : Elapsed) (others : FileSystem) (copy : Path),
            others.isFile copy = true → Format.ofPath copy = .json →
            others.read copy = .ok (shown.toBytes elapsed) →
            others.readConfig copy = .ok r ∧ others.loadPath copy = fs.loadPath path) := by
  refine ⟨fun r hr => Record.ofDoc_toDoc hr.flat, ?_⟩
  intro stdin source fs path r hlocate hread
  obtain ⟨more, hprinted⟩ := printed_of_check hlocate hread stdin
  refine ⟨_, more, hprinted, ?_⟩
  intro hdoubles elapsed others copy hfile hformat hcopy
  have hflat := (configured_of_readConfig hread).flat
  have hnumbers := numbers_fit_of_readConfig hread
  have hsame := readConfig_of_printed hflat hnumbers hdoubles hfile hformat hcopy
  refine ⟨hsame, ?_⟩
  rw [FileSystem.loadPath, FileSystem.loadPath, hsame, hread]

/-- The configuration is a document with items of several kinds, which are no rules, and what is
printed for it is in another file. A half is read back from its text. -/
theorem dump_reloads_mixed_items :
    let text := "\x7b\n  \"rules\": [\n    \"x\",\n    \x7b\x7d,\n    null,\n    -7,\n    0.5,\n" ++
      "    \x7b\n      \"src\": \"true\"\n    \x7d\n  ]\n\x7d\n"
    let half : Decimal.Double := ⟨false, 2 ^ 52, -53⟩
    let r : Record := ⟨[("rules", .array
      [.text "x", .record [], .scalar .null, .scalar (.number (.integer (-7))),
        .scalar (.number (.double half)), .record [("src", .text "true")]])]⟩
    let source : SourceArgs := ⟨⟨"."⟩, some ⟨"a.json"⟩⟩
    let folder (copy : List Byte) : FileSystem :=
      ⟨[(["a.json"], .file (Text.Utf8.encode text) 0o644), (["b.json"], .file copy 0o644)], []⟩
    Record.ofDoc r.toDoc = .ok r ∧ (folder []).readConfig ⟨"a.json"⟩ = .ok r ∧
      r.Doubles Json.Survives ∧
      ∃ shown more, (Command.run [] (folder []) (.check source true)).printed = shown :: more ∧
        (folder (shown.toBytes ⟨0, 0⟩)).readConfig ⟨"b.json"⟩ = .ok r ∧
        (folder (shown.toBytes ⟨0, 0⟩)).loadPath ⟨"b.json"⟩ = (folder []).loadPath ⟨"a.json"⟩ := by
  intro text half r source folder
  have hnumbers : ∀ P : Json.Number → Prop, P (.integer (-7)) → P (.double half) → r.Numbers P := by
    intro P hinteger hdouble p hp items heq m hm
    cases List.mem_singleton.mp hp
    cases heq
    simp only [List.mem_cons, List.not_mem_nil, reduceCtorEq, Item.scalar.injEq,
      Json.Scalar.number.injEq, false_or, or_false] at hm
    rcases hm with rfl | rfl
    · exact hinteger
    · exact hdouble
  have hhalf : half.Canonical := ⟨by decide, by decide, by decide, by decide⟩
  have hfit : r.Numbers Json.Number.Fits := hnumbers _ ⟨by decide, by decide⟩ hhalf
  have hdoubles : r.Doubles Json.Survives := by
    refine hnumbers _ (fun x hx => nomatch hx) fun x hx => ?_
    cases hx
    exact Json.survives_of_short hhalf (by decide +kernel) (by decide +kernel)
  have hflat : r.Flat := Record.flat_of_ofDoc (rfl : Record.ofDoc r.toDoc = .ok r)
  have hprinted : r.toDoc.indented ++ "\n" = text := by decide +kernel
  have hjson : Record.ofJsonBytes (Text.Utf8.encode text) = .ok r := by
    rw [← hprinted]
    exact Record.ofJsonBytes_indented hflat hfit hdoubles
  have hread : (folder []).readConfig ⟨"a.json"⟩ = .ok r := by
    rw [FileSystem.readConfig_of_read rfl rfl]
    exact congrArg (Except.mapError RunError.core) hjson
  obtain ⟨hdocument, hprint⟩ := dump_reloads
  obtain ⟨shown, more, hshown, hsame⟩ := hprint [] source (folder []) ⟨"a.json"⟩ r rfl hread
  obtain ⟨hcopy, hload⟩ :=
    hsame hdoubles ⟨0, 0⟩ (folder (shown.toBytes ⟨0, 0⟩)) ⟨"b.json"⟩ rfl rfl rfl
  exact ⟨hdocument r (Record.configured_of_ofJsonBytes hjson), hread, hdoubles, shown, more, hshown,
    hcopy, hload⟩

end LineSieve.Cli
