import LineSieve.Proofs.Regex.Ending
import LineSieve.Proofs.Rule.Compiling
import LineSieve.Session

/-!
# What is behind a prefix

The content of a line is what the group behind the prefix holds. The group is put there as text, so
it is up to the text of the prefix what becomes of it. Behind a prefix that ends plainly it holds
all that is left of a line.
-/

namespace LineSieve.Rule

variable {r : Record} {g : GeneralRules} {p line fields content : String}

/-! ### Configurations with a prefix -/

/-- A configuration with a prefix, and with one rule that takes every content. -/
def withPrefix (p : String) : Record :=
  .ofList [("type", .text "general"), ("prefix", .text p),
    ("rules", .array [.record [("src", .text "")]])]

/-- The fields and the content of a line by a configuration. -/
def readBy (r : Record) (line : String) : Option (String × String) :=
  match compile r with
  | .ok (.general g) => Session.contentOf g line
  | _ => none

theorem exists_of_readBy (h : readBy r line = some (fields, content)) :
    ∃ g, compile r = .ok (.general g) ∧ Session.contentOf g line = some (fields, content) := by
  unfold readBy at h
  split at h
  · next g hcompile => exact ⟨g, hcompile, h⟩
  · cases h

/-- The regular expression of the prefix is that of its text with the group behind it. -/
theorem prefixPattern_of_compile (hcompile : compile r = .ok (.general g))
    (hnames : Names r "prefix" p) :
    ∃ regex, Regex.parse? (p ++ remainder) = some regex ∧ g.prefixPattern = some regex := by
  obtain ⟨-, items, -, -, hpattern, -⟩ := compileWith_eq_ok_iff.mp hcompile
  generalize g.prefixPattern = found at hpattern
  cases hpattern with
  | missing hno => exact absurd hnames (hno p)
  | accepted hp hbuild =>
    rw [hp.unique hnames] at hbuild
    exact ⟨_, hbuild, rfl⟩

theorem splitPrefix_append (whole : Option (List Char)) (groups : List (Option (List Char)))
    (rest : List Char) :
    Session.splitPrefix (whole :: groups ++ [some rest]) =
      (Session.prefixFields groups, Text.trim (String.ofList rest)) := by
  rw [Session.splitPrefix, List.cons_append, List.drop_one, List.tail_cons, List.dropLast_concat,
    ← List.cons_append, List.getLast?_concat]
  rfl

/-! ### The rest of a line -/

/-- The content of a line, behind a prefix that ends plainly, is what is left of the line behind
some place before its end. The groups of the prefix are the fields, and the group behind them takes
part in every match. -/
theorem prefix_holds_rest (hcompile : compile r = .ok (.general g)) (hnames : Names r "prefix" p)
    (hends : Regex.endsPlainly p = true) (hline : '\n' ∉ line.toList)
    (hcontent : Session.contentOf g line = some (fields, content)) :
    ∃ regex whole groups start, g.prefixPattern = some regex ∧
      regex.captures line.toList = some (whole :: groups ++ [some (line.toList.drop start)]) ∧
      groups.length = Regex.groupCount p ∧ start < line.toList.length ∧
      fields = Session.prefixFields groups ∧
      content = Text.trim (String.ofList (line.toList.drop start)) := by
  obtain ⟨regex, hparse, hpattern⟩ := prefixPattern_of_compile hcompile hnames
  rw [Session.contentOf, hpattern] at hcontent
  dsimp only at hcontent
  obtain ⟨groups, hmatch, hsplit⟩ := Option.map_eq_some_iff.mp hcontent
  obtain ⟨before, start, hbefore, hless, rfl⟩ :=
    Regex.captures_eq_append hends hparse hline hmatch
  obtain ⟨whole, groups, rfl⟩ := List.exists_cons_of_length_eq_add_one hbefore
  rw [splitPrefix_append] at hsplit
  cases hsplit
  exact ⟨regex, whole, groups, start, hpattern, hmatch, by simpa using hbefore, hless, rfl, rfl⟩

/-- A group of the prefix is a field, and the content is behind it. -/
theorem prefix_holds_rest_behind_group :
    Regex.endsPlainly "(a)b?" = true ∧
      readBy (withPrefix "(a)b?") "xab c " = some ("       a ", "c") ∧
      ∃ start < 6, "c" = Text.trim (String.ofList ("xab c ".toList.drop start)) := by
  have hends : Regex.endsPlainly "(a)b?" = true := by decide +kernel
  have hread : readBy (withPrefix "(a)b?") "xab c " = some ("       a ", "c") := by decide +kernel
  refine ⟨hends, hread, ?_⟩
  obtain ⟨g, hcompile, hcontent⟩ := exists_of_readBy hread
  obtain ⟨-, -, -, start, -, -, -, hless, -, htrim⟩ :=
    prefix_holds_rest hcompile ⟨rfl, by decide⟩ hends (by decide) hcontent
  exact ⟨start, hless, htrim⟩

/-- A prefix in branches is not followed by the rest of a line: the group belongs to the last of
them, and where another one matches there is no content. -/
theorem prefix_holds_nothing :
    ¬∀ (r : Record) (g : GeneralRules) (p line fields content : String),
      compile r = .ok (.general g) → Names r "prefix" p → (Regex.parse? p).isSome = true →
      '\n' ∉ line.toList → Session.contentOf g line = some (fields, content) →
      ∃ start < line.toList.length,
        content = Text.trim (String.ofList (line.toList.drop start)) := by
  intro h
  have hread : readBy (withPrefix "a|b") "a rest" = some ("", "") := by decide +kernel
  obtain ⟨g, hcompile, hcontent⟩ := exists_of_readBy hread
  exact absurd (h _ g "a|b" "a rest" "" "" hcompile ⟨rfl, by decide⟩ (by decide +kernel)
    (by decide) hcontent) (by decide +kernel)

end LineSieve.Rule
