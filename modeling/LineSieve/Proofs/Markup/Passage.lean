import LineSieve.Markup.Basic

/-!
# Markup in passages

What markup means, told from the text as a whole. Only trimmed lines that are not empty and
do not start with `#` tell anything. Each `[` begins a passage, which goes on to the next one:
first the body of the block, up to the line `]` if there is one, then lines outside of blocks.
The body is cut into groups at the lines `-`, up to the first line without a key; from
there on lines without a key are items by themselves.

`recordOf` and `warningsOf` are the record and the warnings of a text in these terms. They read
nothing line by line: the key of a block is looked up in all the text before it.
-/

namespace LineSieve.Markup

/-! ### Lines that tell something -/

/-- Does a trimmed line tell anything? -/
def tells (t : String) : Bool := t != "" && t.toList.head? != some '#'

def telling (lines : List String) : List String := (lines.map Text.trim).filter tells

def isKeyed (t : String) : Bool := t.toList.contains ':'

/-- What stands before the first colon of a line. -/
def keyOf (t : String) : String :=
  String.ofList (Text.trimChars (t.toList.takeWhile (· ≠ ':')))

/-- What stands behind the first colon of a line. -/
def valueOf (t : String) : String :=
  String.ofList (Text.trimChars ((t.toList.dropWhile (· ≠ ':')).drop 1))

/-- Is a line within a block an item by itself? -/
def isBare (t : String) : Bool := !isKeyed t && t != "-"

/-- Sets the fields of the keyed lines of a text. -/
def setFields (r : Record) (texts : List String) : Record :=
  (texts.filter isKeyed).foldl (fun r t => r.insert (keyOf t) (.text (valueOf t))) r

/-- The key of the last keyed line of a text; `old` if there is none. -/
def lastKeyFrom (old : String) (texts : List String) : String :=
  ((texts.filter isKeyed).getLast?.map keyOf).getD old

/-- Is the last line of a text keyed? `old` tells if there is no line. -/
def lastKeyedFrom (old : Bool) (texts : List String) : Bool :=
  (texts.getLast?.map isKeyed).getD old

/-! ### Passages -/

/-- The lines between two `[`, with the key of the array that the first of them opens, and
whether the line before that one has a key. -/
structure Passage where
  key : String
  named : Bool
  text : List String

namespace Passage

/-- The lines of the block. -/
def body (p : Passage) : List String := p.text.takeWhile (· != "]")

/-- Is the block closed before the next one is opened? -/
def closed (p : Passage) : Bool := p.text.contains "]"

/-- The lines behind the block. -/
def behind (p : Passage) : List String := (p.text.dropWhile (· != "]")).drop 1

/-- The lines of the block before the first item without a key. -/
def head (p : Passage) : List String := p.body.takeWhile (!isBare ·)

/-- The lines of the block from the first item without a key on. -/
def rest (p : Passage) : List String := p.body.dropWhile (!isBare ·)

/-- The groups of keyed lines that are ended: by `-`, or the last one by `]` if no item
without a key has come. -/
def ended (p : Passage) : List (List String) :=
  if p.rest.isEmpty && p.closed then p.head.splitOn "-" else (p.head.splitOn "-").dropLast

end Passage

/-- The records of groups; empty groups are none, and no array without a key has any. -/
def recordItems (key : String) (groups : List (List String)) : List Item :=
  if key = "" then []
  else (groups.filter (· ≠ [])).map fun g => .record (setFields .empty g).fields

/-- The lines without a key as items. -/
def bareItems (texts : List String) : List Item := (texts.filter isBare).map .text

/-- The warnings of keyed lines that stand behind an item without a key. -/
def skipped (key : String) (texts : List String) : List Notice :=
  (texts.filter isKeyed).map fun t => .entryAfterBare (keyOf t) key

namespace Passage

def items (p : Passage) : List Item := recordItems p.key p.ended ++ bareItems p.rest

/-- What a passage does to the record: the array is a new one, and then the fields outside
of the block are set. -/
def fill (r : Record) (p : Passage) : Record :=
  setFields (r.insert p.key (.array p.items)) p.behind

def warnings (p : Passage) : List Notice :=
  (if p.named then [] else [.blockWithoutKey p.key]) ++ skipped p.key p.rest

end Passage

/-- The passages of pieces of a text, where `before` is all the text before them. -/
def passagesFrom (before : List String) : List (List String) → List Passage
  | [] => []
  | text :: more =>
    ⟨lastKeyFrom "" before, lastKeyedFrom false before, text⟩ ::
      passagesFrom (before ++ "[" :: text) more

/-- The text before the first `[`, and the passages. -/
def outline (texts : List String) : List String × List Passage :=
  match texts.splitOn "[" with
  | [] => ([], [])
  | outer :: pieces => (outer, passagesFrom outer pieces)

def recordOf (texts : List String) : Record :=
  (outline texts).2.foldl Passage.fill (setFields .empty (outline texts).1)

def warningsOf (texts : List String) : List Notice :=
  (outline texts).2.flatMap Passage.warnings

/-! ### What lines say -/

theorem splitColon?_eq (cs : List Char) :
    splitColon? cs =
      if ':' ∈ cs then some (cs.takeWhile (· ≠ ':'), (cs.dropWhile (· ≠ ':')).drop 1)
      else none := by
  induction cs with
  | nil => rfl
  | cons c rest ih =>
    by_cases hc : c = ':'
    · simp [splitColon?, hc]
    · by_cases hr : ':' ∈ rest
      · simp [splitColon?, hc, ih, hr, Ne.symm hc]
      · simp [splitColon?, hc, ih, hr, Ne.symm hc]

theorem ofTrimmed_of_not_tells {t : String} (h : tells t = false) :
    Line.ofTrimmed t.toList = .nothing := by
  simp only [tells, Bool.and_eq_false_iff, bne_eq_false_iff_eq] at h
  rcases h with rfl | h
  · rfl
  · obtain ⟨rest, hr⟩ := List.head?_eq_some_iff.mp h
    rw [hr]
    simp [Line.ofTrimmed]

theorem head_ne_of_tells {t : String} {c : Char} {rest : List Char} (ht : tells t = true)
    (heq : t.toList = c :: rest) : c ≠ '#' := by
  simp only [tells, heq, List.head?_cons, Bool.and_eq_true, bne_iff_ne, ne_eq,
    Option.some.injEq] at ht
  exact ht.2

theorem ofTrimmed_of_isKeyed {t : String} (ht : tells t = true) (hk : isKeyed t = true) :
    Line.ofTrimmed t.toList = .entry (keyOf t) (valueOf t) := by
  have hmem : ':' ∈ t.toList := by simpa [isKeyed] using hk
  have hsplit := splitColon?_eq t.toList
  rw [if_pos hmem] at hsplit
  unfold Line.ofTrimmed
  split
  case h_5 c rest _ _ _ heq =>
    rw [if_neg (head_ne_of_tells ht heq), hsplit]
    rfl
  all_goals
    rename_i heq
    rw [heq] at hmem
    exact absurd hmem (by decide)

theorem ofTrimmed_of_not_isKeyed {t : String} (ht : tells t = true)
    (hk : isKeyed t = false) (hopen : t ≠ "[") (hend : t ≠ "-") (hclose : t ≠ "]") :
    Line.ofTrimmed t.toList = .bare t := by
  have hmem : ':' ∉ t.toList := by simpa [isKeyed] using hk
  have hsplit := splitColon?_eq t.toList
  rw [if_neg hmem] at hsplit
  unfold Line.ofTrimmed
  split
  case h_1 heq => simp [tells, String.toList_eq_nil_iff.mp heq] at ht
  case h_2 heq => exact absurd (String.toList_inj.mp heq) hopen
  case h_3 heq => exact absurd (String.toList_inj.mp heq) hend
  case h_4 heq => exact absurd (String.toList_inj.mp heq) hclose
  case h_5 c rest _ _ _ heq =>
    rw [if_neg (head_ne_of_tells ht heq), hsplit, String.ofList_toList]

end LineSieve.Markup
