import LineSieve.Json.Basic

/-!
# Writing JSON (SPEC_FULL.md 10, Serialization)

A document has a compact text without blanks and an indented text with an item or a field
on each line. Only quotes, backslashes and control characters are escaped.
-/

namespace LineSieve.Json

/-! ### Strings -/

def hexChar (n : Nat) : Char :=
  if n < 10 then Char.ofNat (0x30 + n) else Char.ofNat (0x57 + n)

def escapeChar (c : Char) : List Char :=
  if c = '"' then ['\\', '"']
  else if c = '\\' then ['\\', '\\']
  else if c = '\n' then ['\\', 'n']
  else if c = '\r' then ['\\', 'r']
  else if c = '\t' then ['\\', 't']
  else if c = '\x08' then ['\\', 'b']
  else if c = '\x0c' then ['\\', 'f']
  else if c.toNat < 0x20 then
    ['\\', 'u', '0', '0', hexChar (c.toNat / 16), hexChar (c.toNat % 16)]
  else [c]

def quoted (s : String) : String :=
  String.ofList ('"' :: (s.toList.flatMap escapeChar ++ ['"']))

/-! ### Documents -/

mutual

def Doc.compact : Doc → String
  | .text s => quoted s
  | .scalar s => s.text
  | .array items => "[" ++ ",".intercalate (Doc.compactItems items) ++ "]"
  | .object fields => "\x7b" ++ ",".intercalate (Doc.compactFields fields) ++ "\x7d"

def Doc.compactItems : List Doc → List String
  | [] => []
  | d :: rest => d.compact :: Doc.compactItems rest

def Doc.compactFields : List (String × Doc) → List String
  | [] => []
  | (key, d) :: rest => (quoted key ++ ":" ++ d.compact) :: Doc.compactFields rest

end

/-- Texts on lines of their own between brackets. -/
def bracketed (openMark closeMark : String) (indent : Nat) (texts : List String) : String :=
  let margin (n : Nat) : String := "\n" ++ String.ofList (List.replicate (2 * n) ' ')
  if texts.isEmpty then openMark ++ closeMark
  else openMark ++ margin (indent + 1) ++ ("," ++ margin (indent + 1)).intercalate texts ++
    margin indent ++ closeMark

mutual

/-- The indented text of a document that starts at the given level. -/
def Doc.indentedAt (indent : Nat) : Doc → String
  | .text s => quoted s
  | .scalar s => s.text
  | .array items => bracketed "[" "]" indent (Doc.indentedItems (indent + 1) items)
  | .object fields =>
    bracketed "\x7b" "\x7d" indent (Doc.indentedFields (indent + 1) fields)

def Doc.indentedItems (indent : Nat) : List Doc → List String
  | [] => []
  | d :: rest => d.indentedAt indent :: Doc.indentedItems indent rest

def Doc.indentedFields (indent : Nat) : List (String × Doc) → List String
  | [] => []
  | (key, d) :: rest =>
    (quoted key ++ ": " ++ d.indentedAt indent) :: Doc.indentedFields indent rest

end

def Doc.indented (d : Doc) : String := d.indentedAt 0

end LineSieve.Json
