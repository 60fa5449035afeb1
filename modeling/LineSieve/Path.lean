import LineSieve.Text.Layout

/-!
# Paths

A path is a text in which slashes separate names. What it names is told by its components:
slashes that follow one another count as one, and so does a dot between slashes for
nothing, but for a dot at the very start. Two paths are the same if their components are;
their texts may differ.

The extension of a path is what follows the last dot in its last name, and a dot that the
name starts with is no such dot.
-/

namespace LineSieve

/-- A path. -/
structure Path where
  text : String
deriving DecidableEq, Repr, Inhabited

namespace Path

/-! ### Pieces -/

/-- Cuts a text at its slashes, `piece` being the part of the first piece read so far in
reverse. -/
def piecesFrom (piece : List Char) : List Char → List (List Char)
  | [] => [piece.reverse]
  | c :: rest =>
    if c = '/' then piece.reverse :: piecesFrom [] rest else piecesFrom (c :: piece) rest

/-- The pieces of a path between its slashes, also the empty ones. -/
def pieces (p : Path) : List String := (piecesFrom [] p.text.toList).map String.ofList

def isAbsolute (p : Path) : Bool := p.text.toList.head? == some '/'

/-! ### Components -/

/-- A part of a path. -/
inductive Component where
  /-- The root. -/
  | root
  /-- The dot that a path starts with. -/
  | here
  /-- Two dots. -/
  | up
  | name (s : String)
deriving DecidableEq, Repr

/-- The component of a piece behind the first one; empty pieces and dots are none. -/
def componentOf? (piece : String) : Option Component :=
  if piece = "" ∨ piece = "." then none
  else if piece = ".." then some .up
  else some (.name piece)

def firstComponent? (p : Path) (piece : String) : Option Component :=
  if p.isAbsolute then some .root
  else if piece = "." then some .here
  else componentOf? piece

def components (p : Path) : List Component :=
  match p.pieces with
  | [] => []
  | piece :: rest => (p.firstComponent? piece).toList ++ rest.filterMap componentOf?

def same (p q : Path) : Bool := p.components == q.components

/-! ### Names -/

/-- The name that a path ends in, if it ends in one. -/
def lastName? (p : Path) : Option String :=
  match p.components.getLast? with
  | some (.name s) => some s
  | _ => none

def splitLastDot? : List Char → Option (List Char × List Char)
  | [] => none
  | c :: rest =>
    match splitLastDot? rest with
    | some (stem, ext) => some (c :: stem, ext)
    | none => if c = '.' then some ([], rest) else none

def extensionOf? (name : String) : Option String :=
  match splitLastDot? name.toList with
  | some (_ :: _, ext) => some (String.ofList ext)
  | _ => none

def extension? (p : Path) : Option String := p.lastName?.bind extensionOf?

/-! ### Folders -/

/-- Does a piece behind the first one name nothing? -/
def isIdle (piece : String) : Bool := piece == "" || piece == "."

/-- The folder that a path stands in: the text before its last component, or the working
directory if nothing is left. Slashes and dots at the end of that text are left out, those
within stay. -/
def folder (p : Path) : Path :=
  match p.pieces with
  | [] => ⟨"."⟩
  | first :: rest =>
    match rest.reverse.dropWhile isIdle with
    | [] => ⟨"."⟩
    | _ :: before =>
      match (before.dropWhile isIdle).reverse with
      | [] => if p.isAbsolute then ⟨"/"⟩ else ⟨first⟩
      | kept => ⟨"/".intercalate (first :: kept)⟩

/-- A path below another one. An absolute path stands for itself. -/
def join (p q : Path) : Path :=
  if q.isAbsolute || p.text == "" then q
  else if p.text.toList.getLast? == some '/' then ⟨p.text ++ q.text⟩
  else ⟨p.text ++ "/" ++ q.text⟩

end Path
end LineSieve
