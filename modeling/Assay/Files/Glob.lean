import Assay.Files.Store

/-!
# Patterns for paths

A name pattern has `*` for any text, `?` for any code point, and brackets for a class of code
points. A path pattern is a list of name patterns, among which `**` stands for any number of
folders. Names that start with a dot are matched only by patterns that do so too, and never by
`**`. A path pattern without anything special in it leads to one place, whether there is something
or not; behind the first special name everything has to be there.
-/

set_option autoImplicit false

namespace Assay.Glob

/-- Whether a name pattern has something special in it. -/
def isMagic (pattern : Text) : Bool :=
  pattern.any fun (c : CodePoint) => c == '*' || c == '?' || c == '['

/-- Whether a name is hidden. -/
def isHidden (name : Text) : Bool := name.head? = some '.'

/-- A part of a name pattern. -/
inductive Piece where
  /-- Any text. -/
  | any
  /-- Any code point. -/
  | one
  /-- A code point in one of the ranges, or in none of them. -/
  | range (inside : Bool) (ranges : List (CodePoint × CodePoint))

/-- The ranges of single code points. -/
def singles (t : Text) : List (CodePoint × CodePoint) := t.map fun c => (c, c)

/-- The ranges in the body of a class; a hyphen between two code points makes a range, one at the
start or at the end stands for itself. The fuel is the length of the body. -/
def classRanges : Nat → Text → List (CodePoint × CodePoint)
  | 0, _ => []
  | _, [] => []
  | fuel + 1, first :: rest =>
    let body := rest.takeWhile fun (c : CodePoint) => c != '-'
    match rest.drop body.length with
    | _ :: high :: after =>
      let chunk := first :: body
      singles chunk.dropLast ++ (chunk.getLastD first, high) :: classRanges fuel after
    | _ => singles (first :: rest)

/-- Whether a code point is in one of the ranges. -/
def inRanges (ranges : List (CodePoint × CodePoint)) (c : CodePoint) : Bool :=
  ranges.any fun (low, high) => low ≤ c && c ≤ high

/-- The class that starts a pattern behind its opening bracket: its length with the closing
bracket, and the class. A closing bracket at the start of the body stands for itself. -/
def class? (t : Text) : Option (Nat × Piece) :=
  let negated := t.head? = some '!'
  let body := if negated then t.drop 1 else t
  let lead := body.take 1
  let more := (body.drop 1).takeWhile fun (c : CodePoint) => c != ']'
  if body.length ≤ lead.length + more.length then none
  else
    let content := lead ++ more
    some ((if negated then 1 else 0) + content.length + 1,
      .range (!negated) (classRanges content.length content))

/-- The parts of a name pattern behind the first `skip` code points. -/
def piecesFrom : Nat → Text → List Piece
  | _, [] => []
  | skip + 1, _ :: rest => piecesFrom skip rest
  | 0, c :: rest =>
    if c = '*' then .any :: piecesFrom 0 rest
    else if c = '?' then .one :: piecesFrom 0 rest
    else if c = '[' then
      match class? rest with
      | some (length, piece) => piece :: piecesFrom length rest
      | none => .range true [(c, c)] :: piecesFrom 0 rest
    else .range true [(c, c)] :: piecesFrom 0 rest

/-- Whether the rest of a name matches after any text: at the name itself or at any later point. -/
def matchesLater (next : Text → Bool) : Text → Bool
  | [] => next []
  | c :: rest => next (c :: rest) || matchesLater next rest

/-- Whether a name matches the parts of a pattern. -/
def matchesPieces : List Piece → Text → Bool
  | [], name => name.isEmpty
  | .any :: more, name => matchesLater (matchesPieces more) name
  | .one :: _, [] => false
  | .one :: more, _ :: rest => matchesPieces more rest
  | .range _ _ :: _, [] => false
  | .range inside ranges :: more, c :: rest =>
    inRanges ranges c == inside && matchesPieces more rest

/-- Whether a name matches a name pattern. -/
def matchesName (pattern name : Text) : Bool := matchesPieces (piecesFrom 0 pattern) name

variable (store : Store)

/-- The names in a folder that match a name pattern. -/
def matching (place : Place) (pattern : Text) : List Text :=
  (store.names place).filter fun name =>
    (isHidden pattern || !isHidden name) && matchesName pattern name

/-- The folders at and below a place without hidden ones on the way, down to a depth. -/
def foldersBelow : Nat → Place → List Place
  | 0, place => [place]
  | depth + 1, place =>
    place :: ((store.names place).filter fun name =>
      !isHidden name && store.isFolder (place ++ [name])).flatMap fun name =>
        foldersBelow depth (place ++ [name])

/-- The places that one name pattern leads to; `special` says that a pattern before it was special,
and `last` that only this pattern may lead to files. -/
def step (special last : Bool) (pattern : Text) (place : Place) : List Place :=
  if pattern = ("**" : Text) then
    if store.isFolder place then foldersBelow store store.depth place else []
  else if isMagic pattern then
    ((matching store place pattern).map fun name => place ++ [name]).filter fun found =>
      last || store.isFolder found
  else if special then [place ++ [pattern]].filter store.holds
  else [place ++ [pattern]]

/-- The places that a path pattern leads to from the given places. -/
def expand : Bool → List Text → List Place → List Place
  | _, [], places => places
  | special, pattern :: rest, places =>
    expand (special || isMagic pattern) rest
      (places.flatMap (step store special rest.isEmpty pattern))

/-- The places that a path pattern leads to from the root. -/
def find (patterns : List Text) : List Place := expand store false patterns [[]]

end Assay.Glob
