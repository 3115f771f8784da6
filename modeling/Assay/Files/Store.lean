import Assay.Failure

/-!
# Stores of files

A `Store` holds files and folders below one root folder, which is also where relative paths start.
A place in the store is the list of the names on the way from the root to it. Folders on the way to
a file or a folder are there without being listed.

A path is followed name by name, and each name on the way has to be that of a folder (`reach`). It
can be brought into a normal form first, which takes away each name together with the `..` behind
it, whether the name leads anywhere or not (`normalize`).
-/

set_option autoImplicit false

namespace Assay

/-- The names on the way from the root of a store. -/
abbrev Place := List Text

/-- A file with its text and, for a program, the concrete tree of the text as it is read. -/
structure File where
  /-- The text as it is stored. -/
  text : Text
  /-- The concrete tree of the text with unified newlines. -/
  tree : Concrete

/-- Files and folders below one root. -/
structure Store where
  /-- The path of the root. -/
  root : Text
  /-- The files. -/
  files : List (Place × File)
  /-- The folders that are there even if they are empty. -/
  folders : List Place := []

namespace Store

/-- The pieces of a text between separators. -/
def pieces (separator : CodePoint) : Text → List Text
  | [] => [[]]
  | c :: rest =>
    if c = separator then [] :: pieces separator rest
    else
      match pieces separator rest with
      | [] => [[c]]
      | piece :: more => (c :: piece) :: more

/-- The names of a path. -/
def steps (path : Text) : List Text := pieces '/' path

/-- Whether a path starts at the root of all stores. -/
def isAbsolute (path : Text) : Bool := path.head? = some '/'

/-- Whether a name stays where it is. -/
def isStay (name : Text) : Bool := name = [] || name = ("." : Text)

/-- Whether a name goes up. -/
def isUp (name : Text) : Bool := name = (".." : Text)

/-- The names so far and one more in normal form; going up beyond the start is kept. -/
def normalStep (names : List Text) (name : Text) : List Text :=
  if isStay name then names
  else if isUp name && (names.getLast?.any fun last => !isUp last) then names.dropLast
  else names ++ [name]

/-- The names of a path in normal form. -/
def normalize (path : Text) : List Text := (steps path).foldl normalStep []

/-- The place of a path in normal form, if it is in the store. -/
def place? (path : Text) : Option Place :=
  let names := normalize path
  if isAbsolute path || names.head?.any isUp then none else some names

/-- The path of a place. -/
def pathOf (store : Store) (place : Place) : Text := Text.join "/" (store.root :: place)

/-- Places in the order of their paths. -/
def sortPlaces (store : Store) (places : List Place) : List Place :=
  places.mergeSort fun a b => Text.le (store.pathOf a) (store.pathOf b)

/-- The file at a place. -/
def file? (store : Store) (place : Place) : Option File :=
  (store.files.find? (·.1 = place)).map (·.2)

/-- Whether there is a folder at a place. -/
def isFolder (store : Store) (place : Place) : Bool :=
  place.isEmpty || store.folders.any place.isPrefixOf
    || store.files.any fun (other, _) => place.isPrefixOf other && place ≠ other

/-- Whether there is a file or a folder at a place. -/
def holds (store : Store) (place : Place) : Bool :=
  store.isFolder place || (store.file? place).isSome

/-- The name that stands directly below a place on the way to another one. -/
def nameBelow? (place other : Place) : Option Text :=
  if place.isPrefixOf other then (other.drop place.length).head? else none

/-- The names in a folder, each once. -/
def names (store : Store) (place : Place) : List Text :=
  ((store.files.map (·.1) ++ store.folders).filterMap (nameBelow? place)).eraseDups

/-- The longest way to anything in the store. -/
def depth (store : Store) : Nat :=
  ((store.files.map (·.1) ++ store.folders).map List.length).foldl max 0

/-! ## Reading and writing -/

/-- The greatest number of bytes in a name. -/
def nameLimit : Nat := 255

/-- The number of bytes from which on a path is too long. -/
def pathLimit : Nat := 4096

/-- The number of bytes that a name or a path takes. -/
def byteLength (t : Text) : Nat := t.foldl (fun size c => size + c.width) 0

/-- Whether a code point stands for a byte that is no text. -/
def standsForByte (c : CodePoint) : Bool := c.within 0xDC80 0xDCFF

/-- Refuses a path that no file can have. -/
def checkPath (path : Text) : Except Failure Unit :=
  if path.any fun c => c.isSurrogate && !standsForByte c then .error .notEncodable
  else if path.any fun (c : CodePoint) => c.val == 0 then .error .nullInPath
  else if pathLimit ≤ byteLength path then .error (.longPath path)
  else .ok ()

/-- Follows names from a place, where nowhere is a folder above the store. What the last name leads
to need not be there. -/
def reach (store : Store) (path : Text) :
    Option Place → List Text → Except Failure (Option Place)
  | spot, [] => .ok spot
  | none, name :: rest =>
    if isStay name || isUp name then reach store path none rest
    else .error (.fileNotFound path)
  | some place, name :: rest =>
    if store.isFolder place then
      if isStay name then reach store path (some place) rest
      else if isUp name then
        reach store path (if place.isEmpty then none else some place.dropLast) rest
      else if nameLimit < byteLength name then .error (.longPath path)
      else reach store path (some (place ++ [name])) rest
    else if (store.file? place).isSome then .error (.notFolder path)
    else .error (.fileNotFound path)

/-- Where the names of a path start. -/
def startOf (path : Text) : Option Place := if isAbsolute path then none else some []

/-- Reads the file that the names of a path lead to. -/
def readAt (store : Store) (path : Text) (names : List Text) : Except Failure (Place × File) := do
  checkPath path
  match ← store.reach path (startOf path) names with
  | none => throw (.isFolder path)
  | some place =>
    match store.file? place with
    | some file => return (place, file)
    | none => throw (if store.isFolder place then .isFolder path else .fileNotFound path)

/-- Reads the file at a path. -/
def read (store : Store) (path : Text) : Except Failure (Place × File) :=
  if path.isEmpty then .error (.fileNotFound path) else store.readAt path (steps path)

/-- Reads the file at a path in normal form. -/
def readNormal (store : Store) (path : Text) : Except Failure (Place × File) :=
  store.readAt path (normalize path)

/-- The file at a place becomes one with the given text. -/
def put (store : Store) (place : Place) (text : Text) : Store :=
  let tree := ((store.file? place).map (·.tree)).getD (.part .program 0 0 "" [])
  { store with files := (place, ⟨text, tree⟩) :: store.files.filter (·.1 ≠ place) }

/-- Writes a file, in place of one that is there. A path that ends behind a separator is that of a
folder. -/
def write (store : Store) (path text : Text) : Except Failure Store := do
  checkPath path
  let names := steps path
  if names.getLast? = some [] && names.any (· ≠ []) then
    let parents := ((names.reverse.dropWhile (· = [])).drop 1).reverse
    let _ ← store.reach path (startOf path) (parents ++ [("." : Text)])
    throw (.isFolder path)
  match ← store.reach path (startOf path) names with
  | none => throw (.isFolder path)
  | some place =>
    if store.isFolder place then throw (.isFolder path) else return store.put place text

end Store

/-- The text of a file as a program reads it. -/
def File.readText (file : File) : Text := file.text.unifyNewlines

/-- The program in a file. -/
def File.script (file : File) : Script := ⟨file.readText, file.tree⟩

end Assay
