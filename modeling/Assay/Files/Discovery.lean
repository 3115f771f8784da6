import Assay.Data.Basic
import Assay.Files.Glob

/-!
# Which files are tested

A target is a program file or a folder, of which all program files are taken that are neither tests
nor in a folder of dependencies. Without targets there are two folders to look for.
-/

set_option autoImplicit false

namespace Assay.Discovery

/-- The ending of program files. -/
def programEnding : Text := ".js"

/-- Whether a file name is that of a test. -/
def isTestFile (name : Text) : Bool :=
  name.endsWith ".test.js" || name.endsWith ".spec.js" || name.startsWith "test_"

/-- The last name of a path. -/
def baseName (path : Text) : Text :=
  (path.reverse.takeWhile fun (c : CodePoint) => c != '/').reverse

variable (store : Store)

/-- The program files below a folder, in the order of their paths. -/
def filesBelow (folder : Place) : List Place :=
  store.sortPlaces
    ((Glob.find store (folder ++ [("**" : Text), "*" ++ programEnding])).filter fun place =>
      !place.contains ("node_modules" : Text) && !isTestFile (place.getLastD []))

/-- The program files of a place. -/
def filesAt (place : Place) : List Place :=
  if (store.file? place).isSome && (store.pathOf place).endsWith programEnding then [place]
  else if store.isFolder place then filesBelow store place
  else []

/-- The program files of a target. -/
def filesOf (target : Text) : List Place :=
  match Store.place? target with
  | some place => filesAt store place
  | none => []

/-- The folders to look for if no target is given. -/
def defaultFolders : List Text := ["target", "src"]

/-- The program files of the first default folder that is there. -/
def defaultFiles : List Place :=
  match defaultFolders.find? fun name => store.isFolder [name] with
  | some name => filesAt store [name]
  | none => []

end Assay.Discovery
