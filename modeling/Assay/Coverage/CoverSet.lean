import Assay.Coverage.Instrument
import Assay.Decimal.Fixed
import Assay.Failure

/-!
# Cover sets

A `CoverSet` has a catalog of targets, each an id with a range of the program, and the ids that were
reached so far. An id is a key, in a catalog of a program a number from zero on, and an id that was
reached is kept as it was first told. Ids that are not in the catalog are refused, and sets are
merged only if their catalogs have the same ids.
-/

set_option autoImplicit false

namespace Assay

/-- Ids with their ranges. -/
abbrev Catalog := List (Data × Range)

namespace Catalog

/-- The ids. -/
def ids (catalog : Catalog) : List Data := catalog.map (·.1)

/-- Puts a range under an id, in place of one that is already there. -/
def insert (id : Data) (range : Range) : Catalog → Catalog
  | [] => [(id, range)]
  | entry :: rest =>
    if entry.1.sameKey id then (entry.1, range) :: rest else entry :: insert id range rest

/-- Whether two catalogs have the same ids. -/
def sameIds (a b : Catalog) : Bool :=
  a.ids.all (·.isAmong b.ids) && b.ids.all (·.isAmong a.ids)

/-- The entries in the order of their ids. -/
def sorted (catalog : Catalog) : Catalog := catalog.mergeSort fun a b => a.1.keyLe b.1

end Catalog

/-- Targets, and the ids reached so far. -/
structure CoverSet where
  /-- The targets. -/
  catalog : Catalog
  /-- The ids reached so far, each once. -/
  covered : List Data := []

namespace CoverSet

/-- The number of targets. -/
def total (s : CoverSet) : Nat := s.catalog.length

/-- The ids reached so far, in order. -/
def coveredSorted (s : CoverSet) : List Data := s.covered.mergeSort Data.keyLe

/-- The ids reached so far, if they can be put in order. -/
def coveredInOrder (s : CoverSet) : Except Failure (List Data) :=
  if Data.areOrdered s.covered then .ok s.coveredSorted else .error .wrongType

/-- Adds an id to those reached. -/
def insert (s : CoverSet) (id : Data) : CoverSet :=
  if id.isAmong s.covered then s else { s with covered := s.covered ++ [id] }

/-- Records that a target was reached. -/
def add (s : CoverSet) (id : Data) : Except Failure CoverSet :=
  if !id.isKey then .error .wrongType
  else if id.isAmong s.catalog.ids then .ok (s.insert id)
  else .error (.notTarget id)

/-- Takes over what another set has reached. -/
def merge (s other : CoverSet) : Except Failure CoverSet :=
  if other.catalog.sameIds s.catalog then .ok (other.covered.foldl insert s)
  else .error .differentCatalogs

/-- The share of the targets that were reached, in percent; nothing is none of nothing. -/
def ratio (s : CoverSet) : Float :=
  if s.total = 0 then 0.0 else s.covered.length.toFloat / s.total.toFloat * 100.0

/-- The line for one target. -/
def entryText (s : CoverSet) (code : Option Text) (id : Data) (range : Range) : Text :=
  "\n      " ++ (if id.isAmong s.covered then ("*" : Text) else " ") ++ " " ++ id.plain
    ++ ": " ++ range.text ++
    (match code with
      | none | some [] => []
      | some code => " -- " ++ range.substring code)

/-- Counts and share, and with `detail` a line for each target, which shows its text if there is a
program to take it from. -/
def text (s : CoverSet) (detail : Bool) (code : Option Text) : Text :=
  Text.ofNat s.covered.length ++ "/" ++ Text.ofNat s.total ++ " (" ++ Decimal.fixed 2 s.ratio
    ++ "%)" ++
    (if detail then s.catalog.sorted.flatMap fun entry => s.entryText code entry.1 entry.2
     else [])

/-- The text of a set, if the lines for its targets can be put in order. -/
def report (s : CoverSet) (detail : Bool) (code : Option Text) : Except Failure Text :=
  if detail && !Data.areOrdered s.catalog.ids then .error .wrongType else .ok (s.text detail code)

end CoverSet

end Assay
