import Assay.Tree.Node

/-!
# Fragments for insertion

The small pieces of syntax that are put into programs: calls that record that a place was reached,
literals that stand in for others, and blocks around statements. A built node has no place in the
source unless it takes over that of another node.
-/

set_option autoImplicit false

namespace Assay

/-- What is counted: functions, statements and branches, each with ids of its own. -/
inductive Space where
  | func
  | stmt
  | branch
  deriving DecidableEq

namespace Space

/-- The spaces in the order in which they are reported. -/
def all : List Space := [.func, .stmt, .branch]

/-- The name of a space. -/
def name : Space → String
  | .func => "func"
  | .stmt => "stmt"
  | .branch => "branch"

/-- The space of a name. -/
def ofName? (name : Text) : Option Space := all.find? fun space => Text.ofString space.name == name

end Space

namespace Build

/-- A name that stands nowhere in the source. -/
def name (text : Text) : Node := .identifier .none text

/-- The call `<handle>.<space>.add(<id>)`. -/
def trackingCall (handle : Text) (space : Space) (id : Int) : Node :=
  .call .none
    (.member .none (.member .none (name handle) (name space.name) false false) (name "add")
      false false)
    [.literal .none (.int id) (some (Text.ofInt id)) none] false

/-- The tracking call as a statement. -/
def trackingStatement (handle : Text) (space : Space) (id : Int) : Node :=
  .expressionStatement .none (trackingCall handle space id)

/-- The expressions from left to right, with the value of the last. -/
def sequence (expressions : List Node) : Node := .sequence .none expressions

/-- A truth value at the given place. -/
def boolLiteral (value : Bool) (span : Span) : Node :=
  .literal span (.bool value) (some (if value then "true" else "false")) none

/-- A string at the given place, or what stands in for one, without a spelling of its own. -/
def stringLiteral (value : Data) (span : Span) : Node := .literal span value none none

/-- A piece of a template without escapes. -/
def quasi (raw : Text) (tail : Bool) : Quasi := ⟨.none, raw, raw, tail⟩

/-- The block that has `statement` before what `block` holds. -/
def prepend (statement : Node) : Option Node → Node
  | none => .blockStatement .none [statement]
  | some (.blockStatement span body) => .blockStatement span (statement :: body)
  | some other => .blockStatement other.span [statement, other]

end Build

end Assay
