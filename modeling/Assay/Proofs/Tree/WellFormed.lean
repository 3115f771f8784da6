import Assay.Concrete.Lowering
import Assay.Print.Printer
import Assay.Proofs.Print.Grammar
import Assay.Proofs.Tree.Every

/-!
# Trees as programs have them

`Node.Fits` is what can be said of a single node of a program that was read: its place lies inside
the program, nodes that have a place of their own stand in no other, and its own data and the parts
it cannot do without are proper. How tokens are spelled is left to a `Lexicon`, so that the
facts that do not depend on it hold for any spelling.
-/

set_option autoImplicit false

namespace Assay

/-- How the tokens of a program are spelled. -/
structure Lexicon where
  /-- The spellings of names, those of properties and labels among them. -/
  isName : Text → Bool
  /-- The spellings of names that stand for a value. -/
  isVariable : Text → Bool
  /-- The spellings of strings. -/
  isString : Text → Bool

namespace Lexicon

/-- Tokens of any spelling. -/
def any : Lexicon := ⟨fun _ => true, fun _ => true, fun _ => true⟩

/-- Code points that no name starts with: controls, blanks, digits and punctuation. -/
def isMark (c : CodePoint) : Bool :=
  c.val ≤ 0x20 || c.isDigit || (":;`\"'@#.,|^&<=>+-*/%?!~()[]\x7b\x7d" : Text).contains c

/-- A text that starts as a name does. -/
def startsAsName : Text → Bool
  | [] => false
  | c :: _ => !isMark c

/-- A text between two quotation marks of one sort. -/
def isQuoted : Text → Bool
  | [] => false
  | c :: rest => (c == '"' || c == '\'') && rest.getLast? == some c

/-- The spellings of the language: a name that stands for a value is not `true` or `false`. -/
def standard : Lexicon where
  isName := startsAsName
  isVariable name := name != "true" && name != "false"
  isString := isQuoted

end Lexicon

/-- The span lies inside of a text with the given number of code points. -/
def Span.Within (limit : Int) (span : Span) : Prop :=
  ∃ start stop, span = .between start stop ∧ 0 ≤ start ∧ start ≤ stop ∧ stop ≤ limit

/-- The span ends no later than another one. -/
def Span.EndsIn (inner outer : Span) : Prop :=
  ∃ stop last, inner.stop = some stop ∧ outer.stop = some last ∧ stop ≤ last

namespace Node

/-- Whether a node is a name. -/
def isName : Node → Bool
  | .identifier .. => true
  | _ => false

/-- Whether a node is a function. -/
def isFunction : Node → Bool
  | .function .. => true
  | _ => false

/-- Whether a node is a template without a tag. -/
def isTemplate : Node → Bool
  | .templateLiteral .. => true
  | _ => false

/-- The value of a literal is the one that its spelling has. -/
inductive IsLiteral (lexicon : Lexicon) : Data → Option Text → Option (Text × Text) → Prop
  | bool (value : Bool) (raw : Option Text) : IsLiteral lexicon (.bool value) raw none
  | null (raw : Option Text) : IsLiteral lexicon .null raw none
  | regex (raw : Option Text) (parts : Text × Text) : IsLiteral lexicon .null raw (some parts)
  | string {raw value : Text} : lexicon.isString raw = true →
      Escape.resolve (raw.drop 1).dropLast = .ok value →
      IsLiteral lexicon (.text value) (some raw) none
  | int {raw : Text} {value : Int} : Numeral.read raw = .ok (.int value) →
      IsLiteral lexicon (.int value) (some raw) none
  | float {raw : Text} {value : Float} : Numeral.read raw = .ok (.float value) →
      IsLiteral lexicon (.float value) (some raw) none

/-- The node may stand as a test: a name must stand for a value. -/
def isTest (lexicon : Lexicon) : Node → Bool
  | .identifier _ name => lexicon.isVariable name
  | _ => true

/-- What the node holds by itself, and the parts that it cannot do without, are proper. -/
def Proper (lexicon : Lexicon) : Node → Prop
  | .bare .. | .templateElement .. => False
  | .throwStatement _ argument => argument.isSome
  | .labeledStatement _ label _ => label.isName
  | .ifStatement span test consequent _ =>
    test.isTest lexicon ∧ consequent.span.EndsIn span
  | .whileStatement _ test _ | .doWhileStatement _ _ test => test.isTest lexicon
  | .forStatement _ _ test _ _ => ∀ part ∈ test, part.isTest lexicon
  | .function _ _ id _ _ _ _ _ => ∀ name ∈ id, name.isName
  | .methodDefinition _ _ value _ _ _ => value.isFunction
  | .property _ _ value kind computed shorthand method =>
    (kind == "get" || kind == "set" || method → value.isFunction) ∧ (shorthand → computed = false)
  | .identifier _ name => lexicon.isName name
  | .literal _ value raw regex => IsLiteral lexicon value raw regex
  | .templateLiteral _ quasis expressions => quasis.length = expressions.length + 1
  | .taggedTemplate _ _ quasi => quasi.isTemplate
  | .unary _ operator _ => ∃ sign ∈ Grammar.unaryOperators, operator = Text.ofString sign
  | .update _ operator _ _ => ∃ sign ∈ Grammar.updateOperators, operator = Text.ofString sign
  | .binary _ _ operator _ | .logical _ _ operator _ =>
    ∃ entry ∈ Print.operatorRanks, operator = Text.ofString entry.1
  | .chain _ expression => Lower.hasOptional expression
  | .sequence _ expressions => expressions ≠ []
  | _ => True

/-- What can be said of a single node of a program with the given number of code points. -/
structure Fits (lexicon : Lexicon) (limit : Int) (node : Node) : Prop where
  within : node.span.Within limit
  loose : ∀ part ∈ node.looseParts, part.isFree = true
  placed : ∀ part ∈ node.placedParts, part.kind ∈ node.placedKinds ∨ part.isFree = true
  proper : node.Proper lexicon

end Node

end Assay
