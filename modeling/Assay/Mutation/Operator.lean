import Assay.Tree.Node

/-!
# The catalogue of alterations

A `MutationKind` is a sort of alteration. For the sorts that exchange an operator, `swaps` lists
what each operator is exchanged for, in order. A strict comparison with a literal `null` is not
exchanged for its loose counterpart, since the two do not differ there in practice.
-/

set_option autoImplicit false

namespace Assay

/-- A sort of alteration. -/
inductive MutationKind where
  | arithmetic
  | assignment
  | equality
  | logical
  | unary
  | booleanLiteral
  | stringLiteral
  | collectionLiteral
  | blockStatement
  | conditional
  | update
  | optionalChaining
  deriving DecidableEq

namespace MutationKind

/-- All sorts. -/
def all : List MutationKind :=
  [.arithmetic, .assignment, .equality, .logical, .unary, .booleanLiteral, .stringLiteral,
   .collectionLiteral, .blockStatement, .conditional, .update, .optionalChaining]

/-- The name of a sort in reports. -/
def name : MutationKind → String
  | .arithmetic => "ArithmeticOperator"
  | .assignment => "AssignmentOperator"
  | .equality => "EqualityOperator"
  | .logical => "LogicalOperator"
  | .unary => "UnaryOperator"
  | .booleanLiteral => "BooleanLiteral"
  | .stringLiteral => "StringLiteral"
  | .collectionLiteral => "CollectionLiteral"
  | .blockStatement => "BlockStatement"
  | .conditional => "ConditionalExpression"
  | .update => "UpdateOperator"
  | .optionalChaining => "OptionalChaining"

/-- The short name under which a sort is looked up. -/
def tag : MutationKind → String
  | .arithmetic => "ARITHMETIC"
  | .assignment => "ASSIGNMENT"
  | .equality => "EQUALITY"
  | .logical => "LOGICAL"
  | .unary => "UNARY"
  | .booleanLiteral => "BOOLEAN_LITERAL"
  | .stringLiteral => "STRING_LITERAL"
  | .collectionLiteral => "COLLECTION_LITERAL"
  | .blockStatement => "BLOCK_STATEMENT"
  | .conditional => "CONDITIONAL"
  | .update => "UPDATE"
  | .optionalChaining => "OPTIONAL_CHAINING"

/-- The sort with a short name. -/
def ofTag? (tag : Text) : Option MutationKind :=
  all.find? fun kind => Text.ofString kind.tag == tag

/-- What each operator is exchanged for. -/
def table : MutationKind → List (String × List String)
  | .arithmetic =>
    [("+", ["-"]), ("-", ["+"]), ("*", ["/", "%"]), ("/", ["*", "%"]), ("%", ["*", "/"])]
  | .equality =>
    [("<", ["<=", ">="]), ("<=", ["<", ">"]), (">", [">=", "<="]), (">=", [">", "<"]),
     ("==", ["!=", "==="]), ("!=", ["==", "!=="]), ("===", ["!==", "=="]),
     ("!==", ["===", "!="])]
  | .assignment =>
    [("+=", ["-="]), ("-=", ["+="]), ("*=", ["/="]), ("/=", ["*="]), ("%=", ["*="]),
     ("<<=", [">>="]), (">>=", ["<<="]), ("&=", ["|="]), ("|=", ["&="]), ("??=", ["&&="])]
  | .logical => [("&&", ["||", "??"]), ("||", ["&&", "??"]), ("??", ["&&", "||"])]
  | .unary => [("+", ["-"]), ("-", ["+"])]
  | .update => [("++", ["--"]), ("--", ["++"])]
  | _ => []

/-- The entry for an operator in the table of a sort. -/
def row? (kind : MutationKind) (operator : Text) : Option (List Text) :=
  (kind.table.find? fun entry => Text.ofString entry.1 == operator).map fun entry =>
    entry.2.map Text.ofString

/-- The loose counterparts of the strict comparisons. -/
def looseOf? (operator : Text) : Option Text :=
  if operator = ("===" : Text) then some "=="
  else if operator = ("!==" : Text) then some "!="
  else none

/-- What an operator is exchanged for; `besideNull` says that one operand is a literal `null`. -/
def swaps (kind : MutationKind) (operator : Text) (besideNull : Bool) : List Text :=
  let all := ((kind.row? operator).getD []).filter (· ≠ operator)
  if kind = .equality && besideNull then
    all.filter fun swap => looseOf? operator ≠ some swap
  else all

/-- The sort of a binary operator, if it is exchanged at all. -/
def ofBinary? (operator : Text) : Option MutationKind :=
  if (row? .arithmetic operator).isSome then some .arithmetic
  else if (row? .equality operator).isSome then some .equality
  else none

end MutationKind

end Assay
