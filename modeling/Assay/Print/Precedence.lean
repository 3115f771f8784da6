import Assay.Text.Blank
import Assay.Text.Letter
import Assay.Tree.Node

/-!
# Where parentheses are needed

Parentheses follow from precedence alone, so a tree that was put together from parts prints
correctly. `kindRank` ranks the kinds of expressions, `operatorRank?` the binary operators among
each other, and `needsParens` decides for the operand of a binary or logical expression.
-/

set_option autoImplicit false

namespace Assay

/-- Why a tree cannot be printed. -/
inductive PrintError where
  /-- Nodes of this kind have no text of their own. -/
  | unprintable (kind : Kind)
  /-- A binary operator without a rank among the others. -/
  | unknownOperator (operator : Text)
  /-- A unary operator without any code point. -/
  | emptyOperator
  /-- A part that the text cannot do without is absent, or is of a kind that has no such text. -/
  | missingPart
  /-- A whole number with too many digits to be written. -/
  | tooManyDigits
  /-- Something of the wrong type stands where a text or a list is needed. -/
  | wrongType
  /-- A regular expression has fewer or more parts than a pattern and flags. -/
  | notTwo (count : Nat)

/-- The words for what cannot be printed. -/
def PrintError.message : PrintError → Text
  | .unprintable kind => "Cannot generate source for " ++ kind.name
  | .unknownOperator operator => operator
  | .emptyOperator => "empty operator"
  | .missingPart => "missing part"
  | .tooManyDigits => Data.longNumberMessage
  | .wrongType => "wrong type"
  | .notTwo count =>
    if count < 2 then "not enough values to unpack (expected 2, got " ++ Text.ofNat count ++ ")"
    else "too many values to unpack (expected 2)"

namespace Print

/-- The rank that always calls for parentheses around an operand. -/
def wrappedRank : Nat := 17

/-- How tightly the expressions of a kind hold together; what is no expression ranks highest. -/
def kindRank : Kind → Nat
  | .memberExpression | .chainExpression | .callExpression | .newExpression => 19
  | .arrowFunctionExpression | .functionExpression | .classExpression | .objectExpression =>
    wrappedRank
  | .updateExpression => 16
  | .unaryExpression | .awaitExpression => 15
  | .binaryExpression => 14
  | .logicalExpression => 13
  | .conditionalExpression => 4
  | .assignmentExpression => 3
  | .yieldExpression => 2
  | .spreadElement | .restElement => 1
  | _ => 20

/-- How tightly a node holds together. -/
def precedence (node : Node) : Nat := kindRank node.kind

/-- The ranks of the binary and logical operators. -/
def operatorRanks : List (String × Nat) :=
  [("||", 2), ("??", 3), ("&&", 4), ("|", 5), ("^", 6), ("&", 7), ("==", 8), ("!=", 8),
   ("===", 8), ("!==", 8), ("<", 9), (">", 9), ("<=", 9), (">=", 9), ("in", 9),
   ("instanceof", 9), ("<<", 10), (">>", 10), (">>>", 10), ("+", 11), ("-", 11), ("*", 12),
   ("%", 12), ("/", 12), ("**", 13)]

/-- The rank of a binary or logical operator. -/
def operatorRank? (operator : Text) : Option Nat :=
  (operatorRanks.find? fun entry => Text.ofString entry.1 == operator).map (·.2)

/-- The rank of an operator, which must have one. -/
def operatorRank (operator : Text) : Except PrintError Nat :=
  match operatorRank? operator with
  | some rank => .ok rank
  | none => .error (.unknownOperator operator)

/-- The operator of a binary or logical expression. -/
def binaryOperator? : Node → Option Text
  | .binary _ _ operator _ | .logical _ _ operator _ => some operator
  | _ => none

/-- The two sides of a binary operator. -/
inductive Side where
  | left
  | right
  deriving DecidableEq

/-- Whether an operand on the given side of `operator` needs parentheses, where `parent` is the
precedence of the whole. Only one with the precedence of the whole depends on its own operator. -/
def needsParens (operand : Node) (parent : Nat) (operator : Text) (side : Side) :
    Except PrintError Bool :=
  let own := precedence operand
  if own = wrappedRank then .ok true
  else if own ≠ parent then
    if side = .left && own = 15 && parent = 14 && operator == "**" then .ok true
    else .ok (own < parent)
  else match binaryOperator? operand with
    | none => .ok false
    | some inner =>
      if inner == "**" && operator == "**" then .ok (side = .left)
      else if own = 13 && (inner == "??" || operator == "??") then .ok true
      else do
        let innerRank ← operatorRank inner
        let outerRank ← operatorRank operator
        return if side = .right then innerRank ≤ outerRank else innerRank < outerRank

/-- Whether a node is the top of an optional chain. -/
def isChain : Node → Bool
  | .chain .. => true
  | _ => false

/-- Whether a call or an optional chain is at the root of a chain of members. -/
def hasCall : Node → Bool
  | .member _ object _ _ _ => hasCall object
  | .call .. | .chain .. => true
  | _ => false

/-- Whether a callee or the object of a member needs parentheses. -/
def wrapsAsTarget (target : Node) : Bool := precedence target < 19 || isChain target

/-- Whether a node is the literal of a number. -/
def isNumber : Node → Bool
  | .literal _ (.int _) _ _ | .literal _ (.float _) _ _ => true
  | _ => false

/-- Whether a class may extend the expression without parentheses. -/
def isPlainSuper : Node → Bool
  | .identifier .. | .member .. | .call .. => true
  | _ => false

/-- Whether a node is an object literal. -/
def isObject : Node → Bool
  | .objectExpression .. => true
  | _ => false

/-- The operator of a unary or update expression. -/
def unaryOperator? : Node → Option Text
  | .unary _ operator _ | .update _ operator _ _ => some operator
  | _ => none

/-- Whether a unary operator needs a space before an argument that has no parentheses: it is a
word, or the argument starts with the same sign. -/
def needsSpace (operator : Text) (argument : Node) : Except PrintError Bool :=
  if operator.isAlphabetic then .ok true
  else match unaryOperator? argument with
    | none => .ok false
    | some inner =>
      match inner.head?, operator.head? with
      | some a, some b => .ok (a == b)
      | _, _ => .error .emptyOperator

/-- Whether a text continues with something other than a part of a word. -/
def wordEnds : Text → Bool
  | [] => true
  | c :: _ => !c.isWordPart

/-- Whether a text starts with the given word. -/
def startsWithWord (t : Text) (word : String) : Bool :=
  t.startsWith word && wordEnds (t.drop word.length)

/-- Whether the text of an expression would be read as something else at the start of a statement:
a block, a function, a class, or a declaration with `let`. -/
def isAmbiguousStart (t : Text) : Bool :=
  t.startsWith "\x7b" || startsWithWord t "function" || startsWithWord t "class" ||
    (t.startsWith "async" &&
      ((t.drop 5).head?.any CodePoint.isBlank &&
        startsWithWord (Text.stripLeft (t.drop 5)) "function")) ||
    (t.startsWith "let" && (Text.stripLeft (t.drop 3)).startsWith "[")

end Print

end Assay
