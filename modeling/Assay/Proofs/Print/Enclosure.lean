import Assay.Concrete.Lowering
import Assay.Print.Printer
import Assay.Proofs.Outcome

/-!
# Arrow functions as operands

An arrow function ends wherever its body ends, so an operator next to it would be read as part of
the body. `OperandPlace` are the places of an expression that hold an operand, and
`print_arrow_operand` says how an arrow function prints there. It stands between parentheses of
its own, except after a unary operator or `await`: these two compare its rank, `wrappedRank`, with
their own, and it lies above that.
-/

set_option autoImplicit false

namespace Assay.Print

/-- An expression without one of its operands. -/
inductive OperandPlace where
  | argument (span : Span) (operator : Text)
  | awaited (span : Span)
  | binaryLeft (span : Span) (operator : Text) (right : Node)
  | binaryRight (span : Span) (left : Node) (operator : Text)
  | logicalLeft (span : Span) (operator : Text) (right : Node)
  | logicalRight (span : Span) (left : Node) (operator : Text)
  | test (span : Span) (consequent alternate : Node)
  | object (span : Span) (property : Node) (computed optional : Bool)
  | callee (span : Span) (arguments : List Node) (optional : Bool)
  | constructed (span : Span) (arguments : List Node)
  | tag (span : Span) (quasi : Node)
  | superClass (form : ClassForm) (span : Span) (id : Option Node) (body : Node)

namespace OperandPlace

/-- The expression with an operand at the place. -/
def fill : OperandPlace → Node → Node
  | argument span operator, operand => .unary span operator operand
  | awaited span, operand => .awaitExpression span operand
  | binaryLeft span operator right, operand => .binary span operand operator right
  | binaryRight span left operator, operand => .binary span left operator operand
  | logicalLeft span operator right, operand => .logical span operand operator right
  | logicalRight span left operator, operand => .logical span left operator operand
  | test span consequent alternate, operand => .conditional span operand consequent alternate
  | object span property computed optional, operand =>
    .member span operand property computed optional
  | callee span arguments optional, operand => .call span operand arguments optional
  | constructed span arguments, operand => .newExpression span operand arguments
  | tag span quasi, operand => .taggedTemplate span operand quasi
  | superClass form span id body, operand => .classNode form span id (some operand) body

/-- Whether the operand follows a unary operator or `await`. -/
def isPrefixed : OperandPlace → Bool
  | argument .. | awaited .. => true
  | _ => false

end OperandPlace

theorem unaryOperator?_of_arrow {arrow : Node} (h : arrow.kind = .arrowFunctionExpression) :
    unaryOperator? arrow = none := by
  cases arrow <;> first | rfl | cases h

theorem isPlainSuper_of_arrow {arrow : Node} (h : arrow.kind = .arrowFunctionExpression) :
    isPlainSuper arrow = false := by
  cases arrow <;> first | rfl | cases h

theorem needsParens_of_arrow {arrow : Node} (h : arrow.kind = .arrowFunctionExpression)
    (parent : Nat) (operator : Text) (side : Side) :
    needsParens arrow parent operator side = .ok true := by
  have hRank : precedence arrow = wrappedRank := by rw [precedence, h]; rfl
  rw [needsParens, if_pos hRank]

theorem needsParens_name (span : Span) (name : Text) {parent : Nat} (h : parent < 20)
    (operator : Text) (side : Side) :
    needsParens (.identifier span name) parent operator side = .ok false := by
  have hRank : precedence (.identifier span name) = 20 := rfl
  have hOther : (20 : Nat) ≠ parent := by omega
  have hLower : ¬ (20 : Nat) < parent := by omega
  simp [needsParens, hRank, wrappedRank, hOther, hLower]

/-- An arrow function prints as an operand just as a name with the same spelling would, and the
spelling has parentheses around it unless a unary operator or `await` comes before it. -/
theorem print_arrow_operand (place : OperandPlace) {level : Nat} {arrow : Node} {text : Text}
    (hArrow : arrow.kind = .arrowFunctionExpression) (hText : printAt level arrow = .ok text)
    (span : Span) :
    printAt level (place.fill arrow) =
      printAt level (place.fill (.identifier span (wrap (!place.isPrefixed) text))) := by
  have hRank : precedence arrow = wrappedRank := by rw [precedence, hArrow]; rfl
  have hName (name : Text) : precedence (.identifier span name) = 20 := rfl
  cases place with
  | argument outer operator =>
    -- Neither rank is below that of the unary expression, so both stand bare.
    have hSpace (name : Text) :
        needsSpace operator arrow = needsSpace operator (.identifier span name) := by
      rw [needsSpace, needsSpace, unaryOperator?_of_arrow hArrow]
      rfl
    simp [OperandPlace.fill, OperandPlace.isPrefixed, printAt, hText, hRank, hName, wrappedRank,
      wrap, hSpace text]
  | awaited outer =>
    simp [OperandPlace.fill, OperandPlace.isPrefixed, printAt, hText, hRank, hName, wrappedRank,
      wrap]
  | binaryLeft | binaryRight | logicalLeft | logicalRight =>
    simp [OperandPlace.fill, OperandPlace.isPrefixed, printAt, hText,
      needsParens_of_arrow hArrow, needsParens_name, wrap]
  | test | object | callee | constructed =>
    simp [OperandPlace.fill, OperandPlace.isPrefixed, printAt, hText, hRank, hName, wrappedRank,
      wrapsAsTarget, isChain, hasCall, isNumber, wrap]
  | tag outer quasi =>
    cases hQuasi : printAt level quasi <;>
      simp [OperandPlace.fill, OperandPlace.isPrefixed, printAt, hText, hQuasi, hRank, hName,
        wrappedRank, wrapsAsTarget, isChain, wrap]
  | superClass form outer id body =>
    have hPlain : isPlainSuper arrow = false := isPlainSuper_of_arrow hArrow
    have hNamePlain (name : Text) : isPlainSuper (.identifier span name) = true := rfl
    have hLead : Text.ofString "" = [] := rfl
    simp [OperandPlace.fill, OperandPlace.isPrefixed, printAt, printOptional, hText, extendsText,
      hPlain, hNamePlain, hLead, wrap]

/-- The arrow function `() => 1`. -/
def constantArrow : Node :=
  .function .arrow (.between 2 9) none [] (.literal (.between 8 9) (.int 1) (some "1") none) false
    false true

/-- A call of the function: `(() => 1)()`. -/
theorem print_arrow_operand_called :
    constantArrow.kind = .arrowFunctionExpression ∧ printAt 0 constantArrow = .ok "() => 1" ∧
      (Node.call .none constantArrow [] false).print = .ok "(() => 1)()" := by
  have hText : printAt 0 constantArrow = .ok "() => 1" := rfl
  exact ⟨rfl, hText, print_arrow_operand (.callee .none [] false) rfl hText .none⟩

/-- The program `!(() => 1);` as it comes from the grammar. -/
def negatedArrow : Script where
  code := "!(() => 1);"
  tree :=
    .part .program 0 11 "" [.part .expressionStatement 0 11 ""
      [.part .unaryExpression 0 10 ""
        [.token 0 1 "!" "operator",
         .part .parenthesizedExpression 1 10 "argument"
          [.token 1 2 "(" "",
           .part .arrowFunction 2 9 ""
            [.part (.other "formal_parameters") 2 4 "parameters" [.token 2 3 "(" "", .token 3 4 ")" ""],
             .token 5 7 "=>" "", .part .numberLiteral 8 9 "body" []],
           .token 9 10 ")" ""]],
       .token 10 11 ";" ""]]

/-- The negation loses the parentheses that the program has around the function. -/
theorem print_negatedArrow :
    (negatedArrow.parse.toOption.map Node.print) = some (.ok "!() => 1;") := rfl

end Assay.Print
