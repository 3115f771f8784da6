import Assay.Data.Numeral
import Assay.Proofs.Print.Lexical
import Assay.Tree.Node

/-!
# The grammar of expressions

The productions of the ECMAScript 2022 grammar for operator expressions, with `in` and `await`
allowed. `Derives symbol tokens tree` says that the nonterminal derives the tokens by a derivation
whose tree, with its parentheses left out, is the given one; places are free, because tokens have
none. Productions that pass a tree on to another nonterminal are the table `Symbol.units`, those of
binary operators the tables `binaryProductions` and `logicalProductions`.

An optional chain is one node around all of its links, so `Symbol.optional` derives the links and
the step to `Symbol.leftHandSide` closes the chain.
-/

set_option autoImplicit false

namespace Assay.Grammar

/-- The nonterminals. -/
inductive Symbol where
  | expression
  | assignment
  | conditional
  | shortCircuit
  | coalesce
  | coalesceHead
  | logicalOr
  | logicalAnd
  | bitwiseOr
  | bitwiseXor
  | bitwiseAnd
  | equality
  | relational
  | shift
  | additive
  | multiplicative
  | exponentiation
  | unary
  | update
  | leftHandSide
  | newExpression
  | call
  | optional
  | member
  | primary
  deriving DecidableEq

/-- The productions with one nonterminal on their right side, which has the same tree. -/
def Symbol.units : List (Symbol × Symbol) :=
  [(.expression, .assignment), (.assignment, .conditional), (.conditional, .shortCircuit),
   (.shortCircuit, .logicalOr), (.shortCircuit, .coalesce), (.coalesceHead, .coalesce),
   (.coalesceHead, .bitwiseOr), (.logicalOr, .logicalAnd), (.logicalAnd, .bitwiseOr),
   (.bitwiseOr, .bitwiseXor), (.bitwiseXor, .bitwiseAnd), (.bitwiseAnd, .equality),
   (.equality, .relational), (.relational, .shift), (.shift, .additive),
   (.additive, .multiplicative), (.multiplicative, .exponentiation), (.exponentiation, .unary),
   (.unary, .update), (.update, .leftHandSide), (.leftHandSide, .newExpression),
   (.leftHandSide, .call), (.newExpression, .member), (.member, .primary)]

/-- The productions of a binary operator. -/
structure Production where
  /-- The nonterminal of the whole. -/
  whole : Symbol
  /-- The nonterminal of the left operand. -/
  left : Symbol
  /-- The operators. -/
  operators : List String
  /-- The nonterminal of the right operand. -/
  right : Symbol

/-- The productions of the operators that evaluate both operands. -/
def binaryProductions : List Production :=
  [⟨.bitwiseOr, .bitwiseOr, ["|"], .bitwiseXor⟩,
   ⟨.bitwiseXor, .bitwiseXor, ["^"], .bitwiseAnd⟩,
   ⟨.bitwiseAnd, .bitwiseAnd, ["&"], .equality⟩,
   ⟨.equality, .equality, ["==", "!=", "===", "!=="], .relational⟩,
   ⟨.relational, .relational, ["<", ">", "<=", ">=", "instanceof", "in"], .shift⟩,
   ⟨.shift, .shift, ["<<", ">>", ">>>"], .additive⟩,
   ⟨.additive, .additive, ["+", "-"], .multiplicative⟩,
   ⟨.multiplicative, .multiplicative, ["*", "/", "%"], .exponentiation⟩,
   ⟨.exponentiation, .update, ["**"], .exponentiation⟩]

/-- The productions of the operators that may leave out their right operand. -/
def logicalProductions : List Production :=
  [⟨.logicalOr, .logicalOr, ["||"], .logicalAnd⟩,
   ⟨.logicalAnd, .logicalAnd, ["&&"], .bitwiseOr⟩,
   ⟨.coalesce, .coalesceHead, ["??"], .bitwiseOr⟩]

/-- The operators in front of one operand. -/
def unaryOperators : List String := ["delete", "void", "typeof", "+", "-", "~", "!"]

/-- The operators that count up and down. -/
def updateOperators : List String := ["++", "--"]

/-- The operators of assignments. -/
def assignmentOperators : List String :=
  ["=", "*=", "/=", "%=", "+=", "-=", "<<=", ">>=", ">>>=", "&=", "^=", "|=", "**=", "&&=",
   "||=", "??="]

/-- The words that are no identifiers. -/
def reservedWords : List Text :=
  List.map Text.ofString
    ["await", "break", "case", "catch", "class", "const", "continue", "debugger", "default",
     "delete", "do", "else", "enum", "export", "extends", "false", "finally", "for", "function",
     "if", "import", "in", "instanceof", "new", "null", "return", "super", "switch", "this",
     "throw", "true", "try", "typeof", "var", "void", "while", "with", "yield"]

/-- The token of a terminal. -/
def terminal (text : Text) : Token := if text ∈ punctuators then .mark text else .word text

/-- What can be assigned to. -/
def isReference : Node → Bool
  | .identifier .. | .member .. => true
  | _ => false

mutual

/-- A nonterminal derives tokens with a tree. -/
inductive Derives (alphabet : Alphabet) : Symbol → List Token → Node → Prop
  | unit {outer inner : Symbol} {tokens : List Token} {tree : Node} :
      (outer, inner) ∈ Symbol.units → Derives alphabet inner tokens tree →
      Derives alphabet outer tokens tree
  | identifier {span : Span} {name value : Text} : Name alphabet name value →
      value ∉ reservedWords → Derives alphabet .primary [.word name] (.identifier span name)
  | number {span : Span} {raw : Text} {value : Data} : Numeral.read raw = .ok value →
      Derives alphabet .primary [.number raw] (.literal span value (some raw) none)
  | parentheses {tokens : List Token} {tree : Node} : Derives alphabet .expression tokens tree →
      Derives alphabet .primary ([terminal "("] ++ tokens ++ [terminal ")"]) tree
  | index {span : Span} {symbol : Symbol} {tokens others : List Token} {object property : Node} :
      symbol ∈ [Symbol.member, .call] → Derives alphabet symbol tokens object →
      Derives alphabet .expression others property →
      Derives alphabet symbol (tokens ++ [terminal "["] ++ others ++ [terminal "]"])
        (.member span object property true false)
  | field {span place : Span} {symbol : Symbol} {tokens : List Token} {object : Node}
      {name value : Text} :
      symbol ∈ [Symbol.member, .call] → Derives alphabet symbol tokens object →
      Name alphabet name value →
      Derives alphabet symbol (tokens ++ [terminal "."] ++ [.word name])
        (.member span object (.identifier place name) false false)
  | newArguments {span : Span} {tokens others : List Token} {callee : Node} {items : List Node} :
      Derives alphabet .member tokens callee → DerivesArguments alphabet others items →
      Derives alphabet .member ([terminal "new"] ++ tokens ++ others)
        (.newExpression span callee items)
  | new {span : Span} {tokens : List Token} {callee : Node} :
      Derives alphabet .newExpression tokens callee →
      Derives alphabet .newExpression ([terminal "new"] ++ tokens) (.newExpression span callee [])
  | call {span : Span} {symbol : Symbol} {tokens others : List Token} {callee : Node}
      {items : List Node} :
      symbol ∈ [Symbol.member, .call] → Derives alphabet symbol tokens callee →
      DerivesArguments alphabet others items →
      Derives alphabet .call (tokens ++ others) (.call span callee items false)
  | optional {symbol : Symbol} {tokens others : List Token} {base tree : Node} :
      symbol ∈ [Symbol.member, .call, .optional] → Derives alphabet symbol tokens base →
      DerivesLinks alphabet base others tree →
      Derives alphabet .optional (tokens ++ others) tree
  | chain {span : Span} {tokens : List Token} {tree : Node} :
      Derives alphabet .optional tokens tree →
      Derives alphabet .leftHandSide tokens (.chain span tree)
  | postfixUpdate {span : Span} {operator : String} {tokens : List Token} {tree : Node} :
      operator ∈ updateOperators → isReference tree = true →
      Derives alphabet .leftHandSide tokens tree →
      Derives alphabet .update (tokens ++ [terminal operator]) (.update span operator false tree)
  | prefixUpdate {span : Span} {operator : String} {tokens : List Token} {tree : Node} :
      operator ∈ updateOperators → isReference tree = true →
      Derives alphabet .unary tokens tree →
      Derives alphabet .update ([terminal operator] ++ tokens) (.update span operator true tree)
  | unary {span : Span} {operator : String} {tokens : List Token} {tree : Node} :
      operator ∈ unaryOperators → Derives alphabet .unary tokens tree →
      Derives alphabet .unary ([terminal operator] ++ tokens) (.unary span operator tree)
  | await {span : Span} {tokens : List Token} {tree : Node} :
      Derives alphabet .unary tokens tree →
      Derives alphabet .unary ([terminal "await"] ++ tokens) (.awaitExpression span tree)
  | binary {span : Span} {production : Production} {operator : String}
      {tokens others : List Token} {left right : Node} :
      production ∈ binaryProductions → operator ∈ production.operators →
      Derives alphabet production.left tokens left →
      Derives alphabet production.right others right →
      Derives alphabet production.whole (tokens ++ [terminal operator] ++ others)
        (.binary span left operator right)
  | logical {span : Span} {production : Production} {operator : String}
      {tokens others : List Token} {left right : Node} :
      production ∈ logicalProductions → operator ∈ production.operators →
      Derives alphabet production.left tokens left →
      Derives alphabet production.right others right →
      Derives alphabet production.whole (tokens ++ [terminal operator] ++ others)
        (.logical span left operator right)
  | conditional {span : Span} {tokens others more : List Token} {test consequent alternate : Node} :
      Derives alphabet .shortCircuit tokens test →
      Derives alphabet .assignment others consequent →
      Derives alphabet .assignment more alternate →
      Derives alphabet .conditional (tokens ++ [terminal "?"] ++ others ++ [terminal ":"] ++ more)
        (.conditional span test consequent alternate)
  | assignment {span : Span} {operator : String} {tokens others : List Token} {left right : Node} :
      operator ∈ assignmentOperators → isReference left = true →
      Derives alphabet .leftHandSide tokens left → Derives alphabet .assignment others right →
      Derives alphabet .assignment (tokens ++ [terminal operator] ++ others)
        (.assignment span left operator right)
  | sequence {span : Span} {tokens : List Token} {items : List Node} : 2 ≤ items.length →
      DerivesItems alphabet tokens items →
      Derives alphabet .expression tokens (.sequence span items)

/-- Assignment expressions with commas between them. -/
inductive DerivesItems (alphabet : Alphabet) : List Token → List Node → Prop
  | last {tokens : List Token} {item : Node} : Derives alphabet .assignment tokens item →
      DerivesItems alphabet tokens [item]
  | next {tokens others : List Token} {item : Node} {items : List Node} :
      Derives alphabet .assignment tokens item → DerivesItems alphabet others items →
      DerivesItems alphabet (tokens ++ [terminal ","] ++ others) (item :: items)

/-- The arguments of a call between their parentheses. -/
inductive DerivesArguments (alphabet : Alphabet) : List Token → List Node → Prop
  | none : DerivesArguments alphabet ([terminal "("] ++ [terminal ")"]) []
  | some {tokens : List Token} {items : List Node} : DerivesItems alphabet tokens items →
      DerivesArguments alphabet ([terminal "("] ++ tokens ++ [terminal ")"]) items

/-- The links of an optional chain behind its base, of which the first is optional. -/
inductive DerivesLinks (alphabet : Alphabet) : Node → List Token → Node → Prop
  | optionalCall {span : Span} {base : Node} {tokens : List Token} {items : List Node} :
      DerivesArguments alphabet tokens items →
      DerivesLinks alphabet base ([terminal "?."] ++ tokens) (.call span base items true)
  | optionalIndex {span : Span} {base property : Node} {tokens : List Token} :
      Derives alphabet .expression tokens property →
      DerivesLinks alphabet base ([terminal "?."] ++ [terminal "["] ++ tokens ++ [terminal "]"])
        (.member span base property true true)
  | optionalField {span place : Span} {base : Node} {name value : Text} :
      Name alphabet name value →
      DerivesLinks alphabet base ([terminal "?."] ++ [.word name])
        (.member span base (.identifier place name) false true)
  | call {span : Span} {base tree : Node} {tokens others : List Token} {items : List Node} :
      DerivesLinks alphabet base tokens tree → DerivesArguments alphabet others items →
      DerivesLinks alphabet base (tokens ++ others) (.call span tree items false)
  | index {span : Span} {base tree property : Node} {tokens others : List Token} :
      DerivesLinks alphabet base tokens tree → Derives alphabet .expression others property →
      DerivesLinks alphabet base (tokens ++ [terminal "["] ++ others ++ [terminal "]"])
        (.member span tree property true false)
  | field {span place : Span} {base tree : Node} {tokens : List Token} {name value : Text} :
      DerivesLinks alphabet base tokens tree → Name alphabet name value →
      DerivesLinks alphabet base (tokens ++ [terminal "."] ++ [.word name])
        (.member span tree (.identifier place name) false false)

end

end Assay.Grammar
