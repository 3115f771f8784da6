import Assay.Proofs.Print.Parting
import Assay.Proofs.Print.Success

/-!
# Exchanging a node for another

What is printed around a node depends on the text of the node and on little else of it: `outline`
and `hints` say on what. `Exchange` relates two nodes of the same outline between whose texts there
is a gap; two nodes divide if their texts are apart. Some nodes are printed in a way that does not
show which of their parts it depends on; for these there are equations here.
-/

set_option autoImplicit false

namespace Assay.Print

open Outcome

/-! ## What the surroundings of a node depend on -/

/-- Whether a node declares variables. -/
def isDeclaration : Node → Bool
  | .variableDeclaration .. => true
  | _ => false

/-- Whether a node is a function, and then whether it is asynchronous and whether a generator. -/
def signature? : Node → Option (Bool × Bool)
  | .function _ _ _ _ _ isAsync isGenerator _ => some (isAsync, isGenerator)
  | _ => none

/-- The text of a function as a method, from its parameters on. -/
def methodTail (level : Nat) : Node → Except PrintError Text
  | .function _ _ _ params body _ _ _ => do
    let items ← printList level params
    return commas items ++ ") " ++ (← printAt level body)
  | _ => .error .missingPart

/-- What the surroundings of a node depend on besides its text. -/
structure Outline where
  rank : Nat
  isBlock : Bool
  isChain : Bool
  isPlainSuper : Bool
  isObject : Bool
  isDeclaration : Bool
  signature? : Option (Bool × Bool)

/-- The outline of a node. -/
def outline (node : Node) : Outline :=
  ⟨precedence node, node.isBlock, isChain node, isPlainSuper node, isObject node,
    isDeclaration node, signature? node⟩

/-- What only parentheses and blanks around a node depend on. -/
structure Hints where
  hasCall : Bool
  isNumber : Bool
  binaryOperator? : Option Text
  unaryOperator? : Option Text

/-- The hints of a node. -/
def hints (node : Node) : Hints :=
  ⟨hasCall node, isNumber node, binaryOperator? node, unaryOperator? node⟩

/-! ## Exchanges -/

/-- Two nodes of one outline with a gap between their texts. If parentheses and blanks could make up
for what changed, the surroundings must not treat the two nodes differently. -/
structure Exchange (gap : Gap) (node other : Node) : Prop where
  outline_eq : outline other = outline node
  hints_eq : gap.strict → hints other = hints node
  text {level : Nat} {t u : Text} : printAt level node = .ok t → printAt level other = .ok u →
    gap.Holds t u
  tail {level : Nat} {t u : Text} : methodTail level node = .ok t →
    methodTail level other = .ok u → gap.Holds t u
  head {level : Nat} {t u : Text} : printAt level node = .ok t → printAt level other = .ok u →
    gap.Holds (loopHead node t) (loopHead other u)

/-- Two nodes whose texts are apart. -/
abbrev Divide (rift : Rift) : Node → Node → Prop := Exchange (.apart rift)

variable {gap : Gap} {rift : Rift} {node other : Node} {span : Span}

theorem methodTail_of_signature? (h : signature? node = none) (level : Nat) :
    methodTail level node = .error .missingPart := by
  cases node
  case function => cases h
  all_goals rfl

theorem loopHead_of_isDeclaration (h : isDeclaration node = false) (t : Text) :
    loopHead node t = t := by
  cases node
  case variableDeclaration => cases h
  all_goals rfl

/-- Nodes that are no declarations. -/
theorem Exchange.of_tail (hDeclaration : isDeclaration node = false)
    (hOutline : outline other = outline node) (hHints : gap.strict → hints other = hints node)
    (hText : ∀ level t u, printAt level node = .ok t → printAt level other = .ok u →
      gap.Holds t u)
    (hTail : ∀ level t u, methodTail level node = .ok t → methodTail level other = .ok u →
      gap.Holds t u) : Exchange gap node other := by
  have hOther : isDeclaration other = false :=
    (congrArg Outline.isDeclaration hOutline).trans hDeclaration
  refine ⟨hOutline, hHints, hText _ _ _, hTail _ _ _, fun hT hU => ?_⟩
  rw [loopHead_of_isDeclaration hDeclaration, loopHead_of_isDeclaration hOther]
  exact hText _ _ _ hT hU

/-- Nodes that are neither functions nor declarations. -/
theorem Exchange.of_text (hSignature : signature? node = none)
    (hDeclaration : isDeclaration node = false) (hOutline : outline other = outline node)
    (hHints : gap.strict → hints other = hints node)
    (hText : ∀ level t u, printAt level node = .ok t → printAt level other = .ok u →
      gap.Holds t u) : Exchange gap node other := by
  refine .of_tail hDeclaration hOutline hHints hText fun level t u hT => ?_
  rw [methodTail_of_signature? hSignature] at hT
  cases hT

/-- The same for nodes that are widely apart. -/
theorem Divide.of_wide (hSignature : signature? node = none)
    (hDeclaration : isDeclaration node = false) (hOutline : outline other = outline node)
    (hText : ∀ level t u, printAt level node = .ok t → printAt level other = .ok u →
      Apart .wide t u) : Divide .wide node other :=
  .of_text hSignature hDeclaration hOutline (fun hEq => by cases hEq) hText

theorem Divide.symm (h : Divide rift node other) : Divide rift other node where
  outline_eq := h.outline_eq.symm
  hints_eq hRift := (h.hints_eq hRift).symm
  text hT hU := (h.text hU hT).symm
  tail hT hU := (h.tail hU hT).symm
  head hT hU := (h.head hU hT).symm

/-- The blank behind a sign or a word is settled before its argument is printed. -/
theorem printAt_unary (level : Nat) (operator : Text) (argument : Node) :
    printAt level (.unary span operator argument) =
      ((if precedence argument < 15 then pure false else needsSpace operator argument) >>=
        fun space => printAt level argument >>= fun inner =>
          pure (operator ++ (if space then Text.ofString " " else "") ++
            wrap (precedence argument < 15) inner)) := by
  rw [printAt]
  by_cases hRank : precedence argument < 15
  · simp [hRank]
  · simp only [hRank, decide_false, if_false]
    refine bind_congr fun space => ?_
    cases space <;> rfl

end Assay.Print
