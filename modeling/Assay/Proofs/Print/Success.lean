import Assay.Proofs.Outcome
import Assay.Proofs.Tree.WellFormed

/-!
# Trees that can be printed

`Node.isPrintable` are the conditions on a single node under which it has a text if its parts do,
and `Print.succeeds_printAt` says that a tree all of whose nodes meet them is printed at any level.
-/

set_option autoImplicit false

namespace Assay

variable {tree : Node}

/-- Whether a node can be printed once its parts can. -/
def Node.isPrintable : Node → Bool
  | .bare .. | .templateElement .. => false
  | .throwStatement _ argument => argument.isSome
  | .methodDefinition _ _ value _ _ _ => value.isFunction
  | .property _ _ value kind _ _ method =>
    !(kind == "get" || kind == "set" || method) || value.isFunction
  | .literal _ value raw regex => (Print.literalText value raw regex).isOk
  | .unary _ operator _ | .update _ operator _ _ => !operator.isEmpty
  | .binary _ _ operator _ | .logical _ _ operator _ => (Print.operatorRank? operator).isSome
  | _ => true

/-- All nodes of a tree can be printed once their parts can. -/
abbrev Node.Printable (tree : Node) : Prop := tree.Every fun node => node.isPrintable = true

theorem Node.printable_iff :
    tree.Printable ↔ tree.isPrintable = true ∧ ∀ part ∈ tree.parts, part.Printable :=
  Node.every_iff

namespace Print

open Outcome

variable {level : Nat} {operator : Text} {span : Span}

/-- The text of a tree exists at every level. -/
def Prints (tree : Node) : Prop := ∀ level, Succeeds (printAt level tree)

theorem succeeds_operatorRank (h : (operatorRank? operator).isSome = true) :
    Succeeds (operatorRank operator) := by
  obtain ⟨rank, hRank⟩ := Option.isSome_iff_exists.1 h
  simp [operatorRank, hRank]

/-- Parentheses around an operand depend on known operators only. -/
theorem succeeds_needsParens {operand : Node} (hOperand : operand.isPrintable = true)
    (hOperator : (operatorRank? operator).isSome = true) (parent : Nat) (side : Side) :
    Succeeds (needsParens operand parent operator side) := by
  unfold needsParens
  dsimp only
  split
  · exact succeeds_ok _
  · split
    · split
      · exact succeeds_ok _
      · exact succeeds_ok _
    · split
      · exact succeeds_ok _
      · rename_i inner hInner
        have hRank : (operatorRank? inner).isSome = true := by
          cases operand <;> simp_all [binaryOperator?, Node.isPrintable]
        split
        · exact succeeds_ok _
        · split
          · exact succeeds_ok _
          · refine (succeeds_operatorRank hRank).bind fun _ _ => ?_
            exact (succeeds_operatorRank hOperator).bind fun _ _ => succeeds_pure _

theorem succeeds_needsSpace {argument : Node} (hArgument : argument.isPrintable = true)
    (hOperator : operator.isEmpty = false) : Succeeds (needsSpace operator argument) := by
  unfold needsSpace
  split
  · exact succeeds_ok _
  · split
    · exact succeeds_ok _
    · rename_i inner hInner
      have hSign : inner.isEmpty = false := by
        cases argument <;> simp_all [unaryOperator?, Node.isPrintable]
      cases inner with
      | nil => cases hSign
      | cons a rest =>
        cases operator with
        | nil => cases hOperator
        | cons b others => exact succeeds_ok _

/-! ## Lists of parts -/

theorem printList_eq_mapM (level : Nat) (nodes : List Node) :
    printList level nodes = nodes.mapM (printAt level) := by
  induction nodes with
  | nil => rfl
  | cons node rest ih => rw [printList, ih, List.mapM_cons]

theorem printLines_eq_mapM (level : Nat) (nodes : List Node) :
    printLines level nodes = nodes.mapM fun node =>
      return indent level ++ (← printAt level node) := by
  induction nodes with
  | nil => rfl
  | cons node rest ih =>
    rw [printLines, ih, List.mapM_cons, bind_assoc]
    rfl

theorem printHoles_eq_mapM (level : Nat) (elements : List (Option Node)) :
    printHoles level elements = elements.mapM fun element =>
      element.elim (pure []) (printAt level) := by
  induction elements with
  | nil => rfl
  | cons element rest ih => cases element <;> rw [printHoles, ih, List.mapM_cons] <;> rfl

section Lists

variable {trees : List Node} (h : ∀ tree ∈ trees, Succeeds (printAt level tree))

include h

theorem succeeds_printList : Succeeds (printList level trees) := by
  rw [printList_eq_mapM]
  exact succeeds_mapM h

theorem succeeds_printLines : Succeeds (printLines level trees) := by
  rw [printLines_eq_mapM]
  exact succeeds_mapM fun tree hTree => (h tree hTree).bind fun _ _ => succeeds_pure _

end Lists

theorem succeeds_printHoles {elements : List (Option Node)}
    (h : ∀ tree, some tree ∈ elements → Succeeds (printAt level tree)) :
    Succeeds (printHoles level elements) := by
  rw [printHoles_eq_mapM]
  refine succeeds_mapM fun element hElement => ?_
  cases element with
  | none => exact succeeds_pure _
  | some tree => exact h tree hElement

theorem succeeds_printTemplate {expressions : List Node}
    (h : ∀ tree ∈ expressions, Succeeds (printAt level tree)) (quasis : List Quasi) :
    Succeeds (printTemplate level quasis expressions) := by
  induction expressions generalizing quasis with
  | nil =>
    rw [printTemplate]
    exact succeeds_ok _
  | cons expression rest ih =>
    cases quasis with
    | nil =>
      rw [printTemplate]
      exact succeeds_ok _
    | cons quasi quasis =>
      rw [printTemplate]
      refine (h expression List.mem_cons_self).bind fun _ _ => ?_
      exact (ih (fun tree hTree => h tree (List.mem_cons_of_mem _ hTree)) quasis).bind
        fun _ _ => succeeds_pure _

theorem succeeds_printOptional {part : Option Node} (lead : Text)
    (h : ∀ tree, part = some tree → Succeeds (printAt level tree)) :
    Succeeds (printOptional level lead part) := by
  cases part with
  | none =>
    rw [printOptional]
    exact succeeds_ok _
  | some tree =>
    rw [printOptional]
    exact (h tree rfl).bind fun _ _ => succeeds_pure _

/-- What prints as a function has parameters and a body that print. -/
theorem succeeds_function_parts {form : FunctionForm}
    {id : Option Node} {params : List Node} {body : Node} {isAsync isGenerator isExpression : Bool}
    (h : Succeeds (printAt level
      (.function form span id params body isAsync isGenerator isExpression))) :
    Succeeds (printList level params) ∧ Succeeds (printAt level body) := by
  cases form
  case arrow =>
    simp only [printAt] at h
    obtain ⟨bodyText, hBody, h⟩ := h.of_bind
    obtain ⟨paramTexts, hParams, -⟩ := h.of_bind
    exact ⟨⟨paramTexts, hParams⟩, bodyText, hBody⟩
  all_goals
    simp only [printAt] at h
    obtain ⟨nameText, -, h⟩ := h.of_bind
    obtain ⟨paramTexts, hParams, h⟩ := h.of_bind
    obtain ⟨bodyText, hBody, -⟩ := h.of_bind
    exact ⟨⟨paramTexts, hParams⟩, bodyText, hBody⟩

theorem succeeds_methodDefinition {key value : Node} {kind : Text} {computed isStatic : Bool}
    (hValue : value.isFunction = true) (hKey : Succeeds (printAt level key))
    (h : Succeeds (printAt level value)) :
    Succeeds (printAt level (.methodDefinition span key value kind computed isStatic)) := by
  cases value <;> try cases hValue
  obtain ⟨hParams, hBody⟩ := succeeds_function_parts h
  simp only [printAt]
  exact hKey.bind fun _ _ => hParams.bind fun _ _ => hBody.bind fun _ _ => succeeds_pure _

theorem succeeds_property {key value : Node} {kind : Text} {computed shorthand method : Bool}
    (hProperty : (Node.property span key value kind computed shorthand method).isPrintable = true)
    (hKey : Succeeds (printAt level key)) (h : Succeeds (printAt level value)) :
    Succeeds (printAt level (.property span key value kind computed shorthand method)) := by
  simp only [printAt]
  refine hKey.bind fun _ _ => ?_
  split
  case isTrue hAccessor =>
    have hValue : value.isFunction = true := by
      simpa [Node.isPrintable, hAccessor] using hProperty
    cases value <;> try cases hValue
    obtain ⟨hParams, hBody⟩ := succeeds_function_parts h
    exact hParams.bind fun _ _ => hBody.bind fun _ _ => succeeds_pure _
  case isFalse => exact h.bind fun _ _ => succeeds_pure _

/-- A node is printed at every level if it is printable and all its parts are printed. -/
theorem prints_of_parts (hTree : tree.isPrintable = true)
    (hParts : ∀ part ∈ tree.parts, part.isPrintable = true ∧ Prints part) : Prints tree := by
  intro level
  have hPrint {part : Node} (hPart : part ∈ tree.parts) (depth : Nat) :
      Succeeds (printAt depth part) := (hParts part hPart).2 depth
  cases tree
  all_goals simp only [Node.parts, Node.looseParts, Node.placedParts] at hParts hPrint
  case bare | templateElement => cases hTree
  case literal value raw regex =>
    simp only [printAt]
    simp only [Node.isPrintable] at hTree
    cases hText : literalText value raw regex with
    | error => simp [hText, Except.isOk, Except.toBool] at hTree
    | ok text => exact succeeds_ok _
  case throwStatement argument =>
    cases argument with
    | none => cases hTree
    | some argument =>
      simp only [printAt]
      exact (hPrint (by simp) level).bind fun _ _ => succeeds_pure _
  case returnStatement argument | breakStatement argument | continueStatement argument =>
    cases argument with
    | none =>
      simp only [printAt]
      exact succeeds_ok _
    | some argument =>
      simp only [printAt]
      exact (hPrint (by simp) level).bind fun _ _ => succeeds_pure _
  case switchCase test consequent =>
    have hLines : Succeeds (printLines (level + 1) consequent) :=
      succeeds_printLines fun _ h => hPrint (by simp [h]) _
    cases test with
    | none =>
      simp only [printAt]
      exact hLines.bind fun _ _ => succeeds_pure _
    | some test =>
      simp only [printAt]
      refine (hPrint (by simp) level).bind fun _ _ => ?_
      exact hLines.bind fun _ _ => succeeds_pure _
  case catchClause param body =>
    have hBody : Succeeds (printAt level body) := hPrint (by simp) level
    cases param with
    | none =>
      simp only [printAt]
      exact hBody.bind fun _ _ => succeeds_pure _
    | some param =>
      simp only [printAt]
      refine (hPrint (by simp) level).bind fun _ _ => ?_
      exact hBody.bind fun _ _ => succeeds_pure _
  case variableDeclarator name value =>
    have hName : Succeeds (printAt level name) := hPrint (by simp) level
    cases value with
    | none =>
      simp only [printAt]
      exact hName
    | some value =>
      simp only [printAt]
      refine hName.bind fun _ _ => ?_
      exact (hPrint (by simp) level).bind fun _ _ => succeeds_pure _
  case ifStatement test consequent alternate =>
    have hTest : Succeeds (printAt level test) := hPrint (by simp) level
    have hConsequent (depth : Nat) : Succeeds (printAt depth consequent) :=
      hPrint (by simp) depth
    cases alternate with
    | none =>
      simp only [printAt]
      refine (hConsequent level).bind fun _ _ => ?_
      exact hTest.bind fun _ _ => succeeds_pure _
    | some alternate =>
      simp only [printAt]
      have hRest (text : Text) : Succeeds (do
          return "if (" ++ (← printAt level test) ++ ") " ++ text ++ " else " ++
            (← printAt level alternate)) :=
        hTest.bind fun _ _ => (hPrint (by simp) level).bind fun _ _ => succeeds_pure _
      split
      · exact (hConsequent level).bind fun _ _ => hRest _
      · exact (hConsequent (level + 1)).bind fun _ _ => hRest _
  case function form _ _ params body _ _ _ =>
    have hParams : Succeeds (printList level params) :=
      succeeds_printList fun _ h => hPrint (by simp [h]) level
    have hBody : Succeeds (printAt level body) := hPrint (by simp) level
    cases form
    case arrow =>
      simp only [printAt]
      exact hBody.bind fun _ _ => hParams.bind fun _ _ => succeeds_pure _
    all_goals
      simp only [printAt]
      refine (succeeds_printOptional _ fun _ h => hPrint (by simp [h]) level).bind fun _ _ => ?_
      exact hParams.bind fun _ _ => hBody.bind fun _ _ => succeeds_pure _
  case methodDefinition =>
    exact succeeds_methodDefinition hTree (hPrint (by simp) level) (hPrint (by simp) level)
  case property =>
    exact succeeds_property hTree (hPrint (by simp) level) (hPrint (by simp) level)
  case unary operator argument =>
    have hArgument : argument.isPrintable = true := (hParts argument (by simp)).1
    have hSpace : Succeeds (needsSpace operator argument) :=
      succeeds_needsSpace hArgument (by simpa [Node.isPrintable] using hTree)
    simp only [printAt]
    split
    · exact (hPrint (by simp) level).bind fun _ _ => succeeds_pure _
    · exact hSpace.bind fun _ _ => (hPrint (by simp) level).bind fun _ _ => succeeds_pure _
  case binary left _ right | logical left _ right =>
    have hLeft := succeeds_needsParens (hParts left (by simp)).1 hTree
    have hRight := succeeds_needsParens (hParts right (by simp)).1 hTree
    simp only [printAt]
    refine (hLeft _ _).bind fun _ _ => (hPrint (by simp) level).bind fun _ _ => ?_
    exact (hRight _ _).bind fun _ _ => (hPrint (by simp) level).bind fun _ _ => succeeds_pure _
  -- The shape of each remaining goal says which part is printed next.
  all_goals
    simp only [printAt]
    repeat' first
      | exact succeeds_ok _
      | exact succeeds_pure _
      | refine Succeeds.bind ?_ fun _ _ => ?_
      | exact hPrint (by simp) _
      | exact succeeds_printList fun _ h => hPrint (by simp [h]) _
      | exact succeeds_printLines fun _ h => hPrint (by simp [h]) _
      | exact succeeds_printOptional _ fun _ h => hPrint (by simp [h]) _
      | exact succeeds_printHoles fun _ h => hPrint (by simp [h]) _
      | exact succeeds_printTemplate (fun _ h => hPrint (by simp [h]) _) _

theorem isOk_literalText {lexicon : Lexicon} {value : Data} {raw : Option Text}
    {regex : Option (Text × Text)} (h : Node.IsLiteral lexicon value raw regex) :
    (literalText value raw regex).isOk = true := by
  cases h <;> rfl

/-- The nodes of a program that was read can be printed. -/
theorem isPrintable_of_proper {lexicon : Lexicon} {node : Node} (h : node.Proper lexicon) :
    node.isPrintable = true := by
  have hRanked : ∀ entry ∈ operatorRanks, (operatorRank? (Text.ofString entry.1)).isSome = true := by
    decide
  have hUnary : ∀ sign ∈ Grammar.unaryOperators, (!(Text.ofString sign).isEmpty) = true := by
    decide
  have hUpdate : ∀ sign ∈ Grammar.updateOperators, (!(Text.ofString sign).isEmpty) = true := by
    decide
  cases node
  case bare | templateElement => cases h
  case throwStatement | methodDefinition => exact h
  case property =>
    obtain ⟨hValue, -⟩ := h
    simp only [Node.isPrintable, Bool.or_eq_true, Bool.not_eq_true']
    grind
  case literal => exact isOk_literalText h
  case unary =>
    obtain ⟨sign, hSign, rfl⟩ := h
    exact hUnary sign hSign
  case update =>
    obtain ⟨sign, hSign, rfl⟩ := h
    exact hUpdate sign hSign
  case binary | logical =>
    obtain ⟨entry, hEntry, rfl⟩ := h
    exact hRanked entry hEntry
  all_goals rfl

/-- A tree of printable nodes has a text at every level. -/
theorem succeeds_printAt (h : tree.Printable) : Prints tree := by
  induction h with
  | mk hTree hParts ih =>
    exact prints_of_parts hTree fun part hPart => ⟨(hParts part hPart).here, ih part hPart⟩

end Print

end Assay
