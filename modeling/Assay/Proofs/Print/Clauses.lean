import Assay.Proofs.Concrete.Parsing
import Assay.Proofs.Print.Depth

/-!
# Clauses in the head of a loop

An operator `in` in the first clause of a loop would be read as that of a loop over keys, unless it
stands between brackets. `outer` lists what stands outside of brackets in the text of each node:
parts that get no parentheses, and the operator of a binary expression. A node exposes an operator
`in` if one is found by going down through such parts (`ExposesIn`), and `bareIn_clause` says that
just then one stands outside of all brackets that are counted in the text of the clause.
`Script.forClause_in_iff` is the result for the loops of a program: parentheses that a program has
around such an operator are lost unless its place asks for them.
-/

set_option autoImplicit false

namespace Assay

namespace Print

open Outcome

/-! ## What stands outside of brackets -/

/-- A part that stands outside of brackets unless it has parentheses of its own. -/
def bare (parens : Bool) (level : Nat) (node : Node) : List Stretch :=
  if parens then [] else [.part level node]

/-- Parts that stand outside of brackets. -/
def bareAll (level : Nat) (nodes : List Node) : List Stretch :=
  nodes.flatMap fun node => [.part level node]

/-- The body of a method. -/
def methodBody (level : Nat) : Node → List Stretch
  | .function _ _ _ _ body _ _ _ => [.part level body]
  | _ => []

/-- The parts and the operator that stand outside of brackets in the text of a node. -/
def outer (level : Nat) : Node → List Stretch
  | .program _ parts | .variableDeclaration _ _ parts => bareAll level parts
  | .expressionStatement _ part => bare (isAmbiguous level part) level part
  | .returnStatement _ part | .throwStatement _ part | .breakStatement _ part
  | .continueStatement _ part | .yieldExpression _ part _ => bareAll level part.toList
  | .labeledStatement _ first second | .metaProperty _ first second
  | .assignment _ first _ second | .assignmentPattern _ first second =>
    bareAll level [first, second]
  | .ifStatement _ _ consequent (some alternate) =>
    bare (!consequent.isBlock) level consequent ++ bareAll level [alternate]
  | .ifStatement _ _ part none | .whileStatement _ _ part | .doWhileStatement _ part _
  | .forStatement _ _ _ _ part | .forInStatement _ _ _ part | .forOfStatement _ _ _ part _
  | .catchClause _ _ part | .spreadElement _ part | .restElement _ part | .chain _ part =>
    bareAll level [part]
  | .switchCase _ test consequent =>
    bareAll level test.toList ++ bareAll (level + 1) consequent
  | .tryStatement _ block handler finalizer =>
    bareAll level (block :: handler.toList ++ finalizer.toList)
  | .variableDeclarator _ id init => bareAll level (id :: init.toList)
  | .function .arrow _ _ _ body _ _ isExpression => bare (isExpression && isObject body) level body
  | .function _ _ id _ body _ _ _ => bareAll level (id.toList ++ [body])
  | .classNode _ _ id superClass body =>
    bareAll level id.toList ++
      superClass.toList.flatMap (fun parent => bare (!isPlainSuper parent) level parent) ++
      bareAll level [body]
  | .methodDefinition _ key value _ computed _ => bare computed level key ++ methodBody level value
  | .propertyDefinition _ key value computed _ =>
    bare computed level key ++ bareAll level value.toList
  | .property _ key value kind computed shorthand method =>
    if kind == "get" || kind == "set" || method then
      bare computed level key ++ methodBody level value
    else if shorthand then bareAll level [value]
    else bare computed level key ++ bareAll level [value]
  | .unary _ _ part | .awaitExpression _ part => bare (precedence part < 15) level part
  | .update _ _ _ part => bare (precedence part < 19) level part
  | .binary _ left operator right =>
    bare (isEnclosed left 14 operator .left) level left ++ .lexeme (.operator operator) ::
      bare (isEnclosed right 14 operator .right) level right
  | .logical _ left operator right =>
    bare (isEnclosed left 13 operator .left) level left ++
      bare (isEnclosed right 13 operator .right) level right
  | .conditional _ test consequent alternate =>
    bare (precedence test = wrappedRank || precedence test ≤ 4) level test ++
      bareAll level [consequent, alternate]
  | .taggedTemplate _ tag quasi => bare (wrapsAsTarget tag) level tag ++ bareAll level [quasi]
  | .call _ callee _ _ => bare (wrapsAsTarget callee) level callee
  | .newExpression _ callee _ => bare (precedence callee < 19 || hasCall callee) level callee
  | .member _ object property computed _ =>
    bare (wrapsAsTarget object || isNumber object) level object ++ bare computed level property
  | _ => []

/-- An operator `in` of the node or of a node in it stands outside of brackets. -/
inductive ExposesIn : Nat → Node → Prop
  | operator {level : Nat} {node : Node} : .lexeme (.operator "in") ∈ outer level node →
      ExposesIn level node
  | part {level lower : Nat} {node part : Node} : .part lower part ∈ outer level node →
      ExposesIn lower part → ExposesIn level node

/-- The stretch is an operator `in`, or a part that exposes one. -/
def Stretch.ExposesIn : Stretch → Prop
  | .lexeme sign => sign = .operator "in"
  | .part level node => Print.ExposesIn level node

theorem exposesIn_iff {level : Nat} {node : Node} :
    ExposesIn level node ↔ ∃ stretch ∈ outer level node, stretch.ExposesIn := by
  constructor
  · rintro (hIn | ⟨hPart, hExposes⟩)
    · exact ⟨_, hIn, rfl⟩
    · exact ⟨_, hPart, hExposes⟩
  · rintro ⟨stretch, hStretch, hExposes⟩
    cases stretch with
    | lexeme sign =>
      obtain rfl : sign = .operator "in" := hExposes
      exact .operator hStretch
    | part lower part => exact .part hStretch hExposes

/-! ## Counting brackets -/

@[simp]
theorem shift_nil : shift [] = 0 := rfl

@[simp]
theorem shift_cons (lexeme : Lexeme) (rest : List Lexeme) :
    shift (lexeme :: rest) = lexeme.shift + shift rest := rfl

@[simp]
theorem shift_append (first second : List Lexeme) :
    shift (first ++ second) = shift first + shift second := by
  induction first with
  | nil => simp
  | cons lexeme rest ih => simp [ih, Int.add_assoc]

theorem bareIn_append {depth : Int} {first second : List Lexeme} :
    BareIn depth (first ++ second) ↔
      BareIn depth first ∨ BareIn (depth + shift first) second := by
  induction first generalizing depth with
  | nil => simp [BareIn]
  | cons lexeme rest ih => simp [BareIn, ih, or_assoc, Int.add_assoc]

/-- The operators among lexemes. -/
def Lexeme.isOperator : Lexeme → Bool
  | operator _ => true
  | _ => false

/-- What is shown at a depth. -/
def shownAt (depth : Int) (parts : List Stretch) : List Stretch := if depth = 0 then parts else []

/-- The parts and operators outside of brackets, if so many are open at the start and each bracket is
opened before it is closed, with none left open at the end. -/
def outside : Int → List Stretch → Option (List Stretch)
  | depth, [] => if depth = 0 then some [] else none
  | depth, .lexeme lexeme :: rest =>
    if depth + lexeme.shift < 0 then none
    else (shownAt depth (if lexeme.isOperator then [.lexeme lexeme] else []) ++ ·) <$>
      outside (depth + lexeme.shift) rest
  | depth, .part level node :: rest =>
    (shownAt depth [.part level node] ++ ·) <$> outside depth rest

/-- The lexemes of a node close all brackets that they open, and an operator `in` stands outside of
them just if the node exposes one. -/
structure Even (level : Nat) (node : Node) : Prop where
  shift : shift (lexemes level node) = 0
  bareIn : ∀ depth, 0 ≤ depth →
    (BareIn depth (lexemes level node) ↔ depth = 0 ∧ ExposesIn level node)

theorem even_laid {depth : Int} {parts shown : List Stretch} (hDepth : 0 ≤ depth)
    (h : outside depth parts = some shown)
    (hParts : ∀ level node, .part level node ∈ parts → Even level node) :
    shift (laid parts) = -depth ∧ ∀ base, 0 ≤ base →
      (BareIn (base + depth) (laid parts) ↔
        base = 0 ∧ ∃ stretch ∈ shown, stretch.ExposesIn) := by
  induction parts generalizing depth shown with
  | nil =>
    simp only [outside, Option.ite_none_right_eq_some, Option.some.injEq] at h
    obtain ⟨rfl, rfl⟩ := h
    simp [BareIn]
  | cons stretch rest ih =>
    have hRest (level : Nat) (node : Node) (hMem : .part level node ∈ rest) :=
      hParts level node (List.mem_cons_of_mem stretch hMem)
    cases stretch with
    | lexeme lexeme =>
      simp only [outside, Option.ite_none_left_eq_some, Option.map_eq_map,
        Option.map_eq_some_iff] at h
      obtain ⟨hShift, others, hOthers, rfl⟩ := h
      obtain ⟨hTotal, hBare⟩ := ih (by omega) hOthers hRest
      refine ⟨by simp only [laid_lexeme, shift_cons, hTotal]; omega, fun base hBase => ?_⟩
      have hZero : base + depth = 0 ↔ base = 0 ∧ depth = 0 := by omega
      rw [laid_lexeme, BareIn, Int.add_assoc, hBare base hBase, hZero]
      have hSign : (∃ stretch ∈ shownAt depth (if lexeme.isOperator then [.lexeme lexeme] else []),
          stretch.ExposesIn) ↔ depth = 0 ∧ lexeme = .operator "in" := by
        cases lexeme <;> by_cases hZero : depth = 0 <;>
          simp [shownAt, hZero, Lexeme.isOperator, Stretch.ExposesIn]
      simp only [List.mem_append, or_and_right, exists_or, hSign]
      rw [and_or_left, and_assoc]
    | part level node =>
      simp only [outside, Option.map_eq_map, Option.map_eq_some_iff] at h
      obtain ⟨others, hOthers, rfl⟩ := h
      obtain ⟨hTotal, hBare⟩ := ih hDepth hOthers hRest
      have hPart := hParts level node List.mem_cons_self
      refine ⟨by simp [hTotal, hPart.shift], fun base hBase => ?_⟩
      have hZero : base + depth = 0 ↔ base = 0 ∧ depth = 0 := by omega
      rw [laid_part, bareIn_append, hPart.shift, Int.add_zero, hBare base hBase,
        hPart.bareIn _ (by omega), hZero]
      have hShown : (∃ stretch ∈ shownAt depth [.part level node], stretch.ExposesIn) ↔
          depth = 0 ∧ ExposesIn level node := by
        by_cases hZero : depth = 0 <;> simp [shownAt, hZero, Stretch.ExposesIn]
      simp only [List.mem_append, or_and_right, exists_or, hShown]
      rw [and_or_left, and_assoc]

/-! ## Tokens of the printer -/

namespace Lexeme

theorem opened_append (first second : Text) :
    opened (first ++ second) = opened first + opened second := by
  simp only [opened, List.countP_append]
  omega

@[simp]
theorem opened_indent (level : Nat) : opened (indent level) = 0 := by
  have hBlank : ∀ c ∈ indent level, c = ' ' := fun c hC => by
    unfold indent Text.fill at hC
    exact List.eq_of_mem_replicate hC
  have hNone (set : String) (hSet : (Text.ofString set).contains ' ' = false) :
      (indent level).countP (Text.ofString set).contains = 0 := by
    rw [List.countP_eq_zero]
    intro c hC
    rw [hBlank c hC, hSet]
    simp
  simp only [opened, hNone "([\x7b" (by decide), hNone ")]\x7d" (by decide)]
  rfl

@[simp]
theorem opened_closingComma {α : Type} (items : List (Option α)) :
    opened (closingComma items) = 0 := by
  unfold closingComma
  split <;> decide

@[simp]
theorem opened_functionLead (isAsync isGenerator : Bool) :
    opened (functionLead isAsync isGenerator) = 0 := by
  revert isAsync isGenerator
  decide

@[simp]
theorem opened_staticLead (isStatic : Bool) : opened (staticLead isStatic) = 0 := by
  revert isStatic
  decide

@[simp]
theorem opened_accessorLead (kind : Text) : opened (accessorLead kind) = 0 := by
  unfold accessorLead
  split
  next h =>
    simp only [Bool.or_eq_true, beq_iff_eq] at h
    obtain rfl | rfl := h <;> decide
  next => rfl

@[simp]
theorem opened_methodWords (value : Node) : opened (methodWords value) = 0 := by
  have hLead : ∀ isAsync isGenerator, opened (methodLead isAsync isGenerator) = 0 := by decide
  unfold methodWords
  split
  · exact hLead _ _
  · rfl

theorem opened_signs : ∀ token ∈ ["", " ", ";", ",", ", ", "\n", ":", ": ", ".", "?.", "...", " = ",
    " ? ", " : ", "\x7b\x7d"], opened (Text.ofString token) = 0 := by
  decide

theorem opened_statementWords : ∀ token ∈ ["static ", "debugger;", "return;", "return ", "throw ",
    "break;", "break ", "continue;", "continue ", " else ", "case ", "default:", "do ", "try ",
    " finally ", "catch ", "for", "for await", " in ", " of "],
    opened (Text.ofString token) = 0 := by
  decide

theorem opened_words : ∀ token ∈ ["class", " extends ", "new ", "await ", "yield", "yield*", "this",
    "super", "async "], opened (Text.ofString token) = 0 := by
  decide

/-- The tokens that open a bracket. -/
theorem opened_opening : ∀ token ∈ ["(", "[", "\x7b", "\x7b\n", "?.(", "?.[", "if (", "switch (",
    "while (", " while (", "for (", " (", "catch ("], opened (Text.ofString token) = 1 := by
  decide

/-- The tokens that close a bracket. -/
theorem opened_closing : ∀ token ∈ [")", "]", "\x7d", ") ", ");", ") => "],
    opened (Text.ofString token) = -1 := by
  decide

end Lexeme

/-! ## Runs of stretches -/

/-- Stretches that close all brackets they open, and what stands outside of these. -/
abbrev Run (parts shown : List Stretch) : Prop :=
  ∀ depth rest, 0 ≤ depth →
    outside depth (parts ++ rest) = (shownAt depth shown ++ ·) <$> outside depth rest

namespace Run

variable {parts shown others more : List Stretch} {level : Nat} {node : Node} {t : Text}

theorem nil : Run [] [] := fun depth rest _ => by
  simp [shownAt]

theorem append (h : Run parts shown) (hMore : Run others more) :
    Run (parts ++ others) (shown ++ more) := fun depth rest hDepth => by
  rw [List.append_assoc, h depth _ hDepth, hMore depth rest hDepth]
  by_cases hZero : depth = 0 <;> simp [shownAt, hZero, Function.comp_def]

theorem part (level : Nat) (node : Node) : Run [.part level node] [.part level node] :=
  fun _ _ _ => rfl

theorem own (h : Lexeme.opened t = 0) : Run [.own t] [] := fun depth rest hDepth => by
  simp [outside, Lexeme.shift, h, Int.not_lt.2 hDepth, Lexeme.isOperator, shownAt]

theorem spelled (t : Text) : Run [.lexeme (.spelled t)] [] := fun depth rest hDepth => by
  simp [outside, Lexeme.shift, Int.not_lt.2 hDepth, Lexeme.isOperator, shownAt]

/-- Nothing between two brackets stands outside of them. -/
theorem group (first last : Text) (hFirst : Lexeme.opened first = 1)
    (hLast : Lexeme.opened last = -1) (h : Run parts shown) :
    Run (Stretch.own first :: parts ++ [Stretch.own last]) [] := by
  intro depth rest hDepth
  have hInside : 0 ≤ depth + 1 := by omega
  have hNone : depth + 1 ≠ 0 := by omega
  have hBack : depth + 1 + -1 = depth := by omega
  simp only [List.cons_append, List.append_assoc, outside, Lexeme.shift, hFirst,
    Int.not_lt.2 hInside]
  rw [h _ _ hInside]
  simp [outside, Lexeme.shift, hLast, hBack, Int.not_lt.2 hDepth, Lexeme.isOperator, shownAt, hNone]

theorem parenthesized (parens : Bool) (level : Nat) (node : Node) :
    Run (parenthesized parens level node) (bare parens level node) := by
  cases parens with
  | false => exact part level node
  | true => exact group "(" ")" (by decide) (by decide) (part level node)

/-- A separator behind the first of several items. -/
theorem cons {separator : Text} (hSeparator : Lexeme.opened separator = 0) {item : List Segment}
    {items : List (List Segment)} (h : Run (item.flatMap Segment.stretches) shown)
    (hItems : Run ((Print.series separator items).flatMap Segment.stretches) more) :
    Run ((Print.series separator (item :: items)).flatMap Segment.stretches) (shown ++ more) := by
  rw [series_cons, List.flatMap_append]
  refine append h ?_
  cases items with
  | nil => exact hItems
  | cons next items =>
    have hRest := append (own hSeparator) hItems
    exact hRest

/-- Items with a separator between them. -/
theorem series {α : Type} {separator : Text} (hSeparator : Lexeme.opened separator = 0)
    (f : α → List Segment) (g : α → List Stretch) (items : List α)
    (h : ∀ item, Run ((f item).flatMap Segment.stretches) (g item)) :
    Run ((Print.series separator (items.map f)).flatMap Segment.stretches) (items.flatMap g) := by
  induction items with
  | nil => exact nil
  | cons item items ih => exact cons hSeparator (h item) ih

theorem lines {separator : Text} (hSeparator : Lexeme.opened separator = 0) (level : Nat)
    (nodes : List Node) :
    Run ((Print.series separator (nodes.map (line level))).flatMap Segment.stretches)
      (bareAll level nodes) :=
  series hSeparator (line level) (fun node => [.part level node]) nodes fun node =>
    append (own (Lexeme.opened_indent level)) (part level node)

theorem listed (level : Nat) (nodes : List Node) :
    Run (listed level nodes) (bareAll level nodes) := by
  rw [← stretches_items]
  exact series (by decide) (item level) (fun node => [.part level node]) nodes (part level)

theorem elements (level : Nat) (nodes : List (Option Node)) :
    Run ((Print.series ", " (nodes.map (element level))).flatMap Segment.stretches)
      (nodes.flatMap fun node => bareAll level node.toList) :=
  series (by decide) (element level) _ nodes fun node => by
    cases node with
    | none => exact nil
    | some node => exact part level node

/-- Lines between braces. -/
theorem enclosed {separator : Text} (hSeparator : Lexeme.opened separator = 0) (level : Nat)
    (nodes : List Node) :
    Run ((Print.enclosed level separator (nodes.map (line (level + 1)))).flatMap Segment.stretches)
      [] := by
  cases nodes with
  | nil => exact own (by decide)
  | cons node nodes =>
    have hBreak : Lexeme.opened (separator ++ "\n") = 0 := by
      rw [Lexeme.opened_append, hSeparator]
      decide
    have hEnd : Run [.own "\n", .own (indent level)] [] :=
      append (own (by decide)) (own (Lexeme.opened_indent level))
    have hLines := group "\x7b\n" "\x7d" (by decide) (by decide)
      (append (lines hBreak (level + 1) (node :: nodes)) hEnd)
    simpa [Print.enclosed, List.flatMap_append, Segment.stretches] using hLines

theorem optional {lead : Text} (hLead : Lexeme.opened lead = 0) (level : Nat) (part : Option Node) :
    Run ((Print.optional level lead part).flatMap Segment.stretches)
      (bareAll level part.toList) := by
  cases part with
  | none => exact nil
  | some node =>
    have hSome := append (own hLead) (.part level node)
    exact hSome

theorem key (computed : Bool) (level : Nat) (node : Node) :
    Run ((keySegments level computed node).flatMap Segment.stretches)
      (bare computed level node) := by
  cases computed with
  | false => exact part level node
  | true => exact group "[" "]" (by decide) (by decide) (part level node)

end Run

/-- What stands outside of brackets of a part in its setting. -/
def Setting.shown (level : Nat) (node : Node) : Setting → List Stretch
  | .plain => [.part level node]
  | .wrapped parens => bare (parens (outline node) (hints node)) level node
  | .operand parent operator side => bare (isEnclosed node parent operator side) level node
  | .argument _ => bare (precedence node < 15) level node
  | .statement => bare (isAmbiguous level node) level node
  | .head =>
    match node with
    | .variableDeclaration _ _ declarations => bareAll level declarations
    | node => [.part level node]
  | .arm => bare (!node.isBlock) level node
  | .method => []

theorem Run.setting {setting : Setting} (h : setting ≠ .method) (level : Nat) (node : Node) :
    Run (setting.stretches level node) (setting.shown level node) := by
  cases setting with
  | plain => exact part level node
  | wrapped parens => exact parenthesized _ level node
  | operand parent operator side => exact parenthesized _ level node
  | argument operator =>
    have hSpace :
        Lexeme.opened (Text.ofString (if isSpaced operator node then " " else "")) = 0 := by
      split <;> decide
    have hArgument := append (own hSpace) (parenthesized (precedence node < 15) level node)
    exact hArgument
  | statement =>
    have hEnd : Run [.own ";"] [] := own (by decide)
    have hStatement := append (parenthesized (isAmbiguous level node) level node) hEnd
    rwa [List.append_nil] at hStatement
  | head =>
    cases node
    case variableDeclaration kind declarations =>
      have hBlank : Run [.own " "] [] := own (by decide)
      have hHead := append (append (spelled kind) hBlank) (listed level declarations)
      exact hHead
    all_goals exact part level _
  | arm =>
    cases hBlock : node.isBlock with
    | true =>
      simp only [Setting.stretches, Setting.shown, hBlock]
      exact part level node
    | false =>
      have hFirst : Run [.own (indent (level + 1))] [] := own (Lexeme.opened_indent (level + 1))
      have hLast : Run [.own "\n", .own (indent level)] [] :=
        append (own (by decide)) (own (Lexeme.opened_indent level))
      simp only [Setting.stretches, Setting.shown, hBlock]
      exact group "\x7b\n" "\x7d" (by decide) (by decide)
        (append (append hFirst (part (level + 1) node)) hLast)
  | method => exact absurd rfl h

/-- A method closes the bracket that is open before its parameters. -/
theorem outside_method (level : Nat) (node : Node) (rest : List Stretch) :
    outside 1 (Setting.method.stretches level node ++ rest) =
      (methodBody level node ++ ·) <$> outside 0 rest := by
  have hTail : Lexeme.opened ") " = -1 := by decide
  have hEnd : Lexeme.opened ")" = -1 := by decide
  cases node
  case function =>
    simp [Setting.stretches, Run.listed, outside, Lexeme.shift, hTail, shownAt, methodBody]
  all_goals simp [Setting.stretches, outside, Lexeme.shift, hEnd, shownAt, methodBody]

namespace Run

theorem argument (level : Nat) (part : Option Node) :
    Run ((part.elim [] (item level)).flatMap Segment.stretches) (bareAll level part.toList) := by
  cases part with
  | none => exact nil
  | some node => exact part level node

theorem init (level : Nat) (part : Option Node) :
    Run ((part.elim [] fun node => [Segment.part .head level node]).flatMap Segment.stretches)
      (part.toList.flatMap fun node => Setting.head.shown level node) := by
  cases part with
  | none => exact nil
  | some node =>
    have hHead : Run (Setting.head.stretches level node) (Setting.head.shown level node) :=
      setting (by simp) level node
    simpa [Segment.stretches] using hHead

theorem superClass (level : Nat) (part : Option Node) :
    Run ((part.elim [] fun parent => [Segment.token " extends ",
        .part (.wrapped .parent) level parent]).flatMap Segment.stretches)
      (part.toList.flatMap fun parent => bare (!isPlainSuper parent) level parent) := by
  cases part with
  | none => exact nil
  | some parent =>
    have hExtends : Run [.own " extends "] [] := own (by decide)
    have hParent := append hExtends (parenthesized (!isPlainSuper parent) level parent)
    simpa [Segment.stretches, Setting.stretches] using hParent

end Run

section Nodes

attribute [local simp] stretches segments Segment.stretches item headSegments methodSegments outer
  outside outside_method Setting.shown stretches_items Lexeme.shift Lexeme.isOperator shownAt bareAll
  Run.setting Run.listed
  Run.lines Run.enclosed Run.optional Run.key Run.elements Run.argument Run.superClass Run.init

/-- What stands outside of brackets in the text of a node is what `outer` lists. -/
theorem outside_stretches (level : Nat) (node : Node) {rest shown : List Stretch}
    (hRest : outside 0 rest = some shown) :
    outside 0 (stretches level node ++ rest) = some (outer level node ++ shown) := by
  have hSigns := Lexeme.opened_signs
  have hStatements := Lexeme.opened_statementWords
  have hWords := Lexeme.opened_words
  have hOpening := Lexeme.opened_opening
  have hClosing := Lexeme.opened_closing
  simp only [List.forall_mem_cons] at hSigns hStatements hWords hOpening hClosing
  cases node
  case returnStatement part | breakStatement part | continueStatement part =>
    cases part <;> simp [hStatements, hSigns, hRest]
  case ifStatement alternate =>
    cases alternate <;> simp [hStatements, hOpening, hClosing, hRest]
  case switchCase test consequent =>
    have hCase (first : List Segment) (ahead : List Stretch)
        (h : Run (first.flatMap Segment.stretches) ahead) :
        outside 0 ((series "\n" (first :: consequent.map (line (level + 1)))).flatMap
          Segment.stretches ++ rest) = some (ahead ++ bareAll (level + 1) consequent ++ shown) := by
      have hBreak : Lexeme.opened "\n" = 0 := by decide
      have hLines := Run.cons hBreak h (.lines hBreak (level + 1) consequent)
      rw [hLines 0 rest (Int.le_refl 0), hRest]
      rfl
    cases test with
    | none => exact hCase [.token "default:"] [] (.own (by decide))
    | some test =>
      have hWord : Run [.own "case "] [] := .own (by decide)
      have hTest := hWord.append (.append (.part level test) (.own (t := ":") (by decide)))
      exact hCase [.token "case ", .part .plain level test, .token ":"] _ hTest
  case catchClause param _ =>
    cases param <;> simp [hStatements, hOpening, hClosing, hRest]
  case forOfStatement isAwait =>
    cases isAwait <;> simp [hStatements, hOpening, hClosing, hRest]
  case variableDeclarator init =>
    cases init <;> simp [hSigns, hRest]
  case function form _ _ _ _ isAsync _ _ =>
    cases form <;> cases isAsync <;> simp [hSigns, hWords, hOpening, hClosing, hRest]
  case property span key value kind computed shorthand method =>
    have hStretches : stretches level (.property span key value kind computed shorthand method) =
      (segments level (.property span key value kind computed shorthand method)).flatMap
        Segment.stretches := rfl
    by_cases hKind : (kind == "get" || kind == "set" || method) = true
    · rw [hStretches, segments, outer, if_pos hKind, if_pos hKind]
      simp [hOpening, hRest]
    · rw [hStretches, segments, outer, if_neg hKind, if_neg hKind]
      cases shorthand <;> simp [hSigns, hRest]
  case yieldExpression delegate => cases delegate <;> simp [hSigns, hWords, hRest]
  case update leading _ => cases leading <;> simp [hRest]
  case member computed optional =>
    cases computed <;> cases optional <;> simp [hSigns, hOpening, hClosing, hRest, bare]
  case call optional => cases optional <;> simp [hOpening, hClosing, hRest]
  all_goals simp [hSigns, hStatements, hWords, hOpening, hClosing, hRest]

end Nodes

theorem even (level : Nat) (node : Node) : Even level node := by
  have hParts (lower : Nat) (part : Node) (hMem : .part lower part ∈ stretches level node) :
      Even lower part :=
    even lower part
  have hOutside : outside 0 (stretches level node) = some (outer level node) := by
    simpa using outside_stretches level node (show outside 0 [] = some [] from rfl)
  obtain ⟨hShift, hBare⟩ := even_laid (Int.le_refl 0) hOutside hParts
  rw [← lexemes_eq] at hShift hBare
  refine ⟨hShift, fun depth hDepth => ?_⟩
  rw [exposesIn_iff, ← hBare depth hDepth, Int.add_zero]
termination_by sizeOf node
decreasing_by exact sizeOf_lt_of_mem_stretches hMem

/-- The lexemes of a clause in the head of a loop. -/
def clause (level : Nat) (init : Node) : List Lexeme := laid (Setting.head.stretches level init)

theorem texts_clause {level : Nat} {init : Node} {t : Text} (h : printAt level init = .ok t) :
    texts (clause level init) = loopHead init t := by
  refine Setting.texts_stretches (told init) (fun part _ => told part) ?_
  simp [Setting.write, h]

theorem bareIn_clause (level : Nat) (init : Node) :
    BareIn 0 (clause level init) ↔ ExposesIn level init := by
  have hRun : Run (Setting.head.stretches level init) (Setting.head.shown level init) :=
    .setting (by simp) level init
  have hHead : outside 0 (Setting.head.stretches level init) =
      some (Setting.head.shown level init) := by
    simpa [outside, shownAt] using hRun 0 [] (Int.le_refl 0)
  obtain ⟨-, hBare⟩ := even_laid (Int.le_refl 0) hHead fun lower part _ => even lower part
  have hShown : (∃ stretch ∈ Setting.head.shown level init, stretch.ExposesIn) ↔
      ExposesIn level init := by
    simp only [Setting.shown]
    split
    · rw [exposesIn_iff]
      rfl
    · simp [Stretch.ExposesIn]
  simpa [clause, hShown] using hBare 0 (Int.le_refl 0)

/-- The text of a loop starts with that of its first clause. -/
theorem exists_forClause {level : Nat} {span : Span} {init body : Node} {test step : Option Node}
    {text : Text} (h : printAt level (.forStatement span (some init) test step body) = .ok text) :
    ∃ t rest, printAt level init = .ok t ∧
      text = "for (" ++ loopHead init t ++ ";" ++ rest := by
  simp only [printAt, printOptional, bind_eq_ok, pure_eq_ok] at h
  obtain ⟨initText, ⟨t, hInit, rfl⟩, testText, -, stepText, -, bodyText, -, rfl⟩ := h
  refine ⟨t, testText ++ ";" ++ stepText ++ ") " ++ bodyText, hInit, ?_⟩
  simp [Text.ofString]

end Print

open Print

/-- In a program each clause that opens the head of a loop is printed as its lexemes, and among these
an operator `in` stands outside of all brackets just if the clause exposes one. -/
theorem Script.forClause_in_iff {script : Script} {program : Node}
    (hGrammar : script.isGrammatical = true) (hParse : script.parse = .ok program) :
    program.Every fun node => ∀ span init test step body,
      node = .forStatement span (some init) test step body → ∀ level, ∃ t rest,
        printAt level init = .ok t ∧
        printAt level node = .ok ("for (" ++ loopHead init t ++ ";" ++ rest) ∧
        texts (clause level init) = loopHead init t ∧
        (BareIn 0 (clause level init) ↔ ExposesIn level init) := by
  have hFits := (script.parse_fits hGrammar script.isSpelled_any hParse).1
  refine hFits.nested.imp ?_
  rintro node hNode span init test step body rfl level
  obtain ⟨text, hText⟩ :=
    succeeds_printAt (hNode.imp fun _ h => isPrintable_of_proper h.proper) level
  obtain ⟨t, rest, hInit, rfl⟩ := exists_forClause hText
  exact ⟨t, rest, hInit, hText, texts_clause hInit, bareIn_clause level init⟩

namespace Script

/-- The program `for (let i = (a in b) ? c : d;;) e;`. -/
def testedInit : Script where
  code := "for (let i = (a in b) ? c : d;;) e;"
  tree :=
    .part .program 0 35 "" [.part .forStatement 0 35 ""
      [.token 0 3 "for" "", .token 4 5 "(" "",
       .part .lexicalDeclaration 5 30 "initializer"
        [.token 5 8 "let" "kind",
         .part .variableDeclarator 9 29 ""
          [.part .identifier 9 10 "name" [], .token 11 12 "=" "",
           .part .ternaryExpression 13 29 "value"
            [.part .parenthesizedExpression 13 21 "condition"
              [.token 13 14 "(" "",
               .part .binaryExpression 14 20 ""
                [.part .identifier 14 15 "left" [], .token 16 18 "in" "operator",
                 .part .identifier 19 20 "right" []],
               .token 20 21 ")" ""],
             .token 22 23 "?" "", .part .identifier 24 25 "consequence" [], .token 26 27 ":" "",
             .part .identifier 28 29 "alternative" []]],
         .token 29 30 ";" ""],
       .part .emptyStatement 30 31 "condition" [.token 30 31 ";" ""], .token 31 32 ")" "",
       .part .expressionStatement 33 35 "body" [.part .identifier 33 34 "" [], .token 34 35 ";" ""]]]

/-- The declaration in `for (let i = (a in b) ? c : d;;) e;`. -/
def testedInitClause : Node :=
  .variableDeclaration (.between 5 30) "let" [.variableDeclarator (.between 9 29)
    (.identifier (.between 9 10) "i") (some (.conditional (.between 13 29)
      (.binary (.between 14 20) (.identifier (.between 14 15) "a") "in"
        (.identifier (.between 19 20) "b"))
      (.identifier (.between 24 25) "c") (.identifier (.between 28 29) "d")))]

/-- The syntax tree of `for (let i = (a in b) ? c : d;;) e;`. -/
def testedInitTree : Node :=
  .program (.between 0 35) [.forStatement (.between 0 35) (some testedInitClause) none none
    (.expressionStatement (.between 33 35) (.identifier (.between 33 34) "e"))]

/-- The test of the conditional expression loses its parentheses, and so does the clause. -/
theorem forClause_in_iff_testedInit :
    testedInit.isGrammatical = true ∧ testedInit.parse = .ok testedInitTree ∧
      ∃ t, printAt 0 testedInitClause = .ok t ∧
        texts (clause 0 testedInitClause) = loopHead testedInitClause t ∧
        BareIn 0 (clause 0 testedInitClause) := by
  have hGrammar : testedInit.isGrammatical = true := by decide
  have hParse : testedInit.parse = .ok testedInitTree := rfl
  have hLoop := ((forClause_in_iff hGrammar hParse).part (List.mem_singleton_self _)).here
  obtain ⟨t, -, hInit, -, hTexts, hBare⟩ := hLoop _ _ _ _ _ rfl 0
  refine ⟨hGrammar, hParse, t, hInit, hTexts, hBare.2 ?_⟩
  -- the way down: the declarator, its value, the test, the operator
  refine .part (List.mem_singleton_self _)
    (.part (List.mem_cons_of_mem _ (List.mem_singleton_self _)) ?_)
  refine .part (show Stretch.part 0 (.binary _ _ _ _) ∈ _ from List.mem_cons_self) (.operator ?_)
  exact List.mem_cons_of_mem _ List.mem_cons_self

/-- The program `for (let i = (a in b); ; ) c;`. -/
def enclosedIn : Script where
  code := "for (let i = (a in b); ; ) c;"
  tree :=
    .part .program 0 29 "" [.part .forStatement 0 29 ""
      [.token 0 3 "for" "", .token 4 5 "(" "",
       .part .lexicalDeclaration 5 22 "initializer"
        [.token 5 8 "let" "kind",
         .part .variableDeclarator 9 21 ""
          [.part .identifier 9 10 "name" [], .token 11 12 "=" "",
           .part .parenthesizedExpression 13 21 "value"
            [.token 13 14 "(" "",
             .part .binaryExpression 14 20 ""
              [.part .identifier 14 15 "left" [], .token 16 18 "in" "operator",
               .part .identifier 19 20 "right" []],
             .token 20 21 ")" ""]],
         .token 21 22 ";" ""],
       .part .emptyStatement 23 24 "condition" [.token 23 24 ";" ""], .token 25 26 ")" "",
       .part .expressionStatement 27 29 "body" [.part .identifier 27 28 "" [], .token 28 29 ";" ""]]]

/-- The parentheses that the clause needs are lost. -/
theorem print_enclosedIn :
    enclosedIn.parse.toOption.map Node.print = some (.ok "for (let i = a in b;;) c;") := rfl

end Script

end Assay
