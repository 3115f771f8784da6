import Assay.Proofs.Concrete.Readings
import Assay.Proofs.Outcome

/-!
# Parsed trees are well-formed

Every node of a tree that was read from a grammatical program fits. That its parts may stand in their
places follows from what readers put together (`Node.framable_fits`), and `Lower.linkAt_proper` says
what is left for the node itself. `Script.parse_fits` is the statement for a program.
-/

set_option autoImplicit false

namespace Assay

variable {node : Node} {source : Source} {code : Text} {lexicon : Lexicon}

/-! ## Frames -/

namespace Node

/-- All nodes of a tree fit if its root does and its parts do. -/
theorem every_fits {tree : Node} (hWithin : tree.span.Within code.length)
    (hParts : tree.Composed (Loose code lexicon) (Every (Fits lexicon code.length)))
    (hProper : tree.Proper lexicon) : tree.Every (Fits lexicon code.length) := by
  obtain ⟨hLoose, hPlaced⟩ := hParts
  refine ⟨⟨hWithin, fun part hPart => (hLoose part hPart).free, fun part hPart => ?_, hProper⟩,
    fun part hPart => ?_⟩
  · rcases hPlaced part hPart with hFree | ⟨-, hKind⟩
    · exact .inr hFree.free
    · exact .inl hKind
  · rcases List.mem_append.1 hPart with hPart | hPart
    · exact (hLoose part hPart).fits
    · exact (hPlaced part hPart).elim Loose.fits And.left

theorem isName_of_isSpelled {shape : Shape} (hName : shape.form.isName = true)
    (hSpelled : shape.isSpelled lexicon source = true) {name : Text}
    (hText : source.textOf shape = .ok name) :
    lexicon.isName name = true ∧ (shape.form.keepers?.isSome || lexicon.isVariable name) = true := by
  simp only [Shape.isSpelled, hText, hName, Bool.not_true, Bool.false_or, Bool.and_eq_true]
    at hSpelled
  exact ⟨hSpelled.1.1.1, hSpelled.1.1.2⟩

theorem proper_of_matches {shape : Shape} (h : node.kind ∈ shape.frames)
    (hMatches : node.Matches source shape) (hSpelled : shape.isSpelled lexicon source = true) :
    node.Proper lexicon := by
  have hKind := frames_subset _ h
  cases node
  case identifier => exact (isName_of_isSpelled hMatches.1 hSpelled hMatches.2).1
  case methodDefinition | property => exact hMatches
  case bare category _ => cases category <;> simp [kind, Category.kind] at hKind
  case function form _ _ _ _ _ _ _ => cases form <;> simp [kind, FunctionForm.kind] at hKind
  all_goals trivial

theorem proper_of_joins {first last : Shape} (h : node.Joins first last)
    (hMatches : node.Matches source first) : node.Proper lexicon := by
  unfold Joins at h
  split at h
  · trivial
  · intro name hName
    have hNone : _ = none := hMatches
    rw [hNone] at hName
    cases hName
  · cases h

/-- What is put around the parts of a grammatical construct fits. -/
theorem framable_fits : Framable (Source.ofText code) (Reading.Formed code lexicon)
    (Parts.Formed code lexicon) (Loose code lexicon) (Every (Fits lexicon code.length)) where
  whole h := h.parts
  part h := h.each
  place h hSpan hKind hMatches hParts :=
    every_fits (Source.within_of_spanOf h.covers hSpan) hParts
      (proper_of_matches hKind hMatches h.spelled)
  join h hRoles hFirst hLast hJoins hMatches hSpan hParts :=
    every_fits (Source.within_of_span (h.formed_of_find? hFirst).covers.start_nonneg
      (h.start_le_stop hRoles hFirst hLast) (h.formed_of_find? hLast).covers.stop_le hSpan) hParts
      (proper_of_joins hJoins hMatches)
  loosen h hFree := ⟨hFree, h⟩
  release _ h part hPart :=
    ⟨h.fits.here.loose part hPart, h.fits.part (List.mem_append_left _ hPart)⟩

end Node

/-! ## Kinds -/

/-- The kinds of nodes that have nothing to be proper about. -/
def Kind.isPlain (kind : Kind) : Bool :=
  !([Kind.anyNode, .anyStatement, .anyDeclaration, .anyExpression, .anyPattern, .anyFunction,
    .templateElement, .throwStatement, .labeledStatement, .ifStatement, .whileStatement,
    .doWhileStatement, .forStatement, FunctionForm.declaration.kind, FunctionForm.expression.kind,
    FunctionForm.arrow.kind, .methodDefinition, .property, .identifier, .literal, .templateLiteral,
    .taggedTemplateExpression, .unaryExpression, .updateExpression, .binaryExpression,
    .logicalExpression, .chainExpression, .sequenceExpression].contains kind)

/-- The kinds of nodes that may be loose parts. -/
def Kind.isFree (kind : Kind) : Bool :=
  !([Kind.anyNode, .anyStatement, .anyDeclaration, .anyExpression, .anyPattern, .anyFunction,
    .program, .staticBlock, .switchCase, .catchClause, .variableDeclarator, .classBody,
    .methodDefinition, .propertyDefinition, .templateElement, .property].contains kind)

theorem Form.kinds_spec (form : Form) : ∀ kind ∈ form.kinds,
    (form = .program ∧ kind = .program ∨ kind.isFree = true) ∧
      (form.isName = true ↔ kind = .identifier) ∧
      (form = .templateString ↔ kind = .templateLiteral) := by
  cases form
  case other => simp [kinds]
  all_goals decide

namespace Node

theorem proper_of_isPlain (h : node.kind.isPlain = true) : node.Proper lexicon := by
  cases node
  case bare category _ => cases category <;> cases h
  case function form _ _ _ _ _ _ _ => cases form <;> cases h
  all_goals trivial

theorem flags_eq_kind (node : Node) : node.isFree = node.kind.isFree ∧
    node.isName = decide (node.kind = .identifier) ∧
    node.isTemplate = decide (node.kind = .templateLiteral) := by
  cases node
  case' function form _ _ _ _ _ _ _ | classNode form _ _ _ _ => cases form
  case' bare category _ => cases category
  all_goals exact ⟨rfl, rfl, rfl⟩

theorem isTest_of_kind (h : node.kind ≠ .identifier) : node.isTest lexicon = true := by
  cases node
  case identifier => exact absurd rfl h
  all_goals rfl

/-- What is read at a form suits it, if a name may stand as a test where it has to. -/
theorem suits_of_kind {form : Form} (h : node.kind ∈ form.kinds)
    (hTest : form.isName = true → (form.keepers?.isSome || node.isTest lexicon) = true) :
    form.suits lexicon node = true := by
  obtain ⟨hFree, hName, hTemplate⟩ := Form.kinds_spec form _ h
  obtain ⟨hIsFree, hIsName, hIsTemplate⟩ := node.flags_eq_kind
  simp only [Form.suits, hIsFree, hIsName, hIsTemplate, Bool.and_eq_true]
  refine ⟨⟨⟨by simpa using hFree, ?_⟩, ?_⟩, ?_⟩
  · cases hForm : form.isName
    · rfl
    · simpa using hName.1 hForm
  · cases hForm : form.isName
    · rw [isTest_of_kind fun hKind => by simp [hName.2 hKind] at hForm, Bool.or_true]
    · exact hTest hForm
  · by_cases hForm : form = .templateString
    · simpa [hForm] using hTemplate.1 hForm
    · simp [hForm]

end Node

namespace Lower

open Parts

variable {shape : Shape} {span : Span} {parts : Parts}

theorem loopClause_isTest (h : Parts.Formed code lexicon shape parts)
    (hForm : shape.form.keepsNames = false) (field : String) :
    (loopClause parts field).Gives fun part => ∀ tree ∈ part, tree.isTest lexicon = true := by
  unfold loopClause
  split
  · simp
  · rename_i r hFind
    split
    · simp
    · split
      · rename_i hStatement
        have hKeeps : r.shape.form.keepsNames = false := by
          rw [show r.shape.form = .expressionStatement from hStatement]
          rfl
        exact ((h.formed_of_find? hFind).parts.isTest_operand hKeeps).bind
          fun tree hTree => by simpa using hTree
      · rw [Read.gives_bind]
        intro tree hTree
        simpa using h.isTest_of_mem hForm (mem_of_find? hFind).1 hTree

theorem function_proper (h : Parts.Formed code lexicon shape parts)
    (hForm : shape.form.nameRole? = some "name") (form : FunctionForm) :
    (function form span parts).Gives (Node.Proper lexicon) := by
  have hName : (parts.node? "name").Gives fun id => ∀ name ∈ id, name.isName = true := by
    unfold Parts.node?
    split
    · rename_i r hFind
      rw [Read.gives_bind]
      intro tree hTree
      simpa using h.isName_node hForm hFind hTree
    · simp
  refine hName.bind fun id hId => .skip fun head => ?_
  refine .skip fun params => .skip fun body => ?_
  exact .pure hId

theorem arrow_proper : (arrow span parts).Gives (Node.Proper lexicon) := by
  unfold arrow
  dsimp only
  split <;> simp only [Read.gives_bind, Read.gives_pure] <;> intros <;> simp [Node.Proper]

theorem call_proper (h : Parts.Formed code lexicon shape parts) :
    (call (Source.ofText code) span parts).Gives (Node.Proper lexicon) := by
  refine .skip fun callee => ?_
  split
  · exact Read.gives_refuse _ _ _
  refine (gives_get_find? "arguments").bind fun arguments hFind => ?_
  split
  · rename_i hForm
    have hForm : arguments.shape.form = .templateString := hForm
    refine .skip fun tag => ?_
    refine (h.formed_of_find? hFind).node.bind fun quasi hQuasi => .pure ?_
    have hSuits := hQuasi.suits
    simp only [Form.suits, hForm, bne_self_eq_false, Bool.false_or, Bool.and_eq_true] at hSuits
    exact hSuits.2
  · refine .skip fun base => .skip fun items => ?_
    exact .pure trivial

/-- A template has one fixed part more than it has substitutions. -/
theorem templateParts_length (stop cursor : Int) (readings : List Reading) :
    (templateParts source stop cursor readings).Gives fun found =>
      found.1.length = found.2.length + 1 := by
  induction readings generalizing cursor with
  | nil => exact .skip fun fixed => by simp
  | cons r rest ih =>
    unfold templateParts
    split
    · refine .skip fun fixed => .skip fun expression => ?_
      refine (ih _).bind fun found hFound => .pure ?_
      simp [hFound]
    · exact ih cursor

/-- Each part of a sequence gives at least one item, since a sequence inside has one. -/
theorem sequenceItems_ne_nil {readings : List Reading}
    (h : ∀ r ∈ readings, r.Holds (Node.Loose code lexicon) (Node.Loose code lexicon))
    (hReadings : readings ≠ []) : (sequenceItems readings).Gives fun trees => trees ≠ [] := by
  cases readings with
  | nil => exact absurd rfl hReadings
  | cons r rest =>
    refine (h r List.mem_cons_self).node.bind fun item hItem => ?_
    refine .skip fun others => .pure ?_
    refine List.append_ne_nil_of_left_ne_nil ?_ _
    split
    · split
      · exact hItem.fits.here.proper
      · simp
    · simp

theorem isLiteral_of_read {raw : Text} {value : Data} (h : Numeral.read raw = .ok value) :
    Node.IsLiteral lexicon value (some raw) none := by
  have hNumber : (∃ n, value = .int n) ∨ ∃ x, value = .float x := by
    unfold Numeral.read at h
    dsimp only at h
    split at h
    · cases hWhole : Numeral.whole (raw.filter fun (c : CodePoint) => c != '_').dropLast with
      | error failure => simp [hWhole, Except.map] at h
      | ok n => exact .inl ⟨n, by simpa [hWhole, Except.map] using h.symm⟩
    · split at h
      · cases h
        exact .inl ⟨_, rfl⟩
      · split at h
        · cases h
          exact .inr ⟨_, rfl⟩
        · cases h
  rcases hNumber with ⟨n, rfl⟩ | ⟨x, rfl⟩
  · exact .int h
  · exact .float h

theorem resolve_of_unescape {body value : Text} (h : unescape body = .ok value) :
    Escape.resolve body = .ok value := by
  unfold unescape at h
  split at h
  · cases h
    assumption
  · cases h

/-- The operators of expressions are those of the grammar. -/
theorem binary_proper (h : Parts.Formed code lexicon shape parts)
    (hForm : shape.form = .binaryExpression) :
    (binary span parts).Gives (Node.Proper lexicon) := by
  refine (h.operator_mem (by rw [hForm]; rfl)).bind fun operator hOperator => ?_
  have hRank : ∃ entry ∈ Print.operatorRanks,
      Text.ofString operator.form.name = Text.ofString entry.1 := by
    obtain ⟨entry, hEntry, hName⟩ := List.mem_map.1 hOperator
    exact ⟨entry, hEntry, by rw [hName]⟩
  refine .skip fun left => .skip fun right => ?_
  split
  · exact .pure hRank
  · exact .pure hRank

/-- What is read at a concrete node is proper, whatever its parts are. -/
theorem linkAt_proper (h : Parts.Formed code lexicon shape parts)
    (hSpelled : shape.isSpelled lexicon (Source.ofText code) = true) (hCovers : shape.Covers code)
    (hSpan : (Source.ofText code).spanOf shape = .ok span) :
    (linkAt (Source.ofText code) shape parts span).Gives (Node.Proper lexicon) := by
  have hPlain (hKinds : shape.form.kinds.all Kind.isPlain = true) :
      (linkAt (Source.ofText code) shape parts span).Gives (Node.Proper lexicon) := by
    intro node hNode
    exact Node.proper_of_isPlain (List.all_eq_true.1 hKinds _ (linkAt_root.of_eq hNode).2)
  obtain ⟨form, start, stop, field, named, missing, faulty⟩ := shape
  cases form
  case identifier | propertyIdentifier | shorthandPropertyIdentifier
    | shorthandPropertyIdentifierPattern | statementIdentifier | undefinedName =>
    refine Read.gives_place _ _ _ fun place _ => ?_
    rw [Read.gives_bind]
    intro name hText
    exact .pure (Node.isName_of_isSpelled rfl hSpelled hText).1
  case functionDeclaration | generatorFunctionDeclaration | functionExpression | functionKeyword
    | generatorFunction =>
    exact function_proper h rfl _
  case arrowFunction => exact arrow_proper
  case callExpression => exact call_proper h
  case binaryExpression => exact binary_proper h rfl
  case ifStatement =>
    have hRest (alternate : Option Node) : Read.Gives (do
        let test ← parts.node "condition"
        let consequent ← parts.node "consequence"
        return Node.ifStatement span test consequent alternate) (Node.Proper lexicon) := by
      refine (h.gives_test rfl "condition").bind fun test hTest => ?_
      refine (h.gives_inside "consequence").bind fun consequent hInside => ?_
      exact .pure ⟨hTest, Source.endsIn_of_liesIn hCovers hInside hSpan⟩
    unfold linkAt
    dsimp only
    split
    · exact .skip fun alternate => hRest (some alternate)
    · exact hRest none
  case forStatement =>
    refine .skip fun init => ?_
    refine (loopClause_isTest h rfl "condition").bind fun test hTest => ?_
    refine .skip fun step => .skip fun body => ?_
    exact .pure hTest
  case whileStatement =>
    refine (h.gives_test rfl "condition").bind fun test hTest => ?_
    exact .skip fun body => .pure hTest
  case doStatement =>
    refine .skip fun body => ?_
    exact (h.gives_test rfl "condition").bind fun test hTest => .pure hTest
  case throwStatement =>
    exact (h.isSome_operand? rfl).bind fun argument hArgument => .pure hArgument
  case labeledStatement =>
    refine (h.gives_name rfl).bind fun label hLabel => ?_
    exact .skip fun body => .pure hLabel
  case trueKeyword | falseKeyword => exact .pure (.bool _ _)
  case nullKeyword => exact .pure (.null _)
  case numberLiteral =>
    refine .skip fun raw => ?_
    split
    · rename_i value hValue
      exact .pure (isLiteral_of_read hValue)
    · exact Read.gives_error _
  case stringLiteral =>
    simp only [linkAt, Read.gives_bind, Read.gives_pure]
    intro raw hRaw value hValue
    simp only [Shape.isSpelled, hRaw, bne_self_eq_false, Bool.false_or, Bool.and_eq_true] at hSpelled
    exact .string hSpelled.1.2 (resolve_of_unescape hValue)
  case regexLiteral =>
    refine .skip fun raw => .skip fun pattern => ?_
    exact .skip fun flags => .pure (.regex _ _)
  case templateString =>
    exact (templateParts_length _ _ _).bind fun found hFound => .pure hFound
  case unaryExpression =>
    refine (h.operator_mem rfl).bind fun operator hOperator => ?_
    refine .skip fun argument => .pure ?_
    exact ⟨_, hOperator, rfl⟩
  case updateExpression =>
    refine (h.operator_mem rfl).bind fun operator hOperator => ?_
    have hRest (leading : Bool) : Read.Gives (do
        let argument ← parts.node "argument"
        return Node.update span operator.form.name leading argument) (Node.Proper lexicon) :=
      .skip fun argument => .pure (by exact ⟨_, hOperator, rfl⟩)
    dsimp only
    split
    · exact Read.gives_error _
    · exact hRest _
  case sequenceExpression =>
    exact (sequenceItems_ne_nil (holds_named h.holds) (h.named_ne_nil rfl)).bind
      fun items hItems => .pure hItems
  -- The other forms are read as nodes of which nothing is asked.
  all_goals exact hPlain rfl

theorem metaProperty_composed (hForm : shape.form = .metaProperty)
    (hSpelled : shape.isSpelled lexicon (Source.ofText code) = true)
    (hSpan : span.Within code.length) :
    (metaProperty (Source.ofText code) shape span).Gives
      (Node.Composed (Node.Loose code lexicon) (Node.Every (Node.Fits lexicon code.length))) := by
  simp only [metaProperty, Read.gives_bind, Read.gives_pure]
  intro text hText
  simp only [Shape.isSpelled, hText, hForm, bne_self_eq_false, Bool.false_or, Bool.and_eq_true]
    at hSpelled
  have hWord (name : Text) (hName : lexicon.isName name = true) :
      (Node.identifier span name).Loose code lexicon :=
    ⟨rfl, Node.every_fits hSpan (by simp [Node.Composed, Node.looseParts, Node.placedParts]) hName⟩
  refine ⟨?_, by simp [Node.placedParts]⟩
  simpa [Node.looseParts] using ⟨hWord _ hSpelled.2.1, hWord _ hSpelled.2.2⟩

/-- What is read at a concrete node, with its span. -/
theorem linkAt_formed (h : Parts.Formed code lexicon shape parts)
    (hSpelled : shape.isSpelled lexicon (Source.ofText code) = true) (hCovers : shape.Covers code)
    (hSpan : (Source.ofText code).spanOf shape = .ok span) :
    (linkAt (Source.ofText code) shape parts span).Gives fun tree =>
      tree.Every (Node.Fits lexicon code.length) ∧ tree.span = span ∧
        shape.form.suits lexicon tree = true := by
  intro tree hTree
  have hWithin := Source.within_of_spanOf hCovers hSpan
  obtain ⟨hPlace, hKind⟩ := linkAt_root.of_eq hTree
  obtain rfl := hPlace hSpan
  have hParts := (linkAt_parts Node.framable_fits ⟨h, h.holds⟩ fun hMeta =>
    metaProperty_composed hMeta hSpelled hWithin).of_eq hTree
  have hProper := (linkAt_proper h hSpelled hCovers hSpan).of_eq hTree
  refine ⟨Node.every_fits hWithin hParts hProper, rfl, Node.suits_of_kind hKind fun hName => ?_⟩
  have hIdentifier : (identifier (Source.ofText code) shape).Gives fun tree =>
      (shape.form.keepers?.isSome || tree.isTest lexicon) = true := by
    refine Read.gives_place _ _ _ fun place _ => ?_
    rw [Read.gives_bind]
    intro name hText
    exact .pure (Node.isName_of_isSpelled hName hSpelled hText).2
  refine hIdentifier.of_eq ?_
  unfold linkAt at hTree
  cases hForm : shape.form <;> rw [hForm] at hName hTree
  all_goals first | exact hTree | cases hName

/-- What is read at a concrete node, chains left open. -/
theorem link_formed (h : Parts.Formed code lexicon shape parts)
    (hSpelled : shape.isSpelled lexicon (Source.ofText code) = true) (hCovers : shape.Covers code) :
    (link (Source.ofText code) shape parts).Gives (Node.ReadAt code lexicon shape) := by
  unfold link
  split
  · rename_i hForm
    intro tree hTree
    have hTest := (h.isTest_operand (by rw [hForm]; rfl)).of_eq hTree
    have hFree := ((gives_operand h.holds).of_eq hTree).free
    unfold Parts.operand at hTree
    cases hNamed : parts.named with
    | nil => simp [hNamed] at hTree
    | cons r rest =>
      rw [hNamed] at hTree
      have hMem : r ∈ parts := mem_of_named (by simp [hNamed])
      have hRead := (h.each r hMem).node.of_eq hTree
      refine ⟨hRead.fits, h.liesIn_of_mem hMem hRead.inside, ?_⟩
      simp [Form.suits, hForm, hFree, hTest, Form.isName]
  · refine Read.gives_place _ _ _ fun span hSpan tree hTree => ?_
    obtain ⟨hFits, rfl, hSuits⟩ := (linkAt_formed h hSpelled hCovers hSpan).of_eq hTree
    exact ⟨hFits, ⟨shape.start, shape.stop, Int.le_refl _, hCovers.ordered, Int.le_refl _, hSpan⟩,
      hSuits⟩

/-- A chain is closed off at its own place. -/
theorem closeChain_readAt (hForm : shape.form.isLink = true) {tree : Node}
    (h : tree.ReadAt code lexicon shape) (hFree : tree.isFree = true) :
    (closeChain tree).ReadAt code lexicon shape := by
  unfold closeChain
  split
  · rename_i hOptional
    refine ⟨Node.every_fits h.fits.here.within ⟨?_, by simp [Node.placedParts]⟩ hOptional,
      h.inside, ?_⟩
    · simpa [Node.looseParts] using Node.Loose.mk hFree h.fits
    · unfold Form.isLink at hForm
      split at hForm
      all_goals simp_all [Form.suits, Form.isName, Node.isFree, Node.isTest]
  · exact h

end Lower

/-- Whatever is read anywhere in a grammatical concrete tree fits. -/
theorem Concrete.reading_formed (tree : Concrete) (hRegular : tree.all Shape.isRegular = true)
    (hSpelled : (tree.all fun shape _ => shape.isSpelled lexicon (Source.ofText code)) = true)
    (hCovers : tree.shape.Covers code) :
    (Concrete.reading (Source.ofText code) tree).Formed code lexicon := by
  induction tree using Concrete.induction with
  | mk shape children ih =>
    obtain ⟨hRegular, hRegularIn⟩ := all_iff.1 hRegular
    obtain ⟨hSpelled, hSpelledIn⟩ := all_iff.1 hSpelled
    have hCovers : shape.Covers code := hCovers
    have hChildren (child : Concrete) (hChild : child ∈ children) : child.shape.Covers code := by
      have hOrder := (Shape.isRegular_iff.1 hRegular).1
      obtain ⟨hLow, hMid, hHigh⟩ := Shape.inOrder_of_mem hOrder (List.mem_map_of_mem hChild)
      exact ⟨Int.le_trans hCovers.start_nonneg hLow, hMid, Int.le_trans hHigh hCovers.stop_le⟩
    have hParts : Parts.Formed code lexicon shape (readings (Source.ofText code) children) := by
      refine ⟨?_, forall_readings.2 fun child hChild => ih child hChild (hRegularIn child hChild)
        (hSpelledIn child hChild) (hChildren child hChild)⟩
      rw [map_shape_readings]
      exact hRegular
    have hLink := Lower.link_formed hParts hSpelled hCovers
    unfold Concrete.reading
    refine ⟨shape, _, _, _, hParts.regular, hSpelled, hCovers, ?_, hLink, hParts.each⟩
    split
    · rename_i hForm
      have hProgram : shape.form ≠ .program := fun hProgram => by
        rw [hProgram] at hForm
        cases hForm
      cases hRead : Lower.link (Source.ofText code) shape
          (readings (Source.ofText code) children) with
      | error error => exact Read.gives_error error
      | ok chain =>
        have hReadAt := hLink.of_eq hRead
        exact (Read.gives_ok _).2
          (Lower.closeChain_readAt hForm hReadAt (hReadAt.loose hProgram).free)
    · exact hLink

/-- Every node of the tree of a grammatical program fits, and the tree is a program or may be a
loose part. -/
theorem Script.parse_fits {script : Script} {program : Node} (hGrammar : script.isGrammatical = true)
    (hSpelled : script.isSpelled lexicon = true) (h : script.parse = .ok program) :
    program.Every (Node.Fits lexicon script.code.length) ∧
      (program.kind = .program ∨ program.isFree = true) := by
  simp only [isGrammatical, Bool.and_eq_true, decide_eq_true_eq] at hGrammar
  obtain ⟨⟨⟨hStart, hOrder⟩, hStop⟩, hRegular⟩ := hGrammar
  have hFormed := Concrete.reading_formed script.tree hRegular hSpelled ⟨hStart, hOrder, hStop⟩
  have hReadAt := hFormed.node.of_eq (reading_of_parse h)
  have hSuits := hReadAt.suits
  simp only [Form.suits, Bool.and_eq_true, Bool.or_eq_true, decide_eq_true_eq] at hSuits
  exact ⟨hReadAt.fits, hSuits.1.1.1.imp_left And.right⟩

end Assay
