import Assay.Proofs.Concrete.Arranged

/-!
# Bodies of arrow functions

The body of an arrow function is read as a block if its text starts with a brace. An object literal
gets parentheses as a body, and wherever else it is the first part of an expression. An assignment
does not give any to its target, so an assignment to an object starts with a brace, and nothing else
does: `Script.arrowBody_brace_iff`.
-/

set_option autoImplicit false

namespace Assay

open Print Outcome

namespace Node

/-- What is assigned to first, if the node is an assignment, and otherwise the node itself. -/
def target : Node → Node
  | .assignment _ left _ _ => left.target
  | node => node

/-- Whether a node is written between braces. -/
def isBraced : Node → Bool
  | .objectExpression .. | .objectPattern .. => true
  | _ => false

/-- Whether a node is an assignment to an object. -/
def assignsObject : Node → Bool
  | .assignment _ left _ _ => left.target.isBraced
  | _ => false

end Node

namespace Print

/-- The brace that opens a block. -/
def brace : CodePoint := CodePoint.ofChar '\x7b'

/-- The text starts with a brace just if the node is an object or an assignment to one. -/
def StartsAsTarget (node : Node) (t : Text) : Prop :=
  t.head? = some brace ↔ node.target.isBraced = true

theorem kind_of_isBraced {node : Node} (h : node.target.isBraced = true) :
    node.kind = .assignmentExpression ∨ node.kind = .objectExpression ∨
      node.kind = .objectPattern := by
  cases node
  case assignment => exact .inl rfl
  case objectExpression => exact .inr (.inl rfl)
  case objectPattern => exact .inr (.inr rfl)
  all_goals cases h

theorem precedence_of_isBraced {node : Node} (h : node.kind.isTerm = true)
    (hBraced : node.target.isBraced = true) :
    precedence node = 3 ∨ precedence node = wrappedRank := by
  rcases kind_of_isBraced hBraced with hKind | hKind | hKind
  · exact .inl (congrArg kindRank hKind)
  · exact .inr (congrArg kindRank hKind)
  · rw [hKind] at h
    cases h

variable {node part : Node} {level : Nat} {t : Text}

namespace StartsAsTarget

theorem of_ne {c : CodePoint} {rest : Text} (hC : c ≠ brace)
    (hTarget : node.target.isBraced = false) :
    StartsAsTarget node (c :: rest) := by
  simp [StartsAsTarget, hC, hTarget]

/-- A text that starts with a token of the node itself. -/
theorem of_segments {token : Text} {rest : List Segment} (h : printAt level node = .ok t)
    (hSegments : segments level node = .token token :: rest)
    (hToken : token.head?.any (· != brace) = true) (hTarget : node.target.isBraced = false) :
    StartsAsTarget node t := by
  obtain ⟨_, ⟨⟩, others, -, rfl⟩ := exists_of_segments h hSegments
  cases token with
  | nil => cases hToken
  | cons c token => exact of_ne (by simpa using hToken) hTarget

end StartsAsTarget

/-- The setting puts parentheses around an object and around an assignment to one. -/
def Setting.Encloses (part : Node) (setting : Setting) : Prop :=
  ∀ level u, setting.write level part = .ok u → ∃ parens inner, printAt level part = .ok inner ∧
    u = wrap parens inner ∧ (part.target.isBraced = true → parens = true)

theorem Setting.encloses_wrapped {parens : Parens} (hTerm : part.kind.isTerm = true)
    (h : precedence part = 3 ∨ precedence part = wrappedRank →
      parens (outline part) (hints part) = true) : (Setting.wrapped parens).Encloses part := by
  intro level u hU
  simp only [Setting.write, bind_eq_ok, pure_eq_ok] at hU
  obtain ⟨inner, hInner, rfl⟩ := hU
  exact ⟨_, inner, hInner, rfl, fun hBraced => h (precedence_of_isBraced hTerm hBraced)⟩

theorem Setting.encloses_operand {parent : Nat} {operator : Text} {side : Side}
    (hTerm : part.kind.isTerm = true) (hParent : 3 < parent) :
    (Setting.operand parent operator side).Encloses part := by
  intro level u hU
  simp only [Setting.write, bind_eq_ok, pure_eq_ok] at hU
  obtain ⟨parens, hParens, inner, hInner, rfl⟩ := hU
  refine ⟨parens, inner, hInner, rfl, fun hBraced => ?_⟩
  rcases precedence_of_isBraced hTerm hBraced with hRank | hRank
  · have hOther : (3 : Nat) ≠ wrappedRank ∧ 3 ≠ parent := ⟨by decide, by omega⟩
    simpa [needsParens, hRank, hOther.1, hOther.2, hParent] using hParens.symm
  · simpa [needsParens, hRank] using hParens.symm

/-- A text that starts with a part that is no object unless it is enclosed. -/
theorem StartsAsTarget.of_edge {setting : Setting} {rest : List Segment}
    (h : printAt level node = .ok t)
    (hSegments : segments level node = .part setting level part :: rest)
    (hEncloses : setting.Encloses part)
    (hPart : Ensures (printAt level part) fun u => u ≠ [] ∧ StartsAsTarget part u)
    (hTarget : node.target.isBraced = false) : StartsAsTarget node t := by
  obtain ⟨first, hFirst, others, -, rfl⟩ := exists_of_segments h hSegments
  obtain ⟨parens, inner, hInner, rfl, hBraced⟩ := hEncloses level first hFirst
  obtain ⟨hFull, hStart⟩ := hPart inner hInner
  cases parens with
  | true => exact of_ne (show '(' ≠ brace by decide) hTarget
  | false =>
    cases inner with
    | nil => exact absurd rfl hFull
    | cons c inner =>
      refine of_ne (fun hC => ?_) hTarget
      have hEnclosed := hBraced (hStart.1 (by simp [hC]))
      cases hEnclosed

theorem startsAsTarget_name {span : Span} {name : Text} (h : Lexicon.strict.isName name = true) :
    StartsAsTarget (.identifier span name) name := by
  simp only [Lexicon.strict, Bool.and_eq_true] at h
  cases name with
  | nil => cases h.1
  | cons c rest =>
    refine .of_ne ?_ rfl
    rintro rfl
    cases h.1

theorem startsAsTarget_literal {span : Span} {value : Data} {raw : Option Text}
    {regex : Option (Text × Text)} (h : (Node.literal span value raw regex).StartsWell) :
    Ensures (printAt level (.literal span value raw regex))
      (StartsAsTarget (.literal span value raw regex)) := by
  have hNumeral {raw : Text} {value : Data} (hRead : Numeral.read raw = .ok value) {node : Node}
      (hTarget : node.target.isBraced = false) : StartsAsTarget node raw := by
    cases raw with
    | nil => simp [StartsAsTarget, hTarget]
    | cons c rest =>
      refine .of_ne ?_ hTarget
      rintro rfl
      exact Numeral.read_ne_of_stray (by decide) (by decide) value hRead
  rcases h with h | ⟨rfl, rfl, text, rfl⟩
  · cases h <;> simp only [printAt, literalText, ensures_ok]
    case bool value => cases value <;> exact .of_ne (by decide) rfl
    case null => exact .of_ne (by decide) rfl
    case regex => exact .of_ne (show '/' ≠ brace by decide) rfl
    case string raw _ hString _ =>
      cases raw with
      | nil => cases hString
      | cons quote rest =>
        simp only [Lexicon.strict, Bool.and_eq_true, Bool.or_eq_true, beq_iff_eq] at hString
        rcases hString.1 with rfl | rfl <;> exact .of_ne (by decide) rfl
    case int hRead | float hRead => exact hNumeral hRead rfl
  · simp only [printAt, literalText, ensures_ok]
    exact .of_ne (show '"' ≠ brace by decide) rfl

/-- The text of an operand starts as it should if the texts of its parts do. -/
theorem startsAsTarget_of_parts (h : node.Leading) (hArranged : node.Arranged)
    (hOperand : node.kind.isOperand = true)
    (hPart : ∀ part ∈ node.parts, part.kind.isOperand = true → ∀ level,
      Ensures (printAt level part) fun u => u ≠ [] ∧ StartsAsTarget part u) (level : Nat) :
    Ensures (printAt level node) (StartsAsTarget node) := by
  have hStarts := h.starts
  have hLeading (part : Node) (hMem : part ∈ node.leadingParts) :
      Ensures (printAt level part) fun u => u ≠ [] ∧ StartsAsTarget part u :=
    hPart part (Node.mem_parts_of_leading hMem) (h.operands part hMem) level
  intro t hT
  cases node
  case identifier =>
    cases hT
    exact startsAsTarget_name hStarts
  case literal => exact startsAsTarget_literal hStarts t hT
  case privateIdentifier =>
    cases hT
    exact .of_ne (show '#' ≠ brace by decide) rfl
  case binary left _ _ | logical left _ _ =>
    exact .of_edge hT rfl (Setting.encloses_operand hArranged (by decide))
      (hLeading left (by simp [Node.leadingParts])) rfl
  case assignment left _ _ =>
    obtain ⟨first, hFirst, others, -, rfl⟩ := exists_of_segments hT rfl
    obtain ⟨hFull, hStart⟩ := hLeading left (by simp [Node.leadingParts]) first hFirst
    cases first with
    | nil => exact absurd rfl hFull
    | cons c rest => exact hStart
  case conditional test _ _ =>
    refine .of_edge hT rfl (Setting.encloses_wrapped hArranged fun hRank => ?_)
      (hLeading test (by simp [Node.leadingParts])) rfl
    rcases hRank with hRank | hRank <;> simp [hRank]
  case taggedTemplate tag _ =>
    refine .of_edge hT rfl (Setting.encloses_wrapped hArranged fun hRank => ?_)
      (hLeading tag (by simp [Node.leadingParts])) rfl
    rcases hRank with hRank | hRank <;> simp [wrapsAsTarget, hRank, wrappedRank]
  case member object _ _ _ =>
    have hObject := hLeading object (by simp [Node.leadingParts])
    refine .of_edge hT rfl (Setting.encloses_wrapped hArranged fun hRank => ?_) hObject rfl
    rcases hRank with hRank | hRank <;> simp [wrapsAsTarget, hRank, wrappedRank]
  case call callee _ _ =>
    refine .of_edge hT rfl (Setting.encloses_wrapped hArranged.1 fun hRank => ?_)
      (hLeading callee (by simp [Node.leadingParts])) rfl
    rcases hRank with hRank | hRank <;> simp [wrapsAsTarget, hRank, wrappedRank]
  case update leading argument =>
    cases leading with
    | true =>
      have hSigns : ∀ sign ∈ Grammar.updateOperators,
          (Text.ofString sign).head?.any (· != brace) = true := by decide
      obtain ⟨sign, hSign, rfl⟩ := hStarts
      exact .of_segments hT rfl (hSigns sign hSign) rfl
    | false =>
      refine .of_edge hT rfl (Setting.encloses_wrapped hArranged fun hRank => ?_)
        (hLeading argument (by simp [Node.leadingParts])) rfl
      rcases hRank with hRank | hRank <;> simp [hRank, wrappedRank]
  case metaProperty head _ =>
    have hKind : head.kind = .identifier := hStarts
    have hHead := hPart head (by simp [Node.parts, Node.looseParts]) (by rw [hKind]; rfl) level
    refine .of_edge hT rfl (fun level u hU => ⟨false, u, hU, rfl, fun hBraced => ?_⟩) hHead rfl
    rcases kind_of_isBraced hBraced with hOther | hOther | hOther <;> simp [hKind] at hOther
  case chain expression =>
    have hKind : expression.kind = .memberExpression ∨ expression.kind = .callExpression := by
      simpa [Node.StartsWell] using hStarts
    have hExpression := hPart expression (by simp [Node.parts, Node.looseParts])
      (by rcases hKind with hKind | hKind <;> rw [hKind] <;> rfl) level
    refine .of_edge hT rfl (fun level u hU => ⟨false, u, hU, rfl, fun hBraced => ?_⟩)
      hExpression rfl
    rcases kind_of_isBraced hBraced with hOther | hOther | hOther <;> simp [hOther] at hKind
  case objectExpression properties =>
    cases properties <;>
      · obtain ⟨_, ⟨⟩, others, -, rfl⟩ := exists_of_segments hT rfl
        exact ⟨fun _ => rfl, fun _ => rfl⟩
  case objectPattern =>
    obtain ⟨_, ⟨⟩, others, -, rfl⟩ := exists_of_segments hT rfl
    exact ⟨fun _ => rfl, fun _ => rfl⟩
  case unary =>
    have hSigns : ∀ sign ∈ Grammar.unaryOperators,
        (Text.ofString sign).head?.any (· != brace) = true := by decide
    obtain ⟨sign, hSign, rfl⟩ := hStarts
    exact .of_segments hT rfl (hSigns sign hSign) rfl
  case yieldExpression delegate =>
    cases delegate <;> exact .of_segments hT rfl (by decide) rfl
  case function form _ _ _ _ isAsync isGenerator _ =>
    cases form with
    | declaration => cases hOperand
    | expression =>
      cases isAsync <;> cases isGenerator <;> exact .of_segments hT rfl (by decide) rfl
    | arrow =>
      cases isAsync with
      | true => exact .of_segments hT rfl (by decide) rfl
      | false =>
        obtain ⟨_, ⟨⟩, others, hOthers, rfl⟩ := exists_of_segments hT rfl
        obtain ⟨_, ⟨⟩, more, -, rfl⟩ := spell_cons_eq_ok.1 hOthers
        exact .of_ne (show '(' ≠ brace by decide) rfl
  case classNode form _ _ _ _ =>
    cases form <;> cases hOperand
    exact .of_segments hT rfl (by decide) rfl
  case bare category _ => cases category <;> cases hOperand
  case templateLiteral | thisExpression | superReference | arrayExpression | arrayPattern |
      newExpression | awaitExpression | spreadElement | restElement | sequence =>
    exact .of_segments hT rfl (by decide) rfl
  all_goals cases hOperand

/-- The text of an operand starts as it should if all its nodes are in order. -/
theorem startsAsTarget_printAt (h : node.Every Node.Leading)
    (hArranged : node.Every Node.Arranged) :
    node.kind.isOperand = true → ∀ level,
      Ensures (printAt level node) fun u => u ≠ [] ∧ StartsAsTarget node u := by
  induction h with
  | @mk node hNode hParts ih =>
    intro hOperand level t hT
    obtain ⟨c, rest, rfl, -⟩ := (opening_printAt ⟨hNode, hParts⟩ hOperand level t hT).start
    refine ⟨List.cons_ne_nil c rest, ?_⟩
    exact startsAsTarget_of_parts hNode hArranged.here hOperand
      (fun part hPart => ih part hPart (hArranged.part hPart)) level _ hT

/-- An expression that is not an object literal gets no parentheses as the body of an arrow function,
so its text starts with a brace just if it is an assignment to an object. -/
theorem head_arrowBody (h : node.Every Node.Leading) (hArranged : node.Every Node.Arranged)
    (hTerm : node.kind.isTerm = true) (hT : printAt level node = .ok t) :
    (wrap (isObject node) t).head? = some brace ↔ node.assignsObject = true := by
  have hOperand := Kind.isOperand_of_isTerm hTerm
  obtain ⟨-, hStart⟩ := startsAsTarget_printAt h hArranged hOperand level t hT
  cases node
  case objectExpression =>
    have hParen : '(' ≠ brace := by decide
    exact ⟨fun hHead => absurd (Option.some.inj hHead) hParen, fun hAssigns => by cases hAssigns⟩
  case objectPattern => cases hTerm
  all_goals exact hStart

/-- The parts of the text of an arrow function whose body is an expression. -/
theorem printAt_arrow {span : Span} {id : Option Node} {params : List Node} {body : Node}
    {isAsync isGenerator : Bool}
    (h : Succeeds (printAt level (.function .arrow span id params body isAsync isGenerator true))) :
    ∃ items inner, printList level params = .ok items ∧ printAt level body = .ok inner ∧
      printAt level (.function .arrow span id params body isAsync isGenerator true) =
        .ok ((if isAsync then "async " else "") ++ "(" ++ commas items ++ ") => " ++
          wrap (isObject body) inner) := by
  obtain ⟨⟨items, hItems⟩, inner, hInner⟩ := succeeds_function_parts h
  refine ⟨items, inner, hItems, hInner, ?_⟩
  simp only [printAt, hItems, hInner]
  rfl

end Print

/-- In a program the text behind the arrow of an arrow function whose body is an expression starts
with a brace just if the body is an assignment to an object. -/
theorem Script.arrowBody_brace_iff {script : Script} {program : Node}
    (hGrammar : script.isGrammatical = true) (hSpelled : script.isSpelled Lexicon.strict = true)
    (hArranged : script.isArranged = true) (hParse : script.parse = .ok program) :
    program.Every fun node => ∀ span id params body isAsync isGenerator,
      node = .function .arrow span id params body isAsync isGenerator true → ∀ level,
        ∃ items inner, printList level params = .ok items ∧ printAt level body = .ok inner ∧
          printAt level node = .ok ((if isAsync then "async " else "") ++ "(" ++ commas items ++
            ") => " ++ wrap (isObject body) inner) ∧
          ((wrap (isObject body) inner).head? = some brace ↔ body.assignsObject = true) := by
  have hFits := (script.parse_fits hGrammar hSpelled hParse).1
  have hPlaced := script.parse_arranged hArranged hParse
  refine (hFits.and hPlaced).nested.imp ?_
  rintro node hNode span id params body isAsync isGenerator rfl level
  have hPrints := succeeds_printAt (hNode.imp fun _ h => isPrintable_of_proper h.1.proper) level
  obtain ⟨items, inner, hItems, hInner, hText⟩ := printAt_arrow hPrints
  refine ⟨items, inner, hItems, hInner, hText, ?_⟩
  have hBody := hNode.part (show body ∈ _ by simp [Node.parts, Node.looseParts])
  exact head_arrowBody (hBody.imp fun _ h => h.1.leading h.2) (hBody.imp fun _ h => h.2)
    (hNode.here.2 rfl) hInner

namespace Script

/-- The program `() => (…);` as it comes from the grammar, with the expression whose tree is
given. -/
def concise (stop : Int) (body : Concrete) : Concrete :=
  .part .program 0 (stop + 2) "" [.part .expressionStatement 0 (stop + 2) ""
    [.part .arrowFunction 0 (stop + 1) ""
      [.part (.other "formal_parameters") 0 2 "parameters" [.token 0 1 "(" "", .token 1 2 ")" ""],
       .token 3 5 "=>" "",
       .part .parenthesizedExpression 6 (stop + 1) "body"
        [.token 6 7 "(" "", body, .token stop (stop + 1) ")" ""]],
     .token (stop + 1) (stop + 2) ";" ""]]

/-- The program `() => ({}.a = b);`. -/
def memberTarget : Script where
  code := "() => (\x7b\x7d.a = b);"
  tree :=
    concise 15 (.part .assignmentExpression 7 15 ""
      [.part .memberExpression 7 11 "left"
        [.part .objectLiteral 7 9 "object" [.token 7 8 "\x7b" "", .token 8 9 "\x7d" ""],
         .token 9 10 "." "", .part .propertyIdentifier 10 11 "property" []],
       .token 12 13 "=" "", .part .identifier 14 15 "right" []])

/-- The body of the arrow function in `() => ({}.a = b);`. -/
def memberTargetBody : Node :=
  .assignment (.between 7 15)
    (.member (.between 7 11) (.objectExpression (.between 7 9) [])
      (.identifier (.between 10 11) "a") false false)
    "=" (.identifier (.between 14 15) "b")

/-- The syntax tree of `() => ({}.a = b);`. -/
def memberTargetTree : Node :=
  .program (.between 0 17) [.expressionStatement (.between 0 17)
    (.function .arrow (.between 0 16) none [] memberTargetBody false false true)]

/-- The object in the target gets parentheses as the object of a member, and so the body that starts
with it does not start with a brace. -/
theorem arrowBody_brace_iff_memberTarget :
    memberTarget.isGrammatical = true ∧ memberTarget.isSpelled Lexicon.strict = true ∧
      memberTarget.isArranged = true ∧ memberTarget.parse = .ok memberTargetTree ∧
      ∃ inner, printAt 0 memberTargetBody = .ok inner ∧ inner.head? ≠ some brace := by
  have hGrammar : memberTarget.isGrammatical = true := by decide
  have hSpelled : memberTarget.isSpelled Lexicon.strict = true := by decide
  have hArranged : memberTarget.isArranged = true := by decide
  have hParse : memberTarget.parse = .ok memberTargetTree := rfl
  refine ⟨hGrammar, hSpelled, hArranged, hParse, ?_⟩
  have hEvery := arrowBody_brace_iff hGrammar hSpelled hArranged hParse
  have hArrow := ((hEvery.part (List.mem_singleton_self _)).part (List.mem_singleton_self _)).here
  obtain ⟨-, inner, -, hInner, -, hBrace⟩ := hArrow _ _ _ _ _ _ rfl 0
  exact ⟨inner, hInner, fun hHead => absurd (hBrace.1 hHead) (by decide)⟩

/-- The program `() => ({a} = b);`. -/
def patternTarget : Script where
  code := "() => (\x7ba\x7d = b);"
  tree :=
    concise 14 (.part .assignmentExpression 7 14 ""
      [.part .objectPattern 7 10 "left"
        [.token 7 8 "\x7b" "", .part .shorthandPropertyIdentifierPattern 8 9 "" [],
         .token 9 10 "\x7d" ""],
       .token 11 12 "=" "", .part .identifier 13 14 "right" []])

/-- The body of an arrow function that assigns to an object loses its parentheses, and what is left
is a block. -/
theorem print_patternTarget :
    patternTarget.parse.toOption.map Node.print = some (.ok "() => \x7ba\x7d = b;") := rfl

end Script

end Assay
