import Assay.Proofs.Print.Segments
import Assay.Proofs.Tree.Replace

/-!
# Where two trees fork

Two trees fork at a part if they agree in front of it. What stands behind may be anything if the gap
between the two parts allows it, and otherwise it is the same. If the parts are exchanged at which
two trees fork, then so are the trees: `Exchange.forked`. A tree forks from the tree with one part
replaced: `Exchange.replaced`.
-/

set_option autoImplicit false

namespace Assay.Print

open Outcome

variable {gap : Gap} {free : Prop} {node other x y : Node}

/-! ## Parts in their settings -/

/-- Exchanged parts show in any setting. -/
theorem Exchange.setting (h : Exchange gap node other) (setting : Setting) {level : Nat} {t u : Text}
    (hT : setting.write level node = .ok t) (hU : setting.write level other = .ok u) :
    gap.Holds t u := by
  have hRank : precedence other = precedence node := congrArg Outline.rank h.outline_eq
  cases setting with
  | plain => exact h.text hT hU
  | method => exact h.tail hT hU
  | wrapped parens =>
    simp only [Setting.write, bind_eq_ok, pure_eq_ok] at hT hU
    obtain ⟨inner, hInner, rfl⟩ := hT
    obtain ⟨outer, hOuter, rfl⟩ := hU
    by_cases hStrict : gap.strict
    · rw [h.outline_eq, h.hints_eq hStrict]
      exact gap.wrap (h.text hInner hOuter) _
    · exact gap.wrap_loose hStrict (h.text hInner hOuter) _ _
  | operand parent operator side =>
    simp only [Setting.write, bind_eq_ok, pure_eq_ok] at hT hU
    obtain ⟨parens, hParens, inner, hInner, rfl⟩ := hT
    obtain ⟨others, hOthers, outer, hOuter, rfl⟩ := hU
    by_cases hStrict : gap.strict
    · have hOperator : binaryOperator? other = binaryOperator? node :=
        congrArg Hints.binaryOperator? (h.hints_eq hStrict)
      have hEq : (.ok others : Except PrintError Bool) = .ok parens := by
        rw [← hOthers, ← hParens, needsParens, hRank, hOperator, needsParens]
      cases hEq
      exact gap.wrap (h.text hInner hOuter) _
    · exact gap.wrap_loose hStrict (h.text hInner hOuter) _ _
  | argument operator =>
    have hWrite (node : Node) (t : Text)
        (hT : (Setting.argument operator).write level node = .ok t) : ∃ space,
        (if precedence node < 15 then pure false else needsSpace operator node) = .ok space ∧
          ∃ inner, printAt level node = .ok inner ∧
            (if space then Text.ofString " " else "") ++ wrap (precedence node < 15) inner = t := by
      simp only [Setting.write] at hT
      split_ifs at hT ⊢ <;> simpa only [bind_eq_ok, pure_eq_ok] using hT
    obtain ⟨space, hSpace, inner, hInner, rfl⟩ := hWrite node t hT
    obtain ⟨blank, hBlank, outer, hOuter, rfl⟩ := hWrite other u hU
    rw [hRank] at hBlank ⊢
    have hWrap := gap.wrap (h.text hInner hOuter) (precedence node < 15)
    by_cases hStrict : gap.strict
    · have hOperator : unaryOperator? other = unaryOperator? node :=
        congrArg Hints.unaryOperator? (h.hints_eq hStrict)
      have hEq : (.ok blank : Except PrintError Bool) = .ok space := by
        rw [← hBlank, ← hSpace, needsSpace, hOperator, needsSpace]
      cases hEq
      exact gap.append_left hWrap _
    · have hLead (space : Bool) : trimmed (if space then Text.ofString " " else "") = [] := by
        cases space <;> decide
      exact gap.lead_loose hStrict hWrap (hLead space) (hLead blank)
  | statement =>
    simp only [Setting.write, bind_eq_ok, pure_eq_ok] at hT hU
    obtain ⟨inner, hInner, rfl⟩ := hT
    obtain ⟨outer, hOuter, rfl⟩ := hU
    exact gap.statementText (h.text hInner hOuter)
  | head =>
    simp only [Setting.write, bind_eq_ok, pure_eq_ok] at hT hU
    obtain ⟨inner, hInner, rfl⟩ := hT
    obtain ⟨outer, hOuter, rfl⟩ := hU
    exact h.head hInner hOuter
  | arm =>
    have hBlock : other.isBlock = node.isBlock := congrArg Outline.isBlock h.outline_eq
    simp only [Setting.write, hBlock] at hT hU
    split_ifs at hT hU
    · exact h.text hT hU
    · simp only [bind_eq_ok, pure_eq_ok] at hT hU
      obtain ⟨inner, hInner, rfl⟩ := hT
      obtain ⟨outer, hOuter, rfl⟩ := hU
      have hLine := gap.append_left (h.text hInner hOuter)
        (Text.ofString "\x7b\n" ++ indent (level + 1))
      simpa [braces, Text.join] using
        gap.append_right hLine (.inr (Eq.refl ("\n" ++ indent level ++ "\x7d")))

/-! ## Segments that fork -/

/-- The second list is the first one up to a part, where it has `y` and the first has `x`. -/
inductive Forks (free : Prop) (x y : Node) : List Segment → List Segment → Prop
  | here {setting : Setting} {level : Nat} {rest more : List Segment} : free ∨ rest = more →
      Forks free x y (.part setting level x :: rest) (.part setting level y :: more)
  | there {segment : Segment} {rest more : List Segment} : Forks free x y rest more →
      Forks free x y (segment :: rest) (segment :: more)

/-- The same for the items of a series. -/
inductive ForksIn (free : Prop) (x y : Node) : List (List Segment) → List (List Segment) → Prop
  | here {item image : List Segment} {rest more : List (List Segment)} :
      Forks free x y item image → free ∨ rest = more →
      ForksIn free x y (item :: rest) (image :: more)
  | there {item : List Segment} {rest more : List (List Segment)} : ForksIn free x y rest more →
      ForksIn free x y (item :: rest) (item :: more)

/-- The second list is the first one up to a place where it has `b` and the first has `a`. -/
inductive ForkedIn {α : Type} (free : Prop) (a b : α) : List α → List α → Prop
  | here {rest more : List α} : free ∨ rest = more → ForkedIn free a b (a :: rest) (b :: more)
  | there {first : α} {rest more : List α} : ForkedIn free a b rest more →
      ForkedIn free a b (first :: rest) (first :: more)

/-- Between what segments spell that fork at exchanged parts there is a gap. -/
theorem Exchange.spell (h : Exchange gap x y) {segments others : List Segment}
    (hForks : Forks gap.free x y segments others) {t u : Text} (hT : spell segments = .ok t)
    (hU : spell others = .ok u) : gap.Holds t u := by
  induction hForks generalizing t u with
  | here hRest =>
    obtain ⟨first, hFirst, after, hAfter, rfl⟩ := spell_cons_eq_ok.1 hT
    obtain ⟨image, hImage, behind, hBehind, rfl⟩ := spell_cons_eq_ok.1 hU
    refine gap.append_right (h.setting _ hFirst hImage) (hRest.imp id fun hSame => ?_)
    rw [hSame, hBehind] at hAfter
    exact (Except.ok.inj hAfter).symm
  | there _ ih =>
    obtain ⟨first, hFirst, rest, hRest, rfl⟩ := spell_cons_eq_ok.1 hT
    obtain ⟨_, hFirst', more, hMore, rfl⟩ := spell_cons_eq_ok.1 hU
    cases hFirst.symm.trans hFirst'
    exact gap.append_left (ih hRest hMore) first

namespace Forks

variable {segments others : List Segment}

theorem append_left (h : Forks free x y segments others) (front : List Segment) :
    Forks free x y (front ++ segments) (front ++ others) := by
  induction front with
  | nil => exact h
  | cons segment front ih => exact .there ih

theorem append_right (h : Forks free x y segments others) {rest more : List Segment}
    (hRest : free ∨ rest = more) : Forks free x y (segments ++ rest) (others ++ more) := by
  induction h with
  | here hHere =>
    refine .here (hRest.elim .inl fun hSame => hHere.imp id fun hHere => ?_)
    rw [hHere, hSame]
  | there _ ih => exact .there ih

theorem series {separator : Text} {items images : List (List Segment)}
    (h : ForksIn free x y items images) :
    Forks free x y (series separator items) (series separator images) := by
  induction h with
  | here hItem hRest =>
    rw [series_cons, series_cons]
    exact hItem.append_right (hRest.imp id fun hSame => by rw [hSame])
  | @there item rest more hRest ih =>
    unfold Print.series at ih ⊢
    cases hRest <;>
    · simp only [List.intercalate_cons_cons, List.append_assoc]
      exact (ih.append_left _).append_left _

end Forks

theorem ForkedIn.map {α : Type} {a b : α} {as bs : List α} {f : α → List Segment}
    (h : ForkedIn free a b as bs) (hItem : Forks free x y (f a) (f b)) :
    ForksIn free x y (as.map f) (bs.map f) := by
  induction h with
  | here hRest => exact .here hItem (hRest.imp id (congrArg _))
  | there _ ih => exact .there ih

variable {level : Nat} {separator : Text} {nodes others : List Node}

theorem forks_items (h : ForkedIn free x y nodes others) :
    Forks free x y (series separator (nodes.map (item level)))
      (series separator (others.map (item level))) :=
  .series (h.map (.here (.inr rfl)))

theorem forks_elements {elements others : List (Option Node)}
    (h : ForkedIn free (some x) (some y) elements others) :
    Forks free x y (series separator (elements.map (element level)))
      (series separator (others.map (element level))) :=
  .series (h.map (.here (.inr rfl)))

theorem forksIn_lines (h : ForkedIn free x y nodes others) :
    ForksIn free x y (nodes.map (line level)) (others.map (line level)) :=
  h.map (.there (.here (.inr rfl)))

theorem forks_enclosed {items images : List (List Segment)} (h : ForksIn free x y items images) :
    Forks free x y (enclosed level separator items) (enclosed level separator images) := by
  have hSeries : Forks free x y (series (separator ++ "\n") items)
      (series (separator ++ "\n") images) := .series h
  have hLines := (hSeries.append_right (.inr (Eq.refl [.token "\n", .token (indent level),
    .token "\x7d"]))).append_left [.token "\x7b\n"]
  cases h <;> exact hLines

/-- A template whose pieces go on behind all its substitutions has a segment for each of these. -/
theorem forks_template {quasis : List Quasi} (h : ForkedIn free x y nodes others)
    (hLength : nodes.length < quasis.length) :
    Forks free x y (templateSegments level quasis nodes) (templateSegments level quasis others) := by
  induction h generalizing quasis with
  | here hRest =>
    obtain ⟨quasi, quasis, rfl⟩ := List.exists_cons_of_length_pos (Nat.zero_lt_of_lt hLength)
    exact .there (.there (.here (hRest.imp id fun hSame => by rw [hSame])))
  | there _ ih =>
    obtain ⟨quasi, quasis, rfl⟩ := List.exists_cons_of_length_pos (Nat.zero_lt_of_lt hLength)
    exact .there (.there (.there (.there (ih (by simpa using hLength)))))

theorem closingComma_of_forkedIn {elements others : List (Option Node)}
    (h : ForkedIn free (some x) (some y) elements others) :
    free ∨ closingComma elements = closingComma others := by
  induction h with
  | @here rest _ hRest =>
    refine hRest.imp id ?_
    rintro rfl
    cases rest <;> rfl
  | there hRest ih =>
    unfold closingComma at ih ⊢
    cases hRest <;> simpa using ih

/-! ## Trees that fork -/

/-- The second node is the first one up to the part `x`, where it has `y`. If the parts behind are
free, the text in front of them must not depend on them. -/
inductive Forked (free : Prop) (x y : Node) : Node → Node → Prop
  | program {span xs ys} : ForkedIn free x y xs ys →
      Forked free x y (.program span xs) (.program span ys)
  | expressionStatement {span} :
      Forked free x y (.expressionStatement span x) (.expressionStatement span y)
  | blockStatement {span xs ys} : ForkedIn free x y xs ys →
      Forked free x y (.blockStatement span xs) (.blockStatement span ys)
  | staticBlock {span xs ys} : ForkedIn free x y xs ys →
      Forked free x y (.staticBlock span xs) (.staticBlock span ys)
  | returnArgument {span} :
      Forked free x y (.returnStatement span (some x)) (.returnStatement span (some y))
  | throwArgument {span} :
      Forked free x y (.throwStatement span (some x)) (.throwStatement span (some y))
  | breakLabel {span} :
      Forked free x y (.breakStatement span (some x)) (.breakStatement span (some y))
  | continueLabel {span} :
      Forked free x y (.continueStatement span (some x)) (.continueStatement span (some y))
  | label {span b b'} : free ∨ b = b' →
      Forked free x y (.labeledStatement span x b) (.labeledStatement span y b')
  | labeledBody {span l} : Forked free x y (.labeledStatement span l x) (.labeledStatement span l y)
  | ifTest {span c c' a a'} : free ∨ (c, a) = (c', a') →
      Forked free x y (.ifStatement span x c a) (.ifStatement span y c' a')
  | ifConsequent {span t a a'} : a.isSome = a'.isSome → free ∨ a = a' →
      Forked free x y (.ifStatement span t x a) (.ifStatement span t y a')
  | ifAlternate {span t c} :
      Forked free x y (.ifStatement span t c (some x)) (.ifStatement span t c (some y))
  | switchDiscriminant {span xs ys} : free ∨ xs = ys →
      Forked free x y (.switchStatement span x xs) (.switchStatement span y ys)
  | switchCases {span d xs ys} : ForkedIn free x y xs ys →
      Forked free x y (.switchStatement span d xs) (.switchStatement span d ys)
  | caseTest {span xs ys} : free ∨ xs = ys →
      Forked free x y (.switchCase span (some x) xs) (.switchCase span (some y) ys)
  | caseBody {span t xs ys} : ForkedIn free x y xs ys →
      Forked free x y (.switchCase span t xs) (.switchCase span t ys)
  | whileTest {span b b'} : free ∨ b = b' →
      Forked free x y (.whileStatement span x b) (.whileStatement span y b')
  | whileBody {span t} : Forked free x y (.whileStatement span t x) (.whileStatement span t y)
  | doBody {span t t'} : free ∨ t = t' →
      Forked free x y (.doWhileStatement span x t) (.doWhileStatement span y t')
  | doTest {span b} : Forked free x y (.doWhileStatement span b x) (.doWhileStatement span b y)
  | forInit {span t t' s s' b b'} : free ∨ (t, s, b) = (t', s', b') →
      Forked free x y (.forStatement span (some x) t s b) (.forStatement span (some y) t' s' b')
  | forTest {span i s s' b b'} : free ∨ (s, b) = (s', b') →
      Forked free x y (.forStatement span i (some x) s b) (.forStatement span i (some y) s' b')
  | forStep {span i t b b'} : free ∨ b = b' →
      Forked free x y (.forStatement span i t (some x) b) (.forStatement span i t (some y) b')
  | forBody {span i t s} : Forked free x y (.forStatement span i t s x) (.forStatement span i t s y)
  | forInLeft {span r r' b b'} : free ∨ (r, b) = (r', b') →
      Forked free x y (.forInStatement span x r b) (.forInStatement span y r' b')
  | forInRight {span l b b'} : free ∨ b = b' →
      Forked free x y (.forInStatement span l x b) (.forInStatement span l y b')
  | forInBody {span l r} : Forked free x y (.forInStatement span l r x) (.forInStatement span l r y)
  | forOfLeft {span r r' b b' isAwait} : free ∨ (r, b) = (r', b') →
      Forked free x y (.forOfStatement span x r b isAwait) (.forOfStatement span y r' b' isAwait)
  | forOfRight {span l b b' isAwait} : free ∨ b = b' →
      Forked free x y (.forOfStatement span l x b isAwait) (.forOfStatement span l y b' isAwait)
  | forOfBody {span l r isAwait} :
      Forked free x y (.forOfStatement span l r x isAwait) (.forOfStatement span l r y isAwait)
  | tryBlock {span h h' f f'} : free ∨ (h, f) = (h', f') →
      Forked free x y (.tryStatement span x h f) (.tryStatement span y h' f')
  | tryHandler {span b f f'} : free ∨ f = f' →
      Forked free x y (.tryStatement span b (some x) f) (.tryStatement span b (some y) f')
  | tryFinalizer {span b h} :
      Forked free x y (.tryStatement span b h (some x)) (.tryStatement span b h (some y))
  | catchParam {span b b'} : free ∨ b = b' →
      Forked free x y (.catchClause span (some x) b) (.catchClause span (some y) b')
  | catchBody {span p} : Forked free x y (.catchClause span p x) (.catchClause span p y)
  | declarations {span kind xs ys} : ForkedIn free x y xs ys →
      Forked free x y (.variableDeclaration span kind xs) (.variableDeclaration span kind ys)
  | declaratorName {span i i'} : free ∨ i = i' →
      Forked free x y (.variableDeclarator span x i) (.variableDeclarator span y i')
  | declaratorValue {span n} :
      Forked free x y (.variableDeclarator span n (some x)) (.variableDeclarator span n (some y))
  | functionParams {form span id b b' isAsync isGenerator isExpression xs ys} :
      ForkedIn free x y xs ys → free ∨ b = b' →
      Forked free x y (.function form span id xs b isAsync isGenerator isExpression)
        (.function form span id ys b' isAsync isGenerator isExpression)
  | functionBody {form span id params isAsync isGenerator isExpression} :
      Forked free x y (.function form span id params x isAsync isGenerator isExpression)
        (.function form span id params y isAsync isGenerator isExpression)
  | className {form span s s' b b'} : free ∨ (s, b) = (s', b') →
      Forked free x y (.classNode form span (some x) s b) (.classNode form span (some y) s' b')
  | classSuper {form span id b b'} : free ∨ b = b' →
      Forked free x y (.classNode form span id (some x) b) (.classNode form span id (some y) b')
  | classBody {form span id s} :
      Forked free x y (.classNode form span id s x) (.classNode form span id s y)
  | classMembers {span xs ys} : ForkedIn free x y xs ys →
      Forked free x y (.classBody span xs) (.classBody span ys)
  | methodKey {span v v' kind isStatic} : signature? v' = signature? v → free ∨ v = v' →
      Forked free x y (.methodDefinition span x v kind true isStatic)
        (.methodDefinition span y v' kind true isStatic)
  | methodValue {span k kind computed isStatic} :
      Forked free x y (.methodDefinition span k x kind computed isStatic)
        (.methodDefinition span k y kind computed isStatic)
  | fieldKey {span v v' isStatic} : free ∨ v = v' →
      Forked free x y (.propertyDefinition span x v true isStatic)
        (.propertyDefinition span y v' true isStatic)
  | fieldValue {span k computed isStatic} :
      Forked free x y (.propertyDefinition span k (some x) computed isStatic)
        (.propertyDefinition span k (some y) computed isStatic)
  | templateParts {span quasis xs ys} : xs.length < quasis.length → ForkedIn free x y xs ys →
      Forked free x y (.templateLiteral span quasis xs) (.templateLiteral span quasis ys)
  | templateTag {span q q'} : free ∨ q = q' →
      Forked free x y (.taggedTemplate span x q) (.taggedTemplate span y q')
  | taggedQuasi {span t} : Forked free x y (.taggedTemplate span t x) (.taggedTemplate span t y)
  | arrayElements {span xs ys} : ForkedIn free (some x) (some y) xs ys →
      Forked free x y (.arrayExpression span xs) (.arrayExpression span ys)
  | objectProperties {span xs ys} : ForkedIn free x y xs ys →
      Forked free x y (.objectExpression span xs) (.objectExpression span ys)
  | propertyKey {span v v' kind method} : signature? v' = signature? v → free ∨ v = v' →
      Forked free x y (.property span x v kind true false method)
        (.property span y v' kind true false method)
  | propertyValue {span k kind computed shorthand method} :
      Forked free x y (.property span k x kind computed shorthand method)
        (.property span k y kind computed shorthand method)
  | spreadArgument {span} : Forked free x y (.spreadElement span x) (.spreadElement span y)
  | unaryArgument {span operator} :
      Forked free x y (.unary span operator x) (.unary span operator y)
  | updateArgument {span operator leading} :
      Forked free x y (.update span operator leading x) (.update span operator leading y)
  | binaryLeft {span operator r r'} : free ∨ r = r' →
      Forked free x y (.binary span x operator r) (.binary span y operator r')
  | binaryRight {span l operator} :
      Forked free x y (.binary span l operator x) (.binary span l operator y)
  | logicalLeft {span operator r r'} : free ∨ r = r' →
      Forked free x y (.logical span x operator r) (.logical span y operator r')
  | logicalRight {span l operator} :
      Forked free x y (.logical span l operator x) (.logical span l operator y)
  | assignmentLeft {span operator r r'} : free ∨ r = r' →
      Forked free x y (.assignment span x operator r) (.assignment span y operator r')
  | assignmentRight {span l operator} :
      Forked free x y (.assignment span l operator x) (.assignment span l operator y)
  | conditionalTest {span c c' a a'} : free ∨ (c, a) = (c', a') →
      Forked free x y (.conditional span x c a) (.conditional span y c' a')
  | conditionalConsequent {span t a a'} : free ∨ a = a' →
      Forked free x y (.conditional span t x a) (.conditional span t y a')
  | conditionalAlternate {span t c} :
      Forked free x y (.conditional span t c x) (.conditional span t c y)
  | callCallee {span xs ys o o'} : free ∨ (xs, o) = (ys, o') →
      Forked free x y (.call span x xs o) (.call span y ys o')
  | callArguments {span c optional xs ys} : ForkedIn free x y xs ys →
      Forked free x y (.call span c xs optional) (.call span c ys optional)
  | newCallee {span xs ys} : free ∨ xs = ys →
      Forked free x y (.newExpression span x xs) (.newExpression span y ys)
  | newArguments {span c xs ys} : ForkedIn free x y xs ys →
      Forked free x y (.newExpression span c xs) (.newExpression span c ys)
  | memberObject {span p p' computed o o'} : free ∨ (p, o) = (p', o') →
      Forked free x y (.member span x p computed o) (.member span y p' computed o')
  | memberProperty {span o computed optional} :
      Forked free x y (.member span o x computed optional) (.member span o y computed optional)
  | chain {span} : Forked free x y (.chain span x) (.chain span y)
  | sequence {span xs ys} : ForkedIn free x y xs ys →
      Forked free x y (.sequence span xs) (.sequence span ys)
  | awaitArgument {span} : Forked free x y (.awaitExpression span x) (.awaitExpression span y)
  | yieldArgument {span delegate} :
      Forked free x y (.yieldExpression span (some x) delegate)
        (.yieldExpression span (some y) delegate)
  | metaHead {span p p'} : free ∨ p = p' →
      Forked free x y (.metaProperty span x p) (.metaProperty span y p')
  | metaProperty {span h} : Forked free x y (.metaProperty span h x) (.metaProperty span h y)
  | patternProperties {span xs ys} : ForkedIn free x y xs ys →
      Forked free x y (.objectPattern span xs) (.objectPattern span ys)
  | patternElements {span xs ys} : ForkedIn free (some x) (some y) xs ys →
      Forked free x y (.arrayPattern span xs) (.arrayPattern span ys)
  | patternLeft {span r r'} : free ∨ r = r' →
      Forked free x y (.assignmentPattern span x r) (.assignmentPattern span y r')
  | patternRight {span l} :
      Forked free x y (.assignmentPattern span l x) (.assignmentPattern span l y)
  | restArgument {span} : Forked free x y (.restElement span x) (.restElement span y)

theorem forkedIn_of_replacedIn {α : Type} {a b : α} {as bs : List α} (h : ReplacedIn a b as bs) :
    ForkedIn free a b as bs := by
  induction h with
  | head => exact .here (.inr rfl)
  | tail _ ih => exact .there ih

/-- A tree and the tree with another part in the place of one fork at the part. -/
theorem forked_of_replaced {lexicon : Lexicon} (h : Node.Replaced x y node other)
    (hProper : node.Proper lexicon) : Forked free x y node other := by
  cases h
  case ifConsequent => exact .ifConsequent rfl (.inr rfl)
  case functionBody => exact .functionBody
  case methodKey => exact .methodKey rfl (.inr rfl)
  case propertyKey shorthand _ =>
    obtain rfl : shorthand = false := by simpa using hProper.2
    exact .propertyKey rfl (.inr rfl)
  case templateParts quasis xs _ hIn =>
    refine .templateParts ?_ (forkedIn_of_replacedIn hIn)
    rw [show quasis.length = xs.length + 1 from hProper]
    exact Nat.lt_succ_self _
  all_goals constructor <;> first | exact .inr rfl | exact forkedIn_of_replacedIn ‹_›

/-! ## Exchanged trees -/

theorem Exchange.of_forks (h : Exchange gap x y) (hSignature : signature? node = none)
    (hDeclaration : isDeclaration node = false) (hOutline : outline other = outline node)
    (hHints : gap.strict → hints other = hints node)
    (hForks : ∀ level, Forks gap.free x y (segments level node) (segments level other)) :
    Exchange gap node other :=
  .of_text hSignature hDeclaration hOutline hHints fun level _ _ hT hU =>
    h.spell (hForks level) (spell_segments hT) (spell_segments hU)

theorem methodWords_of_signature? (h : signature? other = signature? node) :
    methodWords other = methodWords node := by
  rw [methodWords, h, methodWords]

section Functions

variable {form : FunctionForm} {span : Span} {id : Option Node} {params xs ys : List Node}
  {b b' : Node} {isAsync isGenerator isExpression : Bool}

theorem spell_methodTail {t : Text} (h : methodTail level
    (.function form span id params b isAsync isGenerator isExpression) = .ok t) :
    spell (methodSegments level params b) = .ok t := by
  simp only [methodTail, bind_eq_ok, pure_eq_ok] at h
  obtain ⟨items, hItems, inner, hInner, rfl⟩ := h
  simpa using spell_methodSegments hItems hInner

theorem Exchange.functionParams (h : Exchange gap x y) (hIn : ForkedIn gap.free x y xs ys)
    (hBody : gap.free ∨ b = b') :
    Exchange gap (.function form span id xs b isAsync isGenerator isExpression)
      (.function form span id ys b' isAsync isGenerator isExpression) := by
  have hTail (level : Nat) :
      Forks gap.free x y (methodSegments level xs b) (methodSegments level ys b') :=
    (forks_items hIn).append_right (hBody.imp (·) fun hSame => by rw [hSame])
  refine .of_tail rfl (by cases form <;> rfl) (fun _ => rfl) (fun level t u hT hU => ?_)
    fun level t u hT hU => h.spell (hTail level) (spell_methodTail hT) (spell_methodTail hU)
  refine h.spell ?_ (spell_segments hT) (spell_segments hU)
  cases form with
  | arrow =>
    exact .there (.there ((forks_items hIn).append_right (hBody.imp (·) fun hSame => by rw [hSame])))
  | _ => exact .there (Forks.append_left (.there (hTail level)) _)

theorem Exchange.functionBody (h : Exchange gap x y) :
    Exchange gap (.function form span id params x isAsync isGenerator isExpression)
      (.function form span id params y isAsync isGenerator isExpression) := by
  have hTail (level : Nat) :
      Forks gap.free x y (methodSegments level params x) (methodSegments level params y) :=
    Forks.append_left (.there (.here (.inr rfl))) _
  refine .of_tail rfl (by cases form <;> rfl) (fun _ => rfl) (fun level t u hT hU => ?_)
    fun level t u hT hU => h.spell (hTail level) (spell_methodTail hT) (spell_methodTail hU)
  refine h.spell ?_ (spell_segments hT) (spell_segments hU)
  cases form with
  | arrow => exact .there (.there (Forks.append_left (.there (.here (.inr rfl))) _))
  | _ => exact .there (Forks.append_left (.there (hTail level)) _)

end Functions

/-- The head of a loop ends in front of the semicolon. -/
theorem spell_loopHead {span : Span} {kind : Text} {declarations : List Node} {t : Text}
    (h : printAt level (.variableDeclaration span kind declarations) = .ok t) :
    spell (headSegments level kind declarations) =
      .ok (loopHead (.variableDeclaration span kind declarations) t) := by
  simp only [printAt, bind_eq_ok, pure_eq_ok] at h
  obtain ⟨items, hItems, rfl⟩ := h
  rw [spell_headSegments hItems, ← List.append_assoc]
  exact congrArg Except.ok List.dropLast_concat.symm

theorem Exchange.declarations (h : Exchange gap x y) {span : Span} {kind : Text}
    {xs ys : List Node} (hIn : ForkedIn gap.free x y xs ys) :
    Exchange gap (.variableDeclaration span kind xs) (.variableDeclaration span kind ys) := by
  have hHead (level : Nat) :
      Forks gap.free x y (headSegments level kind xs) (headSegments level kind ys) :=
    .there (.there (forks_items hIn))
  refine ⟨rfl, fun _ => rfl, fun hT hU => ?_, (fun hT => by cases hT), fun hT hU => ?_⟩
  · exact h.spell ((hHead _).append_right (.inr rfl)) (spell_segments hT) (spell_segments hU)
  · exact h.spell (hHead _) (spell_loopHead hT) (spell_loopHead hU)

/-- Trees are exchanged if the parts are at which they fork. -/
theorem Exchange.forked (h : Exchange gap x y) (hForked : Forked gap.free x y node other) :
    Exchange gap node other := by
  have hSignature : signature? y = signature? x := congrArg Outline.signature? h.outline_eq
  cases hForked
  case functionParams hIn hSame => exact h.functionParams hIn hSame
  case functionBody => exact h.functionBody
  case declarations hIn => exact h.declarations hIn
  case memberObject hSame =>
    refine h.of_forks rfl rfl rfl (fun hStrict => ?_) fun level =>
      .here (hSame.imp id (by rintro ⟨⟩; rfl))
    have hCall : hasCall y = hasCall x := congrArg Hints.hasCall (h.hints_eq hStrict)
    simp only [hints, hasCall, hCall]
    rfl
  case className form _ _ _ _ _ hSame =>
    exact h.of_forks rfl rfl (by cases form <;> rfl) (fun _ => rfl) fun level =>
      .there (.there (.here (hSame.imp id (by rintro ⟨⟩; rfl))))
  case classSuper form _ _ _ _ hSame =>
    refine h.of_forks rfl rfl (by cases form <;> rfl) (fun _ => rfl) fun level => ?_
    exact .there ((Forks.append_left (.there (.here (.inr rfl))) _).append_right
      (hSame.imp (·) (by rintro ⟨⟩; rfl)))
  case classBody form _ _ _ =>
    exact h.of_forks rfl rfl (by cases form <;> rfl) (fun _ => rfl) fun level =>
      Forks.append_left (.there (.here (.inr rfl))) _
  all_goals refine h.of_forks rfl rfl rfl (fun _ => rfl) fun level => ?_
  case program hIn => exact .series (forksIn_lines hIn)
  case blockStatement hIn | classMembers hIn | objectProperties hIn =>
    exact forks_enclosed (forksIn_lines hIn)
  case staticBlock hIn => exact .there (forks_enclosed (forksIn_lines hIn))
  case switchCases hIn => exact .there (.there (.there (forks_enclosed (forksIn_lines hIn))))
  case caseTest hSame =>
    exact .series (.here (.there (.here (.inr rfl))) (hSame.imp id (by rintro ⟨⟩; rfl)))
  case caseBody t _ _ hIn => cases t <;> exact .series (.there (forksIn_lines hIn))
  case tryFinalizer handler =>
    exact .there (.there (Forks.append_left (.there (.here (.inr rfl)))
      (optional level " " handler)))
  case methodValue =>
    rw [segments, segments, methodWords_of_signature? hSignature]
    exact Forks.append_left (.there (.here (.inr rfl))) _
  case fieldValue =>
    exact .there ((Forks.append_left (.there (.here (.inr rfl))) _).append_right (.inr rfl))
  case templateParts hLength hIn =>
    exact .there ((forks_template hIn hLength).append_right (.inr rfl))
  case arrayElements hIn | patternElements hIn =>
    refine .there ((forks_elements hIn).append_right ?_)
    exact (closingComma_of_forkedIn hIn).imp (·) fun hSame => by rw [hSame]
  case propertyValue =>
    rw [segments, segments, methodWords_of_signature? hSignature]
    split_ifs
    · exact Forks.append_left (.there (.here (.inr rfl))) _
    · exact .here (.inr rfl)
    · exact Forks.append_left (.there (.here (.inr rfl))) _
  case callArguments hIn => exact .there (.there ((forks_items hIn).append_right (.inr rfl)))
  case newArguments hIn => exact .there (.there (.there ((forks_items hIn).append_right (.inr rfl))))
  case sequence hIn | patternProperties hIn =>
    exact .there ((forks_items hIn).append_right (.inr rfl))
  -- the number of segments in front depends on which parts there are
  case' ifTest a a' _ => cases a <;> cases a'
  case' ifConsequent a a' hSome _ => cases a <;> cases a' <;> try cases hSome
  case' declaratorName i i' _ => cases i <;> cases i'
  case' forTest i _ _ _ _ _ => cases i
  case' forStep i t _ _ _ => cases i <;> cases t
  case' forBody i t s => cases i <;> cases t <;> cases s
  case' catchBody p => cases p
  case' updateArgument leading => cases leading
  case' memberProperty computed _ => cases computed
  case' methodKey hWords _ | propertyKey hWords _ =>
    rw [segments, segments, methodWords_of_signature? hWords]
  case' propertyKey => split_ifs <;> try contradiction
  all_goals repeat first
    | exact Forks.here (.inr rfl)
    | refine Forks.here (Or.imp id ?_ ‹_ ∨ _›); rintro ⟨⟩ <;> rfl
    | apply Forks.there

/-- A tree is exchanged if one of its parts is. -/
theorem Exchange.replaced {lexicon : Lexicon} (h : Exchange gap x y)
    (hReplaced : Node.Replaced x y node other) (hProper : node.Proper lexicon) :
    Exchange gap node other :=
  h.forked (forked_of_replaced hReplaced hProper)

end Assay.Print
