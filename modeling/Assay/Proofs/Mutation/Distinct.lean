import Assay.Proofs.Concrete.Arranged
import Assay.Proofs.Mutation.Spread

/-!
# Mutants differ from each other

A variant of a node itself shows at the node, and a variant of a part shows there: so their texts
part at whichever comes first. By induction over the tree any two of its variants have texts that
are apart, but for a test that is forced to a truth value and a literal there that is turned into
the same one. Hence two mutants of a program have the same text only if they are such a pair:
`Mutation.mutants_distinct`.
-/

set_option autoImplicit false

namespace Assay

open Print Outcome

/-! ## Replaced items -/

theorem ReplacedIn.ne_nil {α : Type} {x y : α} {xs ys : List α} (h : ReplacedIn x y xs ys) :
    ys ≠ [] := by
  rintro rfl
  cases h

/-- The first item of a list with another item in the place of one. -/
theorem ReplacedIn.exists_cons {α : Type} {p : α → Prop} {x y : α} {xs ys : List α}
    (h : ReplacedIn x y xs ys) (hOld : ∀ item ∈ xs, p item) (hNew : p y) :
    ∃ first rest, ys = first :: rest ∧ p first := by
  cases h with
  | head => exact ⟨_, _, rfl, hNew⟩
  | tail => exact ⟨_, _, rfl, hOld _ List.mem_cons_self⟩

/-! ## Constant tests -/

/-- The test of a statement. -/
def Node.test? : Node → Option Node
  | .ifStatement _ test _ _ | .whileStatement _ test _ | .doWhileStatement _ _ test => some test
  | .forStatement _ _ test _ _ => test
  | _ => none

/-- Whether the test of a statement is the literal of a truth value. -/
def Node.isConstant (node : Node) : Bool :=
  [true, false].any fun value => Mutate.isLiteral value node.test?

namespace Mutate

open Variant

attribute [local simp] Node.parts Node.looseParts Node.placedParts Node.leadingParts

variable {limit : Int} {assertion sentinel : Text} {node : Node} {constant : Prop}

/-! ## Each variant -/

/-- A variant of a tree divides from the tree. -/
theorem divide_walk (hSentinel : sentinel ≠ []) (hPiece : Lexicon.isPiece sentinel = true)
    (h : node.Every (Node.Neat limit)) :
    ∀ a ∈ (walk (plainRules assertion sentinel) node).altered, Divide .wide a.whole node := by
  refine each_walk (r := fun _ node whole => Divide .wide whole node)
    (fun _ hNeat => hNeat.fits.proper) ?_ ?_ h
  · exact divide_own hSentinel hPiece
  · intro _ x y node other hNode hDivide hReplaced
    exact Divide.symm (hDivide.symm.replaced hReplaced hNode.here.fits.proper)

theorem kind_walk (h : node.Every (Node.Neat limit)) :
    ∀ a ∈ (walk (plainRules assertion sentinel) node).altered, a.whole.kind = node.kind :=
  fun a ha => (fair_walk (every_fits h) a ha).kind_eq

/-! ## Variants start well -/

theorem leading_boolLiteral (value : Bool) (span : Span) :
    (Build.boolLiteral value span).Every Node.Leading :=
  Node.every_iff.2 ⟨⟨.inl (.bool value _), by simp [Build.boolLiteral, Node.leadingParts]⟩,
    by simp [Build.boolLiteral]⟩

theorem kind_plainChain (node : Node) : (plainChain node).kind = node.kind := by
  fun_cases plainChain node <;> rfl

theorem leading_plainChain (h : node.Every Node.Leading) :
    (plainChain node).Every Node.Leading := by
  fun_induction plainChain node with
  | case1 span object property computed optional ih =>
    obtain ⟨hNode, hParts⟩ := Node.every_iff.1 h
    have hObject := hNode.operands object (by simp)
    simp only [Node.parts, Node.looseParts, Node.placedParts, List.append_nil, List.mem_cons,
      List.not_mem_nil, or_false, forall_eq_or_imp, forall_eq] at hParts
    refine Node.every_iff.2 ⟨⟨trivial, ?_⟩, ?_⟩
    · simpa [Node.leadingParts, kind_plainChain] using hObject
    · simpa using ⟨ih hParts.1, hParts.2⟩
  | case2 span callee arguments optional ih =>
    obtain ⟨hNode, hParts⟩ := Node.every_iff.1 h
    have hOperands := hNode.operands
    simp only [Node.leadingParts, List.mem_cons, forall_eq_or_imp] at hOperands
    simp only [Node.parts, Node.looseParts, Node.placedParts, List.append_nil, List.mem_cons,
      forall_eq_or_imp] at hParts
    refine Node.every_iff.2 ⟨⟨trivial, ?_⟩, ?_⟩
    · simpa [Node.leadingParts, kind_plainChain] using hOperands
    · simpa using ⟨ih hParts.1, hParts.2⟩
  | case3 => exact h

/-- The variants of a node itself start well. -/
theorem leading_own {a : Altered Node} (hPiece : Lexicon.isPiece sentinel = true)
    (h : node.Every (Node.Neat limit)) (hOwn : Own sentinel node a) :
    a.whole.Every Node.Leading := by
  have hLeading : node.Every Node.Leading := h.imp fun _ hNeat => hNeat.leading
  obtain ⟨⟨hStarts, hOperands⟩, hParts⟩ := Node.every_iff.1 hLeading
  cases hOwn with
  | binary | logical | assignment => exact Node.every_iff.2 ⟨⟨trivial, hOperands⟩, hParts⟩
  | unary hSwap | update hSwap =>
    exact Node.every_iff.2 ⟨⟨MutationKind.mem_operators (by decide) hSwap, hOperands⟩, hParts⟩
  | side => exact Node.every_iff.2 ⟨⟨hStarts, hOperands⟩, hParts⟩
  | bool =>
    cases h.here.fits.proper
    exact Node.every_iff.2 ⟨⟨.inl (.bool _ _), hOperands⟩, hParts⟩
  | string => exact Node.every_iff.2 ⟨⟨.inr ⟨rfl, rfl, _, rfl⟩, hOperands⟩, hParts⟩
  | template =>
    refine Node.every_iff.2 ⟨⟨?_, hOperands⟩, hParts⟩
    rintro _ ⟨⟩
    exact isPiece_blank hPiece _
  | array | object | block =>
    exact Node.every_iff.2 ⟨⟨trivial, List.forall_mem_nil _⟩, List.forall_mem_nil _⟩
  | @call _ callee =>
    have hCallee := hParts callee (by simp)
    exact Node.every_iff.2 ⟨⟨trivial, List.forall_mem_singleton.2 (hOperands callee (by simp))⟩,
      List.forall_mem_singleton.2 hCallee⟩
  | @new _ callee =>
    have hCallee := hParts callee (by simp)
    exact Node.every_iff.2 ⟨⟨trivial, List.forall_mem_nil _⟩, List.forall_mem_singleton.2 hCallee⟩
  | ifTest | whileTest | doTest | forTest =>
    refine Node.every_iff.2 ⟨⟨trivial, List.forall_mem_singleton.2 rfl⟩, ?_⟩
    simp only [forcedTo, Node.parts, Node.looseParts, Node.placedParts] at hParts ⊢
    grind [leading_boolLiteral]
  | @chain _ expression =>
    refine Node.every_iff.2 ⟨⟨?_, hOperands⟩, ?_⟩
    · simpa [whole, Node.StartsWell, kind_plainChain] using hStarts
    · exact List.forall_mem_singleton.2 (leading_plainChain (hParts expression (by simp)))

/-- A node starts as well with a part of the same kind in the place of one. -/
theorem leading_replaced {x y other : Node} (h : node.Leading) (hKind : y.kind = x.kind)
    (hReplaced : Node.Replaced x y node other) : other.Leading := by
  obtain ⟨hStarts, hOperands⟩ := h
  constructor
  · cases hReplaced
    case metaHead | taggedQuasi | chain => simpa [Node.StartsWell, hKind] using hStarts
    all_goals exact hStarts
  · cases hReplaced
    case arrayElements hIn =>
      intro part hPart
      obtain ⟨element, hElement, hSome⟩ := List.mem_flatMap.1 hPart
      rcases hIn.mem element hElement with hOld | rfl
      · exact hOperands part (List.mem_flatMap.2 ⟨element, hOld, hSome⟩)
      · obtain rfl : part = y := by simpa using hSome
        rw [hKind]
        exact hOperands x (mem_leading_array hIn.mem_left)
    all_goals
      simp only [Node.leadingParts] at hOperands ⊢
      grind [ReplacedIn.mem, ReplacedIn.mem_left]

/-- All variants of a tree start well. -/
theorem leading_walk (hPiece : Lexicon.isPiece sentinel = true)
    (h : node.Every (Node.Neat limit)) :
    ∀ a ∈ (walk (plainRules assertion sentinel) node).altered, a.whole.Every Node.Leading := by
  suffices hAll : ∀ a ∈ (walk (plainRules assertion sentinel) node).altered,
      a.whole.kind = node.kind ∧ a.whole.Every Node.Leading from fun a ha => (hAll a ha).2
  refine each_walk (r := fun _ node whole => whole.kind = node.kind ∧ whole.Every Node.Leading)
    (fun _ hNeat => hNeat.fits.proper) ?_ ?_ h
  · exact fun h hOwn => ⟨(fair_own (every_fits h) hOwn).kind_eq, leading_own hPiece h hOwn⟩
  · rintro _ x y node other hNode ⟨hKind, hLeading⟩ hReplaced
    refine ⟨hReplaced.kind_eq, Node.every_iff.2 ⟨?_, fun part hPart => ?_⟩⟩
    · exact leading_replaced hNode.here.leading hKind hReplaced
    · rcases hReplaced.mem_parts part hPart with hOld | rfl
      · exact (hNode.part hOld).imp fun _ hNeat => hNeat.leading
      · exact hLeading

/-- A variant of an operand with which a text starts. -/
theorem opening_variant (hPiece : Lexicon.isPiece sentinel = true)
    (h : node.Every (Node.Neat limit)) {part : Node} (hPart : part ∈ node.leadingParts) :
    ∀ a ∈ (walk (plainRules assertion sentinel) part).altered,
      ∀ level, Ensures (printAt level a.whole) (Opening a.whole) := by
  intro a ha
  have hInner := h.part (Node.mem_parts_of_leading hPart)
  refine opening_printAt (leading_walk hPiece hInner a ha) ?_
  rw [kind_walk hInner a ha]
  exact h.here.leading.operands part hPart

/-! ## Forced tests -/

/-- A variant that is the literal of a truth value comes from the other one. -/
theorem of_isLiteral {test : Node} (h : test.Every (Node.Neat limit)) {value : Bool}
    {a : Altered Node} (ha : a ∈ (walk (plainRules assertion sentinel) test).altered)
    (hLiteral : isLiteral value (some a.whole) = true) :
    a.kind = .booleanLiteral ∧
      (∃ raw, a.reported = .literal test.span (.bool value) raw none) ∧
        isLiteral (!value) (some test) = true := by
  have hKind := kind_walk h a ha
  have hProper := h.here.fits.proper
  obtain ⟨kind, reported, whole⟩ := a
  unfold isLiteral at hLiteral
  split at hLiteral
  · rename_i span v raw regex hWhole
    cases hWhole
    obtain rfl : v = value := by simpa using hLiteral
    cases test
    case literal =>
      rw [altered_walk, inner_eq (by rw [walk])] at ha
      rcases List.mem_append.1 ha with hOwn | hInner
      · cases own_of_mem hOwn
        cases hProper
        exact ⟨rfl, ⟨_, rfl⟩, by simp [isLiteral]⟩
      · cases hInner
    case' function form _ _ _ _ _ _ _ => cases form
    case' bare category _ => cases category
    case' classNode form _ _ _ _ => cases form
    all_goals cases hKind
  · cases hLiteral

theorem isName_of_kind_eq {other : Node} (h : other.kind = node.kind)
    (hName : other.isName = true) : node.isName = true := by
  cases other <;> cases hName
  cases node
  case identifier => rfl
  case' function form _ _ _ _ _ _ _ => cases form
  case' bare category _ => cases category
  case' classNode form _ _ _ _ => cases form
  all_goals cases h

/-- A test that is forced and a variant of the test are unlike, or they are twins. -/
theorem distinct_forced (hPiece : Lexicon.isPiece sentinel = true)
    (h : node.Every (Node.Neat limit)) {test : Node} (hTest : test ∈ node.leadingParts)
    {value : Bool} {b : Altered Node}
    (hb : b ∈ (walk (plainRules assertion sentinel) test).altered) {settled variant : Node}
    (hConstant : isLiteral (!value) (some test) = true → constant)
    (hDivide : Unlike value b.whole → Divide .wide variant settled) :
    Distinct constant ⟨.conditional, Build.boolLiteral value test.span, settled⟩
      ⟨b.kind, b.reported, variant⟩ := by
  have hInner := h.part (Node.mem_parts_of_leading hTest)
  cases hLiteral : isLiteral value (some b.whole) with
  | true =>
    obtain ⟨hKind, ⟨raw, hReported⟩, hOld⟩ := of_isLiteral hInner hb hLiteral
    exact .inr ⟨hConstant hOld, rfl, hKind, test.span, value, raw, rfl, hReported⟩
  | false =>
    refine .inl ⟨.wide, (hDivide fun level t hT rest hEq hEnd => ?_).symm⟩
    obtain ⟨-, hIs | hName⟩ :=
      (opening_variant hPiece h hTest b hb level t hT).word value rest hEq hEnd
    · rw [hLiteral] at hIs
      cases hIs
    · -- a name has no variants
      rw [altered_name (isName_of_kind_eq (kind_walk hInner b hb) hName)] at hb
      cases hb

/-! ## Chains -/

/-- A chain with plain links divides from each variant of the chain, at its first link that was
optional or in front of it. -/
theorem divide_chainVariant (hSentinel : sentinel ≠ []) (hPiece : Lexicon.isPiece sentinel = true)
    (h : node.Every (Node.Neat limit)) (hOptional : Lower.hasOptional node = true) :
    ∀ a ∈ (walk (plainRules assertion sentinel) node).altered,
      Divide .wide (plainChain node) a.whole := by
  -- without an optional link the base is what it was, which divides from its variants
  have hFront {base : Node} (hBase : base.Every (Node.Neat limit))
      (ih : Lower.hasOptional base = true → ∀ v ∈ (walk (plainRules assertion sentinel) base).altered,
        Divide .wide (plainChain base) v.whole) :
      ∀ v ∈ (walk (plainRules assertion sentinel) base).altered,
        Divide .wide (plainChain base) v.whole := by
    cases hInner : Lower.hasOptional base with
    | true => exact ih hInner
    | false =>
      rw [plainChain_eq hInner]
      exact fun v hv => (divide_walk hSentinel hPiece hBase v hv).symm
  fun_induction plainChain node with
  | case1 span object property computed optional ih =>
    have hObject : object ∈ (Node.member span object property computed optional).parts := by
      simp
    rintro ⟨kind, reported, other⟩ ha
    rw [altered_walk] at ha
    obtain ⟨part, v, hv, hReplaced, -⟩ := stems_inner h.here.fits.proper _ ha
    cases hReplaced with
    | memberObject =>
      have hVariants := hFront (h.part hObject) (ih (h.part hObject))
      exact (hVariants v hv).forked (.memberObject (.inl trivial))
    | memberProperty =>
      exact divide_plainMember (divide_plainChain (every_fits (h.part hObject)))
        (solid_part h hObject) hOptional _
  | case2 span callee arguments optional ih =>
    have hCallee : callee ∈ (Node.call span callee arguments optional).parts := by
      simp
    have hSame := @divide_plainCall span callee arguments optional
      (divide_plainChain (every_fits (h.part hCallee))) (solid_part h hCallee) hOptional
    rintro ⟨kind, reported, other⟩ ha
    rw [altered_walk] at ha
    rcases List.mem_append.1 ha with hOwn | hInner
    · cases own_of_mem hOwn
      exact hSame []
    · obtain ⟨part, v, hv, hReplaced, -⟩ := stems_inner h.here.fits.proper _ hInner
      cases hReplaced with
      | callCallee =>
        have hVariants := hFront (h.part hCallee) (ih (h.part hCallee))
        exact (hVariants v hv).forked (.callCallee (.inl trivial))
      | callArguments => exact hSame _
  | case3 node hMember hCall =>
    rw [hasOptional_eq_false hMember hCall] at hOptional
    cases hOptional

/-! ## Variants of a node and of its parts -/

/-- The variants of a node itself are distinct from those that come from a part: `other` is the node
with the variant `v` of the part. -/
def OwnDistinct (assertion sentinel : Text) (constant : Prop) (node : Node) : Prop :=
  ∀ {a part v other}, Own sentinel node a →
    v ∈ (walk (plainRules assertion sentinel) part).altered → Divide .wide part v.whole →
      Node.Replaced part v.whole node other → Distinct constant a ⟨v.kind, v.reported, other⟩

section Own

variable {span : Span} {operator : Text} {left right argument callee test body consequent : Node}
  {items : List Node} {elements : List (Option Node)} {init step alternate : Option Node}
  {leading optional : Bool}

/-- Another operator shows behind the left operand, a variant of that operand before it. -/
theorem ownDistinct_binary (h : (Node.binary span left operator right).Every (Node.Neat limit)) :
    OwnDistinct assertion sentinel constant (.binary span left operator right) := by
  intro a part v other hOwn _ hVariant hReplaced
  have hLeft : Solid left := solid_part h (by simp)
  cases hOwn with
  | binary _ hSwap =>
    cases hReplaced with
    | binaryLeft => exact .of_divide (divide_binaryLeft hVariant)
    | binaryRight =>
      exact .of_divide (divide_binaryOperator hLeft
        (List.rel_of_pairwise_cons (MutationKind.parted_swaps _ _ _) hSwap)).symm

/-- Logical operators show as the binary ones do. -/
theorem ownDistinct_logical (h : (Node.logical span left operator right).Every (Node.Neat limit)) :
    OwnDistinct assertion sentinel constant (.logical span left operator right) := by
  intro a part v other hOwn _ hVariant hReplaced
  have hLeft : Solid left := solid_part h (by simp)
  cases hOwn with
  | logical hSwap =>
    cases hReplaced with
    | logicalLeft => exact .of_divide (divide_logicalLeft hVariant)
    | logicalRight =>
      exact .of_divide (divide_logicalOperator hLeft
        (List.rel_of_pairwise_cons (MutationKind.parted_swaps _ _ _) hSwap)).symm

/-- Operators of assignments show behind their targets. -/
theorem ownDistinct_assignment
    (h : (Node.assignment span left operator right).Every (Node.Neat limit)) :
    OwnDistinct assertion sentinel constant (.assignment span left operator right) := by
  intro a part v other hOwn _ hVariant hReplaced
  have hLeft : Solid left := solid_part h (by simp)
  cases hOwn with
  | assignment hSwap =>
    cases hReplaced with
    | assignmentLeft => exact .of_divide (divide_assignmentLeft hVariant)
    | assignmentRight =>
      exact .of_divide (divide_assignmentOperator hLeft
        (List.rel_of_pairwise_cons (MutationKind.parted_swaps _ _ _) hSwap)).symm

/-- A sign shows in front of its argument. -/
theorem ownDistinct_unary :
    OwnDistinct assertion sentinel constant (.unary span operator argument) := by
  intro a part v other hOwn _ _ hReplaced
  cases hOwn with
  | unary hSwap =>
    cases hReplaced
    exact .of_divide (divide_unaryOperator
      (List.rel_of_pairwise_cons (MutationKind.apart_swaps (.inl rfl) _ _) hSwap)).symm

/-- An emptied object ends where the other one has its first line. -/
theorem ownDistinct_object :
    OwnDistinct assertion sentinel constant (.objectExpression span items) := by
  intro a part v other hOwn _ _ hReplaced
  cases hOwn
  cases hReplaced with
  | objectProperties hIn => exact .of_divide (divide_emptiedObject hIn.ne_nil).symm

/-- And so does an emptied block. -/
theorem ownDistinct_block :
    OwnDistinct assertion sentinel constant (.blockStatement span items) := by
  intro a part v other hOwn _ _ hReplaced
  cases hOwn
  cases hReplaced with
  | blockStatement hIn => exact .of_divide (divide_emptiedBlock hIn.ne_nil).symm

/-- A node with a test that is the literal of a truth value is constant. -/
theorem constant_of_test (hConstant : node.isConstant = true → constant) {value : Bool}
    (hIs : isLiteral value node.test? = true) : constant :=
  hConstant (List.any_eq_true.2 ⟨value, by cases value <;> simp, hIs⟩)

variable (hSentinel : sentinel ≠ []) (hPiece : Lexicon.isPiece sentinel = true)

include hPiece

/-- The other operator, or the other side of the argument, shows in front of any argument. -/
theorem ownDistinct_update
    (h : (Node.update span operator leading argument).Every (Node.Neat limit)) :
    OwnDistinct assertion sentinel constant (.update span operator leading argument) := by
  intro a part v other hOwn hv hVariant hReplaced
  have hProper := h.here.fits.proper
  have hLead : argument ∈ (Node.update span operator leading argument).leadingParts :=
    List.mem_cons_self
  cases hReplaced
  cases hOwn with
  | update hSwap =>
    exact .of_divide (divide_updateArgument hVariant.symm
      (List.rel_of_pairwise_cons (MutationKind.apart_swaps (.inr rfl) _ _) hSwap)).symm
  | side =>
    cases leading with
    | true => exact .of_divide (divide_flippedArgument hProper (opening_part h hLead)).symm
    | false =>
      exact .of_divide (divide_flippedArgument hProper (opening_variant hPiece h hLead v hv))

/-- A collection with items shows the first of them, or its variant, where the emptied one ends. -/
theorem ownDistinct_array (h : (Node.arrayExpression span elements).Every (Node.Neat limit)) :
    OwnDistinct assertion sentinel constant (.arrayExpression span elements) := by
  intro a part v other hOwn hv _ hReplaced
  cases hOwn
  cases hReplaced with
  | arrayElements hIn =>
    refine .of_divide (divide_emptiedArray hIn.ne_nil fun first hFirst => ?_).symm
    rcases hIn.mem _ (List.mem_of_head? hFirst) with hOld | hNew
    · exact opening_part h (mem_leading_array hOld)
    · cases hNew
      exact opening_variant hPiece h (mem_leading_array hIn.mem_left) v hv

/-- The arguments of a call show behind its callee. -/
theorem ownDistinct_call (h : (Node.call span callee items optional).Every (Node.Neat limit)) :
    OwnDistinct assertion sentinel constant (.call span callee items optional) := by
  intro a part v other hOwn hv hVariant hReplaced
  have hCallee : Solid callee := solid_part h (by simp)
  cases hOwn
  cases hReplaced with
  | callCallee => exact .of_divide (hVariant.forked (.callCallee (.inl trivial)))
  | callArguments hIn =>
    obtain ⟨first, rest, rfl, hFirst⟩ := hIn.exists_cons
      (fun item hItem => opening_part h (List.mem_cons_of_mem _ hItem))
      (opening_variant hPiece h (List.mem_cons_of_mem _ hIn.mem_left) v hv)
    exact .of_divide (divide_emptiedCall hCallee hFirst).symm

/-- And so do those of a construction. -/
theorem ownDistinct_new (h : (Node.newExpression span callee items).Every (Node.Neat limit)) :
    OwnDistinct assertion sentinel constant (.newExpression span callee items) := by
  intro a part v other hOwn hv hVariant hReplaced
  cases hOwn
  cases hReplaced with
  | newCallee => exact .of_divide (hVariant.forked (.newCallee (.inl trivial)))
  | newArguments hIn =>
    obtain ⟨first, rest, rfl, hFirst⟩ := hIn.exists_cons
      (fun item hItem => opening_part h hItem) (opening_variant hPiece h hIn.mem_left v hv)
    exact .of_divide (divide_emptiedNew hFirst).symm

/-- A forced test shows before what is behind the test, and against a variant of the test unless
that is the same literal. -/
theorem ownDistinct_if
    (h : (Node.ifStatement span test consequent alternate).Every (Node.Neat limit))
    (hConstant : (Node.ifStatement span test consequent alternate).isConstant = true → constant) :
    OwnDistinct assertion sentinel constant (.ifStatement span test consequent alternate) := by
  intro a part v other hOwn hv _ hReplaced
  cases hOwn with
  | ifTest hLiteral =>
    cases hReplaced with
    | ifTest =>
      exact distinct_forced hPiece h List.mem_cons_self hv (constant_of_test hConstant)
        fun hOther => divide_ifTest hOther
    | ifConsequent | ifAlternate =>
      exact .of_divide (divide_ifTest (unlike_part h List.mem_cons_self (by simp)
        h.here.fits.proper.1 hLiteral)).symm

/-- The test of a loop shows before its body. -/
theorem ownDistinct_while (h : (Node.whileStatement span test body).Every (Node.Neat limit))
    (hConstant : (Node.whileStatement span test body).isConstant = true → constant) :
    OwnDistinct assertion sentinel constant (.whileStatement span test body) := by
  intro a part v other hOwn hv _ hReplaced
  cases hOwn with
  | whileTest hLiteral =>
    cases hReplaced with
    | whileTest =>
      exact distinct_forced hPiece h List.mem_cons_self hv (constant_of_test hConstant)
        fun hOther => divide_whileTest hOther
    | whileBody =>
      exact .of_divide (divide_whileTest (unlike_part h List.mem_cons_self (by simp)
        h.here.fits.proper hLiteral)).symm

/-- This loop has its test behind its body. -/
theorem ownDistinct_doWhile (h : (Node.doWhileStatement span body test).Every (Node.Neat limit))
    (hConstant : (Node.doWhileStatement span body test).isConstant = true → constant) :
    OwnDistinct assertion sentinel constant (.doWhileStatement span body test) := by
  intro a part v other hOwn hv hVariant hReplaced
  cases hOwn
  cases hReplaced with
  | doBody => exact .of_divide (hVariant.forked (.doBody (.inl trivial)))
  | doTest =>
    exact distinct_forced hPiece h List.mem_cons_self hv (constant_of_test hConstant)
      fun hOther => divide_doTest hOther

/-- Only what initializes this loop stands before its test, which may be absent. -/
theorem ownDistinct_for {test : Option Node}
    (h : (Node.forStatement span init test step body).Every (Node.Neat limit))
    (hConstant : (Node.forStatement span init test step body).isConstant = true → constant) :
    OwnDistinct assertion sentinel constant (.forStatement span init test step body) := by
  intro a part v other hOwn hv hVariant hReplaced
  cases hOwn with
  | @forTest _ _ _ _ _ value hLiteral =>
    have hUnlike : ∀ part ∈ test, Unlike value part := by
      rintro part rfl
      exact unlike_part h (by simp) (by simp) (h.here.fits.proper part rfl) hLiteral
    cases hReplaced with
    | forInit => exact .of_divide (hVariant.forked (.forInit (.inl trivial)))
    | forTest =>
      refine distinct_forced hPiece h (by simp) hv (constant_of_test hConstant) fun hOther => ?_
      exact divide_forTest (by rintro _ ⟨⟩; exact hOther)
    | forStep | forBody => exact .of_divide (divide_forTest hUnlike).symm

include hSentinel

/-- The first piece of a template stands before the substitutions. -/
theorem ownDistinct_template
    {quasis : List Quasi} (h : (Node.templateLiteral span quasis items).Every (Node.Neat limit)) :
    OwnDistinct assertion sentinel constant (.templateLiteral span quasis items) := by
  intro a part v other hOwn _ _ hReplaced
  cases hOwn with
  | @template _ first rest =>
    have hLength : rest.length = items.length := Nat.succ.inj h.here.fits.proper
    cases hReplaced with
    | @templateParts _ _ _ ys hIn =>
      have hOther : ys.length = items.length := hIn.length_eq
      exact .of_divide (divide_template (h.here.leading.starts first rfl) (isPiece_blank hPiece _)
        (eq_nil_iff_blank hSentinel _) (hLength.trans hOther.symm) hLength hOther).symm

/-- A chain with plain links differs from the chain with a variant in it. -/
theorem ownDistinct_chain {expression : Node}
    (h : (Node.chain span expression).Every (Node.Neat limit)) :
    OwnDistinct assertion sentinel constant (.chain span expression) := by
  intro a part v other hOwn hv _ hReplaced
  cases hOwn
  cases hReplaced
  have hInner := h.part (List.mem_singleton_self expression)
  have hChain := divide_chainVariant hSentinel hPiece hInner h.here.fits.proper v hv
  exact .of_divide (hChain.forked .chain)

/-- A variant of a node itself and one that comes from a part are distinct. -/
theorem distinct_own
    (h : node.Every (Node.Neat limit)) (hConstant : node.isConstant = true → constant) :
    ∀ a ∈ own (plainRules assertion sentinel) node,
      ∀ b ∈ (inner (plainRules assertion sentinel) node).altered, Distinct constant a b := by
  intro a ha b hb
  obtain ⟨part, v, hv, hReplaced, hB⟩ := stems_inner h.here.fits.proper b hb
  have hPart := h.part hReplaced.mem_left
  have hVariant : Divide .wide part v.whole := (divide_walk hSentinel hPiece hPart v hv).symm
  have hOwn := own_of_mem ha
  suffices hNode : OwnDistinct assertion sentinel constant node by
    rw [hB]
    exact hNode hOwn hv hVariant hReplaced
  cases hOwn with
  | binary => exact ownDistinct_binary h
  | logical => exact ownDistinct_logical h
  | assignment => exact ownDistinct_assignment h
  | unary => exact ownDistinct_unary
  | update | side => exact ownDistinct_update hPiece h
  | bool | string => cases hReplaced
  | template => exact ownDistinct_template hSentinel hPiece h
  | array => exact ownDistinct_array hPiece h
  | object => exact ownDistinct_object
  | block => exact ownDistinct_block
  | call => exact ownDistinct_call hPiece h
  | new => exact ownDistinct_new hPiece h
  | ifTest => exact ownDistinct_if hPiece h hConstant
  | whileTest => exact ownDistinct_while hPiece h hConstant
  | doTest => exact ownDistinct_doWhile hPiece h hConstant
  | forTest => exact ownDistinct_for hPiece h hConstant
  | chain => exact ownDistinct_chain hSentinel hPiece h

/-! ## Any two variants -/

/-- Any two variants of a tree are distinct, and so are a variant and the tree. -/
theorem spread_walk (h : node.Every (Node.Neat limit))
    (hConstant : node.Every fun node => node.isConstant = true → constant) :
    (walk (plainRules assertion sentinel) node).Spread (Distinct constant) := by
  induction h with
  | @mk node hNode hParts ih =>
    have h : node.Every (Node.Neat limit) := ⟨hNode, hParts⟩
    have hInner := spread_inner hNode.fits.proper
      (fun part hPart => divide_walk hSentinel hPiece (hParts part hPart))
      (fun part hPart => ih part hPart (hConstant.part hPart))
    constructor
    · rw [altered_walk]
      refine List.pairwise_append.2 ⟨?_, ?_, distinct_own hSentinel hPiece h hConstant.here⟩
      · exact (pairwise_own h).imp .of_divide
      · exact hInner.pairs.imp Within.distinct
    · intro a ha kind reported
      rw [walk_before]
      exact .of_divide (divide_walk hSentinel hPiece h a ha)

end Own

end Mutate

/-! ## Any two mutants -/

/-- A mutant that forces a test to a truth value, and one that puts the same truth value in the
place of the literal that is the test. -/
structure Mutant.Twins (first second : Mutant) : Prop where
  forced : first.kind = .conditional
  turned : second.kind = .booleanLiteral
  range_eq : first.range = second.range
  text : ∃ value, first.mutatedText = boolText value ∧ second.mutatedText = boolText value

namespace Mutation

open Mutate

/-- Each mutant is that of a variant. -/
theorem mem_mutantsFrom {code : Text} {id : Nat} {variants : List (Altered Node)}
    {mutants : List Mutant} (h : mutantsFrom code id variants = .ok mutants) :
    ∀ mutant ∈ mutants, ∃ a ∈ variants, ∃ i, mutantOf code i a = .ok mutant := by
  induction variants generalizing id mutants with
  | nil =>
    cases h
    simp
  | cons first rest ih =>
    obtain ⟨mutant, hMutant, hRest⟩ := bind_eq_ok.1 h
    obtain ⟨others, hOthers, hAll⟩ := bind_eq_ok.1 hRest
    cases hAll
    refine List.forall_mem_cons.2 ⟨⟨first, List.mem_cons_self, id, hMutant⟩, ?_⟩
    intro other hOther
    obtain ⟨a, ha, hShown⟩ := ih hOthers other hOther
    exact ⟨a, List.mem_cons_of_mem _ ha, hShown⟩

/-- What holds of any two variants carries over to their mutants. -/
theorem pairwise_mutantsFrom {code : Text} {r : Altered Node → Altered Node → Prop}
    {q : Mutant → Mutant → Prop}
    (hPair : ∀ {a b i j first second}, r a b → mutantOf code i a = .ok first →
      mutantOf code j b = .ok second → q first second)
    {id : Nat} {variants : List (Altered Node)} {mutants : List Mutant}
    (h : mutantsFrom code id variants = .ok mutants) (hVariants : variants.Pairwise r) :
    mutants.Pairwise q := by
  induction variants generalizing id mutants with
  | nil =>
    cases h
    exact .nil
  | cons first rest ih =>
    obtain ⟨mutant, hMutant, hRest⟩ := bind_eq_ok.1 h
    obtain ⟨others, hOthers, hAll⟩ := bind_eq_ok.1 hRest
    cases hAll
    obtain ⟨hFirst, hPairs⟩ := List.pairwise_cons.1 hVariants
    refine List.pairwise_cons.2 ⟨fun other hOther => ?_, ih hOthers hPairs⟩
    obtain ⟨a, ha, j, hShown⟩ := mem_mutantsFrom hOthers other hOther
    exact hPair (hFirst a ha) hMutant hShown

/-- The variants of a program that was read, as `generate` has them. -/
theorem mutantsFrom_of_generate {config : Config} {sentinel : Text}
    (hSentinel : config.sentinel = .text sentinel) {detail : Bool} {script : Script}
    {program : Node} (hParse : script.parse = .ok program) {mutation : Mutation}
    (h : generate config detail {} script = .ok mutation) :
    mutantsFrom script.code 1
      (walk (Variant.plainRules config.assertion sentinel) program).altered =
        .ok mutation.mutants := by
  obtain ⟨other, settled, hRead, -, hMutants, -⟩ := generate_eq_ok.mp h
  rw [Script.read, hParse] at hRead
  cases hRead
  rwa [rules_eq_plainRules hSentinel] at hMutants

/-- Mutants of distinct variants have the same text only if they are twins. -/
theorem twins_of_distinct {code : Text} {constant : Prop} {a b : Altered Node} {i j : Nat}
    {first second : Mutant} (h : Distinct constant a b) (hFirst : mutantOf code i a = .ok first)
    (hSecond : mutantOf code j b = .ok second)
    (hSame : first.mutatedSource = second.mutatedSource) : constant ∧ first.Twins second := by
  simp only [mutantOf, bind_eq_ok] at hFirst hSecond
  obtain ⟨source, hSource, range, hRange, text, hText, hFirst⟩ := hFirst
  obtain ⟨other, hOther, place, hPlace, word, hWord, hSecond⟩ := hSecond
  cases hFirst
  cases hSecond
  rcases h with ⟨rift, hDivide⟩ | ⟨hConstant, hKind, hOtherKind, span, value, raw, hForced, hTurned⟩
  · have hApart := hDivide.text (Node.print_of_write hSource) (Node.print_of_write hOther)
    exact absurd hSame hApart.parted.ne
  · rw [hForced] at hRange hText
    rw [hTurned] at hPlace hWord
    have hRanges : range = place := Except.ok.inj (hRange.symm.trans hPlace)
    have hTexts : Except.ok (boolText value) = .ok text := hText
    have hWords : Except.ok (boolText value) = .ok word := hWord
    exact ⟨hConstant, hKind, hOtherKind, hRanges, value, (Except.ok.inj hTexts).symm,
      (Except.ok.inj hWords).symm⟩

/-- Two mutants of a program have the same text only if one forces a test and the other one turns
the literal that is the test; a program without such tests has no two mutants with the same
text. -/
theorem mutants_distinct {config : Config} {sentinel : Text}
    (hSentinel : config.sentinel = .text sentinel) (hPiece : Lexicon.isPiece sentinel = true)
    (detail : Bool) {script : Script} {program : Node} (hGrammar : script.isGrammatical = true)
    (hSpelled : script.isSpelled Lexicon.strict = true) (hArranged : script.isArranged = true)
    (hParse : script.parse = .ok program) :
    ∃ mutation, generate config detail {} script = .ok mutation ∧
      (mutation.mutants.Pairwise fun first second =>
        first.mutatedSource = second.mutatedSource → first.Twins second) ∧
      (program.Every (fun node => node.isConstant = false) →
        mutation.mutants.Pairwise fun first second =>
          first.mutatedSource ≠ second.mutatedSource) := by
  have hNonempty : sentinel ≠ [] := by
    rintro rfl
    have hConfig := config.sentinel_not_empty
    rw [hSentinel] at hConfig
    cases hConfig
  have hFits := (script.parse_fits hGrammar hSpelled hParse).1
  have hNeat : program.Every (Node.Neat script.code.length) :=
    (hFits.and (script.parse_arranged hArranged hParse)).imp fun _ ⟨hFits, hArranged⟩ =>
      ⟨hFits, hFits.leading hArranged⟩
  obtain ⟨beautified, mutants, -, hGenerate, -⟩ :=
    exists_generate hSentinel detail hGrammar hParse
  have hPairs {constant : Prop}
      (hConstant : program.Every fun node => node.isConstant = true → constant) :
      mutants.Pairwise fun first second => first.mutatedSource = second.mutatedSource →
        constant ∧ first.Twins second :=
    pairwise_mutantsFrom twins_of_distinct (mutantsFrom_of_generate hSentinel hParse hGenerate)
      (spread_walk hNonempty hPiece hNeat hConstant).pairs
  refine ⟨_, hGenerate, ?_, fun hNone => ?_⟩
  · have hMay : program.Every fun node => node.isConstant = true → True :=
      hNeat.imp fun _ _ _ => trivial
    exact (hPairs hMay).imp fun hTwins hSame => (hTwins hSame).2
  · have hNever : program.Every fun node => node.isConstant = true → False :=
      hNone.imp fun node hNot hIs => Bool.false_ne_true (hNot.symm.trans hIs)
    exact (hPairs hNever).imp fun hTwins hSame => (hTwins hSame).1

/-- The test of `if (a) b?.c;` is no literal, so that its mutants are all different. -/
theorem mutants_distinct_openIf :
    Script.openIf.isGrammatical = true ∧ Script.openIf.isSpelled Lexicon.strict = true ∧
      Script.openIf.isArranged = true ∧ Script.openIf.parse = .ok Script.openIfTree ∧
      ∃ mutation, generate Config.default false {} Script.openIf = .ok mutation ∧
        mutation.mutants.Pairwise fun first second =>
          first.mutatedSource ≠ second.mutatedSource := by
  have hGrammar : Script.openIf.isGrammatical = true := by decide
  have hSpelled : Script.openIf.isSpelled Lexicon.strict = true := by decide
  have hArranged : Script.openIf.isArranged = true := by decide
  have hParse : Script.openIf.parse = .ok Script.openIfTree := rfl
  have hSentinel : Config.default.sentinel = .text "__mutated__" := rfl
  have hPiece : Lexicon.isPiece "__mutated__" = true := by decide
  obtain ⟨mutation, hGenerate, -, hDistinct⟩ :=
    mutants_distinct hSentinel hPiece false hGrammar hSpelled hArranged hParse
  refine ⟨hGrammar, hSpelled, hArranged, hParse, mutation, hGenerate, hDistinct ?_⟩
  unfold Script.openIfTree
  repeat' first
    | apply And.intro
    | refine Node.every_iff.2 ⟨rfl, ?_⟩
      simp only [Node.parts, Node.looseParts, Node.placedParts, List.append_nil, Option.toList_none,
        List.forall_mem_cons, and_true, List.not_mem_nil, false_implies, implies_true]

/-- The program `if (true) a;` as it comes from the grammar. -/
def constantIf : Script where
  code := "if (true) a;"
  tree :=
    .part .program 0 12 "" [.part .ifStatement 0 12 ""
      [.token 0 2 "if" "",
       .part .parenthesizedExpression 3 9 "condition"
        [.token 3 4 "(" "", .part .trueKeyword 4 8 "" [], .token 8 9 ")" ""],
       .part .expressionStatement 10 12 "consequence"
        [.part .identifier 10 11 "" [], .token 11 12 ";" ""]]]

/-- The only two mutants of `if (true) a;` have the same text. -/
theorem mutants_constantIf :
    constantIf.isGrammatical = true ∧ constantIf.isSpelled Lexicon.strict = true ∧
      constantIf.isArranged = true ∧
      (generate Config.default false {} constantIf).toOption.map (fun mutation =>
        mutation.mutants.map fun mutant => (mutant.kind, mutant.mutatedSource)) =
          some [(MutationKind.conditional, Text.ofString "if (false) a;"),
            (MutationKind.booleanLiteral, Text.ofString "if (false) a;")] :=
  ⟨by decide, by decide, by decide, rfl⟩

end Mutation

end Assay
