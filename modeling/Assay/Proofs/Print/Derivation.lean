import Assay.Proofs.Print.Links

/-!
# Printed expressions are derived from the grammar

One lemma a form of expression puts the texts of the operands together: what the printer writes is
read token by token, and the tokens are derived with the tree that was printed. `Formed.printed`
goes through all trees, and `print_derives` is the result: parentheses and spaces are where the
grammar needs them.
-/

set_option autoImplicit false

namespace Assay.Grammar

variable {span : Span} {operator : String} {tree argument : Node} {text : Text}
  {alphabet : Alphabet} {level : Nat}

theorem precedence_of_isReference (h : isReference tree = true) : 19 ≤ Print.precedence tree := by
  fun_cases isReference tree with
  | case1 => exact (by decide : 19 ≤ 20)
  | case2 => exact (by decide : 19 ≤ 19)
  | case3 => simp [isReference] at h

theorem not_tight {rank : Nat} {p : Prop} (h : rank < 15) (hTight : 15 ≤ rank) : p := by
  omega

/-! ## Operators -/

/-- An operator of a table is a terminal with the nonterminal of its production, and its operands may
stand in parentheses. -/
theorem exists_production {productions : List Production}
    (h : productions ∈ [binaryProductions, logicalProductions])
    (hOperator : operator ∈ productions.flatMap (·.operators)) :
    ∃ production ∈ productions, operator ∈ production.operators ∧
      operatorSymbol productions operator = production.whole ∧ isTerminal operator = true ∧
      Symbol.primary.rises production.left = true ∧
      Symbol.primary.rises production.right = true := by
  have hAll : ∀ productions ∈ [binaryProductions, logicalProductions],
      ∀ operator ∈ productions.flatMap (·.operators),
        ∃ production ∈ productions, operator ∈ production.operators ∧
          operatorSymbol productions operator = production.whole ∧
          isTerminal (Text.ofString operator) = true ∧
          Symbol.primary.rises production.left = true ∧
          Symbol.primary.rises production.right = true := by
    decide +kernel
  exact hAll productions h operator hOperator

section

variable {left right : Node} {first second : Text} {tokens others : List Token}
  (hLeft : Printed alphabet level false left first tokens)
  (hFormedLeft : Formed alphabet false left)
  (hRight : Printed alphabet level false right second others)
  (hFormedRight : Formed alphabet false right)

include hLeft hFormedLeft hRight hFormedRight

/-- A binary or logical operator between its operands. -/
theorem Printed.operation {tree : Node} {rank : Nat} {productions : List Production}
    (hFits : ∀ tree, Formed alphabet false tree → fitsAll rank productions tree = true)
    (hProductions : productions ∈ [binaryProductions, logicalProductions])
    (hOperator : operator ∈ productions.flatMap (·.operators))
    (hPrint : Print.printAt level tree = do
      let leftParens ← Print.needsParens left rank operator .left
      let leftText := Print.wrap leftParens (← Print.printAt level left)
      let rightParens ← Print.needsParens right rank operator .right
      return leftText ++ " " ++ Text.ofString operator ++ " " ++
        Print.wrap rightParens (← Print.printAt level right))
    (hRank : Print.precedence tree < 15) (hHome : home tree = operatorSymbol productions operator)
    (hTree : ∀ {production tokens others}, production ∈ productions →
      operator ∈ production.operators → Derives alphabet production.left tokens left →
      Derives alphabet production.right others right →
      Derives alphabet production.whole (tokens ++ [terminal operator] ++ others) tree) :
    IsPrinted alphabet level false tree := by
  obtain ⟨production, hProduction, hMember, hSymbol, hTerminal, hLeftPrimary, hRightPrimary⟩ :=
    exists_production hProductions hOperator
  obtain ⟨leftParens, hLeftParens, hLeftRise⟩ :=
    (exists_parens (hFits left hFormedLeft) hProduction hMember).1
  obtain ⟨rightParens, hRightParens, hRightRise⟩ :=
    (exists_parens (hFits right hFormedRight) hProduction hMember).2
  obtain ⟨leftTokens, hLeftReads, hLeftDerives⟩ := hLeft.operand hFormedLeft hLeftRise hLeftPrimary
  obtain ⟨rightTokens, hRightReads, hRightDerives⟩ :=
    hRight.operand hFormedRight hRightRise hRightPrimary
  have hReads := Reads.operator hTerminal hLeftReads.closing (by decide) hRightReads.closing
  have hEnds : ends tree = closes := if_pos (by omega)
  refine ⟨_, _, ?_, hEnds ▸ hReads, not_tight hRank, ?_⟩
  · rw [hPrint, hLeftParens, hLeft.print, hRightParens, hRight.print]
    rfl
  · rw [if_neg Bool.false_ne_true, hHome, hSymbol]
    exact hTree hProduction hMember hLeftDerives hRightDerives

/-- An operator that evaluates both operands. -/
theorem Printed.binary {span : Span} {operator : String} {rank : Nat}
    (hRank : (operator, rank) ∈ Print.operatorRanks)
    (hLogical : operator ∉ Lower.logicalOperators) :
    IsPrinted alphabet level false (.binary span left operator right) :=
  hLeft.operation hFormedLeft hRight hFormedRight (fun _ hFormed => hFormed.fits.1) (by simp)
    (mem_binaryOperators hRank hLogical) rfl (by decide : 14 < 15) rfl .binary

/-- An operator that may leave out its right operand. -/
theorem Printed.logical {span : Span} {operator : String}
    (hLogical : operator ∈ Lower.logicalOperators) :
    IsPrinted alphabet level false (.logical span left operator right) :=
  hLeft.operation hFormedLeft hRight hFormedRight (fun _ hFormed => hFormed.fits.2.1) (by simp)
    (mem_logicalOperators hLogical) rfl (by decide : 13 < 15) rfl .logical

/-- An assignment. -/
theorem Printed.assignment (hOperator : operator ∈ assignmentOperators)
    (hReference : isReference left = true) :
    IsPrinted alphabet level false (.assignment span left operator right) := by
  have hTerminal : ∀ operator ∈ assignmentOperators,
      isTerminal (Text.ofString operator) = true := by decide +kernel
  obtain ⟨hReads, hDerives⟩ := hRight.item hFormedRight
  have hTarget := hLeft.derives.rise
    (hFormedLeft.rises 19 .leftHandSide (by decide) (precedence_of_isReference hReference))
  have hSpace := ends_of_closes left ' ' (by decide)
  refine ⟨_, _, ?_, hLeft.reads.operator (hTerminal operator hOperator) hSpace hReads,
    @not_tight 3 _ (by decide), ?_⟩
  · change (Print.printAt level left >>= fun _ => Print.printAt level right >>= _) = _
    rw [hLeft.print, hRight.print]
    rfl
  · exact .assignment hOperator hReference hTarget hDerives

end

/-- A conditional. -/
theorem Printed.conditional {test consequent alternate : Node} {first second third : Text}
    {tokens others more : List Token} (hTest : Printed alphabet level false test first tokens)
    (hFormedTest : Formed alphabet false test)
    (hConsequent : Printed alphabet level false consequent second others)
    (hFormedConsequent : Formed alphabet false consequent)
    (hAlternate : Printed alphabet level false alternate third more)
    (hFormedAlternate : Formed alphabet false alternate) :
    IsPrinted alphabet level false (.conditional span test consequent alternate) := by
  have hRise : (decide (Print.precedence test = Print.wrappedRank) ||
      decide (Print.precedence test ≤ 4)) = false → (home test).rises .shortCircuit = true := by
    intro hNone
    simp only [Bool.or_eq_false_iff, decide_eq_false_iff_not] at hNone
    exact hFormedTest.rises 5 .shortCircuit (by decide) (by omega)
  obtain ⟨testTokens, hTestReads, hTestDerives⟩ := hTest.operand hFormedTest hRise (by decide)
  obtain ⟨hConsequentReads, hConsequentDerives⟩ := hConsequent.item hFormedConsequent
  obtain ⟨hAlternateReads, hAlternateDerives⟩ := hAlternate.item hFormedAlternate
  have hColon : isTerminal (Text.ofString ":") = true := by decide
  have hQuestion : isTerminal (Text.ofString "?") = true := by decide
  have hArms := hConsequentReads.operator hColon (by decide) hAlternateReads
  have hReads := hTestReads.closing.operator hQuestion (by decide) hArms
  refine ⟨_, _, ?_, hReads, @not_tight 4 _ (by decide), ?_⟩
  · have hMark : Text.ofString " ? " = Text.ofString " " ++ Text.ofString "?" ++ Text.ofString " " :=
      rfl
    have hMark' : Text.ofString " : " = Text.ofString " " ++ ":" ++ " " :=
      rfl
    change (Print.printAt level test >>= fun _ => Print.printAt level consequent >>= fun _ =>
      Print.printAt level alternate >>= _) = _
    rw [hTest.print, hConsequent.print, hAlternate.print]
    refine congrArg Except.ok ?_
    simp only [hMark, hMark', List.append_assoc]
  · change Derives alphabet .conditional _ _
    rw [← List.append_assoc, ← List.append_assoc]
    exact .conditional hTestDerives hConsequentDerives hAlternateDerives

/-! ## Signs and words in front of an operand -/

/-- The signs among the unary operators. -/
def signs : List String := ["+", "-", "~", "!"]

theorem Formed.head_unaryOperator? (h : Formed alphabet false tree) {inner : Text}
    (hInner : Print.unaryOperator? tree = some inner) : ∃ c, inner.head? = some c := by
  have hAll : ∀ operator ∈ unaryOperators ++ updateOperators,
      (Text.ofString operator).head?.isSome = true := by
    decide
  generalize hOpen : false = isOpen at h
  cases h with
  | unary hOperator _ =>
    cases hInner
    exact Option.isSome_iff_exists.1 (hAll _ (List.mem_append_left _ hOperator))
  | update hOperator _ _ =>
    cases hInner
    exact Option.isSome_iff_exists.1 (hAll _ (List.mem_append_right _ hOperator))
  | _ => cases hInner

/-- Whether an operator needs a space is decided, and without one it is a sign in front of no equal
sign. -/
theorem exists_space (hOperator : operator ∈ unaryOperators)
    (hFormed : Formed alphabet false argument) :
    ∃ space, Print.needsSpace operator argument = .ok space ∧
      (space = false → operator ∈ signs ∧ ∀ inner, Print.unaryOperator? argument = some inner →
        inner.head? ≠ (Text.ofString operator).head?) := by
  have hAll : ∀ operator ∈ unaryOperators, (Text.ofString operator).isAlphabetic = true ∨
      (Text.ofString operator).isAlphabetic = false ∧ operator ∈ signs ∧
        (Text.ofString operator).head?.isSome = true := by
    decide +kernel
  unfold Print.needsSpace
  obtain hWord | ⟨hWord, hSign, hHead⟩ := hAll operator hOperator
  · exact ⟨true, by rw [hWord]; rfl, by simp⟩
  · obtain ⟨b, hb⟩ := Option.isSome_iff_exists.1 hHead
    rw [hWord, if_neg (by decide)]
    cases hInner : Print.unaryOperator? argument with
    | none => exact ⟨false, rfl, fun _ => ⟨hSign, by simp⟩⟩
    | some inner =>
      obtain ⟨a, ha⟩ := hFormed.head_unaryOperator? hInner
      refine ⟨a == b, by simp only [ha, hb], fun hApart => ⟨hSign, ?_⟩⟩
      intro other hOther
      rw [← Option.some.inj hOther, ha, hb]
      simpa using hApart

/-- A sign ends in front of what is no equal sign. -/
theorem endsMark_sign (hOperator : operator ∈ signs) {c : CodePoint} (hEquals : c ≠ '=')
    (hSign : c = '+' ∨ c = '-' → some c ≠ (Text.ofString operator).head?) :
    endsMark operator c = true := by
  have hAll : ∀ operator ∈ signs,
      (continuations operator).all (fun c => c == '=' ||
        ((c == '+' || c == '-') && some c == (Text.ofString operator).head?)) = true ∧
      (Text.ofString operator != "/") = true ∧
      (Text.ofString operator != "." &&
        Text.ofString operator != "?.") = true := by
    decide +kernel
  obtain ⟨hContinues, hSlash, hPoint⟩ := hAll operator hOperator
  have hNone : (continuations operator).contains c = false := by
    by_contra hSome
    have hCase := List.all_eq_true.1 hContinues c (by simpa using hSome)
    simp only [Bool.or_eq_true, Bool.and_eq_true, beq_iff_eq] at hCase
    obtain hCase | ⟨hCase, hSame⟩ := hCase
    · exact hEquals hCase
    · exact hSign hCase hSame
  rw [endsMark, hNone, hSlash, hPoint, Bool.or_true, Bool.or_true]
  rfl

/-- A text that starts with the operator of its tree. -/
theorem Starts.of_operator (hOperator : operator ∈ unaryOperators ++ updateOperators)
    (hTree : Print.unaryOperator? tree = some (Text.ofString operator)) (rest : Text) :
    Starts tree (Text.ofString operator ++ rest) := by
  have hAll : ∀ operator ∈ unaryOperators ++ updateOperators,
      (Text.ofString operator).head?.any (· != CodePoint.ofChar '=') = true := by
    decide
  have hHead := hAll operator hOperator
  cases hText : Text.ofString operator with
  | nil => simp [hText] at hHead
  | cons c others =>
    refine ⟨c, others ++ rest, rfl, ?_, fun _ => ⟨_, hTree, by rw [hText]; rfl⟩⟩
    simpa [hText] using hHead

theorem printAt_unary {operator : Text} {space : Bool}
    (hText : Print.printAt level argument = .ok text)
    (hSpace : (if Print.precedence argument < 15 then pure false
      else Print.needsSpace operator argument) = .ok space) :
    Print.printAt level (.unary span operator argument) =
      .ok (operator ++ Text.ofString (if space then " " else "") ++
        Print.wrap (Print.precedence argument < 15) text) := by
  change (if Print.precedence argument < 15 then
    (pure false >>= fun _ => Print.printAt level argument >>= _)
    else Print.needsSpace operator argument >>= fun _ => Print.printAt level argument >>= _) = _
  rw [hText]
  by_cases hParens : Print.precedence argument < 15
  · rw [if_pos hParens] at hSpace ⊢
    cases hSpace
    rfl
  · rw [if_neg hParens] at hSpace ⊢
    rw [hSpace]
    rfl

/-- A sign or a word in front of its operand. -/
theorem Printed.unary {tokens : List Token} (hOperator : operator ∈ unaryOperators)
    (h : Printed alphabet level false argument text tokens)
    (hFormed : Formed alphabet false argument) :
    IsPrinted alphabet level false (.unary span operator argument) := by
  have hAll : ∀ operator ∈ unaryOperators, isTerminal (Text.ofString operator) = true ∧
      (links '(' && endsMark operator '(') = true := by
    decide +kernel
  obtain ⟨hTerminal, hOpen⟩ := hAll operator hOperator
  have hRise : decide (Print.precedence argument < 15) = false →
      (home argument).rises .unary = true := fun hNone =>
    hFormed.rises 15 .unary (by decide) (by simpa using hNone)
  obtain ⟨others, hReads, hDerives⟩ := h.operand hFormed hRise (by decide)
  have hStarts : ∀ rest, Starts (.unary span operator argument) (Text.ofString operator ++ rest) :=
    Starts.of_operator (List.mem_append_left _ hOperator) rfl
  have hDerived : Derives alphabet .unary ([terminal operator] ++ others)
      (.unary span operator argument) := .unary hOperator hDerives
  by_cases hParens : Print.precedence argument < 15
  · rw [decide_eq_true hParens] at hReads
    refine ⟨_, _, ?_, ((Reads.front hTerminal).append hReads ⟨_, _, rfl, hOpen⟩).any,
      fun _ => hStarts _, hDerived⟩
    rw [printAt_unary h.print (if_pos hParens), decide_eq_true hParens]
    exact congrArg (fun front => Except.ok (front ++ Print.wrap true text)) (List.append_nil _)
  · obtain ⟨space, hSpace, hNoSpace⟩ := exists_space hOperator hFormed
    rw [decide_eq_false hParens] at hReads
    cases space with
    | true =>
      refine ⟨_, _, ?_, (Reads.spaced hTerminal).append_any hReads.closing, fun _ => ?_, hDerived⟩
      · rw [printAt_unary h.print ((if_neg hParens).trans hSpace), decide_eq_false hParens]
        rfl
      · rw [List.append_assoc]
        exact hStarts _
    | false =>
      obtain ⟨hSign, hApart⟩ := hNoSpace rfl
      obtain ⟨c, rest, hText, hEquals, hFirst⟩ := h.starts (by omega)
      have hEnds : endsMark operator c = true := by
        refine endsMark_sign hSign hEquals fun hc => ?_
        obtain ⟨inner, hInner, hHead⟩ := hFirst hc
        rw [← hHead]
        exact hApart inner hInner
      have hMark : ∀ operator ∈ signs, Text.ofString operator ∈ punctuators := by decide
      refine ⟨_, _, ?_, Reads.append ?_ hReads.closing ⟨c, rest, hText, hEnds⟩, fun _ => hStarts _,
        hDerived⟩
      · rw [printAt_unary h.print ((if_neg hParens).trans hSpace), decide_eq_false hParens]
        exact congrArg (fun front => Except.ok (front ++ text)) (List.append_nil _)
      · rw [terminal, if_pos (hMark operator hSign)]
        exact Reads.mark (hMark operator hSign)

/-- An update in front of its target or behind it. -/
theorem Printed.update {tokens : List Token} (hOperator : operator ∈ updateOperators)
    (hReference : isReference argument = true)
    (h : Printed alphabet level false argument text tokens)
    (hFormed : Formed alphabet false argument) (leading : Bool) :
    IsPrinted alphabet level false (.update span operator leading argument) := by
  have hAll : ∀ operator ∈ updateOperators,
      Text.ofString operator ∈ List.map Text.ofString ["(", ")", "[", "]", "++", "--"] ∧
      (Text.ofString operator).head?.any links = true := by
    decide
  obtain ⟨hClosed, hHead⟩ := hAll operator hOperator
  have hMark : Reads alphabet (fun _ => true) (Text.ofString operator) [terminal operator] :=
    Reads.closed hClosed
  have hTarget := precedence_of_isReference hReference
  have hNone : decide (Print.precedence argument < 19) = false := decide_eq_false (by omega)
  have hPrint : Print.printAt level (.update span operator leading argument) =
      .ok (if leading then Text.ofString operator ++ text else text ++ Text.ofString operator) := by
    change (Print.printAt level argument >>= _) = _
    rw [h.print]
    simp only [hNone]
    rfl
  cases leading with
  | true =>
    refine ⟨_, _, hPrint, hMark.append_any (h.reads.mono (ends_of_closes argument)),
      fun _ => .of_operator (List.mem_append_right _ hOperator) rfl _, ?_⟩
    exact .prefixUpdate hOperator hReference
      (h.derives.rise (hFormed.rises 15 .unary (by decide) (by omega)))
  | false =>
    have hLinks : ends argument = links := by
      fun_cases isReference argument with
      | case1 => rfl
      | case2 => rfl
      | case3 => simp [isReference] at hReference
    have hMeet : ∃ c rest, Text.ofString operator = c :: rest ∧ ends argument c = true := by
      rw [hLinks]
      cases hText : Text.ofString operator with
      | nil => simp [hText] at hHead
      | cons c rest => exact ⟨c, rest, rfl, by simpa [hText] using hHead⟩
    refine ⟨_, _, hPrint, (h.reads.append hMark hMeet).any, fun _ => ?_, ?_⟩
    · exact .of_plain (plain_append
        ((h.starts (by omega)).plain (unaryOperator?_of_target hTarget)) _)
    · exact .postfixUpdate hOperator hReference
        (h.derives.rise (hFormed.rises 19 .leftHandSide (by decide) hTarget))

/-- A wait for its operand. -/
theorem Printed.await {span : Span} {argument : Node} {text : Text} {tokens : List Token}
    (h : Printed alphabet level false argument text tokens)
    (hFormed : Formed alphabet false argument) :
    IsPrinted alphabet level false (.awaitExpression span argument) := by
  have hRise : decide (Print.precedence argument < 15) = false →
      (home argument).rises .unary = true := fun hNone =>
    hFormed.rises 15 .unary (by decide) (by simpa using hNone)
  obtain ⟨others, hReads, hDerives⟩ := h.operand hFormed hRise (by decide)
  have hWord : Reads alphabet (fun _ => true) "await " [terminal "await"] :=
    @Reads.spaced alphabet "await" (by decide)
  refine ⟨_, _, ?_, hWord.append_any hReads.closing, fun _ => .of_plain ⟨_, _, rfl, by decide⟩,
    .await hDerives⟩
  change (Print.printAt level argument >>= _) = _
  rw [h.print]
  rfl

/-! ## Lists of operands -/

/-- A sequence between its parentheses. -/
theorem Printed.sequence {items : List Node} (hLength : 2 ≤ items.length)
    (hFormed : ∀ item ∈ items, Formed alphabet false item)
    (h : ∀ item ∈ items, IsPrinted alphabet level false item) :
    IsPrinted alphabet level false (.sequence span items) := by
  have hItems : items ≠ [] := List.ne_nil_of_length_pos (by omega)
  obtain ⟨first, rest, tokens, hPrint, hReads, hDerives⟩ := exists_items hFormed h hItems
  refine ⟨_, _, ?_, (hReads.parentheses (by decide)).any,
    fun _ => .of_plain ⟨_, _, rfl, by decide⟩, .parentheses (.sequence hLength hDerives)⟩
  change (Print.printList level items >>= _) = _
  rw [hPrint]
  rfl

theorem hasCall_of_isCallRooted (h : isCallRooted tree = true) : Print.hasCall tree = true := by
  fun_induction isCallRooted tree with
  | case1 _ object _ _ _ ih => exact ih h
  | case2 => rfl
  | case3 => cases h

/-- A callee of `new` without parentheses is a member. -/
theorem Formed.rises_callee {callee : Node} (h : Formed alphabet false callee)
    (hNone : (decide (Print.precedence callee < 19) || Print.hasCall callee) = false) :
    (home callee).rises .member = true := by
  obtain ⟨hRank, hCall⟩ := Bool.or_eq_false_iff.1 hNone
  have hChain : Print.isChain callee = false := by
    fun_cases Print.isChain callee with
    | case1 => cases hCall
    | case2 => rfl
  have hRooted : isCallRooted callee = false := by
    by_contra hRooted
    rw [hasCall_of_isCallRooted (by simpa using hRooted)] at hCall
    cases hCall
  have hTarget := h.rises_target (by rw [Print.wrapsAsTarget, hRank, hChain]; rfl)
  rw [hRooted] at hTarget
  exact hTarget

/-- A `new` with its arguments. -/
theorem Printed.newExpression {callee : Node} {items : List Node} {tokens : List Token}
    (h : Printed alphabet level false callee text tokens) (hFormed : Formed alphabet false callee)
    (hFormedItems : ∀ item ∈ items, Formed alphabet false item)
    (hItems : ∀ item ∈ items, IsPrinted alphabet level false item) :
    IsPrinted alphabet level false (.newExpression span callee items) := by
  obtain ⟨texts, others, hPrint, hArguments, hDerivesItems⟩ := exists_arguments hFormedItems hItems
  obtain ⟨tokens, hReads, hDerives⟩ := h.operand hFormed hFormed.rises_callee (by decide)
  have hWord : Reads alphabet (fun _ => true) "new " [terminal "new"] :=
    @Reads.spaced alphabet "new" (by decide)
  have hMeet : (if decide (Print.precedence callee < 19) || Print.hasCall callee then fun _ => true
      else ends callee) '(' = true := by
    cases hParens : decide (Print.precedence callee < 19) || Print.hasCall callee with
    | true => rfl
    | false =>
      have hRank := (Bool.or_eq_false_iff.1 hParens).1
      exact ends_target (by simpa using hRank) _ (by decide)
  refine ⟨_, _, ?_, (hWord.append_any (hReads.append hArguments ⟨_, _, rfl, hMeet⟩)).any,
    fun _ => .of_plain ⟨_, _, rfl, by decide⟩, ?_⟩
  · change (Print.printAt level callee >>= fun _ => Print.printList level items >>= _) = _
    rw [h.print, hPrint]
    refine congrArg Except.ok ?_
    simp only [List.append_assoc]
  · change Derives alphabet .member _ _
    rw [← List.append_assoc]
    exact .newArguments hDerives hDerivesItems

/-! ## Leaves and chains -/

theorem Printed.identifier {name value : Text} (hName : Name alphabet name value)
    (hReserved : value ∉ reservedWords) :
    Printed alphabet level false (.identifier span name) name [.word name] :=
  ⟨rfl, Reads.name hName, fun _ => .of_plain hName.plain, .identifier hName hReserved⟩

/-- A numeral has the value of a number. -/
theorem exists_number_of_read {raw : Text} {value : Data} (h : Numeral.read raw = .ok value) :
    (∃ number, value = .int number) ∨ ∃ number, value = .float number := by
  unfold Numeral.read at h
  dsimp only at h
  split at h
  · rw [Except.map.eq_def] at h
    split at h
    · cases h
    · cases h
      exact .inl ⟨_, rfl⟩
  · split at h
    · cases h
      exact .inl ⟨_, rfl⟩
    · split at h
      · cases h
        exact .inr ⟨_, rfl⟩
      · cases h

theorem Printed.number {span : Span} {raw : Text} {value : Data} (hNumber : Number raw)
    (hValue : Numeral.read raw = .ok value) :
    Printed alphabet level false (.literal span value (some raw) none) raw [.number raw] := by
  have hReads : Reads alphabet calls raw [.number raw] :=
    (Reads.number hNumber).mono isNumeral_of_calls
  obtain ⟨number, rfl⟩ | ⟨number, rfl⟩ := exists_number_of_read hValue
  · exact ⟨rfl, hReads, fun _ => .of_plain hNumber.plain, .number hValue⟩
  · exact ⟨rfl, hReads, fun _ => .of_plain hNumber.plain, .number hValue⟩

/-- An optional chain has the text of its links. -/
theorem Printed.chain {tokens : List Token} (h : Printed alphabet level true tree text tokens)
    (hFormed : Formed alphabet true tree) :
    Printed alphabet level false (.chain span tree) text tokens := by
  obtain ⟨hTarget, hNumber⟩ := hFormed.of_open
  have hRank := precedence_of_target hTarget
  refine ⟨?_, ?_, fun _ => ?_, .chain h.derives⟩
  · exact h.print
  · have hReads := h.reads
    rw [ends_link hTarget hNumber] at hReads
    exact hReads
  · exact .of_plain ((h.starts (by omega)).plain (unaryOperator?_of_target hRank))

/-! ## All trees -/

theorem Formed.printed {isOpen : Bool} (h : Formed alphabet isOpen tree) (level : Nat) :
    IsPrinted alphabet level isOpen tree := by
  induction h with
  | identifier hName hReserved => exact ⟨_, _, .identifier hName hReserved⟩
  | number hNumber hValue => exact ⟨_, _, .number hNumber hValue⟩
  | sequence hLength hFormed ih => exact Printed.sequence hLength hFormed ih
  | unary hOperator hFormed ih =>
    obtain ⟨_, _, hArgument⟩ := ih
    exact hArgument.unary hOperator hFormed
  | update hOperator hReference hFormed ih =>
    obtain ⟨_, _, hArgument⟩ := ih
    exact hArgument.update hOperator hReference hFormed _
  | await hFormed ih =>
    obtain ⟨_, _, hArgument⟩ := ih
    exact hArgument.await hFormed
  | binary hRank hLogical hLeft hRight ihLeft ihRight =>
    obtain ⟨_, _, hFirst⟩ := ihLeft
    obtain ⟨_, _, hSecond⟩ := ihRight
    exact hFirst.binary hLeft hSecond hRight hRank hLogical
  | logical hLogical hLeft hRight ihLeft ihRight =>
    obtain ⟨_, _, hFirst⟩ := ihLeft
    obtain ⟨_, _, hSecond⟩ := ihRight
    exact hFirst.logical hLeft hSecond hRight hLogical
  | conditional hTest hConsequent hAlternate ihTest ihConsequent ihAlternate =>
    obtain ⟨_, _, hFirst⟩ := ihTest
    obtain ⟨_, _, hSecond⟩ := ihConsequent
    obtain ⟨_, _, hThird⟩ := ihAlternate
    exact hFirst.conditional hTest hSecond hConsequent hThird hAlternate
  | assignment hOperator hReference hLeft hRight ihLeft ihRight =>
    obtain ⟨_, _, hFirst⟩ := ihLeft
    obtain ⟨_, _, hSecond⟩ := ihRight
    exact hFirst.assignment hLeft hSecond hRight hOperator hReference
  | newExpression hCallee hItems ihCallee ihItems =>
    obtain ⟨_, _, hPrinted⟩ := ihCallee
    exact hPrinted.newExpression hCallee hItems ihItems
  | call hCallee hItems ihCallee ihItems =>
    obtain ⟨_, _, hPrinted⟩ := ihCallee
    exact hPrinted.call hCallee hItems ihItems _
  | index hObject hProperty ihObject ihProperty =>
    obtain ⟨_, _, hPrinted⟩ := ihObject
    obtain ⟨_, _, hInside⟩ := ihProperty
    exact hPrinted.index hObject hInside hProperty _
  | field hObject hName ih =>
    obtain ⟨_, _, hPrinted⟩ := ih
    exact hPrinted.field hObject hName _
  | chain hLinks ih =>
    obtain ⟨text, tokens, hPrinted⟩ := ih
    exact ⟨text, tokens, hPrinted.chain hLinks⟩

/-- The text of an operator expression has one list of tokens by longest match, and the grammar of
expressions derives it with the tree that was printed. -/
theorem print_derives {tree : Node} (h : Formed alphabet false tree) :
    ∃ text tokens, tree.print = .ok text ∧
      (∀ others, Scans alphabet text others ↔ others = tokens) ∧
      Derives alphabet .expression tokens tree := by
  obtain ⟨text, tokens, hPrinted⟩ := h.printed 0
  have hScans := hPrinted.reads.scans
  refine ⟨text, tokens, hPrinted.print, fun others => ⟨fun hOthers => hOthers.unique hScans, ?_⟩, ?_⟩
  · rintro rfl
    exact hScans
  · exact hPrinted.derives.rise (h.rises 0 .expression (by decide) (by omega))

/-- A power with signs in front of its operands. -/
def signedPower : Node :=
  .binary .none (.unary .none "-" (.identifier .none "a")) "**"
    (.unary .none "-" (.unary .none "-" (.identifier .none "b")))

theorem print_derives_signedPower :
    Formed .ascii false signedPower ∧ signedPower.print = .ok "(-a) ** - -b" ∧
      ∃ tokens, (∀ others, Scans .ascii "(-a) ** - -b" others ↔ others = tokens) ∧
        Derives .ascii .expression tokens signedPower := by
  have hName : ∀ name : Text, name ≠ [] ∧ name.all CodePoint.isAsciiLetter = true ∧
      name ∉ reservedWords → Formed .ascii false (.identifier .none name) :=
    fun name ⟨hText, hLetters, hReserved⟩ => .identifier (.of_letters hText hLetters) hReserved
  have hFormed : Formed .ascii false signedPower :=
    .binary (by decide : ("**", 13) ∈ Print.operatorRanks) (by decide)
      (.unary (by decide) (hName "a" (by decide)))
      (.unary (by decide) (.unary (by decide) (hName "b" (by decide))))
  have hText : signedPower.print = .ok "(-a) ** - -b" := by rfl
  obtain ⟨text, tokens, hPrint, hScans, hDerives⟩ := print_derives hFormed
  cases hPrint.symm.trans hText
  exact ⟨hFormed, hText, tokens, hScans, hDerives⟩

end Assay.Grammar
