import Assay.Proofs.Print.Pieces

/-!
# Calls and members

A link is put behind a target that is a member, a call or the open end of an optional chain, with
parentheses around anything else. `Printed.target` says what is printed of the target, and
`Derives.link` how the link is derived from it: a closed target gives a member or a call, and an
open one a longer chain.
-/

set_option autoImplicit false

namespace Assay.Grammar

variable {tree : Node} {tokens : List Token} {isOpen : Bool} {text : Text}
  {alphabet : Alphabet} {level : Nat}

/-! ## Targets of links -/

/-- The nonterminal of a target: the links of an open chain go on, and members and calls stay
what they are. -/
def targetSymbol (isOpen : Bool) (tree : Node) : Symbol :=
  if isOpen then .optional else if isCallRooted tree then .call else .member

theorem wrapsAsTarget_of_isCallRooted (h : isCallRooted tree = true) :
    Print.wrapsAsTarget tree = false ∧ Print.isNumber tree = false := by
  fun_cases isCallRooted tree with
  | case1 => exact ⟨rfl, rfl⟩
  | case2 => exact ⟨rfl, rfl⟩
  | case3 => simp [isCallRooted] at h

/-- A closed target that has no parentheses is derived as a member or as a call. -/
theorem Formed.rises_target (h : Formed alphabet false tree)
    (hWrap : Print.wrapsAsTarget tree = false) :
    (home tree).rises (if isCallRooted tree then .call else .member) = true := by
  generalize hOpen : false = isOpen at h
  cases h with
  | identifier _ _ | number _ _ | sequence _ _ | newExpression _ _ | call _ _ => rfl
  | unary _ _ | await _ | update _ _ _ | conditional _ _ _ | assignment _ _ _ _ | binary _ _ _ _
  | logical _ _ _ | chain _ => exact Bool.noConfusion hWrap
  | @index _ _ _ object _ _ _ | @field _ _ _ _ object _ _ _ _ =>
    cases hCall : isCallRooted object <;> simp only [home, isCallRooted, hCall] <;> rfl

/-- The links of an open chain need no parentheses. -/
theorem Formed.of_open (h : Formed alphabet true tree) :
    Print.wrapsAsTarget tree = false ∧ Print.isNumber tree = false := by
  generalize hOpen : true = isOpen at h
  cases h with
  | call _ _ => exact ⟨rfl, rfl⟩
  | index _ _ => exact ⟨rfl, rfl⟩
  | field _ _ => exact ⟨rfl, rfl⟩
  | _ => cases hOpen

/-- A target of a link, in parentheses or not. -/
theorem Printed.target (h : Printed alphabet level isOpen tree text tokens)
    (hFormed : Formed alphabet isOpen tree) (parens : Bool)
    (hOn : parens = true → Print.wrapsAsTarget tree = true ∨ Print.isNumber tree = true)
    (hOff : parens = false → Print.wrapsAsTarget tree = false) :
    ∃ others, Reads alphabet (if parens then fun _ => true else ends tree)
        (Print.wrap parens text) others ∧
      Derives alphabet (targetSymbol isOpen tree) others tree ∧
      ∃ c rest, Print.wrap parens text = c :: rest ∧ isPlain c = true := by
  have hPlain : ∃ c rest, Print.wrap parens text = c :: rest ∧ isPlain c = true := by
    cases parens with
    | true => exact ⟨_, _, rfl, by decide⟩
    | false =>
      have hTarget : 19 ≤ Print.precedence tree := by
        have hWrap := hOff rfl
        simp only [Print.wrapsAsTarget, Bool.or_eq_false_iff, decide_eq_false_iff_not] at hWrap
        omega
      exact (h.starts (by omega)).plain (unaryOperator?_of_target hTarget)
  cases isOpen with
  | true =>
    obtain ⟨hWrap, hNumber⟩ := hFormed.of_open
    have hNone : parens = false := by
      cases parens with
      | false => rfl
      | true => simp [hWrap, hNumber] at hOn
    subst hNone
    exact ⟨tokens, h.reads, h.derives, hPlain⟩
  | false =>
    have hRise : parens = false →
        (home tree).rises (if isCallRooted tree then .call else .member) = true :=
      fun hNone => hFormed.rises_target (hOff hNone)
    cases hCall : isCallRooted tree with
    | false =>
      rw [hCall] at hRise
      obtain ⟨others, hReads, hDerives⟩ := h.operand hFormed hRise (by decide)
      refine ⟨others, hReads, ?_, hPlain⟩
      simpa [targetSymbol, hCall] using hDerives
    | true =>
      obtain ⟨hWrap, hNumber⟩ := wrapsAsTarget_of_isCallRooted hCall
      have hNone : parens = false := by
        cases parens with
        | false => rfl
        | true => simp [hWrap, hNumber] at hOn
      subst hNone
      refine ⟨tokens, h.reads, ?_, hPlain⟩
      have hDerives := h.derives.rise (hRise rfl)
      simpa [targetSymbol, hCall] using hDerives

/-! ## Derivations of links -/

theorem targetSymbol_false_mem (tree : Node) :
    targetSymbol false tree ∈ [Symbol.member, .call] := by
  cases h : isCallRooted tree <;> simp [targetSymbol, h]

theorem targetSymbol_mem (isOpen : Bool) (tree : Node) :
    targetSymbol isOpen tree ∈ [Symbol.member, .call, .optional] := by
  cases isOpen with
  | true => simp [targetSymbol]
  | false => cases h : isCallRooted tree <;> simp [targetSymbol, h]

/-- The open links of a chain have a base. -/
theorem Derives.exists_links (h : Derives alphabet .optional tokens tree) :
    ∃ symbol first second base, symbol ∈ [Symbol.member, .call, .optional] ∧
      Derives alphabet symbol first base ∧ DerivesLinks alphabet base second tree ∧
      tokens = first ++ second := by
  generalize hSymbol : Symbol.optional = symbol at h
  cases h with
  | optional hMem hBase hLinks => exact ⟨_, _, _, _, hMem, hBase, hLinks, rfl⟩
  | unit hUnit _ =>
    have hNone : ∀ unit ∈ Symbol.units, unit.1 ≠ .optional := by decide
    exact absurd hSymbol.symm (hNone _ hUnit)
  | index hMem _ _ | field hMem _ _ =>
    rw [← hSymbol] at hMem
    exact absurd hMem (by decide)
  | binary hProduction _ _ _ =>
    have hNone : ∀ production ∈ binaryProductions, production.whole ≠ .optional := by decide
    exact absurd hSymbol.symm (hNone _ hProduction)
  | logical hProduction _ _ _ =>
    have hNone : ∀ production ∈ logicalProductions, production.whole ≠ .optional := by decide
    exact absurd hSymbol.symm (hNone _ hProduction)
  | _ => cases hSymbol

/-- A link of which the form `derive` makes a member or a call of a closed target, and `extend` a
further link of an open chain. -/
theorem Derives.link {optional : Bool} {target whole : Node} {symbol : Symbol} {others : List Token}
    (hTarget : Derives alphabet (targetSymbol isOpen target) tokens target)
    (hClosed : isOpen = false → optional = false →
      Derives alphabet symbol (tokens ++ others) whole)
    (hFirst : optional = true → DerivesLinks alphabet target ([terminal "?."] ++ others) whole)
    (hNext : optional = false → ∀ base links, DerivesLinks alphabet base links target →
      DerivesLinks alphabet base (links ++ others) whole) :
    Derives alphabet (if isOpen || optional then .optional else symbol)
      (tokens ++ ((if optional then [terminal "?."] else []) ++ others)) whole := by
  cases optional with
  | true =>
    rw [Bool.or_true]
    exact .optional (targetSymbol_mem isOpen target) hTarget (hFirst rfl)
  | false =>
    cases isOpen with
    | false => exact hClosed rfl rfl
    | true =>
      obtain ⟨start, first, second, base, hMem, hBase, hLinks, rfl⟩ := hTarget.exists_links
      have hWhole := Derives.optional hMem hBase (hNext rfl base second hLinks)
      simpa [List.append_assoc] using hWhole

/-! ## Texts of links -/

/-- The mark of an optional link in front of the rest of the link. -/
theorem Reads.optionalMark {follow : CodePoint → Bool} (h : Reads alphabet follow text tokens)
    (hStart : ∃ c rest, text = c :: rest ∧ endsMark "?." c = true) (optional : Bool) :
    Reads alphabet follow ((if optional then Text.ofString "?." else []) ++ text)
      ((if optional then [terminal "?."] else []) ++ tokens) := by
  cases optional with
  | false => exact h
  | true =>
    have hMark : Text.ofString "?." ∈ punctuators := by decide
    rw [terminal, if_pos hMark]
    exact (Reads.mark hMark).append h hStart

theorem ends_target (h : 19 ≤ Print.precedence tree) (c : CodePoint) (hCalls : calls c = true) :
    ends tree c = true := by
  rw [ends, if_neg (by omega)]
  split_ifs
  · exact hCalls
  · exact links_of_calls c hCalls

theorem precedence_of_target (h : Print.wrapsAsTarget tree = false) :
    19 ≤ Print.precedence tree := by
  simp only [Print.wrapsAsTarget, Bool.or_eq_false_iff, decide_eq_false_iff_not] at h
  omega

/-- A call. -/
theorem Printed.call {span : Span} {callee : Node} {items : List Node}
    (h : Printed alphabet level isOpen callee text tokens) (hFormed : Formed alphabet isOpen callee)
    (hFormedItems : ∀ item ∈ items, Formed alphabet false item)
    (hItems : ∀ item ∈ items, IsPrinted alphabet level false item) (optional : Bool) :
    IsPrinted alphabet level (isOpen || optional) (.call span callee items optional) := by
  obtain ⟨texts, others, hPrint, hReads, hArguments⟩ := exists_arguments hFormedItems hItems
  obtain ⟨tokens, hTarget, hDerives, hPlain⟩ := h.target hFormed (Print.wrapsAsTarget callee) .inl id
  have hLink := hReads.optionalMark ⟨_, _, rfl, by decide⟩ optional
  have hMeet : ∃ c rest, (if optional then Text.ofString "?." else []) ++
      (Text.ofString "(" ++ Print.commas texts ++ Text.ofString ")") = c :: rest ∧
      (if Print.wrapsAsTarget callee then fun _ => true else ends callee) c = true := by
    have hFollow : ∀ c, calls c = true →
        (if Print.wrapsAsTarget callee then fun _ => true else ends callee) c = true := by
      intro c hCalls
      cases hWrap : Print.wrapsAsTarget callee with
      | true => rfl
      | false => exact ends_target (precedence_of_target hWrap) c hCalls
    cases optional with
    | false => exact ⟨_, _, rfl, hFollow _ (by decide)⟩
    | true => exact ⟨_, _, rfl, hFollow _ (by decide)⟩
  refine ⟨_, _, ?_, (hTarget.append hLink hMeet).any, ?_, ?_⟩
  · have hOpen : Text.ofString "?.(" = Text.ofString "?." ++ "(" := rfl
    change (Print.printAt level callee >>= fun _ => Print.printList level items >>= _) = _
    rw [h.print, hPrint]
    refine congrArg Except.ok ?_
    cases optional <;>
      simp only [if_true, Bool.false_eq_true, if_false, hOpen, List.append_assoc, List.nil_append]
  · exact fun _ => .of_plain (plain_append hPlain _)
  · refine Derives.link hDerives ?_ ?_ ?_
    · rintro rfl rfl
      exact .call (targetSymbol_false_mem callee) hDerives hArguments
    · rintro rfl
      exact .optionalCall hArguments
    · rintro rfl base links hLinks
      exact .call hLinks hArguments

theorem ends_link (h : Print.wrapsAsTarget tree = false) (hNumber : Print.isNumber tree = false) :
    ends tree = links := by
  have hTarget := precedence_of_target h
  rw [ends, if_neg (by omega), hNumber]
  rfl

/-- The target of a member, and what may follow it. -/
theorem Printed.object {isOpen : Bool} {object : Node} {text : Text} {tokens : List Token}
    (h : Printed alphabet level isOpen object text tokens)
    (hFormed : Formed alphabet isOpen object) :
    ∃ others, Reads alphabet links
        (Print.wrap (Print.wrapsAsTarget object || Print.isNumber object) text) others ∧
      Derives alphabet (targetSymbol isOpen object) others object ∧
      ∃ c rest, Print.wrap (Print.wrapsAsTarget object || Print.isNumber object) text = c :: rest ∧
        isPlain c = true := by
  obtain ⟨others, hReads, hDerives, hPlain⟩ := h.target hFormed
    (Print.wrapsAsTarget object || Print.isNumber object)
    (fun hOn => by simpa using hOn) (fun hOff => (Bool.or_eq_false_iff.1 hOff).1)
  refine ⟨others, hReads.mono fun c hLinks => ?_, hDerives, hPlain⟩
  cases hWrap : Print.wrapsAsTarget object || Print.isNumber object with
  | true => rfl
  | false =>
    obtain ⟨hTarget, hNumber⟩ := Bool.or_eq_false_iff.1 hWrap
    rw [ends_link hTarget hNumber]
    exact hLinks

/-- A member between brackets. -/
theorem Printed.index {isOpen : Bool} {span : Span} {object property : Node}
    {text inside : Text} {tokens others : List Token}
    (h : Printed alphabet level isOpen object text tokens) (hFormed : Formed alphabet isOpen object)
    (hProperty : Printed alphabet level false property inside others)
    (hFormedProperty : Formed alphabet false property) (optional : Bool) :
    IsPrinted alphabet level (isOpen || optional) (.member span object property true optional) := by
  obtain ⟨tokens, hTarget, hDerives, hPlain⟩ := h.object hFormed
  have hInside := hProperty.derives.rise
    (hFormedProperty.rises 0 .expression (by decide) (by omega))
  have hBrackets := hProperty.reads.brackets (ends_of_closes property _ (by decide))
  have hLink := hBrackets.optionalMark ⟨_, _, rfl, by decide⟩ optional
  have hMeet : ∃ c rest, (if optional then Text.ofString "?." else []) ++
      (Text.ofString "[" ++ inside ++ Text.ofString "]") = c :: rest ∧ links c = true := by
    cases optional with
    | false => exact ⟨_, _, rfl, by decide⟩
    | true => exact ⟨_, _, rfl, by decide⟩
  refine ⟨_, _, ?_, (hTarget.append hLink hMeet).any, ?_, ?_⟩
  · have hOpen : Text.ofString "?.[" = Text.ofString "?." ++ "[" := rfl
    change (Print.printAt level object >>= fun _ => Print.printAt level property >>= _) = _
    rw [h.print, hProperty.print]
    refine congrArg Except.ok ?_
    cases optional <;>
      simp only [if_true, Bool.false_eq_true, if_false, hOpen, List.append_assoc, List.nil_append]
  · exact fun _ => .of_plain (plain_append hPlain _)
  · refine Derives.link hDerives ?_ ?_ ?_
    · rintro rfl rfl
      change Derives alphabet (targetSymbol false object) _ _
      rw [← List.append_assoc, ← List.append_assoc]
      exact .index (targetSymbol_false_mem object) hDerives hInside
    · rintro rfl
      rw [← List.append_assoc, ← List.append_assoc]
      exact .optionalIndex hInside
    · rintro rfl base links hLinks
      rw [← List.append_assoc, ← List.append_assoc]
      exact .index hLinks hInside

/-- A name ends the mark of a link. -/
theorem endsMark_name {name value : Text} (h : Name alphabet name value) :
    ∃ c rest, name = c :: rest ∧ endsMark "." c = true ∧ endsMark "?." c = true := by
  obtain ⟨c, rest, rfl, hStart⟩ := h.cons
  refine ⟨c, rest, rfl, ?_⟩
  have hDigit : c.isDigit = false := by
    obtain hStart | rfl := hStart
    · exact isDigit_of_isStart hStart
    · decide
  have hPoint : c ≠ '.' := by
    rintro rfl
    obtain ⟨hName, hEscape, _⟩ := not_start_of_isMarkStart (c := '.') (by decide) alphabet
    obtain hStart | hStart := hStart
    · rw [hStart] at hName
      cases hName
    · exact hEscape hStart
  have hDots : continuations "." = Text.ofString "." := by decide
  have hNone : continuations "?." = [] := by decide
  have hOther : (Text.ofString ".").contains c = false := by
    have hText : Text.ofString "." = [CodePoint.ofChar '.'] := rfl
    simp [hText, hPoint]
  have hSlash : (Text.ofString "." != Text.ofString "/") = true := by decide
  have hSlash' : (Text.ofString "?." != "/") = true := by decide
  constructor
  · rw [endsMark, hDots, hOther, hDigit, hSlash, Bool.or_true]
    rfl
  · rw [endsMark, hNone, hDigit, hSlash', Bool.or_true]
    rfl

/-- A member behind a point. -/
theorem Printed.field {isOpen : Bool} {span place : Span} {object : Node} {name value : Text}
    {text : Text} {tokens : List Token}
    (h : Printed alphabet level isOpen object text tokens) (hFormed : Formed alphabet isOpen object)
    (hName : Name alphabet name value) (optional : Bool) :
    IsPrinted alphabet level (isOpen || optional)
      (.member span object (.identifier place name) false optional) := by
  obtain ⟨tokens, hTarget, hDerives, hPlain⟩ := h.object hFormed
  obtain ⟨c, rest, hCons, hPoint, hOptional⟩ := endsMark_name hName
  have hWord : Reads alphabet links name [.word name] := Reads.name hName
  have hLink : ∀ mark : Text, mark ∈ punctuators → endsMark mark c = true →
      Reads alphabet links (mark ++ name) ([terminal mark] ++ [Token.word name]) := by
    intro mark hMark hEnds
    rw [terminal, if_pos hMark]
    exact (Reads.mark hMark).append hWord ⟨c, rest, hCons, hEnds⟩
  cases optional with
  | false =>
    refine ⟨_, _, ?_, hTarget.append (hLink "." (by decide) hPoint) ⟨_, _, rfl, by decide⟩, ?_, ?_⟩
    · change (Print.printAt level object >>= _) = _
      rw [h.print]
      exact congrArg Except.ok (List.append_assoc ..)
    · exact fun _ => .of_plain (plain_append hPlain _)
    · cases isOpen with
      | false =>
        rw [← List.append_assoc]
        exact .field (targetSymbol_false_mem object) hDerives hName
      | true =>
        obtain ⟨start, first, second, base, hMem, hBase, hLinks, rfl⟩ := hDerives.exists_links
        rw [List.append_assoc, ← List.append_assoc second]
        exact .optional hMem hBase (.field hLinks hName)
  | true =>
    refine ⟨_, _, ?_, hTarget.append (hLink "?." (by decide) hOptional) ⟨_, _, rfl, by decide⟩,
      ?_, ?_⟩
    · change (Print.printAt level object >>= _) = _
      rw [h.print]
      exact congrArg Except.ok (List.append_assoc ..)
    · exact fun _ => .of_plain (plain_append hPlain _)
    · rw [Bool.or_true]
      exact .optional (targetSymbol_mem isOpen object) hDerives (.optionalField hName)

end Assay.Grammar
