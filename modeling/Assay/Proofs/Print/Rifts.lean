import Assay.Proofs.Print.Openings

/-!
# Nodes that divide

Each lemma is about two nodes of one kind that differ in a token of their own: in an operator, in
the link to a member, in a piece of a template, in whether they have items, or in a test that is a
truth value in one of them. What stands behind that token may be anything in either node.
-/

set_option autoImplicit false

namespace Assay.Print

open Outcome

variable {rest more front : List Segment} {c : CodePoint}
  {t u : Text} {level : Nat} {node other : Node}

/-! ## Texts -/

instance (t u : Text) : Decidable (Parted t u) := inferInstanceAs (Decidable (¬ _ ∧ ¬ _))

instance (t u : Text) : Decidable (Apart .wide t u) :=
  inferInstanceAs (Decidable (Parted (trimmed t) (trimmed u)))

theorem trimmed_ne_nil (h : isSolid t = true) : trimmed t ≠ [] := by
  obtain ⟨c, hC, hSolid⟩ := List.any_eq_true.1 h
  intro hEmpty
  have hLead : isLead c = true := List.dropWhile_eq_nil_iff.1 hEmpty c hC
  simp only [isLead, Bool.or_eq_true, beq_iff_eq] at hLead
  rcases hLead with rfl | rfl <;> cases hSolid

/-- A text behind the parentheses and blanks that it starts with. -/
theorem exists_lead (t : Text) : ∃ lead, (∀ c ∈ lead, isThin c = true) ∧ t = lead ++ trimmed t := by
  refine ⟨t.takeWhile isLead, fun c hC => ?_, List.takeWhile_append_dropWhile.symm⟩
  have hLead := List.mem_takeWhile_imp hC
  simp only [isLead, Bool.or_eq_true, beq_iff_eq] at hLead
  rcases hLead with rfl | rfl <;> decide

theorem parted_of_getElem? {index : Nat} {d : CodePoint} (hT : t[index]? = some c)
    (hU : u[index]? = some d) (h : c ≠ d) : Parted t u := by
  have hPrefix (t u : Text) (c d : CodePoint) (hT : t[index]? = some c) (hU : u[index]? = some d)
      (h : c ≠ d) : ¬ t <+: u := by
    rintro ⟨rest, rfl⟩
    rw [List.getElem?_append_left (List.getElem?_eq_some_iff.1 hT).1, hT] at hU
    exact h (Option.some.inj hU)
  exact ⟨hPrefix t u c d hT hU h, hPrefix u t d c hU hT h.symm⟩

/-- A text that stands behind signs on one side only: its first code point that is no sign, no
parenthesis and no blank comes later there. -/
theorem parted_of_shift (front : Text) (hFront : front ≠ []) (hThin : ∀ c ∈ front, isThin c = true)
    (hSolid : isSolid t = true) (after more : Text) :
    Parted (front ++ (t ++ after)) (t ++ more) := by
  obtain ⟨thin, c, rest, hRun, hC, rfl⟩ : ∃ thin c rest, (∀ d ∈ thin, isThin d = true) ∧
      isThin c = false ∧ t = thin ++ c :: rest := by
    induction t with
    | nil => cases hSolid
    | cons d t ih =>
      by_cases hD : isThin d = true
      · obtain ⟨thin, c, rest, hRun, hC, rfl⟩ := ih (by simpa [isSolid, hD] using hSolid)
        exact ⟨d :: thin, c, rest, by simpa [hD] using hRun, hC, rfl⟩
      · exact ⟨[], d, t, by simp, by simpa using hD, rfl⟩
  have hLength : thin.length < (front ++ thin).length := by
    have := List.length_pos_of_ne_nil hFront
    simp only [List.length_append]
    omega
  have hShifted : (front ++ ((thin ++ c :: rest) ++ after))[thin.length]? =
      some ((front ++ thin)[thin.length]) := by
    rw [List.append_assoc, ← List.append_assoc, List.getElem?_append_left hLength,
      List.getElem?_eq_getElem hLength]
  have hPlain : (thin ++ c :: rest ++ more)[thin.length]? = some c := by simp
  refine parted_of_getElem? hShifted hPlain fun hEq => ?_
  have hMem : c ∈ front ++ thin := hEq ▸ List.getElem_mem hLength
  have hThinC : isThin c = true := (List.mem_append.1 hMem).elim (hThin c) (hRun c)
  rw [hC] at hThinC
  cases hThinC

/-- A text that is a word up to what ends it, and one that is not. -/
theorem parted_of_word {word : Text} (hC : c ∉ word)
    (h : ∀ rest, t = word ++ rest → rest.head?.all (· == c) = true → False) (after more : Text) :
    Parted (t ++ c :: after) (word ++ c :: more) := by
  induction word generalizing t with
  | nil =>
    cases t with
    | nil => exact absurd (by simp) (h [] rfl)
    | cons d t =>
      simp only [List.cons_append, List.nil_append, parted_cons_cons]
      rintro rfl
      exact absurd (by simp) (h (d :: t) rfl)
  | cons w word ih =>
    obtain ⟨hW, hWord⟩ := not_or.1 (List.mem_cons.not.1 hC)
    cases t with
    | nil =>
      simp only [List.cons_append, List.nil_append, parted_cons_cons]
      exact fun hEq => absurd hEq hW
    | cons d t =>
      simp only [List.cons_append, parted_cons_cons]
      rintro rfl
      exact ih hWord fun rest hRest hEnd => h rest (by rw [hRest]; rfl) hEnd

/-! ## Segments -/

/-- All texts of the node hold more than signs, parentheses and blanks. -/
def Solid (node : Node) : Prop := ∀ level, Ensures (printAt level node) (isSolid · = true)

theorem spell_append_eq_ok :
    spell (front ++ rest) = .ok t ↔
      ∃ first, spell front = .ok first ∧ ∃ others, spell rest = .ok others ∧
        t = first ++ others := by
  simp only [spell_append, map_eq_pure_bind, bind_eq_ok, pure_eq_ok, @eq_comm _ t]

/-- Segments that go on differently behind something solid. -/
theorem apart_of_front (hFront : Ensures (spell front) (isSolid · = true))
    (hRest : ∀ t u, spell rest = .ok t → spell more = .ok u → Parted t u)
    (hT : spell (front ++ rest) = .ok t) (hU : spell (front ++ more) = .ok u) :
    Apart .wide t u := by
  obtain ⟨first, hFirst, others, hOthers, rfl⟩ := spell_append_eq_ok.1 hT
  obtain ⟨_, hFirst', behind, hBehind, rfl⟩ := spell_append_eq_ok.1 hU
  cases hFirst.symm.trans hFirst'
  exact apart_of_parted (trimmed_ne_nil (hFront first hFirst))
    (hRest others behind hOthers hBehind)

theorem ensures_spell {segment : Segment} (hMem : segment ∈ front)
    (h : Ensures segment.write (isSolid · = true)) : Ensures (spell front) (isSolid · = true) := by
  induction front with
  | nil => cases hMem
  | cons first rest ih =>
    intro t hT
    obtain ⟨start, hStart, others, hOthers, rfl⟩ := spell_cons_eq_ok.1 hT
    rw [isSolid_append, Bool.or_eq_true]
    rcases List.mem_cons.1 hMem with rfl | hRest
    · exact .inl (h start hStart)
    · exact .inr (ih hRest others hOthers)

theorem ensures_token {token : Text} (h : isSolid token = true) (rest : List Segment) :
    Ensures (spell (.token token :: rest)) (isSolid · = true) :=
  ensures_spell List.mem_cons_self (by rintro _ ⟨⟩; exact h)

theorem spell_tokens (first second : Text) (rest : List Segment) :
    spell (.token first :: .token second :: rest) = spell (.token (first ++ second) :: rest) := by
  simp

/-- Tokens between which something holds, in front of anything. -/
theorem rel_of_tokens {r : Text → Text → Prop} {first second : Text}
    (h : ∀ others behind, r (first ++ others) (second ++ behind))
    (hT : spell (.token first :: rest) = .ok t) (hU : spell (.token second :: more) = .ok u) :
    r t u := by
  obtain ⟨_, ⟨⟩, others, -, rfl⟩ := spell_cons_eq_ok.1 hT
  obtain ⟨_, ⟨⟩, behind, -, rfl⟩ := spell_cons_eq_ok.1 hU
  exact h others behind

theorem ensures_wrapped {part : Node} (h : Solid part) (parens : Parens) (level : Nat)
    (rest : List Segment) :
    Ensures (spell (.part (.wrapped parens) level part :: rest)) (isSolid · = true) := by
  refine ensures_spell List.mem_cons_self ?_
  simp only [Segment.write, Setting.write, ensures_bind, ensures_pure, isSolid_wrap]
  exact h level

/-! ## Operators -/

section Operators

variable {span : Span} {operator swap : Text} {left image right others : Node} {parent : Nat}

/-- The same operand on the left of two operators that part. -/
theorem apart_operand (hLeft : Solid left) (h : Parted (operator ++ " ") (swap ++ " "))
    (hT : spell (.part (.operand parent operator .left) level left :: .token " " ::
      .token operator :: .token " " :: rest) = .ok t)
    (hU : spell (.part (.operand parent swap .left) level left :: .token " " ::
      .token swap :: .token " " :: more) = .ok u) : Apart .wide t u := by
  simp only [spell_cons_eq_ok, Segment.write, Setting.write, bind_eq_ok, pure_eq_ok,
    Except.ok.injEq] at hT hU
  obtain ⟨_, ⟨parens, -, inner, hInner, rfl⟩, _, ⟨_, rfl, _, ⟨_, rfl, _, ⟨_, rfl, after, -, rfl⟩,
    rfl⟩, rfl⟩, rfl⟩ := hT
  obtain ⟨_, ⟨outer, -, _, hInner', rfl⟩, _, ⟨_, rfl, _, ⟨_, rfl, _, ⟨_, rfl, behind, -, rfl⟩,
    rfl⟩, rfl⟩, rfl⟩ := hU
  cases hInner.symm.trans hInner'
  have hFull := trimmed_ne_nil (hLeft level inner hInner)
  have hTail : Parted (operator ++ (" " ++ after))
      (swap ++ (" " ++ behind)) := by
    rw [← List.append_assoc, ← List.append_assoc]
    exact h.append_right after behind
  have hOpen : trimmed "(" = [] := by decide
  cases parens <;> cases outer <;>
    simp only [Apart, wrap, Bool.false_eq_true, if_true, if_false, List.append_assoc,
      trimmed_append_of_lead hOpen, trimmed_append hFull, parted_append_left]
  · exact hTail
  · exact parted_cons_cons.2 fun hEq => absurd hEq (by decide)
  · exact parted_cons_cons.2 fun hEq => absurd hEq (by decide)
  · exact hTail

theorem divide_binaryOperator (hLeft : Solid left)
    (h : Parted (operator ++ " ") (swap ++ " ")) :
    Divide .wide (.binary span left operator right) (.binary span left swap others) :=
  .of_wide rfl rfl rfl fun _ _ _ hT hU =>
    apart_operand hLeft h (spell_segments hT) (spell_segments hU)

theorem divide_logicalOperator (hLeft : Solid left)
    (h : Parted (operator ++ " ") (swap ++ " ")) :
    Divide .wide (.logical span left operator right) (.logical span left swap others) :=
  .of_wide rfl rfl rfl fun _ _ _ hT hU =>
    apart_operand hLeft h (spell_segments hT) (spell_segments hU)

theorem divide_assignmentOperator (hLeft : Solid left)
    (h : Parted (operator ++ " ") (swap ++ " ")) :
    Divide .wide (.assignment span left operator right) (.assignment span left swap others) := by
  refine .of_wide rfl rfl rfl fun level t u hT hU => ?_
  have hFront : Ensures (spell [.part .plain level left, .token " "]) (isSolid · = true) :=
    ensures_spell List.mem_cons_self (hLeft level)
  refine apart_of_front hFront (fun t u hT hU => ?_) (spell_segments hT) (spell_segments hU)
  exact rel_of_tokens h.append_right ((spell_tokens _ _ _).symm.trans hT) ((spell_tokens _ _ _).symm.trans hU)

/-- Operands that divide, in front of any operators. -/
theorem apart_operands (h : Divide .wide left image)
    (hT : spell (.part (.operand parent operator .left) level left :: rest) = .ok t)
    (hU : spell (.part (.operand parent swap .left) level image :: more) = .ok u) :
    Apart .wide t u := by
  simp only [spell_cons_eq_ok, Segment.write, Setting.write, bind_eq_ok, pure_eq_ok] at hT hU
  obtain ⟨_, ⟨parens, -, inner, hInner, rfl⟩, after, -, rfl⟩ := hT
  obtain ⟨_, ⟨outer, -, other, hOther, rfl⟩, behind, -, rfl⟩ := hU
  exact ((h.text hInner hOther).wrap_wide parens outer).append_right after behind

theorem divide_binaryLeft (h : Divide .wide left image) :
    Divide .wide (.binary span left operator right) (.binary span image swap others) :=
  .of_wide rfl rfl rfl fun _ _ _ hT hU =>
    apart_operands h (spell_segments hT) (spell_segments hU)

theorem divide_logicalLeft (h : Divide .wide left image) :
    Divide .wide (.logical span left operator right) (.logical span image swap others) :=
  .of_wide rfl rfl rfl fun _ _ _ hT hU =>
    apart_operands h (spell_segments hT) (spell_segments hU)

end Operators

/-! ## Signs -/

section Signs

variable {span : Span} {operator swap : Text} {argument other : Node} {leading : Bool}

theorem divide_unaryOperator (h : Apart .wide operator swap) :
    Divide .wide (.unary span operator argument) (.unary span swap other) :=
  .of_wide rfl rfl rfl fun _ _ _ hT hU =>
    rel_of_tokens h.append_right (spell_segments hT) (spell_segments hU)

theorem divide_updateOperator (hArgument : Solid argument) (h : Apart .wide operator swap) :
    Divide .wide (.update span operator leading argument) (.update span swap leading argument) := by
  refine .of_wide rfl rfl rfl fun level t u hT hU => ?_
  cases leading with
  | true => exact rel_of_tokens h.append_right (spell_segments hT) (spell_segments hU)
  | false =>
    exact apart_of_front (ensures_wrapped hArgument (.below 19) level [])
      (fun t u hT hU => rel_of_tokens h.parted.append_right hT hU) (spell_segments hT) (spell_segments hU)

/-- Arguments that divide, between any signs. -/
theorem divide_updateArgument (hArgument : Divide .wide argument other)
    (h : Apart .wide operator swap) :
    Divide .wide (.update span operator leading argument) (.update span swap leading other) := by
  refine .of_wide rfl rfl rfl fun level t u hT hU => ?_
  cases leading with
  | true => exact rel_of_tokens h.append_right (spell_segments hT) (spell_segments hU)
  | false =>
    obtain ⟨first, hFirst, rest, -, rfl⟩ := exists_of_segments hT rfl
    obtain ⟨second, hSecond, more, -, rfl⟩ := exists_of_segments hU rfl
    have hApart : Apart .wide first second :=
      hArgument.setting (.wrapped (.below 19)) hFirst hSecond
    exact hApart.append_right rest more

theorem exists_doubled (h : ∃ sign ∈ Grammar.updateOperators, operator = Text.ofString sign) :
    ∃ c, isSign c = true ∧ isBrink c = true ∧ isThin c = true ∧ isLead c = false ∧
      c ≠ '(' ∧ operator = [c, c] := by
  obtain ⟨sign, hSign, rfl⟩ := h
  simp only [Grammar.updateOperators, List.mem_cons, List.not_mem_nil, or_false] at hSign
  rcases hSign with rfl | rfl
  · exact ⟨'+', by decide, by decide, by decide, by decide, by decide, rfl⟩
  · exact ⟨'-', by decide, by decide, by decide, by decide, by decide, rfl⟩

/-- The sign stands in front of the argument on one side and behind it on the other. -/
theorem divide_flipped (hArgument : Solid argument)
    (hOperator : ∃ sign ∈ Grammar.updateOperators, operator = Text.ofString sign) :
    Divide .wide (.update span operator true argument) (.update span swap false argument) := by
  refine .of_wide rfl rfl rfl fun level t u hT hU => ?_
  obtain ⟨c, -, -, hThin, hLead, -, rfl⟩ := exists_doubled hOperator
  simp only [printAt, bind_eq_ok, pure_eq_ok] at hT hU
  obtain ⟨inner, hInner, rfl⟩ := hT
  obtain ⟨_, hInner', rfl⟩ := hU
  cases hInner.symm.trans hInner'
  generalize hText : wrap (precedence argument < 19) inner = text
  have hSolid : isSolid text = true := by
    rw [← hText, isSolid_wrap]
    exact hArgument level inner hInner
  obtain ⟨lead, hBlank, hSplit⟩ := exists_lead text
  have hTrimmed : isSolid (trimmed text) = true := by
    rw [hSplit, isSolid_append, Bool.or_eq_true] at hSolid
    refine hSolid.resolve_left fun hLead => ?_
    obtain ⟨d, hD, hThick⟩ := List.any_eq_true.1 hLead
    simp [hBlank d hD] at hThick
  have hShift := parted_of_shift ([c, c] ++ lead) (by simp)
    (by simpa [hThin] using hBlank) hTrimmed [] swap
  simpa [Apart, hLead, trimmed_append (trimmed_ne_nil hSolid), ← hSplit] using hShift

theorem parted_of_startsPlain (hC : isSign c = true) (h : startsPlain t = true)
    (after more : Text) : Parted (c :: c :: after) (trimmed t ++ more) := by
  unfold startsPlain at h
  cases hTrimmed : trimmed t with
  | nil => simp [hTrimmed] at h
  | cons d rest =>
    rw [List.cons_append, parted_cons_cons]
    rintro rfl
    cases rest with
    | nil => simp [hTrimmed, hC] at h
    | cons e rest =>
      rw [List.cons_append, parted_cons_cons]
      rintro rfl
      simp [hTrimmed, hC] at h

/-- The same for two arguments, of which the second one starts as an operand does. -/
theorem divide_flippedArgument
    (hOperator : ∃ sign ∈ Grammar.updateOperators, operator = Text.ofString sign)
    (hOther : ∀ level, Ensures (printAt level other) (Opening other)) :
    Divide .narrow (.update span operator true argument) (.update span operator false other) := by
  refine .of_text rfl rfl rfl (fun _ => rfl) fun level t u hT hU => ?_
  change Apart .narrow t u
  obtain ⟨c, hSign, hBrink, -, hLead, hNe, rfl⟩ := exists_doubled hOperator
  simp only [printAt, bind_eq_ok, pure_eq_ok] at hT hU
  obtain ⟨inner, -, rfl⟩ := hT
  obtain ⟨outer, hOuter, rfl⟩ := hU
  have hOpening := hOther level outer hOuter
  have hParen (rest : Text) : Apart .narrow
      ([c, c] ++ wrap (precedence argument < 19) inner) (CodePoint.ofChar '(' :: rest) :=
    .inr ⟨[], c, _, _, rest, hBrink, by decide, hNe, rfl, rfl⟩
  by_cases hRank : precedence other < 19
  · have hWrap : wrap (precedence other < 19) outer ++ [c, c] =
        CodePoint.ofChar '(' :: (outer ++ ")" ++ [c, c]) := by
      simp [hRank, wrap, Text.ofString]
    simpa [hWrap] using hParen _
  · rcases hOpening.sign (by omega) with hHead | hPlain
    · obtain ⟨rest, rfl⟩ : ∃ rest, outer = CodePoint.ofChar '(' :: rest := by
        cases outer with
        | nil => cases hHead
        | cons d rest => exact ⟨rest, by simpa using hHead⟩
      simpa [hRank, wrap] using hParen (rest ++ [c, c])
    · have hFull : trimmed outer ≠ [] := by
        intro hEmpty
        simp [startsPlain, hEmpty] at hPlain
      refine .inl ?_
      simpa [hRank, wrap, hLead, trimmed_append hFull] using
        parted_of_startsPlain hSign hPlain (wrap (precedence argument < 19) inner) [c, c]

end Signs

/-! ## Items -/

section Items

variable {first : Node} {span : Span} {callee : Node} {items : List Node}

theorem parted_of_item {items : List (List Segment)} {after : List Segment}
    (hFirst : Ensures (printAt level first) fun t => ∃ d rest, t = d :: rest ∧ d ≠ c)
    (hT : spell (series ", " (item level first :: items) ++ after) = .ok t) (more : Text) :
    Parted t (c :: more) := by
  rw [series_cons, List.append_assoc] at hT
  obtain ⟨start, hStart, rest, -, rfl⟩ := spell_cons_eq_ok.1 hT
  obtain ⟨d, behind, rfl, hD⟩ := hFirst start hStart
  exact parted_cons_cons.2 fun hEq => absurd hEq hD

/-- A first item shows against the parenthesis that closes an empty list. -/
theorem parted_of_first {items : List (List Segment)} {after behind : List Segment}
    (hFirst : Ensures (printAt level first) (Opening first))
    (hT : spell (series ", " (item level first :: items) ++ after) = .ok t)
    (hU : spell (.token ")" :: behind) = .ok u) : Parted t u := by
  obtain ⟨_, ⟨⟩, behind, -, rfl⟩ := spell_cons_eq_ok.1 hU
  refine parted_of_item (fun t hT => ?_) hT behind
  obtain ⟨d, rest, rfl, hD, -⟩ := (hFirst t hT).start
  exact ⟨d, rest, rfl, hD⟩

theorem divide_emptiedCall {optional : Bool} (hCallee : Solid callee)
    (hFirst : ∀ level, Ensures (printAt level first) (Opening first)) :
    Divide .wide (.call span callee (first :: items) optional) (.call span callee [] optional) := by
  refine .of_wide rfl rfl rfl fun level t u hT hU => ?_
  have hFront := ensures_wrapped hCallee .target level
    [.token (Text.ofString (if optional then "?.(" else "("))]
  refine apart_of_front hFront (fun t u hT hU => ?_) (spell_segments hT) (spell_segments hU)
  exact parted_of_first (hFirst level) hT hU

theorem divide_emptiedNew (hFirst : ∀ level, Ensures (printAt level first) (Opening first)) :
    Divide .wide (.newExpression span callee (first :: items)) (.newExpression span callee []) := by
  refine .of_wide rfl rfl rfl fun level t u hT hU => ?_
  have hFront := ensures_token (show isSolid "new " = true by decide)
    [.part (.wrapped .callee) level callee, .token "("]
  refine apart_of_front hFront (fun t u hT hU => ?_) (spell_segments hT) (spell_segments hU)
  exact parted_of_first (hFirst level) hT hU

theorem divide_emptiedArray {elements : List (Option Node)} (h : elements ≠ [])
    (hFirst : ∀ first, elements.head? = some (some first) →
      ∀ level, Ensures (printAt level first) (Opening first)) :
    Divide .wide (.arrayExpression span elements) (.arrayExpression span []) := by
  refine .of_wide rfl rfl rfl fun level t u hT hU => ?_
  have hFront := ensures_token (show isSolid "[" = true by decide) []
  refine apart_of_front hFront (fun t u hT hU => ?_) (spell_segments hT) (spell_segments hU)
  have hU : spell [.token "", .token "]"] = .ok u := hU
  obtain rfl : u = "]" := by simpa [Text.ofString, eq_comm] using hU
  cases elements with
  | nil => exact absurd rfl h
  | cons element elements =>
    cases element with
    | some first =>
      refine parted_of_item (fun t hT => ?_) hT []
      obtain ⟨d, rest, rfl, -, hD⟩ := (hFirst first rfl level t hT).start
      exact ⟨d, rest, rfl, hD⟩
    | none =>
      -- a hole has a comma behind it
      have hComma (rest : Text) : Parted ("," ++ rest) "]" :=
        parted_cons_cons.2 fun hEq => absurd hEq (by decide)
      cases elements with
      | nil =>
        obtain ⟨_, ⟨⟩, rest, -, rfl⟩ := spell_cons_eq_ok.1 hT
        exact hComma rest
      | cons next elements =>
        obtain ⟨_, ⟨⟩, rest, -, rfl⟩ := spell_cons_eq_ok.1 hT
        exact hComma (" " ++ rest)

theorem divide_emptiedBlock {body : List Node} (h : body ≠ []) :
    Divide .wide (.blockStatement span body) (.blockStatement span []) := by
  obtain ⟨first, rest, rfl⟩ := List.exists_cons_of_ne_nil h
  exact .of_wide rfl rfl rfl fun _ _ _ hT hU =>
    rel_of_tokens (show Apart .wide "\x7b\n" "\x7b\x7d" by decide).append_right
      (spell_segments hT) (spell_segments hU)

theorem divide_emptiedObject {properties : List Node} (h : properties ≠ []) :
    Divide .wide (.objectExpression span properties) (.objectExpression span []) := by
  obtain ⟨first, rest, rfl⟩ := List.exists_cons_of_ne_nil h
  exact .of_wide rfl rfl rfl fun _ _ _ hT hU =>
    rel_of_tokens (show Apart .wide "\x7b\n" "\x7b\x7d" by decide).append_right
      (spell_segments hT) (spell_segments hU)

end Items

end Assay.Print
