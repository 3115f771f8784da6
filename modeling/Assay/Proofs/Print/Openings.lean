import Assay.Proofs.Print.Forks
import Assay.Proofs.Print.Solid
import Mathlib.Data.List.TakeWhile

/-!
# What texts start with

The text of an operand starts with a token of its own or with the text of its leftmost part, and
then goes on with a token that neither closes a parenthesis nor ends a clause. `Opening` collects
what follows for the start of the text; the texts of all operands are such, whatever they stand
for.
-/

set_option autoImplicit false

namespace Assay

open Print Outcome

/-! ## Numerals -/

variable {c : CodePoint} {t rest : Text} {part : Node} {value : Data} {raw : Option Text}

namespace Numeral

/-- Code points that no numeral starts with, not even behind a sign. -/
def isStray (c : CodePoint) : Bool := (Text.ofString ")]([\x7btf+-").contains c

theorem of_isStray {p : CodePoint → Bool} (h : isStray c = true)
    (hAll : (Text.ofString ")]([\x7btf+-").all p = true) : p c = true :=
  List.all_eq_true.1 hAll c (List.contains_iff_mem.1 h)

theorem whole_stray (hC : isStray c = true) (h : (signOf (normalize t)).2 = c :: rest) :
    ∃ failure, whole t = .error failure := by
  have hZero : (c == '0') = false := by
    simpa using of_isStray (p := fun c => !(c == '0')) hC (by decide)
  have hDigit : (digitIn? 10 c).isSome = false := by
    simpa using of_isStray (p := fun c => !(digitIn? 10 c).isSome) hC (by decide)
  have hDigits : baseAndDigits (c :: rest) = (10, false, c :: rest) := by
    unfold baseAndDigits
    cases rest with
    | nil => rfl
    | cons d rest => simp [hZero]
  refine ⟨.notWhole t, ?_⟩
  simp [whole, h, hDigits, hDigit]
  rfl

theorem float?_stray (hC : isStray c = true) (h : (signOf t).2 = c :: rest) : float? t = none := by
  have hDigit : c.isDigit = false := by
    simpa using of_isStray (p := fun c => !c.isDigit) hC (by decide)
  have hPoint : c ≠ CodePoint.ofChar '.' := by
    simpa using of_isStray (p := fun c => c != '.') hC (by decide)
  have hWord (word : String) (letter : Char) (hHead : word.toList.head? = some letter)
      (hAll : (Text.ofString ")]([\x7btf+-").all (fun c => c.toChar.toLower != letter) = true) :
      sameLetters (c :: rest) word = false := by
    rw [sameLetters, beq_eq_false_iff_ne]
    intro hEq
    rw [← hEq] at hHead
    have hFirst : c.toChar.toLower = letter := by simpa using hHead
    have hLetter := of_isStray (p := fun c => c.toChar.toLower != letter) hC hAll
    simp [hFirst] at hLetter
  have hInf := hWord "inf" 'i' rfl (by decide)
  have hInfinity := hWord "infinity" 'i' rfl (by decide)
  have hNan := hWord "nan" 'n' rfl (by decide)
  simp [float?, h, hInf, hInfinity, hNan, hDigit, hPoint]

/-- Whether a code point stands for itself in a numeral and is no white space. -/
def isSelf (c : CodePoint) : Bool := toAscii c == c && !isMargin c && c != '_' && c != 'n'

/-- What a numeral starts with, behind blanks, stays at its start. -/
theorem exists_normalize {blanks front : Text} (hBlanks : ∀ b ∈ blanks, b = ' ')
    (hFront : ∀ d ∈ front, isSelf d = true) (hC : isSelf c = true) (rest : Text) :
    ∃ more, normalize (blanks ++ (front ++ c :: rest)) = front ++ c :: more := by
  have hMargin (d : CodePoint) (hD : isSelf d = true) : isMargin d = false := by
    simp only [isSelf, Bool.and_eq_true, Bool.not_eq_true'] at hD
    exact hD.1.1.2
  have hSelf (u : Text) (hU : ∀ d ∈ u, isSelf d = true) : u.map toAscii = u := by
    conv_rhs => rw [← List.map_id u]
    refine List.map_congr_left fun d hD => ?_
    have hD := hU d hD
    simp only [isSelf, Bool.and_eq_true, beq_iff_eq] at hD
    exact hD.1.1.1
  have hDropBlanks (u : Text) : (blanks.map toAscii ++ u).dropWhile isMargin = u.dropWhile isMargin := by
    induction blanks with
    | nil => rfl
    | cons b blanks ih =>
      obtain rfl : b = ' ' := hBlanks b List.mem_cons_self
      have hBlank : isMargin (toAscii ' ') = true := by decide
      rw [List.map_cons, List.cons_append, List.dropWhile_cons_of_pos hBlank]
      exact ih (List.forall_mem_cons.1 hBlanks).2
  have hDropFront (u : Text) : (front ++ c :: u).dropWhile isMargin = front ++ c :: u := by
    cases front with
    | nil => simp [hMargin c hC]
    | cons d front => simp [hMargin d (hFront d List.mem_cons_self)]
  have hAscii : ((blanks ++ (front ++ c :: rest)).map toAscii).dropWhile isMargin =
      front ++ c :: rest.map toAscii := by
    rw [List.map_append, hDropBlanks, List.map_append, List.map_cons, hSelf front hFront]
    have hCSelf : toAscii c = c := by
      have h := hSelf [c] (by simpa using hC)
      simpa using h
    rw [hCSelf, hDropFront]
  -- the blanks at the end stand behind the code point
  refine ⟨((rest.map toAscii).reverse.dropWhile isMargin).reverse, ?_⟩
  unfold normalize
  dsimp only
  rw [hAscii, show front ++ c :: rest.map toAscii = (front ++ [c]) ++ rest.map toAscii by simp,
    List.reverse_append, List.dropWhile_append]
  split
  · rename_i hEmpty
    have hEmpty : (rest.map toAscii).reverse.dropWhile isMargin = [] := by simpa using hEmpty
    simp [hEmpty, hMargin c hC]
  · simp

/-- A numeral does not start with a stray code point, be it behind a sign. -/
theorem read_stray (blanks front : Text) (hBlanks : ∀ b ∈ blanks, b = CodePoint.ofChar ' ')
    (hFront : ∀ d ∈ front, isSelf d = true)
    (hSign : ∀ more, (signOf (front ++ c :: more)).2 = c :: more) (hC : isStray c = true)
    (value : Data) : read (blanks ++ (front ++ c :: rest)) ≠ .ok value := by
  have hSelf : isSelf c = true := of_isStray hC (by decide)
  have hKept (u : Text) (hU : ∀ d ∈ u, isSelf d = true ∨ d = CodePoint.ofChar ' ') :
      (u.filter fun (d : CodePoint) => d != '_') = u := by
    refine List.filter_eq_self.2 fun d hD => ?_
    rcases hU d hD with hD | rfl
    · simp only [isSelf, Bool.and_eq_true] at hD
      exact hD.1.2
    · decide
  have hFilter : ((blanks ++ (front ++ c :: rest)).filter fun (d : CodePoint) => d != '_') =
      blanks ++ (front ++ c :: rest.filter fun (d : CodePoint) => d != '_') := by
    have hKeepC : (c != CodePoint.ofChar '_') = true :=
      of_isStray (p := fun c => c != CodePoint.ofChar '_') hC (by decide)
    rw [List.filter_append, List.filter_append, List.filter_cons, if_pos hKeepC,
      hKept blanks fun d hD => .inr (hBlanks d hD), hKept front fun d hD => .inl (hFront d hD)]
  have hWhole (rest : Text) : ∃ failure, whole (blanks ++ (front ++ c :: rest)) = .error failure := by
    obtain ⟨more, hMore⟩ := exists_normalize hBlanks hFront hSelf rest
    exact whole_stray hC (by rw [hMore, hSign])
  have hFloat (rest : Text) : float? (normalize (blanks ++ (front ++ c :: rest))) = none := by
    obtain ⟨more, hMore⟩ := exists_normalize hBlanks hFront hSelf rest
    exact float?_stray hC (by rw [hMore, hSign])
  have hN : (some c == some (CodePoint.ofChar 'n')) = false := by
    simpa using of_isStray (p := fun c => c != 'n') hC (by decide)
  unfold read
  rw [hFilter]
  generalize (rest.filter fun (d : CodePoint) => d != '_') = tail
  rcases List.eq_nil_or_concat tail with rfl | ⟨init, last, rfl⟩
  · obtain ⟨failure, hFailure⟩ := hWhole []
    simp [hFailure, hFloat, hN]
  · obtain ⟨failure, hFailure⟩ := hWhole (init ++ [last])
    obtain ⟨fault, hFault⟩ := hWhole init
    have hDrop : (blanks ++ (front ++ c :: init.concat last)).dropLast =
        blanks ++ (front ++ c :: init) := by
      rw [List.concat_eq_append, show blanks ++ (front ++ c :: (init ++ [last])) =
        (blanks ++ (front ++ c :: init)) ++ [last] by simp]
      exact List.dropLast_concat
    rw [← List.concat_eq_append] at hFailure
    dsimp only
    rw [hDrop, hFault, hFailure]
    dsimp only
    rw [hFloat]
    split <;> simp [Except.map]

end Numeral

namespace Print

/-! ## Starts of texts -/

/-- Whether a code point is a sign. -/
def isSign (c : CodePoint) : Bool := c == '+' || c == '-'

/-- Whether a text starts, behind parentheses and blanks, with something else than two signs. -/
def startsPlain (t : Text) : Bool :=
  match trimmed t with
  | [] => false
  | [c] => !isSign c
  | c :: d :: _ => !isSign c || !isSign d

theorem startsPlain_append (h : startsPlain t = true) (rest : Text) :
    startsPlain (t ++ rest) = true := by
  have hFull : trimmed t ≠ [] := by
    intro hEmpty
    simp [startsPlain, hEmpty] at h
  unfold startsPlain at h ⊢
  rw [trimmed_append hFull]
  cases hTrimmed : trimmed t with
  | nil => exact absurd hTrimmed hFull
  | cons c more =>
    rw [hTrimmed] at h
    cases more with
    | nil =>
      have hC : isSign c = false := by simpa using h
      cases rest <;> simp [hC]
    | cons d more => simpa using h

end Print

namespace Numeral

/-- A numeral does not start with a stray code point that is no sign. -/
theorem read_ne_of_stray (hC : isStray c = true) (hSign : isSign c = false) (value : Data) :
    read (c :: rest) ≠ .ok value := by
  refine read_stray [] [] (by simp) (by simp) (fun more => ?_) hC value
  simp only [isSign, Bool.or_eq_false_iff] at hSign
  simp [signOf, hSign]

theorem blanks_or_paren {lead : Text} (h : ∀ c ∈ lead, isLead c = true) :
    (∀ b ∈ lead, b = CodePoint.ofChar ' ') ∨
      ∃ blanks more, (∀ b ∈ blanks, b = CodePoint.ofChar ' ') ∧
        lead = blanks ++ CodePoint.ofChar '(' :: more := by
  induction lead with
  | nil => exact .inl (by simp)
  | cons c lead ih =>
    have hFirst : c = '(' ∨ c = ' ' := by
      simpa [isLead] using h c List.mem_cons_self
    rcases hFirst with rfl | rfl
    · exact .inr ⟨[], lead, by simp, rfl⟩
    · rcases ih (List.forall_mem_cons.1 h).2 with hBlanks | ⟨blanks, more, hBlanks, rfl⟩
      · exact .inl (by simpa using hBlanks)
      · exact .inr ⟨' ' :: blanks, more, by simpa using hBlanks, rfl⟩

/-- A numeral has at most one sign in front. -/
theorem startsPlain_of_read {raw : Text} (h : read raw = .ok value) : startsPlain raw = true := by
  have hSolid := isSolid_of_read h
  have hLead : ∀ c ∈ raw.takeWhile isLead, isLead c = true := fun c hC => List.mem_takeWhile_imp hC
  have hSplit : raw.takeWhile isLead ++ trimmed raw = raw := List.takeWhile_append_dropWhile
  have hThinLead (c : CodePoint) (hC : isLead c = true) : isThin c = true := by
    simp only [isLead, Bool.or_eq_true, beq_iff_eq] at hC
    rcases hC with rfl | rfl <;> decide
  have hThinSign (c : CodePoint) (hC : isSign c = true) : isThin c = true := by
    simp only [isSign, Bool.or_eq_true, beq_iff_eq] at hC
    rcases hC with rfl | rfl <;> decide
  have hFront : isSolid (raw.takeWhile isLead) = false := by
    simpa [isSolid] using fun c hC => hThinLead c (hLead c hC)
  rw [← hSplit, isSolid_append, hFront, Bool.false_or] at hSolid
  unfold startsPlain
  cases hTrimmed : trimmed raw with
  | nil => simp [hTrimmed, isSolid] at hSolid
  | cons c more =>
    cases more with
    | nil =>
      by_contra hSign
      have hSign : isSign c = true := by simpa using hSign
      simp [hTrimmed, isSolid, hThinSign c hSign] at hSolid
    | cons d more =>
      by_contra hSigns
      have hSigns : isSign c = true ∧ isSign d = true := by simpa using hSigns
      rw [hTrimmed] at hSplit
      rw [← hSplit] at h
      -- the signs stand behind blanks, or a parenthesis is in front of them
      rcases blanks_or_paren hLead with hBlanks | ⟨blanks, others, hBlanks, hParen⟩
      · have hCases (c : CodePoint) (hC : isSign c = true) :
            c = CodePoint.ofChar '+' ∨ c = '-' := by
          simpa [isSign] using hC
        have hStray : isStray d = true := by
          rcases hCases d hSigns.2 with rfl | rfl <;> decide
        have hSelf : isSelf c = true := by
          rcases hCases c hSigns.1 with rfl | rfl <;> decide
        refine read_stray _ [c] hBlanks (by simpa using hSelf) (fun rest => ?_) hStray value h
        · rcases hCases c hSigns.1 with rfl | rfl <;> rfl
      · rw [hParen, List.append_assoc, List.cons_append] at h
        exact read_stray blanks [] hBlanks (by simp) (fun rest => rfl) (by decide) value h

end Numeral

/-! ## Spellings -/

namespace Lexicon

/-- Whether a name may go on with a code point: a brace is part of an escape. -/
def isNamePart (c : CodePoint) : Bool := !isMark c || c.isDigit || c == '\x7b' || c == '\x7d'

/-- Whether a text closes a string: it ends with the first quotation mark that is not escaped. -/
def closes (quote : CodePoint) : Text → Bool
  | [] => false
  | [c] => c == quote
  | c :: d :: rest => if c == '\\' then closes quote rest else c != quote && closes quote (d :: rest)

/-- The spellings of the language in full: names hold no marks, and strings end where they are
closed. -/
def strict : Lexicon where
  isName name := startsAsName name && name.all isNamePart
  isVariable := standard.isVariable
  isString
    | [] => false
    | quote :: rest => (quote == '"' || quote == '\'') && closes quote rest

/-- Whether a template may start with a text: it neither closes the template nor opens a
substitution in it. -/
def isPiece (t : Text) : Bool :=
  !(Text.ofString "`").isPrefixOf t && !(Text.ofString "$\x7b").isPrefixOf t

theorem getLast?_of_closes {quote : CodePoint} (h : closes quote t = true) :
    t.getLast? = some quote := by
  fun_induction closes quote t with
  | case1 => cases h
  | case2 c => simpa using h
  | case3 c d rest hBackslash ih =>
    cases rest with
    | nil => simp [closes] at h
    | cons e rest => simpa using ih h
  | case4 c d rest hBackslash ih =>
    simp only [Bool.and_eq_true] at h
    simpa using ih h.2

end Lexicon

namespace Node

theorem isTest_strict (node : Node) :
    node.isTest Lexicon.strict = node.isTest Lexicon.standard := by
  cases node <;> rfl

theorem IsLiteral.standard {regex : Option (Text × Text)}
    (h : IsLiteral Lexicon.strict value raw regex) :
    IsLiteral Lexicon.standard value raw regex := by
  cases h with
  | bool value raw => exact .bool value raw
  | null raw => exact .null raw
  | regex raw parts => exact .regex raw parts
  | @string raw value hString hResolve =>
    refine .string ?_ hResolve
    cases raw with
    | nil => cases hString
    | cons quote rest =>
      simp only [Lexicon.strict, Bool.and_eq_true] at hString
      simp only [Lexicon.standard, Lexicon.isQuoted, Bool.and_eq_true, beq_iff_eq]
      exact ⟨hString.1, Lexicon.getLast?_of_closes hString.2⟩
  | int hRead => exact .int hRead
  | float hRead => exact .float hRead

theorem Proper.standard {node : Node} (h : node.Proper Lexicon.strict) :
    node.Proper Lexicon.standard := by
  cases node
  case identifier =>
    simp only [Proper, Lexicon.strict, Bool.and_eq_true] at h
    exact h.1
  case literal => exact IsLiteral.standard h
  case ifStatement => exact ⟨isTest_strict _ ▸ h.1, h.2⟩
  case whileStatement => exact (isTest_strict _).symm.trans h
  case doWhileStatement => exact (isTest_strict _).symm.trans h
  case forStatement => exact fun part hPart => (isTest_strict part).symm.trans (h part hPart)
  all_goals exact h

theorem Fits.standard {limit : Int} {node : Node} (h : node.Fits Lexicon.strict limit) :
    node.Fits Lexicon.standard limit :=
  ⟨h.within, h.loose, h.placed, h.proper.standard⟩

end Node

namespace Print

/-! ## Openings -/

/-- Whether a text is empty, or goes on with what closes a parenthesis or ends a clause. -/
def isEnd (t : Text) : Bool := t.head?.all fun (c : CodePoint) => c == ')' || c == ';'

/-- What can be said of the start of the text of an operand: it closes nothing, it has no two signs
if it holds together tightly, and it is not a truth value that ends there unless the operand is one
or is a name. -/
structure Opening (node : Node) (t : Text) : Prop where
  start : ∃ c rest, t = c :: rest ∧ c ≠ CodePoint.ofChar ')' ∧ c ≠ CodePoint.ofChar ']'
  sign : 19 ≤ precedence node → t.head? = some (CodePoint.ofChar '(') ∨ startsPlain t = true
  word : ∀ value rest, t = boolText value ++ rest → isEnd rest = true →
    rest = [] ∧ (Mutate.isLiteral value (some node) = true ∨ node.isName = true)

/-- Whether a token tells all that there is to say of a text that starts with it. -/
def isFixed (token : Text) : Bool :=
  token.head?.any (fun (c : CodePoint) => c != ')' && c != ']') &&
    [true, false].all fun value =>
      !(boolText value).isPrefixOf token && !token.isPrefixOf (boolText value)

namespace Opening

variable {node : Node}

theorem of_token {token : Text} (h : isFixed token = true)
    (hSign : 19 ≤ precedence node →
      token.head? = some (CodePoint.ofChar '(') ∨ startsPlain token = true) (rest : Text) :
    Opening node (token ++ rest) := by
  simp only [isFixed, Bool.and_eq_true] at h
  cases token with
  | nil => simp at h
  | cons c token =>
    refine ⟨⟨c, token ++ rest, rfl, ?_⟩, fun hRank => ?_, fun value more hEq _ => ?_⟩
    · simpa using h.1
    · rcases hSign hRank with hParen | hPlain
      · exact .inl hParen
      · exact .inr (startsPlain_append hPlain rest)
    · exfalso
      have hValue := List.all_eq_true.1 h.2 value (by cases value <;> simp)
      simp only [Bool.and_eq_true, Bool.not_eq_true', ← Bool.not_eq_true,
        List.isPrefixOf_iff_prefix] at hValue
      have hParted : Parted (boolText value) (c :: token) := hValue
      exact (hParted.append_right more rest).ne hEq.symm

/-- Whether a code point may join an operand to what follows. -/
def isJoint (c : CodePoint) : Bool := !c.isAsciiLetter && c != ')' && c != ';'

/-- An operand that stands in front of what it is joined to. -/
theorem joined (h : Opening part t) {parens : Bool}
    (hRank : 19 ≤ precedence node → parens = true ∨ 19 ≤ precedence part) (hC : isJoint c = true)
    (rest : Text) : Opening node (wrap parens t ++ c :: rest) := by
  cases parens with
  | true =>
    have hOpen : wrap true t ++ c :: rest = "(" ++ (t ++ ")" ++ c :: rest) := by
      simp [wrap]
    rw [hOpen]
    exact of_token (by decide) (fun _ => .inl (by decide)) _
  | false =>
    have hLetters (value : Bool) : (boolText value).all CodePoint.isAsciiLetter = true := by
      cases value <;> decide
    simp only [isJoint, Bool.and_eq_true, Bool.not_eq_true', bne_iff_ne] at hC
    obtain ⟨first, more, rfl, hStart⟩ := h.start
    refine ⟨⟨first, more ++ c :: rest, rfl, hStart⟩, fun hHigh => ?_, fun value after hEq hEnd => ?_⟩
    · rcases h.sign ((hRank hHigh).resolve_left (by simp)) with hParen | hPlain
      · exact .inl hParen
      · exact .inr (startsPlain_append hPlain _)
    · exfalso
      have hNoEnd : isEnd (c :: rest) ≠ true := by simp [isEnd, hC.1.2, hC.2]
      rcases List.append_eq_append_iff.1 hEq with ⟨tail, hBool, hAfter⟩ | ⟨tail, hText, rfl⟩
      · -- the word goes on where the operand ends
        cases tail with
        | nil => exact hNoEnd (hAfter ▸ hEnd)
        | cons d tail =>
          obtain ⟨rfl, -⟩ := List.cons.inj hAfter
          have hLetter := List.all_eq_true.1 (hLetters value) c (by simp [hBool])
          rw [hC.1.1] at hLetter
          cases hLetter
      · -- the word ends inside of the operand or together with it
        cases tail with
        | nil => exact hNoEnd hEnd
        | cons d tail => cases (h.word value (d :: tail) hText hEnd).1

end Opening

end Print

/-! ## Operands -/

/-- Whether a node of the kind may stand as an operand; statements may not, and neither may
patterns with a default. -/
def Kind.isOperand : Kind → Bool
  | .identifier | .privateIdentifier | .literal | .templateLiteral | .taggedTemplateExpression
  | .thisExpression | .superReference | .arrayExpression | .objectExpression | .spreadElement
  | .unaryExpression | .updateExpression | .binaryExpression | .logicalExpression
  | .assignmentExpression | .conditionalExpression | .callExpression | .newExpression
  | .memberExpression | .chainExpression | .sequenceExpression | .awaitExpression
  | .yieldExpression | .metaProperty | .functionExpression | .arrowFunctionExpression
  | .classExpression | .objectPattern | .arrayPattern | .restElement => true
  | _ => false

namespace Node

/-- The operands of a node with which its text starts, or goes on behind something that opens. -/
def leadingParts : Node → List Node
  | .binary _ part _ _ | .logical _ part _ _ | .assignment _ part _ _ | .conditional _ part _ _
  | .taggedTemplate _ part _ | .member _ part _ _ _ | .update _ _ _ part
  | .ifStatement _ part _ _ | .whileStatement _ part _ | .doWhileStatement _ _ part => [part]
  | .forStatement _ _ part _ _ => part.toList
  | .call _ callee arguments _ => callee :: arguments
  | .newExpression _ _ arguments => arguments
  | .arrayExpression _ elements => elements.flatMap Option.toList
  | _ => []

theorem mem_parts_of_leading {node : Node} (h : part ∈ node.leadingParts) : part ∈ node.parts := by
  cases node <;> simp only [leadingParts, parts, looseParts, placedParts] at h ⊢ <;> grind

/-- What the start of the text of a node depends on, of the node itself. -/
def StartsWell : Node → Prop
  | .identifier _ name => Lexicon.strict.isName name = true
  | .literal _ value raw regex => IsLiteral Lexicon.strict value raw regex ∨
      raw = none ∧ regex = none ∧ ∃ text, value = .text text
  | .unary _ operator _ => ∃ sign ∈ Grammar.unaryOperators, operator = Text.ofString sign
  | .update _ operator _ _ => ∃ sign ∈ Grammar.updateOperators, operator = Text.ofString sign
  | .templateLiteral _ quasis _ => ∀ first ∈ quasis.head?, Lexicon.isPiece first.raw = true
  | .metaProperty _ head _ => head.kind = .identifier
  | .taggedTemplate _ _ quasi => quasi.kind = .templateLiteral
  | .chain _ expression => expression.kind ∈ [Kind.memberExpression, .callExpression]
  | _ => True

/-- The text of a node starts as it should if the operands in it do. -/
structure Leading (node : Node) : Prop where
  starts : node.StartsWell
  operands : ∀ part ∈ node.leadingParts, part.kind.isOperand = true

end Node

namespace Print

variable {span : Span} {node : Node} {level : Nat}

attribute [local simp] Node.parts Node.looseParts Node.leadingParts

/-- What is spelled behind the first segment. -/
theorem exists_of_segments {segment : Segment} {rest : List Segment}
    (h : printAt level node = .ok t) (hSegments : segments level node = segment :: rest) :
    ∃ first, segment.write = .ok first ∧ ∃ others, spell rest = .ok others ∧ t = first ++ others := by
  have hSpell := spell_segments h
  rw [hSegments] at hSpell
  exact spell_cons_eq_ok.1 hSpell

theorem Opening.of_segments {token : Text} {rest : List Segment} {t : Text}
    (h : printAt level node = .ok t) (hSegments : segments level node = .token token :: rest)
    (hFixed : isFixed token = true) (hSign : 19 ≤ precedence node →
      token.head? = some (CodePoint.ofChar '(') ∨ startsPlain token = true) : Opening node t := by
  obtain ⟨_, ⟨⟩, others, -, rfl⟩ := exists_of_segments h hSegments
  exact .of_token hFixed hSign others

theorem opening_numeral {raw : Text} (h : Numeral.read raw = .ok value) : Opening node raw := by
  have hNo (c : CodePoint) (rest : Text) (hC : Numeral.isStray c = true)
      (hSign : isSign c = false) : raw ≠ c :: rest := by
    rintro rfl
    exact Numeral.read_ne_of_stray hC hSign value h
  refine ⟨?_, fun _ => .inr (Numeral.startsPlain_of_read h), fun truth rest hEq _ => ?_⟩
  · cases raw with
    | nil => cases Numeral.isSolid_of_read h
    | cons c rest =>
      refine ⟨c, rest, rfl, ?_, ?_⟩
      · rintro rfl
        exact hNo _ rest (by decide) (by decide) rfl
      · rintro rfl
        exact hNo _ rest (by decide) (by decide) rfl
  · cases truth with
    | true => exact absurd hEq (hNo _ _ (by decide) (by decide))
    | false => exact absurd hEq (hNo _ _ (by decide) (by decide))

theorem opening_bool {value : Bool} :
    Opening (.literal span (.bool value) raw none) (boolText value) := by
  refine ⟨?_, fun _ => .inr (by cases value <;> decide), fun truth rest hEq _ => ?_⟩
  · cases value <;> exact ⟨_, _, rfl, by decide, by decide⟩
  · by_cases hTruth : value = truth
    · subst hTruth
      exact ⟨List.append_right_eq_self.1 hEq.symm, .inl (by simp [Mutate.isLiteral])⟩
    · have hParted : Parted (boolText value) (boolText truth) := by
        cases value <;> cases truth <;> simp_all +decide [boolText, Parted]
      exact absurd (by simpa using hEq) (hParted.append_right [] rest).ne

theorem opening_literal {regex : Option (Text × Text)}
    (h : (Node.literal span value raw regex).StartsWell) :
    Ensures (printAt level (.literal span value raw regex))
      (Opening (.literal span value raw regex)) := by
  have hToken (token rest : Text) (hFixed : isFixed token = true) (hPlain : startsPlain token = true) :
      Opening (.literal span value raw regex) (token ++ rest) :=
    .of_token hFixed (fun _ => .inr hPlain) rest
  rcases h with h | ⟨rfl, rfl, text, rfl⟩
  · cases h <;> simp only [printAt, literalText, ensures_ok, List.append_assoc]
    case bool => exact opening_bool
    case null => simpa using hToken "null" [] (by decide) (by decide)
    case regex => exact hToken "/" _ (by decide) (by decide)
    case string raw _ hString _ =>
      cases raw with
      | nil => cases hString
      | cons quote rest =>
        simp only [Lexicon.strict, Bool.and_eq_true, Bool.or_eq_true, beq_iff_eq] at hString
        rcases hString.1 with rfl | rfl
        · exact hToken "\"" rest (by decide) (by decide)
        · exact hToken "'" rest (by decide) (by decide)
    case int hRead | float hRead => exact opening_numeral hRead
  · simp only [printAt, literalText, ensures_ok]
    exact hToken "\"" _ (by decide) (by decide)

theorem opening_name {name : Text} (h : Lexicon.strict.isName name = true) :
    Opening (.identifier span name) name := by
  simp only [Lexicon.strict, Bool.and_eq_true, List.all_eq_true] at h
  cases name with
  | nil => cases h.1
  | cons c rest =>
    have hMark : Lexicon.isMark c = false := by simpa [Lexicon.startsAsName] using h.1
    have hNe (d : CodePoint) (hD : Lexicon.isMark d = true) : c ≠ d := by
      rintro rfl
      rw [hMark] at hD
      cases hD
    refine ⟨⟨c, rest, rfl, hNe _ (by decide), hNe _ (by decide)⟩, fun _ => .inr ?_,
      fun value after hEq hEnd => ⟨?_, .inr rfl⟩⟩
    · have hLead : isLead c = false := by
        simp [isLead, hNe '(' (by decide), hNe ' ' (by decide)]
      have hSign : isSign c = false := by
        simp [isSign, hNe '+' (by decide), hNe '-' (by decide)]
      cases rest <;> simp [startsPlain, hLead, hSign]
    · cases after with
      | nil => rfl
      | cons d after =>
        have hPart := h.2 d (by simp [hEq])
        have hD : d = ')' ∨ d = ';' := by simpa [isEnd] using hEnd
        rcases hD with rfl | rfl <;> cases hPart

/-- The setting puts nothing around an operand but parentheses, and these if the whole holds
together more tightly than the operand. -/
def Setting.Wraps (node part : Node) (setting : Setting) : Prop :=
  ∀ level u, setting.write level part = .ok u → ∃ parens inner, printAt level part = .ok inner ∧
    u = wrap parens inner ∧ (19 ≤ precedence node → parens = true ∨ 19 ≤ precedence part)

theorem Setting.wraps_plain (h : 19 ≤ precedence node → 19 ≤ precedence part) :
    Setting.plain.Wraps node part :=
  fun _ u hU => ⟨false, u, hU, rfl, fun hRank => .inr (h hRank)⟩

theorem Setting.wraps_wrapped {parens : Parens}
    (h : 19 ≤ precedence node → parens (outline part) (hints part) = true ∨ 19 ≤ precedence part) :
    (Setting.wrapped parens).Wraps node part := by
  intro level u hU
  simp only [Setting.write, bind_eq_ok, pure_eq_ok] at hU
  obtain ⟨inner, hInner, rfl⟩ := hU
  exact ⟨_, inner, hInner, rfl, h⟩

theorem Setting.wraps_operand {parent : Nat} {operator : Text} {side : Side}
    (h : precedence node < 19) : (Setting.operand parent operator side).Wraps node part := by
  intro level u hU
  simp only [Setting.write, bind_eq_ok, pure_eq_ok] at hU
  obtain ⟨parens, -, inner, hInner, rfl⟩ := hU
  exact ⟨parens, inner, hInner, rfl, fun hRank => absurd hRank (by omega)⟩

theorem Opening.of_edge {setting : Setting} {segment : Segment} {rest : List Segment}
    (h : printAt level node = .ok t)
    (hSegments : segments level node = .part setting level part :: segment :: rest)
    (hWraps : setting.Wraps node part) (hPart : Ensures (printAt level part) (Opening part))
    (hSegment : ∀ u, segment.write = .ok u → ∃ c more, u = c :: more ∧ isJoint c = true) :
    Opening node t := by
  obtain ⟨first, hFirst, others, hOthers, rfl⟩ := exists_of_segments h hSegments
  obtain ⟨parens, inner, hInner, rfl, hRank⟩ := hWraps level first hFirst
  obtain ⟨next, hNext, last, -, rfl⟩ := spell_cons_eq_ok.1 hOthers
  obtain ⟨c, more, rfl, hC⟩ := hSegment next hNext
  exact (hPart inner hInner).joined hRank hC _

theorem exists_joint {token : Text} (h : token.head?.any Opening.isJoint = true) :
    ∀ u, (Segment.token token).write = .ok u → ∃ c more, u = c :: more ∧ Opening.isJoint c = true := by
  rintro u ⟨⟩
  cases token with
  | nil => cases h
  | cons c more => exact ⟨c, more, rfl, by simpa using h⟩

theorem exists_template_of_kind (h : node.kind = .templateLiteral) :
    ∃ span quasis expressions, node = .templateLiteral span quasis expressions := by
  cases node
  case templateLiteral => exact ⟨_, _, _, rfl⟩
  case' function form _ _ _ _ _ _ _ | classNode form _ _ _ _ => cases form
  case' bare category _ => cases category
  all_goals cases h

/-- The text of an operand starts as it should if the operands inside of it do. -/
theorem opening_of_parts (h : node.Leading) (hOperand : node.kind.isOperand = true)
    (hPart : ∀ part ∈ node.parts, part.kind.isOperand = true → ∀ level,
      Ensures (printAt level part) (Opening part)) (level : Nat) :
    Ensures (printAt level node) (Opening node) := by
  have hStarts := h.starts
  have hLeading (part : Node) (hMem : part ∈ node.leadingParts) :
      Ensures (printAt level part) (Opening part) :=
    hPart part (Node.mem_parts_of_leading hMem) (h.operands part hMem) level
  intro t hT
  cases node
  case identifier =>
    cases hT
    exact opening_name hStarts
  case literal => exact opening_literal hStarts t hT
  case privateIdentifier name =>
    cases hT
    exact .of_token (show isFixed "#" = true by decide) (fun _ => .inr (by decide)) name
  case binary left _ _ | logical left _ _ =>
    exact .of_edge hT rfl (Setting.wraps_operand (by simp [precedence, Node.kind, kindRank]))
      (hLeading left (by simp)) (exists_joint (by decide))
  case assignment left _ _ =>
    exact .of_edge hT rfl (Setting.wraps_plain (by simp [precedence, Node.kind, kindRank]))
      (hLeading left (by simp)) (exists_joint (by decide))
  case conditional test _ _ =>
    exact .of_edge hT rfl (Setting.wraps_wrapped (by simp [precedence, Node.kind, kindRank]))
      (hLeading test (by simp)) (exists_joint (by decide))
  case taggedTemplate tag _ =>
    refine .of_edge hT rfl (Setting.wraps_wrapped fun _ => ?_) (hLeading tag (by simp)) ?_
    · simp [wrapsAsTarget]
      omega
    · intro u hU
      obtain ⟨_, _, _, rfl⟩ := exists_template_of_kind hStarts
      obtain ⟨_, ⟨⟩, others, -, rfl⟩ := exists_of_segments hU rfl
      exact ⟨_, others, rfl, by decide⟩
  case member span object property computed optional =>
    have hWraps : (Setting.wrapped .object).Wraps
        (.member span object property computed optional) object := by
      refine Setting.wraps_wrapped fun _ => ?_
      simp [wrapsAsTarget]
      omega
    have hObject := hLeading object (by simp)
    cases computed <;> cases optional <;>
      exact .of_edge hT rfl hWraps hObject (exists_joint (by decide))
  case call span callee arguments optional =>
    have hWraps : (Setting.wrapped .target).Wraps (.call span callee arguments optional) callee := by
      refine Setting.wraps_wrapped fun _ => ?_
      simp [wrapsAsTarget]
      omega
    have hCallee := hLeading callee (by simp)
    cases optional <;> exact .of_edge hT rfl hWraps hCallee (exists_joint (by decide))
  case update leading argument =>
    have hSigns : ∀ sign ∈ Grammar.updateOperators, isFixed (Text.ofString sign) = true ∧
        (Text.ofString sign).head?.any Opening.isJoint = true := by decide
    obtain ⟨sign, hSign, rfl⟩ := hStarts
    cases leading with
    | true =>
      exact .of_segments hT rfl (hSigns sign hSign).1 (by simp [precedence, Node.kind, kindRank])
    | false =>
      exact .of_edge hT rfl (Setting.wraps_wrapped (by simp [precedence, Node.kind, kindRank]))
        (hLeading argument (by simp)) (exists_joint (hSigns sign hSign).2)
  case metaProperty head _ =>
    refine .of_edge hT rfl (Setting.wraps_plain fun _ => ?_) (hPart head ?_ ?_ level)
      (exists_joint (by decide))
    · simp [precedence, show head.kind = .identifier from hStarts, kindRank]
    · simp
    · rw [show head.kind = .identifier from hStarts]
      rfl
  case chain expression =>
    have hKind : expression.kind = .memberExpression ∨ expression.kind = .callExpression := by
      simpa [Node.StartsWell] using hStarts
    have hOpening : Opening expression t := by
      refine hPart expression (by simp) ?_ level t hT
      rcases hKind with hKind | hKind <;> rw [hKind] <;> rfl
    refine ⟨hOpening.start, fun _ => hOpening.sign ?_, fun value rest hEq hEnd => ?_⟩
    · rcases hKind with hKind | hKind <;> simp [precedence, hKind, kindRank]
    · have hWord := (hOpening.word value rest hEq hEnd).2
      cases expression <;> simp [Node.kind, Mutate.isLiteral, Node.isName] at hKind hWord
  case objectExpression properties =>
    cases properties <;>
      exact .of_segments hT rfl (by decide) (by simp [precedence, Node.kind, kindRank, wrappedRank])
  case unary =>
    have hSigns : ∀ sign ∈ Grammar.unaryOperators, isFixed (Text.ofString sign) = true := by decide
    obtain ⟨sign, hSign, rfl⟩ := hStarts
    exact .of_segments hT rfl (hSigns sign hSign) (by simp [precedence, Node.kind, kindRank])
  case yieldExpression delegate =>
    cases delegate <;>
      exact .of_segments hT rfl (by decide) (by simp [precedence, Node.kind, kindRank])
  case function form _ _ _ _ isAsync isGenerator _ =>
    cases form with
    | declaration => cases hOperand
    | expression =>
      have hLead : isFixed (functionLead isAsync isGenerator) = true ∧
          startsPlain (functionLead isAsync isGenerator) = true := by
        cases isAsync <;> cases isGenerator <;> decide
      exact .of_segments hT rfl hLead.1 fun _ => .inr hLead.2
    | arrow =>
      cases isAsync with
      | true => exact .of_segments hT rfl (by decide) fun _ => .inr (by decide)
      | false =>
        obtain ⟨_, ⟨⟩, others, hOthers, rfl⟩ := exists_of_segments hT rfl
        obtain ⟨_, ⟨⟩, more, -, rfl⟩ := spell_cons_eq_ok.1 hOthers
        exact .of_token (show isFixed "(" = true by decide) (fun _ => .inl (by decide)) more
  case classNode form _ _ _ _ =>
    cases form <;> cases hOperand
    exact .of_segments hT rfl (by decide) fun _ => .inr (by decide)
  case bare category _ => cases category <;> cases hOperand
  case templateLiteral | thisExpression | superReference | arrayExpression | arrayPattern |
      newExpression | awaitExpression | spreadElement | restElement | objectPattern =>
    exact .of_segments hT rfl (by decide) fun _ => .inr (by decide)
  case sequence => exact .of_segments hT rfl (by decide) fun _ => .inl (by decide)
  all_goals cases hOperand

/-- The text of an operand starts as it should if all its nodes do. -/
theorem opening_printAt (h : node.Every Node.Leading) :
    node.kind.isOperand = true → ∀ level, Ensures (printAt level node) (Opening node) := by
  induction h with
  | mk hNode _ ih =>
    intro hOperand level
    exact opening_of_parts hNode hOperand ih level

end Print

end Assay
