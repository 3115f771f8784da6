import Assay.Mutation.Walk
import Assay.Proofs.Outcome
import Assay.Proofs.Tree.WellFormed

/-!
# What the texts of nodes hold

The text of a node, other than that of a whole program, holds more than signs, parentheses and
blanks: `solid_printAt`. The text `true` or `false` is that of the literal only, where a name must
stand for a value: `isLiteral_of_printAt`. Both are about programs whose tokens are spelled as the
language has it.
-/

set_option autoImplicit false

namespace Assay

namespace Print

/-- The code points that signs, parentheses and blanks are made of. -/
def isThin (c : CodePoint) : Bool := (Text.ofString "+-() ").contains c

/-- Whether a text holds more than signs, parentheses and blanks. -/
def isSolid (t : Text) : Bool := t.any (!isThin ·)

end Print

open Print

/-! ## Numerals -/

namespace Numeral

/-- What holds of a sign, a parenthesis and a blank holds of all that is thin. -/
theorem of_isThin {p : CodePoint → Bool} {c : CodePoint} (h : isThin c = true)
    (hAll : (Text.ofString "+-() ").all p = true) : p c = true :=
  List.all_eq_true.1 hAll c (List.contains_iff_mem.1 h)

section Thin

variable {t : Text} (h : ∀ c ∈ t, isThin c = true)

include h

theorem thin_normalize : ∀ c ∈ normalize t, isThin c = true := by
  have hMap : t.map toAscii = t := by
    conv_rhs => rw [← List.map_id t]
    refine List.map_congr_left fun c hC => ?_
    simpa using of_isThin (p := fun c => toAscii c = c) (h c hC) (by decide)
  intro c hC
  unfold normalize at hC
  rw [hMap] at hC
  have hReverse := (List.dropWhile_sublist _).subset (List.mem_reverse.1 hC)
  exact h c ((List.dropWhile_sublist _).subset (List.mem_reverse.1 hReverse))

theorem thin_signOf : ∀ c ∈ (signOf t).2, isThin c = true := by
  intro c hC
  refine h c ?_
  unfold signOf at hC
  split at hC
  · split at hC
    · exact List.mem_cons_of_mem _ hC
    · split at hC
      · exact List.mem_cons_of_mem _ hC
      · exact hC
  · cases hC

theorem baseAndDigits_thin : baseAndDigits t = (10, false, t) := by
  unfold baseAndDigits
  split
  · rename_i c letter digits
    have hZero := of_isThin (p := fun c => !(c == '0')) (h c (by simp)) (by decide)
    rw [if_neg (by simpa using hZero)]
  · rfl

theorem takeWhile_thin {p : CodePoint → Bool}
    (hAll : (Text.ofString "+-() ").all (fun c => !p c) = true) : t.takeWhile p = [] := by
  cases t with
  | nil => rfl
  | cons c rest =>
    have hFalse : p c = false := by
      simpa using of_isThin (p := fun c => !p c) (h c List.mem_cons_self) hAll
    simp [hFalse]

theorem sameLetters_thin {word : String} {letter : Char} (hWord : word.toList.head? = some letter)
    (hAll : (Text.ofString "+-() ").all (fun c => c.toChar.toLower != letter) = true) :
    sameLetters t word = false := by
  rw [sameLetters, beq_eq_false_iff_ne]
  intro hEq
  rw [← hEq] at hWord
  cases t with
  | nil => cases hWord
  | cons c rest =>
    have hFirst : c.toChar.toLower = letter := by simpa using hWord
    have hLetter := of_isThin (h c List.mem_cons_self) hAll
    simp [hFirst] at hLetter

/-- Signs, parentheses and blanks are no whole number. -/
theorem whole_thin : ∃ failure, whole t = .error failure := by
  have hRest := thin_signOf (thin_normalize h)
  have hRun : ((signOf (normalize t)).2.takeWhile fun c => (digitIn? 10 c).isSome) = [] :=
    takeWhile_thin hRest (by decide)
  refine ⟨.notWhole t, ?_⟩
  simp [whole, baseAndDigits_thin hRest, hRun]
  rfl

/-- Signs, parentheses and blanks are no float. -/
theorem float?_thin : float? t = none := by
  have hRest := thin_signOf h
  have hDigits : (signOf t).2.takeWhile CodePoint.isDigit = [] :=
    takeWhile_thin hRest (by decide)
  have hPoint : ((signOf t).2.dropWhile CodePoint.isDigit).head? ≠ some (CodePoint.ofChar '.') := by
    intro hHead
    have hMem := (List.dropWhile_sublist _).subset (List.mem_of_head? hHead)
    have hDot := of_isThin (p := fun c => c != '.') (hRest _ hMem) (by decide)
    simp at hDot
  have hInf : sameLetters (signOf t).2 "inf" = false :=
    sameLetters_thin hRest rfl (by decide)
  have hInfinity : sameLetters (signOf t).2 "infinity" = false :=
    sameLetters_thin hRest rfl (by decide)
  have hNan : sameLetters (signOf t).2 "nan" = false := sameLetters_thin hRest rfl (by decide)
  simp [float?, hInf, hInfinity, hNan, hDigits, hPoint]

end Thin

/-- A numeral holds a digit or a letter. -/
theorem isSolid_of_read {raw : Text} {value : Data} (h : read raw = .ok value) :
    isSolid raw = true := by
  by_contra hSolid
  have hThin : ∀ c ∈ raw, isThin c = true := by
    simpa [isSolid] using hSolid
  have hFilter : (raw.filter fun (c : CodePoint) => c != '_') = raw :=
    List.filter_eq_self.2 fun c hC => of_isThin (p := fun c => c != '_') (hThin c hC) (by decide)
  have hLast : raw.getLast? ≠ some (CodePoint.ofChar 'n') := by
    intro hLast
    have hN := of_isThin (p := fun c => c != 'n') (hThin _ (List.mem_of_getLast? hLast)) (by decide)
    simp at hN
  obtain ⟨failure, hWhole⟩ := whole_thin hThin
  simp [read, hFilter, hLast, hWhole, float?_thin (thin_normalize hThin)] at h

end Numeral

namespace Print

open Outcome

/-! ## Solid texts -/

@[simp]
theorem isSolid_append (t u : Text) : isSolid (t ++ u) = (isSolid t || isSolid u) :=
  List.any_append

@[simp]
theorem isSolid_wrap (parens : Bool) (t : Text) : isSolid (wrap parens t) = isSolid t := by
  have hParens : isSolid "(" = false ∧ isSolid ")" = false := by decide
  cases parens with
  | false => rfl
  | true => simp [wrap, hParens]

theorem isSolid_join {separator t : Text} {texts : List Text} (hT : t ∈ texts)
    (h : isSolid t = true) : isSolid (Text.join separator texts) = true := by
  obtain ⟨c, hC, hSolid⟩ := List.any_eq_true.1 h
  refine List.any_eq_true.2 ⟨c, ?_, hSolid⟩
  unfold Text.join
  induction texts with
  | nil => cases hT
  | cons first rest ih =>
    cases rest with
    | nil =>
      cases List.mem_singleton.1 hT
      simpa using hC
    | cons next rest =>
      simp only [List.intercalate_cons_cons, List.mem_append]
      rcases List.mem_cons.1 hT with rfl | hT
      · exact .inl (.inl hC)
      · exact .inr (ih hT)

theorem isSolid_braces (level : Nat) (separator : Text) (lines : List Text) :
    isSolid (braces level separator lines) = true := by
  have hOpen : isSolid "\x7b\x7d" = true ∧ isSolid "\x7b\n" = true := by decide
  unfold braces
  split <;> simp [hOpen]

theorem isSolid_keyText {computed : Bool} {key : Text} (h : isSolid key = true) :
    isSolid (keyText computed key) = true := by
  cases computed <;> simp [keyText, h]

/-- The text of a literal is that of its value, of its spelling or of an expression. -/
theorem isSolid_literalText {value : Data} {raw : Option Text} {regex : Option (Text × Text)}
    (h : Node.IsLiteral Lexicon.standard value raw regex) :
    Ensures (literalText value raw regex) (isSolid · = true) := by
  cases h with
  | bool value raw => cases value <;> simp +decide [literalText]
  | null raw => simp +decide [literalText]
  | regex raw parts => simp +decide [literalText]
  | @string raw value hQuoted _ =>
    simp only [literalText, ensures_ok]
    cases raw with
    | nil => cases hQuoted
    | cons c rest =>
      have hQuote : c = '"' ∨ c = '\'' := by
        simp only [Lexicon.standard, Lexicon.isQuoted, Bool.and_eq_true, Bool.or_eq_true,
          beq_iff_eq] at hQuoted
        exact hQuoted.1
      rcases hQuote with rfl | rfl <;> simp +decide [isSolid]
  | int hRead => simpa [literalText] using Numeral.isSolid_of_read hRead
  | float hRead => simpa [literalText] using Numeral.isSolid_of_read hRead

variable {limit : Int} {node : Node}

theorem ne_program_of_mem_parts (h : node.Fits Lexicon.standard limit) {part : Node}
    (hPart : part ∈ node.parts) (span : Span) (body : List Node) : part ≠ .program span body := by
  rintro rfl
  rcases List.mem_append.1 hPart with hLoose | hPlaced
  · cases h.loose _ hLoose
  · rcases h.placed _ hPlaced with hKind | hFree
    · cases node <;> simp [Node.placedKinds, Node.kind] at hKind
    · cases hFree

/-- The text of a node is solid if the texts of its parts are. -/
theorem solid_of_parts (hProper : node.Proper Lexicon.standard)
    (hProgram : ∀ span body, node ≠ .program span body)
    (hPart : ∀ part ∈ node.parts, ∀ level t, printAt level part = .ok t → isSolid t = true)
    (level : Nat) : Ensures (printAt level node) (isSolid · = true) := by
  cases node
  case program => exact absurd rfl (hProgram _ _)
  case bare | templateElement => cases hProper
  case literal => exact isSolid_literalText hProper
  case identifier name =>
    simp only [printAt, ensures_ok]
    cases name with
    | nil => cases hProper
    | cons c rest =>
      have hThin : isThin c = false := by
        by_contra hThin
        have hMark := Numeral.of_isThin (p := Lexicon.isMark) (by simpa using hThin) (by decide)
        simp [Node.Proper, Lexicon.standard, Lexicon.startsAsName, hMark] at hProper
      simp [isSolid, hThin]
  case sequence =>
    obtain ⟨first, rest, rfl⟩ := List.exists_cons_of_ne_nil hProper
    simp only [printAt, printList, ensures_bind, bind_eq_ok, ensures_pure, isSolid_append]
    rintro items ⟨t, hT, others, -, ⟨⟩⟩
    have hFirst := hPart first (by simp [Node.parts, Node.looseParts]) level t hT
    simp [commas, isSolid_join List.mem_cons_self hFirst]
  case methodDefinition key value _ _ _ =>
    cases value <;> cases hProper
    simp only [printAt, ensures_bind, ensures_pure, isSolid_append]
    intro name hName items _ body _
    have hKey := hPart key (by simp [Node.parts, Node.looseParts]) level name hName
    simp [isSolid_keyText hKey]
  case property key value kind _ _ method =>
    have hKey := hPart key (by simp [Node.parts, Node.looseParts]) level
    have hValue := hPart value (by simp [Node.parts, Node.looseParts]) level
    by_cases hKind : (kind == "get" || kind == "set" || method) = true
    · have hFunction := hProper.1 hKind
      cases value <;> cases hFunction
      simp only [printAt, hKind, if_true, ensures_bind, ensures_pure, isSolid_append]
      intro name hName items _ body _
      simp [isSolid_keyText (hKey name hName)]
    · simp only [printAt, hKind, Bool.false_eq_true, if_false, ensures_bind, ensures_pure]
      intro name _ t hT
      split
      · exact hValue t hT
      · simp [hValue t hT]
  case function form _ _ _ _ isAsync _ _ =>
    cases form <;> cases isAsync <;>
      simp only [printAt, functionLead, ensures_bind, ensures_pure, isSolid_append] <;>
      simp +decide
  case returnStatement part | throwStatement part | breakStatement part | continueStatement part
    | catchClause part _ =>
    cases part <;>
      simp only [printAt, ensures_bind, ensures_pure, ensures_ok, ensures_error, isSolid_append] <;>
      simp +decide
  case ifStatement alternate =>
    cases alternate with
    | none =>
      simp only [printAt, ensures_bind, ensures_pure, isSolid_append]
      simp +decide
    | some alternate =>
      rw [printAt]
      split <;> simp only [ensures_bind, ensures_pure, isSolid_append] <;> simp +decide
  case switchCase test _ =>
    cases test <;> simp only [printAt, ensures_bind, ensures_pure]
    · intro lines _
      exact isSolid_join List.mem_cons_self (by decide)
    · intro test _ lines _
      refine isSolid_join List.mem_cons_self ?_
      simp +decide
  case variableDeclarator name init =>
    simp only [Node.parts, Node.looseParts, Node.placedParts] at hPart
    cases init <;> simp only [printAt, ensures_bind, ensures_pure, isSolid_append]
    · intro t hT
      exact hPart name (by simp) level t hT
    · grind
  case chain expression =>
    intro t hT
    exact hPart expression (by simp [Node.parts, Node.looseParts]) level t hT
  case unary argument =>
    rw [printAt]
    have hArgument := hPart argument (by simp [Node.parts, Node.looseParts]) level
    split <;> simp only [ensures_bind, ensures_pure, isSolid_append, isSolid_wrap] <;> grind
  case update | binary | logical | call | member | assignment | taggedTemplate =>
    simp only [Node.parts, Node.looseParts, Node.placedParts] at hPart
    simp only [printAt, ensures_bind, ensures_pure, isSolid_append, isSolid_wrap]
    grind [isSolid_append, isSolid_wrap]
  case blockStatement | staticBlock | classBody | objectExpression =>
    simp only [printAt, ensures_bind, ensures_pure, isSolid_append, isSolid_braces, Bool.or_true,
      implies_true]
  case yieldExpression delegate =>
    cases delegate <;> simp only [printAt, ensures_bind, ensures_pure, isSolid_append] <;>
      simp +decide
  all_goals
    simp only [printAt, statementText, ensures_bind, ensures_pure, ensures_ok, isSolid_append]
    simp +decide

/-- The text of a node holds more than signs, parentheses and blanks, unless the node is a whole
program. -/
theorem solid_printAt (h : node.Every (Node.Fits Lexicon.standard limit)) :
    (∀ span body, node ≠ .program span body) →
      ∀ level, Ensures (printAt level node) (isSolid · = true) := by
  induction h with
  | mk hFits _ ih =>
    intro hProgram level
    exact solid_of_parts hFits.proper hProgram
      (fun part hPart => ih part hPart (ne_program_of_mem_parts hFits hPart)) level

/-! ## Texts that are no words -/

/-- Whether a text holds more than letters. -/
def hasMark (t : Text) : Bool := t.any (!CodePoint.isAsciiLetter ·)

@[simp]
theorem hasMark_append (t u : Text) : hasMark (t ++ u) = (hasMark t || hasMark u) :=
  List.any_append

theorem hasMark_braces (level : Nat) (separator : Text) (lines : List Text) :
    hasMark (braces level separator lines) = true := by
  have hOpen : hasMark "\x7b\x7d" = true ∧ hasMark "\x7b\n" = true := by decide
  unfold braces
  split <;> simp [hOpen]

/-- Whether the text of a node can be a word. -/
def isWord : Node → Bool
  | .identifier .. | .literal .. | .thisExpression .. | .superReference .. | .yieldExpression .. =>
    true
  | _ => false

theorem marked_member {span : Span} {object property : Node} {computed optional : Bool}
    (level : Nat) :
    Ensures (printAt level (.member span object property computed optional)) (hasMark · = true) := by
  cases computed <;> cases optional <;>
    simp only [printAt, ensures_bind, ensures_pure, Bool.false_eq_true, if_false, if_true,
      hasMark_append] <;>
    simp +decide

theorem marked_call {span : Span} {callee : Node} {arguments : List Node} {optional : Bool}
    (level : Nat) :
    Ensures (printAt level (.call span callee arguments optional)) (hasMark · = true) := by
  cases optional <;> simp only [printAt, ensures_bind, ensures_pure, hasMark_append] <;>
    simp +decide

theorem marked_unary (span : Span) {operator : Text} (argument : Node)
    (hOperator : ∃ sign ∈ Grammar.unaryOperators, operator = Text.ofString sign) (level : Nat) :
    Ensures (printAt level (.unary span operator argument)) (hasMark · = true) := by
  have hSigns : ∀ sign ∈ Grammar.unaryOperators,
      hasMark (Text.ofString sign) = true ∨ (Text.ofString sign).isAlphabetic = true := by
    decide
  have hParens (t : Text) : hasMark (wrap true t) = true := by
    have hOpen : hasMark "(" = true := by decide
    simp [wrap, hOpen]
  obtain ⟨sign, hSign, rfl⟩ := hOperator
  rw [printAt]
  by_cases hRank : precedence argument < 15
  · simp [hRank, hParens, ensures_map]
  · rcases hSigns sign hSign with hMark | hLetters
    · simp [hRank, hMark, ensures_bind, ensures_map]
    · -- a word is followed by a parenthesis or by a blank
      simp +decide [hRank, needsSpace, hLetters, ensures_map]

/-- A loose part whose text is no word holds more than letters. -/
theorem marked_printAt (hFree : node.isFree = true) (hProper : node.Proper Lexicon.standard)
    (hWord : isWord node = false) (level : Nat) :
    Ensures (printAt level node) (hasMark · = true) := by
  cases node
  case program | bare | templateElement | staticBlock | switchCase | catchClause |
    variableDeclarator | classBody | methodDefinition | propertyDefinition | property => cases hFree
  case identifier | literal | thisExpression | superReference | yieldExpression => cases hWord
  case function form _ _ _ _ _ _ _ =>
    cases form <;> simp only [printAt, ensures_bind, ensures_pure, hasMark_append] <;> simp +decide
  case returnStatement part | throwStatement part | breakStatement part | continueStatement part =>
    cases part <;>
      simp only [printAt, ensures_bind, ensures_pure, ensures_ok, ensures_error, hasMark_append] <;>
      simp +decide
  case ifStatement alternate =>
    cases alternate with
    | none =>
      simp only [printAt, ensures_bind, ensures_pure, hasMark_append]
      simp +decide
    | some alternate =>
      rw [printAt]
      split <;> simp only [ensures_bind, ensures_pure, hasMark_append] <;> simp +decide
  case member => exact marked_member level
  case call => exact marked_call level
  case chain expression =>
    rw [printAt]
    cases expression
    case member => exact marked_member level
    case call => exact marked_call level
    all_goals cases hProper
  case unary span _ argument => exact marked_unary span argument hProper level
  case update leading _ =>
    have hSigns : ∀ sign ∈ Grammar.updateOperators, hasMark (Text.ofString sign) = true := by
      decide
    obtain ⟨sign, hSign, rfl⟩ := hProper
    cases leading <;> simp only [printAt, ensures_bind, ensures_pure] <;> simp [hSigns sign hSign]
  case taggedTemplate quasi =>
    cases quasi <;> cases hProper
    simp only [printAt, ensures_bind, bind_eq_ok, ensures_pure, hasMark_append]
    rintro text - other ⟨inner, -, ⟨⟩⟩
    simp +decide
  case blockStatement | objectExpression =>
    simp only [printAt, ensures_bind, ensures_pure, hasMark_braces, implies_true]
  all_goals
    simp only [printAt, statementText, ensures_bind, ensures_pure, ensures_ok, hasMark_append]
    simp +decide

/-- The text of a truth value. -/
def boolText (value : Bool) : Text := if value then "true" else "false"

/-- Only the literal of a truth value has its text, for a loose part that can be a test. -/
theorem isLiteral_of_printAt {value : Bool} {level : Nat} (hFree : node.isFree = true)
    (hProper : node.Proper Lexicon.standard) (hTest : node.isTest Lexicon.standard = true)
    (hText : printAt level node = .ok (boolText value)) :
    Mutate.isLiteral value (some node) = true := by
  by_cases hWord : isWord node = true
  · cases node
    case identifier =>
      simp only [printAt, Except.ok.injEq] at hText
      subst hText
      cases value <;> cases hTest
    case thisExpression | superReference =>
      cases value <;> simp +decide [printAt, boolText] at hText
    case yieldExpression delegate =>
      simp only [printAt, bind_eq_ok, pure_eq_ok] at hText
      obtain ⟨tail, -, hEq⟩ := hText
      cases delegate <;> cases value <;> cases hEq
    case literal data raw regex =>
      simp only [printAt] at hText
      cases hProper with
      | bool data raw => cases data <;> cases value <;> first | rfl | cases hText
      | null raw => cases value <;> cases hText
      | regex raw parts => cases value <;> cases hText
      | string hQuoted _ =>
        simp only [literalText, Except.ok.injEq] at hText
        subst hText
        cases value <;> cases hQuoted
      | int hRead | float hRead =>
        simp only [literalText, Except.ok.injEq] at hText
        subst hText
        cases value <;> cases hRead
    all_goals cases hWord
  · have hMark := marked_printAt hFree hProper (by simpa using hWord) level _ hText
    cases value <;> cases hMark

end Print

end Assay
