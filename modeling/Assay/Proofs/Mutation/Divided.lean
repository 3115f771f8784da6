import Assay.Proofs.Mutation.Visible

/-!
# What an alteration changes shows at once

The text of a node with an alteration of its own parts from that of the node at the altered token,
whatever stands behind it: at an exchanged operator, at a piece of a template, at a test that is
forced, at the first link of a chain that was optional.
-/

set_option autoImplicit false

namespace Assay

open Print Outcome

namespace Print

variable {level : Nat} {t u : Text} {span place : Span}

/-! ## Strings -/

/-- What is written for a code point between quotation marks does not start with one. -/
theorem exists_escape (c : CodePoint) :
    ∃ d after, Json.escape c = d :: after ∧ d ≠ '"' := by
  rcases Json.escape_cases c with ⟨d, -, hQuote, hEscape⟩ | ⟨d, after, -, hEscape⟩
  · exact ⟨d, [], hEscape, hQuote⟩
  · exact ⟨_, d :: after, hEscape, by decide⟩

/-- The bodies of two strings, of which one is empty or joins lines only and the other one stands
for something. -/
theorem parted_body {rest value blank : Text}
    (hCloses : Lexicon.closes '"' rest = true)
    (hResolve : Escape.resolve rest.dropLast = .ok value) (hBlank : value = [] ↔ blank ≠ []) :
    Parted rest (blank.flatMap Json.escape ++ "\"") := by
  cases rest with
  | nil => cases hCloses
  | cons c rest =>
    by_cases hQuote : c = '"'
    · -- the string is empty
      subst hQuote
      obtain rfl : rest = [] := by
        cases rest with
        | nil => rfl
        | cons d rest => simp +decide [Lexicon.closes] at hCloses
      cases hResolve
      obtain ⟨b, more, rfl⟩ := List.exists_cons_of_ne_nil (hBlank.1 rfl)
      obtain ⟨d, after, hEscape, hD⟩ := exists_escape b
      rw [List.flatMap_cons, hEscape]
      exact parted_cons_cons.2 fun hEq => absurd hEq.symm hD
    · cases blank with
      | nil => exact parted_cons_cons.2 fun hEq => absurd hEq hQuote
      | cons b more =>
        obtain rfl : value = [] := hBlank.2 (List.cons_ne_nil b more)
        -- what stands for nothing joins two lines
        cases rest with
        | nil => simp [Lexicon.closes, hQuote] at hCloses
        | cons d rest =>
          have hJoins : c = '\\' ∧ Escape.endsLine d = true := by
            by_contra hOther
            rw [List.dropLast_cons_cons] at hResolve
            refine Escape.ensures_resolve ?_ [] hResolve rfl
            by_cases hBackslash : c = '\\'
            · refine .inr ?_
              cases rest with
              | nil => simp +decide [Lexicon.closes, hBackslash] at hCloses
              | cons e rest => exact ⟨d, _, rfl, by simpa [hBackslash] using hOther⟩
            · exact .inl hBackslash
          obtain ⟨rfl, hLine⟩ := hJoins
          rw [List.flatMap_cons]
          rcases Json.escape_cases b with ⟨e, hBackslash, -, hEscape⟩ | ⟨e, after, hOther, hEscape⟩
          · rw [hEscape]
            exact parted_cons_cons.2 fun hEq => absurd hEq.symm hBackslash
          · rw [hEscape]
            refine parted_cons_cons.2 fun _ => parted_cons_cons.2 fun hEq => ?_
            rw [hEq, hOther] at hLine
            cases hLine

/-- A string takes the place of one that is empty, or the empty one that of another. -/
theorem divide_string {raw value blank : Text} (hString : Lexicon.strict.isString raw = true)
    (hResolve : Escape.resolve (raw.drop 1).dropLast = .ok value)
    (hBlank : value = [] ↔ blank ≠ []) :
    Divide .wide (.literal span (.text value) (some raw) none)
      (.literal span (.text blank) none none) := by
  refine .of_wide rfl rfl rfl fun level t u hT hU => ?_
  cases hT
  cases hU
  cases raw with
  | nil => cases hString
  | cons quote rest =>
    simp only [Lexicon.strict, Bool.and_eq_true, Bool.or_eq_true, beq_iff_eq] at hString
    obtain ⟨hQuote, hCloses⟩ := hString
    have hLead : isLead quote = false := by rcases hQuote with rfl | rfl <;> decide
    have hOther : isLead (CodePoint.ofChar '"') = false := by decide
    have hText : Json.quote blank =
        CodePoint.ofChar '"' :: (blank.flatMap Json.escape ++ "\"") := rfl
    rw [hText, Apart, trimmed_cons hLead, trimmed_cons hOther, parted_cons_cons]
    rintro rfl
    exact parted_body hCloses hResolve hBlank

/-! ## Templates -/

/-- A piece that is not empty parts from what would follow at once without it. -/
theorem parted_piece {piece mark : Text} (hPiece : Lexicon.isPiece piece = true)
    (hFull : piece ≠ []) (hMark : mark = Text.ofString "`" ∨ mark = Text.ofString "$\x7b")
    (after more : Text) :
    Parted (piece ++ (mark ++ after)) (mark ++ more) := by
  obtain ⟨c, rest, rfl⟩ := List.exists_cons_of_ne_nil hFull
  have hTick : Text.ofString "`" = [CodePoint.ofChar '`'] := rfl
  have hOpen : Text.ofString "$\x7b" = [CodePoint.ofChar '$', '\x7b'] := rfl
  rw [Lexicon.isPiece, hTick, hOpen] at hPiece
  rcases hMark with rfl | rfl
  · rw [hTick]
    refine parted_cons_cons.2 fun hEq => ?_
    simp [hEq] at hPiece
  · rw [hOpen]
    refine parted_cons_cons.2 fun hEq => ?_
    cases rest with
    | nil => exact parted_cons_cons.2 fun hNext => absurd hNext (by decide)
    | cons d rest =>
      refine parted_cons_cons.2 fun hNext => ?_
      simp [hEq, hNext] at hPiece

/-- What follows the first piece of a template: its end, or the substitution behind the piece. -/
theorem exists_template {first : Quasi} {rest : List Quasi} {expressions : List Node}
    (hLength : rest.length = expressions.length)
    (hT : printAt level (.templateLiteral span (first :: rest) expressions) = .ok t) :
    ∃ after, t = "`" ++ (first.raw ++
      ((if expressions.isEmpty then "`" else "$\x7b") ++ after)) := by
  cases expressions with
  | nil =>
    obtain rfl : rest = [] := List.length_eq_zero_iff.1 hLength
    cases hT
    exact ⟨[], by simp⟩
  | cons expression expressions =>
    obtain ⟨_, ⟨⟩, others, hOthers, rfl⟩ := exists_of_segments hT rfl
    obtain ⟨_, ⟨⟩, inner, hInner, rfl⟩ := spell_cons_eq_ok.1 hOthers
    obtain ⟨_, ⟨⟩, after, -, rfl⟩ := spell_cons_eq_ok.1 hInner
    exact ⟨after, rfl⟩

/-- The first piece of a template is emptied, or filled if it is empty. -/
theorem divide_template {first piece : Quasi} {rest more : List Quasi}
    {expressions others : List Node} (hFirst : Lexicon.isPiece first.raw = true)
    (hPiece : Lexicon.isPiece piece.raw = true) (hEmpty : first.raw = [] ↔ piece.raw ≠ [])
    (hRest : rest.length = expressions.length) (hMore : more.length = others.length)
    (hLength : expressions.length = others.length) :
    Divide .wide (.templateLiteral span (first :: rest) expressions)
      (.templateLiteral span (piece :: more) others) := by
  refine .of_wide rfl rfl rfl fun level t u hT hU => ?_
  obtain ⟨after, rfl⟩ := exists_template hRest hT
  obtain ⟨behind, rfl⟩ := exists_template hMore hU
  have hSame : others.isEmpty = expressions.isEmpty := by
    cases expressions <;> cases others <;> simp_all
  rw [hSame]
  have hMark (empty : Bool) : ∃ mark, (mark = Text.ofString "`" ∨ mark = Text.ofString "$\x7b") ∧
      (if empty then "`" else "$\x7b") = mark := by
    cases empty <;> simp
  obtain ⟨mark, hMark, hEq⟩ := hMark expressions.isEmpty
  rw [hEq]
  refine apart_of_parted (by decide) ?_
  by_cases hFull : first.raw = []
  · rw [hFull]
    exact (parted_piece hPiece (hEmpty.1 hFull) hMark behind after).symm
  · have hNone : piece.raw = [] := by_contra fun hOther => hFull (hEmpty.2 hOther)
    rw [hNone]
    exact parted_piece hFirst hFull hMark after behind

/-! ## Tests -/

/-- No text of the node is a truth value up to what ends a test. -/
def Unlike (value : Bool) (test : Node) : Prop :=
  ∀ level, Ensures (printAt level test) fun t =>
    ∀ rest, t = boolText value ++ rest → isEnd rest = true → False

theorem unlike_boolLiteral (value : Bool) (place : Span) :
    Unlike value (Build.boolLiteral (!value) place) := by
  intro level t hT rest hEq
  rw [printAt_boolLiteral] at hT
  cases hT
  cases value <;> cases hEq

section Tests

variable {value : Bool} {test : Node} (h : Unlike value test)

include h

/-- A test and a truth value in its place, in front of what ends the test. -/
theorem parted_test {rest more : List Segment} {c : CodePoint} {after behind : Text}
    (hC : c = ')' ∨ c = ';')
    (hT : spell (.part .plain level test :: .token (c :: after) :: rest) = .ok t)
    (hU : spell (.part .plain level (Build.boolLiteral value place) :: .token (c :: behind) ::
      more) = .ok u) : Parted t u := by
  obtain ⟨inner, hInner, _, hRest, rfl⟩ := spell_cons_eq_ok.1 hT
  obtain ⟨_, ⟨⟩, others, -, rfl⟩ := spell_cons_eq_ok.1 hRest
  obtain ⟨word, hWord, _, hMore, rfl⟩ := spell_cons_eq_ok.1 hU
  obtain ⟨_, ⟨⟩, last, -, rfl⟩ := spell_cons_eq_ok.1 hMore
  cases (printAt_boolLiteral level value place).symm.trans hWord
  have hLetter : c ∉ boolText value := by
    rcases hC with rfl | rfl <;> cases value <;> decide
  refine parted_of_word hLetter (fun rest hEq hEnd => ?_) (after ++ others) (behind ++ last)
  refine h level inner hInner rest hEq ?_
  cases rest with
  | nil => rfl
  | cons d rest =>
    obtain rfl : d = c := by simpa using hEnd
    simpa [isEnd] using hC

theorem divide_ifTest {consequent arm : Node} {alternate other : Option Node} :
    Divide .wide (.ifStatement span test consequent alternate)
      (.ifStatement span (Build.boolLiteral value place) arm other) := by
  refine .of_wide rfl rfl rfl fun level t u hT hU => ?_
  have hFront := ensures_token (show isSolid "if (" = true by decide) []
  cases alternate <;> cases other <;>
    exact apart_of_front hFront (fun t u hT hU => parted_test h (.inl rfl) hT hU)
      (spell_segments hT) (spell_segments hU)

theorem divide_whileTest {body other : Node} :
    Divide .wide (.whileStatement span test body)
      (.whileStatement span (Build.boolLiteral value place) other) := by
  refine .of_wide rfl rfl rfl fun level t u hT hU => ?_
  exact apart_of_front (ensures_token (show isSolid "while (" = true by decide) [])
    (fun t u hT hU => parted_test h (.inl rfl) hT hU) (spell_segments hT) (spell_segments hU)

theorem divide_doTest {body : Node} :
    Divide .wide (.doWhileStatement span body test)
      (.doWhileStatement span body (Build.boolLiteral value place)) := by
  refine .of_wide rfl rfl rfl fun level t u hT hU => ?_
  have hFront := ensures_token (show isSolid "do " = true by decide)
    [.part .plain level body, .token " while ("]
  exact apart_of_front hFront (fun t u hT hU => parted_test h (.inl rfl) hT hU)
    (spell_segments hT) (spell_segments hU)

end Tests

/-- The test of a counting loop may be absent. -/
theorem divide_forTest {value : Bool} {init test step other : Option Node} {body last : Node}
    (h : ∀ part ∈ test, Unlike value part) :
    Divide .wide (.forStatement span init test step body)
      (.forStatement span init (some (Build.boolLiteral value place)) other last) := by
  refine .of_wide rfl rfl rfl fun level t u hT hU => ?_
  have hSegments (test step : Option Node) (body : Node) :
      segments level (.forStatement span init test step body) =
        (Segment.token "for (" ::
          (init.elim [] (fun node => [Segment.part .head level node]) ++ [Segment.token ";"])) ++
            (optional level " " test ++ Segment.token ";" ::
              (optional level " " step ++ [Segment.token ") ", .part .plain level body])) := by
    simp [segments]
  have hFront := ensures_token (show isSolid "for (" = true by decide)
    (init.elim [] (fun node => [Segment.part .head level node]) ++ [Segment.token ";"])
  have hT := hSegments test step body ▸ spell_segments hT
  have hU := hSegments _ other last ▸ spell_segments hU
  cases test with
  | none =>
    exact apart_of_front hFront (fun t u => rel_of_tokens (Parted.append_right (by decide))) hT hU
  | some part =>
    refine apart_of_front hFront (fun t u hT hU => ?_) hT hU
    obtain ⟨_, ⟨⟩, inner, hInner, rfl⟩ := spell_cons_eq_ok.1 hT
    obtain ⟨_, ⟨⟩, outer, hOuter, rfl⟩ := spell_cons_eq_ok.1 hU
    rw [parted_append_left]
    exact parted_test (h part rfl) (.inr rfl) hInner hOuter

theorem divide_assignmentLeft {operator swap : Text} {left image right other : Node}
    (h : Divide .wide left image) :
    Divide .wide (.assignment span left operator right) (.assignment span image swap other) :=
  h.of_forks rfl rfl rfl (fun hEq => by cases hEq) fun _ => .here (.inl trivial)

end Print

/-! ## Neat nodes -/

/-- What can be said of a single node of a program whose tokens are spelled as the language has it
and whose operands are operands. -/
structure Node.Neat (limit : Int) (node : Node) : Prop where
  fits : node.Fits Lexicon.strict limit
  leading : node.Leading

namespace Mutate

open Variant

attribute [local simp] Node.parts Node.looseParts Node.placedParts Node.leadingParts

section Neat

variable {limit : Int} {node part : Node} (h : node.Every (Node.Neat limit))

include h

theorem every_fits : node.Every (Node.Fits Lexicon.standard limit) :=
  h.imp fun _ hNeat => hNeat.fits.standard

theorem solid_part (hPart : part ∈ node.parts) : Solid part := solid_of_fits (every_fits h) hPart

theorem opening_part (hPart : part ∈ node.leadingParts) :
    ∀ level, Ensures (printAt level part) (Opening part) :=
  opening_printAt ((h.part (Node.mem_parts_of_leading hPart)).imp fun _ hNeat => hNeat.leading)
    (h.here.leading.operands part hPart)

/-- A test is unlike each truth value that it is forced to. -/
theorem unlike_part {value : Bool} (hPart : part ∈ node.leadingParts)
    (hLoose : part ∈ node.looseParts) (hTest : part.isTest Lexicon.strict = true)
    (hLiteral : isLiteral value (some part) = false) :
    Unlike value part := by
  have hParts := Node.mem_parts_of_leading hPart
  rw [Node.isTest_strict] at hTest
  intro level t hT rest hEq hEnd
  obtain ⟨rfl, -⟩ := (opening_part h hPart level t hT).word value rest hEq hEnd
  refine ne_boolText (h.here.fits.loose part hLoose) (h.part hParts).here.fits.standard.proper hTest
    hLiteral level t hT ?_
  rw [hEq, List.append_nil]

end Neat

/-! ## The variants of a node itself -/

section Own

variable {limit : Int} {assertion sentinel : Text} {node : Node}

/-- What an emptied piece of a template gets is a piece. -/
theorem isPiece_blank (hPiece : Lexicon.isPiece sentinel = true) (t : Text) :
    Lexicon.isPiece (Catalogue.blank sentinel t) = true := by
  cases t with
  | nil => exact hPiece
  | cons c rest => rfl

theorem mem_leading_array {span : Span} {elements : List (Option Node)} {first : Node}
    (h : some first ∈ elements) : first ∈ (Node.arrayExpression span elements).leadingParts :=
  List.mem_flatMap.2 ⟨some first, h, by simp⟩

/-- A variant of a node itself divides from the node. -/
theorem divide_own {altered : Altered Node} (hSentinel : sentinel ≠ [])
    (hPiece : Lexicon.isPiece sentinel = true) (h : node.Every (Node.Neat limit))
    (hOwn : Own sentinel node altered) : Divide .wide altered.whole node := by
  have hProper := h.here.fits.proper
  have hStarts := h.here.leading.starts
  refine Divide.symm ?_
  cases hNode : altersInside node with
  | false => exact divide_of_fits (every_fits h) hNode hOwn
  | true =>
    cases hOwn with
    | string =>
      cases hProper with
      | string hString hResolve =>
        exact divide_string hString hResolve (eq_nil_iff_blank hSentinel _)
    | @template _ first rest items =>
      have hLength : rest.length = items.length := Nat.succ.inj hProper
      exact divide_template (hStarts first rfl) (isPiece_blank hPiece _)
        (eq_nil_iff_blank hSentinel _) hLength hLength rfl
    | array hItems =>
      refine divide_emptiedArray hItems fun first hFirst => ?_
      exact opening_part h (mem_leading_array (List.mem_of_head? hFirst))
    | call hItems =>
      obtain ⟨first, rest, rfl⟩ := List.exists_cons_of_ne_nil hItems
      exact divide_emptiedCall (solid_part h (by simp)) (opening_part h (by simp))
    | new hItems =>
      obtain ⟨first, rest, rfl⟩ := List.exists_cons_of_ne_nil hItems
      exact divide_emptiedNew (opening_part h (by simp))
    | ifTest hLiteral =>
      exact divide_ifTest (unlike_part h (by simp) (by simp) hProper.1 hLiteral)
    | whileTest hLiteral =>
      exact divide_whileTest (unlike_part h (by simp) (by simp) hProper hLiteral)
    | doTest hLiteral =>
      exact divide_doTest (unlike_part h (by simp) (by simp) hProper hLiteral)
    | forTest hLiteral =>
      refine divide_forTest ?_
      rintro part rfl
      exact unlike_part h (by simp) (by simp) (hProper part rfl) hLiteral
    | _ => cases hNode

theorem pairwise_swapped {kind : MutationKind} {operators : List Text} {build : Text → Node}
    {r : Text → Text → Prop} (hOperators : operators.Pairwise r)
    (hBuild : ∀ operator swap, r operator swap → Divide .wide (build operator) (build swap)) :
    (swapped kind operators build).Pairwise fun a b => Divide .wide a.whole b.whole :=
  List.pairwise_map.2 (hOperators.imp fun hRel => hBuild _ _ hRel)

theorem pairwise_forced {span : Span} {test : Option Node} {build : Node → Node}
    (hBuild : ∀ place, Divide .wide (build (Build.boolLiteral true place))
      (build (Build.boolLiteral false place))) :
    (forced span test build).Pairwise fun a b => Divide .wide a.whole b.whole := by
  have hValues : [true, false].Pairwise fun first second => first = true ∧ second = false := by
    decide
  refine List.pairwise_map.2 ((hValues.sublist ?_).imp ?_)
  · cases test with
    | none => exact List.filter_sublist.trans (by decide)
    | some test => exact List.filter_sublist
  · rintro first second ⟨rfl, rfl⟩
    exact hBuild _

theorem pairwise_emptied {α : Type} {kind : MutationKind} {items : List α} {empty : Node}
    {r : Altered Node → Altered Node → Prop} : (emptied kind items empty).Pairwise r := by
  unfold emptied
  split <;> simp

/-- The variants of a node itself divide from each other. -/
theorem pairwise_own (h : node.Every (Node.Neat limit)) :
    (own (plainRules assertion sentinel) node).Pairwise fun a b =>
      Divide .wide a.whole b.whole := by
  have hProper := h.here.fits.proper
  cases node
  case binary =>
    simp only [own]
    split
    · exact pairwise_swapped (List.pairwise_cons.1 (MutationKind.parted_swaps _ _ _)).2 fun _ _ =>
        divide_binaryOperator (solid_part h (by simp))
    · exact .nil
  case logical =>
    exact pairwise_swapped (List.pairwise_cons.1 (MutationKind.parted_swaps _ _ _)).2 fun _ _ =>
      divide_logicalOperator (solid_part h (by simp))
  case assignment =>
    exact pairwise_swapped (List.pairwise_cons.1 (MutationKind.parted_swaps _ _ _)).2 fun _ _ =>
      divide_assignmentOperator (solid_part h (by simp))
  case unary =>
    exact pairwise_swapped (List.pairwise_cons.1 (MutationKind.apart_swaps (.inl rfl) _ _)).2
      fun _ _ => divide_unaryOperator
  case update leading argument =>
    have hArgument : Solid argument := solid_part h (by simp)
    refine List.pairwise_append.2 ⟨?_, List.pairwise_singleton _ _, fun a hA b hB => ?_⟩
    · exact pairwise_swapped (List.pairwise_cons.1 (MutationKind.apart_swaps (.inr rfl) _ _)).2
        fun _ _ => divide_updateOperator hArgument
    · obtain ⟨swap, hSwap, rfl⟩ := List.mem_map.1 hA
      rw [List.mem_singleton.1 hB]
      cases leading with
      | true => exact divide_flipped hArgument (MutationKind.mem_operators (by decide) hSwap)
      | false => exact (divide_flipped hArgument hProper).symm
  case literal =>
    simp only [own, literalVariants]
    split <;> simp
  case templateLiteral =>
    simp only [own, templateVariants]
    split
    · exact .nil
    · split <;> simp
  case arrayExpression | objectExpression | blockStatement | newExpression =>
    exact pairwise_emptied
  case call =>
    simp only [own]
    split
    · exact .nil
    · exact pairwise_emptied
  case ifStatement =>
    rw [own]
    exact pairwise_forced fun place => divide_ifTest (unlike_boolLiteral false place)
  case whileStatement =>
    rw [own]
    exact pairwise_forced fun place => divide_whileTest (unlike_boolLiteral false place)
  case doWhileStatement =>
    rw [own]
    exact pairwise_forced fun place => divide_doTest (unlike_boolLiteral false place)
  case forStatement =>
    rw [own]
    refine pairwise_forced fun place => divide_forTest ?_
    rintro part ⟨⟩
    exact unlike_boolLiteral false place
  case chain => exact List.pairwise_singleton _ _
  all_goals exact .nil

end Own

end Mutate

end Assay
