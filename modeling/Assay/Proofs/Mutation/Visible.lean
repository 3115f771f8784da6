import Assay.Proofs.Print.Rifts
import Assay.Proofs.Totality

/-!
# The text of a mutant is not that of the program

Each variant of a single node is an exchange: what an alteration changes shows in the text of the
node, in a way that the parentheses and blanks around it cannot make up for. Exchanges carry over
from a part to the whole, so no mutant has the text of the program that it was made from.
-/

set_option autoImplicit false

namespace Assay

open Print Outcome

/-! ## Strings that take the place of others -/

variable {blank : Text} {kind : MutationKind}

namespace Escape

/-- An escape that does not join two lines stands for something. -/
theorem ensures_single {c : CodePoint} (h : endsLine c = false) (rest : Text) :
    Ensures (single c rest) (·.1 ≠ []) := by
  have hReturn : (c == '\r') = false := by
    simp only [endsLine, Bool.or_eq_false_iff] at h
    exact h.1.1.2
  unfold single
  rw [hReturn, h]
  split
  · split <;> simp [ensures_map]
  · split
    · split <;> simp [ensures_map]
    · simp

/-- A body stands for something if its first code point, or the escape that it starts with, does. -/
theorem ensures_resolve {c : CodePoint} {rest : Text}
    (h : c ≠ '\\' ∨ ∃ d after, rest = d :: after ∧ endsLine d = false) :
    Ensures (resolve (c :: rest)) (· ≠ []) := by
  unfold resolve resolveFrom
  split
  · rename_i hBackslash
    rcases h with hOther | ⟨d, after, rfl, hLine⟩
    · exact absurd (by simpa using hBackslash) hOther
    · simp only [ensures_bind, ensures_pure]
      intro value hSingle text _
      have hValue := ensures_single hLine after value hSingle
      simp [hValue]
  · simp [ensures_map]

end Escape

namespace Json

/-- A code point is written as itself, or as an escape that does not join two lines. -/
theorem escape_cases (c : CodePoint) :
    (∃ d, d ≠ CodePoint.ofChar '\\' ∧ d ≠ CodePoint.ofChar '"' ∧ escape c = [d]) ∨
      ∃ d after, Escape.endsLine d = false ∧ escape c = CodePoint.ofChar '\\' :: d :: after := by
  have hShort (letter : Char) (hLine : Escape.endsLine letter = false) :
      ∃ d after, Escape.endsLine d = false ∧
        [CodePoint.ofChar '\\', CodePoint.ofChar letter] = CodePoint.ofChar '\\' :: d :: after :=
    ⟨letter, [], hLine, rfl⟩
  unfold escape
  split
  · exact .inr (hShort '"' (by decide))
  · rename_i hQuote
    split
    · exact .inr (hShort '\\' (by decide))
    · rename_i hBackslash
      iterate 5
        split
        · exact .inr (hShort _ (by decide))
      split
      · exact .inl ⟨c, by simpa using hBackslash, by simpa using hQuote, rfl⟩
      · unfold unitsOf
        split <;> exact .inr ⟨'u', _, by decide, rfl⟩

/-- A text that is not empty stands for something if it is written as a string. -/
theorem ensures_resolve_escape {t : Text} (h : t ≠ []) :
    Ensures (Escape.resolve (t.flatMap escape)) (· ≠ []) := by
  obtain ⟨c, rest, rfl⟩ := List.exists_cons_of_ne_nil h
  rw [List.flatMap_cons]
  rcases escape_cases c with ⟨d, hBackslash, -, hEscape⟩ | ⟨d, after, hLine, hEscape⟩
  · rw [hEscape]
    exact Escape.ensures_resolve (.inl hBackslash)
  · rw [hEscape]
    exact Escape.ensures_resolve (.inr ⟨d, _, rfl, hLine⟩)

/-- A spelling whose value is empty is not that of a text that is not, and the other way round. -/
theorem quote_ne {raw value : Text} (hResolve : Escape.resolve (raw.drop 1).dropLast = .ok value)
    (hBlank : value = [] ↔ blank ≠ []) : raw ≠ quote blank := by
  rintro rfl
  have hBody : ((quote blank).drop 1).dropLast = blank.flatMap escape := List.dropLast_concat
  rw [hBody] at hResolve
  by_cases hEmpty : blank = []
  · subst hEmpty
    cases hResolve
    exact hBlank.1 rfl rfl
  · exact ensures_resolve_escape hEmpty value hResolve (hBlank.2 hEmpty)

end Json

/-! ## Operators -/

namespace MutationKind

/-- What holds between the words of each entry of a table, in order, holds between an operator and
all that it is exchanged for. -/
theorem pairwise_swaps {r : Text → Text → Prop}
    (hTable : ∀ entry ∈ kind.table, ((entry.1 :: entry.2).map Text.ofString).Pairwise r)
    (operator : Text) (besideNull : Bool) :
    (operator :: kind.swaps operator besideNull).Pairwise r := by
  rw [Catalogue.swaps_eq_replacements, Catalogue.replacements, row?]
  cases hFind : kind.table.find? fun entry => Text.ofString entry.1 == operator with
  | none => simp
  | some entry =>
    have hEntry := hTable entry (List.mem_of_find?_eq_some hFind)
    have hOperator : Text.ofString entry.1 = operator := by simpa using List.find?_some hFind
    rw [List.map_cons, hOperator] at hEntry
    exact hEntry.sublist (List.filter_sublist.cons_cons operator)

/-- Operators that are exchanged for each other part in front of a blank. -/
theorem parted_swaps (kind : MutationKind) (operator : Text) (besideNull : Bool) :
    (operator :: kind.swaps operator besideNull).Pairwise fun first second =>
      Parted (first ++ " ") (second ++ " ") := by
  refine pairwise_swaps ?_ operator besideNull
  cases kind <;> decide

/-- Signs that are exchanged for each other are apart. -/
theorem apart_swaps (hKind : kind = .unary ∨ kind = .update) (operator : Text) (besideNull : Bool) :
    (operator :: kind.swaps operator besideNull).Pairwise (Apart .wide) := by
  have hTables : ∀ kind ∈ [unary, update], ∀ entry ∈ kind.table,
      ((entry.1 :: entry.2).map Text.ofString).Pairwise (Apart .wide) := by decide
  exact pairwise_swaps (hTables kind (by simpa using hKind)) operator besideNull

end MutationKind

namespace Print

variable {rest : List Segment} {body : Node}
  {level : Nat} {t u : Text} {span place : Span} {value : Bool}

/-! ## Literals and links -/

theorem divide_bool {raw other : Option Text} :
    Divide .wide (.literal span (.bool value) raw none)
      (.literal span (.bool !value) other none) := by
  refine .of_wide rfl rfl rfl fun level t u hT hU => ?_
  cases value <;> cases hT <;> cases hU <;> decide

theorem divide_memberLink {object property other : Node} {computed : Bool}
    (hObject : Solid object) :
    Divide .wide (.member span object property computed false)
      (.member span object other computed true) := by
  refine .of_wide rfl rfl rfl fun level t u hT hU => ?_
  have hFront := ensures_wrapped hObject .object level []
  cases computed
  · exact apart_of_front hFront (fun t u => rel_of_tokens (Parted.append_right (by decide)))
      (spell_segments hT) (spell_segments hU)
  · exact apart_of_front hFront (fun t u => rel_of_tokens (Parted.append_right (by decide)))
      (spell_segments hT) (spell_segments hU)

theorem divide_callLink {callee : Node} {arguments others : List Node} (hCallee : Solid callee) :
    Divide .wide (.call span callee arguments false) (.call span callee others true) := by
  refine .of_wide rfl rfl rfl fun level t u hT hU => ?_
  exact apart_of_front (ensures_wrapped hCallee .target level [])
    (fun t u => rel_of_tokens (Parted.append_right (by decide))) (spell_segments hT) (spell_segments hU)

/-! ## What stands behind an opening code point -/

/-- Whether a text ends with a code point that opens something. -/
def opens (t : Text) : Bool := t.getLast?.any isOpening

/-- Segments of which the last one opens something. -/
theorem ensures_opens {token : Text} (h : opens token = true) (front : List Segment) :
    Ensures (spell (front ++ [Segment.token token])) fun t =>
      ∃ before c, t = before ++ [c] ∧ isOpening c = true := by
  intro t hT
  obtain ⟨first, -, _, hLast, rfl⟩ := spell_append_eq_ok.1 hT
  obtain rfl : token = _ := by simpa using hLast
  rcases List.eq_nil_or_concat token with rfl | ⟨before, c, rfl⟩
  · cases h
  · exact ⟨first ++ before, c, by simp, by simpa [opens] using h⟩

/-- Segments that go on differently behind something that is opened. -/
theorem differInside_of_front {front more : List Segment}
    (hFront : Ensures (spell front) fun t => ∃ before c, t = before ++ [c] ∧ isOpening c = true)
    (hRest : ∀ t u, spell rest = .ok t → spell more = .ok u → t ≠ u)
    (hT : spell (front ++ rest) = .ok t) (hU : spell (front ++ more) = .ok u) :
    DifferInside t u := by
  obtain ⟨first, hFirst, others, hOthers, rfl⟩ := spell_append_eq_ok.1 hT
  obtain ⟨_, hFirst', behind, hBehind, rfl⟩ := spell_append_eq_ok.1 hU
  cases hFirst.symm.trans hFirst'
  obtain ⟨before, c, rfl, hC⟩ := hFront first hFirst
  exact ⟨before, c, others, behind, hC, by simp, by simp, hRest others behind hOthers hBehind⟩

/-- Segments that spell something do not vanish. -/
theorem ne_of_more {front after : List Segment} (hFront : Ensures (spell front) (· ≠ []))
    (hT : spell (front ++ after) = .ok t) (hU : spell after = .ok u) : t ≠ u := by
  obtain ⟨first, hFirst, rest, hRest, rfl⟩ := spell_append_eq_ok.1 hT
  cases hRest.symm.trans hU
  simpa using hFront first hFirst

/-- Segments in front of the same ones. -/
theorem ne_of_start {first second : Segment}
    (h : ∀ t u, first.write = .ok t → second.write = .ok u → t ≠ u)
    (hT : spell (first :: rest) = .ok t) (hU : spell (second :: rest) = .ok u) : t ≠ u := by
  obtain ⟨start, hStart, after, hAfter, rfl⟩ := spell_cons_eq_ok.1 hT
  obtain ⟨other, hOther, _, hAfter', rfl⟩ := spell_cons_eq_ok.1 hU
  cases hAfter.symm.trans hAfter'
  simpa using h start other hStart hOther

theorem ensures_items {first : Node} (hFirst : Solid first) (items : List (List Segment)) :
    Ensures (spell (series ", " (item level first :: items))) (· ≠ []) := by
  have hSolid : Ensures (Segment.part .plain level first).write (isSolid · = true) := hFirst level
  rintro _ hT rfl
  rw [series_cons] at hT
  cases ensures_spell List.mem_cons_self hSolid [] hT

section Emptied

variable {callee first : Node} {items : List Node} (hFirst : Solid first)

include hFirst

theorem exchange_emptiedCall {optional : Bool} :
    Exchange .inside (.call span callee (first :: items) optional)
      (.call span callee [] optional) := by
  refine .of_text rfl rfl rfl (fun _ => rfl) fun level t u hT hU => ?_
  have hOpens : opens (Text.ofString (if optional then "?.(" else "(")) = true := by
    cases optional <;> decide
  exact differInside_of_front (ensures_opens hOpens [.part (.wrapped .target) level callee])
    (fun t u hT hU => ne_of_more (ensures_items hFirst _) hT hU) (spell_segments hT)
    (spell_segments hU)

theorem exchange_emptiedNew :
    Exchange .inside (.newExpression span callee (first :: items))
      (.newExpression span callee []) := by
  refine .of_text rfl rfl rfl (fun _ => rfl) fun level t u hT hU => ?_
  exact differInside_of_front
    (ensures_opens (show opens "(" = true by decide)
      [.token "new ", .part (.wrapped .callee) level callee])
    (fun t u hT hU => ne_of_more (ensures_items hFirst _) hT hU) (spell_segments hT)
    (spell_segments hU)

end Emptied

theorem exchange_emptiedArray {elements : List (Option Node)} (h : elements ≠ [])
    (hSolid : ∀ part, some part ∈ elements → Solid part) :
    Exchange .inside (.arrayExpression span elements) (.arrayExpression span []) := by
  refine .of_text rfl rfl rfl (fun _ => rfl) fun level t u hT hU => ?_
  refine differInside_of_front (ensures_opens (show opens "[" = true by decide) [])
    (fun t u hT hU => ?_) (spell_segments hT) (spell_segments hU)
  have hEnd : spell [.token "]"] = .ok u := hU
  obtain rfl : "]" = u := by simpa [Text.ofString] using hEnd
  obtain ⟨items, hItems, last, hLast, rfl⟩ := spell_append_eq_ok.1 hT
  obtain rfl : closingComma elements ++ "]" = last := by simpa using hLast
  -- a lone hole has its comma at the end, and any other one has it behind itself
  have hInner : items ++ closingComma elements ≠ [] := by
    cases elements with
    | nil => exact absurd rfl h
    | cons element elements =>
      cases element with
      | some first =>
        refine List.append_ne_nil_of_left_ne_nil ?_ _
        exact ensures_items (hSolid first List.mem_cons_self) _ items hItems
      | none =>
        cases elements with
        | nil => exact List.append_ne_nil_of_right_ne_nil _ (by decide)
        | cons next elements =>
          obtain ⟨_, ⟨⟩, rest, -, rfl⟩ := spell_cons_eq_ok.1 hItems
          simp [Text.ofString]
  rw [← List.append_assoc]
  exact mt List.append_left_eq_self.1 hInner

/-- A string is exchanged for one that is empty, or not empty if it was. -/
theorem exchange_string {raw value : Text} (hQuoted : Lexicon.isQuoted raw = true)
    (hResolve : Escape.resolve (raw.drop 1).dropLast = .ok value)
    (hBlank : value = [] ↔ blank ≠ []) :
    ∃ gap, Exchange gap (.literal span (.text value) (some raw) none)
      (.literal span (.text blank) none none) := by
  have hNe := Json.quote_ne hResolve hBlank
  cases raw with
  | nil => cases hQuoted
  | cons quote rest =>
    simp only [Lexicon.isQuoted, Bool.and_eq_true, Bool.or_eq_true, beq_iff_eq] at hQuoted
    -- the spelling that takes its place is between quotation marks of the first sort
    rcases hQuoted.1 with rfl | rfl
    · refine ⟨.inside, .of_text rfl rfl rfl (fun _ => rfl) fun level t u hT hU => ?_⟩
      cases hT
      cases hU
      refine ⟨[], '"', rest, _, by decide, rfl, rfl, fun hRest => hNe ?_⟩
      rw [hRest]
      rfl
    · refine ⟨.apart .wide, Divide.of_wide rfl rfl rfl fun level t u hT hU => ?_⟩
      cases hT
      cases hU
      exact parted_cons_cons.2 fun hEq => absurd hEq (by decide)

/-- A template whose first piece is exchanged for another one. -/
theorem exchange_template {first : Quasi} {rest : List Quasi} {expressions : List Node}
    (h : first.raw ≠ blank) :
    Exchange .inside (.templateLiteral span (first :: rest) expressions)
      (.templateLiteral span (Build.quasi blank first.tail :: rest) expressions) := by
  refine .of_text rfl rfl rfl (fun _ => rfl) fun level t u hT hU => ?_
  have hFront := ensures_opens (show opens "`" = true by decide) []
  -- behind the first piece both go on alike
  cases expressions with
  | nil =>
    refine differInside_of_front hFront (fun t u hT hU => ne_of_start (fun t u hT hU => ?_) hT hU)
      (spell_segments hT) (spell_segments hU)
    cases hT
    cases hU
    simpa [Build.quasi] using h
  | cons =>
    refine differInside_of_front hFront (fun t u hT hU => ne_of_start (fun t u hT hU => ?_) hT hU)
      (spell_segments hT) (spell_segments hU)
    cases hT
    cases hU
    exact h

/-! ## Forced tests -/

theorem printAt_boolLiteral (level : Nat) (value : Bool) (place : Span) :
    printAt level (Build.boolLiteral value place) = .ok (boolText value) := by
  cases value <;> rfl

section Forced

variable {test : Node} (hTest : ∀ level, Ensures (printAt level test) (· ≠ boolText value))

include hTest

theorem ne_test (hT : spell (.part .plain level test :: rest) = .ok t)
    (hU : spell (.part .plain level (Build.boolLiteral value place) :: rest) = .ok u) : t ≠ u := by
  refine ne_of_start (fun t u hT hU => ?_) hT hU
  cases (printAt_boolLiteral level value place).symm.trans hU
  exact hTest level t hT

theorem exchange_ifTest {consequent : Node} {alternate : Option Node} :
    Exchange .inside (.ifStatement span test consequent alternate)
      (.ifStatement span (Build.boolLiteral value place) consequent alternate) := by
  refine .of_text rfl rfl rfl (fun _ => rfl) fun level t u hT hU => ?_
  have hFront := ensures_opens (show opens "if (" = true by decide) []
  cases alternate <;>
    exact differInside_of_front hFront (fun t u hT hU => ne_test hTest hT hU) (spell_segments hT)
      (spell_segments hU)

theorem exchange_whileTest :
    Exchange .inside (.whileStatement span test body)
      (.whileStatement span (Build.boolLiteral value place) body) := by
  refine .of_text rfl rfl rfl (fun _ => rfl) fun level t u hT hU => ?_
  exact differInside_of_front (ensures_opens (show opens "while (" = true by decide) [])
    (fun t u hT hU => ne_test hTest hT hU) (spell_segments hT) (spell_segments hU)

theorem exchange_doTest :
    Exchange .inside (.doWhileStatement span body test)
      (.doWhileStatement span body (Build.boolLiteral value place)) := by
  refine .of_text rfl rfl rfl (fun _ => rfl) fun level t u hT hU => ?_
  exact differInside_of_front (ensures_opens (show opens " while (" = true by decide)
      [.token "do ", .part .plain level body])
    (fun t u hT hU => ne_test hTest hT hU) (spell_segments hT) (spell_segments hU)

end Forced

/-- The test of a counting loop may be absent. -/
theorem exchange_forTest {init test step : Option Node}
    (hTest : ∀ part ∈ test, ∀ level, Ensures (printAt level part) (· ≠ boolText value)) :
    Exchange .inside (.forStatement span init test step body)
      (.forStatement span init (some (Build.boolLiteral value place)) step body) := by
  refine .of_text rfl rfl rfl (fun _ => rfl) fun level t u hT hU => ?_
  have hSegments (test : Option Node) : segments level (.forStatement span init test step body) =
      [Segment.token "for ("] ++
        ((init.elim [] (fun node => [Segment.part .head level node]) ++ [Segment.token ";"]) ++
          (optional level " " test ++ Segment.token ";" ::
            (optional level " " step ++ [Segment.token ") ", .part .plain level body]))) := by
    simp [segments]
  refine differInside_of_front (ensures_opens (show opens "for (" = true by decide) [])
    (fun t u hT hU => ?_) (hSegments test ▸ spell_segments hT) (hSegments _ ▸ spell_segments hU)
  obtain ⟨lead, hLead, rest, hRest, rfl⟩ := spell_append_eq_ok.1 hT
  obtain ⟨_, hLead', more, hMore, rfl⟩ := spell_append_eq_ok.1 hU
  cases hLead.symm.trans hLead'
  refine mt List.append_cancel_left ?_
  cases test with
  | none =>
    refine (ne_of_more (fun t hT => ?_) hMore hRest).symm
    obtain ⟨_, ⟨⟩, word, -, rfl⟩ := spell_cons_eq_ok.1 hT
    simp [Text.ofString]
  | some part =>
    obtain ⟨_, ⟨⟩, inner, hInner, rfl⟩ := spell_cons_eq_ok.1 hRest
    obtain ⟨_, ⟨⟩, outer, hOuter, rfl⟩ := spell_cons_eq_ok.1 hMore
    exact mt List.append_cancel_left (ne_test (hTest part rfl) hInner hOuter)

end Print

/-! ## The variants of a tree -/

namespace Mutate

open Variant

attribute [local simp] Node.parts Node.looseParts Node.placedParts

variable {limit : Int} {assertion sentinel : Text} {node : Node}

/-- A test that is not the literal of a truth value does not have its text. -/
theorem ne_boolText {test : Node} {value : Bool} (hFree : test.isFree = true)
    (hProper : test.Proper Lexicon.standard) (hTest : test.isTest Lexicon.standard = true)
    (hLiteral : isLiteral value (some test) = false) (level : Nat) :
    Ensures (printAt level test) (· ≠ boolText value) := by
  rintro t hText rfl
  rw [isLiteral_of_printAt hFree hProper hTest hText] at hLiteral
  cases hLiteral

/-- What an emptied text gets is not what it was. -/
theorem eq_nil_iff_blank (hSentinel : sentinel ≠ []) (t : Text) :
    t = [] ↔ Catalogue.blank sentinel t ≠ [] := by
  cases t with
  | nil => simpa [Catalogue.blank] using hSentinel
  | cons c rest => simp [Catalogue.blank]

theorem solid_of_fits {part : Node} (h : node.Every (Node.Fits Lexicon.standard limit))
    (hPart : part ∈ node.parts) : Solid part :=
  solid_printAt (h.part hPart) (ne_program_of_mem_parts h.here hPart)

/-! ## Chains -/

/-- Only members and calls are links. -/
theorem hasOptional_eq_false {node : Node}
    (hMember : ∀ span object property computed optional,
      node = .member span object property computed optional → False)
    (hCall : ∀ span callee arguments optional,
      node = .call span callee arguments optional → False) : Lower.hasOptional node = false := by
  cases node
  case member => exact (hMember _ _ _ _ _ rfl).elim
  case call => exact (hCall _ _ _ _ rfl).elim
  all_goals rfl

theorem plainChain_eq {node : Node} (h : Lower.hasOptional node = false) :
    plainChain node = node := by
  fun_induction plainChain node with
  | case1 span object property computed optional ih =>
    simp only [Lower.hasOptional, Bool.or_eq_false_iff] at h
    rw [ih h.2, h.1]
  | case2 span callee arguments optional ih =>
    simp only [Lower.hasOptional, Bool.or_eq_false_iff] at h
    rw [ih h.2, h.1]
  | case3 => rfl

section Links

variable {span : Span} {base property : Node} {arguments : List Node} {computed optional : Bool}
  (h : Lower.hasOptional base = true → Divide .wide (plainChain base) base) (hBase : Solid base)

include h hBase

/-- A member divides at its first optional link from the one with plain links, whatever its
property is. -/
theorem divide_plainMember (hOptional : (optional || Lower.hasOptional base) = true)
    (other : Node) : Divide .wide (.member span (plainChain base) property computed false)
      (.member span base other computed optional) := by
  cases hInner : Lower.hasOptional base with
  | true => exact (h hInner).forked (.memberObject (.inl trivial))
  | false =>
    obtain rfl : optional = true := by simpa [hInner] using hOptional
    rw [plainChain_eq hInner]
    exact divide_memberLink hBase

/-- And so does a call, whatever its arguments are. -/
theorem divide_plainCall (hOptional : (optional || Lower.hasOptional base) = true)
    (others : List Node) : Divide .wide (.call span (plainChain base) arguments false)
      (.call span base others optional) := by
  cases hInner : Lower.hasOptional base with
  | true => exact (h hInner).forked (.callCallee (.inl trivial))
  | false =>
    obtain rfl : optional = true := by simpa [hInner] using hOptional
    rw [plainChain_eq hInner]
    exact divide_callLink hBase

end Links

/-- A chain divides at its first optional link from itself with every link made a plain one. -/
theorem divide_plainChain (h : node.Every (Node.Fits Lexicon.standard limit))
    (hOptional : Lower.hasOptional node = true) : Divide .wide (plainChain node) node := by
  fun_induction plainChain node with
  | case1 span object property computed optional ih =>
    have hObject : object ∈ (Node.member span object property computed optional).parts := by
      simp
    exact divide_plainMember (ih (h.part hObject)) (solid_of_fits h hObject) hOptional property
  | case2 span callee arguments optional ih =>
    have hCallee : callee ∈ (Node.call span callee arguments optional).parts := by
      simp
    exact divide_plainCall (ih (h.part hCallee)) (solid_of_fits h hCallee) hOptional arguments
  | case3 node hMember hCall =>
    rw [hasOptional_eq_false hMember hCall] at hOptional
    cases hOptional

/-! ## The variants of a node itself -/

/-- Whether what the alterations of a node itself change may show only behind something that is
opened. -/
def altersInside : Node → Bool
  | .literal _ (.text _) .. | .templateLiteral .. | .arrayExpression .. | .call ..
  | .newExpression .. | .ifStatement .. | .whileStatement .. | .doWhileStatement ..
  | .forStatement .. => true
  | _ => false

/-- A variant of any other node itself divides from the node. -/
theorem divide_of_fits {altered : Altered Node} (h : node.Every (Node.Fits Lexicon.standard limit))
    (hNode : altersInside node = false) (hOwn : Own sentinel node altered) :
    Divide .wide node altered.whole := by
  have hProper := h.here.proper
  cases hOwn with
  | binary _ hSwap =>
    exact divide_binaryOperator (solid_of_fits h (by simp))
      (List.rel_of_pairwise_cons (MutationKind.parted_swaps _ _ _) hSwap)
  | logical hSwap =>
    exact divide_logicalOperator (solid_of_fits h (by simp))
      (List.rel_of_pairwise_cons (MutationKind.parted_swaps _ _ _) hSwap)
  | assignment hSwap =>
    exact divide_assignmentOperator (solid_of_fits h (by simp))
      (List.rel_of_pairwise_cons (MutationKind.parted_swaps _ _ _) hSwap)
  | unary hSwap =>
    exact divide_unaryOperator
      (List.rel_of_pairwise_cons (MutationKind.apart_swaps (.inl rfl) _ _) hSwap)
  | update hSwap =>
    exact divide_updateOperator (solid_of_fits h (by simp))
      (List.rel_of_pairwise_cons (MutationKind.apart_swaps (.inr rfl) _ _) hSwap)
  | @side _ _ leading argument =>
    have hArgument : Solid argument := solid_of_fits h (by simp)
    cases leading with
    | true => exact divide_flipped hArgument hProper
    | false => exact (divide_flipped hArgument hProper).symm
  | bool =>
    cases hProper
    exact divide_bool
  | object hItems => exact divide_emptiedObject hItems
  | block hItems => exact divide_emptiedBlock hItems
  | chain => exact Divide.symm ((divide_plainChain (h.part (by simp)) hProper).forked .chain)
  | _ => cases hNode

/-- A variant of a node itself is an exchange. -/
theorem exchange_own {altered : Altered Node} (hSentinel : sentinel ≠ [])
    (h : node.Every (Node.Fits Lexicon.standard limit)) (hOwn : Own sentinel node altered) :
    ∃ gap, Exchange gap node altered.whole := by
  have hNe (part : Node) (hPart : part ∈ node.looseParts)
      (hTest : part.isTest Lexicon.standard = true) {value : Bool}
      (hLiteral : isLiteral value (some part) = false) :
      ∀ level, Ensures (printAt level part) (· ≠ boolText value) :=
    ne_boolText (h.here.loose part hPart)
      (h.part (List.mem_append_left _ hPart)).here.proper hTest hLiteral
  have hProper := h.here.proper
  cases hNode : altersInside node with
  | false => exact ⟨_, divide_of_fits h hNode hOwn⟩
  | true =>
    cases hOwn with
    | string =>
      cases hProper with
      | string hQuoted hResolve =>
        exact exchange_string hQuoted hResolve (eq_nil_iff_blank hSentinel _)
    | @template _ first =>
      refine ⟨_, exchange_template fun hEq => ?_⟩
      have hEmpty := eq_nil_iff_blank hSentinel first.raw
      rw [← hEq] at hEmpty
      exact iff_not_self hEmpty
    | array hItems =>
      refine ⟨_, exchange_emptiedArray hItems fun part hPart => solid_of_fits h ?_⟩
      exact List.mem_append_left _ (List.mem_flatMap.2 ⟨some part, hPart, by simp⟩)
    | call hItems =>
      obtain ⟨first, rest, rfl⟩ := List.exists_cons_of_ne_nil hItems
      exact ⟨_, exchange_emptiedCall (solid_of_fits h (by simp))⟩
    | new hItems =>
      obtain ⟨first, rest, rfl⟩ := List.exists_cons_of_ne_nil hItems
      exact ⟨_, exchange_emptiedNew (solid_of_fits h (by simp))⟩
    | ifTest hLiteral => exact ⟨_, exchange_ifTest (hNe _ (by simp) hProper.1 hLiteral)⟩
    | whileTest hLiteral => exact ⟨_, exchange_whileTest (hNe _ (by simp) hProper hLiteral)⟩
    | doTest hLiteral => exact ⟨_, exchange_doTest (hNe _ (by simp) hProper hLiteral)⟩
    | forTest hLiteral =>
      refine ⟨_, exchange_forTest ?_⟩
      rintro part rfl
      exact hNe part (by simp) (hProper part rfl) hLiteral
    | _ => cases hNode

/-- All variants of a tree are exchanges. -/
theorem exchange_walk (hSentinel : sentinel ≠ [])
    (h : node.Every (Node.Fits Lexicon.standard limit)) :
    (walk (plainRules assertion sentinel) node).Each fun _ whole =>
      ∃ gap, Exchange gap node whole := by
  refine each_walk (r := fun _ node whole => ∃ gap, Exchange gap node whole)
    (fun _ hFits => hFits.proper) ?_ ?_ h
  · exact exchange_own hSentinel
  · rintro _ part variant node other h ⟨gap, hExchange⟩ hReplaced
    exact ⟨gap, hExchange.replaced hReplaced h.here.proper⟩

end Mutate

theorem Node.print_of_write {tree : Node} {t : Text} (h : tree.write = .ok t) :
    printAt 0 tree = .ok t := by
  unfold Node.write Node.print at h
  split at h
  · rename_i text hText
    cases h
    exact hText
  · cases h

namespace Mutation

open Mutate

/-- No mutant of a program has the text of the program, so that nothing is logged but what was
asked for. -/
theorem mutants_visible {config : Config} {sentinel : Text}
    (hSentinel : config.sentinel = .text sentinel) (detail : Bool) {script : Script}
    {program : Node} (hGrammar : script.isGrammatical = true)
    (hSpelled : script.isSpelled Lexicon.standard = true) (hParse : script.parse = .ok program) :
    ∃ mutation, generate config detail {} script = .ok mutation ∧
      program.write = .ok mutation.beautified ∧
      (∀ mutant ∈ mutation.mutants, mutant.mutatedSource ≠ mutation.beautified) ∧
      ∀ record ∈ mutation.records, record.1 = .info := by
  have hNonempty : sentinel ≠ [] := by
    rintro rfl
    have hConfig := config.sentinel_not_empty
    rw [hSentinel] at hConfig
    cases hConfig
  obtain ⟨beautified, mutants, hBeautified, hGenerate, hShows⟩ :=
    exists_generate hSentinel detail hGrammar hParse
  have hDiffer : ∀ mutant ∈ mutants, mutant.mutatedSource ≠ beautified := by
    intro mutant hMutant
    obtain ⟨altered, hAltered, hSource, -⟩ := hShows mutant hMutant
    have hFits := (script.parse_fits hGrammar hSpelled hParse).1
    obtain ⟨gap, hExchange⟩ := exchange_walk hNonempty hFits altered hAltered
    exact (gap.ne (hExchange.text (Node.print_of_write hBeautified)
      (Node.print_of_write hSource))).symm
  refine ⟨_, hGenerate, hBeautified, hDiffer, ?_⟩
  simp only [recordsOf, if_true, List.append_nil, List.mem_append, List.mem_flatMap]
  rintro record (hOpening | ⟨mutant, hMutant, hRecord⟩)
  · split at hOpening
    · rw [List.mem_singleton.1 hOpening]
    · cases hOpening
  · rw [recordOf, if_neg (hDiffer mutant hMutant)] at hRecord
    split at hRecord
    · rw [List.mem_singleton.1 hRecord]
    · cases hRecord

/-- The program `a && b || c;` as it comes from the grammar. -/
def mixedChain : Script where
  code := "a && b || c;"
  tree :=
    .part .program 0 12 "" [.part .expressionStatement 0 12 "" [.part .binaryExpression 0 11 ""
      [.part .binaryExpression 0 6 "left"
        [.part .identifier 0 1 "left" [], .part (.other "&&") 2 4 "operator" [],
         .part .identifier 5 6 "right" []],
       .part (.other "||") 7 9 "operator" [], .part .identifier 10 11 "right" []]]]

/-- The syntax tree of `a && b || c;`. -/
def mixedChainTree : Node :=
  .program (.between 0 12) [.expressionStatement (.between 0 12) (.logical (.between 0 11)
    (.logical (.between 0 6) (.identifier (.between 0 1) "a") "&&"
      (.identifier (.between 5 6) "b")) "||" (.identifier (.between 10 11) "c"))]

/-- Parentheses come and go with the operators of `a && b || c;`, and hide none of its mutants. -/
theorem mutants_visible_mixedChain :
    mixedChain.isGrammatical = true ∧ mixedChain.isSpelled Lexicon.standard = true ∧
      mixedChain.parse = .ok mixedChainTree ∧
      ∃ mutation, generate Config.default true {} mixedChain = .ok mutation ∧
        mixedChainTree.write = .ok mutation.beautified ∧
        (∀ mutant ∈ mutation.mutants, mutant.mutatedSource ≠ mutation.beautified) ∧
        ∀ record ∈ mutation.records, record.1 = .info := by
  have hGrammar : mixedChain.isGrammatical = true := by decide
  have hSpelled : mixedChain.isSpelled Lexicon.standard = true := by decide
  have hParse : mixedChain.parse = .ok mixedChainTree := rfl
  exact ⟨hGrammar, hSpelled, hParse, mutants_visible rfl true hGrammar hSpelled hParse⟩

end Mutation

end Assay
