import Assay.Print.Printer
import Mathlib.Data.List.Basic

/-!
# Texts that part

Two texts part if neither is the start of the other. Such texts differ whatever follows them, so
that two wholes differ as soon as they part somewhere, no matter what happens to the rest of them.
`Apart` says in addition what may stand in front. Texts that are wide apart part behind all the
parentheses and blanks that they start with, and stay so if other parentheses are put around them;
texts that are narrowly apart may also part at a sign or a parenthesis, and need the same in front
of both. Texts that `DifferInside` agree up to a code point that opens something, and stay different
if the same follows both of them. What these have in common is that they survive all that the
printer puts around a text: each of them is a `Gap`.
-/

set_option autoImplicit false

namespace Assay.Print

variable {t u : Text}

/-! ## Parted texts -/

/-- Neither text is the start of the other. -/
def Parted (t u : Text) : Prop := ¬ t <+: u ∧ ¬ u <+: t

theorem Parted.symm (h : Parted t u) : Parted u t := ⟨h.2, h.1⟩

theorem Parted.ne (h : Parted t u) : t ≠ u := by
  rintro rfl
  exact h.1 List.prefix_rfl

theorem Parted.ne_nil (h : Parted t u) : t ≠ [] ∧ u ≠ [] := by
  constructor
  · rintro rfl
    exact h.1 List.nil_prefix
  · rintro rfl
    exact h.2 List.nil_prefix

/-- What has parted stays so, whatever follows. -/
theorem Parted.append_right (h : Parted t u) (after more : Text) :
    Parted (t ++ after) (u ++ more) := by
  -- two starts of one text are comparable
  have hStarts (t u after more : Text) (hPrefix : t ++ after <+: u ++ more) : t <+: u ∨ u <+: t :=
    List.prefix_or_prefix_of_prefix ((List.prefix_append t after).trans hPrefix)
      (List.prefix_append u more)
  constructor
  · intro hPrefix
    exact (hStarts t u after more hPrefix).elim h.1 h.2
  · intro hPrefix
    exact (hStarts u t more after hPrefix).elim h.2 h.1

@[simp]
theorem parted_append_left (before : Text) : Parted (before ++ t) (before ++ u) ↔ Parted t u := by
  simp [Parted]

@[simp]
theorem parted_cons_cons {c d : CodePoint} :
    Parted (c :: t) (d :: u) ↔ (c = d → Parted t u) := by
  by_cases h : c = d
  · simp [Parted, h]
  · simp [Parted, h, Ne.symm h]

/-! ## What the printer puts in front -/

/-- Whether a code point is one that the printer puts in front of a text. -/
def isLead (c : CodePoint) : Bool := c == '(' || c == ' '

/-- A text from its first code point on that is no parenthesis and no blank. -/
def trimmed (t : Text) : Text := t.dropWhile isLead

theorem trimmed_append (h : trimmed t ≠ []) (after : Text) :
    trimmed (t ++ after) = trimmed t ++ after := by
  have hEmpty : (t.dropWhile isLead).isEmpty = false := by simpa [trimmed] using h
  rw [trimmed, List.dropWhile_append, hEmpty]
  rfl

theorem trimmed_append_of_lead {before : Text} (h : trimmed before = []) (t : Text) :
    trimmed (before ++ t) = trimmed t := by
  have hEmpty : (before.dropWhile isLead).isEmpty = true := by simpa [trimmed] using h
  rw [trimmed, List.dropWhile_append, hEmpty]
  rfl

@[simp]
theorem trimmed_cons {c : CodePoint} (h : isLead c = false) (t : Text) :
    trimmed (c :: t) = c :: t := by
  simp [trimmed, h]

/-- Texts that part behind what they start with part. -/
theorem parted_of_trimmed (h : Parted (trimmed t) (trimmed u)) : Parted t u := by
  have hPrefix (t u : Text) (hPrefix : t <+: u) : trimmed t <+: trimmed u := by
    obtain ⟨rest, rfl⟩ := hPrefix
    by_cases hEmpty : trimmed t = []
    · rw [hEmpty]
      exact List.nil_prefix
    · rw [trimmed_append hEmpty]
      exact List.prefix_append _ _
  exact ⟨fun hStart => h.1 (hPrefix t u hStart), fun hStart => h.2 (hPrefix u t hStart)⟩

/-! ## The two ways to be apart -/

/-- How far two texts are apart. -/
inductive Rift where
  /-- They part whatever parentheses and blanks stand in front of each. -/
  | wide
  /-- They do so, or part at a sign or a parenthesis if the same stands in front of both. -/
  | narrow

/-- Whether a code point is a sign or an opening parenthesis. -/
def isBrink (c : CodePoint) : Bool := (Text.ofString "+-(").contains c

/-- The texts are apart. -/
def Apart : Rift → Text → Text → Prop
  | .wide, t, u => Parted (trimmed t) (trimmed u)
  | .narrow, t, u => Parted (trimmed t) (trimmed u) ∨
      ∃ front c d rest more, isBrink c = true ∧ isBrink d = true ∧ c ≠ d ∧
        t = front ++ c :: rest ∧ u = front ++ d :: more

namespace Apart

variable {rift : Rift}

theorem parted (h : Apart rift t u) : Parted t u := by
  cases rift with
  | wide => exact parted_of_trimmed h
  | narrow =>
    rcases h with h | ⟨front, c, d, rest, more, -, -, hNe, rfl, rfl⟩
    · exact parted_of_trimmed h
    · simpa using fun hEq => absurd hEq hNe

theorem symm (h : Apart rift t u) : Apart rift u t := by
  cases rift with
  | wide => exact Parted.symm h
  | narrow =>
    rcases h with h | ⟨front, c, d, rest, more, hC, hD, hNe, rfl, rfl⟩
    · exact .inl h.symm
    · exact .inr ⟨front, d, c, more, rest, hD, hC, hNe.symm, rfl, rfl⟩

/-- Nothing that follows brings the texts together. -/
theorem append_right (h : Apart rift t u) (after more : Text) :
    Apart rift (t ++ after) (u ++ more) := by
  have hWide (h : Parted (trimmed t) (trimmed u)) :
      Parted (trimmed (t ++ after)) (trimmed (u ++ more)) := by
    obtain ⟨hT, hU⟩ := h.ne_nil
    simpa only [trimmed_append hT, trimmed_append hU] using h.append_right after more
  cases rift with
  | wide => exact hWide h
  | narrow =>
    rcases h with h | ⟨front, c, d, rest, others, hC, hD, hNe, rfl, rfl⟩
    · exact .inl (hWide h)
    · exact .inr ⟨front, c, d, rest ++ after, others ++ more, hC, hD, hNe, by simp, by simp⟩

theorem append_left (h : Apart rift t u) (before : Text) :
    Apart rift (before ++ t) (before ++ u) := by
  have hWide (h : Parted (trimmed t) (trimmed u)) :
      Parted (trimmed (before ++ t)) (trimmed (before ++ u)) := by
    by_cases hLead : trimmed before = []
    · simpa only [trimmed_append_of_lead hLead] using h
    · simpa only [trimmed_append hLead, parted_append_left] using parted_of_trimmed h
  cases rift with
  | wide => exact hWide h
  | narrow =>
    rcases h with h | ⟨front, c, d, rest, more, hC, hD, hNe, rfl, rfl⟩
    · exact .inl (hWide h)
    · exact .inr ⟨before ++ front, c, d, rest, more, hC, hD, hNe, by simp, by simp⟩

/-- The same parentheses around both texts. -/
theorem wrap (h : Apart rift t u) (parens : Bool) :
    Apart rift (wrap parens t) (wrap parens u) := by
  cases parens with
  | false => exact h
  | true => exact (h.append_left "(").append_right ")" ")"

/-- Leading parentheses and blanks in front of either text. -/
theorem lead (h : Apart .wide t u) {before others : Text} (hBefore : trimmed before = [])
    (hOthers : trimmed others = []) : Apart .wide (before ++ t) (others ++ u) := by
  simpa only [Apart, trimmed_append_of_lead hBefore, trimmed_append_of_lead hOthers] using h

/-- Parentheses around either text. -/
theorem wrap_wide (h : Apart .wide t u) (parens others : Bool) :
    Apart .wide (Print.wrap parens t) (Print.wrap others u) := by
  have hNone : trimmed [] = [] := rfl
  have hOpen : trimmed "(" = [] := by decide
  cases parens <;> cases others <;> simp only [Print.wrap, Bool.false_eq_true, if_true, if_false]
  · exact h
  · simpa using (h.lead hNone hOpen).append_right [] ")"
  · simpa using (h.lead hOpen hNone).append_right ")" []
  · exact (h.lead hOpen hOpen).append_right ")" ")"

end Apart

/-- Texts that part behind something that is more than parentheses and blanks are wide apart. -/
theorem apart_of_parted {before : Text} (hBefore : trimmed before ≠ []) (h : Parted t u) :
    Apart .wide (before ++ t) (before ++ u) := by
  simpa only [Apart, trimmed_append hBefore, parted_append_left] using h

/-! ## Behind what is opened -/

/-- Whether a code point opens something. -/
def isOpening (c : CodePoint) : Bool := (Text.ofString "\"`[(\x7b").contains c

/-- The texts agree up to a code point that opens something, and differ behind it. -/
def DifferInside (t u : Text) : Prop :=
  ∃ front c rest more, isOpening c = true ∧ t = front ++ c :: rest ∧ u = front ++ c :: more ∧
    rest ≠ more

namespace DifferInside

theorem ne (h : DifferInside t u) : t ≠ u := by
  obtain ⟨front, c, rest, more, -, rfl, rfl, hNe⟩ := h
  simpa using hNe

theorem append_left (h : DifferInside t u) (before : Text) :
    DifferInside (before ++ t) (before ++ u) := by
  obtain ⟨front, c, rest, more, hOpening, rfl, rfl, hNe⟩ := h
  exact ⟨before ++ front, c, rest, more, hOpening, by simp, by simp, hNe⟩

theorem append_right (h : DifferInside t u) (after : Text) :
    DifferInside (t ++ after) (u ++ after) := by
  obtain ⟨front, c, rest, more, hOpening, rfl, rfl, hNe⟩ := h
  exact ⟨front, c, rest ++ after, more ++ after, hOpening, by simp, by simp, by simpa using hNe⟩

end DifferInside

/-! ## The start of a statement -/

section Start

variable {c d : CodePoint}

/-- A word without the code point ends before it, or is not there. -/
theorem startsWith_of_not_mem {word : Text} (h : c ∉ word) (front rest : Text) :
    (front ++ c :: rest).startsWith word = front.startsWith word := by
  unfold Text.startsWith
  induction word generalizing front with
  | nil => simp
  | cons d word ih =>
    obtain ⟨hHead, hTail⟩ := not_or.1 (List.mem_cons.not.1 h)
    cases front with
    | nil => simp [List.isPrefixOf, beq_false_of_ne (Ne.symm hHead)]
    | cons e front => simp [List.isPrefixOf, ih hTail front]

theorem drop_of_startsWith {word front : Text} (h : front.startsWith word = true) (rest : Text) :
    (front ++ c :: rest).drop word.length = front.drop word.length ++ c :: rest := by
  have hLength : word.length ≤ front.length :=
    (List.isPrefixOf_iff_prefix.1 h).length_le
  rw [List.drop_append_of_le_length hLength]

theorem stripLeft_append_cons (hBlank : c.isBlank = false) (front rest : Text) :
    Text.stripLeft (front ++ c :: rest) = Text.stripLeft front ++ c :: rest := by
  unfold Text.stripLeft
  induction front with
  | nil => simp [hBlank]
  | cons d front ih =>
    rw [List.cons_append, List.dropWhile_cons, List.dropWhile_cons]
    split
    · exact ih
    · rfl

/-- A sign and what opens something are no blanks, and no word holds one. -/
theorem of_isOpening_or_isBrink (h : isOpening c = true ∨ isBrink c = true) :
    c.isBlank = false ∧ c.isWordPart = false ∧
      ∀ word ∈ ["function", "class", "async", "let"], c ∉ Text.ofString word := by
  have hAll : ∀ marks ∈ ["\"`[(\x7b", "+-("], (Text.ofString marks).all (fun c =>
      !c.isBlank && !c.isWordPart && ["function", "class", "async", "let"].all fun word =>
        !(Text.ofString word).contains c) = true := by decide
  rcases h with h | h
  · simpa [and_assoc] using
      List.all_eq_true.1 (hAll "\"`[(\x7b" (by simp)) c (List.contains_iff_mem.1 h)
  · simpa [and_assoc] using List.all_eq_true.1 (hAll "+-(" (by simp)) c (List.contains_iff_mem.1 h)

/-- Whether a statement is ambiguous is settled in front of a sign, and where something is opened. -/
theorem isAmbiguousStart_congr (hC : isOpening c = true ∨ isBrink c = true)
    (h : c = d ∨ isBrink c = true ∧ isBrink d = true) (front rest more : Text) :
    isAmbiguousStart (front ++ c :: rest) = isAmbiguousStart (front ++ d :: more) := by
  obtain ⟨hBlank, hPart, hWords⟩ := of_isOpening_or_isBrink hC
  obtain ⟨hBlank', hPart', hWords'⟩ :=
    of_isOpening_or_isBrink (h.elim (· ▸ hC) fun hBrink => .inr hBrink.2)
  have hSingle (e : CodePoint) (hE : isBrink e = false) (front : Text) :
      (front ++ c :: rest).startsWith [e] = (front ++ d :: more).startsWith [e] := by
    have hSame : (e == c) = (e == d) := by grind
    cases front <;> simp [Text.startsWith, List.isPrefixOf, hSame]
  -- what stands behind a word that both texts start with
  have hBehind (word : String) (hWord : word ∈ ["function", "class", "async", "let"])
      (p : Text → Bool) (hp : ∀ front, p (front ++ c :: rest) = p (front ++ d :: more))
      (front : Text) :
      ((front ++ c :: rest).startsWith word && p ((front ++ c :: rest).drop word.length)) =
        ((front ++ d :: more).startsWith word && p ((front ++ d :: more).drop word.length)) := by
    have hLength : word.length = (Text.ofString word).length := by
      rw [Text.ofString, List.length_map, String.length_toList]
    rw [startsWith_of_not_mem (hWords word hWord), startsWith_of_not_mem (hWords' word hWord),
      hLength]
    by_cases hStart : front.startsWith word = true
    · rw [drop_of_startsWith hStart, drop_of_startsWith hStart, hp]
    · simp [hStart]
  have hEnds (front : Text) : wordEnds (front ++ c :: rest) = wordEnds (front ++ d :: more) := by
    cases front <;> simp [wordEnds, hPart, hPart']
  have hFunction := hBehind "function" (by simp) wordEnds hEnds
  unfold isAmbiguousStart
  congr 1
  · congr 1
    · congr 1
      · congr 1
        · exact hSingle '\x7b' (by decide) front
        · exact hFunction front
      · exact hBehind "class" (by simp) wordEnds hEnds front
    · refine hBehind "async" (by simp) (fun t => t.head?.any CodePoint.isBlank &&
        startsWithWord (Text.stripLeft t) "function") (fun front => ?_) front
      rw [stripLeft_append_cons hBlank, stripLeft_append_cons hBlank', startsWithWord, hFunction]
      cases front <;> simp [hBlank, hBlank', startsWithWord]
  · refine hBehind "let" (by simp) (fun t => (Text.stripLeft t).startsWith "[") (fun front => ?_)
      front
    rw [stripLeft_append_cons hBlank, stripLeft_append_cons hBlank']
    exact hSingle '[' (by decide) _

end Start

/-! ## Gaps -/

/-- A way for two texts to differ that survives what the printer puts around them. -/
structure Gap where
  /-- The texts differ in this way. -/
  Holds : Text → Text → Prop
  /-- Whether parentheses and blanks in front of the texts have to be the same. -/
  strict : Prop
  /-- Whether what follows the texts may be anything. -/
  free : Prop
  ne {t u : Text} : Holds t u → t ≠ u
  append_left {t u : Text} : Holds t u → ∀ before, Holds (before ++ t) (before ++ u)
  append_right {t u after more : Text} : Holds t u → free ∨ after = more →
    Holds (t ++ after) (u ++ more)
  statementText {t u : Text} : Holds t u → Holds (statementText t) (statementText u)
  wrap_loose {t u : Text} : ¬ strict → Holds t u → ∀ parens others,
    Holds (wrap parens t) (wrap others u)
  lead_loose {t u before others : Text} : ¬ strict → Holds t u → trimmed before = [] →
    trimmed others = [] → Holds (before ++ t) (others ++ u)

namespace Gap

/-- The same parentheses around both texts. -/
theorem wrap (gap : Gap) (h : gap.Holds t u) (parens : Bool) :
    gap.Holds (Print.wrap parens t) (Print.wrap parens u) := by
  cases parens with
  | false => exact h
  | true => exact gap.append_right (gap.append_left h "(") (.inr rfl)

theorem statementText_wide (h : Apart .wide t u) :
    Apart .wide (Print.statementText t) (Print.statementText u) :=
  (h.wrap_wide _ _).append_right ";" ";"

/-- The gap between texts that are apart. -/
def apart (rift : Rift) : Gap where
  Holds := Apart rift
  strict := rift = .narrow
  free := True
  ne h := h.parted.ne
  append_left := Apart.append_left
  append_right h _ := h.append_right _ _
  statementText h := by
    cases rift with
    | wide => exact statementText_wide h
    | narrow =>
      rcases id h with hWide | ⟨front, c, d, rest, more, hC, hD, -, rfl, rfl⟩
      · exact .inl (statementText_wide hWide)
      · unfold Print.statementText
        rw [isAmbiguousStart_congr (.inr hC) (.inr ⟨hC, hD⟩) front rest more]
        exact (h.wrap _).append_right ";" ";"
  wrap_loose hLoose h := by
    cases rift with
    | wide => exact h.wrap_wide
    | narrow => exact absurd rfl hLoose
  lead_loose hLoose h := by
    cases rift with
    | wide => exact h.lead
    | narrow => exact absurd rfl hLoose

/-- The gap between texts that differ behind what is opened. -/
def inside : Gap where
  Holds := DifferInside
  strict := True
  free := False
  ne := DifferInside.ne
  append_left := DifferInside.append_left
  append_right h hSame := hSame.resolve_left id ▸ h.append_right _
  statementText h := by
    obtain ⟨front, c, rest, more, hOpening, rfl, rfl, -⟩ := id h
    unfold Print.statementText
    rw [isAmbiguousStart_congr (.inl hOpening) (.inl rfl) front rest more]
    cases isAmbiguousStart (front ++ c :: more) with
    | false => exact h.append_right ";"
    | true => exact ((h.append_left "(").append_right ")").append_right ";"
  wrap_loose hLoose := absurd trivial hLoose
  lead_loose hLoose := absurd trivial hLoose

end Gap

end Assay.Print
