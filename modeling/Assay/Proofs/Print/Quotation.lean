import Assay.Run.Observe
import Mathlib.Algebra.Ring.Nat

/-!
# Strings without a spelling of their own

A string literal that keeps no spelling is printed in JSON. `Text.behindQuote?` reads a string literal
up to its closing quote, `Text.Utf16` says what the UTF-16 form of a text is, and `Json.Spells` what a
stretch of the printed literal does to both readers: the literal goes on behind it, and it stands for
the given units. Stretches can be joined, so it is enough to look at the escape of one code point
(`Json.exists_spells_escape`).
-/

set_option autoImplicit false

namespace Assay

/-- What stands behind a string literal, if a text starts after the opening quote of one: there is
nothing if the line ends before the literal does. `escaped` says whether a backslash comes before. -/
def Text.behindQuote? (escaped : Bool) : Text → Option Text
  | [] => none
  | c :: rest =>
    if escaped then behindQuote? false rest
    else if c == '"' then some rest
    else if Escape.endsLine c then none
    else behindQuote? (c == '\\') rest

/-- The second text is the UTF-16 form of the first: a code point up to U+FFFF is a unit, and a higher
one stands as a high surrogate and a low one, with ten bits in each. -/
inductive Text.Utf16 : Text → Text → Prop
  | nil : Utf16 [] []
  | unit {c : CodePoint} {rest units : Text} (h : c.val ≤ 0xFFFF) :
      Utf16 rest units → Utf16 (c :: rest) (c :: units)
  | pair {c high low : CodePoint} {rest units : Text} (hHigh : c.val = 0x10000 +
      (high.val - 0xD800) * 0x400 + (low.val - 0xDC00)) (hRange : high.within 0xD800 0xDBFF)
      (hRange' : low.within 0xDC00 0xDFFF) :
      Utf16 rest units → Utf16 (c :: rest) (high :: low :: units)

/-! ## Hexadecimal digits -/

namespace Text

theorem hexValue?_hexDigit {d : Nat} (h : d < 16) : (hexDigit d).hexValue? = some d := by
  have hAll : ∀ d : Fin 16, (hexDigit d).hexValue? = some d.val := by decide
  exact hAll ⟨d, h⟩

theorem length_hexPadded (width n : Nat) : (hexPadded width n).length = width := by
  induction width generalizing n with
  | zero => rfl
  | succ width ih => rw [hexPadded, List.length_append, ih, List.length_singleton]

theorem mem_hexPadded {width n : Nat} {c : CodePoint} (h : c ∈ hexPadded width n) :
    ∃ d < 16, c = hexDigit d := by
  induction width generalizing n with
  | zero => cases h
  | succ width ih =>
    rcases List.mem_append.1 h with hFront | hLast
    · exact ih hFront
    · exact ⟨n % 16, Nat.mod_lt n (by omega), List.mem_singleton.1 hLast⟩

/-- The value of the last digits of a number is what is left of the number there. -/
theorem hexValue?_hexPadded (width n : Nat) : hexValue? (hexPadded width n) = some (n % 16 ^ width) := by
  induction width generalizing n with
  | zero => simp [hexPadded, hexValue?, Nat.mod_one]
  | succ width ih =>
    have hDigit := hexValue?_hexDigit (Nat.mod_lt n (by omega : 0 < 16))
    have hFront : List.foldlM (fun n (c : CodePoint) => c.hexValue?.map (16 * n + ·)) 0
        (hexPadded width (n / 16)) = some (n / 16 % 16 ^ width) := ih (n / 16)
    rw [hexPadded, hexValue?, List.foldlM_append, hFront]
    have hValue : 16 * (n / 16 % 16 ^ width) + n % 16 = n % 16 ^ (width + 1) := by
      rw [Nat.pow_succ, Nat.mul_comm (16 ^ width), Nat.mod_mul]
      omega
    simp [hDigit, hValue]

theorem hexAtStart?_hexPadded {width n : Nat} (h : n < 16 ^ width) (rest : Text) :
    (hexPadded width n ++ rest).hexAtStart? width = some n := by
  have hTake : (hexPadded width n ++ rest).take width = hexPadded width n := by
    have hLength : (hexPadded width n).length = width := length_hexPadded width n
    rw [List.take_append_of_le_length (by omega), List.take_of_length_le (by omega)]
  simp only [hexAtStart?, hTake, length_hexPadded, if_true, hexValue?_hexPadded, Nat.mod_eq_of_lt h]

end Text

/-! ## Stretches of a literal -/

namespace Json

open Escape Text

/-- Within a literal, the stretch is printable ASCII, does not end the literal and stands for the
given units, whatever follows it. -/
structure Spells (stretch units : Text) : Prop where
  isAscii : ∀ c ∈ stretch, c.within 0x20 0x7E = true
  behindQuote : ∀ rest, behindQuote? false (stretch ++ rest) = behindQuote? false rest
  resolve : ∀ rest tail, resolveFrom 0 rest = .ok tail →
    resolveFrom 0 (stretch ++ rest) = .ok (units ++ tail)

namespace Spells

theorem nil : Spells [] [] where
  isAscii := by simp
  behindQuote _ := rfl
  resolve _ _ h := h

theorem append {first second units others : Text} (hFirst : Spells first units)
    (hSecond : Spells second others) : Spells (first ++ second) (units ++ others) where
  isAscii c hc := (List.mem_append.1 hc).elim (hFirst.isAscii c) (hSecond.isAscii c)
  behindQuote rest := by
    rw [List.append_assoc, hFirst.behindQuote, hSecond.behindQuote]
  resolve rest tail h := by
    rw [List.append_assoc, List.append_assoc]
    exact hFirst.resolve _ _ (hSecond.resolve rest tail h)

end Spells

/-- Whether a code point stands for itself within a literal. -/
def isPlain (c : CodePoint) : Bool := c.within 0x20 0x7E && c != '"' && c != '\\'

theorem endsLine_of_within {c : CodePoint} (h : c.within 0x20 0x7E = true) : endsLine c = false := by
  have hBounds : 0x20 ≤ c.val ∧ c.val ≤ 0x7E := by simpa [CodePoint.within] using h
  have hNe (d : CodePoint) (hd : d.val < 0x20) : c ≠ d := by
    rintro rfl
    omega
  have hFeed := hNe '\n' (by decide)
  have hReturn := hNe '\r' (by decide)
  simp [endsLine, hFeed, hReturn]
  omega

theorem behindQuote?_plain {t : Text} (h : ∀ c ∈ t, isPlain c = true) (rest : Text) :
    behindQuote? false (t ++ rest) = behindQuote? false rest := by
  induction t with
  | nil => rfl
  | cons c t ih =>
    obtain ⟨hHere, hRest⟩ := List.forall_mem_cons.1 h
    simp only [isPlain, Bool.and_eq_true, bne_iff_ne] at hHere
    obtain ⟨⟨hAscii, hQuote⟩, hBackslash⟩ := hHere
    rw [List.cons_append, behindQuote?]
    simp only [Bool.false_eq_true, if_false, beq_eq_false_iff_ne.2 hQuote,
      endsLine_of_within hAscii, beq_eq_false_iff_ne.2 hBackslash]
    exact ih hRest

theorem resolveFrom_append (t rest : Text) : resolveFrom t.length (t ++ rest) = resolveFrom 0 rest := by
  induction t with
  | nil => rfl
  | cons c t ih => rw [List.length_cons, List.cons_append, resolveFrom, ih]

theorem spells_plain {c : CodePoint} (h : isPlain c = true) : Spells [c] [c] where
  isAscii d hd := by
    rw [List.mem_singleton.1 hd]
    simp only [isPlain, Bool.and_eq_true] at h
    exact h.1.1
  behindQuote := behindQuote?_plain (by simpa using h)
  resolve rest tail hRest := by
    have hBackslash : c ≠ '\\' := by
      simp only [isPlain, Bool.and_eq_true, bne_iff_ne] at h
      exact h.2
    simp only [List.singleton_append, resolveFrom, beq_eq_false_iff_ne.2 hBackslash,
      Bool.false_eq_true, if_false, hRest]
    rfl

/-- A backslash and what the escape behind it takes, which is plain after its first code point. -/
theorem spells_escape {d : CodePoint} {digits value : Text} (hFirst : d.within 0x20 0x7E = true)
    (hDigits : ∀ c ∈ digits, isPlain c = true)
    (hSingle : ∀ rest, single d (digits ++ rest) = .ok (value, digits.length + 1)) :
    Spells ('\\' :: d :: digits) value where
  isAscii c hc := by
    rcases List.mem_cons.1 hc with rfl | hc
    · decide
    · rcases List.mem_cons.1 hc with rfl | hc
      · exact hFirst
      · have hPlain := hDigits c hc
        simp only [isPlain, Bool.and_eq_true] at hPlain
        exact hPlain.1.1
  behindQuote rest := behindQuote?_plain hDigits rest
  resolve rest tail hRest := by
    simp only [List.cons_append, resolveFrom, beq_self_eq_true, if_true, hSingle, bind, Except.bind,
      resolveFrom_append, hRest]
    rfl

/-- The code points with an escape of one letter, and the letters. -/
def shortEscapes : List (CodePoint × Char) :=
  [('"', '"'), ('\\', '\\'), ('\n', 'n'), ('\r', 'r'), ('\t', 't'), (0x0C, 'f'), (0x08, 'b')]

theorem spells_short {c : CodePoint} {letter : Char} (h : (c, letter) ∈ shortEscapes) :
    Spells ['\\', CodePoint.ofChar letter] [c] := by
  have hAll : ∀ entry ∈ shortEscapes, (CodePoint.ofChar entry.2).within 0x20 0x7E = true ∧
      letterValue entry.2 = entry.1 ∧ CodePoint.ofChar entry.2 ≠ 'u' ∧
      CodePoint.ofChar entry.2 ≠ 'x' ∧ CodePoint.ofChar entry.2 ≠ '\r' := by decide
  obtain ⟨hAscii, hValue, hU, hX, hReturn⟩ := hAll _ h
  apply spells_escape hAscii (by simp)
  intro rest
  simp [single, beq_eq_false_iff_ne.2 hU, beq_eq_false_iff_ne.2 hX, beq_eq_false_iff_ne.2 hReturn,
    endsLine_of_within hAscii, hValue]

theorem isPlain_hexDigit {d : Nat} (h : d < 16) :
    isPlain (hexDigit d) = true ∧ hexDigit d ≠ '\x7b' := by
  have hAll : ∀ d : Fin 16, isPlain (hexDigit d) = true ∧
      hexDigit d ≠ '\x7b' := by decide
  exact hAll ⟨d, h⟩

theorem bracedHex?_hexPadded (width n : Nat) (rest : Text) :
    bracedHex? (hexPadded (width + 1) n ++ rest) = none := by
  obtain ⟨c, digits, hDigits⟩ : ∃ c digits, hexPadded (width + 1) n = c :: digits := by
    apply List.exists_cons_of_ne_nil
    intro hNil
    have hLength := length_hexPadded (width + 1) n
    rw [hNil] at hLength
    cases hLength
  obtain ⟨d, hd, rfl⟩ := mem_hexPadded (hDigits ▸ List.mem_cons_self)
  rw [hDigits, List.cons_append]
  simp [bracedHex?, beq_eq_false_iff_ne.2 (isPlain_hexDigit hd).2]

theorem spells_unitEscape {unit : CodePoint} (h : unit.val ≤ 0xFFFF) :
    Spells (unitEscape unit.val) [unit] := by
  have hValue (rest : Text) : (hexPadded 4 unit.val ++ rest).hexAtStart? 4 = some unit.val :=
    hexAtStart?_hexPadded (by omega) rest
  have hPlain : ∀ c ∈ hexPadded 4 unit.val, isPlain c = true := by
    intro c hc
    obtain ⟨d, hd, rfl⟩ := mem_hexPadded hc
    exact (isPlain_hexDigit hd).1
  have hPoint : Escape.codePoint unit.val = .ok unit := dif_pos unit.isLt
  have hLetter : (CodePoint.ofChar 'u').within 0x20 0x7E = true := by decide
  apply spells_escape hLetter hPlain
  intro rest
  simp only [single, beq_self_eq_true, if_true, bracedHex?_hexPadded, hValue, hPoint,
    length_hexPadded]
  rfl

/-! ## The whole literal -/

/-- What a code point is written as within a string. -/
theorem escape_eq (c : CodePoint) :
    (∃ letter, (c, letter) ∈ shortEscapes ∧
      escape c = [CodePoint.ofChar '\\', CodePoint.ofChar letter]) ∨
    isPlain c = true ∧ escape c = [c] ∨ escape c = (unitsOf c).flatMap unitEscape := by
  by_cases hShort : ∃ letter, (c, letter) ∈ shortEscapes
  · obtain ⟨letter, hLetter⟩ := hShort
    have hAll : ∀ entry ∈ shortEscapes,
        escape entry.1 = [CodePoint.ofChar '\\', CodePoint.ofChar entry.2] := by decide
    exact .inl ⟨letter, hLetter, hAll _ hLetter⟩
  · have hNe (entry : CodePoint × Char) (hEntry : entry ∈ shortEscapes) : c ≠ entry.1 := by
      rintro rfl
      exact hShort ⟨entry.2, hEntry⟩
    simp only [shortEscapes, List.forall_mem_cons] at hNe
    obtain ⟨hQuote, hBackslash, hFeed, hReturn, hTab, hForm, hBack, -⟩ := hNe
    have hForm' : c.val ≠ 0x0C := fun hEq => hForm (Fin.ext hEq)
    have hBack' : c.val ≠ 0x08 := fun hEq => hBack (Fin.ext hEq)
    by_cases hAscii : c.within 0x20 0x7E = true
    · refine .inr (.inl ⟨?_, ?_⟩)
      · simp [isPlain, hAscii, hQuote, hBackslash]
      · simp [escape, hQuote, hBackslash, hFeed, hReturn, hTab, hForm', hBack', hAscii]
    · refine .inr (.inr ?_)
      simp [escape, hQuote, hBackslash, hFeed, hReturn, hTab, hForm', hBack', hAscii]

/-- The escape of a code point stands for its UTF-16 form. -/
theorem exists_spells_escape (c : CodePoint) :
    ∃ units, Spells (escape c) units ∧
      ∀ {rest tail}, Text.Utf16 rest tail → Text.Utf16 (c :: rest) (units ++ tail) := by
  rcases escape_eq c with ⟨letter, hLetter, hEscape⟩ | ⟨hPlain, hEscape⟩ | hEscape
  · have hAll : ∀ entry ∈ shortEscapes, entry.1.val ≤ 0xFFFF := by decide
    exact ⟨[c], hEscape ▸ spells_short hLetter, .unit (hAll _ hLetter)⟩
  · have hBound : c.val ≤ 0xFFFF := by
      simp [isPlain, CodePoint.within] at hPlain
      omega
    exact ⟨[c], hEscape ▸ spells_plain hPlain, .unit hBound⟩
  · have hLimit := c.isLt
    by_cases hBasic : c.val < 0x10000
    · have hUnit : escape c = unitEscape c.val := by simp [hEscape, unitsOf, hBasic]
      exact ⟨[c], hUnit ▸ spells_unitEscape (by omega), .unit (by omega)⟩
    · let high : CodePoint := ⟨0xD800 + (c.val - 0x10000) / 0x400, by omega⟩
      let low : CodePoint := ⟨0xDC00 + (c.val - 0x10000) % 0x400, by omega⟩
      have hHigh : high.val = 0xD800 + (c.val - 0x10000) / 0x400 := rfl
      have hLow : low.val = 0xDC00 + (c.val - 0x10000) % 0x400 := rfl
      have hUnits : escape c = unitEscape high.val ++ unitEscape low.val := by
        simp [hEscape, unitsOf, hBasic, hHigh, hLow]
      refine ⟨[high] ++ [low], ?_, .pair ?_ ?_ ?_⟩
      · rw [hUnits]
        exact (spells_unitEscape (by omega)).append (spells_unitEscape (by omega))
      · omega
      · simp [CodePoint.within]
        omega
      · simp [CodePoint.within]
        omega

/-- What is written between the quotes stands for the UTF-16 form of the text. -/
theorem exists_spells_flatMap (s : Text) :
    ∃ units, Spells (s.flatMap escape) units ∧ Text.Utf16 s units := by
  induction s with
  | nil => exact ⟨[], .nil, .nil⟩
  | cons c s ih =>
    obtain ⟨units, hUnits, hForm⟩ := exists_spells_escape c
    obtain ⟨others, hOthers, hRest⟩ := ih
    exact ⟨units ++ others, hUnits.append hOthers, hForm hRest⟩

end Json

namespace Observe

/-- What stands before the expression in the text that evaluates it. -/
def beforeExpression : Text :=
  "(function () \x7b\n" ++ ("  try \x7b\n" ++ "    var value = (0, eval)(")

/-- What stands behind the expression. -/
def behindExpression : Text :=
  ");\n" ++ ("    var text = JSON.stringify(value);\n"
    ++ ("    return JSON.stringify(\x7bok: true, value: "
    ++ ("text === undefined ? String(value) : text\x7d);\n"
    ++ ("  \x7d catch (e) \x7b\n"
    ++ ("    return JSON.stringify(\x7bok: false, value: String(e)\x7d);\n"
    ++ ("  \x7d\n" ++ "\x7d)()"))))))

theorem harness_text (s : Text) :
    harness (.text s) = beforeExpression ++ Json.quote s ++ behindExpression := by
  have hText : Json.compact (.text s) = Json.quote s := rfl
  simp only [harness, hText, beforeExpression, behindExpression, List.append_assoc]

end Observe

namespace Json

open Escape Text

/-- A string literal without a spelling of its own is one line of ASCII between two quotes, the second
of which is where the literal ends, and what stands between them is read as the UTF-16 form of the
text. The text that evaluates an expression has it as such a literal, behind a part in which no other
literal or comment starts. -/
theorem quote_reads_back (s : Text) :
    ∃ body units : Text,
      (∀ span, (Build.stringLiteral (.text s) span).print = .ok ("\"" ++ body ++ "\"")) ∧
      (∀ c ∈ body, c.val < 0x80 ∧ endsLine c = false) ∧
      (∀ rest, behindQuote? false (body ++ "\"" ++ rest) = some rest) ∧
      Escape.resolve body = .ok units ∧ s.Utf16 units ∧
      Observe.harness (.text s) =
        Observe.beforeExpression ++ ("\"" ++ body ++ "\"") ++ Observe.behindExpression ∧
      (∀ c ∈ Observe.beforeExpression, c ∉ Text.ofString "\"'`/") := by
  obtain ⟨units, hSpells, hForm⟩ := exists_spells_flatMap s
  refine ⟨s.flatMap escape, units, fun _ => rfl, ?_, ?_, ?_, hForm, Observe.harness_text s, ?_⟩
  · intro c hc
    have hAscii := hSpells.isAscii c hc
    refine ⟨?_, endsLine_of_within hAscii⟩
    simp [CodePoint.within] at hAscii
    omega
  · intro rest
    rw [List.append_assoc, hSpells.behindQuote]
    rfl
  · have hResolve := hSpells.resolve [] [] rfl
    rwa [List.append_nil, List.append_nil] at hResolve
  · intro c hc hMember
    have hAll : (Observe.beforeExpression.all fun c => !(Text.ofString "\"'`/").contains c) = true := by
      decide
    have hHere := List.all_eq_true.1 hAll c hc
    rw [List.contains_iff_mem.2 hMember] at hHere
    cases hHere

end Json

end Assay
