import Assay.Concrete.Escape
import Assay.Data.Numeral
import Assay.Proofs.Outcome
import Mathlib.Algebra.Group.Nat.Defs
import Mathlib.Data.List.Infix
import Mathlib.Data.List.TakeWhile

/-!
# Where the value of a token is missing

Two readers of tokens may fail. An escape in braces may have a number that is no code point, and
every other escape names one (`Escape.oversized_of_resolve`). A numeral that is written as the
language has it has a value, unless it is a decimal that ends in `n` and has a leading zero or too
many digits (`Numeral.read_of_isNumeral`).
-/

set_option autoImplicit false

namespace Assay

/-! ## Escapes -/

variable {t digits : Text} {value : Nat} {c : CodePoint}

namespace Text

/-- The value of hexadecimal digits is bounded by their number. -/
theorem hexValue?_lt (h : digits.hexValue? = some value) : value < 16 ^ digits.length := by
  have hDigit (c : CodePoint) (d : Nat) (hd : c.hexValue? = some d) : d < 16 := by
    unfold CodePoint.hexValue? at hd
    simp only [CodePoint.isDigit, CodePoint.within, Bool.and_eq_true, decide_eq_true_eq] at hd
    split_ifs at hd <;> cases hd <;> omega
  have hFold (start : Nat) (rest : Text) (total : Nat)
      (hTotal : rest.foldlM (fun n c => c.hexValue?.map (16 * n + ·)) start = some total) :
      total < (start + 1) * 16 ^ rest.length := by
    induction rest generalizing start with
    | nil =>
      simp only [List.foldlM_nil, Option.pure_def, Option.some.injEq] at hTotal
      simp [hTotal]
    | cons c rest ih =>
      simp only [List.foldlM_cons, Option.bind_eq_bind, Option.bind_eq_some_iff,
        Option.map_eq_some_iff] at hTotal
      obtain ⟨next, ⟨d, hd, rfl⟩, hRest⟩ := hTotal
      have hBound := ih _ hRest
      have hd := hDigit c d hd
      calc total < (16 * start + d + 1) * 16 ^ rest.length := hBound
        _ ≤ ((start + 1) * 16) * 16 ^ rest.length := Nat.mul_le_mul_right _ (by omega)
        _ = (start + 1) * 16 ^ (c :: rest).length := by
          rw [List.length_cons, Nat.pow_succ, Nat.mul_assoc, Nat.mul_comm 16]
  simpa using hFold 0 digits value h

end Text

namespace Escape

variable {failure : Failure}

/-- The text has an escape in braces whose number is no code point, and fails because of it. -/
def Oversized (t : Text) (failure : Failure) : Prop :=
  ∃ (digits : Text) (value : Nat), ("\\u\x7b" : Text) ++ digits ++ ("\x7d" : Text) <:+: t ∧
    digits.hexValue? = some value ∧ 0x110000 ≤ value ∧
      failure = if value < 0x80000000 then .notCodePoint else .notWord

theorem Oversized.mono {s : Text} (h : Oversized s failure) (hst : s <:+: t) :
    Oversized t failure := by
  obtain ⟨digits, value, hInfix, hRest⟩ := h
  exact ⟨digits, value, hInfix.trans hst, hRest⟩

theorem codePoint_eq_error {n : Nat} (h : codePoint n = .error failure) :
    0x110000 ≤ n ∧ failure = if n < 0x80000000 then .notCodePoint else .notWord := by
  unfold codePoint at h
  split_ifs at h with hSmall hWord
  · cases h
    exact ⟨by omega, by simp [hWord]⟩
  · cases h
    exact ⟨by omega, by simp [hWord]⟩

/-- A fixed number of digits names a code point. -/
theorem codePoint_of_hexAtStart? {count : Nat} (hCount : count ≤ 5)
    (h : t.hexAtStart? count = some value) : ∃ c, codePoint value = .ok c := by
  unfold Text.hexAtStart? at h
  dsimp only at h
  split_ifs at h with hLength
  have hValue := Text.hexValue?_lt h
  rw [hLength] at hValue
  have hPower : (16 : Nat) ^ count ≤ 16 ^ 5 := Nat.pow_le_pow_right (by omega) hCount
  have hSmall : value < 0x110000 := by omega
  exact ⟨⟨value, hSmall⟩, by simp [codePoint, hSmall]⟩

/-- An escape in braces is there as it was read. -/
theorem eq_of_bracedHex? {length : Nat} (h : bracedHex? t = some (value, length)) :
    ∃ (digits rest : Text), t = ("\x7b" : Text) ++ digits ++ ("\x7d" : Text) ++ rest ∧
      digits.hexValue? = some value := by
  cases t with
  | nil => simp [bracedHex?] at h
  | cons c rest =>
    obtain ⟨tail, hTail⟩ :=
      List.takeWhile_prefix (fun d : CodePoint => d.hexValue?.isSome) (l := rest)
    simp only [bracedHex?] at h
    split_ifs at h with hBraces
    simp only [Bool.and_eq_true, beq_iff_eq] at hBraces
    obtain ⟨⟨hOpen, -⟩, hClose⟩ := hBraces
    simp only [Option.map_eq_some_iff, Prod.mk.injEq] at h
    obtain ⟨found, hFound, rfl, -⟩ := h
    generalize rest.takeWhile _ = digits at hTail hClose hFound
    subst hTail
    rw [List.drop_left] at hClose
    cases tail with
    | nil => simp at hClose
    | cons d after =>
      have hClose : d = '\x7d' := Option.some.inj hClose
      subst hOpen hClose
      exact ⟨digits, after, by simp [Text.ofString], hFound⟩

/-- An escape fails only if it is one in braces. -/
theorem oversized_of_single {rest : Text} (h : single c rest = .error failure) :
    Oversized ('\\' :: c :: rest) failure := by
  unfold single at h
  split_ifs at h with hUnicode hByte
  · split at h
    · rename_i value length hBraced
      obtain ⟨digits, after, hRest, hValue⟩ := eq_of_bracedHex? hBraced
      cases hPoint : codePoint value with
      | ok point => simp [hPoint] at h
      | error cause =>
        obtain ⟨hLarge, hCause⟩ := codePoint_eq_error hPoint
        have hSame : cause = failure := by simpa [hPoint] using h
        subst hSame
        simp only [beq_iff_eq] at hUnicode
        refine ⟨digits, value, ⟨[], after, ?_⟩, hValue, hLarge, hCause⟩
        simp [hRest, hUnicode, Text.ofString]
    · rename_i value _ hDigits
      obtain ⟨point, hPoint⟩ := codePoint_of_hexAtStart? (by omega) hDigits
      simp [hPoint] at h
    · cases h
  · split at h
    · rename_i value hDigits
      obtain ⟨point, hPoint⟩ := codePoint_of_hexAtStart? (by omega) hDigits
      simp [hPoint] at h
    · cases h

/-- A text fails only if it has an escape whose number is no code point. -/
theorem oversized_of_resolve {body : Text} (h : resolve body = .error failure) :
    Oversized body failure := by
  have hFrom (skip : Nat) (t : Text) (hError : resolveFrom skip t = .error failure) :
      Oversized t failure := by
    fun_induction resolveFrom skip t with
    | case1 => cases hError
    | case2 skip c rest ih => exact (ih hError).mono (List.suffix_cons c rest).isInfix
    | case3 => cases hError
    | case4 c hEscape d after ih =>
      have hBackslash : c = '\\' := by simpa using hEscape
      cases hSingle : single d after with
      | error cause =>
        have hSame : cause = failure := by simpa [hSingle] using hError
        exact hBackslash ▸ oversized_of_single (hSame ▸ hSingle)
      | ok found =>
        cases hRest : resolveFrom found.2 (d :: after) with
        | error cause =>
          have hSame : cause = failure := by simpa [hSingle, hRest] using hError
          exact (ih _ (hSame ▸ hRest)).mono (List.suffix_cons c _).isInfix
        | ok text => simp [hSingle, hRest] at hError
    | case5 c rest hPlain ih =>
      cases hRest : resolveFrom 0 rest with
      | error cause =>
        have hSame : cause = failure := by simpa [hRest] using hError
        exact (ih (hSame ▸ hRest)).mono (List.suffix_cons c rest).isInfix
      | ok text => simp [hRest] at hError
  exact hFrom 0 body h

end Escape

/-! ## Numerals -/

namespace Numeral

variable {base : Nat}

/-- One or more digits in a base. -/
def areDigits (base : Nat) (t : Text) : Bool :=
  !t.isEmpty && t.all fun c => (digitIn? base c).isSome

/-- A whole number, in decimal or in the base that is named after a leading zero. -/
def isWhole (t : Text) : Bool := areDigits (baseAndDigits t).1 (baseAndDigits t).2.2

/-- An exponent, or nothing. -/
def isExponent : Text → Bool
  | [] => true
  | c :: rest => (c == 'e' || c == 'E') && areDigits 10 (signOf rest).2

/-- A decimal number, which may have a fraction and an exponent. -/
def isDecimal (t : Text) : Bool :=
  let before := t.takeWhile CodePoint.isDigit
  match t.dropWhile CodePoint.isDigit with
  | [] => !before.isEmpty
  | c :: rest =>
    if c == '.' then
      !(before.isEmpty && (rest.takeWhile CodePoint.isDigit).isEmpty) &&
        isExponent (rest.dropWhile CodePoint.isDigit)
    else !before.isEmpty && isExponent (c :: rest)

/-- Whether a numeral is written as the language has it. The digits may be of any script, and
underscores may stand among them. -/
def isNumeral (raw : Text) : Bool :=
  let text := raw.filter fun (c : CodePoint) => c != '_'
  if text.getLast? == some 'n' then isWhole (text.dropLast.map toAscii)
  else isWhole (text.map toAscii) || isDecimal (text.map toAscii)

/-- A decimal that ends in `n` has no value if it has too many digits, or a leading zero without
being zero. -/
def Unreadable (raw : Text) (failure : Failure) : Prop :=
  ∃ digits : Text, raw.filter (fun (c : CodePoint) => c != '_') = digits ++ ("n" : Text) ∧
    areDigits 10 (digits.map toAscii) = true ∧
      (Data.digitLimit < digits.length ∧ failure = .tooManyDigits digits.length ∨
        digits.length ≤ Data.digitLimit ∧
          (digits.map toAscii).head? = some (CodePoint.ofChar '0') ∧
            (∃ c ∈ digits.map toAscii, c ≠ '0') ∧ failure = .notWhole digits)

theorem isSome_digitIn?_ten (c : CodePoint) : (digitIn? 10 c).isSome = c.isDigit := by
  unfold digitIn? CodePoint.hexValue?
  cases hDigit : c.isDigit with
  | true =>
    simp only [CodePoint.isDigit, CodePoint.within, Bool.and_eq_true, decide_eq_true_eq] at hDigit
    simp [Option.filter]
    omega
  | false => split_ifs <;> simp [Option.filter] at *

/-- Digits are no white space. -/
theorem isMargin_of_digitIn? (h : (digitIn? base c).isSome = true) : isMargin c = false := by
  have hValue : c.hexValue?.isSome = true := by
    unfold digitIn? at h
    cases hHex : c.hexValue? with
    | none => simp [hHex] at h
    | some d => rfl
  by_contra hMargin
  have hLow : c.val ≤ 0x20 := by
    simp only [isMargin, CodePoint.within, Bool.not_eq_false, Bool.or_eq_true, Bool.and_eq_true,
      decide_eq_true_eq, beq_iff_eq] at hMargin
    rcases hMargin with hMargin | rfl
    · omega
    · decide
  simp only [CodePoint.hexValue?, CodePoint.isDigit, CodePoint.within, Bool.and_eq_true,
    decide_eq_true_eq] at hValue
  split_ifs at hValue <;> first | omega | simp at hValue

/-- A numeral without white space is only turned into ASCII. -/
theorem normalize_eq (h : ∀ c ∈ t.map toAscii, isMargin c = false) :
    normalize t = t.map toAscii := by
  have hDrop (u : Text) (hu : ∀ c ∈ u, isMargin c = false) : u.dropWhile isMargin = u := by
    cases u with
    | nil => rfl
    | cons c rest => simp [hu c List.mem_cons_self]
  unfold normalize
  dsimp only
  rw [hDrop _ h, hDrop _ (fun c hc => h c (List.mem_reverse.1 hc)), List.reverse_reverse]

theorem areDigits_iff :
    areDigits base t = true ↔ t ≠ [] ∧ ∀ c ∈ t, (digitIn? base c).isSome = true := by
  simp [areDigits]

/-- The parts of a whole number: all of it in decimal, or what follows the name of the base. -/
theorem baseAndDigits_cases (t : Text) :
    baseAndDigits t = (10, t.head? == some (CodePoint.ofChar '0') && 1 < t.length, t) ∨
      ∃ (letter : CodePoint) (base : Nat) (digits : Text),
        t = CodePoint.ofChar '0' :: letter :: digits ∧ baseOf? letter = some base ∧
          baseAndDigits t = (base, false, digits) := by
  unfold baseAndDigits
  split
  · rename_i c letter digits
    by_cases hZero : c = '0'
    · subst hZero
      cases hBase : baseOf? letter with
      | some base => exact .inr ⟨letter, base, digits, rfl, hBase, by simp⟩
      | none => exact .inl (by simp)
    · exact .inl (by simp [hZero])
  · rename_i hShort
    left
    cases t with
    | nil => rfl
    | cons c rest =>
      cases rest with
      | nil => simp
      | cons letter digits => exact absurd rfl (hShort c letter digits)

/-- The bases that a letter names are no ten, and the letter is no white space. -/
theorem of_baseOf? {letter : CodePoint} (h : baseOf? letter = some base) :
    base ≠ 10 ∧ isMargin letter = false := by
  unfold baseOf? at h
  simp only [Bool.or_eq_true, beq_iff_eq] at h
  split_ifs at h with hHex hOctal hBinary
  · cases h
    exact ⟨by decide, by rcases hHex with rfl | rfl <;> decide⟩
  · cases h
    exact ⟨by decide, by rcases hOctal with rfl | rfl <;> decide⟩
  · cases h
    exact ⟨by decide, by rcases hBinary with rfl | rfl <;> decide⟩

/-- A whole number has no sign and no white space. -/
theorem plain_of_isWhole (h : isWhole t = true) :
    (∀ c ∈ t, isMargin c = false) ∧ signOf t = (false, t) := by
  have hSign (c : CodePoint) (rest : Text) (hc : c.isDigit = true) :
      signOf (c :: rest) = (false, c :: rest) := by
    have hMinus : c ≠ '-' := by rintro rfl; exact absurd hc (by decide)
    have hPlus : c ≠ '+' := by rintro rfl; exact absurd hc (by decide)
    simp [signOf, hMinus, hPlus]
  unfold isWhole at h
  rcases baseAndDigits_cases t with hTen | ⟨letter, base, digits, hText, hBase, hOther⟩
  · simp only [hTen, areDigits_iff] at h
    refine ⟨fun c hc => isMargin_of_digitIn? (h.2 c hc), ?_⟩
    cases t with
    | nil => exact absurd rfl h.1
    | cons c rest => exact hSign c rest ((isSome_digitIn?_ten c).symm.trans (h.2 c List.mem_cons_self))
  · simp only [hOther, areDigits_iff] at h
    subst hText
    refine ⟨?_, hSign _ _ (by decide)⟩
    simp only [List.mem_cons, forall_eq_or_imp]
    exact ⟨by decide, (of_baseOf? hBase).2, fun c hc => isMargin_of_digitIn? (h.2 c hc)⟩

/-- The value of digits in a base. -/
def valueIn (base : Nat) (digits : Text) : Nat :=
  digits.foldl (fun n c => base * n + (digitIn? base c).getD 0) 0

/-- Zeros have the value zero. -/
theorem valueIn_eq_zero (h : ∀ c ∈ digits, c = '0') : valueIn 10 digits = 0 := by
  unfold valueIn
  induction digits with
  | nil => rfl
  | cons c rest ih =>
    have hZero : (digitIn? 10 c).getD 0 = 0 := by
      rw [h c List.mem_cons_self]
      rfl
    simpa [hZero] using ih (List.forall_mem_cons.1 h).2

/-- The value of a whole number from its parts. -/
theorem whole_eq {onlyZero : Bool} (hText : isWhole (t.map toAscii) = true)
    (hParts : baseAndDigits (t.map toAscii) = (base, onlyZero, digits)) :
    whole t =
      if base = 10 ∧ Data.digitLimit < digits.length then .error (.tooManyDigits digits.length)
      else if onlyZero = true ∧ valueIn base digits ≠ 0 then .error (.notWhole t)
      else .ok (valueIn base digits) := by
  obtain ⟨hMargin, hSign⟩ := plain_of_isWhole hText
  have hDigits : areDigits base digits = true := by simpa [isWhole, hParts] using hText
  have hFull : digits.isEmpty = false := by simpa using (areDigits_iff.1 hDigits).1
  have hRun : (digits.takeWhile fun c => (digitIn? base c).isSome) = digits :=
    List.takeWhile_eq_self_iff.2 (areDigits_iff.1 hDigits).2
  unfold whole valueIn
  rw [normalize_eq hMargin, hSign]
  dsimp only
  rw [hParts]
  simp only [hRun, hFull, Nat.lt_irrefl, decide_false, Bool.false_or, Bool.and_eq_true,
    decide_eq_true_eq, bne_iff_ne, Bool.false_eq_true, if_false]
  split_ifs <;> rfl

/-- A whole number has a value, unless it is a decimal with too many digits or a leading zero. -/
theorem whole_of_isWhole (h : isWhole (t.map toAscii) = true) :
    (∃ value, whole t = .ok value) ∨
      areDigits 10 (t.map toAscii) = true ∧
        (Data.digitLimit < t.length ∧ whole t = .error (.tooManyDigits t.length) ∨
          t.length ≤ Data.digitLimit ∧
            (t.map toAscii).head? = some (CodePoint.ofChar '0') ∧
              (∃ c ∈ t.map toAscii, c ≠ '0') ∧ whole t = .error (.notWhole t)) := by
  rcases baseAndDigits_cases (t.map toAscii) with hTen | ⟨letter, base, digits, -, hBase, hOther⟩
  · have hDigits : areDigits 10 (t.map toAscii) = true := by simpa [isWhole, hTen] using h
    have hWhole := whole_eq h hTen
    simp only [true_and, List.length_map, Bool.and_eq_true, beq_iff_eq, decide_eq_true_eq] at hWhole
    split_ifs at hWhole with hLong hZero
    · exact .inr ⟨hDigits, .inl ⟨hLong, hWhole⟩⟩
    · refine .inr ⟨hDigits, .inr ⟨Nat.le_of_not_lt hLong, hZero.1.1, ?_, hWhole⟩⟩
      by_contra hAll
      exact hZero.2 (valueIn_eq_zero (by simpa using hAll))
    · exact .inl ⟨_, hWhole⟩
  · have hWhole := whole_eq h hOther
    simp only [(of_baseOf? hBase).1, false_and, if_false, Bool.false_eq_true] at hWhole
    exact .inl ⟨_, hWhole⟩

theorem areDigits_ten_iff : areDigits 10 t = true ↔ t ≠ [] ∧ ∀ c ∈ t, c.isDigit = true := by
  simp only [areDigits_iff, isSome_digitIn?_ten]

theorem isMargin_of_isDigit (h : c.isDigit = true) : isMargin c = false :=
  isMargin_of_digitIn? ((isSome_digitIn?_ten c).trans h)

/-- What is left of a text behind its sign. -/
theorem eq_of_signOf (t : Text) :
    t = (signOf t).2 ∨ ∃ c : CodePoint, t = c :: (signOf t).2 ∧ isMargin c = false := by
  unfold signOf
  split
  · rename_i c rest
    split_ifs with hMinus hPlus
    · exact .inr ⟨c, rfl, by rw [beq_iff_eq.1 hMinus]; decide⟩
    · exact .inr ⟨c, rfl, by rw [beq_iff_eq.1 hPlus]; decide⟩
    · exact .inl rfl
  · exact .inl rfl

/-- An exponent has a value and no white space. -/
theorem of_isExponent (h : isExponent t = true) :
    (∀ c ∈ t, isMargin c = false) ∧ (exponent? t).isSome = true := by
  cases t with
  | nil => simp [exponent?]
  | cons c rest =>
    simp only [isExponent, Bool.and_eq_true, areDigits_ten_iff] at h
    obtain ⟨hLetter, hFull, hDigits⟩ := h
    have hMargin : ∀ d ∈ (signOf rest).2, isMargin d = false := fun d hd =>
      isMargin_of_isDigit (hDigits d hd)
    constructor
    · have hc : isMargin c = false := by
        simp only [Bool.or_eq_true, beq_iff_eq] at hLetter
        rcases hLetter with rfl | rfl <;> decide
      rcases eq_of_signOf rest with hRest | ⟨sign, hRest, hSign⟩
      · rw [hRest]
        simpa [hc] using hMargin
      · rw [hRest]
        simpa [hc, hSign] using hMargin
    · have hAll : (signOf rest).2.all CodePoint.isDigit = true := by simpa using hDigits
      simp [exponent?, hLetter, hFull, hAll]

/-- A decimal number has no white space. -/
theorem isMargin_of_isDecimal (h : isDecimal t = true) : ∀ c ∈ t, isMargin c = false := by
  have hDigits (u : Text) : ∀ c ∈ u.takeWhile CodePoint.isDigit, isMargin c = false := fun c hc =>
    isMargin_of_isDigit (List.mem_takeWhile_imp hc)
  have hJoin (u v : Text) (hu : ∀ c ∈ u, isMargin c = false) (hv : ∀ c ∈ v, isMargin c = false) :
      ∀ c ∈ u ++ v, isMargin c = false := by
    simp only [List.mem_append]
    rintro c (hc | hc)
    · exact hu c hc
    · exact hv c hc
  unfold isDecimal at h
  rw [← List.takeWhile_append_dropWhile (p := CodePoint.isDigit) (l := t)]
  refine hJoin _ _ (hDigits t) ?_
  cases hTail : t.dropWhile CodePoint.isDigit with
  | nil => simp
  | cons c rest =>
    simp only [hTail] at h
    split_ifs at h with hPoint
    · simp only [Bool.and_eq_true] at h
      have hRest : ∀ d ∈ rest, isMargin d = false := by
        rw [← List.takeWhile_append_dropWhile (p := CodePoint.isDigit) (l := rest)]
        exact hJoin _ _ (hDigits rest) (of_isExponent h.2).1
      rw [beq_iff_eq.1 hPoint]
      simpa using ⟨by decide, hRest⟩
    · simp only [Bool.and_eq_true] at h
      exact (of_isExponent h.2).1

/-- A decimal number has no sign. -/
theorem signOf_of_isDecimal (h : isDecimal t = true) : signOf t = (false, t) := by
  cases t with
  | nil => rfl
  | cons c rest =>
    have hPlain (mark : CodePoint) (hDigit : mark.isDigit = false) (hPoint : mark ≠ '.') :
        c ≠ mark := by
      rintro rfl
      simp [isDecimal, hDigit, hPoint] at h
    simp [signOf, hPlain '-' (by decide) (by decide), hPlain '+' (by decide) (by decide)]

/-- A decimal number has a value as a float. -/
theorem isSome_float? (h : isDecimal t = true) : (float? t).isSome = true := by
  unfold float?
  rw [signOf_of_isDecimal h]
  unfold isDecimal at h
  dsimp only at h ⊢
  split
  · rfl
  split
  · rfl
  cases hTail : t.dropWhile CodePoint.isDigit with
  | nil =>
    simp only [hTail, Bool.not_eq_true'] at h
    simp [h, exponent?]
  | cons c rest =>
    have hHead : ((c :: rest).head? == do pure (CodePoint.ofChar (← some '.'))) =
        (c == '.') := rfl
    simp only [hTail] at h
    simp only [hHead, List.drop_one, List.tail_cons]
    split_ifs at h with hPoint
    · simp only [Bool.and_eq_true, Bool.not_eq_true'] at h
      simp [hPoint, h.1, (of_isExponent h.2).2]
    · simp only [Bool.and_eq_true, Bool.not_eq_true'] at h
      simp [hPoint, h.1, (of_isExponent h.2).2]

/-- Decimal digits are a decimal number. -/
theorem isDecimal_of_areDigits (h : areDigits 10 t = true) : isDecimal t = true := by
  obtain ⟨hFull, hDigits⟩ := areDigits_ten_iff.1 h
  have hDrop : t.dropWhile CodePoint.isDigit = [] := List.dropWhile_eq_nil_iff.2 hDigits
  have hTake : t.takeWhile CodePoint.isDigit = t := List.takeWhile_eq_self_iff.2 hDigits
  simp [isDecimal, hDrop, hTake, hFull]

/-- A numeral has a value, unless it ends in `n` and is unreadable. -/
theorem read_of_isNumeral {raw : Text} (h : isNumeral raw = true) :
    (∃ value, read raw = .ok value) ∨
      ∃ failure, read raw = .error failure ∧ Unreadable raw failure := by
  unfold isNumeral at h
  unfold read
  dsimp only at h ⊢
  split_ifs at h ⊢ with hBig
  · have hLast : (raw.filter fun (c : CodePoint) => c != '_').getLast? =
        some 'n' := beq_iff_eq.1 hBig
    obtain ⟨digits, hText⟩ := List.getLast?_eq_some_iff.1 hLast
    rw [hText, List.dropLast_concat] at h ⊢
    rcases whole_of_isWhole h with ⟨value, hValue⟩ | ⟨hDigits, hFailure⟩
    · exact .inl ⟨.int value, by simp [hValue, Except.map]⟩
    · right
      rcases hFailure with ⟨hLong, hWhole⟩ | ⟨hShort, hHead, hSome, hWhole⟩
      · exact ⟨_, by simp [hWhole, Except.map], digits, hText, hDigits, .inl ⟨hLong, rfl⟩⟩
      · exact ⟨_, by simp [hWhole, Except.map], digits, hText, hDigits,
          .inr ⟨hShort, hHead, hSome, rfl⟩⟩
  · left
    cases hWhole : whole (raw.filter fun (c : CodePoint) => c != '_') with
    | ok value => exact ⟨_, rfl⟩
    | error failure =>
      have hDecimal : isDecimal ((raw.filter fun (c : CodePoint) => c != '_').map toAscii) = true := by
        simp only [Bool.or_eq_true] at h
        rcases h with h | h
        · rcases whole_of_isWhole h with ⟨value, hValue⟩ | ⟨hDigits, -⟩
          · simp [hValue] at hWhole
          · exact isDecimal_of_areDigits hDigits
        · exact h
      obtain ⟨value, hValue⟩ := Option.isSome_iff_exists.1 (isSome_float? hDecimal)
      exact ⟨.float value, by simp [normalize_eq (isMargin_of_isDecimal hDecimal), hValue]⟩

end Numeral

end Assay
