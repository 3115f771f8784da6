import Assay.Text.Basic
import Mathlib.Data.Bool.Basic
import Mathlib.Tactic.ByContra
import Mathlib.Tactic.SplitIfs

/-!
# Input elements and longest match

The lexical grammar of ECMAScript 2022 where a division may follow and a regular expression may
not. A text is split into elements from the left, each as long as possible; blanks and comments
are passed over and the other elements are tokens (`Scans`). Strings, templates and private names
are left out: they start with code points that start none of the elements here, so they compete
with none of them. A text has at most one list of tokens (`Scans.unique`).

What a token is depends on what follows it, so texts are put together by `Reads`: a text gives its
tokens in front of every rest that starts with one of the given code points.
-/

set_option autoImplicit false

namespace Assay.Grammar

variable {text value rest : Text} {c : CodePoint} {isDigit : CodePoint → Bool}

/-- The ends of lines. -/
def isLineEnd (c : CodePoint) : Bool :=
  c.val == 0x0A || c.val == 0x0D || c.within 0x2028 0x2029

/-- White space and the ends of lines. -/
def isSpace (c : CodePoint) : Bool :=
  isLineEnd c || c.val == 0x09 || c.within 0x0B 0x0C || c.val == 0x20 || c.val == 0xA0 ||
    c.val == 0x1680 || c.within 0x2000 0x200A || c.val == 0x202F || c.val == 0x205F ||
    c.val == 0x3000 || c.val == 0xFEFF

/-- The properties of code points beyond ASCII that names depend on. -/
structure Alphabet where
  /-- Whether a code point may start a name. -/
  start : CodePoint → Bool
  /-- No white space starts a name. -/
  start_isSpace : ∀ c, start c = true → isSpace c = false
  /-- Whether a code point may continue a name. -/
  part : CodePoint → Bool

namespace Alphabet

/-- The alphabet without code points beyond ASCII. -/
def ascii : Alphabet := ⟨fun _ => false, fun _ h => Bool.noConfusion h, fun _ => false⟩

variable (alphabet : Alphabet)

/-- What may start a name. -/
def isStart (c : CodePoint) : Bool :=
  c.isAsciiLetter || c == '$' || c == '_' || (128 ≤ c.val && alphabet.start c)

/-- What may continue a name; the two joiners may. -/
def isPart (c : CodePoint) : Bool :=
  alphabet.isStart c || c.isDigit || c.within 0x200C 0x200D || (128 ≤ c.val && alphabet.part c)

end Alphabet

/-! ## Names -/

/-- An escape in a name: four hexadecimal digits, or any number of them between braces. -/
inductive Escape : Text → CodePoint → Prop
  | four {digits : Text} {c : CodePoint} :
      digits.length = 4 → digits.hexValue? = some c.val → Escape ("\\u" ++ digits) c
  | braced {digits : Text} {c : CodePoint} :
      digits ≠ [] → digits.hexValue? = some c.val → Escape ("\\u\x7b" ++ digits ++ "\x7d") c

/-- The end of a name and what it stands for. -/
inductive NameRest (alphabet : Alphabet) : Text → Text → Prop
  | done : NameRest alphabet [] []
  | part {c : CodePoint} {text value : Text} : alphabet.isPart c = true →
      NameRest alphabet text value → NameRest alphabet (c :: text) (c :: value)
  | escape {c : CodePoint} {spelling text value : Text} : Escape spelling c →
      alphabet.isPart c = true → NameRest alphabet text value →
      NameRest alphabet (spelling ++ text) (c :: value)

/-- A name and what it stands for. -/
inductive Name (alphabet : Alphabet) : Text → Text → Prop
  | start {c : CodePoint} {text value : Text} : alphabet.isStart c = true →
      NameRest alphabet text value → Name alphabet (c :: text) (c :: value)
  | escape {c : CodePoint} {spelling text value : Text} : Escape spelling c →
      alphabet.isStart c = true → NameRest alphabet text value →
      Name alphabet (spelling ++ text) (c :: value)

/-! ## Numbers -/

/-- Digits, with single separators between them. -/
inductive Digits (isDigit : CodePoint → Bool) : Text → Prop
  | last {c : CodePoint} : isDigit c = true → Digits isDigit [c]
  | next {c : CodePoint} {text : Text} : isDigit c = true → Digits isDigit text →
      Digits isDigit (c :: text)
  | separated {c : CodePoint} {text : Text} : isDigit c = true → Digits isDigit text →
      Digits isDigit (c :: '_' :: text)

/-- A whole number in decimal without leading zeros. -/
inductive Whole : Text → Prop
  | zero : Whole "0"
  | digits {c : CodePoint} {text : Text} : c ≠ '0' → Digits CodePoint.isDigit (c :: text) →
      Whole (c :: text)

/-- The part of a number behind its point, which may be empty. -/
inductive Fraction : Text → Prop
  | none : Fraction []
  | point : Fraction "."
  | digits {text : Text} : Digits CodePoint.isDigit text → Fraction ("." ++ text)

/-- The power of ten at the end of a number, which may be absent. -/
inductive Exponent : Text → Prop
  | none : Exponent []
  | power {sign digits : Text} {c : CodePoint} : c = 'e' ∨ c = 'E' →
      sign = [] ∨ sign = "+" ∨ sign = "-" → Digits CodePoint.isDigit digits →
      Exponent (c :: sign ++ digits)

/-- The letters that name a base, with the digits of the base. -/
def bases : List (String × (CodePoint → Bool)) :=
  [("xX", fun c => c.hexValue?.isSome), ("oO", (·.within 0x30 0x37)), ("bB", (·.within 0x30 0x31))]

/-- The spelling of a number. -/
inductive Number : Text → Prop
  | decimal {whole fraction exponent : Text} : Whole whole → Fraction fraction →
      Exponent exponent → Number (whole ++ fraction ++ exponent)
  | pointed {digits exponent : Text} : Digits CodePoint.isDigit digits → Exponent exponent →
      Number ("." ++ digits ++ exponent)
  | bigWhole {whole : Text} : Whole whole → Number (whole ++ "n")
  | based {letters : String} {isDigit : CodePoint → Bool} {c : CodePoint} {digits : Text} :
      (letters, isDigit) ∈ bases → c ∈ Text.ofString letters → Digits isDigit digits →
      Number ("0" ++ c :: digits)
  | bigBased {letters : String} {isDigit : CodePoint → Bool} {c : CodePoint} {digits : Text} :
      (letters, isDigit) ∈ bases → c ∈ Text.ofString letters → Digits isDigit digits →
      Number ("0" ++ c :: digits ++ "n")
  | leadingZero {digits fraction exponent : Text} : digits ≠ [] →
      digits.all CodePoint.isDigit = true → Fraction fraction → Exponent exponent →
      (digits.all (·.within 0x30 0x37) = true → fraction = [] ∧ exponent = []) →
      Number ("0" ++ digits ++ fraction ++ exponent)

/-! ## Elements -/

/-- A token. -/
inductive Token where
  /-- A name or a reserved word. -/
  | word (spelling : Text)
  /-- A number. -/
  | number (spelling : Text)
  /-- A punctuator. -/
  | mark (spelling : Text)
  deriving DecidableEq

/-- The punctuators. -/
def punctuators : List Text :=
  List.map Text.ofString
    ["\x7b", "\x7d", "(", ")", "[", "]", ".", "...", ";", ",", "<", ">", "<=", ">=", "==", "!=",
     "===", "!==", "+", "-", "*", "/", "%", "**", "++", "--", "<<", ">>", ">>>", "&", "|", "^",
     "!", "~", "&&", "||", "??", "?", "?.", ":", "=", "+=", "-=", "*=", "/=", "%=", "**=", "<<=",
     ">>=", ">>>=", "&=", "|=", "^=", "&&=", "||=", "??=", "=>"]

/-- An input element at the start of what is left of a text: the token that it is, if it is one,
its text, and what follows. A number must not run into a name or a digit, and `?.` in front of a
digit is no punctuator. -/
inductive Element (alphabet : Alphabet) : Option Token → Text → Text → Prop
  | space {c : CodePoint} {rest : Text} : isSpace c = true → Element alphabet none [c] rest
  | lineComment {body rest : Text} : body.all (!isLineEnd ·) = true →
      Element alphabet none ("//" ++ body) rest
  | blockComment {body rest : Text} : ¬ Text.ofString "*/" <:+: body →
      Element alphabet none ("/*" ++ body ++ "*/") rest
  | word {text value rest : Text} : Name alphabet text value →
      Element alphabet (some (.word text)) text rest
  | number {text rest : Text} : Number text →
      (∀ c ∈ rest.head?, alphabet.isStart c = false ∧ c.isDigit = false) →
      Element alphabet (some (.number text)) text rest
  | mark {mark rest : Text} : mark ∈ punctuators →
      (mark = "?." → ∀ c ∈ rest.head?, c.isDigit = false) →
      Element alphabet (some (.mark mark)) mark rest

/-- The tokens of a text, where each element is the longest that there is. -/
inductive Scans (alphabet : Alphabet) : Text → List Token → Prop
  | done : Scans alphabet [] []
  | next {kind : Option Token} {text rest : Text} {tokens : List Token} :
      Element alphabet kind text rest →
      (∀ more left, rest = more ++ left → more ≠ [] →
        ∀ other, ¬ Element alphabet other (text ++ more) left) →
      Scans alphabet rest tokens → Scans alphabet (text ++ rest) (kind.toList ++ tokens)

/-! ## How elements start and what they hold -/

/-- What numbers are spelled with. -/
def isNumeral (c : CodePoint) : Bool :=
  c.isDigit || c.isAsciiLetter || c == '.' || c == '_' || c == '+' || c == '-'

theorem isNumeral_of_isDigit (h : c.isDigit = true) : isNumeral c = true := by
  simp [isNumeral, h]

theorem Digits.all_isNumeral (hDigit : ∀ c, isDigit c = true → isNumeral c = true)
    (h : Digits isDigit text) : text.all isNumeral = true := by
  induction h with
  | last hFirst => simp [hDigit _ hFirst]
  | next hFirst _ ih => simp [hDigit _ hFirst, ih]
  | separated hFirst _ ih =>
    have hUnderscore : isNumeral '_' = true := by decide
    simp [hDigit _ hFirst, hUnderscore, ih]

theorem Digits.head (h : Digits isDigit text) : ∃ c rest, text = c :: rest ∧ isDigit c = true := by
  cases h with
  | last hFirst => exact ⟨_, _, rfl, hFirst⟩
  | next hFirst _ => exact ⟨_, _, rfl, hFirst⟩
  | separated hFirst _ => exact ⟨_, _, rfl, hFirst⟩

theorem Whole.all_isNumeral (h : Whole text) : text.all isNumeral = true := by
  cases h with
  | zero => decide
  | digits _ hDigits => exact hDigits.all_isNumeral fun _ => isNumeral_of_isDigit

theorem Whole.head (h : Whole text) : ∃ c rest, text = c :: rest ∧ c.isDigit = true := by
  cases h with
  | zero => exact ⟨_, [], rfl, by decide⟩
  | digits _ hDigits => exact hDigits.head

theorem Fraction.all_isNumeral (h : Fraction text) : text.all isNumeral = true := by
  cases h with
  | none => rfl
  | point => decide
  | digits hDigits =>
    rw [List.all_append, hDigits.all_isNumeral fun _ => isNumeral_of_isDigit]
    decide

theorem Exponent.all_isNumeral (h : Exponent text) : text.all isNumeral = true := by
  cases h with
  | none => rfl
  | power hLetter hSign hDigits =>
    have hRest := hDigits.all_isNumeral fun _ => isNumeral_of_isDigit
    rw [List.cons_append, List.all_cons, List.all_append, hRest]
    obtain rfl | rfl := hLetter <;> obtain rfl | rfl | rfl := hSign <;> decide

theorem isNumeral_of_mem_bases {letters : String} (h : (letters, isDigit) ∈ bases) :
    (Text.ofString letters).all isNumeral = true ∧ ∀ c, isDigit c = true → isNumeral c = true := by
  simp only [bases, List.mem_cons, Prod.mk.injEq, List.not_mem_nil, or_false] at h
  obtain ⟨rfl, rfl⟩ | ⟨rfl, rfl⟩ | ⟨rfl, rfl⟩ := h
  · refine ⟨by decide, fun c hDigit => ?_⟩
    simp only [CodePoint.hexValue?] at hDigit
    simp only [isNumeral, CodePoint.isAsciiLetter, CodePoint.within] at hDigit ⊢
    split_ifs at hDigit <;> grind
  · refine ⟨by decide, fun c hDigit => isNumeral_of_isDigit ?_⟩
    simp [CodePoint.isDigit, CodePoint.within] at hDigit ⊢
    omega
  · refine ⟨by decide, fun c hDigit => isNumeral_of_isDigit ?_⟩
    simp [CodePoint.isDigit, CodePoint.within] at hDigit ⊢
    omega

/-- The spelling of a number holds nothing but digits, letters and a few signs. -/
theorem Number.all_isNumeral (h : Number text) : text.all isNumeral = true := by
  cases h with
  | decimal hWhole hFraction hExponent =>
    simp [List.all_append, hWhole.all_isNumeral, hFraction.all_isNumeral, hExponent.all_isNumeral]
  | pointed hDigits hExponent =>
    simp only [List.all_append, hDigits.all_isNumeral fun _ => isNumeral_of_isDigit,
      hExponent.all_isNumeral]
    decide
  | bigWhole hWhole =>
    rw [List.all_append, hWhole.all_isNumeral]
    decide
  | based hBase hLetter hDigits =>
    obtain ⟨hLetters, hDigit⟩ := isNumeral_of_mem_bases hBase
    rw [List.all_append, List.all_cons, hDigits.all_isNumeral hDigit,
      List.all_eq_true.1 hLetters _ hLetter]
    decide
  | bigBased hBase hLetter hDigits =>
    obtain ⟨hLetters, hDigit⟩ := isNumeral_of_mem_bases hBase
    rw [List.all_append, List.all_append, List.all_cons, hDigits.all_isNumeral hDigit,
      List.all_eq_true.1 hLetters _ hLetter]
    decide
  | leadingZero _ hDigits hFraction hExponent _ =>
    have hAll : ∀ digits : Text, digits.all CodePoint.isDigit = true →
        digits.all isNumeral = true := fun digits h =>
      List.all_eq_true.2 fun c hc => isNumeral_of_isDigit (List.all_eq_true.1 h c hc)
    simp only [List.all_append, hAll _ hDigits, hFraction.all_isNumeral, hExponent.all_isNumeral]
    decide

/-- A number starts with a digit, or with a point in front of a digit. -/
theorem Number.head (h : Number (c :: text)) :
    c.isDigit = true ∨ c = '.' ∧ ∃ d rest, text = d :: rest ∧ d.isDigit = true := by
  generalize hAll : c :: text = all at h
  cases h with
  | decimal hWhole _ _ =>
    obtain ⟨d, rest, rfl, hDigit⟩ := hWhole.head
    simp only [List.cons_append, List.cons.injEq] at hAll
    exact .inl (hAll.1 ▸ hDigit)
  | pointed hDigits _ =>
    obtain ⟨d, rest, rfl, hDigit⟩ := hDigits.head
    injection hAll with hPoint hText
    exact .inr ⟨hPoint, d, _, hText, hDigit⟩
  | bigWhole hWhole =>
    obtain ⟨d, rest, rfl, hDigit⟩ := hWhole.head
    simp only [List.cons_append, List.cons.injEq] at hAll
    exact .inl (hAll.1 ▸ hDigit)
  | based _ _ _ =>
    injection hAll with hZero
    exact .inl (hZero ▸ by decide)
  | bigBased _ _ _ =>
    injection hAll with hZero
    exact .inl (hZero ▸ by decide)
  | leadingZero _ _ _ _ _ =>
    injection hAll with hZero
    exact .inl (hZero ▸ by decide)

/-- The backslash starts escapes and is no part of a name itself. -/
theorem isPart_backslash (alphabet : Alphabet) : alphabet.isPart '\\' = false := by
  have hValue : (CodePoint.ofChar '\\').val = 0x5C := rfl
  simp [Alphabet.isPart, Alphabet.isStart, CodePoint.isAsciiLetter, CodePoint.isDigit,
    CodePoint.within, hValue]
  decide

theorem Escape.head {spelling : Text} (h : Escape spelling c) :
    ∃ rest, spelling = CodePoint.ofChar '\\' :: rest := by
  cases h with
  | four => exact ⟨_, rfl⟩
  | braced => exact ⟨_, rfl⟩

/-- Only hexadecimal digits have a value. -/
theorem all_of_hexValue? {digits : Text} {n : Nat} (h : digits.hexValue? = some n) :
    digits.all (·.hexValue?.isSome) = true := by
  have hAll : ∀ (digits : Text) (start : Nat),
      digits.foldlM (fun n c => c.hexValue?.map (16 * n + ·)) start = some n →
        digits.all (·.hexValue?.isSome) = true := by
    intro digits
    induction digits with
    | nil => exact fun _ _ => rfl
    | cons c rest ih =>
      intro start hFold
      rw [List.foldlM_cons] at hFold
      cases hDigit : c.hexValue? with
      | none => simp [hDigit] at hFold
      | some value =>
        rw [hDigit] at hFold
        simp [hDigit, ih _ hFold]
  exact hAll digits 0 h

/-- Of two escapes at one place none is longer. -/
theorem Escape.eq_of_append {first second : Text} {a b : CodePoint} (hFirst : Escape first a)
    (hSecond : Escape second b) {others : Text} (h : first ++ rest = second ++ others) :
    first = second := by
  have hOpen : Text.ofString "\\u\x7b" = Text.ofString "\\u" ++ Text.ofString "\x7b" := rfl
  -- Four digits do not start with a brace.
  have hApart : ∀ {digits others more : Text} {n : Nat}, digits.length = 4 →
      digits.hexValue? = some n → digits ++ others ≠ "\x7b" ++ more := by
    intro digits others more n hLength hValue hEq
    obtain ⟨d, rest, rfl⟩ := List.exists_cons_of_length_pos (by omega : 0 < digits.length)
    have hDigit := List.all_eq_true.1 (all_of_hexValue? hValue) d (List.mem_cons_self ..)
    injection hEq with hHead
    rw [hHead] at hDigit
    exact absurd hDigit (by decide)
  -- Digits end at the first brace.
  have hBrace : ∀ {digits others : Text} {n : Nat}, digits.hexValue? = some n →
      (digits ++ ("\x7d" ++ others)).takeWhile (·.hexValue?.isSome) = digits := by
    intro digits others n hValue
    rw [List.takeWhile_append_of_pos (List.all_eq_true.1 (all_of_hexValue? hValue))]
    have hNone : ("\x7d" ++ others).takeWhile (·.hexValue?.isSome) = [] := rfl
    rw [hNone, List.append_nil]
  cases hFirst with
  | four hLength hValue =>
    cases hSecond with
    | four hLength' _ =>
      simp only [List.append_assoc, List.append_cancel_left_eq] at h
      rw [(List.append_inj h (hLength.trans hLength'.symm)).1]
    | braced _ _ =>
      simp only [hOpen, List.append_assoc, List.append_cancel_left_eq] at h
      exact absurd h (hApart hLength hValue)
  | braced _ hValue =>
    cases hSecond with
    | four hLength' hValue' =>
      simp only [hOpen, List.append_assoc, List.append_cancel_left_eq] at h
      exact absurd h.symm (hApart hLength' hValue')
    | braced _ hValue' =>
      simp only [List.append_assoc, List.append_cancel_left_eq] at h
      rw [← @hBrace _ rest _ hValue, h, hBrace hValue']

/-- A name ends where neither a part of a name nor an escape follows. -/
theorem NameRest.not_longer {alphabet : Alphabet} (h : NameRest alphabet text value)
    (hPart : alphabet.isPart c = false) (hEscape : c ≠ '\\') (more : Text) (other : Text) :
    ¬ NameRest alphabet (text ++ c :: more) other := by
  induction h generalizing other with
  | done =>
    intro h
    generalize hAll : [] ++ c :: more = all at h
    cases h with
    | done => cases hAll
    | part hFirst _ =>
      injection hAll with hHead
      simp [hHead, hFirst] at hPart
    | escape hSpelling _ _ =>
      obtain ⟨rest, rfl⟩ := hSpelling.head
      injection hAll with hHead
      exact hEscape hHead
  | @part d text value hFirst _ ih =>
    intro h
    generalize hAll : d :: text ++ c :: more = all at h
    cases h with
    | done => cases hAll
    | part _ hRest =>
      injection hAll with _ hTail
      exact ih _ (hTail ▸ hRest)
    | escape hSpelling _ _ =>
      obtain ⟨rest, rfl⟩ := hSpelling.head
      injection hAll with hHead
      rw [hHead, isPart_backslash] at hFirst
      cases hFirst
  | @escape d spelling text value hSpelling _ _ ih =>
    intro h
    generalize hAll : spelling ++ text ++ c :: more = all at h
    cases h with
    | done => simp at hAll
    | part hFirst _ =>
      obtain ⟨rest, rfl⟩ := hSpelling.head
      injection hAll with hHead
      rw [← hHead, isPart_backslash] at hFirst
      cases hFirst
    | escape hOther _ hRest =>
      rw [List.append_assoc] at hAll
      have hSame := hSpelling.eq_of_append hOther hAll
      rw [hSame, List.append_cancel_left_eq] at hAll
      exact ih _ (hAll ▸ hRest)

theorem Name.not_longer {alphabet : Alphabet} (h : Name alphabet text value)
    (hPart : alphabet.isPart c = false) (hEscape : c ≠ '\\') (more other : Text) :
    ¬ Name alphabet (text ++ c :: more) other := by
  intro hOther
  have hBackslash (hFirst : alphabet.isStart '\\' = true) : False := by
    simpa [Alphabet.isPart, hFirst] using isPart_backslash alphabet
  cases h with
  | @start d text value hFirst hRest =>
    generalize hAll : d :: text ++ c :: more = all at hOther
    cases hOther with
    | start _ hLonger =>
      injection hAll with _ hTail
      exact hRest.not_longer hPart hEscape _ _ (hTail ▸ hLonger)
    | escape hSpelling _ _ =>
      obtain ⟨rest, rfl⟩ := hSpelling.head
      injection hAll with hHead
      exact hBackslash (hHead ▸ hFirst)
  | @escape d spelling text value hSpelling _ hRest =>
    generalize hAll : spelling ++ text ++ c :: more = all at hOther
    cases hOther with
    | start hFirst _ =>
      obtain ⟨rest, rfl⟩ := hSpelling.head
      injection hAll with hHead
      exact hBackslash (hHead ▸ hFirst)
    | escape hOther _ hLonger =>
      rw [List.append_assoc] at hAll
      have hSame := hSpelling.eq_of_append hOther hAll
      rw [hSame, List.append_cancel_left_eq] at hAll
      exact hRest.not_longer hPart hEscape _ _ (hAll ▸ hLonger)

/-- A name starts with the start of a name or with an escape. -/
theorem Name.head {alphabet : Alphabet} (h : Name alphabet (c :: text) value) :
    alphabet.isStart c = true ∨ c = '\\' := by
  generalize hAll : c :: text = all at h
  cases h with
  | start hFirst _ =>
    injection hAll with hHead
    exact .inl (hHead ▸ hFirst)
  | escape hSpelling _ _ =>
    obtain ⟨rest, rfl⟩ := hSpelling.head
    injection hAll with hHead
    exact .inr hHead

/-! ## Where elements end -/

/-- The code points that punctuators start with. -/
def isMarkStart (c : CodePoint) : Bool :=
  (Text.ofString "\x7b\x7d()[].;,<>=!+-*/%&|^~?:").contains c

theorem isMarkStart_head {mark : Text} (h : mark ∈ punctuators) :
    ∃ c rest, mark = c :: rest ∧ isMarkStart c = true := by
  have hAll : punctuators.all (·.head?.any isMarkStart) = true := by decide
  have hMark := List.all_eq_true.1 hAll mark h
  cases mark with
  | nil => simp at hMark
  | cons c rest => exact ⟨c, rest, rfl, by simpa using hMark⟩

/-- What starts a punctuator starts no name, and no number unless it is a point. -/
theorem not_start_of_isMarkStart (h : isMarkStart c = true) (alphabet : Alphabet) :
    alphabet.isStart c = false ∧ c ≠ '\\' ∧ c.isDigit = false := by
  have hAll : (Text.ofString "\x7b\x7d()[].;,<>=!+-*/%&|^~?:").all (fun c =>
      !(c.isAsciiLetter || c == '$' || c == '_') && decide (c.val < 128) && c != '\\' &&
        !c.isDigit) = true := by
    decide
  have hMark := List.all_eq_true.1 hAll c (List.contains_iff_mem.1 h)
  simp only [Bool.and_eq_true, Bool.not_eq_true', decide_eq_true_eq, bne_iff_ne] at hMark
  obtain ⟨⟨⟨hLetter, hSmall⟩, hEscape⟩, hDigit⟩ := hMark
  refine ⟨?_, hEscape, hDigit⟩
  have hLarge : decide (128 ≤ c.val) = false := decide_eq_false (by omega)
  rw [Alphabet.isStart, hLetter, hLarge]
  rfl

/-- The code points with which a punctuator would go on to a longer one. -/
def continuations (mark : Text) : Text :=
  punctuators.filterMap fun other =>
    if mark.isPrefixOf other then (other.drop mark.length).head? else none

/-- Whether a punctuator ends in front of a code point: no longer punctuator, no number and no
comment goes on with it. -/
def endsMark (mark : Text) (c : CodePoint) : Bool :=
  !(continuations mark).contains c && (c != '/' && c != '*' || mark != "/") &&
    (!c.isDigit || mark != "." && mark != "?.")

theorem mem_continuations {mark more : Text} (h : mark ++ c :: more ∈ punctuators) :
    c ∈ continuations mark := by
  refine List.mem_filterMap.2 ⟨_, h, ?_⟩
  simp

variable {alphabet : Alphabet}

theorem isDigit_of_isStart (h : alphabet.isStart c = true) : c.isDigit = false := by
  simp only [Alphabet.isStart, CodePoint.isAsciiLetter, CodePoint.within, Bool.or_eq_true,
    Bool.and_eq_true, beq_iff_eq, decide_eq_true_eq] at h
  rw [CodePoint.isDigit, CodePoint.within, Bool.and_eq_false_iff, decide_eq_false_iff_not,
    decide_eq_false_iff_not]
  have hDollar : (CodePoint.ofChar '$').val = 0x24 := rfl
  have hUnderscore : (CodePoint.ofChar '_').val = 0x5F := rfl
  obtain ((hLetter | rfl) | rfl) | hLarge := h <;> omega

theorem Name.cons {text value : Text} (h : Name alphabet text value) :
    ∃ c rest, text = c :: rest ∧ (alphabet.isStart c = true ∨ c = '\\') := by
  cases h with
  | start hFirst _ => exact ⟨_, _, rfl, .inl hFirst⟩
  | escape hSpelling _ _ =>
    obtain ⟨rest, rfl⟩ := hSpelling.head
    exact ⟨_, _, rfl, .inr rfl⟩

theorem Number.cons {text : Text} (h : Number text) : ∃ c rest, text = c :: rest := by
  cases h with
  | decimal hWhole _ _ | bigWhole hWhole =>
    obtain ⟨c, rest, rfl, _⟩ := hWhole.head
    exact ⟨_, _, rfl⟩
  | pointed _ _ | based _ _ _ | bigBased _ _ _ | leadingZero _ _ _ _ _ => exact ⟨_, _, rfl⟩

/-- What an element of more than one code point can be. -/
theorem Element.of_two_le {kind : Option Token} {left : Text}
    (h : Element alphabet kind text left) (hLength : 2 ≤ text.length) :
    (∃ e body, (e = CodePoint.ofChar '/' ∨ e = CodePoint.ofChar '*') ∧
        text = CodePoint.ofChar '/' :: e :: body) ∨
      (∃ value, Name alphabet text value) ∨ Number text ∨ text ∈ punctuators := by
  cases h with
  | space _ => simp at hLength
  | lineComment _ => exact .inl ⟨_, _, .inl rfl, rfl⟩
  | blockComment _ => exact .inl ⟨_, _, .inr rfl, rfl⟩
  | word hWord => exact .inr (.inl ⟨_, hWord⟩)
  | number hNumber _ => exact .inr (.inr (.inl hNumber))
  | mark hMark _ => exact .inr (.inr (.inr hMark))

/-- No element of more than one code point starts with a space. -/
theorem Element.not_longer_space (c : CodePoint) (more left : Text) (kind : Option Token) :
    ¬ Element alphabet kind (Text.ofString " " ++ c :: more) left := by
  intro hElement
  have hText : Text.ofString " " ++ c :: more = CodePoint.ofChar ' ' :: c :: more := rfl
  rw [hText] at hElement
  have hStart : alphabet.isStart ' ' = false := by
    rw [Alphabet.isStart, Bool.or_eq_false_iff]
    exact ⟨by decide, rfl⟩
  obtain ⟨e, body, _, hComment⟩ | ⟨value, hName⟩ | hNumber | hMark :=
    hElement.of_two_le (by simp)
  · injection hComment with hHead
    exact absurd hHead (by decide)
  · obtain hFirst | hFirst := hName.head
    · rw [hFirst] at hStart
      cases hStart
    · exact absurd hFirst (by decide)
  · obtain hFirst | ⟨hFirst, _⟩ := hNumber.head
    · exact absurd hFirst (by decide)
    · exact absurd hFirst (by decide)
  · obtain ⟨d, rest, hCons, hFirst⟩ := isMarkStart_head hMark
    injection hCons with hHead
    rw [← hHead] at hFirst
    exact absurd hFirst (by decide)

/-- No element starts with a name that ends inside of it. -/
theorem Element.not_longer_word (h : Name alphabet text value) (hPart : alphabet.isPart c = false)
    (hEscape : c ≠ '\\') (more left : Text) (kind : Option Token) :
    ¬ Element alphabet kind (text ++ c :: more) left := by
  intro hElement
  obtain ⟨d, rest, rfl, hStart⟩ := h.cons
  have hNoMark : isMarkStart d = false := by
    by_contra hMark
    obtain ⟨hName, hNoEscape, _⟩ := not_start_of_isMarkStart (by simpa using hMark) alphabet
    obtain hStart | hStart := hStart
    · rw [hStart] at hName
      cases hName
    · exact hNoEscape hStart
  obtain ⟨e, body, _, hComment⟩ | ⟨other, hName⟩ | hNumber | hMark :=
    hElement.of_two_le (by simp; omega)
  · injection hComment with hHead
    rw [hHead] at hNoMark
    exact absurd hNoMark (by decide)
  · exact h.not_longer hPart hEscape more other hName
  · obtain hFirst | ⟨rfl, _⟩ := hNumber.head
    · obtain hStart | rfl := hStart
      · rw [isDigit_of_isStart hStart] at hFirst
        cases hFirst
      · exact absurd hFirst (by decide)
    · exact absurd hNoMark (by decide)
  · obtain ⟨e, others, hCons, hFirst⟩ := isMarkStart_head hMark
    injection hCons with hHead
    rw [hHead, hFirst] at hNoMark
    cases hNoMark

/-- No element starts with a number that ends inside of it. -/
theorem Element.not_longer_number (h : Number text) (hNumeral : isNumeral c = false)
    (more left : Text) (kind : Option Token) :
    ¬ Element alphabet kind (text ++ c :: more) left := by
  intro hElement
  obtain ⟨d, rest, rfl⟩ := h.cons
  obtain ⟨e, body, _, hComment⟩ | ⟨other, hName⟩ | hNumber | hMark :=
    hElement.of_two_le (by simp; omega)
  · injection hComment with hHead
    obtain hFirst | ⟨hFirst, _⟩ := h.head
    · rw [hHead] at hFirst
      exact absurd hFirst (by decide)
    · rw [hHead] at hFirst
      exact absurd hFirst (by decide)
  · obtain hFirst | ⟨rfl, _⟩ := h.head
    · obtain hStart | rfl := hName.head
      · rw [isDigit_of_isStart hStart] at hFirst
        cases hFirst
      · exact absurd hFirst (by decide)
    · obtain ⟨hStart, hEscape, _⟩ := not_start_of_isMarkStart (c := '.') (by decide) alphabet
      obtain hName | hName := hName.head
      · rw [hName] at hStart
        cases hStart
      · exact hEscape hName
  · have hAll := hNumber.all_isNumeral
    simp [List.all_append, hNumeral] at hAll
  · obtain ⟨e, others, hCons, hFirst⟩ := isMarkStart_head hMark
    injection hCons with hHead
    obtain hDigit | ⟨rfl, d', rest', rfl, hDigit⟩ := h.head
    · rw [← hHead] at hFirst
      rw [(not_start_of_isMarkStart hFirst alphabet).2.2] at hDigit
      cases hDigit
    · have hKnown : ∀ mark ∈ punctuators, mark.head? = some (CodePoint.ofChar '.') →
          mark.tail.head?.all (!·.isDigit) = true := by decide
      have hTail := hKnown _ hMark rfl
      simp [hDigit] at hTail

/-- No element starts with a punctuator that ends inside of it. -/
theorem Element.not_longer_mark {mark : Text} (hMark : mark ∈ punctuators)
    (h : endsMark mark c = true) (more left : Text) (kind : Option Token) :
    ¬ Element alphabet kind (mark ++ c :: more) left := by
  intro hElement
  simp only [endsMark, Bool.and_eq_true, Bool.or_eq_true, Bool.not_eq_true', bne_iff_ne] at h
  obtain ⟨⟨hContinues, hComment⟩, hPoint⟩ := h
  obtain ⟨d, rest, rfl, hStart⟩ := isMarkStart_head hMark
  obtain ⟨hName, hEscape, hDigit⟩ := not_start_of_isMarkStart hStart alphabet
  obtain ⟨e, body, he, hEq⟩ | ⟨value, hWord⟩ | hNumber | hOther :=
    hElement.of_two_le (by simp; omega)
  · -- Behind a slash stands an equals sign or nothing, so only a single one opens a comment.
    have hKnown : ∀ mark ∈ punctuators, mark.head? = some '/' →
        mark = "/" ∨ mark = "/=" := by decide
    have hHead : d = '/' := (List.cons.inj hEq).1
    obtain hSingle | hDouble := hKnown _ hMark (by rw [hHead]; rfl)
    · rw [hSingle] at hEq
      injection hEq with _ hTail
      injection hTail with hc
      obtain ⟨hFirst, hSecond⟩ | hOther := hComment
      · obtain rfl | rfl := he
        · exact hFirst hc
        · exact hSecond hc
      · exact hOther hSingle
    · rw [hDouble] at hEq
      injection hEq with _ hTail
      injection hTail with hc
      obtain rfl | rfl := he <;> exact absurd hc (by decide)
  · obtain hFirst | hFirst := hWord.head
    · rw [hFirst] at hName
      cases hName
    · exact hEscape hFirst
  · obtain hFirst | ⟨rfl, d', rest', hRest, hDigit'⟩ := hNumber.head
    · rw [hFirst] at hDigit
      cases hDigit
    · have hKnown : ∀ mark ∈ punctuators, mark.head? = some '.' →
          mark = "." ∨ mark = "..." := by decide
      obtain hSingle | hTriple := hKnown _ hMark rfl
      · obtain hOther | ⟨hOther, _⟩ := hPoint
        · injection hSingle with _ hNil
          rw [hNil] at hRest
          injection hRest with hc
          rw [hc, hDigit'] at hOther
          cases hOther
        · exact hOther hSingle
      · injection hTriple with _ hTail
        rw [hTail] at hRest
        injection hRest with hc
        rw [← hc] at hDigit'
        exact absurd hDigit' (by decide)
  · rw [List.contains_iff_mem.2 (mem_continuations hOther)] at hContinues
    cases hContinues

/-! ## The tokens of a text are determined -/

theorem isSpace_of_isStart (h : alphabet.isStart c = true) : isSpace c = false := by
  simp only [Alphabet.isStart, Bool.or_eq_true, Bool.and_eq_true] at h
  obtain hSmall | ⟨_, hLarge⟩ := h
  · simp only [CodePoint.isAsciiLetter, CodePoint.within, Bool.or_eq_true, Bool.and_eq_true,
      beq_iff_eq, decide_eq_true_eq] at hSmall
    have hDollar : (CodePoint.ofChar '$').val = 0x24 := rfl
    have hUnderscore : (CodePoint.ofChar '_').val = 0x5F := rfl
    by_contra hSpace
    simp only [isSpace, isLineEnd, CodePoint.within, Bool.not_eq_false, Bool.or_eq_true,
      Bool.and_eq_true, beq_iff_eq, decide_eq_true_eq] at hSpace
    obtain (hLetter | rfl) | rfl := hSmall <;> omega
  · exact alphabet.start_isSpace c hLarge

theorem isSpace_of_isDigit (h : c.isDigit = true) : isSpace c = false := by
  simp only [CodePoint.isDigit, CodePoint.within, Bool.and_eq_true, decide_eq_true_eq] at h
  by_contra hSpace
  simp only [isSpace, isLineEnd, CodePoint.within, Bool.not_eq_false, Bool.or_eq_true,
    Bool.and_eq_true, beq_iff_eq, decide_eq_true_eq] at hSpace
  omega

/-- The kind of an element, which its text determines. -/
def kindOf (alphabet : Alphabet) : Text → Option Token
  | [] => none
  | c :: rest =>
    if isSpace c then none
    else if alphabet.isStart c || c == '\\' then some (.word (c :: rest))
    else if c.isDigit || (c == '.' && rest.head?.any CodePoint.isDigit) then
      some (.number (c :: rest))
    else if c == '/' && rest.head?.any (fun d : CodePoint => d == '/' || d == '*') then none
    else some (.mark (c :: rest))

/-- What starts a punctuator is a punctuator, a comment or a number. -/
theorem kindOf_isMarkStart (h : isMarkStart c = true) (rest : Text) :
    kindOf alphabet (c :: rest) =
      if c == '.' && rest.head?.any CodePoint.isDigit then some (.number (c :: rest))
      else if c == '/' && rest.head?.any (fun d : CodePoint => d == '/' || d == '*') then none
      else some (.mark (c :: rest)) := by
  obtain ⟨hStart, hEscape, hDigit⟩ := not_start_of_isMarkStart h alphabet
  have hSpace : isSpace c = false := by
    have hAll : (Text.ofString "\x7b\x7d()[].;,<>=!+-*/%&|^~?:").all (!isSpace ·) = true := by
      decide
    simpa using List.all_eq_true.1 hAll c (List.contains_iff_mem.1 h)
  have hOther : (c == '\\') = false := beq_false_of_ne hEscape
  simp only [kindOf, hSpace, hStart, hOther, hDigit, Bool.false_or, Bool.false_eq_true, if_false]

theorem Element.kind_eq {kind : Option Token} (h : Element alphabet kind text rest) :
    kind = kindOf alphabet text := by
  cases h with
  | space hSpace => simp [kindOf, hSpace]
  | @lineComment body _ _ =>
    exact (kindOf_isMarkStart (c := '/') (by decide) (Text.ofString "/" ++ body)).symm
  | @blockComment body _ _ =>
    exact (kindOf_isMarkStart (c := '/') (by decide)
      (Text.ofString "*" ++ body ++ Text.ofString "*/")).symm
  | word hName =>
    obtain ⟨c, others, rfl, hStart | rfl⟩ := hName.cons
    · simp [kindOf, isSpace_of_isStart hStart, hStart]
    · have hSpace : isSpace '\\' = false := by decide
      simp [kindOf, hSpace]
  | number hNumber _ =>
    obtain ⟨c, others, rfl⟩ := hNumber.cons
    obtain hDigit | ⟨rfl, d, more, rfl, hDigit⟩ := hNumber.head
    · have hStart : alphabet.isStart c = false := by
        by_contra hStart
        rw [isDigit_of_isStart (by simpa using hStart)] at hDigit
        cases hDigit
      have hEscape : (c == CodePoint.ofChar '\\') = false := by
        refine beq_false_of_ne ?_
        rintro rfl
        exact absurd hDigit (by decide)
      simp [kindOf, isSpace_of_isDigit hDigit, hStart, hEscape, hDigit]
    · rw [kindOf_isMarkStart (by decide)]
      simp [hDigit]
  | mark hMark _ =>
    have hKnown : ∀ mark ∈ punctuators,
        (mark.head? == some (CodePoint.ofChar '.') && mark.tail.head?.any CodePoint.isDigit) = false ∧
        (mark.head? == some (CodePoint.ofChar '/') &&
          mark.tail.head?.any fun d : CodePoint => d == '/' || d == '*') = false := by
      decide
    obtain ⟨hNumber, hComment⟩ := hKnown text hMark
    obtain ⟨c, others, rfl, hStart⟩ := isMarkStart_head hMark
    simp only [List.head?_cons, Option.some_beq_some, List.tail_cons] at hNumber hComment
    rw [kindOf_isMarkStart hStart, hNumber, hComment]
    rfl

theorem Element.ne_nil {kind : Option Token} (h : Element alphabet kind text rest) : text ≠ [] := by
  cases h with
  | space _ | lineComment _ | blockComment _ => exact List.cons_ne_nil _ _
  | word hName =>
    obtain ⟨c, others, rfl, _⟩ := hName.cons
    exact List.cons_ne_nil _ _
  | number hNumber _ =>
    obtain ⟨c, others, rfl⟩ := hNumber.cons
    exact List.cons_ne_nil _ _
  | mark hMark _ =>
    obtain ⟨c, others, rfl, _⟩ := isMarkStart_head hMark
    exact List.cons_ne_nil _ _

/-- No element at the start of a text is longer than the longest one. -/
theorem length_le_of_longest {kind : Option Token} {first second : Text}
    (hLongest : ∀ more left, rest = more ++ left → more ≠ [] →
      ∀ other, ¬ Element alphabet other (text ++ more) left)
    (hElement : Element alphabet kind first second) (hText : first ++ second = text ++ rest) :
    first.length ≤ text.length := by
  obtain ⟨more, rfl, _⟩ | ⟨more, rfl, hRest⟩ := List.append_eq_append_iff.1 hText
  · simp
  · by_cases hMore : more = []
    · simp [hMore]
    · exact absurd hElement (hLongest more second hRest hMore kind)

/-- A text has at most one list of tokens. -/
theorem Scans.unique {tokens others : List Token} (h : Scans alphabet text tokens)
    (hOthers : Scans alphabet text others) : tokens = others := by
  induction h generalizing others with
  | done =>
    generalize hText : ([] : Text) = text at hOthers
    cases hOthers with
    | done => rfl
    | next hElement _ _ => exact absurd (List.append_eq_nil_iff.1 hText.symm).1 hElement.ne_nil
  | @next kind text rest tokens hElement hLongest _ ih =>
    generalize hText : text ++ rest = whole at hOthers
    cases hOthers with
    | done => exact absurd (List.append_eq_nil_iff.1 hText).1 hElement.ne_nil
    | next hOther hLongestOther hRest =>
      have hLength := Nat.le_antisymm (length_le_of_longest hLongestOther hElement hText)
        (length_le_of_longest hLongest hOther hText.symm)
      obtain ⟨rfl, rfl⟩ := List.append_inj hText hLength
      rw [hElement.kind_eq, hOther.kind_eq, ih hRest]

/-! ## Texts piece by piece -/

/-- A text gives its tokens in front of every rest that starts with one of the given code points. -/
def Reads (alphabet : Alphabet) (follow : CodePoint → Bool) (text : Text) (tokens : List Token) :
    Prop :=
  ∀ rest others, (∀ c ∈ rest.head?, follow c = true) → Scans alphabet rest others →
    Scans alphabet (text ++ rest) (tokens ++ others)

namespace Reads

variable {follow later : CodePoint → Bool} {first second : Text} {tokens others : List Token}

theorem scans (h : Reads alphabet follow first tokens) : Scans alphabet first tokens := by
  have hScans := h [] [] (by simp) .done
  rwa [List.append_nil, List.append_nil] at hScans

theorem mono (h : Reads alphabet follow first tokens)
    (hFollow : ∀ c, later c = true → follow c = true) : Reads alphabet later first tokens :=
  fun rest others hRest => h rest others fun c hc => hFollow c (hRest c hc)

/-- Two texts one behind the other. -/
theorem append (hFirst : Reads alphabet follow first tokens)
    (hSecond : Reads alphabet later second others)
    (hMeet : ∃ c rest, second = c :: rest ∧ follow c = true) :
    Reads alphabet later (first ++ second) (tokens ++ others) := by
  intro rest more hRest hScans
  obtain ⟨c, tail, rfl, hFollow⟩ := hMeet
  rw [List.append_assoc, List.append_assoc]
  exact hFirst _ _ (by simpa using hFollow) (hSecond rest more hRest hScans)

/-- An element that nothing longer competes with. -/
theorem of_element (kind : Option Token)
    (hElement : ∀ rest, (∀ c ∈ rest.head?, follow c = true) → Element alphabet kind text rest)
    (hLongest : ∀ c, follow c = true → ∀ more left other,
      ¬ Element alphabet other (text ++ c :: more) left) :
    Reads alphabet follow text kind.toList := by
  intro rest others hRest hScans
  refine .next (hElement rest hRest) ?_ hScans
  rintro more left rfl hMore other
  obtain ⟨c, tail, rfl⟩ := List.exists_cons_of_ne_nil hMore
  exact hLongest c (hRest c rfl) tail left other

theorem space : Reads alphabet (fun _ => true) " " [] := by
  refine of_element none (fun rest _ => .space (by decide)) ?_
  intro c _ more left other
  exact Element.not_longer_space c more left other

theorem word (h : Name alphabet text value) :
    Reads alphabet (fun c => !alphabet.isPart c && c != '\\') text [.word text] := by
  refine of_element (some (.word text)) (fun rest _ => .word h) ?_
  intro c hEnds more left other
  simp only [Bool.and_eq_true, Bool.not_eq_true', bne_iff_ne] at hEnds
  exact Element.not_longer_word h hEnds.1 hEnds.2 more left other

theorem number (h : Number text) :
    Reads alphabet (fun c => !isNumeral c && !alphabet.isStart c) text [.number text] := by
  refine of_element (some (.number text)) (fun rest hRest => .number h ?_) ?_
  · intro c hc
    have hEnds := hRest c hc
    simp only [Bool.and_eq_true, Bool.not_eq_true', isNumeral, Bool.or_eq_false_iff] at hEnds
    exact ⟨hEnds.2, hEnds.1.1.1.1.1.1⟩
  · intro c hEnds more left other
    simp only [Bool.and_eq_true, Bool.not_eq_true'] at hEnds
    exact Element.not_longer_number h hEnds.1 more left other

theorem mark {mark : Text} (h : mark ∈ punctuators) :
    Reads alphabet (endsMark mark) mark [.mark mark] := by
  refine of_element (some (.mark mark)) (fun rest hRest => .mark h ?_) ?_
  · rintro rfl c hc
    have hEnds := hRest c hc
    simp only [endsMark, Bool.and_eq_true, Bool.or_eq_true, Bool.not_eq_true', bne_self_eq_false,
      Bool.and_false, Bool.false_eq_true, or_false] at hEnds
    exact hEnds.2
  · intro c hEnds more left other
    exact Element.not_longer_mark h hEnds more left other

end Reads

end Assay.Grammar
