import Assay.Proofs.Print.Operands

/-!
# Texts of expressions

What the printer puts together is read piece by piece: names, numbers, operators between spaces,
and texts between parentheses and brackets. `closes`, `calls` and `links` are the code points that
may follow an expression, a number and the target of a link. `Printed` collects what is known of
the text of a tree, and `Printed.operand` says what becomes of it at the place of an operand.
-/

set_option autoImplicit false

namespace Assay.Grammar

variable {text : Text} {tree : Node} {alphabet : Alphabet}

/-! ## What follows an expression -/

/-- What may follow any expression. -/
def closes (c : CodePoint) : Bool := (Text.ofString " ),]").contains c

/-- What may follow a number. -/
def calls (c : CodePoint) : Bool := (Text.ofString " ),](?").contains c

/-- What may follow the target of a link or of an update. -/
def links (c : CodePoint) : Bool := (Text.ofString " ),](?.[+-").contains c

theorem calls_of_closes (c : CodePoint) (h : closes c = true) : calls c = true := by
  have hAll : (Text.ofString " ),]").all calls = true := by decide
  exact List.all_eq_true.1 hAll c (List.contains_iff_mem.1 h)

theorem links_of_calls (c : CodePoint) (h : calls c = true) : links c = true := by
  have hAll : (Text.ofString " ),](?").all links = true := by decide
  exact List.all_eq_true.1 hAll c (List.contains_iff_mem.1 h)

theorem isPart_of_links (c : CodePoint) (h : links c = true) :
    (!alphabet.isPart c && c != '\\') = true := by
  have hAll : (Text.ofString " ),](?.[+-").all (fun c =>
      !(c.isAsciiLetter || c == '$' || c == '_' || c.isDigit || c.within 0x200C 0x200D) &&
        !decide (128 ≤ c.val) && c != '\\') = true := by
    decide
  have hChar := List.all_eq_true.1 hAll c (List.contains_iff_mem.1 h)
  simp only [Bool.and_eq_true, Bool.not_eq_true', Bool.or_eq_false_iff] at hChar
  obtain ⟨⟨⟨⟨⟨⟨hLetter, hDollar⟩, hUnderscore⟩, hDigit⟩, hJoiner⟩, hLarge⟩, hEscape⟩ := hChar
  simp only [Alphabet.isPart, Alphabet.isStart, hLetter, hDollar, hUnderscore, hDigit, hJoiner,
    hLarge, hEscape, Bool.or_false, Bool.false_and, Bool.not_false, Bool.and_true]

theorem isNumeral_of_calls (c : CodePoint) (h : calls c = true) :
    (!isNumeral c && !alphabet.isStart c) = true := by
  have hAll : (Text.ofString " ),](?").all (!isNumeral ·) = true := by decide
  have hNumeral := List.all_eq_true.1 hAll c (List.contains_iff_mem.1 h)
  have hPart := @isPart_of_links alphabet c (links_of_calls c h)
  simp only [Bool.and_eq_true, Bool.not_eq_true', Alphabet.isPart, Bool.or_eq_false_iff] at hPart
  rw [hNumeral, hPart.1.1.1.1]
  rfl

/-! ## Pieces of text -/

namespace Reads

variable {follow later : CodePoint → Bool} {first second : Text} {tokens others : List Token}

/-- A text behind one that anything may follow. -/
theorem append_any (hFirst : Reads alphabet (fun _ => true) first tokens)
    (hSecond : Reads alphabet later second others) :
    Reads alphabet later (first ++ second) (tokens ++ others) := by
  intro rest more hRest hScans
  rw [List.append_assoc, List.append_assoc]
  exact hFirst _ _ (fun _ _ => rfl) (hSecond rest more hRest hScans)

theorem any (h : Reads alphabet (fun _ => true) first tokens) :
    Reads alphabet follow first tokens :=
  h.mono fun _ _ => rfl

/-- Punctuators that nothing continues. -/
theorem closed {mark : Text} (h : mark ∈ List.map Text.ofString ["(", ")", "[", "]", "++", "--"]) :
    Reads alphabet (fun _ => true) mark [terminal mark] := by
  have hAll : ∀ mark ∈ List.map Text.ofString ["(", ")", "[", "]", "++", "--"],
      mark ∈ punctuators ∧ continuations mark = [] ∧
        mark ≠ "/" ∧ mark ≠ "." ∧ mark ≠ "?." := by
    decide
  obtain ⟨hMark, hNone, hSlash, hPoint, hOptional⟩ := hAll mark h
  rw [terminal, if_pos hMark]
  refine (Reads.mark hMark).mono fun c _ => ?_
  simp [endsMark, hNone, hSlash, hPoint, hOptional]

end Reads

/-- Whether a text is a punctuator or a word of letters. -/
def isTerminal (text : Text) : Bool :=
  punctuators.contains text || (!text.isEmpty && text.all CodePoint.isAsciiLetter)

theorem endsMark_space (mark : Text) : endsMark mark ' ' = true := by
  have hAll : ∀ other ∈ punctuators, CodePoint.ofChar ' ' ∉ other := by decide
  have hNone : (continuations mark).contains (CodePoint.ofChar ' ') = false := by
    by_contra hSome
    have hMem : CodePoint.ofChar ' ' ∈ continuations mark := by simpa using hSome
    obtain ⟨other, hOther, hHead⟩ := List.mem_filterMap.1 hMem
    split_ifs at hHead
    exact hAll other hOther (List.mem_of_mem_drop (List.mem_of_mem_head? hHead))
  rw [endsMark, hNone]
  rfl

theorem NameRest.of_letters (h : text.all CodePoint.isAsciiLetter = true) :
    NameRest alphabet text text := by
  induction text with
  | nil => exact .done
  | cons c rest ih =>
    rw [List.all_cons, Bool.and_eq_true] at h
    exact .part (by simp [Alphabet.isPart, Alphabet.isStart, h.1]) (ih h.2)

theorem Name.of_letters (hText : text ≠ []) (h : text.all CodePoint.isAsciiLetter = true) :
    Name alphabet text text := by
  obtain ⟨c, rest, rfl⟩ := List.exists_cons_of_ne_nil hText
  rw [List.all_cons, Bool.and_eq_true] at h
  exact .start (by simp [Alphabet.isStart, h.1]) (.of_letters h.2)

namespace Reads

variable {follow later : CodePoint → Bool} {first second : Text} {tokens others : List Token}

/-- A name in front of a link. -/
theorem name {value : Text} (h : Name alphabet text value) :
    Reads alphabet links text [.word text] :=
  (Reads.word h).mono isPart_of_links

/-- A word of the grammar. -/
theorem keyword (hText : text ≠ []) (h : text.all CodePoint.isAsciiLetter = true)
    (hMark : text ∉ punctuators) : Reads alphabet links text [terminal text] := by
  rw [terminal, if_neg hMark]
  exact name (.of_letters hText h)

/-- A terminal in front of what neither a name nor a longer punctuator goes on with. -/
theorem front (h : isTerminal text = true) :
    Reads alphabet (fun c => links c && endsMark text c) text [terminal text] := by
  by_cases hMark : text ∈ punctuators
  · rw [terminal, if_pos hMark]
    exact (Reads.mark hMark).mono fun c hc => (Bool.and_eq_true_iff.1 hc).2
  · simp only [isTerminal, Bool.or_eq_true, List.contains_iff_mem, hMark, false_or,
      Bool.and_eq_true, Bool.not_eq_true', List.isEmpty_eq_false_iff] at h
    exact (keyword h.1 h.2 hMark).mono fun c hc => (Bool.and_eq_true_iff.1 hc).1

/-- A terminal in front of a space. -/
theorem spaced {text : Text} (h : isTerminal text = true) :
    Reads alphabet (fun _ => true) (text ++ " ") [terminal text] := by
  rw [← List.append_nil [terminal text]]
  exact (front h).append space ⟨_, _, rfl, Bool.and_eq_true_iff.2 ⟨by decide, endsMark_space text⟩⟩

/-- An operator between two operands. -/
theorem operator (h : isTerminal text = true) (hFirst : Reads alphabet follow first tokens)
    (hSpace : follow ' ' = true) (hSecond : Reads alphabet later second others) :
    Reads alphabet later (first ++ " " ++ text ++ " " ++ second)
      (tokens ++ [terminal text] ++ others) := by
  have hRest := hFirst.append (space.append_any ((spaced h).append_any hSecond)) ⟨_, _, rfl, hSpace⟩
  simpa only [List.append_assoc, List.nil_append] using hRest

/-- A text between terminals that stand by themselves. -/
theorem between {opening closing : String} {c : CodePoint} {rest : Text}
    (h : Reads alphabet follow first tokens) (hClose : follow c = true)
    (hFirst : Text.ofString closing = c :: rest)
    (hOpen : Reads alphabet (fun _ => true) opening [terminal opening])
    (hEnd : Reads alphabet (fun _ => true) closing [terminal closing]) :
    Reads alphabet (fun _ => true) (opening ++ first ++ closing)
      ([terminal opening] ++ tokens ++ [terminal closing]) := by
  have hInside := h.append hEnd ⟨c, rest, hFirst, hClose⟩
  simpa only [List.append_assoc] using hOpen.append_any hInside

/-- A text between parentheses. -/
theorem parentheses (h : Reads alphabet follow first tokens) (hClose : follow ')' = true) :
    Reads alphabet (fun _ => true) ("(" ++ first ++ ")")
      ([terminal "("] ++ tokens ++ [terminal ")"]) :=
  h.between hClose rfl (closed (by decide)) (closed (by decide))

/-- A text between brackets. -/
theorem brackets (h : Reads alphabet follow first tokens) (hClose : follow ']' = true) :
    Reads alphabet (fun _ => true) ("[" ++ first ++ "]")
      ([terminal "["] ++ tokens ++ [terminal "]"]) :=
  h.between hClose rfl (closed (by decide)) (closed (by decide))

end Reads

/-! ## Texts of trees -/

/-- What may follow the text of a tree. -/
def ends (tree : Node) : CodePoint → Bool :=
  if Print.precedence tree < 19 then closes else if Print.isNumber tree then calls else links

/-- A text starts with no equals sign, and with a sign only if that is the operator of its tree. -/
def Starts (tree : Node) (text : Text) : Prop :=
  ∃ c rest, text = c :: rest ∧ c ≠ '=' ∧
    (c = '+' ∨ c = '-' → ∃ operator, Print.unaryOperator? tree = some operator ∧
      operator.head? = some c)

/-- The text of a tree with its tokens, from which the tree is derived. -/
structure Printed (alphabet : Alphabet) (level : Nat) (isOpen : Bool) (tree : Node) (text : Text)
    (tokens : List Token) : Prop where
  print : Print.printAt level tree = .ok text
  reads : Reads alphabet (ends tree) text tokens
  starts : 15 ≤ Print.precedence tree → Starts tree text
  derives : Derives alphabet (if isOpen then .optional else home tree) tokens tree

/-- The tree has a text, with tokens that the grammar derives. -/
abbrev IsPrinted (alphabet : Alphabet) (level : Nat) (isOpen : Bool) (tree : Node) : Prop :=
  ∃ text tokens, Printed alphabet level isOpen tree text tokens

theorem ends_of_closes (tree : Node) (c : CodePoint) (h : closes c = true) :
    ends tree c = true := by
  unfold ends
  split_ifs
  · exact h
  · exact calls_of_closes c h
  · exact links_of_calls c (calls_of_closes c h)

theorem Reads.closing {parens : Bool} {tokens : List Token}
    (h : Reads alphabet (if parens then fun _ => true else ends tree) text tokens) :
    Reads alphabet closes text tokens := by
  cases parens with
  | true => exact h.any
  | false => exact h.mono (ends_of_closes tree)

variable {level : Nat}

/-- An operand, in parentheses or not, where its place has the given nonterminal. -/
theorem Printed.operand {tokens : List Token} (h : Printed alphabet level false tree text tokens)
    (hFormed : Formed alphabet false tree) {parens : Bool} {symbol : Symbol}
    (hRise : parens = false → (home tree).rises symbol = true)
    (hPrimary : Symbol.primary.rises symbol = true) :
    ∃ others, Reads alphabet (if parens then fun _ => true else ends tree)
        (Print.wrap parens text) others ∧ Derives alphabet symbol others tree := by
  cases parens with
  | false => exact ⟨tokens, h.reads, h.derives.rise (hRise rfl)⟩
  | true =>
    have hWhole := h.derives.rise (hFormed.rises 0 .expression (by decide) (by omega))
    refine ⟨_, h.reads.parentheses (ends_of_closes tree _ (by decide)), ?_⟩
    exact (Derives.parentheses hWhole).rise hPrimary

/-! ## Lists -/

/-- The text of an item of a list. -/
theorem Printed.item {tokens : List Token} (h : Printed alphabet level false tree text tokens)
    (hFormed : Formed alphabet false tree) :
    Reads alphabet closes text tokens ∧ Derives alphabet .assignment tokens tree :=
  ⟨h.reads.mono (ends_of_closes tree),
    h.derives.rise (hFormed.rises 0 .assignment (by decide) (by omega))⟩

theorem commas_cons (first second : Text) (rest : List Text) :
    Print.commas (first :: second :: rest) =
      first ++ (", " ++ Print.commas (second :: rest)) := by
  simp [Print.commas, Text.join, List.intercalate]

/-- Items with commas between them. -/
theorem exists_items {items : List Node} (hFormed : ∀ item ∈ items, Formed alphabet false item)
    (h : ∀ item ∈ items, IsPrinted alphabet level false item) (hItems : items ≠ []) :
    ∃ first rest tokens, Print.printList level items = .ok (first :: rest) ∧
      Reads alphabet closes (Print.commas (first :: rest)) tokens ∧
      DerivesItems alphabet tokens items := by
  induction items with
  | nil => exact absurd rfl hItems
  | cons item rest ih =>
    obtain ⟨text, tokens, hPrinted⟩ := h item (.head _)
    obtain ⟨hReads, hDerives⟩ := hPrinted.item (hFormed item (.head _))
    cases rest with
    | nil =>
      refine ⟨text, [], tokens, ?_, ?_, .last hDerives⟩
      · change (Print.printAt level item >>= _) = _
        rw [hPrinted.print]
        rfl
      · simpa [Print.commas, Text.join] using hReads
    | cons next others =>
      obtain ⟨first, texts, more, hPrint, hRest, hItems⟩ := ih
        (fun item hItem => hFormed item (.tail _ hItem)) (fun item hItem => h item (.tail _ hItem))
        (by simp)
      have hComma : Reads alphabet (fun _ => true) ", " [terminal ","] :=
        @Reads.spaced alphabet "," (by decide)
      refine ⟨text, first :: texts, tokens ++ [terminal ","] ++ more, ?_, ?_,
        .next hDerives hItems⟩
      · change (Print.printAt level item >>= fun _ => Print.printList level (next :: others) >>= _) = _
        rw [hPrinted.print, hPrint]
        rfl
      · rw [commas_cons, List.append_assoc tokens]
        exact hReads.append (hComma.append_any hRest) ⟨_, _, rfl, by decide⟩

/-- The arguments of a call between their parentheses. -/
theorem exists_arguments {items : List Node}
    (hFormed : ∀ item ∈ items, Formed alphabet false item)
    (h : ∀ item ∈ items, IsPrinted alphabet level false item) :
    ∃ texts tokens, Print.printList level items = .ok texts ∧
      Reads alphabet (fun _ => true)
        ("(" ++ Print.commas texts ++ ")") tokens ∧
      DerivesArguments alphabet tokens items := by
  by_cases hItems : items = []
  · subst hItems
    refine ⟨[], [terminal "("] ++ [terminal ")"], rfl, ?_, .none⟩
    have hOpen : Reads alphabet (fun _ => true) "(" [terminal "("] :=
      Reads.closed (by decide)
    have hEnd : Reads alphabet (fun _ => true) ")" [terminal ")"] :=
      Reads.closed (by decide)
    exact hOpen.append_any hEnd
  · obtain ⟨first, rest, tokens, hPrint, hReads, hDerives⟩ := exists_items hFormed h hItems
    exact ⟨first :: rest, _, hPrint, hReads.parentheses (by decide), .some hDerives⟩

/-! ## How texts start -/

/-- A code point that is no sign and no equals sign. -/
def isPlain (c : CodePoint) : Bool := c != '=' && c != '+' && c != '-'

theorem isPlain_of_not_isMarkStart {c : CodePoint} (h : isMarkStart c = false) :
    isPlain c = true := by
  by_contra hPlain
  simp only [isPlain, Bool.and_eq_true, bne_iff_ne, not_and_or, not_not] at hPlain
  obtain (rfl | rfl) | rfl := hPlain <;> exact absurd h (by decide)

theorem Name.plain {value : Text} (h : Name alphabet text value) :
    ∃ c rest, text = c :: rest ∧ isPlain c = true := by
  obtain ⟨c, rest, rfl, hStart⟩ := h.cons
  refine ⟨c, rest, rfl, isPlain_of_not_isMarkStart ?_⟩
  by_contra hMark
  obtain ⟨hName, hEscape, _⟩ := not_start_of_isMarkStart (by simpa using hMark) alphabet
  obtain hStart | hStart := hStart
  · rw [hStart] at hName
    cases hName
  · exact hEscape hStart

theorem Number.plain (h : Number text) : ∃ c rest, text = c :: rest ∧ isPlain c = true := by
  obtain ⟨c, rest, rfl⟩ := h.cons
  obtain hDigit | ⟨rfl, _⟩ := h.head
  · refine ⟨c, rest, rfl, isPlain_of_not_isMarkStart ?_⟩
    by_contra hMark
    rw [(not_start_of_isMarkStart (by simpa using hMark) .ascii).2.2] at hDigit
    cases hDigit
  · exact ⟨_, rest, rfl, by decide⟩

theorem Starts.of_plain (h : ∃ c rest, text = c :: rest ∧ isPlain c = true) : Starts tree text := by
  obtain ⟨c, rest, rfl, hPlain⟩ := h
  simp only [isPlain, Bool.and_eq_true, bne_iff_ne] at hPlain
  refine ⟨c, rest, rfl, hPlain.1.1, ?_⟩
  rintro (rfl | rfl)
  · exact absurd rfl hPlain.1.2
  · exact absurd rfl hPlain.2

theorem Starts.plain (h : Starts tree text) (hOperator : Print.unaryOperator? tree = none) :
    ∃ c rest, text = c :: rest ∧ isPlain c = true := by
  obtain ⟨c, rest, rfl, hEquals, hSign⟩ := h
  refine ⟨c, rest, rfl, ?_⟩
  simp only [isPlain, Bool.and_eq_true, bne_iff_ne]
  refine ⟨⟨hEquals, ?_⟩, ?_⟩
  · intro hPlus
    obtain ⟨operator, hSome, _⟩ := hSign (.inl hPlus)
    rw [hOperator] at hSome
    cases hSome
  · intro hMinus
    obtain ⟨operator, hSome, _⟩ := hSign (.inr hMinus)
    rw [hOperator] at hSome
    cases hSome

/-- Only what is less than a target has an operator in front or behind. -/
theorem unaryOperator?_of_target (h : 19 ≤ Print.precedence tree) :
    Print.unaryOperator? tree = none := by
  fun_cases Print.unaryOperator? tree with
  | case1 =>
    have h : 19 ≤ 15 := h
    omega
  | case2 =>
    have h : 19 ≤ 16 := h
    omega
  | case3 => rfl

theorem plain_append {first : Text} (h : ∃ c rest, first = c :: rest ∧ isPlain c = true)
    (second : Text) : ∃ c rest, first ++ second = c :: rest ∧ isPlain c = true := by
  obtain ⟨c, rest, rfl, hPlain⟩ := h
  exact ⟨c, rest ++ second, rfl, hPlain⟩

end Assay.Grammar
