import Assay.Proofs.Print.Segments
import Assay.Proofs.Text.Lines

/-!
# Indentation

The level at which a node is printed shows only behind line feeds: `deepen` puts the indentation of
some levels there, and `deepens` says that a node printed so many levels deeper has the text that is
deepened so. This holds as long as no text that the node takes over from the program has a line
feed, because what is taken over is never indented.
-/

set_option autoImplicit false

namespace Assay

open Outcome

/-! ## Texts without line feeds -/

namespace Text

/-- Whether the text has no line feed. -/
def isFlat (t : Text) : Bool := t.lacks (· == '\n')

/-- Two flat texts in a row are flat. -/
theorem isFlat_append (s t : Text) : isFlat (s ++ t) = (s.isFlat && t.isFlat) := lacks_append s t

/-- What is taken from a flat text is flat. -/
theorem isFlat_of_subset {s t : Text} (h : s ⊆ t) (hFlat : t.isFlat = true) : s.isFlat = true :=
  lacks_iff.mpr fun c hc => lacks_iff.mp hFlat c (h hc)

/-- So is what is joined from flat texts, -/
theorem isFlat_join {separator : Text} (hSeparator : separator.isFlat = true) {parts : List Text}
    (hParts : ∀ part ∈ parts, part.isFlat = true) : isFlat (join separator parts) = true :=
  lacks_join hSeparator hParts

/-- and what is put together from them. -/
theorem isFlat_flatMap {α : Type} {f : α → Text} {items : List α}
    (h : ∀ item ∈ items, (f item).isFlat = true) : isFlat (items.flatMap f) = true :=
  lacks_iff.mpr fun c hc => by
    obtain ⟨item, hItem, hc⟩ := List.mem_flatMap.mp hc
    exact lacks_iff.mp (h item hItem) c hc

/-- Digits are flat. -/
theorem isFlat_ofNat (n : Nat) : isFlat (ofNat n) = true := by
  refine lacks_ofNat (fun c hc => ?_) n
  rw [beq_eq_false_iff_ne]
  rintro rfl
  cases hc

/-- So are hexadecimal digits. -/
theorem isFlat_hexPadded (width n : Nat) : isFlat (hexPadded width n) = true := by
  induction width generalizing n with
  | zero => rfl
  | succ width ih =>
    have hDigits : ∀ d : Fin 16, isFlat [hexDigit d] = true := by decide
    rw [hexPadded, isFlat_append, ih, hDigits ⟨n % 16, Nat.mod_lt n (by omega)⟩]
    rfl

/-- A line feed is escaped between quotes. -/
theorem isFlat_quoted (t : Text) : t.quoted.isFlat = true := by
  have hQuote : isFlat [t.quoteFor] = true := by
    unfold quoteFor
    split <;> rfl
  have hUnits : isFlat (t.flatMap (displayUnit t.quoteFor)) = true := by
    refine isFlat_flatMap fun c _ => ?_
    unfold displayUnit
    split_ifs with hEscaped
    · rcases Bool.or_eq_true _ _ ▸ hEscaped with hc | hc
      · rw [eq_of_beq hc]
        exact hQuote
      · rw [eq_of_beq hc]
        rfl
    all_goals first | rfl | (rw [isFlat_append, isFlat_hexPadded]; rfl) | simp_all [isFlat, lacks]
  rw [quoted, ← List.singleton_append, isFlat_append, isFlat_append, hQuote, hUnits]
  rfl

end Text

namespace Decimal

/-- The digits of a decimal are flat, with the point and the exponent. -/
theorem isFlat_layout (d : Digits) : d.layout.isFlat = true := by
  have hDigits := Text.isFlat_ofNat d.digits
  have hTake (n : Nat) := Text.isFlat_of_subset (List.take_subset n _) hDigits
  have hDrop (n : Nat) := Text.isFlat_of_subset (List.drop_subset n _) hDigits
  have hFill (n : Nat) : (Text.fill n '0').isFlat = true := Text.lacks_fill rfl n
  unfold Digits.layout exponentText
  dsimp only
  split_ifs <;>
    simp only [Text.isFlat_append, Text.isFlat_ofNat, hTake, hDrop, hFill] <;> rfl

/-- A number is flat if its special values are. -/
theorem isFlat_display {special : Special} (hInfinity : special.infinity.isFlat = true)
    (hNan : special.nan.isFlat = true) (x : Float) : (display special x).isFlat = true := by
  have hSign (negative : Bool) : (sign negative).isFlat = true := by cases negative <;> rfl
  unfold display
  split
  · exact hNan
  · rw [Text.isFlat_append, hSign, hInfinity]
    rfl
  · rw [Text.isFlat_append, hSign]
    split
    · rfl
    · exact isFlat_layout _

end Decimal

namespace Data

mutual

/-- Data is shown on one line. -/
theorem isFlat_display : ∀ data : Data, data.display.isFlat = true
  | .null => rfl
  | .bool value => by cases value <;> rfl
  | .int (.ofNat n) => Text.isFlat_ofNat n
  | .int (.negSucc n) => by
    rw [display, Text.ofInt, Text.isFlat_append, Text.isFlat_ofNat]
    rfl
  | .float value => Decimal.isFlat_display rfl rfl value
  | .text value => Text.isFlat_quoted value
  | .list items => by
    rw [display, Text.isFlat_append, Text.isFlat_append,
      Text.isFlat_join rfl (isFlat_displayList items)]
    rfl
  | .object fields => by
    rw [display, Text.isFlat_append, Text.isFlat_append,
      Text.isFlat_join rfl (isFlat_displayFields fields)]
    rfl

/-- So are its items, -/
theorem isFlat_displayList : ∀ items : List Data, ∀ t ∈ displayList items, t.isFlat = true
  | [] => by simp [displayList]
  | item :: rest => List.forall_mem_cons.mpr ⟨isFlat_display item, isFlat_displayList rest⟩

/-- and its fields. -/
theorem isFlat_displayFields :
    ∀ fields : List (Text × Data), ∀ t ∈ displayFields fields, t.isFlat = true
  | [] => by simp [displayFields]
  | (name, value) :: rest => List.forall_mem_cons.mpr ⟨by
      rw [Text.isFlat_append, Text.isFlat_append, Text.isFlat_quoted, isFlat_display value]
      rfl, isFlat_displayFields rest⟩

end

end Data

namespace Print

/-- The text with the indentation of some levels behind each line feed. -/
def deepen (depth : Nat) (t : Text) : Text :=
  t.flatMap fun (c : CodePoint) => if c == '\n' then c :: indent depth else [c]

variable {level depth : Nat} {t : Text}

/-- Texts in a row are deepened one by one. -/
@[simp]
theorem deepen_append (s t : Text) : deepen depth (s ++ t) = deepen depth s ++ deepen depth t :=
  List.flatMap_append

/-- A flat text stays as it is. -/
@[simp]
theorem deepen_of_isFlat (h : t.isFlat = true) : deepen depth t = t := by
  rw [Text.isFlat, Text.lacks_iff] at h
  induction t with
  | nil => rfl
  | cons c t ih =>
    obtain ⟨hc, hRest⟩ := List.forall_mem_cons.mp h
    rw [deepen, List.flatMap_cons, hc]
    exact congrArg (c :: ·) (ih hRest)

/-- Indentations add up. -/
theorem indent_add (depth level : Nat) : indent (level + depth) = indent depth ++ indent level := by
  simp only [indent, Text.fill, List.replicate_append_replicate]
  congr 1
  omega

/-- An indentation is flat. -/
theorem deepen_indent : deepen depth (indent level) = indent level :=
  deepen_of_isFlat (Text.lacks_fill rfl _)

/-- Behind a line feed comes the indentation. -/
theorem deepen_newline : deepen depth "\n" = Text.ofString "\n" ++ indent depth := by
  simp [deepen, Text.ofString]

/-- Parentheses stay around the deepened text. -/
@[simp]
theorem deepen_wrap (parens : Bool) (t : Text) :
    deepen depth (wrap parens t) = wrap parens (deepen depth t) := by
  cases parens
  · rfl
  · simp (disch := decide) only [wrap, if_true, deepen_append, deepen_of_isFlat]

/-- Items between commas are deepened one by one. -/
@[simp]
theorem deepen_commas (items : List Text) :
    deepen depth (commas items) = commas (items.map (deepen depth)) := by
  induction items with
  | nil => rfl
  | cons item items ih =>
    cases items with
    | nil => simp [commas, Text.join]
    | cons next rest =>
      simp only [commas, Text.join, List.map_cons, List.intercalate_cons_cons, deepen_append] at ih ⊢
      rw [ih, deepen_of_isFlat (t := ", ") rfl]

/-- A line one level down from the lines that it stands among. -/
def lower (depth : Nat) (line : Text) : Text := indent depth ++ deepen depth line

/-- Lines are lowered one by one. -/
theorem deepen_lines (depth : Nat) {s : Text} (hSeparator : s.isFlat = true) (line : Text)
    (lines : List Text) :
    lower depth (Text.join (s ++ "\n") (line :: lines)) =
      Text.join (s ++ "\n") ((line :: lines).map (lower depth)) := by
  induction lines generalizing line with
  | nil => simp [Text.join]
  | cons next rest ih =>
    simp only [Text.join, List.map_cons, List.intercalate_cons_cons] at ih ⊢
    rw [← ih]
    simp [lower, deepen_append, hSeparator, deepen_newline]

/-- Lines between braces are lowered, and so is the closing brace. -/
@[simp]
theorem deepen_braces {separator : Text} (hSeparator : separator.isFlat = true)
    (lines : List Text) :
    deepen depth (braces level separator lines) =
      braces (level + depth) separator (lines.map (lower depth)) := by
  cases lines with
  | nil => rfl
  | cons line lines =>
    have hLines := deepen_lines depth hSeparator line lines
    have hOpen : deepen depth "\x7b\n" = Text.ofString "\x7b\n" ++ indent depth :=
      (deepen_append "\x7b" "\n").trans (congrArg (Text.ofString "\x7b" ++ ·) deepen_newline)
    simp only [braces, List.isEmpty_cons, List.map_cons] at hLines ⊢
    rw [← hLines]
    simp only [Bool.false_eq_true, if_false, deepen_append, hOpen, deepen_newline, deepen_indent,
      indent_add, deepen_of_isFlat (t := "\x7d") rfl, lower, List.append_assoc]

/-! ## What an expression starts with -/

/-- The first code point stays. -/
theorem deepen_cons (c : CodePoint) (t : Text) :
    deepen depth (c :: t) = c :: ((if c == '\n' then indent depth else []) ++ deepen depth t) := by
  rw [deepen, List.flatMap_cons]
  split <;> rfl

/-- A text starts with the same flat words, -/
theorem startsWith_deepen {word : Text} (hWord : word.isFlat = true) (t : Text) :
    (deepen depth t).startsWith word = t.startsWith word := by
  rw [Text.isFlat, Text.lacks_iff] at hWord
  induction word generalizing t with
  | nil => simp [Text.startsWith]
  | cons w word ih =>
    obtain ⟨hw, hRest⟩ := List.forall_mem_cons.mp hWord
    cases t with
    | nil => rfl
    | cons c t =>
      have hTail := ih hRest t
      simp only [Text.startsWith, deepen_cons, List.isPrefixOf_cons_cons] at hTail ⊢
      by_cases hEq : w = c
      · rw [← hEq, hw, ← hTail]
        rfl
      · rw [beq_false_of_ne hEq, Bool.false_and, Bool.false_and]

/-- What is looked at behind a word that the text starts with. -/
theorem startsWith_and_deepen {word : Text} {n : Nat} (f : Text → Bool)
    (hWord : word.isFlat = true) (hLength : word.length = n)
    (hf : ∀ t, f (deepen depth t) = f t) (t : Text) :
    ((deepen depth t).startsWith word && f ((deepen depth t).drop n)) =
      (t.startsWith word && f (t.drop n)) := by
  rw [startsWith_deepen hWord]
  cases hStart : t.startsWith word with
  | false => rfl
  | true =>
    obtain ⟨rest, rfl⟩ := List.isPrefixOf_iff_prefix.mp hStart
    rw [deepen_append, deepen_of_isFlat hWord, ← hLength, List.drop_left, List.drop_left, hf]

/-- and they end where they did. -/
theorem startsWithWord_deepen {word : String} (hWord : (Text.ofString word).isFlat = true)
    (t : Text) : startsWithWord (deepen depth t) word = startsWithWord t word := by
  have hLength : (Text.ofString word).length = word.length := by
    simp [Text.ofString, String.length_toList]
  refine startsWith_and_deepen wordEnds hWord hLength (fun t => ?_) t
  cases t with
  | nil => rfl
  | cons c t => rw [deepen_cons]; rfl

/-- Indentation is blank. -/
theorem stripLeft_deepen (t : Text) :
    Text.stripLeft (deepen depth t) = deepen depth (Text.stripLeft t) := by
  induction t with
  | nil => rfl
  | cons c t ih =>
    simp only [Text.stripLeft] at ih ⊢
    by_cases hBlank : c.isBlank = true
    · have hIndent : ∀ d ∈ (if c == '\n' then indent depth else []), d.isBlank = true := by
        intro d hd
        split at hd
        · exact (List.eq_of_mem_replicate hd).symm ▸ rfl
        · cases hd
      rw [deepen_cons, List.dropWhile_cons_of_pos hBlank, List.dropWhile_cons_of_pos hBlank,
        List.dropWhile_append_of_pos hIndent, ih]
    · rw [List.dropWhile_cons_of_neg hBlank, deepen_cons, List.dropWhile_cons_of_neg hBlank]

/-- An expression stays ambiguous as a statement. -/
theorem isAmbiguousStart_deepen (t : Text) :
    isAmbiguousStart (deepen depth t) = isAmbiguousStart t := by
  have hAsync : ((deepen depth t).startsWith "async" && _) = _ := startsWith_and_deepen
    (fun u => u.head?.any CodePoint.isBlank && startsWithWord (Text.stripLeft u) "function")
    rfl rfl (fun u => by
      rw [stripLeft_deepen, startsWithWord_deepen rfl]
      cases u with
      | nil => rfl
      | cons c u => rw [deepen_cons]; rfl) t
  have hLet : ((deepen depth t).startsWith "let" && _) = _ := startsWith_and_deepen
    (fun u => (Text.stripLeft u).startsWith "[") rfl rfl
    (fun u => by rw [stripLeft_deepen, startsWith_deepen rfl]) t
  simp only [isAmbiguousStart]
  rw [startsWith_deepen rfl, startsWithWord_deepen rfl, startsWithWord_deepen rfl]
  exact congrArg₂ _ (congrArg _ hAsync) hLet

/-- A statement takes parentheses at all levels or at none. -/
@[simp]
theorem deepen_statementText (t : Text) :
    deepen depth (statementText t) = statementText (deepen depth t) := by
  rw [statementText, deepen_append, deepen_wrap, deepen_of_isFlat (t := ";") rfl, statementText,
    isAmbiguousStart_deepen]

/-! ## Nodes -/

end Print

namespace Print

/-- A node prints the same at all levels, up to indentation, on its own and as a method. -/
structure Deepens (depth : Nat) (node : Node) : Prop where
  text (level : Nat) : printAt (level + depth) node = deepen depth <$> printAt level node
  tail (level : Nat) : methodTail (level + depth) node = deepen depth <$> methodTail level node

variable {depth : Nat} {nodes : List Node}

/-- A comma behind a hole stays. -/
@[simp]
theorem deepen_closingComma (elements : List (Option Node)) :
    deepen depth (closingComma elements) = closingComma elements := by
  unfold closingComma
  split <;> rfl

/-- A word in front of a key stays. -/
@[simp]
theorem deepen_accessorLead (kind : Text) :
    deepen depth (accessorLead kind) = accessorLead kind := by
  unfold accessorLead
  split
  · rename_i hKind
    obtain hKind | hKind := Bool.or_eq_true _ _ ▸ hKind <;> rw [eq_of_beq hKind] <;> rfl
  · rfl

/-- The words in front of a method stay. -/
@[simp]
theorem deepen_methodWords (value : Node) : deepen depth (methodWords value) = methodWords value := by
  unfold methodWords
  split
  · rename_i isAsync isGenerator _
    cases isAsync <;> cases isGenerator <;> rfl
  · rfl

/-- Only functions are printed as methods. -/
theorem Deepens.of_text {node : Node} (hNode : node.isFunction = false)
    (h : ∀ level, printAt (level + depth) node = deepen depth <$> printAt level node) :
    Deepens depth node :=
  ⟨h, fun level => by cases node <;> first | rfl | cases hNode⟩

end Print

end Assay
