import Assay.Proofs.Concrete.Extents
import Assay.Proofs.Print.Segments

/-!
# Templates and their source

A template is read as fixed parts with expressions between them. The fixed parts are the gaps that the
substitutions leave in the template (`Shape.gaps`), and each keeps the text and the place of its gap
(`Quasi.StandsAt`). Printing puts the expressions back between them, so the printed template is the source
of the template with other texts in the place of the substitutions (`Text.spliced`).
-/

set_option autoImplicit false

namespace Assay

variable {items : List (Shape × Text)} {shapes : List Shape} {quasis : List Quasi}

/-- The substitutions among the children of a template. -/
def Concrete.substitutions (children : List Concrete) : List Concrete :=
  children.filter fun child => child.shape.named && child.shape.form = .templateSubstitution

/-- The byte offsets of what the shapes leave of a stretch: a gap before each and one behind the last. -/
def Shape.gaps (stop : Int) : Int → List Shape → List (Int × Int)
  | start, [] => [(start, stop)]
  | start, shape :: rest => (start, shape.start) :: gaps stop shape.stop rest

/-- The text between two byte offsets. -/
def Text.between (code : Text) (start stop : Int) : Option Text :=
  Text.ofBytes? (code.bytes.extract start.toNat stop.toNat)

/-- The text between two byte offsets, with other texts in the place of the shapes in it. -/
def Text.spliced (code : Text) (stop : Int) : Int → List (Shape × Text) → Option Text
  | start, [] => code.between start stop
  | start, (shape, text) :: rest => do
    return (← code.between start shape.start) ++ text ++ (← code.spliced stop shape.stop rest)

/-- The byte offset is a boundary of the code. -/
def Text.Cuts (code : Text) (byte : Int) : Prop := ∃ n : Nat, byte = n ∧ code.IsBoundary n

/-- The fixed part is the text between two byte offsets and names its place. -/
structure Quasi.StandsAt (code : Text) (gap : Int × Int) (quasi : Quasi) : Prop where
  between : code.between gap.1 gap.2 = some quasi.raw
  span : ∃ start stop, (Source.ofText code).offset? gap.1 = some start ∧
    (Source.ofText code).offset? gap.2 = some stop ∧ quasi.span = .between start stop ∧
    code.slice start stop = quasi.raw
  cooked : Escape.resolve quasi.raw = .ok quasi.cooked

open Outcome

/-! ## Stretches between boundaries -/

namespace Text

variable {code : Text} (h : code.hasSurrogate = false)

include h

omit h in
theorem cuts_size (before after : Text) : (before ++ after).Cuts before.bytes.size :=
  ⟨_, rfl, before, after, rfl, rfl⟩

omit h in
theorem between_size {before inside after : Text}
    (h : (before ++ inside ++ after).hasSurrogate = false) :
    (before ++ inside ++ after).between before.bytes.size (before ++ inside).bytes.size =
      some inside := by
  have hInside := (hasSurrogate_append.1 (hasSurrogate_append.1 h).1).2
  rw [between, Int.toNat_natCast, Int.toNat_natCast, bytes_extract, ofBytes?_bytes hInside]

theorem between_of_cuts {start stop : Int} (hStart : code.Cuts start) (hStop : code.Cuts stop) :
    ∃ first last, (Source.ofText code).offset? start = some first ∧
      (Source.ofText code).offset? stop = some last ∧
      (Source.ofText code).text? start stop = some (code.slice first last) ∧
      code.between start stop = some (code.slice first last) := by
  obtain ⟨a, rfl, hA⟩ := hStart
  obtain ⟨b, rfl, hB⟩ := hStop
  exact Source.ofBytes?_extract h hA hB

/-- Two stretches with a boundary between them make up one. -/
theorem between_append {start middle stop : Int} (hStart : code.Cuts start)
    (hMiddle : code.Cuts middle) (hStop : code.Cuts stop) (hFirst : start ≤ middle)
    (hSecond : middle ≤ stop) {first second : Text} (hT : code.between start middle = some first)
    (hU : code.between middle stop = some second) :
    code.between start stop = some (first ++ second) := by
  have hBytes {a b : Nat} (hA : code.IsBoundary a) (hB : code.IsBoundary b) (hOrder : a ≤ b)
      {t : Text} (hT : code.between a b = some t) :
      t.hasSurrogate = false ∧ code.bytes.extract a b = t.bytes := by
    obtain ⟨before, inside, after, rfl, rfl, rfl⟩ := hA.cut h hB hOrder
    obtain rfl := Option.some.inj ((between_size h).symm.trans hT)
    exact ⟨(hasSurrogate_append.1 (hasSurrogate_append.1 h).1).2, bytes_extract _ _ _⟩
  obtain ⟨a, rfl, hA⟩ := hStart
  obtain ⟨b, rfl, hB⟩ := hMiddle
  obtain ⟨c, rfl, hC⟩ := hStop
  have hAB : a ≤ b := by omega
  have hBC : b ≤ c := by omega
  obtain ⟨hClean, hLeft⟩ := hBytes hA hB hAB hT
  obtain ⟨hClean', hRight⟩ := hBytes hB hC hBC hU
  rw [between, Int.toNat_natCast, Int.toNat_natCast,
    ByteArray.extract_eq_extract_append_extract b hAB hBC, hLeft, hRight, ← bytes_append]
  exact ofBytes?_bytes (hasSurrogate_append.2 ⟨hClean, hClean'⟩)

end Text

theorem Shape.IsCut.cuts_start {code : Text} {shape : Shape} (h : shape.IsCut code) :
    code.Cuts shape.start := by
  obtain ⟨start, -, hStart, -, hBoundary, -⟩ := h
  exact ⟨start, hStart, hBoundary⟩

theorem Shape.IsCut.cuts_stop {code : Text} {shape : Shape} (h : shape.IsCut code) :
    code.Cuts shape.stop := by
  obtain ⟨-, stop, -, hStop, -, hBoundary⟩ := h
  exact ⟨stop, hStop, hBoundary⟩

namespace Shape

theorem inOrder_cons {start stop : Int} {shape : Shape} {rest : List Shape} :
    inOrder start stop (shape :: rest) = true ↔
      start ≤ shape.start ∧ shape.start ≤ shape.stop ∧ inOrder shape.stop stop rest = true := by
  simp [inOrder, and_assoc]

theorem le_of_inOrder {start stop : Int} (h : inOrder start stop shapes = true) : start ≤ stop := by
  induction shapes generalizing start with
  | nil => simpa [inOrder] using h
  | cons shape rest ih =>
    obtain ⟨hStart, hShape, hRest⟩ := inOrder_cons.1 h
    have hStop := ih hRest
    omega

theorem inOrder_mono {start stop front back : Int} (h : inOrder start stop shapes = true)
    (hFront : front ≤ start) (hBack : stop ≤ back) : inOrder front back shapes = true := by
  induction shapes generalizing start front with
  | nil =>
    have hOrder := le_of_inOrder h
    simp only [inOrder, decide_eq_true_eq]
    omega
  | cons shape rest ih =>
    obtain ⟨hStart, hShape, hRest⟩ := inOrder_cons.1 h
    exact inOrder_cons.2 ⟨by omega, hShape, ih hRest (Int.le_refl _)⟩

end Shape

/-! ## Texts in the place of shapes -/

namespace Text

variable {code : Text} (h : code.hasSurrogate = false) {start stop : Int}

include h

/-- Where each shape keeps its own text nothing changes. -/
theorem spliced_self (hStart : code.Cuts start) (hStop : code.Cuts stop)
    (hCut : ∀ item ∈ items, item.1.IsCut code)
    (hOrder : Shape.inOrder start stop (items.map (·.1)) = true)
    (hOwn : ∀ item ∈ items, code.between item.1.start item.1.stop = some item.2) :
    code.spliced stop start items = code.between start stop := by
  induction items generalizing start with
  | nil => rfl
  | cons item rest ih =>
    obtain ⟨hFirst, hShape, hRest⟩ := Shape.inOrder_cons.1 hOrder
    obtain ⟨hHere, hOthers⟩ := List.forall_mem_cons.1 hCut
    obtain ⟨hText, hTexts⟩ := List.forall_mem_cons.1 hOwn
    obtain ⟨_, _, -, -, -, hGap⟩ := between_of_cuts h hStart hHere.cuts_start
    obtain ⟨_, _, -, -, -, hEnd⟩ := between_of_cuts h hHere.cuts_stop hStop
    have hLater := Shape.le_of_inOrder hRest
    have hUpTo := between_append h hStart hHere.cuts_start hHere.cuts_stop hFirst hShape hGap hText
    have hWhole := between_append h hStart hHere.cuts_stop hStop
      (Int.le_trans hFirst hShape) hLater hUpTo hEnd
    rw [spliced, ih hHere.cuts_stop hOthers hRest hTexts, hGap, hEnd, hWhole]
    rfl

/-- A stretch in front of the whole. -/
theorem spliced_prepend {front : Int} (hFront : code.Cuts front) (hStart : code.Cuts start)
    (hStop : code.Cuts stop) (hCut : ∀ item ∈ items, item.1.IsCut code)
    (hOrder : Shape.inOrder start stop (items.map (·.1)) = true) (hLess : front ≤ start)
    {lead t : Text} (hLead : code.between front start = some lead)
    (hText : code.spliced stop start items = some t) :
    code.spliced stop front items = some (lead ++ t) := by
  cases items with
  | nil => exact between_append h hFront hStart hStop hLess (Shape.le_of_inOrder hOrder) hLead hText
  | cons item rest =>
    obtain ⟨hFirst, -, -⟩ := Shape.inOrder_cons.1 hOrder
    have hHere := (List.forall_mem_cons.1 hCut).1
    simp only [spliced, Option.bind_eq_bind, Option.bind_eq_some_iff, pure, Option.some.injEq]
      at hText ⊢
    obtain ⟨gap, hGap, others, hOthers, rfl⟩ := hText
    have hUpTo := between_append h hFront hStart hHere.cuts_start hLess hFirst hLead hGap
    exact ⟨lead ++ gap, hUpTo, others, hOthers, by simp⟩

/-- A stretch behind the whole. -/
theorem spliced_extend {back : Int} (hBack : code.Cuts back) (hStart : code.Cuts start)
    (hStop : code.Cuts stop) (hCut : ∀ item ∈ items, item.1.IsCut code)
    (hOrder : Shape.inOrder start stop (items.map (·.1)) = true) (hLess : stop ≤ back)
    {tail t : Text} (hTail : code.between stop back = some tail)
    (hText : code.spliced stop start items = some t) :
    code.spliced back start items = some (t ++ tail) := by
  induction items generalizing start t with
  | nil => exact between_append h hStart hStop hBack (Shape.le_of_inOrder hOrder) hLess hText hTail
  | cons item rest ih =>
    obtain ⟨-, -, hRest⟩ := Shape.inOrder_cons.1 hOrder
    obtain ⟨hHere, hLater⟩ := List.forall_mem_cons.1 hCut
    simp only [spliced, Option.bind_eq_bind, Option.bind_eq_some_iff, pure, Option.some.injEq]
      at hText ⊢
    obtain ⟨gap, hGap, others, hOthers, rfl⟩ := hText
    exact ⟨gap, hGap, others ++ tail, ih hHere.cuts_stop hLater hRest hOthers, by simp⟩

end Text

/-! ## Reading the parts of a template -/

theorem Outcome.succeeds_bind_iff {ε α β : Type} {x : Except ε α} {f : α → Except ε β} {p : Prop}
    (h : ∀ a, Succeeds (f a) ↔ p) : Succeeds (x >>= f) ↔ Succeeds x ∧ p := by
  constructor
  · intro hAll
    obtain ⟨a, ha, hRest⟩ := hAll.of_bind
    exact ⟨⟨a, ha⟩, (h a).1 hRest⟩
  · rintro ⟨hFirst, hRest⟩
    exact hFirst.bind fun a _ => (h a).2 hRest

namespace Lower

open Source

variable {code : Text} (h : code.hasSurrogate = false)

include h

theorem quasi_eq_ok {start stop : Int} (hStart : code.Cuts start) (hStop : code.Cuts stop)
    {tail : Bool} {part : Quasi} :
    quasi (ofText code) start stop tail = .ok part ↔
      part.StandsAt code (start, stop) ∧ part.tail = tail := by
  obtain ⟨first, last, hFirst, hLast, hText, hBetween⟩ := Text.between_of_cuts h hStart hStop
  have hRaw : (ofText code).text start stop = .ok (code.slice first last) := by
    rw [text, hText]
  have hSpan : (ofText code).span start stop = .ok (.between first last) := by
    rw [span, span?, hFirst, hLast]
    rfl
  rw [quasi, hRaw, ok_bind, hSpan, ok_bind, unescape]
  constructor
  · intro hPart
    split at hPart
    · rename_i cooked hCooked
      obtain rfl := Except.ok.inj hPart
      exact ⟨⟨hBetween, ⟨first, last, hFirst, hLast, rfl, rfl⟩, hCooked⟩, rfl⟩
    · cases hPart
  · rintro ⟨⟨hBytes, ⟨low, high, hLow, hHigh, hPlace, -⟩, hCooked⟩, rfl⟩
    cases hFirst.symm.trans hLow
    cases hLast.symm.trans hHigh
    obtain ⟨place, raw, cooked, tail⟩ := part
    obtain rfl : raw = code.slice first last := Option.some.inj (hBytes.symm.trans hBetween)
    obtain rfl : place = .between first last := hPlace
    dsimp only at hCooked
    rw [hCooked]
    rfl

/-- A fixed part is read exactly if its escapes can be resolved. -/
theorem succeeds_quasi_iff {start stop : Int} (hStart : code.Cuts start) (hStop : code.Cuts stop)
    (tail : Bool) :
    Succeeds (quasi (ofText code) start stop tail) ↔
      ∀ raw, code.between start stop = some raw → Succeeds (Escape.resolve raw) := by
  obtain ⟨first, last, hFirst, hLast, -, hBetween⟩ := Text.between_of_cuts h hStart hStop
  constructor
  · rintro ⟨part, hPart⟩ raw hRaw
    have hStands := ((quasi_eq_ok h hStart hStop).1 hPart).1
    obtain rfl : part.raw = raw := Option.some.inj (hStands.between.symm.trans hRaw)
    exact ⟨_, hStands.cooked⟩
  · intro hEscapes
    obtain ⟨cooked, hCooked⟩ := hEscapes _ hBetween
    refine ⟨⟨.between first last, code.slice first last, cooked, tail⟩, ?_⟩
    apply (quasi_eq_ok h hStart hStop).2
    exact ⟨⟨hBetween, ⟨first, last, hFirst, hLast, rfl, rfl⟩, hCooked⟩, rfl⟩

end Lower

namespace Concrete

open Source

/-- What a substitution holds. -/
def inner (source : Source) (substitution : Concrete) : Read Node :=
  (reading source substitution).parts.operand

/-- The substitutions and the fixed parts around them are read as the given parts of a template. -/
structure ReadsAs (code : Text) (stop start : Int) (children : List Concrete) (quasis : List Quasi)
    (expressions : List Node) : Prop where
  fixed : List.Forall₂ (Quasi.StandsAt code)
    (Shape.gaps stop start ((substitutions children).map Concrete.shape)) quasis
  tails : quasis.map Quasi.tail = List.replicate expressions.length false ++ [true]
  filled : List.Forall₂ (fun substitution expression =>
    substitution.inner (ofText code) = .ok expression) (substitutions children) expressions

variable {code : Text} (h : code.hasSurrogate = false) {stop : Int}

/-- A substitution ends a fixed part, and no other child does. -/
theorem templateParts_cons (source : Source) (start : Int) (child : Concrete)
    (rest : List Concrete) :
    Lower.templateParts source stop start (readings source (child :: rest)) =
      if child.shape.named && child.shape.form = .templateSubstitution then do
        let fixed ← Lower.quasi source start child.shape.start false
        let expression ← child.inner source
        let parts ← Lower.templateParts source stop child.shape.stop (readings source rest)
        return (fixed :: parts.1, expression :: parts.2)
      else Lower.templateParts source stop start (readings source rest) := by
  rw [readings, Lower.templateParts, Reading.form, shape_reading]
  rfl

include h

/-- What the parts of a template are read as. -/
theorem templateParts_eq_ok {children : List Concrete} {start : Int} (hStart : code.Cuts start)
    (hStop : code.Cuts (stop - 1))
    (hCut : ∀ child ∈ substitutions children, child.shape.IsCut code) {expressions : List Node} :
    Lower.templateParts (ofText code) stop start (readings (ofText code) children) =
        .ok (quasis, expressions) ↔
      ReadsAs code (stop - 1) start children quasis expressions := by
  induction children generalizing start quasis expressions with
  | nil =>
    simp only [readings, Lower.templateParts, bind_eq_ok, Lower.quasi_eq_ok h hStart hStop,
      pure_eq_ok, Prod.mk.injEq]
    constructor
    · rintro ⟨part, ⟨hStands, hTail⟩, rfl, rfl⟩
      exact ⟨.cons hStands .nil, congrArg (· :: []) hTail, .nil⟩
    · rintro ⟨hFixed, hTails, hFilled⟩
      cases hFilled
      obtain _ | ⟨hStands, hNone⟩ := hFixed
      cases hNone
      exact ⟨_, ⟨hStands, List.head_eq_of_cons_eq hTails⟩, rfl, rfl⟩
  | cons child rest ih =>
    rw [templateParts_cons]
    split
    · rename_i hSubstitution
      have hAll : substitutions (child :: rest) = child :: substitutions rest :=
        List.filter_cons_of_pos hSubstitution
      rw [hAll] at hCut
      obtain ⟨hHere, hRest⟩ := List.forall_mem_cons.1 hCut
      simp only [bind_eq_ok, Lower.quasi_eq_ok h hStart hHere.cuts_start, pure_eq_ok, Prod.exists,
        Prod.mk.injEq, ih hHere.cuts_stop hRest]
      constructor
      · rintro ⟨part, ⟨hStands, hTail⟩, expression, hInner, quasis, expressions, hReads, rfl, rfl⟩
        refine ⟨?_, ?_, ?_⟩
        · rw [hAll]
          exact .cons hStands hReads.fixed
        · rw [List.map_cons, hTail, hReads.tails]
          rfl
        · rw [hAll]
          exact .cons hInner hReads.filled
      · rintro ⟨hFixed, hTails, hFilled⟩
        rw [hAll] at hFixed hFilled
        obtain _ | ⟨hInner, hFilled⟩ := hFilled
        obtain _ | ⟨hStands, hFixed⟩ := hFixed
        obtain ⟨hTail, hTails⟩ := List.cons_eq_cons.1 hTails
        exact ⟨_, ⟨hStands, hTail⟩, _, hInner, _, _, ⟨hFixed, hTails, hFilled⟩, rfl, rfl⟩
    · rename_i hOther
      have hAll : substitutions (child :: rest) = substitutions rest :=
        List.filter_cons_of_neg hOther
      rw [hAll] at hCut
      rw [ih hStart hCut]
      constructor
      · rintro ⟨hFixed, hTails, hFilled⟩
        exact ⟨hAll ▸ hFixed, hTails, hAll ▸ hFilled⟩
      · rintro ⟨hFixed, hTails, hFilled⟩
        exact ⟨hAll ▸ hFixed, hTails, hAll ▸ hFilled⟩

/-- A template is read exactly if its substitutions are and the escapes between them can be resolved. -/
theorem succeeds_templateParts_iff {children : List Concrete} {start : Int}
    (hStart : code.Cuts start) (hStop : code.Cuts (stop - 1))
    (hCut : ∀ child ∈ substitutions children, child.shape.IsCut code) :
    Succeeds (Lower.templateParts (ofText code) stop start (readings (ofText code) children)) ↔
      (∀ child ∈ substitutions children, Succeeds (child.inner (ofText code))) ∧
      ∀ gap ∈ Shape.gaps (stop - 1) start ((substitutions children).map Concrete.shape), ∀ raw,
        code.between gap.1 gap.2 = some raw → Succeeds (Escape.resolve raw) := by
  induction children generalizing start with
  | nil =>
    have hEnd : ∀ part : Quasi, Succeeds (pure ([part], []) : Read (List Quasi × List Node)) ↔ True :=
      fun part => iff_of_true (succeeds_pure _) trivial
    rw [readings, Lower.templateParts, succeeds_bind_iff hEnd,
      Lower.succeeds_quasi_iff h hStart hStop]
    simp [substitutions, Shape.gaps]
  | cons child rest ih =>
    rw [templateParts_cons]
    split
    · rename_i hSubstitution
      have hAll : substitutions (child :: rest) = child :: substitutions rest :=
        List.filter_cons_of_pos hSubstitution
      rw [hAll] at hCut ⊢
      obtain ⟨hHere, hRest⟩ := List.forall_mem_cons.1 hCut
      rw [succeeds_bind_iff fun part => succeeds_bind_iff fun expression =>
        succeeds_bind_iff fun parts => iff_of_true (succeeds_pure _) trivial,
        Lower.succeeds_quasi_iff h hStart hHere.cuts_start, ih hHere.cuts_stop hRest,
        List.map_cons, Shape.gaps, List.forall_mem_cons, List.forall_mem_cons]
      tauto
    · rename_i hOther
      have hAll : substitutions (child :: rest) = substitutions rest :=
        List.filter_cons_of_neg hOther
      rw [hAll] at hCut ⊢
      exact ih hStart hCut

end Concrete

/-! ## Printing a template -/

namespace Print

/-- A text between the marks of a substitution. -/
def substituted (text : Text) : Text := "$\x7b" ++ text ++ "\x7d"

/-- The fixed parts of a template with the texts of its substitutions between them. -/
def interleaved : List Text → List Text → Text
  | fixed, [] => fixed.flatten
  | [], _ :: _ => []
  | first :: fixed, text :: texts => first ++ substituted text ++ interleaved fixed texts

variable {code : Text} {stop : Int} {level : Nat}

theorem printTemplate_eq (quasis : List Quasi) (expressions : List Node)
    (h : expressions.length ≤ quasis.length) :
    printTemplate level quasis expressions =
      interleaved (quasis.map Quasi.raw) <$> expressions.mapM (printAt level) := by
  induction expressions generalizing quasis with
  | nil => simp [printTemplate, interleaved, List.flatMap_def, pure, Except.pure]
  | cons expression rest ih =>
    cases quasis with
    | nil => simp at h
    | cons quasi quasis =>
      have hRest : rest.length ≤ quasis.length := by simpa using h
      rw [printTemplate, ih quasis hRest, List.mapM_cons]
      cases printAt level expression with
      | error error => rfl
      | ok text =>
        cases rest.mapM (printAt level) with
        | error error => rfl
        | ok texts => simp [interleaved, substituted, pure, Except.pure]

theorem spliced_eq_interleaved {start : Int}
    (hFixed : List.Forall₂ (Quasi.StandsAt code) (Shape.gaps stop start shapes) quasis)
    {texts : List Text} (hLength : texts.length = shapes.length) :
    code.spliced stop start (shapes.zip (texts.map substituted)) =
      some (interleaved (quasis.map Quasi.raw) texts) := by
  induction shapes generalizing start quasis texts with
  | nil =>
    obtain rfl := List.eq_nil_of_length_eq_zero hLength
    obtain _ | ⟨hStands, hNone⟩ := hFixed
    cases hNone
    simpa [Text.spliced, interleaved] using hStands.between
  | cons shape shapes ih =>
    cases texts with
    | nil => simp at hLength
    | cons text texts =>
      obtain _ | ⟨hStands, hFixed⟩ := hFixed
      have hRest := ih hFixed (by simpa using hLength)
      rw [List.map_cons, List.zip_cons_cons, Text.spliced, hStands.between, hRest]
      rfl

end Print

/-! ## Whole templates -/

/-- The shape is that of a template of the code: it reaches from one backtick to another one, and its
substitutions stand between the two, one behind the other. -/
structure Concrete.IsTemplate (code : Text) (shape : Shape) (children : List Concrete) : Prop where
  form : shape.form = .templateString
  ticks : ∃ before body after : Text, code = before ++ ("`" ++ body ++ "`") ++ after ∧
    shape.start = before.bytes.size ∧ shape.stop = (before ++ ("`" ++ body ++ "`")).bytes.size
  isCut : ∀ child ∈ substitutions children, child.shape.IsCut code
  inOrder : Shape.inOrder (shape.start + 1) (shape.stop - 1)
    ((substitutions children).map Concrete.shape) = true

namespace Concrete

open Source Print

variable {code : Text} {shape : Shape} {children : List Concrete}

/-- The backticks of a template are stretches of their own. -/
theorem IsTemplate.cuts (h : IsTemplate code shape children) (hCode : code.hasSurrogate = false) :
    code.Cuts shape.start ∧ code.Cuts (shape.start + 1) ∧ code.Cuts (shape.stop - 1) ∧
      code.Cuts shape.stop ∧ code.between shape.start (shape.start + 1) = some (Text.ofString "`") ∧
      code.between (shape.stop - 1) shape.stop = some (Text.ofString "`") := by
  obtain ⟨before, body, after, hText, hStart, hStop⟩ := h.ticks
  let tick : Text := "`"
  have hTick : tick.bytes.size = 1 := by
    rw [Text.size_bytes (by decide)]
    decide
  have hSize (front : Text) : (front ++ tick).bytes.size = front.bytes.size + 1 := by
    rw [Text.bytes_append, ByteArray.size_append, hTick]
  -- The code, cut behind the first backtick and before the second one.
  have hFirst : code = before ++ tick ++ (body ++ tick ++ after) := by
    simp [hText, tick]
  have hSecond : code = before ++ tick ++ body ++ tick ++ after := by
    simp [hText, tick]
  have hInner : shape.start + 1 = (before ++ tick).bytes.size := by
    rw [hStart, hSize]
    rfl
  have hOuter : shape.stop = (before ++ tick ++ body ++ tick).bytes.size := by
    rw [hStop]
    simp [tick]
  have hLast : shape.stop - 1 = (before ++ tick ++ body).bytes.size := by
    rw [hOuter, hSize]
    omega
  refine ⟨?_, ?_, ?_, ?_, ?_, ?_⟩
  · rw [hStart, hText, List.append_assoc]
    exact Text.cuts_size _ _
  · rw [hInner, hFirst]
    exact Text.cuts_size _ _
  · rw [hLast, hSecond, List.append_assoc]
    exact Text.cuts_size _ _
  · rw [hOuter, hSecond]
    exact Text.cuts_size _ _
  · rw [hInner, hStart, hFirst]
    exact Text.between_size (hFirst ▸ hCode)
  · rw [hLast, hOuter, hSecond]
    exact Text.between_size (hSecond ▸ hCode)

theorem node_reading_template (source : Source) (hForm : shape.form = .templateString) :
    (reading source (.mk shape children)).node = source.place shape fun span => do
      let parts ← Lower.templateParts source shape.stop (shape.start + 1)
        (readings source children)
      return .templateLiteral span parts.1 parts.2 := by
  have hLink : shape.form.isLink = false := by rw [hForm]; rfl
  have hPlain : shape.form ≠ .parenthesizedExpression := by rw [hForm]; decide
  have hHere (span : Span) : Lower.linkAt source shape (readings source children) span = do
      let parts ← Lower.templateParts source shape.stop (shape.start + 1)
        (readings source children)
      return .templateLiteral span parts.1 parts.2 := by
    rw [Lower.linkAt, hForm]
  rw [reading, Reading.node, hLink, if_neg Bool.false_ne_true, Lower.link, if_neg hPlain]
  exact congrArg (source.place shape) (funext hHere)

/-- Texts in the place of the substitutions stand between boundaries. -/
theorem IsTemplate.isCut_items (h : IsTemplate code shape children)
    (hShapes : items.map Prod.fst = (substitutions children).map Concrete.shape) :
    ∀ item ∈ items, item.1.IsCut code := by
  intro item hItem
  have hShape : item.1 ∈ (substitutions children).map Concrete.shape :=
    hShapes ▸ List.mem_map_of_mem hItem
  obtain ⟨child, hChild, hEq⟩ := List.mem_map.1 hShape
  exact hEq ▸ h.isCut child hChild

/-- The fixed parts with texts between them are the source with the texts in it. -/
theorem IsTemplate.spliced_eq (h : IsTemplate code shape children)
    (hCode : code.hasSurrogate = false) {texts : List Text}
    (hFixed : List.Forall₂ (Quasi.StandsAt code) (Shape.gaps (shape.stop - 1) (shape.start + 1)
      ((substitutions children).map Concrete.shape)) quasis)
    (hCount : texts.length = ((substitutions children).map Concrete.shape).length) :
    code.spliced shape.stop shape.start (((substitutions children).map Concrete.shape).zip
      (texts.map substituted)) =
      some ("`" ++ interleaved (quasis.map Quasi.raw) texts ++ "`") := by
  obtain ⟨hFront, hStart, hStop, hBack, hFirst, hLast⟩ := h.cuts hCode
  have hShapes : (((substitutions children).map Concrete.shape).zip
      (texts.map substituted)).map Prod.fst = (substitutions children).map Concrete.shape := by
    apply List.map_fst_zip
    simp only [List.length_map] at hCount ⊢
    omega
  have hCut := h.isCut_items hShapes
  have hOrder := hShapes.symm ▸ h.inOrder
  have hInner := spliced_eq_interleaved hFixed hCount
  have hLead := Text.spliced_prepend hCode hFront hStart hStop hCut hOrder (by omega) hFirst hInner
  have hFrontLess : shape.start ≤ shape.start + 1 := by omega
  have hWide := Shape.inOrder_mono hOrder hFrontLess (Int.le_refl _)
  exact Text.spliced_extend hCode hBack hFront hStop hCut hWide (by omega) hLast hLead

/-- A template is read exactly if its substitutions are and the escapes between them can be resolved.
There is one more fixed part than there are expressions, only the last one is marked as such, and each
has the text and the place of its gap. The template is printed as its source with the printed
expressions in the place of the substitutions, where the own texts of these would give the source. -/
theorem template_verbatim (hCode : code.hasSurrogate = false) (h : IsTemplate code shape children) :
    (Succeeds (reading (ofText code) (.mk shape children)).node ↔
      (∀ child ∈ substitutions children, Succeeds (child.inner (ofText code))) ∧
      ∀ gap ∈ Shape.gaps (shape.stop - 1) (shape.start + 1)
        ((substitutions children).map Concrete.shape), ∀ raw,
        code.between gap.1 gap.2 = some raw → Succeeds (Escape.resolve raw)) ∧
    (∀ node, (reading (ofText code) (.mk shape children)).node = .ok node →
      ∃ span quasis expressions, node = .templateLiteral span quasis expressions ∧
        quasis.length = expressions.length + 1 ∧
        ReadsAs code (shape.stop - 1) (shape.start + 1) children quasis expressions ∧
        ∀ level,
          (∀ texts, expressions.mapM (printAt level) = .ok texts →
            ∃ t, printAt level node = .ok t ∧
              code.spliced shape.stop shape.start (((substitutions children).map Concrete.shape).zip
                (texts.map substituted)) = some t) ∧
          ∀ error, expressions.mapM (printAt level) = .error error →
            printAt level node = .error error) ∧
    ∀ items : List (Shape × Text), items.map Prod.fst = (substitutions children).map Concrete.shape →
      (∀ item ∈ items, code.between item.1.start item.1.stop = some item.2) →
      code.spliced shape.stop shape.start items = code.between shape.start shape.stop := by
  obtain ⟨hFront, hStart, hStop, hBack, -, -⟩ := h.cuts hCode
  obtain ⟨first, last, hLow, hHigh, -, -⟩ := Text.between_of_cuts hCode hFront hBack
  have hSpan : (ofText code).spanOf shape = .ok (.between first last) := by
    rw [spanOf, span, span?, hLow, hHigh]
    rfl
  rw [node_reading_template _ h.form, place, hSpan]
  refine ⟨?_, ?_, ?_⟩
  · dsimp only
    rw [succeeds_bind_iff fun parts => iff_of_true (succeeds_pure _) trivial,
      succeeds_templateParts_iff hCode hStart hStop h.isCut, and_true]
  · intro node hNode
    obtain ⟨⟨quasis, expressions⟩, hParts, hNode⟩ := bind_eq_ok.1 hNode
    obtain rfl := Except.ok.inj hNode
    have hReads := (templateParts_eq_ok hCode hStart hStop h.isCut).1 hParts
    have hLength : quasis.length = expressions.length + 1 := by
      simpa using congrArg List.length hReads.tails
    refine ⟨_, quasis, expressions, rfl, hLength, hReads, fun level => ⟨?_, ?_⟩⟩
    · intro texts hTexts
      have hCount : texts.length = ((substitutions children).map Concrete.shape).length := by
        rw [List.length_map, hReads.filled.length_eq]
        exact (forall₂_of_mapM hTexts).length_eq.symm
      refine ⟨_, ?_, h.spliced_eq hCode hReads.fixed hCount⟩
      rw [printAt, printTemplate_eq quasis expressions (by omega), hTexts]
      rfl
    · intro error hError
      rw [printAt, printTemplate_eq quasis expressions (by omega), hError]
      rfl
  · intro items hShapes hOwn
    have hOrder := Shape.inOrder_mono h.inOrder (Int.le_add_one (Int.le_refl shape.start))
      (Int.sub_le_self shape.stop (by omega))
    exact Text.spliced_self hCode hFront hBack (h.isCut_items hShapes) (hShapes.symm ▸ hOrder) hOwn

/-- The program ``é=`ü${a}${b}😀`;``. -/
def adjacentCode : Text := "é=`ü$\x7ba\x7d$\x7bb\x7d😀`;"

/-- The template in it. -/
def adjacentShape : Shape := ⟨.templateString, 3, 19, "right", true, false, false⟩

/-- The parts of the template, with nothing between the two substitutions. -/
def adjacentParts : List Concrete :=
  [.part (.other "string_fragment") 4 6 "" [],
   .part .templateSubstitution 6 10 "" [.part .identifier 8 9 "" []],
   .part .templateSubstitution 10 14 "" [.part .identifier 12 13 "" []],
   .part (.other "string_fragment") 14 18 "" []]

theorem isTemplate_adjacent : IsTemplate adjacentCode adjacentShape adjacentParts := by
  have hFirst : adjacentCode.IsBoundary 6 := by
    refine ⟨"é=`ü", "$\x7ba\x7d$\x7bb\x7d😀`;", by decide, ?_⟩
    rw [Text.size_bytes (by decide)]
    decide
  have hMiddle : adjacentCode.IsBoundary 10 := by
    refine ⟨"é=`ü$\x7ba\x7d", "$\x7bb\x7d😀`;", by decide, ?_⟩
    rw [Text.size_bytes (by decide)]
    decide
  have hLast : adjacentCode.IsBoundary 14 := by
    refine ⟨"é=`ü$\x7ba\x7d$\x7bb\x7d", "😀`;", by decide, ?_⟩
    rw [Text.size_bytes (by decide)]
    decide
  refine ⟨rfl, ⟨"é=", "ü$\x7ba\x7d$\x7bb\x7d😀", ";", by decide, ?_, ?_⟩, ?_, by decide⟩
  · rw [Text.size_bytes (by decide)]
    decide
  · rw [Text.size_bytes (by decide)]
    decide
  · intro child hChild
    simp only [substitutions, adjacentParts, List.mem_filter, List.mem_cons, List.not_mem_nil,
      or_false] at hChild
    rcases hChild with ⟨rfl | rfl | rfl | rfl, hForm⟩
    · cases hForm
    · exact ⟨6, 10, rfl, rfl, hFirst, hMiddle⟩
    · exact ⟨10, 14, rfl, rfl, hMiddle, hLast⟩
    · cases hForm

theorem node_adjacent : (reading (ofText adjacentCode) (.mk adjacentShape adjacentParts)).node =
    .ok (.templateLiteral (.between 2 14)
      [⟨.between 3 4, "ü", "ü", false⟩, ⟨.between 8 8, [], [], false⟩,
        ⟨.between 12 13, "😀", "😀", true⟩]
      [.identifier (.between 6 7) "a", .identifier (.between 10 11) "b"]) := rfl

theorem template_verbatim_adjacent :
    adjacentCode.hasSurrogate = false ∧ IsTemplate adjacentCode adjacentShape adjacentParts ∧
      ∃ node, (reading (ofText adjacentCode) (.mk adjacentShape adjacentParts)).node = .ok node ∧
        ∃ t, node.print = .ok t ∧ adjacentCode.spliced 19 3
          (((substitutions adjacentParts).map Concrete.shape).zip (["a", "b"].map substituted)) =
            some t := by
  have hCode : adjacentCode.hasSurrogate = false := by decide
  obtain ⟨-, hNodes, -⟩ := template_verbatim hCode isTemplate_adjacent
  obtain ⟨span, quasis, expressions, hEq, -, -, hPrint⟩ := hNodes _ node_adjacent
  obtain ⟨rfl, rfl, rfl⟩ := Node.templateLiteral.inj hEq
  obtain ⟨t, hText, hSpliced⟩ := (hPrint 0).1 ["a", "b"] rfl
  exact ⟨hCode, isTemplate_adjacent, _, node_adjacent, t, hText, hSpliced⟩

end Concrete

end Assay
