import Assay.Proofs.Concrete.Failures
import Assay.Proofs.Concrete.Formation
import Assay.Proofs.Source.Coordinates

/-!
# Programs that cannot be read

`Script.parse_outcome` says for every program whose concrete tree is complete what reading it may come
to: a program, a refusal at a place of the text, or an error because of a token that has no value
(`Script.Defect`). The last kind is there: `"\u{110000}"` is a string for the grammar, and `08n` is a
number, and neither is refused.
-/

set_option autoImplicit false

namespace Assay

open Outcome

/-! ## The shapes of a tree -/

namespace Concrete

mutual

/-- All shapes in a tree. -/
def shapes : Concrete → List Shape
  | .mk shape children => shape :: shapesIn children

/-- All shapes in several trees. -/
def shapesIn : List Concrete → List Shape
  | [] => []
  | tree :: rest => shapes tree ++ shapesIn rest

end

theorem forall_mem_shapes {shape : Shape} {children : List Concrete} {P : Shape → Prop} :
    (∀ found ∈ (Concrete.mk shape children).shapes, P found) ↔
      P shape ∧ ∀ child ∈ children, ∀ found ∈ child.shapes, P found := by
  have hChildren : shapesIn children = children.flatMap shapes := by
    induction children with
    | nil => rfl
    | cons tree rest ih => rw [shapesIn, List.flatMap_cons, ih]
  rw [shapes, List.forall_mem_cons, hChildren]
  simp only [List.mem_flatMap]
  grind

theorem mem_shapes_self (tree : Concrete) : tree.shape ∈ tree.shapes := by
  obtain ⟨shape, children⟩ := tree
  simp [shapes, Concrete.shape]

mutual

theorem firstFault?_mem : (tree : Concrete) → {shape : Shape} → tree.firstFault? = some shape →
    shape ∈ tree.shapes
  | .mk root children, shape, h => by
    unfold firstFault? at h
    split at h
    · cases h
      exact mem_shapes_self _
    · rw [shapes, List.mem_cons]
      exact .inr (firstFaultIn?_mem children h)

theorem firstFaultIn?_mem : (trees : List Concrete) → {shape : Shape} →
    firstFaultIn? trees = some shape → shape ∈ shapesIn trees
  | [], shape, h => by simp [firstFaultIn?] at h
  | tree :: rest, shape, h => by
    rw [shapesIn, List.mem_append]
    unfold firstFaultIn? at h
    split at h
    · split at h
      · rename_i found hFound
        cases h
        exact .inl (firstFault?_mem tree hFound)
      · exact .inr (firstFaultIn?_mem rest h)
    · exact .inr (firstFaultIn?_mem rest h)

end

variable {code : Text}

/-- If the root of a tree covers a stretch of the text, each shape in the tree does. -/
theorem placed_of_mem (tree : Concrete)
    (hPlaced : tree.all (Shape.isPlaced (Source.ofText code)) = true)
    (hCovers : tree.shape.Covers code) : ∀ shape ∈ tree.shapes, shape.Placed code := by
  induction tree using Concrete.induction with
  | mk root children ih =>
    obtain ⟨hRoot, hRest⟩ := all_iff.1 hPlaced
    simp only [Shape.isPlaced, Bool.and_eq_true] at hRoot
    obtain ⟨⟨hOrder, hStart⟩, hStop⟩ := hRoot
    have hCovers : root.Covers code := hCovers
    refine forall_mem_shapes.2 ⟨⟨hCovers, hStart, hStop⟩, fun child hChild => ?_⟩
    obtain ⟨hLow, hMid, hHigh⟩ := Shape.inOrder_of_mem hOrder (List.mem_map_of_mem hChild)
    exact ih child hChild (hRest child hChild)
      ⟨Int.le_trans hCovers.start_nonneg hLow, hMid, Int.le_trans hHigh hCovers.stop_le⟩

/-! ## Readings of complete trees -/

theorem isBlock_link (source : Source) {shape : Shape} (parts : Parts)
    (hForm : shape.form = .statementBlock) :
    Ensures (Lower.link source shape parts) fun tree => tree.isBlock = true := by
  unfold Lower.link
  rw [if_neg (by simp [hForm])]
  refine Source.ensures_place fun span => ?_
  rw [Lower.linkAt, hForm, ensures_bind]
  intro body _
  simp [Node.isBlock]

theorem isProgram_link (source : Source) {shape : Shape} (parts : Parts)
    (hForm : shape.form = .program) :
    Ensures (Lower.link source shape parts) fun tree => ∃ span body, tree = .program span body := by
  unfold Lower.link
  rw [if_neg (by simp [hForm])]
  refine Source.ensures_place fun span => ?_
  rw [Lower.linkAt, hForm, ensures_bind]
  intro body _
  simp

variable {p : ParseError → Prop}

/-- In a tree that is complete nothing goes wrong but what the property allows. -/
theorem reading_checked (hp : CoversRefusals code p) (tree : Concrete)
    (hPlaced : tree.all (Shape.isPlaced (Source.ofText code)) = true)
    (hComplete : (tree.all fun shape children => !shape.named || shape.isFurnished children &&
      shape.isWritten (Source.ofText code)) = true)
    (hShapes : ∀ shape ∈ tree.shapes, shape.Placed code ∧ shape.CoversToken code p) :
    (Concrete.reading (Source.ofText code) tree).Checked code p := by
  induction tree using Concrete.induction with
  | mk shape children ih =>
    obtain ⟨hPlaced, hPlacedIn⟩ := all_iff.1 hPlaced
    obtain ⟨hComplete, hCompleteIn⟩ := all_iff.1 hComplete
    obtain ⟨⟨hShape, hToken⟩, hRest⟩ := forall_mem_shapes.1 hShapes
    simp only [Bool.and_eq_true, Bool.or_eq_true, Bool.not_eq_true'] at hComplete
    have hEach : ∀ part ∈ Concrete.readings (Source.ofText code) children, part.Checked code p :=
      forall_readings.2 fun child hChild => ih child hChild (hPlacedIn child hChild)
        (hCompleteIn child hChild) (hRest child hChild)
    have hOrder : Shape.inOrder shape.start shape.stop
        ((Concrete.readings (Source.ofText code) children).map Reading.shape) = true := by
      simp only [Shape.isPlaced, Bool.and_eq_true] at hPlaced
      rw [map_shape_readings]
      exact hPlaced.1.1
    have hFurnished (hNamed : shape.named = true) : shape.isFurnished
        ((Concrete.readings (Source.ofText code) children).map Reading.shape) = true := by
      rw [map_shape_readings]
      exact (hComplete.resolve_left (by simp [hNamed])).1
    have hLink (hNamed : shape.named = true) : FailsOnly (Lower.link (Source.ofText code) shape
        (Concrete.readings (Source.ofText code) children)) p :=
      Lower.failsOnly_link hp hToken (hComplete.resolve_left (by simp [hNamed])).2 hShape hOrder
        ⟨hFurnished hNamed, hEach⟩
    unfold Concrete.reading
    refine ⟨shape, _, _, _, hShape, hFurnished, fun hNamed => ?_, hLink, fun hForm => ?_, hEach⟩
    · split
      · exact (hLink hNamed).map _
      · exact hLink hNamed
    · rw [if_neg (by simp [hForm, Form.isLink])]
      exact isBlock_link _ _ hForm

theorem failsOnly_refuseFault (hp : CoversRefusals code p) {tree : Concrete}
    (h : ∀ shape ∈ tree.shapes, shape.Placed code) :
    FailsOnly (refuseFault (Source.ofText code) tree : Read Node) p := by
  have hFault : ((firstFault? tree).getD tree.shape).Placed code := by
    cases hFind : firstFault? tree with
    | none => exact h _ (mem_shapes_self tree)
    | some shape => exact h shape (firstFault?_mem tree hFind)
  unfold refuseFault
  dsimp only
  split
  · exact failsOnly_refuse hp hFault _
  · exact (failsOnly_textOf hFault).bind fun _ _ => failsOnly_refuse hp hFault _

end Concrete

/-! ## Outcomes -/

/-- The position is that of a place in the text: its index, its line and its column all count what
stands in front of the place. -/
def Position.LiesIn (code : Text) (position : Position) : Prop :=
  ∃ front rest : Text, code = front ++ rest ∧ position.index = front.length ∧
    position.line = front.count (CodePoint.ofChar '\n') + 1 ∧
    position.column = (front.reverse.takeWhile fun (c : CodePoint) => c != '\n').length

theorem Position.liesIn_ofIndex {code : Text} {index : Int} (hNonneg : 0 ≤ index)
    (hLe : index ≤ code.length) : (Position.ofIndex code index).LiesIn code := by
  obtain ⟨n, rfl⟩ := Int.eq_ofNat_of_zero_le hNonneg
  have hLength : (code.take n).length = n := by
    rw [List.length_take]
    omega
  have hPlace := ofIndex_append (code.take n) (code.drop n)
  rw [List.take_append_drop, hLength] at hPlace
  rw [hPlace]
  exact ⟨code.take n, code.drop n, (List.take_append_drop n code).symm, by rw [hLength], rfl, rfl⟩

namespace Script

/-- What an error is due to that is no refusal: a text that cannot be encoded, or a token of the
program that has no value. -/
inductive Defect (script : Script) : ParseError → Prop
  | surrogate (h : script.code.hasSurrogate = true) : Defect script .notEncodable
  | escape {shape : Shape} {raw : Text} {failure : Escape.Failure}
      (hShape : shape ∈ script.tree.shapes)
      (hForm : shape.form = .stringLiteral ∨ shape.form = .templateString)
      (hRaw : (Source.ofText script.code).textOf shape = .ok raw)
      (hEscape : Escape.Oversized raw failure) : Defect script (.escape failure)
  | numeral {shape : Shape} {raw : Text} {failure : Numeral.Failure}
      (hShape : shape ∈ script.tree.shapes) (hForm : shape.form = .numberLiteral)
      (hRaw : (Source.ofText script.code).textOf shape = .ok raw)
      (hNumeral : Numeral.Unreadable raw failure) : Defect script (.numeral failure)

/-- What may be reported for a program: a refusal at one of its places, or a defect. -/
inductive Reports (script : Script) : ParseError → Prop
  | refusal (refusal : Refusal) (index : Int)
      (h : (Position.ofIndex script.code index).LiesIn script.code) :
      Reports script (.refused refusal index)
  | defect {error : ParseError} (h : script.Defect error) : Reports script error

theorem parse_reports {script : Script} (h : script.isComplete = true) :
    FailsOnly script.parse script.Reports := by
  simp only [isComplete, Bool.and_eq_true, Bool.or_eq_true, decide_eq_true_eq] at h
  obtain ⟨⟨⟨⟨⟨⟨-, hNamed⟩, hStart⟩, hOrder⟩, hStop⟩, hPlaced⟩, hComplete⟩ := h
  have hRefusals : CoversRefusals script.code script.Reports := fun refusal index hNonneg hLe =>
    .refusal refusal index (Position.liesIn_ofIndex hNonneg hLe)
  have hShapes := Concrete.placed_of_mem script.tree hPlaced ⟨hStart, hOrder, hStop⟩
  unfold parse
  split
  · rename_i hSurrogate
    exact failsOnly_error.2 (.defect (.surrogate hSurrogate))
  dsimp only
  split
  · exact Concrete.failsOnly_refuseFault hRefusals hShapes
  · rename_i hFault
    have hTokens (shape : Shape) (hShape : shape ∈ script.tree.shapes) :
        shape.CoversToken script.code script.Reports :=
      ⟨fun hForm hRaw hEscape => .defect (.escape hShape hForm hRaw hEscape),
        fun hForm hRaw hNumeral => .defect (.numeral hShape hForm hRaw hNumeral)⟩
    have hChecked := Concrete.reading_checked hRefusals script.tree hPlaced
      (hComplete.resolve_left hFault) fun shape hShape =>
        ⟨hShapes shape hShape, hTokens shape hShape⟩
    exact hChecked.node (by rw [Concrete.shape_reading, hNamed])

theorem parse_isProgram {script : Script} (h : script.tree.shape.form = .program) :
    Ensures script.parse fun tree => ∃ span body, tree = .program span body := by
  intro tree hTree
  have hRead := reading_of_parse hTree
  obtain ⟨code, ⟨shape, children⟩⟩ := script
  have hForm : shape.form = .program := h
  simp only [Concrete.reading, Reading.node, hForm, Form.isLink, Bool.false_eq_true, if_false]
    at hRead
  exact Concrete.isProgram_link _ _ hForm tree hRead

/-- A program whose concrete tree is complete is read, or it is refused at one of its places, or it
has a defect. -/
theorem parse_outcome (script : Script) (h : script.isComplete = true) :
    (∃ span body, script.parse = .ok (.program span body)) ∨
      (∃ refusal index, script.parse = .error (.refused refusal index) ∧
        (Position.ofIndex script.code index).LiesIn script.code) ∨
      ∃ error, script.parse = .error error ∧ script.Defect error := by
  have hRoot : script.tree.shape.form = .program := by
    simp only [isComplete, Bool.and_eq_true, decide_eq_true_eq] at h
    exact h.1.1.1.1.1.1
  cases hParse : script.parse with
  | ok tree =>
    obtain ⟨span, body, rfl⟩ := parse_isProgram hRoot tree hParse
    exact .inl ⟨span, body, rfl⟩
  | error error =>
    right
    cases parse_reports h error hParse with
    | refusal refusal index hPlace => exact .inl ⟨refusal, index, rfl, hPlace⟩
    | defect hDefect => exact .inr ⟨error, rfl, hDefect⟩

/-- The program made of a template with the substitution `0x1Fn` behind a letter of two bytes. -/
def wideTemplate : Script where
  code := "`é$\x7b0x1Fn\x7d`;"
  tree :=
    .part .program 0 13 "" [.part .expressionStatement 0 13 ""
      [.part .templateString 0 12 ""
        [.token 0 1 "`" "", .part (.other "string_fragment") 1 3 "" [],
         .part .templateSubstitution 3 11 "" [.token 3 5 "$\x7b" "",
           .part .numberLiteral 5 10 "" [], .token 10 11 "\x7d" ""],
         .token 11 12 "`" ""],
       .token 12 13 ";" ""]]

theorem parse_outcome_wideTemplate :
    wideTemplate.isComplete = true ∧
      ((∃ span body, wideTemplate.parse = .ok (.program span body)) ∨
        (∃ refusal index, wideTemplate.parse = .error (.refused refusal index) ∧
          (Position.ofIndex wideTemplate.code index).LiesIn wideTemplate.code) ∨
        ∃ error, wideTemplate.parse = .error error ∧ wideTemplate.Defect error) := by
  have hComplete : wideTemplate.isComplete = true := by decide
  exact ⟨hComplete, parse_outcome wideTemplate hComplete⟩

/-- The program `"\u{110000}";`, whose string has an escape beyond the last code point. -/
def beyondLast : Script where
  code := "\"\\u\x7b110000\x7d\";"
  tree :=
    .part .program 0 13 "" [.part .expressionStatement 0 13 ""
      [.part .stringLiteral 0 12 "" [.token 0 1 "\"" "",
        .part (.other "escape_sequence") 1 11 "" [], .token 11 12 "\"" ""],
       .token 12 13 ";" ""]]

/-- The program `08n;`, a number with a zero that has no meaning. -/
def zeroLed : Script where
  code := "08n;"
  tree := .part .program 0 4 "" [.part .expressionStatement 0 4 ""
    [.part .numberLiteral 0 3 "" [], .token 3 4 ";" ""]]

/-- Tokens without a value are no reason to refuse a program. -/
theorem parse_valueless :
    (beyondLast.isComplete = true ∧ beyondLast.parse = .error (.escape .notCodePoint)) ∧
      zeroLed.isComplete = true ∧ ∃ failure, zeroLed.parse = .error (.numeral failure) := by
  refine ⟨⟨by decide, rfl⟩, by decide, _, rfl⟩

end Script

end Assay
