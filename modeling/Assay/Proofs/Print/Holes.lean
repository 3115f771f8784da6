import Assay.Proofs.Print.Segments

/-!
# Holes of arrays

An array is printed with a comma between its elements and one more behind a hole at its end, and it is
read with a flag that says whether an element is due. `Parts.Inscribed` says that the children of an
array stand for what was printed: a sign for each code point but blanks, a concrete node for each
element, and comments anywhere. `Lower.elements_of_print` says that what is read is what was printed.
-/

set_option autoImplicit false

namespace Assay

open Print

/-- What stands in a text one after the other: code points of the printer, and parts. -/
def Print.signs (segments : List Segment) : List (CodePoint ⊕ Node) :=
  segments.flatMap fun
    | .token text => text.map .inl
    | .part _ _ node => [.inr node]

/-- The children of an array that a text is read as. -/
inductive Parts.Inscribed : List (CodePoint ⊕ Node) → Parts → Prop
  | nil : Inscribed [] []
  | blank {signs parts} (h : Inscribed signs parts) : Inscribed (.inl (CodePoint.ofChar ' ') :: signs) parts
  | sign {signs parts} {c : CodePoint} {r : Reading} (hSign : c ∈ ['[', ',', ']'].map CodePoint.ofChar)
      (hForm : r.form = .other (Text.toString [c])) (h : Inscribed signs parts) :
      Inscribed (.inl c :: signs) (r :: parts)
  | part {signs parts} {node : Node} {r : Reading} (hNoise : r.form.isNoise = false)
      (hForm : r.form ∉ [.other "[", .other "]", .other ","]) (hNode : r.node = .ok node)
      (h : Inscribed signs parts) : Inscribed (.inr node :: signs) (r :: parts)
  | comment {signs parts} {r : Reading} (hForm : r.form.isNoise = true) (h : Inscribed signs parts) :
      Inscribed signs (r :: parts)

namespace Lower

/-- The elements that stand in a text, if one is due or not: a comma where one is due leaves a hole. -/
def replay : Bool → List (CodePoint ⊕ Node) → List (Option Node)
  | _, [] => []
  | expecting, .inl c :: rest =>
    if c = CodePoint.ofChar ',' then if expecting then none :: replay true rest else replay true rest
    else replay expecting rest
  | _, .inr node :: rest => some node :: replay false rest

variable {signs : List (CodePoint ⊕ Node)} {parts : Parts}

/-- What is read of the children is what stands in the text. -/
theorem elements_of_inscribed (h : Parts.Inscribed signs parts) (expecting : Bool) :
    elements expecting parts = .ok (replay expecting signs) := by
  induction h generalizing expecting with
  | nil => rfl
  | blank _ ih => exact ih expecting
  | @sign signs parts c r hSign hForm _ ih =>
    simp only [List.map_cons, List.map_nil, List.mem_cons, List.not_mem_nil, or_false] at hSign
    rcases hSign with rfl | rfl | rfl
    · have hName : r.form = .other "[" := hForm
      rw [elements, if_pos (by simp [hName]), ih]
      rfl
    · have hName : r.form = .other "," := hForm
      rw [elements, if_neg (by simp [hName, Form.isNoise]), if_pos hName, replay, if_pos rfl]
      cases expecting <;> simp [ih]
    · have hName : r.form = .other "]" := hForm
      rw [elements, if_pos (by simp [hName]), ih]
      rfl
  | part hNoise hForm hNode _ ih =>
    simp only [List.mem_cons, List.not_mem_nil, or_false, not_or] at hForm
    rw [elements, if_neg (by simp [hNoise, hForm]), if_neg hForm.2.2, hNode, Outcome.ok_bind, ih]
    rfl
  | comment hForm _ ih =>
    rw [elements, if_pos (by simp [hForm])]
    exact ih expecting

/-- The elements that stand in the text of an array are those of the array. The induction follows the
commas: one stands behind each element but the last, and behind that if it is a hole. -/
theorem replay_elements (level : Nat) (elements : List (Option Node)) :
    replay true (Print.signs (series ", " (elements.map (element level)) ++
      [.token (closingComma elements), .token "]"])) = elements := by
  induction elements with
  | nil => rfl
  | cons first rest ih =>
    cases rest with
    | nil => cases first <;> rfl
    | cons second rest =>
      have hClose : closingComma (first :: second :: rest) = closingComma (second :: rest) := by
        simp [closingComma]
      rw [List.map_cons, series_cons, hClose]
      cases first with
      | none => exact congrArg (none :: ·) ih
      | some node => exact congrArg (some node :: ·) ih

/-- Holes survive printing and reading. If the children of an array stand for the text that is printed
for an array or an array pattern, the elements that are read of them are its elements, so that the same
array or pattern is read. -/
theorem elements_of_print {level : Nat} {node : Node} {span : Span} {elements : List (Option Node)}
    (hArray : node = .arrayExpression span elements ∨ node = .arrayPattern span elements)
    {text : Text} (hPrint : printAt level node = .ok text)
    (hParts : Parts.Inscribed (Print.signs (segments level node)) parts) :
    spell (segments level node) = .ok text ∧ Lower.elements true parts = .ok elements ∧
      ∀ (source : Source) (shape : Shape),
        (shape.form = .arrayLiteral →
          linkAt source shape parts span = .ok (.arrayExpression span elements)) ∧
        (shape.form = .arrayPattern →
          linkAt source shape parts span = .ok (.arrayPattern span elements)) := by
  have hElements : Lower.elements true parts = .ok elements := by
    rw [elements_of_inscribed hParts]
    rcases hArray with rfl | rfl
    · exact congrArg Except.ok (replay_elements level elements)
    · exact congrArg Except.ok (replay_elements level elements)
  refine ⟨spell_segments hPrint, hElements, fun source shape => ⟨fun hForm => ?_, fun hForm => ?_⟩⟩
  · simp only [linkAt, hForm, hElements, Outcome.ok_bind]
    rfl
  · simp only [linkAt, hForm, hElements, Outcome.ok_bind]
    rfl

/-- A concrete node of an array: a sign, or an element that was read. -/
def arrayPart (form : Form) (node : Read Node) : Reading :=
  .mk ⟨form, 0, 0, "", true, false, false⟩ node node []

/-- The array `[, , a, ,]` has four elements, of which only the third one is no hole. -/
theorem elements_of_print_sparse :
    let array := Node.arrayExpression .none [none, none, some (.thisExpression .none), none]
    let sign (name : String) := arrayPart (.other name) (.error .absentPart)
    let children := [sign "[", sign ",", sign ",", arrayPart .thisKeyword (.ok (.thisExpression .none)),
      sign ",", sign ",", sign "]"]
    array.print = .ok "[, , this, ,]" ∧
      Parts.Inscribed (Print.signs (segments 0 array)) children ∧
      elements true children = .ok [none, none, some (.thisExpression .none), none] := by
  intro array sign children
  have hPrint : array.print = .ok "[, , this, ,]" := rfl
  have hParts : Parts.Inscribed (Print.signs (segments 0 array)) children := by
    refine .sign (by decide) rfl (.sign (by decide) rfl (.blank (.sign (by decide) rfl (.blank ?_))))
    refine .part rfl (by decide) rfl (.sign (by decide) rfl (.blank (.sign (by decide) rfl ?_)))
    exact .sign (by decide) rfl .nil
  exact ⟨hPrint, hParts, (elements_of_print (.inl rfl) hPrint hParts).2.1⟩

end Lower

end Assay
