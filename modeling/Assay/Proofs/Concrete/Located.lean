import Assay.Concrete.Lowering
import Assay.Proofs.Tree.RoundTrip

/-!
# Parsed trees have their places

A view is located if each of its nodes stands between two known offsets of the program, and a tree is if
its view is (`Node.Located`). What a reader gives is stated with `Read.Gives`, which goes through the
steps of a reader one by one.
-/

set_option autoImplicit false

namespace Assay

/-! ## Located trees -/

/-- Whether both offsets of a span are known. -/
def Span.isKnown (span : Span) : Bool := span.start.isSome && span.stop.isSome

namespace View

/-- Whether data is an offset. -/
def isOffset : Data → Bool
  | .int _ => true
  | _ => false

@[simp]
theorem isOffset_offset (index : Option Int) : isOffset (offset index) = index.isSome := by
  cases index <;> rfl

mutual

/-- Whether each node of a view stands between two known offsets. -/
def isLocated : View → Bool
  | .node _ start stop fields => isOffset start && isOffset stop && areFieldsLocated fields
  | .list items => areLocated items
  | _ => true

/-- Whether each node in the fields stands between two known offsets. -/
def areFieldsLocated : List (String × View) → Bool
  | [] => true
  | (_, value) :: rest => isLocated value && areFieldsLocated rest

/-- Whether each node in the items stands between two known offsets. -/
def areLocated : List View → Bool
  | [] => true
  | item :: rest => isLocated item && areLocated rest

end

/-- A node at a span is located if the span is known and its fields are located. -/
@[simp]
theorem isLocated_located (kind : Kind) (span : Span) (fields : List (String × View)) :
    isLocated (located kind span fields) = (span.isKnown && areFieldsLocated fields) := by
  simp [located, isLocated, Span.isKnown]

@[simp]
theorem isLocated_data (value : Data) : isLocated (.data value) = true := by
  simp [isLocated]

@[simp]
theorem isLocated_flag (value : Bool) : isLocated (.flag value) = true := isLocated_data _

@[simp]
theorem isLocated_spelling (raw : Option Text) : isLocated (.spelling raw) = true := by
  cases raw <;> exact isLocated_data _

@[simp]
theorem isLocated_regex (parts : Option (Text × Text)) : isLocated (.regex parts) = true := by
  cases parts <;> simp [regex, isLocated]

@[simp]
theorem isLocated_list (items : List View) : isLocated (.list items) = areLocated items := by
  simp [isLocated]

@[simp]
theorem isLocated_ofQuasi (quasi : Quasi) :
    isLocated (ofQuasi quasi) = quasi.span.isKnown := by
  simp [ofQuasi, areFieldsLocated]

/-- Items are located one by one. -/
theorem areLocated_iff (items : List View) :
    areLocated items = true ↔ ∀ item ∈ items, isLocated item = true := by
  induction items with
  | nil => simp [areLocated]
  | cons item rest ih => simp [areLocated, ih]

/-- The views of trees are their views one by one. -/
theorem ofList_eq_map (trees : List Node) : ofList trees = trees.map ofNode := by
  induction trees with
  | nil => rfl
  | cons tree rest ih => simp [ofList, ih]

/-- The views of two lists of trees. -/
theorem ofList_append (first second : List Node) :
    ofList (first ++ second) = ofList first ++ ofList second := by
  simp [ofList_eq_map]

/-- The views of trees with holes are their views one by one. -/
theorem ofHoles_eq_map (elements : List (Option Node)) :
    ofHoles elements = elements.map ofOptional := by
  induction elements with
  | nil => rfl
  | cons element rest ih => simp [ofHoles_cons, ih]

end View

/-- Each node of the tree stands between two known offsets. -/
def Node.Located (tree : Node) : Prop := (View.ofNode tree).isLocated = true

/-- What may be absent is located if it is there. -/
def Node.LocatedIn (part : Option Node) : Prop := ∀ tree ∈ part, tree.Located

/-- A tree is located if its view is. -/
theorem Node.located_iff {tree : Node} :
    tree.Located ↔ (View.ofNode tree).isLocated = true :=
  Iff.rfl

namespace View

@[simp]
theorem isLocated_ofNode (tree : Node) : isLocated (ofNode tree) = true ↔ tree.Located := Iff.rfl

@[simp]
theorem isLocated_ofOptional (part : Option Node) :
    isLocated (ofOptional part) = true ↔ Node.LocatedIn part := by
  cases part <;> simp [ofOptional, Node.LocatedIn]

@[simp]
theorem areLocated_ofList (trees : List Node) :
    areLocated (ofList trees) = true ↔ ∀ tree ∈ trees, tree.Located := by
  simp [ofList_eq_map, areLocated_iff]

@[simp]
theorem areLocated_ofHoles (elements : List (Option Node)) :
    areLocated (ofHoles elements) = true ↔ ∀ part ∈ elements, Node.LocatedIn part := by
  simp [ofHoles_eq_map, areLocated_iff]

@[simp]
theorem areLocated_quasis (quasis : List Quasi) :
    areLocated (quasis.map ofQuasi) = true ↔ ∀ quasi ∈ quasis, quasi.span.isKnown = true := by
  simp [areLocated_iff]

end View

/-- A located tree has a known span. -/
theorem Node.Located.isKnown {tree : Node} (h : tree.Located) : tree.span.isKnown = true := by
  cases tree <;> simp_all [Node.Located, View.ofNode, Node.span]

/-! ## Readers -/

namespace Source

/-- A stretch of a source has known offsets. -/
theorem isKnown_of_span {source : Source} {start stop : Int} {span : Span}
    (h : source.span start stop = .ok span) : span.isKnown = true := by
  unfold Source.span Source.span? at h
  cases hStart : source.offset? start with
  | none => simp [hStart] at h
  | some first =>
    cases hStop : source.offset? stop with
    | none => simp [hStart, hStop] at h
    | some last =>
      have hSpan : Span.between first last = span := by simpa [hStart, hStop] using h
      rw [← hSpan]
      rfl

end Source

/-- Whatever a reader gives has the property. -/
def Read.Gives {α : Type} (read : Read α) (P : α → Prop) : Prop := ∀ value, read = .ok value → P value

namespace Read

variable {α β : Type} {P : α → Prop} {Q : β → Prop}

@[simp]
theorem gives_pure (value : α) : Gives (pure value) P ↔ P value := by
  simp [Gives, pure, Except.pure]

@[simp]
theorem gives_ok (value : α) : Gives (.ok value) P ↔ P value := gives_pure value

@[simp]
theorem gives_error (error : ParseError) : Gives (.error error) P := by
  simp [Gives]

@[simp]
theorem gives_throw (error : ParseError) : Gives (throw error) P := gives_error error

@[simp]
theorem gives_bind (read : Read α) (next : α → Read β) :
    Gives (read >>= next) Q ↔ ∀ value, read = .ok value → Gives (next value) Q := by
  cases read <;> simp [Gives, bind, Except.bind]

/-- A property of what is given holds of each thing given. -/
theorem Gives.of_eq {read : Read α} (h : read.Gives P) {value : α} (hValue : read = .ok value) :
    P value :=
  h value hValue

/-- A list that is read item by item has the property item by item. -/
theorem gives_mapM {γ : Type} (read : γ → Read α) (items : List γ)
    (h : ∀ item ∈ items, (read item).Gives P) :
    Gives (items.mapM read) fun values => ∀ value ∈ values, P value := by
  induction items with
  | nil => simp
  | cons item rest ih =>
    rw [List.mapM_cons, gives_bind]
    intro first hFirst
    rw [gives_bind]
    intro others hOthers
    have hItem := (h item List.mem_cons_self).of_eq hFirst
    have hRest := (ih (List.forall_mem_cons.1 h).2).of_eq hOthers
    simpa using And.intro hItem hRest

/-- What is read at a place depends on the span of the place only. -/
theorem gives_place (source : Source) (shape : Shape) (build : Span → Read α)
    (h : ∀ span, source.spanOf shape = .ok span → (build span).Gives P) :
    (source.place shape build).Gives P := by
  unfold Source.place
  cases hSpan : source.spanOf shape with
  | error error => simp
  | ok span => exact h span hSpan

/-- A refusal gives nothing. -/
@[simp]
theorem gives_refuse (source : Source) (refusal : Refusal) (shape : Shape) :
    (source.refuse refusal shape).Gives P := by
  simp [Source.refuse]

end Read

theorem Concrete.shape_reading (source : Source) (tree : Concrete) :
    (Concrete.reading source tree).shape = tree.shape := by
  obtain ⟨shape, children⟩ := tree
  rw [Concrete.reading]
  rfl

end Assay
