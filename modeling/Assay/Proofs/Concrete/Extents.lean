import Assay.Proofs.Concrete.Assembly
import Assay.Proofs.Source.Encoding

/-!
# Nodes and the stretches they were read from

Each node of a syntax tree is built from one concrete node and stands where that one does; only the
declaration in the head of a loop over keys or items and the function of a method reach from one
concrete node to another. `Node.Stands` says so of a single node, and `Concrete.reading_standing` of all
nodes that are read in a concrete tree. With the results on byte offsets it follows that the code
between the offsets of a node is the text of the concrete node (`Source.offsets_exact`).
-/

set_option autoImplicit false

namespace Assay

variable {node : Node}

/-- The node is built from the concrete node and stands where that one does. -/
structure Concrete.Builds (source : Source) (tree : Concrete) (node : Node) : Prop where
  span_eq : source.spanOf tree.shape = .ok node.span
  result : (reading source tree).node = .ok node ∨ (reading source tree).link = .ok node ∨
    node.kind ∈ tree.shape.frames

/-- The node stands where one or two concrete nodes of the tree do. -/
inductive Node.Stands (source : Source) (root : Concrete) (node : Node) : Prop
  | built (tree : Concrete) (hTree : tree.Within root) (hNode : tree.Builds source node)
  | joined (first last : Concrete) (hFirst : first.Within root) (hLast : last.Within root)
      (hJoins : node.Joins first.shape last.shape)
      (hSpan : source.span first.shape.start last.shape.stop = .ok node.span)

/-- The pieces of a template between its substitutions. -/
def Node.quasis : Node → List Quasi
  | .templateLiteral _ quasis _ => quasis
  | _ => []

/-- The node and all nodes in it stand where concrete nodes of the tree do, and so do the pieces of
templates. -/
def Node.AllStand (source : Source) (root : Concrete) (node : Node) : Prop :=
  node.Every fun part =>
    part.Stands source root ∧ ∀ quasi ∈ part.quasis, quasi.span.isKnown = true

/-- The reading is that of a concrete node of the tree. -/
def Reading.From (source : Source) (root : Concrete) (r : Reading) : Prop :=
  ∃ tree, tree.Within root ∧ Concrete.reading source tree = r

theorem Concrete.Within.trans {first second third : Concrete} (h : first.Within second)
    (hThird : second.Within third) : first.Within third := by
  induction hThird with
  | self => exact h
  | child hChild _ ih => exact .child hChild ih

theorem Reading.From.parts {source : Source} {root : Concrete} {r : Reading}
    (h : r.From source root) : ∀ part ∈ r.parts, part.From source root := by
  obtain ⟨⟨shape, children⟩, hTree, rfl⟩ := h
  intro part hPart
  rw [Concrete.reading, Reading.parts, Concrete.readings_eq_map, List.mem_map] at hPart
  obtain ⟨child, hChild, rfl⟩ := hPart
  exact ⟨child, (Concrete.Within.child hChild .self).trans hTree, rfl⟩

theorem Node.quasis_of_kind (h : node.kind ≠ .templateLiteral) : node.quasis = [] := by
  cases node
  case templateLiteral => exact absurd rfl h
  all_goals rfl

theorem Node.quasis_of_isFrame (h : node.isFrame = true) : node.quasis = [] := by
  cases node
  case templateLiteral => cases h
  all_goals rfl

/-- What is put around the parts of concrete nodes stands where these do. -/
theorem Node.framable_allStand (source : Source) (root : Concrete) :
    Framable source (Reading.From source root) (fun _ parts => ∀ r ∈ parts, r.From source root)
      (AllStand source root) (AllStand source root) where
  whole h := h.parts
  part h := h
  place := by
    rintro _ node ⟨tree, hTree, rfl⟩ hSpan hKind - hParts
    rw [Concrete.shape_reading] at hSpan hKind
    refine ⟨⟨.built tree hTree ⟨hSpan, .inr (.inr hKind)⟩, ?_⟩, hParts.parts⟩
    simp [quasis_of_isFrame (isFrame_of_mem_frames hKind)]
  join := by
    intro _ _ first last node h _ hFindFirst hFindLast hJoins _ hSpan hParts
    obtain ⟨first, hFirst, rfl⟩ := h _ (Parts.mem_of_find? hFindFirst).1
    obtain ⟨last, hLast, rfl⟩ := h _ (Parts.mem_of_find? hFindLast).1
    rw [Concrete.shape_reading, Concrete.shape_reading] at hJoins hSpan
    refine ⟨⟨.joined first last hFirst hLast hJoins hSpan, ?_⟩, hParts.parts⟩
    simp [quasis_of_isFrame hJoins.isFrame]
  loosen h _ := h
  release _ h _ hPart := h.part (List.mem_append_left _ hPart)

/-- The reading is that of a concrete node of the tree, and all that is read in it stands where
concrete nodes of the tree do. -/
abbrev Reading.Standing (source : Source) (root : Concrete) (r : Reading) : Prop :=
  r.Sits (From source root) (Node.AllStand source root) (Node.AllStand source root)

namespace Lower

variable {source : Source} {shape : Shape} {span : Span} {parts : Parts}

theorem quasi_isKnown (start stop : Int) (tail : Bool) :
    (quasi source start stop tail).Gives fun fixed => fixed.span.isKnown = true := by
  simp only [quasi, Read.gives_bind, Read.gives_pure]
  intro raw _ span hSpan cooked _
  exact source.isKnown_of_span hSpan

theorem templateParts_isKnown (stop cursor : Int) (readings : List Reading) :
    (templateParts source stop cursor readings).Gives fun found =>
      ∀ fixed ∈ found.1, fixed.span.isKnown = true := by
  induction readings generalizing cursor with
  | nil => exact (quasi_isKnown _ _ _).bind fun fixed hFixed => by simpa using hFixed
  | cons r rest ih =>
    unfold templateParts
    split
    · refine (quasi_isKnown _ _ _).bind fun fixed hFixed => ?_
      refine .skip fun expression => ?_
      refine (ih _).bind fun found hFound => ?_
      exact .pure (List.forall_mem_cons.2 ⟨hFixed, hFound⟩)
    · exact ih cursor

theorem linkAt_quasis : (linkAt source shape parts span).Gives fun node =>
    ∀ quasi ∈ node.quasis, quasi.span.isKnown = true := by
  by_cases hForm : shape.form = .templateString
  · unfold linkAt
    rw [hForm]
    exact (templateParts_isKnown _ _ _).bind fun found hFound => .pure hFound
  · intro node hNode
    have hKind := (linkAt_root.of_eq hNode).2
    have hOther : Kind.templateLiteral ∉ shape.form.kinds := by
      generalize shape.form = form at hForm
      cases form
      case templateString => exact absurd rfl hForm
      case other => simp [Form.kinds]
      all_goals decide
    simp [Node.quasis_of_kind fun hTemplate => hOther (hTemplate ▸ hKind)]

end Lower

namespace Concrete

open Node

variable {source : Source} {root : Concrete}

/-- What is read at a concrete node, chains left open, stands there unless there are only parentheses
around it. -/
theorem link_stands {shape : Shape} {children : List Concrete}
    (hRoot : (Concrete.mk shape children).Within root)
    (h : ∀ part ∈ readings source children, part.Standing source root) :
    (Lower.link source shape (readings source children)).Gives fun node =>
      node.AllStand source root ∧
        (shape.form ≠ .parenthesizedExpression → source.spanOf shape = .ok node.span) := by
  intro node hNode
  unfold Lower.link at hNode
  split at hNode
  · rename_i hForm
    have hHolds := fun part hPart => (h part hPart).holds
    exact ⟨(Parts.gives_operand hHolds).of_eq hNode, fun hOther => absurd hForm hOther⟩
  · rename_i hForm
    cases hSpan : source.spanOf shape with
    | error error =>
      have hFails : (source.place shape (Lower.linkAt source shape (readings source children))).Gives
          fun _ => False :=
        Read.gives_place _ _ _ fun span hOther => by rw [hSpan] at hOther; cases hOther
      exact absurd hNode (hFails.of_eq · |>.elim)
    | ok span =>
      have hLink : (reading source (.mk shape children)).link = .ok node := by
        rw [reading, Reading.link, Lower.link, if_neg hForm]
        exact hNode
      rw [Source.place, hSpan] at hNode
      have hMeta (hMeta : shape.form = .metaProperty) : (Lower.metaProperty source shape span).Gives
          (Composed (AllStand source root) (AllStand source root)) := by
        have hWord (word : Text) : (Node.identifier span word).AllStand source root := by
          have hBuilds : (Concrete.mk shape children).Builds source (.identifier span word) :=
            ⟨hSpan, .inr (.inr (by simp [Concrete.shape, Node.kind, Shape.frames, hMeta]))⟩
          exact ⟨⟨.built _ hRoot hBuilds, by simp [quasis]⟩,
            by simp [Node.parts, looseParts, placedParts]⟩
        exact .skip fun text =>
          .pure (by simp [Composed, looseParts, placedParts, hWord])
      obtain rfl := (Lower.linkAt_root.of_eq hNode).1 hSpan
      have hQuasis := Lower.linkAt_quasis.of_eq hNode
      have hSits := (Lower.linkAt_parts (framable_allStand source root)
        ⟨fun part hPart => (h part hPart).origin, fun part hPart => (h part hPart).holds⟩ hMeta)
      exact ⟨⟨⟨.built _ hRoot ⟨hSpan, .inr (.inl hLink)⟩, hQuasis⟩, (hSits.of_eq hNode).parts⟩,
        fun _ => rfl⟩

theorem holds_of_standing {shape : Shape} {children : List Concrete}
    (hRoot : (Concrete.mk shape children).Within root)
    (h : ∀ part ∈ readings source children, part.Standing source root) :
    (reading source (.mk shape children)).Holds (AllStand source root) (AllStand source root) := by
  have hLink := link_stands hRoot h
  have hParts := fun part hPart => (h part hPart).holds
  have hEq : reading source (.mk shape children) = .mk shape
      (if shape.form.isLink then
        (Lower.link source shape (readings source children)).map Lower.closeChain
        else Lower.link source shape (readings source children))
      (Lower.link source shape (readings source children)) (readings source children) := by
    rw [reading]
  rw [hEq]
  refine ⟨_, _, _, _, ?_, fun node hNode => (hLink node hNode).1, hParts⟩
  split
  · rename_i hForm
    intro node hNode
    cases hRead : Lower.link source shape (readings source children) with
    | error error => simp [hRead, Except.map] at hNode
    | ok chain =>
      obtain ⟨hStands, hSpan⟩ := hLink chain hRead
      have hClosed : Lower.closeChain chain = node := by simpa [hRead, Except.map] using hNode
      unfold Lower.closeChain at hClosed
      split at hClosed
      · -- The top of the chain stands where the chain does.
        subst hClosed
        have hPlace : source.spanOf shape = .ok chain.span :=
          hSpan fun hOther => by rw [hOther] at hForm; cases hForm
        refine ⟨⟨.built _ hRoot ⟨hPlace, .inl ?_⟩, by simp [quasis]⟩, ?_⟩
        · rw [hEq, Reading.node, if_pos hForm, hNode]
        · simp only [Node.parts, Node.looseParts, Node.placedParts, List.append_nil,
            List.mem_singleton, forall_eq]
          exact hStands
      · exact hClosed ▸ hStands
  · exact fun node hNode => (hLink node hNode).1

/-- All that is read in a concrete tree stands where concrete nodes of the tree do. -/
theorem reading_standing (tree : Concrete) (hRoot : tree.Within root) :
    (reading source tree).Standing source root := by
  induction tree using Concrete.induction with
  | mk shape children ih =>
    refine ⟨⟨_, hRoot, rfl⟩, holds_of_standing hRoot (forall_readings.2 fun child hChild => ?_)⟩
    exact ih child hChild ((Within.child hChild .self).trans hRoot)

theorem spanOf_reading {tree : Concrete} (hForm : tree.shape.form ≠ .parenthesizedExpression)
    (h : (reading source tree).node = .ok node) : source.spanOf tree.shape = .ok node.span := by
  obtain ⟨shape, children⟩ := tree
  have hRoot : (Concrete.mk shape children).Within (.mk shape children) := .self
  have hParts : ∀ part ∈ readings source children, part.Standing source (.mk shape children) :=
    forall_readings.2 fun child hChild => reading_standing child (.child hChild .self)
  have hLink := link_stands hRoot hParts
  rw [reading, Reading.node] at h
  split at h
  · cases hRead : Lower.link source shape (readings source children) with
    | error error => simp [hRead, Except.map] at h
    | ok chain =>
      have hClosed : Lower.closeChain chain = node := by simpa [hRead, Except.map] using h
      have hSpan : node.span = chain.span := by
        rw [← hClosed, Lower.closeChain]
        split <;> rfl
      rw [hSpan]
      exact (hLink chain hRead).2 hForm
  · exact (hLink node h).2 hForm

end Concrete

theorem Node.Stands.isKnown {source : Source} {root : Concrete} (h : node.Stands source root) :
    node.span.isKnown = true := by
  cases h with
  | built tree _ hBuilds => exact source.isKnown_of_span hBuilds.span_eq
  | joined first last _ _ _ hSpan => exact source.isKnown_of_span hSpan

section

attribute [local simp] View.ofNode View.areFieldsLocated Node.parts Node.looseParts Node.placedParts
  Node.quasis Node.span Node.LocatedIn or_imp forall_and

theorem Node.AllStand.located {source : Source} {root : Concrete} (h : node.AllStand source root) :
    node.Located := by
  induction h with
  | @mk tree hHere hParts ih =>
    obtain ⟨hStands, hQuasis⟩ := hHere
    have hSpan := hStands.isKnown
    clear hStands hParts
    rw [Node.located_iff]
    cases tree
    case arrayExpression | arrayPattern =>
      simp_all
      rintro _ hMem part rfl
      exact ih part hMem
    all_goals simp_all

end

/-- Every node of the tree of a program stands between two known offsets. -/
theorem Script.parse_located {script : Script} {program : Node} (h : script.parse = .ok program) :
    program.Located :=
  (Concrete.reading_standing script.tree .self).holds.node.of_eq (reading_of_parse h) |>.located

/-! ## Texts of nodes -/

/-- The part of the code between the offsets of a node. -/
def Node.textIn (code : Text) (node : Node) : Option Text :=
  match node.span with
  | ⟨some start, some stop⟩ => some (code.slice start stop)
  | _ => none

/-- Both byte offsets of a shape are boundaries of the code. -/
def Shape.IsCut (code : Text) (shape : Shape) : Prop :=
  ∃ start stop : Nat, shape.start = start ∧ shape.stop = stop ∧ code.IsBoundary start ∧
    code.IsBoundary stop

/-- The text of which the bytes stand between the start of one shape and the end of another. -/
def Shape.textTo (code : Text) (first last : Shape) : Option Text :=
  Text.ofBytes? (code.bytes.extract first.start.toNat last.stop.toNat)

/-- The code at the node is the text of the concrete node that it is built from, or of the stretch from
one concrete node to another if it is built from two. -/
def Node.IsTextOf (code : Text) (root : Concrete) (node : Node) : Prop :=
  (∃ tree : Concrete, tree.Within root ∧ tree.Builds (Source.ofText code) node ∧
    ∃ text, node.textIn code = some text ∧ tree.shape.textTo code tree.shape = some text) ∨
  ∃ first last : Concrete, first.Within root ∧ last.Within root ∧
    node.Joins first.shape last.shape ∧
    ∃ text, node.textIn code = some text ∧ first.shape.textTo code last.shape = some text

namespace Source

open Concrete

variable {code : Text}

/-- A node between the offsets of two shapes has the text of the bytes between them. -/
theorem textIn_of_span (h : code.hasSurrogate = false) {first last : Shape}
    (hFirst : first.IsCut code) (hLast : last.IsCut code)
    (hSpan : (ofText code).span first.start last.stop = .ok node.span) :
    ∃ text, node.textIn code = some text ∧ first.textTo code last = some text := by
  obtain ⟨start, -, hStart, -, hBoundary, -⟩ := hFirst
  obtain ⟨-, stop, -, hStop, -, hBoundary'⟩ := hLast
  obtain ⟨low, high, hLow, hHigh, -, hText⟩ := ofBytes?_extract h hBoundary hBoundary'
  rw [hStart, hStop, span, span?, hLow, hHigh] at hSpan
  have hPlace : node.span = .between low high := (Except.ok.inj hSpan).symm
  refine ⟨code.slice low high, ?_, ?_⟩
  · rw [Node.textIn, hPlace]
    rfl
  · rw [Shape.textTo, hStart, hStop, Int.toNat_natCast, Int.toNat_natCast, hText]

/-- Byte offsets and code point offsets name the same stretches of a text. Between two boundaries the
code points are those that the bytes stand for, so the code at each node that is read is the text of
the concrete node that it is built from. The table of offsets does not decrease and covers the bytes
and the end of the text, and where there are as many bytes as code points it changes nothing. -/
theorem offsets_exact (h : code.hasSurrogate = false) :
    (∀ start stop, start ≤ stop → code.IsBoundary start → code.IsBoundary stop →
      ∃ first last, (ofText code).offset? start = some first ∧
        (ofText code).offset? stop = some last ∧
        Text.ofBytes? (code.bytes.extract start stop) = some (code.slice first last) ∧
        (ofText code).text? start stop = some (code.slice first last)) ∧
    (∀ root : Concrete, (∀ tree : Concrete, tree.Within root → tree.shape.IsCut code) →
      ∀ node, (reading (ofText code) root).node = .ok node →
        node.Every (Node.IsTextOf code root) ∧
        (root.shape.form ≠ .parenthesizedExpression →
          ∃ text, node.textIn code = some text ∧ root.shape.textTo code root.shape = some text)) ∧
    (Offsets.table code).Pairwise (· ≤ ·) ∧
    (Offsets.table code).length = code.bytes.size + 1 ∧
    (Offsets.table code).getLast? = some code.length ∧
    (code.bytes.size = code.length → ∀ byte ≤ code.bytes.size,
      (Offsets.table code)[byte]? = some byte) ∧
    ∀ byte ≤ code.bytes.size,
      (ofText code).offset? byte = (Offsets.table code)[byte]?.map Int.ofNat := by
  refine ⟨?_, ?_, Offsets.tableFrom_pairwise 0 code, Offsets.length_tableFrom h 0, ?_, ?_, ?_⟩
  · intro start stop _ hStart hStop
    obtain ⟨first, last, hFirst, hLast, hText, hBytes⟩ := ofBytes?_extract h hStart hStop
    exact ⟨first, last, hFirst, hLast, hBytes, hText⟩
  · intro root hCut node hNode
    refine ⟨?_, fun hForm => ?_⟩
    · have hAll : node.AllStand (ofText code) root :=
        (reading_standing root .self).holds.node.of_eq hNode
      refine hAll.imp fun part ⟨hPart, _⟩ => ?_
      cases hPart with
      | built tree hTree hBuilds =>
        have hHere := hCut tree hTree
        exact .inl ⟨tree, hTree, hBuilds, textIn_of_span h hHere hHere hBuilds.span_eq⟩
      | joined first last hFirst hLast hJoins hSpan =>
        exact .inr ⟨first, last, hFirst, hLast, hJoins,
          textIn_of_span h (hCut first hFirst) (hCut last hLast) hSpan⟩
    · have hRoot := hCut root .self
      exact textIn_of_span h hRoot hRoot (spanOf_reading hForm hNode)
  · rw [Offsets.table, Offsets.getLast?_tableFrom, Nat.zero_add]
  · intro hSize byte hByte
    rw [Offsets.table, Offsets.getElem?_tableFrom_of_size_eq h hSize hByte, Nat.zero_add]
  · intro byte hByte
    exact offset?_eq_table h hByte

/-- The program `é="😀";`. -/
def wideCode : Text := "é=\"😀\";"

/-- The string in it, which starts behind a character of two bytes and holds one of four. -/
def wideString : Concrete := .part .stringLiteral 3 9 "right" []

theorem offsets_exact_wideString :
    wideCode.hasSurrogate = false ∧
      (∀ tree : Concrete, tree.Within wideString → tree.shape.IsCut wideCode) ∧
      ∃ node, (reading (ofText wideCode) wideString).node = .ok node ∧
        node.span = .between 2 5 ∧ node.textIn wideCode = some (Text.ofString "\"😀\"") ∧
        wideString.shape.textTo wideCode wideString.shape = some (Text.ofString "\"😀\"") := by
  have hCode : wideCode.hasSurrogate = false := by decide
  have hStart : wideCode.IsBoundary 3 := by
    refine ⟨Text.ofString "é=", Text.ofString "\"😀\";", rfl, ?_⟩
    rw [Text.size_bytes (by decide)]
    decide
  have hStop : wideCode.IsBoundary 9 := by
    refine ⟨Text.ofString "é=\"😀\"", Text.ofString ";", rfl, ?_⟩
    rw [Text.size_bytes (by decide)]
    decide
  have hCut : ∀ tree : Concrete, tree.Within wideString → tree.shape.IsCut wideCode := by
    intro tree hTree
    cases hTree with
    | self => exact ⟨3, 9, rfl, rfl, hStart, hStop⟩
    | child hChild _ => cases hChild
  have hNode : (reading (ofText wideCode) wideString).node =
      .ok (.literal (.between 2 5) (.text "😀") (some "\"😀\"") none) := rfl
  obtain ⟨-, hText⟩ := (offsets_exact hCode).2.1 wideString hCut _ hNode
  obtain ⟨text, hHere, hBytes⟩ := hText (by decide)
  refine ⟨hCode, hCut, _, hNode, rfl, rfl, ?_⟩
  rw [hBytes, ← hHere]
  rfl

end Source

end Assay
