import Assay.Proofs.Mutation.Places
import Assay.Proofs.Print.Success

/-!
# Variants can be printed and located

A walk over a program that was read finds variants that can be printed, and what it reports of them
can be printed and lies in the program: this holds of the variants of a single node, and carries
over from a part to the whole.
-/

set_option autoImplicit false

namespace Assay

/-! ## The variants of a node itself -/

variable {kind : MutationKind} {operator : Text} {besideNull : Bool}

namespace MutationKind

variable {swap : Text}

/-- An operator is exchanged for another one that stands in its entry of the table. -/
theorem mem_swaps (h : swap ∈ kind.swaps operator besideNull) :
    swap ≠ operator ∧ ∃ entry ∈ kind.table, Text.ofString entry.1 = operator ∧
      ∃ word ∈ entry.2, Text.ofString word = swap := by
  have hRow : swap ∈ ((kind.row? operator).getD []).filter (· ≠ operator) := by
    unfold swaps at h
    dsimp only at h
    split at h
    · exact (List.mem_filter.1 h).1
    · exact h
  obtain ⟨hMem, hNe⟩ := List.mem_filter.1 hRow
  refine ⟨by simpa using hNe, ?_⟩
  cases hFind : kind.table.find? fun entry => Text.ofString entry.1 == operator with
  | none => simp [row?, hFind] at hMem
  | some entry =>
    simp only [row?, hFind, Option.map_some, Option.getD_some, List.mem_map] at hMem
    exact ⟨entry, List.mem_of_find?_eq_some hFind, by simpa using List.find?_some hFind, hMem⟩

theorem eq_of_ofBinary? (h : ofBinary? operator = some kind) :
    kind = .arithmetic ∨ kind = .equality := by
  unfold ofBinary? at h
  split at h
  · cases h
    exact .inl rfl
  · split at h
    · cases h
      exact .inr rfl
    · cases h

/-- What holds of all words of the table holds of what an operator is exchanged for. -/
theorem forall_swaps {p : Text → Prop}
    (hTable : ∀ entry ∈ kind.table, ∀ word ∈ entry.2, p (Text.ofString word))
    (h : swap ∈ kind.swaps operator besideNull) : p swap := by
  obtain ⟨-, entry, hEntry, -, word, hWord, rfl⟩ := mem_swaps h
  exact hTable entry hEntry word hWord

/-- Operators are exchanged within a list that has all words of the table. -/
theorem mem_operators {operators : List String}
    (hTable : ∀ entry ∈ kind.table, ∀ word ∈ entry.2, word ∈ operators)
    (h : swap ∈ kind.swaps operator besideNull) : ∃ sign ∈ operators, swap = Text.ofString sign :=
  forall_swaps (p := fun swap => ∃ sign ∈ operators, swap = Text.ofString sign)
    (fun entry hEntry word hWord => ⟨word, hTable entry hEntry word hWord, rfl⟩) h

/-- The operators that binary and logical ones are exchanged for have ranks. -/
theorem isSome_operatorRank? (hKind : kind = .arithmetic ∨ kind = .equality ∨ kind = .logical)
    (h : swap ∈ kind.swaps operator besideNull) : (Print.operatorRank? swap).isSome = true := by
  refine forall_swaps (p := fun swap => (Print.operatorRank? swap).isSome = true) ?_ h
  rcases hKind with rfl | rfl | rfl <;> decide

/-- The operators that signs are exchanged for are not empty. -/
theorem isEmpty_of_mem_swaps (h : swap ∈ kind.swaps operator besideNull) :
    swap.isEmpty = false := by
  refine forall_swaps (p := fun swap => swap.isEmpty = false) ?_ h
  cases kind <;> decide

end MutationKind

namespace Mutate

open Variant

attribute [local simp] Node.parts Node.looseParts Node.placedParts

/-- What is reported can be printed and lies in the text. -/
structure Reported (limit : Int) (reported : Node) : Prop where
  printable : reported.Printable
  within : reported.span.Within limit

/-- A variant of a node is of its kind and can be printed, and so can what is reported of it. -/
structure Fair (limit : Int) (node reported whole : Node) : Prop where
  kind_eq : whole.kind = node.kind
  printable : whole.Printable
  reported : Reported limit reported

variable {lexicon : Lexicon} {limit : Int} {assertion sentinel : Text} {node : Node}

/-- A variant that is reported as a whole. -/
theorem fair_whole {variant : Node} (hSpan : node.span.Within limit)
    (hKind : variant.kind = node.kind) (hPlace : variant.span = node.span)
    (hVariant : variant.Printable) : Fair limit node variant variant :=
  ⟨hKind, hVariant, hVariant, by rwa [hPlace]⟩

theorem printable_boolLiteral (value : Bool) (span : Span) :
    (Build.boolLiteral value span).Printable :=
  Node.printable_iff.2 ⟨rfl, by
    simp [Build.boolLiteral]⟩

theorem printable_plainChain {chain : Node} (h : chain.Printable) : (plainChain chain).Printable := by
  fun_induction plainChain chain with
  | case1 span object property computed optional ih =>
    have hParts := (Node.printable_iff.1 h).2
    simp only [Node.parts, Node.looseParts, Node.placedParts, List.append_nil, List.mem_cons,
      List.not_mem_nil, or_false, forall_eq_or_imp, forall_eq] at hParts
    rw [Node.printable_iff]
    simpa [Node.isPrintable] using
      ⟨ih hParts.1, hParts.2⟩
  | case2 span callee arguments optional ih =>
    have hParts := (Node.printable_iff.1 h).2
    simp only [Node.parts, Node.looseParts, Node.placedParts, List.append_nil, List.mem_cons,
      forall_eq_or_imp] at hParts
    rw [Node.printable_iff]
    simpa [Node.isPrintable] using
      ⟨ih hParts.1, hParts.2⟩
  | case3 => exact h

/-- A variant with a forced test. -/
theorem fair_forcedTo {value : Bool} {place : Span} {build : Node → Node}
    (hPlace : place.Within limit)
    (hKind : (build (Build.boolLiteral value place)).kind = node.kind)
    (hBuild : (build (Build.boolLiteral value place)).Printable) :
    Fair limit node (forcedTo value place build).reported (forcedTo value place build).whole :=
  ⟨hKind, hBuild, printable_boolLiteral value place, hPlace⟩

/-- The variants of a node itself are fair. -/
theorem fair_own {altered : Altered Node} (h : node.Every (Node.Fits lexicon limit))
    (hOwn : Own sentinel node altered) : Fair limit node altered.reported altered.whole := by
  have hSpan := h.here.within
  have hPrintable : node.Printable :=
    h.imp fun _ hFits => Print.isPrintable_of_proper hFits.proper
  obtain ⟨hRoot, hParts⟩ := Node.printable_iff.1 hPrintable
  have hWithin (part : Node) (hPart : part ∈ node.parts) : part.span.Within limit :=
    (h.part hPart).here.within
  -- a signed node needs a sign that is not empty
  have hSign {kind : MutationKind} {operator swap : Text}
      (hSwap : swap ∈ kind.swaps operator false) : (!swap.isEmpty) = true := by
    simp [MutationKind.isEmpty_of_mem_swaps hSwap]
  cases hOwn with
  | binary hKind hSwap =>
    have hRank := MutationKind.isSome_operatorRank?
      ((MutationKind.eq_of_ofBinary? hKind).imp_right .inl) hSwap
    exact fair_whole hSpan rfl rfl (Node.printable_iff.2 ⟨hRank, hParts⟩)
  | logical hSwap =>
    have hRank := MutationKind.isSome_operatorRank? (.inr (.inr rfl)) hSwap
    exact fair_whole hSpan rfl rfl (Node.printable_iff.2 ⟨hRank, hParts⟩)
  | assignment => exact fair_whole hSpan rfl rfl (Node.printable_iff.2 ⟨rfl, hParts⟩)
  | unary hSwap | update hSwap =>
    exact fair_whole hSpan rfl rfl (Node.printable_iff.2 ⟨hSign hSwap, hParts⟩)
  | side | template => exact fair_whole hSpan rfl rfl (Node.printable_iff.2 ⟨hRoot, hParts⟩)
  | @bool _ _ _ regex =>
    refine fair_whole hSpan rfl rfl (Node.printable_iff.2 ⟨?_, hParts⟩)
    cases regex <;> rfl
  | string => exact fair_whole hSpan rfl rfl (Node.printable_iff.2 ⟨rfl, hParts⟩)
  | array | object | block =>
    exact fair_whole hSpan rfl rfl (Node.printable_iff.2 ⟨rfl, List.forall_mem_nil _⟩)
  | @call _ callee | @new _ callee =>
    have hCallee := hParts callee (by simp)
    exact fair_whole hSpan rfl rfl
      (Node.printable_iff.2 ⟨rfl, List.forall_mem_singleton.2 hCallee⟩)
  | ifTest | whileTest | doTest =>
    refine fair_forcedTo (hWithin _ (by simp)) rfl (Node.printable_iff.2 ⟨rfl, ?_⟩)
    simp only [Node.parts, Node.looseParts, Node.placedParts] at hParts ⊢
    grind [printable_boolLiteral]
  | @forTest _ _ test =>
    refine fair_forcedTo ?_ rfl (Node.printable_iff.2 ⟨rfl, ?_⟩)
    · cases test with
      | none => exact hSpan
      | some test => exact hWithin test (by simp)
    · simp only [Node.parts, Node.looseParts, Node.placedParts] at hParts ⊢
      grind [printable_boolLiteral]
  | @chain _ expression =>
    have hChain := printable_plainChain (hParts expression (by simp))
    exact fair_whole hSpan rfl rfl
      (Node.printable_iff.2 ⟨rfl, List.forall_mem_singleton.2 hChain⟩)

/-! ## The variants of a tree -/

theorem isFunction_of_kind_eq {other : Node} (h : other.kind = node.kind)
    (hNode : node.isFunction = true) : other.isFunction = true := by
  cases node <;> try cases hNode
  rename_i form _ _ _ _ _ _ _
  cases other
  case function => rfl
  case bare category _ => cases form <;> cases category <;> cases h
  case classNode other _ _ _ _ => cases form <;> cases other <;> cases h
  all_goals cases form <;> cases h

/-- A node with a fair variant of a part in its place is a fair variant. -/
theorem Fair.replaced {reported part variant other : Node} (hNode : node.Printable)
    (h : Fair limit part reported variant) (hReplaced : Node.Replaced part variant node other) :
    Fair limit node reported other := by
  obtain ⟨hRoot, hParts⟩ := Node.printable_iff.1 hNode
  refine ⟨hReplaced.kind_eq, Node.printable_iff.2 ⟨?_, fun piece hPiece => ?_⟩, h.reported⟩
  · cases hReplaced
    case methodValue => exact isFunction_of_kind_eq h.kind_eq hRoot
    case propertyValue =>
      simp only [Node.isPrintable, Bool.or_eq_true] at hRoot ⊢
      exact hRoot.imp_right (isFunction_of_kind_eq h.kind_eq)
    all_goals exact hRoot
  · rcases hReplaced.mem_parts piece hPiece with hOld | rfl
    · exact hParts piece hOld
    · exact h.printable

/-- A walk over a tree all of whose nodes fit finds fair variants only. -/
theorem fair_walk (h : node.Every (Node.Fits lexicon limit)) :
    (walk (plainRules assertion sentinel) node).Each fun reported whole =>
      Fair limit node reported whole := by
  refine each_walk (r := fun reported node whole => Fair limit node reported whole)
    (fun _ hFits => hFits.proper) ?_ ?_ h
  · exact fair_own
  · intro reported part variant node other h hFair hReplaced
    exact hFair.replaced (h.imp fun _ hFits => Print.isPrintable_of_proper hFits.proper) hReplaced

end Mutate

end Assay
