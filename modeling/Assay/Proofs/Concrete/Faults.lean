import Assay.Proofs.Concrete.Parsing
import Assay.Proofs.Concrete.Templates
import Mathlib.Data.List.Flatten
import Mathlib.Logic.Function.Iterate

/-!
# The first fault of a program

A program that breaks the grammar is refused because of the fault that stands first in its text. The
search for it goes into marked trees only, and it may just as well be made with a stack of the trees
that are still to be looked at: `Search`. In a tree that is marked as it should be nothing is lost
that way (`Concrete.firstFault?_eq_head?`), and in a tree whose children stand in order what comes
first among the nodes comes first in the text (`Concrete.shapes_pairwise`).
-/

set_option autoImplicit false

namespace Assay

/-- Whether the shape is that of a fault: of an error, or of something missing. -/
def Shape.isFault (shape : Shape) : Bool := shape.form = .fault || shape.missing

namespace Concrete

/-- All faults in a tree, parents before children and children from left to right. -/
def faults (tree : Concrete) : List Shape := tree.shapes.filter Shape.isFault

/-- Each node that is a fault or has a fault in it is marked. -/
inductive Marked : Concrete → Prop
  | mk {shape : Shape} {children : List Concrete} :
      ((Concrete.mk shape children).faults ≠ [] → shape.faulty = true) →
      (∀ child ∈ children, Marked child) → Marked (.mk shape children)

/-- Whether a tree is searched for faults. -/
def isSearched (tree : Concrete) : Bool := tree.shape.faulty || tree.shape.missing

variable {shape : Shape} {tree : Concrete} {children trees : List Concrete}

theorem shapesIn_eq_flatMap (trees : List Concrete) : shapesIn trees = trees.flatMap shapes := by
  induction trees with
  | nil => rfl
  | cons tree rest ih => rw [shapesIn, List.flatMap_cons, ih]

theorem faults_mk : (Concrete.mk shape children).faults =
    (if shape.isFault then [shape] else []) ++ children.flatMap faults := by
  have hRest : (shapesIn children).filter Shape.isFault = children.flatMap faults := by
    rw [shapesIn_eq_flatMap, List.filter_flatMap]
    rfl
  rw [faults, shapes, List.filter_cons, hRest]
  split <;> rfl

/-- A tree without faults is marked as it should be. -/
theorem marked_of_faults_eq_nil (tree : Concrete) (h : tree.faults = []) : tree.Marked := by
  induction tree using Concrete.induction with
  | mk shape children ih =>
    rw [faults_mk, List.append_eq_nil_iff, List.flatMap_eq_nil_iff] at h
    refine .mk (fun hFault => ?_) fun child hChild => ih child hChild (h.2 child hChild)
    rw [faults_mk, h.1, List.nil_append] at hFault
    exact absurd (List.flatMap_eq_nil_iff.2 h.2) hFault

/-! ## The search -/

theorem firstFault?_mk : (Concrete.mk shape children).firstFault? =
    if shape.isFault then some shape else firstFaultIn? children := by
  rw [firstFault?]
  rfl

theorem firstFaultIn?_eq (trees : List Concrete) :
    firstFaultIn? trees = (trees.filter isSearched).findSome? firstFault? := by
  induction trees with
  | nil => rfl
  | cons tree rest ih =>
    rw [firstFaultIn?, List.filter_cons, isSearched, ih]
    split
    · rw [List.findSome?_cons]
      cases firstFault? tree <;> rfl
    · rfl

/-- What is passed over has no faults. -/
theorem faults_of_not_searched (h : tree.Marked) (hSearched : tree.isSearched = false) :
    tree.faults = [] := by
  obtain ⟨hMark, -⟩ := h
  by_contra hFault
  simp [isSearched, Concrete.shape, hMark hFault] at hSearched

/-- What is passed over would have added nothing to the search. -/
theorem findSome?_searched (hMarked : ∀ tree ∈ trees, tree.Marked)
    (hFirst : ∀ tree ∈ trees, tree.firstFault? = tree.faults.head?) :
    (trees.filter isSearched).findSome? firstFault? =
      trees.findSome? fun tree => tree.faults.head? := by
  induction trees with
  | nil => rfl
  | cons tree rest ih =>
    obtain ⟨hTree, hRest⟩ := List.forall_mem_cons.1 hMarked
    obtain ⟨hHere, hLater⟩ := List.forall_mem_cons.1 hFirst
    rw [List.filter_cons, List.findSome?_cons]
    split
    · rw [List.findSome?_cons, hHere, ih hRest hLater]
    · rename_i hSearched
      rw [faults_of_not_searched hTree (Bool.not_eq_true _ ▸ hSearched), ih hRest hLater]
      rfl

/-- In a marked tree the search finds the first of all faults. -/
theorem firstFault?_eq_head? (h : tree.Marked) : tree.firstFault? = tree.faults.head? := by
  induction h with
  | @mk shape children hMark hChildren ih =>
    rw [firstFault?_mk, faults_mk]
    split
    · rfl
    · rw [firstFaultIn?_eq, findSome?_searched hChildren ih, List.nil_append, List.head?_flatMap]

end Concrete

/-- A search for a fault with a stack: the trees that are still to be looked at, the next one first,
or what was found. -/
inductive Search where
  | pending (stack : List Concrete)
  | done (found : Option Shape)

namespace Search

open Concrete

/-- One step looks at one tree. If it is no fault, those of its children that are searched are put
in its place. -/
def step : Search → Search
  | .pending [] => .done none
  | .pending (.mk shape children :: stack) =>
    if shape.isFault then .done (some shape)
    else .pending (children.filter isSearched ++ stack)
  | .done found => .done found

theorem iterate_done (found : Option Shape) (steps : Nat) : step^[steps] (.done found) = .done found :=
  Function.iterate_fixed rfl steps

/-- Each step takes at least one node off the stack, so that the search ends. -/
theorem iterate_pending {steps : Nat} {stack : List Concrete}
    (h : (stack.flatMap shapes).length < steps) :
    step^[steps] (.pending stack) = .done (stack.findSome? firstFault?) := by
  induction steps generalizing stack with
  | zero => cases h
  | succ steps ih =>
    rw [Function.iterate_succ_apply]
    cases stack with
    | nil => exact iterate_done none steps
    | cons tree stack =>
      obtain ⟨shape, children⟩ := tree
      rw [List.findSome?_cons, firstFault?_mk, step]
      split
      · exact iterate_done (some shape) steps
      · have hFewer : ((children.filter isSearched).flatMap shapes).length ≤
            (children.flatMap shapes).length :=
          (List.filter_sublist.flatMap shapes).length_le
        rw [List.flatMap_cons, shapes, shapesIn_eq_flatMap, List.length_append,
          List.length_cons] at h
        rw [ih (by rw [List.flatMap_append, List.length_append]; omega), List.findSome?_append,
          firstFaultIn?_eq]
        cases (children.filter isSearched).findSome? firstFault? <;> rfl

end Search

/-! ## The order of the text -/

namespace Concrete

variable {source : Source} {children : List Concrete}

/-- Between its ends a tree has its nodes in the order in which they start. -/
def StartsInOrder (low high : Int) (shapes : List Shape) : Prop :=
  shapes.Pairwise (fun first second => first.start ≤ second.start) ∧
    ∀ shape ∈ shapes, low ≤ shape.start ∧ shape.start ≤ high

theorem startsInOrder_flatMap {low high : Int}
    (hOrder : Shape.inOrder low high (children.map Concrete.shape) = true)
    (h : ∀ child ∈ children, StartsInOrder child.shape.start child.shape.stop child.shapes) :
    StartsInOrder low high (children.flatMap shapes) := by
  induction children generalizing low with
  | nil => exact ⟨List.Pairwise.nil, by simp⟩
  | cons child rest ih =>
    obtain ⟨hChild, hRest⟩ := List.forall_mem_cons.1 h
    obtain ⟨hLow, hMiddle, hLater⟩ := Shape.inOrder_cons.1 hOrder
    have hHigh := Shape.le_of_inOrder hLater
    obtain ⟨hFirst, hBounds⟩ := hChild
    obtain ⟨hSecond, hOthers⟩ := ih hLater hRest
    rw [List.flatMap_cons]
    refine ⟨List.pairwise_append.2 ⟨hFirst, hSecond, fun first hHere second hThere => ?_⟩,
      fun shape hShape => ?_⟩
    · exact Int.le_trans (hBounds first hHere).2 (hOthers second hThere).1
    · rcases List.mem_append.1 hShape with hHere | hThere
      · have := hBounds shape hHere
        omega
      · have := hOthers shape hThere
        omega

/-- In a tree whose children stand in order the nodes start in the order in which they are listed. -/
theorem shapes_pairwise (tree : Concrete) (h : tree.all (Shape.isPlaced source) = true) :
    StartsInOrder tree.shape.start tree.shape.stop tree.shapes := by
  induction tree using Concrete.induction with
  | mk shape children ih =>
    obtain ⟨hPlaced, hRest⟩ := all_iff.1 h
    simp only [Shape.isPlaced, Bool.and_eq_true] at hPlaced
    obtain ⟨⟨hOrder, -⟩, -⟩ := hPlaced
    obtain ⟨hPairwise, hBounds⟩ := startsInOrder_flatMap hOrder fun child hChild =>
      ih child hChild (hRest child hChild)
    have hEnds := Shape.le_of_inOrder hOrder
    rw [shapes, shapesIn_eq_flatMap]
    refine ⟨List.pairwise_cons.2 ⟨fun other hOther => (hBounds other hOther).1, hPairwise⟩, ?_⟩
    exact List.forall_mem_cons.2 ⟨⟨Int.le_refl _, hEnds⟩, hBounds⟩

/-- No fault starts in front of the first one. -/
theorem start_le_of_mem_faults {tree : Concrete} {first : Shape}
    (h : tree.all (Shape.isPlaced source) = true) (hFirst : tree.faults.head? = some first) :
    ∀ other ∈ tree.faults, first.start ≤ other.start := by
  have hPairwise : tree.faults.Pairwise fun one other => one.start ≤ other.start :=
    (shapes_pairwise tree h).1.sublist List.filter_sublist
  obtain ⟨rest, hRest⟩ := List.head?_eq_some_iff.1 hFirst
  rw [hRest] at hPairwise ⊢
  exact List.forall_mem_cons.2 ⟨Int.le_refl _, (List.pairwise_cons.1 hPairwise).1⟩

end Concrete

/-! ## The refusal -/

/-- What a refusal says about a fault: that it is missing, or what stands there. -/
inductive Refusal.Tells (source : Source) (fault : Shape) : Refusal → Prop
  | missing (h : fault.missing = true) : Tells source fault (.missing fault.form)
  | unexpected {text : Text} (h : fault.missing = false) (hText : source.textOf fault = .ok text) :
      Tells source fault (.unexpected text)

/-- A refusal says that something is missing just if it is. -/
theorem Refusal.Tells.missing_prefix_iff {source : Source} {fault : Shape} {refusal : Refusal}
    (h : refusal.Tells source fault) :
    Text.ofString "Missing " <+: refusal.message ↔ fault.missing = true := by
  cases h with
  | missing hMissing =>
    simp only [hMissing, iff_true]
    exact List.prefix_append _ _
  | unexpected hMissing hText =>
    simp only [hMissing, Bool.false_eq_true, iff_false]
    rintro ⟨rest, hRest⟩
    have hHead : CodePoint.ofChar 'M' = CodePoint.ofChar 'U' := (List.cons.inj hRest).1
    exact absurd hHead (by decide)

namespace Concrete

variable {code : Text} {tree : Concrete} {fault : Shape}

/-- A program with a fault is refused at the start of the one that is found. -/
theorem exists_refuseFault (hFault : (firstFault? tree).getD tree.shape = fault)
    (hPlaced : fault.Placed code) :
    ∃ refusal index,
      (refuseFault (Source.ofText code) tree : Read Node) = .error (.refused refusal index) ∧
      refusal.Tells (Source.ofText code) fault ∧
      (Source.ofText code).offset? fault.start = some index ∧ 0 ≤ index ∧ index ≤ code.length := by
  obtain ⟨index, last, hIndex, -, hNonneg, hOrder, hLast⟩ :=
    Source.offset?_in_order hPlaced.start_nonneg hPlaced.ordered hPlaced.stop_le
  have hRefuse (refusal : Refusal) : ((Source.ofText code).refuse refusal fault : Read Node) =
      .error (.refused refusal index) := by
    simp only [Source.refuse, Source.offset, hIndex]
    rfl
  unfold refuseFault
  rw [hFault]
  by_cases hMissing : fault.missing = true
  · refine ⟨.missing fault.form, index, ?_, .missing hMissing, hIndex, hNonneg, by omega⟩
    rw [if_pos hMissing]
    exact hRefuse _
  · obtain ⟨text, hText⟩ := hPlaced.exists_textOf
    refine ⟨.unexpected text, index, ?_, .unexpected (Bool.not_eq_true _ ▸ hMissing) hText, hIndex,
      hNonneg, by omega⟩
    rw [if_neg hMissing, hText]
    exact hRefuse _

/-- The fault that a program is refused for, the root if nothing in it is a fault. -/
def principalFault (tree : Concrete) : Shape := tree.faults.head?.getD tree.shape

theorem principalFault_mem (tree : Concrete) : tree.principalFault ∈ tree.shapes := by
  unfold principalFault
  cases hHead : tree.faults.head? with
  | none => exact mem_shapes_self tree
  | some first => exact List.mem_of_mem_filter (List.mem_of_mem_head? hHead)

end Concrete

namespace Script

open Concrete

/-- A program that is marked as it should be is refused for its first fault. The search for that
fault ends, and no fault stands further to the left. -/
theorem parse_first_fault (script : Script) (hFaulty : script.tree.shape.faulty = true)
    (hMarked : script.tree.Marked) (hCovers : script.tree.shape.Covers script.code)
    (hPlaced : script.tree.all (Shape.isPlaced (Source.ofText script.code)) = true) :
    ∃ fault refusal index,
      (∀ steps, script.tree.shapes.length < steps →
        Search.step^[steps] (.pending [script.tree]) = .done script.tree.faults.head?) ∧
      fault = script.tree.faults.head?.getD script.tree.shape ∧
      (refuseFault (Source.ofText script.code) script.tree : Read Node) =
        .error (.refused refusal index) ∧
      (script.code.hasSurrogate = false → script.parse = .error (.refused refusal index)) ∧
      (Source.ofText script.code).offset? fault.start = some index ∧
      (∀ other ∈ script.tree.faults, ∃ place,
        (Source.ofText script.code).offset? other.start = some place ∧ index ≤ place) ∧
      (Position.ofIndex script.code index).LiesIn script.code ∧
      refusal.Tells (Source.ofText script.code) fault ∧
      (Text.ofString "Missing " <+: refusal.message ↔ fault.missing = true) := by
  have hFirst := firstFault?_eq_head? hMarked
  have hShapes := placed_of_mem script.tree hPlaced hCovers
  have hFound : (firstFault? script.tree).getD script.tree.shape = script.tree.principalFault := by
    rw [hFirst, principalFault]
  have hThis := hShapes _ script.tree.principalFault_mem
  obtain ⟨refusal, index, hRefuse, hTells, hIndex, hNonneg, hLe⟩ := exists_refuseFault hFound hThis
  refine ⟨script.tree.principalFault, refusal, index, fun steps hSteps => ?_, rfl, hRefuse,
    fun hSurrogate => ?_, hIndex, fun other hOther => ?_, Position.liesIn_ofIndex hNonneg hLe,
    hTells, hTells.missing_prefix_iff⟩
  · rw [Search.iterate_pending (by simpa using hSteps), ← hFirst]
    simp
  · simp only [parse, hSurrogate, hFaulty, hRefuse, Bool.false_eq_true, if_false, if_true]
  · have hStart : script.tree.principalFault.start ≤ other.start := by
      obtain ⟨first, hHead⟩ := Option.isSome_iff_exists.1 (List.isSome_head?.2
        (List.ne_nil_of_mem hOther))
      rw [principalFault, hHead]
      exact start_le_of_mem_faults hPlaced hHead other hOther
    have hThat := hShapes other (List.mem_of_mem_filter hOther)
    obtain ⟨first, place, hOne, hTwo, -, hOrder, -⟩ :=
      Source.offset?_in_order hThis.start_nonneg hStart (Int.le_trans hThat.ordered hThat.stop_le)
    rw [hIndex] at hOne
    cases hOne
    exact ⟨place, hTwo, hOrder⟩

/-- A node of a program with faults. -/
def marked (form : Form) (start stop : Int) (named missing : Bool) (children : List Concrete) :
    Concrete :=
  .mk ⟨form, start, stop, "", named, missing, true⟩ children

/-- The program `é;` and `(;` below it, in which the operand and the closing parenthesis are
missing. The operand comes first, at line 2 and column 1. -/
def unclosed : Script where
  code := "é;\n(;"
  tree :=
    marked .program 0 6 true false
      [.part .expressionStatement 0 3 ""
        [.part .identifier 0 2 "" [], .token 2 3 ";" ""],
       marked .expressionStatement 4 6 true false
        [marked .parenthesizedExpression 4 5 true false
          [.token 4 5 "(" "", marked .identifier 5 5 true true [],
           marked (.other ")") 5 5 false true []],
         .token 5 6 ";" ""]]

theorem unclosed_marked : unclosed.tree.Marked := by
  refine .mk (fun _ => rfl) (List.forall_mem_cons.2 ⟨marked_of_faults_eq_nil _ (by decide), ?_⟩)
  refine List.forall_mem_singleton.2 (.mk (fun _ => rfl) (List.forall_mem_cons.2 ⟨?_, ?_⟩))
  · refine .mk (fun _ => rfl) (List.forall_mem_cons.2 ⟨marked_of_faults_eq_nil _ (by decide), ?_⟩)
    exact List.forall_mem_cons.2 ⟨.mk (fun _ => rfl) (by simp),
      List.forall_mem_singleton.2 (.mk (fun _ => rfl) (by simp))⟩
  · exact List.forall_mem_singleton.2 (marked_of_faults_eq_nil _ (by decide))

theorem parse_first_fault_unclosed :
    unclosed.tree.shape.faulty = true ∧ unclosed.tree.Marked ∧
      unclosed.tree.shape.Covers unclosed.code ∧
      unclosed.tree.all (Shape.isPlaced (Source.ofText unclosed.code)) = true ∧
      unclosed.parse = .error (.refused (.missing .identifier) 4) ∧
      ∀ other ∈ unclosed.tree.faults, ∃ place,
        (Source.ofText unclosed.code).offset? other.start = some place ∧ 4 ≤ place := by
  have hCovers : unclosed.tree.shape.Covers unclosed.code := ⟨by decide, by decide, by decide⟩
  have hPlaced : unclosed.tree.all (Shape.isPlaced (Source.ofText unclosed.code)) = true := by decide
  obtain ⟨fault, refusal, index, -, -, -, hParse, -, hOthers, -⟩ :=
    parse_first_fault unclosed rfl unclosed_marked hCovers hPlaced
  have hFirst : unclosed.parse = .error (.refused (.missing .identifier) 4) := rfl
  rw [hParse (by decide)] at hFirst
  cases hFirst
  exact ⟨rfl, unclosed_marked, hCovers, hPlaced, hParse (by decide), hOthers⟩

end Script

end Assay
