import Assay.Proofs.Mutation.Exactness
import Assay.Proofs.Tree.Replace
import Assay.Proofs.Tree.WellFormed

/-!
# Variants differ from their program at one place

A variant of a tree is a variant of its root, or it stems from a variant of a part, which it has in
the place of the part: `altered_walk` and `stems_inner`. So what carries over from a part to the
whole holds of all variants once it holds of those of single nodes: `each_walk`.
-/

set_option autoImplicit false

namespace Assay

/-! ## Something of all variants -/

namespace Sites

/-- Something holds of what is reported and of the whole, for each variant. -/
def Each {α : Type} (p : Node → α → Prop) (sites : Sites α) : Prop :=
  ∀ altered ∈ sites.altered, p altered.reported altered.whole

variable {α β : Type} {p : Altered β → Prop}

theorem forall_map {f : α → β} {part : Sites α} :
    (∀ b ∈ (f <$> part).altered, p b) ↔ ∀ a ∈ part.altered, p (a.map f) :=
  List.forall_mem_map

theorem forall_seq {whole : Sites (α → β)} {part : Sites α} :
    (∀ b ∈ (whole <*> part).altered, p b) ↔
      (∀ a ∈ whole.altered, p (a.map (· part.before))) ∧
        ∀ a ∈ part.altered, p (a.map whole.settled) := by
  rw [altered_seq, List.forall_mem_append, List.forall_mem_map, List.forall_mem_map]

theorem forall_fixed {value : β} : (∀ b ∈ (fixed value).altered, p b) ↔ True :=
  ⟨fun _ => trivial, fun _ _ hb => by cases hb⟩

@[simp]
theorem before_fixed {value : β} : (fixed value).before = value := rfl

@[simp]
theorem settled_fixed {value : β} : (fixed value).settled = value := rfl

theorem forall_pure {value : β} : (∀ b ∈ (pure value : Sites β).altered, p b) ↔ True :=
  forall_fixed

end Sites

/-! ## Where variants come from -/

namespace Mutate

open Variant

/-- A variant that comes from a variant of a part, which is put in its place. -/
def Stems {α : Type} (rules : Rules) (put : Node → Node → α → Prop) (b : Altered α) : Prop :=
  ∃ part, ∃ a ∈ (walk rules part).altered,
    put part a.whole b.whole ∧ b = ⟨a.kind, a.reported, b.whole⟩

variable {α β : Type} {rules : Rules} {assertion sentinel : Text}

theorem Stems.map {put : Node → Node → α → Prop} {puts : Node → Node → β → Prop} {b : Altered α}
    {v : β} (h : Stems rules put b) (hPut : ∀ x y, put x y b.whole → puts x y v) :
    Stems rules puts ⟨b.kind, b.reported, v⟩ := by
  obtain ⟨part, a, ha, hIn, hEq⟩ := h
  exact ⟨part, a, ha, hPut _ _ hIn, by rw [hEq]⟩

/-- A variant of a tree stems from the tree. -/
theorem stems_walk (part : Node) : ∀ a ∈ (walk rules part).altered,
    Stems rules (fun x y whole => x = part ∧ y = whole) a :=
  fun a ha => ⟨part, a, ha, ⟨rfl, rfl⟩, rfl⟩

theorem stems_walkOptional (part : Option Node) : ∀ a ∈ (walkOptional rules part).altered,
    Stems rules (fun x y whole => part = some x ∧ whole = some y) a := by
  cases part with
  | none =>
    intro a ha
    cases ha
  | some node =>
    rw [walkOptional, Sites.altered_map, List.forall_mem_map]
    intro a ha
    refine (stems_walk node a ha).map ?_
    rintro x y ⟨rfl, rfl⟩
    exact ⟨rfl, rfl⟩

theorem stems_walkList (nodes : List Node) :
    ∀ a ∈ (walkList (plainRules assertion sentinel) nodes).altered,
      Stems (plainRules assertion sentinel) (fun x y => ReplacedIn x y nodes) a := by
  induction nodes with
  | nil => exact Sites.forall_fixed.2 trivial
  | cons node rest ih =>
    rw [walkList, Sites.forall_seq, Sites.forall_map]
    constructor
    · intro a ha
      refine (stems_walk node a ha).map ?_
      rintro x y ⟨rfl, rfl⟩
      simpa [Altered.map] using ReplacedIn.head
    · intro a ha
      refine (ih a ha).map fun x y hIn => ?_
      simpa using hIn.tail

theorem stems_walkHoles (elements : List (Option Node)) :
    ∀ a ∈ (walkHoles (plainRules assertion sentinel) elements).altered,
      Stems (plainRules assertion sentinel)
        (fun x y => ReplacedIn (some x) (some y) elements) a := by
  induction elements with
  | nil => exact Sites.forall_fixed.2 trivial
  | cons element rest ih =>
    rw [walkHoles, Sites.forall_seq, Sites.forall_map]
    constructor
    · rintro ⟨kind, reported, whole⟩ ha
      refine (stems_walkOptional element _ ha).map ?_
      rintro x y ⟨rfl, rfl⟩
      simpa [Altered.map] using ReplacedIn.head
    · intro a ha
      refine (ih a ha).map fun x y hIn => ?_
      simpa using hIn.tail

/-- The variants of a tree that come from its parts. -/
def inner (rules : Rules) (node : Node) : Sites Node :=
  { walk rules node with altered := (walk rules node).altered.drop (own rules node).length }

theorem inner_eq {rules : Rules} {node : Node} {parts : Sites Node}
    (h : walk rules node = Sites.withOwn (own rules node) parts) : inner rules node = parts := by
  rw [inner, h]
  simp [Sites.withOwn]

theorem altered_walk (rules : Rules) (node : Node) :
    (walk rules node).altered = own rules node ++ (inner rules node).altered := by
  rw [inner, walk.eq_def]
  simp [Sites.withOwn]

theorem inner_binary (span : Span) (left : Node) (operator : Text) (right : Node) :
    inner (plainRules assertion sentinel) (.binary span left operator right) =
      Node.binary span <$> walk (plainRules assertion sentinel) left <*> pure operator
        <*> walk (plainRules assertion sentinel) right :=
  inner_eq (by rw [walk])

theorem key_computed (kind : Kind) (node : Node) (sites : Sites Node) :
    key (plainRules assertion sentinel) kind true node sites = sites := rfl

theorem key_plain (kind : Kind) (node : Node) (sites : Sites Node) :
    key (plainRules assertion sentinel) kind false node sites = .fixed node := rfl

/-- A name has no variants. -/
theorem altered_name {node : Node} (h : node.isName = true) :
    (walk (plainRules assertion sentinel) node).altered = [] := by
  cases node <;> cases h
  simp [walk, own, Sites.withOwn, Sites.fixed]

/-- What comes from the parts of a tree has a variant of one in its place. -/
theorem stems_inner {lexicon : Lexicon} {node : Node} (h : node.Proper lexicon) :
    ∀ a ∈ (inner (plainRules assertion sentinel) node).altered,
      Stems (plainRules assertion sentinel) (fun x y => Node.Replaced x y node) a := by
  cases node
  case' binary => rw [inner_binary]
  case' call => rw [inner_eq (by rw [walk])]; split
  case' methodDefinition computed _ => rw [inner_eq (by rw [walk])]; cases computed
  case' propertyDefinition computed _ => rw [inner_eq (by rw [walk])]; cases computed
  case' property computed _ _ => rw [inner_eq (by rw [walk])]; cases computed
  all_goals try rw [inner_eq (by rw [walk])]
  all_goals simp only [key_computed, key_plain, Sites.forall_seq, Sites.forall_map,
    Sites.forall_fixed, Sites.forall_pure, Sites.settled_map, Sites.settled_seq, Sites.settled_pure,
    Sites.settled_fixed, Sites.before_pure, walk_before, walk_settled, walkOptional_unchanged,
    walkList_unchanged, and_true, true_and]
  all_goals repeat' apply And.intro
  all_goals intro a ha
  all_goals first
    | exact (stems_walk _ a ha).map (by rintro x y ⟨rfl, rfl⟩; constructor)
    | exact (stems_walkList _ a ha).map (fun x y hIn => by constructor; exact hIn)
    | exact (stems_walkHoles _ a ha).map (fun x y hIn => by constructor; exact hIn)
    | (cases a; exact (stems_walkOptional _ _ ha).map (by rintro x y ⟨rfl, rfl⟩; constructor))
    | skip
  · -- the name of a function has no variants
    obtain ⟨name, b, hb, ⟨rfl, -⟩, -⟩ := stems_walkOptional _ a ha
    rw [altered_name (h name rfl)] at hb
    cases hb

/-! ## The variants of a node itself -/

/-- The variant with a test forced to a truth value, which alone is reported. -/
def forcedTo (value : Bool) (place : Span) (build : Node → Node) : Altered Node :=
  ⟨.conditional, Build.boolLiteral value place, build (Build.boolLiteral value place)⟩

open Catalogue in
/-- The variants that an undisturbed walk builds for a node itself, one rule for each alteration. -/
inductive Own (sentinel : Text) : Node → Altered Node → Prop
  | binary {span left operator right kind swap} : MutationKind.ofBinary? operator = some kind →
      swap ∈ kind.swaps operator (left.isNull || right.isNull) →
      Own sentinel (.binary span left operator right) (whole kind (.binary span left swap right))
  | logical {span left operator right swap} : swap ∈ MutationKind.logical.swaps operator false →
      Own sentinel (.logical span left operator right)
        (whole .logical (.logical span left swap right))
  | assignment {span left operator right swap} :
      swap ∈ MutationKind.assignment.swaps operator false →
      Own sentinel (.assignment span left operator right)
        (whole .assignment (.assignment span left swap right))
  | unary {span operator argument swap} : swap ∈ MutationKind.unary.swaps operator false →
      Own sentinel (.unary span operator argument) (whole .unary (.unary span swap argument))
  | update {span operator leading argument swap} :
      swap ∈ MutationKind.update.swaps operator false →
      Own sentinel (.update span operator leading argument)
        (whole .update (.update span swap leading argument))
  | side {span operator leading argument} : Own sentinel (.update span operator leading argument)
      (whole .update (.update span operator (!leading) argument))
  | bool {span value raw regex} : Own sentinel (.literal span (.bool value) raw regex)
      (whole .booleanLiteral (.literal span (.bool !value) raw regex))
  | string {span t raw} : Own sentinel (.literal span (.text t) raw none)
      (whole .stringLiteral (Build.stringLiteral (.text (blank sentinel t)) span))
  | template {span first rest items} : Own sentinel (.templateLiteral span (first :: rest) items)
      (whole .stringLiteral (.templateLiteral span
        (Build.quasi (blank sentinel first.raw) first.tail :: rest) items))
  | array {span items} : items ≠ [] → Own sentinel (.arrayExpression span items)
      (whole .collectionLiteral (.arrayExpression span []))
  | object {span items} : items ≠ [] → Own sentinel (.objectExpression span items)
      (whole .collectionLiteral (.objectExpression span []))
  | call {span callee items optional} : items ≠ [] →
      Own sentinel (.call span callee items optional)
        (whole .collectionLiteral (.call span callee [] optional))
  | new {span callee items} : items ≠ [] → Own sentinel (.newExpression span callee items)
      (whole .collectionLiteral (.newExpression span callee []))
  | block {span items} : items ≠ [] → Own sentinel (.blockStatement span items)
      (whole .blockStatement (.blockStatement span []))
  | ifTest {span test consequent alternate value} : isLiteral value (some test) = false →
      Own sentinel (.ifStatement span test consequent alternate)
        (forcedTo value test.span (.ifStatement span · consequent alternate))
  | whileTest {span test body value} : isLiteral value (some test) = false →
      Own sentinel (.whileStatement span test body)
        (forcedTo value test.span (.whileStatement span · body))
  | doTest {span body test value} : isLiteral value (some test) = false →
      Own sentinel (.doWhileStatement span body test)
        (forcedTo value test.span (.doWhileStatement span body ·))
  | forTest {span init test step body value} : isLiteral value test = false →
      Own sentinel (.forStatement span init test step body)
        (forcedTo value (test.elim span Node.span)
          fun literal => .forStatement span init (some literal) step body)
  | chain {span expression} : Own sentinel (.chain span expression)
      (whole .optionalChaining (.chain span (plainChain expression)))

section Rules

variable {node : Node} {altered : Altered Node}

theorem forcedTo_of_mem {span : Span} {test : Option Node} {build : Node → Node}
    (h : altered ∈ forced span test build) : ∃ value, isLiteral value test = false ∧
      altered = forcedTo value (test.elim span Node.span) build := by
  obtain ⟨value, hValue, rfl⟩ := List.mem_map.1 h
  refine ⟨value, by simpa using (List.mem_filter.1 hValue).2, ?_⟩
  cases test <;> rfl

theorem whole_of_mem {kind : MutationKind} {items : List α} {empty : Node}
    (h : altered ∈ emptied kind items empty) : items ≠ [] ∧ altered = whole kind empty := by
  unfold emptied at h
  split at h
  · cases h
  · rename_i hItems
    exact ⟨by simpa using hItems, List.mem_singleton.1 h⟩

/-- An undisturbed walk finds no other variants of a node itself. -/
theorem own_of_mem (h : altered ∈ own (plainRules assertion sentinel) node) :
    Own sentinel node altered := by
  cases node
  case binary =>
    simp only [own] at h
    split at h
    · obtain ⟨swap, hSwap, rfl⟩ := List.mem_map.1 h
      exact .binary ‹_› hSwap
    · cases h
  case logical | assignment | unary =>
    obtain ⟨swap, hSwap, rfl⟩ := List.mem_map.1 h
    constructor
    exact hSwap
  case update =>
    rcases List.mem_append.1 h with hSwapped | hFlipped
    · obtain ⟨swap, hSwap, rfl⟩ := List.mem_map.1 hSwapped
      exact .update hSwap
    · rw [List.mem_singleton.1 hFlipped]
      exact .side
  case literal =>
    simp only [own, literalVariants, Catalogue.blankFor_eq_blank] at h
    split at h
    · rw [List.mem_singleton.1 h]
      exact .bool
    · rw [List.mem_singleton.1 h]
      exact .string
    · cases h
  case templateLiteral quasis _ =>
    cases quasis with
    | nil => cases h
    | cons first rest =>
      simp only [own, templateVariants, Catalogue.blankFor_eq_blank, List.mem_singleton] at h
      rw [h]
      exact .template
  case call =>
    simp only [own] at h
    split at h
    · cases h
    · obtain ⟨hItems, rfl⟩ := whole_of_mem h
      exact .call hItems
  case arrayExpression | objectExpression | newExpression | blockStatement =>
    obtain ⟨hItems, rfl⟩ := whole_of_mem h
    constructor
    exact hItems
  case ifStatement | whileStatement | doWhileStatement | forStatement =>
    rw [own] at h
    obtain ⟨value, hValue, rfl⟩ := forcedTo_of_mem h
    constructor
    exact hValue
  case chain =>
    rw [List.mem_singleton.1 h]
    exact .chain
  all_goals cases h

end Rules

/-! ## All variants -/

/-- What holds of the variants of single nodes, and of a whole if it holds of a part, holds of all
variants of a tree. -/
theorem each_walk {lexicon : Lexicon} {p : Node → Prop}
    {r : Node → Node → Node → Prop} (hProper : ∀ node, p node → node.Proper lexicon)
    (hOwn : ∀ {node altered}, node.Every p → Own sentinel node altered →
      r altered.reported node altered.whole)
    (hPart : ∀ {reported x y node other}, node.Every p → r reported x y →
      Node.Replaced x y node other → r reported node other) {node : Node} (h : node.Every p) :
    (walk (plainRules assertion sentinel) node).Each (r · node ·) := by
  induction h with
  | @mk node hNode hParts ih =>
    intro altered hAltered
    rw [altered_walk] at hAltered
    rcases List.mem_append.1 hAltered with hMem | hMem
    · exact hOwn ⟨hNode, hParts⟩ (own_of_mem hMem)
    · obtain ⟨part, variant, hVariant, hReplaced, hEq⟩ :=
        stems_inner (hProper node hNode) altered hMem
      rw [hEq]
      exact hPart ⟨hNode, hParts⟩ (ih part hReplaced.mem_left variant hVariant) hReplaced

end Mutate

end Assay
