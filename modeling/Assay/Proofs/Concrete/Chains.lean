import Assay.Proofs.Concrete.Assembly
import Mathlib.Data.List.Induction

/-!
# Chains are closed where they end

A chain of members and calls with an optional link is closed off once, at its top, and nowhere else.
In the tree of a program the top of each chain has an optional link below it (`Node.spine`), each
optional link stands below exactly one top (`Node.OnSpine`), and a chain goes on behind a closed one
only where the closed one stands in parentheses (`Concrete.Encloses`).

`Node.ClosesAt` is what one node has to do for that: only a top or the next link may stand directly
above a chain that is still open.
-/

set_option autoImplicit false

namespace Assay

variable {base : Node}

namespace Node

open Lower (hasOptional closeChain)

variable {node tree : Node} {address : List Nat}

/-- Whether a node is an optional link. -/
def isOptional : Node → Bool
  | .member _ _ _ _ optional => optional
  | .call _ _ _ optional => optional
  | _ => false

/-- The links of a chain, from its end to its start. -/
def spine : Node → List Node
  | .member span object key computed optional =>
    .member span object key computed optional :: spine object
  | .call span callee arguments optional => .call span callee arguments optional :: spine callee
  | _ => []

/-- What stands at an address, where each number is the place of a part among the parts of a node. -/
def at? : List Nat → Node → Option Node
  | [], tree => some tree
  | place :: rest, tree => tree.parts[place]?.bind (at? rest)

/-- The address is that of a link of the chain whose top stands at the given address. -/
inductive OnSpine (tree : Node) (top : List Nat) : List Nat → Prop
  | first {span : Span} {link : Node} : at? top tree = some (.chain span link) →
      link.base?.isSome = true → OnSpine tree top (top ++ [0])
  | next {address : List Nat} {link : Node} : OnSpine tree top address →
      at? (address ++ [0]) tree = some link → link.base?.isSome = true →
      OnSpine tree top (address ++ [0])

/-! ## Spines -/

theorem hasOptional_eq (node : Node) : hasOptional node = node.spine.any isOptional := by
  fun_induction hasOptional node with
  | case1 span object key computed optional ih => simp [spine, isOptional, ih]
  | case2 span callee arguments optional ih => simp [spine, isOptional, ih]
  | case3 node hMember hCall =>
    cases node
    case member => exact (hMember _ _ _ _ _ rfl).elim
    case call => exact (hCall _ _ _ _ rfl).elim
    all_goals rfl

theorem hasOptional_of_isOptional (h : node.isOptional = true) : hasOptional node = true := by
  cases node
  case member => simpa [hasOptional, isOptional] using Or.inl h
  case call => simpa [hasOptional, isOptional] using Or.inl h
  all_goals cases h

theorem hasOptional_of_base?_eq_none (h : node.base? = none) : hasOptional node = false := by
  cases node
  case member => cases h
  case call => cases h
  all_goals rfl

theorem hasOptional_of_base (h : node.base? = some base) (hBase : hasOptional base = true) :
    hasOptional node = true := by
  cases node
  case member => cases h; simp [hasOptional, hBase]
  case call => cases h; simp [hasOptional, hBase]
  all_goals cases h

theorem isChain_of_base? (h : node.base? = some base) : node.isChain = false := by
  cases node
  case chain => cases h
  all_goals rfl

theorem eq_chain_of_isChain (h : node.isChain = true) : ∃ span link, node = .chain span link := by
  cases node
  case chain span link => exact ⟨span, link, rfl⟩
  all_goals cases h

/-! ## Tops and links -/

/-- The top of a chain has an optional link below it, and above a chain that is still open there is a
top or the next link. -/
structure ClosesAt (node : Node) : Prop where
  top : ∀ span link, node = .chain span link → hasOptional link = true
  below : ∀ place part, node.parts[place]? = some part → hasOptional part = true →
    place = 0 ∧ (node.isChain = true ∨ node.base? = some part)

/-- Each node of a tree closes its chains, each link has the property, and the tree itself is no open
chain. -/
structure Closed (origin : Node → Prop) (tree : Node) : Prop where
  every : tree.Every fun node => node.ClosesAt ∧ (node.base?.isSome = true → origin node)
  settled : hasOptional tree = false

variable {origin : Node → Prop}

theorem closesAt_of_settled (hChain : node.isChain = false)
    (h : ∀ part ∈ node.parts, hasOptional part = false) : node.ClosesAt where
  top := by
    rintro span link rfl
    cases hChain
  below := by
    intro place part hPart hOptional
    rw [h part (List.mem_of_getElem? hPart)] at hOptional
    cases hOptional

theorem compositional_closed : Compositional (Closed origin) := by
  intro node hBase hChain
  constructor
  · intro h part hPart
    obtain ⟨⟨-, hBelow⟩, -⟩ := h.every.here
    refine ⟨h.every.part hPart, Bool.eq_false_iff.2 fun hOptional => ?_⟩
    obtain ⟨place, hPlace⟩ := List.mem_iff_getElem?.1 hPart
    rcases (hBelow place part hPlace hOptional).2 with hTop | hLink
    · rw [hChain] at hTop
      cases hTop
    · rw [hBase] at hLink
      cases hLink
  · intro h
    refine ⟨⟨⟨closesAt_of_settled hChain fun part hPart => (h part hPart).settled, ?_⟩,
      fun part hPart => (h part hPart).every⟩, hasOptional_of_base?_eq_none hBase⟩
    simp [hBase]

/-- A chain is closed off at its top. -/
theorem closed_closeChain
    (h : node.Every fun node => node.ClosesAt ∧ (node.base?.isSome = true → origin node)) :
    (closeChain node).Closed origin := by
  unfold closeChain
  split
  · rename_i hOptional
    refine ⟨⟨⟨⟨?_, ?_⟩, fun hBase => by cases hBase⟩, ?_⟩, rfl⟩
    · rintro span link ⟨⟩
      exact hOptional
    · intro place part hPart _
      have hPlace : place = 0 := by
        have := (List.getElem?_eq_some_iff.1 hPart).1
        simpa [Node.parts, looseParts, placedParts] using this
      exact ⟨hPlace, .inl rfl⟩
    · simpa [Node.parts, looseParts, placedParts] using h
  · rename_i hSettled
    exact ⟨h, Bool.eq_false_iff.2 hSettled⟩

/-- Only the base of a link may be an open chain. -/
theorem every_of_extends (h : node.Extends (Closed origin) base) (hOrigin : origin node)
    (hBase : base.Every fun node => node.ClosesAt ∧ (node.base?.isSome = true → origin node)) :
    node.Every fun node => node.ClosesAt ∧ (node.base?.isSome = true → origin node) := by
  obtain ⟨others, hParts, hOthers⟩ := h.parts
  refine ⟨⟨⟨?_, ?_⟩, fun _ => hOrigin⟩, ?_⟩
  · rintro span link rfl
    cases h.base?_eq
  · intro place part hPart hOptional
    rw [hParts] at hPart
    cases place with
    | zero =>
      cases hPart
      exact ⟨rfl, .inr h.base?_eq⟩
    | succ place =>
      have hSettled := (hOthers part (List.mem_of_getElem? hPart)).settled
      rw [hOptional] at hSettled
      cases hSettled
  · rw [hParts]
    exact List.forall_mem_cons.2 ⟨hBase, fun part hPart => (hOthers part hPart).every⟩

/-! ## Addresses -/

theorem Every.at? {p : Node → Prop} (h : tree.Every p) (hNode : Node.at? address tree = some node) :
    node.Every p := by
  induction address generalizing tree with
  | nil =>
    cases hNode
    exact h
  | cons place rest ih =>
    obtain ⟨part, hPart, hRest⟩ := Option.bind_eq_some_iff.1 hNode
    exact ih (h.part (List.mem_of_getElem? hPart)) hRest

theorem at?_concat (address : List Nat) (place : Nat) (tree : Node) :
    at? (address ++ [place]) tree = (at? address tree).bind fun node => node.parts[place]? := by
  induction address generalizing tree with
  | nil => cases h : tree.parts[place]? <;> simp [at?, h]
  | cons first rest ih =>
    cases h : tree.parts[first]? with
    | none => simp [at?, h]
    | some part => simpa [at?, h] using ih part

/-- What stands on a spine is a link. -/
theorem OnSpine.exists_link {top : List Nat} (h : tree.OnSpine top address) :
    ∃ link, Node.at? address tree = some link ∧ link.base?.isSome = true := by
  cases h with
  | @first span link hTop hLink =>
    refine ⟨link, ?_, hLink⟩
    rw [at?_concat, hTop]
    rfl
  | next _ hAt hLink => exact ⟨_, hAt, hLink⟩

theorem OnSpine.unique {top other : List Nat} (h : tree.OnSpine top address)
    (hOther : tree.OnSpine other address) : top = other := by
  have hNone {span : Span} {link : Node} {start above : List Nat}
      (hTop : Node.at? start tree = some (.chain span link)) : ¬ tree.OnSpine above start := by
    intro hSpine
    obtain ⟨found, hFound, hBase⟩ := hSpine.exists_link
    rw [hTop] at hFound
    cases hFound
    cases hBase
  induction h with
  | first hTop hLink =>
    generalize hAddress : top ++ [0] = address at hOther
    cases hOther with
    | first _ _ => exact List.append_cancel_right hAddress
    | next hSpine _ _ => exact (hNone hTop (List.append_cancel_right hAddress ▸ hSpine)).elim
  | @next address link hSpine hAt hLink ih =>
    generalize hAddress : address ++ [0] = full at hOther
    cases hOther with
    | first hTop _ => exact (hNone hTop (List.append_cancel_right hAddress ▸ hSpine)).elim
    | next hOther _ _ => exact ih (List.append_cancel_right hAddress ▸ hOther)

/-- An open chain somewhere in a tree is part of a larger one, which is closed in the end because the
tree itself is no open chain. -/
theorem Closed.exists_onSpine (h : tree.Closed origin) (hNode : Node.at? address tree = some node)
    (hOptional : hasOptional node = true) : ∃ top, tree.OnSpine top address := by
  -- The induction goes up from the open chain to the node above it.
  induction address using List.reverseRecOn generalizing node with
  | nil =>
    cases hNode
    rw [h.settled] at hOptional
    cases hOptional
  | append_singleton address place ih =>
    have hLink : node.base?.isSome = true := by
      cases hBase : node.base? with
      | none =>
        rw [hasOptional_of_base?_eq_none hBase] at hOptional
        cases hOptional
      | some base => rfl
    rw [at?_concat] at hNode
    obtain ⟨parent, hParent, hPart⟩ := Option.bind_eq_some_iff.1 hNode
    obtain ⟨rfl, hTop | hBase⟩ := (h.every.at? hParent).here.1.below place node hPart hOptional
    · obtain ⟨span, link, rfl⟩ := eq_chain_of_isChain hTop
      cases hPart
      exact ⟨address, .first hParent hLink⟩
    · obtain ⟨top, hSpine⟩ := ih hParent (hasOptional_of_base hBase hOptional)
      refine ⟨top, .next hSpine ?_ hLink⟩
      rw [at?_concat, hParent]
      exact hPart

end Node

/-! ## Parentheses -/

namespace Concrete

/-- The children of a node. -/
def children : Concrete → List Concrete
  | .mk _ children => children

/-- What stands before a link: the object of a member or the function of a call. -/
def base? (tree : Concrete) : Option Concrete :=
  tree.children.find? fun child => child.shape.field == tree.shape.form.baseRole

/-- The first child that is more than a token and no comment. -/
def content? (tree : Concrete) : Option Concrete :=
  tree.children.find? fun child => child.shape.named && !child.shape.form.isNoise

/-- The second tree stands in the parentheses of the first, or in parentheses there. -/
inductive Encloses : Concrete → Concrete → Prop
  | once {tree core : Concrete} : tree.shape.form = .parenthesizedExpression →
      tree.content? = some core → Encloses tree core
  | more {tree inner core : Concrete} : tree.shape.form = .parenthesizedExpression →
      tree.content? = some inner → Encloses inner core → Encloses tree core

variable {source : Source} {tree : Concrete} {node : Node}

theorem link_reading (source : Source) (tree : Concrete) : (reading source tree).link =
    Lower.link source tree.shape (readings source tree.children) := by
  cases tree
  rw [reading]
  rfl

theorem node_reading (source : Source) (tree : Concrete) : (reading source tree).node =
    if tree.shape.form.isLink then (reading source tree).link.map Lower.closeChain
    else (reading source tree).link := by
  cases tree
  rw [reading]
  rfl

/-- The part in the role of the base is the reading of the base. -/
theorem find?_baseRole (source : Source) (tree : Concrete) :
    Parts.find? (readings source tree.children) tree.shape.form.baseRole =
      tree.base?.map (reading source) := by
  simp only [Parts.find?, base?, readings_eq_map, List.find?_map, Function.comp_def,
    shape_reading]

/-- Parentheses are read as what is in them. -/
theorem link_parentheses (h : tree.shape.form = .parenthesizedExpression) :
    (reading source tree).link =
      (tree.content?.map fun core => (reading source core).node).getD (.error .absentOperand) := by
  have hNamed : (Parts.named (readings source tree.children)).head? =
      tree.content?.map (reading source) := by
    simp only [Parts.named, List.head?_filter, content?, readings_eq_map, List.find?_map,
      Function.comp_def, Reading.form, shape_reading]
  rw [link_reading, Lower.link, if_pos h, Parts.operand]
  cases hContent : tree.content? with
  | none =>
    rw [hContent] at hNamed
    rw [List.head?_eq_none_iff.1 hNamed]
    rfl
  | some core =>
    rw [hContent] at hNamed
    obtain ⟨rest, hRest⟩ := List.head?_eq_some_iff.1 hNamed
    rw [hRest]
    rfl

/-- Whatever is read is something. -/
theorem holds_any (source : Source) (tree : Concrete) :
    (reading source tree).Holds (fun _ => True) fun _ => True :=
  holds_reading (fun _ _ _ => by simp) (fun _ _ => trivial) (fun _ _ => trivial) tree
    fun _ _ _ _ _ _ _ _ => trivial

theorem holds_children (source : Source) (tree : Concrete) :
    ∀ part ∈ readings source tree.children, part.Holds (fun _ => True) fun _ => True := by
  rw [readings_eq_map]
  intro part hPart
  obtain ⟨child, -, rfl⟩ := List.mem_map.1 hPart
  exact holds_any source child

/-- A link is read behind its base, or it is a template behind a tag. -/
theorem exists_base (hForm : tree.shape.form.isLink = true)
    (h : (reading source tree).link = .ok node) :
    node.base? = none ∧ node.isChain = false ∨ ∃ child base, tree.base? = some child ∧
      (reading source child).link = .ok base ∧ node.base? = some base := by
  rw [link_reading] at h
  rcases (Lower.link_extends (holds_children source tree) hForm).of_eq h with hAssembled |
    ⟨r, base, hFind, hBase, hExtends⟩
  · exact .inl ⟨hAssembled.base?_eq, hAssembled.isChain_eq⟩
  · rw [find?_baseRole] at hFind
    obtain ⟨child, hChild, rfl⟩ := Option.map_eq_some_iff.1 hFind
    exact .inr ⟨child, base, hChild, hBase, hExtends.base?_eq⟩

/-- Inside of a chain only parentheses are read as a closed chain. -/
theorem isChain_link (hForm : tree.shape.form ≠ .parenthesizedExpression)
    (h : (reading source tree).link = .ok node) : node.isChain = false := by
  cases hLink : tree.shape.form.isLink with
  | true =>
    rcases exists_base hLink h with ⟨-, hChain⟩ | ⟨_, _, -, -, hBase⟩
    · exact hChain
    · exact Node.isChain_of_base? hBase
  | false =>
    rw [link_reading, Lower.link, if_neg hForm] at h
    have hp : Node.Framed fun _ => True := fun _ _ => by simp
    have hGives : (Lower.link source tree.shape (readings source tree.children)).Gives
        (Node.Assembled fun _ => True) := by
      rw [Lower.link, if_neg hForm]
      exact Read.gives_place _ _ _ fun span _ =>
        Lower.linkAt_assembled hp (holds_children source tree) hLink
    rw [Lower.link, if_neg hForm] at hGives
    exact (hGives.of_eq h).isChain_eq

theorem sizeOf_content? {core : Concrete} (h : tree.content? = some core) :
    sizeOf core < sizeOf tree := by
  cases tree with
  | mk shape children =>
    have hMem : core ∈ children := List.mem_of_find?_eq_some h
    have hSize := List.sizeOf_lt_of_mem hMem
    simp only [mk.sizeOf_spec]
    omega

/-- What is read as a closed chain inside of another one is a chain in parentheses. -/
theorem exists_encloses (source : Source) {node : Node} (hChain : node.isChain = true)
    (tree : Concrete) (h : (reading source tree).link = .ok node) :
    ∃ core link, tree.Encloses core ∧ core.shape.form.isLink = true ∧
      (reading source core).link = .ok link ∧ Lower.hasOptional link = true ∧
      node = .chain link.span link := by
  by_cases hForm : tree.shape.form = .parenthesizedExpression
  · rw [link_parentheses hForm] at h
    cases hContent : tree.content? with
    | none => simp [hContent] at h
    | some core =>
      have hSmaller := sizeOf_content? hContent
      simp only [hContent, Option.map_some, Option.getD_some, node_reading] at h
      split at h
      · rename_i hLink
        cases hRead : (reading source core).link with
        | error error => simp [hRead, Except.map] at h
        | ok link =>
          simp only [hRead, Except.map, Except.ok.injEq, Lower.closeChain] at h
          split at h
          · rename_i hOptional
            exact ⟨core, link, .once hForm hContent, hLink, hRead, hOptional, h.symm⟩
          · have hOpen : link.isChain = false := by
              refine isChain_link ?_ hRead
              intro hForm
              rw [hForm] at hLink
              cases hLink
            rw [h, hChain] at hOpen
            cases hOpen
      · obtain ⟨inner, link, hEncloses, hRest⟩ := exists_encloses source hChain core h
        exact ⟨inner, link, .more hForm hContent hEncloses, hRest⟩
  · rw [isChain_link hForm h] at hChain
    cases hChain
termination_by sizeOf tree

/-- A chain in parentheses is read as a closed chain. -/
theorem Encloses.node_eq {core : Concrete} {link : Node} (h : tree.Encloses core)
    (hForm : core.shape.form.isLink = true) (hLink : (reading source core).link = .ok link)
    (hOptional : Lower.hasOptional link = true) :
    (reading source tree).link = .ok (.chain link.span link) := by
  induction h with
  | once hParentheses hContent =>
    rw [link_parentheses hParentheses, hContent]
    simp [node_reading, hForm, hLink, Except.map, Lower.closeChain, hOptional]
  | @more tree inner core hParentheses hContent hInner ih =>
    have hOuter : inner.shape.form.isLink = false := by
      cases hInner <;> simp_all [Form.isLink]
    rw [link_parentheses hParentheses, hContent]
    simp [node_reading, hOuter, ih hForm hLink]

/-- The tree is a link, and what is read there is an open chain. -/
structure ReadsChain (source : Source) (tree : Concrete) (link : Node) : Prop where
  isLink : tree.shape.form.isLink = true
  read : (reading source tree).link = .ok link
  optional : link.spine.any Node.isOptional = true

/-- The base of a link is a closed chain exactly where that chain stands in parentheses. -/
theorem eq_chain_iff {child : Concrete} (h : (reading source child).link = .ok base) (span : Span)
    (link : Node) :
    base = .chain span link ↔
      span = link.span ∧ ∃ core, child.Encloses core ∧ core.ReadsChain source link := by
  constructor
  · rintro rfl
    obtain ⟨core, found, hEncloses, hForm, hRead, hOptional, hEq⟩ :=
      exists_encloses source rfl child h
    obtain ⟨rfl, rfl⟩ := Node.chain.inj hEq
    exact ⟨rfl, core, hEncloses, hForm, hRead, Node.hasOptional_eq link ▸ hOptional⟩
  · rintro ⟨rfl, core, hEncloses, hForm, hRead, hOptional⟩
    rw [← Node.hasOptional_eq] at hOptional
    rw [hEncloses.node_eq hForm hRead hOptional] at h
    cases h
    rfl

/-- What is read at a link tells what was read there inside of a chain. -/
theorem link_eq_of_node_eq {other : Concrete} (hForm : tree.shape.form.isLink = true)
    (hOther : other.shape.form.isLink = true) (hLink : (reading source tree).link = .ok node)
    (h : (reading source tree).node = (reading source other).node) :
    (reading source other).link = .ok node := by
  have hOpen {found : Concrete} {link : Node} (hFound : found.shape.form.isLink = true)
      (hRead : (reading source found).link = .ok link) : link.isChain = false := by
    refine isChain_link (fun hParentheses => ?_) hRead
    rw [hParentheses] at hFound
    cases hFound
  have hNode := hOpen hForm hLink
  rw [node_reading, if_pos hForm, hLink, node_reading, if_pos hOther] at h
  cases hRead : (reading source other).link with
  | error error =>
    rw [hRead] at h
    cases h
  | ok link =>
    have hChain := hOpen hOther hRead
    rw [hRead] at h
    have hEq : Lower.closeChain node = Lower.closeChain link := Except.ok.inj h
    unfold Lower.closeChain at hEq
    split at hEq <;> split at hEq
    · rw [(Node.chain.inj hEq).2]
    · rw [← hEq] at hChain
      cases hChain
    · rw [hEq] at hNode
      cases hNode
    · rw [hEq]

/-- The tree is a link behind a chain in parentheses. -/
def FollowsEnclosed (source : Source) (tree : Concrete) : Prop :=
  tree.shape.form.isLink = true ∧ ∃ child core link, tree.base? = some child ∧
    child.Encloses core ∧ core.ReadsChain source link

/-- The tree is a link directly behind another one. -/
def FollowsLink (tree : Concrete) : Prop :=
  tree.shape.form.isLink = true ∧ ∃ child, tree.base? = some child ∧
    child.shape.form.isLink = true

/-- A link behind a chain in parentheses is never read like one behind the chain itself. -/
theorem node_ne_of_follows {bare : Concrete} {link : Node} (h : tree.FollowsEnclosed source)
    (hBare : bare.FollowsLink) (hLink : (reading source tree).link = .ok link)
    (hBase : link.base?.isSome = true) :
    (reading source tree).node ≠ (reading source bare).node := by
  obtain ⟨hForm, child, core, inner, hChild, hEncloses, hCore⟩ := h
  obtain ⟨hOther, direct, hDirect, hDirectForm⟩ := hBare
  intro hEq
  have hRead := link_eq_of_node_eq hForm hOther hLink hEq
  obtain ⟨base, hBase⟩ := Option.isSome_iff_exists.1 hBase
  have hFound {found : Concrete} {step : Concrete} (hFound : found.shape.form.isLink = true)
      (hStep : found.base? = some step) (hRead : (reading source found).link = .ok link) :
      (reading source step).link = .ok base := by
    rcases exists_base hFound hRead with ⟨hNone, -⟩ | ⟨other, given, hOther, hGiven, hEq⟩
    · rw [hBase] at hNone
      cases hNone
    · rw [hStep] at hOther
      rw [hBase] at hEq
      cases hOther
      cases hEq
      exact hGiven
  have hClosed : base = .chain inner.span inner :=
    (eq_chain_iff (hFound hForm hChild hLink) _ _).2 ⟨rfl, core, hEncloses, hCore⟩
  have hOpen : base.isChain = false := by
    refine isChain_link (fun hParentheses => ?_) (hFound hOther hDirect hRead)
    rw [hParentheses] at hDirectForm
    cases hDirectForm
  rw [hClosed] at hOpen
  cases hOpen

end Concrete

namespace Script

open Concrete

/-- Chains are closed exactly where they end: below the top of each chain there is an optional link,
each optional link belongs to exactly one top, and what stands before a link is a closed chain exactly
where that chain is in parentheses, so that the parentheses always make a difference. -/
theorem parse_chains {script : Script} {program : Node} (h : script.parse = .ok program) :
    (∀ address span link, Node.at? address program = some (.chain span link) →
      link.base?.isSome = true ∧ link.spine.any Node.isOptional = true) ∧
    (∀ address link, Node.at? address program = some link → link.isOptional = true →
      ∃! top, program.OnSpine top address) ∧
    (∀ address link base, Node.at? address program = some link → link.base? = some base →
      ∃ tree child, tree.Within script.tree ∧ tree.shape.form.isLink = true ∧
        (reading (.ofText script.code) tree).link = .ok link ∧ tree.base? = some child ∧
        ∀ span inner, base = .chain span inner ↔ span = inner.span ∧
          ∃ core, child.Encloses core ∧ core.ReadsChain (.ofText script.code) inner) ∧
    ∀ (tree bare : Concrete) (link : Node), tree.FollowsEnclosed (.ofText script.code) →
      bare.FollowsLink → (reading (.ofText script.code) tree).link = .ok link →
      link.base?.isSome = true →
      (reading (.ofText script.code) tree).node ≠ (reading (.ofText script.code) bare).node := by
  let origin (node : Node) : Prop := ∃ tree : Concrete, tree.Within script.tree ∧
    tree.shape.form.isLink = true ∧ (reading (.ofText script.code) tree).link = .ok node
  have hClosed : program.Closed origin := by
    have hHolds : (reading (.ofText script.code) script.tree).Holds (Node.Closed origin)
        (Node.Every fun node => node.ClosesAt ∧ (node.base?.isSome = true → origin node)) :=
      holds_reading Node.compositional_closed (fun _ hNode => hNode.every)
        (fun _ hNode => Node.closed_closeChain hNode) script.tree
        fun tree hTree hForm node base hNode hExtends hBase =>
          Node.every_of_extends hExtends ⟨tree, hTree, hForm, hNode⟩ hBase
    exact hHolds.node.of_eq (reading_of_parse h)
  refine ⟨?_, ?_, ?_, fun _ _ _ => node_ne_of_follows⟩
  · intro address span link hTop
    have hOptional := (hClosed.every.at? hTop).here.1.top span link rfl
    refine ⟨?_, Node.hasOptional_eq link ▸ hOptional⟩
    cases hBase : link.base? with
    | none =>
      rw [Node.hasOptional_of_base?_eq_none hBase] at hOptional
      cases hOptional
    | some base => rfl
  · intro address link hLink hOptional
    obtain ⟨top, hTop⟩ :=
      hClosed.exists_onSpine hLink (Node.hasOptional_of_isOptional hOptional)
    exact ⟨top, hTop, fun other hOther => hOther.unique hTop⟩
  · intro address link base hLink hBase
    obtain ⟨tree, hTree, hForm, hRead⟩ := (hClosed.every.at? hLink).here.2 (by simp [hBase])
    rcases exists_base hForm hRead with ⟨hNone, -⟩ | ⟨child, found, hChild, hFound, hEq⟩
    · rw [hBase] at hNone
      cases hNone
    · rw [hBase] at hEq
      cases hEq
      exact ⟨tree, child, hTree, hForm, hRead, hChild, eq_chain_iff hFound⟩

/-- The program `(a?.b).c;`. -/
def enclosedChain : Script where
  code := "(a?.b).c;"
  tree :=
    .part .program 0 9 "" [.part .expressionStatement 0 9 "" [.part .memberExpression 0 8 ""
      [.part .parenthesizedExpression 0 6 "object" [.part .memberExpression 1 5 ""
        [.part .identifier 1 2 "object" [], .part (.other "optional_chain") 2 4 "" [],
         .part .propertyIdentifier 4 5 "property" []]],
       .part .propertyIdentifier 7 8 "property" []]]]

/-- The syntax tree of `(a?.b).c;`. -/
def enclosedChainTree : Node :=
  .program (.between 0 9) [.expressionStatement (.between 0 9)
    (.member (.between 0 8)
      (.chain (.between 1 5) (.member (.between 1 5) (.identifier (.between 1 2) "a")
        (.identifier (.between 4 5) "b") false true))
      (.identifier (.between 7 8) "c") false false)]

/-- The optional link has one top, and that is the object of the other link because of the
parentheses. -/
theorem parse_chains_enclosedChain :
    enclosedChain.parse = .ok enclosedChainTree ∧
      (∃! top, enclosedChainTree.OnSpine top [0, 0, 0, 0]) ∧
      ∃ tree child : Concrete, tree.Within enclosedChain.tree ∧ tree.base? = some child ∧
        ∃ core, child.Encloses core ∧ core.ReadsChain (.ofText enclosedChain.code)
          (.member (.between 1 5) (.identifier (.between 1 2) "a")
            (.identifier (.between 4 5) "b") false true) := by
  have hParse : enclosedChain.parse = .ok enclosedChainTree := rfl
  obtain ⟨-, hOptional, hBase, -⟩ := parse_chains hParse
  obtain ⟨tree, child, hTree, -, -, hChild, hChain⟩ := hBase [0, 0] _ _ rfl rfl
  exact ⟨hParse, hOptional [0, 0, 0, 0] _ rfl rfl, tree, child, hTree, hChild,
    ((hChain _ _).1 rfl).2⟩

end Script

end Assay
