import Assay.Proofs.Tree.RoundTrip

/-!
# Addresses in a view

An `Address` leads from a view to a part of it: each number is the place of a field in a node, or
the place of an item in a list. `View.modifyAt` changes what stands at an address and nothing else,
and `View.nodes` lists the nodes of a view with their addresses, parents before children and fields
in their order. A walk need not go everywhere: `passed` says which fields of a node are passed over.
-/

set_option autoImplicit false

namespace Assay

/-- The way from a view to a part deep inside of it. -/
abbrev Address := List Nat

namespace View

variable (change : View → View) (address : Address)

/-- The fields of a node. -/
abbrev Fields := List (String × View)

/-- The view with other content in some fields of its node. -/
def set (changes : Fields) : View → View
  | .node kind start stop fields =>
    .node kind start stop (fields.map fun field =>
      (field.1, ((changes.find? (·.1 == field.1)).map (·.2)).getD field.2))
  | view => view

/-- The view with `change` applied to what stands at an address. -/
def modifyAt (change : View → View) : Address → View → View
  | [], view => change view
  | place :: rest, .node kind start stop fields =>
    .node kind start stop (fields.modify place fun field => (field.1, modifyAt change rest field.2))
  | place :: rest, .list items => .list (items.modify place (modifyAt change rest))
  | _ :: _, view => view

/-- The view with `change` applied at several addresses, one after the other. -/
def modifyAll (change : View → View) (addresses : List Address) (view : View) : View :=
  addresses.foldl (fun view address => view.modifyAt change address) view

/-- A change of the whole comes before changes inside of it. -/
theorem modifyAll_whole (addresses : List Address) (view : View) :
    modifyAll change ([] :: addresses) view = modifyAll change addresses (change view) := by
  simp [modifyAll, modifyAt]

/-- Changes inside of the first field of a node are changes of what that field holds. -/
theorem modifyAll_first (addresses : List Address) (kind : Kind) (start stop : Data)
    (name : String) (value : View) (rest : Fields) :
    modifyAll change (addresses.map (0 :: ·)) (.node kind start stop ((name, value) :: rest)) =
      .node kind start stop ((name, modifyAll change addresses value) :: rest) := by
  induction addresses generalizing value with
  | nil => rfl
  | cons address addresses ih =>
    simpa [modifyAll, modifyAt] using ih (modifyAt change address value)

/-- The fields of a node with `change` applied to what stands at an address in one of them. -/
def modifyInFields (change : View → View) : Address → Fields → Fields
  | [], fields => fields
  | place :: rest, fields =>
    fields.modify place fun field => (field.1, modifyAt change rest field.2)

/-- The items of a list with `change` applied to what stands at an address in one of them. -/
def modifyInItems (change : View → View) : Address → List View → List View
  | [], items => items
  | place :: rest, items => items.modify place (modifyAt change rest)

@[simp]
theorem modifyInFields_first (field : String × View) (rest : Fields) :
    modifyInFields change (0 :: address) (field :: rest) =
      (field.1, modifyAt change address field.2) :: rest := by
  simp [modifyInFields]

@[simp]
theorem modifyInFields_later (field : String × View) (rest : Fields) :
    modifyInFields change (address.modifyHead (· + 1)) (field :: rest) =
      field :: modifyInFields change address rest := by
  cases address <;> simp [modifyInFields]

@[simp]
theorem modifyInItems_first (item : View) (rest : List View) :
    modifyInItems change (0 :: address) (item :: rest) = modifyAt change address item :: rest := by
  simp [modifyInItems]

@[simp]
theorem modifyInItems_later (item : View) (rest : List View) :
    modifyInItems change (address.modifyHead (· + 1)) (item :: rest) =
      item :: modifyInItems change address rest := by
  cases address <;> simp [modifyInItems]

/-- Inside of a node a change is a change in one of its fields. -/
theorem modifyAt_node {address : Address} (h : address ≠ []) (kind : Kind) (start stop : Data)
    (fields : Fields) :
    modifyAt change address (.node kind start stop fields) =
      .node kind start stop (modifyInFields change address fields) := by
  cases address with
  | nil => contradiction
  | cons place rest => simp [modifyAt, modifyInFields]

/-- Inside of a list a change is a change in one of its items. -/
theorem modifyAt_list {address : Address} (h : address ≠ []) (items : List View) :
    modifyAt change address (.list items) = .list (modifyInItems change address items) := by
  cases address with
  | nil => contradiction
  | cons place rest => simp [modifyAt, modifyInItems]

/-! ## Walks -/

/-- Something that a walk meets, with its address. -/
structure Visit where
  /-- The way to it. -/
  address : Address
  /-- What stands there. -/
  view : View

namespace Visit

/-- A visit to the first part of a whole. -/
def first (visit : Visit) : Visit := ⟨0 :: visit.address, visit.view⟩

/-- A visit to a part that has one more part before it. -/
def later (visit : Visit) : Visit := ⟨visit.address.modifyHead (· + 1), visit.view⟩

end Visit

section

variable (passed : View → String → Bool)

mutual

/-- The nodes of a view, without those in fields that are passed over. -/
def nodes : View → List Visit
  | .node kind start stop fields =>
    ⟨[], .node kind start stop fields⟩ ::
      nodesOfFields (passed (.node kind start stop fields)) fields
  | .list items => nodesOfItems items
  | _ => []

/-- The nodes in the fields of a node. -/
def nodesOfFields (skip : String → Bool) : Fields → List Visit
  | [] => []
  | (name, value) :: rest =>
    (if skip name then [] else (nodes value).map Visit.first)
      ++ (nodesOfFields skip rest).map Visit.later

/-- The nodes in the items of a list. -/
def nodesOfItems : List View → List Visit
  | [] => []
  | item :: rest => (nodes item).map Visit.first ++ (nodesOfItems rest).map Visit.later

end

/-- What a walk meets in the fields of a node is inside of the node. -/
theorem address_ne_nil_of_mem_nodesOfFields (skip : String → Bool) (fields : Fields) :
    ∀ visit ∈ nodesOfFields passed skip fields, visit.address ≠ [] := by
  induction fields with
  | nil => simp [nodesOfFields]
  | cons field rest ih =>
    intro visit hVisit
    rw [nodesOfFields, List.mem_append] at hVisit
    rcases hVisit with hFirst | hLater
    · split at hFirst
      · simp at hFirst
      · obtain ⟨inner, -, rfl⟩ := List.mem_map.1 hFirst
        simp [Visit.first]
    · obtain ⟨inner, hInner, rfl⟩ := List.mem_map.1 hLater
      simpa [Visit.later] using ih inner hInner

/-- What a walk meets in the items of a list is inside of the list. -/
theorem address_ne_nil_of_mem_nodesOfItems (items : List View) :
    ∀ visit ∈ nodesOfItems passed items, visit.address ≠ [] := by
  induction items with
  | nil => simp [nodesOfItems]
  | cons item rest ih =>
    intro visit hVisit
    rw [nodesOfItems, List.mem_append] at hVisit
    rcases hVisit with hFirst | hLater
    · obtain ⟨inner, -, rfl⟩ := List.mem_map.1 hFirst
      simp [Visit.first]
    · obtain ⟨inner, hInner, rfl⟩ := List.mem_map.1 hLater
      simpa [Visit.later] using ih inner hInner

end

end View

end Assay
