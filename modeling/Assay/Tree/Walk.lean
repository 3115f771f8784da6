import Assay.Tree.View

/-!
# Children, walks and displays

What can be said of a tree without knowing its kinds: the children of a node, the steps of a walk
that treats some kinds in a way of their own, and the display of a tree on one line.
-/

set_option autoImplicit false

namespace Assay

namespace View

/-- The kind of a view that is a node. -/
def kind? : View → Option Kind
  | .node kind _ _ _ => some kind
  | _ => none

/-- The nodes that a field holds, by itself or as items of a list. -/
def held : View → List View
  | .node kind start stop fields => [.node kind start stop fields]
  | .list items => items.filter fun item => item.kind?.isSome
  | _ => []

/-- The children of a node, in the order of its fields. -/
def children : View → List View
  | .node _ _ _ fields => fields.flatMap fun field => field.2.held
  | _ => []

/-- How a walk treats the nodes of a kind or category: under which name, and whether it goes on to
their children. -/
abbrev Handlers := List (String × Bool)

/-- The handler for a kind: the one for the closest of its names that has one. -/
def Handlers.find (handlers : Handlers) (kind : Kind) : Option (String × Bool) :=
  kind.names.findSome? fun name => handlers.find? (·.1 == name)

/-- A step of a walk: the name of the handler and the name of the node's kind. -/
abbrev Step := String × String

mutual

/-- The steps of a walk through a tree, parents first. A kind without handler is treated
generically, and so is a node whose handler goes on to the children. -/
def walk (handlers : Handlers) : View → List Step
  | .node kind _ _ fields =>
    match handlers.find kind with
    | some (name, false) => [(name, kind.name)]
    | some (name, true) =>
      (name, kind.name) :: ("generic", kind.name) :: walkFields handlers fields
    | none => ("generic", kind.name) :: walkFields handlers fields
  | _ => []

/-- The steps of a walk through the items of a list. -/
def walkItems (handlers : Handlers) : List View → List Step
  | [] => []
  | item :: rest => walk handlers item ++ walkItems handlers rest

/-- The steps of a walk through the fields of a node. -/
def walkFields (handlers : Handlers) : List (String × View) → List Step
  | [] => []
  | (_, .list items) :: rest => walkItems handlers items ++ walkFields handlers rest
  | (_, value) :: rest => walk handlers value ++ walkFields handlers rest

end

mutual

/-- A tree on one line: each node as its kind with its fields. -/
def display : View → Text
  | .data value => value.display
  | .tuple [item] => "(" ++ item.display ++ ",)"
  | .tuple items => "(" ++ Text.join ", " (displayItems items) ++ ")"
  | .list items => "[" ++ Text.join ", " (displayItems items) ++ "]"
  | .node kind _ _ fields => kind.name ++ "(" ++ Text.join ", " (displayFields fields) ++ ")"

/-- The displays of the items of a list. -/
def displayItems : List View → List Text
  | [] => []
  | item :: rest => item.display :: displayItems rest

/-- The displays of the fields of a node. -/
def displayFields : List (String × View) → List Text
  | [] => []
  | (name, value) :: rest => (name ++ "=" ++ value.display) :: displayFields rest

end

mutual

/-- Whether some whole number in the view has more digits than are written. -/
def hasLongNumber : View → Bool
  | .data value => value.hasLongNumber
  | .tuple items => anyLongNumber items
  | .list items => anyLongNumber items
  | .node _ _ _ fields => anyLongField fields

/-- Whether some item holds a long number. -/
def anyLongNumber : List View → Bool
  | [] => false
  | item :: rest => item.hasLongNumber || anyLongNumber rest

/-- Whether some field holds a long number. -/
def anyLongField : List (String × View) → Bool
  | [] => false
  | (_, value) :: rest => value.hasLongNumber || anyLongField rest

end

/-- The display of a view, if each number in it can be written. -/
def display? (view : View) : Option Text :=
  if view.hasLongNumber then none else some view.display

/-- A view as running text: a text as it is, all else as displayed. -/
def plain? : View → Option Text
  | .data (.text value) => some value
  | view => view.display?

end View

end Assay
