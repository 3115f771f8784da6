import Assay.Mutation.Operator

/-!
# Alterations inside of a whole

`Sites α` is a value together with all its altered variants, in order. The applicative structure
puts wholes together from parts: a variant of a whole is a variant of one of its parts among the
other parts, the variants of an earlier part before those of a later one. A walk may also leave
something behind in a part it has passed; `settled` is the value with what was left behind, and
variants of later parts stand beside the settled earlier parts.
-/

set_option autoImplicit false

namespace Assay

/-- A variant of a value. -/
structure Altered (α : Type) where
  /-- The sort of the alteration. -/
  kind : MutationKind
  /-- The altered node, or what stands at the altered place. -/
  reported : Node
  /-- The whole variant. -/
  whole : α

namespace Altered

/-- Puts a variant into a larger whole. -/
def map {α β : Type} (f : α → β) (a : Altered α) : Altered β := ⟨a.kind, a.reported, f a.whole⟩

end Altered

/-- A value with all its variants. -/
structure Sites (α : Type) where
  /-- The value before the walk. -/
  before : α
  /-- The variants in order. -/
  altered : List (Altered α)
  /-- The value after the walk. -/
  settled : α

namespace Sites

/-- A value without variants. -/
def fixed {α : Type} (value : α) : Sites α := ⟨value, [], value⟩

/-- A whole with one varying part. -/
def map {α β : Type} (f : α → β) (part : Sites α) : Sites β :=
  ⟨f part.before, part.altered.map (Altered.map f), f part.settled⟩

/-- A whole with one more varying part, behind those it already has. -/
def seq {α β : Type} (whole : Sites (α → β)) (part : Unit → Sites α) : Sites β :=
  let part := part ()
  ⟨whole.before part.before,
    whole.altered.map (Altered.map (· part.before))
      ++ part.altered.map (Altered.map whole.settled),
    whole.settled part.settled⟩

instance : Applicative Sites where
  pure := fixed
  map := map
  seq := seq

/-- A value with variants of its own before those of its parts. -/
def withOwn {α : Type} (own : List (Altered α)) (parts : Sites α) : Sites α :=
  { parts with altered := own ++ parts.altered }

end Sites

end Assay
