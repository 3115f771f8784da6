import Assay.Proofs.Mutation.Divided

/-!
# Any two variants of a tree

`Sites.Spread` says something of any two variants, and of each variant and the value before the
walk; like the variants themselves, it is put together from what holds of the parts. Two variants of
a tree that come from its parts fork at these: the later variant has in front of the place what the
earlier one has there. So variants are distinct if those of the parts are.
-/

set_option autoImplicit false

namespace Assay

open Print

/-! ## Something of any two variants -/

namespace Sites

variable {α β : Type}

/-- Each variant is related to the later ones, and to the value before the walk. -/
structure Spread (r : Altered α → Altered α → Prop) (sites : Sites α) : Prop where
  pairs : sites.altered.Pairwise r
  start : ∀ a ∈ sites.altered, ∀ kind reported, r a ⟨kind, reported, sites.before⟩

theorem Spread.of_fixed {r : Altered α → Altered α → Prop} {sites : Sites α}
    (h : sites.altered = []) : sites.Spread r := by
  constructor <;> simp [h]

theorem spread_fixed {r : Altered α → Altered α → Prop} (value : α) : (fixed value).Spread r :=
  .of_fixed rfl

theorem Spread.imp {r s : Altered α → Altered α → Prop} {sites : Sites α} (h : sites.Spread r)
    (hImp : ∀ a ∈ sites.altered, ∀ b, r a b → s a b) : sites.Spread s where
  pairs := h.pairs.imp_of_mem fun ha _ hRel => hImp _ ha _ hRel
  start a ha kind reported := hImp a ha _ (h.start a ha kind reported)

variable {r : Altered β → Altered β → Prop}

theorem Spread.map {f : α → β} {part : Sites α}
    (h : part.Spread fun a b => r (a.map f) (b.map f)) : (f <$> part).Spread r where
  pairs := List.pairwise_map.2 h.pairs
  start := by
    intro _ hMem kind reported
    obtain ⟨a, ha, rfl⟩ := List.mem_map.1 hMem
    exact h.start a ha kind reported

/-- What is said of the variants of the earlier parts must not depend on the later part, as long as
this is before the walk or a variant. -/
theorem Spread.seq {q : α → Prop} {whole : Sites (α → β)} {part : Sites α}
    (hSettled : whole.settled = whole.before) (hBefore : q part.before)
    (hAltered : ∀ a ∈ part.altered, q a.whole)
    (hWhole : whole.Spread fun a b => ∀ y z, q y → q z → r (a.map (· y)) (b.map (· z)))
    (hPart : part.Spread fun a b => r (a.map whole.before) (b.map whole.before)) :
    (whole <*> part).Spread r where
  pairs := by
    rw [altered_seq, hSettled]
    refine List.pairwise_append.2 ⟨List.pairwise_map.2 ?_, List.pairwise_map.2 hPart.pairs, ?_⟩
    · exact hWhole.pairs.imp fun h => h _ _ hBefore hBefore
    · intro _ hWholes _ hParts
      obtain ⟨a, ha, rfl⟩ := List.mem_map.1 hWholes
      obtain ⟨b, hb, rfl⟩ := List.mem_map.1 hParts
      exact hWhole.start a ha b.kind b.reported _ _ hBefore (hAltered b hb)
  start := by
    intro _ hMem kind reported
    rw [altered_seq, hSettled] at hMem
    rcases List.mem_append.1 hMem with hWholes | hParts
    · obtain ⟨a, ha, rfl⟩ := List.mem_map.1 hWholes
      exact hWhole.start a ha kind reported _ _ hBefore hBefore
    · obtain ⟨a, ha, rfl⟩ := List.mem_map.1 hParts
      exact hPart.start a ha kind reported

theorem Spread.seq_free {whole : Sites (α → β)} {part : Sites α}
    (hSettled : whole.settled = whole.before)
    (hWhole : whole.Spread fun a b => ∀ y z, r (a.map (· y)) (b.map (· z)))
    (hPart : part.Spread fun a b => r (a.map whole.before) (b.map whole.before)) :
    (whole <*> part).Spread r :=
  .seq (q := fun _ => True) hSettled trivial (fun _ _ => trivial)
    (hWhole.imp fun _ _ _ h y z _ _ => h y z) hPart

theorem Spread.seq_pure {whole : Sites (α → β)} {value : α}
    (hSettled : whole.settled = whole.before)
    (hWhole : whole.Spread fun a b => r (a.map (· value)) (b.map (· value))) :
    (whole <*> pure value).Spread r :=
  .seq (q := (· = value)) hSettled rfl (fun _ ha => by cases ha)
    (hWhole.imp fun a _ b h y z hY hZ => by subst hY hZ; exact h) (spread_fixed value)

end Sites

/-! ## Distinct variants -/

namespace Mutate

open Variant

variable {a b : Altered Node}

attribute [local simp] Node.parts Node.looseParts Node.placedParts

/-- A test that is forced to a truth value, and the same truth value put there for a literal. -/
def Twins {α : Type} (a b : Altered α) : Prop :=
  a.kind = .conditional ∧ b.kind = .booleanLiteral ∧ ∃ span value raw,
    a.reported = Build.boolLiteral value span ∧ b.reported = .literal span (.bool value) raw none

/-- The texts of two variants are apart, or the variants are twins, if there may be constant
tests. -/
def Distinct (constant : Prop) (a b : Altered Node) : Prop :=
  (∃ rift, Divide rift a.whole b.whole) ∨ constant ∧ Twins a b

/-- Variants of a whole that come from distinct variants of parts. -/
def Within {α : Type} (constant : Prop) (fork : Node → Node → α → α → Prop)
    (a b : Altered α) : Prop :=
  ∃ x y, fork x y a.whole b.whole ∧
    Distinct constant ⟨a.kind, a.reported, x⟩ ⟨b.kind, b.reported, y⟩

variable {constant : Prop}

theorem Distinct.of_divide {rift : Rift} (h : Divide rift a.whole b.whole) :
    Distinct constant a b :=
  .inl ⟨rift, h⟩

theorem Within.distinct (h : Within constant (Forked True) a b) : Distinct constant a b := by
  obtain ⟨x, y, hForked, ⟨rift, hDivide⟩ | hTwins⟩ := h
  · exact .of_divide (hDivide.forked hForked)
  · exact .inr hTwins

theorem Within.map {α β : Type} {fork : Node → Node → α → α → Prop}
    {forks : Node → Node → β → β → Prop} {a b : Altered α} {u v : β} (h : Within constant fork a b)
    (hFork : ∀ x y, fork x y a.whole b.whole → forks x y u v) :
    Within constant forks ⟨a.kind, a.reported, u⟩ ⟨b.kind, b.reported, v⟩ := by
  obtain ⟨x, y, hIn, hDistinct⟩ := h
  exact ⟨x, y, hFork x y hIn, hDistinct⟩

theorem Distinct.within {α : Type} {fork : Node → Node → α → α → Prop} {u v : α}
    (h : Distinct constant a b) (hFork : fork a.whole b.whole u v) :
    Within constant fork ⟨a.kind, a.reported, u⟩ ⟨b.kind, b.reported, v⟩ :=
  ⟨a.whole, b.whole, hFork, h⟩

variable {limit : Int} {assertion sentinel : Text}

theorem spread_walkOptional {part : Option Node}
    (h : ∀ node ∈ part, (walk (plainRules assertion sentinel) node).Spread (Distinct constant)) :
    (walkOptional (plainRules assertion sentinel) part).Spread
      (Within constant fun x y a b => a = some x ∧ b = some y) := by
  cases part with
  | none => exact Sites.spread_fixed none
  | some node =>
    exact .map ((h node rfl).imp fun a _ b hDistinct => hDistinct.within ⟨rfl, rfl⟩)

theorem spread_walkList {nodes : List Node}
    (h : ∀ node ∈ nodes, (walk (plainRules assertion sentinel) node).Spread (Distinct constant)) :
    (walkList (plainRules assertion sentinel) nodes).Spread (Within constant (ForkedIn True)) := by
  induction nodes with
  | nil => exact Sites.spread_fixed []
  | cons node rest ih =>
    refine .seq (q := fun _ => True) (by simp) trivial (fun _ _ => trivial) (.map ?_) ?_
    · exact (h node List.mem_cons_self).imp fun a _ b hDistinct _ _ _ _ =>
        hDistinct.within (.here (.inl trivial))
    · refine (ih (List.forall_mem_cons.1 h).2).imp ?_
      intro a _ b hWithin
      exact hWithin.map fun x y hIn => by simpa using hIn.there

theorem spread_walkHoles {elements : List (Option Node)}
    (h : ∀ node, some node ∈ elements →
      (walk (plainRules assertion sentinel) node).Spread (Distinct constant)) :
    (walkHoles (plainRules assertion sentinel) elements).Spread
      (Within constant fun x y => ForkedIn True (some x) (some y)) := by
  induction elements with
  | nil => exact Sites.spread_fixed []
  | cons element rest ih =>
    refine .seq (q := fun _ => True) (by simp) trivial (fun _ _ => trivial) (.map ?_) ?_
    · have hHead : ∀ node ∈ element, some node ∈ element :: rest := fun node hNode => by
        simp [Option.mem_def.1 hNode]
      refine (spread_walkOptional fun node hNode => h node (hHead node hNode)).imp ?_
      rintro ⟨_, _, _⟩ _ ⟨_, _, _⟩ hWithin _ _ _ _
      refine hWithin.map ?_
      rintro x y ⟨rfl, rfl⟩
      exact .here (.inl trivial)
    · refine (ih fun other hOther => h other (List.mem_cons_of_mem _ hOther)).imp ?_
      intro a _ b hWithin
      exact hWithin.map fun x y hIn => by simpa using hIn.there

/-- Variants that come from the parts of a tree fork at these. -/
theorem spread_inner {lexicon : Lexicon} {node : Node} (h : node.Proper lexicon)
    (hDivide : ∀ part ∈ node.parts, ∀ a ∈ (walk (plainRules assertion sentinel) part).altered,
      Divide .wide a.whole part)
    (hParts : ∀ part ∈ node.parts,
      (walk (plainRules assertion sentinel) part).Spread (Distinct constant)) :
    (inner (plainRules assertion sentinel) node).Spread (Within constant (Forked True)) := by
  have hSignature (part : Node) (hPart : part ∈ node.parts) :
      ∀ a ∈ (walk (plainRules assertion sentinel) part).altered,
        signature? a.whole = signature? part := fun a ha =>
    (congrArg Outline.signature? (hDivide part hPart a ha).outline_eq).symm
  have hList {nodes : List Node} (hNodes : ∀ part ∈ nodes, part ∈ node.parts) :
      (walkList (plainRules assertion sentinel) nodes).Spread (Within constant (ForkedIn True)) :=
    spread_walkList fun part hPart => hParts part (hNodes part hPart)
  have hOptional {part : Option Node} (hPart : ∀ other ∈ part, other ∈ node.parts) :
      (walkOptional (plainRules assertion sentinel) part).Spread
        (Within constant fun x y a b => a = some x ∧ b = some y) :=
    spread_walkOptional fun part hMem => hParts part (hPart part hMem)
  have hHoles {elements : List (Option Node)} (hElements : ∀ part, some part ∈ elements →
      part ∈ node.parts) : (walkHoles (plainRules assertion sentinel) elements).Spread
        (Within constant fun x y => ForkedIn True (some x) (some y)) :=
    spread_walkHoles fun part hMem => hParts part (hElements part hMem)
  cases node
  case' binary => rw [inner_binary]
  case' call => rw [inner_eq (by rw [walk])]; split
  case' methodDefinition computed _ => rw [inner_eq (by rw [walk])]; cases computed
  case' propertyDefinition computed _ => rw [inner_eq (by rw [walk])]; cases computed
  case' property computed _ _ => rw [inner_eq (by rw [walk])]; cases computed
  all_goals try rw [inner_eq (by rw [walk])]
  all_goals try simp only [key_computed, key_plain]
  case ifStatement test consequent alternate =>
    refine .seq (q := fun y => y.isSome = alternate.isSome) (by simp) (by simp) ?_
      (.seq_free (by simp) (.map ?_) ?_) ?_
    · intro a ha
      obtain ⟨_, _, _, ⟨rfl, hWhole⟩, _⟩ := stems_walkOptional alternate a ha
      rw [hWhole]
      rfl
    · refine (hParts test (by simp)).imp fun a _ b hDistinct => ?_
      intros
      exact hDistinct.within (.ifTest (.inl trivial))
    · refine (hParts consequent (by simp)).imp ?_
      intro a _ b hDistinct y z hY hZ
      exact hDistinct.within (.ifConsequent (hY.trans hZ.symm) (.inl trivial))
    · refine (hOptional (by simp +contextual)).imp ?_
      rintro ⟨_, _, _⟩ _ ⟨_, _, _⟩ hWithin
      refine hWithin.map ?_
      rintro x y ⟨rfl, rfl⟩
      simpa using Forked.ifAlternate
  case templateLiteral quasis expressions =>
    refine .map ((hList (by simp +contextual)).imp ?_)
    intro a ha b hWithin
    obtain ⟨_, _, _, hIn, _⟩ := stems_walkList expressions a ha
    refine hWithin.map fun x y => .templateParts ?_
    rw [hIn.length_eq, show quasis.length = expressions.length + 1 from h]
    exact Nat.lt_succ_self _
  case methodDefinition.true name value _ _ =>
    refine .seq_pure (by simp) (.seq_pure (by simp) (.seq_pure (by simp) ?_))
    refine .seq (q := fun y => signature? y = signature? value) (by simp) (by simp)
      (hSignature value (by simp)) (.map ?_) ?_
    · refine (hParts name (by simp)).imp ?_
      intro a _ b hDistinct y z hY hZ
      exact hDistinct.within (.methodKey (hZ.trans hY.symm) (.inl trivial))
    · refine (hParts value (by simp)).imp fun a _ b hDistinct => ?_
      exact hDistinct.within .methodValue
  case property.true name value _ shorthand _ =>
    obtain rfl : shorthand = false := by simpa using h.2
    refine .seq_pure (by simp) (.seq_pure (by simp) (.seq_pure (by simp) (.seq_pure (by simp) ?_)))
    refine .seq (q := fun y => signature? y = signature? value) (by simp) (by simp)
      (hSignature value (by simp)) (.map ?_) ?_
    · refine (hParts name (by simp)).imp ?_
      intro a _ b hDistinct y z hY hZ
      exact hDistinct.within (.propertyKey (hZ.trans hY.symm) (.inl trivial))
    · refine (hParts value (by simp)).imp fun a _ b hDistinct => ?_
      exact hDistinct.within .propertyValue
  case function id _ body _ _ _ =>
    have hId : (walkOptional (plainRules assertion sentinel) id).altered = [] := by
      refine List.eq_nil_iff_forall_not_mem.2 fun a ha => ?_
      obtain ⟨name, b, hb, ⟨rfl, -⟩, -⟩ := stems_walkOptional id a ha
      rw [altered_name (h name rfl)] at hb
      cases hb
    refine .seq_pure (by simp) (.seq_pure (by simp) (.seq_pure (by simp) ?_))
    refine .seq_free (by simp) (.seq_free (by simp) (.map (.of_fixed hId)) ?_) ?_
    · refine (hList (by simp +contextual)).imp fun a _ b hWithin => ?_
      intros
      exact hWithin.map fun x y hIn => .functionParams hIn (.inl trivial)
    · refine (hParts body (by simp)).imp fun a _ b hDistinct => ?_
      exact hDistinct.within .functionBody
  all_goals repeat' with_reducible first
    | exact Sites.spread_fixed _
    | apply Sites.Spread.map
    | refine Sites.Spread.seq_pure (by simp) ?_
    | refine Sites.Spread.seq_free (by simp) ?_ ?_
  -- what is left is about one part, several, one that may be absent, or several with holes
  all_goals with_reducible first
    | refine Sites.Spread.imp (hParts _ ?_) fun a _ b hDistinct => ?_
    | refine Sites.Spread.imp (hList ?_) fun a _ b hWithin => ?_
    | refine Sites.Spread.imp (hOptional ?_) fun a _ b hWithin => ?_
    | refine Sites.Spread.imp (hHoles ?_) fun a _ b hWithin => ?_
  all_goals first
    | simp +contextual; done
    | intros; exact hDistinct.within (by constructor <;> exact .inl trivial)
    | exact hWithin.map fun x y hIn => by constructor; exact hIn
    | cases a; cases b; intros
      exact hWithin.map (by rintro x y ⟨rfl, rfl⟩; constructor <;> exact .inl trivial)

end Mutate

end Assay
