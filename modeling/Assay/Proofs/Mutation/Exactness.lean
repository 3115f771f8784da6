import Mathlib.Data.List.Basic
import Assay.Proofs.Mutation.Catalogue

/-!
# The mutants of a program

Every mutant is the program with the fields of one node changed as the catalogue says, and every
entry of the catalogue on every node that a walk meets is a mutant, in the order of the walk.

The walk builds its variants from the leaves up. `Variant.within` lists the variants of a view from
the top down instead: each part is varied inside of a context that puts the variant into the whole.
`Variant.within_ofNode` says that the walk finds the same variants, and `Variant.within_eq_nodes`
that a context is a change at an address. The two together make `Mutation.generate` a run over the
nodes of the unaltered program.
-/

set_option autoImplicit false

namespace Assay

/-- The result for the tree that a view shows. -/
def View.onTree {α : Type} (view : View) (f : Node → Except Failure α) : Except Failure α :=
  match view.node? with
  | some tree => f tree
  | none => .error .wrongType

/-- The text of the tree that a view shows. -/
def View.write (view : View) : Except Failure Text := view.onTree Node.write

/-- The range in the code of the tree that a view shows. -/
def View.locate (code : Text) (view : View) : Except Failure Range := view.onTree (Node.locate code)

namespace Variant

section

variable (passed : View → String → Bool) (entriesOf : View → List Entry)

/-- The variants of a view by its own entries, inside of a context. -/
def ownWithin (context : View → View) (view : View) : List Variant :=
  (entriesOf view).map fun entry => ⟨entry.kind, entry.report view, context (entry.apply view)⟩

mutual

/-- The variants of a view by the entries of all its nodes, inside of a context. -/
def within (context : View → View) : View → List Variant
  | .node kind start stop fields =>
    ownWithin entriesOf context (.node kind start stop fields) ++
      withinFields (passed (.node kind start stop fields))
        (fun fields => context (.node kind start stop fields)) fields
  | .list items => withinItems (fun items => context (.list items)) items
  | _ => []

/-- The variants of the fields of a node inside of a context. -/
def withinFields (skip : String → Bool) (context : View.Fields → View) :
    View.Fields → List Variant
  | [] => []
  | (name, value) :: rest =>
    (if skip name then [] else within (fun value => context ((name, value) :: rest)) value)
      ++ withinFields skip (fun rest => context ((name, value) :: rest)) rest

/-- The variants of the items of a list inside of a context. -/
def withinItems (context : List View → View) : List View → List Variant
  | [] => []
  | item :: rest =>
    within (fun item => context (item :: rest)) item
      ++ withinItems (fun rest => context (item :: rest)) rest

end

end

/-! ## From contexts to addresses -/

section

variable (passed : View → String → Bool) (entriesOf : View → List Entry)

/-- The variants by the entries of a node that a walk met, put into the whole by `put`. -/
def ofVisit (put : Address → (View → View) → View) (visit : View.Visit) : List Variant :=
  (entriesOf visit.view).map fun entry =>
    ⟨entry.kind, entry.report visit.view, put visit.address entry.apply⟩

@[simp]
theorem ofVisit_first (put : Address → (View → View) → View) (visit : View.Visit) :
    ofVisit entriesOf put visit.first = ofVisit entriesOf (fun address => put (0 :: address)) visit :=
  rfl

@[simp]
theorem ofVisit_later (put : Address → (View → View) → View) (visit : View.Visit) :
    ofVisit entriesOf put visit.later =
      ofVisit entriesOf (fun address => put (address.modifyHead (· + 1))) visit :=
  rfl

mutual

/-- The variants of a view are changes at the addresses of its nodes. -/
theorem within_eq_nodes (context : View → View) : (view : View) →
    within passed entriesOf context view =
      (view.nodes passed).flatMap
        (ofVisit entriesOf fun address change => context (view.modifyAt change address))
  | .node kind start stop fields => by
    rw [within, View.nodes, List.flatMap_cons, withinFields_eq_nodes]
    congr 1
    apply List.flatMap_congr
    intro visit hVisit
    have hAddress := View.address_ne_nil_of_mem_nodesOfFields passed _ fields visit hVisit
    simp [ofVisit, View.modifyAt_node _ hAddress]
  | .list items => by
    rw [within, View.nodes, withinItems_eq_nodes]
    apply List.flatMap_congr
    intro visit hVisit
    have hAddress := View.address_ne_nil_of_mem_nodesOfItems passed items visit hVisit
    simp [ofVisit, View.modifyAt_list _ hAddress]
  | .data value => by simp [within, View.nodes]
  | .tuple items => by simp [within, View.nodes]

/-- The variants of the fields of a node are changes at the addresses of the nodes in them. -/
theorem withinFields_eq_nodes (skip : String → Bool) (context : View.Fields → View) :
    (fields : View.Fields) →
    withinFields passed entriesOf skip context fields =
      (View.nodesOfFields passed skip fields).flatMap (ofVisit entriesOf fun address change =>
        context (View.modifyInFields change address fields))
  | [] => by simp [withinFields, View.nodesOfFields]
  | (name, value) :: rest => by
    rw [withinFields, View.nodesOfFields, List.flatMap_append, withinFields_eq_nodes]
    congr 1
    · split
      · rfl
      · rw [within_eq_nodes, List.flatMap_map]
        simp
    · rw [List.flatMap_map]
      simp

/-- The variants of the items of a list are changes at the addresses of the nodes in them. -/
theorem withinItems_eq_nodes (context : List View → View) : (items : List View) →
    withinItems passed entriesOf context items =
      (View.nodesOfItems passed items).flatMap (ofVisit entriesOf fun address change =>
        context (View.modifyInItems change address items))
  | [] => by simp [withinItems, View.nodesOfItems]
  | item :: rest => by
    rw [withinItems, View.nodesOfItems, List.flatMap_append, withinItems_eq_nodes, within_eq_nodes,
      List.flatMap_map, List.flatMap_map]
    simp

end

end

/-! ## From the walk to contexts -/

section

variable (assertion sentinel : Text)

/-- The choices of an undisturbed walk. -/
abbrev plainRules : Rules := ⟨assertion, .text sentinel, .swap, []⟩

/-- The entries of the tree that a view shows. -/
def entriesOf (view : View) : List Entry :=
  (view.node?).elim [] (Catalogue.entries assertion sentinel)

/-- The fields that are passed over in the tree that a view shows. -/
def overOf (view : View) (field : String) : Bool :=
  (view.node?).any (Catalogue.passedOver assertion · field)

/-- The variants of a view by the catalogue, inside of a context. -/
abbrev listed (context : View → View) (view : View) : List Variant :=
  within (overOf assertion) (entriesOf assertion sentinel) context view

/-- The variants of the parts of a node, inside of a context. -/
def ofParts (skip : String → Bool) (context : View → View) : View → List Variant
  | .node kind start stop fields =>
    withinFields (overOf assertion) (entriesOf assertion sentinel) skip
      (fun fields => context (.node kind start stop fields)) fields
  | _ => []

/-- The variants that a walk builds for a node itself, inside of a context. -/
theorem ownWithin_ofNode (context : View → View) (node : Node) :
    ownWithin (entriesOf assertion sentinel) context (.ofNode node) =
      (Mutate.own (plainRules assertion sentinel) node).map
        (Altered.seen fun node => context (.ofNode node)) := by
  have h := congrArg (List.map fun variant : Variant =>
    ({ variant with whole := context variant.whole } : Variant))
    (Catalogue.own_eq_entries assertion sentinel node)
  rw [List.map_map, List.map_map] at h
  rw [ownWithin, entriesOf, View.node?_ofNode]
  exact h.symm

/-- The variants of a tree are its own ones and those of its parts. -/
theorem listed_ofNode (context : View → View) (node : Node) :
    listed assertion sentinel context (.ofNode node) =
      (Mutate.own (plainRules assertion sentinel) node).map
          (Altered.seen fun node => context (.ofNode node)) ++
        ofParts assertion sentinel (Catalogue.passedOver assertion node) context
          (.ofNode node) := by
  obtain ⟨fields, hView⟩ := View.ofNode_eq_located node
  have hOver : overOf assertion (.ofNode node) = Catalogue.passedOver assertion node := by
    funext field
    simp [overOf]
  rw [← ownWithin_ofNode, ← hOver, hView, View.located, listed, within, ofParts]

@[simp]
theorem listed_data (context : View → View) (value : Data) :
    listed assertion sentinel context (.data value) = [] := by
  simp [listed, within]

@[simp]
theorem listed_flag (context : View → View) (value : Bool) :
    listed assertion sentinel context (.flag value) = [] :=
  listed_data ..

end

end Variant

namespace Sites

section

variable {α β : Type} (f : α → β) (whole : Sites (α → β)) (part : Sites α)

@[simp]
theorem before_map : (f <$> part).before = f part.before := rfl

@[simp]
theorem settled_map : (f <$> part).settled = f part.settled := rfl

@[simp]
theorem altered_map : (f <$> part).altered = part.altered.map (Altered.map f) := rfl

@[simp]
theorem before_seq : (whole <*> part).before = whole.before part.before := rfl

@[simp]
theorem settled_seq : (whole <*> part).settled = whole.settled part.settled := rfl

@[simp]
theorem altered_seq : (whole <*> part).altered =
    whole.altered.map (Altered.map (· part.before)) ++
      part.altered.map (Altered.map whole.settled) := rfl

@[simp]
theorem before_pure (value : α) : (pure value : Sites α).before = value := rfl

@[simp]
theorem settled_pure (value : α) : (pure value : Sites α).settled = value := rfl

@[simp]
theorem altered_pure (value : α) : (pure value : Sites α).altered = [] := rfl

end

end Sites

namespace Variant

variable (assertion sentinel : Text)

/-- A walk starts from the tree as it is and leaves it so. -/
theorem walk_unchanged (node : Node) :
    (Mutate.walk (plainRules assertion sentinel) node).before = node ∧
      (Mutate.walk (plainRules assertion sentinel) node).settled = node := by
  apply @Node.rec
    (fun node => (Mutate.walk (plainRules assertion sentinel) node).before = node ∧
      (Mutate.walk (plainRules assertion sentinel) node).settled = node)
    (fun nodes => (Mutate.walkList (plainRules assertion sentinel) nodes).before = nodes ∧
      (Mutate.walkList (plainRules assertion sentinel) nodes).settled = nodes)
    (fun part => (Mutate.walkOptional (plainRules assertion sentinel) part).before = part ∧
      (Mutate.walkOptional (plainRules assertion sentinel) part).settled = part)
    (fun elements => (Mutate.walkHoles (plainRules assertion sentinel) elements).before = elements ∧
      (Mutate.walkHoles (plainRules assertion sentinel) elements).settled = elements)
  all_goals
    intros
    simp [Mutate.walk, Mutate.walkList, Mutate.walkOptional, Mutate.walkHoles, Mutate.key,
      Sites.withOwn, Sites.fixed, apply_ite Sites.before, apply_ite Sites.settled, *]

@[simp]
theorem walk_before (node : Node) :
    (Mutate.walk (plainRules assertion sentinel) node).before = node :=
  (walk_unchanged assertion sentinel node).1

@[simp]
theorem walk_settled (node : Node) :
    (Mutate.walk (plainRules assertion sentinel) node).settled = node :=
  (walk_unchanged assertion sentinel node).2

@[simp]
theorem walkOptional_unchanged (part : Option Node) :
    (Mutate.walkOptional (plainRules assertion sentinel) part).before = part ∧
      (Mutate.walkOptional (plainRules assertion sentinel) part).settled = part := by
  cases part <;> simp [Mutate.walkOptional, Sites.fixed]

@[simp]
theorem walkList_unchanged (nodes : List Node) :
    (Mutate.walkList (plainRules assertion sentinel) nodes).before = nodes ∧
      (Mutate.walkList (plainRules assertion sentinel) nodes).settled = nodes := by
  induction nodes with
  | nil => simp [Mutate.walkList, Sites.fixed]
  | cons node rest ih => simp [Mutate.walkList, ih]

@[simp]
theorem walkHoles_unchanged (elements : List (Option Node)) :
    (Mutate.walkHoles (plainRules assertion sentinel) elements).before = elements ∧
      (Mutate.walkHoles (plainRules assertion sentinel) elements).settled = elements := by
  induction elements with
  | nil => simp [Mutate.walkHoles, Sites.fixed]
  | cons element rest ih => simp [Mutate.walkHoles, ih]

@[simp]
theorem seen_comp_map {α β : Type} (context : β → View) (f : α → β) :
    Altered.seen context ∘ Altered.map f = Altered.seen fun value => context (f value) :=
  rfl

@[simp]
theorem seen_comp_map_comp {α β γ : Type} (context : β → View) (f : α → β) (g : γ → Altered α) :
    Altered.seen context ∘ Altered.map f ∘ g = Altered.seen (fun value => context (f value)) ∘ g :=
  rfl

@[simp]
theorem listed_list (context : View → View) (items : List View) :
    listed assertion sentinel context (.list items) =
      withinItems (overOf assertion) (entriesOf assertion sentinel)
        (fun items => context (.list items)) items := by
  simp [listed, within]

/-- The spelling of a literal has no variants. -/
@[simp]
theorem listed_spelling (context : View → View) (raw : Option Text) :
    listed assertion sentinel context (.spelling raw) = [] := by
  cases raw <;> exact listed_data ..

/-- The parts of a regular expression have no variants. -/
@[simp]
theorem listed_regex (context : View → View) (regex : Option (Text × Text)) :
    listed assertion sentinel context (.regex regex) = [] := by
  cases regex <;> simp [listed, View.regex, within]

/-- A piece of a template has no variants. -/
@[simp]
theorem listed_ofQuasi (context : View → View) (quasi : Quasi) :
    listed assertion sentinel context (.ofQuasi quasi) = [] := by
  have h := listed_ofNode assertion sentinel context (.templateElement quasi)
  rw [View.ofNode, Mutate.own] at h
  · rw [h]
    simp [ofParts, View.ofQuasi, View.located, withinFields]
  all_goals simp

@[simp]
theorem withinItems_quasis (context : List View → View) (quasis : List Quasi) :
    withinItems (overOf assertion) (entriesOf assertion sentinel) context
      (quasis.map .ofQuasi) = [] := by
  induction quasis generalizing context with
  | nil => simp [withinItems]
  | cons quasi rest ih => simp [withinItems, ih]

/-- The walk finds the variants that the catalogue lists. -/
theorem listed_walk (node : Node) : ∀ context : View → View,
    listed assertion sentinel context (.ofNode node) =
      (Mutate.walk (plainRules assertion sentinel) node).altered.map
        (Altered.seen fun node => context (.ofNode node)) := by
  apply @Node.rec
    (fun node => ∀ context : View → View, listed assertion sentinel context (.ofNode node) =
      (Mutate.walk (plainRules assertion sentinel) node).altered.map
        (Altered.seen fun node => context (.ofNode node)))
    (fun nodes => ∀ context : List View → View,
      withinItems (overOf assertion) (entriesOf assertion sentinel) context (View.ofList nodes) =
        (Mutate.walkList (plainRules assertion sentinel) nodes).altered.map
          (Altered.seen fun nodes => context (View.ofList nodes)))
    (fun part => ∀ context : View → View,
      listed assertion sentinel context (View.ofOptional part) =
        (Mutate.walkOptional (plainRules assertion sentinel) part).altered.map
          (Altered.seen fun part => context (View.ofOptional part)))
    (fun elements => ∀ context : List View → View,
      withinItems (overOf assertion) (entriesOf assertion sentinel) context
          (View.ofHoles elements) =
        (Mutate.walkHoles (plainRules assertion sentinel) elements).altered.map
          (Altered.seen fun elements => context (View.ofHoles elements)))
  case nil | nil | none =>
    intro context
    simp [View.ofList, View.ofHoles, View.ofOptional, withinItems, Mutate.walkList,
      Mutate.walkHoles, Mutate.walkOptional, Sites.fixed]
  case some =>
    intro node ih context
    simpa [View.ofOptional, Mutate.walkOptional] using ih context
  case cons =>
    intro node rest hNode hRest context
    simp [View.ofList, withinItems, Mutate.walkList, hNode, hRest]
  case cons =>
    intro element rest hElement hRest context
    simp [View.ofHoles_cons, withinItems, Mutate.walkHoles, hElement, hRest]
  case templateElement =>
    intro quasi context
    rw [View.ofNode, listed_ofQuasi, Mutate.walk]
    simp [Sites.withOwn, Sites.fixed, Mutate.own]
  case' methodDefinition => intro span name value kind computed isStatic hName hValue context
  case' propertyDefinition => intro span name value computed isStatic hName hValue context
  case' property => intro span name value kind computed shorthand method hName hValue context
  case methodDefinition | propertyDefinition | property =>
    rw [listed_ofNode, Mutate.walk]
    cases computed <;>
      simp [Sites.withOwn, Sites.fixed, Mutate.key, ofParts, View.ofNode, View.located,
        withinFields, Catalogue.passedOver, hName, hValue]
  case call =>
    intro span callee items optional hCallee hItems context
    rw [listed_ofNode, Mutate.walk, Catalogue.isAssertion_walk]
    cases h : Catalogue.isAssertion assertion callee <;>
      simp [h, Sites.withOwn, ofParts, View.ofNode, View.located, withinFields,
        Catalogue.passedOver, hCallee, hItems]
  all_goals
    intros
    simp only [listed_ofNode, Mutate.walk]
    simp [Sites.withOwn, Sites.fixed, ofParts, View.ofNode, View.located, withinFields,
      Catalogue.passedOver, *]

end Variant

/-! ## Generation -/

/-- A change of a program: an entry of the catalogue on a node of the program. -/
structure Site where
  /-- Where the node stands in the program. -/
  address : Address
  /-- The node. -/
  node : View
  /-- How it is altered. -/
  entry : Entry

namespace Site

/-- The sites of a program: for each node in order, its entries in order. -/
def all (assertion sentinel : Text) (program : View) : List Site :=
  (program.nodes (Variant.overOf assertion)).flatMap fun visit =>
    (Variant.entriesOf assertion sentinel visit.view).map (Site.mk visit.address visit.view)

/-- The variant of the program at a site. -/
def variant (program : View) (site : Site) : Variant :=
  ⟨site.entry.kind, site.entry.report site.node,
    program.modifyAt site.entry.apply site.address⟩

end Site

/-- The mutant with the given number that shows a variant of a program. -/
def Variant.mutant (code : Text) (variant : Variant) (id : Nat) : Except Failure Mutant := do
  let source ← variant.whole.write
  let range ← variant.reported.locate code
  let text ← variant.reported.write
  return ⟨.int id, variant.kind, source, code, range, text⟩

namespace Mutation

/-- The walk finds the variants of a program at its sites. -/
theorem altered_eq_sites (assertion sentinel : Text) (program : Node) :
    (Mutate.walk (Variant.plainRules assertion sentinel) program).altered.map
        (Altered.seen View.ofNode) =
      (Site.all assertion sentinel (.ofNode program)).map (Site.variant (.ofNode program)) := by
  have hListed := Variant.listed_walk assertion sentinel program id
  simp only [id_eq] at hListed
  rw [← hListed, Variant.listed, Variant.within_eq_nodes, Site.all, List.map_flatMap]
  apply List.flatMap_congr
  intro visit _
  simp [Variant.ofVisit, Site.variant]

/-- A mutant shows the variant that it is made from. -/
theorem mutantOf_eq (code : Text) (id : Nat) (altered : Altered Node) :
    mutantOf code id altered = (altered.seen View.ofNode).mutant code id := by
  simp [mutantOf, Variant.mutant, Altered.seen, View.write, View.locate, View.onTree]

/-- Mutants are numbered in the order of their variants. -/
theorem mutantsFrom_eq_mapM (code : Text) (id : Nat) (altered : List (Altered Node)) :
    mutantsFrom code id altered =
      ((altered.map (Altered.seen View.ofNode)).zipIdx id).mapM
        fun numbered => numbered.1.mutant code numbered.2 := by
  induction altered generalizing id with
  | nil => rfl
  | cons first rest ih =>
    simp only [mutantsFrom, List.map_cons, List.zipIdx_cons, List.mapM_cons, ih, mutantOf_eq]

/-- Generation gives one mutant for each site of the unaltered program, in the order of the sites
and numbered from one on, and leaves the program as it was. -/
theorem generate_eq_sites (config : Config) (sentinel : Text)
    (hSentinel : config.sentinel = .text sentinel) (detail : Bool) (script : Script) :
    generate config detail {} script = do
      let program ← script.read
      let beautified ← program.write
      let view := View.ofNode program
      let variants := (Site.all config.assertion sentinel view).map (Site.variant view)
      let mutants ← (variants.zipIdx 1).mapM fun numbered =>
        numbered.1.mutant script.code numbered.2
      return ⟨beautified, mutants,
        recordsOf beautified beautified (detail || config.detail) mutants⟩ := by
  have hRules : rules config {} = Variant.plainRules config.assertion sentinel := by
    simp [rules, hSentinel, Variation.drops, Variant.plainRules]
  have hHandlers : kinds.filter (Variation.drops {}) = [] := by
    simp [Variation.drops]
  unfold generate
  rw [hRules, hHandlers]
  cases script.read with
  | error failure => rfl
  | ok program =>
    cases hText : program.write with
    | error failure => simp [bind, Except.bind, hText]
    | ok beautified =>
      simp only [bind, Except.bind, hText, Variant.walk_settled, mutantsFrom_eq_mapM,
        altered_eq_sites]
      rfl

/-- The program `__assert__(x === null)` as it comes from the grammar. -/
def nullAssertion : Script where
  code := "__assert__(x === null)"
  tree :=
    .part .program 0 22 "" [.part .expressionStatement 0 22 "" [.part .callExpression 0 22 ""
      [.part .identifier 0 10 "function" [],
       .part (.other "arguments") 10 22 "arguments" [.part .binaryExpression 11 21 ""
        [.part .identifier 11 12 "left" [], .part (.other "===") 13 16 "operator" [],
         .part .nullKeyword 17 21 "right" []]]]]]

/-- Of an assertion only the arguments are altered, and beside `null` a strict comparison is not
made a loose one, so that a single mutant is left. -/
theorem generate_nullAssertion :
    Config.default.sentinel = .text "__mutated__" ∧
      (generate Config.default false {} nullAssertion).map
          (·.mutants.map fun mutant => (mutant.kind, mutant.mutatedSource, mutant.mutatedText)) =
        .ok [(.equality, "__assert__(x !== null);", "x !== null")] := by
  refine ⟨rfl, ?_⟩
  rw [generate_eq_sites Config.default "__mutated__" rfl]
  rfl

end Mutation

end Assay
