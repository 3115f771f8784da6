import Assay.Mutation.Generate
import Assay.Proofs.Tree.Address

/-!
# The catalogue of alterations as changes of fields

An `Entry` of the catalogue says which fields of a node change and what they hold then, and what is
reported if it is not the altered node. `Catalogue.entries` lists the entries of a node: exchanged
operators, flipped prefixes and truth values, emptied strings, collections and blocks, forced
tests, and chains whose links are all made plain. `Catalogue.own_eq_entries` says that the variants
that a walk builds for a node are the node with exactly those fields changed, in that order.
-/

set_option autoImplicit false

namespace Assay

/-- An alteration of a node. -/
structure Entry where
  /-- The sort of the alteration. -/
  kind : MutationKind
  /-- The fields that change, with what they hold in the variant. -/
  changes : View.Fields
  /-- What is reported in place of the altered node. -/
  instead : Option View := none

namespace Entry

/-- A node as the entry alters it. -/
def apply (entry : Entry) (node : View) : View := node.set entry.changes

/-- What is reported of the entry on a node. -/
def report (entry : Entry) (node : View) : View := entry.instead.getD (entry.apply node)

/-- The entry that puts another operator into a node. -/
def operator (kind : MutationKind) (operator : Text) : Entry :=
  ⟨kind, [("operator", .data (.text operator))], none⟩

/-- The entry that takes all items out of a field. -/
def emptied (kind : MutationKind) (field : String) : Entry := ⟨kind, [(field, .list [])], none⟩

/-- The entry that forces a test, with the literal at the given place. -/
def forcedTest (place : Span) (value : Bool) : Entry :=
  let literal := View.ofNode (Build.boolLiteral value place)
  ⟨.conditional, [("test", literal)], some literal⟩

end Entry

namespace Catalogue

/-- The row of the table for an operator; a strict comparison with `null` lacks its loose
counterpart. -/
def replacements (kind : MutationKind) (operator : Text) (besideNull : Bool) : List Text :=
  ((kind.row? operator).getD []).filter fun other =>
    !(besideNull && MutationKind.looseOf? operator == some other)

/-- The addresses of the links of a chain, from its top down: the object of a member and the callee
of a call come first among their fields. -/
def spine : Node → List Address
  | .member _ object _ _ _ => [] :: (spine object).map (0 :: ·)
  | .call _ callee _ _ => [] :: (spine callee).map (0 :: ·)
  | _ => []

/-- The chain with the mark of an optional link taken off each link. -/
def plain (chain : Node) : View :=
  (View.ofNode chain).modifyAll (View.set [("optional", .flag false)]) (spine chain)

variable (assertion sentinel : Text)

/-- Whether the callee of a call is the name of the assertion. -/
def isAssertion : Node → Bool
  | .identifier _ name => name == assertion
  | _ => false

/-- What stands in for a text: nothing, or the sentinel if there is nothing already. -/
def blank (text : Text) : Text := if text = [] then sentinel else []

/-- The entries that force a test: to both truth values, unless it is the one already. -/
def forcedTests : Node → List Entry
  | .literal span (.bool value) _ _ => [.forcedTest span !value]
  | test => [.forcedTest test.span true, .forcedTest test.span false]

/-- The entries of a node. -/
def entries : Node → List Entry
  | .binary _ left operator right =>
    match MutationKind.ofBinary? operator with
    | some kind => (replacements kind operator (left.isNull || right.isNull)).map (.operator kind)
    | none => []
  | .logical _ _ operator _ => (replacements .logical operator false).map (.operator .logical)
  | .assignment _ _ operator _ =>
    (replacements .assignment operator false).map (.operator .assignment)
  | .unary _ operator _ => (replacements .unary operator false).map (.operator .unary)
  | .update _ operator leading _ =>
    (replacements .update operator false).map (.operator .update)
      ++ [⟨.update, [("prefix", .flag !leading)], none⟩]
  | .literal _ (.bool value) _ _ => [⟨.booleanLiteral, [("value", .flag !value)], none⟩]
  | .literal _ (.text value) _ none =>
    [⟨.stringLiteral, [("value", .data (.text (blank sentinel value))), ("raw", .data .null)], none⟩]
  | .templateLiteral _ (first :: rest) _ =>
    let piece := Build.quasi (blank sentinel first.raw) first.tail
    [⟨.stringLiteral, [("quasis", .list ((piece :: rest).map .ofQuasi))], none⟩]
  | .arrayExpression _ (_ :: _) => [.emptied .collectionLiteral "elements"]
  | .objectExpression _ (_ :: _) => [.emptied .collectionLiteral "properties"]
  | .call _ callee (_ :: _) _ =>
    if isAssertion assertion callee then [] else [.emptied .collectionLiteral "arguments"]
  | .newExpression _ _ (_ :: _) => [.emptied .collectionLiteral "arguments"]
  | .blockStatement _ (_ :: _) => [.emptied .blockStatement "body"]
  | .ifStatement _ test _ _ | .whileStatement _ test _ | .doWhileStatement _ _ test
  | .forStatement _ _ (some test) _ _ => forcedTests test
  | .forStatement span _ none _ _ => [.forcedTest span false]
  | .chain _ expression => [⟨.optionalChaining, [("expression", plain expression)], none⟩]
  | _ => []

/-- The fields of a node that are passed over: plain keys are names, and of an assertion only the
arguments matter. -/
def passedOver : Node → String → Bool
  | .property _ _ _ _ computed _ _, field | .methodDefinition _ _ _ _ computed _, field
  | .propertyDefinition _ _ _ computed _, field => field == "key" && !computed
  | .call _ callee _ _, field => field == "callee" && isAssertion assertion callee
  | _, _ => false

end Catalogue

/-- A variant as it is seen: the sort of its alteration, what is reported and the whole. -/
structure Variant where
  /-- The sort of the alteration. -/
  kind : MutationKind
  /-- What is reported. -/
  reported : View
  /-- The whole variant. -/
  whole : View

/-- The variant of a node by an entry of the catalogue. -/
def Entry.variant (entry : Entry) (node : View) : Variant :=
  ⟨entry.kind, entry.report node, entry.apply node⟩

/-- A variant that a walk found, as it is seen inside of a larger view. -/
def Altered.seen {α : Type} (context : α → View) (a : Altered α) : Variant :=
  ⟨a.kind, .ofNode a.reported, context a.whole⟩

namespace Catalogue

/-! ## Operators -/

variable (kind : MutationKind)

/-- What an operator of a table is exchanged for is what the catalogue lists. -/
theorem swaps_of_mem_table (besideNull : Bool) :
    ∀ entry ∈ kind.table, kind.swaps (Text.ofString entry.1) besideNull =
      replacements kind (Text.ofString entry.1) besideNull := by
  cases kind <;> cases besideNull <;> decide

/-- What an operator is exchanged for is what the catalogue lists. -/
theorem swaps_eq_replacements (operator : Text) (besideNull : Bool) :
    kind.swaps operator besideNull = replacements kind operator besideNull := by
  cases h : kind.table.find? fun entry => Text.ofString entry.1 == operator with
  | none => simp [MutationKind.swaps, replacements, MutationKind.row?, h]
  | some entry =>
    have hOperator : Text.ofString entry.1 = operator := by
      simpa using List.find?_some h
    rw [← hOperator]
    exact swaps_of_mem_table kind besideNull entry (List.mem_of_find?_eq_some h)

/-! ## Chains -/

/-- A chain with its marks taken off is a chain of plain links. -/
theorem plain_eq_plainChain (chain : Node) :
    plain chain = View.ofNode (Mutate.plainChain chain) := by
  fun_induction Mutate.plainChain chain with
  | case1 span object property computed optional ih =>
    rw [plain, spine, View.modifyAll_whole, View.ofNode, View.ofNode, ← ih]
    exact View.modifyAll_first ..
  | case2 span callee arguments optional ih =>
    rw [plain, spine, View.modifyAll_whole, View.ofNode, View.ofNode, ← ih]
    exact View.modifyAll_first ..
  | case3 link hMember hCall =>
    have hSpine : spine link = [] := by
      fun_cases spine link with
      | case1 => exact absurd rfl (hMember _ _ _ _ _)
      | case2 => exact absurd rfl (hCall _ _ _ _)
      | case3 => rfl
    rw [plain, hSpine]
    rfl

variable (assertion sentinel : Text)

/-- Exchanged operators are entries of the catalogue. -/
theorem swapped_seen (operators : List Text) (build : Text → Node)
    (view : View) (h : ∀ operator, View.ofNode (build operator) =
      view.set [("operator", .data (.text operator))]) :
    (Mutate.swapped kind operators build).map (Altered.seen View.ofNode) =
      (operators.map (Entry.operator kind)).map (Entry.variant · view) := by
  simp [Mutate.swapped, Mutate.whole, Altered.seen, Entry.variant, Entry.report, Entry.apply,
    Entry.operator, h]

/-- Forced tests are entries of the catalogue. -/
theorem forced_seen (span : Span) (test : Node) (build : Node → Node) (view : View)
    (h : ∀ literal, View.ofNode (build literal) = view.set [("test", View.ofNode literal)]) :
    (Mutate.forced span (some test) build).map (Altered.seen View.ofNode) =
      (forcedTests test).map (Entry.variant · view) := by
  fun_cases forcedTests test with
  | case1 span value =>
    cases value <;>
      simp [Mutate.forced, Mutate.isLiteral, Altered.seen, Entry.variant, Entry.report,
        Entry.apply, Entry.forcedTest, h, Node.span]
  | case2 test hLiteral =>
    have hNot (value : Bool) : Mutate.isLiteral value (some test) = false := by
      cases test
      case literal content _ _ =>
        cases content with
        | bool value => exact absurd rfl (hLiteral _ _ _ _)
        | _ => rfl
      all_goals rfl
    simp [Mutate.forced, hNot, Altered.seen, Entry.variant, Entry.report, Entry.apply,
      Entry.forcedTest, h]

/-- A walk knows an assertion by the name of its callee. -/
theorem isAssertion_walk (callee : Node) :
    Mutate.isAssertion ⟨assertion, .text sentinel, .swap, []⟩ callee =
      isAssertion assertion callee := by
  cases callee <;> rfl

/-- With a text as its sentinel a walk blanks a text as the catalogue does. -/
theorem blankFor_eq_blank (text : Text) :
    Mutate.blankFor ⟨assertion, .text sentinel, .swap, []⟩ text = .text (blank sentinel text) := by
  cases text <;> rfl

/-- The variants that a walk builds for a node are the node with the fields changed as the entries
of the catalogue say. -/
theorem own_eq_entries (node : Node) :
    (Mutate.own ⟨assertion, .text sentinel, .swap, []⟩ node).map (Altered.seen View.ofNode) =
      (entries assertion sentinel node).map (Entry.variant · (View.ofNode node)) := by
  cases node
  case binary operator _ =>
    simp only [Mutate.own, entries]
    cases MutationKind.ofBinary? operator with
    | none => rfl
    | some kind =>
      simp only [swaps_eq_replacements]
      exact swapped_seen kind _ _ _ fun operator => by simp [View.ofNode, View.located, View.set]
  case logical | assignment | unary =>
    simp only [Mutate.own, entries, swaps_eq_replacements]
    exact swapped_seen _ _ _ _ fun operator => by simp [View.ofNode, View.located, View.set]
  case update operator _ _ =>
    simp only [Mutate.own, entries, swaps_eq_replacements, List.map_append]
    congr 1
    exact swapped_seen _ _ _ _ fun operator => by simp [View.ofNode, View.located, View.set]
  case ifStatement | whileStatement | doWhileStatement =>
    rw [Mutate.own, entries]
    exact forced_seen _ _ _ _ fun literal => by simp [View.ofNode, View.located, View.set]
  case forStatement test _ _ =>
    cases test with
    | some test =>
      rw [Mutate.own, entries]
      exact forced_seen _ _ _ _ fun literal => by
        simp [View.ofNode, View.ofOptional, View.located, View.set]
    | none =>
      simp [Mutate.own, Mutate.forced, Mutate.isLiteral, entries, Altered.seen, Entry.variant,
        Entry.report, Entry.apply, Entry.forcedTest, View.ofNode, View.ofOptional, View.located,
        View.set]
  case chain =>
    simp [Mutate.own, Mutate.whole, entries, Altered.seen, Entry.variant, Entry.report,
      Entry.apply, plain_eq_plainChain, View.ofNode, View.located, View.set]
  case literal value _ regex =>
    cases value <;> cases regex <;>
      simp [Mutate.own, Mutate.literalVariants, Mutate.whole, blankFor_eq_blank, entries,
        Altered.seen, Entry.variant, Entry.report, Entry.apply, View.ofNode, View.located, View.set,
        Build.stringLiteral, View.spelling, View.flag]
  case templateLiteral quasis _ =>
    cases quasis with
    | nil => simp [Mutate.own, Mutate.templateVariants, entries]
    | cons first rest =>
      simp [Mutate.own, Mutate.templateVariants, Mutate.whole, blankFor_eq_blank, entries,
        Altered.seen, Entry.variant, Entry.report, Entry.apply, View.ofNode, View.located, View.set]
  case arrayExpression items | objectExpression items | newExpression items | blockStatement items =>
    cases items <;>
      simp [Mutate.own, Mutate.emptied, Mutate.whole, entries, Altered.seen, Entry.variant,
        Entry.report, Entry.apply, Entry.emptied, View.ofNode, View.ofList, View.ofHoles,
        View.located, View.set]
  case call callee items _ =>
    cases items <;> cases h : isAssertion assertion callee <;>
      simp [Mutate.own, isAssertion_walk, h, Mutate.emptied, Mutate.whole, entries, Altered.seen,
        Entry.variant, Entry.report, Entry.apply, Entry.emptied, View.ofNode, View.ofList,
        View.located, View.set]
  all_goals rfl

end Catalogue

end Assay
