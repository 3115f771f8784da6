import Assay.Concrete.Lowering
import Assay.Print.Printer
import Assay.Proofs.Print.Grammar

/-!
# Operator expressions and the places of their operands

`Formed` are the trees of operator expressions. Each has a nonterminal, its `home`, and what is
printed without parentheses at a place must come up from there to the nonterminal of the place by
unit productions (`Symbol.rises`). Parentheses depend on the precedence of an operand and on its
operator only, so finitely many `samples` stand for all operands: `samples_fit` goes through all
pairs of operators and `Formed.fits` carries the result over to all trees.
-/

set_option autoImplicit false

namespace Assay.Grammar

/-! ## Climbing the unit productions -/

variable {tree : Node} {operator : String}

/-- The nonterminals that derive what a nonterminal derives, up to a number of steps. -/
def Symbol.above : Nat → Symbol → List Symbol
  | 0, symbol => [symbol]
  | steps + 1, symbol =>
    symbol :: (units.filter (·.2 = symbol)).flatMap fun production => above steps production.1

/-- Whether a nonterminal derives what another one derives. -/
def Symbol.rises (inner outer : Symbol) : Bool := (above 24 inner).contains outer

variable {alphabet : Alphabet}

theorem Derives.of_mem_above {inner outer : Symbol} {tokens : List Token} {steps : Nat}
    (h : outer ∈ inner.above steps) (hTree : Derives alphabet inner tokens tree) :
    Derives alphabet outer tokens tree := by
  induction steps generalizing inner with
  | zero =>
    rw [Symbol.above, List.mem_singleton] at h
    exact h ▸ hTree
  | succ steps ih =>
    rw [Symbol.above, List.mem_cons, List.mem_flatMap] at h
    obtain rfl | ⟨⟨next, source⟩, hUnit, hMem⟩ := h
    · exact hTree
    · obtain ⟨hUnit, hSource⟩ := List.mem_filter.1 hUnit
      have hSource : source = inner := by simpa using hSource
      exact ih hMem (.unit (hSource ▸ hUnit) hTree)

theorem Derives.rise {inner outer : Symbol} {tokens : List Token}
    (hTree : Derives alphabet inner tokens tree) (h : inner.rises outer = true) :
    Derives alphabet outer tokens tree :=
  Derives.of_mem_above (List.contains_iff_mem.1 h) hTree

/-! ## The trees that are printed -/

/-- Operator expressions. The flag says whether the tree ends in the open links of an optional
chain, which stand only directly inside of the node that closes the chain. -/
inductive Formed (alphabet : Alphabet) : Bool → Node → Prop
  | identifier {span : Span} {name value : Text} : Name alphabet name value →
      value ∉ reservedWords → Formed alphabet false (.identifier span name)
  | number {span : Span} {raw : Text} {value : Data} : Number raw →
      Numeral.read raw = .ok value →
      Formed alphabet false (.literal span value (some raw) none)
  | sequence {span : Span} {items : List Node} : 2 ≤ items.length →
      (∀ item ∈ items, Formed alphabet false item) → Formed alphabet false (.sequence span items)
  | unary {span : Span} {operator : String} {argument : Node} : operator ∈ unaryOperators →
      Formed alphabet false argument → Formed alphabet false (.unary span operator argument)
  | update {span : Span} {operator : String} {leading : Bool} {argument : Node} :
      operator ∈ updateOperators → isReference argument = true →
      Formed alphabet false argument →
      Formed alphabet false (.update span operator leading argument)
  | await {span : Span} {argument : Node} : Formed alphabet false argument →
      Formed alphabet false (.awaitExpression span argument)
  | binary {span : Span} {operator : String} {rank : Nat} {left right : Node} :
      (operator, rank) ∈ Print.operatorRanks → operator ∉ Lower.logicalOperators →
      Formed alphabet false left → Formed alphabet false right →
      Formed alphabet false (.binary span left operator right)
  | logical {span : Span} {operator : String} {left right : Node} :
      operator ∈ Lower.logicalOperators →
      Formed alphabet false left → Formed alphabet false right →
      Formed alphabet false (.logical span left operator right)
  | conditional {span : Span} {test consequent alternate : Node} :
      Formed alphabet false test → Formed alphabet false consequent →
      Formed alphabet false alternate →
      Formed alphabet false (.conditional span test consequent alternate)
  | assignment {span : Span} {operator : String} {left right : Node} :
      operator ∈ assignmentOperators → isReference left = true →
      Formed alphabet false left → Formed alphabet false right →
      Formed alphabet false (.assignment span left operator right)
  | newExpression {span : Span} {callee : Node} {items : List Node} :
      Formed alphabet false callee → (∀ item ∈ items, Formed alphabet false item) →
      Formed alphabet false (.newExpression span callee items)
  | call {span : Span} {isOpen optional : Bool} {callee : Node} {items : List Node} :
      Formed alphabet isOpen callee → (∀ item ∈ items, Formed alphabet false item) →
      Formed alphabet (isOpen || optional) (.call span callee items optional)
  | index {span : Span} {isOpen optional : Bool} {object property : Node} :
      Formed alphabet isOpen object → Formed alphabet false property →
      Formed alphabet (isOpen || optional) (.member span object property true optional)
  | field {span place : Span} {isOpen optional : Bool} {object : Node} {name value : Text} :
      Formed alphabet isOpen object → Name alphabet name value →
      Formed alphabet (isOpen || optional)
        (.member span object (.identifier place name) false optional)
  | chain {span : Span} {links : Node} : Formed alphabet true links →
      Formed alphabet false (.chain span links)

/-! ## Where a tree is derived -/

/-- Whether a call is at the root of a tree of members. -/
def isCallRooted : Node → Bool
  | .member _ object _ _ _ => isCallRooted object
  | .call .. => true
  | _ => false

/-- The nonterminal of a binary operator. -/
def operatorSymbol (productions : List Production) (operator : Text) : Symbol :=
  ((productions.find? fun production =>
    (production.operators.map Text.ofString).contains operator).map (·.whole)).getD .expression

/-- The nonterminal that derives what a tree prints. -/
def home : Node → Symbol
  | .identifier .. | .literal .. | .sequence .. => .primary
  | .member _ object _ _ _ => if isCallRooted object then .call else .member
  | .call .. => .call
  | .newExpression .. => .member
  | .chain .. => .leftHandSide
  | .update .. => .update
  | .unary .. | .awaitExpression .. => .unary
  | .binary _ _ operator _ => operatorSymbol binaryProductions operator
  | .logical _ _ operator _ => operatorSymbol logicalProductions operator
  | .conditional .. => .conditional
  | .assignment .. => .assignment
  | _ => .expression

/-- The operand of the samples. -/
def sampleName : Node := .identifier .none "x"

/-- Trees of all precedences, operators and nonterminals. -/
def samples : List Node :=
  [sampleName, .newExpression .none sampleName [], .call .none sampleName [] false,
   .chain .none sampleName, .update .none "++" true sampleName, .unary .none "-" sampleName,
   .conditional .none sampleName sampleName sampleName,
   .assignment .none sampleName "=" sampleName] ++
    (binaryProductions.flatMap (·.operators)).map (fun operator =>
      .binary .none sampleName operator sampleName) ++
    (logicalProductions.flatMap (·.operators)).map fun operator =>
      .logical .none sampleName operator sampleName

/-- What the need for parentheses depends on: the precedence of an operand, its operator if it is
binary, and its nonterminal. -/
def profile (tree : Node) : Nat × Option Text × Symbol :=
  (Print.precedence tree, Print.binaryOperator? tree, home tree)

/-- Whether an operand has parentheses or its nonterminal rises to the one of its place. -/
def fits (parens : Except PrintError Bool) (inner outer : Symbol) : Bool :=
  match parens with
  | .ok parens => parens || inner.rises outer
  | .error _ => false

/-- Whether operands fit on both sides of all operators. -/
def fitsAll (rank : Nat) (productions : List Production) (tree : Node) : Bool :=
  productions.all fun production => production.operators.all fun operator =>
    fits (Print.needsParens tree rank operator .left) (home tree) production.left &&
      fits (Print.needsParens tree rank operator .right) (home tree) production.right

/-- The places of operands other than those of binary operators: the lowest precedence that has no
parentheses there, and the nonterminal. -/
def places : List (Nat × Symbol) :=
  [(0, .expression), (0, .assignment), (5, .shortCircuit), (15, .unary), (19, .leftHandSide)]

/-- Whether a tree fits at all places that take its precedence. -/
def fitsPlaces (tree : Node) : Bool :=
  places.all fun place => Print.precedence tree < place.1 || (home tree).rises place.2

/-- All samples fit everywhere: this goes through each pair of an operator and an operand. -/
theorem samples_fit : samples.all (fun tree => fitsAll 14 binaryProductions tree &&
    fitsAll 13 logicalProductions tree && fitsPlaces tree) = true := by
  decide +kernel

theorem mem_binaryOperators {rank : Nat} (h : (operator, rank) ∈ Print.operatorRanks)
    (hLogical : operator ∉ Lower.logicalOperators) :
    operator ∈ binaryProductions.flatMap (·.operators) := by
  have hAll : ∀ entry ∈ Print.operatorRanks, entry.1 ∉ Lower.logicalOperators →
      entry.1 ∈ binaryProductions.flatMap (·.operators) := by decide
  exact hAll _ h hLogical

theorem mem_logicalOperators (h : operator ∈ Lower.logicalOperators) :
    operator ∈ logicalProductions.flatMap (·.operators) := by
  have hAll : ∀ operator ∈ Lower.logicalOperators,
      operator ∈ logicalProductions.flatMap (·.operators) := by decide
  exact hAll _ h

/-- A member belongs to calls or to members. -/
theorem exists_sample_member (span : Span) (object property : Node) (computed optional : Bool) :
    ∃ sample ∈ samples,
      profile sample = profile (.member span object property computed optional) := by
  cases hCall : isCallRooted object with
  | true =>
    refine ⟨.call .none sampleName [] false, by simp [samples], ?_⟩
    simp [profile, home, hCall]
    exact ⟨rfl, rfl⟩
  | false =>
    refine ⟨.newExpression .none sampleName [], by simp [samples], ?_⟩
    simp [profile, home, hCall]
    exact ⟨rfl, rfl⟩

/-- Operator expressions have the profile of a sample. -/
theorem Formed.exists_sample (h : Formed alphabet false tree) :
    ∃ sample ∈ samples, profile sample = profile tree := by
  generalize hOpen : false = isOpen at h
  cases h with
  | identifier _ _ | number _ _ | sequence _ _ => exact ⟨sampleName, by simp [samples], rfl⟩
  | unary _ _ | await _ => exact ⟨.unary .none "-" sampleName, by simp [samples], rfl⟩
  | update _ _ _ => exact ⟨.update .none "++" true sampleName, by simp [samples], rfl⟩
  | @binary _ operator _ _ _ hRank hLogical _ _ =>
    refine ⟨.binary .none sampleName operator sampleName, ?_, rfl⟩
    refine List.mem_append_left _ (List.mem_append_right _ ?_)
    exact List.mem_map_of_mem (mem_binaryOperators hRank hLogical)
  | @logical _ operator _ _ hLogical _ _ =>
    refine ⟨.logical .none sampleName operator sampleName, ?_, rfl⟩
    exact List.mem_append_right _ (List.mem_map_of_mem (mem_logicalOperators hLogical))
  | conditional _ _ _ =>
    exact ⟨.conditional .none sampleName sampleName sampleName, by simp [samples], rfl⟩
  | assignment _ _ _ _ =>
    exact ⟨.assignment .none sampleName "=" sampleName, by simp [samples], rfl⟩
  | newExpression _ _ => exact ⟨.newExpression .none sampleName [], by simp [samples], rfl⟩
  | call _ _ => exact ⟨.call .none sampleName [] false, by simp [samples], rfl⟩
  | index _ _ | field _ _ => exact exists_sample_member ..
  | chain _ => exact ⟨.chain .none sampleName, by simp [samples], rfl⟩

theorem fitsAll_of_profile {sample : Node} (h : profile sample = profile tree) (rank : Nat)
    (productions : List Production) :
    fitsAll rank productions sample = fitsAll rank productions tree := by
  simp only [profile, Prod.mk.injEq] at h
  unfold fitsAll Print.needsParens
  rw [h.1, h.2.1, h.2.2]

theorem fitsPlaces_of_profile {sample : Node} (h : profile sample = profile tree) :
    fitsPlaces sample = fitsPlaces tree := by
  simp only [profile, Prod.mk.injEq] at h
  unfold fitsPlaces
  rw [h.1, h.2.2]

/-- Operator expressions fit everywhere. -/
theorem Formed.fits (h : Formed alphabet false tree) :
    fitsAll 14 binaryProductions tree = true ∧ fitsAll 13 logicalProductions tree = true ∧
      fitsPlaces tree = true := by
  obtain ⟨sample, hSample, hProfile⟩ := h.exists_sample
  have hFit := List.all_eq_true.1 samples_fit sample hSample
  rw [fitsAll_of_profile hProfile, fitsAll_of_profile hProfile, fitsPlaces_of_profile hProfile,
    Bool.and_eq_true, Bool.and_eq_true] at hFit
  exact ⟨hFit.1.1, hFit.1.2, hFit.2⟩

/-- What has no parentheses at a place is derived there. -/
theorem Formed.rises (h : Formed alphabet false tree) (rank : Nat) (symbol : Symbol)
    (hPlace : (rank, symbol) ∈ places) (hRank : rank ≤ Print.precedence tree) :
    (home tree).rises symbol = true := by
  have hFit := List.all_eq_true.1 h.fits.2.2 _ hPlace
  simp only [Bool.or_eq_true, decide_eq_true_eq] at hFit
  exact hFit.resolve_left (by omega)

/-- The parentheses around an operand are decided, and it fits. -/
theorem exists_parens {rank : Nat} {productions : List Production}
    (h : fitsAll rank productions tree = true) {production : Production}
    (hProduction : production ∈ productions) (hOperator : operator ∈ production.operators) :
    (∃ parens, Print.needsParens tree rank operator .left = .ok parens ∧
      (parens = false → (home tree).rises production.left = true)) ∧
    ∃ parens, Print.needsParens tree rank operator .right = .ok parens ∧
      (parens = false → (home tree).rises production.right = true) := by
  have hOf : ∀ {verdict : Except PrintError Bool} {symbol : Symbol},
      Grammar.fits verdict (home tree) symbol = true →
        ∃ parens, verdict = .ok parens ∧ (parens = false → (home tree).rises symbol = true) := by
    intro verdict symbol hFits
    cases verdict with
    | error _ => simp [Grammar.fits] at hFits
    | ok parens =>
      refine ⟨parens, rfl, fun hNone => ?_⟩
      simpa [Grammar.fits, hNone] using hFits
  have hBoth := List.all_eq_true.1 (List.all_eq_true.1 h production hProduction) _ hOperator
  rw [Bool.and_eq_true] at hBoth
  exact ⟨hOf hBoth.1, hOf hBoth.2⟩

end Assay.Grammar
