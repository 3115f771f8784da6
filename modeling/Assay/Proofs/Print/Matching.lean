import Assay.Proofs.Print.Clauses
import Assay.Proofs.Print.Tokens

/-!
# Which `if` an `else` belongs to

In a program an `else` belongs to the nearest `if` before it that stands between the same brackets, is
still open and has no `else` yet. `Reader` finds it from the tokens alone. Between two brackets it keeps
what is open there: each `if` that may still take an `else`, and each `do` that waits for its `while`. A
semicolon ends a statement, and unless an `else` follows it ends all `if`s around the statement; a
`while` behind the end of a statement ends the `do` around it.
-/

set_option autoImplicit false

namespace Assay.Print

/-! ## Marks -/

variable {depth deeper : Nat}

/-- What a token is to the reader. -/
inductive Mark where
  | opening
  | closing (isBrace : Bool)
  | semicolon
  | ifWord
  | elseWord
  | doWord
  | whileWord
  | other
  deriving DecidableEq

namespace Mark

/-- The mark of a word; no word has none. -/
def ofWord (word : Text) : List Mark :=
  if word = [] then []
  else if word = "if" then [ifWord]
  else if word = "else" then [elseWord]
  else if word = "do" then [doWord]
  else if word = "while" then [whileWord]
  else [other]

/-- The mark of a sign; blanks have none. -/
def ofSign (c : CodePoint) : List Mark :=
  if c == ' ' || c == '\n' then []
  else if ("([\x7b" : Text).contains c then [opening]
  else if (")]\x7d" : Text).contains c then [closing (c == '\x7d')]
  else if c == ';' then [semicolon]
  else [other]

/-- The marks of a text, if the given letters stand right before it. -/
def scan (word : Text) : Text → List Mark
  | [] => ofWord word
  | c :: rest =>
    if c.isAsciiLetter then scan (word ++ [c]) rest
    else ofWord word ++ ofSign c ++ scan [] rest

end Mark

/-- The marks of a lexeme: what is spelled as in the program has no words and signs of its own. -/
def Lexeme.marks : Lexeme → List Mark
  | own text => Mark.scan [] text
  | spelled _ | operator _ => [.other]

/-- The marks of several lexemes. -/
def marks (lexemes : List Lexeme) : List Mark := lexemes.flatMap Lexeme.marks

/-! ## The reader -/

/-- What is open between two brackets. -/
inductive Frame where
  /-- An `if`, which has the given number in the text. -/
  | branch (number : Nat)
  /-- A `do`. -/
  | loop
  deriving DecidableEq

/-- Whether a frame is that of an `if`. -/
def Frame.isBranch : Frame → Bool
  | branch _ => true
  | loop => false

/-- What the last token between two brackets was. -/
inductive Place where
  | inside
  | semicolon
  | brace
  deriving DecidableEq

/-- What stands between two brackets up to a token: the frames, innermost first. -/
structure Scope where
  frames : List Frame
  place : Place

namespace Scope

/-- The frames that are open if the next token is no `else`. -/
def settled (scope : Scope) : List Frame :=
  if scope.place = .semicolon then scope.frames.dropWhile Frame.isBranch else scope.frames

/-- The scope behind a token that opens no frame and closes none. -/
def move (scope : Scope) (place : Place) : Scope := ⟨scope.settled, place⟩

/-- The frames behind a `while`. -/
def repeated (scope : Scope) : List Frame :=
  if scope.place ≠ .inside ∧ .loop ∈ scope.frames then
    (scope.frames.dropWhile Frame.isBranch).tail
  else scope.settled

/-- No `do` is open. -/
def NoLoops (scope : Scope) : Prop := ∀ frame ∈ scope.frames, frame.isBranch = true

end Scope

/-- How many times an `if` was seen, and the number of the one for each `else`, if there is one. -/
structure Tally where
  count : Nat
  owners : List (Option Nat)

namespace Tally

/-- One more `if`. -/
def branch (tally : Tally) : Tally := ⟨tally.count + 1, tally.owners⟩

/-- One more `else`. -/
def bind (tally : Tally) (owner : Option Nat) : Tally := ⟨tally.count, tally.owners ++ [owner]⟩

end Tally

/-- The scopes around a token, innermost first, and what was seen before it. -/
structure Reader where
  scopes : List Scope
  tally : Tally

namespace Reader

/-- The reader before the first token. -/
def start : Reader := ⟨[⟨[], .inside⟩], ⟨0, []⟩⟩

/-- The reader behind a token that stands in a scope. -/
def stepIn (scope : Scope) (outer : List Scope) (tally : Tally) : Mark → Reader
  | .opening => ⟨⟨[], .inside⟩ :: scope.move .inside :: outer, tally⟩
  | .closing isBrace =>
    match outer with
    | [] => ⟨[scope], tally⟩
    | below :: rest => ⟨below.move (if isBrace then .brace else .inside) :: rest, tally⟩
  | .semicolon => ⟨scope.move .semicolon :: outer, tally⟩
  | .ifWord => ⟨⟨.branch tally.count :: scope.settled, .inside⟩ :: outer, tally.branch⟩
  | .elseWord =>
    match scope.frames with
    | .branch number :: frames => ⟨⟨frames, .inside⟩ :: outer, tally.bind (some number)⟩
    | frames => ⟨⟨frames, .inside⟩ :: outer, tally.bind none⟩
  | .doWord => ⟨⟨.loop :: scope.settled, .inside⟩ :: outer, tally⟩
  | .whileWord => ⟨⟨scope.repeated, .inside⟩ :: outer, tally⟩
  | .other => ⟨scope.move .inside :: outer, tally⟩

/-- The reader behind a token. -/
def step (reader : Reader) (mark : Mark) : Reader :=
  match reader.scopes with
  | [] => reader
  | scope :: outer => stepIn scope outer reader.tally mark

/-- The reader behind several tokens. -/
def run (reader : Reader) (marks : List Mark) : Reader := marks.foldl step reader

end Reader

/-- The `if`s and `else`s of a text, each `else` with the number of its `if`. -/
def bindings (lexemes : List Lexeme) : Tally := (Reader.start.run (marks lexemes)).tally

/-! ## Runs -/

section Runs

variable {scope : Scope} {outer : List Scope} {tally : Tally} {rest : List Mark}

@[simp]
theorem run_nil (reader : Reader) : reader.run [] = reader := rfl

@[simp]
theorem run_cons (mark : Mark) :
    Reader.run ⟨scope :: outer, tally⟩ (mark :: rest) =
      (Reader.stepIn scope outer tally mark).run rest := rfl

theorem run_append (reader : Reader) (first second : List Mark) :
    reader.run (first ++ second) = (reader.run first).run second :=
  List.foldl_append

@[simp]
theorem marks_nil : marks [] = [] := rfl

@[simp]
theorem marks_cons (lexeme : Lexeme) (others : List Lexeme) :
    marks (lexeme :: others) = lexeme.marks ++ marks others := rfl

@[simp]
theorem marks_append (first second : List Lexeme) :
    marks (first ++ second) = marks first ++ marks second :=
  List.flatMap_append

theorem settled_of_inside (h : scope.place = .inside) : scope.settled = scope.frames := by
  simp [Scope.settled, h]

theorem settled_move {place : Place} (h : place ≠ .semicolon) :
    (scope.move place).settled = scope.settled := by
  simp [Scope.settled, Scope.move, h]

theorem noLoops_nil (place : Place) : Scope.NoLoops ⟨[], place⟩ := by
  intro frame hFrame
  cases hFrame

/-- A `do` that is open stays so until its `while`. -/
theorem noLoops_iff : scope.NoLoops ↔ ∀ frame ∈ scope.settled, frame.isBranch = true := by
  unfold Scope.NoLoops Scope.settled
  split
  · constructor
    · intro h frame hFrame
      exact h frame (List.dropWhile_sublist _ |>.mem hFrame)
    · intro h frame hFrame
      rw [← List.takeWhile_append_dropWhile (p := Frame.isBranch) (l := scope.frames)] at hFrame
      rcases List.mem_append.1 hFrame with hTaken | hLeft
      · exact List.mem_takeWhile_imp hTaken
      · exact h frame hLeft
  · rfl

theorem Scope.NoLoops.move (h : scope.NoLoops) (place : Place) : (scope.move place).NoLoops :=
  noLoops_iff.1 h

end Runs

/-! ## Brackets -/

/-- How many brackets are open behind a mark, if so many are open before it: none is closed that was
not opened, and a word of a statement has no place here. -/
def Mark.nest (depth : Nat) : Mark → Option Nat
  | .opening => some (depth + 1)
  | .closing _ => if depth = 0 then none else some (depth - 1)
  | .semicolon | .other => some depth
  | .ifWord | .elseWord | .doWord | .whileWord => none

/-- How many brackets are open behind several marks. -/
def Mark.depth? (depth : Nat) : List Mark → Option Nat
  | [] => some depth
  | mark :: rest => (mark.nest depth).bind fun deeper => depth? deeper rest

theorem Mark.nest_add {mark : Mark} (h : mark.nest depth = some deeper) (more : Nat) :
    mark.nest (depth + more) = some (deeper + more) := by
  cases mark <;> simp [nest] at h ⊢ <;> omega

theorem Mark.depth?_add {found : List Mark} (h : depth? depth found = some deeper) (more : Nat) :
    depth? (depth + more) found = some (deeper + more) := by
  induction found generalizing depth with
  | nil =>
    cases h
    rfl
  | cons mark rest ih =>
    obtain ⟨next, hNext, hRest⟩ := Option.bind_eq_some_iff.1 h
    rw [depth?, nest_add hNext more]
    exact ih hRest

/-- Whether a text of the printer has no words of statements and closes no more brackets than those
that are counted. -/
def isSmooth (t : Text) : Bool :=
  Mark.depth? (-Lexeme.opened t).toNat (Mark.scan [] t) = some (Lexeme.opened t).toNat

theorem depth?_of_isSmooth {t : Text} (h : isSmooth t = true)
    (hDepth : 0 ≤ depth + Lexeme.opened t) :
    Mark.depth? depth (Mark.scan [] t) = some (depth + Lexeme.opened t).toNat := by
  have hBase : Mark.depth? (-Lexeme.opened t).toNat (Mark.scan [] t) =
      some (Lexeme.opened t).toNat := by simpa [isSmooth] using h
  have hMore := Mark.depth?_add hBase (depth - (-Lexeme.opened t).toNat)
  rw [show (-Lexeme.opened t).toNat + (depth - (-Lexeme.opened t).toNat) = depth by omega] at hMore
  rw [hMore]
  congr 1
  omega

/-- What is true of a scope stays so when its tokens are read, where semicolons are among them or not. -/
def IsKept (ends : Bool) (inv : Scope → Prop) : Prop :=
  ∀ ⦃scope⦄, inv scope → ∀ place, (place = .semicolon → ends = true) → inv (scope.move place)

theorem isKept_settled (frames : List Frame) : IsKept false fun scope => scope.settled = frames := by
  intro scope hScope place hPlace
  rw [settled_move fun hEq => Bool.false_ne_true (hPlace hEq), hScope]

theorem isKept_noLoops : IsKept true Scope.NoLoops := fun _ hScope place _ => hScope.move place

section Depth

variable {ends : Bool} {inv : Scope → Prop} (hInv : IsKept ends inv) {inner : List Scope}
  (hInner : ∀ scope ∈ inner, scope.NoLoops) {base : Scope} (hBase : inv base) (outer : List Scope)

include hInv hInner hBase

/-- The innermost scope moves on, which may be the outermost of those that are looked at. -/
theorem exists_move (place : Place) (hPlace : place = .semicolon → ends = true) :
    ∃ top below inner' base', inner ++ base :: outer = top :: below ∧
      top.move place :: below = inner' ++ base' :: outer ∧ inner'.length = inner.length ∧
      (∀ scope ∈ inner', scope.NoLoops) ∧ inv base' := by
  cases inner with
  | nil =>
    exact ⟨base, outer, [], base.move place, rfl, rfl, rfl, hInner, hInv hBase place hPlace⟩
  | cons top rest =>
    obtain ⟨hTop, hRest⟩ := List.forall_mem_cons.1 hInner
    exact ⟨top, rest ++ base :: outer, top.move place :: rest, base, rfl, rfl, rfl,
      List.forall_mem_cons.2 ⟨hTop.move place, hRest⟩, hBase⟩

/-- A bracket opens a scope or closes one. -/
theorem step_nest {mark : Mark} (h : mark.nest depth = some deeper)
    (hEnds : mark = .semicolon → ends = true) (hLength : inner.length = depth) (tally : Tally) :
    ∃ inner' base', inner'.length = deeper ∧ (∀ scope ∈ inner', scope.NoLoops) ∧ inv base' ∧
      Reader.step ⟨inner ++ base :: outer, tally⟩ mark = ⟨inner' ++ base' :: outer, tally⟩ := by
  have hStep (top : Scope) (below : List Scope) (hScopes : inner ++ base :: outer = top :: below) :
      Reader.step ⟨inner ++ base :: outer, tally⟩ mark = Reader.stepIn top below tally mark := by
    rw [hScopes]
    rfl
  cases mark with
  | opening =>
    obtain ⟨top, below, inner', base', hScopes, hMoved, hSame, hLoops, hBase'⟩ :=
      exists_move hInv hInner hBase outer .inside (by simp)
    refine ⟨⟨[], .inside⟩ :: inner', base', ?_, List.forall_mem_cons.2 ⟨noLoops_nil _, hLoops⟩, hBase',
      ?_⟩
    · rw [List.length_cons, hSame, hLength]
      exact Option.some.inj h
    · rw [hStep top below hScopes, Reader.stepIn, hMoved]
      rfl
  | closing isBrace =>
    cases inner with
    | nil =>
      rw [← hLength] at h
      cases h
    | cons top rest =>
      obtain ⟨below, others, inner', base', hScopes, hMoved, hSame, hLoops, hBase'⟩ :=
        exists_move hInv (List.forall_mem_cons.1 hInner).2 hBase outer
          (if isBrace then .brace else .inside) (by cases isBrace <;> simp)
      refine ⟨inner', base', ?_, hLoops, hBase', ?_⟩
      · rw [hSame]
        simp [Mark.nest, ← hLength] at h
        omega
      · rw [hStep top (below :: others) (congrArg (top :: ·) hScopes), Reader.stepIn, hMoved]
  | semicolon =>
    obtain ⟨top, below, inner', base', hScopes, hMoved, hSame, hLoops, hBase'⟩ :=
      exists_move hInv hInner hBase outer .semicolon (fun _ => hEnds rfl)
    refine ⟨inner', base', ?_, hLoops, hBase', ?_⟩
    · rw [hSame, hLength]
      exact Option.some.inj h
    · rw [hStep top below hScopes, Reader.stepIn, hMoved]
  | other =>
    obtain ⟨top, below, inner', base', hScopes, hMoved, hSame, hLoops, hBase'⟩ :=
      exists_move hInv hInner hBase outer .inside (by simp)
    refine ⟨inner', base', ?_, hLoops, hBase', ?_⟩
    · rw [hSame, hLength]
      exact Option.some.inj h
    · rw [hStep top below hScopes, Reader.stepIn, hMoved]
  | ifWord | elseWord | doWord | whileWord => cases h

omit hInner hBase

/-- Brackets open scopes and close them again, and what stands between them leaves no `do` open. -/
theorem run_depth {found : List Mark} (h : Mark.depth? depth found = some deeper)
    (hEnds : .semicolon ∈ found → ends = true) {inner : List Scope}
    (hLength : inner.length = depth) (hInner : ∀ scope ∈ inner, scope.NoLoops) {base : Scope}
    (hBase : inv base) (tally : Tally) :
    ∃ inner' base', inner'.length = deeper ∧ (∀ scope ∈ inner', scope.NoLoops) ∧ inv base' ∧
      Reader.run ⟨inner ++ base :: outer, tally⟩ found = ⟨inner' ++ base' :: outer, tally⟩ := by
  induction found generalizing depth inner base with
  | nil =>
    cases h
    exact ⟨inner, base, hLength, hInner, hBase, rfl⟩
  | cons mark rest ih =>
    obtain ⟨next, hNext, hRest⟩ := Option.bind_eq_some_iff.1 h
    obtain ⟨inner', base', hLength', hInner', hBase', hStep⟩ :=
      step_nest hInv hInner hBase outer hNext (fun hMark => hEnds (hMark ▸ List.mem_cons_self))
        hLength tally
    obtain ⟨last, final, hLast, hLoops, hFinal, hRun⟩ :=
      ih hRest (fun hMem => hEnds (List.mem_cons_of_mem mark hMem)) hLength' hInner' hBase'
    refine ⟨last, final, hLast, hLoops, hFinal, ?_⟩
    rw [← hRun, ← hStep]
    rfl

end Depth

end Assay.Print
