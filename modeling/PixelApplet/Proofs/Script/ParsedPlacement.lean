import PixelApplet.Proofs.Script.Placement

/-!
# The parser places statements and parameters

The parser counts the function bodies that are open.  Every parser leaves the count as it was, and
accepts a load statement only while it is zero and a return statement only while it is not; and a
parameter is held against those before it.  So whatever the parser accepts keeps the rules of
placement.
-/

namespace PixelApplet.Parser

variable {α β : Type} {count : Nat}

/-- What a parser reads while some function bodies are open has a property, and it opens and closes
as many. -/
def Gives (count : Nat) (p : Parser α) (property : α → Prop) : Prop :=
  ∀ s x s', s.functionDepth = count → p s = .ok (x, s') → s'.functionDepth = count ∧ property x

/-- A parser whose result does not matter. -/
abbrev Passes (count : Nat) (p : Parser α) : Prop :=
  Gives count p fun _ => True

namespace Gives

variable {property : α → Prop}

theorem bind {p : Parser α} {next : α → Parser β} {later : β → Prop}
    (gives : Gives count p property) (follows : ∀ x, property x → Gives count (next x) later) :
    Gives count (p >>= next) later := by
  intro s y s'' open_ ran
  cases first : p s with
  | error e =>
    simp only [Bind.bind, StateT.bind, first, Except.bind] at ran
    cases ran
  | ok outcome =>
    obtain ⟨x, s'⟩ := outcome
    simp only [Bind.bind, StateT.bind, first, Except.bind] at ran
    obtain ⟨open', holds⟩ := gives s x s' open_ first
    exact follows x holds s' y s'' open' ran

/-- A step whose result does not matter. -/
theorem andThen {p : Parser α} {next : α → Parser β} {later : β → Prop}
    (passes : Passes count p) (follows : ∀ x, Gives count (next x) later) :
    Gives count (p >>= next) later :=
  passes.bind fun x _ => follows x

theorem pure {x : α} (holds : property x) : Gives count (Pure.pure x) property := by
  rintro s _ _ open_ ⟨⟩
  exact ⟨open_, holds⟩

theorem refuses {message : String} {pos : Position} :
    Gives count (Parser.refuse message pos) property :=
  fun _ _ _ _ ran => nomatch ran

/-- Nothing is read after a refusal. -/
theorem refusesThen {message : String} {pos : Position} {next : α → Parser β}
    {later : β → Prop} : Gives count (Parser.refuse message pos >>= next) later :=
  fun _ _ _ _ ran => nomatch ran

end Gives

open Gives

section Steps

/-- A parser that changes nothing but the tokens and the nesting. -/
theorem passes_of_same {p : Parser α}
    (same : ∀ s x s', p s = .ok (x, s') → s'.functionDepth = s.functionDepth) : Passes count p :=
  fun s x s' open_ ran => ⟨(same s x s' ran).trans open_, trivial⟩

theorem passes_position : Passes count position := by
  refine passes_of_same fun s x s' ran => ?_
  unfold position at ran
  split at ran <;> cases ran <;> rfl

theorem passes_kind : Passes count kind := by
  refine passes_of_same fun s x s' ran => ?_
  unfold kind at ran
  split at ran <;> cases ran <;> rfl

theorem passes_kindAfter : Passes count kindAfter := by
  refine passes_of_same fun s x s' ran => ?_
  unfold kindAfter at ran
  split at ran <;> cases ran <;> rfl

theorem passes_advance : Passes count advance := by
  refine passes_of_same fun s x s' ran => ?_
  cases ran
  rfl

theorem passes_depth : Passes count depth := by
  refine passes_of_same fun s x s' ran => ?_
  cases ran
  rfl

theorem passes_restoreDepth {d : Nat} : Passes count (restoreDepth d) := by
  refine passes_of_same fun s x s' ran => ?_
  cases ran
  rfl

theorem gives_unexpected {context : String} {property : α → Prop} :
    Gives count (unexpected context) property :=
  andThen passes_kind fun _ => andThen passes_position fun _ => refuses

theorem gives_exhausted {property : α → Prop} : Gives count exhausted property :=
  gives_unexpected

theorem passes_enter : Passes count enter := by
  intro s x s' open_ ran
  unfold enter at ran
  split at ran
  · exact (andThen passes_position fun _ => refuses : Passes count _) s x s' open_ ran
  · cases ran
    exact ⟨open_, trivial⟩

theorem gives_nested {p : Parser α} {property : α → Prop} (gives : Gives count p property) :
    Gives count (nested p) property := by
  refine andThen passes_enter fun _ => bind gives fun x holds => ?_
  rintro s _ _ open_ ⟨⟩
  exact ⟨open_, holds⟩

theorem passes_atSymbol {mark : Symbol} : Passes count (atSymbol mark) :=
  andThen passes_kind fun _ => pure trivial

theorem passes_atKeyword {word : Keyword} : Passes count (atKeyword word) :=
  andThen passes_kind fun _ => pure trivial

theorem passes_skipSymbol {mark : Symbol} : Passes count (skipSymbol mark) := by
  refine andThen passes_atSymbol fun found => ?_
  split
  · exact andThen passes_advance fun _ => pure trivial
  · exact pure trivial

theorem passes_skipKeyword {word : Keyword} : Passes count (skipKeyword word) := by
  refine andThen passes_atKeyword fun found => ?_
  split
  · exact andThen passes_advance fun _ => pure trivial
  · exact pure trivial

theorem passes_skipNewline : Passes count skipNewline := by
  refine andThen passes_kind fun kind => ?_
  split
  · exact andThen passes_advance fun _ => pure trivial
  · exact pure trivial

theorem passes_expectSymbol {mark : Symbol} : Passes count (expectSymbol mark) := by
  refine andThen passes_skipSymbol fun found => ?_
  split
  · exact pure trivial
  · exact gives_unexpected

theorem passes_expectKeyword {word : Keyword} : Passes count (expectKeyword word) := by
  refine andThen passes_skipKeyword fun found => ?_
  split
  · exact pure trivial
  · exact gives_unexpected

theorem passes_expectNewline : Passes count expectNewline := by
  refine andThen passes_skipNewline fun found => ?_
  split
  · exact pure trivial
  · exact gives_unexpected

theorem passes_expectIndent : Passes count expectIndent := by
  refine andThen passes_kind fun kind => ?_
  split
  · exact passes_advance
  · exact gives_unexpected

theorem passes_expectIdentifier : Passes count expectIdentifier := by
  refine andThen passes_kind fun kind => ?_
  split
  · exact andThen passes_advance fun _ => pure trivial
  · exact gives_unexpected

theorem passes_expectString : Passes count expectString := by
  refine andThen passes_kind fun kind => ?_
  split
  · exact andThen passes_advance fun _ => pure trivial
  · exact gives_unexpected

theorem passes_checkTarget {target : Expr} {allowTuple : Bool} :
    Passes count (checkTarget target allowTuple) := by
  unfold checkTarget
  split
  · exact refuses
  · exact pure trivial

theorem passes_adjacentStrings (fuel : Nat) (text : String) :
    Passes count (adjacentStrings fuel text) := by
  induction fuel generalizing text with
  | zero => exact pure trivial
  | succ fuel ih =>
    refine andThen passes_kind fun kind => ?_
    split
    · exact andThen passes_advance fun _ => ih _
    · exact pure trivial

theorem passes_operator? : Passes count operator? :=
  andThen passes_kind fun _ => andThen passes_kindAfter fun _ => pure trivial

end Steps

section Lists

/-- The rules for the parameters of a function. -/
structure ParamsPlaced (params : List Param) : Prop where
  arranged : Param.Arranged params
  placed : Param.PlacedAll params

/-- The rules for a parameter behind others, but for its name. -/
structure FitsBehind (done : List Param) (param : Param) : Prop where
  placed : param.kind.Placed
  defaultsLast : done.any Param.isOptional = true → param.isRequired = false

theorem paramsPlaced_nil : ParamsPlaced [] :=
  ⟨⟨.nil, .nil⟩, trivial⟩

theorem placedAll_append {done : List Param} {param : Param} (placed : Param.PlacedAll done)
    (placedLast : param.kind.Placed) : Param.PlacedAll (done ++ [param]) := by
  induction done with
  | nil =>
    obtain ⟨name, pos, kind⟩ := param
    exact ⟨placedLast, trivial⟩
  | cons first rest ih =>
    obtain ⟨name, pos, kind⟩ := first
    rw [Param.PlacedAll] at placed
    rw [List.cons_append, Param.PlacedAll]
    exact ⟨placed.1, ih placed.2⟩

/-- A parameter with a new name goes behind the others. -/
theorem ParamsPlaced.append {done : List Param} {param : Param} (placed : ParamsPlaced done)
    (fits : FitsBehind done param) (new : ¬ done.any (·.name = param.name) = true) :
    ParamsPlaced (done ++ [param]) := by
  refine ⟨⟨?_, ?_⟩, placedAll_append placed.placed fits.placed⟩
  · rw [List.map_append, List.nodup_append]
    refine ⟨placed.arranged.distinct, List.pairwise_singleton _ _, ?_⟩
    rintro name known _ last rfl
    obtain ⟨other, member, named⟩ := List.mem_map.mp known
    rw [List.map_singleton, List.mem_singleton] at last
    exact new (List.any_eq_true.mpr ⟨other, member, decide_eq_true (named.trans last)⟩)
  · refine List.pairwise_append.mpr ⟨placed.arranged.defaultsLast, List.pairwise_singleton _ _, ?_⟩
    intro other member last isLast isOptional
    rw [List.mem_singleton.mp isLast]
    exact fits.defaultsLast (List.any_eq_true.mpr ⟨other, member, isOptional⟩)

theorem argumentsPlaced_append {done : List Argument} {argument : Argument}
    (placed : Argument.PlacedAll done) (placedLast : Argument.PlacedAll [argument]) :
    Argument.PlacedAll (done ++ [argument]) := by
  induction done with
  | nil => exact placedLast
  | cons first rest ih =>
    cases first <;> rw [Argument.PlacedAll] at placed <;>
      rw [List.cons_append, Argument.PlacedAll] <;> exact ⟨placed.1, ih placed.2⟩

end Lists

/-- Whatever the parsers of expressions read keeps the rules of placement. -/
structure PlacesExpressions (fuel : Nat) : Prop where
  test : ∀ count, Gives count (Parser.test fuel) Expr.Placed
  testList : ∀ count, Gives count (Parser.testList fuel) Expr.Placed
  testListRest : ∀ count, Gives count (Parser.testListRest fuel) Expr.PlacedAll
  targetList : ∀ count, Gives count (Parser.targetList fuel) Expr.Placed
  targetListRest : ∀ count, Gives count (Parser.targetListRest fuel) Expr.PlacedAll
  lambda : ∀ count, Gives count (Parser.lambda fuel) Expr.Placed
  paramList : ∀ count close done, ParamsPlaced done →
    Gives count (Parser.paramList fuel close done) ParamsPlaced
  param : ∀ count done, Gives count (Parser.param fuel done) (FitsBehind done)
  binary : ∀ count power, Gives count (Parser.binary fuel power) Expr.Placed
  binaryRest : ∀ count power left, left.Placed →
    Gives count (Parser.binaryRest fuel power left) Expr.Placed
  unary : ∀ count, Gives count (Parser.unary fuel) Expr.Placed
  operand : ∀ count, Gives count (Parser.operand fuel) Expr.Placed
  suffixes : ∀ count object, object.Placed →
    Gives count (Parser.suffixes fuel object) Expr.Placed
  subscript : ∀ count pos object, object.Placed →
    Gives count (Parser.subscript fuel pos object) Expr.Placed
  subscriptParts : ∀ count pos colons start stop step, Expr.PlacedOption start →
    Expr.PlacedOption stop → Expr.PlacedOption step →
      Gives count (Parser.subscriptParts fuel pos colons start stop step) fun parts =>
        Expr.PlacedOption parts.2.1 ∧ Expr.PlacedOption parts.2.2.1
          ∧ Expr.PlacedOption parts.2.2.2
  argumentList : ∀ count done, Argument.PlacedAll done →
    Gives count (Parser.argumentList fuel done) Argument.PlacedAll
  argument : ∀ count done, Gives count (Parser.argument fuel done) fun argument =>
    Argument.PlacedAll [argument]
  atom : ∀ count, Gives count (Parser.atom fuel) Expr.Placed
  listDisplay : ∀ count pos, Gives count (Parser.listDisplay fuel pos) Expr.Placed
  listItems : ∀ count, Gives count (Parser.listItems fuel) Expr.PlacedAll
  dictDisplay : ∀ count pos, Gives count (Parser.dictDisplay fuel pos) Expr.Placed
  dictEntries : ∀ count, Gives count (Parser.dictEntries fuel) Expr.PlacedEntries
  comprehensionClauses : ∀ count,
    Gives count (Parser.comprehensionClauses fuel) Clause.PlacedAll

section Expressions

variable {fuel : Nat} (places : PlacesExpressions fuel)

include places

theorem places_test : Gives count (test (fuel + 1)) Expr.Placed := by
  unfold test
  refine gives_nested (andThen passes_atKeyword fun lambdaNext => ?_)
  split
  · exact places.lambda count
  · refine andThen passes_position fun pos => bind (places.binary count _) fun value placed => ?_
    refine andThen passes_skipKeyword fun conditional => ?_
    split
    · refine bind (places.binary count _) fun condition placedCondition => ?_
      refine andThen passes_expectKeyword fun _ => bind (places.test count) fun other placedOther =>
        pure ?_
      rw [Expr.Placed]
      exact ⟨placedCondition, placed, placedOther⟩
    · exact pure placed

theorem places_testList : Gives count (testList (fuel + 1)) Expr.Placed := by
  unfold testList
  refine andThen passes_position fun pos => bind (places.test count) fun first placed => ?_
  refine andThen passes_atSymbol fun more => ?_
  split
  · refine bind (places.testListRest count) fun rest placedRest => pure ?_
    rw [Expr.Placed, Expr.PlacedAll]
    exact ⟨placed, placedRest⟩
  · exact pure placed

theorem places_testListRest : Gives count (testListRest (fuel + 1)) Expr.PlacedAll := by
  unfold testListRest
  refine andThen passes_skipSymbol fun more => ?_
  have none_ : Expr.PlacedAll [] := by
    rw [Expr.PlacedAll]
    trivial
  split
  · refine andThen passes_kind fun kind => ?_
    split
    · refine bind (places.test count) fun item placed => ?_
      refine bind (places.testListRest count) fun rest placedRest => pure ?_
      rw [Expr.PlacedAll]
      exact ⟨placed, placedRest⟩
    · exact pure none_
  · exact pure none_

theorem places_targetList : Gives count (targetList (fuel + 1)) Expr.Placed := by
  unfold targetList
  refine andThen passes_position fun pos => bind (places.operand count) fun first placed => ?_
  refine andThen passes_atSymbol fun more => ?_
  split
  · refine bind (places.targetListRest count) fun rest placedRest => pure ?_
    rw [Expr.Placed, Expr.PlacedAll]
    exact ⟨placed, placedRest⟩
  · exact pure placed

theorem places_targetListRest : Gives count (targetListRest (fuel + 1)) Expr.PlacedAll := by
  unfold targetListRest
  refine andThen passes_skipSymbol fun more => ?_
  have none_ : Expr.PlacedAll [] := by
    rw [Expr.PlacedAll]
    trivial
  split
  · refine andThen passes_atKeyword fun ended => ?_
    split
    · exact pure none_
    · refine bind (places.operand count) fun item placed => ?_
      refine bind (places.targetListRest count) fun rest placedRest => pure ?_
      rw [Expr.PlacedAll]
      exact ⟨placed, placedRest⟩
  · exact pure none_

theorem places_lambda : Gives count (lambda (fuel + 1)) Expr.Placed := by
  unfold lambda
  refine andThen passes_position fun pos => andThen passes_expectKeyword fun _ => ?_
  refine bind (places.paramList count _ [] paramsPlaced_nil) fun params placedParams => ?_
  refine andThen passes_expectSymbol fun _ => andThen passes_position fun bodyPos => ?_
  refine bind (places.test count) fun body placedBody => pure ?_
  rw [Expr.Placed, FunctionDecl.Placed, Stmt.PlacedAll, Stmt.Placed,
    Expr.PlacedOption, Stmt.PlacedAll]
  exact ⟨placedParams.arranged, placedParams.placed, ⟨rfl, placedBody⟩, trivial⟩

theorem places_paramList {close : Symbol} {done : List Param} (placed : ParamsPlaced done) :
    Gives count (paramList (fuel + 1) close done) ParamsPlaced := by
  unfold paramList
  refine andThen passes_atSymbol fun ended => ?_
  split
  · exact pure placed
  · refine bind (places.param count done) fun param fits => ?_
    have goesOn (new : ¬ done.any (·.name = param.name) = true) : Gives count (do
        if ← skipSymbol .comma then
          paramList fuel close (done ++ [param])
        else
          return done ++ [param]) ParamsPlaced := by
      have placedAll := placed.append fits new
      refine andThen passes_skipSymbol fun more => ?_
      split
      · exact places.paramList count close _ placedAll
      · exact pure placedAll
    dsimp only
    split
    · exact refusesThen
    · rename_i new
      exact goesOn new

theorem places_param {done : List Param} :
    Gives count (param (fuel + 1) done) (FitsBehind done) := by
  unfold param
  refine andThen passes_position fun pos => andThen passes_skipSymbol fun restNamed => ?_
  split
  · exact andThen passes_expectIdentifier fun name => pure ⟨trivial, fun _ => rfl⟩
  refine andThen passes_skipSymbol fun rest => ?_
  split
  · exact andThen passes_expectIdentifier fun name => pure ⟨trivial, fun _ => rfl⟩
  refine andThen passes_expectIdentifier fun name => andThen passes_skipSymbol fun default => ?_
  split
  · exact bind (places.test count) fun value placed => pure ⟨placed, fun _ => rfl⟩
  · dsimp only
    split
    · exact refusesThen
    · rename_i noDefault
      exact pure ⟨trivial, fun hasDefault => absurd hasDefault noDefault⟩

theorem places_binary {power : Power} :
    Gives count (binary (fuel + 1) power) Expr.Placed := by
  have goesOn {left : Expr} (placed : left.Placed) : Gives count (do
      let outer ← depth
      let value ← binaryRest fuel power left
      restoreDepth outer
      return value) Expr.Placed :=
    andThen passes_depth fun _ => bind (places.binaryRest count power left placed)
      fun _ placedValue => andThen passes_restoreDepth fun _ => pure placedValue
  unfold binary
  refine andThen passes_atKeyword fun negated => ?_
  dsimp only
  split
  · refine andThen passes_position fun pos => andThen passes_advance fun _ => ?_
    refine bind (gives_nested (places.binary count _)) fun value placed => goesOn ?_
    rw [Expr.Placed]
    exact placed
  · exact bind (places.unary count) fun _ placed => goesOn placed

theorem places_binaryRest {power : Power} {left : Expr} (placed : left.Placed) :
    Gives count (binaryRest (fuel + 1) power left) Expr.Placed := by
  unfold binaryRest
  refine andThen passes_operator? fun found => ?_
  split
  · exact pure placed
  · rename_i op opPower width
    have goesOn (pos : Position) : Gives count (do
        enter
        let right ← binary fuel (opPower + 1)
        binaryRest fuel power (.binary pos op left right)) Expr.Placed := by
      refine andThen passes_enter fun _ => bind (places.binary count _) fun right placedRight => ?_
      refine places.binaryRest count power _ ?_
      rw [Expr.Placed]
      exact ⟨placed, placedRight⟩
    split
    · exact pure placed
    · refine andThen passes_position fun pos => andThen passes_advance fun _ => ?_
      dsimp only
      split
      · exact andThen passes_advance fun _ => goesOn pos
      · exact goesOn pos

theorem places_unary : Gives count (unary (fuel + 1)) Expr.Placed := by
  have signed (pos : Position) (op : UnaryOp) : Gives count (do
      return .unary pos op (← nested (unary fuel))) Expr.Placed := by
    refine bind (gives_nested (places.unary count)) fun value placed => pure ?_
    rw [Expr.Placed]
    exact placed
  unfold unary
  refine andThen passes_position fun pos => andThen passes_skipSymbol fun minus => ?_
  split
  · exact signed pos .neg
  refine andThen passes_skipSymbol fun plus => ?_
  split
  · exact signed pos .pos
  · exact places.operand count

theorem places_operand : Gives count (operand (fuel + 1)) Expr.Placed := by
  unfold operand
  refine bind (places.atom count) fun first placed => andThen passes_depth fun outer => ?_
  exact bind (places.suffixes count first placed) fun _ placedValue =>
    andThen passes_restoreDepth fun _ => pure placedValue

theorem places_suffixes {object : Expr} (placed : object.Placed) :
    Gives count (suffixes (fuel + 1) object) Expr.Placed := by
  have none_ : Argument.PlacedAll [] := by
    rw [Argument.PlacedAll]
    trivial
  unfold suffixes
  refine andThen passes_position fun pos => andThen passes_kind fun kind => ?_
  split
  · refine andThen passes_enter fun _ => andThen passes_advance fun _ => ?_
    refine andThen passes_expectIdentifier fun name => places.suffixes count _ ?_
    rw [Expr.Placed]
    exact placed
  · refine andThen passes_enter fun _ => andThen passes_advance fun _ => ?_
    refine bind (places.argumentList count [] none_) fun arguments placedArguments => ?_
    refine andThen passes_expectSymbol fun _ => places.suffixes count _ ?_
    rw [Expr.Placed]
    exact ⟨placed, placedArguments⟩
  · refine andThen passes_enter fun _ => andThen passes_advance fun _ => ?_
    exact bind (places.subscript count pos object placed) fun whole placedWhole =>
      places.suffixes count whole placedWhole
  · exact pure placed

theorem places_subscript {pos : Position} {object : Expr} (placed : object.Placed) :
    Gives count (subscript (fuel + 1) pos object) Expr.Placed := by
  have none_ : Expr.PlacedOption none := by
    rw [Expr.PlacedOption]
    trivial
  unfold subscript
  refine bind (places.subscriptParts count pos 0 _ _ _ none_ none_ none_)
    fun parts placedParts => ?_
  obtain ⟨colons, start, stop, step⟩ := parts
  refine andThen passes_expectSymbol fun _ => ?_
  split
  · cases start with
    | none => exact refuses
    | some key =>
      refine pure ?_
      have placedKey := placedParts.1
      rw [Expr.PlacedOption] at placedKey
      rw [Expr.Placed]
      exact ⟨placed, placedKey⟩
  · refine pure ?_
    rw [Expr.Placed]
    exact ⟨placed, placedParts⟩

theorem places_subscriptParts {pos : Position} {colons : Nat} {start stop step : Option Expr}
    (placedStart : Expr.PlacedOption start) (placedStop : Expr.PlacedOption stop)
    (placedStep : Expr.PlacedOption step) :
    Gives count (subscriptParts (fuel + 1) pos colons start stop step) fun parts =>
      Expr.PlacedOption parts.2.1 ∧ Expr.PlacedOption parts.2.2.1
        ∧ Expr.PlacedOption parts.2.2.2 := by
  unfold subscriptParts
  refine andThen passes_atSymbol fun ended => ?_
  split
  · exact pure ⟨placedStart, placedStop, placedStep⟩
  refine andThen passes_skipSymbol fun colon => ?_
  have next := places.subscriptParts count pos (colons + 1) start stop step placedStart placedStop
    placedStep
  split
  · dsimp only
    split
    · exact refusesThen
    · exact next
  · refine bind (places.test count) fun value placed => ?_
    have here : Expr.PlacedOption (some value) := by
      rw [Expr.PlacedOption]
      exact placed
    have goesOn {start stop step : Option Expr} (placedStart : Expr.PlacedOption start)
        (placedStop : Expr.PlacedOption stop) (placedStep : Expr.PlacedOption step) :
        Gives count (do
          if ← atSymbol .colon then
            subscriptParts fuel pos colons start stop step
          else
            return (colons, start, stop, step)) fun parts =>
          Expr.PlacedOption parts.2.1 ∧ Expr.PlacedOption parts.2.2.1
            ∧ Expr.PlacedOption parts.2.2.2 := by
      refine andThen passes_atSymbol fun colon => ?_
      split
      · exact places.subscriptParts count pos colons start stop step placedStart placedStop
          placedStep
      · exact pure ⟨placedStart, placedStop, placedStep⟩
    match colons with
    | 0 => exact goesOn here placedStop placedStep
    | 1 => exact goesOn placedStart here placedStep
    | _ + 2 => exact goesOn placedStart placedStop here

theorem places_argumentList {done : List Argument} (placed : Argument.PlacedAll done) :
    Gives count (argumentList (fuel + 1) done) Argument.PlacedAll := by
  unfold argumentList
  refine andThen passes_atSymbol fun ended => ?_
  split
  · exact pure placed
  · refine bind (places.argument count done) fun argument placedArgument => ?_
    have placedAll := argumentsPlaced_append placed placedArgument
    refine andThen passes_skipSymbol fun more => ?_
    split
    · exact places.argumentList count _ placedAll
    · exact pure placedAll

theorem places_argument {done : List Argument} :
    Gives count (argument (fuel + 1) done) fun argument => Argument.PlacedAll [argument] := by
  have single {e : Expr} (placed : e.Placed) (make : Expr → Argument)
      (rule : Argument.PlacedAll [make e] = (e.Placed ∧ True)) :
      Gives count (Pure.pure (make e)) fun argument => Argument.PlacedAll [argument] := by
    refine pure ?_
    rw [rule]
    exact ⟨placed, trivial⟩
  have positional : Gives count (do return .positional (← test fuel)) fun argument =>
      Argument.PlacedAll [argument] :=
    bind (places.test count) fun _ placed =>
      single placed .positional (by simp only [Argument.PlacedAll])
  unfold argument
  refine andThen passes_skipSymbol fun spreadNamed => ?_
  split
  · exact bind (places.test count) fun _ placed =>
      single placed .spreadNamed (by simp only [Argument.PlacedAll])
  refine andThen passes_skipSymbol fun spread => ?_
  split
  · exact bind (places.test count) fun _ placed =>
      single placed .spread (by simp only [Argument.PlacedAll])
  refine andThen passes_kind fun kind => andThen passes_kindAfter fun after => ?_
  split
  · refine andThen passes_advance fun _ => andThen passes_advance fun _ => ?_
    exact bind (places.test count) fun _ placed =>
      single placed (.named _) (by simp only [Argument.PlacedAll])
  · dsimp only
    split
    · exact andThen gives_unexpected fun _ => positional
    · exact positional

theorem places_atom : Gives count (atom (fuel + 1)) Expr.Placed := by
  have literal (pos : Position) (value : Literal) :
      Gives count (Pure.pure (Expr.literal pos value)) Expr.Placed := by
    refine pure ?_
    rw [Expr.Placed]
    trivial
  unfold atom
  refine andThen passes_position fun pos => andThen passes_kind fun kind => ?_
  split
  · refine andThen passes_advance fun _ => pure ?_
    rw [Expr.Placed]
    trivial
  · exact andThen passes_advance fun _ => literal pos _
  · exact andThen passes_advance fun _ => literal pos _
  · exact andThen passes_advance fun _ => andThen (passes_adjacentStrings _ _) fun _ =>
      literal pos _
  · exact andThen passes_advance fun _ => literal pos _
  · exact andThen passes_advance fun _ => literal pos _
  · exact andThen passes_advance fun _ => literal pos _
  · refine andThen passes_advance fun _ => andThen passes_skipSymbol fun empty => ?_
    split
    · refine pure ?_
      rw [Expr.Placed, Expr.PlacedAll]
      trivial
    · exact bind (places.testList count) fun _ placed => andThen passes_expectSymbol fun _ =>
        pure placed
  · exact andThen passes_advance fun _ => places.listDisplay count pos
  · exact andThen passes_advance fun _ => places.dictDisplay count pos
  · exact gives_unexpected

theorem places_listDisplay {pos : Position} :
    Gives count (listDisplay (fuel + 1) pos) Expr.Placed := by
  unfold listDisplay
  refine andThen passes_skipSymbol fun empty => ?_
  split
  · refine pure ?_
    rw [Expr.Placed, Expr.PlacedAll]
    trivial
  refine bind (places.test count) fun first placed => andThen passes_atKeyword fun for_ => ?_
  split
  · refine bind (places.comprehensionClauses count) fun clauses placedClauses => ?_
    refine andThen passes_expectSymbol fun _ => pure ?_
    rw [Expr.Placed]
    exact ⟨placed, placedClauses⟩
  · refine bind (places.listItems count) fun items placedItems => ?_
    refine andThen passes_expectSymbol fun _ => pure ?_
    rw [Expr.Placed, Expr.PlacedAll]
    exact ⟨placed, placedItems⟩

theorem places_listItems : Gives count (listItems (fuel + 1)) Expr.PlacedAll := by
  unfold listItems
  refine andThen passes_skipSymbol fun more => ?_
  have none_ : Expr.PlacedAll [] := by
    rw [Expr.PlacedAll]
    trivial
  split
  · refine andThen passes_atSymbol fun ended => ?_
    split
    · exact pure none_
    · refine bind (places.test count) fun item placed => ?_
      refine bind (places.listItems count) fun rest placedRest => pure ?_
      rw [Expr.PlacedAll]
      exact ⟨placed, placedRest⟩
  · exact pure none_

theorem places_dictDisplay {pos : Position} :
    Gives count (dictDisplay (fuel + 1) pos) Expr.Placed := by
  unfold dictDisplay
  refine andThen passes_skipSymbol fun empty => ?_
  split
  · refine pure ?_
    rw [Expr.Placed, Expr.PlacedEntries]
    trivial
  refine bind (places.test count) fun key placedKey => andThen passes_expectSymbol fun _ => ?_
  refine bind (places.test count) fun value placedValue => andThen passes_atKeyword fun for_ => ?_
  split
  · refine bind (places.comprehensionClauses count) fun clauses placedClauses => ?_
    refine andThen passes_expectSymbol fun _ => pure ?_
    rw [Expr.Placed]
    exact ⟨placedKey, placedValue, placedClauses⟩
  · refine bind (places.dictEntries count) fun entries placedEntries => ?_
    refine andThen passes_expectSymbol fun _ => pure ?_
    rw [Expr.Placed, Expr.PlacedEntries]
    exact ⟨placedKey, placedValue, placedEntries⟩

theorem places_dictEntries : Gives count (dictEntries (fuel + 1)) Expr.PlacedEntries := by
  unfold dictEntries
  refine andThen passes_skipSymbol fun more => ?_
  have none_ : Expr.PlacedEntries [] := by
    rw [Expr.PlacedEntries]
    trivial
  split
  · refine andThen passes_atSymbol fun ended => ?_
    split
    · exact pure none_
    · refine bind (places.test count) fun key placedKey => andThen passes_expectSymbol fun _ => ?_
      refine bind (places.test count) fun value placedValue => ?_
      refine bind (places.dictEntries count) fun rest placedRest => pure ?_
      rw [Expr.PlacedEntries]
      exact ⟨placedKey, placedValue, placedRest⟩
  · exact pure none_

theorem places_comprehensionClauses :
    Gives count (comprehensionClauses (fuel + 1)) Clause.PlacedAll := by
  unfold comprehensionClauses
  refine andThen passes_skipKeyword fun for_ => ?_
  split
  · refine bind (places.targetList count) fun target placedTarget => ?_
    refine andThen passes_expectKeyword fun _ => bind (places.binary count _)
      fun iterable placed => ?_
    refine bind (places.comprehensionClauses count) fun rest placedRest => pure ?_
    rw [Clause.PlacedAll]
    exact ⟨placedTarget, placed, placedRest⟩
  refine andThen passes_skipKeyword fun if_ => ?_
  split
  · refine bind (places.binary count _) fun condition placed => ?_
    refine bind (places.comprehensionClauses count) fun rest placedRest => pure ?_
    rw [Clause.PlacedAll]
    exact ⟨placed, placedRest⟩
  · refine pure ?_
    rw [Clause.PlacedAll]
    trivial

end Expressions

/-- With the next parsers of expressions, the parsers themselves keep the rules of placement. -/
theorem placesExpressions (fuel : Nat) : PlacesExpressions fuel := by
  induction fuel with
  | zero =>
    constructor <;> intros <;> exact gives_exhausted
  | succ fuel ih =>
    exact {
      test := fun _ => places_test ih
      testList := fun _ => places_testList ih
      testListRest := fun _ => places_testListRest ih
      targetList := fun _ => places_targetList ih
      targetListRest := fun _ => places_targetListRest ih
      lambda := fun _ => places_lambda ih
      paramList := fun _ _ _ => places_paramList ih
      param := fun _ _ => places_param ih
      binary := fun _ _ => places_binary ih
      binaryRest := fun _ _ _ => places_binaryRest ih
      unary := fun _ => places_unary ih
      operand := fun _ => places_operand ih
      suffixes := fun _ _ => places_suffixes ih
      subscript := fun _ _ _ => places_subscript ih
      subscriptParts := fun _ _ _ _ _ _ => places_subscriptParts ih
      argumentList := fun _ _ => places_argumentList ih
      argument := fun _ _ => places_argument ih
      atom := fun _ => places_atom ih
      listDisplay := fun _ _ => places_listDisplay ih
      listItems := fun _ => places_listItems ih
      dictDisplay := fun _ _ => places_dictDisplay ih
      dictEntries := fun _ => places_dictEntries ih
      comprehensionClauses := fun _ => places_comprehensionClauses ih }

section Statements

variable {fuel : Nat}

/-- Whether a statement stands inside a function where so many function bodies are open. -/
def inside (count : Nat) : Bool :=
  count != 0

theorem passes_loadBindings (fuel : Nat) : Passes count (loadBindings fuel) := by
  induction fuel with
  | zero => exact gives_exhausted
  | succ fuel ih =>
    unfold loadBindings
    refine andThen passes_skipSymbol fun more => ?_
    split
    · refine andThen passes_atSymbol fun ended => ?_
      split
      · exact pure trivial
      · refine andThen passes_position fun pos => andThen passes_kind fun kind => ?_
        have goesOn (binding : LoadBinding) : Passes count (do
            if binding.exported.toList.head? = some '_' then
              refuse s!"load: names with leading underscores are not exported: {binding.exported}"
                pos
            return binding :: (← loadBindings fuel)) := by
          have rest : Passes count (do return binding :: (← loadBindings fuel)) :=
            andThen ih fun _ => pure trivial
          dsimp only
          split
          · exact refusesThen
          · exact rest
        dsimp only
        split
        · exact andThen passes_advance fun _ => goesOn _
        · exact andThen passes_advance fun _ => andThen passes_expectSymbol fun _ =>
            andThen passes_expectString fun _ => goesOn _
        · exact andThen gives_unexpected fun _ => goesOn _
    · exact pure trivial

theorem gives_loadStatement {pos : Position} :
    Gives 0 (loadStatement fuel pos) (Stmt.Placed false) := by
  unfold loadStatement
  refine andThen passes_expectKeyword fun _ => andThen passes_expectSymbol fun _ => ?_
  refine andThen passes_expectString fun module => andThen (passes_loadBindings fuel)
    fun bindings => ?_
  refine andThen passes_expectSymbol fun _ => ?_
  have made : Gives 0 (Pure.pure (Stmt.load pos module bindings)) (Stmt.Placed false) := by
    refine pure ?_
    rw [Stmt.Placed]
  dsimp only
  split
  · exact refusesThen
  · exact made

theorem gives_expressionStatement {pos : Position} {placement : Bool} :
    Gives count (expressionStatement fuel pos) (Stmt.Placed placement) := by
  have places := placesExpressions fuel
  unfold expressionStatement
  refine bind (places.testList count) fun target placedTarget => andThen passes_kind fun kind => ?_
  split
  · refine andThen passes_advance fun _ => andThen passes_checkTarget fun _ => ?_
    refine bind (places.testList count) fun value placed => pure ?_
    rw [Stmt.Placed]
    exact ⟨placedTarget, placed⟩
  · refine andThen passes_skipSymbol fun assigned => ?_
    split
    · refine andThen passes_checkTarget fun _ => ?_
      refine bind (places.testList count) fun value placed => pure ?_
      rw [Stmt.Placed]
      exact ⟨placedTarget, placed⟩
    · refine pure ?_
      rw [Stmt.Placed]
      exact placedTarget

/-- What follows a look at the number of open function bodies. -/
theorem gives_counted {next : ParserState → Parser α} {property : α → Prop}
    (follows : ∀ s : ParserState, s.functionDepth = count → Gives count (next s) property) :
    Gives count (get >>= next) property := by
  intro s x s' open_ ran
  exact follows s open_ s x s' open_ ran

theorem gives_simpleStatement :
    Gives count (simpleStatement fuel) (Stmt.Placed (inside count)) := by
  have places := placesExpressions fuel
  unfold simpleStatement
  refine andThen passes_position fun pos => andThen passes_kind fun kind => ?_
  split
  · refine andThen passes_advance fun _ => pure ?_
    rw [Stmt.Placed]
    trivial
  · refine andThen passes_advance fun _ => pure ?_
    rw [Stmt.Placed]
    trivial
  · refine andThen passes_advance fun _ => pure ?_
    rw [Stmt.Placed]
    trivial
  · refine andThen passes_advance fun _ => gives_counted fun s counted => ?_
    have returned (open_ : inside count = true) : Gives count (do
        if beginsExpression (← Parser.kind) then
          return .return_ pos (some (← testList fuel))
        return .return_ pos none) (Stmt.Placed (inside count)) := by
      refine andThen passes_kind fun kind => ?_
      split
      · refine bind (places.testList count) fun value placed => pure ?_
        rw [Stmt.Placed, Expr.PlacedOption]
        exact ⟨open_, placed⟩
      · refine pure ?_
        rw [Stmt.Placed, Expr.PlacedOption]
        exact ⟨open_, trivial⟩
    dsimp only
    split
    · exact refusesThen
    · rename_i notOutside
      exact returned (bne_iff_ne.mpr (counted ▸ notOutside))
  · refine gives_counted fun s counted => ?_
    dsimp only
    split
    · exact refusesThen
    · rename_i notInside
      have none_ : count = 0 := by omega
      subst none_
      exact gives_loadStatement
  · exact gives_expressionStatement

/-- Whatever the parsers of statements read keeps the rules of placement. -/
structure PlacesStatements (fuel : Nat) : Prop where
  statement : ∀ count, Gives count (Parser.statement fuel) (Stmt.Placed (inside count))
  definition : ∀ count, Gives count (Parser.definition fuel) (Stmt.Placed (inside count))
  ifStatement : ∀ count, Gives count (Parser.ifStatement fuel) (Stmt.Placed (inside count))
  forStatement : ∀ count, Gives count (Parser.forStatement fuel) (Stmt.Placed (inside count))
  suite : ∀ count, Gives count (Parser.suite fuel) (Stmt.PlacedAll (inside count))
  indentedBlock : ∀ count,
    Gives count (Parser.indentedBlock fuel) (Stmt.PlacedAll (inside count))

theorem placed_nil (placement : Bool) : Stmt.PlacedAll placement [] := by
  rw [Stmt.PlacedAll]
  trivial

theorem placed_cons {placement : Bool} {s : Stmt} {rest : List Stmt}
    (placed : s.Placed placement) (placedRest : Stmt.PlacedAll placement rest) :
    Stmt.PlacedAll placement (s :: rest) := by
  rw [Stmt.PlacedAll]
  exact ⟨placed, placedRest⟩

/-- What is read inside a function, with the count of open bodies set back. -/
theorem inFunction_eq (p : Parser α) (s : ParserState) :
    inFunction p s = (p { s with functionDepth := s.functionDepth + 1 }).map fun outcome =>
      (outcome.1, { outcome.2 with functionDepth := outcome.2.functionDepth - 1 }) := by
  show Except.bind (p { s with functionDepth := s.functionDepth + 1 }) _ = _
  cases p { s with functionDepth := s.functionDepth + 1 } <;> rfl

/-- The body of a function is read with one more function body open. -/
theorem gives_inFunction {p : Parser α} {property : α → Prop}
    (gives : Gives (count + 1) p property) : Gives count (inFunction p) property := by
  intro s x s' open_ ran
  rw [inFunction_eq] at ran
  cases inner : p { s with functionDepth := s.functionDepth + 1 } with
  | error e =>
    rw [inner] at ran
    cases ran
  | ok outcome =>
    obtain ⟨y, s''⟩ := outcome
    rw [inner] at ran
    cases ran
    obtain ⟨open', holds⟩ := gives _ y s'' (congrArg (· + 1) open_) inner
    exact ⟨by rw [open']; rfl, holds⟩

variable (places : PlacesStatements fuel)

include places

theorem places_statement :
    Gives count (statement (fuel + 1)) (Stmt.Placed (inside count)) := by
  unfold statement
  refine andThen passes_kind fun kind => ?_
  split
  · exact places.definition count
  · exact places.ifStatement count
  · exact places.forStatement count
  · exact gives_unexpected
  · refine bind gives_simpleStatement fun s placed => andThen passes_kind fun kind => ?_
    split
    · exact pure placed
    · exact pure placed
    · exact andThen passes_expectNewline fun _ => pure placed

theorem places_definition :
    Gives count (definition (fuel + 1)) (Stmt.Placed (inside count)) := by
  have expressions := placesExpressions fuel
  unfold definition
  refine andThen passes_position fun pos => andThen passes_expectKeyword fun _ => ?_
  refine andThen passes_expectIdentifier fun name => andThen passes_expectSymbol fun _ => ?_
  refine bind (expressions.paramList count _ [] paramsPlaced_nil) fun params placedParams => ?_
  refine andThen passes_expectSymbol fun _ => andThen passes_expectSymbol fun _ => ?_
  refine bind (gives_inFunction (places.suite (count + 1))) fun body placedBody => pure ?_
  rw [Stmt.Placed, FunctionDecl.Placed]
  exact ⟨placedParams.arranged, placedParams.placed, placedBody⟩

theorem places_ifStatement :
    Gives count (ifStatement (fuel + 1)) (Stmt.Placed (inside count)) := by
  have expressions := placesExpressions fuel
  unfold ifStatement
  refine andThen passes_position fun pos => andThen passes_advance fun _ => ?_
  refine bind (expressions.test count) fun condition placedCondition => ?_
  refine andThen passes_expectSymbol fun _ => bind (places.suite count)
    fun thenBlock placedThen => ?_
  refine andThen passes_atKeyword fun elif => ?_
  split
  · refine bind (gives_nested (places.ifStatement count)) fun other placedOther => pure ?_
    rw [Stmt.Placed]
    exact ⟨placedCondition, placedThen, placed_cons placedOther (placed_nil _)⟩
  refine andThen passes_skipKeyword fun else_ => ?_
  split
  · refine andThen passes_expectSymbol fun _ => bind (places.suite count)
      fun elseBlock placedElse => pure ?_
    rw [Stmt.Placed]
    exact ⟨placedCondition, placedThen, placedElse⟩
  · refine pure ?_
    rw [Stmt.Placed]
    exact ⟨placedCondition, placedThen, placed_nil _⟩

theorem places_forStatement :
    Gives count (forStatement (fuel + 1)) (Stmt.Placed (inside count)) := by
  have expressions := placesExpressions fuel
  unfold forStatement
  refine andThen passes_position fun pos => andThen passes_expectKeyword fun _ => ?_
  refine bind (expressions.targetList count) fun target placedTarget => ?_
  refine andThen passes_checkTarget fun _ => andThen passes_expectKeyword fun _ => ?_
  refine bind (expressions.testList count) fun iterable placedIterable => ?_
  refine andThen passes_expectSymbol fun _ => bind (places.suite count)
    fun body placedBody => pure ?_
  rw [Stmt.Placed]
  exact ⟨placedTarget, placedIterable, placedBody⟩

theorem places_suite :
    Gives count (suite (fuel + 1)) (Stmt.PlacedAll (inside count)) := by
  unfold suite
  refine gives_nested (andThen passes_skipNewline fun indented => ?_)
  split
  · exact andThen passes_expectIndent fun _ => places.indentedBlock count
  · refine bind gives_simpleStatement fun s placed => andThen passes_kind fun kind => ?_
    have single := placed_cons placed (placed_nil _)
    split
    · exact pure single
    · exact andThen passes_expectNewline fun _ => pure single

theorem places_indentedBlock :
    Gives count (indentedBlock (fuel + 1)) (Stmt.PlacedAll (inside count)) := by
  unfold indentedBlock
  refine andThen passes_kind fun kind => ?_
  split
  · exact andThen passes_advance fun _ => pure (placed_nil _)
  · exact pure (placed_nil _)
  · exact andThen passes_advance fun _ => places.indentedBlock count
  · exact bind (places.statement count) fun _ placed => bind (places.indentedBlock count)
      fun _ placedRest => pure (placed_cons placed placedRest)

end Statements

theorem placesStatements (fuel : Nat) : PlacesStatements fuel := by
  induction fuel with
  | zero =>
    constructor <;> intros <;> exact gives_exhausted
  | succ fuel ih =>
    exact {
      statement := fun _ => places_statement ih
      definition := fun _ => places_definition ih
      ifStatement := fun _ => places_ifStatement ih
      forStatement := fun _ => places_forStatement ih
      suite := fun _ => places_suite ih
      indentedBlock := fun _ => places_indentedBlock ih }

theorem gives_fileBlock (fuel : Nat) :
    Gives count (fileBlock fuel) (Stmt.PlacedAll (inside count)) := by
  induction fuel with
  | zero => exact gives_exhausted
  | succ fuel ih =>
    unfold fileBlock
    refine andThen passes_kind fun kind => ?_
    split
    · exact pure (placed_nil _)
    · exact andThen passes_advance fun _ => ih
    · exact bind ((placesStatements fuel).statement count) fun _ placed => bind ih
        fun _ placedRest => pure (placed_cons placed placedRest)

theorem file_placed {tokens : List Token} {block : Block} (reads : file tokens = .ok block) :
    Stmt.PlacedAll false block := by
  unfold file at reads
  dsimp only at reads
  cases ran : fileBlock (fuelFor tokens)
      ⟨tokens, (tokens.getLast?.map Token.start).getD .nowhere, 0, 0⟩ with
  | error e =>
    rw [ran] at reads
    cases reads
  | ok outcome =>
    obtain ⟨read, s⟩ := outcome
    rw [ran] at reads
    cases reads
    exact (@gives_fileBlock 0 _ _ _ _ rfl ran).2

end PixelApplet.Parser

namespace PixelApplet

/-- Every script that the parser accepts keeps the rules of placement. -/
theorem parseScript_placed {source : String} {block : Block}
    (parses : parseScript source = .ok block) : Stmt.PlacedAll false block := by
  unfold parseScript at parses
  split at parses
  · cases parses
  · split at parses
    · cases parses
    · rename_i reads
      cases parses
      exact Parser.file_placed reads

/-- In every script that the parser accepts, load statements stand outside of all functions. -/
theorem parseScript_loadsOutside {source : String} {block : Block}
    (parses : parseScript source = .ok block) : Stmt.LoadsOutsideAll true block :=
  Stmt.PlacedAll.loadsOutside (parseScript_placed parses)

end PixelApplet
