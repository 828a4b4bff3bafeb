import PixelApplet.Proofs.Script.DisplayRoundTrip

/-!
# Reading back calls, subscripts, operators and lambdas

Arguments and parameters are checked against those read before them.  The checks look at names and
kinds only, so they come out for the arguments that were read as they do for those that were
written.
-/

namespace PixelApplet.Parser

/-- The expression in an argument can be read. -/
def Argument.Readable : Argument → Prop
  | .positional e | .named _ e | .spread e | .spreadNamed e => Parser.Readable e

/-- The default of a parameter can be read. -/
def Param.Readable : Param → Prop
  | .mk _ _ (.optional e) => Parser.Readable e
  | .mk _ _ .required | .mk _ _ .rest | .mk _ _ .restNamed => True

section Arguments

variable {next : TokenKind} {rest : List TokenKind} {f d fuel : Nat}

theorem reads_argument {done : List Argument} (argument : Argument)
    (readable : Argument.Readable argument)
    (ordered : argument.isPositional = true → done.any Argument.isNamed = false)
    (ends : EndsItem next) (enough : 16 * argument.rendering.length ≤ fuel)
    (room : d + 1 + 3 * argument.height ≤ maxNesting + 2) :
    Reads (Parser.argument fuel done) ⟨argument.rendering ++ next :: rest, f, d⟩
      ⟨next :: rest, f, d⟩ fun read => read.unplaced = argument.unplaced := by
  cases argument with
  | positional e =>
    simp only [Argument.rendering, length_parenthesized] at enough
    simp only [Argument.height] at room
    obtain ⟨fuel, rfl⟩ : ∃ n, fuel = n + 1 := ⟨fuel - 1, by omega⟩
    unfold Parser.argument
    refine Reads.step (reads_skipSymbol_other rfl) (Reads.step (reads_skipSymbol_other rfl) ?_)
    refine Reads.step reads_kind (Reads.step reads_kindAfter ?_)
    refine Reads.passing (ordered rfl) ?_
    refine Reads.bind (Readable.test readable (by omega) (by omega) ends.operators ends.notIf)
      fun read like => Reads.pure ?_
    simp only [Argument.unplaced, show read.unplaced = e.unplaced from like]
  | named name e =>
    simp only [Argument.rendering, List.length_cons, length_parenthesized] at enough
    simp only [Argument.height] at room
    obtain ⟨fuel, rfl⟩ : ∃ n, fuel = n + 1 := ⟨fuel - 1, by omega⟩
    unfold Parser.argument
    refine Reads.step (reads_skipSymbol_other rfl) (Reads.step (reads_skipSymbol_other rfl) ?_)
    refine Reads.step reads_kind (Reads.step reads_kindAfter ?_)
    refine Reads.bind reads_advance fun _ _ => Reads.bind reads_advance fun _ _ => ?_
    refine Reads.bind (Readable.test readable (by omega) (by omega) ends.operators ends.notIf)
      fun read like => Reads.pure ?_
    simp only [Argument.unplaced, show read.unplaced = e.unplaced from like]
  | spread e =>
    simp only [Argument.rendering, List.length_cons, length_parenthesized] at enough
    simp only [Argument.height] at room
    obtain ⟨fuel, rfl⟩ : ∃ n, fuel = n + 1 := ⟨fuel - 1, by omega⟩
    unfold Parser.argument
    refine Reads.step (reads_skipSymbol_other rfl) (Reads.step (reads_skipSymbol .star) ?_)
    refine Reads.bind (Readable.test readable (by omega) (by omega) ends.operators ends.notIf)
      fun read like => Reads.pure ?_
    simp only [Argument.unplaced, show read.unplaced = e.unplaced from like]
  | spreadNamed e =>
    simp only [Argument.rendering, List.length_cons, length_parenthesized] at enough
    simp only [Argument.height] at room
    obtain ⟨fuel, rfl⟩ : ∃ n, fuel = n + 1 := ⟨fuel - 1, by omega⟩
    unfold Parser.argument
    refine Reads.step (reads_skipSymbol .starStar) ?_
    refine Reads.bind (Readable.test readable (by omega) (by omega) ends.operators ends.notIf)
      fun read like => Reads.pure ?_
    simp only [Argument.unplaced, show read.unplaced = e.unplaced from like]

theorem unplacedAll_eq_map (arguments : List Argument) :
    Argument.unplacedAll arguments = arguments.map Argument.unplaced := by
  induction arguments with
  | nil => rfl
  | cons argument arguments ih => rw [Argument.unplacedAll, ih, List.map_cons]

theorem isNamed_unplaced (argument : Argument) : argument.unplaced.isNamed = argument.isNamed := by
  cases argument <;> rfl

/-- Whether an argument was given by name can be told without positions. -/
theorem any_isNamed_of_like {read written : List Argument}
    (like : Argument.unplacedAll read = Argument.unplacedAll written) :
    read.any Argument.isNamed = written.any Argument.isNamed := by
  have blind : ∀ arguments : List Argument,
      (Argument.unplacedAll arguments).any Argument.isNamed = arguments.any Argument.isNamed := by
    intro arguments
    rw [unplacedAll_eq_map, List.any_map]
    exact congrArg arguments.any (funext isNamed_unplaced)
  rw [← blind read, like, blind]

theorem any_isNamed_of_arranged {before after : List Argument} {argument : Argument}
    (arranged : Argument.Arranged (before ++ argument :: after))
    (positional : argument.isPositional = true) : before.any Argument.isNamed = false := by
  rw [List.any_eq_false]
  intro earlier member named
  have late := (List.pairwise_append.mp arranged).2.2 earlier member argument (.head _) named
  rw [positional] at late
  exact Bool.noConfusion late

/-- No argument begins with a closing parenthesis. -/
theorem rendering_argument_begins (argument : Argument) :
    ∃ k ks, argument.rendering = k :: ks ∧ k.isSymbol .rightParen = false := by
  cases argument <;> exact ⟨_, _, rfl, rfl⟩

theorem reads_argumentList (arguments : List Argument) (before : List Argument)
    {done : List Argument} (like : Argument.unplacedAll done = Argument.unplacedAll before)
    (arranged : Argument.Arranged (before ++ arguments))
    (readable : ∀ argument ∈ arguments, Argument.Readable argument)
    (enough : 16 * (commaSeparated (Argument.renderings arguments)).length + 2 ≤ fuel)
    (room : d + 1 + 3 * Argument.heightAll arguments ≤ maxNesting + 2) :
    Reads (argumentList fuel done)
      ⟨commaSeparated (Argument.renderings arguments) ++ .symbol .rightParen :: rest, f, d⟩
      ⟨.symbol .rightParen :: rest, f, d⟩
      fun read => Argument.unplacedAll read = Argument.unplacedAll (before ++ arguments) := by
  induction arguments generalizing fuel before done with
  | nil =>
    obtain ⟨fuel, rfl⟩ : ∃ n, fuel = n + 1 := ⟨fuel - 1, by omega⟩
    unfold argumentList
    rw [List.append_nil]
    exact Reads.step (reads_atSymbol .rightParen) (Reads.pure like)
  | cons argument arguments ih =>
    simp only [Argument.renderings, commaSeparated, List.length_append] at enough
    simp only [Argument.heightAll] at room
    obtain ⟨k, ks, begins, notClose⟩ := rendering_argument_begins argument
    have nonempty : 0 < argument.rendering.length := by
      rw [begins]
      exact Nat.succ_pos _
    obtain ⟨fuel, rfl⟩ : ∃ n, fuel = n + 1 := ⟨fuel - 1, by omega⟩
    have extended : ∀ read, read.unplaced = argument.unplaced →
        Argument.unplacedAll (done ++ [read]) = Argument.unplacedAll (before ++ [argument]) := by
      intro read likeRead
      rw [unplacedAll_eq_map, unplacedAll_eq_map] at like ⊢
      simp only [List.map_append, List.map_cons, List.map_nil, like, likeRead]
    have positional : argument.isPositional = true → done.any Argument.isNamed = false :=
      fun positional => any_isNamed_of_like like ▸ any_isNamed_of_arranged arranged positional
    have readsFirst := fun next rest (ends : EndsItem next) =>
      @reads_argument next rest f d fuel done argument
        (readable argument (.head _)) positional ends (by omega) (by omega)
    simp only [Argument.renderings, commaSeparated, List.append_assoc]
    rw [begins] at readsFirst ⊢
    unfold argumentList
    refine Reads.step (reads_atSymbol .rightParen) (Reads.passing notClose ?_)
    cases arguments with
    | nil =>
      refine Reads.bind (readsFirst _ _ endsItem_rightParen) fun read likeRead => ?_
      exact Reads.step (reads_skipSymbol_other rfl) (Reads.pure (extended read likeRead))
    | cons following arguments =>
      refine Reads.bind (readsFirst _ _ endsItem_comma) fun read likeRead => ?_
      refine Reads.step (reads_skipSymbol .comma) ?_
      have remaining := @ih fuel (before ++ [argument]) _ (extended read likeRead)
        (by rwa [List.append_assoc]) (fun e member => readable e (.tail _ member))
        (by simp only [Argument.renderings, commaLed, commaSeparated, List.length_cons] at enough ⊢
            omega) (by omega)
      rw [List.append_assoc] at remaining
      exact remaining

end Arguments

section Parameters

variable {next : TokenKind} {rest : List TokenKind} {f d fuel : Nat}

theorem reads_param {done : List Param} (param : Param) (readable : Param.Readable param)
    (ordered : param.isRequired = true → done.any Param.isOptional = false)
    (ends : EndsItem next) (notAssign : next.isSymbol .assign = false)
    (enough : 16 * param.rendering.length ≤ fuel)
    (room : d + 1 + 3 * param.height ≤ maxNesting + 2) :
    Reads (Parser.param fuel done) ⟨param.rendering ++ next :: rest, f, d⟩
      ⟨next :: rest, f, d⟩ fun read => read.unplaced = param.unplaced := by
  obtain ⟨name, pos, kind⟩ := param
  cases kind with
  | required =>
    simp only [Param.rendering, List.length_singleton] at enough
    obtain ⟨fuel, rfl⟩ : ∃ n, fuel = n + 1 := ⟨fuel - 1, by omega⟩
    unfold Parser.param
    refine Reads.bind (reads_position _) fun pos _ => ?_
    refine Reads.step (reads_skipSymbol_other rfl) (Reads.step (reads_skipSymbol_other rfl) ?_)
    refine Reads.step (reads_expectIdentifier name) ?_
    exact Reads.step (reads_skipSymbol_other notAssign)
      (Reads.passing rfl (Reads.passing (ordered rfl) (Reads.pure rfl)))
  | optional e =>
    simp only [Param.rendering, List.length_cons, length_parenthesized] at enough
    simp only [Param.height] at room
    obtain ⟨fuel, rfl⟩ : ∃ n, fuel = n + 1 := ⟨fuel - 1, by omega⟩
    unfold Parser.param
    refine Reads.bind (reads_position _) fun pos _ => ?_
    refine Reads.step (reads_skipSymbol_other rfl) (Reads.step (reads_skipSymbol_other rfl) ?_)
    refine Reads.step (reads_expectIdentifier name) (Reads.step (reads_skipSymbol .assign) ?_)
    refine Reads.bind (Readable.test readable (by omega) (by omega) ends.operators ends.notIf)
      fun read like => Reads.pure ?_
    simp only [Param.unplaced, show read.unplaced = e.unplaced from like]
  | rest =>
    simp only [Param.rendering, List.length_cons, List.length_nil] at enough
    obtain ⟨fuel, rfl⟩ : ∃ n, fuel = n + 1 := ⟨fuel - 1, by omega⟩
    unfold Parser.param
    refine Reads.bind (reads_position _) fun pos _ => ?_
    refine Reads.step (reads_skipSymbol_other rfl) (Reads.step (reads_skipSymbol .star) ?_)
    exact Reads.step (reads_expectIdentifier name) (Reads.pure rfl)
  | restNamed =>
    simp only [Param.rendering, List.length_cons, List.length_nil] at enough
    obtain ⟨fuel, rfl⟩ : ∃ n, fuel = n + 1 := ⟨fuel - 1, by omega⟩
    unfold Parser.param
    refine Reads.bind (reads_position _) fun pos _ => Reads.step (reads_skipSymbol .starStar) ?_
    exact Reads.step (reads_expectIdentifier name) (Reads.pure rfl)

theorem unplacedAll_params_eq_map (params : List Param) :
    Param.unplacedAll params = params.map Param.unplaced := by
  induction params with
  | nil => rfl
  | cons param params ih => rw [Param.unplacedAll, ih, List.map_cons]

theorem name_unplaced (param : Param) : param.unplaced.name = param.name := by
  obtain ⟨name, pos, kind⟩ := param
  cases kind <;> rfl

theorem isOptional_unplaced (param : Param) : param.unplaced.isOptional = param.isOptional := by
  obtain ⟨name, pos, kind⟩ := param
  cases kind <;> rfl

/-- A check that does not look at positions comes out the same for like parameters. -/
theorem any_of_like {read written : List Param} {check : Param → Bool}
    (blind : ∀ param : Param, check param.unplaced = check param)
    (like : Param.unplacedAll read = Param.unplacedAll written) :
    read.any check = written.any check := by
  have same : ∀ params : List Param, (Param.unplacedAll params).any check = params.any check := by
    intro params
    rw [unplacedAll_params_eq_map, List.any_map]
    exact congrArg params.any (funext blind)
  rw [← same read, like, same]

theorem any_isOptional_of_arranged {before after : List Param} {param : Param}
    (arranged : Param.Arranged (before ++ param :: after)) (required : param.isRequired = true) :
    before.any Param.isOptional = false := by
  rw [List.any_eq_false]
  intro earlier member optional
  have late := (List.pairwise_append.mp arranged.defaultsLast).2.2 earlier member param (.head _)
    optional
  rw [required] at late
  exact Bool.noConfusion late

theorem any_name_of_arranged {before after : List Param} {param : Param}
    (arranged : Param.Arranged (before ++ param :: after)) :
    before.any (fun earlier => decide (earlier.name = param.name)) = false := by
  rw [List.any_eq_false]
  intro earlier member same
  have apart := arranged.distinct
  rw [List.map_append, List.nodup_append] at apart
  exact apart.2.2 earlier.name (List.mem_map_of_mem member) param.name (.head _)
    (of_decide_eq_true same)

/-- A parameter begins with its name or with stars. -/
theorem rendering_param_begins (param : Param) :
    ∃ k ks, param.rendering = k :: ks ∧ k.isSymbol .rightParen = false
      ∧ k.isSymbol .colon = false := by
  obtain ⟨name, pos, kind⟩ := param
  cases kind <;> exact ⟨_, _, rfl, rfl, rfl⟩

theorem reads_paramList (params : List Param) (before : List Param) {done : List Param}
    {close : Symbol} (closes : close = .rightParen ∨ close = .colon)
    (like : Param.unplacedAll done = Param.unplacedAll before)
    (arranged : Param.Arranged (before ++ params))
    (readable : ∀ param ∈ params, Param.Readable param)
    (enough : 16 * (commaSeparated (Param.renderings params)).length + 2 ≤ fuel)
    (room : d + 1 + 3 * Param.heightAll params ≤ maxNesting + 2) :
    Reads (paramList fuel close done)
      ⟨commaSeparated (Param.renderings params) ++ .symbol close :: rest, f, d⟩
      ⟨.symbol close :: rest, f, d⟩
      fun read => Param.unplacedAll read = Param.unplacedAll (before ++ params) := by
  induction params generalizing fuel before done with
  | nil =>
    obtain ⟨fuel, rfl⟩ : ∃ n, fuel = n + 1 := ⟨fuel - 1, by omega⟩
    unfold paramList
    rw [List.append_nil]
    refine Reads.step (reads_atSymbol close) ?_
    simp only [TokenKind.isSymbol, decide_true, if_true]
    exact Reads.pure like
  | cons param params ih =>
    simp only [Param.renderings, commaSeparated, List.length_append] at enough
    simp only [Param.heightAll] at room
    obtain ⟨k, ks, begins, notParen, notColon⟩ := rendering_param_begins param
    have notClose : k.isSymbol close = false := by
      rcases closes with rfl | rfl
      · exact notParen
      · exact notColon
    have endsClose : EndsItem (.symbol close) ∧ (TokenKind.symbol close).isSymbol .assign = false
        ∧ (TokenKind.symbol close).isSymbol .comma = false := by
      rcases closes with rfl | rfl
      · exact ⟨endsItem_rightParen, rfl, rfl⟩
      · exact ⟨⟨endsOperators_colon, rfl, rfl⟩, rfl, rfl⟩
    have nonempty : 0 < param.rendering.length := by
      rw [begins]
      exact Nat.succ_pos _
    obtain ⟨fuel, rfl⟩ : ∃ n, fuel = n + 1 := ⟨fuel - 1, by omega⟩
    have extended : ∀ read : Param, read.unplaced = param.unplaced →
        Param.unplacedAll (done ++ [read]) = Param.unplacedAll (before ++ [param]) := by
      intro read likeRead
      rw [unplacedAll_params_eq_map, unplacedAll_params_eq_map] at like ⊢
      simp only [List.map_append, List.map_cons, List.map_nil, like, likeRead]
    have ordered : param.isRequired = true → done.any Param.isOptional = false :=
      fun required => any_of_like isOptional_unplaced like ▸
        any_isOptional_of_arranged arranged required
    have fresh : ∀ read : Param, read.unplaced = param.unplaced →
        done.any (fun earlier => decide (earlier.name = read.name)) = false := by
      intro read likeRead
      rw [← name_unplaced read, likeRead, name_unplaced param,
        any_of_like (fun param => by rw [name_unplaced]) like]
      exact any_name_of_arranged arranged
    have readsFirst := fun next rest (ends : EndsItem next) notAssign =>
      @reads_param next rest f d fuel done param
        (readable param (.head _)) ordered ends notAssign (by omega) (by omega)
    simp only [Param.renderings, commaSeparated, List.append_assoc]
    rw [begins] at readsFirst ⊢
    unfold paramList
    refine Reads.step (reads_atSymbol close) (Reads.passing notClose ?_)
    cases params with
    | nil =>
      refine Reads.bind (readsFirst _ _ endsClose.1 endsClose.2.1) fun read likeRead => ?_
      refine Reads.passing (fresh read likeRead) ?_
      exact Reads.step (reads_skipSymbol_other endsClose.2.2) (Reads.pure (extended read likeRead))
    | cons following params =>
      refine Reads.bind (readsFirst _ _ endsItem_comma rfl) fun read likeRead => ?_
      refine Reads.passing (fresh read likeRead) (Reads.step (reads_skipSymbol .comma) ?_)
      have remaining := @ih fuel (before ++ [param]) _ (extended read likeRead)
        (by rwa [List.append_assoc]) (fun e member => readable e (.tail _ member))
        (by simp only [Param.renderings, commaLed, commaSeparated, List.length_cons] at enough ⊢
            omega) (by omega)
      rw [List.append_assoc] at remaining
      exact remaining

end Parameters

end PixelApplet.Parser
