import PixelApplet.Proofs.Descriptor.Trees

/-!
# Reading trees back

In front of the words of a tree, a reader goes exactly behind them and gives what the tree declares.
This depends on the words alone and not on their places.  The loops over the parts of a block pass
over the same statements, so passing over is treated once for all of them.
-/

namespace PixelApplet.Descriptor

open Reading

/-- A reader in front of some words ends in front of others, with a value. -/
def Reads {α : Type} (p : Reading α) (before behind : List Token) (value : α) : Prop :=
  ∀ s : Source, s.rest.map Lexeme.token = before →
    ∃ s', p s = .ok (value, s') ∧ s'.rest.map Lexeme.token = behind

section Words

variable {α β : Type} {before between behind tokens : List Token} {token : Token}

theorem reads_pure (value : α) : Reads (pure value) tokens tokens value :=
  fun s written => ⟨s, rfl, written⟩

/-- One reader after the other. -/
theorem Reads.bind {p : Reading α} {next : α → Reading β} {value : α} {result : β}
    (first : Reads p before between value) (rest : Reads (next value) between behind result) :
    Reads (p >>= next) before behind result := by
  intro s written
  obtain ⟨s', ran, left⟩ := first s written
  obtain ⟨s'', ran', left'⟩ := rest s' left
  refine ⟨s'', ?_, left'⟩
  change (p s >>= fun outcome => next outcome.1 outcome.2) = _
  rw [ran]
  exact ran'

theorem reads_next? : Reads next? tokens tokens tokens.head? := by
  intro s written
  refine ⟨s, ?_, written⟩
  rw [← written, List.head?_map]
  rfl

theorem reads_turns : Reads turns tokens tokens (tokens.length + 1) := by
  intro s written
  refine ⟨s, ?_, written⟩
  rw [← written, List.length_map]
  rfl

theorem reads_skip : Reads skip (token :: behind) behind () := by
  intro s written
  refine ⟨{ s with rest := s.rest.tail }, rfl, ?_⟩
  rw [List.map_tail, written, List.tail_cons]

theorem reads_take : Reads take (token :: behind) behind token :=
  reads_next?.bind (reads_skip.bind (reads_pure token))

theorem reads_expect : Reads (expect token) (token :: behind) behind () := by
  refine reads_next?.bind ?_
  change Reads (if token = token then skip else _) _ _ _
  rw [if_pos rfl]
  exact reads_skip

theorem reads_name {word : String} : Reads name (.name word :: behind) behind word :=
  reads_next?.bind (reads_skip.bind (reads_pure word))

end Words

/-! ## What is passed over -/

section Passing

variable {behind body header : List Token}

/-- From inside open marks a reader goes behind the outermost closing one. -/
theorem reads_skipNested {opening closing : Char} (differ : opening ≠ closing) {depth turns : Nat}
    (closes : balanced opening closing depth body = true) (enough : body.length < turns) :
    Reads (skipNested opening closing turns (depth + 1)) (body ++ .mark closing :: behind)
      behind () := by
  have different : Token.mark closing ≠ .mark opening := fun same =>
    differ (Token.mark.inj same).symm
  induction body generalizing depth turns with
  | nil =>
    obtain ⟨turns, rfl⟩ := Nat.exists_eq_add_one.mpr enough
    have outermost : depth = 0 := by simpa [balanced] using closes
    refine reads_take.bind ?_
    rw [if_neg different, if_pos rfl, if_pos (by omega)]
    exact reads_pure ()
  | cons token body ih =>
    obtain ⟨turns, rfl⟩ := Nat.exists_eq_add_one.mpr (Nat.zero_lt_of_lt enough)
    rw [List.length_cons] at enough
    rw [balanced] at closes
    refine reads_take.bind ?_
    by_cases opens : token = .mark opening
    · rw [if_pos opens] at closes ⊢
      exact ih closes (by omega)
    · rw [if_neg opens] at closes ⊢
      by_cases ends : token = .mark closing
      · rw [if_pos ends, Bool.and_eq_true, decide_eq_true_eq] at closes
        obtain ⟨inner, rfl⟩ := Nat.exists_eq_add_one.mpr closes.1
        rw [if_pos ends, if_neg (by omega)]
        exact ih closes.2 (by omega)
      · rw [if_neg ends] at closes ⊢
        exact ih closes (by omega)

/-- A reader goes behind the semicolon of a statement, but not behind one in braces. -/
theorem reads_skipStatement {depth turns : Nat} (closes : balanced '\x7b' '\x7d' depth body = true)
    (inside : enclosed depth body = true) (enough : body.length < turns) :
    Reads (skipStatement turns depth) (body ++ .mark ';' :: behind) behind () := by
  induction body generalizing depth turns with
  | nil =>
    obtain ⟨turns, rfl⟩ := Nat.exists_eq_add_one.mpr enough
    have outermost : depth = 0 := by simpa [balanced] using closes
    refine reads_take.bind ?_
    change Reads (if depth = 0 then _ else _) _ _ _
    rw [if_pos outermost]
    exact reads_pure ()
  | cons token body ih =>
    obtain ⟨turns, rfl⟩ := Nat.exists_eq_add_one.mpr (Nat.zero_lt_of_lt enough)
    rw [List.length_cons] at enough
    rw [balanced] at closes
    rw [enclosed] at inside
    refine reads_take.bind ?_
    by_cases opens : token = .mark '\x7b'
    · rw [if_pos opens] at closes inside
      rw [opens]
      exact ih closes inside (by omega)
    · rw [if_neg opens] at closes inside
      by_cases ends : token = .mark '\x7d'
      · rw [if_pos ends] at closes inside
        rw [ends]
        exact ih (Bool.and_eq_true_iff.mp closes).2 inside (by omega)
      · rw [if_neg ends] at closes inside
        obtain ⟨deeper, goesOn⟩ := Bool.and_eq_true_iff.mp inside
        split
        · exact absurd rfl opens
        · exact absurd rfl ends
        · rw [if_neg (Nat.ne_of_gt (of_decide_eq_true deeper rfl))]
          exact ih closes goesOn (by omega)
        · exact ih closes goesOn (by omega)

theorem reads_statement (closes : balanced '\x7b' '\x7d' 0 body = true)
    (inside : enclosed 0 body = true) :
    Reads statement (body ++ .mark ';' :: behind) behind () := by
  refine reads_turns.bind (reads_skipStatement closes inside ?_)
  rw [List.length_append]
  omega

theorem reads_skipToBrace {turns : Nat} (noBrace : .mark '\x7b' ∉ header)
    (enough : header.length < turns) :
    Reads (skipToBrace turns) (header ++ .mark '\x7b' :: behind) behind () := by
  induction header generalizing turns with
  | nil =>
    obtain ⟨turns, rfl⟩ := Nat.exists_eq_add_one.mpr enough
    exact reads_take.bind (reads_pure ())
  | cons token header ih =>
    obtain ⟨turns, rfl⟩ := Nat.exists_eq_add_one.mpr (Nat.zero_lt_of_lt enough)
    rw [List.mem_cons, not_or] at noBrace
    rw [List.length_cons] at enough
    refine reads_take.bind ?_
    rw [if_neg (Ne.symm noBrace.1)]
    exact ih noBrace.2 (by omega)

theorem reads_braces (noBrace : .mark '\x7b' ∉ header)
    (closes : balanced '\x7b' '\x7d' 0 body = true) :
    Reads braces (header ++ .mark '\x7b' :: body ++ .mark '\x7d' :: behind) behind () := by
  rw [List.append_assoc, List.cons_append]
  refine reads_turns.bind ((reads_skipToBrace noBrace ?_).bind
    (reads_turns.bind (reads_skipNested (by decide) closes ?_)))
  · rw [List.length_append]
    omega
  · rw [List.length_append]
    omega

theorem reads_options {options : Option (List Token)} (fit : OptionsFit options) {token : Token}
    (other : token ≠ .mark '[') :
    Reads Reading.options (bracketed options ++ token :: behind) (token :: behind) () := by
  cases options with
  | none =>
    rw [bracketed, List.nil_append]
    refine reads_next?.bind ?_
    rw [List.head?_cons, if_neg (fun same => other (Option.some.inj same))]
    exact reads_pure ()
  | some body =>
    rw [bracketed, List.cons_append, List.cons_append, List.append_assoc, List.cons_append,
      List.nil_append]
    refine reads_next?.bind ?_
    rw [List.head?_cons, if_pos rfl]
    refine reads_skip.bind (reads_turns.bind (reads_skipNested (by decide) (fit body rfl) ?_))
    rw [List.length_append]
    omega

/-- A loop over the parts of a block passes over semicolons alone, statements of some words, and
extensions or not. -/
structure Passes {α : Type} (words : List String) (extensions : Bool) (loop : Nat → Reading α) :
    Prop where
  empty : ∀ {turns rest behind value}, Reads (loop turns) rest behind value →
    Reads (loop (turns + 1)) (.mark ';' :: rest) behind value
  statement : ∀ {turns word rest behind value}, word ∈ words →
    Reads (statement >>= fun _ => loop turns) rest behind value →
      Reads (loop (turns + 1)) (.name word :: rest) behind value
  extension : ∀ {turns rest behind value}, extensions = true →
    Reads (braces >>= fun _ => loop turns) rest behind value →
      Reads (loop (turns + 1)) (.name "extend" :: rest) behind value

namespace Passes

variable {α : Type} {words : List String} {extensions : Bool}

/-- What a loop passes over does not change what it reads. -/
theorem passed {loop : Nat → Reading α} (passes : Passes words extensions loop) {p : Passed}
    (fits : p.Fits words extensions) {turns : Nat} {rest : List Token} {value : α}
    (others : Reads (loop turns) rest behind value) :
    Reads (loop (turns + 1)) (p.tokens ++ rest) behind value := by
  cases p with
  | empty => exact passes.empty others
  | statement word body =>
    obtain ⟨known, closes, inside⟩ := fits
    rw [Passed.tokens, List.cons_append, List.cons_append, List.append_assoc, List.cons_append,
      List.nil_append]
    exact passes.statement known ((reads_statement closes inside).bind others)
  | extension header body =>
    obtain ⟨allowed, noBrace, closes⟩ := fits
    have regrouped : (Passed.extension header body).tokens ++ rest
        = .name "extend" :: (header ++ .mark '\x7b' :: body ++ .mark '\x7d' :: rest) := by
      simp [Passed.tokens]
    rw [regrouped]
    exact passes.extension allowed ((reads_braces noBrace closes).bind others)

/-- A loop over parts gives what belongs in the block, in order. -/
theorem parts {γ δ : Type} {loop : Nat → Reading (List δ)} (passes : Passes words false loop)
    {write : γ → List Token} {rules : γ → Prop} {value : γ → δ}
    (stops : ∀ turns, Reads (loop (turns + 1)) (.mark '\x7d' :: behind) behind [])
    (given : ∀ {a turns rest values}, rules a → Reads (loop turns) rest behind values →
      Reads (loop (turns + 1)) (write a ++ rest) behind (value a :: values))
    {parts : List (Part γ)} (fit : ∀ part ∈ parts, part.Fits words rules) {turns : Nat}
    (enough : parts.length < turns) :
    Reads (loop turns) (parts.flatMap (Part.tokens write) ++ .mark '\x7d' :: behind) behind
      ((givens parts).map value) := by
  induction parts generalizing turns with
  | nil =>
    obtain ⟨turns, rfl⟩ := Nat.exists_eq_add_one.mpr enough
    exact stops turns
  | cons part parts ih =>
    obtain ⟨turns, rfl⟩ := Nat.exists_eq_add_one.mpr (Nat.zero_lt_of_lt enough)
    rw [List.forall_mem_cons] at fit
    rw [List.length_cons] at enough
    have others := @ih fit.2 turns (by omega)
    rw [List.flatMap_cons, List.append_assoc]
    cases part with
    | passed p => exact passes.passed fit.1 others
    | given a => exact given fit.1 others

end Passes

end Passing

end PixelApplet.Descriptor
