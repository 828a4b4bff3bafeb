import PixelApplet.Proofs.Token.ReadingLines

/-!
# Written outlines are read back

The indentation of a line is compared with the columns that are open.  A block that has ended may
still have its columns open: they are closed by the next line, or by the end of the text.  The
induction over an outline therefore follows the tokens together with the marks that are still owed
for the columns to the right of the present one.
-/

namespace PixelApplet.Reader

/-- With some columns open, a line in a column leaves others open and puts marks of layout in front
of its tokens. -/
inductive Settles : (before : List Nat) → (column : Nat) → (base : List Nat) →
    (marks : List TokenKind) → Prop
  | deeper {before : List Nat} {column : Nat} (right : before.headD 0 < column) :
    Settles before column (column :: before) [.indent]
  | back {owed base : List Nat} {column : Nat} (above : ∀ open_ ∈ owed, column < open_)
    (at_ : base.headD 0 = column) :
    Settles (owed ++ base) column base (List.replicate owed.length .dedent)

variable {r s : Reader} {rest text tail : List Char} {indents before base owed : List Nat}
  {kinds words : List TokenKind} {first : Char} {margin : List Char} {column width : Nat}

/-! ## The margin of a line -/

theorem indentation_margin (isMargin : IsMargin margin) (begins : first ∉ leadsNoToken)
    (column : Nat) :
    indentation column (margin ++ first :: text)
      = (margin.foldl (fun column c => if c = '\t' then (column / 8 + 1) * 8 else column + 1)
          column, margin.length) := by
  have other {c : Char} (member : c ∈ leadsNoToken) : first ≠ c :=
    fun same => begins (same ▸ member)
  induction margin generalizing column with
  | nil =>
    rw [List.nil_append, indentation, if_neg (other (by decide)), if_neg (other (by decide)),
      if_neg]
    · rfl
    · rintro (blank | blank) <;> exact other (by decide) blank
  | cons c margin ih =>
    have following := ih fun d member => isMargin d (List.mem_cons_of_mem c member)
    rw [List.cons_append, indentation]
    obtain rfl | rfl := isMargin c List.mem_cons_self
    · simp only [if_true, following]
      rfl
    · simp only [following]
      rfl

/-- The columns to the right of a line are those that it closes. -/
theorem split_of_owed (above : ∀ open_ ∈ owed, column < open_) (at_ : base.headD 0 = column) :
    (owed ++ base).takeWhile (column < ·) = owed
      ∧ (owed ++ base).dropWhile (column < ·) = base := by
  have above : ∀ open_ ∈ owed, decide (column < open_) = true := by
    intro open_ member
    rw [decide_eq_true_eq]
    exact above open_ member
  rw [List.takeWhile_append_of_pos above, List.dropWhile_append_of_pos above]
  cases base with
  | nil => exact ⟨List.append_nil owed, rfl⟩
  | cons open_ outer =>
    have same : open_ = column := at_
    simp [same]

theorem applyIndentation_settles {marks : List TokenKind}
    (settles : Settles before column base marks) (r : Reader) (open_ : r.indents = before) :
    ∃ tokens, r.applyIndentation column = .ok { r with indents := base, tokens := tokens }
      ∧ (tokens.map Token.kind).reverse = (r.tokens.map Token.kind).reverse ++ marks := by
  rw [applyIndentation_eq, open_]
  cases settles with
  | deeper right =>
    refine ⟨⟨.indent, r.position, r.position⟩ :: r.tokens, if_pos right, ?_⟩
    rw [List.map_cons, List.reverse_cons]
  | @back owed _ _ above at_ =>
    have notRight : ¬(owed ++ base).headD 0 < column := by
      cases owed with
      | nil => exact Nat.not_lt.mpr (Nat.le_of_eq at_.symm)
      | cons innermost owed => exact Nat.lt_asymm (above innermost List.mem_cons_self)
    obtain ⟨closes, leaves⟩ := split_of_owed above at_
    rw [if_neg notRight, closes, leaves, if_pos at_]
    refine ⟨_, rfl, ?_⟩
    rw [List.map_append, List.reverse_append, List.map_replicate, List.reverse_replicate]

/-! ## A line -/

/-- In front of its first token a line puts the marks of its indentation. -/
theorem Stands.begins_line {marks : List TokenKind} (isMargin : IsMargin margin)
    (at_ : marginWidth margin = column) (settles : Settles before column base marks)
    (begins : first ∉ leadsNoToken)
    (stands : r.Stands (margin ++ first :: text) before [] true kinds) :
    r.Leads (first :: text) base [] false (kinds ++ marks) := by
  obtain ⟨atRest, atIndents, atOpened, atStart, atKinds⟩ := stands
  have closed : r.brackets = [] := List.map_eq_nil_iff.mp atOpened
  have count := @indentation_margin text first margin isMargin begins 0
  have consumed : r.margin.rest = first :: text := by
    rw [Reader.margin, atRest, count]
    show r.rest.drop margin.length = _
    rw [atRest, List.drop_left]
  have width : (indentation 0 r.rest).1 = column := by
    rw [atRest, count]
    exact at_
  obtain ⟨tokens, applied, marked⟩ := applyIndentation_settles settles r.margin.inLine atIndents
  rw [← width] at applied
  have noLineEnd : first ≠ '\n' := fun same => begins (same ▸ by decide)
  have noComment : first ≠ '#' := fun same => begins (same ▸ by decide)
  have begun := (LineStart.indented consumed noLineEnd noComment applied).beginLine
  refine ⟨_, (Enters.margin ⟨atStart, closed⟩ begun).readAll, ⟨consumed, rfl, atOpened, rfl, ?_⟩⟩
  rw [marked, ← atKinds]
  rfl

/-- Tokens that leave nothing for a line end to finish. -/
def EndsLine (kinds : List TokenKind) : Prop :=
  kinds = [] ∨ ∃ before, kinds = before ++ [.newline]

theorem Stands.atStatementStart {atLineStart : Bool} {opened : List Char}
    (stands : r.Stands rest indents opened atLineStart kinds) (ends : EndsLine kinds) :
    r.atStatementStart = true := by
  have atKinds := stands.kinds
  cases tokens : r.tokens with
  | nil => rw [Reader.atStatementStart, tokens]
  | cons last others =>
    rw [tokens, List.map_cons, List.reverse_cons] at atKinds
    obtain rfl | ⟨before, rfl⟩ := ends
    · cases (List.append_eq_nil_iff.mp atKinds).2
    · have same := List.append_inj_right' atKinds rfl
      rw [List.cons.injEq] at same
      rw [Reader.atStatementStart, tokens]
      dsimp only
      rw [same.1]

theorem Stands.not_atStatementStart {atLineStart : Bool} {opened : List Char}
    {word : TokenKind} (isWritten : word.IsWritten)
    (stands : r.Stands rest indents opened atLineStart (kinds ++ [word])) :
    r.atStatementStart = false := by
  have atKinds := stands.kinds
  cases tokens : r.tokens with
  | nil =>
    rw [tokens] at atKinds
    cases (List.append_eq_nil_iff.mp atKinds.symm).2
  | cons last others =>
    rw [tokens, List.map_cons, List.reverse_cons] at atKinds
    have same := List.append_inj_right' atKinds rfl
    rw [List.cons.injEq] at same
    rw [Reader.atStatementStart, tokens]
    dsimp only
    rw [same.1]
    cases word with
    | keyword | symbol | identifier | int | string => rfl
    | float | newline | indent | dedent | endOfFile => exact isWritten.elim

/-- The tokens of a line are read up to its end. -/
theorem Stands.reads_line (isLine : IsLine words)
    (stands : r.Stands (writtenLine words ++ '\n' :: tail) indents [] false kinds) :
    r.Leads tail indents [] true (kinds ++ words ++ [.newline]) := by
  rw [← spacedFrom_nil_lead] at stands
  have words_ := reads_balanced isLine.balanced isLine.written (.inl rfl) ⟨tail, .inr rfl⟩ stands
  refine words_.trans fun s stands => ?_
  have unfinished : s.atStatementStart = false := by
    obtain ⟨words', word, split⟩ := List.eq_nil_or_concat words |>.resolve_left isLine.nonempty
    rw [split, List.concat_eq_append, ← List.append_assoc] at stands
    exact stands.not_atStatementStart (isLine.written word (split ▸ by simp))
  obtain ⟨atRest, atIndents, atOpened, atStart, atKinds⟩ := stands
  have atEnd : s.skipInsignificant = s := by
    rw [skipInsignificant, atRest, insignificant.eq_def]
    exact consume_zero s
  have closed : s.brackets = [] := List.map_eq_nil_iff.mp atOpened
  have atLineEnd : s.skipInsignificant.rest = '\n' :: tail := by rw [atEnd, atRest]
  refine ⟨_, (Turn.lineEnd (enters_of_inLine atStart) atLineEnd).readAll, ?_⟩
  rw [atEnd, lineEnd, closed, unfinished]
  refine ⟨?_, atIndents, atOpened, rfl, ?_⟩
  · show s.rest.drop 1 = tail
    rw [atRest]
    rfl
  · show (List.map Token.kind (_ :: s.tokens)).reverse = _
    rw [List.map_cons, List.reverse_cons, atKinds]

/-- The text of a line begins with a token. -/
theorem writtenLine_begins (isLine : IsLine words) (tail : List Char) :
    ∃ first text, writtenLine words ++ '\n' :: tail = first :: text ∧ first ∉ leadsNoToken := by
  rw [← spacedFrom_nil_lead]
  cases words with
  | nil => exact absurd rfl isLine.nonempty
  | cons word words =>
    have ends : EndsToken (spacedFrom [' '] words ++ '\n' :: tail) :=
      endsToken_spacedFrom words ⟨tail, .inr rfl⟩
    obtain ⟨first, text, same, begins, _⟩ :=
      Lexeme.readsToken_written (isLine.written word List.mem_cons_self) ends
    refine ⟨first, text, ?_, begins⟩
    rw [← same, spacedFrom, List.nil_append, List.append_assoc]

/-- A line is read, its margin included. -/
theorem Stands.reads_marginLine {marks : List TokenKind} (isMargin : IsMargin margin)
    (at_ : marginWidth margin = column) (isLine : IsLine words)
    (settles : Settles before column base marks)
    (stands : r.Stands (margin ++ (writtenLine words ++ '\n' :: tail)) before [] true kinds) :
    r.Leads tail base [] true (kinds ++ marks ++ words ++ [.newline]) := by
  obtain ⟨first, text, same, begins⟩ := writtenLine_begins isLine tail
  rw [same] at stands
  refine (stands.begins_line isMargin at_ settles begins).trans fun s stands => ?_
  rw [← same] at stands
  exact stands.reads_line isLine

/-! ## Blocks -/

/-- A reader goes on to the start of a line, where the columns to the right of the present one are
still open; with the marks that close them, the tokens are the given ones. -/
def Settled (r : Reader) (tail : List Char) (column : Nat) (base : List Nat)
    (kinds : List TokenKind) : Prop :=
  ∃ owed kinds', (∀ open_ ∈ owed, column < open_)
    ∧ r.Leads tail (owed ++ base) [] true kinds' ∧ EndsLine kinds'
    ∧ kinds' ++ List.replicate owed.length .dedent = kinds

theorem Settled.ofLeads (same : r.readAll = s.readAll)
    (settled : s.Settled tail column base kinds) :
    r.Settled tail column base kinds := by
  obtain ⟨owed, kinds', above, ⟨t, same', stands⟩, ends, total⟩ := settled
  exact ⟨owed, kinds', above, ⟨t, same.trans same', stands⟩, ends, total⟩

/-- When a block has ended, its own column is one of those that are still open. -/
theorem Settled.leaves_block {inner : Nat} (right : column < inner)
    (settled : r.Settled tail inner (inner :: base) kinds) :
    r.Settled tail column base (kinds ++ [.dedent]) := by
  obtain ⟨owed, kinds', above, leads, ends, total⟩ := settled
  refine ⟨owed ++ [inner], kinds', ?_, ?_, ends, ?_⟩
  · intro open_ member
    obtain member | member := List.mem_append.mp member
    · exact Nat.lt_trans right (above open_ member)
    · exact List.mem_singleton.mp member ▸ right
  · rw [List.append_assoc]
    exact leads
  · rw [List.length_append, List.length_singleton, List.replicate_succ', ← List.append_assoc, total]

/-- The lines of an outline are read, with the lines of the blocks below them. -/
theorem reads_outline (outline : Outline) :
    ∀ {r : Reader} {tail : List Char} {before base : List Nat} {kinds marks : List TokenKind}
      {column : Nat}, outline ≠ .nil → outline.StandsAt column → base.headD 0 = column →
      Settles before column base marks →
      r.Stands (outline.text ++ tail) before [] true kinds →
      r.Settled tail column base (kinds ++ marks ++ outline.kinds) := by
  induction outline with
  | nil =>
    intro r tail before base kinds marks column nonempty
    exact absurd rfl nonempty
  | line margin words block rest ihBlock ihRest =>
    intro r tail before base kinds marks column _ standsAt at_ settles stands
    obtain ⟨isMargin, width, isLine, ⟨inner, right, blockAt⟩, restAt⟩ := standsAt
    -- what follows the block, once the block is read
    have finish {s : Reader} {kinds : List TokenKind}
        (settled : s.Settled (rest.text ++ tail) column base kinds) :
        s.Settled tail column base (kinds ++ rest.kinds) := by
      cases rest with
      | nil =>
        rw [Outline.kinds, List.append_nil]
        exact settled
      | line =>
        obtain ⟨owed, kinds', above, ⟨t, same, stands⟩, _, total⟩ := settled
        have read := ihRest (Outline.noConfusion) restAt at_ (.back above at_) stands
        rw [total] at read
        exact read.ofLeads same
    rw [Outline.text, List.append_assoc, List.append_assoc, List.cons_append,
      List.append_assoc] at stands
    obtain ⟨s, same, stands⟩ := stands.reads_marginLine isMargin width isLine settles
    refine Settled.ofLeads same ?_
    cases block with
    | nil =>
      have settled : s.Settled (rest.text ++ tail) column base
          (kinds ++ marks ++ words ++ [.newline]) :=
        ⟨[], _, List.forall_mem_nil _, ⟨s, rfl, stands⟩, .inr ⟨_, rfl⟩, List.append_nil _⟩
      have read := finish settled
      simp only [List.append_assoc, List.singleton_append] at read ⊢
      exact read
    | line innerMargin innerWords innerBlock innerRest =>
      have read := ihBlock Outline.noConfusion blockAt rfl (.deeper (at_ ▸ right)) stands
      have all := finish (read.leaves_block right)
      have kinds_ : Outline.indentedKinds (Outline.line innerMargin innerWords innerBlock
          innerRest).kinds = .indent :: ((Outline.line innerMargin innerWords innerBlock
          innerRest).kinds ++ [.dedent]) := by
        rw [Outline.kinds]
        cases innerWords <;> rfl
      rw [Outline.kinds, kinds_]
      simp only [List.append_assoc, List.cons_append] at all ⊢
      exact all

/-! ## The end of the text -/

/-- At the end of the text nothing is left to read. -/
theorem Stands.reads_end (stands : r.Stands [] indents [] true kinds) :
    ∃ s, r.readAll = .ok s ∧ s.Stands [] indents [] false kinds := by
  obtain ⟨atRest, atIndents, atOpened, atStart, atKinds⟩ := stands
  have closed : r.brackets = [] := List.map_eq_nil_iff.mp atOpened
  have none_ : r.margin.rest = [] := by
    rw [Reader.margin, consume, atRest, List.drop_nil]
  have atEnd : r.margin.inLine.skipInsignificant.rest = [] := by
    show r.margin.rest.drop _ = []
    rw [none_, List.drop_nil]
  have begun := (LineStart.ended none_).beginLine
  exact ⟨_, (Stops.ended (.margin ⟨atStart, closed⟩ begun) atEnd).readAll,
    ⟨atEnd, atIndents, atOpened, rfl, atKinds⟩⟩

/-- At the end the columns that are still open are closed, and the end of the file follows. -/
theorem Settled.finishes (settled : r.Settled [] 0 [] kinds) :
    (r.readAll.bind finish).map (List.map Token.kind) = .ok (kinds ++ [.endOfFile]) := by
  obtain ⟨owed, kinds', _, ⟨s, same, stands⟩, ends, total⟩ := settled
  obtain ⟨t, read, stands⟩ := stands.reads_end
  have started := stands.atStatementStart ends
  obtain ⟨_, atIndents, atOpened, _, atKinds⟩ := stands
  have closed : t.brackets = [] := List.map_eq_nil_iff.mp atOpened
  rw [same, read]
  have ended : t.ended = t := if_pos started
  show (finish t).map _ = _
  rw [finish_of_closed closed, ended]
  simp only [Except.map, List.map_reverse, List.map_cons, List.map_nil, List.map_append,
    List.map_replicate, List.reverse_cons, List.reverse_append, List.reverse_replicate]
  rw [atKinds, ← total, atIndents, List.append_nil]

/-- The reading of a whole text that is a written outline. -/
theorem settled_start (outline : Outline) (standsAt : outline.StandsAt 0) :
    (start outline.text).Settled [] 0 [] outline.kinds := by
  have stands : (start outline.text).Stands (outline.text ++ []) [] [] true [] :=
    ⟨(List.append_nil _).symm, rfl, rfl, rfl, rfl⟩
  cases outline with
  | nil => exact ⟨[], [], List.forall_mem_nil _, ⟨_, rfl, stands⟩, .inl rfl, rfl⟩
  | line =>
    have nothingOwed : Settles ([] ++ []) 0 [] [] := .back (List.forall_mem_nil _) rfl
    exact reads_outline _ Outline.noConfusion standsAt rfl nothingOwed stands

end PixelApplet.Reader

namespace PixelApplet

/-- The tokens of a written outline are its tokens, with one line end for each line, one mark on
entering and one on leaving each block, and the end of the file. -/
theorem tokenize_text (outline : Outline) (standsAt : outline.StandsAt 0) :
    (tokenize (String.ofList outline.text)).map (List.map Token.kind)
      = .ok (outline.kinds ++ [.endOfFile]) := by
  rw [tokenize, String.toList_ofList]
  exact (Reader.settled_start outline standsAt).finishes

/-- A function whose innermost block ends together with the block around it, and a line with
brackets over brackets; one margin is a tab. -/
def sampleOutline : Outline :=
  .line [] [.keyword .def_, .identifier "f", .symbol .leftParen, .identifier "r",
      .symbol .rightParen, .symbol .colon]
    (.line [' ', ' '] [.keyword .if_, .identifier "r", .symbol .colon]
      (.line ['\t'] [.keyword .return_, .string "a\"\n\\"] .nil .nil) .nil)
    (.line [] [.identifier "r", .symbol .assign, .symbol .leftBrace, .int 0, .symbol .colon,
      .symbol .leftBracket, .int 9223372036854775807, .symbol .rightBracket, .symbol .rightBrace]
      .nil .nil)

theorem sampleOutline_standsAt : sampleOutline.StandsAt 0 := by
  have nameF : IsName "f" := ⟨⟨'f', [], rfl, rfl, List.forall_mem_nil _⟩, by
    intro word; cases word <;> decide⟩
  have nameR : IsName "r" := ⟨⟨'r', [], rfl, rfl, List.forall_mem_nil _⟩, by
    intro word; cases word <;> decide⟩
  have word (kind : TokenKind) (plain : ¬kind.IsBracket) : Balanced [kind] := .cons plain .nil
  have definition : IsLine [.keyword .def_, .identifier "f", .symbol .leftParen, .identifier "r",
      .symbol .rightParen, .symbol .colon] := by
    refine ⟨by decide, by simp [TokenKind.IsWritten, nameF, nameR], ?_⟩
    exact .cons (by decide) (.cons (by decide)
      (@Balanced.enclosed _ _ [_] _ (by decide) (word _ (by decide)) (word _ (by decide))))
  have condition : IsLine [.keyword .if_, .identifier "r", .symbol .colon] := by
    refine ⟨by decide, by simp [TokenKind.IsWritten, nameR], ?_⟩
    exact .cons (by decide) (.cons (by decide) (word _ (by decide)))
  have answer : IsLine [.keyword .return_, .string "a\"\n\\"] :=
    ⟨by decide, by simp [TokenKind.IsWritten], .cons (by decide) (word _ (by decide))⟩
  have assignment : IsLine [.identifier "r", .symbol .assign, .symbol .leftBrace, .int 0,
      .symbol .colon, .symbol .leftBracket, .int 9223372036854775807, .symbol .rightBracket,
      .symbol .rightBrace] := by
    refine ⟨by decide, by simp [TokenKind.IsWritten, nameR], ?_⟩
    refine .cons (by decide) (.cons (by decide)
      (@Balanced.enclosed _ _ [_, _, _, _, _] _ (by decide) ?_ .nil))
    exact .cons (by decide) (.cons (by decide)
      (@Balanced.enclosed _ _ [_] _ (by decide) (word _ (by decide)) .nil))
  have margins : IsMargin [] ∧ IsMargin [' ', ' '] ∧ IsMargin ['\t'] := by
    simp [IsMargin]
  obtain ⟨none_, two, tab⟩ := margins
  have innermost : (Outline.line ['\t'] [.keyword .return_, .string "a\"\n\\"] .nil
      .nil).StandsAt 8 :=
    ⟨tab, rfl, answer, ⟨9, by decide, trivial⟩, trivial⟩
  exact ⟨none_, rfl, definition,
    ⟨2, by decide, two, rfl, condition, ⟨8, by decide, innermost⟩, trivial⟩,
    none_, rfl, assignment, ⟨1, by decide, trivial⟩, trivial⟩

/-- The sample is read back; both blocks end in front of its last line. -/
theorem tokenize_sampleOutline : sampleOutline.StandsAt 0
    ∧ (tokenize (String.ofList sampleOutline.text)).map (List.map Token.kind)
      = .ok ([.keyword .def_, .identifier "f", .symbol .leftParen, .identifier "r",
        .symbol .rightParen, .symbol .colon, .newline, .indent, .keyword .if_, .identifier "r",
        .symbol .colon, .newline, .indent, .keyword .return_, .string "a\"\n\\", .newline,
        .dedent, .dedent, .identifier "r", .symbol .assign, .symbol .leftBrace, .int 0,
        .symbol .colon, .symbol .leftBracket, .int 9223372036854775807, .symbol .rightBracket,
        .symbol .rightBrace, .newline, .endOfFile]) :=
  ⟨sampleOutline_standsAt, tokenize_text sampleOutline sampleOutline_standsAt⟩

end PixelApplet
