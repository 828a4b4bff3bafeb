import PixelApplet.Proofs.Token.Turns
import PixelApplet.Proofs.Token.WrittenTokens

/-!
# Reading a written line

Where the reader of a script stands is described without the positions of its tokens.  A written
line is read token by token: between brackets the reader comes back to the brackets that were open
before them, so a line leaves none open.
-/

namespace PixelApplet.Reader

/-- Where a reader stands, positions left out. -/
structure Stands (r : Reader) (rest : List Char) (indents : List Nat) (opened : List Char)
    (atLineStart : Bool) (kinds : List TokenKind) : Prop where
  rest : r.rest = rest
  indents : r.indents = indents
  opened : r.brackets.map Prod.fst = opened
  atLineStart : r.atLineStart = atLineStart
  kinds : (r.tokens.map Token.kind).reverse = kinds

variable {r s : Reader} {rest text : List Char} {indents : List Nat} {opened opened' : List Char}
  {kinds : List TokenKind} {first : Char}

/-! ## Steps of the reader -/

theorem consume_zero (r : Reader) : r.consume 0 = r := by
  rw [consume, List.take_zero, List.drop_zero]
  rfl

theorem insignificant_eq_zero (rest : List Char) (begins : first ∉ leadsNoToken) :
    insignificant false (first :: rest) = 0 := by
  have other {c : Char} (member : c ∈ leadsNoToken) : first ≠ c :=
    fun same => begins (same ▸ member)
  rw [insignificant.eq_def]
  dsimp only
  rw [if_neg Bool.false_ne_true, if_neg, if_neg (other (by decide)), if_neg (other (by decide))]
  rintro (blank | blank | blank | blank) <;> exact other (by decide) blank

/-- A token that the reader stands at needs no skipping. -/
theorem skipInsignificant_of_token (at_ : r.rest = first :: rest)
    (begins : first ∉ leadsNoToken) : r.skipInsignificant = r := by
  rw [skipInsignificant, at_, insignificant_eq_zero rest begins, consume_zero]

/-! ## One token -/

/-- What stands between a reader and its next token: nothing, or one blank. -/
def IsLead (lead : List Char) : Prop :=
  lead = [] ∨ lead = [' ']

theorem Stands.skip {lead : List Char} {atLineStart : Bool}
    (stands : r.Stands (lead ++ first :: text) indents opened atLineStart kinds)
    (isLead : IsLead lead) (begins : first ∉ leadsNoToken) :
    r.skipInsignificant.Stands (first :: text) indents opened atLineStart kinds := by
  obtain ⟨atRest, atIndents, atOpened, atStart, atKinds⟩ := stands
  refine ⟨?_, atIndents, atOpened, atStart, atKinds⟩
  have none_ := insignificant_eq_zero text begins
  obtain rfl | rfl := isLead
  · rw [List.nil_append] at atRest
    rw [skipInsignificant_of_token atRest begins, atRest]
  · have one : insignificant false r.rest = 1 := by
      rw [atRest, List.singleton_append, insignificant.eq_def]
      dsimp only
      rw [if_neg Bool.false_ne_true, if_pos (.inl rfl), none_]
    rw [skipInsignificant, one, consume, atRest]
    rfl

/-- With the given brackets open, a token leaves others open. -/
def Tracks (opened : List Char) (word : TokenKind) (opened' : List Char) : Prop :=
  ∀ (r : Reader) (first : Char), word.written.head? = some first →
    r.brackets.map Prod.fst = opened → ∃ brackets,
      r.trackBracket first word = .ok { r with brackets := brackets }
        ∧ brackets.map Prod.fst = opened'

/-- A reader goes on to where it stands as described. -/
def Leads (r : Reader) (rest : List Char) (indents : List Nat) (opened : List Char)
    (atLineStart : Bool) (kinds : List TokenKind) : Prop :=
  ∃ s : Reader, r.readAll = s.readAll ∧ s.Stands rest indents opened atLineStart kinds

variable {lead after : List Char} {word : TokenKind}

theorem written_of_readsToken {width : Nat} (ends : EndsToken after)
    (same : word.written ++ after = first :: text) (begins : first ∉ leadsNoToken)
    (isWidth : width = word.written.length) :
    word.written.head? = some first ∧ width - 1 + 1 = width
      ∧ (first :: text).drop width = after := by
  have dropped : (first :: text).drop width = after := by
    rw [← same, isWidth, List.drop_left]
  cases written : word.written with
  | nil =>
    rw [written, List.nil_append] at same
    obtain ⟨rest, rfl | rfl⟩ := ends <;> cases same <;> exact absurd (by decide) begins
  | cons c others =>
    rw [written] at same isWidth
    cases same
    rw [List.length_cons] at isWidth
    exact ⟨rfl, by omega, dropped⟩

/-- The next token is read. -/
theorem Stands.reads_word
    (stands : r.Stands (lead ++ (word.written ++ after)) indents opened false kinds)
    (isLead : IsLead lead) (isWritten : word.IsWritten) (ends : EndsToken after)
    (tracks : Tracks opened word opened') :
    r.Leads after indents opened' false (kinds ++ [word]) := by
  obtain ⟨first, text, same, begins, read⟩ := Lexeme.readsToken_written isWritten ends
  obtain ⟨head, width, dropped⟩ := written_of_readsToken ends same begins rfl
  rw [same] at stands
  have skipped := stands.skip isLead begins
  obtain ⟨atRest, atIndents, atOpened, atStart, atKinds⟩ := skipped
  obtain ⟨brackets, tracked, opened''⟩ := tracks r.skipInsignificant first head atOpened
  have noLineEnd : first ≠ '\n' := fun lineEnd => begins (lineEnd ▸ by decide)
  have token : ∃ s, r.skipInsignificant.token first text = .ok s
      ∧ s.Stands after indents opened' false (kinds ++ [word]) := by
    unfold token
    rw [read]
    dsimp only
    rw [tracked]
    refine ⟨_, rfl, ⟨?_, atIndents, opened'', atStart, ?_⟩⟩
    · rw [width]
      show r.skipInsignificant.rest.drop _ = _
      rw [atRest, dropped]
    · rw [List.map_cons, List.reverse_cons]
      show (r.skipInsignificant.tokens.map Token.kind).reverse ++ [word] = _
      rw [atKinds]
  obtain ⟨s, read', stands'⟩ := token
  have turn := Turn.token (enters_of_inLine stands.atLineStart) atRest noLineEnd read'
  exact ⟨s, turn.readAll, stands'⟩

/-! ## Brackets -/

theorem tracks_plain (plain : ¬word.IsBracket) : Tracks opened word opened := by
  intro r first _ atOpened
  refine ⟨r.brackets, ?_, atOpened⟩
  cases word with
  | symbol mark =>
    cases mark
    case leftParen | leftBracket | leftBrace | rightParen | rightBracket | rightBrace =>
      exact absurd (by decide) plain
    all_goals rfl
  | keyword | identifier | int | float | string | newline | indent | dedent | endOfFile => rfl

/-- An opening mark opens its bracket, and the closing mark that answers it closes it again. -/
theorem tracks_pair {opening closing : Symbol} (pair : (opening, closing) ∈ bracketPairs) :
    ∃ c, Tracks opened (.symbol opening) (c :: opened)
      ∧ Tracks (c :: opened) (.symbol closing) opened := by
  have track {opening closing : Symbol} {c : Char} (opens : isOpening opening)
      (written : opening.text.toList = [c]) (noOpening : isOpening closing = false)
      (answers : openingOf? closing = some c) :
      ∃ c, Tracks opened (.symbol opening) (c :: opened)
        ∧ Tracks (c :: opened) (.symbol closing) opened := by
    refine ⟨c, ?_, ?_⟩
    · intro r first head atOpened
      rw [TokenKind.written, written] at head
      cases head
      refine ⟨(c, r.position) :: r.brackets, ?_, ?_⟩
      · rw [trackBracket, if_pos opens]
      · rw [List.map_cons, atOpened]
    · intro r first _ atOpened
      cases brackets : r.brackets with
      | nil =>
        rw [brackets] at atOpened
        cases atOpened
      | cons top outer =>
        rw [brackets, List.map_cons] at atOpened
        obtain ⟨same, atOuter⟩ := List.cons.inj atOpened
        refine ⟨outer, ?_, atOuter⟩
        rw [trackBracket, if_neg (noOpening ▸ Bool.false_ne_true), answers, brackets]
        exact if_pos same
  obtain ⟨rfl, rfl⟩ | ⟨rfl, rfl⟩ | ⟨rfl, rfl⟩ := mem_bracketPairs.mp pair
  · exact track rfl rfl rfl rfl
  · exact track rfl rfl rfl rfl
  · exact track rfl rfl rfl rfl

/-! ## A line -/

/-- Tokens with one blank between them, behind a given lead. -/
def spacedFrom (lead : List Char) : List TokenKind → List Char
  | [] => []
  | word :: words => lead ++ (word.written ++ spacedFrom [' '] words)

theorem spacedFrom_append (words others : List TokenKind) :
    spacedFrom [' '] (words ++ others) = spacedFrom [' '] words ++ spacedFrom [' '] others := by
  induction words with
  | nil => rfl
  | cons word words ih =>
    rw [List.cons_append, spacedFrom, spacedFrom, ih]
    simp only [List.append_assoc]

theorem spacedFrom_nil_lead (words : List TokenKind) : spacedFrom [] words = writtenLine words := by
  induction words with
  | nil => rfl
  | cons word words ih =>
    cases words with
    | nil => rw [spacedFrom, spacedFrom, writtenLine]; simp
    | cons next words =>
      have rest : spacedFrom [' '] (next :: words) = ' ' :: writtenLine (next :: words) := by
        rw [← ih]
        rfl
      rw [spacedFrom, rest, writtenLine, writtenLine]
      simp

theorem endsToken_spacedFrom (words : List TokenKind) (ends : EndsToken after) :
    EndsToken (spacedFrom [' '] words ++ after) := by
  cases words with
  | nil => exact ends
  | cons word words => exact ⟨_, .inl rfl⟩

theorem Leads.trans {rest' : List Char} {indents' : List Nat} {atLineStart atLineStart' : Bool}
    {kinds' : List TokenKind} (leads : r.Leads rest indents opened atLineStart kinds)
    (next : ∀ s : Reader, s.Stands rest indents opened atLineStart kinds →
      s.Leads rest' indents' opened' atLineStart' kinds') :
    r.Leads rest' indents' opened' atLineStart' kinds' := by
  obtain ⟨s, same, stands⟩ := leads
  obtain ⟨t, same', stands'⟩ := next s stands
  exact ⟨t, same.trans same', stands'⟩

/-- Balanced tokens are read, and the brackets that were open before them are open still. -/
theorem reads_balanced {words : List TokenKind} (balanced : Balanced words) :
    ∀ {r : Reader} {lead after opened kinds}, (∀ word ∈ words, word.IsWritten) → IsLead lead →
      EndsToken after → r.Stands (spacedFrom lead words ++ after) indents opened false kinds →
      r.Leads after indents opened false (kinds ++ words) := by
  induction balanced with
  | nil =>
    intro r lead after opened kinds _ _ _ stands
    rw [List.append_nil]
    exact ⟨r, rfl, stands⟩
  | @cons word rest plain _ ih =>
    intro r lead after opened kinds written isLead ends stands
    rw [spacedFrom, List.append_assoc, List.append_assoc] at stands
    have read := stands.reads_word isLead (written word List.mem_cons_self)
      (endsToken_spacedFrom rest ends) (tracks_plain plain)
    refine read.trans fun s stands => ?_
    have rest_ := ih (fun w member => written w (List.mem_cons_of_mem word member)) (.inr rfl) ends
      stands
    rw [List.append_assoc, List.singleton_append] at rest_
    exact rest_
  | @enclosed opening closing inner rest pair _ _ ihInner ihRest =>
    intro r lead after opened kinds written isLead ends stands
    obtain ⟨c, opens, closes⟩ : ∃ c, Tracks opened (.symbol opening) (c :: opened)
        ∧ Tracks (c :: opened) (.symbol closing) opened := tracks_pair pair
    have endsRest := endsToken_spacedFrom rest ends
    have endsClosing :=
      endsToken_spacedFrom (.symbol closing :: rest) ends
    rw [spacedFrom, spacedFrom_append] at stands
    simp only [List.append_assoc] at stands
    have readOpening := stands.reads_word isLead (written _ List.mem_cons_self)
      (endsToken_spacedFrom inner endsClosing) opens
    refine readOpening.trans fun s₁ stands₁ => ?_
    have readInner := ihInner
      (fun w member => written w (List.mem_cons_of_mem _ (List.mem_append_left _ member)))
      (.inr rfl) endsClosing stands₁
    refine readInner.trans fun s₂ stands₂ => ?_
    rw [spacedFrom, List.append_assoc, List.append_assoc] at stands₂
    have readClosing := stands₂.reads_word (.inr rfl)
      (written _ (List.mem_cons_of_mem _ (List.mem_append_right _ List.mem_cons_self)))
      endsRest closes
    refine readClosing.trans fun s₃ stands₃ => ?_
    have readRest := ihRest
      (fun w member => written w
        (List.mem_cons_of_mem _ (List.mem_append_right _ (List.mem_cons_of_mem _ member))))
      (.inr rfl) ends stands₃
    simp only [List.append_assoc, List.singleton_append] at readRest
    exact readRest

end PixelApplet.Reader
