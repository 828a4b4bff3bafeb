import PixelApplet.Proofs.Library.Callbacks

/-!
# Registrations and cleanups last

Whatever runs on a thread may register cleanups, watch tokens and cancel them.  What it should not
do is take back what others have registered: the cleanups of the thread only become more, and the
watchers of a token stay where they are until a cancellation tells them.
-/

namespace PixelApplet

/-! ## Tokens -/

namespace CancellationToken

/-- A token as it comes about: registrations are numbered, what watches it is there, and nothing
watches it any more once it was cancelled. -/
structure Proper (cells : Nat) (token : CancellationToken CellRef) : Prop where
  numbers : ∀ entry ∈ token.watchers, entry.1 < token.nextRegistration
  cells : ∀ entry ∈ token.watchers, entry.2.index < cells
  cancelled : token.reason ≠ none → token.watchers = []

/-- What may become of a token: as long as it is not cancelled, watchers only join, under numbers
that were not used before; the first cancellation tells all of them, and its reason stays. -/
structure Continues (told : CellRef → Prop) (token token' : CancellationToken CellRef) : Prop where
  numbers : token.nextRegistration ≤ token'.nextRegistration
  reason : ∀ reason, token.reason = some reason → token'.reason = some reason
  watchers : token'.reason = token.reason → ∃ more, token'.watchers = token.watchers ++ more
    ∧ ∀ entry ∈ more, token.nextRegistration ≤ entry.1
  cancelled : token.reason = none → token'.reason ≠ none → ∀ entry ∈ token.watchers, told entry.2

variable {told : CellRef → Prop} {token : CancellationToken CellRef} {cells : Nat}

theorem Continues.refl (told : CellRef → Prop) (token : CancellationToken CellRef) :
    Continues told token token where
  numbers := Nat.le_refl _
  reason _ same := same
  watchers _ := ⟨[], (List.append_nil _).symm, nofun⟩
  cancelled uncancelled cancelled := absurd uncancelled cancelled

theorem Continues.trans {earlier : CellRef → Prop} {a b c : CancellationToken CellRef}
    (lasts : ∀ ref, earlier ref → told ref) (first : Continues earlier a b)
    (second : Continues told b c) : Continues told a c where
  numbers := Nat.le_trans first.numbers second.numbers
  reason reason same := second.reason reason (first.reason reason same)
  watchers same := by
    -- The reason did not change in between either.
    have between : b.reason = a.reason := by
      cases given : b.reason with
      | none =>
        cases was : a.reason with
        | none => rfl
        | some reason => exact absurd (first.reason reason was) (by simp [given])
      | some reason => rw [← same, second.reason reason given]
    obtain ⟨more, joined, numbers⟩ := first.watchers between
    obtain ⟨later, joined', numbers'⟩ := second.watchers (same.trans between.symm)
    refine ⟨more ++ later, by rw [joined', joined, List.append_assoc], fun entry isNew => ?_⟩
    rcases List.mem_append.mp isNew with inMore | inLater
    · exact numbers entry inMore
    · exact Nat.le_trans first.numbers (numbers' entry inLater)
  cancelled uncancelled cancelled entry watches := by
    by_cases given : b.reason = none
    · obtain ⟨more, joined, -⟩ := first.watchers (given.trans uncancelled.symm)
      exact second.cancelled given cancelled entry (joined ▸ List.mem_append_left more watches)
    · exact lasts _ (first.cancelled uncancelled given entry watches)

theorem Proper.mono {more : Nat} (proper : token.Proper cells) (le : cells ≤ more) :
    token.Proper more :=
  ⟨proper.numbers, fun entry watches => Nat.lt_of_lt_of_le (proper.cells entry watches) le,
    proper.cancelled⟩

theorem Proper.cancel (proper : token.Proper cells) (reason : String) :
    (token.cancel reason).1.Proper cells := by
  unfold CancellationToken.cancel
  split
  · exact proper
  · exact ⟨nofun, nofun, fun _ => rfl⟩

theorem Proper.watch (proper : token.Proper cells) {watcher : CellRef}
    (inside : watcher.index < cells) : (token.watch watcher).1.Proper cells := by
  unfold CancellationToken.watch
  split
  · exact proper
  · refine ⟨fun entry watches => ?_, fun entry watches => ?_, fun given => absurd rfl given⟩
    · rcases List.mem_append.mp watches with old | new
      · exact Nat.lt_succ_of_lt (proper.numbers entry old)
      · rw [List.mem_singleton.mp new]
        exact Nat.lt_succ_self _
    · rcases List.mem_append.mp watches with old | new
      · exact proper.cells entry old
      · rw [List.mem_singleton.mp new]
        exact inside

theorem Proper.unwatch (proper : token.Proper cells) (registered : Registered) :
    (token.unwatch registered).Proper cells := by
  cases registered with
  | told reason => exact proper
  | kept number =>
    exact ⟨fun entry watches => proper.numbers entry (List.mem_filter.mp watches).1,
      fun entry watches => proper.cells entry (List.mem_filter.mp watches).1,
      fun given => by
        show List.filter _ token.watchers = []
        rw [proper.cancelled given, List.filter_nil]⟩

/-- A cancellation of a token tells those who watch it, if it is the first one. -/
theorem continues_cancel {reason : String}
    (tells : token.reason = none → ∀ entry ∈ token.watchers, told entry.2) :
    Continues told token (token.cancel reason).1 := by
  unfold CancellationToken.cancel
  split
  · exact .refl told token
  · rename_i uncancelled
    refine ⟨Nat.le_refl _, fun first given => ?_, fun same => ?_, fun _ _ => tells uncancelled⟩
    · rw [uncancelled] at given
      cases given
    · rw [uncancelled] at same
      cases same

theorem continues_watch (told : CellRef → Prop) (token : CancellationToken CellRef)
    (watcher : CellRef) : Continues told token (token.watch watcher).1 := by
  unfold CancellationToken.watch
  split
  · exact .refl told token
  · rename_i uncancelled
    refine ⟨Nat.le_succ _, fun reason given => ?_, fun _ => ⟨_, rfl, fun entry isNew => ?_⟩,
      fun _ given => absurd rfl given⟩
    · rw [uncancelled] at given
      cases given
    · obtain rfl := List.mem_singleton.mp isNew
      exact Nat.le_refl _

/-- A watcher that joined and left makes no difference to the others. -/
theorem continues_unwatch (proper : token.Proper cells) {watcher : CellRef}
    {token' : CancellationToken CellRef}
    (between : Continues told (token.watch watcher).1 token') :
    Continues told token (token'.unwatch (token.watch watcher).2) := by
  cases given : token.reason with
  | some reason =>
    have joined : token.watch watcher = (token, .told reason) := by rw [watch, given]
    rw [joined] at between ⊢
    exact between
  | none =>
    have joined : token.watch watcher
        = (⟨none, token.nextRegistration + 1,
            token.watchers ++ [(token.nextRegistration, watcher)]⟩,
          .kept token.nextRegistration) := by
      rw [watch, given]
    rw [joined] at between ⊢
    refine ⟨Nat.le_trans (Nat.le_succ _) between.numbers, fun reason some => ?_, fun same => ?_,
      fun _ cancelled entry watches =>
        between.cancelled rfl cancelled entry (List.mem_append_left _ watches)⟩
    · rw [given] at some
      cases some
    · rw [given] at same
      obtain ⟨more, later, numbers⟩ := between.watchers same
      refine ⟨more, ?_, fun entry isNew => Nat.le_of_succ_le (numbers entry isNew)⟩
      show List.filter _ token'.watchers = _
      have old : token.watchers.filter (fun entry => entry.1 ≠ token.nextRegistration)
          = token.watchers :=
        List.filter_eq_self.mpr fun entry watches => by
          simpa using Nat.ne_of_lt (proper.numbers entry watches)
      have new : more.filter (fun entry => entry.1 ≠ token.nextRegistration) = more :=
        List.filter_eq_self.mpr fun entry isNew => by
          simpa using Nat.ne_of_gt (numbers entry isNew)
      rw [later, List.filter_append, List.filter_append, old, new]
      simp

end CancellationToken

/-! ## Machines -/

namespace Machine

/-- A thread was told to stop. -/
def TellsCell (m : Machine) (ref : CellRef) : Prop :=
  ∃ reason, m.Told ref reason

/-- A machine as it comes about: its tokens are proper, and the running thread has a cell. -/
structure Proper (m : Machine) : Prop where
  cell : m.thread.cell.index < m.cells.size
  tokens : ∀ ref, (m.token ref).Proper m.cells.size

/-- What may become of a machine while something runs on its thread that takes back nothing of what
others have registered. -/
structure Respects (m m' : Machine) : Prop where
  proper : m'.Proper
  cell : m'.thread.cell = m.thread.cell
  cleanups : m.thread.cleanups <+: m'.thread.cleanups
  cells : m.cells.size ≤ m'.cells.size
  known : m.tokens.size ≤ m'.tokens.size
  told : ∀ {ref : CellRef} {reason : String}, m.Told ref reason → m'.Told ref reason
  tokens : ∀ ref, (m.token ref).Continues m'.TellsCell (m'.token ref)

variable {m m' : Machine}

theorem Respects.refl (proper : m.Proper) : m.Respects m :=
  ⟨proper, rfl, List.prefix_refl _, Nat.le_refl _, Nat.le_refl _, id, fun _ => .refl _ _⟩

theorem Respects.trans {a b c : Machine} (first : a.Respects b) (second : b.Respects c) :
    a.Respects c where
  proper := second.proper
  cell := second.cell.trans first.cell
  cleanups := first.cleanups.trans second.cleanups
  cells := Nat.le_trans first.cells second.cells
  known := Nat.le_trans first.known second.known
  told isTold := second.told (first.told isTold)
  tokens ref := (first.tokens ref).trans
    (fun _ ⟨reason, isTold⟩ => ⟨reason, second.told isTold⟩) (second.tokens ref)

/-- Only what happens to the thread, the cells and the tokens counts. -/
theorem Respects.of_same {last : Machine} (respects : m.Respects m')
    (thread : last.thread.cell = m'.thread.cell)
    (cleanups : m'.thread.cleanups <+: last.thread.cleanups) (cells : last.cells = m'.cells)
    (tokens : last.tokens = m'.tokens) : m.Respects last := by
  have same (ref : TokenRef) : last.token ref = m'.token ref := by rw [token, tokens, token]
  have told {ref : CellRef} {reason : String} : m'.Told ref reason → last.Told ref reason := by
    unfold Told
    rw [cells]
    exact id
  refine ⟨⟨?_, fun ref => ?_⟩, thread.trans respects.cell, respects.cleanups.trans cleanups,
    cells ▸ respects.cells, tokens ▸ respects.known, fun isTold => told (respects.told isTold),
    fun ref => ?_⟩
  · rw [thread, cells]
    exact respects.proper.cell
  · rw [same, cells]
    exact respects.proper.tokens ref
  · rw [same]
    exact (respects.tokens ref).trans (fun _ ⟨reason, isTold⟩ => ⟨reason, told isTold⟩) (.refl _ _)

theorem Undisturbed.respects (undisturbed : m.Undisturbed m') (proper : m.Proper) :
    m.Respects m' :=
  (Respects.refl proper).of_same undisturbed.cell (undisturbed.cleanups ▸ List.prefix_refl _)
    undisturbed.cells undisturbed.tokens

theorem token_setToken (m : Machine) (ref other : TokenRef) (t : CancellationToken CellRef) :
    (m.setToken ref t).token other
      = if other = ref ∧ ref.index < m.tokens.size then t else m.token other := by
  obtain ⟨i⟩ := ref
  obtain ⟨j⟩ := other
  simp only [setToken, token, Array.getD_eq_getD_getElem?, Array.getElem?_modify, TokenRef.mk.injEq]
  by_cases same : j = i
  · subst same
    by_cases inside : j < m.tokens.size
    · simp [inside]
    · simp [inside]
  · simp [same, Ne.symm same]

/-- Another token may take the place of one that it continues. -/
theorem Respects.setToken (respects : m.Respects m') {ref : TokenRef}
    {t : CancellationToken CellRef} (proper : t.Proper m'.cells.size)
    (continues : (m.token ref).Continues m'.TellsCell t) : m.Respects (m'.setToken ref t) where
  proper := by
    refine ⟨respects.proper.cell, fun other => ?_⟩
    rw [token_setToken]
    split
    · exact proper
    · exact respects.proper.tokens other
  cell := respects.cell
  cleanups := respects.cleanups
  cells := respects.cells
  known := Nat.le_trans respects.known (Nat.le_of_eq Array.size_modify.symm)
  told := respects.told
  tokens other := by
    rw [token_setToken]
    split
    · rename_i same
      exact same.1 ▸ continues
    · exact respects.tokens other

@[simp]
theorem size_cancelCell (m : Machine) (ref : CellRef) (reason : String) :
    (m.cancelCell ref reason).cells.size = m.cells.size :=
  Array.size_modify

theorem respects_cancelCell (proper : m.Proper) (ref : CellRef) (reason : String) :
    m.Respects (m.cancelCell ref reason) := by
  have size := m.size_cancelCell ref reason
  refine ⟨⟨size ▸ proper.cell, fun other => size ▸ proper.tokens other⟩, rfl, List.prefix_refl _,
    Nat.le_of_eq size.symm, Nat.le_refl _, Eval.told_cancelCell, fun _ => .refl _ _⟩

/-- A thread whose cell is there is told. -/
theorem tellsCell_cancelCell {ref : CellRef} (inside : ref.index < m.cells.size)
    (reason : String) : (m.cancelCell ref reason).TellsCell ref := by
  unfold TellsCell Told cancelCell
  dsimp only
  rw [Array.getD_eq_getD_getElem?, Array.getElem?_modify, if_pos rfl,
    Array.getElem?_eq_getElem inside]
  show ∃ first, (m.cells[ref.index].cancel reason).reason = some first
  unfold CancelCell.cancel
  cases m.cells[ref.index].reason with
  | none => exact ⟨reason, rfl⟩
  | some first => exact ⟨first, rfl⟩

/-- Tells threads to stop, one after the other. -/
def cancelCells (m : Machine) (refs : List CellRef) (reason : String) : Machine :=
  refs.foldl (fun m ref => m.cancelCell ref reason) m

theorem respects_cancelCells (proper : m.Proper) {refs : List CellRef}
    (inside : ∀ ref ∈ refs, ref.index < m.cells.size) (reason : String) :
    m.Respects (m.cancelCells refs reason)
      ∧ ∀ ref ∈ refs, (m.cancelCells refs reason).TellsCell ref := by
  induction refs generalizing m with
  | nil => exact ⟨.refl proper, nofun⟩
  | cons first rest ih =>
    have begins := respects_cancelCell proper first reason
    have told := tellsCell_cancelCell (inside first (.head _)) reason
    have ⟨goesOn, others⟩ := ih begins.proper fun ref later => by
      rw [size_cancelCell]
      exact inside ref (.tail _ later)
    refine ⟨begins.trans goesOn, fun ref isOne => ?_⟩
    rcases List.mem_cons.mp isOne with rfl | later
    · exact told.imp fun _ isTold => goesOn.told isTold
    · exact others ref later

/-- Whether threads are told before the token is put in its place makes no difference. -/
theorem cancelToken_eq (m : Machine) (ref : TokenRef) (reason : String) :
    m.cancelToken ref reason
      = (m.cancelCells ((m.token ref).cancel reason).2 reason).setToken ref
          ((m.token ref).cancel reason).1 := by
  unfold cancelToken cancelCells
  generalize (m.token ref).cancel reason = cancelled
  obtain ⟨t, refs⟩ := cancelled
  dsimp only
  induction refs generalizing m with
  | nil => rfl
  | cons first rest ih => exact ih (m.cancelCell first reason)

/-- Cancelling a token is seen in the cells and in the tokens alone. -/
theorem cancelToken_frame (m : Machine) (ref : TokenRef) (reason : String) :
    m.cancelToken ref reason = { m with
      cells := (m.cancelToken ref reason).cells
      tokens := (m.cancelToken ref reason).tokens } := by
  have tells (refs : List CellRef) (m : Machine) :
      m.cancelCells refs reason = { m with cells := (m.cancelCells refs reason).cells } := by
    induction refs generalizing m with
    | nil => rfl
    | cons first rest ih => exact ih (m.cancelCell first reason)
  rw [cancelToken_eq, tells]
  rfl

theorem respects_cancelToken (proper : m.Proper) (ref : TokenRef) (reason : String) :
    m.Respects (m.cancelToken ref reason) := by
  have inside : ∀ cell ∈ ((m.token ref).cancel reason).2, cell.index < m.cells.size := by
    intro cell isTold
    unfold CancellationToken.cancel at isTold
    split at isTold
    · cases isTold
    · obtain ⟨entry, watches, rfl⟩ := List.mem_map.mp isTold
      exact (proper.tokens ref).cells entry watches
  have ⟨respects, told⟩ := respects_cancelCells proper inside reason
  rw [cancelToken_eq]
  refine respects.setToken (((proper.tokens ref).cancel reason).mono respects.cells) ?_
  refine CancellationToken.continues_cancel fun uncancelled entry watches => told _ ?_
  rw [CancellationToken.cancel, uncancelled]
  exact List.mem_map_of_mem watches

end Machine

end PixelApplet
