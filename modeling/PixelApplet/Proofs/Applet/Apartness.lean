import PixelApplet.Proofs.Applet.Hosting
import PixelApplet.Proofs.Machine.Registrations

/-!
# Applets keep apart

What runs on a thread sees no entries of the cache but those of its own name, writes no others, and
changes no list or dict that is frozen.  So it does the same whatever others have in the cache, and
they find there what they would find without it.
-/

namespace PixelApplet

/-! ## Some owners' entries -/

namespace CacheStore

/-- The entries of the owners that are seen. -/
def only (store : CacheStore) (seen : String → Bool) : CacheStore :=
  ⟨store.entries.filter fun entry => seen entry.owner⟩

variable (store : CacheStore) {seen : String → Bool} {owner : String} (key : String)

theorem only_erase (seen : String → Bool) (owner : String) :
    (store.erase owner key).only seen = (store.only seen).erase owner key := by
  simp only [only, erase, List.filter_filter]
  congr 2
  funext entry
  exact Bool.and_comm _ _

theorem only_erase_of_unseen (unseen : seen owner = false) :
    (store.erase owner key).only seen = store.only seen := by
  simp only [only, erase, List.filter_filter, mk.injEq]
  refine List.filter_congr fun entry _ => ?_
  by_cases same : entry.owner = owner
  · simp [same, unseen]
  · simp [same]

theorem only_set (sees : seen owner = true) (value : String) (expires : Nat) :
    (store.set owner key value expires).only seen
      = (store.only seen).set owner key value expires := by
  have erased := congrArg entries (store.only_erase key seen owner)
  simp only [only, set, List.filter_cons, sees, if_true, mk.injEq, List.cons.injEq, true_and]
  exact erased

theorem only_set_of_unseen (unseen : seen owner = false) (value : String) (expires : Nat) :
    (store.set owner key value expires).only seen = store.only seen := by
  have erased := congrArg entries (store.only_erase_of_unseen key unseen)
  simp only [only, set, List.filter_cons, unseen, mk.injEq]
  exact erased

/-- An owner who is seen finds the same. -/
theorem get?_only (sees : seen owner = true) (now : Nat) :
    (store.only seen).get? owner key now = store.get? owner key now := by
  have finds : (store.only seen).entries.find? (fun entry => entry.owner = owner ∧ entry.key = key)
      = store.entries.find? fun entry => entry.owner = owner ∧ entry.key = key := by
    rw [only, List.find?_filter]
    congr 1
    funext entry
    by_cases same : entry.owner = owner
    · simp [same, sees]
    · simp [same]
  rw [get?, get?, finds]

/-- What an owner finds under a key is in an entry of that owner under that key. -/
theorem exists_entry_of_get? {now : Nat} {value : String}
    (finds : store.get? owner key now = some value) :
    ∃ expires, now < expires ∧ ⟨owner, key, value, expires⟩ ∈ store.entries := by
  unfold get? at finds
  split at finds
  · rename_i entry found
    split at finds
    · rename_i lasts
      cases finds
      have same := List.find?_some found
      simp only [decide_eq_true_eq] at same
      obtain ⟨rfl, rfl⟩ := same
      exact ⟨entry.expires, lasts, List.mem_of_find?_eq_some found⟩
    · cases finds
  · cases finds

end CacheStore

/-- The machine as it is seen by those who see some owners' entries of the cache alone. -/
def Machine.only (m : Machine) (seen : String → Bool) : Machine :=
  { m with cache := m.cache.only seen }

/-- What runs on a thread touches no entries of other owners and nothing that is frozen. -/
structure Machine.KeepsApart (m m' : Machine) : Prop where
  name : m'.thread.name = m.thread.name
  foreign : ∀ seen : String → Bool, seen m.thread.name = false →
    m'.cache.only seen = m.cache.only seen
  data : m.heap.KeepsFrozen m'.heap

namespace Machine.KeepsApart

theorem refl (m : Machine) : m.KeepsApart m :=
  ⟨rfl, fun _ _ => rfl, .refl _⟩

theorem trans {a b c : Machine} (first : a.KeepsApart b) (second : b.KeepsApart c) :
    a.KeepsApart c where
  name := second.name.trans first.name
  foreign seen unseen :=
    (second.foreign seen (first.name ▸ unseen)).trans (first.foreign seen unseen)
  data := first.data.trans second.data

end Machine.KeepsApart

/-- A token is cancelled in the same way whoever's entries are seen. -/
theorem Machine.cancelToken_only (m : Machine) (seen : String → Bool) (ref : TokenRef)
    (reason : String) :
    (m.only seen).cancelToken ref reason = (m.cancelToken ref reason).only seen := by
  have tells (refs : List CellRef) (m : Machine) :
      (m.only seen).cancelCells refs reason = (m.cancelCells refs reason).only seen := by
    induction refs generalizing m with
    | nil => rfl
    | cons first rest ih => exact ih (m.cancelCell first reason)
  rw [cancelToken_eq, cancelToken_eq]
  exact congrArg (Machine.setToken · ref _) (tells _ m)

theorem Machine.keepsApart_cancelToken (m : Machine) (ref : TokenRef) (reason : String) :
    m.KeepsApart (m.cancelToken ref reason) := by
  rw [cancelToken_frame]
  exact ⟨rfl, fun _ _ => rfl, .refl _⟩

namespace Eval

variable {α β : Type} {owner : String}

/-- How an action ends, as it is seen by those who see some owners' entries of the cache alone. -/
def seenAs (seen : String → Bool) :
    EStateM.Result Abort Machine α → EStateM.Result Abort Machine α
  | .ok value m => .ok value (m.only seen)
  | .error abort m => .error abort (m.only seen)

/-- On the threads of a name, an action keeps apart, and does the same whatever is in the cache for
others. -/
def Apart (owner : String) (act : Eval α) : Prop :=
  ∀ m : Machine, m.thread.name = owner → m.KeepsApart (act.after m)
    ∧ ∀ seen : String → Bool, seen owner = true → act (m.only seen) = seenAs seen (act m)

namespace Apart

/-- What has to do with the cache in no way. -/
theorem of_blind {act : Eval α} (keeps : ∀ m : Machine, m.KeepsApart (act.after m))
    (blind : ∀ m seen, act (m.only seen) = seenAs seen (act m)) : Apart owner act :=
  fun m _ => ⟨keeps m, fun seen _ => blind m seen⟩

theorem bind {act : Eval α} {next : α → Eval β} (apart : Apart owner act)
    (apartNext : ∀ value, Apart owner (next value)) : Apart owner (act >>= next) := by
  intro m named
  obtain ⟨keeps, blind⟩ := apart m named
  cases ran : act m with
  | error abort m' =>
    rw [after_error ran] at keeps
    refine ⟨after_error (bind_error ran) ▸ keeps, fun seen sees => ?_⟩
    have ran' : act (m.only seen) = .error abort (m'.only seen) := by
      rw [blind seen sees, ran, seenAs]
    rw [bind_error ran', bind_error ran, seenAs]
  | ok value m' =>
    rw [after_ok ran] at keeps
    obtain ⟨keeps', blind'⟩ := apartNext value m' (keeps.name.trans named)
    have goes : (act >>= next).after m = (next value).after m' := by rw [after, bind_ok ran, after]
    refine ⟨goes ▸ keeps.trans keeps', fun seen sees => ?_⟩
    have ran' : act (m.only seen) = .ok value (m'.only seen) := by
      rw [blind seen sees, ran, seenAs]
    rw [bind_ok ran', bind_ok ran, blind' seen sees]

end Apart

/-- Routine actions keep apart. -/
theorem Routine.apart {act : Eval α} (routine : Routine act) : Apart owner act := by
  have calm {γ : Type} {other : Eval γ} (isRoutine : Routine other)
      (uncached : ∀ m : Machine, (other.after m).cache = m.cache) (m : Machine) :
      m.KeepsApart (other.after m) :=
    have undisturbed := (isRoutine.undisturbed m).1
    ⟨undisturbed.name, fun _ _ => by rw [uncached], undisturbed.data⟩
  induction routine with
  | pure value => exact .of_blind (calm (.pure value) fun _ => rfl) fun _ _ => rfl
  | bind _ _ first rest => exact first.bind rest
  | fail message => exact .of_blind (calm (.fail message) fun _ => rfl) fun _ _ => rfl
  | look f blind placeless deaf =>
    refine .of_blind (calm (.look f blind placeless deaf) fun _ => rfl) fun m seen => ?_
    exact congrArg (EStateM.Result.ok · (m.only seen)) (blind m _)
  | remember key =>
    refine fun m named => ⟨.refl m, fun seen sees => ?_⟩
    exact congrArg (EStateM.Result.ok · (m.only seen))
      (m.cache.get?_only key (named.symm ▸ sees) m.clock)
  | forget key =>
    refine fun m named => ⟨⟨rfl, fun seen unseen => ?_, .refl _⟩, fun seen sees => ?_⟩
    · exact m.cache.only_erase_of_unseen key unseen
    · exact congrArg (fun cache => EStateM.Result.ok () { m with cache := cache })
        (m.cache.only_erase key seen m.thread.name).symm
  | edit f keeps => exact .of_blind (calm (.edit f keeps) fun _ => rfl) fun _ _ => rfl
  | changeList ref f =>
    refine .of_blind (calm (.changeList ref f) fun m => ?_) fun m seen => ?_
    · cases frozen : (m.heap.list ref).frozen with
      | true =>
        unfold after
        rw [changeList_of_frozen frozen]
        rfl
      | false =>
        unfold after
        rw [changeList_of_thawed frozen]
    · have same : ((m.only seen).heap.list ref).frozen = (m.heap.list ref).frozen := rfl
      cases frozen : (m.heap.list ref).frozen with
      | true =>
        rw [changeList_of_frozen frozen, changeList_of_frozen (same.trans frozen)]
        rfl
      | false =>
        rw [changeList_of_thawed frozen, changeList_of_thawed (same.trans frozen)]
        rfl
  | changeDict ref f =>
    refine .of_blind (calm (.changeDict ref f) fun m => ?_) fun m seen => ?_
    · cases frozen : (m.heap.dict ref).frozen with
      | true =>
        unfold after
        rw [changeDict_of_frozen frozen]
        rfl
      | false =>
        unfold after
        rw [changeDict_of_thawed frozen]
    · have same : ((m.only seen).heap.dict ref).frozen = (m.heap.dict ref).frozen := rfl
      cases frozen : (m.heap.dict ref).frozen with
      | true =>
        rw [changeDict_of_frozen frozen, changeDict_of_frozen (same.trans frozen)]
        rfl
      | false =>
        rw [changeDict_of_thawed frozen, changeDict_of_thawed (same.trans frozen)]
        rfl
  | attach key attachment other =>
    exact .of_blind (calm (.attach key attachment other) fun _ => rfl) fun _ _ => rfl
  | report message =>
    refine .of_blind (calm (.report message) fun m => ?_) fun m seen => ?_
    · cases logs : m.log? with
      | none =>
        unfold after
        rw [report_of_no_log logs]
        rfl
      | some messages =>
        unfold after
        rw [report_of_log logs]
        rfl
    · have same : (m.only seen).log? = m.log? := rfl
      cases logs : m.log? with
      | none =>
        have logs' : (m.only seen).log? = none := same.trans logs
        rw [report_of_no_log logs, report_of_no_log logs']
        rfl
      | some messages =>
        have logs' : (m.only seen).log? = some messages := same.trans logs
        rw [report_of_log logs, report_of_log logs']
        rfl
  | record event => exact .of_blind (calm (.record event) fun _ => rfl) fun _ _ => rfl
  | register registry => exact .of_blind (calm (.register registry) fun _ => rfl) fun _ _ => rfl

namespace Apart

/-- Something that is opened before an action and closed after it. -/
theorem enclosed {act : Eval α} (apart : Apart owner act) (m : Machine)
    (opening closing : Machine → Machine) (named : (opening m).thread.name = owner)
    (keeps : ∀ m', (opening m).KeepsApart m' → m.KeepsApart (closing m'))
    (opens : ∀ seen, opening (m.only seen) = (opening m).only seen)
    (closes : ∀ m' seen, closing (Machine.only m' seen) = (closing m').only seen) :
    m.KeepsApart ((followedBy act closing).after (opening m))
      ∧ ∀ seen, seen owner = true →
        followedBy act closing (opening (m.only seen))
          = seenAs seen (followedBy act closing (opening m)) := by
  obtain ⟨within, blind⟩ := apart (opening m) named
  constructor
  · rw [after_followedBy]
    exact keeps _ within
  · intro seen sees
    rw [opens, followedBy, followedBy, blind seen sees]
    cases act (opening m) with
    | ok value m' => exact congrArg (EStateM.Result.ok value) (closes m' seen)
    | error abort m' => exact congrArg (EStateM.Result.error abort) (closes m' seen)

/-- What turns the way in which an action ends into another one, with the same machine. -/
theorem turned {act : Eval α} {other : Eval β} (apart : Apart owner act)
    (same : ∀ m, other.after m = act.after m)
    (turns : ∀ m m' seen, act m' = seenAs seen (act m) → other m' = seenAs seen (other m)) :
    Apart owner other := by
  intro m named
  obtain ⟨keeps, blind⟩ := apart m named
  exact ⟨(same m).symm ▸ keeps, fun seen sees => turns m _ seen (blind seen sees)⟩

theorem mapError {act : Eval α} {f : Machine → EvalError → EvalError}
    (blind : ∀ m cache e, f { m with cache := cache } e = f m e) (apart : Apart owner act) :
    Apart owner (Eval.mapError act f) := by
  refine apart.turned after_mapError fun m m' seen same => ?_
  unfold Eval.mapError
  rw [same]
  rcases act m with ⟨value, last⟩ | ⟨e | message, last⟩
  · rfl
  · exact congrArg (fun e => EStateM.Result.error (Abort.error e) (last.only seen)) (blind last _ e)
  · rfl

theorem attempt {act : Eval α} (apart : Apart owner act) : Apart owner (Eval.attempt act) := by
  refine apart.turned after_attempt fun m m' seen same => ?_
  unfold Eval.attempt
  rw [same]
  rcases act m with ⟨value, last⟩ | ⟨e | message, last⟩ <;> rfl

theorem recover {act : Eval α} (apart : Apart owner act) : Apart owner (Eval.recover act) := by
  refine apart.turned after_recover fun m m' seen same => ?_
  unfold Eval.recover
  rw [same]
  rcases act m with ⟨value, last⟩ | ⟨abort, last⟩ <;> rfl

theorem nested {act : Eval α} (apart : Apart owner act) : Apart owner (Eval.nested act) := by
  intro m named
  cases entered : m.thread.depth.enter? with
  | none =>
    have entered' (seen) : (m.only seen).thread.depth.enter? = none := entered
    refine ⟨by rw [after, nested_refused entered]; exact .refl m, fun seen _ => ?_⟩
    rw [nested_refused entered, nested_refused (entered' seen)]
    rfl
  | some deeper =>
    have entered' (seen) : (m.only seen).thread.depth.enter? = some deeper := entered
    obtain ⟨keeps, blind⟩ := apart.enclosed m (fun m => m.atDepth deeper)
      (fun m => m.atDepth m.thread.depth.leave) named
      (fun _ keeps => ⟨keeps.name, keeps.foreign, keeps.data⟩) (fun _ => rfl) fun _ _ => rfl
    refine ⟨by rw [after, nested_entered entered]; exact keeps, fun seen sees => ?_⟩
    rw [nested_entered entered, nested_entered (entered' seen)]
    exact blind seen sees

theorem inFrame {act : Eval α} (frame : Frame) (apart : Apart owner act) :
    Apart owner (Eval.inFrame frame act) := by
  intro m named
  cases pushed : m.thread.stack.push? frame with
  | none =>
    have pushed' (seen) : (m.only seen).thread.stack.push? frame = none := pushed
    refine ⟨by rw [after, inFrame_refused pushed]; exact .refl m, fun seen _ => ?_⟩
    rw [inFrame_refused pushed, inFrame_refused (pushed' seen)]
    rfl
  | some stack =>
    have pushed' (seen) : (m.only seen).thread.stack.push? frame = some stack := pushed
    obtain ⟨keeps, blind⟩ := apart.enclosed m (fun m => m.withStack stack)
      (fun m => m.withStack m.thread.stack.pop) named
      (fun _ keeps => ⟨keeps.name, keeps.foreign, keeps.data⟩) (fun _ => rfl) fun _ _ => rfl
    refine ⟨by rw [after, inFrame_pushed pushed]; exact keeps, fun seen sees => ?_⟩
    rw [inFrame_pushed pushed, inFrame_pushed (pushed' seen)]
    exact blind seen sees

/-- A change of the machine that has to do with the cache in no way. -/
theorem modify {f : Machine → Machine} (keeps : ∀ m : Machine, m.KeepsApart (f m))
    (blind : ∀ m seen, f (Machine.only m seen) = (f m).only seen) :
    Apart owner (MonadState.modifyGet fun m => ((), f m) : Eval Unit) :=
  .of_blind keeps fun m seen => congrArg (EStateM.Result.ok ()) (blind m seen)

theorem cancelToken (token : TokenRef) (reason : String) :
    Apart owner (MonadState.modifyGet fun m => ((), m.cancelToken token reason) : Eval Unit) :=
  .modify (fun m => m.keepsApart_cancelToken token reason)
    fun m seen => m.cancelToken_only seen token reason

end Apart

/-- Keeping apart is a discipline. -/
theorem apart_discipline : Discipline fun act => Apart owner act where
  routine := Routine.apart
  bind := Apart.bind
  moveTo pos := .of_blind (fun m => ⟨rfl, fun _ _ => rfl, .refl _⟩) fun _ _ => rfl
  mapError _ blind _ _ _ := Apart.mapError blind
  attempt apart := apart.attempt.bind fun _ => (Routine.pure _).apart
  nested := Apart.nested
  inFrame := Apart.inFrame
  panics message := .of_blind .refl fun _ _ => rfl
  stores key value expires m named := by
    refine ⟨⟨rfl, fun seen unseen => ?_, .refl _⟩, fun seen sees => ?_⟩
    · exact m.cache.only_set_of_unseen key unseen value expires
    · exact congrArg (fun cache => EStateM.Result.ok () { m with cache := cache })
        (m.cache.only_set key (named.symm ▸ sees) value expires).symm
  cancels reason := by
    refine .modify (fun m => ?_) fun m seen => ?_
    · split
      · exact m.keepsApart_cancelToken _ reason
      · exact .refl m
    · cases given : m.hostToken with
      | none =>
        have same : (m.only seen).hostToken = none := given
        simp only [same]
      | some token =>
        have same : (m.only seen).hostToken = some token := given
        simp only [same]
        exact m.cancelToken_only seen token reason

namespace Apart

theorem note (f : LoadProgress → LoadProgress) : Apart owner (Context.note f) :=
  .modify (fun _ => ⟨rfl, fun _ _ => rfl, .refl _⟩) fun _ _ => rfl

theorem newToken : Apart owner Eval.newToken :=
  .of_blind (fun _ => ⟨rfl, fun _ _ => rfl, .refl _⟩) fun _ _ => rfl

theorem watch (token : TokenRef) : Apart owner (Context.watch token) := by
  refine .of_blind (fun m => ?_) fun m seen => ?_
  · rw [after_ok (Context.watch_eq token m)]
    unfold Context.watched
    dsimp only
    split <;> exact ⟨rfl, fun _ _ => rfl, .refl _⟩
  · have same : Context.watched (m.only seen) token = (Context.watched m token).only seen := by
      have looks : ((m.only seen).token token).watch (m.only seen).thread.cell
          = (m.token token).watch m.thread.cell := rfl
      unfold Context.watched
      rw [looks]
      rcases (m.token token).watch m.thread.cell with ⟨t, reason | number⟩ <;> rfl
    rw [Context.watch_eq, Context.watch_eq, same]
    rfl

end Apart

/-- What a host does with an applet keeps apart. -/
theorem apart_hosting :
    Hosting owner (fun act => Apart owner act) (fun act => Apart owner act) where
  outer := apart_discipline
  inner := apart_discipline
  loosen := id
  recover := Apart.recover
  onThread {_} {act} apart m named :=
    apart.enclosed m (fun m => m.started owner) (endThread m.thread) rfl
      (fun _ keeps => ⟨rfl, fun seen unseen => keeps.foreign seen (named ▸ unseen), keeps.data⟩)
      (fun _ => rfl) fun _ _ => rfl
  printsTo target := .modify (fun _ => ⟨rfl, fun _ _ => rfl, .refl _⟩) fun _ _ => rfl
  collects messages := .modify (fun _ => ⟨rfl, fun _ _ => rfl, .refl _⟩) fun _ _ => rfl
  looksBack := .of_blind .refl fun _ _ => rfl
  notes _ := .note _
  newToken := .newToken
  watching {_} {act} token apart := (Apart.watch token).bind fun registered m named =>
    apart.enclosed m id (Context.unwatch token registered) named
      (fun _ keeps => ⟨keeps.name, keeps.foreign, keeps.data⟩) (fun _ => rfl) fun _ _ => rfl
  asks {find} finds home module bindings := by
    refine Apart.bind (finds module) fun found => ?_
    cases found with
    | error fault => exact .of_blind .refl fun _ _ => rfl
    | ok loaded => exact (Routine.bindLoaded bindings).apart

end Eval

end PixelApplet
