import PixelApplet.Applet.Process
import PixelApplet.Proofs.Applet.Apartness
import PixelApplet.Proofs.Applet.Requests

/-!
# Applets are isolated

Whatever the applets of other names do in a process, an applet does what it would do without them,
as long as they register no descriptors: what is seen of its operations is the same, and so is all
that belongs to it.  What the cache gives to an applet was put there by an operation of an applet of
the same name.
-/

namespace PixelApplet

open Eval

/-! ## Requests keep apart -/

/-- The hooks of a host that loads an applet keep apart. -/
def HostOperation.HooksApart (op : HostOperation) : Prop :=
  match op.request with
  | .load options _ => Context.HooksHave (Apart op.id) ⟨op.id, options⟩
  | _ => True

/-- Applets have a name in common, and their hooks keep apart. -/
def Applet.AllApart (id : String) (applets : List Applet) : Prop :=
  ∀ applet ∈ applets, applet.context.id = id ∧ applet.context.HooksHave (Apart id)

variable {id : String} {applets : List Applet}

theorem Applet.within_apart (apart : Applet.AllApart id applets) {number : Nat}
    {act : Applet → Eval HostAnswer}
    (acts : ∀ applet : Applet, applet.context.id = id → applet.context.HooksHave (Apart id) →
      Apart id (act applet)) : Apart id (Applet.within applets number act) := by
  unfold Applet.within
  split
  · exact apart_discipline.pure _
  · rename_i applet found
    obtain ⟨named, hooks⟩ := apart applet (List.mem_of_getElem? found)
    exact apart_discipline.bind (acts applet named hooks) fun _ => apart_discipline.pure _

namespace HostRequest

theorem perform_apart {op : HostOperation} (apart : Applet.AllApart op.id applets)
    (hooks : op.HooksApart) : Apart op.id (op.request.perform op.id applets) := by
  have mapped {α : Type} {act : Eval α} (answer : α → HostAnswer) (acts : Apart op.id act) :
      Apart op.id (answer <$> act) :=
    acts.bind fun _ => apart_discipline.pure _
  obtain ⟨id, clock, disk, request⟩ := op
  cases request with
  | newToken => exact Apart.newToken.bind fun _ => apart_discipline.pure _
  | cancel token reason =>
    exact (Apart.cancelToken token reason).bind fun _ => apart_discipline.pure _
  | load options source =>
    have hosting : Hosting (Context.mk id options).id (fun act => Apart id act)
      (fun act => Apart id act) := apart_hosting
    refine (hosting.load hooks (fun _ => .note _) source).bind fun outcome => ?_
    cases outcome <;> exact apart_discipline.pure _
  | run number config token =>
    refine Applet.within_apart apart fun applet named hooks => mapped _ ?_
    obtain rfl := named
    exact apart_hosting.run hooks config token
  | callHandler number name parameter token =>
    refine Applet.within_apart apart fun applet named hooks => mapped _ ?_
    obtain rfl := named
    exact apart_hosting.callHandler hooks name parameter token
  | call number callable arguments token =>
    refine Applet.within_apart apart fun applet named hooks => mapped _ ?_
    obtain rfl := named
    exact apart_hosting.call hooks callable arguments token
  | runTests number =>
    refine Applet.within_apart apart fun applet named hooks => mapped _ ?_
    obtain rfl := named
    exact apart_hosting.runTests hooks

/-- The applets in a world are still those of its name after a request. -/
theorem allApart_of_perform {op : HostOperation} {m m' : Machine} {answer : HostAnswer}
    {applets' : List Applet} (apart : Applet.AllApart op.id applets) (hooks : op.HooksApart)
    (ran : op.request.perform op.id applets m = .ok (answer, applets') m') :
    Applet.AllApart op.id applets' := by
  have kept {α : Type} {act : Eval α} {f : α → HostAnswer}
      (ran : (act >>= fun result => Pure.pure (f result, applets)) m = .ok (answer, applets') m') :
      Applet.AllApart op.id applets' := by
    cases acted : act m with
    | error abort between =>
      rw [bind_error acted] at ran
      cases ran
    | ok result between =>
      rw [bind_ok acted] at ran
      cases ran
      exact apart
  have within_ {number : Nat} {act : Applet → Eval HostAnswer}
      (ran : Applet.within applets number act m = .ok (answer, applets') m') :
      Applet.AllApart op.id applets' := by
    unfold Applet.within at ran
    cases found : applets[number]? with
    | none =>
      rw [found] at ran
      cases ran
      exact apart
    | some applet =>
      rw [found] at ran
      exact kept ran
  obtain ⟨id, clock, disk, request⟩ := op
  cases request with
  | newToken => exact kept ran
  | cancel token reason =>
    cases ran
    exact apart
  | load options source =>
    cases loads : Applet.load ⟨id, options⟩ source m with
    | error abort between =>
      rw [perform, bind_error loads] at ran
      cases ran
    | ok outcome between =>
      rw [perform, bind_ok loads] at ran
      cases outcome with
      | error fault =>
        cases ran
        exact apart
      | ok applet =>
        cases ran
        intro other isOne
        rcases List.mem_append.mp isOne with isOld | isNew
        · exact apart other isOld
        · rw [List.mem_singleton.mp isNew, Applet.context_of_load loads]
          exact ⟨rfl, hooks⟩
  | run number config token => exact within_ ran
  | callHandler number name parameter token => exact within_ ran
  | call number callable arguments token => exact within_ ran
  | runTests number => exact within_ ran

end HostRequest

/-! ## Operations -/

/-- Machines that are seen alike differ in the cache alone. -/
theorem Machine.exists_cache_of_only {m m' : Machine} {seen : String → Bool}
    (same : m.only seen = m'.only seen) : ∃ cache, m' = { m with cache := cache } :=
  ⟨m'.cache, congrArg (fun m : Machine => { m with cache := m'.cache }) same.symm⟩

namespace Process

variable {p q : Process} {op : HostOperation} {keep : String → Bool}

/-- A process as it comes about: the dict of the fonts is frozen and in its place everywhere, and
the hooks of all applets keep apart. -/
structure Fair (p : Process) : Prop where
  frozen : p.shared.fonts.frozen = true
  fonts : ∀ id, (p.worlds id).machine.heap.dict Heap.fonts = p.shared.fonts
  applets : ∀ id, Applet.AllApart id (p.worlds id).applets

theorem fair_initial : Fair initial :=
  ⟨rfl, fun _ => rfl, fun _ _ => nofun⟩

/-- What an operation does on the machine on which it begins. -/
def act (p : Process) (op : HostOperation) : Eval (HostAnswer × List Applet) :=
  op.request.perform op.id (p.worlds op.id).applets

theorem act_apart (fair : p.Fair) (hooks : op.HooksApart) : Apart op.id (p.act op) :=
  HostRequest.perform_apart (fair.applets op.id) hooks

theorem perform_ok {answer : HostAnswer} {applets : List Applet} {m : Machine}
    (ran : p.act op (p.enter op) = .ok (answer, applets) m) :
    p.perform op = (p.leave op m applets, ⟨op.id, .ok answer, m.events.reverse⟩) := by
  unfold act at ran
  rw [perform, ran]

theorem perform_error {abort : Abort} {m : Machine}
    (ran : p.act op (p.enter op) = .error abort m) :
    p.perform op
      = (p.leave op m (p.worlds op.id).applets, ⟨op.id, .error abort, m.events.reverse⟩) := by
  unfold act at ran
  rw [perform, ran]

theorem id_perform (p : Process) (op : HostOperation) : (p.perform op).2.id = op.id := by
  cases ran : p.act op (p.enter op) with
  | ok result m => rw [perform_ok ran]
  | error abort m => rw [perform_error ran]

/-- What an operation leaves behind. -/
theorem exists_leave (fair : p.Fair) (hooks : op.HooksApart) : ∃ applets,
    (p.perform op).1 = p.leave op ((p.act op).after (p.enter op)) applets
      ∧ Applet.AllApart op.id applets := by
  cases ran : p.act op (p.enter op) with
  | ok result m =>
    rw [perform_ok ran, after_ok ran]
    exact ⟨_, rfl, HostRequest.allApart_of_perform (fair.applets op.id) hooks ran⟩
  | error abort m =>
    rw [perform_error ran, after_error ran]
    exact ⟨_, rfl, fair.applets op.id⟩

/-- Operations begin with the dict of the fonts in its place. -/
theorem Fair.fonts_enter (fair : p.Fair) (op : HostOperation) :
    (p.enter op).heap.dict Heap.fonts = p.shared.fonts := by
  have inside : Heap.fonts.index < (p.worlds op.id).machine.heap.dicts.size := by
    -- Beyond the dicts, the default is read, which is not frozen.
    rw [← Nat.not_le]
    intro outside
    have frozen := fair.frozen
    rw [← fair.fonts op.id, Heap.dict, Array.getD_eq_getD_getElem?,
      Array.getElem?_eq_none outside] at frozen
    cases frozen
  rw [enter, Heap.dict_modifyDict, if_pos ⟨rfl, inside⟩]

/-- Operations leave the dict of the fonts as it is. -/
theorem fonts_after (fair : p.Fair) (hooks : op.HooksApart) :
    ((p.act op).after (p.enter op)).heap.dict Heap.fonts = p.shared.fonts := by
  have keeps := (act_apart fair hooks (p.enter op) rfl).1
  have before := fair.fonts_enter op
  rw [keeps.data.dicts Heap.fonts (before ▸ fair.frozen), before]

theorem Fair.perform (fair : p.Fair) (hooks : op.HooksApart) : (p.perform op).1.Fair := by
  obtain ⟨applets, leaves, apart⟩ := exists_leave fair hooks
  have fonts := fonts_after fair hooks
  rw [leaves]
  refine ⟨(congrArg DictCell.frozen fonts).trans fair.frozen, fun id => ?_, fun id => ?_⟩
  · unfold leave
    dsimp only
    split
    · rfl
    · rw [fonts]
      exact fair.fonts id
  · unfold leave
    dsimp only
    split
    · rename_i same
      exact same ▸ apart
    · exact fair.applets id

/-! ## Two processes -/

/-- Two processes look alike to the applets with certain names. -/
structure Alike (keep : String → Bool) (p q : Process) : Prop where
  cache : p.shared.cache.only keep = q.shared.cache.only keep
  registry : p.shared.registry = q.shared.registry
  fonts : p.shared.fonts = q.shared.fonts
  worlds : ∀ id, keep id = true → p.worlds id = q.worlds id

theorem Alike.refl (keep : String → Bool) (p : Process) : Alike keep p p :=
  ⟨rfl, rfl, rfl, fun _ _ => rfl⟩

/-- An operation of one of these applets begins alike. -/
theorem Alike.enter (alike : Alike keep p q) (kept : keep op.id = true) :
    (p.enter op).only keep = (q.enter op).only keep := by
  unfold Process.enter Machine.only
  simp only [alike.worlds op.id kept, alike.cache, alike.registry, alike.fonts]

theorem Alike.leave (alike : Alike keep p q) {m : Machine} {cache : CacheStore}
    (same : m.cache.only keep = cache.only keep) (applets : List Applet) :
    Alike keep (p.leave op m applets) (q.leave op { m with cache := cache } applets) where
  cache := same
  registry := rfl
  fonts := rfl
  worlds id kept := by
    unfold Process.leave
    dsimp only
    split
    · rfl
    · exact alike.worlds id kept

/-- An operation of one of these applets is seen alike, and leaves the processes alike. -/
theorem Alike.perform (alike : Alike keep p q) (fair : p.Fair) (kept : keep op.id = true)
    (hooks : op.HooksApart) :
    (p.perform op).2 = (q.perform op).2 ∧ Alike keep (p.perform op).1 (q.perform op).1 := by
  have acts : q.act op = p.act op := by rw [act, act, alike.worlds op.id kept]
  have apart := act_apart fair hooks
  have same : seenAs keep (p.act op (p.enter op)) = seenAs keep (p.act op (q.enter op)) := by
    rw [← (apart _ rfl).2 keep kept, ← (apart _ rfl).2 keep kept, alike.enter kept]
  cases ran : p.act op (p.enter op) with
  | ok result m =>
    cases ran' : p.act op (q.enter op) with
    | error abort m' =>
      rw [ran, ran'] at same
      cases same
    | ok result' m' =>
      rw [ran, ran', seenAs, seenAs, EStateM.Result.ok.injEq] at same
      obtain ⟨rfl, machines⟩ := same
      have caches : m.cache.only keep = m'.cache.only keep := congrArg Machine.cache machines
      obtain ⟨cache, rfl⟩ := Machine.exists_cache_of_only machines
      rw [perform_ok ran, perform_ok (acts ▸ ran')]
      exact ⟨rfl, alike.leave caches _⟩
  | error abort m =>
    cases ran' : p.act op (q.enter op) with
    | ok result' m' =>
      rw [ran, ran'] at same
      cases same
    | error abort' m' =>
      rw [ran, ran', seenAs, seenAs, EStateM.Result.error.injEq] at same
      obtain ⟨rfl, machines⟩ := same
      have caches : m.cache.only keep = m'.cache.only keep := congrArg Machine.cache machines
      obtain ⟨cache, rfl⟩ := Machine.exists_cache_of_only machines
      rw [perform_error ran, perform_error (acts ▸ ran'), alike.worlds op.id kept]
      exact ⟨rfl, alike.leave caches _⟩

/-- The entries of other owners are the same after an operation. -/
theorem cache_perform (fair : p.Fair) (hooks : op.HooksApart) {seen : String → Bool}
    (unseen : seen op.id = false) :
    (p.perform op).1.shared.cache.only seen = p.shared.cache.only seen := by
  obtain ⟨applets, leaves, -⟩ := exists_leave fair hooks
  rw [leaves]
  exact (act_apart fair hooks (p.enter op) rfl).1.foreign seen unseen

/-- An operation of another applet makes no difference if it registers no descriptors. -/
theorem Alike.skip (alike : Alike keep p q) (fair : p.Fair) (hooks : op.HooksApart)
    (other : keep op.id = false)
    (registersNone : (p.perform op).1.shared.registry = p.shared.registry) :
    Alike keep (p.perform op).1 q := by
  refine ⟨(cache_perform fair hooks other).trans alike.cache,
    registersNone.trans alike.registry, ?_, fun id kept => ?_⟩
  · obtain ⟨applets, leaves, -⟩ := exists_leave fair hooks
    rw [leaves]
    exact (fonts_after fair hooks).trans alike.fonts
  · obtain ⟨applets, leaves, -⟩ := exists_leave fair hooks
    have different : id ≠ op.id := by
      rintro rfl
      rw [other] at kept
      cases kept
    rw [leaves, Process.leave]
    dsimp only
    rw [if_neg different]
    exact alike.worlds id kept

/-! ## Runs -/

/-- The operations of applets with other names register no descriptors. -/
def Quiet (keep : String → Bool) (p : Process) : List HostOperation → Prop
  | [] => True
  | op :: rest =>
    (keep op.id = false → (p.perform op).1.shared.registry = p.shared.registry)
      ∧ Quiet keep (p.perform op).1 rest

variable {ops : List HostOperation}

/-- Processes that look alike to some applets look alike after operations, and after those of these
applets alone. -/
theorem Alike.run (alike : Alike keep p q) (fair : p.Fair) (hooks : ∀ op ∈ ops, op.HooksApart)
    (quiet : p.Quiet keep ops) :
    (p.outcomes ops).filter (fun outcome => keep outcome.id)
        = q.outcomes (ops.filter fun op => keep op.id)
      ∧ Alike keep (p.after ops) (q.after (ops.filter fun op => keep op.id)) := by
  induction ops generalizing p q with
  | nil => exact ⟨rfl, alike⟩
  | cons op rest ih =>
    obtain ⟨registers, later⟩ := quiet
    have apart := hooks op (.head _)
    have fair' := fair.perform apart
    have hooks' : ∀ other ∈ rest, other.HooksApart := fun other isLater =>
      hooks other (.tail _ isLater)
    have id := p.id_perform op
    cases kept : keep op.id with
    | true =>
      obtain ⟨seen, alike'⟩ := alike.perform fair kept apart
      obtain ⟨outcomes, ends⟩ := ih alike' fair' hooks' later
      have keeps : (op :: rest).filter (fun op => keep op.id)
          = op :: rest.filter fun op => keep op.id := List.filter_cons_of_pos kept
      rw [keeps]
      refine ⟨?_, ends⟩
      rw [Process.outcomes, List.filter_cons_of_pos (by rw [id, kept]), outcomes, seen]
      rfl
    | false =>
      have alike' := alike.skip fair apart kept (registers kept)
      obtain ⟨outcomes, ends⟩ := ih alike' fair' hooks' later
      have drops : (op :: rest).filter (fun op => keep op.id)
          = rest.filter fun op => keep op.id := List.filter_cons_of_neg (by simp [kept])
      rw [drops]
      refine ⟨?_, ends⟩
      rw [Process.outcomes, List.filter_cons_of_neg (by simp [id, kept]), outcomes]

/-- Where an entry of the cache comes from. -/
theorem exists_setter (fair : p.Fair) (hooks : ∀ op ∈ ops, op.HooksApart) {entry : CacheEntry}
    (present : entry ∈ (p.after ops).shared.cache.entries) :
    entry ∈ p.shared.cache.entries ∨ ∃ before op later, ops = before ++ op :: later
      ∧ op.id = entry.owner ∧ entry ∉ (p.after before).shared.cache.entries
      ∧ entry ∈ ((p.after before).perform op).1.shared.cache.entries := by
  induction ops generalizing p with
  | nil => exact .inl present
  | cons op rest ih =>
    have apart := hooks op (.head _)
    have goesOn := ih (fair.perform apart) (fun other isLater => hooks other (.tail _ isLater))
      present
    rcases goesOn with afterFirst | ⟨before, other, later, rfl, owner, absent, sets⟩
    · by_cases old : entry ∈ p.shared.cache.entries
      · exact .inl old
      · refine .inr ⟨[], op, rest, rfl, ?_, old, afterFirst⟩
        -- An entry of another owner would have been there before.
        refine Classical.byContradiction fun different => old ?_
        have same : (p.perform op).1.shared.cache.only (fun owner => owner ≠ op.id)
            = p.shared.cache.only fun owner => owner ≠ op.id :=
          cache_perform fair apart (by simp)
        have isSeen : entry ∈ ((p.perform op).1.shared.cache.only
            fun owner => owner ≠ op.id).entries :=
          List.mem_filter.mpr ⟨afterFirst, by simpa using Ne.symm different⟩
        rw [same] at isSeen
        exact (List.mem_filter.mp isSeen).1
    · exact .inr ⟨op :: before, other, later, rfl, owner, absent, sets⟩

/-- What happens to the applets that are kept is what happens without all others. -/
structure Isolated (keep : String → Bool) (ops : List HostOperation) : Prop where
  /-- What is seen of the operations of these applets is the same. -/
  outcomes : (initial.outcomes ops).filter (fun outcome => keep outcome.id)
    = initial.outcomes (ops.filter fun op => keep op.id)
  /-- All that belongs to these applets is the same. -/
  worlds : ∀ id, keep id = true →
    (initial.after ops).worlds id = (initial.after (ops.filter fun op => keep op.id)).worlds id
  /-- Whatever others have in the cache at the moment, an operation does what it would do if there
  were the entries of its own name alone. -/
  blind : ∀ before op later, ops = before ++ op :: later →
    let p := initial.after before
    p.act op ((p.enter op).only fun owner => owner = op.id)
      = seenAs (fun owner => owner = op.id) (p.act op (p.enter op))
  /-- What a name finds in the cache under a key was put there, under that key, in an operation of
  that name. -/
  found : ∀ id key now value, (initial.after ops).shared.cache.get? id key now = some value →
    ∃ before op later expires, ops = before ++ op :: later ∧ op.id = id ∧ now < expires
      ∧ ⟨id, key, value, expires⟩ ∉ (initial.after before).shared.cache.entries
      ∧ ⟨id, key, value, expires⟩ ∈ ((initial.after before).perform op).1.shared.cache.entries

theorem Fair.after (fair : p.Fair) (hooks : ∀ op ∈ ops, op.HooksApart) : (p.after ops).Fair := by
  induction ops generalizing p with
  | nil => exact fair
  | cons op rest ih =>
    exact ih (fair.perform (hooks op (.head _))) fun other isLater => hooks other (.tail _ isLater)

/-- In whatever order the applets of a process are loaded and invoked, those that are kept are
isolated from all others, if these register no descriptors. -/
theorem applets_isolated (keep : String → Bool) (hooks : ∀ op ∈ ops, op.HooksApart)
    (quiet : initial.Quiet keep ops) : Isolated keep ops := by
  obtain ⟨outcomes, alike⟩ := (Alike.refl keep initial).run fair_initial hooks quiet
  refine ⟨outcomes, alike.worlds, ?_, fun id key now value finds => ?_⟩
  · rintro before op later rfl
    have fair := fair_initial.after fun other earlier =>
      hooks other (List.mem_append_left _ earlier)
    have apart := act_apart fair (hooks op (List.mem_append_right _ (.head _)))
    exact (apart _ rfl).2 _ (decide_eq_true rfl)
  · obtain ⟨expires, lasts, present⟩ := CacheStore.exists_entry_of_get? _ key finds
    rcases exists_setter fair_initial hooks present with
      isFirst | ⟨before, op, later, split, owner, absent, sets⟩
    · cases isFirst
    · exact ⟨before, op, later, expires, split, owner, lasts, absent, sets⟩

/-- A script that prints what it has kept, and then keeps a text. -/
def keepingFiles (text : String) : MemoryFiles :=
  MemoryFiles.empty.insert "main.star"
    ("load(\"cache.star\", \"cache\")\nprint(cache.get(\"k\"))\ncache.set(\"k\", \"" ++ text
      ++ "\")\ndef main():\n    return []\n").toUTF8

/-- A host loads an applet that prints what it has kept, and then keeps a text. -/
def loadsKeeping (id text : String) : HostOperation :=
  ⟨id, 100, .under [], .load .none (.memory (keepingFiles text))⟩

/-- Two applets are loaded by turns. -/
def turns : List HostOperation :=
  [loadsKeeping "left" "a", loadsKeeping "right" "b", loadsKeeping "left" "c"]

/-- Both applets use the same key, but each finds its own text. -/
theorem turns_isolated : Isolated (fun id => id = "left") turns
    ∧ (initial.outcomes turns).map HostOutcome.seen
      = [[.standardOutput "[left] None\n"], [.standardOutput "[right] None\n"],
        [.standardOutput "[left] a\n"]] := by
  have hooks : ∀ op ∈ turns, op.HooksApart := by
    have loads (id text : String) : (loadsKeeping id text).HooksApart :=
      Context.hooksHave_of_none _ id
    simp only [turns, List.forall_mem_cons]
    exact ⟨loads _ _, loads _ _, loads _ _, nofun⟩
  -- the machine runs once for what is seen and what is registered
  have runs : (initial.outcomes turns).map HostOutcome.seen
        = [[.standardOutput "[left] None\n"], [.standardOutput "[right] None\n"],
          [.standardOutput "[left] a\n"]]
      ∧ ((initial.perform (loadsKeeping "left" "a")).1.perform
          (loadsKeeping "right" "b")).1.shared.registry
        = (initial.perform (loadsKeeping "left" "a")).1.shared.registry := by
    decide +kernel
  have quiet : initial.Quiet (fun id => id = "left") turns :=
    ⟨nofun, fun _ => runs.2, nofun, trivial⟩
  exact ⟨applets_isolated _ hooks quiet, runs.1⟩

end Process

end PixelApplet
