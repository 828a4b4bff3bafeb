import PixelApplet.Proofs.Applet.RequestOrigins
import PixelApplet.Proofs.Evaluation.FrozenData

/-!
# The fault of the innermost file

Loading an applet fails with the fault of every request that fails, however many files lead to it.
So it fails with the fault of an innermost request, which leads to none that fails: a fault of the
requested file itself, which names that file.
-/

namespace PixelApplet

namespace Applet

variable {context : Context} {source : FileSource} {m m' : Machine} {fault : AppletFault}

theorem exists_of_ensureAllLoaded {depth : Nat} {names : List String}
    (ran : context.ensureAllLoaded source depth names m = .ok (.error fault) m') :
    ∃ before name after between, names = before ++ name :: after
      ∧ context.ensureAllLoaded source depth before m = .ok (.ok ()) between
      ∧ LoadRequest.Fails context source ⟨depth, name, [], between⟩ fault := by
  induction names generalizing m with
  | nil => cases ran
  | cons first rest ih =>
    obtain ⟨outcome, next, loads, ran⟩ := Eval.exists_of_bind_ok ran
    cases outcome with
    | error fault' =>
      cases ran
      exact ⟨[], first, rest, m, rfl, rfl, _, loads⟩
    | ok ref =>
      obtain ⟨before, name, after, between, split, loaded, fails⟩ := ih ran
      refine ⟨first :: before, name, after, between, by rw [split]; rfl, ?_, fails⟩
      exact (Eval.bind_ok loads).trans loaded

/-- Loading all scripts fails because the root directory cannot be read, or with the fault of a
request for a root script. -/
theorem exists_of_loadAll (ran : context.loadAll source m = .ok (.error fault) m') :
    (∃ reason, source.readDirectory m.disk "." = .error reason
        ∧ fault = .readRootDirectory reason.text)
      ∨ ∃ r, LoadRequest.Made context source m r ∧ r.Fails context source fault := by
  have reads : Eval.read Machine.disk m = .ok m.disk m := rfl
  rw [Context.loadAll, Eval.bind_ok reads] at ran
  cases listed : source.readDirectory m.disk "." with
  | error reason =>
    rw [listed] at ran
    cases ran
    exact .inl ⟨reason, rfl, rfl⟩
  | ok entries =>
    rw [listed] at ran
    have looks : Context.progress m = .ok m.loading m := rfl
    have notes : Context.note (fun _ => .empty) m = .ok () { m with loading := .empty } := rfl
    dsimp only at ran
    rw [Eval.bind_ok looks, Eval.bind_ok notes] at ran
    obtain ⟨outcome, between, loads, ran⟩ := Eval.exists_of_bind_ok ran
    cases outcome with
    | ok _ => cases ran
    | error fault' =>
      cases ran
      obtain ⟨before, name, after, asked, split, loaded, fails⟩ := exists_of_ensureAllLoaded loads
      exact .inr ⟨_, .root listed split loaded, fails⟩

/-- A request that fails with a fault of its own, and leads to none that fails. -/
structure Innermost (context : Context) (source : FileSource) (fault : AppletFault)
    (r : LoadRequest) : Prop where
  fails : r.Fails context source fault
  own : r.OwnFault context source fault
  last : ∀ nested other, r.LeadsTo context source nested → ¬nested.Fails context source other

theorem Innermost.file {r : LoadRequest} {path message : String}
    (innermost : Innermost context source (.execution path message) r) : r.file = path := by
  have own := innermost.own
  generalize same : AppletFault.execution path message = fault at own
  cases own with
  | circular => cases same
  | exhausted => cases same
  | unreadable => cases same
  | script own =>
    cases own with
    | unparsed e => exact (AppletFault.execution.inj same).1.symm
    | stopped e own => exact (AppletFault.execution.inj same).1.symm
    | _ => cases same

/-- An applet that does not load has the fault of the root directory, has no entry point, or has the
fault of an innermost request. -/
theorem exists_of_load (hosted : context.Hosted) (discreet : context.HooksObey .uncaused)
    (sound : m.heap.Sound) (ran : load context source m = .ok (.error fault) m') :
    (∃ reason, source.readDirectory m.disk "." = .error reason
        ∧ fault = .readRootDirectory reason.text)
      ∨ (∃ loaded, context.loadAll source m = .ok (.ok loaded) m' ∧ loaded.entry = none
        ∧ fault = .noEntryPoint context.id)
      ∨ ∃ r, LoadRequest.Made context source m r ∧ Innermost context source fault r := by
  obtain ⟨outcome, between, loads, ran⟩ := Eval.exists_of_bind_ok ran
  cases outcome with
  | error fault' =>
    cases ran
    rcases exists_of_loadAll loads with unread | ⟨r, made, fails⟩
    · exact .inl unread
    · obtain ⟨s, made, fails, own, last⟩ := fails.innermost hosted discreet sound made
      exact .inr (.inr ⟨s, made, fails, own, last⟩)
  | ok loaded =>
    dsimp only at ran
    cases entry : loaded.entry with
    | some found =>
      rw [entry] at ran
      cases ran
    | none =>
      rw [entry] at ran
      cases ran
      exact .inr (.inl ⟨loaded, loads, entry, rfl⟩)

/-- Every fault of a request is the fault of the applet, unchanged.  An applet that does not load
has the fault of the root directory, has no entry point, or has the fault of an innermost request;
and a fault of executing a script names the file of that request. -/
theorem load_fails_as_innermost_request (hosted : context.Hosted)
    (discreet : context.HooksObey .uncaused) (sound : m.heap.Sound) :
    (∀ r fault, LoadRequest.Made context source m r → r.Fails context source fault →
        ∃ m', load context source m = .ok (.error fault) m')
      ∧ (∀ fault m', load context source m = .ok (.error fault) m' →
        (∃ reason, source.readDirectory m.disk "." = .error reason
            ∧ fault = .readRootDirectory reason.text)
          ∨ (∃ loaded, context.loadAll source m = .ok (.ok loaded) m' ∧ loaded.entry = none
            ∧ fault = .noEntryPoint context.id)
          ∨ ∃ r, LoadRequest.Made context source m r ∧ Innermost context source fault r)
      ∧ ∀ path message m', load context source m = .ok (.error (.execution path message)) m' →
        ∃ r, LoadRequest.Made context source m r ∧ r.file = path
          ∧ Innermost context source (.execution path message) r := by
  refine ⟨fun r fault made fails => made.fails fails,
    fun fault m' ran => exists_of_load hosted discreet sound ran, fun path message m' ran => ?_⟩
  rcases exists_of_load hosted discreet sound ran with ⟨_, _, different⟩ | ⟨_, _, _, different⟩
    | ⟨r, made, innermost⟩
  · cases different
  · cases different
  · exact ⟨r, made, innermost.file, innermost⟩

/-- An applet whose entry point loads a file that loads one which divides by zero. -/
def brokenFiles : MemoryFiles :=
  let main := "load(\"lib/middle.star\", \"x\")\ndef main():\n    return []\n"
  ((MemoryFiles.empty.insert "main.star" main.toUTF8).insert "lib/middle.star"
    "load(\"lib/../lib/broken.star\", \"x\")\n".toUTF8).insert "lib/broken.star"
    "x = 1 // 0\n".toUTF8

/-- The text of the fault of executing a file. -/
def executionFault? (path : String) :
    EStateM.Result Abort Machine (Except AppletFault Applet) → Option String
  | .ok (.error (.execution failed message)) _ => if failed = path then some message else none
  | _ => none

theorem exists_of_executionFault? {path message : String}
    (found : executionFault? path (load context source m) = some message) :
    ∃ m', load context source m = .ok (.error (.execution path message)) m' := by
  unfold executionFault? at found
  split at found
  · rename_i failed text m' ran
    split at found
    · rename_i same
      cases found
      rw [← same]
      exact ⟨m', ran⟩
    · cases found
  · cases found

theorem brokenFiles_fault :
    executionFault? "lib/broken.star"
      (load ⟨"app", .none⟩ (.memory brokenFiles) (.initial (.under [])))
      = some "app/lib/broken.star:1:1: integer division by zero" := by
  decide +kernel

/-- The fault names the innermost of three files. -/
theorem brokenFiles_fail_as_innermost : Context.Hosted ⟨"app", .none⟩
    ∧ Context.HooksObey .uncaused ⟨"app", .none⟩ ∧ (Machine.initial (.under [])).heap.Sound
    ∧ ∃ r, LoadRequest.Made ⟨"app", .none⟩ (.memory brokenFiles) (.initial (.under [])) r
      ∧ r.file = "lib/broken.star"
      ∧ Innermost ⟨"app", .none⟩ (.memory brokenFiles)
        (.execution "lib/broken.star" "app/lib/broken.star:1:1: integer division by zero") r := by
  have hosted := Context.hosted_of_none "app"
  have discreet := Context.hooksObey_of_none .uncaused "app"
  obtain ⟨m', ran⟩ := exists_of_executionFault? brokenFiles_fault
  exact ⟨hosted, discreet, Heap.sound_initial,
    (load_fails_as_innermost_request hosted discreet Heap.sound_initial).2.2 _ _ m' ran⟩

end Applet

end PixelApplet
