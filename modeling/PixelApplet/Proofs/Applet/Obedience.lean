import PixelApplet.Proofs.Applet.Hosting
import PixelApplet.Proofs.Evaluation.Discipline

/-!
# Loading obeys

Loading files, and invoking functions, obey every conduct that the hooks of the host obey, provided
that the conduct bears with threads of their own and with notes of what happens.
-/

namespace PixelApplet

/-- A conduct that looks everywhere, and that bears with what loading does besides evaluating. -/
structure Conduct.Loads (C : Conduct True) : Prop where
  everywhere : ∀ m, C.within m
  closes : ∀ {m m' : Machine} {stack stack' : CallStack} {ending : Option Abort},
    C.step (m.withStack stack) ending m' → C.step m ending (m'.withStack stack')
  ends : ∀ {m m' : Machine} {name : String} {ending : Option Abort},
    C.step (m.started name) ending m' → C.step m ending (Eval.endThread m.thread m')
  settles : ∀ {m m' m'' : Machine} {ending : Option Abort}, C.step m ending m' →
    m'.Untouched m'' → C.step m ending m''
  notes : ∀ {m : Machine} {progress : LoadProgress}, m.loading.history <+: progress.history →
    C.step m none { m with loading := progress }

/-- A load statement that was noted may fail. -/
def Conduct.Relays (C : Conduct True) : Prop :=
  ∀ {m m' : Machine} {path module : String} {e : EvalError},
    C.step { m with loading := m.loading.after (.loads path module) } none m' →
      C.step m (some (.error e)) m'

/-- The hooks of the host obey a conduct. -/
structure Context.HooksObey (C : Conduct True) (context : Context) : Prop where
  moduleLoader : ∀ supply ∈ context.options.moduleLoader, ∀ name, Eval.Obeys C (supply name)
  initializers : ∀ initializer ∈ context.options.initializers, Eval.Obeys C initializer

theorem Context.hooksObey_of_none (C : Conduct True) (id : String) :
    Context.HooksObey C ⟨id, .none⟩ :=
  ⟨nofun, nofun⟩

variable {C : Conduct True} {context : Context}

theorem Conduct.Loads.loose (loads : C.Loads) : C.loose.Loads where
  everywhere := loads.everywhere
  closes := loads.closes
  ends := loads.ends
  settles step untouched := loads.settles step untouched
  notes := loads.notes

theorem Conduct.Loads.frames (loads : C.Loads) : Eval.Frames C C :=
  Eval.frames_of_enclosing (fun _ _ => loads.everywhere _) fun _ step => loads.closes step

theorem Conduct.Loads.discipline (loads : C.Loads) :
    Eval.Discipline fun act => Eval.Obeys C act :=
  Eval.Frames.discipline loads.frames

namespace Eval

variable {α : Type}

theorem Modest.watch (token : TokenRef) : Modest True (Context.watch token) := by
  refine of_ok fun m => ⟨_, _, rfl, ?_⟩
  cases (m.token token).reason with
  | none => exact ⟨rfl, rfl, id, rfl⟩
  | some reason => exact ⟨rfl, rfl, fun told => told_cancelCell told, rfl⟩

/-- An action whose failure is taken as a result may be stopped by anything. -/
theorem Concurs.recover {act : Eval α} (obeys : Obeys C.loose act) :
    Obeys C (Eval.recover act) := by
  intro m inside
  have behaves := (obeys m inside).2
  refine ⟨rfl, ?_⟩
  unfold Behaves stop? after Eval.recover
  unfold Behaves after at behaves
  rcases ran : act m with ⟨value, m'⟩ | ⟨abort, m'⟩
  · rw [ran] at behaves
    exact behaves
  · rw [ran] at behaves
    exact behaves

theorem Concurs.onThread (loads : C.Loads) {act : Eval α} (obeys : Obeys C act) (name : String) :
    Obeys C (Eval.onThread name act) := by
  intro m _
  unfold Behaves stop? after
  rw [onThread_eq]
  exact obeys.enclosed (loads.everywhere _) fun _ _ step => loads.ends step

theorem Concurs.followedBy (loads : C.Loads) {act : Eval α} {finish : Machine → Machine}
    (obeys : Obeys C act) (untouched : ∀ m : Machine, m.Untouched (finish m)) :
    Obeys C (Eval.followedBy act finish) :=
  fun m _ => obeys.enclosed (loads.everywhere m) fun _ m' step => loads.settles step (untouched m')

theorem Concurs.note (loads : C.Loads) {f : LoadProgress → LoadProgress}
    (longer : ∀ progress, progress.history <+: (f progress).history) :
    Obeys C (Context.note f) :=
  fun _ _ => ⟨rfl, loads.notes (longer _)⟩

end Eval

/-- Where anything may stop a load statement, it is enough that what finds modules obeys. -/
theorem Loader.obeys_loose {find : String → Eval (Except LoadFault ModuleRef)}
    (finds : ∀ module, Eval.Obeys C.loose (find module)) : Loader.Obeys C.loose (some find) := by
  rintro _ ⟨⟩ module
  exact ⟨finds module, fun m fault m' inside ran _ _ => (finds module m inside).2.ok ran⟩

/-- What a host does with an applet obeys. -/
theorem Conduct.Loads.hosting (loads : C.Loads) (name : String) :
    Eval.Hosting name (fun act => Eval.Obeys C act) (fun act => Eval.Obeys C.loose act) where
  outer := loads.discipline
  inner := loads.loose.discipline
  loosen obeys := obeys.loose
  recover := Eval.Concurs.recover
  onThread obeys := Eval.Concurs.onThread loads obeys name
  printsTo target := by
    have modest : Eval.Modest True
        (Eval.changeThread fun thread => { thread with printing := target }) :=
      .modify fun _ => ⟨rfl, rfl, id, rfl⟩
    exact modest.concurs
  collects messages := by
    have modest : Eval.Modest True (Eval.changeThread (Assertions.collecting messages)) :=
      .modify fun _ => ⟨rfl, rfl, id, rfl⟩
    exact modest.concurs
  looksBack := by
    have modest : Eval.Modest True (Eval.read fun m => m.unplaced.thread) := fun m _ =>
      ⟨rfl, .refl m, trivial⟩
    exact modest.concurs
  notes := Eval.Concurs.note loads
  newToken := Eval.Modest.newToken.concurs
  watching token obeys := (Eval.Modest.watch token).concurs.bind fun _ =>
    obeys.followedBy loads.loose fun _ => ⟨rfl, rfl, id, rfl⟩
  asks finds _ _ _ := Eval.Concurs.loadModule (Loader.obeys_loose finds)

theorem Context.HooksObey.hooksHave (hooks : context.HooksObey C) :
    context.HooksHave fun act => Eval.Obeys C act :=
  ⟨hooks.moduleLoader, hooks.initializers⟩

namespace Context

open Eval

section Loading

variable (loads : C.Loads) (hooks : context.HooksObey C)
include loads hooks

theorem setUp_obeys : Obeys C context.setUp :=
  (loads.hosting context.id).setUp hooks.hooksHave

/-- While an applet runs, its load statements obey, whatever stops them. -/
theorem loader_obeys_loose : context.loader.Obeys C.loose :=
  Loader.obeys_loose fun name =>
    (loads.discipline.loadForeign hooks.hooksHave name).loose

/-- Making sure that a file is loaded obeys, however deep it leads. -/
theorem ensureLoaded_obeys (source : FileSource) (depth : Nat) (path : String)
    (chain : List String) : Obeys C (context.ensureLoaded source depth path chain) :=
  (loads.hosting context.id).ensureLoaded hooks.hooksHave source depth path chain

/-- What a load statement finds, after it was noted, while an applet is being loaded. -/
def findNoted (context : Context) (source : FileSource)
    (ensure : String → Eval (Except AppletFault ModuleRef)) (module : String) :
    Eval (Except LoadFault ModuleRef) := do
  if ← Eval.read fun m => source.contains m.disk (Path.clean module) then
    return (← ensure module).mapError .sibling
  else context.loadModule module

variable {path : String} {source : FileSource}
  {ensure : String → Eval (Except AppletFault ModuleRef)}
  (ensures : ∀ module, Obeys C (ensure module))
include ensures

theorem findNoted_obeys (module : String) :
    Obeys C (context.findNoted source ensure module) := by
  refine (Routine.look _ (fun _ _ => rfl) (fun _ => rfl) fun _ => rfl).concurs.bind fun present => ?_
  split
  · exact (ensures module).bind fun _ => (Routine.pure _).concurs
  · exact loads.discipline.loadForeign hooks.hooksHave module

theorem loadBy_obeys (module : String) :
    Obeys C (context.loadBy source path ensure module) :=
  (loads.hosting context.id).loadBy hooks.hooksHave ensures module

/-- While an applet is being loaded, its load statements obey if making sure of files does. -/
theorem loaderBy_obeys (relays : C.Relays) :
    Loader.Obeys C (some (context.loadBy source path ensure)) := by
  rintro find ⟨⟩ module
  refine ⟨loadBy_obeys loads hooks ensures module, ?_⟩
  intro m fault m' _ ran e _
  exact relays ((findNoted_obeys loads hooks ensures module _ (loads.everywhere _)).2.ok ran)

end Loading

end Context

end PixelApplet
