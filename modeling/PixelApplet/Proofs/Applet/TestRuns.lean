import PixelApplet.Proofs.Applet.LoadedApplet
import PixelApplet.Proofs.Applet.Teardown
import PixelApplet.Proofs.Evaluation.Reporting

/-!
# Runs of tests

However a test ends, its run gives a result: the messages of the assertions that failed in it, in
the order in which they were reported, and then the text of what ended it.  Each test has a log of
its own, so nothing that one test reports is among the failures of another, and all tests of an
applet run one after the other.

The tests of a loaded applet are sorted by their files and names, and there are no two with the same
file and name, since the files are different and each binds a name once.
-/

namespace PixelApplet

/-! ## The order of tests -/

/-- The file and the name of a test. -/
def TestResult.place (result : TestResult) : String × String :=
  (result.file, result.name)

namespace Applet

variable {applet : Applet} {h : Heap}

end Applet

/-! ## Calls of tests -/

namespace Context

open Eval

variable {context : Context} (hooks : context.HooksHave Deaf)

include hooks

end Context

/-! ## Failures of tests -/

namespace Context

open Eval

variable {context : Context} {test : Value} {token : TokenRef} {m : Machine}

/-- The text of what stopped a test, if anything did. -/
def endingText (context : Context) (test : Value) (stopped : Option Abort) : List String :=
  stopped.toList.map fun abort => (context.faultOf test abort).text

/-- The failures of a test that runs on a thread of its own. -/
inductive TestFails (context : Context) (test : Value) (token : TokenRef) (m : Machine) :
    List String → Prop where
  /-- The host failed to set the thread up. -/
  | unprepared {abort : Abort} {m' : Machine} (stops : context.setUp m = .error abort m') :
    context.TestFails test token m (context.endingText test (some abort))
  /-- The test was called with a log that was empty. -/
  | called {ready : Machine} {raised : List FailedAssertion}
    (setsUp : context.setUp m = .ok () ready)
    (reports : (context.callUnder token test .empty).Reports (ready.logging []) raised) :
    context.TestFails test token m (raised.map FailedAssertion.message
      ++ context.endingText test ((context.callUnder token test .empty).stop? (ready.logging [])))

/-- What runs on the thread of a test. -/
def testing (context : Context) (test : Value) (token : TokenRef) : Eval Value :=
  context.inside (Eval.changeThread (Assertions.collecting [])) test .empty token

end Context

/-! ## One test after the other -/

namespace Applet

open Eval

variable {applet : Applet} {m m' : Machine} {results : List TestResult}

/-- A test runs under a token of its own and on a thread of its own, which ends with it. -/
inductive TestRun (applet : Applet) (test : Value) (m : Machine) :
    List String → Machine → Prop where
  | ends {token : TokenRef} {issued : Machine} {failures : List String}
    (issues : Eval.newToken m = .ok token issued)
    (fails : applet.context.TestFails test token (issued.started applet.context.id) failures) :
    applet.TestRun test m failures (endThread issued.thread
      ((applet.context.testing test token).after (issued.started applet.context.id)))

/-- Tests run one after the other, and each of them gives a result. -/
inductive TestRuns (applet : Applet) :
    List (String × String × Value) → Machine → List TestResult → Machine → Prop where
  | done (m : Machine) : applet.TestRuns [] m [] m
  | next {file name : String} {test : Value} {rest : List (String × String × Value)}
    {failures : List String} {m between m' : Machine} {results : List TestResult}
    (first : applet.TestRun test m failures between)
    (later : applet.TestRuns rest between results m') :
    applet.TestRuns ((file, name, test) :: rest) m (⟨file, name, failures⟩ :: results) m'

/-- The thread that waited for the tests goes on. -/
theorem TestRuns.resumes {tests : List (String × String × Value)}
    (runs : applet.TestRuns tests m results m') : m'.thread = m.thread := by
  induction runs with
  | done m => rfl
  | next first later ih =>
    obtain ⟨issues, -⟩ := first
    cases issues
    exact ih

theorem TestRuns.places {tests : List (String × String × Value)}
    (runs : applet.TestRuns tests m results m') :
    results.map TestResult.place = tests.map fun test => (test.1, test.2.1) := by
  induction runs with
  | done m => rfl
  | next first later ih => exact congrArg (List.cons _) ih

end Applet

end PixelApplet
