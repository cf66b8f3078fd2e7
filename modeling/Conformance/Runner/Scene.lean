import Conformance.Rehearsal

/-!
# Runners that are shared

A runner with those who hold its guard. A start takes the guard in one move and is set up in another, so
that other starts may come between the two; setting it up may fail.
-/

namespace Conformance.Runner

/-- What a runner is asked to start. -/
inductive Start where
  /-- A run over the suite. -/
  | run
  /-- A consent flow with a component, which may be unreadable. -/
  | flow (item : ConsentItem) (component : Except ComponentError Component)

/-- Set up a start with the context that it was made with: what is carried out then. -/
def Start.setUp (d : RunDefinition) (ctx : Context) : Start →
    Except ComponentError (Player.Role × Walk)
  | .run => .ok (.run, d.walk ctx)
  | .flow item component => do
      let component ← component
      let flow ← ConsentFlow.ofComponent component item (ConsentFlow.context d item ctx)
      return (.flow flow, flow.walk)

/-- Whether setting up a start fails. -/
def Start.fails (d : RunDefinition) (ctx : Context) (start : Start) : Bool :=
  !(start.setUp d ctx).isOk

/-- Who holds the guard of a runner. -/
inductive Holder where
  /-- A start that is being set up, with the context that it was made with. -/
  | settingUp (start : Start) (ctx : Context)
  /-- A run or consent flow. -/
  | carriesOut (role : Player.Role) (walk : Walk)
  /-- A run or consent flow that has told its end. -/
  | leaving

/-- A runner, those who hold its guard, and what they share with the owner. -/
structure Scene where
  /-- What runs are carried out with. -/
  definition : RunDefinition
  /-- The schemas that responses are judged by. -/
  schemas : Option SchemaCheck
  /-- The runner. -/
  runner : Runner
  /-- Those who hold its guard. -/
  holders : List Holder := []
  /-- The context of the owner, with which starts are made. -/
  ctx : Context
  /-- What is shared with the owner. -/
  controller : Controller
  /-- The channel of consent items. -/
  channel : Channel ConsentItem

/-- What a holder of the guard does. -/
inductive Act where
  /-- A start is set up. -/
  | setUp
  /-- A run or flow goes on. -/
  | advance
  /-- Its request gets an answer. -/
  | receive (answer : Answer)
  /-- It tells its end. -/
  | conclude
  /-- After that it gives the guard back. -/
  | leave
  /-- It is given up wherever it stands. -/
  | abandon

namespace Scene

variable [Idna]

/-- What may happen to a runner. -/
inductive Move where
  /-- A start is made. -/
  | attempt (start : Start)
  /-- One of the holders does something. -/
  | act (holder : Nat) (act : Act)
  /-- The owner asks to stop. -/
  | stop
  /-- The owner goes on with another context. -/
  | write (ctx : Context)

/-- Before the first start. -/
def idle (label : String) (d : RunDefinition) (schemas : Option SchemaCheck) (ctx : Context)
    (controller : Controller) (channel : Channel ConsentItem) : Scene where
  definition := d
  schemas := schemas
  runner := { label }
  ctx := ctx
  controller := controller
  channel := channel

/-- Report a result, if there is one. -/
def report (s : Scene) (result : Option TestResult) : Scene :=
  { s with controller := result.elim s.controller s.controller.report }

/-- Tell the end of a run or flow: a run has completed, a flow sends its item. -/
def tell (s : Scene) (ctx : Context) (ending : Walk.Ending) : Player.Role → Scene
  | .run => { s with controller := s.controller.complete }
  | .flow flow => { s with channel := (s.channel.send (flow.report ctx ending)).2 }

/-- A holder goes on as another one. -/
def goOn (s : Scene) (k : Nat) (holder : Holder) : Scene :=
  { s with holders := s.holders.set k holder }

/-- A holder gives the guard back. -/
def giveBack (s : Scene) (k : Nat) : Scene :=
  { s with runner := s.runner.release, holders := s.holders.eraseIdx k }

/-- What a holder does; what does not fit changes nothing. -/
def act (s : Scene) (k : Nat) : Holder → Act → Scene
  | .settingUp start ctx, .setUp =>
      match start.setUp s.definition ctx with
      | .ok (role, walk) => s.goOn k (.carriesOut role walk)
      | .error _ => s.giveBack k
  | .carriesOut role walk, .advance =>
      let (result, next) := walk.advance s.controller.stopped
      (s.report result).goOn k (.carriesOut role next)
  | .carriesOut role walk, .receive a =>
      let (result, next) := walk.receive s.schemas a
      (s.report result).goOn k (.carriesOut role next)
  | .carriesOut role walk, .conclude =>
      match walk.place with
      | .ended ending => (s.tell walk.ctx ending role).goOn k .leaving
      | _ => s
  | .carriesOut _ _, .abandon => s.giveBack k
  | .leaving, .leave => s.giveBack k
  | _, _ => s

/-- One move. -/
def step (s : Scene) : Move → Scene
  | .attempt start =>
      match s.runner.acquire with
      | .ok runner => { s with runner := runner, holders := s.holders ++ [.settingUp start s.ctx] }
      | .error _ => s
  | .act k a =>
      match s.holders[k]? with
      | some holder => s.act k holder a
      | none => s
  | .stop => { s with controller := s.controller.stop }
  | .write ctx => { s with ctx := ctx }

/-- The answer that a start gets in a move: a refused one at once, any other when it is set up. -/
def reply? (s : Scene) : Move → Option (Except StartError Unit)
  | .attempt _ =>
      match s.runner.acquire with
      | .ok _ => none
      | .error e => some (.error e)
  | .act k .setUp =>
      match s.holders[k]? with
      | some (.settingUp start ctx) =>
          match start.setUp s.definition ctx with
          | .ok _ => some (.ok ())
          | .error e => some (.error (.component e))
      | _ => none
  | _ => none

/-- Any number of moves. -/
def play (s : Scene) (moves : List Move) : Scene := moves.foldl step s

end Scene

end Conformance.Runner
