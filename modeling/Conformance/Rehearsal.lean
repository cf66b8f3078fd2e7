import Conformance.Consent.Acquisition
import Conformance.Controller
import Conformance.Rehearsal.Script
import Conformance.Run.Note

/-!
# Rehearsals

Runs and consent flows against a script, on a clock of their own. Everything that has been started
takes turns: one whose turn it is goes on until a delayed answer makes it rest, and time passes only
when all of them rest. Those that have just been started come first, in the order of their start;
then whoever has the earliest answer, and of answers at one time the one that was asked for first.
-/

namespace Conformance

/-- What a player carries out. -/
inductive Player.Role where
  /-- A run over a suite. -/
  | run
  /-- A consent flow. -/
  | flow (flow : ConsentFlow)

/-- What a player waits for. -/
inductive Player.Pause where
  /-- For its first turn. -/
  | fresh
  /-- For an answer: when it comes, and how many others were asked for before it. -/
  | until (due order : Nat) (answer : Answer)

/-- A run or consent flow that has been started. -/
structure Player where
  /-- What it carries out. -/
  role : Player.Role
  /-- Where it stands. -/
  walk : Walk
  /-- What it waits for. -/
  pause : Player.Pause := .fresh

/-- Runs and consent flows against a script. -/
structure Rehearsal where
  /-- What they are carried out with. -/
  definition : RunDefinition := {}
  /-- The schemas that responses are judged by. -/
  schemas : Option SchemaCheck := none
  /-- The answers. -/
  script : List ScriptRule := []
  /-- What they share with their owner. -/
  controller : Controller := {}
  /-- The runner that carries out one of them at a time. -/
  runner : Runner := .forSuite
  /-- The channel of consent items. -/
  channel : Channel ConsentItem := { capacity := Feed.capacity }
  /-- Who has been started and has not ended, in the order of start. -/
  players : List Player := []
  /-- The nanoseconds that have passed. -/
  now : Nat := 0
  /-- How many delayed answers have been asked for. -/
  delayed : Nat := 0
  /-- The requests that were sent. -/
  requests : List PreparedRequest := []
  /-- The contexts that runs have ended with. -/
  contexts : List Context := []
  /-- Whether someone takes every item off the channel as it is sent. -/
  listening : Bool := false
  /-- The items that were taken off the channel then, with the time of each. -/
  received : List (Nat × ConsentItem) := []
  /-- What was logged. -/
  notes : List RunNote := []

namespace Rehearsal

variable [Idna]

/-- Log notes. -/
def note (r : Rehearsal) (notes : List RunNote) : Rehearsal := { r with notes := r.notes ++ notes }

/-- Report a result, if there is one. -/
def report (r : Rehearsal) : Option TestResult → Rehearsal
  | none => r
  | some result => { r with controller := r.controller.report result }

/-- Send a request: what the script plays for it. -/
def send (r : Rehearsal) (request : PreparedRequest) : ScriptCue × Rehearsal :=
  let (cue, script) := Script.play request r.script
  (cue, { r with
    script := script
    requests := r.requests ++ [request]
    controller := if cue.stops then r.controller.stop else r.controller })

/-- Take everything off the channel that is waiting in it. -/
def listen (r : Rehearsal) : Rehearsal :=
  let (items, channel) := r.channel.receiveAll
  { r with channel := channel, received := r.received ++ items.map fun i => (r.now, i) }

/-! ## Turns -/

/-- Bring a run or flow to its end. -/
def finish (r : Rehearsal) (role : Player.Role) (ctx : Context) (ending : Walk.Ending) :
    Rehearsal :=
  match role with
  | .run => { r with
      controller := r.controller.complete
      contexts := r.contexts ++ [ctx]
      runner := r.runner.release }
  | .flow flow =>
      let item := flow.report ctx ending
      let (outcome, channel) := r.channel.send item
      let r := { r.note (RunNote.ofSending item outcome) with
        channel := channel
        runner := r.runner.release }
      if r.listening then r.listen else r

/-- The notes on a walk that takes up its next test case. -/
def beginningNotes (r : Rehearsal) (role : Player.Role) (walk : Walk) : List RunNote :=
  match walk.place with
  | .before (test :: _) =>
      if r.controller.stopped then []
      else
        let beginning := RunNote.ofBeginning r.definition.fragments test (test.begin walk.ctx)
        match role with
        | .run => [RunNote.ofContext r.definition.fragments walk.ctx, beginning]
        | .flow _ => [beginning]
  | _ => []

/-- Take in an answer. -/
def answer (r : Rehearsal) (walk : Walk) (answer : Answer) : Walk × Rehearsal :=
  match walk.place with
  | .at trial _ =>
      let (result, next) := walk.receive r.schemas answer
      let notes := (result.map (RunNote.ofAnswer trial.test answer)).getD []
      (next, (r.note notes).report result)
  | _ => (walk, r)

/-- Go on until a delayed answer is to be waited for, or the end is reached. The first argument
bounds the number of steps. -/
def proceed : Nat → Player.Role → Walk → Rehearsal → Rehearsal
  | 0, _, _, r => r
  | fuel + 1, role, walk, r =>
      match walk.place with
      | .before _ =>
          let (result, next) := walk.advance r.controller.stopped
          proceed fuel role next ((r.note (r.beginningNotes role walk)).report result)
      | .at trial _ =>
          let (cue, r) := r.send trial.request
          if cue.delay = 0 then
            let (next, r) := r.answer walk cue.answer
            proceed fuel role next r
          else
            let pause := .until (r.now + cue.delay) r.delayed cue.answer
            { r with
              players := r.players ++ [⟨role, walk, pause⟩]
              delayed := r.delayed + 1 }
      | .ended ending => r.finish role walk.ctx ending

/-- The turn of a player. -/
def turn (r : Rehearsal) (p : Player) : Rehearsal :=
  let steps := 2 * p.walk.remaining + 2
  match p.pause with
  | .fresh => proceed steps p.role p.walk r
  | .until due _ answer =>
      let (walk, r) := { r with now := due }.answer p.walk answer
      proceed steps p.role walk r

/-! ## The order of turns -/

/-- Whether the turn of `p` comes before that of `q`, which has been started later. -/
def precedes (p q : Player) : Bool :=
  match p.pause, q.pause with
  | .fresh, _ => true
  | .until .., .fresh => false
  | .until due order _, .until due' order' _ => due < due' || due == due' && order < order'

/-- Whether the turn of a player comes before a time. -/
def isDue (deadline : Option Nat) (p : Player) : Bool :=
  match p.pause, deadline with
  | .until due _ _, some time => due < time
  | _, _ => true

/-- Take out the player whose turn is next. -/
def next? : List Player → Option (Player × List Player)
  | [] => none
  | p :: rest =>
      match next? rest with
      | none => some (p, rest)
      | some (q, others) => if precedes p q then some (p, rest) else some (q, p :: others)

/-- Let turns pass while the clock is before a time, or until something holds. The first argument
bounds the number of turns. -/
def playTurns (deadline : Option Nat) (done : Rehearsal → Bool) : Nat → Rehearsal → Rehearsal
  | 0, r => r
  | fuel + 1, r =>
      if done r then r
      else
        match next? r.players with
        | none => { r with now := deadline.getD r.now }
        | some (p, others) =>
            if isDue deadline p then
              playTurns deadline done fuel (turn { r with players := others } p)
            else { r with now := deadline.getD r.now }

/-- A bound on the turns that can still be taken. -/
def turnsLeft (r : Rehearsal) : Nat := r.players.foldr (fun p n => p.walk.remaining + 2 + n) 1

/-- Let turns pass while the clock is before a time, or until something holds. -/
def playUntil (r : Rehearsal) (deadline : Option Nat) (done : Rehearsal → Bool) : Rehearsal :=
  playTurns deadline done r.turnsLeft r

/-! ## Commands -/

/-- Start a run over the suite. -/
def startRun (r : Rehearsal) (ctx : Context) : Except StartError Rehearsal := do
  let runner ← r.runner.acquire
  return { r with
    runner := runner
    players := r.players ++ [{ role := .run, walk := r.definition.walk ctx }] }

/-- Start a consent flow. -/
def startFlow (r : Rehearsal) (item : ConsentItem) (ctx : Context) (acquisition : Acquisition) :
    Except StartError Rehearsal := do
  let (flow, runner) ← ConsentFlow.begin r.runner r.definition item ctx acquisition
  return { r with
    runner := runner
    players := r.players ++ [{ role := .flow flow, walk := flow.walk }] }

/-- Execute one test case on its own; others take their turns while its answer is waited for. -/
def execute (r : Rehearsal) (test : TestCase) (ctx : Context) :
    (TestResult × Context) × Rehearsal :=
  let beginning := test.begin ctx
  let r := r.note [RunNote.ofBeginning r.definition.fragments test beginning]
  match beginning with
  | .error result => ((result, ctx), r)
  | .ok trial =>
      let (cue, r) := r.send trial.request
      let r := if cue.delay = 0 then r else r.playUntil (some (r.now + cue.delay)) fun _ => false
      let (result, ctx) := trial.conclude r.schemas cue.answer
      ((result, ctx), r.note (RunNote.ofAnswer test cue.answer result))

/-- Wait until a run has completed, for a time at most. -/
def awaitCompletion (r : Rehearsal) (patience : Nat) : Rehearsal :=
  r.playUntil (some (r.now + patience)) (·.controller.completed)

/-- Wait until everything that has been started has ended. -/
def awaitAll (r : Rehearsal) : Rehearsal := r.playUntil none fun _ => false

/-! ## Acquisitions -/

/-- Whether enough items have been received. -/
def hasReceived (required : Nat) (r : Rehearsal) : Bool := decide (required ≤ r.received.length)

/-- What is seen of the channel: each item when it was received, and that the channel closed when
nobody was left to send. -/
def feed (r : Rehearsal) : Feed :=
  let sent := r.received.map fun s => (s.1, FeedEvent.sent s.2)
  if r.players.isEmpty then sent ++ [(((r.received.getLast?).map (·.1)).getD 0, .closed)] else sent

/-- Acquire the consents of specifications: the outcome, and the shared context after it. Flows that
were started before one is refused would go on. -/
def acquire (r : Rehearsal) (specs : List SpecTokens) (ctx : Context) :
    (Except ConsentError (List ConsentItem) × Context) × Rehearsal :=
  match Acquisition.dispatch r.definition ctx (Acquisition.wanted specs) with
  | (flows, some e) =>
      ((.error (.notStarted e), ctx), { r with
        players := r.players ++ flows.map fun f => { role := .flow f, walk := f.walk } })
  | (flows, none) =>
      let timeout := r.definition.settings.consentTimeout
      let started := { r with
        listening := true
        players := flows.map fun f => { role := .flow f, walk := f.walk } }
      let played := started.playUntil (some timeout) (hasReceived flows.length)
      let outcome := waitForItems flows.length timeout played.feed
      ((outcome, Acquisition.conclude ctx outcome), played)

/-- Acquire the consents of specifications on a machine, which stops the program after the flows were
started if the wait for their items cannot begin. -/
def acquireOn (m : Machine) (r : Rehearsal) (specs : List SpecTokens) (ctx : Context) :
    Except Halt ((Except ConsentError (List ConsentItem) × Context) × Rehearsal) := do
  match Acquisition.dispatch r.definition ctx (Acquisition.wanted specs) with
  | (_, some _) => return r.acquire specs ctx
  | (flows, none) =>
      let _ ← m.beginWait flows.length r.definition.settings.consentTimeout
      return r.acquire specs ctx

end Rehearsal

end Conformance
