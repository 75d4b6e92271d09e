import Switchyard.Engine
import Switchyard.Rehearsal.Roster
set_option autoImplicit false

/-! Running an engine on virtual time. Time stands still while a request can take a step and moves
straight to the next moment at which one that waits can go on. A request that is cancelled while it
waits goes on as soon as the request that is running has come to wait; those that the end of the
engine cancels go on in the order of the roster. -/
namespace Switchyard.Rehearsal

structure Task where
  name : String
  seq : Nat
  aborted : Bool := false
  joined : Bool := false

/-- A task that purges expired traces at regular intervals. -/
structure Cleanup where
  nextTick : Nat
  finished : Bool := false

structure Timeline where
  engine : Engine
  state : Engine.State
  /-- Virtual milliseconds since the beginning. -/
  clock : Nat := 0
  /-- The wall clock, which virtual time does not move. -/
  wall : Timestamp := { nanos := 0 }
  /-- When each waiting request goes on. -/
  wakeUps : List (Nat × Nat) := []
  tasks : List Task := []
  /-- The replies of the requests that have ended. -/
  replies : List (Nat × Reply) := []
  effects : List Effect := []
  cleanups : List Cleanup := []
  /-- Those who wait for the end of the engine. -/
  roster : Roster := {}

inductive Alarm where
  | request (seq : Nat)
  | cleanup (index : Nat)

namespace Timeline

def new (engine : Engine) : Timeline := { engine := engine, state := engine.initial }

/-- The wall clock at the next full millisecond. -/
def tick (timeline : Timeline) : Timeline :=
  { timeline with wall := Timestamp.ofMillis (timeline.wall.millis + 1) }

def runs (timeline : Timeline) : Member → Bool
  | .request seq => (timeline.state.find? seq).isSome
  | .cleanup index => timeline.cleanups[index]?.any fun cleanup => !cleanup.finished

/-- Strikes those off the roster who have ended. -/
def updateRoster (timeline : Timeline) : Timeline :=
  { timeline with roster := timeline.roster.keep timeline.runs }

/-- Puts somebody on the roster, unless the engine has stopped. -/
def enroll (timeline : Timeline) (member : Member) : Timeline :=
  if timeline.state.stopped then timeline
  else { timeline with roster := timeline.roster.join member }

/-- Lets one event happen a moment later on the wall clock. -/
def perform (timeline : Timeline) (event : Engine.Event) : Timeline :=
  let now : Timestamp := { nanos := timeline.wall.nanos + 1 }
  let (state, happening) := timeline.engine.handle now timeline.state event
  updateRoster { timeline with
    state := state
    wall := now
    effects := timeline.effects ++ happening.effects
    replies := timeline.replies ++ happening.ended.toList }

def reply? (timeline : Timeline) (seq : Nat) : Option Reply :=
  (timeline.replies.find? fun reply => reply.1 = seq).map (·.2)

def waitsFor? (timeline : Timeline) (seq : Nat) : Option Work :=
  match timeline.state.find? seq with
  | some { phase := .walking (.inside _ _ run), .. } => some run.work
  | _ => none

/-- Steps a request until it waits or has ended. -/
def settle (seq : Nat) : Nat → Timeline → Timeline
  | 0, timeline => timeline
  | fuel + 1, timeline =>
    match timeline.waitsFor? seq with
    | some work =>
      let due := timeline.clock + timeline.engine.controller.executor.delayMs work
      { timeline with wakeUps := timeline.wakeUps ++ [(seq, due)] }
    | none =>
      if (timeline.state.find? seq).isSome then settle seq fuel (timeline.perform (.step seq))
      else timeline

/-- Lets a request that waited go on. -/
def wake (timeline : Timeline) (seq : Nat) : Timeline :=
  let timeline := { timeline with
    wakeUps := timeline.wakeUps.filter fun wakeUp => wakeUp.1 ≠ seq }
  settle seq timeline.engine.maxSteps (timeline.perform (.step seq))

/-- The cancelled requests in the order in which they go on. -/
def cancelledSeqs (timeline : Timeline) : List Nat :=
  let isCancelled := fun seq => (timeline.state.find? seq).any fun live => live.cancelled
  timeline.roster.callOrder.filterMap fun member =>
    match member with
    | .request seq => if isCancelled seq then some seq else none
    | .cleanup _ => none

/-- Lets every cancelled request go on. -/
def wakeCancelled (timeline : Timeline) : Timeline :=
  timeline.cancelledSeqs.foldl wake timeline

/-- Begins a request, which goes on until it waits. -/
def begin (timeline : Timeline) (request : Request) : Timeline :=
  let seq := timeline.state.nextSeq
  settle seq timeline.engine.maxSteps
    ((timeline.perform (.start request)).enroll (.request seq))

def updateCleanup (timeline : Timeline) (index : Nat) (change : Cleanup → Cleanup) : Timeline :=
  updateRoster { timeline with cleanups := timeline.cleanups.modify index change }

/-- Purges once, unless the retention reaches back before the calendar: then cleaning up ends. -/
def purge (timeline : Timeline) (index : Nat) : Timeline :=
  let interval := timeline.engine.settings.cleanupIntervalSecs.toNat * 1000
  match timeline.state.recorder.expiryCutoff? timeline.wall with
  | some cutoff =>
    (timeline.perform (.purge cutoff)).updateCleanup index fun cleanup =>
      { cleanup with nextTick := cleanup.nextTick + interval }
  | none => timeline.updateCleanup index fun cleanup => { cleanup with finished := true }

/-- Begins to clean up; an interval of nothing ends it at once. -/
def startCleanup (timeline : Timeline) : Timeline :=
  let interval := timeline.engine.settings.cleanupIntervalSecs.toNat * 1000
  let cleanup : Cleanup := ⟨timeline.clock + interval, interval = 0 || timeline.state.stopped⟩
  let index := timeline.cleanups.length
  updateRoster ({ timeline with
    cleanups := timeline.cleanups ++ [cleanup] }.enroll (.cleanup index))

/-- The alarms of the tasks that purge; their indices count from a given one. -/
def cleanupAlarms : Nat → List Cleanup → List (Nat × Alarm)
  | _, [] => []
  | index, cleanup :: rest =>
    (if cleanup.finished then [] else [(cleanup.nextTick, .cleanup index)]) ++
      cleanupAlarms (index + 1) rest

/-- The first thing to happen; of two at the same time the one that began to wait first. -/
def nextAlarm? (timeline : Timeline) : Option (Nat × Alarm) :=
  let requests := timeline.wakeUps.map fun wakeUp => (wakeUp.2, Alarm.request wakeUp.1)
  (requests ++ cleanupAlarms 0 timeline.cleanups).foldl (fun best alarm =>
    match best with
    | none => some alarm
    | some (due, _) => if alarm.1 < due then some alarm else best) none

def ring (timeline : Timeline) : Alarm → Timeline
  | .request seq => timeline.wake seq
  | .cleanup index => timeline.purge index

/-- Lets time pass up to a moment, that moment included. -/
def passUntil (moment : Nat) : Nat → Timeline → Timeline
  | 0, timeline => { timeline with clock := max timeline.clock moment }
  | fuel + 1, timeline =>
    match timeline.nextAlarm? with
    | some (due, alarm) =>
      if due ≤ moment then
        passUntil moment fuel ({ timeline with clock := max timeline.clock due }.ring alarm)
      else { timeline with clock := max timeline.clock moment }
    | none => { timeline with clock := max timeline.clock moment }

/-- No more alarms than these can ring before a moment. -/
def maxAlarms (timeline : Timeline) (moment : Nat) : Nat :=
  timeline.state.live.length * timeline.engine.maxSteps +
    timeline.cleanups.length * ((moment - timeline.clock) / 1000 + 1)

def sleep (timeline : Timeline) (ms : Nat) : Timeline :=
  let timeline := timeline.wakeCancelled
  let moment := timeline.clock + ms
  passUntil moment (timeline.maxAlarms moment) timeline

/-- Lets everything that can go on do so, without time passing. -/
def catchUp (timeline : Timeline) : Timeline := timeline.sleep 0

/-- Lets time pass until a request has ended; others that are due by then go on as well. -/
def waitFor (seq : Nat) : Nat → Timeline → Timeline
  | 0, timeline => timeline
  | fuel + 1, timeline =>
    match timeline.wakeUps.find? fun wakeUp => wakeUp.1 = seq with
    | some (_, due) => waitFor seq fuel (passUntil due (timeline.maxAlarms due) timeline)
    | none => timeline

/-- Lets time pass until a request has ended that goes on before all others due with it, which are
then left waiting. -/
def attend (seq : Nat) : Nat → Timeline → Timeline
  | 0, timeline => timeline
  | fuel + 1, timeline =>
    match timeline.wakeUps.find? fun wakeUp => wakeUp.1 = seq with
    | some (_, due) =>
      let timeline := timeline.wakeCancelled
      let timeline := passUntil (due - 1) (timeline.maxAlarms due) timeline
      attend seq fuel ({ timeline with clock := due }.wake seq)
    | none => timeline

/-- Begins a request that is run beside whatever else happens. -/
def spawn (timeline : Timeline) (name : String) (request : Request) : Timeline :=
  let timeline := timeline.catchUp
  let task : Task := { name := name, seq := timeline.state.nextSeq }
  ({ timeline with tasks := timeline.tasks ++ [task] }.begin request).catchUp

def task? (timeline : Timeline) (name : String) : Option Task :=
  timeline.tasks.find? fun task => task.name = name

def updateTask (timeline : Timeline) (name : String) (change : Task → Task) : Timeline :=
  { timeline with tasks := timeline.tasks.map fun task =>
      if task.name = name then change task else task }

/-- Waits for a task; an aborted one has no reply. -/
def join (timeline : Timeline) (name : String) : Timeline × Option Reply :=
  match timeline.task? name with
  | none => (timeline, none)
  | some task =>
    let timeline := if (timeline.reply? task.seq).isSome then timeline
      else waitFor task.seq timeline.engine.maxSteps timeline.wakeCancelled
    (timeline.updateTask name fun task => { task with joined := true }, timeline.reply? task.seq)

/-- Begins a request and attends to it until it has ended. -/
def wire (timeline : Timeline) (request : Request) : Timeline × Option Reply :=
  let seq := timeline.state.nextSeq
  let timeline := attend seq timeline.engine.maxSteps (timeline.begin request)
  (timeline, timeline.reply? seq)

/-- Gives up a request that has not ended. -/
def abort (timeline : Timeline) (name : String) : Timeline :=
  match timeline.task? name with
  | none => timeline
  | some task =>
    if (timeline.reply? task.seq).isSome then timeline
    else
      let timeline := timeline.perform (.drop task.seq)
      let wakeUps := timeline.wakeUps.filter fun wakeUp => wakeUp.1 ≠ task.seq
      ({ timeline with wakeUps := wakeUps }.updateTask name fun task =>
        { task with aborted := true }).catchUp

/-- Cancels by an id and lets the request that this wakes go on. -/
def cancel (timeline : Timeline) (correlationId : String) : Timeline × Bool :=
  ((timeline.perform (.cancel correlationId)).catchUp, (timeline.state.cancel correlationId).2)

def shutdown (timeline : Timeline) : Timeline :=
  let timeline := (timeline.perform .shutdown).catchUp
  updateRoster { timeline with
    cleanups := timeline.cleanups.map fun cleanup => { cleanup with finished := true } }

def inFlight (timeline : Timeline) : Nat := timeline.state.inFlight.size

/-- The tasks that have ended and were not waited for, in order of their names. -/
def finished (timeline : Timeline) : List String :=
  ((timeline.tasks.filter fun task =>
    ((timeline.reply? task.seq).isSome || task.aborted) && !task.joined).map (·.name)).mergeSort
      fun first second => decide (first ≤ second)

end Timeline

end Switchyard.Rehearsal
