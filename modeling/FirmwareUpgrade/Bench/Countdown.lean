import FirmwareUpgrade.Controller.Notice
import FirmwareUpgrade.Queue.Worker

/-!
# A handler that counts down

The queue and its worker at work on numbers. The handler remembers every number that it sees and,
as long as it has a sender of its own, sends a positive number on to itself less one. The response
to a request is the count of numbers seen.
-/
namespace FirmwareUpgrade

/-- A handler of numbers. -/
structure Countdown where
  /-- The numbers handled so far. -/
  seen : Array Nat
  /-- Whether the handler can send. -/
  sends : Bool
  /-- The refusals that its own requests met. -/
  refusals : Array QueueError

namespace Countdown

/-- Sends a number on the handler's own queue and remembers a refusal. -/
def requeue {κ : Type} (s : Service Countdown Nat κ) (n : Nat) : Service Countdown Nat κ :=
  match s.channel.refusal? with
  | none => { s with channel := s.channel.send n }
  | some reason =>
    { s with state := { s.state with refusals := s.state.refusals.push reason } }

def handle {κ : Type} : Handler Countdown Nat κ Nat := fun s n =>
  let state := { s.state with seen := s.state.seen.push n }
  let s : Service Countdown Nat κ := { s with state }
  let s := if s.state.sends ∧ 0 < n then requeue s (n - 1) else s
  (s, s.state.seen.size)

/-- A number and all that follow from it are one more than the number. -/
def drainBudget {κ : Type} (c : Channel Nat κ) : Nat :=
  c.waiting.foldl (fun budget e => budget + (e.request + 1)) 0

end Countdown

/-- A countdown on its worker, together with the sender outside. Responses are addressed by the
number that was sent. -/
structure CountdownQueue where
  worker : Worker Countdown Nat Nat Nat
  /-- Whether the worker is still there; without it the handler is kept. -/
  hasWorker : Bool
  /-- Whether the sender outside is still there. -/
  hasSender : Bool

namespace CountdownQueue

/-- One thing to be done with the queue. -/
inductive Step where
  | send (value : Nat)
  /-- Sends a number and asks for the response. -/
  | sendWith (value : Nat)
  /-- Sends a number again and again until it is refused. -/
  | fill (value : Nat)
  /-- Handles requests until none waits. -/
  | runPending
  /-- Handles requests until so many numbers were seen, for so many milliseconds at most. -/
  | runUntil (seen timeout : Nat)
  /-- Takes the handler's sender away. The handler is reached through the worker. -/
  | stopRequeue
  /-- Drops the sender outside. -/
  | dropSender
  /-- Drops the worker with its queue and keeps the handler. -/
  | close
  /-- Takes all senders away and handles what is left. -/
  | runOut
deriving DecidableEq, Repr

/-- What a step is answered with. -/
inductive Outcome where
  | sent (result : Except QueueError Unit)
  | waited (result : Except WorkerError Unit)
  | accepted (n : Nat)
  | handled (n : Nat)
  | done
  /-- The step needs the sender or the worker, which is gone. -/
  | absent

/-- What is reported on the way to an outcome: only the number of requests handled. -/
def Outcome.notices : Outcome → List Notice
  | handled n => [.handled n]
  | _ => []

/-- A new queue. With `requeue` the handler has a sender of its own. -/
def new (capacity : Nat) (requeue : Bool) : CountdownQueue where
  worker :=
    .new ⟨#[], requeue, #[]⟩
      (if requeue then (Channel.bounded capacity).addSender else Channel.bounded capacity)
  hasWorker := true
  hasSender := true

def onChannel (q : CountdownQueue) (f : Channel Nat Nat → Channel Nat Nat) : CountdownQueue :=
  let service := q.worker.service
  { q with worker := { q.worker with service := { service with channel := f service.channel } } }

/-- Sends a number if the sender is still there. -/
def send (q : CountdownQueue) (value : Nat) (callback : Option Nat) : CountdownQueue × Outcome :=
  if q.hasSender then
    (q.onChannel (·.push ⟨value, callback⟩), .sent q.worker.service.channel.pushResult)
  else (q, .absent)

/-- Takes the handler's sender away, if it has one. -/
def stopRequeue (q : CountdownQueue) : CountdownQueue :=
  if q.worker.service.state.sends then
    let q := q.onChannel (·.dropSender)
    let service := q.worker.service
    { q with worker.service := { service with state := { service.state with sends := false } } }
  else q

/-- Drops the sender outside, if it is still there. -/
def dropSender (q : CountdownQueue) : CountdownQueue :=
  if q.hasSender then { q.onChannel (·.dropSender) with hasSender := false } else q

/-- Handles what waits, and gives the number of requests handled. -/
def drain (q : CountdownQueue) : CountdownQueue × Nat :=
  let (worker, count) :=
    q.worker.drain Countdown.handle (Countdown.drainBudget q.worker.service.channel) 0
  ({ q with worker }, count)

def step (q : CountdownQueue) : Step → CountdownQueue × Outcome
  | .send value => q.send value none
  | .sendWith value => q.send value (some value)
  | .fill value =>
    if q.hasSender then
      let channel := q.worker.service.channel
      let (channel, accepted) := channel.fill value channel.capacity 0
      (q.onChannel (fun _ => channel), .accepted accepted)
    else (q, .absent)
  | .runPending => if q.hasWorker then q.drain.map id .handled else (q, .absent)
  | .runUntil seen timeout =>
    if q.hasWorker then
      let (worker, result) :=
        q.worker.runUntil Countdown.handle (seen ≤ ·.seen.size) (.ofMilliseconds timeout)
          (seen - q.worker.service.state.seen.size)
      ({ q with worker }, .waited result)
    else (q, .absent)
  | .stopRequeue => if q.hasWorker then (q.stopRequeue, .done) else (q, .absent)
  | .dropSender => (q.dropSender, .done)
  | .close =>
    if q.hasWorker then ({ q.onChannel (·.close) with hasWorker := false }, .done)
    else (q, .absent)
  | .runOut =>
    if q.hasWorker then
      let (q, _) := q.stopRequeue.dropSender.drain
      ({ q.onChannel (·.close) with hasWorker := false }, .done)
    else (q, .absent)

end CountdownQueue

end FirmwareUpgrade
