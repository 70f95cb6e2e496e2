import FirmwareUpgrade.Bench.Tap
import FirmwareUpgrade.Installation

/-!
# A controller on the bench

An installation whose driver is a tapped accelerator, worked step by step: host events, requests,
held completions and the worker are set in motion one at a time, in any order.
-/
namespace FirmwareUpgrade

/-- A controller over a tapped accelerator. Responses are addressed by the number of the step that
asked for them. -/
abbrev Bench := Installation Tap Nat

namespace Bench

/-- One thing to be done on the bench. -/
inductive Step where
  | plug (vendor product : UInt16)
  | unplug (vendor product : UInt16)
  | event (vendor product : UInt16) (host : HostHandle) (device : DeviceHandle) (event : HostEvent)
  | send (request : Request)
  /-- Sends a request and asks for the response. -/
  | sendWith (request : Request)
  /-- Sends a request again and again until it is refused. -/
  | fill (request : Request)
  /-- Handles requests until none waits. -/
  | run
  /-- Handles requests until the controller is in a phase, for so many milliseconds at most. -/
  | runUntil (phase : Phase) (timeout : Nat)
  /-- Calls the oldest held completion. -/
  | complete
  /-- Runs and completes by turns until the controller is in a phase or nothing is held. -/
  | stepUntil (phase : Phase)
  /-- Runs and completes by turns until nothing is held. -/
  | runToEnd
  /-- Handles a request directly, past the queue. -/
  | handle (request : Request)
  /-- Closes the queue and keeps the controller. -/
  | close

/-- What a step is answered with. -/
inductive Outcome where
  | status (status : EventStatus)
  | sent (result : Except QueueError Unit)
  | waited (result : Except WorkerError Unit)
  | count (n : Nat)
  | flag (b : Bool)
  | phase (phase : Phase)
  | done
  /-- The step needs the worker, which is gone. -/
  | absent

def new (accelerator : Accelerator Tapped) (twists : List Twist) (image : Bytes)
    (config : Config) : Bench :=
  Installation.new (Tap.new accelerator twists) image config

def hasHeld (b : Bench) : Bool :=
  Tap.backlog.size b.driver != 0

/-- Handles requests until none waits. Without a worker there is nothing to handle and nothing to
report. -/
def run (b : Bench) : Bench × Nat :=
  if b.channel.isOpen then b.runPending Tap.driver else (b, 0)

/-- Runs, stops in the wanted phase, and otherwise completes, as long as something is held. -/
def stepUntil (phase : Phase) (fuel : Nat) (b : Bench) : Bench × Bool :=
  let (b, _) := b.run
  if b.controller.phase = phase then (b, true)
  else
    match fuel with
    | 0 => (b, false)
    | fuel + 1 =>
      if hasHeld b then stepUntil phase fuel (b.deliverNext Tap.backlog) else (b, false)

/-- Sends the same request until it is refused. -/
def fill (b : Bench) (request : Request) : Bench × Nat :=
  let (channel, accepted) := b.channel.fill request b.channel.capacity 0
  (b.modify fun s => { s with channel }, accepted)

/-- Does one step; `number` addresses the response that it may ask for. -/
def step (b : Bench) (number : Nat) : Step → Bench × Outcome
  | .plug vendor product => (b.plug vendor product).map id .status
  | .unplug vendor product => (b.unplug vendor product).map id .status
  | .event vendor product host device event =>
    (b.dispatch vendor product host device event).map id .status
  | .send request => (b.send request none).map id .sent
  | .sendWith request => (b.send request (some number)).map id .sent
  | .fill request => (b.fill request).map id .count
  | .run => b.run.map id .count
  | .runUntil phase timeout =>
    if b.channel.isOpen then
      (b.runUntil Tap.driver phase (.ofMilliseconds timeout)).map id .waited
    else (b, .absent)
  | .complete => if hasHeld b then (b.deliverNext Tap.backlog, .flag true) else (b, .flag false)
  | .stepUntil phase => (stepUntil phase (b.settleBudget Tap.backlog) b).map id .flag
  | .runToEnd => (b.settle (fun b => (run b).1) Tap.backlog).map id .count
  | .handle request => (b.handle Tap.driver request).map id .phase
  | .close => (b.close, .done)

end Bench

end FirmwareUpgrade
