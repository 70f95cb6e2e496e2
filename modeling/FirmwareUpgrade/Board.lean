import FirmwareUpgrade.Installation

/-!
# The board task

The task that upgrades the accelerator when the board starts: a controller on a worker of its own,
registered for the accelerator in DFU mode. The worker handles requests as soon as they come, so
whoever asks the task for something finds the queue empty. What it is asked for is the phase, which
observers read without going through the queue.
-/
namespace FirmwareUpgrade

/-- The board task over an accelerator. Responses are addressed by the number of the step that
asked for them. -/
abbrev Board := Installation (Accelerator Completion) Nat

namespace Board

/-- One thing to be done with the task. -/
inductive Step where
  | plug (vendor product : UInt16)
  | unplug (vendor product : UInt16)
  /-- Lets every held completion be called and everything that follows be handled. -/
  | settle
  /-- Sends a request and waits for the response. -/
  | send (request : Request)
  /-- Waits for a phase in which an upgrade stays. -/
  | wait
  /-- Reads the phase. -/
  | observe

/-- What a step is answered with. -/
inductive Outcome where
  | status (status : EventStatus)
  | phase (phase : Phase)
  | failed (cause : WorkerError)
  /-- The request was refused, so there is no response. -/
  | absent

def start (accelerator : Accelerator Completion) (image : Bytes) (config : Config) : Board :=
  (Installation.new accelerator image config).note
    (.waitingForAccelerator dfuVendor dfuProduct image.size)

def run (b : Board) : Board :=
  (b.drain Accelerator.driver).1

/-- Lets every held completion be called and everything that follows be handled. -/
def settle (b : Board) : Board :=
  (Installation.settle run Accelerator.backlog b).1

/-- What waiting ends with if these phases are read one after another before the time is up: the
first one in which an upgrade stays, and a timeout if there is none. -/
def awaitTerminal : List Phase → Except WorkerError Phase
  | [] => .error .timeout
  | phase :: rest => if phase.isTerminal then .ok phase else awaitTerminal rest

/-- What waiting ends with while nothing else happens. Every reading gives the same phase then, so
one of them is enough. -/
def waitResult (b : Board) : Except WorkerError Phase :=
  awaitTerminal [b.controller.watch]

def response? (b : Board) (number : Nat) : Option Phase :=
  (b.worker.responses.find? (·.1 == number)).map (·.2)

/-- Does one step; `number` addresses the response that it may ask for. -/
def step (b : Board) (number : Nat) : Step → Board × Outcome
  | .plug vendor product => (Installation.plug b vendor product).map run .status
  | .unplug vendor product => (Installation.unplug b vendor product).map run .status
  | .settle =>
    let b := settle b
    (b, .phase b.controller.watch)
  | .send request =>
    let b := run (Installation.send b request (some number)).1
    (b, ((response? b number).map .phase).getD .absent)
  | .wait =>
    (b, match waitResult b with
      | .ok phase => .phase phase
      | .error cause => .failed cause)
  | .observe => (b, .phase b.controller.watch)

end Board

end FirmwareUpgrade
