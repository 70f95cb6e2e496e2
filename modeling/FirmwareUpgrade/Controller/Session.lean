import FirmwareUpgrade.Controller.Driver
import FirmwareUpgrade.Controller.Plan
import FirmwareUpgrade.Queue.Worker

/-!
# A controller and its surroundings

A session puts the controller together with all that it touches: the cell that holds a lost
completion, the driver, the request queue, and the record of effects in the order in which they
happened. `handle` takes one request. Everything that happens to an upgrade comes as a request, so
the worker that calls `handle` is the only one to change the controller.
-/
namespace FirmwareUpgrade

/-- Something that others can observe. -/
inductive Effect where
  /-- The worker took up a request. -/
  | taken (request : Request)
  /-- The driver called a completion. -/
  | completed (completion : Completion) (reply : Reply)
  /-- The phase that observers see was set. -/
  | watch (phase : Phase)
  /-- A primitive of the driver was called. -/
  | exchange (exchange : Exchange)
  /-- Something was reported. -/
  | notice (notice : Notice)
  /-- The driver reported something. -/
  | relayed (notice : Notice)

def Effect.primitive? : Effect → Option Primitive
  | exchange e => some e.primitive
  | _ => none

def Effect.notice? : Effect → Option Notice
  | notice n | relayed n => some n
  | _ => none

/-- A controller with its surroundings, except for the queue. -/
structure Upgrade (δ : Type) where
  controller : Controller
  /-- The ticket of the last completion that the queue refused. -/
  lost : Option UInt32
  driver : δ
  /-- Everything observable so far, oldest first. -/
  trace : Array Effect

def Upgrade.new {δ : Type} (driver : δ) (image : Bytes) (config : Config) : Upgrade δ where
  controller := .new image config
  lost := none
  driver := driver
  trace := #[]

/-- A controller with its surroundings and its queue. -/
abbrev Session (δ κ : Type) := Service (Upgrade δ) Request κ

namespace Session

variable {δ κ : Type}

abbrev controller (s : Session δ κ) : Controller := s.state.controller

/-- Changes what the controller remembers, and gives what that yields. -/
@[inline]
def update {α : Type} (s : Session δ κ) (f : Controller → Controller × α) : Session δ κ × α :=
  let (controller, a) := f s.state.controller
  ({ s with state := { s.state with controller } }, a)

@[inline]
def modify (s : Session δ κ) (f : Controller → Controller) : Session δ κ :=
  { s with state := { s.state with controller := f s.state.controller } }

def record (s : Session δ κ) (e : Effect) : Session δ κ :=
  { s with state := { s.state with trace := s.state.trace.push e } }

def note (s : Session δ κ) (n : Notice) : Session δ κ :=
  s.record (.notice n)

def noteAll (s : Session δ κ) (notices : List Notice) : Session δ κ :=
  notices.foldl note s

/-- Passes on in order what the driver reports. -/
def relayAll (s : Session δ κ) (notices : List Notice) : Session δ κ :=
  notices.foldl (fun s n => s.record (.relayed n)) s

/-- Moves to a phase and lets observers see it. -/
def setPhase (s : Session δ κ) (phase : Phase) : Session δ κ :=
  ((s.note (.phaseChanged s.controller.phase phase)).modify (·.enter phase)).record (.watch phase)

/-- Ends the upgrade in failure. The class handle stays until the device is gone. -/
def fail (s : Session δ κ) (cause : UpgradeError) : Session δ κ :=
  ((s.note (.upgradeFailed s.controller.phase cause)).modify (·.recordFailure cause)).setPhase
    .error

/-- Appends a request to the queue, or leaves the queue as it is. -/
def post (s : Session δ κ) (request : Request) : Session δ κ :=
  { s with channel := s.channel.send request }

/-- Queues the step to the next phase. A full or closed queue is a failure. -/
def advance (s : Session δ κ) (next : Phase) : Session δ κ :=
  match s.channel.refusal? with
  | none => s.post (.nextPhase next)
  | some reason => s.fail (.ofQueueError reason)

/-- Queues the result of an operation. If the queue refuses it, the ticket is left in the cell for
a lost completion, in place of what was there. -/
def deliver (s : Session δ κ) (completion : Completion) (reply : Reply) : Session δ κ :=
  let s := s.record (.completed completion reply)
  match s.channel.refusal? with
  | none => s.post (.completed completion reply)
  | some reason =>
    let s := s.note (.completionLost completion.operation reason)
    { s with state := { s.state with lost := some completion.ticket } }

/-- Queues the results of several operations in order. -/
def deliverAll (s : Session δ κ) (delivered : List (Completion × Reply)) : Session δ κ :=
  delivered.foldl (fun s d => s.deliver d.1 d.2) s

/-- Calls the driver. The exchange is recorded, and behind it what the driver reports. -/
@[inline]
def exchange {α : Type} (s : Session δ κ) (run : δ → δ × α) (entry : α → Exchange)
    (notices : α → List Notice) : Session δ κ × α :=
  let (driver, answer) := run s.state.driver
  let s : Session δ κ := { s with state := { s.state with driver } }
  ((s.record (.exchange (entry answer))).relayAll (notices answer), answer)

/-- Starts an operation that moves `length` bytes of the image. Completions that the driver calls
meanwhile are queued. If the operation is refused nothing is in flight, and the upgrade fails. -/
def start (drv : Driver δ) (s : Session δ κ) (target : ClassHandle) (request : ClassCall)
    (length : Nat) : Session δ κ :=
  let (s, ticket) := s.update (·.begin request.operation length)
  let completion : Completion := ⟨ticket, request.operation⟩
  let (s, answer) :=
    s.exchange (drv.submit · target request completion) (.call target request completion ·.result)
      (·.notices)
  let s := s.deliverAll answer.delivered
  match answer.result with
  | .ok () => s
  | .error cause => s.fail (.classCall request.operation cause)

/-- Initialises the class driver on a device and sets out to select the interface. -/
def initialise (drv : Driver δ) (s : Session δ κ) (device : DeviceHandle) : Session δ κ :=
  match s.exchange (drv.init · device) (.init device ·) (fun _ => []) with
  | (s, .error cause) => s.fail (.classInit cause)
  | (s, .ok target) =>
    ((s.modify (·.startOver target)).note (.downloadStarts s.controller.image.size)).advance
      .setInterface

/-- Takes the class handle from the controller and gives it back to the driver, if it belongs to a
device. A refusal is reported as `complaint` says. -/
def returnClass (drv : Driver δ) (s : Session δ κ) (complaint : UsbError → Notice) :
    Session δ κ :=
  let live := s.controller.liveClass
  let device := s.controller.boundDevice
  let s := s.modify ({ · with liveClass := none })
  match live, device with
  | some target, some device =>
    match s.exchange (drv.deinit · device target) (.deinit device target ·) (fun _ => []) with
    | (s, .ok ()) => s
    | (s, .error cause) => s.note (complaint cause)
  | _, _ => s

/-- Resets the bus of the host, if it is known. -/
def resetBus (drv : Driver δ) (s : Session δ κ) : Session δ κ :=
  match s.controller.boundHost with
  | none => s
  | some host => (s.exchange (drv.busReset · host) (fun _ => .busReset host) id).1

/-- Has the device enumerated again, if it is known. -/
def reEnumerate (drv : Driver δ) (s : Session δ κ) : Session δ κ :=
  match s.controller.boundDevice with
  | none => s
  | some device => (s.exchange (drv.reEnumerate · device) (fun _ => .reEnumerate device) id).1

/-- Ends a successful upgrade: the bus is reset, the class handle given back, and the device
enumerated again with its new identity. -/
def finish (drv : Driver δ) (s : Session δ κ) : Session δ κ :=
  (((s.resetBus drv).returnClass drv .deinitFailed).reEnumerate drv).note .updateComplete

/-- Reports the operation that the detach of the device cuts off. -/
def noteInFlight (s : Session δ κ) : Session δ κ :=
  match s.controller.inFlight with
  | some op => s.note (.detachedInFlight op.operation)
  | none => s

/-- Lets go of everything that belongs to the device. -/
def release (drv : Driver δ) (s : Session δ κ) : Session δ κ :=
  ((s.returnClass drv .deinitAfterDetach).noteInFlight).modify (·.forgetDevice)

/-- Does what a phase consists of. An operation needs a live class handle. -/
def perform (drv : Driver δ) (s : Session δ κ) : Action → Session δ κ
  | .release => s.release drv
  | .initialise device => s.initialise drv device
  | .start request length =>
    match s.controller.liveClass with
    | some target => s.start drv target request length
    | none => s.fail (.classCall request.operation .invalidHandle)
  | .skip next => s.advance next
  | .finish => s.finish drv
  | .report notice => s.note notice
  | .fail cause => s.fail cause

/-- Steps to another phase, unless the controller objects. The device is let go of before observers
see that it is gone; any other phase is seen before its work begins. -/
def step (drv : Driver δ) (s : Session δ κ) (next : Phase) : Session δ κ :=
  match s.controller.objection? next with
  | some objection => s.note objection
  | none =>
    let action := s.controller.action next
    if next = .unattached then (s.perform drv action).setPhase next
    else (s.setPhase next).perform drv action

/-- Takes down the identity of a device, unless one is attached already. -/
def bind (s : Session δ κ) (b : Binding) : Session δ κ :=
  if s.controller.phase = .unattached then
    (s.note (.bound b)).modify (·.bind b.host b.device b.interface)
  else
    s.note (.attachIgnored b.device s.controller.phase)

/-- Takes in the completion of an operation. Any other than the one in flight is dropped. -/
def complete (s : Session δ κ) (completion : Completion) (reply : Reply) : Session δ κ :=
  match s.controller.awaited? completion.ticket with
  | none => s.note (.staleCompletion completion.operation s.controller.phase)
  | some op =>
    let (s, notices, next) := s.update fun c =>
      let v := c.conclude op completion.operation reply
      (v.controller, v.notices, v.next)
    let s := s.noteAll notices
    match next with
    | .ok next => s.advance next
    | .error cause => s.fail cause

/-- Looks whether a completion was lost since the last request. If it was the one of the operation
in flight nothing else would drive the upgrade on, so it fails. -/
def checkLost (s : Session δ κ) : Session δ κ :=
  match s.state.lost with
  | none => s
  | some ticket =>
    let s : Session δ κ := { s with state := { s.state with lost := none } }
    if s.controller.inFlight.any (·.ticket == ticket) then s.fail .queueFull
    else s.note (.staleLoss ticket)

def take (drv : Driver δ) (s : Session δ κ) : Request → Session δ κ
  | .nextPhase phase => s.step drv phase
  | .bind binding => s.bind binding
  | .completed completion reply => s.complete completion reply

/-- Handles one request. The response is the phase that it leaves the upgrade in. -/
def handle (drv : Driver δ) : Handler (Upgrade δ) Request κ Phase := fun s request =>
  let s : Session δ κ := take drv (checkLost (record s (.taken request))) request
  (s, s.controller.phase)

end Session

end FirmwareUpgrade
