import FirmwareUpgrade.Accelerator
import FirmwareUpgrade.Controller.Session
import FirmwareUpgrade.Host.Dispatcher

/-!
# A controller that is put to work

An installation is a worker that owns a controller over some driver, together with the dispatcher
through which the host stack reaches its queue. Everything else in the library that runs an
upgrade is built on it.

The number of requests that a queue can give rise to is bounded by `drainBudget`: every request
leads to at most one other, and a run through the image takes four requests for each block on the
way there and four on the way back.
-/
namespace FirmwareUpgrade

/-- The vendor of the accelerator before the upgrade. -/
def dfuVendor : UInt16 := 0x1a6e

/-- The product of the accelerator before the upgrade. -/
def dfuProduct : UInt16 := 0x089a

/-- The vendor of the accelerator after the upgrade. -/
def runtimeVendor : UInt16 := 0x18d1

/-- The product of the accelerator after the upgrade. -/
def runtimeProduct : UInt16 := 0x9302

/-- A controller on its worker, and the dispatcher in front of it. The addresses of responses are
of type `κ`. -/
structure Installation (δ κ : Type) where
  worker : Worker (Upgrade δ) Request κ Phase
  dispatcher : Dispatcher Unit

namespace Installation

variable {δ κ : Type}

/-- A new controller whose event handler is registered for the accelerator in DFU mode. The
controller and the event handler can both send. -/
def new (driver : δ) (image : Bytes) (config : Config) : Installation δ κ where
  worker := .new (Upgrade.new driver image config) (Channel.bounded config.queueCapacity).addSender
  dispatcher := Dispatcher.empty.register dfuVendor dfuProduct ()

abbrev controller (i : Installation δ κ) : Controller := i.worker.service.state.controller

abbrev driver (i : Installation δ κ) : δ := i.worker.service.state.driver

abbrev channel (i : Installation δ κ) : Channel Request κ := i.worker.service.channel

abbrev trace (i : Installation δ κ) : Array Effect := i.worker.service.state.trace

@[inline]
def modify (f : Session δ κ → Session δ κ) (i : Installation δ κ) : Installation δ κ :=
  { i with worker := { i.worker with service := f i.worker.service } }

def note (i : Installation δ κ) (n : Notice) : Installation δ κ :=
  i.modify fun s => Session.note s n

/-- The event handler as a callback: it has no state of its own. -/
def react (_ : Unit) (host : HostHandle) (device : DeviceHandle) (event : HostEvent)
    (channel : Channel Request κ) : Reaction Unit (Channel Request κ) :=
  match event.post host device channel with
  | (channel, status, notices) => { callback := (), world := channel, status, notices }

/-- Hands an event of the host stack to the dispatcher. -/
def dispatch (i : Installation δ κ) (vendor product : UInt16) (host : HostHandle)
    (device : DeviceHandle) (event : HostEvent) : Installation δ κ × EventStatus :=
  let (dispatcher, channel, status, notices) :=
    i.dispatcher.dispatch react vendor product host device event i.channel
  ({ i with dispatcher }.modify fun s => Session.noteAll { s with channel } notices, status)

/-- Attaches the accelerator and, if that is accepted, ends its enumeration. -/
def plug (i : Installation δ κ) (vendor product : UInt16) : Installation δ κ × EventStatus :=
  match i.dispatch vendor product Accelerator.host Accelerator.device
      (.attach Accelerator.configuration) with
  | (i, .success) =>
    i.dispatch vendor product Accelerator.host Accelerator.device .enumerationDone
  | (i, status) => (i, status)

def unplug (i : Installation δ κ) (vendor product : UInt16) : Installation δ κ × EventStatus :=
  i.dispatch vendor product Accelerator.host Accelerator.device .detach

/-- Sends a request, with an address for the response if one is wanted. -/
def send (i : Installation δ κ) (request : Request) (callback : Option κ) :
    Installation δ κ × Except QueueError Unit :=
  let result := i.channel.pushResult
  (i.modify fun s => { s with channel := s.channel.push ⟨request, callback⟩ }, result)

/-- A bound on the requests handled before the queue is empty. -/
def drainBudget (i : Installation δ κ) : Nat :=
  (i.channel.waiting.length + 1) * (8 * i.controller.image.size + 64)

/-- Handles requests until none waits. Gives their number. -/
def drain (drv : Driver δ) (i : Installation δ κ) : Installation δ κ × Nat :=
  let fuel := i.drainBudget
  let (worker, count) := i.worker.drain (Session.handle drv) fuel 0
  ({ i with worker }, count)

/-- Handles requests until none waits, and reports their number. -/
def runPending (drv : Driver δ) (i : Installation δ κ) : Installation δ κ × Nat :=
  let (i, count) := i.drain drv
  (i.note (.handled count), count)

/-- Handles requests until the controller is in a phase or the time is up. -/
def runUntil (drv : Driver δ) (i : Installation δ κ) (phase : Phase) (deadline : Deadline) :
    Installation δ κ × Except WorkerError Unit :=
  let fuel := i.drainBudget
  let (worker, result) :=
    i.worker.runUntil (Session.handle drv) (·.controller.phase == phase) deadline fuel
  ({ i with worker }, result)

/-- Handles one request directly, past the queue. -/
def handle (drv : Driver δ) (i : Installation δ κ) (request : Request) : Installation δ κ × Phase :=
  let (service, phase) := Session.handle drv i.worker.service request
  ({ i with worker := { i.worker with service } }, phase)

def close (i : Installation δ κ) : Installation δ κ :=
  i.modify fun s => { s with channel := s.channel.close }

/-- Lets the driver finish the oldest operation that it holds. -/
def deliverNext (backlog : Backlog δ) (i : Installation δ κ) : Installation δ κ :=
  i.modify fun s =>
    let (driver, notices, delivered) := backlog.next s.state.driver
    Session.deliverAll
      (Session.relayAll { s with state := { s.state with driver } } notices) delivered.toList

/-- A bound on the operations that the driver can finish one after the other. -/
def settleBudget (backlog : Backlog δ) (i : Installation δ κ) : Nat :=
  (i.channel.waiting.length + backlog.size i.driver + 1) * (8 * i.controller.image.size + 64)

/-- Runs the worker and lets the driver finish an operation by turns, until the driver holds none.
Gives the number of operations finished on top of `count`. -/
def settleFrom (run : Installation δ κ → Installation δ κ) (backlog : Backlog δ) (fuel : Nat)
    (i : Installation δ κ) (count : Nat) : Installation δ κ × Nat :=
  let i := run i
  match fuel with
  | 0 => (i, count)
  | fuel + 1 =>
    if backlog.size i.driver = 0 then (i, count)
    else settleFrom run backlog fuel (i.deliverNext backlog) (count + 1)

/-- Runs the worker and lets the driver finish its operations until neither has anything to do. -/
def settle (run : Installation δ κ → Installation δ κ) (backlog : Backlog δ)
    (i : Installation δ κ) : Installation δ κ × Nat :=
  let fuel := i.settleBudget backlog
  settleFrom run backlog fuel i 0

end Installation

end FirmwareUpgrade
