import FirmwareUpgrade.Controller.Driver
import FirmwareUpgrade.Controller.State

/-!
# The plan of an upgrade

What the controller decides by itself, with no look at driver or queue: whether a step to another
phase is possible, what that phase consists of, and what follows from the result of an operation.

The image is sent in blocks with a status check behind each, ended by an empty block, read back in
blocks of the same lengths, compared, and the device is then asked to detach.
-/
namespace FirmwareUpgrade

/-- What a phase consists of. -/
inductive Action where
  /-- Let go of the device. -/
  | release
  /-- Initialise the class driver on a device. -/
  | initialise (device : DeviceHandle)
  /-- Start an operation that moves so many bytes of the image. -/
  | start (request : ClassCall) (length : Nat)
  /-- Go on to the next phase at once. -/
  | skip (next : Phase)
  /-- End a successful upgrade. -/
  | finish
  /-- Only report something. -/
  | report (notice : Notice)
  /-- The phase cannot do its work. -/
  | fail (cause : UpgradeError)
deriving DecidableEq, Repr

/-- What follows from the result of an operation: the controller after it, what is reported, and the
next phase or the cause for which the upgrade fails after all. -/
structure Verdict where
  controller : Controller
  notices : List Notice
  next : Except UpgradeError Phase

/-- The verdict of `f` behind one that lets the upgrade go on. -/
def Verdict.andThen (v : Verdict) (f : Controller → Verdict) : Verdict :=
  match v with
  | ⟨c, notices, .error cause⟩ => ⟨c, notices, .error cause⟩
  | ⟨c, notices, .ok _⟩ =>
    let w := f c
    { w with notices := notices ++ w.notices }

namespace Controller

/-- Why a step to another phase is dropped, if it is. The detach of the device is always possible.
Any other step needs a phase that can be left, a class handle where the new phase uses one, and no
operation in flight; and the device can only attach where none is. -/
def objection? (c : Controller) (next : Phase) : Option Notice :=
  if next = .unattached then none
  else if next = .attached ∧ c.phase ≠ .unattached then some (.enumerationIgnored c.phase)
  else if c.phase.isTerminal then some (.terminalPhase c.phase next)
  else if next.needsClass ∧ c.liveClass = none then some (.noClassHandle next)
  else c.inFlight.map fun op => .stillInFlight op.operation next

/-- Moves to a phase. The phase that reads back needs its buffer. -/
def enter (c : Controller) (next : Phase) : Controller :=
  let c := { c with phase := next, watch := next }
  if next = .readBack then c.allocateReadback else c

/-- What a phase consists of. Of an empty image there is nothing to read back. -/
def action (c : Controller) : Phase → Action
  | .unattached => .release
  | .attached =>
    match c.boundDevice with
    | some device => .initialise device
    | none => .fail .unsupportedDevice
  | .setInterface =>
    match c.boundInterface with
    | some interface => .start (.setInterface interface 0) 0
    | none => .fail (.classCall .setInterface .invalidHandle)
  | .getStatus | .getStatusRead | .checkStatus => .start .getStatus 0
  | .transfer => .start (.dnload c.block c.nextChunk) c.chunkLength
  | .zeroLengthTransfer => .start (.dnload c.block #[]) 0
  | .readBack =>
    if c.chunkLength = 0 then .skip .getStatusRead
    else .start (.upload c.block (UInt16.ofNat c.chunkLength)) c.chunkLength
  | .detach => .start (.detach c.config.detachTimeout) 0
  | .complete => .finish
  | .error => .report .errorRequested

/-- Reads a status reply and remembers it. A reply that is too short or reports an error ends the
upgrade; otherwise it goes on to `next`. -/
def checkStatus (c : Controller) (data : Bytes) (next : Phase) : Verdict :=
  match Status.decode data with
  | .error cause => ⟨c, [], .error cause⟩
  | .ok status =>
    { controller := { c with lastStatus := some status }
      notices := if status.pollTimeout = 0 then [] else [.pollTimeout status.pollTimeout]
      next := status.check.map fun _ => next }

/-- Takes in a block that was read back. A block shorter than requested shows that the device has
no more. -/
def takeChunk (c : Controller) (requested : Nat) (data : Bytes) : Verdict :=
  let c := c.storeReadback (data.extract 0 requested)
  if data.size < requested then ⟨c, [], .error (.verificationMismatch c.transferred)⟩
  else
    { controller := { c with block := c.block + 1 }
      notices := [.readBack c.transferred c.image.size]
      next := .ok .getStatusRead }

/-- Compares what was read back with the image and gives up the buffer. -/
def verify (c : Controller) : Verdict :=
  let mismatch := c.mismatch
  let c := c.freeReadback.resetCounters
  match mismatch with
  | some offset => ⟨c, [], .error (.verificationMismatch offset)⟩
  | none => ⟨c, [.verified], .ok .detach⟩

/-- What follows from the success of the operation in flight, by the phase that started it. -/
def succeed (c : Controller) (op : InFlight) (data : Bytes) : Verdict :=
  match c.phase with
  | .setInterface => ⟨c, [], .ok .getStatus⟩
  | .getStatus =>
    let next : Phase := if c.remaining = 0 then .zeroLengthTransfer else .transfer
    c.checkStatus data next
  | .transfer =>
    let c := { c with block := c.block + 1, transferred := c.transferred + op.length }
    ⟨c, [.downloaded c.transferred c.image.size], .ok .getStatus⟩
  | .zeroLengthTransfer => ⟨c.resetCounters, [.committed], .ok .readBack⟩
  | .readBack => c.takeChunk op.length data
  | .getStatusRead =>
    if c.remaining = 0 then (c.checkStatus data .detach).andThen verify
    else c.checkStatus data .readBack
  | .detach => ⟨c, [], .ok (if c.config.checkStatusAfterDetach then .checkStatus else .complete)⟩
  | .checkStatus => ⟨c, [], .ok .complete⟩
  | phase =>
    ⟨c, [.unexpectedCompletion op.operation phase],
      .error (.transfer op.operation .invalidHandle)⟩

/-- What follows from a reply to the operation in flight, which is over with it. `operation` is the
one that the completion names. -/
def conclude (c : Controller) (op : InFlight) (operation : Operation) (reply : Reply) : Verdict :=
  let c := { c with inFlight := none }
  match reply with
  | .error cause => ⟨c, [], .error (.transfer operation cause)⟩
  | .ok data => c.succeed op data

/-- The operation that a ticket belongs to, if it is in flight on a live class handle. -/
def awaited? (c : Controller) (ticket : UInt32) : Option InFlight :=
  match c.liveClass with
  | none => none
  | some _ => c.inFlight.filter (·.ticket == ticket)

end Controller

end FirmwareUpgrade
