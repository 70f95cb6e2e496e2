import FirmwareUpgrade.Bus.Wire
import FirmwareUpgrade.Controller.Driver

/-!
# The class driver over control transfers

A link drives DFU on one device of the bus. Calls only look at the handles: what an accepted call
stands for is a job, which does the transfers at some later time and then calls the completion.
Selecting the interface is a job too. It claims the interface, selects its setting and leaves any
error or unfinished transfer behind; only when all that went well does the new claim take the place
of the old one.

A claim lasts as long as something holds it: the link itself or a job that was accepted while the
link held it. When nothing holds it any more the interface is released.
-/
namespace FirmwareUpgrade

/-- A hold on an interface. The serial number tells claims of one interface apart. -/
structure Claim where
  serial : Nat
  interface : UInt8
deriving DecidableEq, Repr

/-- What an accepted call stands for. -/
inductive Work where
  | selectInterface (interface : UInt8) (setting : UInt8)
  /-- A class request on a claimed interface, with the data that it sends. -/
  | transfer (claim : Claim) (request : ControlRequest) (data : Bytes)
deriving DecidableEq, Repr

def Work.claim? : Work → Option Claim
  | selectInterface .. => none
  | transfer claim .. => some claim

/-- An accepted call on its way, with the completion to be called at its end. -/
structure Job (α : Type) where
  completion : α
  work : Work

/-- The error of the host stack that a failed transfer amounts to. -/
def TransferError.toUsbError : TransferError → UsbError
  | stall => .stall
  | disconnected => .disconnected
  | cancelled => .timeout
  | fault | invalidArgument | unknown => .io

/-- A class driver on a device of the bus. -/
structure Link (α : Type) where
  wire : Wire
  claimed : Option Claim
  nextSerial : Nat
  liveClass : Option ClassHandle
  nextClass : Nat
  /-- The jobs that were accepted and have not ended. -/
  jobs : List (Job α)
  /-- Whether the host waits for a reset that never ends. -/
  stuck : Bool

/-- How a job ends: with a reply, or not at all. -/
inductive JobEnd where
  | reply (reply : Reply)
  | never

namespace Wire

/-- Does a class request on an interface: the fields of the setup stage, except for its length where
data is sent. -/
def request (w : Wire) (r : ControlRequest) (data : Bytes) : Wire × Reply :=
  match r.direction with
  | .out =>
    let (w, result) := w.sendData r.request r.value r.index data
    (w, (result.map fun _ => #[]).mapError TransferError.toUsbError)
  | .inward =>
    let (w, result) := w.askData r.request r.value r.index r.length
    (w, result.mapError TransferError.toUsbError)

/-- Asks for the status. A reply that cannot be read is an error of the host stack. -/
def status (w : Wire) (interface : UInt8) : Wire × Except UsbError Status :=
  let (w, reply) := w.request (.getStatus interface) #[]
  (w, reply.bind fun data => (Status.decode data).mapError fun _ => .io)

/-- Leaves the error state if the status has a code. Gives the status after that. -/
def clearError (w : Wire) (interface : UInt8) (s : Status) : Wire × Except UsbError Status :=
  if s.code = 0 then (w, .ok s)
  else
    match w.request (.clearStatus interface) #[] with
    | (w, .error e) => (w, .error e)
    | (w, .ok _) => w.status interface

/-- Gives up an unfinished transfer if the device is not idle. -/
def abortTransfer (w : Wire) (interface : UInt8) (s : Status) : Wire × Except UsbError Unit :=
  if s.state = Status.dfuIdle then (w, .ok ())
  else
    let (w, reply) := w.request (.abort interface) #[]
    (w, reply.map fun _ => ())

/-- Leaves any error or unfinished transfer of earlier use behind. -/
def settleDevice (w : Wire) (interface : UInt8) : Wire × Except UsbError Unit :=
  match w.status interface with
  | (w, .error e) => (w, .error e)
  | (w, .ok s) =>
    match w.clearError interface s with
    | (w, .error e) => (w, .error e)
    | (w, .ok s) => w.abortTransfer interface s

end Wire

namespace Link

variable {α : Type}

/-- The host controller as far as a link is concerned. -/
def host : HostHandle := ⟨0⟩

def device : DeviceHandle := ⟨0⟩

def new (wire : Wire) : Link α where
  wire := wire
  claimed := none
  nextSerial := 0
  liveClass := none
  nextClass := 1
  jobs := []
  stuck := false

/-- Whether the link or one of its jobs holds a claim. -/
def holds (l : Link α) (c : Claim) : Bool :=
  l.claimed == some c || l.jobs.any (·.work.claim? == some c)

/-- Releases the interface of a claim that nothing holds any more. -/
def releaseUnheld (l : Link α) (c : Claim) : Link α :=
  if l.holds c then l else { l with wire := l.wire.record (.release c.interface) }

/-- Holds another claim, or none, instead of the one held so far. -/
def replaceClaim (l : Link α) (c : Option Claim) : Link α :=
  let old := l.claimed
  let l := { l with claimed := c }
  match old with
  | none => l
  | some old => l.releaseUnheld old

/-- Gives a new handle and makes it the live one. -/
def init (l : Link α) : Link α × Except UsbError ClassHandle :=
  let target : ClassHandle := ⟨l.nextClass⟩
  ({ l with liveClass := some target, nextClass := l.nextClass + 1 }, .ok target)

/-- The job of a call, or the reason to refuse the call. Data longer than a setup packet can say is
refused first of all, then a handle that is not live, then an interface number that no interface
has, and a transfer while no interface is claimed. -/
def work (l : Link α) (target : ClassHandle) (request : ClassCall) : Except UsbError Work :=
  let live := l.liveClass = some target
  let transfer (f : UInt8 → ControlRequest) (data : Bytes) : Except UsbError Work :=
    if live then
      match l.claimed with
      | some c => .ok (.transfer c (f c.interface) data)
      | none => .error .invalidHandle
    else .error .invalidHandle
  match request with
  | .setInterface interface setting =>
    if live ∧ interface.value < 256 then
      .ok (.selectInterface (UInt8.ofNat interface.value) setting)
    else .error .invalidHandle
  | .dnload block data =>
    if data.size < 65536 then transfer (.dnload · block (UInt16.ofNat data.size)) data
    else .error .notSupported
  | .upload block length => transfer (.upload · block length) #[]
  | .getStatus => transfer .getStatus #[]
  | .detach timeout => transfer (.detach · timeout) #[]

def submit (l : Link α) (target : ClassHandle) (request : ClassCall) (completion : α) :
    Link α × Answer α :=
  match l.work target request with
  | .error cause => (l, .refused cause)
  | .ok work => ({ l with jobs := l.jobs ++ [⟨completion, work⟩] }, ⟨.ok (), [], []⟩)

/-- Takes the live handle back and gives up the claimed interface. -/
def deinit (l : Link α) (target : ClassHandle) : Link α × Except UsbError Unit :=
  if l.liveClass = some target then
    ((if l.stuck then l else { l with liveClass := none }.replaceClaim none), .ok ())
  else (l, .error .invalidHandle)

/-- What is reported of a hitch, and how a job ends on it. -/
def hitch : Hitch → List Notice × JobEnd
  | .failed text => ([.usbFailure text], .reply (.error .io))
  | .hangs => ([], .never)

/-- Selects an interface: claims it, selects the setting and settles the device. The claim is kept
if all that succeeds and released otherwise. -/
def selectInterface (l : Link α) (interface setting : UInt8) : Link α × List Notice × JobEnd :=
  match l.wire.claim interface with
  | (wire, .error h) => ({ l with wire }, hitch h)
  | (wire, .ok ()) =>
    let claim : Claim := ⟨l.nextSerial, interface⟩
    let l := { l with nextSerial := l.nextSerial + 1 }
    match wire.alternate setting with
    | (wire, .error .hangs) => ({ l with wire }, hitch .hangs)
    | (wire, .error (.failed text)) =>
      (({ l with wire } : Link α).releaseUnheld claim, hitch (.failed text))
    | (wire, .ok ()) =>
      match wire.settleDevice interface with
      | (wire, .error e) =>
        (({ l with wire } : Link α).releaseUnheld claim, [], .reply (.error e))
      | (wire, .ok ()) =>
        (({ l with wire } : Link α).replaceClaim (some claim), [], .reply (.ok #[]))

/-- Does what a job stands for. A claim that the job held is released if nothing else holds it. -/
def perform (l : Link α) : Work → Link α × List Notice × JobEnd
  | .selectInterface interface setting => l.selectInterface interface setting
  | .transfer claim request data =>
    let (wire, reply) := l.wire.request request data
    (({ l with wire } : Link α).releaseUnheld claim, [], .reply reply)

/-- Does the job at a place of the list. Gives what is reported, and the completion that is called
with its result unless the job never ends. -/
def finish (l : Link α) (i : Nat) : Link α × List Notice × Option (α × Reply) :=
  match l.jobs[i]? with
  | none => (l, [], none)
  | some job =>
    let l := { l with jobs := l.jobs.eraseIdx i }
    match l.perform job.work with
    | (l, notices, .reply reply) => (l, notices, some (job.completion, reply))
    | (l, notices, .never) => (l, notices, none)

/-- Resets the device. A reset that fails is reported. -/
def busReset (l : Link α) : Link α × List Notice :=
  match l.wire.reset with
  | (wire, .ok ()) => ({ l with wire }, [])
  | (wire, .error (.failed text)) => ({ l with wire }, [.resetFailed text])
  | (wire, .error .hangs) => ({ l with wire, stuck := true }, [])

/-- The device is enumerated again by the host itself after the reset. -/
def reEnumerate (l : Link α) : Link α × List Notice :=
  (l, [.awaitingEnumeration])

def driver : Driver (Link Completion) where
  init l _ := l.init
  submit l target request completion := l.submit target request completion
  deinit l _ target := l.deinit target
  busReset l _ := l.busReset
  reEnumerate l _ := l.reEnumerate

def backlog : Backlog (Link Completion) where
  size l := l.jobs.length
  next l := l.finish 0

end Link

end FirmwareUpgrade
