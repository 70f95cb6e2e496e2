import FirmwareUpgrade.Controller.Driver
import FirmwareUpgrade.Protocol.Status
import FirmwareUpgrade.Usb.Interface

/-!
# A simulated accelerator

A device in DFU mode that lives in memory. It answers the primitives of the host stack, keeps a
record of them, stores what is downloaded and gives it back block by block. Faults can be planted
in it. It completes an operation before the call returns, or holds the completion until it is asked
for; the result is fixed when the operation is accepted.

Completions are of any type `α`: the accelerator only keeps them and gives them back.
-/
namespace FirmwareUpgrade

/-- Faults to be planted. -/
structure Faults where
  /-- Initialising the class driver fails. -/
  failInit : Bool
  /-- Operations of this kind are refused. -/
  reject : Option Operation
  /-- The download of this block stalls, unless it is empty. -/
  failBlock : Option UInt16
  /-- The byte at this offset is inverted when it is read back. -/
  corruptOffset : Option Nat
  /-- The code that every status reply carries. -/
  statusCode : Option UInt8
deriving DecidableEq, Repr

/-- No faults at all. -/
def Faults.none : Faults := ⟨false, .none, .none, .none, .none⟩

instance : Inhabited Faults := ⟨Faults.none⟩

/-- A primitive as the accelerator records it. -/
inductive DeviceCall where
  | init
  | setInterface (alternateSetting : UInt8)
  | dnload (block : UInt16) (length : Nat)
  | upload (block : UInt16) (length : UInt16)
  | getStatus
  | detach (timeout : UInt16)
  | deinit
  | busReset
  | reEnumerate
deriving DecidableEq, Repr

/-- The text of a recorded primitive: its name, and its arguments between braces. -/
def DeviceCall.text : DeviceCall → String
  | .init => "Init"
  | .setInterface alt => s!"SetInterface \x7b alt_setting: {alt.toNat} \x7d"
  | .dnload block length => s!"Dnload \x7b block: {block.toNat}, length: {length} \x7d"
  | .upload block length => s!"Upload \x7b block: {block.toNat}, length: {length.toNat} \x7d"
  | .getStatus => "GetStatus"
  | .detach timeout => s!"Detach \x7b timeout_ms: {timeout.toNat} \x7d"
  | .deinit => "Deinit"
  | .busReset => "BusReset"
  | .reEnumerate => "ReEnumerate"

def ClassCall.record : ClassCall → DeviceCall
  | .setInterface _ alt => .setInterface alt
  | .getStatus => .getStatus
  | .dnload block data => .dnload block data.size
  | .upload block length => .upload block length
  | .detach timeout => .detach timeout

/-- A simulated accelerator. -/
structure Accelerator (α : Type) where
  faults : Faults
  /-- Whether completions are held back. -/
  deferred : Bool
  memory : Bytes
  uploadOffset : Nat
  state : UInt8
  liveClass : Option ClassHandle
  nextClass : Nat
  calls : Array DeviceCall
  /-- The completions held back, oldest first, each with its result. -/
  held : List (α × Reply)
  outstanding : Nat
  maxOutstanding : Nat

namespace Accelerator

variable {α : Type}

/-- The host controller that an accelerator is plugged into. -/
def host : HostHandle := ⟨1⟩

/-- The only device that an accelerator is. -/
def device : DeviceHandle := ⟨0x10⟩

/-- The only interface that it has. -/
def interface : InterfaceHandle := ⟨0x20⟩

/-- The configuration offered on attach: a single DFU interface. -/
def configuration : Configuration :=
  ⟨[{ handle := interface, number := 0, alternateSetting := 0, interfaceClass := dfuClass,
      subclass := dfuSubclass, protocol := 2 }]⟩

def new (faults : Faults) (deferred : Bool) : Accelerator α where
  faults := faults
  deferred := deferred
  memory := #[]
  uploadOffset := 0
  state := Status.dfuIdle
  liveClass := none
  nextClass := 1
  calls := #[]
  held := []
  outstanding := 0
  maxOutstanding := 0

def log (a : Accelerator α) (call : DeviceCall) : Accelerator α :=
  { a with calls := a.calls.push call }

/-- Stores a block behind what is in memory. Block zero starts over. -/
def store (a : Accelerator α) (block : UInt16) (data : Bytes) : Accelerator α :=
  { a with
    memory := (if block = 0 then #[] else a.memory) ++ data
    state := Status.downloadIdle }

/-- Where the next upload of at most `length` bytes starts and ends. -/
def window (a : Accelerator α) (length : Nat) : Nat × Nat :=
  let first := min a.uploadOffset a.memory.size
  (first, min (first + length) a.memory.size)

/-- The code and device state that a status reply carries now. -/
def statusNow (a : Accelerator α) : UInt8 × UInt8 :=
  match a.faults.statusCode with
  | some code => if code = 0 then (0, a.state) else (code, Status.dfuError)
  | none => (0, a.state)

/-- Carries out an accepted operation. Gives its result and what is reported. -/
def respond (a : Accelerator α) : ClassCall → Accelerator α × Reply × List Notice
  | .setInterface .. => ({ a with state := Status.dfuIdle }, .ok #[], [])
  | .dnload block data =>
    if data.isEmpty then
      ({ a with uploadOffset := 0, state := Status.dfuIdle }, .ok #[], [.blockStored block 0])
    else if a.faults.failBlock = some block then (a, .error .stall, [])
    else (a.store block data, .ok #[], [.blockStored block data.size])
  | .upload _ length =>
    let (first, last) := a.window length.toNat
    let data := a.memory.readFlawed a.faults.corruptOffset first last
    ({ a with uploadOffset := last, state := Status.uploadIdle }, .ok data, [])
  | .getStatus =>
    let (code, state) := a.statusNow
    ({ a with state }, .ok (Status.ofCode code state).encode, [])
  | .detach _ => ({ a with state := Status.appDetach }, .ok #[], [])

/-- Holds the completion of an operation back, or calls it at once. -/
def conclude (a : Accelerator α) (completion : α) (reply : Reply) (notices : List Notice) :
    Accelerator α × Answer α :=
  let maxOutstanding := max a.maxOutstanding (a.outstanding + 1)
  if a.deferred then
    ({ a with
        held := a.held ++ [(completion, reply)]
        outstanding := a.outstanding + 1
        maxOutstanding },
      ⟨.ok (), notices, []⟩)
  else
    ({ a with maxOutstanding }, ⟨.ok (), notices, [(completion, reply)]⟩)

/-- Whether a call asks for an interface that the device does not have. -/
def isForeign : ClassCall → Bool
  | .setInterface wanted _ => wanted != interface
  | _ => false

/-- Accepts or refuses an operation. Anything but the interface of the device is refused before the
call is recorded; a handle that is not live, or a kind of operation to be rejected, after it. -/
def submit (a : Accelerator α) (target : ClassHandle) (request : ClassCall) (completion : α) :
    Accelerator α × Answer α :=
  if isForeign request then (a, .refused .invalidHandle)
  else
    let a := a.log request.record
    if a.liveClass ≠ some target then (a, .refused .invalidHandle)
    else if a.faults.reject = some request.operation then (a, .refused .busy)
    else
      let (a, reply, notices) := a.respond request
      a.conclude completion reply notices

/-- Initialises the class driver. Every success gives a new handle. -/
def init (a : Accelerator α) (wanted : DeviceHandle) :
    Accelerator α × Except UsbError ClassHandle :=
  let a := a.log .init
  if a.faults.failInit ∨ wanted ≠ device then (a, .error .notSupported)
  else
    let target : ClassHandle := ⟨a.nextClass⟩
    ({ a with liveClass := some target, nextClass := a.nextClass + 1 }, .ok target)

def deinit (a : Accelerator α) (target : ClassHandle) : Accelerator α × Except UsbError Unit :=
  let a := a.log .deinit
  if a.liveClass ≠ some target then (a, .error .invalidHandle)
  else ({ a with liveClass := none }, .ok ())

def busReset (a : Accelerator α) : Accelerator α :=
  a.log .busReset

/-- Takes note that the device is to be enumerated again. -/
def reEnumerate (a : Accelerator α) : Accelerator α :=
  a.log .reEnumerate

/-- Takes the oldest completion that is held back. -/
def takeHeld (a : Accelerator α) : Accelerator α × Option (α × Reply) :=
  match a.held with
  | [] => (a, none)
  | oldest :: rest => ({ a with held := rest, outstanding := a.outstanding - 1 }, some oldest)

/-- The accelerator as the host stack of a controller. -/
def driver : Driver (Accelerator Completion) where
  init a wanted := a.init wanted
  submit a target request completion := a.submit target request completion
  deinit a _ target := a.deinit target
  busReset a _ := (a.busReset, [])
  reEnumerate a _ := (a.reEnumerate, [])

def backlog : Backlog (Accelerator Completion) where
  size a := a.held.length
  next a :=
    let (a, held) := a.takeHeld
    (a, [], held)

end Accelerator

end FirmwareUpgrade
