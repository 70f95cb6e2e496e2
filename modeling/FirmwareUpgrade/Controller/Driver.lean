import FirmwareUpgrade.Controller.Notice
import FirmwareUpgrade.Usb.Handle

/-!
# What the controller asks of the host stack

The primitives of the DFU class driver and of the host controller. A driver is any state machine
that answers them: it accepts or refuses an operation, and it may complete operations while the
call lasts. A completion that has not come by then may come at any later time, or never.
-/
namespace FirmwareUpgrade

/-- An asynchronous call of the class driver. A download without data ends the download. -/
inductive ClassCall where
  | setInterface (interface : InterfaceHandle) (alternateSetting : UInt8)
  | getStatus
  | dnload (block : UInt16) (data : Bytes)
  | upload (block : UInt16) (length : UInt16)
  | detach (timeout : UInt16)
deriving DecidableEq, Repr

def ClassCall.operation : ClassCall → Operation
  | .setInterface .. => .setInterface
  | .getStatus => .getStatus
  | .dnload .. => .dnload
  | .upload .. => .upload
  | .detach .. => .detach

/-- A primitive of the host stack with its arguments. -/
inductive Primitive where
  | init (device : DeviceHandle)
  | call (target : ClassHandle) (request : ClassCall)
  | deinit (device : DeviceHandle) (target : ClassHandle)
  | busReset (host : HostHandle)
  | reEnumerate (device : DeviceHandle)
deriving DecidableEq, Repr

/-- A primitive together with what the driver said to it at once. -/
inductive Exchange where
  | init (device : DeviceHandle) (result : Except UsbError ClassHandle)
  | call (target : ClassHandle) (request : ClassCall) (completion : Completion)
      (result : Except UsbError Unit)
  | deinit (device : DeviceHandle) (target : ClassHandle) (result : Except UsbError Unit)
  | busReset (host : HostHandle)
  | reEnumerate (device : DeviceHandle)

def Exchange.primitive : Exchange → Primitive
  | init device _ => .init device
  | call target request _ _ => .call target request
  | deinit device target _ => .deinit device target
  | busReset host => .busReset host
  | reEnumerate device => .reEnumerate device

/-- The answer to an asynchronous call: whether it was accepted, what was reported, and which
completions were called before it returned. -/
structure Answer (α : Type) where
  result : Except UsbError Unit
  notices : List Notice
  delivered : List (α × Reply)

/-- A refusal that calls no completion. -/
def Answer.refused {α : Type} (cause : UsbError) : Answer α := ⟨.error cause, [], []⟩

/-- A class driver and host controller with states `δ`. -/
structure Driver (δ : Type) where
  init : δ → DeviceHandle → δ × Except UsbError ClassHandle
  submit : δ → ClassHandle → ClassCall → Completion → δ × Answer Completion
  deinit : δ → DeviceHandle → ClassHandle → δ × Except UsbError Unit
  busReset : δ → HostHandle → δ × List Notice
  reEnumerate : δ → DeviceHandle → δ × List Notice

/-- The operations that a driver has accepted and not finished. -/
structure Backlog (δ : Type) where
  size : δ → Nat
  /-- Finishes the oldest one: what is reported, and the completion that is called, if any. -/
  next : δ → δ × List Notice × Option (Completion × Reply)

end FirmwareUpgrade
