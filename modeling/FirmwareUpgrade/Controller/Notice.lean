import FirmwareUpgrade.Controller.Failure
import FirmwareUpgrade.Controller.Request
import FirmwareUpgrade.Data.Numeral

/-!
# Log records

What the library reports while it works. A record is kept as data; its severity, the part of the
program that it comes from and its wording are functions of it.
-/
namespace FirmwareUpgrade

/-- The severity of a log record, gravest first. -/
inductive Severity where
  | error
  | warn
  | info
  | debug
  | trace
deriving DecidableEq, Repr, Inhabited

def Severity.text : Severity → String
  | .error => "ERROR"
  | .warn => "WARN"
  | .info => "INFO"
  | .debug => "DEBUG"
  | .trace => "TRACE"

/-- The rank of a severity; the gravest has the least. -/
def Severity.rank : Severity → Nat
  | .error => 1
  | .warn => 2
  | .info => 3
  | .debug => 4
  | .trace => 5

/-- A log record. -/
inductive Notice where
  | phaseChanged (old new : Phase)
  | upgradeFailed (phase : Phase) (cause : UpgradeError)
  | attachIgnored (device : DeviceHandle) (phase : Phase)
  | bound (binding : Binding)
  | enumerationIgnored (phase : Phase)
  | terminalPhase (phase ignored : Phase)
  | noClassHandle (dropped : Phase)
  | stillInFlight (operation : Operation) (dropped : Phase)
  | errorRequested
  | deinitAfterDetach (cause : UsbError)
  | detachedInFlight (operation : Operation)
  | downloadStarts (size : Nat)
  | completionLost (operation : Operation) (cause : QueueError)
  | staleLoss (ticket : UInt32)
  | deinitFailed (cause : UsbError)
  | updateComplete
  | staleCompletion (operation : Operation) (phase : Phase)
  | downloaded (done total : Nat)
  | committed
  | unexpectedCompletion (operation : Operation) (phase : Phase)
  | pollTimeout (milliseconds : Nat)
  | readBack (done total : Nat)
  | verified
  | noDriver (vendor product : UInt16)
  | eventDropped (cause : QueueError)
  | interfaceFound (number : UInt8) (device : DeviceHandle)
  | handled (count : Nat)
  | blockStored (block : UInt16) (size : Nat)
  | waitingForAccelerator (vendor product : UInt16) (size : Nat)
  | roundFinished (count : Nat) (phase : Phase)
  | flashSettings (size chunk timeout : Nat)
  | usbFailure (cause : String)
  | resetFailed (cause : String)
  | awaitingEnumeration
deriving DecidableEq, Repr

namespace Notice

def severity : Notice → Severity
  | upgradeFailed .. | errorRequested | completionLost .. | unexpectedCompletion ..
  | eventDropped .. => .error
  | attachIgnored .. | enumerationIgnored .. | terminalPhase .. | noClassHandle ..
  | stillInFlight .. | deinitFailed .. | staleCompletion .. | resetFailed .. => .warn
  | detachedInFlight .. | downloadStarts .. | updateComplete | committed | verified
  | interfaceFound .. | waitingForAccelerator .. | flashSettings .. | awaitingEnumeration => .info
  | phaseChanged .. | bound .. | deinitAfterDetach .. | staleLoss .. | noDriver ..
  | roundFinished .. | usbFailure .. => .debug
  | downloaded .. | pollTimeout .. | readBack .. | handled .. | blockStored .. => .trace

/-- The part of the program that a record comes from, as log lines name it. -/
def origin : Notice → String
  | noDriver .. | eventDropped .. | interfaceFound .. => "dfu::host"
  | handled .. => "dfu::worker"
  | blockStored .. => "dfu::sim"
  | waitingForAccelerator .. => "accel_dfu"
  | roundFinished .. => "accel_dfu::simulate"
  | flashSettings .. => "accel_dfu::flash"
  | usbFailure .. | resetFailed .. | awaitingEnumeration => "accel_dfu::usb"
  | _ => "dfu::controller"

def message : Notice → String
  | phaseChanged old new => old.text ++ " -> " ++ new.text
  | upgradeFailed phase cause => "DFU error in " ++ phase.text ++ ": " ++ cause.message
  | attachIgnored device phase => "ignoring attach of " ++ device.text ++ " in " ++ phase.text
  | bound binding => "bound to " ++ binding.text
  | enumerationIgnored phase => "enumeration done while in " ++ phase.text ++ ", ignored"
  | terminalPhase phase ignored => phase.text ++ " is terminal, ignoring " ++ ignored.text
  | noClassHandle dropped => "no class handle, dropping transition to " ++ dropped.text
  | stillInFlight op dropped =>
    op.text ++ " still in flight, dropping transition to " ++ dropped.text
  | errorRequested => "DFU error"
  | deinitAfterDetach cause => "deinit after detach: " ++ cause.message
  | detachedInFlight op => "detached with " ++ op.text ++ " in flight"
  | downloadStarts size => s!"DFU device attached, downloading {size} bytes"
  | completionLost op cause => "lost " ++ op.text ++ " completion: " ++ cause.message
  | staleLoss ticket => s!"lost completion {ticket.toNat} was stale"
  | deinitFailed cause => "DFU class deinit failed: " ++ cause.message
  | updateComplete => "firmware update complete, re-enumerating"
  | staleCompletion op phase => "dropping stale " ++ op.text ++ " completion in " ++ phase.text
  | downloaded done total => s!"downloaded {done}/{total} bytes"
  | committed => "download committed, reading back"
  | unexpectedCompletion op phase =>
    "unexpected " ++ op.text ++ " completion in " ++ phase.text
  | pollTimeout ms => s!"device asks for {ms} ms poll timeout"
  | readBack done total => s!"read back {done}/{total} bytes"
  | verified => "read back verified, detaching"
  | noDriver vendor product =>
    "no driver for " ++ Numeral.hex 4 vendor.toNat ++ ":" ++ Numeral.hex 4 product.toNat
  | eventDropped cause => "dropping host event: " ++ cause.message
  | interfaceFound number device => s!"DFU interface {number.toNat} on " ++ device.text
  | handled count => s!"handled {count} requests"
  | blockStored block size => s!"sim: block {block.toNat} holds {size} bytes"
  | waitingForAccelerator vendor product size =>
    "waiting for accelerator " ++ Numeral.hex 4 vendor.toNat ++ ":" ++
      Numeral.hex 4 product.toNat ++ s!", {size} byte image"
  | roundFinished count phase => s!"{count} requests, state " ++ phase.text
  | flashSettings size chunk timeout =>
    s!"{size} byte image, {chunk} byte blocks, detach timeout {timeout} ms"
  | usbFailure cause => "USB error: " ++ cause
  | resetFailed cause => "USB reset failed: " ++ cause
  | awaitingEnumeration => "waiting for the device to re-enumerate"

/-- The record as one line: severity and wording. -/
def line (n : Notice) : String :=
  n.severity.text ++ " " ++ n.message

/-- The record as a log shows it: severity in five columns, origin and wording. -/
def logLine (n : Notice) : String :=
  "[" ++ n.severity.text ++ "".pushn ' ' (5 - n.severity.text.length) ++ " " ++ n.origin ++ "] " ++
    n.message

end Notice

end FirmwareUpgrade
