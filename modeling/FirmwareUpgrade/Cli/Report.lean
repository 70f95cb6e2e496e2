import FirmwareUpgrade.Bus.Wire
import FirmwareUpgrade.Controller.Failure
import FirmwareUpgrade.Controller.Notice
import FirmwareUpgrade.Queue.Worker

/-!
# What a command leaves behind
-/
namespace FirmwareUpgrade

/-- The cause for which a command fails. -/
inductive CommandError where
  /-- The image file cannot be read. -/
  | file (text : String)
  /-- The bus or a device on it cannot be used. -/
  | usb (text : String)
  /-- The upgrade failed. -/
  | upgrade (cause : UpgradeError)
  /-- Waiting for the worker failed. -/
  | worker (cause : WorkerError)
  | noDevice
  | manyDevices
  | noImage
  /-- The upgrade ended in a phase that is no success. -/
  | ended (phase : Phase)
deriving DecidableEq, Repr

def CommandError.message : CommandError → String
  | file text => "IO error: " ++ text
  | usb text => "USB error: " ++ text
  | upgrade cause => "DFU error: " ++ cause.message
  | worker cause => "Worker error: " ++ cause.message
  | noDevice => "No DFU device"
  | manyDevices => "More than one DFU devices"
  | noImage => "No firmware image (give a file or --pattern)"
  | ended phase => "DFU ended in state " ++ phase.text

/-- What a command did: its result, the lines that it wrote, what it logged, and what it did on the
bus. -/
structure Report where
  result : Except CommandError Unit
  output : Array String
  notices : Array Notice
  /-- What was done to devices, each given by its place on the bus. -/
  busTrace : Array (Nat × BusEvent)

namespace Report

/-- The report of a command that failed before it did anything. -/
def failure (cause : CommandError) : Report := ⟨.error cause, #[], #[], #[]⟩

def exitStatus (r : Report) : Nat :=
  match r.result with
  | .ok () => 0
  | .error _ => 1

def busLines (r : Report) : Array String :=
  r.busTrace.map fun (place, event) => event.line place

/-- The log lines of records that are at least as grave as `threshold`; none without a threshold. -/
def logLines (r : Report) (threshold : Option Severity) : Array String :=
  match threshold with
  | none => #[]
  | some least => (r.notices.filter (·.severity.rank ≤ least.rank)).map (·.logLine)

/-- The lines on the error stream: the log, and the cause of a failure behind it. -/
def errorLines (r : Report) (threshold : Option Severity) : Array String :=
  match r.result with
  | .ok () => r.logLines threshold
  | .error cause => (r.logLines threshold).push ("Error: " ++ cause.message)

end Report

end FirmwareUpgrade
