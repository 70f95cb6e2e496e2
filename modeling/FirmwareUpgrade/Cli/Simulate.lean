import FirmwareUpgrade.Cli.Report
import FirmwareUpgrade.Installation

/-!
# The `simulate` command

An image is sent to a simulated accelerator. The command writes every primitive that the
accelerator saw and how many bytes the controller counts at the end.
-/
namespace FirmwareUpgrade

/-- A controller over an accelerator of its own, with nobody waiting for responses. -/
abbrev Simulation := Installation (Accelerator Completion) Empty

namespace Simulation

/-- Lets the worker handle what waits, and reports that. -/
def round (s : Simulation) : Simulation :=
  let (s, count) := s.runPending Accelerator.driver
  s.note (.roundFinished count s.controller.phase)

/-- Plugs the accelerator in and goes on until nothing is left to do. -/
def run (image : Bytes) (config : Config) (faults : Faults) (deferred : Bool) : Simulation :=
  let (s, _) := (Installation.new (Accelerator.new faults deferred) image config).plug
    dfuVendor dfuProduct
  (s.settle round Accelerator.backlog).1

def result (s : Simulation) : Except CommandError Unit :=
  if s.controller.phase = .complete then .ok ()
  else
    match s.controller.lastError with
    | some cause => .error (.upgrade cause)
    | none => .error (.ended s.controller.phase)

def summary (s : Simulation) : String :=
  s!"{s.controller.transferred} of {s.controller.image.size} bytes verified, state " ++
    s.controller.phase.text

def report (s : Simulation) : Report where
  result := s.result
  output := (s.driver.calls.map fun call => "  " ++ call.text).push s.summary
  notices := s.trace.filterMap (·.notice?)
  busTrace := #[]

end Simulation

/-- The bytes of a test image: they count up and start over after 250. -/
def patternImage (size : Nat) : Bytes :=
  Array.ofFn fun i : Fin size => UInt8.ofNat (i.val % 251)

/-- The standard settings with another chunk size, if one is given. -/
def Config.withChunkSize (c : Config) (chunkSize : Option UInt16) : Config :=
  { c with chunkSize := chunkSize.getD c.chunkSize }

end FirmwareUpgrade
