import FirmwareUpgrade.Cli.Arguments
import FirmwareUpgrade.Cli.Flash
import FirmwareUpgrade.Cli.Listing

/-!
# Running a command

What a command does is a function of the bus and of the contents of the image file. The file is
named by the command, so it can be read beforehand; a file that is named comes before a pattern.
-/
namespace FirmwareUpgrade

def versionLine : String := "accel-dfu-cli 0.1.0"

def usageLines : Array String := #[
  "Usage: accel-dfu-cli [COMMAND]",
  "",
  "Commands:",
  "  list      list accelerators in DFU mode [-v HEX] [-p HEX]",
  "  flash     flash, verify and detach the accelerator FILE [-c N] [-t SECONDS]",
  "  simulate  run the DFU sequence against a simulated accelerator [FILE] [--pattern SIZE] [-c N]",
  "            [--fail-block N] [--corrupt-offset N] [--defer]"]

namespace Command

def file? : Command → Option String
  | flash file .. => some file
  | simulate file .. => file
  | _ => none

/-- The image that a file or a pattern gives; the file counts if both are given. -/
def image (contents : Option (Except String Bytes)) (pattern : Option Nat) :
    Except CommandError Bytes :=
  match contents, pattern with
  | some (.ok bytes), _ => .ok bytes
  | some (.error text), _ => .error (.file text)
  | none, some size => .ok (patternImage size)
  | none, none => .error .noImage

/-- Runs a command on a bus. The contents of the image file, or why it cannot be read, are given if
the command names one. -/
def run (bus : Bus) (contents : Option (Except String Bytes)) : Command → Report
  | list vendor product => bus.list vendor product
  | flash _ chunkSize _ =>
    match image contents none with
    | .error cause => .failure cause
    | .ok image => bus.flash image chunkSize
  | simulate _ pattern chunkSize failBlock corruptOffset deferred =>
    match image contents pattern with
    | .error cause => .failure cause
    | .ok image =>
      (Simulation.run image (Config.standard.withChunkSize chunkSize)
        { Faults.none with failBlock, corruptOffset } deferred).report
  | version => ⟨.ok (), #[versionLine], #[], #[]⟩
  | help => ⟨.ok (), usageLines, #[], #[]⟩

end Command

end FirmwareUpgrade
