import FirmwareUpgrade.Cli.Run

/-!
# The program

Reads the arguments and the image file, runs the command, and writes its report. No bus is attached
to this build, so `list` and `flash` find no device. The variable `RUST_LOG` sets how much is
logged.
-/
namespace FirmwareUpgrade

/-- The threshold that a level stands for; errors alone are logged where none is given. -/
def thresholdOfText (text : String) : Option Severity :=
  if text = "off" then none
  else if text = "warn" then some .warn
  else if text = "info" then some .info
  else if text = "debug" then some .debug
  else if text = "trace" then some .trace
  else some .error

/-- The reason for which a file cannot be read. -/
def fileErrorText : IO.Error → String
  | .noFileOrDirectory .. => "No such file or directory (os error 2)"
  | .inappropriateType .. => "Is a directory (os error 21)"
  | .permissionDenied .. => "Permission denied (os error 13)"
  | e => toString e

/-- The contents of a file, or why it cannot be read. -/
def readImage (name : String) : IO (Except String Bytes) := do
  try
    return .ok (← IO.FS.readBinFile name).data
  catch e =>
    return .error (fileErrorText e)

def readContents (command : Command) : IO (Option (Except String Bytes)) :=
  match command.file? with
  | some name => return some (← readImage name)
  | none => return none

/-- Runs the command that the arguments ask for, and gives the exit status. -/
def runProgram (arguments : List String) : IO UInt32 := do
  match Arguments.command? arguments with
  | none =>
    IO.eprintln "error: invalid arguments"
    return 2
  | some command =>
    let report := command.run ⟨none, []⟩ (← readContents command)
    let threshold := thresholdOfText ((← IO.getEnv "RUST_LOG").getD "error")
    for line in report.output do
      IO.println line
    for line in report.errorLines threshold do
      IO.eprintln line
    return UInt32.ofNat report.exitStatus

end FirmwareUpgrade

def main (arguments : List String) : IO UInt32 :=
  FirmwareUpgrade.runProgram arguments
