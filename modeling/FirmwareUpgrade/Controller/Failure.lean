import FirmwareUpgrade.Queue.Channel
import FirmwareUpgrade.Usb.Transfer

/-!
# Causes of a failed upgrade
-/
namespace FirmwareUpgrade

/-- The cause for which an upgrade ends in failure. -/
inductive UpgradeError where
  /-- Enumeration ended and no DFU interface had been offered. -/
  | unsupportedDevice
  /-- The class driver could not be initialised. -/
  | classInit (cause : UsbError)
  /-- The class driver refused to start an operation. -/
  | classCall (operation : Operation) (cause : UsbError)
  /-- An operation was started and failed. -/
  | transfer (operation : Operation) (cause : UsbError)
  /-- The device reports an error. -/
  | status (code state : UInt8)
  /-- A status reply has too few bytes. -/
  | responseTooShort (got expected : Nat)
  /-- What was read back is not what was sent. -/
  | verificationMismatch (offset : Nat)
  /-- A request or a completion found the queue full. -/
  | queueFull
  /-- A request found the queue closed. -/
  | queueClosed
deriving DecidableEq, Repr, Inhabited

namespace UpgradeError

def message : UpgradeError → String
  | unsupportedDevice => "No DFU interface on device"
  | classInit e => "DFU class init failed: " ++ e.message
  | classCall op e => "Failed to issue " ++ op.text ++ ": " ++ e.message
  | transfer op e => op.text ++ " transfer failed: " ++ e.message
  | status code state => s!"DFU status error: code {code.toNat} in state {state.toNat}"
  | responseTooShort got expected => s!"Response too short: {got} of {expected} bytes"
  | verificationMismatch offset => s!"Read back firmware differs at offset {offset}"
  | queueFull => "Request queue full"
  | queueClosed => "Request queue closed"

/-- The failure that a refused request amounts to. -/
def ofQueueError : QueueError → UpgradeError
  | .full => queueFull
  | .closed => queueClosed

end UpgradeError

end FirmwareUpgrade
