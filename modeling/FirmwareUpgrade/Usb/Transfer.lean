import FirmwareUpgrade.Data.Bytes

/-!
# Operations and their results

The asynchronous operations of the DFU class driver, the errors that the host stack reports, and
the reply with which an operation is completed.
-/
namespace FirmwareUpgrade

/-- A failure reported by the host stack, at once or when an operation completes. -/
inductive UsbError where
  | stall
  | timeout
  | disconnected
  | busy
  | invalidHandle
  | notSupported
  | io
deriving DecidableEq, Repr, Inhabited

def UsbError.message : UsbError → String
  | .stall => "endpoint stalled"
  | .timeout => "transaction timed out"
  | .disconnected => "device disconnected"
  | .busy => "host controller busy"
  | .invalidHandle => "invalid handle"
  | .notSupported => "not supported"
  | .io => "I/O error"

/-- The asynchronous operations of the class driver. -/
inductive Operation where
  | setInterface
  | getStatus
  | dnload
  | upload
  | detach
deriving DecidableEq, Repr, Inhabited

def Operation.text : Operation → String
  | .setInterface => "SET_INTERFACE"
  | .getStatus => "GET_STATUS"
  | .dnload => "DNLOAD"
  | .upload => "UPLOAD"
  | .detach => "DETACH"

/-- The result of a completed operation: the bytes that the device returned, none for an operation
that only sends. -/
abbrev Reply := Except UsbError Bytes

end FirmwareUpgrade
