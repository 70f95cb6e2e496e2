import FirmwareUpgrade.Controller.Phase
import FirmwareUpgrade.Usb.Handle
import FirmwareUpgrade.Usb.Transfer

/-!
# Requests to the controller

Everything that can happen to an upgrade reaches it as a request: a step to another phase, the
identity of a device that attached, or the completion of an operation. A completion shows by its
ticket to which operation it belongs.
-/
namespace FirmwareUpgrade

/-- The identity of a device that attached. -/
structure Binding where
  host : HostHandle
  device : DeviceHandle
  interface : InterfaceHandle
deriving DecidableEq, Repr, Inhabited

def Binding.text (b : Binding) : String :=
  "DeviceBinding \x7b host: " ++ b.host.text ++ ", device: " ++ b.device.text ++
    ", interface: " ++ b.interface.text ++ " \x7d"

/-- The right to report the result of one operation. -/
structure Completion where
  ticket : UInt32
  operation : Operation
deriving DecidableEq, Repr, Inhabited

/-- A request to the controller. -/
inductive Request where
  | nextPhase (phase : Phase)
  | bind (binding : Binding)
  | completed (completion : Completion) (reply : Reply)

end FirmwareUpgrade
