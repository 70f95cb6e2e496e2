/-!
# Handles of the host stack

The host stack names host controllers, devices, interfaces and class instances by opaque numbers.
Each kind has a type of its own, so that one cannot be given for another.
-/
namespace FirmwareUpgrade

/-- A USB host controller. -/
structure HostHandle where
  value : Nat
deriving DecidableEq, Repr, Inhabited

/-- An enumerated USB device. -/
structure DeviceHandle where
  value : Nat
deriving DecidableEq, Repr, Inhabited

/-- A matched interface of a device. -/
structure InterfaceHandle where
  value : Nat
deriving DecidableEq, Repr, Inhabited

/-- An instance of the DFU class driver, handed out when it is initialised on a device. -/
structure ClassHandle where
  value : Nat
deriving DecidableEq, Repr, Inhabited

def HostHandle.text (h : HostHandle) : String := s!"HostHandle({h.value})"

def DeviceHandle.text (h : DeviceHandle) : String := s!"DeviceHandle({h.value})"

def InterfaceHandle.text (h : InterfaceHandle) : String := s!"InterfaceHandle({h.value})"

end FirmwareUpgrade
