import FirmwareUpgrade.Usb.Handle

/-!
# Interfaces of a device

The interface descriptors that the host stack offers when a device attaches, and the choice of the
one that speaks DFU.
-/
namespace FirmwareUpgrade

/-- The application-specific interface class. -/
def dfuClass : UInt8 := 0xFE

/-- The subclass of firmware upgrade within the application-specific class. -/
def dfuSubclass : UInt8 := 0x01

/-- What the host stack tells of one interface. -/
structure Interface where
  handle : InterfaceHandle
  number : UInt8
  alternateSetting : UInt8
  interfaceClass : UInt8
  subclass : UInt8
  protocol : UInt8
deriving DecidableEq, Repr, Inhabited

/-- An interface speaks DFU when its class and subclass both say so. -/
def Interface.isDfu (i : Interface) : Bool :=
  i.interfaceClass == dfuClass && i.subclass == dfuSubclass

/-- The active configuration of an attached device. -/
structure Configuration where
  interfaces : List Interface
deriving DecidableEq, Repr, Inhabited

/-- The first interface of the configuration that speaks DFU. -/
def Configuration.dfuInterface? (c : Configuration) : Option Interface :=
  c.interfaces.find? Interface.isDfu

end FirmwareUpgrade
