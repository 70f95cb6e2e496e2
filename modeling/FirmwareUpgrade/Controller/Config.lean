import FirmwareUpgrade.Protocol.Descriptor

/-!
# Settings of an upgrade
-/
namespace FirmwareUpgrade

/-- The settings of an upgrade. -/
structure Config where
  /-- The largest payload of one transfer. -/
  chunkSize : UInt16
  /-- The time in milliseconds that the device is given to detach. -/
  detachTimeout : UInt16
  /-- The number of requests that may wait. -/
  queueCapacity : Nat
  /-- Whether the status is asked for once more after the detach request. -/
  checkStatusAfterDetach : Bool
deriving DecidableEq, Repr

namespace Config

/-- The settings used where nothing else is said. -/
def standard : Config where
  chunkSize := 256
  detachTimeout := 1000
  queueCapacity := 16
  checkStatusAfterDetach := false

instance : Inhabited Config := ⟨standard⟩

/-- Takes over the transfer size of the device, and its detach timeout where that is shorter. A
zero in the descriptor says nothing. -/
def withDescriptor (c : Config) (d : Descriptor) : Config :=
  { c with
    chunkSize := if d.transferSize = 0 then c.chunkSize else d.transferSize
    detachTimeout :=
      if d.detachTimeout = 0 then c.detachTimeout else min c.detachTimeout d.detachTimeout }

/-- The settings for a device that may have a descriptor. -/
def withDescriptor? (c : Config) : Option Descriptor → Config
  | some d => c.withDescriptor d
  | none => c

end Config

end FirmwareUpgrade
