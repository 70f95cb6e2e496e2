import FirmwareUpgrade.Bus.Wire
import FirmwareUpgrade.Cli.Report
import FirmwareUpgrade.Installation

/-!
# The `list` command

Every device in DFU mode is shown with its place and identity. A device that can be opened also
shows its DFU interfaces and its functional descriptor.
-/
namespace FirmwareUpgrade

namespace BusDevice

def identityLine (d : BusDevice) : String :=
  "Bus " ++ d.bus ++ " Device " ++ Numeral.decimal 3 d.address.toNat ++ ": ID " ++
    Numeral.hex 4 d.vendor.toNat ++ ":" ++ Numeral.hex 4 d.product.toNat

def interfaceLine (i : Interface) : String :=
  s!"  DFU interface {i.number.toNat} (protocol={i.protocol.toNat})"

/-- The letters for what a device can do: download, upload, detach by itself. -/
def abilities (d : Descriptor) : String :=
  (if d.canDownload then "d" else "") ++ (if d.canUpload then "u" else "") ++
    (if d.willDetach then "w" else "")

def descriptorLine (d : Descriptor) : String :=
  "  DFU " ++ Numeral.hex 1 (d.version.toNat / 256) ++ "." ++
    Numeral.hex 2 (d.version.toNat % 256) ++
    s!": transfer size {d.transferSize.toNat}, detach timeout {d.detachTimeout.toNat} ms (" ++
    abilities d ++ ")"

def detailLines (d : BusDevice) : List String :=
  (d.configuration.interfaces.filter (·.isDfu)).map interfaceLine ++
    (d.descriptor?.map descriptorLine).toList

/-- The lines for a device at a place of the bus, and what was done to look at it. -/
def listing (d : BusDevice) (place : Nat) : List String × List (Nat × BusEvent) :=
  let (wire, result) := (Wire.mk d #[]).openDevice
  (d.identityLine :: (match result with
      | .ok () => d.detailLines
      | .error _ => []),
    (wire.eventsAt place).toList)

end BusDevice

/-- Lists the devices in DFU mode with a vendor and product, those of the accelerator where nothing
else is said. -/
def Bus.list (b : Bus) (vendor product : Option UInt16) : Report :=
  match b.dfuDevices (vendor.or (some dfuVendor)) (product.or (some dfuProduct)) with
  | .error text => .failure (.usb text)
  | .ok [] => ⟨.ok (), #["No DFU device found"], #[], #[]⟩
  | .ok devices =>
    let listings := devices.map fun (d, place) => d.listing place
    { result := .ok ()
      output := (listings.flatMap (·.1)).toArray
      notices := #[]
      busTrace := (listings.flatMap (·.2)).toArray }

end FirmwareUpgrade
