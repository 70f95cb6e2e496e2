import FirmwareUpgrade.Bus.Link
import FirmwareUpgrade.Cli.Simulate

/-!
# The `flash` command

An image is sent to the accelerator on the bus. There has to be exactly one device in DFU mode. Its
functional descriptor sets the block size unless one is given, and bounds the detach timeout.
-/
namespace FirmwareUpgrade

/-- A controller over a device on the bus, with nobody waiting for responses. -/
abbrev Flashing := Installation (Link Completion) Empty

namespace Flashing

def settings (d : BusDevice) (chunkSize : Option UInt16) : Config :=
  (Config.standard.withDescriptor? d.descriptor?).withChunkSize chunkSize

def start (wire : Wire) (image : Bytes) (config : Config) : Flashing :=
  ((Installation.new (Link.new wire) image config).note
    (.flashSettings image.size config.chunkSize.toNat config.detachTimeout.toNat)).note
    (.waitingForAccelerator dfuVendor dfuProduct image.size)

def round (f : Flashing) : Flashing :=
  (f.drain Link.driver).1

/-- Hands over an event of the device. Anything but success ends the command. -/
def dispatchEvent (f : Flashing) (event : HostEvent) : Flashing × Except CommandError Unit :=
  let (f, status) := f.dispatch dfuVendor dfuProduct Link.host Link.device event
  (f, match status with
    | .success => .ok ()
    | .notSupported => .error .noDevice
    | .busy => .error (.ended f.controller.watch))

/-- What waiting for the end gives, everything being done that can be done. -/
def waitResult (f : Flashing) : Except CommandError Unit :=
  match f.controller.watch with
  | .complete => .ok ()
  | .error => .error (.ended .error)
  | _ => .error (.worker .timeout)

/-- Attaches the device, ends its enumeration, and goes on until nothing is left to do. -/
def run (f : Flashing) (configuration : Configuration) : Flashing × Except CommandError Unit :=
  match f.dispatchEvent (.attach configuration) with
  | (f, .error cause) => (f, .error cause)
  | (f, .ok ()) =>
    match f.dispatchEvent .enumerationDone with
    | (f, .error cause) => (f, .error cause)
    | (f, .ok ()) =>
      let (f, _) := f.settle round Link.backlog
      (f, waitResult f)

/-- What the command leaves behind; `place` is the place of the device on the bus. -/
def report (f : Flashing) (place : Nat) (result : Except CommandError Unit) : Report where
  result := result
  output :=
    match result with
    | .ok () => #[s!"Flashed {f.controller.image.size} bytes"]
    | .error _ => #[]
  notices := f.trace.filterMap (·.notice?)
  busTrace := f.driver.wire.eventsAt place

end Flashing

def onlyDevice : List (BusDevice × Nat) → Except CommandError (BusDevice × Nat)
  | [] => .error .noDevice
  | [d] => .ok d
  | _ => .error .manyDevices

/-- The accelerator in DFU mode on a bus, and its place. -/
def Bus.accelerator (b : Bus) : Except CommandError (BusDevice × Nat) :=
  match b.dfuDevices (some dfuVendor) (some dfuProduct) with
  | .error text => .error (.usb text)
  | .ok devices => onlyDevice devices

/-- Sends an image to the accelerator on a bus. -/
def Bus.flash (b : Bus) (image : Bytes) (chunkSize : Option UInt16) : Report :=
  match b.accelerator with
  | .error cause => .failure cause
  | .ok (device, place) =>
    match (Wire.mk device #[]).openDevice with
    | (wire, .error (.failed text)) =>
      ⟨.error (.usb text), #[], #[], wire.eventsAt place⟩
    | (wire, .error .hangs) =>
      ⟨.error (.worker .timeout), #[], #[], wire.eventsAt place⟩
    | (wire, .ok ()) =>
      let (f, result) :=
        (Flashing.start wire image (Flashing.settings device chunkSize)).run device.configuration
      f.report place result

end FirmwareUpgrade
