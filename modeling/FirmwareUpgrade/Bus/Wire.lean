import FirmwareUpgrade.Bus.Device
import FirmwareUpgrade.Data.Digest

/-!
# Access to one device

A wire is the access to one device on the bus. It records every action in order. A control transfer
is recorded with the fields of its setup stage; for data to the device the length of that stage is
the length of the data.
-/
namespace FirmwareUpgrade

/-- The time in milliseconds that a control transfer may take. -/
def transferTimeout : Nat := 5000

/-- What was done to a device. -/
inductive BusEvent where
  | openDevice (ok : Bool)
  | claim (interface : UInt8) (ok : Bool)
  | alternate (setting : UInt8) (ok : Bool)
  | reset (ok : Bool)
  /-- The last hold on a claimed interface is gone. -/
  | release (interface : UInt8)
  /-- Data was sent to an interface. -/
  | sent (request : UInt8) (value index : UInt16) (data : Bytes)
      (result : Except TransferError Unit)
  /-- Data was asked for from an interface. -/
  | asked (request : UInt8) (value index length : UInt16) (result : Except TransferError Bytes)

namespace BusEvent

def failureMark (ok : Bool) : String :=
  if ok then "" else " -> error"

def text : BusEvent → String
  | openDevice ok => "open" ++ failureMark ok
  | claim interface ok => s!"claim {interface.toNat}" ++ failureMark ok
  | alternate setting ok => s!"alt {setting.toNat}" ++ failureMark ok
  | reset ok => "reset" ++ failureMark ok
  | release interface => s!"release {interface.toNat}"
  | sent request value index data result =>
    s!"out Class Interface r{request.toNat} v{value.toNat} i{index.toNat} n{data.size}" ++
      s!" f{(Digest.ofBytes data).toNat} t{transferTimeout} -> " ++
      match result with
      | .ok () => "ok"
      | .error e => e.text
  | asked request value index length result =>
    s!"in Class Interface r{request.toNat} v{value.toNat} i{index.toNat} n{length.toNat}" ++
      s!" t{transferTimeout} -> " ++
      match result with
      | .ok data => s!"n{data.size} f{(Digest.ofBytes data).toNat}"
      | .error e => e.text

/-- The wording of an event on the device at a place of the bus. -/
def line (place : Nat) (e : BusEvent) : String :=
  s!"d{place} " ++ e.text

/-- The setup packet that goes over the wire with a control transfer to or from an interface. -/
def packet? : BusEvent → Option Bytes
  | sent request value index data _ =>
    some #[0x21, request, LittleEndian.low value, LittleEndian.high value,
      LittleEndian.low index, LittleEndian.high index,
      UInt8.ofNat data.size, UInt8.ofNat (data.size / 256)]
  | asked request value index length _ =>
    some #[0xA1, request, LittleEndian.low value, LittleEndian.high value,
      LittleEndian.low index, LittleEndian.high index,
      LittleEndian.low length, LittleEndian.high length]
  | _ => none

end BusEvent

/-- The reason for which an action has no result. -/
inductive Hitch where
  | failed (text : String)
  /-- The action never ends. -/
  | hangs
deriving DecidableEq, Repr

/-- The access to a device. -/
structure Wire where
  device : BusDevice
  trace : Array BusEvent

namespace Wire

def record (w : Wire) (e : BusEvent) : Wire :=
  { w with trace := w.trace.push e }

/-- The record, each event with the place of the device on the bus. -/
def eventsAt (w : Wire) (place : Nat) : Array (Nat × BusEvent) :=
  w.trace.map (place, ·)

/-- Does something that takes no data. An action that never ends leaves no trace. -/
def act (w : Wire) (action : BusAction) (event : Bool → BusEvent) : Wire × Except Hitch Unit :=
  let (device, disturbance) := w.device.count action
  let w := { w with device }
  match disturbance with
  | some .hang => (w, .error .hangs)
  | some (.error text) => (w.record (event false), .error (.failed text))
  | _ => (w.record (event true), .ok ())

def openDevice (w : Wire) : Wire × Except Hitch Unit :=
  w.act .openDevice .openDevice

def claim (w : Wire) (interface : UInt8) : Wire × Except Hitch Unit :=
  w.act .claim (.claim interface)

/-- Selects an alternate setting of a claimed interface. -/
def alternate (w : Wire) (setting : UInt8) : Wire × Except Hitch Unit :=
  w.act .alternate (.alternate setting)

def reset (w : Wire) : Wire × Except Hitch Unit :=
  w.act .reset .reset

/-- Counts a transfer and looks up how it is disturbed. -/
def countTransfer (w : Wire) (action : Option BusAction) : Wire × Option Disturbance :=
  match action with
  | none => (w, none)
  | some action =>
    let (device, disturbance) := w.device.count action
    ({ w with device }, disturbance)

/-- Sends data. A transfer that fails does not reach the device. -/
def sendData (w : Wire) (request : UInt8) (value index : UInt16) (data : Bytes) :
    Wire × Except TransferError Unit :=
  let (w, disturbance) := w.countTransfer (BusAction.ofOut? request)
  match disturbance with
  | some (.error text) =>
    let e := TransferError.ofText text
    (w.record (.sent request value index data (.error e)), .error e)
  | _ =>
    let w := { w with device := w.device.receive request value data }
    (w.record (.sent request value index data (.ok ())), .ok ())

/-- The data that arrives, after a disturbance, of what the device sent. -/
def disturb (data : Bytes) : Option Disturbance → Bytes
  | some (.data other) => other
  | some (.truncate size) => data.extract 0 size
  | _ => data

/-- Asks for data. A transfer that fails does not reach the device. -/
def askData (w : Wire) (request : UInt8) (value index length : UInt16) :
    Wire × Except TransferError Bytes :=
  let (w, disturbance) := w.countTransfer (BusAction.ofIn? request)
  match disturbance with
  | some (.error text) =>
    let e := TransferError.ofText text
    (w.record (.asked request value index length (.error e)), .error e)
  | _ =>
    let (device, data) := w.device.send request length.toNat
    let data := disturb data disturbance
    (({ w with device } : Wire).record (.asked request value index length (.ok data)), .ok data)

end Wire

end FirmwareUpgrade
