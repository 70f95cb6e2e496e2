import FirmwareUpgrade.Protocol.Descriptor
import FirmwareUpgrade.Protocol.Setup
import FirmwareUpgrade.Protocol.Status
import FirmwareUpgrade.Usb.Interface

/-!
# Devices on a scripted bus

A scripted bus stands in for real hardware. Each device on it has what a host sees of it, a memory
that DFU class requests write and read, and orders by which single actions fail, hang, or get
another reply.
-/
namespace FirmwareUpgrade

/-- The actions on a device that can be counted and spoiled. -/
inductive BusAction where
  | openDevice
  | claim
  | alternate
  | reset
  | detach
  | dnload
  | clearStatus
  | abort
  | upload
  | getStatus
deriving DecidableEq, Repr, Inhabited

namespace BusAction

/-- All actions, in the order in which they are counted. -/
def all : List BusAction :=
  [openDevice, claim, alternate, reset, detach, dnload, clearStatus, abort, upload, getStatus]

def text : BusAction → String
  | openDevice => "open"
  | claim => "claim"
  | alternate => "alt"
  | reset => "reset"
  | detach => "detach"
  | dnload => "dnload"
  | clearStatus => "clear_status"
  | abort => "abort"
  | upload => "upload"
  | getStatus => "get_status"

def ofText? (text : String) : Option BusAction :=
  all.find? (·.text == text)

/-- The action that a class request with data to the device is. -/
def ofOut? (request : UInt8) : Option BusAction :=
  if request = detachCode then some detach
  else if request = downloadCode then some dnload
  else if request = clearStatusCode then some clearStatus
  else if request = abortCode then some abort
  else none

/-- The action that a class request with data from the device is. -/
def ofIn? (request : UInt8) : Option BusAction :=
  if request = uploadCode then some upload
  else if request = getStatusCode then some getStatus
  else none

end BusAction

/-- The failure of a control transfer. -/
inductive TransferError where
  | cancelled
  | stall
  | disconnected
  | fault
  | invalidArgument
  | unknown
deriving DecidableEq, Repr, Inhabited

namespace TransferError

def text : TransferError → String
  | cancelled => "Cancelled"
  | stall => "Stall"
  | disconnected => "Disconnected"
  | fault => "Fault"
  | invalidArgument => "InvalidArgument"
  | unknown => "Unknown(1)"

/-- The failure of a name; a name that is not known stands for an unknown failure. -/
def ofText (text : String) : TransferError :=
  if text = "Cancelled" then cancelled
  else if text = "Stall" then stall
  else if text = "Disconnected" then disconnected
  else if text = "Fault" then fault
  else if text = "InvalidArgument" then invalidArgument
  else unknown

end TransferError

/-- What an order does to an action. -/
inductive Disturbance where
  /-- The action fails with this text; of a transfer the text names the failure. -/
  | error (text : String)
  /-- The action never ends. -/
  | hang
  /-- The data from the device is replaced. -/
  | data (data : Bytes)
  /-- The data from the device is cut. -/
  | truncate (size : Nat)
deriving DecidableEq, Repr

/-- An order to disturb an action: each one of that kind, or only the `nth`, counted from zero. -/
structure BusTwist where
  action : BusAction
  nth : Option Nat
  disturbance : Disturbance
deriving DecidableEq, Repr

/-- An alternate setting of an interface as an opened device describes it. -/
structure AlternateSetting where
  number : UInt8
  setting : UInt8
  interfaceClass : UInt8
  subclass : UInt8
  protocol : UInt8
  /-- The descriptors that belong to this setting. -/
  descriptors : List Bytes
deriving DecidableEq, Repr

/-- What the list of devices tells of an interface before the device is opened. -/
structure ListedInterface where
  interfaceClass : UInt8
  subclass : UInt8
deriving DecidableEq, Repr

/-- A device on the bus. -/
structure BusDevice where
  vendor : UInt16
  product : UInt16
  bus : String
  address : UInt8
  listed : List ListedInterface
  configurations : List (List AlternateSetting)
  twists : List BusTwist
  memory : Bytes
  uploadOffset : Nat
  status : UInt8
  state : UInt8
  pollTimeout : Nat
  /-- The byte of memory that is inverted when it is read. -/
  corrupt : Option Nat
  /-- The number of actions so far, by kind. -/
  counts : Array Nat
deriving Repr

namespace BusDevice

/-- Whether a disturbance is ordered for the `count`-th action of a kind. -/
def isOrdered (action : BusAction) (count : Nat) (t : BusTwist) : Bool :=
  t.action == action && (t.nth == none || t.nth == some count)

/-- Counts an action and looks up how it is disturbed; the first order that fits counts. -/
def count (d : BusDevice) (action : BusAction) : BusDevice × Option Disturbance :=
  let i := BusAction.all.idxOf action
  let disturbance := (d.twists.find? (isOrdered action (d.counts.getD i 0))).map (·.disturbance)
  ({ d with counts := d.counts.modify i (· + 1) }, disturbance)

/-- Carries out a class request that sends data. -/
def receive (d : BusDevice) (request : UInt8) (value : UInt16) (data : Bytes) : BusDevice :=
  match BusAction.ofOut? request with
  | some .detach => { d with state := Status.appDetach }
  | some .dnload =>
    if data.isEmpty then { d with uploadOffset := 0, state := Status.dfuIdle }
    else
      { d with
        memory := (if value = 0 then #[] else d.memory) ++ data
        state := Status.downloadIdle }
  | some .clearStatus => { d with status := 0, state := Status.dfuIdle }
  | some .abort => { d with state := Status.dfuIdle }
  | _ => d

def statusReply (d : BusDevice) : Bytes :=
  #[d.status, UInt8.ofNat d.pollTimeout, UInt8.ofNat (d.pollTimeout / 0x100),
    UInt8.ofNat (d.pollTimeout / 0x10000), d.state, 0]

/-- Carries out a class request that asks for at most `length` bytes. -/
def send (d : BusDevice) (request : UInt8) (length : Nat) : BusDevice × Bytes :=
  match BusAction.ofIn? request with
  | some .upload =>
    let first := min d.uploadOffset d.memory.size
    let last := min (first + length) d.memory.size
    let data := d.memory.readFlawed d.corrupt first last
    ({ d with uploadOffset := last, state := Status.uploadIdle }, data)
  | some .getStatus => (d, d.statusReply.extract 0 length)
  | _ => (d, #[])

/-- Whether the list of devices shows a DFU interface. -/
def isDfu (d : BusDevice) : Bool :=
  d.listed.any fun i => i.interfaceClass == dfuClass && i.subclass == dfuSubclass

/-- The settings of the first configuration that are in force when a device is opened. -/
def primarySettings (d : BusDevice) : List AlternateSetting :=
  (d.configurations.headD []).filter (·.setting == 0)

/-- What the host stack tells of a setting. An interface is handled by its number. -/
def AlternateSetting.interface (a : AlternateSetting) : Interface where
  handle := ⟨a.number.toNat⟩
  number := a.number
  alternateSetting := a.setting
  interfaceClass := a.interfaceClass
  subclass := a.subclass
  protocol := a.protocol

def configuration (d : BusDevice) : Configuration :=
  ⟨d.primarySettings.map AlternateSetting.interface⟩

/-- The first functional descriptor among those of the interfaces. -/
def descriptor? (d : BusDevice) : Option Descriptor :=
  d.primarySettings.findSome? fun a => a.descriptors.findSome? Descriptor.decode?

end BusDevice

/-- The bus: the devices in the order of the list, unless the list cannot be had. -/
structure Bus where
  listError : Option String
  devices : List BusDevice
deriving Repr

/-- The devices with a DFU interface that have the wanted vendor and product, each with its place
on the bus. -/
def Bus.dfuDevices (b : Bus) (vendor product : Option UInt16) :
    Except String (List (BusDevice × Nat)) :=
  match b.listError with
  | some text => .error text
  | none => .ok <| b.devices.zipIdx.filter fun (d, _) =>
      vendor.all (d.vendor == ·) && product.all (d.product == ·) && d.isDfu

end FirmwareUpgrade
