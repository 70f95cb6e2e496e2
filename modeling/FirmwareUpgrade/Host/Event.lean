import FirmwareUpgrade.Controller.Notice
import FirmwareUpgrade.Queue.Channel
import FirmwareUpgrade.Usb.Interface

/-!
# Host events

The host stack reports that a device attached, was enumerated or went away. The event handler
neither waits nor looks at the upgrade: it chooses the DFU interface of a new device and queues the
request that an event amounts to.
-/
namespace FirmwareUpgrade

/-- An event of the host stack. A new device comes with its configuration. -/
inductive HostEvent where
  | attach (configuration : Configuration)
  | enumerationDone
  | detach
  | other (code : UInt32)
deriving Repr

/-- The answer to an event. -/
inductive EventStatus where
  | success
  /-- The host stack is to leave the device alone. -/
  | notSupported
  /-- The event could not be queued. -/
  | busy
deriving DecidableEq, Repr, Inhabited

namespace HostEvent

/-- The request that an event amounts to, or the answer to an event that asks for nothing. -/
def request (host : HostHandle) (device : DeviceHandle) :
    HostEvent → Except EventStatus Request
  | attach configuration =>
    match configuration.dfuInterface? with
    | some interface => .ok (.bind ⟨host, device, interface.handle⟩)
    | none => .error .notSupported
  | enumerationDone => .ok (.nextPhase .attached)
  | detach => .ok (.nextPhase .unattached)
  | other _ => .error .success

/-- What is reported about an event before it is queued. -/
def notices (device : DeviceHandle) : HostEvent → List Notice
  | attach configuration =>
    match configuration.dfuInterface? with
    | some interface => [.interfaceFound interface.number device]
    | none => []
  | _ => []

/-- Queues what an event amounts to. Gives the queue, the answer and what is reported. -/
def post {κ : Type} (host : HostHandle) (device : DeviceHandle) (event : HostEvent)
    (channel : Channel Request κ) : Channel Request κ × EventStatus × List Notice :=
  match event.request host device with
  | .error status => (channel, status, [])
  | .ok request =>
    match channel.refusal? with
    | none => (channel.send request, .success, event.notices device)
    | some reason => (channel, .busy, event.notices device ++ [.eventDropped reason])

end HostEvent

end FirmwareUpgrade
