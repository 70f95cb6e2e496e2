import FirmwareUpgrade.Host.Dispatcher
import FirmwareUpgrade.Queue.Worker

/-!
# A switchboard

A dispatcher with two kinds of callbacks: the event handler, which queues requests, and recorders,
which take down the events that they are given. The worker behind the queue only collects.
-/
namespace FirmwareUpgrade

/-- A callback of a switchboard. -/
inductive Listener where
  /-- Queues what events amount to. -/
  | handler
  /-- Takes events down under a name and always gives the same answer. -/
  | recorder (name : String) (answer : EventStatus)
deriving Repr

/-- An event that a recorder has taken down. -/
structure Sighting where
  name : String
  host : HostHandle
  device : DeviceHandle
  event : HostEvent

/-- What the callbacks can change. -/
structure SwitchboardWorld where
  channel : Channel Request Unit
  sightings : Array Sighting

/-- A dispatcher with its queue, the worker of which collects requests. -/
structure Switchboard where
  dispatcher : Dispatcher Listener
  worker : Worker (Array Request) Request Unit Unit
  sightings : Array Sighting

def Listener.react (l : Listener) (host : HostHandle) (device : DeviceHandle) (event : HostEvent)
    (w : SwitchboardWorld) : Reaction Listener SwitchboardWorld :=
  match l with
  | handler =>
    let (channel, status, notices) := event.post host device w.channel
    { callback := l, world := { w with channel }, status, notices }
  | recorder name answer =>
    { callback := l
      world := { w with sightings := w.sightings.push ⟨name, host, device, event⟩ }
      status := answer
      notices := [] }

namespace Switchboard

def new (capacity : Nat) : Switchboard where
  dispatcher := .empty
  worker := .new #[] (Channel.bounded capacity)
  sightings := #[]

/-- Registers a callback. The event handler takes a sender of the queue with it. -/
def register (b : Switchboard) (vendor product : UInt16) (listener : Listener) : Switchboard :=
  { b with dispatcher := b.dispatcher.register vendor product listener }

/-- Hands an event to the callback of its pair. Gives the answer and what is reported. -/
def dispatch (b : Switchboard) (vendor product : UInt16) (host : HostHandle)
    (device : DeviceHandle) (event : HostEvent) : Switchboard × EventStatus × List Notice :=
  let (dispatcher, world, status, notices) :=
    b.dispatcher.dispatch Listener.react vendor product host device event
      ⟨b.worker.service.channel, b.sightings⟩
  let service := { b.worker.service with channel := world.channel }
  ({ b with dispatcher, worker := { b.worker with service }, sightings := world.sightings },
    status, notices)

def collect : Handler (Array Request) Request Unit Unit := fun s request =>
  ({ s with state := s.state.push request }, ())

/-- Lets the worker collect what waits. Gives the requests and what is reported, unless the worker
is gone. -/
def drain (b : Switchboard) : Switchboard × Option (Array Request × List Notice) :=
  let channel := b.worker.service.channel
  if channel.isOpen then
    let (worker, count) :=
      (Worker.new #[] channel).drain collect channel.waiting.length 0
    ({ b with worker }, some (worker.service.state, [.handled count]))
  else
    (b, none)

def close (b : Switchboard) : Switchboard :=
  let service := { b.worker.service with channel := b.worker.service.channel.close }
  { b with worker := { b.worker with service } }

end Switchboard

end FirmwareUpgrade
