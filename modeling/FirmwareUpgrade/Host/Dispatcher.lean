import FirmwareUpgrade.Host.Event

/-!
# Routing events to drivers

A dispatcher knows one callback for each pair of vendor and product that was registered, and hands
an event to the callback of the device's pair. To the outside it is a finite map: `lookup?` reads
it, `register` sets the value at a pair, and `dispatch` replaces it by the callback's next state.
-/
namespace FirmwareUpgrade

/-- A callback together with the pair that it is registered for. -/
structure Registration (γ : Type) where
  vendor : UInt16
  product : UInt16
  callback : γ
deriving Repr

/-- Whether a registration is the one for a pair. -/
def Registration.isFor {γ : Type} (r : Registration γ) (vendor product : UInt16) : Bool :=
  r.vendor == vendor && r.product == product

/-- What a callback does with an event: its own next state, the outside world that it changed, its
answer, and what it reports. -/
structure Reaction (γ ω : Type) where
  callback : γ
  world : ω
  status : EventStatus
  notices : List Notice

/-- The callbacks registered so far. -/
structure Dispatcher (γ : Type) where
  registrations : List (Registration γ)
deriving Repr

namespace Dispatcher

variable {γ ω : Type}

def empty : Dispatcher γ := ⟨[]⟩

/-- Registers a callback, in place of an earlier one for the same pair. -/
def register (d : Dispatcher γ) (vendor product : UInt16) (callback : γ) : Dispatcher γ :=
  ⟨d.registrations.filter (fun r => !r.isFor vendor product) ++ [⟨vendor, product, callback⟩]⟩

def lookup? (d : Dispatcher γ) (vendor product : UInt16) : Option γ :=
  (d.registrations.find? (·.isFor vendor product)).map (·.callback)

/-- Replaces the callback of the first registration for a pair. -/
def update (vendor product : UInt16) (callback : γ) :
    List (Registration γ) → List (Registration γ)
  | [] => []
  | r :: rest =>
    if r.isFor vendor product then { r with callback } :: rest
    else r :: update vendor product callback rest

/-- Hands an event to the callback of its pair. `invoke` says what a callback does with an event;
without a callback the device is not supported and nothing changes. -/
def dispatch (d : Dispatcher γ)
    (invoke : γ → HostHandle → DeviceHandle → HostEvent → ω → Reaction γ ω)
    (vendor product : UInt16) (host : HostHandle) (device : DeviceHandle) (event : HostEvent)
    (world : ω) : Dispatcher γ × ω × EventStatus × List Notice :=
  match d.lookup? vendor product with
  | none => (d, world, .notSupported, [.noDriver vendor product])
  | some callback =>
    let reaction := invoke callback host device event world
    (⟨update vendor product reaction.callback d.registrations⟩,
      reaction.world, reaction.status, reaction.notices)

end Dispatcher

end FirmwareUpgrade
