import FirmwareUpgrade.Accelerator
import FirmwareUpgrade.Data.Digest

/-!
# A tap between controller and accelerator

The tap passes every primitive on to a simulated accelerator, counts the primitives by name, and
can spoil single ones: refuse the call, change the reply, or keep the completion from the
controller.
-/
namespace FirmwareUpgrade

/-- The names by which primitives are counted. -/
inductive CallName where
  | init
  | setInterface
  | dnload
  | upload
  | getStatus
  | detach
  | deinit
  | busReset
  | reEnumerate
deriving DecidableEq, Repr, Inhabited

namespace CallName

/-- All names, in the order in which they are counted. -/
def all : List CallName :=
  [init, setInterface, dnload, upload, getStatus, detach, deinit, busReset, reEnumerate]

def text : CallName → String
  | init => "init"
  | setInterface => "set_interface"
  | dnload => "dnload"
  | upload => "upload"
  | getStatus => "get_status"
  | detach => "detach"
  | deinit => "deinit"
  | busReset => "bus_reset"
  | reEnumerate => "re_enumerate"

def ofText? (text : String) : Option CallName :=
  all.find? (·.text == text)

def ofOperation : Operation → CallName
  | .setInterface => setInterface
  | .getStatus => getStatus
  | .dnload => dnload
  | .upload => upload
  | .detach => detach

end CallName

/-- A primitive in one line: its name and its arguments, data by size and digest. -/
def Primitive.line : Primitive → String
  | .init device => s!"init d{device.value}"
  | .call target (.setInterface interface alt) =>
    s!"set_interface c{target.value} i{interface.value} a{alt.toNat}"
  | .call target (.dnload block data) =>
    s!"dnload c{target.value} b{block.toNat} n{data.size} f{(Digest.ofBytes data).toNat}"
  | .call target (.upload block length) =>
    s!"upload c{target.value} b{block.toNat} n{length.toNat}"
  | .call target .getStatus => s!"get_status c{target.value}"
  | .call target (.detach timeout) => s!"detach c{target.value} t{timeout.toNat}"
  | .deinit device target => s!"deinit d{device.value} c{target.value}"
  | .busReset host => s!"bus_reset h{host.value}"
  | .reEnumerate device => s!"re_enumerate d{device.value}"

/-- What is done to a primitive. -/
inductive Spoiling where
  /-- The call is refused and the accelerator does not see it. -/
  | reject (cause : UsbError)
  /-- The completion reports this failure. -/
  | fail (cause : UsbError)
  /-- The completion reports success with these bytes, whatever happened. -/
  | replace (data : Bytes)
  /-- A successful reply is cut. -/
  | truncate (size : Nat)
  /-- A successful reply is made longer. -/
  | append (data : Bytes)
  /-- The completion is never called. -/
  | drop
deriving DecidableEq, Repr

/-- The reply that reaches the controller, if one does. -/
def Spoiling.apply : Spoiling → Reply → Option Reply
  | .reject _, reply => some reply
  | .fail cause, _ => some (.error cause)
  | .replace data, _ => some (.ok data)
  | .truncate size, reply => some (reply.map (·.extract 0 size))
  | .append data, reply => some (reply.map (· ++ data))
  | .drop, _ => none

/-- An order to spoil a primitive: each one of that name, or only the `nth`, counted from zero. -/
structure Twist where
  call : CallName
  nth : Option Nat
  spoiling : Spoiling
deriving DecidableEq, Repr

/-- Whether an order is meant for the `count`-th primitive of a name. -/
def Twist.isFor (t : Twist) (call : CallName) (count : Nat) : Bool :=
  t.call == call && (t.nth == none || t.nth == some count)

/-- A completion on its way through the tap, with what is to be done to it. -/
structure Tapped where
  completion : Completion
  spoiling : Option Spoiling
deriving DecidableEq, Repr

/-- What reaches the controller of a completed operation. -/
def Tapped.emit (t : Tapped) (reply : Reply) : Option (Completion × Reply) :=
  match t.spoiling with
  | none => some (t.completion, reply)
  | some spoiling => (spoiling.apply reply).map (t.completion, ·)

/-- An accelerator behind a tap. -/
structure Tap where
  accelerator : Accelerator Tapped
  twists : List Twist
  /-- The number of primitives so far, by name. -/
  counts : Array Nat

namespace Tap

def new (accelerator : Accelerator Tapped) (twists : List Twist) : Tap where
  accelerator := accelerator
  twists := twists
  counts := Array.replicate CallName.all.length 0

/-- Counts a primitive and looks up what is to be done to it; the first order that fits counts. -/
def count (t : Tap) (call : CallName) : Tap × Option Spoiling :=
  let i := CallName.all.idxOf call
  let spoiling := (t.twists.find? (·.isFor call (t.counts.getD i 0))).map (·.spoiling)
  ({ t with counts := t.counts.modify i (· + 1) }, spoiling)

/-- Changes the accelerator and gives what that yields. -/
@[inline]
def onAccelerator {α : Type} (t : Tap) (f : Accelerator Tapped → Accelerator Tapped × α) :
    Tap × α :=
  let (accelerator, a) := f t.accelerator
  ({ t with accelerator }, a)

/-- What is left of an answer of the accelerator. -/
def filterAnswer (answer : Answer Tapped) : Answer Completion where
  result := answer.result
  notices := answer.notices
  delivered := answer.delivered.filterMap fun (tapped, reply) => tapped.emit reply

def submit (t : Tap) (target : ClassHandle) (request : ClassCall) (completion : Completion) :
    Tap × Answer Completion :=
  match t.count (.ofOperation request.operation) with
  | (t, some (.reject cause)) => (t, .refused cause)
  | (t, spoiling) =>
    let (t, answer) := t.onAccelerator (·.submit target request ⟨completion, spoiling⟩)
    (t, filterAnswer answer)

/-- Passes the initialisation of the class driver on. -/
def init (t : Tap) (device : DeviceHandle) : Tap × Except UsbError ClassHandle :=
  match t.count .init with
  | (t, some (.reject cause)) => (t, .error cause)
  | (t, _) => t.onAccelerator (·.init device)

def deinit (t : Tap) (target : ClassHandle) : Tap × Except UsbError Unit :=
  match t.count .deinit with
  | (t, some (.reject cause)) => (t, .error cause)
  | (t, _) => t.onAccelerator (·.deinit target)

def busReset (t : Tap) : Tap :=
  ((t.count .busReset).1.onAccelerator fun a => (a.busReset, ())).1

def reEnumerate (t : Tap) : Tap :=
  ((t.count .reEnumerate).1.onAccelerator fun a => (a.reEnumerate, ())).1

def driver : Driver Tap where
  init t device := t.init device
  submit t target request completion := t.submit target request completion
  deinit t _ target := t.deinit target
  busReset t _ := (t.busReset, [])
  reEnumerate t _ := (t.reEnumerate, [])

/-- The completions that the accelerator holds. Of a held one nothing may reach the controller. -/
def backlog : Backlog Tap where
  size t := t.accelerator.held.length
  next t :=
    let (t, held) := t.onAccelerator (·.takeHeld)
    (t, [], held.bind fun (tapped, reply) => tapped.emit reply)

end Tap

end FirmwareUpgrade
