/-!
# The bounded request queue

A channel holds the requests that were accepted and not yet taken, oldest first. A request is
refused when the channel is closed or holds as many requests as it may, and a refused request
leaves the channel as it was. A request may carry the address to which the answer is reported.
-/
namespace FirmwareUpgrade

/-- The reason for which a request is refused. -/
inductive QueueError where
  | full
  | closed
deriving DecidableEq, Repr, Inhabited

def QueueError.message : QueueError → String
  | .full => "queue full"
  | .closed => "queue closed"

/-- A request on its way, with the address for the response if one is wanted. -/
structure Envelope (ρ κ : Type) where
  request : ρ
  callback : Option κ
deriving DecidableEq, Repr

/-- No queue is made smaller than this. -/
def minQueueCapacity : Nat := 8

/-- A first-in, first-out queue of at most `capacity` requests. It is open as long as its receiving
half exists; `senders` counts the sending halves. -/
structure Channel (ρ κ : Type) where
  capacity : Nat
  waiting : List (Envelope ρ κ)
  senders : Nat
  isOpen : Bool
deriving Repr

namespace Channel

variable {ρ κ : Type}

/-- A new channel for at least `capacity` requests, with one sender. -/
def bounded (capacity : Nat) : Channel ρ κ where
  capacity := max capacity minQueueCapacity
  waiting := []
  senders := 1
  isOpen := true

/-- Whether a request sent now would be refused, and why. A closed channel refuses for that reason
even when it is also full. -/
def refusal? (c : Channel ρ κ) : Option QueueError :=
  if c.isOpen then
    if c.waiting.length < c.capacity then none else some .full
  else
    some .closed

/-- Appends an envelope, or leaves the channel as it is. -/
def push (c : Channel ρ κ) (e : Envelope ρ κ) : Channel ρ κ :=
  match c.refusal? with
  | none => { c with waiting := c.waiting ++ [e] }
  | some _ => c

/-- The result that the sender of a request is told. -/
def pushResult (c : Channel ρ κ) : Except QueueError Unit :=
  match c.refusal? with
  | none => .ok ()
  | some reason => .error reason

/-- Sends a request whose response nobody waits for. -/
def send (c : Channel ρ κ) (request : ρ) : Channel ρ κ :=
  c.push ⟨request, none⟩

def dropOldest (c : Channel ρ κ) : Channel ρ κ :=
  { c with waiting := c.waiting.tail }

/-- Sends the same request until it is refused, at most `room` times; gives the number accepted. -/
def fill (c : Channel ρ κ) (request : ρ) (room : Nat) (accepted : Nat) : Channel ρ κ × Nat :=
  match room with
  | 0 => (c, accepted)
  | room + 1 =>
    match c.refusal? with
    | none => fill (c.send request) request room (accepted + 1)
    | some _ => (c, accepted)

/-- Drops the receiving half together with what waits. -/
def close (c : Channel ρ κ) : Channel ρ κ :=
  { c with waiting := [], isOpen := false }

def addSender (c : Channel ρ κ) : Channel ρ κ :=
  { c with senders := c.senders + 1 }

def dropSender (c : Channel ρ κ) : Channel ρ κ :=
  { c with senders := c.senders - 1 }

theorem waiting_push_of_refusal?_eq_none {c : Channel ρ κ} (e : Envelope ρ κ)
    (h : c.refusal? = none) : (c.push e).waiting = c.waiting ++ [e] := by
  simp [push, h]

theorem push_of_refusal?_eq_some {c : Channel ρ κ} {reason : QueueError} (e : Envelope ρ κ)
    (h : c.refusal? = some reason) : c.push e = c := by
  simp [push, h]

end Channel

end FirmwareUpgrade
