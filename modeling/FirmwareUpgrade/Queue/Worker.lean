import FirmwareUpgrade.Queue.Channel

/-!
# The worker

A worker owns a handler and takes requests from a channel, one at a time and in order. While it
handles a request the handler may send on the same channel, so the two are handed over together as
a `Service`. A response goes to the address that came with the request, before the next request is
taken.

`drain` goes on until nothing waits and `runUntil` until the handler satisfies a condition, or until
a deadline that is looked at before each request. Both take a bound on the number of requests, since
a handler that keeps sending to itself never ends.
-/
namespace FirmwareUpgrade

/-- The state of a handler together with the queue that it serves and may send on. -/
structure Service (η ρ κ : Type) where
  state : η
  channel : Channel ρ κ

/-- What a handler does with a request: its new state, what it sent, and the response. -/
abbrev Handler (η ρ κ π : Type) := Service η ρ κ → ρ → Service η ρ κ × π

/-- The reason for which waiting for a condition ends without it. -/
inductive WorkerError where
  | timeout
  | closed
deriving DecidableEq, Repr, Inhabited

def WorkerError.message : WorkerError → String
  | .timeout => "Timeout"
  | .closed => "Request queue closed"

/-- How long a worker waits for a condition. The clock is not in its power: `elapsed` is what it
shows, from the time when the worker began, once so many requests have been handled. -/
structure Deadline where
  timeout : Nat
  elapsed : Nat → Nat

namespace Deadline

/-- Whether the time is up once so many requests have been handled. -/
def passed (d : Deadline) (handled : Nat) : Bool :=
  d.timeout < d.elapsed handled

/-- What is left of a deadline behind one more request. -/
def next (d : Deadline) : Deadline :=
  { d with elapsed := fun handled => d.elapsed (handled + 1) }

/-- A timeout in milliseconds, by a clock that is a nanosecond further each time it is looked at. -/
def ofMilliseconds (timeout : Nat) : Deadline where
  timeout := timeout * 1000000
  elapsed handled := handled + 1

end Deadline

/-- A service together with the responses reported so far, each with its address. -/
structure Worker (η ρ κ π : Type) where
  service : Service η ρ κ
  responses : Array (κ × π)

namespace Worker

variable {η ρ κ π : Type}

def new (state : η) (channel : Channel ρ κ) : Worker η ρ κ π where
  service := ⟨state, channel⟩
  responses := #[]

/-- Hands one request to the handler and reports the response. -/
def dispatch (handle : Handler η ρ κ π) (w : Worker η ρ κ π) (e : Envelope ρ κ) :
    Worker η ρ κ π :=
  match w with
  | ⟨⟨state, channel⟩, responses⟩ =>
    match handle ⟨state, channel.dropOldest⟩ e.request with
    | (service, response) =>
      { service
        responses :=
          match e.callback with
          | some address => responses.push (address, response)
          | none => responses }

/-- Handles requests, those included that are sent meanwhile, until none waits or `fuel` of them
are handled. Gives the number handled on top of `count`. -/
def drain (handle : Handler η ρ κ π) (fuel : Nat) (w : Worker η ρ κ π) (count : Nat) :
    Worker η ρ κ π × Nat :=
  match fuel with
  | 0 => (w, count)
  | fuel + 1 =>
    match w.service.channel.waiting.head? with
    | none => (w, count)
    | some e => drain handle fuel (dispatch handle w e) (count + 1)

/-- Handles requests until the handler satisfies `done`. The result is a timeout if the time is up
before that, whatever waits. When none waits by then, it is a timeout while somebody could still
send, since nobody does, and the end of the queue otherwise. -/
def runUntil (handle : Handler η ρ κ π) (done : η → Bool) (deadline : Deadline) (fuel : Nat)
    (w : Worker η ρ κ π) : Worker η ρ κ π × Except WorkerError Unit :=
  if done w.service.state then (w, .ok ())
  else if deadline.passed 0 then (w, .error .timeout)
  else
    match fuel with
    | 0 => (w, .error .timeout)
    | fuel + 1 =>
      match w.service.channel.waiting.head? with
      | none => (w, .error (if w.service.channel.senders = 0 then .closed else .timeout))
      | some e => runUntil handle done deadline.next fuel (dispatch handle w e)

end Worker

end FirmwareUpgrade
