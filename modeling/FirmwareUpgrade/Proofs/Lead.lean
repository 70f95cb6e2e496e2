import FirmwareUpgrade.Proofs.Operations

/-!
# Controllers that differ by a lead

A controller may have more behind it than another one: tickets that were drawn, buffers that were
taken and given up, and the host, status and error that were last seen. Such a lead (`Lead`) does
not show in what the controller decides, and every operation on it leaves it in place: to add the
lead and then to go on is the same as to go on and then to add the lead. What was last seen is
replaced when something else is seen, and forgotten when the class driver is initialised.
-/
namespace FirmwareUpgrade

/-- What a controller is ahead of another one by. -/
structure Lead where
  tickets : UInt32
  allocations : Nat
  frees : Nat
  host : Option HostHandle
  status : Option Status
  error : Option UpgradeError

/-- No lead at all. -/
def Lead.none : Lead := ⟨0, 0, 0, .none, .none, .none⟩

/-! ## Tickets -/

def Completion.shift (k : UInt32) (x : Completion) : Completion := { x with ticket := x.ticket + k }

def InFlight.shift (k : UInt32) (op : InFlight) : InFlight := { op with ticket := op.ticket + k }

def Request.shift (k : UInt32) : Request → Request
  | completed x r => completed (x.shift k) r
  | q => q

section
variable (k : UInt32)

@[simp] theorem Completion.operation_shift (x : Completion) :
    (x.shift k).operation = x.operation := rfl

@[simp] theorem Completion.shift_zero (x : Completion) : x.shift 0 = x := by simp [shift]

@[simp] theorem InFlight.operation_shift (op : InFlight) :
    (op.shift k).operation = op.operation := rfl

@[simp] theorem InFlight.length_shift (op : InFlight) : (op.shift k).length = op.length := rfl

@[simp] theorem InFlight.shift_zero (op : InFlight) : op.shift 0 = op := by simp [shift]

/-- Tickets are told apart as before. -/
theorem beq_add_right (a b : UInt32) : (a + k == b + k) = (a == b) := by
  rw [Bool.eq_iff_iff, beq_iff_eq, beq_iff_eq]
  exact UInt32.add_left_inj k

end

@[simp] theorem Request.shift_zero (q : Request) : q.shift 0 = q := by
  cases q <;> simp [shift]

/-- Without a lead the tickets are the same. -/
theorem Completion.shift_none (x : Completion) : x.shift Lead.none.tickets = x := x.shift_zero

theorem Request.shift_none (q : Request) : q.shift Lead.none.tickets = q := q.shift_zero

theorem Request.map_shift_none (qs : List Request) : qs.map (·.shift Lead.none.tickets) = qs := by
  simp [shift_none]

/-! ## The controller that is ahead -/

namespace Lead

variable (l : Lead) (opened : Bool) (c : Controller)

/-- The controller that is ahead of `c` by a lead. What was last seen counts only as long as the
class driver was not initialised, and `c` has seen nothing. -/
def ahead (l : Lead) (opened : Bool) (c : Controller) : Controller :=
  { c with
    inFlight := c.inFlight.map (·.shift l.tickets)
    nextTicket := c.nextTicket + l.tickets
    readbackAllocations := c.readbackAllocations + l.allocations
    readbackFrees := c.readbackFrees + l.frees
    boundHost := if opened then c.boundHost else c.boundHost.or l.host
    lastStatus := if opened then c.lastStatus else c.lastStatus.or l.status
    lastError := if opened then c.lastError else c.lastError.or l.error }

@[simp] theorem ahead_none : none.ahead opened c = c := by
  cases c
  simp [ahead, none]

@[simp] theorem image_ahead : (l.ahead opened c).image = c.image := rfl
@[simp] theorem config_ahead : (l.ahead opened c).config = c.config := rfl

theorem boundHost_ahead {host : HostHandle} (h : c.boundHost = some host) :
    (l.ahead opened c).boundHost = some host := by
  cases opened <;> simp [ahead, h]

@[simp] theorem boundDevice_ahead : (l.ahead opened c).boundDevice = c.boundDevice := rfl
@[simp] theorem liveClass_ahead : (l.ahead opened c).liveClass = c.liveClass := rfl
@[simp] theorem readback_ahead : (l.ahead opened c).readback = c.readback := rfl
@[simp] theorem phase_ahead : (l.ahead opened c).phase = c.phase := rfl
@[simp] theorem nextTicket_ahead : (l.ahead opened c).nextTicket = c.nextTicket + l.tickets := rfl
@[simp] theorem inFlight_ahead :
    (l.ahead opened c).inFlight = c.inFlight.map (·.shift l.tickets) := rfl

/-! ## What does not show -/

theorem objection?_ahead (p : Phase) : (l.ahead opened c).objection? p = c.objection? p := by
  simp only [Controller.objection?, phase_ahead, liveClass_ahead, inFlight_ahead, Option.map_map]
  rfl

theorem action_ahead (p : Phase) : (l.ahead opened c).action p = c.action p := by
  cases p <;> rfl

theorem awaited?_ahead (ticket : UInt32) :
    (l.ahead opened c).awaited? (ticket + l.tickets) =
      (c.awaited? ticket).map (·.shift l.tickets) := by
  unfold Controller.awaited?
  rw [liveClass_ahead, inFlight_ahead]
  cases c.liveClass with
  | none => rfl
  | some target =>
    cases c.inFlight with
    | none => rfl
    | some op =>
      have hb : ((op.shift l.tickets).ticket == ticket + l.tickets) = (op.ticket == ticket) :=
        beq_add_right l.tickets op.ticket ticket
      simp only [Option.map_some, Option.filter, hb]
      split <;> rfl

/-! ## Operations go on in step -/

theorem freeReadback_ahead : (l.ahead opened c).freeReadback = l.ahead opened c.freeReadback := by
  unfold Controller.freeReadback
  rw [readback_ahead]
  cases c.readback with
  | none => rfl
  | some buffer => simp [ahead, Nat.add_right_comm]

theorem enter_ahead (p : Phase) : (l.ahead opened c).enter p = l.ahead opened (c.enter p) := by
  unfold Controller.enter
  by_cases hp : p = .readBack
  · simp only [hp, if_true, Controller.allocateReadback]
    cases hr : c.readback with
    | none => simp [ahead, hr, Nat.add_right_comm]
    | some buffer => simp [ahead, hr]
  · simp only [if_neg hp]
    rfl

theorem recordFailure_ahead (cause : UpgradeError) :
    (l.ahead opened c).recordFailure cause = l.ahead opened (c.recordFailure cause) := by
  unfold Controller.recordFailure
  rw [freeReadback_ahead]
  cases opened <;> simp [ahead]

theorem withoutClass_ahead : { l.ahead opened c with liveClass := .none } =
    l.ahead opened { c with liveClass := .none } := rfl

theorem forgetDevice_ahead : (l.ahead opened c).forgetDevice = l.ahead opened c.forgetDevice := by
  unfold Controller.forgetDevice
  have hc : { l.ahead opened c with
      inFlight := .none, boundDevice := .none, boundInterface := .none } =
      l.ahead opened
        { c with inFlight := .none, boundDevice := .none, boundInterface := .none } := rfl
  rw [hc, freeReadback_ahead]
  rfl

theorem bind_ahead (host : HostHandle) (device : DeviceHandle) (interface : InterfaceHandle) :
    (l.ahead opened c).bind host device interface =
      l.ahead opened (c.bind host device interface) := by
  cases opened <;> rfl

/-- With the class driver begins what was not seen before. The host of its device is known. -/
theorem startOver_ahead (h : c.boundHost ≠ .none) (target : ClassHandle) :
    (l.ahead opened c).startOver target = l.ahead true (c.startOver target) := by
  obtain ⟨host, hh⟩ := Option.ne_none_iff_exists'.mp h
  cases opened <;> simp [ahead, Controller.startOver, Controller.resetCounters, hh]

theorem begin_ahead (operation : Operation) (length : Nat) :
    ((l.ahead opened c).begin operation length).1 =
      l.ahead opened (c.begin operation length).1 := by
  have hnext : c.nextTicket + l.tickets + 1 = c.nextTicket + 1 + l.tickets := by
    rw [UInt32.add_assoc, UInt32.add_comm l.tickets 1, UInt32.add_assoc]
  simp [Controller.begin, ahead, InFlight.shift, hnext]

/-! ## Verdicts -/

/-- The verdict about the controller that is ahead. -/
def verdictAhead (v : Verdict) : Verdict := { v with controller := l.ahead opened v.controller }

theorem checkStatus_ahead (data : Bytes) (next : Phase) :
    (l.ahead opened c).checkStatus data next = l.verdictAhead opened (c.checkStatus data next) := by
  unfold Controller.checkStatus
  split
  · rfl
  · cases opened <;> rfl

theorem takeChunk_ahead (requested : Nat) (data : Bytes) :
    (l.ahead opened c).takeChunk requested data =
      l.verdictAhead opened (c.takeChunk requested data) := by
  unfold Controller.takeChunk
  dsimp only
  split <;> rfl

theorem verify_ahead : (l.ahead opened c).verify = l.verdictAhead opened c.verify := by
  unfold Controller.verify
  dsimp only
  rw [freeReadback_ahead]
  have hm : (l.ahead opened c).mismatch = c.mismatch := rfl
  rw [hm]
  split <;> rfl

theorem andThen_ahead (v : Verdict) {f : Controller → Verdict}
    (hf : ∀ d, f (l.ahead opened d) = l.verdictAhead opened (f d)) :
    (l.verdictAhead opened v).andThen f = l.verdictAhead opened (v.andThen f) := by
  obtain ⟨d, notices, next⟩ := v
  cases next with
  | error cause => rfl
  | ok p => simp [Verdict.andThen, verdictAhead, hf]

theorem succeed_ahead (op : InFlight) (data : Bytes) :
    (l.ahead opened c).succeed (op.shift l.tickets) data =
      l.verdictAhead opened (c.succeed op data) := by
  have hremaining : (l.ahead opened c).remaining = c.remaining := rfl
  unfold Controller.succeed
  rw [phase_ahead, hremaining]
  cases c.phase with
  | getStatus => exact checkStatus_ahead l opened c data _
  | readBack => exact takeChunk_ahead l opened c op.length data
  | getStatusRead =>
    dsimp only
    split
    · rw [checkStatus_ahead]
      exact andThen_ahead l opened _ fun d => verify_ahead l opened d
    · exact checkStatus_ahead l opened c data _
  | _ => rfl

/-- What follows from a reply is the same. -/
theorem conclude_ahead (op : InFlight) (operation : Operation) (r : Reply) :
    (l.ahead opened c).conclude (op.shift l.tickets) operation r =
      l.verdictAhead opened (c.conclude op operation r) := by
  cases r with
  | error cause => rfl
  | ok data => exact succeed_ahead l opened { c with inFlight := .none } op data

end Lead

end FirmwareUpgrade
