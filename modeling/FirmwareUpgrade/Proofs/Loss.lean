import FirmwareUpgrade.Proofs.StatusCheck

/-!
# Completions that the queue refuses

Of the completions that are refused between two requests only the last one is remembered. If it is
that of the operation in flight, the next request finds the upgrade failed. If it is any other, the
next request is taken up as if none had been refused, also when that of the operation in flight was
refused before it. Then the loss goes unnoticed, and the upgrade waits for a completion that was
already called.
-/
namespace FirmwareUpgrade

namespace Session

variable {δ κ : Type} {s : Session δ κ}

/-- The ticket of a refused completion replaces what was remembered. -/
theorem lost_deliver_of_refusal {reason : QueueError} (x : Completion) (r : Reply)
    (h : s.channel.refusal? = some reason) : (s.deliver x r).state.lost = some x.ticket := by
  simp [deliver, h]

/-- The request behind a loss finds the upgrade failed, and only the detach of the device does
more. -/
theorem Bereft.handle (h : Bereft s) (drv : Driver δ) (q : Request) :
    let c := controller (Session.handle drv s q).1
    c.phase = (if q = .nextPhase .unattached then .unattached else .error) ∧
      c.lastError = some .queueFull := by
  have hphase : (s.noticed q).controller.phase = .error := by simp [noticed_of_bereft h]
  have herror : (s.noticed q).controller.lastError = some .queueFull := by
    simp [noticed_of_bereft h]
  dsimp only
  rcases (outcome_handle drv s q).of_failed hphase (idle_noticed h q) with
    ⟨hq, n, ht⟩ | ⟨hq, ht⟩
  · rw [ht, if_neg hq]
    exact ⟨hphase, herror⟩
  · rw [ht, if_pos hq, controller_setPhase, (release_becomes drv (s.noticed q)).controller]
    simp [herror]

end Session

namespace Installation

variable {δ κ : Type} {drv : Driver δ} {i j : Installation δ κ} {xs : List Completion}
  {x : Completion}

/-- A stretch of a run between two requests, and the completions that the queue refuses on it in
the order in which they are called. -/
inductive Stretch (drv : Driver δ) (start : Installation δ κ) :
    List Completion → Installation δ κ → Prop
  | start : Stretch drv start [] start
  | event {xs : List Completion} {i : Installation δ κ} (vendor product : UInt16)
    (host : HostHandle) (device : DeviceHandle) (event : HostEvent) : Stretch drv start xs i →
    Stretch drv start xs (i.move drv (.event vendor product host device event))
  | drive {xs : List Completion} {i : Installation δ κ} (driver : δ) (notices : List Notice) :
    Stretch drv start xs i → Stretch drv start xs (i.move drv (.drive driver notices))
  | send {xs : List Completion} {i : Installation δ κ} (q : Request) (callback : Option κ) :
    Stretch drv start xs i → Stretch drv start xs (i.send q callback).1
  | accept {xs : List Completion} {i : Installation δ κ} (x : Completion) (r : Reply) :
    Stretch drv start xs i → i.channel.refusal? = none →
    Stretch drv start xs (i.move drv (.complete x r))
  | refuse {xs : List Completion} {i : Installation δ κ} (x : Completion) (r : Reply)
    (reason : QueueError) : Stretch drv start xs i → i.channel.refusal? = some reason →
    Stretch drv start (xs ++ [x]) (i.move drv (.complete x r))

/-- What is remembered is the last refusal, or what was remembered before if there is none. -/
theorem Stretch.lost (h : Stretch drv i xs j) :
    j.session.state.lost = (xs.getLast?.map (·.ticket)).or i.session.state.lost := by
  induction h with
  | start => rfl
  | @event xs j vendor product host device event _ ih =>
    rw [(aside_event drv j vendor product host device event).lost, ih]
  | @drive xs j driver notices _ ih =>
    rw [(aside_drive drv j driver notices).lost, ih]
  | @send xs j q callback _ ih =>
    have hb : Session.Beside (fun _ => True) j.session (j.send q callback).1.session :=
      beside_send j callback trivial
    rw [hb.lost, ih]
  | @accept xs j x r _ hr ih =>
    have hs : (j.move drv (.complete x r)).session = j.session.deliver x r := rfl
    rw [hs, Session.deliver_of_room x r hr]
    exact ih
  | @refuse xs j x r reason _ hr ih =>
    rw [List.getLast?_concat]
    exact Session.lost_deliver_of_refusal x r hr

theorem Stretch.bereft_iff (h : Stretch drv i (xs ++ [x]) j) :
    j.session.Bereft ↔ ∃ op, j.controller.inFlight = some op ∧ x.ticket = op.ticket := by
  have hlost : j.session.state.lost = some x.ticket := by
    rw [h.lost, List.getLast?_concat]
    rfl
  simp only [Session.Bereft, hlost, Option.some.injEq]

/-- Let the queue refuse completions between two requests, any number of them and in any order. If
the last of them is that of the operation in flight, the request finds the upgrade failed. If it is
another, the request is taken up with controller, driver and queue as they are, whichever were
refused before. -/
theorem Stretch.last_refusal_decides {q : Request} {rest : List Request}
    (h : Stretch drv i (xs ++ [x]) j) (hreq : j.session.requests = q :: rest) :
    let after := j.move drv .work
    ((∃ op, j.controller.inFlight = some op ∧ x.ticket = op.ticket) →
      after.controller.phase = (if q = .nextPhase .unattached then .unattached else .error) ∧
        after.controller.lastError = some .queueFull) ∧
    ((∀ op, j.controller.inFlight = some op → x.ticket ≠ op.ticket) →
      ∃ found, j.session.dropOldest.Untouched found ∧
        after.session = Session.take drv found q) := by
  intro after
  have hafter : after.session = (Session.handle drv j.session.dropOldest q).1 :=
    (session_work_of_requests drv hreq).1
  constructor
  · intro hop
    have hb : j.session.dropOldest.Bereft := h.bereft_iff.mpr hop
    rw [show after.controller = Session.controller after.session from rfl, hafter]
    exact hb.handle drv q
  · intro hop
    have hb : ¬j.session.dropOldest.Bereft := by
      intro hb
      obtain ⟨op, hflight, hticket⟩ := h.bereft_iff.mp hb
      exact hop op hflight hticket
    exact ⟨_, (Session.noticed_of_not_bereft hb q).1, hafter⟩

/-- The first operations of an earlier attachment and of this one are with the driver, and the
queue is full. -/
def crowded : Installation Nat Unit :=
  (blank 7).moves obliging <|
    [enumeration, [.work, .work, .work,
      .event dfuVendor dfuProduct Accelerator.host Accelerator.device .detach, .work],
      enumeration, [.work, .work, .work], List.replicate 16
        (.event dfuVendor dfuProduct Accelerator.host Accelerator.device .enumerationDone)].flatten

/-- Both completions are refused, the older one last, and the queue is worked off. -/
def forlorn : Installation Nat Unit :=
  crowded.moves obliging <|
    [.complete ⟨1, .setInterface⟩ (.ok #[]), .complete ⟨0, .setInterface⟩ (.ok #[])] ++
      List.replicate 16 .work

/-- The loss goes unnoticed: nothing is left that could drive the upgrade on. -/
theorem exists_loss_unnoticed :
    Shared obliging (fun _ => False) (blank 7) forlorn ∧
      crowded.controller.inFlight = some ⟨1, .setInterface, 0⟩ ∧
      crowded.channel.refusal? = some .full ∧
      forlorn.controller.inFlight = some ⟨1, .setInterface, 0⟩ ∧
      forlorn.controller.phase = .setInterface ∧
      forlorn.controller.lastError = none ∧
      forlorn.session.requests = [] ∧
      ∀ x ∈ issued forlorn.effects, x ∈ called forlorn.effects := by
  have hcrowded : Shared obliging (fun _ => False) (blank 7) crowded :=
    .of_plays (by decide +kernel)
  exact ⟨hcrowded.trans (.of_plays (by decide +kernel)), by decide +kernel, by decide +kernel,
    by decide +kernel, by decide +kernel, by decide +kernel, by decide +kernel, by decide +kernel⟩

end Installation

end FirmwareUpgrade
