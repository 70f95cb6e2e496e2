import FirmwareUpgrade.Proofs.Cancellation
import FirmwareUpgrade.Proofs.Resting

/-!
# A device that is gone is let go of once

The detach of a device may be reported more than once, by the host stack or by another task. The
first report finds the controller in any phase, with any of the class handle, the operation in
flight and the read-back buffer still in hand, and perhaps with a lost completion that fails the
upgrade on the way. Whatever it finds, it leaves a controller that a further report does not change:
`Controller.released` gives a cleared controller, and a cleared one is a fixed point of it.
-/
namespace FirmwareUpgrade

namespace Controller

variable {c : Controller}

/-- The controller that let go of its device, whose class handle was given back. -/
def released (c : Controller) : Controller :=
  (forgetDevice { c with liveClass := none }).enter .unattached

theorem watch_released (c : Controller) : c.released.watch = .unattached := by
  rw [released, watch_enter]

/-- Where nothing is left of a device, and observers see that, there is nothing to let go of. -/
theorem Cleared.released_eq (h : c.Cleared) (hw : c.watch = .unattached) : c.released = c := by
  obtain ⟨hphase, hlive, hdevice, hinterface, hreadback, hidle, htransferred, hblock⟩ := h
  cases c
  subst hphase hlive hdevice hinterface hreadback hidle htransferred hblock hw
  rfl

end Controller

namespace Session

variable {δ κ : Type} {drv : Driver δ} {s t : Session δ κ}

theorem controller_unattached (drv : Driver δ) (s : Session δ κ) :
    controller (handle drv s (.nextPhase .unattached)).1 =
      (s.noticed (.nextPhase .unattached)).controller.released := by
  rw [handle_unattached, controller_setPhase, (release_becomes drv _).controller,
    Controller.released]

/-- What was lost before the detach is forgotten with it. -/
theorem lost_unattached (drv : Driver δ) (s : Session δ κ) :
    (handle drv s (.nextPhase .unattached)).1.state.lost = none := by
  rw [handle_unattached]
  exact (release_becomes drv _).lost.trans (lost_noticed s _)

/-- Without a class handle the driver is not called. -/
theorem driver_release_of_idle (drv : Driver δ) (hl : s.controller.liveClass = none) :
    (s.release drv).state.driver = s.state.driver := by
  have hreturn : (s.returnClass drv .deinitAfterDetach).state.driver = s.state.driver := by
    simp [returnClass, hl]
  rw [release, driver_modify, noteInFlight]
  split
  · rw [driver_note, hreturn]
  · exact hreturn

/-- A controller that has let go of its device stays as it is at a further detach. The request is
taken up, the phase is shown again, and no primitive is called. -/
theorem handle_unattached_of_cleared (drv : Driver δ) (h : s.controller.Cleared)
    (hw : s.controller.watch = .unattached) :
    Untouched s (handle drv s (.nextPhase .unattached)).1 ∧
      deeds (handle drv s (.nextPhase .unattached)).1 =
        s.deeds ++ [.taken (.nextPhase .unattached), .watch .unattached] := by
  have hb : ¬Bereft s := not_bereft_of_idle h.idle
  have hnoticed := (noticed_of_not_bereft hb (.nextPhase .unattached)).1
  have hlive : (s.noticed (.nextPhase .unattached)).controller.liveClass = none := by
    rw [hnoticed.controller, h.live]
  refine ⟨⟨?_, ?_, ?_, primitives_unattached_of_idle drv h.live⟩, ?_⟩
  · rw [controller_unattached, hnoticed.controller, h.released_eq hw]
  · rw [handle_unattached]
    exact (release_becomes drv _).channel.trans hnoticed.channel
  · rw [handle_unattached, driver_setPhase, driver_release_of_idle drv hlive, hnoticed.driver]
  · rw [handle_unattached, deeds_setPhase, deeds_release_of_idle drv hlive, deeds_noticed hb,
      List.append_assoc]
    rfl

/-- However often the detach is handled after that, and whatever else happens in between, the
controller stays as it is and calls no primitive. -/
theorem Disturbed.of_cleared {qs : List Request} (hd : Disturbed drv s qs t)
    (h : s.controller.Cleared) (hw : s.controller.watch = .unattached)
    (hqs : ∀ q ∈ qs, q = .nextPhase .unattached) :
    t.controller = s.controller ∧ t.primitives = s.primitives := by
  induction hd with
  | start => exact ⟨rfl, rfl⟩
  | elsewhere _ hu ih =>
    obtain ⟨hc, hp⟩ := ih hqs
    exact ⟨hu.controller.trans hc, hu.primitives.trans hp⟩
  | @handle qs t q _ ih =>
    obtain ⟨hc, hp⟩ := ih fun p hp => hqs p (List.mem_append_left _ hp)
    obtain rfl : q = .nextPhase .unattached := hqs q (by simp)
    have hstays := (handle_unattached_of_cleared drv (s := t) (by rwa [hc]) (by rwa [hc])).1
    exact ⟨hstays.controller.trans hc, Eq.trans hstays.primitives hp⟩

/-- Let the controller handle a detach in any state, over any driver, with or without a completion
that was lost before. A second detach leaves it as the first did in every field, and the cell for a
lost completion, the driver and the queue as well; it calls no primitive and gets the same answer.
So it is for any number of further detaches, also when between them the driver calls completions,
the queue refuses some of them, and others send requests. -/
theorem detach_idempotent (drv : Driver δ) (s : Session δ κ) :
    let once : Session δ κ := (handle drv s (.nextPhase .unattached)).1
    let twice : Session δ κ := (handle drv once (.nextPhase .unattached)).1
    Untouched once twice ∧ twice.state.lost = once.state.lost ∧
      (handle drv once (.nextPhase .unattached)).2 = (handle drv s (.nextPhase .unattached)).2 ∧
      ∀ (qs : List Request) (t : Session δ κ), Disturbed drv once qs t →
        (∀ q ∈ qs, q = .nextPhase .unattached) →
        t.controller = once.controller ∧ t.primitives = once.primitives := by
  intro once twice
  have hcleared : once.controller.Cleared := cleared_unattached drv s
  have hwatch : once.controller.watch = .unattached := by
    rw [controller_unattached, Controller.watch_released]
  have hstays : Untouched once twice := (handle_unattached_of_cleared drv hcleared hwatch).1
  have hlost : twice.state.lost = once.state.lost := by
    rw [lost_unattached drv once, lost_unattached drv s]
  refine ⟨hstays, hlost, congrArg Controller.phase hstays.controller, fun qs t ht hqs => ?_⟩
  exact ht.of_cleared hcleared hwatch hqs

end Session

namespace Installation

/-- The reply with the last byte of the image finds the queue full. -/
def cutOff : Session Nat Unit :=
  Session.deliver
    { readingBack.session with channel := (readingBack.channel.fill (.nextPhase .attached) 20 0).1 }
    ⟨5, .upload⟩ (.ok #[7])

/-- The driver calls the completion of the upload again, and then comes a detach. -/
def detachAgain (s : Session Nat Unit) : Session Nat Unit :=
  (Session.handle obliging (s.deliver ⟨5, .upload⟩ (.ok #[7])) (.nextPhase .unattached)).1

theorem disturbed_detachAgain (s : Session Nat Unit) :
    Session.Disturbed obliging s [.nextPhase .unattached, .nextPhase .unattached]
      (detachAgain (detachAgain s)) :=
  .handle _ (.elsewhere (.handle _ (.elsewhere .start (.deliver s _ _))) (.deliver _ _ _))

theorem cutOff_detached_once :
    let once : Session Nat Unit := (Session.handle obliging cutOff (.nextPhase .unattached)).1
    cutOff.controller.inFlight = some ⟨5, .upload, 1⟩ ∧ cutOff.state.lost = some 5 ∧
      cutOff.controller.readback.isSome ∧ once.controller.lastError = some .queueFull ∧
      (detachAgain (detachAgain once)).controller = once.controller ∧
      (detachAgain (detachAgain once)).primitives = once.primitives := by
  intro once
  have hstays := (Session.detach_idempotent obliging cutOff).2.2.2 _ _ (disturbed_detachAgain once)
    (by simp)
  exact ⟨by decide +kernel, by decide +kernel, by decide +kernel, by decide +kernel, hstays⟩

end Installation

end FirmwareUpgrade
