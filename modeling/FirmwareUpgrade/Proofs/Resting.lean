import FirmwareUpgrade.Proofs.Consistency

/-!
# An upgrade that has ended rests

Whether it succeeded or failed, an upgrade that has ended stays as it is until the device is gone.
Requests of every other kind are taken up and dropped, in any number and order. Between them the
driver may call completions, and the queue may refuse them: a loss that is noticed later is that of
an operation that nobody waits for.
-/
namespace FirmwareUpgrade

/-- Nothing is in flight when the upgrade has ended. -/
theorem Controller.Consistent.idle_of_terminal {c : Controller} (h : c.Consistent)
    (ht : c.phase.isTerminal = true) : c.inFlight = none := by
  cases hop : c.inFlight with
  | none => rfl
  | some op =>
    have hissued := h.issued op hop
    cases hp : c.phase with
    | complete | error => simp [hp, Phase.operation?] at hissued
    | _ => simp [hp, Phase.isTerminal] at ht

namespace Session

variable {δ κ : Type} {drv : Driver δ} {image : Bytes} {config : Config} {s t : Session δ κ}

/-- The controller handles these requests one after the other, and before, between and behind them
everything but the controller may change. -/
inductive Disturbed (drv : Driver δ) (s : Session δ κ) : List Request → Session δ κ → Prop
  | start : Disturbed drv s [] s
  | elsewhere {qs : List Request} {t u : Session δ κ} : Disturbed drv s qs t → Elsewhere t u →
    Disturbed drv s qs u
  | handle {qs : List Request} {t : Session δ κ} (q : Request) : Disturbed drv s qs t →
    Disturbed drv s (qs ++ [q]) (Session.handle drv t q).1

variable (drv) in
/-- When the upgrade has ended, a request that does not let go of the device is taken up, and that
is all. -/
theorem handle_of_ended (ht : s.controller.phase.isTerminal = true)
    (hidle : s.controller.inFlight = none) {q : Request} (hq : q ≠ .nextPhase .unattached) :
    Untouched s (handle drv s q).1 ∧ deeds (handle drv s q).1 = s.deeds ++ [.taken q] := by
  have hb : ¬Bereft s := not_bereft_of_idle hidle
  have hnoticed := (noticed_of_not_bereft hb q).1
  rcases (outcome_handle drv s q).of_ended (by rwa [hnoticed.controller])
      (by rwa [hnoticed.controller]) with ⟨-, n, hn⟩ | ⟨hu, -⟩
  · rw [hn]
    exact ⟨hnoticed.trans (.note _ n), by rw [deeds_note, deeds_noticed hb]⟩
  · exact absurd hu hq

/-- However it is disturbed, an upgrade that has ended stays as it is, and it does nothing but take
up requests. -/
theorem Disturbed.of_ended {qs : List Request} (h : Disturbed drv s qs t)
    (ht : s.controller.phase.isTerminal = true) (hidle : s.controller.inFlight = none)
    (hqs : ∀ q ∈ qs, q ≠ .nextPhase .unattached) :
    t.controller = s.controller ∧ t.deeds = s.deeds ++ qs.map .taken := by
  induction h with
  | start => exact ⟨rfl, (List.append_nil _).symm⟩
  | elsewhere _ hu ih =>
    obtain ⟨hc, hd⟩ := ih hqs
    exact ⟨hu.controller.trans hc, hu.others.deeds_eq.trans hd⟩
  | @handle qs t q _ ih =>
    obtain ⟨hc, hd⟩ := ih fun p hp => hqs p (List.mem_append_left _ hp)
    obtain ⟨huntouched, hdeeds⟩ := handle_of_ended drv (s := t) (by rwa [hc]) (by rwa [hc])
      (hqs q (by simp))
    refine ⟨huntouched.controller.trans hc, ?_⟩
    rw [hdeeds, hd, List.map_append, List.append_assoc]
    rfl

/-- Whatever was requested and answered before, let the upgrade have ended, in success or in
failure. Let then any requests be handled except for the one that lets go of the device, with
everything but the controller changing in between; completions may be called and refused by the
queue. The controller stays as it is in every field, and all that it has done since is to take these
requests up: no primitive is called and no phase shown. One more such request leaves the driver and
the queue as they are as well, and is answered with the same phase. -/
theorem terminal_rests (h : Served drv image config s)
    (ht : s.controller.phase.isTerminal = true) {qs : List Request} (hd : Disturbed drv s qs t)
    (hqs : ∀ q ∈ qs, q ≠ .nextPhase .unattached) :
    t.controller = s.controller ∧ t.deeds = s.deeds ++ qs.map .taken ∧
      ∀ q, q ≠ .nextPhase .unattached →
        Untouched t (handle drv t q).1 ∧ (handle drv t q).2 = s.controller.phase := by
  have hidle := h.consistent.idle_of_terminal ht
  obtain ⟨hc, hdeeds⟩ := hd.of_ended ht hidle hqs
  refine ⟨hc, hdeeds, fun q hq => ?_⟩
  have huntouched := (handle_of_ended drv (s := t) (by rwa [hc]) (by rwa [hc]) hq).1
  refine ⟨huntouched, ?_⟩
  calc (handle drv t q).2 = (controller (handle drv t q).1).phase := rfl
    _ = s.controller.phase := by rw [huntouched.controller, hc]

end Session

namespace Installation

/-- Into a full queue the driver completes the request for detach once more, and the queue refuses
that. -/
def repeatedReply (s : Session Nat Unit) : Session Nat Unit :=
  Session.deliver { s with channel := (s.channel.fill (.nextPhase .attached) 20 0).1 } ⟨7, .detach⟩
    (.ok #[])

/-- Behind the lost completion another device attaches and a transfer is asked for. -/
def overcrowded (s : Session Nat Unit) : Session Nat Unit :=
  (Session.handle obliging (Session.handle obliging (repeatedReply s) otherDevice).1
    (.nextPhase .transfer)).1

theorem disturbed_overcrowded (s : Session Nat Unit) :
    Session.Disturbed obliging s [otherDevice, .nextPhase .transfer] (overcrowded s) := by
  refine .handle _ (.handle _ (.elsewhere (.elsewhere .start ?_) (.deliver _ _ _)))
  exact ⟨rfl, .of_effects_eq rfl⟩

theorem overcrowded_rests :
    (repeatedReply upgraded.session).state.lost = some 7 ∧
      upgraded.session.controller.phase = .complete ∧
      (overcrowded upgraded.session).controller = upgraded.session.controller := by
  have hphase : upgraded.session.controller.phase = .complete := by decide +kernel
  have hterminal : upgraded.session.controller.phase.isTerminal = true := by rw [hphase]; rfl
  exact ⟨by decide +kernel, hphase,
    (Session.terminal_rests served_upgraded hterminal (disturbed_overcrowded _)
      (by simp [otherDevice])).1⟩

end Installation

end FirmwareUpgrade
