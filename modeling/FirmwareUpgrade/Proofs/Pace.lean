import FirmwareUpgrade.Proofs.Delivery
import FirmwareUpgrade.Proofs.Outcome
import FirmwareUpgrade.Proofs.Submission

/-!
# How many requests are left

With the accelerator plugged in and nobody else to send, one request waits at a time, and however
the device answers there is a bound on those that are left: every request that is handled lowers it.
The bound follows the phases. Two requests go with an operation, the step to its phase and its
completion, and a block that went over has at least one byte.
-/
namespace FirmwareUpgrade

namespace Controller

variable {c d : Controller} {op : InFlight} {data : Bytes} {p q : Phase}

/-- A bound on the requests that are left when the step to a phase is due. -/
def pace (c : Controller) : Phase → Nat
  | .attached => 8 * c.image.size + 15
  | .setInterface => 8 * c.image.size + 14
  | .getStatus => 4 * c.remaining + 4 * c.image.size + 12
  | .transfer => 4 * max c.remaining 1 + 4 * c.image.size + 10
  | .zeroLengthTransfer => 4 * c.image.size + 10
  -- With nothing left to read the phase is skipped.
  | .readBack => max (4 * c.remaining + 5) 8
  | .getStatusRead => 4 * c.remaining + 7
  | .detach => 5
  | .checkStatus => 3
  | .unattached | .complete | .error => 1

theorem pace_pos (c : Controller) (p : Phase) : 0 < c.pace p := by
  cases p <;> simp only [pace] <;> omega

/-- Only the image and what is left of it count. -/
theorem pace_congr (hi : d.image = c.image) (ht : d.transferred = c.transferred) (p : Phase) :
    d.pace p = c.pace p := by
  have hr : d.remaining = c.remaining := by rw [remaining, hi, ht, remaining]
  cases p <;> simp only [pace, hi, hr]

@[simp] theorem pace_enter (c : Controller) (p q : Phase) : (c.enter p).pace q = c.pace q :=
  pace_congr (image_enter c p) (transferred_enter c p) q

/-- To begin an operation changes neither the plan nor what is left. -/
theorem action_begin (c : Controller) (operation : Operation) (length : Nat) (p : Phase) :
    (c.begin operation length).1.action p = c.action p := by
  cases p <;> rfl

theorem pace_begin (c : Controller) (operation : Operation) (length : Nat) (p : Phase) :
    (c.begin operation length).1.pace p = c.pace p := pace_congr rfl rfl p

theorem two_le_pace {request : ClassCall} {length : Nat}
    (h : c.action p = .start request length) : 2 ≤ c.pace p := by
  cases starts_of_action h <;> simp only [pace] <;> omega

/-- A success brings the upgrade nearer to its end. -/
theorem Succeeds.pace_le {request : ClassCall} {equal : Bool} (h : Succeeds c op data q d equal)
    (hp : c.action c.phase = .start request op.length) : d.pace q + 2 ≤ c.pace c.phase := by
  have hr : c.remaining = c.image.size - c.transferred := rfl
  have hstatus : ∀ (s : Status) (q : Phase),
      Controller.pace { c with lastStatus := some s } q = c.pace q := fun _ => pace_congr rfl rfl
  cases h with
  | setInterface hphase =>
    rw [hphase]
    simp only [pace]
    omega
  | getStatus s hphase =>
    rw [hstatus, hphase]
    split <;> simp only [pace] <;> omega
  | transfer hphase =>
    rw [hphase] at hp ⊢
    have hstarts := starts_of_action hp
    generalize op.length = length at hstarts ⊢
    cases hstarts
    simp only [pace, remaining, chunkLength]
    omega
  | zeroLengthTransfer hphase =>
    rw [hphase]
    simp only [pace, remaining, resetCounters]
    omega
  | readBack hphase hd =>
    rw [hphase] at hp ⊢
    have hsize : (data.extract 0 op.length).size = op.length := by simp [hd]
    have hstarts := starts_of_action hp
    simp only [pace, remaining, storeReadback, hsize]
    generalize op.length = length at hstarts ⊢
    cases hstarts with
    | readBack hc =>
      simp only [chunkLength, remaining] at hc ⊢
      omega
  | getStatusRead s hphase hz =>
    rw [hstatus, hphase]
    simp only [pace]
    omega
  | verified s hphase hz =>
    rw [hphase]
    simp only [pace]
    omega
  | detach hphase =>
    rw [hphase]
    split <;> simp [pace]
  | checkStatus hphase =>
    rw [hphase]
    simp [pace]

end Controller

namespace Session

variable {κ : Type} {s t : Rig κ} {n : Nat} {q : Request} {p : Phase}

/-- At most `n` requests are left, and at most one waits, but for the two that a device comes
with. -/
inductive Paced (s : Rig κ) (n : Nat) : Prop
  | plugged (b : Binding) : s.requests = [.bind b, .nextPhase .attached] →
    s.controller.inFlight = none → s.controller.pace .attached + 1 ≤ n → Paced s n
  | due (p : Phase) : s.requests = [.nextPhase p] → s.controller.pace p ≤ n → Paced s n
  | called (x : Completion) (r : Reply) (op : InFlight) (request : ClassCall) :
    s.requests = [.completed x r] → s.controller.inFlight = some op →
    s.controller.action s.controller.phase = .start request op.length →
    s.controller.pace s.controller.phase ≤ n + 1 → Paced s n
  | idle : s.requests = [] → Paced s n

theorem Paced.requests_of_zero (h : Paced s 0) : s.requests = [] := by
  cases h with
  | plugged _ _ _ hle => omega
  | due p _ hle =>
    have hpos := s.controller.pace_pos p
    omega
  | called x r op request _ _ ha hle =>
    have htwo := Controller.two_le_pace ha
    omega
  | idle hreq => exact hreq

theorem paced_advance (h : s.requests = []) (p : Phase) :
    Paced (s.advance p) (s.controller.pace p) := by
  cases hr : s.channel.refusal? with
  | none =>
    rw [advance_of_room p hr]
    refine .due p ?_ (Nat.le_refl _)
    rw [requests_post _ hr, h, List.nil_append]
  | some reason =>
    rw [advance_of_refusal p hr]
    exact .idle h

/-- An operation that is started waits for its completion, if it was not refused. -/
theorem paced_start {request : ClassCall} {length : Nat} (h : s.requests = [])
    (ha : s.controller.action p = .start request length) (target : ClassHandle) :
    ∃ m < s.controller.pace p,
      Paced ((s.setPhase p).start Accelerator.driver target request length) m := by
  have htwo := Controller.two_le_pace ha
  refine ⟨s.controller.pace p - 1, by omega, ?_⟩
  have hhanded :
      ((s.setPhase p).handOver Accelerator.driver target request length).requests = [] :=
    (requests_handOver ..).trans h
  have hcontroller : ((s.setPhase p).handOver Accelerator.driver target request length).controller =
      ((s.controller.enter p).begin request.operation length).1 := controller_handOver ..
  generalize hx : (⟨(s.setPhase p).controller.nextTicket, request.operation⟩ : Completion) = x
  rw [start_eq]
  obtain ⟨-, ⟨cause, hd, -⟩ | ⟨notices, r, hd, -⟩ | ⟨notices, r, hd, -⟩⟩ :=
    s.state.driver.submit_cases target request x
  all_goals
    rw [← hx] at hd
    rw [show (s.setPhase p).answerTo Accelerator.driver target request = _ from hd]
  · exact .idle hhanded
  · exact .idle hhanded
  · rcases requests_deliver x r (s := (s.setPhase p).handOver Accelerator.driver target request
      length) with hr | hr
    all_goals rw [hhanded] at hr
    · exact .idle (hx ▸ hr)
    · have hphase : ((s.controller.enter p).begin request.operation length).1.phase = p :=
        Controller.phase_enter _ p
      refine .called x r ⟨s.controller.nextTicket, request.operation, length⟩ request (hx ▸ hr)
        ?_ ?_ ?_
      all_goals rw [deliverAll_cons, controller_deliverAll, controller_deliver, hcontroller]
      · simp [Controller.begin]
      · rw [hphase, Controller.action_begin, Controller.action_enter, ha]
      · rw [hphase, Controller.pace_begin, Controller.pace_enter]
        omega

/-- The step to a phase is due, and nothing else waits. -/
theorem paced_step (o : Outcome Accelerator.driver s (.nextPhase p) t) (h : s.requests = []) :
    ∃ m < s.controller.pace p, Paced t m := by
  have hpos := s.controller.pace_pos p
  cases o with
  | released => exact ⟨0, hpos, .idle ((release_becomes Accelerator.driver s).requests_eq.trans h)⟩
  | initialised device _ _ _ =>
    rcases initialise_cases Accelerator.driver (s.setPhase .attached) device with
      ⟨u, cause, hu, he⟩ | ⟨d, target, he⟩
    · rw [he]
      exact ⟨0, hpos, .idle (hu.requests_eq.trans h)⟩
    · rw [he]
      refine ⟨s.controller.pace .setInterface, by simp [Controller.pace], ?_⟩
      have hpaced := paced_advance (s := (s.setPhase .attached).initialised d device target) h
        .setInterface
      rwa [controller_initialised, Controller.pace] at hpaced
  | started p target request length _ _ _ ha => exact paced_start h ha target
  | skipped _ _ _ hc =>
    have hpaced := paced_advance (s := s.setPhase .readBack) h .getStatusRead
    rw [controller_setPhase, Controller.pace_enter] at hpaced
    refine ⟨_, ?_, hpaced⟩
    simp only [Controller.pace, Controller.chunkLength] at hc ⊢
    omega
  | finished => exact ⟨0, hpos, .idle ((finish_becomes Accelerator.driver _).requests_eq.trans h)⟩
  | dropped | blocked | reported => exact ⟨0, hpos, .idle h⟩

/-- A completion is taken in, and nothing else waits. -/
theorem paced_complete {x : Completion} {r : Reply} {op : InFlight} {request : ClassCall}
    (o : Outcome Accelerator.driver s (.completed x r) t) (h : s.requests = [])
    (hop : s.controller.inFlight = some op)
    (ha : s.controller.action s.controller.phase = .start request op.length)
    (hn : s.controller.pace s.controller.phase ≤ n + 1) : ∃ m < n, Paced t m := by
  have htwo := Controller.two_le_pace ha
  cases o with
  | stale => exact ⟨0, by omega, .idle h⟩
  | failed x r op' cause _ _ =>
    refine ⟨0, by omega, .idle ?_⟩
    rw [requests_fail, requests_settled, h]
  | advanced x r op' p hx hp =>
    obtain rfl : op = op' :=
      Option.some.inj (hop.symm.trans (Controller.awaited?_eq_some_iff.mp hx).2.1)
    have hpaced := paced_advance (s := s.settled op x r) ((requests_settled ..).trans h) p
    rw [controller_settled] at hpaced
    refine ⟨_, ?_, hpaced⟩
    cases r with
    | error cause => simp [Controller.conclude] at hp
    | ok data =>
      have hs : Controller.Succeeds { s.controller with inFlight := none } op data p _ _ :=
        Controller.succeeds_of_ok hp
      have hle := hs.pace_le ha
      have hsame : Controller.pace { s.controller with inFlight := none } s.controller.phase =
          s.controller.pace s.controller.phase := Controller.pace_congr rfl rfl _
      dsimp only at hle
      rw [hsame] at hle
      show Controller.pace (Controller.succeed _ _ _).controller p < n
      omega

/-- Every request that is handled lowers the bound. -/
theorem Paced.handle (h : Paced s n) (hreq : s.requests = q :: s.dropOldest.requests) :
    ∃ m < n, Paced (Session.handle Accelerator.driver s.dropOldest q).1 m := by
  have hdropped : (s.dropOldest.noticed q).requests = s.dropOldest.requests := by
    rw [requests, channel_noticed, requests]
  have ho := outcome_handle Accelerator.driver s.dropOldest q
  generalize (Session.handle Accelerator.driver s.dropOldest q).1 = t at ho ⊢
  -- After a loss the request is dropped, or lets go of the device.
  have hbereft : Bereft s.dropOldest → (s.dropOldest.noticed q).requests = [] → 0 < n →
      ∃ m < n, Paced t m := by
    intro hb hnone hn
    have hphase : (s.dropOldest.noticed q).controller.phase = .error := by
      rw [noticed_of_bereft hb]
      simp
    rcases ho.of_failed hphase (idle_noticed hb q) with ⟨-, m, rfl⟩ | ⟨-, rfl⟩
    · exact ⟨0, hn, .idle hnone⟩
    · exact ⟨0, hn, .idle ((release_becomes Accelerator.driver _).requests_eq.trans hnone)⟩
  have hcontroller : ¬Bereft s.dropOldest →
      (s.dropOldest.noticed q).controller = s.controller :=
    fun hb => (noticed_of_not_bereft hb q).1.controller
  cases h with
  | idle hr =>
    rw [hr] at hreq
    simp at hreq
  | plugged b hr hidle hle =>
    obtain ⟨rfl, hrest⟩ := List.cons.inj (hreq.symm.trans hr)
    have hsame := hcontroller (not_bereft_of_idle hidle)
    have hpace : (s.dropOldest.noticed (.bind b)).controller.pace .attached =
        s.controller.pace .attached := by rw [hsame]
    refine ⟨s.controller.pace .attached, hle, ?_⟩
    cases ho with
    | bound => exact .due .attached (hdropped.trans hrest) hpace.le
    | ignored => exact .due .attached (hdropped.trans hrest) hpace.le
  | due p hr hle =>
    obtain ⟨rfl, hrest⟩ := List.cons.inj (hreq.symm.trans hr)
    have hpos := s.controller.pace_pos p
    by_cases hb : Bereft s.dropOldest
    · exact hbereft hb (hdropped.trans hrest) (by omega)
    · obtain ⟨m, hm, hpaced⟩ := paced_step ho (hdropped.trans hrest)
      rw [hcontroller hb] at hm
      exact ⟨m, by omega, hpaced⟩
  | called x r op request hr hop ha hle =>
    obtain ⟨rfl, hrest⟩ := List.cons.inj (hreq.symm.trans hr)
    have htwo := Controller.two_le_pace ha
    by_cases hb : Bereft s.dropOldest
    · exact hbereft hb (hdropped.trans hrest) (by omega)
    · rw [← hcontroller hb] at hop ha hle
      exact paced_complete ho (hdropped.trans hrest) hop ha hle

/-- At most one request waits, but for the two that a device comes with. -/
theorem Paced.alone (h : Paced s n) (hreq : s.requests = q :: s.dropOldest.requests) :
    s.dropOldest.requests = [] ∨ ∃ b, q = .bind b := by
  cases h with
  | plugged b hr => exact .inr ⟨b, (List.cons.inj (hreq.symm.trans hr)).1⟩
  | due _ hr | called _ _ _ _ hr => exact .inl (List.cons.inj (hreq.symm.trans hr)).2
  | idle hr =>
    rw [hr] at hreq
    simp at hreq

end Session

end FirmwareUpgrade
