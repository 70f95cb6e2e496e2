import FirmwareUpgrade.Proofs.Ending
import FirmwareUpgrade.Proofs.Fifo

/-!
# The controller does not fill its own queue

A request is taken from the queue before the controller handles it, so that there is room for one
more when it does. The controller does not need more room than that. It sends its next step, or it
starts an operation whose completion the driver may call at once, but never both and neither of them
twice. `Queues` follows what is sent from one session to another and says that the queue took it.

The queue may be of any size and as full as it can be, and the controller in any state. That a queue
is `Proper` asks for no more than what every worker keeps (`Worker.Runs.proper`).
-/
namespace FirmwareUpgrade

/-- A driver that calls no completion before an operation returns, or just the one that came with
the operation. -/
def Driver.Modest {δ : Type} (drv : Driver δ) : Prop :=
  ∀ d target request x, (drv.submit d target request x).2.delivered = [] ∨
    ∃ r, (drv.submit d target request x).2.delivered = [(x, r)]

/-! ## The queue -/

namespace Channel

variable {ρ κ : Type} {c : Channel ρ κ}

/-- A queue holds no more than it may, and nothing when it is closed. -/
structure Proper (c : Channel ρ κ) : Prop where
  bounded : c.waiting.length ≤ c.capacity
  closed : c.isOpen = false → c.waiting = []

/-- The queue with more requests behind those that wait. -/
def behind (c : Channel ρ κ) (requests : List ρ) : Channel ρ κ :=
  { c with waiting := c.waiting ++ requests.map (⟨·, none⟩) }

@[simp] theorem behind_nil (c : Channel ρ κ) : c.behind [] = c := by simp [behind]

theorem send_of_room (request : ρ) (h : c.refusal? = none) :
    c.send request = c.behind [request] := by
  simp [send, push, h, behind]

/-- The place of the request that is taken is free. -/
theorem Proper.refusal?_dropOldest (h : c.Proper) {e : Envelope ρ κ}
    (he : c.waiting.head? = some e) : c.dropOldest.refusal? = none := by
  obtain ⟨rest, hw⟩ := List.head?_eq_some_iff.mp he
  have hopen : c.isOpen = true := by
    by_contra hc
    simp [h.closed (by simpa using hc)] at hw
  have hle := h.bounded
  rw [hw, List.length_cons] at hle
  have hroom : c.dropOldest.waiting.length < c.dropOldest.capacity := by
    simp only [dropOldest, hw, List.tail_cons]
    omega
  simp only [refusal?, dropOldest, hopen, if_true]
  exact if_pos hroom

/-- One request more does not take more than the place that was freed. -/
theorem Proper.behind_dropOldest (h : c.Proper) {e : Envelope ρ κ}
    (he : c.waiting.head? = some e) {requests : List ρ} (hr : requests.length ≤ 1) :
    (c.dropOldest.behind requests).waiting.length ≤ c.waiting.length ∧
      (c.dropOldest.behind requests).Proper := by
  obtain ⟨rest, hw⟩ := List.head?_eq_some_iff.mp he
  have hle : (c.dropOldest.behind requests).waiting.length ≤ c.waiting.length := by
    simp only [behind, dropOldest, hw, List.tail_cons, List.length_append, List.length_map,
      List.length_cons]
    omega
  refine ⟨hle, hle.trans h.bounded, fun hc => ?_⟩
  simp [h.closed hc] at hw

end Channel

/-- The queue of a worker stays as it should be, whatever is done with it. -/
theorem Worker.Runs.proper {η ρ κ π : Type} {handle : Handler η ρ κ π} {capacity : Nat} {state : η}
    {log : Worker.Log ρ κ π} {w : Worker η ρ κ π} (h : Worker.Runs handle capacity state log w) :
    w.service.channel.Proper := by
  have ht := h.orderly.toTracks
  refine ⟨ht.capacity ▸ ht.length_le, fun hc => ?_⟩
  have hgone : Worker.isGone log = true := by simpa [ht.isOpen] using hc
  simpa [hgone] using ht.kept

/-! ## Refusals -/

/-- Whether an effect is the report that the queue refused something. -/
def Effect.isRefusal : Effect → Bool
  | notice (.completionLost ..) => true
  | notice (.upgradeFailed _ .queueFull) | notice (.upgradeFailed _ .queueClosed) => true
  | _ => false

/-- A cause that has nothing to do with the queue. -/
def UpgradeError.OffQueue (cause : UpgradeError) : Prop := cause ≠ queueFull ∧ cause ≠ queueClosed

theorem Effect.isRefusal_upgradeFailed {cause : UpgradeError} (h : cause.OffQueue) (p : Phase) :
    (Effect.notice (.upgradeFailed p cause)).isRefusal = false := by
  cases cause with
  | queueFull => exact absurd rfl h.1
  | queueClosed => exact absurd rfl h.2
  | _ => rfl

theorem Effect.isRefusal_ofQueueError (p : Phase) (reason : QueueError) :
    (Effect.notice (.upgradeFailed p (.ofQueueError reason))).isRefusal = true := by
  cases reason <;> rfl

/-- A verdict that has nothing to do with the queue. -/
structure Verdict.OffQueue (v : Verdict) : Prop where
  notices : ∀ n ∈ v.notices, (Effect.notice n).isRefusal = false
  next : ∀ cause, v.next = .error cause → cause.OffQueue

theorem Verdict.OffQueue.andThen {v : Verdict} {f : Controller → Verdict} (h : v.OffQueue)
    (hf : ∀ c, (f c).OffQueue) : (v.andThen f).OffQueue := by
  obtain ⟨c, notices, next⟩ := v
  cases next with
  | error cause => exact h
  | ok p =>
    refine ⟨fun n hn => ?_, (hf c).next⟩
    rcases List.mem_append.mp hn with hn | hn
    · exact h.notices n hn
    · exact (hf c).notices n hn

/-- An action that reports and fails for no reason of the queue. -/
def Action.OffQueue : Action → Prop
  | .report n => (Effect.notice n).isRefusal = false
  | .fail cause => cause.OffQueue
  | _ => True

namespace Controller

variable (c : Controller)

theorem offQueue_checkStatus (data : Bytes) (next : Phase) :
    (c.checkStatus data next).OffQueue where
  notices := by
    unfold checkStatus
    split
    · simp
    · dsimp only
      split <;> simp [Effect.isRefusal]
  next cause h :=
    ⟨(fault_of_checkStatus h).ne_queueError .full, (fault_of_checkStatus h).ne_queueError .closed⟩

theorem offQueue_takeChunk (requested : Nat) (data : Bytes) :
    (c.takeChunk requested data).OffQueue := by
  unfold takeChunk
  dsimp only
  split
  · exact ⟨by simp, by simp [UpgradeError.OffQueue]⟩
  · exact ⟨by simp [Effect.isRefusal], by simp⟩

theorem offQueue_verify : c.verify.OffQueue := by
  unfold verify
  dsimp only
  split
  · exact ⟨by simp, by simp [UpgradeError.OffQueue]⟩
  · exact ⟨by simp [Effect.isRefusal], by simp⟩

theorem offQueue_succeed (op : InFlight) (data : Bytes) : (c.succeed op data).OffQueue := by
  unfold succeed
  split
  case h_2 => exact offQueue_checkStatus c data _
  case h_5 => exact offQueue_takeChunk c op.length data
  case h_6 =>
    split
    · exact (offQueue_checkStatus c data .detach).andThen offQueue_verify
    · exact offQueue_checkStatus c data _
  all_goals exact ⟨by simp [Effect.isRefusal], by simp [UpgradeError.OffQueue]⟩

/-- Nothing that follows from a reply comes from the queue. -/
theorem offQueue_conclude (op : InFlight) (operation : Operation) (r : Reply) :
    (c.conclude op operation r).OffQueue := by
  cases r with
  | error cause => exact ⟨by simp [conclude], by simp [conclude, UpgradeError.OffQueue]⟩
  | ok data => exact offQueue_succeed _ op data

/-- What a phase consists of, apart from what it may send. -/
theorem offQueue_action (p : Phase) : (c.action p).OffQueue := by
  cases p with
  | attached =>
    unfold action
    dsimp only
    split
    · trivial
    · simp [Action.OffQueue, UpgradeError.OffQueue]
  | setInterface =>
    unfold action
    dsimp only
    split
    · trivial
    · simp [Action.OffQueue, UpgradeError.OffQueue]
  | readBack =>
    unfold action
    dsimp only
    split <;> trivial
  | error => rfl
  | _ => trivial

variable {c} in
theorem isRefusal_objection? {p : Phase} {n : Notice} (h : c.objection? p = some n) :
    (Effect.notice n).isRefusal = false := by
  unfold objection? at h
  split at h
  · simp at h
  split at h
  · rw [← Option.some.inj h]; rfl
  split at h
  · rw [← Option.some.inj h]; rfl
  split at h
  · rw [← Option.some.inj h]; rfl
  · obtain ⟨op, -, rfl⟩ := Option.map_eq_some_iff.mp h
    rfl

end Controller

namespace Session

variable {δ κ : Type} {drv : Driver δ} {s t : Session δ κ} {q : Request}

/-- The refusals of the queue that were reported, oldest first. -/
def refusals (s : Session δ κ) : List Effect := s.effects.filter (·.isRefusal)

@[simp] theorem refusals_record (s : Session δ κ) (e : Effect) :
    (s.record e).refusals = s.refusals ++ if e.isRefusal then [e] else [] := by
  rw [refusals, effects_record, List.filter_append, refusals]
  cases he : e.isRefusal <;> simp [he]

theorem refusals_of_effects {later : List Effect} (h : t.effects = s.effects ++ later)
    (hl : ∀ e ∈ later, e.isRefusal = false) : t.refusals = s.refusals := by
  have hnone : later.filter (·.isRefusal) = [] :=
    List.filter_eq_nil_iff.mpr fun e he => by simp [hl e he]
  rw [refusals, h, List.filter_append, hnone, List.append_nil, refusals]

theorem refusals_fail (s : Session δ κ) (cause : UpgradeError) :
    (s.fail cause).refusals =
      s.refusals ++ if (Effect.notice (.upgradeFailed s.controller.phase cause)).isRefusal then
        [.notice (.upgradeFailed s.controller.phase cause)] else [] := by
  have hphase : (s.fail cause).effects =
      (s.note (.upgradeFailed s.controller.phase cause)).effects ++
        [.notice (.phaseChanged (s.controller.recordFailure cause).phase .error),
          .watch .error] := by
    simp
  rw [refusals_of_effects hphase (by simp [Effect.isRefusal]), note, refusals_record]

/-- A step is refused exactly if that is reported. -/
theorem refusals_advance_eq_iff (p : Phase) :
    (s.advance p).refusals = s.refusals ↔ s.channel.refusal? = none := by
  cases hr : s.channel.refusal? with
  | none => simp [advance_of_room p hr, refusals]
  | some reason =>
    simp [advance_of_refusal p hr, refusals_fail, Effect.isRefusal_ofQueueError]

/-- A completion is refused exactly if that is reported. -/
theorem refusals_deliver_eq_iff (x : Completion) (r : Reply) :
    (s.deliver x r).refusals = s.refusals ↔ s.channel.refusal? = none := by
  have hcompleted : (s.record (.completed x r)).refusals = s.refusals := by
    simp [Effect.isRefusal]
  cases hr : s.channel.refusal? with
  | none =>
    rw [deliver_of_room x r hr]
    exact iff_of_true hcompleted rfl
  | some reason =>
    have hlost : (s.deliver x r).refusals =
        ((s.record (.completed x r)).note (.completionLost x.operation reason)).refusals := by
      simp [deliver, hr, refusals, effects]
    rw [hlost, note, refusals_record, hcompleted]
    simp [Effect.isRefusal]

/-! ## What is sent -/

/-- The second session came from the first, and what was sent on the way is in the queue. -/
structure Queues (s t : Session δ κ) (sent : List Request) : Prop where
  channel : t.channel = s.channel.behind sent
  lost : t.state.lost = s.state.lost
  refusals : t.refusals = s.refusals

namespace Queues

theorem refl : Queues s s [] := ⟨s.channel.behind_nil.symm, rfl, rfl⟩

theorem channel_eq (h : Queues s t []) : t.channel = s.channel := by
  rw [h.channel, Channel.behind_nil]

section
variable {sent : List Request} (h : Queues s t sent)

include h

theorem record {e : Effect} (he : e.isRefusal = false) : Queues s (t.record e) sent :=
  ⟨h.channel, h.lost, by simp [he, h.refusals]⟩

theorem note {n : Notice} (hn : (Effect.notice n).isRefusal = false) : Queues s (t.note n) sent :=
  h.record hn

theorem noteAll {ns : List Notice} (hn : ∀ n ∈ ns, (Effect.notice n).isRefusal = false) :
    Queues s (t.noteAll ns) sent := by
  refine ⟨by simp [h.channel], by simp [h.lost], ?_⟩
  refine (refusals_of_effects (t.effects_noteAll ns) fun e he => ?_).trans h.refusals
  obtain ⟨n, hmem, rfl⟩ := List.mem_map.mp he
  exact hn n hmem

theorem relayAll (ns : List Notice) : Queues s (t.relayAll ns) sent := by
  refine ⟨by simp [h.channel], by simp [h.lost], ?_⟩
  refine (refusals_of_effects (t.effects_relayAll ns) fun e he => ?_).trans h.refusals
  obtain ⟨n, -, rfl⟩ := List.mem_map.mp he
  rfl

theorem modify (f : Controller → Controller) : Queues s (t.modify f) sent :=
  ⟨h.channel, h.lost, h.refusals⟩

theorem withDriver (driver : δ) : Queues s (t.withDriver driver) sent :=
  ⟨h.channel, h.lost, h.refusals⟩

theorem setPhase (p : Phase) : Queues s (t.setPhase p) sent :=
  ((h.note rfl).modify _).record rfl

theorem fail {cause : UpgradeError} (hc : cause.OffQueue) : Queues s (t.fail cause) sent :=
  ((h.note (Effect.isRefusal_upgradeFailed hc _)).modify _).setPhase .error

theorem exchange {α : Type} (run : δ → δ × α) (entry : α → Exchange) (notices : α → List Notice) :
    Queues s (t.exchange run entry notices).1 sent := by
  rw [exchange_eq]
  exact ((h.withDriver _).record rfl).relayAll _

theorem returnClass (drv : Driver δ) (complaint : UsbError → Notice)
    (hc : ∀ e, (Effect.notice (complaint e)).isRefusal = false) :
    Queues s (t.returnClass drv complaint) sent := by
  have hm := h.modify ({ · with liveClass := none })
  unfold Session.returnClass
  dsimp only
  split
  · rename_i target device _ _
    have hx := hm.exchange (drv.deinit · device target) (.deinit device target ·) fun _ => []
    split
    · rename_i he
      rwa [he] at hx
    · rename_i he
      rw [he] at hx
      exact hx.note (hc _)
  · exact hm

theorem release (drv : Driver δ) : Queues s (t.release drv) sent := by
  have hr := h.returnClass drv .deinitAfterDetach fun _ => rfl
  refine modify ?_ _
  unfold noteInFlight
  split
  · exact hr.note rfl
  · exact hr

theorem finish (drv : Driver δ) : Queues s (t.finish drv) sent := by
  have hreset : Queues s (t.resetBus drv) sent := by
    unfold resetBus
    split
    · exact h
    · exact h.exchange ..
  have hr := hreset.returnClass drv .deinitFailed fun _ => rfl
  refine note ?_ rfl
  unfold reEnumerate
  split
  · exact hr
  · exact hr.exchange ..

theorem settled (op : InFlight) (x : Completion) (r : Reply) :
    Queues s (t.settled op x r) sent :=
  (h.modify _).noteAll (t.controller.offQueue_conclude op x.operation r).notices

theorem handOver (drv : Driver δ) (target : ClassHandle) (request : ClassCall) (length : Nat) :
    Queues s (t.handOver drv target request length) sent :=
  (((h.modify _).withDriver _).record rfl).relayAll _

end

/-! What is sent first finds the room that there was. -/

section
variable (h : Queues s t []) (hroom : s.channel.refusal? = none)

include h hroom

theorem advance (p : Phase) : Queues s (t.advance p) [.nextPhase p] := by
  have ht : t.channel.refusal? = none := by rwa [h.channel_eq]
  refine ⟨?_, ?_, ((refusals_advance_eq_iff p).mpr ht).trans h.refusals⟩
  · rw [advance_of_room p ht, channel_post, Channel.send_of_room _ ht, h.channel_eq]
  · rw [advance_of_room p ht, lost_post, h.lost]

theorem deliver (x : Completion) (r : Reply) : Queues s (t.deliver x r) [.completed x r] := by
  have ht : t.channel.refusal? = none := by rwa [h.channel_eq]
  refine ⟨?_, ?_, ((refusals_deliver_eq_iff x r).mpr ht).trans h.refusals⟩
  · rw [deliver_of_room x r ht, channel_post, channel_record, Channel.send_of_room _ ht,
      h.channel_eq]
  · rw [deliver_of_room x r ht, lost_post, lost_record, h.lost]

theorem initialise (drv : Driver δ) (device : DeviceHandle) :
    ∃ sent, sent.length ≤ 1 ∧ Queues s (t.initialise drv device) sent := by
  rcases initialise_answers drv t device with ⟨driver, cause, he⟩ | ⟨driver, target, he⟩
  · rw [he]
    exact ⟨[], Nat.zero_le _,
      ((h.withDriver driver).record rfl).fail (by simp [UpgradeError.OffQueue])⟩
  · rw [he]
    have hinit : Queues s (t.initialised driver device target) [] :=
      (((h.withDriver driver).record rfl).modify _).note rfl
    exact ⟨_, le_rfl, hinit.advance hroom .setInterface⟩

/-- An operation brings at most its own completion into the queue, also when it is refused. -/
theorem start (hd : drv.Modest) (target : ClassHandle) (request : ClassCall) (length : Nat) :
    ∃ sent, sent.length ≤ 1 ∧ Queues s (t.start drv target request length) sent := by
  have hover := h.handOver drv target request length
  have hcalled : ∃ sent, sent.length ≤ 1 ∧
      Queues s ((t.handOver drv target request length).deliverAll
        (t.answerTo drv target request).delivered) sent := by
    rcases hd t.state.driver target request ⟨t.controller.nextTicket, request.operation⟩ with
      hnone | ⟨r, hown⟩
    · rw [answerTo, hnone]
      exact ⟨[], Nat.zero_le _, hover⟩
    · rw [answerTo, hown]
      exact ⟨_, le_rfl, hover.deliver hroom _ r⟩
  obtain ⟨sent, hlength, hsent⟩ := hcalled
  rw [start_eq]
  split
  · exact ⟨sent, hlength, hsent⟩
  · exact ⟨sent, hlength, hsent.fail (by simp [UpgradeError.OffQueue])⟩

end

end Queues

/-! ## One request -/

/-- A phase does its work within the room that there is. -/
theorem Queues.perform (h : Queues s t []) (hroom : s.channel.refusal? = none) (hd : drv.Modest)
    {action : Action} (ha : action.OffQueue) :
    ∃ sent, sent.length ≤ 1 ∧ Queues s (t.perform drv action) sent := by
  cases action with
  | release => exact ⟨[], Nat.zero_le _, h.release drv⟩
  | initialise device => exact h.initialise hroom drv device
  | start request length =>
    unfold Session.perform
    dsimp only
    split
    · exact h.start hroom hd _ request length
    · exact ⟨[], Nat.zero_le _, h.fail (by simp [UpgradeError.OffQueue])⟩
  | skip next => exact ⟨_, le_rfl, h.advance hroom next⟩
  | finish => exact ⟨[], Nat.zero_le _, h.finish drv⟩
  | report n => exact ⟨[], Nat.zero_le _, h.note ha⟩
  | fail cause => exact ⟨[], Nat.zero_le _, h.fail ha⟩

theorem queues_step (hd : drv.Modest) (hroom : s.channel.refusal? = none) (p : Phase) :
    ∃ sent, sent.length ≤ 1 ∧ Queues s (s.step drv p) sent := by
  have h : Queues s s [] := .refl
  have ha := s.controller.offQueue_action p
  unfold step
  split
  · exact ⟨[], Nat.zero_le _, h.note (Controller.isRefusal_objection? ‹_›)⟩
  · dsimp only
    split
    · obtain ⟨sent, hlength, hsent⟩ := h.perform hroom hd ha
      exact ⟨sent, hlength, hsent.setPhase p⟩
    · exact (h.setPhase p).perform hroom hd ha

theorem queues_complete (hroom : s.channel.refusal? = none) (x : Completion) (r : Reply) :
    ∃ sent, sent.length ≤ 1 ∧ Queues s (s.complete x r) sent := by
  have h : Queues s s [] := .refl
  cases hx : s.controller.awaited? x.ticket with
  | none =>
    simp only [complete, hx]
    exact ⟨[], Nat.zero_le _, h.note rfl⟩
  | some op =>
    have hoff := s.controller.offQueue_conclude op x.operation r
    cases hv : (s.controller.conclude op x.operation r).next with
    | ok p =>
      rw [complete_of_ok hx hv]
      exact ⟨_, le_rfl, (h.settled op x r).advance hroom p⟩
    | error cause =>
      rw [complete_of_error hx hv]
      exact ⟨[], Nat.zero_le _, (h.settled op x r).fail (hoff.next cause hv)⟩

/-- With room for one request more, what a request leads to is sent and nothing is refused. -/
theorem queues_take (hd : drv.Modest) (hroom : s.channel.refusal? = none) (q : Request) :
    ∃ sent, sent.length ≤ 1 ∧ Queues s (take drv s q) sent := by
  cases q with
  | nextPhase p => exact queues_step hd hroom p
  | completed x r => exact queues_complete hroom x r
  | bind b =>
    have h : Queues s s [] := .refl
    unfold take bind
    dsimp only
    split
    · exact ⟨[], Nat.zero_le _, (h.note rfl).modify _⟩
    · exact ⟨[], Nat.zero_le _, h.note rfl⟩

/-- What a loss before the request still brings up: the upgrade fails if its operation was lost. -/
theorem refusals_noticed_of_bereft (h : Bereft s) (q : Request) :
    (s.noticed q).refusals =
      s.refusals ++ [.notice (.upgradeFailed s.controller.phase .queueFull)] := by
  have htaken : (s.record (.taken q)).forgetLoss.refusals = s.refusals :=
    (refusals_record s (.taken q)).trans (List.append_nil _)
  rw [noticed_of_bereft h, refusals_fail, htaken]
  rfl

theorem refusals_noticed_of_not_bereft (h : ¬Bereft s) (q : Request) :
    (s.noticed q).refusals = s.refusals := by
  have htaken : (s.record (.taken q)).refusals = s.refusals := by simp [Effect.isRefusal]
  rcases noticed_cases h q with he | ⟨ticket, he⟩
  · rw [he, htaken]
  · rw [he, note, refusals_record, ← htaken]
    exact List.append_nil _

/-! ## A run of the worker -/

/-- From the first session to the second the queue refused nothing and did not grow. What had been
lost before came up, as `shown`. -/
structure Unhindered (s t : Session δ κ) (shown : List Effect) : Prop where
  refusals : t.refusals = s.refusals ++ shown
  lost : ∀ ticket, t.state.lost = some ticket → s.state.lost = some ticket
  length : t.channel.waiting.length ≤ s.channel.waiting.length

theorem Unhindered.refl : Unhindered s s [] := ⟨(List.append_nil _).symm, fun _ => id, le_rfl⟩

theorem Unhindered.trans {u : Session δ κ} {shown : List Effect} (h : Unhindered s t shown)
    (k : Unhindered t u []) : Unhindered s u shown where
  refusals := by rw [k.refusals, List.append_nil, h.refusals]
  lost ticket hu := h.lost ticket (k.lost ticket hu)
  length := k.length.trans h.length

section
variable {w : Worker (Upgrade δ) Request κ Phase} {e : Envelope Request κ}

theorem queues_dispatch (hd : drv.Modest) (hw : w.service.channel.Proper)
    (he : w.service.channel.waiting.head? = some e) :
    ∃ sent, sent.length ≤ 1 ∧ Queues ((dropOldest w.service).noticed e.request)
      (w.dispatch (handle drv) e).service sent := by
  have hroom : ((dropOldest w.service).noticed e.request).channel.refusal? = none := by
    rw [channel_noticed]
    exact hw.refusal?_dropOldest he
  exact queues_take hd hroom e.request

/-- What the handling of one request leaves, whatever the look for a loss brought up before it. -/
theorem unhindered_dispatch (hd : drv.Modest) (hw : w.service.channel.Proper)
    (he : w.service.channel.waiting.head? = some e) {shown : List Effect}
    (hs : ((dropOldest w.service).noticed e.request).refusals = refusals w.service ++ shown) :
    Unhindered w.service (w.dispatch (handle drv) e).service shown ∧
      (w.dispatch (handle drv) e).service.channel.Proper ∧
      (w.dispatch (handle drv) e).service.state.lost = none := by
  obtain ⟨sent, hlength, hsent⟩ := queues_dispatch hd hw he
  have hchannel := hsent.channel
  rw [channel_noticed] at hchannel
  obtain ⟨hle, hproper⟩ := hw.behind_dropOldest he hlength
  have hlost := hsent.lost.trans (lost_noticed _ _)
  refine ⟨⟨hsent.refusals.trans hs, fun ticket ht => ?_, ?_⟩, ?_, hlost⟩
  · simp [hlost] at ht
  · rw [hchannel]
    exact hle
  · rw [hchannel]
    exact hproper

/-- Without a loss to begin with there is none at the end. -/
theorem unhindered_drain (hd : drv.Modest) (fuel : Nat) :
    ∀ {w : Worker (Upgrade δ) Request κ Phase} (count : Nat), w.service.channel.Proper →
      ¬Bereft w.service → Unhindered w.service (w.drain (handle drv) fuel count).1.service [] := by
  induction fuel with
  | zero => exact fun count _ _ => .refl
  | succ fuel ih =>
    intro w count hw hb
    unfold Worker.drain
    cases he : w.service.channel.waiting.head? with
    | none => exact .refl
    | some e =>
      have hquiet := (refusals_noticed_of_not_bereft (s := dropOldest w.service) hb e.request).trans
        (List.append_nil _).symm
      obtain ⟨hstep, hproper, hlost⟩ := unhindered_dispatch hd hw he hquiet
      exact hstep.trans (ih _ hproper (not_bereft_of_lost hlost))

/-- Let a driver call at most the completion that it was just handed. In any state of the
controller, and however full a queue of any size is, the handling of the oldest request puts at most
one request into the queue. So the worker may handle as many requests as it likes: while nobody else
sends, the queue takes every step of the controller and every completion, and never holds more than
at first. No completion is lost, and no upgrade fails for the queue, except that a completion of the
operation in flight that was lost before fails it at the first request. -/
theorem queue_never_saturated (hd : drv.Modest) (w : Worker (Upgrade δ) Request κ Phase)
    (hw : w.service.channel.Proper) :
    (∀ e, w.service.channel.waiting.head? = some e → ∃ sent : List Request, sent.length ≤ 1 ∧
      (w.dispatch (handle drv) e).service.channel = w.service.channel.dropOldest.behind sent) ∧
    ∀ fuel, ∃ shown, Unhindered w.service (w.drain (handle drv) fuel 0).1.service shown ∧
      (shown = [] ∨ Bereft w.service ∧
        shown = [.notice (.upgradeFailed w.service.state.controller.phase .queueFull)]) := by
  refine ⟨fun e he => ?_, fun fuel => ?_⟩
  · obtain ⟨sent, hlength, hsent⟩ := queues_dispatch hd hw he
    exact ⟨sent, hlength, hsent.channel.trans (by rw [channel_noticed]; rfl)⟩
  by_cases hb : Bereft w.service
  · cases fuel with
    | zero => exact ⟨[], .refl, .inl rfl⟩
    | succ fuel =>
      unfold Worker.drain
      cases he : w.service.channel.waiting.head? with
      | none => exact ⟨[], .refl, .inl rfl⟩
      | some e =>
        -- The loss comes up with the first request; behind that there is none.
        have hshown := refusals_noticed_of_bereft (s := dropOldest w.service) hb e.request
        obtain ⟨hstep, hproper, hlost⟩ := unhindered_dispatch hd hw he hshown
        have hrest := unhindered_drain hd fuel 1 hproper (not_bereft_of_lost hlost)
        exact ⟨_, hstep.trans hrest, .inr ⟨hb, rfl⟩⟩
  · exact ⟨[], unhindered_drain hd fuel 0 hw hb, .inl rfl⟩

end

end Session

/-! ## The accelerator -/

namespace Accelerator

/-- The accelerator calls no completion but that of the operation, or holds it back. -/
theorem driver_modest : driver.Modest := by
  intro a target request x
  obtain ⟨-, ⟨cause, h, -⟩ | ⟨notices, r, h, -⟩ | ⟨notices, r, h, -⟩⟩ :=
    a.submit_cases target request x
  · exact .inl (congrArg Answer.delivered h)
  · exact .inl (congrArg Answer.delivered h)
  · exact .inr ⟨r, congrArg Answer.delivered h⟩

end Accelerator

namespace Session

/-- A worker whose queue has two places, both taken by the attach of an accelerator. -/
def crowded : Worker (Upgrade (Accelerator Completion)) Request Unit Phase :=
  .new (.new (.new .none false) #[7] .standard)
    { capacity := 2
      waiting := [⟨.bind ⟨Accelerator.host, Accelerator.device, Accelerator.interface⟩, none⟩,
        ⟨.nextPhase .attached, none⟩]
      senders := 2
      isOpen := true }

/-- Two places are enough for the whole upgrade. -/
theorem crowded_completes :
    let done : Session _ Unit := (crowded.drain (handle Accelerator.driver) 40 0).1.service
    crowded.service.channel.refusal? = some .full ∧ done.controller.phase = .complete ∧
      Unhindered crowded.service done [] := by
  intro done
  obtain ⟨-, hrun⟩ :=
    queue_never_saturated Accelerator.driver_modest crowded ⟨by decide, by decide⟩
  obtain ⟨shown, hshown, rfl | ⟨hb, -⟩⟩ := hrun 40
  · exact ⟨by decide, by decide +kernel, hshown⟩
  · exact absurd hb (not_bereft_of_idle rfl)

end Session

end FirmwareUpgrade
