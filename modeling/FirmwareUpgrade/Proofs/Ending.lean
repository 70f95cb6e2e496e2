import FirmwareUpgrade.Proofs.StatusCheck
import FirmwareUpgrade.Proofs.Turnover

/-!
# How an upgrade ends

An upgrade that fails gives its read-back buffer up and keeps the cause: a completion was lost, the
class driver or the queue refused something, or a reply cannot be accepted (`Session.Fails`). There
are two more ways in which it can end (`Session.Ending`). The step to COMPLETE ends it whoever asked
for that and whenever it comes, and the step to ERROR does so if somebody else asks for it. Neither
looks after the buffer, and the second keeps no cause.
-/
namespace FirmwareUpgrade

/-! ## The causes -/

namespace Controller

/-- A reply to the operation in flight ends the upgrade for a cause. -/
inductive Dooms (c : Controller) (op : InFlight) (operation : Operation) :
    Reply → UpgradeError → Prop
  | transfer (cause : UsbError) : Dooms c op operation (.error cause) (.transfer operation cause)
  | status (data : Bytes) (cause : UpgradeError) : c.phase = .getStatus ∨ c.phase = .getStatusRead →
    StatusFault data cause → Dooms c op operation (.ok data) cause
  | short (data : Bytes) : c.phase = .readBack → data.size < op.length →
    Dooms c op operation (.ok data) (.verificationMismatch (c.transferred + data.size))
  | differs (data : Bytes) (status : Status) (offset : Nat) : c.phase = .getStatusRead →
    c.remaining = 0 → Status.decode data = .ok status → status.check = .ok () →
    c.mismatch = some offset → Dooms c op operation (.ok data) (.verificationMismatch offset)

variable {c : Controller} {op : InFlight} {operation : Operation} {r : Reply} {data : Bytes}
  {cause : UpgradeError} {p : Phase}

/-- A status reply ends the upgrade only if there is a fault in it. -/
theorem fault_of_checkStatus (h : (c.checkStatus data p).next = .error cause) :
    StatusFault data cause := by
  unfold checkStatus Status.decode at h
  split at h
  · rename_i e he
    split at he
    · simp at he
    · rename_i hsize
      obtain rfl := Except.error.inj he
      obtain rfl := Except.error.inj h
      exact .short (Nat.lt_of_not_le hsize)
  · rename_i status hs
    split at hs
    · rename_i hsize
      have hsize' : 6 ≤ data.size := hsize
      obtain rfl := Except.ok.inj hs
      simp only [Status.check] at h
      split at h
      · simp [Except.map] at h
      · rename_i hbad
        obtain rfl := Except.error.inj h
        refine .bad _ _ hsize (Array.getElem?_eq_getElem (by omega))
          (Array.getElem?_eq_getElem (by omega)) ?_
        by_contra hgood
        push Not at hgood
        exact hbad hgood
    · simp at hs

/-- What came back is short of the block, and all of it was stored. -/
theorem takeChunk_next_of_lt {requested : Nat} (h : data.size < requested) :
    (c.takeChunk requested data).next =
      .error (.verificationMismatch (c.transferred + data.size)) := by
  have hsize : (data.extract 0 requested).size = data.size := by
    rw [Array.size_extract]
    omega
  simp only [takeChunk, if_pos h, storeReadback, hsize]

theorem dooms_of_takeChunk (hp : c.phase = .readBack)
    (h : (Controller.takeChunk { c with inFlight := none } op.length data).next = .error cause) :
    c.Dooms op operation (.ok data) cause := by
  by_cases hshort : data.size < op.length
  · rw [takeChunk_next_of_lt hshort] at h
    obtain rfl := Except.error.inj h
    exact .short data hp hshort
  · simp [takeChunk, hshort] at h

/-- Behind the last block it is the reply, or what came back. -/
theorem dooms_of_verify (hp : c.phase = .getStatusRead) (hr : c.remaining = 0)
    (h : ((Controller.checkStatus { c with inFlight := none } data .detach).andThen
      verify).next = .error cause) : c.Dooms op operation (.ok data) cause := by
  cases hv : (Controller.checkStatus { c with inFlight := none } data .detach).next with
  | error e =>
    rw [Verdict.andThen_of_error hv] at h
    obtain rfl := Except.error.inj h
    exact .status data _ (.inr hp) (fault_of_checkStatus hv)
  | ok q =>
    obtain ⟨-, -, status, hs, hc, hd⟩ := checkStatus_ok hv
    generalize Controller.checkStatus { c with inFlight := none } data .detach = v at hv hd h
    obtain ⟨d, notices, next⟩ := v
    obtain rfl : next = .ok q := hv
    obtain rfl : d = _ := hd
    simp only [Verdict.andThen, verify] at h
    split at h
    · rename_i offset hm
      obtain rfl := Except.error.inj h
      exact .differs data status offset hp hr hs hc hm
    · simp at h

theorem dooms_of_conclude (hp : c.phase.operation? ≠ none)
    (h : (c.conclude op operation r).next = .error cause) : c.Dooms op operation r cause := by
  cases r with
  | error e =>
    obtain rfl := Except.error.inj h
    exact .transfer e
  | ok data =>
    replace h : (Controller.succeed { c with inFlight := none } op data).next = .error cause := h
    unfold succeed at h
    split at h
    case h_2 hphase => exact .status data cause (.inl hphase) (fault_of_checkStatus h)
    case h_5 hphase => exact dooms_of_takeChunk hphase h
    case h_6 hphase =>
      split at h
      · rename_i hr
        exact dooms_of_verify hphase hr h
      · exact .status data cause (.inr hphase) (fault_of_checkStatus h)
    case h_9 h1 h2 h3 h4 h5 h6 h7 h8 =>
      exfalso
      cases hphase : c.phase <;> simp_all [Phase.operation?]
    all_goals simp at h

theorem Dooms.conclude (h : c.Dooms op operation r cause) :
    (c.conclude op operation r).next = .error cause := by
  cases h with
  | transfer => rfl
  | status data cause hp hf => exact conclude_of_fault hf op operation hp
  | short data hp hshort =>
    simp only [Controller.conclude, succeed, hp, takeChunk_next_of_lt hshort]
  | differs data status offset hp hr hs hc hm =>
    obtain ⟨d, notices, hd, hv⟩ := conclude_compares hp hr hs hc op operation
    rw [hv]
    simp only [verify, hd, hm]

/-- What ends the upgrade with the reply to the operation of a phase is a fault of that reply. -/
theorem conclude_next_eq_error_iff (hp : c.phase.operation? ≠ none) :
    (c.conclude op operation r).next = .error cause ↔ c.Dooms op operation r cause :=
  ⟨dooms_of_conclude hp, Dooms.conclude⟩

/-- There is no work in the phases in which an upgrade stays. -/
theorem isTerminal_of_action {request : ClassCall} {length : Nat}
    (h : c.action p = .start request length) : p.isTerminal = false := by
  cases p with
  | complete | error => simp [action] at h
  | _ => rfl

/-- A step to a phase with an operation meets an objection where there is no class handle. -/
theorem live_of_action {request : ClassCall} {length : Nat}
    (h : c.action p = .start request length) (ho : c.objection? p = none) :
    ∃ target, c.liveClass = some target := by
  have hneeds := Phase.needsClass_of_operation? (operation?_of_action h)
  have hu : p ≠ .unattached := by
    rintro rfl
    simp [Phase.needsClass] at hneeds
  have ha : p ≠ .attached := by
    rintro rfl
    simp [Phase.needsClass] at hneeds
  obtain ⟨-, hn, -⟩ := objection?_eq_none hu ha ho
  exact Option.ne_none_iff_exists'.mp fun hl => hn ⟨hneeds, hl⟩

end Controller

namespace Session

variable {δ κ : Type} {drv : Driver δ} {s t : Session δ κ} {q : Request} {p : Phase}
  {cause : UpgradeError}

/-- A request behind which the controller goes on by itself, for which it needs the queue. -/
inductive GoesOn (drv : Driver δ) (s : Session δ κ) : Request → Prop
  | initialised (device : DeviceHandle) (target : ClassHandle) :
    s.controller.boundDevice = some device →
    (drv.init s.state.driver device).2 = .ok target → GoesOn drv s (.nextPhase .attached)
  | skipped : s.controller.chunkLength = 0 → GoesOn drv s (.nextPhase .readBack)
  | advanced (x : Completion) (r : Reply) (op : InFlight) (p : Phase) :
    s.controller.awaited? x.ticket = some op →
    (s.controller.conclude op x.operation r).next = .ok p → GoesOn drv s (.completed x r)

/-- The upgrade breaks off at a request for a cause. -/
inductive BreaksOff (drv : Driver δ) (s : Session δ κ) : Request → UpgradeError → Prop
  | noDevice : s.controller.boundDevice = none →
    BreaksOff drv s (.nextPhase .attached) .unsupportedDevice
  | uninitialised (device : DeviceHandle) (cause : UsbError) :
    s.controller.boundDevice = some device → (drv.init s.state.driver device).2 = .error cause →
    BreaksOff drv s (.nextPhase .attached) (.classInit cause)
  | noInterface : s.controller.boundInterface = none →
    BreaksOff drv s (.nextPhase .setInterface) (.classCall .setInterface .invalidHandle)
  /-- The class driver does not start the operation of a phase. -/
  | refused (p : Phase) (target : ClassHandle) (request : ClassCall) (length : Nat)
    (cause : UsbError) : s.controller.action p = .start request length →
    s.controller.liveClass = some target → (s.answerTo drv target request).result = .error cause →
    BreaksOff drv s (.nextPhase p) (.classCall request.operation cause)
  /-- The queue does not take the next step. -/
  | unqueued (q : Request) (reason : QueueError) : GoesOn drv s q →
    s.channel.refusal? = some reason → BreaksOff drv s q (.ofQueueError reason)
  | doomed (x : Completion) (r : Reply) (op : InFlight) (cause : UpgradeError) :
    s.controller.awaited? x.ticket = some op → s.controller.Dooms op x.operation r cause →
    BreaksOff drv s (.completed x r) cause

/-- The upgrade fails at a request for a cause. The loss of a completion comes before everything
else. -/
def Fails (drv : Driver δ) (s : Session δ κ) (q : Request) (cause : UpgradeError) : Prop :=
  Bereft s ∧ cause = .queueFull ∨ ¬Bereft s ∧ BreaksOff drv s q cause

/-- The controller with which an upgrade ends at a request, by the way in which it does. -/
inductive Ending (drv : Driver δ) (s : Session δ κ) : Request → Controller → Prop
  | failed (q : Request) (c : Controller) (cause : UpgradeError) : Fails drv s q cause →
    Ending drv s q ((c.recordFailure cause).enter .error)
  | completed : ¬Bereft s →
    Ending drv s (.nextPhase .complete) { s.controller.enter .complete with liveClass := none }
  /-- Somebody asked for the failure of the upgrade. -/
  | demanded : ¬Bereft s → Ending drv s (.nextPhase .error) (s.controller.enter .error)

/-- In the phases in which an upgrade stays nothing breaks off. -/
theorem BreaksOff.isTerminal_eq_false (h : BreaksOff drv s (.nextPhase p) cause) :
    p.isTerminal = false := by
  cases h with
  | noDevice | uninitialised | noInterface => rfl
  | refused p target request length cause hact => exact Controller.isTerminal_of_action hact
  | unqueued q reason hgoes => cases hgoes <;> rfl

/-- What was only reported makes no difference. -/
theorem BreaksOff.untouched (h : BreaksOff drv t q cause) (hu : Untouched s t) :
    BreaksOff drv s q cause := by
  have hgoes : GoesOn drv t q → GoesOn drv s q := by
    intro hg
    cases hg with
    | initialised device target hb hi =>
      exact .initialised device target (by rwa [← hu.controller]) (by rwa [← hu.driver])
    | skipped hc => exact .skipped (by rwa [← hu.controller])
    | advanced x r op p hx hv =>
      exact .advanced x r op p (by rwa [← hu.controller]) (by rwa [← hu.controller])
  cases h with
  | noDevice hb => exact .noDevice (by rwa [← hu.controller])
  | uninitialised device cause hb hi =>
    exact .uninitialised device cause (by rwa [← hu.controller]) (by rwa [← hu.driver])
  | noInterface hb => exact .noInterface (by rwa [← hu.controller])
  | refused p target request length cause hact hl ha =>
    refine .refused p target request length cause (by rwa [← hu.controller])
      (by rwa [← hu.controller]) ?_
    rwa [answerTo, ← hu.driver, ← hu.controller]
  | unqueued q reason hg hr => exact .unqueued q reason (hgoes hg) (by rwa [← hu.channel])
  | doomed x r op cause hx hd =>
    exact .doomed x r op cause (by rwa [← hu.controller]) (by rwa [← hu.controller])

/-! ## The end at a request -/

/-- The second session is the one in which the upgrade broke off at the request. -/
def BrokeOff (drv : Driver δ) (s : Session δ κ) (q : Request) (t : Session δ κ) : Prop :=
  ∃ c cause, BreaksOff drv s q cause ∧
    t.controller = (Controller.recordFailure c cause).enter .error

theorem BrokeOff.fail (h : BreaksOff drv s q cause) (u : Session δ κ) :
    BrokeOff drv s q (u.fail cause) := ⟨u.controller, cause, h, rfl⟩

/-- A step that the controller takes by itself ends the upgrade only if the queue refuses it. -/
theorem brokeOff_advance (hg : GoesOn drv s q) (hc : t.channel = s.channel)
    (ht : t.controller.phase.isTerminal = false)
    (he : (t.advance p).controller.phase.isTerminal = true) : BrokeOff drv s q (t.advance p) := by
  cases hr : t.channel.refusal? with
  | none =>
    rw [advance_of_room p hr, controller_post, ht] at he
    simp at he
  | some reason =>
    rw [advance_of_refusal p hr]
    exact .fail (.unqueued q reason hg (by rwa [← hc])) t

theorem brokeOff_initialise {device : DeviceHandle} (hb : s.controller.boundDevice = some device)
    (he : ((s.setPhase .attached).initialise drv device).controller.phase.isTerminal = true) :
    BrokeOff drv s (.nextPhase .attached) ((s.setPhase .attached).initialise drv device) := by
  unfold initialise at he ⊢
  rw [exchange_eq] at he ⊢
  generalize hans : drv.init (s.setPhase .attached).state.driver device = answer at he ⊢
  obtain ⟨driver, result⟩ := answer
  have hinit : (drv.init s.state.driver device).2 = result := congrArg Prod.snd hans
  cases result with
  | error cause => exact .fail (.uninitialised device cause hb hinit) _
  | ok target =>
    exact brokeOff_advance (.initialised device target hb hinit) rfl
      (by simp [Controller.startOver, Controller.resetCounters, Phase.isTerminal]) he

theorem brokeOff_start {target : ClassHandle} {request : ClassCall} {length : Nat}
    (hact : s.controller.action p = .start request length)
    (hl : s.controller.liveClass = some target)
    (he : ((s.setPhase p).start drv target request length).controller.phase.isTerminal = true) :
    BrokeOff drv s (.nextPhase p) ((s.setPhase p).start drv target request length) := by
  have hp := Controller.isTerminal_of_action hact
  have hsame : (s.setPhase p).answerTo drv target request = s.answerTo drv target request := by
    simp [answerTo]
  rw [start_eq, hsame] at he ⊢
  cases hans : (s.answerTo drv target request).result with
  | ok =>
    simp only [hans, controller_deliverAll, controller_handOver] at he
    simp [Controller.begin, hp] at he
  | error cause => exact .fail (.refused p target request length cause hact hl hans) _

/-- A step to a phase ends the upgrade if it breaks off or the phase is one in which an upgrade
stays. -/
theorem ends_step (hs : s.controller.phase.isTerminal = false)
    (he : (s.step drv p).controller.phase.isTerminal = true) :
    BrokeOff drv s (.nextPhase p) (s.step drv p) ∨
      p = .complete ∧ (s.step drv p).controller =
        { s.controller.enter .complete with liveClass := none } ∨
      p = .error ∧ (s.step drv p).controller = s.controller.enter .error := by
  unfold step at he ⊢
  cases ho : s.controller.objection? p with
  | some objection => simp [ho, hs] at he
  | none =>
    simp only [ho] at he ⊢
    by_cases hu : p = .unattached
    · simp [hu, Phase.isTerminal] at he
    rw [if_neg hu] at he ⊢
    have hstart : ∀ request length, s.controller.action p = .start request length →
        BrokeOff drv s (.nextPhase p) ((s.setPhase p).perform drv (s.controller.action p)) := by
      intro request length hact
      obtain ⟨target, hl⟩ := Controller.live_of_action hact ho
      have hperform : (s.setPhase p).perform drv (s.controller.action p) =
          (s.setPhase p).start drv target request length := by
        simp [perform, hact, hl]
      rw [hperform] at he ⊢
      exact brokeOff_start hact hl he
    cases p with
    | unattached => exact absurd rfl hu
    | attached =>
      cases hb : s.controller.boundDevice with
      | none =>
        simp only [Controller.action, hb]
        exact .inl (.fail (.noDevice hb) _)
      | some device =>
        simp only [Controller.action, hb] at he ⊢
        exact .inl (brokeOff_initialise hb he)
    | setInterface =>
      cases hb : s.controller.boundInterface with
      | none =>
        simp only [Controller.action, hb]
        exact .inl (.fail (.noInterface hb) _)
      | some interface =>
        exact .inl (hstart (.setInterface interface 0) 0 (by simp [Controller.action, hb]))
    | readBack =>
      by_cases hc : s.controller.chunkLength = 0
      · simp only [Controller.action, hc, if_true, perform] at he ⊢
        exact .inl (brokeOff_advance (.skipped hc) rfl (by simp [Phase.isTerminal]) he)
      · exact .inl (hstart _ _ (if_neg hc))
    | complete =>
      refine .inr (.inl ⟨rfl, ?_⟩)
      exact (finish_becomes drv (s.setPhase .complete)).controller
    | error => exact .inr (.inr ⟨rfl, rfl⟩)
    | getStatus | transfer | zeroLengthTransfer | getStatusRead | detach | checkStatus =>
      exact .inl (hstart _ _ rfl)

theorem ends_complete {x : Completion} {r : Reply} (hc : s.controller.Consistent)
    (hs : s.controller.phase.isTerminal = false)
    (he : (s.complete x r).controller.phase.isTerminal = true) :
    BrokeOff drv s (.completed x r) (s.complete x r) := by
  cases hx : s.controller.awaited? x.ticket with
  | none => simp [complete, hx, hs] at he
  | some op =>
    have hissued := hc.issued op (Controller.awaited?_eq_some_iff.mp hx).2.1
    cases hv : (s.controller.conclude op x.operation r).next with
    | ok p =>
      rw [complete_of_ok hx hv] at he ⊢
      refine brokeOff_advance (.advanced x r op p hx hv) (channel_settled ..) ?_ he
      rw [controller_settled, (s.controller.conclude_alike op x.operation r).phase, hs]
    | error cause =>
      rw [complete_of_error hx hv]
      have hdoomed := (Controller.conclude_next_eq_error_iff (by simp [hissued])).mp hv
      exact .fail (.doomed x r op cause hx hdoomed) _

theorem ends_take (hc : s.controller.Consistent) (hb : ¬Bereft s)
    (hs : s.controller.phase.isTerminal = false)
    (he : (take drv s q).controller.phase.isTerminal = true) :
    Ending drv s q (take drv s q).controller := by
  have hfailed : BrokeOff drv s q (take drv s q) → Ending drv s q (take drv s q).controller := by
    rintro ⟨c, cause, hbreaks, heq⟩
    rw [heq]
    exact .failed q c cause (.inr ⟨hb, hbreaks⟩)
  cases q with
  | nextPhase p =>
    rcases ends_step hs he with h | ⟨rfl, heq⟩ | ⟨rfl, heq⟩
    · exact hfailed h
    · exact heq ▸ .completed hb
    · exact heq ▸ .demanded hb
  | bind b =>
    have hphase : (take drv s (.bind b)).controller.phase = s.controller.phase := by
      simp only [take, bind]
      split <;> rfl
    rw [hphase, hs] at he
    simp at he
  | completed x r => exact hfailed (ends_complete hc hs he)

/-- Every request at which an upgrade ends does that in one of the three ways. -/
theorem ends_handle (hc : s.controller.Consistent) (hs : s.controller.phase.isTerminal = false)
    (he : (controller (handle drv s q).1).phase.isTerminal = true) :
    Ending drv s q (controller (handle drv s q).1) := by
  by_cases hb : Bereft s
  · -- The failure comes with the loss, and the request itself changes nothing any more.
    rcases (outcome_handle drv s q).of_failed (by simp [noticed_of_bereft hb])
        (idle_noticed hb q) with ⟨-, n, ht⟩ | ⟨-, ht⟩
    · rw [ht, controller_note, noticed_of_bereft hb, controller_fail]
      exact .failed q _ _ (.inl ⟨hb, rfl⟩)
    · rw [ht] at he
      simp [Phase.isTerminal] at he
  · obtain ⟨hu, -⟩ := noticed_of_not_bereft hb q
    have hfresh : ¬Bereft (s.noticed q) := by
      rintro ⟨op, -, hlost⟩
      simp [lost_noticed] at hlost
    have hends : Ending drv (s.noticed q) q (take drv (s.noticed q) q).controller :=
      ends_take (by rwa [hu.controller]) hfresh (by rwa [hu.controller]) he
    show Ending drv s q (take drv (s.noticed q) q).controller
    generalize (take drv (s.noticed q) q).controller = d at hends
    cases hends with
    | failed q c cause hf =>
      have hbreaks : BreaksOff drv (s.noticed q) q cause :=
        (hf.resolve_left fun h => hfresh h.1).2
      exact .failed q c cause (.inr ⟨hb, hbreaks.untouched hu⟩)
    | completed => exact hu.controller ▸ .completed hb
    | demanded => exact hu.controller ▸ .demanded hb

/-! ## An upgrade that has ended -/

variable {image : Bytes} {config : Config}

/-- The upgrade in the second session ended at a request that was handled in the first one, and the
device has not been let go of since. -/
structure EndedBy (drv : Driver δ) (image : Bytes) (config : Config) (s : Session δ κ) (q : Request)
    (t : Session δ κ) : Prop where
  served : Served drv image config s
  running : s.controller.phase.isTerminal = false
  ended : (controller (handle drv s q).1).phase.isTerminal = true
  since : ∃ qs, Disturbed drv (handle drv s q).1 qs t ∧ ∀ p ∈ qs, p ≠ .nextPhase .unattached

theorem EndedBy.ending (h : EndedBy drv image config s q t) :
    Ending drv s q t.controller := by
  obtain ⟨qs, hd, hqs⟩ := h.since
  have hidle := (Served.handle q h.served).consistent.idle_of_terminal h.ended
  rw [(hd.of_ended h.ended hidle hqs).1]
  exact ends_handle h.served.consistent h.running h.ended

/-- Where an upgrade has ended, there is a request at which it did. -/
theorem Served.exists_endedBy (h : Served drv image config t)
    (ht : t.controller.phase.isTerminal = true) : ∃ s q, EndedBy drv image config s q t := by
  induction h with
  | start driver channel => simp [Upgrade.new, Controller.new, Phase.isTerminal] at ht
  | elsewhere _ hst ih =>
    rw [hst.controller] at ht
    obtain ⟨s, q, hended⟩ := ih ht
    obtain ⟨qs, hd, hqs⟩ := hended.since
    exact ⟨s, q, { hended with since := ⟨qs, .elsewhere hd hst, hqs⟩ }⟩
  | @handle s q hserved ih =>
    cases hs : s.controller.phase.isTerminal with
    | false => exact ⟨s, q, hserved, hs, ht, [], .start, by simp⟩
    | true =>
      obtain ⟨s', q', hended⟩ := ih hs
      obtain ⟨qs, hd, hqs⟩ := hended.since
      refine ⟨s', q', { hended with since := ⟨qs ++ [q], .handle q hd, ?_⟩ }⟩
      intro p hp
      rcases List.mem_append.mp hp with hp | hp
      · exact hqs p hp
      · rintro rfl
        obtain rfl := List.mem_singleton.mp hp
        simp [handle_unattached, Phase.isTerminal] at ht

/-- The upgrade in the second session, which ended at a request in the first, left nothing behind,
and if it ended in ERROR the cause is kept. -/
structure Tidy (drv : Driver δ) (s : Session δ κ) (q : Request) (t : Session δ κ) : Prop where
  buffer : t.controller.readback = none
  balanced : t.controller.readbackAllocations = t.controller.readbackFrees
  idle : t.controller.inFlight = none
  cause : t.controller.phase = .error →
    ∃ cause, Fails drv s q cause ∧ t.controller.lastError = some cause

/-- Whatever was requested and answered, let the upgrade have ended. Then nothing is in flight, the
counts of read-back buffers agree exactly if none is held, and there is a request at which it ended.
It is tidy in all but two cases: the step to ERROR was requested, or the step to COMPLETE while a
buffer was held. Even then it is, if it failed by the loss of a completion first. -/
theorem Served.tidy_iff (h : Served drv image config t)
    (ht : t.controller.phase.isTerminal = true) :
    t.controller.inFlight = none ∧
      (t.controller.readbackAllocations = t.controller.readbackFrees ↔
        t.controller.readback = none) ∧
      (∃ s q, EndedBy drv image config s q t) ∧
      ∀ s q, EndedBy drv image config s q t →
        (Tidy drv s q t ↔ Bereft s ∨ q ≠ .nextPhase .error ∧
          (q = .nextPhase .complete → s.controller.readback = none)) := by
  have hidle := h.consistent.idle_of_terminal ht
  have hcounts : t.controller.readbackAllocations = t.controller.readbackFrees ↔
      t.controller.readback = none := by
    have hbalanced : t.controller.readbackAllocations =
      t.controller.readbackFrees + if t.controller.readback.isSome then 1 else 0 := h.balanced
    cases hr : t.controller.readback <;> simp [hbalanced, hr]
  refine ⟨hidle, hcounts, h.exists_endedBy ht, fun s q hended => ?_⟩
  have hends := hended.ending
  generalize hd : t.controller = d at hends
  cases hends with
  | failed q c cause hf =>
    have hbuffer : t.controller.readback = none := by
      rw [hd, Controller.readback_enter_of_ne _ _ (by simp), Controller.readback_recordFailure]
    refine iff_of_true ⟨hbuffer, hcounts.mpr hbuffer, hidle, fun _ => ⟨cause, hf, ?_⟩⟩ ?_
    · simp [hd]
    · refine hf.imp And.left fun ⟨_, hbreaks⟩ => ⟨?_, ?_⟩
      · rintro rfl
        simpa [Phase.isTerminal] using hbreaks.isTerminal_eq_false
      · rintro rfl
        simpa [Phase.isTerminal] using hbreaks.isTerminal_eq_false
  | completed hb =>
    have hbuffer : t.controller.readback = s.controller.readback := by
      rw [hd]
      exact Controller.readback_enter_of_ne _ _ (by simp)
    have hphase : t.controller.phase = .complete := by simp [hd]
    simp only [hb, false_or, ne_eq, Request.nextPhase.injEq, reduceCtorEq, not_false_eq_true,
      true_and, forall_const]
    rw [← hbuffer]
    exact ⟨Tidy.buffer, fun hn => ⟨hn, hcounts.mpr hn, hidle, by simp [hphase]⟩⟩
  | demanded hb =>
    refine iff_of_false (fun htidy => ?_) (by simp [hb])
    obtain ⟨cause, hf, -⟩ := htidy.cause (by simp [hd])
    simpa [Phase.isTerminal] using (hf.resolve_left fun hl => hb hl.1).2.isTerminal_eq_false

end Session

namespace Installation

/-- While the last byte of the image comes back, another task asks for a step to some phase. -/
def urged (p : Phase) : Installation Nat Unit :=
  (((readingBack.move obliging (.complete ⟨5, .upload⟩ (.ok #[7]))).send (.nextPhase p)
    none).1).moves obliging [.work]

theorem shared_urged (p : Phase) (h : Plays obliging (fun _ => True) ((readingBack.move obliging
      (.complete ⟨5, .upload⟩ (.ok #[7]))).send (.nextPhase p) none).1 [.work]) :
    Shared obliging (fun _ => True) (blank 7) (urged p) := by
  have hreading : Shared obliging (fun _ => True) (blank 7) readingBack :=
    .of_plays (by decide +kernel)
  exact ((hreading.move _ (by decide +kernel)).send _ none trivial).trans (.of_plays h)

/-- The worker comes to the request, and to what was queued behind it. -/
def steppedIn (p : Phase) : Installation Nat Unit := (urged p).moves obliging [.work, .work]

/-- The upgrade can be in COMPLETE with the buffer held, and in ERROR with the buffer held and no
cause kept. -/
theorem exists_untidy :
    Shared obliging (fun _ => True) (blank 7) (steppedIn .complete) ∧
      (steppedIn .complete).controller.phase = .complete ∧
      (steppedIn .complete).controller.readback = some #[7] ∧
      (steppedIn .complete).controller.readbackAllocations = 1 ∧
      (steppedIn .complete).controller.readbackFrees = 0 ∧
      Shared obliging (fun _ => True) (blank 7) (steppedIn .error) ∧
      (steppedIn .error).controller.phase = .error ∧
      (steppedIn .error).controller.readback = some #[7] ∧
      (steppedIn .error).controller.lastError = none :=
  ⟨(shared_urged _ (by decide +kernel)).trans (.of_plays (by decide +kernel)), by decide +kernel,
    by decide +kernel, by decide +kernel, by decide +kernel,
    (shared_urged _ (by decide +kernel)).trans (.of_plays (by decide +kernel)), by decide +kernel,
    by decide +kernel, by decide +kernel⟩

/-- When the worker comes to the step to COMPLETE the upgrade ends untidily, and when a byte that
came back changed is found it ends tidily. -/
theorem urged_tidy_iff :
    ¬Session.Tidy obliging (urged .complete).session.dropOldest (.nextPhase .complete)
        (Session.handle obliging (urged .complete).session.dropOldest (.nextPhase .complete)).1 ∧
      Session.Tidy obliging (readBackByte 9).session (.completed ⟨6, .getStatus⟩ (.ok wellStatus))
        (Session.handle obliging (readBackByte 9).session
          (.completed ⟨6, .getStatus⟩ (.ok wellStatus))).1 := by
  have hurged : Session.Served obliging #[7] .standard (urged .complete).session.dropOldest :=
    .elsewhere (Shared.served (shared_urged _ (by decide +kernel))) (.dropOldest _)
  have hback : Session.Served obliging #[7] .standard (readBackByte 9).session :=
    Shared.served ((Shared.of_plays (by decide +kernel)).trans (.of_plays (by decide +kernel)))
  refine ⟨fun htidy => ?_, ?_⟩
  · have hended : Session.EndedBy obliging #[7] .standard (urged .complete).session.dropOldest
        (.nextPhase .complete) _ :=
      ⟨hurged, by decide +kernel, by decide +kernel, [], .start, by simp⟩
    have hidle : ¬(urged .complete).session.dropOldest.Bereft :=
      Session.not_bereft_of_idle (by decide +kernel)
    obtain ⟨-, -, -, hiff⟩ := (Session.Served.handle _ hurged).tidy_iff hended.ended
    have hnone := (((hiff _ _ hended).mp htidy).resolve_left hidle).2 rfl
    exact absurd hnone (by decide +kernel)
  · have hended : Session.EndedBy obliging #[7] .standard (readBackByte 9).session
        (.completed ⟨6, .getStatus⟩ (.ok wellStatus)) _ :=
      ⟨hback, by decide +kernel, by decide +kernel, [], .start, by simp⟩
    obtain ⟨-, -, -, hiff⟩ := (Session.Served.handle _ hback).tidy_iff hended.ended
    exact (hiff _ _ hended).mpr (.inr ⟨by simp, by simp⟩)

end Installation

end FirmwareUpgrade
