import FirmwareUpgrade.Proofs.Faults

/-!
# The first fault ends the upgrade

A simulation with planted faults goes through the calls of its trace until the first fault shows, and
ends with the failure that this amounts to. If none shows it is complete. Between two requests the
device was just plugged in, the step to a phase is due, the completion of an operation waits, or all
is over (`Trial`); every request that is handled keeps this up.
-/
namespace FirmwareUpgrade

namespace Controller

variable {c : Controller} {t : Task} {target : ClassHandle} {m : Bytes} {p q : Phase} {i j : Nat}
  {request : ClassCall} {op : InFlight} {r : Reply} {v : Option UpgradeError}

theorem Succeeds.lastError_eq {d : Controller} {data : Bytes} {equal : Bool}
    (h : Succeeds c op data p d equal) : d.lastError = c.lastError := by
  cases h <;> simp [resetCounters, storeReadback]

/-- The step to phase `p` is due, with `i` blocks through, on a device that gives back `m` in all. -/
structure Poised (c : Controller) (t : Task) (target : ClassHandle) (m : Bytes) (p : Phase)
    (i : Nat) : Prop extends c.Attended t target where
  phase : c.phase ≠ .unattached ∧ c.phase.isTerminal = false
  idle : c.inFlight = none
  lastError : c.lastError = none
  leg : ∃ done compared, c.Leg t target .setInterface done compared p i ∧ Returned m t done p i

/-- An operation is in flight, and `v` is what is to be made of the reply. Otherwise it leads to phase
`q` with `j` blocks through. -/
structure Expecting (c : Controller) (t : Task) (target : ClassHandle) (m : Bytes) (op : InFlight)
    (r : Reply) (v : Option UpgradeError) (q : Phase) (j : Nat) : Prop
    extends c.Attended t target where
  inFlight : c.inFlight = some op
  lastError : c.lastError = none
  leg : ∃ done compared request i, c.Leg t target .setInterface done compared c.phase i ∧
    Returned m t done c.phase i ∧ t.Step c.phase i request q j ∧
    c.action c.phase = .start request op.length ∧ op.operation = request.operation ∧
    t.Judged m c.phase i request r v
  buffer : c.phase = .readBack ∨ c.phase = .getStatusRead → c.readback.isSome

theorem Poised.expect (h : c.Poised t target m p i) (hs : t.Step p i request q j)
    (ha : c.action p = .start request op.length) (hop : op.operation = request.operation)
    (hj : t.Judged m p i request r v) (ticket : UInt32) :
    Expecting { c.enter p with nextTicket := ticket, inFlight := some op } t target m op r v q j := by
  obtain ⟨done, compared, hleg, hreturned⟩ := h.leg
  have hphase : (c.enter p).phase = p := phase_enter c p
  refine ⟨{ h.toAttended.enter p with }, rfl, (lastError_enter c p).trans h.lastError,
    ⟨done, compared, request, i, ?_⟩, ?_⟩
  · dsimp only
    rw [hphase]
    refine ⟨hleg.enter.congr rfl rfl rfl rfl rfl rfl, hreturned, hs, ?_, hop, hj⟩
    exact (action_enter c p p).trans ha
  · dsimp only
    rw [hphase]
    exact hleg.buffered

/-- A reply that fits makes the next step due. -/
theorem Expecting.proceed (h : c.Expecting t target m op r none q j) (hm : m.size ≤ t.image.size)
    (operation : Operation) :
    (c.conclude op operation r).next = .ok q ∧
      (c.conclude op operation r).controller.Poised t target m q j := by
  obtain ⟨done, compared, request, i, hleg, hreturned, hs, ha, -, hjudged⟩ := h.leg
  cases hjudged with
  | @fits data hfits =>
    obtain ⟨hnext, done', compared', hleg', hreturned'⟩ :=
      hleg.proceed rfl hs ha h.buffer hreturned hm hfits operation
    have halike := conclude_alike c op operation (.ok data)
    have hattended : Attended { c with inFlight := none } t target :=
      ⟨h.live, h.host, h.device, h.interface⟩
    have hsucceeds : Succeeds { c with inFlight := none } op data q _ _ := succeeds_of_ok hnext
    refine ⟨hnext, hattended.alike halike, ?_, halike.inFlight, hsucceeds.lastError_eq.trans h.lastError,
      ⟨done', compared', hleg', hreturned'⟩⟩
    rw [halike.phase]
    exact ⟨hs.phase.1, hs.phase.2.2⟩

/-- Any other reply ends the upgrade. -/
theorem Expecting.fail {cause : UpgradeError} (h : c.Expecting t target m op r (some cause) q j)
    (hm : m.size ≤ t.image.size) : (c.conclude op op.operation r).next = .error cause := by
  obtain ⟨done, compared, request, i, hleg, hreturned, hs, ha, hop, hjudged⟩ := h.leg
  cases hjudged with
  | failed cause => rw [hop]; rfl
  | bad hp hfault => exact conclude_of_fault hfault op _ hp
  | @short data offset hp hless hoffset =>
    obtain ⟨hlength, htransferred⟩ : op.length = (t.block i).size ∧ c.transferred = i * t.blockSize := by
      generalize hphase : c.phase = p at hp hs hleg ha
      subst hp
      cases hs with
      | readBack hi =>
        have hlt := t.lt_blockCount_iff.mp hi
        have htr := hleg.transferred
        rw [← hleg.image] at htr
        have hz : c.chunkLength ≠ 0 := fun hz => by
          have hle := hleg.chunkLength_eq_zero_iff.mp hz
          omega
        rw [action, if_neg hz] at ha
        exact ⟨(Action.start.inj ha).2.symm.trans hleg.chunkLength_eq, by omega⟩
    have hshort : data.size < op.length := by omega
    simp [conclude, succeed, hp, takeChunk, storeReadback, hshort, hoffset, htransferred]
  | @differs data status offset hp hi hstatus hcheck hdiff =>
    subst hi
    rw [hp] at hleg hreturned
    have hleg' : Leg { c with inFlight := none, lastStatus := some status } t target .setInterface done
        compared .getStatusRead t.blockCount := hleg.congr rfl rfl rfl rfl rfl rfl
    have hmismatch : mismatch { c with inFlight := none, lastStatus := some status } = some offset :=
      (hleg'.mismatch_eq (h.buffer (.inr hp)) hreturned hm).trans hdiff
    obtain ⟨notices, hv⟩ := succeed_getStatusRead (c := { c with inFlight := none }) hp
      (hleg.remaining_eq_zero_iff.mpr (Nat.le_refl _)) hstatus hcheck op
    simp only [conclude, hv, verify, hmismatch]

/-- An upgrade that ended in failure, with nothing left in hand. -/
structure Failed (c : Controller) (cause : UpgradeError) : Prop where
  phase : c.phase = .error
  lastError : c.lastError = some cause
  idle : c.inFlight = none
  buffer : c.readback = none

end Controller

namespace Session

variable {κ : Type} {s u : Rig κ} {t : Task} {f : Faults} {target : ClassHandle} {p q : Phase}
  {i j : Nat} {request : ClassCall} {b : Accelerator Completion} {x : Completion} {r : Reply}
  {cause : UpgradeError}

theorem failed_fail (s : Rig κ) (cause : UpgradeError) : (s.fail cause).controller.Failed cause := by
  rw [controller_fail]
  exact ⟨rfl, by simp, by simp, by simp [Controller.readback_enter_of_ne]⟩

/-! ## One operation -/

/-- The driver completes an operation before the call returns. -/
theorem start_of_called {notices : List Notice} (length : Nat)
    (h : s.state.driver.submit target request ⟨s.controller.nextTicket, request.operation⟩ =
      (b, ⟨.ok (), notices, [(x, r)]⟩)) (hroom : s.channel.Roomy) (hreq : s.requests = []) :
    (s.start Accelerator.driver target request length).controller =
        (s.controller.begin request.operation length).1 ∧
      (s.start Accelerator.driver target request length).state.driver = b ∧
      (s.start Accelerator.driver target request length).state.lost = s.state.lost ∧
      (s.start Accelerator.driver target request length).channel.Roomy ∧
      (s.start Accelerator.driver target request length).requests = [.completed x r] := by
  have hanswer : s.answerTo Accelerator.driver target request = ⟨.ok (), notices, [(x, r)]⟩ :=
    congrArg Prod.snd h
  obtain ⟨u, hu, huc, hud, hul, hur, huq⟩ :=
    s.handOver_taken Accelerator.driver target request length
  rw [← hur] at hroom
  rw [hreq] at huq
  have hrefusal := refusal?_eq_none hroom huq
  rw [start_eq, hanswer, hu]
  simp only [deliverAll_cons, deliver_of_room x r hrefusal]
  refine ⟨huc, hud.trans (congrArg Prod.fst h), hul, hroom.send _, ?_⟩
  refine (requests_post (s := u.record (.completed x r)) _ hrefusal).trans ?_
  rw [requests_record, huq]
  rfl

/-- The driver refuses an operation. -/
theorem start_of_refused {refusal : UsbError} (length : Nat)
    (h : s.state.driver.submit target request ⟨s.controller.nextTicket, request.operation⟩ =
      (b, .refused refusal)) :
    (s.start Accelerator.driver target request length).controller.Failed
        (.classCall request.operation refusal) ∧
      (s.start Accelerator.driver target request length).state.driver = b ∧
      (s.start Accelerator.driver target request length).state.lost = s.state.lost ∧
      (s.start Accelerator.driver target request length).channel = s.channel := by
  have hanswer : s.answerTo Accelerator.driver target request = .refused refusal :=
    congrArg Prod.snd h
  obtain ⟨u, hu, -, hud, hul, hur, -⟩ :=
    s.handOver_taken Accelerator.driver target request length
  rw [start_eq, hanswer, hu]
  exact ⟨failed_fail _ _, hud.trans (congrArg Prod.fst h), hul, hur⟩

/-! ## The course of a trial -/

/-- How a simulation with these faults stands between two requests. -/
inductive Standing (s : Rig κ) (t : Task) (f : Faults) : Prop
  | plugged : s.controller = .new t.image t.config → s.state.driver = .new f false →
    s.requests = [.bind accelerator, .nextPhase .attached] → Standing s t f
  | bound : s.controller = acquainted t → s.state.driver = .new f false →
    s.requests = [.nextPhase .attached] → Standing s t f
  | due (target : ClassHandle) (p : Phase) (i : Nat) :
    s.controller.Poised t target (t.kept.flawed f.corruptOffset) p i →
    s.state.driver.Bears t f target p i → s.requests = [.nextPhase p] → Standing s t f
  | called (target : ClassHandle) (op : InFlight) (r : Reply) (v : Option UpgradeError) (q : Phase)
    (j : Nat) : s.controller.Expecting t target (t.kept.flawed f.corruptOffset) op r v q j →
    s.state.driver.After t f target q j v →
    s.requests = [.completed ⟨op.ticket, op.operation⟩ r] → Standing s t f
  | failed (cause : UpgradeError) : s.controller.Failed cause → s.state.driver.Stopped t f cause →
    s.requests = [] → Standing s t f
  | done : s.controller.phase = .complete → s.controller.lastError = none →
    s.controller.inFlight = none → s.state.driver.Spared t f → s.requests = [] → Standing s t f

/-- A simulation in which no completion was lost and there is room for the next request. -/
structure Trial (s : Rig κ) (t : Task) (f : Faults) : Prop where
  lost : s.state.lost = none
  room : s.channel.Roomy
  standing : s.Standing t f

/-- The class driver cannot be initialised. -/
theorem initialise_of_error {device : DeviceHandle} {refusal : UsbError}
    (h : s.state.driver.init device = (b, .error refusal)) :
    (s.initialise Accelerator.driver device).controller.Failed (.classInit refusal) ∧
      (s.initialise Accelerator.driver device).state.driver = b ∧
      (s.initialise Accelerator.driver device).state.lost = s.state.lost ∧
      (s.initialise Accelerator.driver device).channel = s.channel := by
  have hinit : Accelerator.driver.init s.state.driver device = (b, .error refusal) := h
  simp only [initialise, exchange_eq, hinit]
  exact ⟨failed_fail _ _, rfl, rfl, rfl⟩

/-- The accelerator becomes known. -/
theorem trial_bind (hl : s.state.lost = none) (hroom : s.channel.Roomy)
    (hc : s.controller = .new t.image t.config) (hd : s.state.driver = .new f false)
    (hreq : s.requests = [.nextPhase .attached]) :
    Trial (handle Accelerator.driver s (.bind accelerator)).1 t f := by
  rw [handle_bind Accelerator.driver hl hc]
  refine ⟨hl, hroom, .bound ?_ hd hreq⟩
  exact congrArg (Controller.bind · Accelerator.host Accelerator.device Accelerator.interface) hc

/-- The class driver is initialised or fails to be. -/
theorem trial_attach (hl : s.state.lost = none) (hroom : s.channel.Roomy)
    (hc : s.controller = acquainted t) (hd : s.state.driver = .new f false) (hreq : s.requests = [])
    (hi : t.interface = Accelerator.interface) :
    Trial (handle Accelerator.driver s (.nextPhase .attached)).1 t f := by
  rw [handle_attach Accelerator.driver hl hc]
  obtain ⟨u, hu, huc, hud, hul, hur, huq⟩ := s.setPhase_taken (.nextPhase .attached) .attached
  rw [hu]
  rw [hc] at huc
  rw [hd] at hud
  rw [hl] at hul
  rw [← hur] at hroom
  rw [hreq] at huq
  rcases Accelerator.init_new (α := Completion) t f with ⟨b, hb, hstopped⟩ | ⟨b, hb, hbears⟩
  · rw [← hud] at hb
    obtain ⟨hc, hd, hl, hchannel⟩ := initialise_of_error hb
    refine ⟨hl.trans hul, hchannel ▸ hroom, .failed _ hc (hd ▸ hstopped) ?_⟩
    rw [requests, hchannel]
    exact huq
  · rw [← hud] at hb
    obtain ⟨hc, hd, hl, hroom, hrequests⟩ := initialise_of_ok Accelerator.driver hb hroom huq
    obtain ⟨hattended, hleg⟩ := leg_opening ⟨1⟩ hi
    rw [huc] at hc
    refine ⟨hl.trans hul, hroom, .due ⟨1⟩ .setInterface 0 ?_ (hd ▸ hbears) hrequests⟩
    rw [hc]
    exact ⟨hattended, ⟨by simp [Controller.startOver, Controller.resetCounters], rfl⟩, rfl, rfl,
      [], false, hleg, trivial⟩

/-- The step to a phase is made. -/
theorem handle_due {m : Bytes} (hl : s.state.lost = none) (h : s.controller.Poised t target m p i) :
    (handle Accelerator.driver s (.nextPhase p)).1 =
      ((s.record (.taken (.nextPhase p))).setPhase p).perform Accelerator.driver
        (s.controller.action p) := by
  obtain ⟨done, compared, hleg, -⟩ := h.leg
  exact handle_of_leg _ hl hleg h.phase h.live h.idle

/-- The operation of a phase is refused, or its completion waits. -/
theorem trial_issue {length : Nat} (hl : s.state.lost = none) (hroom : s.channel.Roomy)
    (h : s.controller.Poised t target (t.kept.flawed f.corruptOffset) p i)
    (hd : s.state.driver.Bears t f target p i) (hreq : s.requests = [])
    (hi : t.interface = Accelerator.interface) (ha : s.controller.action p = .start request length) :
    Trial (handle Accelerator.driver s (.nextPhase p)).1 t f := by
  obtain ⟨done, compared, hleg, -⟩ := h.leg
  obtain ⟨q, j, hs⟩ := hleg.step_of_start ha
  rw [handle_due hl h, ha]
  obtain ⟨u, hu, huc, hud, hul, hur, huq⟩ := s.setPhase_taken (.nextPhase p) p
  rw [hu]
  rw [hl] at hul
  rw [← hur] at hroom
  rw [hreq] at huq
  have hlive : u.controller.liveClass = some target := by
    rw [huc, Controller.liveClass_enter, h.live]
  simp only [perform, hlive]
  rw [← hud] at hd
  rcases hd.submit hs hi ⟨u.controller.nextTicket, request.operation⟩ with
    ⟨b, hb, hstopped⟩ | ⟨b, r, notices, v, hb, hjudged, hafter⟩
  · obtain ⟨hc, hd, hl, hchannel⟩ := start_of_refused length hb
    refine ⟨hl.trans hul, hchannel ▸ hroom, .failed _ hc (hd ▸ hstopped) ?_⟩
    rw [requests, hchannel]
    exact huq
  · obtain ⟨hc, hd, hl, hroom, hrequests⟩ := start_of_called length hb hroom huq
    refine ⟨hl.trans hul, hroom, .called target ⟨u.controller.nextTicket, request.operation, length⟩
      r v q j ?_ (hd ▸ hafter) hrequests⟩
    rw [hc, huc]
    exact h.expect hs ha rfl hjudged _

/-- Of an empty image nothing is read back. -/
theorem trial_skip (hl : s.state.lost = none) (hroom : s.channel.Roomy)
    (h : s.controller.Poised t target (t.kept.flawed f.corruptOffset) .readBack i)
    (hd : s.state.driver.Bears t f target .readBack i) (hreq : s.requests = [])
    (hc : s.controller.chunkLength = 0) (ha : s.controller.action .readBack = .skip .getStatusRead) :
    Trial (handle Accelerator.driver s (.nextPhase .readBack)).1 t f := by
  obtain ⟨done, compared, hleg, hreturned⟩ := h.leg
  have hz : (s.controller.enter .readBack).chunkLength = 0 := by
    rw [hleg.enter.chunkLength_eq, ← hleg.chunkLength_eq, hc]
  obtain ⟨rfl, hn, hleg'⟩ := hleg.enter.skip hz (hleg.buffered (.inl rfl))
  have hrefusal : ((s.record (.taken (.nextPhase .readBack))).setPhase .readBack).channel.refusal? =
      none := refusal?_eq_none hroom hreq
  rw [handle_due hl h, ha, perform, advance_of_room _ hrefusal]
  refine ⟨hl, hroom.send _, .due target .getStatusRead 0 ?_ ?_ ?_⟩
  · refine ⟨h.toAttended.enter .readBack, ?_, ?_, ?_, done, compared, hleg', hreturned⟩
    · exact ⟨by simp, by simp [Phase.isTerminal]⟩
    · exact (Controller.inFlight_enter ..).trans h.idle
    · exact (Controller.lastError_enter ..).trans h.lastError
  · have hcalls := hd.calls
    rw [t.agenda_readBack_empty hn] at hcalls
    exact { hd with calls := hcalls, sound := fun _ _ => hd.sound (by simp) (by simp), holds := hd.holds }
  · rw [requests_post _ hrefusal, requests_setPhase, requests_record, hreq]
    rfl

theorem trial_finish (hl : s.state.lost = none) (hroom : s.channel.Roomy)
    (h : s.controller.Poised t target (t.kept.flawed f.corruptOffset) .complete i)
    (hd : s.state.driver.Bears t f target .complete i) (hreq : s.requests = []) :
    Trial (handle Accelerator.driver s (.nextPhase .complete)).1 t f := by
  have hf := finish_becomes Accelerator.driver
    ((s.record (.taken (.nextPhase .complete))).setPhase .complete)
  have hdriver := accelerator_finish (s := (s.record (.taken (.nextPhase .complete))).setPhase .complete)
    (h.toAttended.enter .complete) hd.live
  rw [handle_due hl h, show s.controller.action .complete = .finish from rfl, perform]
  have hc := hf.controller
  rw [controller_setPhase, controller_record] at hc
  refine ⟨hf.lost.trans hl, hf.channel ▸ hroom, .done ?_ ?_ ?_ (hdriver ▸ hd.finish)
    (hf.requests_eq.trans hreq)⟩
  · rw [hc]
    rfl
  · rw [hc]
    exact h.lastError
  · rw [hc]
    exact h.idle

/-- The completion of an operation makes the next step due, or ends the upgrade. -/
theorem trial_complete {op : InFlight} {v : Option UpgradeError} (hl : s.state.lost = none)
    (hroom : s.channel.Roomy)
    (h : s.controller.Expecting t target (t.kept.flawed f.corruptOffset) op r v q j)
    (hd : s.state.driver.After t f target q j v) (hreq : s.requests = []) :
    Trial (handle Accelerator.driver s (.completed ⟨op.ticket, op.operation⟩ r)).1 t f := by
  have hm : (t.kept.flawed f.corruptOffset).size ≤ t.image.size := by
    rw [Bytes.size_flawed, t.size_kept]
    exact Nat.sub_le _ _
  have hx : s.controller.awaited? op.ticket = some op := by
    simp [Controller.awaited?, h.live, h.inFlight]
  rw [handle_of_lost_eq_none _ hl, take]
  cases v with
  | none =>
    obtain ⟨hnext, hpoised⟩ := h.proceed hm op.operation
    have hrefusal := refusal?_eq_none hroom hreq
    rw [complete_of_ok hx hnext, advance_of_room _ (by simpa using hrefusal)]
    refine ⟨by simpa using hl, by simpa using hroom.send _, .due target q j ?_ ?_ ?_⟩
    · simpa using hpoised
    · have hbears : s.state.driver.Bears t f target q j := hd
      simpa using hbears
    · rw [requests_post _ (by simpa using hrefusal), requests_settled, requests_record, hreq]
      rfl
  | some cause =>
    rw [complete_of_error hx (h.fail hm)]
    refine ⟨by simpa using hl, by simpa using hroom, .failed cause (failed_fail _ _) ?_ ?_⟩
    · have hstopped : s.state.driver.Stopped t f cause := hd
      simpa using hstopped
    · simpa using hreq

/-- Every request that is handled keeps the trial up. -/
theorem Trial.handle {request : Request} (h : Trial s t f) (hi : t.interface = Accelerator.interface)
    (hreq : s.requests = request :: s.dropOldest.requests) :
    Trial (Session.handle Accelerator.driver s.dropOldest request).1 t f := by
  have hl : s.dropOldest.state.lost = none := h.lost
  have hroom : s.dropOldest.channel.Roomy := h.room.dropOldest
  have hrest : ∀ {q qs}, s.requests = q :: qs → request = q ∧ s.dropOldest.requests = qs :=
    fun hr => by
      rw [hr, List.cons.injEq] at hreq
      exact ⟨hreq.1.symm, hreq.2.symm⟩
  cases h.standing with
  | plugged hc hd hr =>
    obtain ⟨rfl, hnone⟩ := hrest hr
    exact trial_bind hl hroom hc hd hnone
  | bound hc hd hr =>
    obtain ⟨rfl, hnone⟩ := hrest hr
    exact trial_attach hl hroom hc hd hnone hi
  | due target p i hc hd hr =>
    obtain ⟨rfl, hnone⟩ := hrest hr
    have hc' : s.dropOldest.controller.Poised t target (t.kept.flawed f.corruptOffset) p i := hc
    obtain ⟨done, compared, hleg, -⟩ := hc'.leg
    rcases hleg.action_cases with ⟨request, length, ha⟩ | ⟨rfl, hz, ha⟩ | ⟨hb, -⟩ | ⟨rfl, -⟩
    · exact trial_issue hl hroom hc' hd hnone hi ha
    · exact trial_skip hl hroom hc' hd hnone hz ha
    · rw [hc'.interface] at hb
      cases hb
    · exact trial_finish hl hroom hc' hd hnone
  | called target op r v q j hc hd hr =>
    obtain ⟨rfl, hnone⟩ := hrest hr
    exact trial_complete hl hroom hc hd hnone
  | failed _ _ _ hr | done _ _ _ _ hr => exact absurd (hreq.symm.trans hr) (List.cons_ne_nil _ _)

theorem Trial.works {n : Nat} (h : Trial s t f) (hi : t.interface = Accelerator.interface)
    (hw : Works Accelerator.driver s n u) : Trial u t f := by
  induction hw with
  | rest => exact h
  | work hreq _ ih => exact ih (h.handle hi hreq)

/-- How a trial ends. -/
inductive Ended (s : Rig κ) (t : Task) (f : Faults) : Prop
  | failed (cause : UpgradeError) : s.controller.Failed cause → s.state.driver.Stopped t f cause →
    Ended s t f
  | done : s.controller.phase = .complete → s.controller.lastError = none →
    s.controller.inFlight = none → s.state.driver.Spared t f → Ended s t f

theorem Trial.ended (h : Trial s t f) (hreq : s.requests = []) : Ended s t f := by
  cases h.standing with
  | plugged _ _ hr | bound _ _ hr | due _ _ _ _ _ hr | called _ _ _ _ _ _ _ _ hr =>
    exact absurd (hr.symm.trans hreq) (List.cons_ne_nil _ _)
  | failed cause hc hd _ => exact .failed cause hc hd
  | done hp he hi hd _ => exact .done hp he hi hd

/-- It does not matter for the end whether completions would be held back. -/
theorem Ended.congr (h : Ended s t f) {s' : Rig κ} (hc : s'.controller = s.controller)
    {deferred : Bool} (hd : s'.state.driver = { s.state.driver with deferred }) : Ended s' t f := by
  cases h with
  | failed cause hfailed hstopped =>
    refine .failed cause (hc ▸ hfailed) ?_
    rw [hd]
    exact ⟨hstopped.held, hstopped.place, hstopped.stalled, hstopped.compared⟩
  | done hp he hi hspared =>
    refine .done (hc ▸ hp) (hc ▸ he) (hc ▸ hi) ?_
    rw [hd]
    exact ⟨hspared.held, hspared.calls, hspared.clear, hspared.memory, hspared.whole⟩

end Session

namespace Simulation

open Session

theorem trial_plugged (t : Task) (f : Faults) :
    Trial (plugged t.image t.config f false).session t f := by
  obtain ⟨hs, hr⟩ := Installation.session_plug (κ := Empty) (Accelerator.new f false) t.image t.config
  have hroom := Installation.roomy_plug (κ := Empty) (Accelerator.new (α := Completion) f false)
    t.image t.config
  unfold plugged
  rw [hs] at hr hroom ⊢
  exact ⟨rfl, hroom, .plugged rfl rfl hr⟩

/-- Whether or not the accelerator holds its completions back, the simulation comes to an end with
nothing left to do. -/
theorem ended_run (t : Task) (hi : t.interface = Accelerator.interface) (f : Faults)
    (deferred : Bool) :
    Ended (run t.image t.config f deferred).session t f ∧
      (run t.image t.config f deferred).channel.waiting = [] := by
  obtain ⟨k, u, -, hworks, hrest, hfirst, hsecond⟩ := works_run t.image t.config f
  have hended := ((trial_plugged t f).works hi hworks).ended hrest
  cases deferred with
  | false =>
    have hreq : (run t.image t.config f false).session.requests = [] := by
      rw [Session.requests, hfirst.channel]
      exact hrest
    exact ⟨hended.congr hfirst.controller hfirst.driver, List.map_eq_nil_iff.mp hreq⟩
  | true =>
    exact ⟨hended.congr hsecond.controller_eq.symm hsecond.driver.eq,
      List.map_eq_nil_iff.mp (hsecond.requests_eq.symm.trans hrest)⟩

/-- A simulation with any planted faults, whose image has at most `2 ^ 16` blocks, is complete exactly
if the faults are harmless. It has then gone through its trace, and the device holds the image. If
the faults are not harmless it ends with the failure that is found first in the trace, and the trace
is cut behind the call with which it is found. When the download of a block stalls, the device holds
the image up to that block. Nothing is left to do in any case. -/
theorem run_ends_with_first_finding (image : Bytes) (config : Config) (f : Faults) (deferred : Bool)
    (hn : (Task.mk image config Accelerator.interface).blockCount ≤ 65536) :
    let t : Task := ⟨image, config, Accelerator.interface⟩
    let s := run image config f deferred
    (s.controller.phase = .complete ↔ f.Harmless t) ∧
      (s.controller.phase = .complete →
        s.controller.lastError = none ∧ s.driver.calls.toList = t.trace ∧ s.driver.memory = image) ∧
      (s.controller.phase ≠ .complete →
        s.controller.phase = .error ∧ s.controller.readback = none ∧
          ∃ k cause, t.FirstFinding f k cause ∧ s.controller.lastError = some cause ∧
            s.driver.calls.toList = t.trace.take (k + 1) ∧
            (cause = .transfer .dnload .stall → ∃ b, f.failBlock = some b ∧
              s.driver.memory = image.extract 0 (b.toNat * t.blockSize))) ∧
      s.controller.inFlight = none ∧ s.channel.waiting = [] ∧ s.driver.held = [] := by
  intro t s
  obtain ⟨hended, hwaiting⟩ : Ended s.session t f ∧ s.channel.waiting = [] :=
    ended_run t rfl f deferred
  clear_value s
  have hzero : t.overwritten = 0 := t.overwritten_eq_zero_iff.mpr hn
  rw [Faults.harmless_iff hn]
  cases hended with
  | done hp he hidle hspared =>
    refine ⟨⟨fun _ => hspared.clear, fun _ => hp⟩, fun _ => ⟨he, hspared.calls, ?_⟩,
      fun hne => absurd hp hne, hidle, hwaiting, hspared.held⟩
    rw [show s.driver.memory = t.kept from hspared.memory, t.kept_of_overwritten_eq_zero hzero]
  | failed cause hfailed hstopped =>
    obtain ⟨k, hcalls, hclear, hfound⟩ := hstopped.place
    have hfound := hfound.resolve_right fun hshort => hshort.1 hzero
    have hne : s.controller.phase ≠ .complete := by
      rw [show s.controller.phase = .error from hfailed.phase]
      simp
    refine ⟨⟨fun hp => absurd hp hne, fun hall => ?_⟩, fun hp => absurd hp hne,
      fun _ => ⟨hfailed.phase, hfailed.buffer, k, cause, ⟨hfound, hclear⟩, hfailed.lastError, hcalls,
        fun hstall => ?_⟩, hfailed.idle, hwaiting, hstopped.held⟩
    · rw [hall k] at hfound
      cases hfound
    · obtain ⟨i, hi, hb, hmemory⟩ := hstopped.stalled hstall
      have hi : i < 65536 := lt_of_lt_of_le hi hn
      refine ⟨_, hb, ?_⟩
      rw [show s.driver.memory = t.stored i from hmemory, t.stored_of_le (by omega),
        UInt16.toNat_ofNat', Nat.mod_eq_of_lt (by omega)]

/-- The second of three blocks stalls, on a device that would also corrupt the first byte. -/
theorem stall_found_first :
    let f : Faults := { Faults.none with failBlock := some 1, corruptOffset := some 0 }
    let t : Task := ⟨#[1, 2, 3, 4, 5], { Config.standard with chunkSize := 2 }, Accelerator.interface⟩
    t.blockCount = 3 ∧ t.FirstFinding f 5 (.transfer .dnload .stall) ∧
      (run t.image t.config f true).controller.phase = .error ∧
      (run t.image t.config f true).controller.lastError = some (.transfer .dnload .stall) ∧
      (run t.image t.config f true).driver.calls.toList = t.trace.take 6 ∧
      (run t.image t.config f true).driver.memory = #[1, 2] := by
  intro f t
  have hcount : t.blockCount = 3 := by decide +kernel
  have hplace : t.FirstFinding f 5 (.transfer .dnload .stall) := by
    unfold Task.FirstFinding
    decide +kernel
  obtain ⟨hiff, -, hfail, -⟩ :=
    run_ends_with_first_finding t.image t.config f true (hcount.trans_le (by decide))
  have hne : (run t.image t.config f true).controller.phase ≠ .complete := fun hp => by
    have hle := (hiff.mp hp).block 1 rfl
    rw [hcount] at hle
    exact absurd hle (by decide)
  obtain ⟨herror, -, k, cause, hfirst, hlast, hcalls, hmemory⟩ := hfail hne
  obtain ⟨rfl, rfl⟩ := hfirst.unique hplace
  obtain ⟨b, hb, hmemory⟩ := hmemory rfl
  obtain rfl : 1 = b := Option.some.inj hb
  exact ⟨hcount, hplace, herror, hlast, hcalls, hmemory.trans (by decide +kernel)⟩

end Simulation

end FirmwareUpgrade
