import FirmwareUpgrade.Proofs.Ledger
import FirmwareUpgrade.Proofs.Termination

/-!
# The number of bytes that count as verified

A simulation ends with a line that gives what the counter of the controller shows as the number of
bytes verified. Here the counter is followed along with the record, from one request to the next and
whether or not completions are held back (`Reckoned`): the step to a phase is due, an operation is
in flight, or all is over and counter and record agree as `Controller.Balanced` says. A successful
upgrade has set the counter back to zero, and one that fails before the device took the image still
counts what was sent.
-/
namespace FirmwareUpgrade

/-- A phase that is shown can only be the one in which the first operation will be issued. -/
theorem Attachment.observe_watch (a : Attachment) (p : Phase) :
    ∃ opening, a.observe (.watch p) = { a with opening } := by
  unfold observe
  dsimp only
  split
  · exact ⟨p, rfl⟩
  · exact ⟨a.opening, rfl⟩

namespace Session

variable {κ : Type} {s u : Rig κ} {t : Task} {target : ClassHandle} {p : Phase} {i length : Nat}
  {op : InFlight} {done : List Issue} {last : Issue} {request : ClassCall} {x : Completion}
  {r : Reply} {b : Accelerator Completion} {cause : UpgradeError} {notices : List Notice}
  {delivered : List (Completion × Reply)}

/-! ## The record of one operation -/

theorem attachment_setPhase_taken (s : Rig κ) (q : Request) (p : Phase) :
    ∃ opening, ((s.record (.taken q)).setPhase p).account.attachment =
      { s.account.attachment with opening } := by
  obtain ⟨opening, ho⟩ := s.account.attachment.observe_watch p
  refine ⟨opening, ?_⟩
  rw [account_setPhase, account_record]
  exact ho

theorem attachment_fail (s : Rig κ) (cause : UpgradeError) :
    ∃ opening, (s.fail cause).account.attachment = { s.account.attachment with opening } := by
  obtain ⟨opening, ho⟩ := s.account.attachment.observe_watch .error
  refine ⟨opening, ?_⟩
  rw [account_fail]
  exact ho

/-- What the controller makes of a completion concerns the record only where it compares. -/
theorem settled_taken (s : Rig κ) (op : InFlight) (x : Completion) (r : Reply) :
    ∃ v, (s.record (.taken (.completed x r))).settled op x r = v ∧
      v.controller = (s.controller.conclude op x.operation r).controller ∧
      v.account.attachment =
        { s.account.attachment with
          compared := s.account.attachment.compared ||
            decide (Notice.verified ∈ (s.controller.conclude op x.operation r).notices) } ∧
      v.state.lost = s.state.lost ∧ v.channel = s.channel ∧
      v.state.driver = s.state.driver ∧ v.requests = s.requests := by
  refine ⟨_, rfl, controller_settled, ?_, lost_settled, channel_settled, driver_settled,
    requests_settled⟩
  rw [account_settled, account_record]
  rfl

/-- A failure leaves the counter and the operations of the record as they are. -/
theorem balanced_fail (h : s.controller.Stranded s.account.attachment) (cause : UpgradeError) :
    (s.fail cause).controller.Balanced t (s.fail cause).account.attachment := by
  obtain ⟨opening, ho⟩ := attachment_fail s cause
  rw [ho, controller_fail]
  exact .failed rfl (h.congr (by simp) rfl rfl)

/-- An operation is issued, whether or not it is accepted. -/
theorem attachment_handOver (s : Rig κ) (target : ClassHandle) (request : ClassCall)
    (length : Nat) :
    (s.handOver Accelerator.driver target request length).account.attachment =
      { s.account.attachment with
        issues := s.account.attachment.issues ++
          [⟨target, request, ⟨s.controller.nextTicket, request.operation⟩,
            (s.answerTo Accelerator.driver target request).result.isOk, none⟩] } := by
  rw [account_handOver, Account.add_call]
  rfl

/-! ## Between two requests -/

/-- The record of the operations on an accelerator up to phase `p`, with `i` blocks through: they
all succeeded, and the controller stands where they lead. -/
structure Booked (s : Rig κ) (t : Task) (target : ClassHandle) (done : List Issue) (p : Phase)
    (i : Nat) : Prop extends s.controller.Attended t target where
  granted : s.state.driver.liveClass = some target
  recorded : s.account.attachment.target = some target
  leg : s.controller.Leg t target .setInterface done s.account.attachment.compared p i
  aligned : t.Aligned p i

/-- An operation is in flight behind those that are done, and has no reply in the record yet unless
its completion was called. -/
structure Airborne (s : Rig κ) (t : Task) (target : ClassHandle) (op : InFlight) (done : List Issue)
    (last : Issue) (i : Nat) : Prop extends s.Booked t target done s.controller.phase i where
  inFlight : s.controller.inFlight = some op
  issues : s.account.attachment.issues = done ++ [last]
  addressed : last.target = target
  accepted : last.accepted = true
  completion : last.completion = ⟨op.ticket, op.operation⟩
  action : s.controller.action s.controller.phase = .start last.request op.length
  buffer : s.controller.phase = .readBack → s.controller.readback.isSome

/-- How the record and the counter stand between two requests. -/
inductive Reckoning (s : Rig κ) (t : Task) : Prop
  | plugged : s.controller = .new t.image t.config → s.account.attachment.issues = [] →
    s.requests = [.bind accelerator, .nextPhase .attached] → s.state.driver.held = [] →
    Reckoning s t
  | bound : s.controller = acquainted t → s.account.attachment.issues = [] →
    s.requests = [.nextPhase .attached] → s.state.driver.held = [] → Reckoning s t
  | due (target : ClassHandle) (p : Phase) (i : Nat) :
    s.Booked t target s.account.attachment.issues p i →
    s.controller.phase ≠ .unattached ∧ s.controller.phase.isTerminal = false →
    s.controller.inFlight = none → s.requests = [.nextPhase p] → s.state.driver.held = [] →
    Reckoning s t
  | held (target : ClassHandle) (op : InFlight) (done : List Issue) (last : Issue) (i : Nat)
    (r : Reply) : s.Airborne t target op done last i → last.reply = none → s.requests = [] →
    s.state.driver.held = [(⟨op.ticket, op.operation⟩, r)] → Reckoning s t
  | called (target : ClassHandle) (op : InFlight) (done : List Issue) (last : Issue) (i : Nat)
    (r : Reply) : s.Airborne t target op done last i → last.reply = some r →
    s.requests = [.completed ⟨op.ticket, op.operation⟩ r] → s.state.driver.held = [] →
    Reckoning s t
  | ended : s.controller.image = t.image → s.controller.Balanced t s.account.attachment →
    s.requests = [] → s.state.driver.held = [] → Reckoning s t

/-- A simulation in which no completion was lost and there is room for the next request. -/
structure Reckoned (s : Rig κ) (t : Task) : Prop where
  lost : s.state.lost = none
  room : s.channel.Roomy
  reckoning : s.Reckoning t

/-- An upgrade that fails is over. -/
theorem reckoned_fail (hl : s.state.lost = none) (hroom : s.channel.Roomy) (hreq : s.requests = [])
    (hheld : s.state.driver.held = []) (hi : s.controller.image = t.image)
    (h : s.controller.Stranded s.account.attachment) (cause : UpgradeError) :
    Reckoned (s.fail cause) t :=
  ⟨hl, hroom, .ended (by simpa using hi) (balanced_fail h cause) hreq hheld⟩

/-- The step to the next phase is queued. -/
theorem reckoned_advance (hl : s.state.lost = none) (hroom : s.channel.Roomy)
    (h : s.Booked t target s.account.attachment.issues p i)
    (hphase : s.controller.phase ≠ .unattached ∧ s.controller.phase.isTerminal = false)
    (hidle : s.controller.inFlight = none) (hreq : s.requests = [])
    (hheld : s.state.driver.held = []) : Reckoned (s.advance p) t := by
  have hrefusal := refusal?_eq_none hroom hreq
  rw [advance_of_room _ hrefusal]
  exact ⟨hl, hroom.send _, .due target p i { h with } hphase hidle
    ((requests_post _ hrefusal).trans (congrArg (· ++ _) hreq)) hheld⟩

/-! ## The attach of the accelerator -/

theorem initialise_eq_of_error {device : DeviceHandle} {refusal : UsbError}
    (h : s.state.driver.init device = (b, .error refusal)) :
    s.initialise Accelerator.driver device =
      ((s.withDriver b).record (.exchange (.init device (.error refusal)))).fail
        (.classInit refusal) := by
  have hinit : Accelerator.driver.init s.state.driver device = (b, .error refusal) := h
  simp only [initialise, exchange_eq, hinit]
  rfl

theorem initialise_eq_of_ok {device : DeviceHandle}
    (h : s.state.driver.init device = (b, .ok target)) :
    s.initialise Accelerator.driver device =
      (s.initialised b device target).advance .setInterface := by
  have hinit : Accelerator.driver.init s.state.driver device = (b, .ok target) := h
  simp only [initialise, exchange_eq, hinit]
  rfl

/-- The accelerator becomes known. -/
theorem reckoned_bind (hl : s.state.lost = none) (hroom : s.channel.Roomy)
    (hc : s.controller = .new t.image t.config) (hissues : s.account.attachment.issues = [])
    (hreq : s.requests = [.nextPhase .attached]) (hheld : s.state.driver.held = []) :
    Reckoned (handle Accelerator.driver s (.bind accelerator)).1 t := by
  rw [handle_bind Accelerator.driver hl hc]
  refine ⟨hl, hroom, .bound ?_ ?_ hreq hheld⟩
  · exact congrArg (Controller.bind · Accelerator.host Accelerator.device Accelerator.interface) hc
  · rw [account_modify, account_note, account_record]
    exact hissues

/-- The class driver is initialised or fails to be. -/
theorem reckoned_attach (hl : s.state.lost = none) (hroom : s.channel.Roomy)
    (hc : s.controller = acquainted t) (hissues : s.account.attachment.issues = [])
    (hreq : s.requests = []) (hheld : s.state.driver.held = [])
    (hi : t.interface = Accelerator.interface) :
    Reckoned (handle Accelerator.driver s (.nextPhase .attached)).1 t := by
  rw [handle_attach Accelerator.driver hl hc]
  obtain ⟨opening, ho⟩ := s.attachment_setPhase_taken (.nextPhase .attached) .attached
  obtain ⟨u, hu, huc, hud, hul, hur, huq⟩ := s.setPhase_taken (.nextPhase .attached) .attached
  rw [hu] at ho ⊢
  rw [hc] at huc
  rw [hl] at hul
  rw [← hur] at hroom
  rw [hreq] at huq
  rw [← hud] at hheld
  rcases u.state.driver.init_answers Accelerator.device with
    ⟨b, refusal, hb, hbheld⟩ | ⟨b, target, hb, hbheld, hgranted⟩
  · rw [initialise_eq_of_error hb]
    refine reckoned_fail (s := (u.withDriver b).record _) hul hroom huq (hbheld.trans hheld)
      (congrArg Controller.image huc) ?_ _
    refine Controller.stranded_of_issues_eq_nil ?_ (congrArg Controller.transferred huc)
    rw [account_record, account_withDriver]
    exact (congrArg Attachment.issues ho).trans hissues
  · rw [initialise_eq_of_ok hb]
    obtain ⟨hattended, hleg⟩ := leg_opening target hi
    have hvc : (u.initialised b Accelerator.device target).controller =
        ((acquainted t).enter .attached).startOver target := by
      rw [controller_initialised, huc]
    have hva : (u.initialised b Accelerator.device target).account.attachment =
        ⟨some target, [], false, .attached⟩ := by
      rw [account_initialised, Account.add_init]
    refine reckoned_advance (s := u.initialised b Accelerator.device target) (i := 0) hul hroom
      ⟨?_, hgranted, ?_, ?_, rfl⟩ ?_ ?_ huq (hbheld.trans hheld)
    · rwa [hvc]
    · rw [hva]
    · rw [hva, hvc]
      exact hleg
    · rw [hvc]
      exact ⟨by simp [Controller.startOver, Controller.resetCounters], rfl⟩
    · rw [hvc]
      rfl

/-! ## Operations -/

/-- What is known of an operation in flight does not depend on whether it has its reply. -/
theorem Airborne.congr (h : s.Airborne t target op done last i) {reply : Option Reply}
    (hc : u.controller = s.controller)
    (hd : u.state.driver.liveClass = s.state.driver.liveClass)
    (ha : u.account.attachment =
      { s.account.attachment with issues := done ++ [{ last with reply }] }) :
    u.Airborne t target op done { last with reply } i where
  toAttended := hc ▸ h.toAttended
  granted := hd.trans h.granted
  recorded := by
    rw [ha]
    exact h.recorded
  leg := by
    rw [hc, ha]
    exact h.leg
  aligned := hc ▸ h.aligned
  inFlight := hc ▸ h.inFlight
  issues := by rw [ha]
  addressed := h.addressed
  accepted := h.accepted
  completion := h.completion
  action := by
    rw [hc]
    exact h.action
  buffer := hc ▸ h.buffer

/-- The accelerator calls the completion of the operation in flight. -/
theorem Airborne.deliver (h : s.Airborne t target op done last i) (hreply : last.reply = none)
    (hl : s.state.lost = none) (hroom : s.channel.Roomy) (hreq : s.requests = [])
    (hheld : s.state.driver.held = []) (r : Reply) :
    Reckoned (s.deliver ⟨op.ticket, op.operation⟩ r) t := by
  have hrefusal := refusal?_eq_none hroom hreq
  rw [deliver_of_room _ _ hrefusal]
  refine ⟨hl, hroom.send _, .called target op done { last with reply := some r } i r
    (h.congr rfl rfl ?_) rfl ?_ hheld⟩
  · have hsettled : last.settle ⟨op.ticket, op.operation⟩ r = { last with reply := some r } := by
      simp [Issue.settle, h.completion, hreply]
    rw [account_post, account_record, Account.add_completed]
    simp [Attachment.observe, h.issues, Issue.map_settle_of_succeeded h.leg.succeeded, hsettled]
  · exact (requests_post _ hrefusal).trans (congrArg (· ++ _) hreq)

/-- An operation that the driver accepts is in flight. -/
theorem Booked.handOver {opening : Phase}
    (h : s.Booked t target s.account.attachment.issues p i)
    (ha : s.controller.action p = .start request length) (huc : u.controller = s.controller.enter p)
    (ho : u.account.attachment = { s.account.attachment with opening })
    (hanswer : u.answerTo Accelerator.driver target request = ⟨.ok (), notices, delivered⟩)
    (hgranted : (u.handOver Accelerator.driver target request length).state.driver.liveClass =
      some target) :
    (u.handOver Accelerator.driver target request length).Airborne t target
      ⟨u.controller.nextTicket, request.operation, length⟩ s.account.attachment.issues
      ⟨target, request, ⟨u.controller.nextTicket, request.operation⟩, true, none⟩ i := by
  have hv := u.attachment_handOver target request length
  have hvc := u.controller_handOver Accelerator.driver target request length
  rw [ho, hanswer] at hv
  rw [huc] at hvc
  have hvp : (u.handOver Accelerator.driver target request length).controller.phase = p := by
    rw [hvc]
    exact s.controller.phase_enter p
  refine ⟨⟨?_, ?_, ?_, ?_, ?_⟩, ?_, ?_, rfl, rfl, rfl, ?_, ?_⟩
  · rw [hvc]
    exact { h.toAttended.enter p with }
  · exact hgranted
  · rw [hv]
    exact h.recorded
  · rw [hv, hvp, hvc]
    exact h.leg.enter.congr rfl rfl rfl rfl rfl rfl
  · rw [hvp]
    exact h.aligned
  · rw [hvc, huc]
    rfl
  · rw [hv]
    rfl
  · rw [hvp, hvc]
    exact (Controller.action_enter s.controller p p).trans ha
  · rw [hvp, hvc]
    rintro rfl
    exact h.leg.buffered (.inl rfl)

/-- The operation of a phase is refused, or it is in flight. -/
theorem reckoned_issue (hl : s.state.lost = none) (hroom : s.channel.Roomy)
    (h : s.Booked t target s.account.attachment.issues p i)
    (hphase : s.controller.phase ≠ .unattached ∧ s.controller.phase.isTerminal = false)
    (hidle : s.controller.inFlight = none) (hreq : s.requests = [])
    (hheld : s.state.driver.held = []) (ha : s.controller.action p = .start request length) :
    Reckoned (handle Accelerator.driver s (.nextPhase p)).1 t := by
  rw [handle_of_leg _ hl h.leg hphase h.live hidle, ha]
  obtain ⟨opening, ho⟩ := s.attachment_setPhase_taken (.nextPhase p) p
  obtain ⟨u, hu, huc, hud, hul, hur, huq⟩ := s.setPhase_taken (.nextPhase p) p
  rw [hu] at ho ⊢
  rw [hl] at hul
  rw [← hur] at hroom
  rw [hreq] at huq
  have hlive : u.controller.liveClass = some target := by
    rw [huc, Controller.liveClass_enter, h.live]
  rw [← hud] at hheld
  simp only [perform, hlive]
  -- The operation is handed over in any case.
  have hvc := u.controller_handOver Accelerator.driver target request length
  have hva := u.attachment_handOver target request length
  have hvl : (u.handOver Accelerator.driver target request length).state.lost = none :=
    (lost_handOver ..).trans hul
  have hvr : (u.handOver Accelerator.driver target request length).channel.Roomy :=
    (channel_handOver ..).symm ▸ hroom
  have hvq : (u.handOver Accelerator.driver target request length).requests = [] :=
    (requests_handOver ..).trans huq
  have hvd := u.driver_handOver Accelerator.driver target request length
  have hgranted : (u.handOver Accelerator.driver target request length).state.driver.liveClass =
      some target := by
    rw [hvd, hud]
    exact (Accelerator.liveClass_submit ..).trans h.granted
  obtain ⟨-, hcases⟩ := u.state.driver.submit_cases target request
    (⟨u.controller.nextTicket, request.operation⟩ : Completion)
  rw [hheld] at hcases
  have hvheld : (u.handOver Accelerator.driver target request length).state.driver.held =
      (u.state.driver.submit target request ⟨u.controller.nextTicket, request.operation⟩).1.held :=
    congrArg Accelerator.held hvd
  rw [start_eq]
  rcases hcases with ⟨refusal, hanswer, hd⟩ | ⟨notices, r, hanswer, -, hd⟩ |
    ⟨notices, r, hanswer, -, hd⟩
  all_goals
    rw [← hvheld] at hd
    replace hanswer : u.answerTo Accelerator.driver target request = _ := hanswer
    rw [hanswer]
  · rw [ho, hanswer] at hva
    rw [huc] at hvc
    refine reckoned_fail hvl hvr hvq hd ?_ ?_ _
    · rw [hvc]
      exact (Controller.image_enter ..).trans h.leg.image.symm
    · refine h.leg.stranded h.aligned (congrArg Attachment.target hva |>.trans h.recorded)
        (congrArg Attachment.issues hva) (fun x hx => ?_) ?_ fun _ => ?_
      · obtain rfl := List.mem_singleton.mp hx
        exact ⟨rfl, Issue.barren_of_refused rfl⟩
      all_goals
        rw [hvc]
        simp [Controller.begin]
  · exact ⟨hvl, hvr, .held target _ _ _ i r (h.handOver ha huc ho hanswer hgranted) rfl hvq hd⟩
  · exact (h.handOver ha huc ho hanswer hgranted).deliver rfl hvl hvr hvq hd r

/-- Of an empty image nothing is read back. -/
theorem reckoned_skip (hl : s.state.lost = none) (hroom : s.channel.Roomy)
    (h : s.Booked t target s.account.attachment.issues .readBack i)
    (hphase : s.controller.phase ≠ .unattached ∧ s.controller.phase.isTerminal = false)
    (hidle : s.controller.inFlight = none) (hreq : s.requests = [])
    (hheld : s.state.driver.held = []) (hz : s.controller.chunkLength = 0)
    (ha : s.controller.action .readBack = .skip .getStatusRead) :
    Reckoned (handle Accelerator.driver s (.nextPhase .readBack)).1 t := by
  obtain ⟨-, -, hleg⟩ := h.leg.enter.skip
    (by rw [h.leg.enter.chunkLength_eq, ← h.leg.chunkLength_eq, hz]) (h.leg.buffered (.inl rfl))
  rw [handle_of_leg _ hl h.leg hphase h.live hidle, ha]
  obtain ⟨opening, ho⟩ := s.attachment_setPhase_taken (.nextPhase .readBack) .readBack
  obtain ⟨u, hu, huc, hud, hul, hur, huq⟩ := s.setPhase_taken (.nextPhase .readBack) .readBack
  rw [hu] at ho ⊢
  have hbooked : u.Booked t target u.account.attachment.issues .getStatusRead 0 := by
    refine ⟨?_, ?_, ?_, ?_, trivial⟩
    · rw [huc]
      exact h.toAttended.enter .readBack
    · rw [hud]
      exact h.granted
    · rw [ho]
      exact h.recorded
    · rw [huc, ho]
      exact hleg
  refine reckoned_advance (hul.trans hl) (hur ▸ hroom) hbooked ?_ ?_ (huq.trans hreq) (hud ▸ hheld)
  · rw [huc]
    exact ⟨by simp, by simp [Phase.isTerminal]⟩
  · rw [huc]
    exact (Controller.inFlight_enter ..).trans hidle

/-- The upgrade is complete. -/
theorem reckoned_finish (hl : s.state.lost = none) (hroom : s.channel.Roomy)
    (h : s.Booked t target s.account.attachment.issues .complete i)
    (hphase : s.controller.phase ≠ .unattached ∧ s.controller.phase.isTerminal = false)
    (hidle : s.controller.inFlight = none) (hreq : s.requests = [])
    (hheld : s.state.driver.held = []) :
    Reckoned (handle Accelerator.driver s (.nextPhase .complete)).1 t := by
  obtain ⟨hz, hjustified⟩ := h.leg.justified h.aligned h.recorded
  rw [handle_of_leg _ hl h.leg hphase h.live hidle,
    show s.controller.action .complete = .finish from rfl, perform]
  obtain ⟨opening, ho⟩ := s.attachment_setPhase_taken (.nextPhase .complete) .complete
  have hdriver := accelerator_finish
    (s := (s.record (.taken (.nextPhase .complete))).setPhase .complete)
    (h.toAttended.enter .complete) h.granted
  obtain ⟨u, hu, huc, hud, hul, hur, huq⟩ := s.setPhase_taken (.nextPhase .complete) .complete
  rw [hu] at ho hdriver ⊢
  have hf := finish_becomes Accelerator.driver u
  have hc := hf.controller
  rw [huc] at hc
  refine ⟨hf.lost.trans (hul.trans hl), ?_, .ended ?_ ?_ (hf.requests_eq.trans (huq.trans hreq)) ?_⟩
  · rw [hf.channel, hur]
    exact hroom
  · rw [hc]
    exact h.leg.image.symm
  · rw [hf.silently.account_eq, ho, hc]
    exact .complete rfl hz hjustified
  · rw [hdriver, hud]
    exact hheld

/-- The completion of an operation makes the next step due, or ends the upgrade. -/
theorem reckoned_complete (hl : s.state.lost = none) (hroom : s.channel.Roomy)
    (h : s.Airborne t target op done last i) (hreply : last.reply = some r) (hreq : s.requests = [])
    (hheld : s.state.driver.held = []) :
    Reckoned (handle Accelerator.driver s (.completed ⟨op.ticket, op.operation⟩ r)).1 t := by
  have hx : s.controller.awaited? op.ticket = some op := by
    simp [Controller.awaited?, h.live, h.inFlight]
  have halike := Controller.conclude_alike s.controller op op.operation r
  have hissues := h.issues
  rw [handle_of_lost_eq_none _ hl, take]
  obtain ⟨v, hv, hvc, hva, hvl, hvr, hvd, hvq⟩ := s.settled_taken op ⟨op.ticket, op.operation⟩ r
  cases hnext : (s.controller.conclude op op.operation r).next with
  | ok q =>
    rw [complete_of_ok hx hnext, hv]
    cases r with
    | error refusal => simp [Controller.conclude] at hnext
    | ok data =>
      have hsucceeded : last.Succeeded target := ⟨h.addressed, h.accepted, data, hreply⟩
      have hsucceeds : Controller.Succeeds { s.controller with inFlight := none } op data q _ _ :=
        Controller.succeeds_of_ok hnext
      have hleg : Controller.Leg { s.controller with inFlight := none } t target .setInterface done
          s.account.attachment.compared s.controller.phase i := h.leg.congr rfl rfl rfl rfl rfl rfl
      obtain ⟨j, hstep, hleg⟩ := hleg.succeed h.action hreply hsucceeded h.buffer hsucceeds
      have hbooked : v.Booked t target v.account.attachment.issues q j := by
        refine ⟨?_, ?_, ?_, ?_, hstep.aligned h.aligned⟩
        · rw [hvc]
          have hattended : Controller.Attended { s.controller with inFlight := none } t target :=
            ⟨h.live, h.host, h.device, h.interface⟩
          exact hattended.alike halike
        · rw [hvd]
          exact h.granted
        · rw [hva]
          exact h.recorded
        · rw [hva, hvc]
          show Controller.Leg _ _ _ _ s.account.attachment.issues _ _ _
          rw [hissues]
          exact hleg
      refine reckoned_advance (hvl.trans hl) (hvr ▸ hroom) hbooked ?_ ?_ (hvq.trans hreq)
        (hvd ▸ hheld)
      · rw [hvc, halike.phase]
        exact ⟨hstep.phase.1, hstep.phase.2.2⟩
      · rw [hvc]
        exact halike.inFlight
  | error cause =>
    rw [complete_of_error hx hnext, hv]
    refine reckoned_fail (hvl.trans hl) (hvr ▸ hroom) (hvq.trans hreq) (hvd ▸ hheld) ?_ ?_ cause
    · rw [hvc, halike.image]
      exact h.leg.image.symm
    · have hstranded := h.leg.stranded_conclude h.aligned h.action h.recorded hissues
        ⟨h.addressed, h.accepted, hreply⟩ op.operation hnext
      rw [hva, hvc]
      exact hstranded.congr rfl rfl rfl

/-! ## The simulation -/

/-- Every request that is handled keeps the reckoning up. -/
theorem Reckoned.handle {q : Request} (h : Reckoned s t) (hi : t.interface = Accelerator.interface)
    (hreq : s.requests = q :: s.dropOldest.requests) :
    Reckoned (Session.handle Accelerator.driver s.dropOldest q).1 t := by
  have hl : s.dropOldest.state.lost = none := h.lost
  have hroom : s.dropOldest.channel.Roomy := h.room.dropOldest
  have hrest : ∀ {q' qs}, s.requests = q' :: qs → q = q' ∧ s.dropOldest.requests = qs :=
    fun hr => by
      rw [hr, List.cons.injEq] at hreq
      exact ⟨hreq.1.symm, hreq.2.symm⟩
  cases h.reckoning with
  | plugged hc hissues hr hheld =>
    obtain ⟨rfl, hnext⟩ := hrest hr
    exact reckoned_bind hl hroom hc hissues hnext hheld
  | bound hc hissues hr hheld =>
    obtain ⟨rfl, hnone⟩ := hrest hr
    exact reckoned_attach hl hroom hc hissues hnone hheld hi
  | due target p i hbooked hphase hidle hr hheld =>
    obtain ⟨rfl, hnone⟩ := hrest hr
    have hbooked' : s.dropOldest.Booked t target s.dropOldest.account.attachment.issues p i :=
      { hbooked with }
    rcases hbooked.leg.action_cases with ⟨request, length, ha⟩ | ⟨rfl, hz, ha⟩ | ⟨hb, -⟩ | ⟨rfl, -⟩
    · exact reckoned_issue hl hroom hbooked' hphase hidle hnone hheld ha
    · exact reckoned_skip hl hroom hbooked' hphase hidle hnone hheld hz ha
    · rw [hbooked.interface] at hb
      cases hb
    · exact reckoned_finish hl hroom hbooked' hphase hidle hnone hheld
  | called target op done last i r hairborne hreply hr hheld =>
    obtain ⟨rfl, hnone⟩ := hrest hr
    have hairborne' : s.dropOldest.Airborne t target op done last i := { hairborne with }
    exact reckoned_complete hl hroom hairborne' hreply hnone hheld
  | held _ _ _ _ _ _ _ _ hr | ended _ _ hr =>
    exact absurd (hreq.symm.trans hr) (List.cons_ne_nil _ _)

/-- Reports concern neither the counter nor the operations of the record. -/
theorem Reckoned.note {n : Notice} (h : Reckoned s t) (hn : n ≠ .verified) :
    Reckoned (s.note n) t := by
  have ha : (s.note n).account = s.account := (Silently.note hn).account_eq
  refine ⟨h.lost, h.room, ?_⟩
  have hbooked {target done p i} (h : s.Booked t target done p i) :
      (s.note n).Booked t target done p i :=
    ⟨h.toAttended, h.granted, (congrArg (·.attachment.target) ha).trans h.recorded, by
      rw [ha]
      exact h.leg, h.aligned⟩
  have hairborne {target op done last i} (h : s.Airborne t target op done last i) :
      (s.note n).Airborne t target op done last i :=
    { hbooked h.toBooked, h with
      issues := by
        rw [ha]
        exact h.issues }
  cases h.reckoning with
  | plugged hc hissues hr hheld => exact .plugged hc (ha ▸ hissues) hr hheld
  | bound hc hissues hr hheld => exact .bound hc (ha ▸ hissues) hr hheld
  | due target p i h hphase hidle hr hheld =>
    refine .due target p i ?_ hphase hidle hr hheld
    rw [ha]
    exact hbooked h
  | held target op done last i r h hreply hr hheld =>
    exact .held target op done last i r (hairborne h) hreply hr hheld
  | called target op done last i r h hreply hr hheld =>
    exact .called target op done last i r (hairborne h) hreply hr hheld
  | ended himage hbalanced hr hheld => exact .ended himage (ha ▸ hbalanced) hr hheld

/-- With nothing left to handle, the accelerator calls the completion that it holds. -/
theorem Reckoned.deliver {d : Accelerator Completion} (h : Reckoned s t) (hreq : s.requests = [])
    (htake : s.state.driver.takeHeld = (d, some (x, r))) :
    Reckoned ((s.withDriver d).deliver x r) t := by
  cases h.reckoning with
  | held target op done last i r' hairborne hreply _ hheld =>
    simp only [Accelerator.takeHeld, hheld, Prod.mk.injEq, Option.some.injEq] at htake
    obtain ⟨hd, rfl, rfl⟩ := htake
    have hgranted : d.liveClass = some target := by
      rw [← hd]
      exact hairborne.granted
    exact Airborne.deliver (s := s.withDriver d) { hairborne with granted := hgranted } hreply
      h.lost h.room hreq (by rw [driver_withDriver, ← hd]) r'
  | plugged _ _ hr | bound _ _ hr | due _ _ _ _ _ _ hr | called _ _ _ _ _ _ _ _ hr =>
    exact absurd (hr.symm.trans hreq) (List.cons_ne_nil _ _)
  | ended _ _ _ hheld => simp [Accelerator.takeHeld, hheld] at htake

/-- With nothing left to do counter and record agree. -/
theorem Reckoned.balanced (h : Reckoned s t) (hreq : s.requests = [])
    (hheld : s.state.driver.held = []) :
    s.controller.image = t.image ∧ s.controller.Balanced t s.account.attachment := by
  cases h.reckoning with
  | ended himage hbalanced => exact ⟨himage, hbalanced⟩
  | held _ _ _ _ _ _ _ _ _ hh => exact absurd (hh.symm.trans hheld) (List.cons_ne_nil _ _)
  | plugged _ _ hr | bound _ _ hr | due _ _ _ _ _ _ hr | called _ _ _ _ _ _ _ _ hr =>
    exact absurd (hr.symm.trans hreq) (List.cons_ne_nil _ _)

end Session

namespace Simulation

open Session

variable {t : Task} {i j : Simulation} {n : Nat}

theorem reckoned_drains {v w : Worker (Upgrade (Accelerator Completion)) Request Empty Phase}
    (h : v.Drains (Session.handle Accelerator.driver) n w)
    (hi : t.interface = Accelerator.interface) :
    Reckoned v.service t → Reckoned w.service t ∧ Session.requests w.service = [] := by
  induction h with
  | rest hw => exact fun hv => ⟨hv, List.map_eq_nil_iff.mpr hw⟩
  | @work v w e n he _ ih =>
    intro hv
    refine ih (hv.handle hi (q := e.request) ?_)
    obtain ⟨rest, hrest⟩ := List.head?_eq_some_iff.mp he
    rw [requests_dropOldest, Session.requests, hrest]
    rfl

theorem reckoned_rounds (h : Rounds i n j) (hi : t.interface = Accelerator.interface)
    (hs : Reckoned i.session t) : Reckoned j.session t ∧ j.session.requests = [] := by
  obtain ⟨worker, hdrains, rfl⟩ := h
  obtain ⟨hw, hrest⟩ := reckoned_drains hdrains hi hs
  have hnoted : Reckoned (Session.note worker.service (.handled n)) t := hw.note (by simp)
  exact ⟨hnoted.note (by simp), hrest⟩

/-- To the end of the simulation the reckoning is kept up. -/
theorem reckoned_loops (h : Loops i n j) (hi : t.interface = Accelerator.interface) :
    Reckoned i.session t →
      Reckoned j.session t ∧ j.session.requests = [] ∧ j.driver.held = [] := by
  induction h with
  | stop hround hheld =>
    intro hs
    obtain ⟨hj, hreq⟩ := reckoned_rounds hround hi hs
    exact ⟨hj, hreq, hheld⟩
  | @again i j k m n hround hheld _ ih =>
    intro hs
    obtain ⟨hj, hreq⟩ := reckoned_rounds hround hi hs
    obtain ⟨⟨x, r⟩, rest, hcons⟩ := List.exists_cons_of_ne_nil hheld
    have htake : j.driver.takeHeld = ({ j.driver with
        held := rest, outstanding := j.driver.outstanding - 1 }, some (x, r)) := by
      simp only [Accelerator.takeHeld, hcons]
    refine ih ?_
    rw [Installation.session_deliverNext htake]
    exact hj.deliver hreq htake

theorem reckoned_plugged (t : Task) (f : Faults) (deferred : Bool) :
    Reckoned (plugged t.image t.config f deferred).session t := by
  obtain ⟨hs, hr⟩ :=
    Installation.session_plug (κ := Empty) (Accelerator.new f deferred) t.image t.config
  have hroom := Installation.roomy_plug (κ := Empty) (Accelerator.new (α := Completion) f deferred)
    t.image t.config
  unfold plugged
  rw [hs] at hr hroom ⊢
  exact ⟨rfl, hroom, .plugged rfl rfl hr rfl⟩

theorem result_eq_ok_iff (s : Simulation) : s.result = .ok () ↔ s.controller.phase = .complete := by
  unfold result
  split
  · simp [*]
  · split <;> simp [*]

/-- The number of bytes that the command gives as verified is what one would take it for: all of the
image where it succeeds, and no more than what came back where it fails. -/
def Truthful (s : Simulation) : Prop :=
  (s.result = .ok () → s.controller.transferred = s.controller.image.size) ∧
    (s.result ≠ .ok () →
      s.controller.transferred ≤ (Attachment.ofEffects s.effects).uploaded.length)

section

variable (image : Bytes) (config : Config) (faults : Faults) (deferred : Bool)

/-- When the simulation is over counter and record agree. -/
theorem balanced_run :
    let s := run image config faults deferred
    s.controller.image = image ∧
      s.controller.Balanced ⟨image, config, Accelerator.interface⟩ (.ofEffects s.effects) := by
  obtain ⟨n, -, hloops⟩ := loops_run image config faults deferred
  obtain ⟨hs, hreq, hheld⟩ := reckoned_loops hloops rfl
    (reckoned_plugged ⟨image, config, Accelerator.interface⟩ faults deferred)
  exact hs.balanced hreq hheld

/-- Behind a success the image is on the device, and the counter has started over. -/
theorem justified_run (h : (run image config faults deferred).result = .ok ()) :
    (Attachment.ofEffects (run image config faults deferred).effects).Justified image ∧
      (run image config faults deferred).controller.transferred = 0 := by
  rw [result_eq_ok_iff] at h
  obtain ⟨-, hbalanced⟩ := balanced_run image config faults deferred
  cases hbalanced with
  | complete _ hz hjustified => exact ⟨hjustified, hz⟩
  | failed hp => simp [hp] at h

/-- Behind a failure the counter is as it was left. -/
theorem stranded_run (h : (run image config faults deferred).result ≠ .ok ()) :
    (run image config faults deferred).controller.Stranded
      (.ofEffects (run image config faults deferred).effects) := by
  rw [ne_eq, result_eq_ok_iff] at h
  obtain ⟨-, hbalanced⟩ := balanced_run image config faults deferred
  cases hbalanced with
  | complete hp => exact absurd hp h
  | failed _ hstranded => exact hstranded

end

/-- Whatever the image, the settings, the faults and the way in which completions are called, the
last line of a simulation gives the counter of the controller as the number of bytes verified. When
it succeeds all of the image was sent, came back and was compared, and the number is zero. When it
fails behind the empty block the number is no more than what came back; when it fails before,
nothing came back, and the number is that of the bytes that were sent. So the number is truthful
only for an empty image, and for a failure before the first block or behind the empty one. -/
theorem truthful_iff (image : Bytes) (config : Config) (faults : Faults) (deferred : Bool) :
    let s := run image config faults deferred
    let a := Attachment.ofEffects s.effects
    s.summary = s!"{s.controller.transferred} of {image.size} bytes verified, state " ++
        s.controller.phase.text ∧
      (s.result = .ok () → a.Justified image ∧ s.controller.transferred = 0) ∧
      (s.result ≠ .ok () → a.Committed → s.controller.transferred ≤ a.uploaded.length) ∧
      (s.result ≠ .ok () → ¬a.Committed →
        a.uploaded = [] ∧ s.controller.transferred = a.downloaded.length) ∧
      (s.Truthful ↔ (s.result = .ok () → image = #[]) ∧
        (s.result ≠ .ok () → a.downloaded = [] ∨ a.Committed)) := by
  intro s a
  obtain ⟨himage, -⟩ := balanced_run image config faults deferred
  have hjustified : s.result = .ok () → a.Justified image ∧ s.controller.transferred = 0 :=
    justified_run image config faults deferred
  have hstranded : s.result ≠ .ok () → s.controller.Stranded a :=
    stranded_run image config faults deferred
  refine ⟨?summary, hjustified, fun h => (hstranded h).transferred_le,
    fun h => (hstranded h).transferred_eq,
    and_congr (forall_congr' fun h => ?success) (forall_congr' fun h => ?failure)⟩
  case summary => rw [summary, himage]
  case success =>
    rw [(hjustified h).2, himage]
    exact eq_comm.trans Array.size_eq_zero_iff
  case failure => exact (hstranded h).transferred_le_iff

/-- An image of one byte is brought onto the device, and none of it counts as verified. Where the
second of two blocks stalls, the first counts as verified. -/
theorem exists_untruthful :
    let s := run #[7] .standard .none false
    let u := run #[1, 2] { Config.standard with chunkSize := 1 }
      { Faults.none with failBlock := some 1 } true
    (s.result = .ok () ∧ s.controller.transferred = 0 ∧ s.controller.image.size = 1 ∧
        ¬s.Truthful) ∧
      u.result ≠ .ok () ∧ u.controller.transferred = 1 ∧
        (Attachment.ofEffects u.effects).uploaded = [] ∧ ¬u.Truthful := by
  intro s u
  have hs : s.result = .ok () := (result_eq_ok_iff s).mpr (by decide +kernel)
  have hz : s.controller.transferred = 0 := by decide +kernel
  have hone : s.controller.image.size = 1 := by decide +kernel
  have hu : u.result ≠ .ok () := mt (result_eq_ok_iff u).mp (by decide +kernel)
  have hcount : u.controller.transferred = 1 := by decide +kernel
  have hnone : (Attachment.ofEffects u.effects).uploaded = [] := by decide +kernel
  refine ⟨⟨hs, hz, hone, fun h => ?_⟩, hu, hcount, hnone, fun h => ?_⟩
  · have heq := h.1 hs
    rw [hz, hone] at heq
    exact absurd heq (by decide)
  · have hle := h.2 hu
    rw [hcount, hnone] at hle
    exact absurd hle (by decide)

end Simulation

end FirmwareUpgrade
