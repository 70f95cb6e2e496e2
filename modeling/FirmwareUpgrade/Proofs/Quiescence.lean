import FirmwareUpgrade.Proofs.Traffic
import FirmwareUpgrade.Proofs.Delivery
import FirmwareUpgrade.Proofs.Submission

/-!
# Nothing is waited for in vain

A controller under way must not stop for something that does not come. Transitions are dropped,
completions are stale or lost to a full queue, and others may send what they like; but as long as
the device is attached and the upgrade neither complete nor failed, something is there that goes
on: a step to the next phase that waits, or the reply to the operation in flight, which waits, is
held by the accelerator, or is known to be lost (`Session.Driven`). So when no request waits and the
accelerator holds nothing, the upgrade is at rest.
-/
namespace FirmwareUpgrade

/-- Whether an upgrade is under way in a phase. -/
def Phase.isWorking (p : Phase) : Bool := p != .unattached && !p.isTerminal

/-- Whether a request is of the kind that the controller and its driver queue: a step on in the
course of an upgrade, or the report of a completed operation. -/
def Request.isFollowUp : Request → Bool
  | nextPhase p => p.needsClass
  | completed .. => true
  | bind _ => false

/-- A driver preserves a property whatever is asked of it. -/
structure Driver.Preserves {δ : Type} (drv : Driver δ) (P : δ → Prop) : Prop where
  init : ∀ d device, P d → P (drv.init d device).1
  submit : ∀ d target request x, P d → P (drv.submit d target request x).1
  deinit : ∀ d device target, P d → P (drv.deinit d device target).1
  busReset : ∀ d host, P d → P (drv.busReset d host).1
  reEnumerate : ∀ d device, P d → P (drv.reEnumerate d device).1

/-- A completion leads to a phase in the course of the upgrade. -/
theorem Controller.needsClass_of_conclude {c : Controller} {op : InFlight} {operation : Operation}
    {r : Reply} {p : Phase} (h : (c.conclude op operation r).next = .ok p) :
    p.needsClass = true := by
  obtain ⟨hu, ha, he, -⟩ := Controller.conclude_postable h
  cases p with
  | unattached => exact absurd rfl hu
  | attached => exact absurd rfl ha
  | error => exact absurd rfl he
  | _ => rfl

namespace Session

variable {δ κ : Type} {drv : Driver δ} {s t : Session δ κ} {q : Request}

/-! ## What a request does to the queue and to the driver -/

section
variable {P : Channel Request κ → Prop}
  (hsend : ∀ c (q : Request), q.isFollowUp = true → P c → P (c.send q))
include hsend

theorem channel_advance (h : P s.channel) {p : Phase} (hp : p.needsClass = true) :
    P (s.advance p).channel := by
  unfold advance
  split
  · exact hsend _ _ hp h
  · exact h

theorem channel_deliver (h : P s.channel) (x : Completion) (r : Reply) :
    P (s.deliver x r).channel := by
  unfold deliver
  dsimp only
  split
  · exact hsend _ _ rfl h
  · exact h

theorem channel_deliverAll (ds : List (Completion × Reply)) (h : P s.channel) :
    P (s.deliverAll ds).channel := by
  induction ds generalizing s with
  | nil => exact h
  | cons d ds ih => exact ih (channel_deliver hsend h d.1 d.2)

/-- What a request leads to is sent behind what waits. -/
theorem Outcome.channel (o : Outcome drv s q t) (h : P s.channel) : P t.channel := by
  cases o with
  | released =>
    show P (s.release drv).channel
    rwa [(release_becomes drv s).channel]
  | initialised device _ _ _ =>
    rcases initialise_cases drv (s.setPhase .attached) device with ⟨u, cause, hu, he⟩ | ⟨d, l, he⟩
    · rw [he]
      show P u.channel
      rwa [hu.channel]
    · rw [he]
      exact channel_advance hsend (s := (s.setPhase .attached).initialised d device l) h rfl
  | started p target request length _ _ _ _ =>
    have hdelivered : ∀ ds, P (((s.setPhase p).handOver drv target request length).deliverAll
        ds).channel := by
      intro ds
      apply channel_deliverAll hsend
      rwa [channel_handOver]
    rw [start_eq]
    split
    · exact hdelivered _
    · exact hdelivered _
  | skipped => exact channel_advance hsend (s := s.setPhase .readBack) h rfl
  | finished =>
    rw [(finish_becomes drv _).channel]
    exact h
  | advanced x r op p _ hp =>
    refine channel_advance hsend ?_ (Controller.needsClass_of_conclude hp)
    rwa [channel_settled]
  | failed x r op cause _ _ =>
    show P (s.settled op x r).channel
    rwa [channel_settled]
  | dropped | ignored | stale | bound | blocked | reported => exact h

end

theorem driver_advance (p : Phase) : (s.advance p).state.driver = s.state.driver := by
  unfold advance
  split <;> rfl

theorem driver_deliverAll (ds : List (Completion × Reply)) :
    (s.deliverAll ds).state.driver = s.state.driver := by
  induction ds generalizing s with
  | nil => rfl
  | cons d ds ih => rw [deliverAll_cons, ih, driver_deliver]

section
variable {P : δ → Prop} (hP : drv.Preserves P)
include hP

theorem driver_returnClass (h : P s.state.driver) (complaint : UsbError → Notice) :
    P (s.returnClass drv complaint).state.driver := by
  unfold returnClass
  dsimp only
  split
  · rename_i target device _ _
    have hd := hP.deinit _ device target h
    rw [exchange_eq]
    split
    · rename_i he
      obtain ⟨rfl, -⟩ := Prod.mk.inj he
      simpa using hd
    · rename_i he
      obtain ⟨rfl, -⟩ := Prod.mk.inj he
      simpa using hd
  · exact h

theorem driver_finish (h : P s.state.driver) : P (s.finish drv).state.driver := by
  have hreset : P (s.resetBus drv).state.driver := by
    unfold resetBus
    split
    · exact h
    · rw [exchange_eq, driver_relayAll]
      exact hP.busReset _ _ h
  have hreturned := driver_returnClass hP hreset .deinitFailed
  show P (((s.resetBus drv).returnClass drv .deinitFailed).reEnumerate drv).state.driver
  unfold reEnumerate
  split
  · exact hreturned
  · rw [exchange_eq, driver_relayAll]
    exact hP.reEnumerate _ _ hreturned

theorem driver_release (h : P s.state.driver) : P (s.release drv).state.driver := by
  have hreturned := driver_returnClass hP h .deinitAfterDetach
  show P ((s.returnClass drv .deinitAfterDetach).noteInFlight).state.driver
  unfold noteInFlight
  split <;> exact hreturned

theorem driver_initialise (h : P s.state.driver) (device : DeviceHandle) :
    P (s.initialise drv device).state.driver := by
  have hd := hP.init _ device h
  unfold initialise
  rw [exchange_eq]
  split
  · rename_i he
    obtain ⟨rfl, -⟩ := Prod.mk.inj he
    exact hd
  · rename_i he
    obtain ⟨rfl, -⟩ := Prod.mk.inj he
    rw [driver_advance]
    exact hd

theorem driver_start (h : P s.state.driver) (target : ClassHandle) (request : ClassCall)
    (length : Nat) : P (s.start drv target request length).state.driver := by
  have hdelivered : ∀ ds, P ((s.handOver drv target request length).deliverAll
      ds).state.driver := by
    intro ds
    rw [driver_deliverAll, driver_handOver]
    exact hP.submit _ _ _ _ h
  rw [start_eq]
  split
  · exact hdelivered _
  · exact hdelivered _

/-- What a driver preserves holds after every request. -/
theorem Outcome.driver (o : Outcome drv s q t) (h : P s.state.driver) : P t.state.driver := by
  cases o with
  | released => exact driver_release hP h
  | initialised device _ _ _ => exact driver_initialise hP (s := s.setPhase .attached) h device
  | started p target request length _ _ _ _ =>
    exact driver_start hP (s := s.setPhase p) h target request length
  | skipped =>
    rw [driver_advance]
    exact h
  | finished => exact driver_finish hP (s := s.setPhase .complete) h
  | advanced x r op p _ _ =>
    rwa [driver_advance, driver_settled]
  | failed x r op cause _ _ =>
    show P (s.settled op x r).state.driver
    rwa [driver_settled]
  | dropped | ignored | stale | bound | blocked | reported => exact h

end

end Session

/-! ## What the accelerator holds -/

namespace Accelerator

variable {α : Type}

/-- Only an accelerator that holds completions back has any. -/
def Prompt (a : Accelerator α) : Prop := a.deferred = false → a.held = []

theorem prompt_submit {a : Accelerator α} (h : a.Prompt) (target : ClassHandle)
    (request : ClassCall) (x : α) : (a.submit target request x).1.Prompt := by
  intro hprompt
  obtain ⟨hd, hcases⟩ := a.submit_cases target request x
  have ha : a.deferred = false := hd.symm.trans hprompt
  rcases hcases with ⟨_, -, hh⟩ | ⟨_, _, -, hdeferred, -⟩ | ⟨_, _, -, -, hh⟩
  · exact hh.trans (h ha)
  · simp [ha] at hdeferred
  · exact hh.trans (h ha)

theorem preserves_prompt : driver.Preserves Prompt where
  init a wanted h := by
    show (a.init wanted).1.Prompt
    unfold init
    dsimp only
    split <;> exact h
  submit a target request x h := prompt_submit h target request x
  deinit a _ target h := by
    show (a.deinit target).1.Prompt
    unfold deinit
    dsimp only
    split <;> exact h
  busReset _ _ h := h
  reEnumerate _ _ h := h

end Accelerator

/-! ## Something goes on -/

namespace Session

variable {κ : Type} {s t : Rig κ} {p : Phase} {q : Request} {waiting : List Request}
  {ticket : UInt32}

/-- A reply to the operation that drew a ticket waits, or is held by the accelerator behind all
others, or was refused by the queue, which the next request will show. -/
inductive Coming (s : Rig κ) (waiting : List Request) (ticket : UInt32) : Prop
  | waits (x : Completion) (r : Reply) : .completed x r ∈ waiting → x.ticket = ticket →
    Coming s waiting ticket
  | held (x : Completion) (r : Reply) : s.state.driver.held.getLast? = some (x, r) →
    x.ticket = ticket → Coming s waiting ticket
  | lost : s.state.lost = some ticket → waiting ≠ [] → s.state.driver.held = [] →
    Coming s waiting ticket

/-- A step that is possible waits, or the reply to the operation in flight is coming. -/
inductive Driven (s : Rig κ) (waiting : List Request) : Prop
  | due (p : Phase) : s.controller.inFlight = none → p ≠ .attached → .nextPhase p ∈ waiting →
    Driven s waiting
  | coming (op : InFlight) : s.controller.inFlight = some op → s.Coming waiting op.ticket →
    Driven s waiting

/-- The queue is open, and while an upgrade is under way something drives it. -/
structure Lively (s : Rig κ) : Prop where
  room : s.channel.Roomy
  prompt : s.state.driver.Prompt
  live : s.controller.phase.isWorking = true → s.controller.liveClass ≠ none
  driven : s.controller.phase.isWorking = true → s.Driven s.requests

/-- An upgrade at rest needs nothing. -/
theorem Lively.of_rest (hroom : s.channel.Roomy) (hprompt : s.state.driver.Prompt)
    (hp : s.controller.phase.isWorking = false) : s.Lively where
  room := hroom
  prompt := hprompt
  live h := by simp [hp] at h
  driven h := by simp [hp] at h

theorem Lively.of_fail (hroom : s.channel.Roomy) (hprompt : s.state.driver.Prompt)
    (cause : UpgradeError) : (s.fail cause).Lively :=
  .of_rest hroom hprompt (by simp [Phase.isWorking, Phase.isTerminal])

/-- A queue that refuses something is not empty. -/
theorem requests_ne_nil (h : s.channel.Roomy) {reason : QueueError}
    (hr : s.channel.refusal? = some reason) : s.requests ≠ [] := by
  intro hnil
  rw [refusal?_eq_none h hnil] at hr
  simp at hr

/-- What drives an upgrade does so while requests are only added. -/
theorem Driven.mono (h : s.Driven s.requests) (hc : t.controller = s.controller)
    (hr : s.requests ⊆ t.requests) (hlost : t.state.lost = s.state.lost)
    (hd : t.state.driver = s.state.driver) : t.Driven t.requests := by
  cases h with
  | due p hidle hp hmem => exact .due p (by rwa [hc]) hp (hr hmem)
  | coming op hop hcoming =>
    refine .coming op (by rwa [hc]) ?_
    cases hcoming with
    | waits x r hmem hx => exact .waits x r (hr hmem) hx
    | held x r hlast hx => exact .held x r (by rwa [hd]) hx
    | lost hl hne hnone =>
      refine .lost (hlost.trans hl) (fun hnil => ?_) (by rwa [hd])
      rw [hnil] at hr
      exact hne (List.subset_nil.mp hr)

theorem Lively.mono (h : s.Lively) (hroom : t.channel.Roomy) (hc : t.controller = s.controller)
    (hr : s.requests ⊆ t.requests) (hlost : t.state.lost = s.state.lost)
    (hd : t.state.driver = s.state.driver) : t.Lively where
  room := hroom
  prompt := by
    rw [hd]
    exact h.prompt
  live hp := by
    rw [hc] at hp ⊢
    exact h.live hp
  driven hp := (h.driven (by rwa [hc] at hp)).mono hc hr hlost hd

/-! ## The simulator -/

theorem requests_subset_deliver (s : Rig κ) (x : Completion) (r : Reply) :
    s.requests ⊆ (s.deliver x r).requests := by
  rcases requests_deliver (s := s) x r with h | h
  · rw [h]
    exact List.Subset.refl _
  · rw [h]
    exact List.subset_append_left _ _

/-- The last completion that is held is called: it waits, or its loss will show. -/
theorem coming_deliver (hroom : s.channel.Roomy) (hheld : s.state.driver.held = [])
    (x : Completion) (r : Reply) :
    (s.deliver x r).Coming (s.deliver x r).requests x.ticket := by
  cases hr : s.channel.refusal? with
  | none =>
    refine .waits x r ?_ rfl
    rw [deliver_of_room x r hr, requests_post (s := s.record (.completed x r)) _ hr]
    exact List.mem_append_right _ (List.mem_singleton_self _)
  | some reason =>
    have hne := requests_ne_nil hroom hr
    refine .lost ?_ (fun hnil => ?_) ?_
    · simp [deliver, hr]
    · have hsub := s.requests_subset_deliver x r
      rw [hnil] at hsub
      exact hne (List.subset_nil.mp hsub)
    · rwa [driver_deliver]

/-- The accelerator calls the oldest completion that it holds. -/
theorem Lively.deliver {x : Completion} {r : Reply} {rest : List (Completion × Reply)}
    {a : Accelerator Completion} (h : s.Lively) (hheld : s.state.driver.held = (x, r) :: rest)
    (hrest : a.held = rest) (hdeferred : a.deferred = s.state.driver.deferred) :
    ((s.withDriver a).deliver x r).Lively where
  room := channel_deliver (s := s.withDriver a) (fun _ _ _ hr => hr.send _) h.room x r
  prompt := by
    rw [driver_deliver]
    intro hprompt
    have hnone := h.prompt (hdeferred.symm.trans hprompt)
    simp [hheld] at hnone
  live hp := by
    rw [controller_deliver] at hp ⊢
    exact h.live hp
  driven hp := by
    rw [controller_deliver] at hp
    have hsub := (s.withDriver a).requests_subset_deliver x r
    cases h.driven hp with
    | due p hidle hne hmem => exact .due p (by rwa [controller_deliver]) hne (hsub hmem)
    | coming op hop hcoming =>
      refine .coming op (by rwa [controller_deliver]) ?_
      cases hcoming with
      | waits y r' hmem hy => exact .waits y r' (hsub hmem) hy
      -- The record of a loss is not overwritten: nothing is held behind the completion in question.
      | lost _ _ hnone => simp [hheld] at hnone
      | held y r' hlast hy =>
        rw [hheld] at hlast
        by_cases hnil : rest = []
        · subst hnil
          simp only [List.getLast?_singleton, Option.some.injEq, Prod.mk.injEq] at hlast
          rw [← hy, ← hlast.1]
          exact coming_deliver (s := s.withDriver a) h.room hrest x r
        · refine .held y r' ?_ hy
          rw [driver_deliver, driver_withDriver, hrest]
          rwa [List.getLast?_cons_of_ne_nil hnil] at hlast

/-! ## Requests -/

/-- The next phase waits, or the upgrade has failed for a full queue. -/
theorem Lively.advance (hroom : s.channel.Roomy) (hprompt : s.state.driver.Prompt)
    (hidle : s.controller.inFlight = none) (hlive : s.controller.liveClass ≠ none)
    (hp : p ≠ .attached) : (s.advance p).Lively := by
  cases hr : s.channel.refusal? with
  | none =>
    rw [advance_of_room p hr]
    refine ⟨hroom.send _, hprompt, fun _ => hlive, fun _ => .due p hidle hp ?_⟩
    rw [requests_post _ hr]
    exact List.mem_append_right _ (List.mem_singleton_self _)
  | some reason =>
    rw [advance_of_refusal p hr]
    exact .of_fail hroom hprompt _

/-- The completion of an operation that is accepted is held, or called before the call returns. -/
theorem Lively.start (hroom : s.channel.Roomy) (hprompt : s.state.driver.Prompt)
    {target : ClassHandle} (hlive : s.controller.liveClass = some target) (request : ClassCall)
    (length : Nat) : (s.start Accelerator.driver target request length).Lively := by
  have hroom' : (s.handOver Accelerator.driver target request length).channel.Roomy := by
    rwa [channel_handOver]
  have hlive' : (s.handOver Accelerator.driver target request length).controller.liveClass ≠
      none := by
    rw [controller_handOver]
    simp [Controller.begin, hlive]
  have hop : (s.handOver Accelerator.driver target request length).controller.inFlight =
      some ⟨s.controller.nextTicket, request.operation, length⟩ := by
    rw [controller_handOver]
    rfl
  have hprompt' : (s.handOver Accelerator.driver target request length).state.driver.Prompt := by
    rw [driver_handOver]
    exact Accelerator.prompt_submit hprompt _ _ _
  obtain ⟨hdeferred, hcases⟩ := s.state.driver.submit_cases target request
    ⟨s.controller.nextTicket, request.operation⟩
  rw [start_eq]
  rcases hcases with ⟨cause, ha, -⟩ | ⟨notices, r, ha, -, hheld⟩ | ⟨notices, r, ha, hnow, hheld⟩
  · rw [show s.answerTo Accelerator.driver target request = .refused cause from ha]
    exact .of_fail hroom' hprompt' _
  · rw [show s.answerTo Accelerator.driver target request = ⟨.ok (), notices, []⟩ from ha]
    refine ⟨hroom', hprompt', fun _ => hlive', fun _ => .coming _ hop ?_⟩
    refine .held ⟨s.controller.nextTicket, request.operation⟩ r ?_ rfl
    show (s.handOver Accelerator.driver target request length).state.driver.held.getLast? = _
    rw [driver_handOver, show (Accelerator.driver.submit _ _ _ _).1.held = _ from hheld]
    exact List.getLast?_concat
  · rw [show s.answerTo Accelerator.driver target request = ⟨.ok (), notices, [(_, r)]⟩ from ha]
    have hnone : (s.handOver Accelerator.driver target request length).state.driver.held = [] := by
      rw [driver_handOver]
      exact hheld.trans (hprompt hnow)
    show ((s.handOver Accelerator.driver target request length).deliver _ r).Lively
    refine ⟨channel_deliver (fun _ _ _ hr => hr.send _) hroom' _ _, ?_, fun _ => ?_, fun _ => ?_⟩
    · rwa [driver_deliver]
    · rwa [controller_deliver]
    · exact .coming _ (by rw [controller_deliver, hop]) (coming_deliver hroom' hnone _ _)

/-- A request that neither steps on nor completes the operation in flight is not what drives the
upgrade. -/
theorem Driven.tail (h : s.Driven (q :: waiting)) (hlost : s.state.lost = none)
    (hstep : ∀ p, q = .nextPhase p → p ≠ .attached → s.controller.inFlight ≠ none)
    (hreply : ∀ x r op, q = .completed x r → s.controller.inFlight = some op →
      x.ticket ≠ op.ticket) : s.Driven waiting := by
  cases h with
  | due p hidle hp hmem =>
    rcases List.mem_cons.mp hmem with hq | hmem
    · exact absurd hidle (hstep p hq.symm hp)
    · exact .due p hidle hp hmem
  | coming op hop hcoming =>
    refine .coming op hop ?_
    cases hcoming with
    | waits x r hmem hx =>
      rcases List.mem_cons.mp hmem with hq | hmem
      · exact absurd hx (hreply x r op hq.symm hop)
      · exact .waits x r hmem hx
    | held x r hlast hx => exact .held x r hlast hx
    | lost hl _ _ => simp [hlost] at hl

/-- What a request finds that was waiting in front of all others. -/
structure Facing (s : Rig κ) (q : Request) : Prop where
  room : s.channel.Roomy
  prompt : s.state.driver.Prompt
  lost : s.state.lost = none
  live : s.controller.phase.isWorking = true → s.controller.liveClass ≠ none
  driven : s.controller.phase.isWorking = true → s.Driven (q :: s.requests)

namespace Facing

/-- A request of which nothing comes leaves something that drives the upgrade. -/
theorem note (h : s.Facing q)
    (hstep : s.controller.phase.isWorking = true →
      ∀ p, q = .nextPhase p → p ≠ .attached → s.controller.inFlight ≠ none)
    (hreply : s.controller.phase.isWorking = true →
      ∀ x r op, q = .completed x r → s.controller.inFlight = some op → x.ticket ≠ op.ticket)
    (n : Notice) : (s.note n).Lively where
  room := h.room
  prompt := h.prompt
  live := h.live
  driven hp := by
    have hrest := (h.driven hp).tail h.lost (hstep hp) (hreply hp)
    exact hrest.mono rfl (List.Subset.refl _) rfl rfl

theorem dropped (h : s.Facing (.nextPhase p)) {n : Notice}
    (ho : s.controller.objection? p = some n) : (s.note n).Lively := by
  refine h.note (fun hp p' hq ha hidle => ?_) (fun _ _ _ _ hq => by simp at hq) n
  obtain rfl := Request.nextPhase.inj hq
  rcases Controller.of_objection?_eq_some ha ho with hl | hf | ht
  · exact h.live hp hl
  · exact hf hidle
  · simp [Phase.isWorking, ht] at hp

theorem stale {x : Completion} {r : Reply} (h : s.Facing (.completed x r))
    (hx : s.controller.awaited? x.ticket = none) (n : Notice) : (s.note n).Lively := by
  refine h.note (fun _ _ hq => by simp at hq) (fun hp y r' op hq hop ht => ?_) n
  obtain ⟨rfl, -⟩ := Request.completed.inj hq
  have hawaited := Controller.awaited?_eq_some_iff.mpr ⟨h.live hp, hop, ht.symm⟩
  simp [hx] at hawaited

/-- A class driver that is initialised goes on to select the interface. -/
theorem initialised (h : s.Facing q) (hidle : s.controller.inFlight = none)
    (device : DeviceHandle) :
    ((s.setPhase .attached).initialise Accelerator.driver device).Lively := by
  have hprompt := driver_initialise Accelerator.preserves_prompt (s := s.setPhase .attached) h.prompt
    device
  rcases initialise_answers Accelerator.driver (s.setPhase .attached) device with
    ⟨a, cause, he⟩ | ⟨a, target, he⟩
  · rw [he] at hprompt ⊢
    exact .of_fail (s := ((s.setPhase .attached).withDriver a).record
      (.exchange (.init device (.error cause)))) h.room hprompt _
  · rw [he, driver_advance] at hprompt
    rw [he]
    refine .advance (s := (s.setPhase .attached).initialised a device target) h.room hprompt ?_ (by simp [Controller.startOver]) (by simp)
    simpa [Controller.startOver, Controller.resetCounters] using hidle

/-- The success of an operation leads on to a phase that is no attach. -/
theorem advanced {x : Completion} {r : Reply} {op : InFlight} {p : Phase} (h : s.Facing q)
    (hx : s.controller.awaited? x.ticket = some op)
    (hv : (s.controller.conclude op x.operation r).next = .ok p) :
    ((s.settled op x r).advance p).Lively := by
  have ha := s.controller.conclude_alike op x.operation r
  refine .advance ?_ ?_ ?_ ?_ (Controller.conclude_postable hv).2.1
  · rw [channel_settled]
    exact h.room
  · rw [driver_settled]
    exact h.prompt
  · rw [controller_settled, ha.inFlight]
  · rw [controller_settled, ha.liveClass]
    exact (Controller.awaited?_eq_some_iff.mp hx).1

/-- Every outcome of a request leaves something that drives the upgrade, or the upgrade at rest. -/
theorem outcome (h : s.Facing q) (o : Outcome Accelerator.driver s q t) : t.Lively := by
  have hroom : t.channel.Roomy := o.channel (fun _ _ _ hr => hr.send _) h.room
  have hprompt : t.state.driver.Prompt := o.driver Accelerator.preserves_prompt h.prompt
  cases o with
  | dropped p n ho => exact h.dropped ho
  | ignored b _ =>
    exact h.note (fun _ _ hq => by simp at hq) (fun _ _ _ _ hq => by simp at hq) _
  | stale x r hx => exact h.stale hx _
  | initialised device _ hidle _ => exact h.initialised hidle device
  | started p target request length _ _ hl _ =>
    exact .start (s := s.setPhase p) h.room h.prompt (by simpa using hl) request length
  | skipped _ hidle hl _ =>
    exact .advance (s := s.setPhase .readBack) h.room h.prompt (by simpa using hidle)
      (by simpa using hl) (by simp)
  | advanced x r op p hx hv => exact h.advanced hx hv
  | released => exact .of_rest hroom hprompt (by simp [Phase.isWorking])
  | finished =>
    refine .of_rest hroom hprompt ?_
    rw [(finish_becomes _ _).controller]
    simp [Phase.isWorking, Phase.isTerminal]
  | blocked | failed =>
    exact .of_rest hroom hprompt (by simp [Phase.isWorking, Phase.isTerminal])
  | reported => exact .of_rest hroom hprompt (by simp [Phase.isWorking, Phase.isTerminal])
  | bound b hp =>
    exact .of_rest hroom hprompt (by simp [Phase.isWorking, Controller.bind, hp])

end Facing

/-- The oldest request is handled. -/
theorem Lively.handle (h : s.Lively) (hq : s.requests = q :: s.dropOldest.requests) :
    Lively (Session.handle Accelerator.driver s.dropOldest q).1 := by
  have ho := outcome_handle Accelerator.driver s.dropOldest q
  by_cases hb : Bereft s.dropOldest
  -- The request shows the loss, and the upgrade fails before it is dealt with.
  · have hnoticed := noticed_of_bereft hb q
    have hroom := ho.channel (P := Channel.Roomy) (fun _ _ _ hr => hr.send _) (by
      rw [hnoticed]
      exact h.room.dropOldest)
    have hprompt := ho.driver Accelerator.preserves_prompt (by
      rw [hnoticed]
      exact h.prompt)
    rcases ho.of_failed (by rw [hnoticed]; simp) (idle_noticed hb q) with ⟨-, n, he⟩ | ⟨-, he⟩
    · refine .of_rest hroom hprompt ?_
      rw [he, controller_note, hnoticed]
      simp [Phase.isWorking, Phase.isTerminal]
    · refine .of_rest hroom hprompt ?_
      rw [he]
      simp [Phase.isWorking]
  · have hu := (noticed_of_not_bereft hb q).1
    have hfacing : (s.dropOldest.noticed q).Facing q := by
      refine ⟨?_, ?_, lost_noticed _ q, ?_, fun hp => ?_⟩
      · rw [hu.channel]
        exact h.room.dropOldest
      · rw [hu.driver]
        exact h.prompt
      · rw [hu.controller]
        exact h.live
      · rw [hu.controller] at hp
        rw [hu.requests_eq, ← hq]
        cases h.driven hp with
        | due p hidle hne hmem => exact .due p (by rwa [hu.controller]) hne hmem
        | coming op hop hcoming =>
          refine .coming op (by rwa [hu.controller]) ?_
          cases hcoming with
          | waits x r hmem hx => exact .waits x r hmem hx
          | held x r hlast hx => exact .held x r (by rwa [hu.driver]) hx
          | lost hl _ _ => exact absurd ⟨op, hop, hl⟩ hb
    exact hfacing.outcome ho

end Session

namespace Installation

variable {κ : Type} {start i : Installation (Accelerator Completion) κ}

/-- A run of a controller with the accelerator: events of the host stack, requests that the worker
handles, completions that the accelerator is asked for, and requests of any kind that others
send. -/
inductive Operated (start : Installation (Accelerator Completion) κ) :
    Installation (Accelerator Completion) κ → Prop
  | start : Operated start start
  | event {i : Installation (Accelerator Completion) κ} (vendor product : UInt16)
    (host : HostHandle) (device : DeviceHandle) (event : HostEvent) : Operated start i →
    Operated start (i.dispatch vendor product host device event).1
  | work {i : Installation (Accelerator Completion) κ} : Operated start i →
    Operated start (i.move Accelerator.driver .work)
  | complete {i : Installation (Accelerator Completion) κ} : Operated start i →
    Operated start (i.deliverNext Accelerator.backlog)
  | send {i : Installation (Accelerator Completion) κ} (q : Request) (callback : Option κ) :
    Operated start i → Operated start (i.send q callback).1

theorem lively_new (faults : Faults) (deferred : Bool) (image : Bytes) (config : Config) :
    (new (Accelerator.new faults deferred) image config :
      Installation (Accelerator Completion) κ).session.Lively := by
  refine .of_rest ⟨rfl, ?_⟩ (fun _ => rfl) rfl
  exact Nat.le_max_right _ _

theorem lively_event (h : i.session.Lively) (vendor product : UInt16) (host : HostHandle)
    (device : DeviceHandle) (event : HostEvent) :
    (i.dispatch vendor product host device event).1.session.Lively := by
  obtain ⟨channel, notices, hs, -, hc⟩ := i.session_dispatch vendor product host device event
  have hsub : i.session.requests ⊆
      Session.requests { i.session with channel := channel } ∧ channel.Roomy := by
    rcases hc with rfl | ⟨q, -, hr, rfl⟩
    · exact ⟨List.Subset.refl _, h.room⟩
    · refine ⟨?_, h.room.send q⟩
      show _ ⊆ (i.session.post q).requests
      rw [Session.requests_post q hr]
      exact List.subset_append_left _ _
  rw [hs]
  refine h.mono ?_ ?_ ?_ ?_ ?_
  · rw [Session.channel_noteAll]
    exact hsub.2
  · rw [Session.controller_noteAll]
  · rw [Session.requests_noteAll]
    exact hsub.1
  · rw [Session.lost_noteAll]
  · rw [Session.driver_noteAll]

theorem lively_deliverNext (h : i.session.Lively) :
    (i.deliverNext Accelerator.backlog).session.Lively := by
  cases hheld : i.driver.held with
  | nil =>
    have hs : (i.deliverNext Accelerator.backlog).session = i.session := by
      simp [deliverNext, Accelerator.backlog, Accelerator.takeHeld, hheld, modify]
      rfl
    rwa [hs]
  | cons d rest =>
    obtain ⟨x, r⟩ := d
    have hs : (i.deliverNext Accelerator.backlog).session =
        (i.session.withDriver
          { i.driver with held := rest, outstanding := i.driver.outstanding - 1 }).deliver x r := by
      simp [deliverNext, Accelerator.backlog, Accelerator.takeHeld, hheld, modify]
      rfl
    rw [hs]
    exact h.deliver hheld rfl rfl

theorem lively_send (h : i.session.Lively) (q : Request) (callback : Option κ) :
    (i.send q callback).1.session.Lively := by
  have hbeside : Session.Beside (fun _ => True) i.session (i.send q callback).1.session :=
    beside_send i callback trivial
  refine h.mono (h.room.push _) rfl ?_ rfl rfl
  rcases hbeside.requests with hr | ⟨q', -, hr⟩
  · rw [hr]
    exact List.Subset.refl _
  · rw [hr]
    exact List.subset_append_left _ _

theorem lively_work (h : i.session.Lively) :
    (i.move Accelerator.driver .work).session.Lively := by
  rcases i.session_work Accelerator.driver with ⟨-, hs⟩ | ⟨q, hq, hs⟩
  · rwa [hs]
  · rw [hs]
    exact h.handle hq

theorem Operated.lively (h : Operated start i) (h0 : start.session.Lively) :
    i.session.Lively := by
  induction h with
  | start => exact h0
  | event vendor product host device event _ ih =>
    exact lively_event ih vendor product host device event
  | work _ ih => exact lively_work ih
  | complete _ ih => exact lively_deliverNext ih
  | send q callback _ ih => exact lively_send ih q callback

/-- In every run, when no request waits and the accelerator holds no completion, the device is not
attached or the upgrade complete or failed: it never waits for something that does not come. -/
theorem at_rest (faults : Faults) (deferred : Bool) (image : Bytes) (config : Config)
    (h : Operated (new (Accelerator.new faults deferred) image config) i)
    (hrequests : i.session.requests = []) (hheld : i.driver.held = []) :
    i.controller.phase = .unattached ∨ i.controller.phase = .complete ∨
      i.controller.phase = .error := by
  have hlively := h.lively (lively_new faults deferred image config)
  by_contra hrest
  have hworking : i.controller.phase.isWorking = true := by
    cases hp : i.controller.phase with
    | unattached | complete | error => simp [hp] at hrest
    | _ => rfl
  cases hlively.driven hworking with
  | due p _ _ hmem => simp [hrequests] at hmem
  | coming op _ hcoming =>
    cases hcoming with
    | waits x r hmem _ => simp [hrequests] at hmem
    | held x r hlast _ =>
      rw [show i.session.state.driver.held = [] from hheld] at hlast
      simp at hlast
    | lost _ hne _ => exact hne hrequests

theorem Operated.works (h : Operated start i) (n : Nat) :
    Operated start ((·.move Accelerator.driver .work)^[n] i) := by
  induction n with
  | zero => exact h
  | succ n ih =>
    rw [Function.iterate_succ_apply']
    exact ih.work

theorem Operated.sends (h : Operated start i) (q : Request) (n : Nat) :
    Operated start ((fun j => (j.send q none).1)^[n] i) := by
  induction n with
  | zero => exact h
  | succ n ih =>
    rw [Function.iterate_succ_apply']
    exact ih.send q none

def holdingBack : Installation (Accelerator Completion) Unit :=
  new (Accelerator.new .none true) #[7] .standard

/-- The accelerator is attached and enumerated. -/
def enumerated : Installation (Accelerator Completion) Unit :=
  ((holdingBack.dispatch dfuVendor dfuProduct Accelerator.host Accelerator.device
    (.attach Accelerator.configuration)).1.dispatch dfuVendor dfuProduct Accelerator.host
      Accelerator.device .enumerationDone).1

/-- The accelerator has been asked for its interface and holds the completion back, and others fill
the queue. -/
def saturated : Installation (Accelerator Completion) Unit :=
  (fun j => (j.send (.nextPhase .getStatus) none).1)^[16]
    ((·.move Accelerator.driver .work)^[3] enumerated)

/-- The completion is called and lost, and the worker handles all that waits. -/
def overrun : Installation (Accelerator Completion) Unit :=
  (·.move Accelerator.driver .work)^[16] (saturated.deliverNext Accelerator.backlog)

theorem operated_overrun : Operated holdingBack overrun := by
  have henumerated : Operated holdingBack enumerated :=
    .event _ _ _ _ _ (.event _ _ _ _ _ .start)
  have hsaturated : Operated holdingBack saturated := (henumerated.works 3).sends _ 16
  exact hsaturated.complete.works 16

theorem overrun_at_rest :
    overrun.controller.phase = .error ∧ overrun.controller.lastError = some .queueFull := by
  have hrest := at_rest .none true #[7] .standard operated_overrun (by decide +kernel)
    (by decide +kernel)
  refine ⟨?_, by decide +kernel⟩
  rcases hrest with hu | hc | he
  · exact absurd hu (by decide +kernel)
  · exact absurd hc (by decide +kernel)
  · exact he

end Installation

end FirmwareUpgrade
