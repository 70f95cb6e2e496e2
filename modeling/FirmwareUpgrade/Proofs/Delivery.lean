import FirmwareUpgrade.Proofs.Device
import FirmwareUpgrade.Proofs.Fulfilment

/-!
# A controller with the accelerator

The accelerator without faults is plugged in, and the controller handles one request after the
other. Between two requests the device was just plugged in (`Fresh`), the step to a phase is due
(`Due`), an operation is in flight that the device has carried out (`Issued`), or all is done
(`Done`). There is one lemma for each request: what it is found in and what it leaves.
-/
namespace FirmwareUpgrade

namespace Channel

variable {ρ κ : Type} {c : Channel ρ κ}

/-- A queue that is open and no smaller than the least one. -/
structure Roomy (c : Channel ρ κ) : Prop where
  isOpen : c.isOpen = true
  capacity : minQueueCapacity ≤ c.capacity

theorem roomy_bounded (capacity : Nat) : (bounded capacity : Channel ρ κ).addSender.Roomy :=
  ⟨rfl, Nat.le_max_right _ _⟩

theorem Roomy.refusal?_eq_none (h : c.Roomy) (hw : c.waiting.length < minQueueCapacity) :
    c.refusal? = none := by
  simp [refusal?, h.isOpen, Nat.lt_of_lt_of_le hw h.capacity]

theorem Roomy.push (h : c.Roomy) (e : Envelope ρ κ) : (c.push e).Roomy := by
  unfold Channel.push
  split
  · exact ⟨h.isOpen, h.capacity⟩
  · exact h

theorem Roomy.send (h : c.Roomy) (request : ρ) : (c.send request).Roomy := h.push _

theorem Roomy.dropOldest (h : c.Roomy) : c.dropOldest.Roomy := ⟨h.isOpen, h.capacity⟩

end Channel

namespace Task.Step

variable {t : Task} {p q : Phase} {i j : Nat} {request : ClassCall}

/-- Operations are issued in phases that can be left. -/
theorem phase (h : t.Step p i request q j) :
    p ≠ .unattached ∧ p ≠ .attached ∧ p.isTerminal = false := by
  cases h <;> simp [Phase.isTerminal]

/-- No operation leads back to the selection of the interface. -/
theorem ne_setInterface (h : t.Step p i request q j) : q ≠ .setInterface := by
  cases h <;> (try split) <;> simp

end Task.Step

namespace Controller

variable {c d : Controller} {t : Task} {target : ClassHandle} {p q : Phase} {i j : Nat}
  {request : ClassCall} {op : InFlight} {data : Bytes}

/-- The accelerator is bound and its class driver initialised. -/
structure Attended (c : Controller) (t : Task) (target : ClassHandle) : Prop where
  live : c.liveClass = some target
  host : c.boundHost = some Accelerator.host
  device : c.boundDevice = some Accelerator.device
  interface : c.boundInterface = some t.interface

/-- The step to phase `p` is due, with `i` blocks through. -/
structure Ready (c : Controller) (t : Task) (target : ClassHandle) (p : Phase) (i : Nat) : Prop
    extends c.Attended t target where
  phase : c.phase ≠ .unattached ∧ c.phase.isTerminal = false
  idle : c.inFlight = none
  leg : ∃ done compared, c.Leg t target .setInterface done compared p i ∧ Faithful t done p i
  tally : c.Tally p

/-- An operation is in flight to which `data` is the reply. It leads to phase `q` with `j` blocks
through. -/
structure Engaged (c : Controller) (t : Task) (target : ClassHandle) (op : InFlight) (data : Bytes)
    (q : Phase) (j : Nat) : Prop extends c.Attended t target where
  inFlight : c.inFlight = some op
  leg : ∃ done compared request i, c.Leg t target .setInterface done compared c.phase i ∧
    Faithful t done c.phase i ∧ t.Step c.phase i request q j ∧
    c.action c.phase = .start request op.length ∧ t.Answers i request data
  buffer : c.phase = .readBack ∨ c.phase = .getStatusRead → c.readback.isSome
  tally : c.Tally c.phase

theorem Attended.alike (h : c.Attended t target) (hd : c.Alike d) : d.Attended t target where
  live := hd.liveClass.trans h.live
  host := hd.boundHost.trans h.host
  device := hd.boundDevice.trans h.device
  interface := hd.boundInterface.trans h.interface

theorem Attended.enter (h : c.Attended t target) (p : Phase) : (c.enter p).Attended t target where
  live := (liveClass_enter c p).trans h.live
  host := (boundHost_enter c p).trans h.host
  device := (boundDevice_enter c p).trans h.device
  interface := (boundInterface_enter c p).trans h.interface

/-- While the image is read back there is a buffer. -/
theorem Leg.buffered {done : List Issue} {compared : Bool}
    (h : c.Leg t target .setInterface done compared p i)
    (hp : p = .readBack ∨ p = .getStatusRead) : (c.enter p).readback.isSome := by
  rcases hp with rfl | rfl
  · rw [readback_enter_readBack]
    rfl
  · rw [readback_enter_of_ne _ _ (by simp)]
    exact h.place.2.2.resolve_left (by simp)

theorem Ready.engage (h : c.Ready t target p i) (hs : t.Step p i request q j)
    (ha : c.action p = .start request op.length) (hd : t.Answers i request data)
    (ticket : UInt32) :
    Engaged { c.enter p with nextTicket := ticket, inFlight := some op } t target op data q j := by
  obtain ⟨done, compared, hleg, hfaithful⟩ := h.leg
  have hphase : (c.enter p).phase = p := phase_enter c p
  refine ⟨{ h.toAttended.enter p with }, rfl, ⟨done, compared, request, i, ?_⟩, ?_, ?_⟩
  · dsimp only
    rw [hphase]
    refine ⟨hleg.enter.congr rfl rfl rfl rfl rfl rfl, hfaithful, hs, ?_, hd⟩
    exact (action_enter c p p).trans ha
  · dsimp only
    rw [hphase]
    exact hleg.buffered
  · dsimp only
    rw [hphase]
    exact h.tally.enter

/-- The operation in flight leads to the next step. -/
theorem Engaged.conclude (h : c.Engaged t target op data q j) (operation : Operation) :
    (c.conclude op operation (.ok data)).next = .ok q ∧
      (c.conclude op operation (.ok data)).controller.Ready t target q j := by
  obtain ⟨done, compared, request, i, hleg, hfaithful, hs, ha, hd⟩ := h.leg
  obtain ⟨hnext, htally, done', compared', hleg', hfaithful'⟩ :=
    hleg.fulfil rfl hs ha h.buffer hfaithful h.tally hd operation
  have halike := conclude_alike c op operation (.ok data)
  have hattended : Attended { c with inFlight := none } t target :=
    ⟨h.live, h.host, h.device, h.interface⟩
  refine ⟨hnext, hattended.alike halike, ?_, halike.inFlight, ⟨done', compared', hleg', hfaithful'⟩,
    htally⟩
  rw [halike.phase]
  exact ⟨hs.phase.1, hs.phase.2.2⟩

/-- Of an empty image nothing is read back. -/
theorem Ready.skip (h : c.Ready t target .readBack i) (hc : c.chunkLength = 0) :
    i = 0 ∧ t.blockCount = 0 ∧ (c.enter .readBack).Ready t target .getStatusRead 0 := by
  obtain ⟨done, compared, hleg, hfaithful⟩ := h.leg
  have hz : (c.enter .readBack).chunkLength = 0 := by
    rw [hleg.enter.chunkLength_eq, ← hleg.chunkLength_eq, hc]
  obtain ⟨rfl, hn, hleg'⟩ := hleg.enter.skip hz (by rw [readback_enter_readBack]; rfl)
  refine ⟨rfl, hn, h.toAttended.enter .readBack, ?_, ?_, ⟨done, compared, hleg', hfaithful⟩, ?_⟩
  · rw [phase_enter]
    exact ⟨by simp, rfl⟩
  · exact (inFlight_enter c _).trans h.idle
  · exact h.tally.enter

end Controller

/-- A session of the accelerator. -/
abbrev Rig (κ : Type) := Session (Accelerator Completion) κ

namespace Session

variable {κ : Type} {s : Rig κ} {t : Task} {target : ClassHandle} {op : InFlight} {data : Bytes}
  {p q : Phase} {i j : Nat}

/-- All is ready for the step to phase `p`, with `i` blocks through. -/
structure Due (s : Rig κ) (t : Task) (target : ClassHandle) (p : Phase) (i : Nat) : Prop where
  ready : s.controller.Ready t target p i
  lost : s.state.lost = none
  room : s.channel.Roomy
  along : s.state.driver.Along t target p i
  held : s.state.driver.held = []
  outstanding : s.state.driver.outstanding = 0
  peak : s.state.driver.maxOutstanding = if p = .setInterface then 0 else 1

/-- An operation is in flight that leads to phase `q` with `j` blocks through, and the device has
carried it out. -/
structure Issued (s : Rig κ) (t : Task) (target : ClassHandle) (op : InFlight) (data : Bytes)
    (q : Phase) (j : Nat) : Prop where
  engaged : s.controller.Engaged t target op data q j
  lost : s.state.lost = none
  room : s.channel.Roomy
  along : s.state.driver.Along t target q j
  outstanding : s.state.driver.outstanding = s.state.driver.held.length
  peak : s.state.driver.maxOutstanding = 1

/-- The upgrade is complete, and the accelerator holds the image. -/
structure Done (s : Rig κ) (t : Task) : Prop where
  image : s.controller.image = t.image
  phase : s.controller.phase = .complete
  live : s.controller.liveClass = none
  allocations : s.controller.readbackAllocations = 1
  frees : s.controller.readbackFrees = 1
  memory : s.state.driver.memory = t.image
  held : s.state.driver.held = []
  peak : s.state.driver.maxOutstanding = 1
  calls : s.state.driver.calls.toList =
    .init :: t.schedule.map ClassCall.record ++ [.busReset, .deinit, .reEnumerate]

/-! ## The step to a phase -/

section
variable {δ : Type} (drv : Driver δ) {s : Session δ κ}

theorem requests_eq_nil_iff : s.requests = [] ↔ s.channel.waiting = [] := by
  simp [requests]

theorem refusal?_eq_none (hr : s.channel.Roomy) (hreq : s.requests = []) :
    s.channel.refusal? = none := by
  refine hr.refusal?_eq_none ?_
  rw [requests_eq_nil_iff.mp hreq]
  simp [minQueueCapacity]

/-- A step that the controller does not object to is made. -/
theorem handle_step_eq (hlost : s.state.lost = none) (hu : p ≠ .unattached) (ho : s.controller.objection? p = none) :
    (handle drv s (.nextPhase p)).1 =
      ((s.record (.taken (.nextPhase p))).setPhase p).perform drv (s.controller.action p) := by
  rw [handle_of_lost_eq_none _ hlost, take, step, controller_record, ho]
  exact if_neg hu

/-- Between two operations there is no objection to the step that is due. -/
theorem handle_of_leg {opening : Phase} {done : List Issue} {compared : Bool}
    (hlost : s.state.lost = none) (hleg : s.controller.Leg t target opening done compared p i)
    (hphase : s.controller.phase ≠ .unattached ∧ s.controller.phase.isTerminal = false)
    (hlive : s.controller.liveClass = some target) (hidle : s.controller.inFlight = none) :
    (handle drv s (.nextPhase p)).1 =
      ((s.record (.taken (.nextPhase p))).setPhase p).perform drv (s.controller.action p) := by
  have hp : p ≠ .unattached ∧ p ≠ .attached := by
    have hplace := hleg.place
    constructor <;> rintro rfl <;> exact hplace
  exact handle_step_eq drv hlost hp.1 (by simp [Controller.objection?, hp, hphase, hlive, hidle])

/-- Behind the entry into a phase the queue and the driver are still as they were. -/
theorem setPhase_taken (s : Session δ κ) (q : Request) (p : Phase) :
    ∃ u : Session δ κ, (s.record (.taken q)).setPhase p = u ∧
      u.controller = s.controller.enter p ∧ u.state.driver = s.state.driver ∧
      u.state.lost = s.state.lost ∧ u.channel = s.channel ∧ u.requests = s.requests :=
  ⟨_, rfl, rfl, rfl, rfl, rfl, rfl⟩

/-- An operation that is handed over is in flight, and the driver has it. -/
theorem handOver_taken (s : Session δ κ) (target : ClassHandle) (request : ClassCall)
    (length : Nat) :
    ∃ u : Session δ κ, s.handOver drv target request length = u ∧
      u.controller = (s.controller.begin request.operation length).1 ∧
      u.state.driver = (drv.submit s.state.driver target request
        ⟨s.controller.nextTicket, request.operation⟩).1 ∧
      u.state.lost = s.state.lost ∧ u.channel = s.channel ∧ u.requests = s.requests :=
  ⟨_, rfl, controller_handOver .., driver_handOver .., lost_handOver .., channel_handOver ..,
    requests_handOver ..⟩

/-- A new controller takes down the identity of the device. -/
theorem handle_bind {image : Bytes} {config : Config} (hlost : s.state.lost = none)
    (hc : s.controller = .new image config) (b : Binding) :
    (handle drv s (.bind b)).1 =
      ((s.record (.taken (.bind b))).note (.bound b)).modify
        (·.bind b.host b.device b.interface) := by
  have hp : (s.record (.taken (.bind b))).controller.phase = .unattached :=
    congrArg Controller.phase hc
  rw [handle_of_lost_eq_none _ hlost, take, Session.bind, if_pos hp]

/-- The attach of a device has its class driver initialised. -/
theorem handle_attach {image : Bytes} {config : Config} {host : HostHandle} {device : DeviceHandle}
    {interface : InterfaceHandle} (hlost : s.state.lost = none)
    (hc : s.controller = (Controller.new image config).bind host device interface) :
    (handle drv s (.nextPhase .attached)).1 =
      ((s.record (.taken (.nextPhase .attached))).setPhase .attached).initialise drv device := by
  have haction : s.controller.action .attached = .initialise device := by
    rw [hc]
    rfl
  rw [handle_step_eq drv hlost (by simp) (by rw [hc]; rfl), haction]
  rfl

/-- With the class driver the upgrade begins, and the selection of the interface is due. -/
theorem initialise_of_ok {device : DeviceHandle} {d : δ}
    (h : drv.init s.state.driver device = (d, .ok target)) (hroom : s.channel.Roomy)
    (hreq : s.requests = []) :
    (s.initialise drv device).controller = s.controller.startOver target ∧
      (s.initialise drv device).state.driver = d ∧
      (s.initialise drv device).state.lost = s.state.lost ∧
      (s.initialise drv device).channel.Roomy ∧
      (s.initialise drv device).requests = [.nextPhase .setInterface] := by
  have hrefusal := refusal?_eq_none hroom hreq
  simp only [initialise, exchange_eq, h]
  rw [advance_of_room _ (by simpa using hrefusal)]
  refine ⟨by simp, by simp, by simp, by simpa using hroom.send _, ?_⟩
  rw [requests_post _ (by simpa using hrefusal)]
  simp [hreq]

end

theorem Due.handle_eq (h : Due s t target p i) :
    (handle Accelerator.driver s (.nextPhase p)).1 =
      ((s.record (.taken (.nextPhase p))).setPhase p).perform Accelerator.driver
        (s.controller.action p) := by
  obtain ⟨done, compared, hleg, -⟩ := h.ready.leg
  exact handle_of_leg _ h.lost hleg h.ready.phase h.ready.live h.ready.idle

/-- The driver calls the completion of the operation in flight. -/
theorem Issued.deliver (h : Issued s t target op data q j) (hreq : s.requests = []) (x : Completion)
    (r : Reply) :
    Issued (s.deliver x r) t target op data q j ∧ (s.deliver x r).requests = [.completed x r] := by
  have hroom := refusal?_eq_none h.room hreq
  rw [deliver_of_room x r hroom]
  refine ⟨⟨h.engaged, h.lost, h.room.send _, h.along, h.outstanding, h.peak⟩, ?_⟩
  refine (requests_post (s := s.record _) _ hroom).trans ?_
  rw [requests_record, hreq]
  rfl

/-- The device carries out the operation of the phase, and either calls the completion at once or
holds it back. -/
theorem Due.issue (h : Due s t target p i) (hreq : s.requests = []) (hn : t.blockCount ≤ 65536)
    (hi : t.interface = Accelerator.interface) {request : ClassCall} {length : Nat}
    (ha : s.controller.action p = .start request length) :
    ∃ op data q j, t.Step p i request q j ∧
      Issued (handle Accelerator.driver s (.nextPhase p)).1 t target op data q j ∧
      (requests (handle Accelerator.driver s (.nextPhase p)).1 = [] ∧
          (handle Accelerator.driver s (.nextPhase p)).1.state.driver.held =
            [(⟨op.ticket, op.operation⟩, .ok data)] ∨
        requests (handle Accelerator.driver s (.nextPhase p)).1 =
            [.completed ⟨op.ticket, op.operation⟩ (.ok data)] ∧
          (handle Accelerator.driver s (.nextPhase p)).1.state.driver.held = []) := by
  obtain ⟨done, compared, hleg, -⟩ := h.ready.leg
  obtain ⟨q, j, hs⟩ := hleg.step_of_start ha
  let x : Completion := ⟨s.controller.nextTicket, request.operation⟩
  let op : InFlight := ⟨s.controller.nextTicket, request.operation, length⟩
  obtain ⟨b, data, notices, hb, hd, -, hpeak, hout, hheld, hsubmit⟩ :=
    h.along.submit hs hn hi h.held h.outstanding x
  refine ⟨op, data, q, j, hs, ?_⟩
  rw [h.handle_eq, ha]
  obtain ⟨u, hu, huc, hud, hul, hur, huq⟩ := s.setPhase_taken (.nextPhase p) p
  have hlive : u.controller.liveClass = some target := by
    rw [huc, Controller.liveClass_enter, h.ready.live]
  have hticket : u.controller.nextTicket = s.controller.nextTicket := by
    rw [huc, Controller.nextTicket_enter]
  have hanswer : u.answerTo Accelerator.driver target request =
      ⟨.ok (), notices, if s.state.driver.deferred then [] else [(x, .ok data)]⟩ := by
    rw [answerTo, hud, hticket]
    exact congrArg Prod.snd hsubmit
  obtain ⟨w, hw, hwc, hwd, hwl, hwr, hwq⟩ :=
    u.handOver_taken Accelerator.driver target request length
  have hdriver : w.state.driver = b := by
    rw [hwd, hud, hticket]
    exact congrArg Prod.fst hsubmit
  have hcontroller : w.controller = { s.controller.enter p with
      nextTicket := s.controller.nextTicket + 1, inFlight := some op } := by
    rw [hwc, Controller.begin, hticket, huc]
  have hrequests : w.requests = [] := hwq.trans (huq.trans hreq)
  have hissued : Issued w t target op data q j := by
    refine ⟨?_, hwl.trans (hul.trans h.lost), hwr ▸ hur ▸ h.room, hdriver ▸ hb, hdriver ▸ hout, ?_⟩
    · rw [hcontroller]
      exact h.ready.engage hs ha hd _
    · rw [hdriver, hpeak, h.peak]
      split <;> rfl
  rw [← hdriver] at hheld
  simp only [hu, perform, hlive]
  rw [start_eq, hanswer, hw]
  cases hdeferred : s.state.driver.deferred with
  | true =>
    rw [hdeferred] at hheld
    exact ⟨hissued, .inl ⟨hrequests, hheld⟩⟩
  | false =>
    rw [hdeferred] at hheld
    obtain ⟨hissued', hrequests'⟩ := hissued.deliver hrequests x (.ok data)
    exact ⟨hissued', .inr ⟨hrequests', (congrArg _ (driver_deliver x (.ok data))).trans hheld⟩⟩

/-- Of an empty image nothing is read back. -/
theorem Due.skip (h : Due s t target .readBack i) (hreq : s.requests = [])
    (hc : s.controller.chunkLength = 0) (ha : s.controller.action .readBack = .skip .getStatusRead) :
    i = 0 ∧ t.blockCount = 0 ∧
      Due (handle Accelerator.driver s (.nextPhase .readBack)).1 t target .getStatusRead 0 ∧
      requests (handle Accelerator.driver s (.nextPhase .readBack)).1 =
        [.nextPhase .getStatusRead] := by
  obtain ⟨rfl, hn, hready⟩ := h.ready.skip hc
  have hroom : ((s.record (.taken (.nextPhase .readBack))).setPhase .readBack).channel.refusal? =
      none := refusal?_eq_none h.room hreq
  rw [h.handle_eq, ha, perform, advance_of_room _ hroom]
  have hcalls := h.along.calls
  rw [t.agenda_readBack_empty hn] at hcalls
  refine ⟨rfl, hn, ⟨hready, h.lost, h.room.send _, ?_, h.held, h.outstanding, h.peak⟩, ?_⟩
  · exact { h.along with calls := hcalls }
  · rw [requests_post _ hroom, requests_setPhase, requests_record, hreq]
    rfl

/-- At the end the bus is reset, the class handle given back and the device enumerated again. -/
theorem accelerator_finish (h : s.controller.Attended t target)
    (ha : s.state.driver.liveClass = some target) :
    (s.finish Accelerator.driver).state.driver =
      { s.state.driver with
        liveClass := none
        calls := ((s.state.driver.calls.push .busReset).push .deinit).push .reEnumerate } := by
  have hlive := h.live
  have hhost := h.host
  have hdevice := h.device
  simp [finish, resetBus, returnClass, reEnumerate, exchange_eq, hlive, hhost, hdevice, ha,
    Accelerator.driver, Accelerator.busReset, Accelerator.deinit, Accelerator.reEnumerate,
    Accelerator.log]

theorem Due.finish (h : Due s t target .complete i) :
    Done (handle Accelerator.driver s (.nextPhase .complete)).1 t ∧
      requests (handle Accelerator.driver s (.nextPhase .complete)).1 = s.requests := by
  obtain ⟨done, compared, hleg, -⟩ := h.ready.leg
  have hf := finish_becomes Accelerator.driver
    ((s.record (.taken (.nextPhase .complete))).setPhase .complete)
  rw [h.handle_eq, show s.controller.action .complete = .finish from rfl, perform]
  refine ⟨?_, hf.requests_eq⟩
  obtain ⟨hbuffer, hallocations, hfrees⟩ := h.ready.tally
  have hcontroller := hf.controller
  have hdriver := accelerator_finish (s := (s.record (.taken (.nextPhase .complete))).setPhase .complete)
    (h.ready.toAttended.enter .complete) h.along.live
  rw [controller_setPhase, controller_record] at hcontroller
  have hcalls := h.along.calls
  rw [show t.agenda .complete i = [] from rfl, List.map_nil, List.append_nil] at hcalls
  constructor
  · rw [hcontroller]
    exact hleg.image.symm
  · rw [hcontroller]
    rfl
  · rw [hcontroller]
  · rw [hcontroller]
    exact hallocations
  · rw [hcontroller]
    exact hfrees
  · rw [hdriver]
    exact h.along.content
  · rw [hdriver]
    exact h.held
  · rw [hdriver]
    exact h.peak
  · rw [hdriver, ← hcalls]
    simp

/-- The completion of the operation in flight makes the next step due. -/
theorem Issued.handle (h : Issued s t target op data q j) (hreq : s.requests = [])
    (hheld : s.state.driver.held = []) :
    Due (Session.handle Accelerator.driver s
        (.completed ⟨op.ticket, op.operation⟩ (.ok data))).1 t target q j ∧
      requests (Session.handle Accelerator.driver s
        (.completed ⟨op.ticket, op.operation⟩ (.ok data))).1 = [.nextPhase q] := by
  obtain ⟨hnext, hready⟩ := h.engaged.conclude op.operation
  have hx : s.controller.awaited? op.ticket = some op := by
    simp [Controller.awaited?, h.engaged.live, h.engaged.inFlight]
  have hroom := refusal?_eq_none h.room hreq
  rw [handle_of_lost_eq_none _ h.lost, take, complete_of_ok hx hnext,
    advance_of_room _ (by simpa using hroom)]
  have hpeak : q ≠ .setInterface := by
    obtain ⟨_, _, _, _, _, _, hs, -⟩ := h.engaged.leg
    exact hs.ne_setInterface
  refine ⟨⟨?_, ?_, ?_, ?_, ?_, ?_, ?_⟩, ?_⟩
  · simpa using hready
  · simpa using h.lost
  · simpa using h.room.send _
  · simpa using h.along
  · simpa using hheld
  · simpa [hheld] using h.outstanding
  · simpa [hpeak] using h.peak
  · rw [requests_post _ (by simpa using hroom), requests_settled, requests_record, hreq]
    rfl

/-! ## The beginning -/

/-- The device was plugged in, and the controller, which is now `c`, has not turned to it. -/
structure Fresh (s : Rig κ) (c : Controller) : Prop where
  controller : s.controller = c
  driver : ∃ deferred, s.state.driver = .new .none deferred
  lost : s.state.lost = none
  room : s.channel.Roomy

def accelerator : Binding := ⟨Accelerator.host, Accelerator.device, Accelerator.interface⟩

/-- The controller that knows the identity of the accelerator. -/
def acquainted (t : Task) : Controller :=
  (Controller.new t.image t.config).bind Accelerator.host Accelerator.device Accelerator.interface

theorem Fresh.bind (h : Fresh s (.new t.image t.config)) :
    Fresh (handle Accelerator.driver s (.bind accelerator)).1 (acquainted t) ∧
      requests (handle Accelerator.driver s (.bind accelerator)).1 = s.requests := by
  rw [handle_bind Accelerator.driver h.lost h.controller]
  refine ⟨⟨?_, h.driver, h.lost, h.room⟩, rfl⟩
  exact congrArg (Controller.bind · Accelerator.host Accelerator.device Accelerator.interface)
    h.controller

/-- At the beginning of an upgrade nothing is through. -/
theorem leg_opening (target : ClassHandle) (hi : t.interface = Accelerator.interface) :
    (((acquainted t).enter .attached).startOver target).Attended t target ∧
      (((acquainted t).enter .attached).startOver target).Leg t target .setInterface [] false
        .setInterface 0 := by
  obtain ⟨image, config, interface⟩ := t
  obtain rfl : interface = _ := hi
  refine ⟨⟨rfl, rfl, rfl, rfl⟩, ?_⟩
  exact Controller.Leg.first (c := ((acquainted ⟨image, config, _⟩).enter .attached).startOver target)
    rfl (by simp) rfl rfl fun b hb => (Option.some_ne_none b hb.symm).elim

/-- The class driver is initialised, and the selection of the interface is due. -/
theorem Fresh.attach (h : Fresh s (acquainted t)) (hreq : s.requests = [])
    (hi : t.interface = Accelerator.interface) :
    Due (handle Accelerator.driver s (.nextPhase .attached)).1 t ⟨1⟩ .setInterface 0 ∧
      requests (handle Accelerator.driver s (.nextPhase .attached)).1 =
        [.nextPhase .setInterface] := by
  obtain ⟨deferred, hdriver⟩ := h.driver
  obtain ⟨a, ha, halong, hheld, hout, hpeak⟩ :=
    Accelerator.along_init (α := Completion) deferred t
  obtain ⟨hattended, hleg⟩ := leg_opening ⟨1⟩ hi
  rw [handle_attach Accelerator.driver h.lost h.controller]
  obtain ⟨u, hu, huc, hud, hul, hur, huq⟩ := s.setPhase_taken (.nextPhase .attached) .attached
  rw [hu]
  rw [h.controller] at huc
  have hinit : u.state.driver.init Accelerator.device = (a, .ok ⟨1⟩) := by rw [hud, hdriver, ha]
  obtain ⟨hc, hd, hl, hroom, hrequests⟩ :=
    initialise_of_ok Accelerator.driver hinit (hur ▸ h.room) (huq.trans hreq)
  rw [huc] at hc
  refine ⟨⟨?_, hl.trans (hul.trans h.lost), hroom, hd ▸ halong, hd ▸ hheld, hd ▸ hout, hd ▸ hpeak⟩,
    hrequests⟩
  rw [hc]
  exact ⟨hattended, ⟨by simp [Controller.startOver, Controller.resetCounters], rfl⟩, rfl,
    ⟨[], false, hleg, trivial⟩, ⟨rfl, rfl⟩⟩

end Session

end FirmwareUpgrade
