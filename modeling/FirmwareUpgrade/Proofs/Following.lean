import FirmwareUpgrade.Proofs.Cancellation
import FirmwareUpgrade.Proofs.Lead

/-!
# Sessions that go on in step

One session follows another if its controller has a lead over that of the other, the same requests
wait for both, up to the tickets in them, and both have shown the same since some point. As long as
the two drivers answer alike, the two go on in step: `Follows.take` says so for any request. What
becomes of an operation that is started is left open there, since drivers may differ in when they
call a completion.
-/
namespace FirmwareUpgrade

/-! ## What shows -/

/-- What shows of an effect: a primitive of the driver, or a phase. -/
inductive Sign where
  | primitive (p : Primitive)
  | phase (p : Phase)
deriving DecidableEq

def Effect.sign? : Effect → Option Sign
  | exchange e => some (.primitive e.primitive)
  | watch p => some (.phase p)
  | _ => none

/-- Whether an effect is that the class driver was initialised. -/
def Effect.opens : Effect → Bool
  | exchange (.init _ (.ok _)) => true
  | _ => false

namespace Session

variable {δ κ : Type}

/-- What a session has shown, oldest first. -/
def signs (s : Session δ κ) : List Sign := s.effects.filterMap Effect.sign?

/-- Whether the class driver was ever initialised. -/
def opened (s : Session δ κ) : Bool := s.effects.any Effect.opens

section
variable (s : Session δ κ)

@[simp] theorem signs_record (e : Effect) :
    (s.record e).signs = s.signs ++ e.sign?.toList := by
  simp only [signs, effects_record, List.filterMap_append]
  cases he : e.sign? <;> simp [he]

@[simp] theorem opened_record (e : Effect) : (s.record e).opened = (s.opened || e.opens) := by
  simp [opened]

@[simp] theorem signs_modify (f : Controller → Controller) : (s.modify f).signs = s.signs := rfl
@[simp] theorem opened_modify (f : Controller → Controller) : (s.modify f).opened = s.opened := rfl
@[simp] theorem signs_post (q : Request) : (s.post q).signs = s.signs := rfl
@[simp] theorem opened_post (q : Request) : (s.post q).opened = s.opened := rfl
@[simp] theorem signs_withDriver (d : δ) : (s.withDriver d).signs = s.signs := rfl
@[simp] theorem opened_withDriver (d : δ) : (s.withDriver d).opened = s.opened := rfl

end

/-- The second session differs from the first at most in what does not show. -/
structure Hushed (s t : Session δ κ) : Prop where
  controller : t.controller = s.controller
  lost : t.state.lost = s.state.lost
  channel : t.channel = s.channel
  driver : t.state.driver = s.state.driver
  signs : t.signs = s.signs
  opened : t.opened = s.opened

namespace Hushed

variable {s t u : Session δ κ}

theorem refl : Hushed s s := ⟨rfl, rfl, rfl, rfl, rfl, rfl⟩

theorem trans (h : Hushed s t) (k : Hushed t u) : Hushed s u :=
  ⟨k.controller.trans h.controller, k.lost.trans h.lost, k.channel.trans h.channel,
    k.driver.trans h.driver, k.signs.trans h.signs, k.opened.trans h.opened⟩

theorem record (s : Session δ κ) {e : Effect} (hs : e.sign? = none) (ho : e.opens = false) :
    Hushed s (s.record e) :=
  ⟨rfl, rfl, rfl, rfl, by simp [hs], by simp [ho]⟩

theorem note (s : Session δ κ) (n : Notice) : Hushed s (s.note n) := record s rfl rfl

theorem noteAll (ns : List Notice) : ∀ s : Session δ κ, Hushed s (s.noteAll ns) := by
  induction ns with
  | nil => exact fun s => refl
  | cons n ns ih => exact fun s => (note s n).trans (ih _)

theorem relayAll (ns : List Notice) : ∀ s : Session δ κ, Hushed s (s.relayAll ns) := by
  induction ns with
  | nil => exact fun s => refl
  | cons n ns ih => exact fun s => (record s (e := .relayed n) rfl rfl).trans (ih _)

theorem noteInFlight (s : Session δ κ) : Hushed s s.noteInFlight := by
  unfold Session.noteInFlight
  split
  · exact note s _
  · exact refl

end Hushed

end Session

/-- Whether the class handle was taken back is only reported. -/
theorem Session.hushed_returnClass {δ κ : Type} (drv : Driver δ) {s : Session δ κ}
    {target : ClassHandle} {device : DeviceHandle} (complaint : UsbError → Notice)
    (hl : s.controller.liveClass = some target) (hd : s.controller.boundDevice = some device) :
    Hushed ((s.modify ({ · with liveClass := none })).exchange (drv.deinit · device target)
      (.deinit device target ·) fun _ => []).1 (s.returnClass drv complaint) := by
  unfold returnClass
  simp only [hl, hd]
  split
  · rename_i he
    rw [he]
    exact .refl
  · rename_i he
    rw [he]
    exact .note _ _

/-! ## Drivers that answer alike -/

/-- Related drivers answer alike where they do not start an operation, and stay related. -/
structure Driver.Agrees {δ ε : Type} (drv : Driver δ) (drv' : Driver ε) (D : δ → ε → Prop) :
    Prop where
  init : ∀ d e device, D d e →
    D (drv.init d device).1 (drv'.init e device).1 ∧
      (drv.init d device).2 = (drv'.init e device).2
  deinit : ∀ d e device target, D d e →
    D (drv.deinit d device target).1 (drv'.deinit e device target).1
  busReset : ∀ d e host, D d e → D (drv.busReset d host).1 (drv'.busReset e host).1
  reEnumerate : ∀ d e device, D d e → D (drv.reEnumerate d device).1 (drv'.reEnumerate e device).1

namespace Controller

variable {c : Controller} {p : Phase}

/-- Only the last phase ends the upgrade. -/
theorem eq_complete_of_action (h : c.action p = .finish) : p = .complete := by
  cases p with
  | complete => rfl
  | attached | setInterface | readBack =>
    simp only [action] at h
    split at h <;> simp at h
  | _ => simp [action] at h

/-- The class driver is initialised on the device that is bound. -/
theorem boundDevice_of_action {device : DeviceHandle} (h : c.action p = .initialise device) :
    c.boundDevice = some device := by
  cases p with
  | attached =>
    simp only [action] at h
    split at h
    · rename_i hd
      rw [hd, Action.initialise.inj h]
    · simp at h
  | setInterface | readBack =>
    simp only [action] at h
    split at h <;> simp at h
  | _ => simp [action] at h

/-- A class handle goes with a device, and a device with a host. -/
structure Anchored (c : Controller) : Prop where
  device : c.liveClass ≠ none → c.boundDevice ≠ none
  host : c.boundDevice ≠ none → c.boundHost ≠ none

end Controller

/-- What was handed out is stored together. -/
theorem Controller.Keeps.anchored {c : Controller} {k : Custody} (h : c.Keeps k) :
    c.Anchored where
  device hl := by
    obtain ⟨target, ht⟩ := Option.ne_none_iff_exists'.mp hl
    obtain ⟨-, b, -, -, -, hd, -⟩ := h.holds ht
    simp [hd]
  host hd := by
    rw [h.device] at hd
    cases ho : k.offer with
    | none => simp [ho] at hd
    | some b => simp [h.host b ho]

/-- To look for a loss does not touch the handles. -/
theorem Session.anchored_noticed {δ κ : Type} {s : Session δ κ} (h : s.controller.Anchored)
    (q : Request) : (s.noticed q).controller.Anchored := by
  have hsame := s.handles_noticed q
  constructor
  · rw [hsame.live, hsame.device]
    exact h.device
  · rw [hsame.device, hsame.host]
    exact h.host

namespace Session

variable {δ ε κ μ : Type} {drv : Driver δ} {drv' : Driver ε} {D : δ → ε → Prop} {l : Lead}
  {before : List Sign} {s s' : Session δ κ} {t t' : Session ε μ}

/-! ## Following -/

/-- A session has a lead over another one, and has shown what the other has after what it had shown
before. -/
structure Follows (l : Lead) (before : List Sign) (D : δ → ε → Prop) (s : Session δ κ)
    (t : Session ε μ) : Prop where
  controller : s.controller = l.ahead t.opened t.controller
  lost : s.state.lost = t.state.lost.map (· + l.tickets)
  capacity : s.channel.capacity = t.channel.capacity
  isOpen : s.channel.isOpen = t.channel.isOpen
  requests : s.requests = t.requests.map (·.shift l.tickets)
  driver : D s.state.driver t.state.driver
  signs : s.signs = before ++ t.signs

namespace Follows

/-- What does not show may differ. -/
theorem hushed (h : Follows l before D s t) (hs : Hushed s s') (ht : Hushed t t') :
    Follows l before D s' t' where
  controller := by rw [hs.controller, ht.controller, ht.opened, h.controller]
  lost := by rw [hs.lost, ht.lost, h.lost]
  capacity := by rw [hs.channel, ht.channel, h.capacity]
  isOpen := by rw [hs.channel, ht.channel, h.isOpen]
  requests := by
    rw [Session.requests, Session.requests, hs.channel, ht.channel]
    exact h.requests
  driver := by
    rw [hs.driver, ht.driver]
    exact h.driver
  signs := by rw [hs.signs, ht.signs, h.signs]

theorem note (h : Follows l before D s t) (n n' : Notice) :
    Follows l before D (s.note n) (t.note n') :=
  h.hushed (.note s n) (.note t n')

/-- Both show the same. -/
theorem record (h : Follows l before D s t) (e e' : Effect) (hs : e.sign? = e'.sign?)
    (ho : e'.opens = false) : Follows l before D (s.record e) (t.record e') :=
  { h with
    controller := by
      rw [opened_record, ho, Bool.or_false]
      exact h.controller
    signs := by rw [signs_record, signs_record, h.signs, hs, List.append_assoc] }

theorem modify (h : Follows l before D s t) {f g : Controller → Controller}
    (hf : ∀ o c, f (l.ahead o c) = l.ahead o (g c)) :
    Follows l before D (s.modify f) (t.modify g) :=
  { h with
    controller := by
      rw [controller_modify, h.controller, hf]
      rfl }

theorem withDriver (h : Follows l before D s t) {d : δ} {e : ε} (hd : D d e) :
    Follows l before D (s.withDriver d) (t.withDriver e) :=
  { h with driver := hd }

section
variable (h : Follows l before D s t)
include h

theorem phase_eq : s.controller.phase = t.controller.phase := by rw [h.controller]; rfl

theorem liveClass_eq : s.controller.liveClass = t.controller.liveClass := by rw [h.controller]; rfl

theorem boundDevice_eq : s.controller.boundDevice = t.controller.boundDevice := by
  rw [h.controller]; rfl

/-- Both queues take a request, or refuse it for the same reason. -/
theorem refusal?_eq : s.channel.refusal? = t.channel.refusal? := by
  have hlength := congrArg List.length h.requests
  simp only [Session.requests, List.length_map] at hlength
  simp only [Channel.refusal?, h.isOpen, h.capacity, hlength]

/-- With the class driver initialised, what was last seen before is forgotten. -/
theorem initialised {d : δ} {e : ε} (hd : D d e) (hhost : t.controller.boundHost ≠ none)
    (device : DeviceHandle) (target : ClassHandle) :
    Follows l before D (s.initialised d device target) (t.initialised e device target) :=
  { h with
    controller := by
      have hopened : (t.initialised e device target).opened = true := by
        simp [opened, Effect.opens]
      rw [hopened, controller_initialised, controller_initialised, h.controller,
        l.startOver_ahead _ _ hhost]
    requests := h.requests
    driver := hd
    signs := by
      simp only [Session.signs, effects_initialised, List.filterMap_append]
      rw [← Session.signs, ← Session.signs, h.signs, List.append_assoc]
      rfl }

theorem setPhase (p : Phase) : Follows l before D (s.setPhase p) (t.setPhase p) :=
  ((h.note _ _).modify fun o c => l.enter_ahead o c p).record _ _ rfl rfl

theorem fail (cause : UpgradeError) : Follows l before D (s.fail cause) (t.fail cause) :=
  ((h.note _ _).modify fun o c => l.recordFailure_ahead o c cause).setPhase _

/-! ### The queue -/

theorem post (q : Request) (hr : t.channel.refusal? = none) :
    Follows l before D (s.post (q.shift l.tickets)) (t.post q) :=
  { h with
    capacity := by simp [Channel.send, Channel.push, h.refusal?_eq, hr, h.capacity]
    isOpen := by simp [Channel.send, Channel.push, h.refusal?_eq, hr, h.isOpen]
    requests := by
      rw [requests_post _ (h.refusal?_eq.trans hr), requests_post _ hr, h.requests]
      simp }

theorem advance (p : Phase) : Follows l before D (s.advance p) (t.advance p) := by
  cases hr : t.channel.refusal? with
  | none =>
    rw [advance_of_room p hr, advance_of_room p (h.refusal?_eq.trans hr)]
    exact h.post (.nextPhase p) hr
  | some reason =>
    rw [advance_of_refusal p hr, advance_of_refusal p (h.refusal?_eq.trans hr)]
    exact h.fail _

theorem deliver (x : Completion) (r : Reply) :
    Follows l before D (s.deliver (x.shift l.tickets) r) (t.deliver x r) := by
  have hcalled : Follows l before D (s.record (.completed (x.shift l.tickets) r))
      (t.record (.completed x r)) := h.record _ _ rfl rfl
  have hrefusal := hcalled.refusal?_eq
  unfold Session.deliver
  dsimp only
  rw [hrefusal]
  cases hr : (t.record (.completed x r)).channel.refusal? with
  | none => exact hcalled.post (.completed x r) hr
  | some reason => exact { hcalled.note _ _ with lost := rfl }

omit h in
theorem deliverAll (ds : List (Completion × Reply)) :
    ∀ {s : Session δ κ} {t : Session ε μ}, Follows l before D s t →
      Follows l before D (s.deliverAll (ds.map fun d => (d.1.shift l.tickets, d.2)))
        (t.deliverAll ds) := by
  induction ds with
  | nil => exact fun h => h
  | cons d ds ih => exact fun h => ih (h.deliver d.1 d.2)

/-! ### The driver -/

theorem exchange {α β : Type} {run : δ → δ × α} {run' : ε → ε × β} {entry : α → Exchange}
    {entry' : β → Exchange} {notices : α → List Notice} {notices' : β → List Notice}
    (hd : D (run s.state.driver).1 (run' t.state.driver).1)
    (hs : ∀ a b, (entry a).primitive = (entry' b).primitive)
    (ho : ∀ b, (Effect.exchange (entry' b)).opens = false) :
    Follows l before D (s.exchange run entry notices).1 (t.exchange run' entry' notices').1 := by
  rw [exchange_eq, exchange_eq]
  have hrecorded : Follows l before D
      ((s.withDriver (run s.state.driver).1).record (.exchange (entry (run s.state.driver).2)))
      ((t.withDriver (run' t.state.driver).1).record
        (.exchange (entry' (run' t.state.driver).2))) :=
    (h.withDriver hd).record _ _ (congrArg (some ∘ Sign.primitive) (hs _ _)) (ho _)
  exact hrecorded.hushed (.relayAll _ _) (.relayAll _ _)

end

section
variable (hD : drv.Agrees drv' D) (h : Follows l before D s t)
include hD h

theorem returnClass (complaint : UsbError → Notice) :
    Follows l before D (s.returnClass drv complaint) (t.returnClass drv' complaint) := by
  have hgone : Follows l before D (s.modify ({ · with liveClass := none }))
      (t.modify ({ · with liveClass := none })) := h.modify fun o c => l.withoutClass_ahead o c
  have hlive := h.liveClass_eq
  have hdevice := h.boundDevice_eq
  cases hl : t.controller.liveClass with
  | none => simpa [Session.returnClass, hl, hlive] using hgone
  | some target =>
    cases hd : t.controller.boundDevice with
    | none => simpa [Session.returnClass, hl, hd, hlive, hdevice] using hgone
    | some device =>
      have hx : Follows l before D
          ((s.modify ({ · with liveClass := none })).exchange (drv.deinit · device target)
            (.deinit device target ·) fun _ => []).1
          ((t.modify ({ · with liveClass := none })).exchange (drv'.deinit · device target)
            (.deinit device target ·) fun _ => []).1 :=
        hgone.exchange (hD.deinit _ _ device target h.driver) (fun _ _ => rfl) fun _ => rfl
      exact hx.hushed (hushed_returnClass drv complaint (hlive.trans hl) (hdevice.trans hd))
        (hushed_returnClass drv' complaint hl hd)

theorem reEnumerate : Follows l before D (s.reEnumerate drv) (t.reEnumerate drv') := by
  unfold Session.reEnumerate
  rw [h.boundDevice_eq]
  cases t.controller.boundDevice with
  | none => exact h
  | some device =>
    exact h.exchange (hD.reEnumerate _ _ device h.driver) (fun _ _ => rfl) fun _ => rfl

/-- The bus is reset alike where the host is known to both. -/
theorem resetBus (hhost : t.controller.boundHost ≠ none) :
    Follows l before D (s.resetBus drv) (t.resetBus drv') := by
  obtain ⟨host, ht⟩ := Option.ne_none_iff_exists'.mp hhost
  have hs : s.controller.boundHost = some host := by
    rw [h.controller, Lead.boundHost_ahead _ _ _ ht]
  simp only [Session.resetBus, hs, ht]
  exact h.exchange (hD.busReset _ _ host h.driver) (fun _ _ => rfl) fun _ => rfl

theorem finish (hhost : t.controller.boundHost ≠ none) :
    Follows l before D (s.finish drv) (t.finish drv') :=
  (((h.resetBus hD hhost).returnClass hD _).reEnumerate hD).note _ _

theorem release : Follows l before D (s.release drv) (t.release drv') :=
  ((h.returnClass hD _).hushed (.noteInFlight _) (.noteInFlight _)).modify
    fun o c => l.forgetDevice_ahead o c

/-- The class driver is initialised for both, or for none. -/
theorem initialise (hhost : t.controller.boundHost ≠ none) (device : DeviceHandle) :
    Follows l before D (s.initialise drv device) (t.initialise drv' device) := by
  obtain ⟨hdriver, hanswer⟩ := hD.init _ _ device h.driver
  unfold Session.initialise
  rw [exchange_eq, exchange_eq, ← hanswer]
  cases hr : (drv.init s.state.driver device).2 with
  | error cause =>
    have hrefused := (h.withDriver hdriver).record (.exchange (.init device (.error cause)))
      (.exchange (.init device (.error cause))) rfl rfl
    exact hrefused.fail _
  | ok target => exact (h.initialised hdriver hhost device target).advance _

end

/-! ### Operations -/

/-- The ticket that the other session draws is the one that this session draws, up to the lead. -/
theorem completion_eq (h : Follows l before D s t) (operation : Operation) :
    (⟨s.controller.nextTicket, operation⟩ : Completion) =
      Completion.shift l.tickets ⟨t.controller.nextTicket, operation⟩ := by
  rw [h.controller, Lead.nextTicket_ahead]
  rfl

theorem handOver (h : Follows l before D s t) (target : ClassHandle) {request : ClassCall}
    (length : Nat)
    (hd : D
      (drv.submit s.state.driver target request
        (Completion.shift l.tickets ⟨t.controller.nextTicket, request.operation⟩)).1
      (drv'.submit t.state.driver target request
        ⟨t.controller.nextTicket, request.operation⟩).1) :
    Follows l before D (s.handOver drv target request length)
      (t.handOver drv' target request length) := by
  have hbegun : Follows l before D (s.modify fun c => (c.begin request.operation length).1)
      (t.modify fun c => (c.begin request.operation length).1) :=
    h.modify fun o c => l.begin_ahead o c request.operation length
  rw [← h.completion_eq] at hd
  have hcalled := (hbegun.withDriver hd).record
    (.exchange (.call target request ⟨s.controller.nextTicket, request.operation⟩
      (s.answerTo drv target request).result))
    (.exchange (.call target request ⟨t.controller.nextTicket, request.operation⟩
      (t.answerTo drv' target request).result)) rfl rfl
  exact hcalled.hushed (.relayAll _ _) (.relayAll _ _)

/-- Both start an operation, if both drivers accept or refuse it and call the same completions. -/
theorem start (h : Follows l before D s t) (target : ClassHandle) {request : ClassCall}
    (length : Nat)
    (hd : D
      (drv.submit s.state.driver target request
        (Completion.shift l.tickets ⟨t.controller.nextTicket, request.operation⟩)).1
      (drv'.submit t.state.driver target request
        ⟨t.controller.nextTicket, request.operation⟩).1)
    (hr : (drv.submit s.state.driver target request
        (Completion.shift l.tickets ⟨t.controller.nextTicket, request.operation⟩)).2.result =
      (t.answerTo drv' target request).result)
    (hc : (drv.submit s.state.driver target request
        (Completion.shift l.tickets ⟨t.controller.nextTicket, request.operation⟩)).2.delivered =
      (t.answerTo drv' target request).delivered.map fun d => (d.1.shift l.tickets, d.2)) :
    Follows l before D (s.start drv target request length)
      (t.start drv' target request length) := by
  have hhanded := h.handOver target length hd
  rw [← h.completion_eq] at hr hc
  have hdelivered := deliverAll (t.answerTo drv' target request).delivered hhanded
  rw [start_eq, start_eq, show (s.answerTo drv target request).result = _ from hr,
    show (s.answerTo drv target request).delivered = _ from hc]
  cases (t.answerTo drv' target request).result with
  | ok => exact hdelivered
  | error cause => exact hdelivered.fail _

/-! ### Requests -/

section
variable (h : Follows l before D s t)
include h

theorem bind (b : Binding) : Follows l before D (s.bind b) (t.bind b) := by
  unfold Session.bind
  rw [h.phase_eq]
  split
  · exact (h.note _ _).modify fun o c => l.bind_ahead o c b.host b.device b.interface
  · exact h.note _ _

theorem settled (op : InFlight) (x : Completion) (r : Reply) :
    Follows l before D (s.settled (op.shift l.tickets) (x.shift l.tickets) r)
      (t.settled op x r) := by
  have hconcluded := h.modify
    (f := fun c => (c.conclude (op.shift l.tickets) x.operation r).controller)
    (g := fun c => (c.conclude op x.operation r).controller) fun o c => by
      rw [l.conclude_ahead]
      rfl
  exact hconcluded.hushed (.noteAll _ _) (.noteAll _ _)

theorem complete (x : Completion) (r : Reply) :
    Follows l before D (s.complete (x.shift l.tickets) r) (t.complete x r) := by
  have hawaited := l.awaited?_ahead t.opened t.controller x.ticket
  rw [← h.controller] at hawaited
  cases hx : t.controller.awaited? x.ticket with
  | none =>
    rw [hx] at hawaited
    have hs : s.controller.awaited? (x.shift l.tickets).ticket = none := hawaited
    simp only [Session.complete, hx, hs]
    exact h.note _ _
  | some op =>
    rw [hx] at hawaited
    have hs : s.controller.awaited? (x.shift l.tickets).ticket = some (op.shift l.tickets) :=
      hawaited
    have hnext : (s.controller.conclude (op.shift l.tickets) x.operation r).next =
        (t.controller.conclude op x.operation r).next := by
      rw [h.controller, l.conclude_ahead]
      rfl
    cases hv : (t.controller.conclude op x.operation r).next with
    | ok p =>
      rw [complete_of_ok hx hv, complete_of_ok hs (hnext.trans hv)]
      exact (h.settled op x r).advance p
    | error cause =>
      rw [complete_of_error hx hv, complete_of_error hs (hnext.trans hv)]
      exact (h.settled op x r).fail cause

/-- Both miss a completion, or none does. -/
theorem checkLost : Follows l before D s.checkLost t.checkLost := by
  have hlost := h.lost
  cases ht : t.state.lost with
  | none =>
    rw [ht] at hlost
    simp only [Session.checkLost, ht, hlost, Option.map_none]
    exact h
  | some ticket =>
    rw [ht, Option.map_some] at hlost
    have hforgot : Follows l before D s.forgetLoss t.forgetLoss := { h with lost := rfl }
    have hown : s.controller.inFlight.any (·.ticket == ticket + l.tickets) =
        t.controller.inFlight.any (·.ticket == ticket) := by
      rw [h.controller, Lead.inFlight_ahead]
      cases t.controller.inFlight with
      | none => rfl
      | some op => exact beq_add_right l.tickets op.ticket ticket
    simp only [Session.checkLost, ht, hlost]
    rw [show s.controller.inFlight.any _ = _ from hown]
    split
    · exact hforgot.fail _
    · exact hforgot.note _ _

theorem dropOldest : Follows l before D s.dropOldest t.dropOldest :=
  { h with
    requests := by rw [requests_dropOldest, requests_dropOldest, h.requests, List.map_tail] }

theorem noticed (q q' : Request) : Follows l before D (s.noticed q) (t.noticed q') :=
  (h.record (.taken q) (.taken q') rfl rfl).checkLost

end

/-- Two sessions in step take a request in step. The relation that they are in afterwards may be a
wider one, if that is what the start of an operation leads to. -/
theorem take (hD : drv.Agrees drv' D) (h : Follows l before D s t)
    (hanchored : t.controller.Anchored) {R : Session δ κ → Session ε μ → Prop}
    (hR : ∀ {u v}, Follows l before D u v → R u v)
    (hstart : ∀ p target request length, t.controller.action p = .start request length →
      Follows l before D (s.setPhase p) (t.setPhase p) →
      R ((s.setPhase p).start drv target request length)
        ((t.setPhase p).start drv' target request length)) (q : Request) :
    R (Session.take drv s (q.shift l.tickets)) (Session.take drv' t q) := by
  cases q with
  | bind b => exact hR (h.bind b)
  | completed x r => exact hR (h.complete x r)
  | nextPhase p =>
    show R (s.step drv p) (t.step drv' p)
    have hobjection : s.controller.objection? p = t.controller.objection? p := by
      rw [h.controller, l.objection?_ahead]
    have haction : s.controller.action p = t.controller.action p := by
      rw [h.controller, l.action_ahead]
    unfold Session.step
    rw [hobjection, haction]
    cases ho : t.controller.objection? p with
    | some n => exact hR (h.note n n)
    | none =>
      dsimp only
      by_cases hu : p = .unattached
      · subst hu
        exact hR ((h.release hD).setPhase .unattached)
      rw [if_neg hu, if_neg hu]
      have hp := h.setPhase p
      cases ha : t.controller.action p with
      | release => exact hR (hp.release hD)
      | initialise device =>
        refine hR (hp.initialise hD ?_ device)
        have hdevice := Controller.boundDevice_of_action ha
        simpa using hanchored.host (by simp [hdevice])
      | skip next => exact hR (hp.advance next)
      | report n => exact hR (hp.note n n)
      | fail cause => exact hR (hp.fail cause)
      | finish =>
        -- A phase that ends the upgrade has a class handle, and with it the host is known.
        refine hR (hp.finish hD ?_)
        obtain rfl := Controller.eq_complete_of_action ha
        obtain ⟨-, hclass, -⟩ := Controller.objection?_eq_none (by simp) (by simp) ho
        have hlive : t.controller.liveClass ≠ none := fun hl => hclass ⟨rfl, hl⟩
        simpa using hanchored.host (hanchored.device hlive)
      | start request length =>
        unfold Session.perform
        rw [hp.liveClass_eq]
        cases hl : (t.setPhase p).controller.liveClass with
        | none => exact hR (hp.fail _)
        | some target => exact hstart p target request length ha hp

end Follows

end Session

/-! ## Events -/

/-- A request that stems from the host stack bears no ticket. -/
theorem Request.shift_of_event {host : HostHandle} {device : DeviceHandle} {event : HostEvent}
    {q : Request} (h : event.request host device = .ok q) (k : UInt32) : q.shift k = q := by
  have hq := (Installation.request_of_event h).2.1
  cases q with
  | completed x r => simp [completion?] at hq
  | nextPhase | bind => rfl

namespace Installation

variable {δ ε κ μ : Type} {D : δ → ε → Prop} {l : Lead} {before : List Sign}
  {i : Installation δ κ} {j : Installation ε μ}

/-- An event is answered alike, and what it amounts to waits for both or for none. -/
theorem follows_dispatch (hd : i.dispatcher = j.dispatcher)
    (h : Session.Follows l before D i.session j.session) (vendor product : UInt16)
    (host : HostHandle) (device : DeviceHandle) (event : HostEvent) :
    (i.dispatch vendor product host device event).2 =
        (j.dispatch vendor product host device event).2 ∧
      (i.dispatch vendor product host device event).1.dispatcher =
        (j.dispatch vendor product host device event).1.dispatcher ∧
      Session.Follows l before D (i.dispatch vendor product host device event).1.session
        (j.dispatch vendor product host device event).1.session := by
  have hrefusal := h.refusal?_eq
  unfold dispatch Dispatcher.dispatch
  rw [hd]
  cases j.dispatcher.lookup? vendor product with
  | none => exact ⟨rfl, rfl, h.hushed (.noteAll _ _) (.noteAll _ _)⟩
  | some callback =>
    cases hq : event.request host device with
    | error status =>
      simp only [react, HostEvent.post, hq]
      exact ⟨trivial, rfl, h.hushed (.noteAll _ _) (.noteAll _ _)⟩
    | ok q =>
      cases hr : j.channel.refusal? with
      | some reason =>
        have hs : i.channel.refusal? = some reason := hrefusal.trans hr
        simp only [react, HostEvent.post, hq, hr, hs]
        exact ⟨trivial, rfl, h.hushed (.noteAll _ _) (.noteAll _ _)⟩
      | none =>
        have hs : i.channel.refusal? = none := hrefusal.trans hr
        have hposted := h.post q hr
        rw [Request.shift_of_event hq] at hposted
        simp only [react, HostEvent.post, hq, hr, hs]
        exact ⟨trivial, rfl, hposted.hushed (.noteAll _ _) (.noteAll _ _)⟩

end Installation

end FirmwareUpgrade
