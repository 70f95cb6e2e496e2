import FirmwareUpgrade.Proofs.Progress
import FirmwareUpgrade.Proofs.Served

/-!
# The custody of the class handle

The host stack lends the controller a class handle, and the controller has to give it back. Whose
handle it is and whether it was given back shows in the record alone: `Custody` sums up the last
phase shown, the last binding, the last class driver initialised and the primitives since then that
end its use. `Custody.Allows` says when each effect is in order, and `Controller.Keeps` ties the
record to the handles that the controller stores in four places.
-/
namespace FirmwareUpgrade

def Primitive.isDeinit : Primitive → Bool
  | deinit .. => true
  | _ => false

/-- The interface that a call is about. -/
def ClassCall.interface? : ClassCall → Option InterfaceHandle
  | setInterface interface _ => some interface
  | _ => none

/-- What a record shows of the things that the host stack lent. -/
structure Custody where
  /-- The phase that was shown last. -/
  shown : Phase
  /-- The last binding taken up while no device was attached, since that was shown last. -/
  offer : Option Binding
  /-- The class handle that was given out last, and the binding that it was given out for. -/
  opened : Option (Binding × ClassHandle)
  /-- The primitives since then that end the use of the device, oldest first. -/
  closing : List Primitive
deriving DecidableEq

namespace Custody

/-- Nothing was lent yet. -/
def none : Custody := ⟨.unattached, .none, .none, []⟩

/-- What becomes of the custody with one more effect. -/
def observe (k : Custody) : Effect → Custody
  | .watch p => { k with shown := p, offer := if p = .unattached then .none else k.offer }
  | .taken (.bind b) => if k.shown = .unattached then { k with offer := some b } else k
  | .exchange (.init _ (.ok target)) =>
    { k with opened := k.offer.map (·, target), closing := [] }
  | .exchange (.deinit device target _) => { k with closing := k.closing ++ [.deinit device target] }
  | .exchange (.busReset host) => { k with closing := k.closing ++ [.busReset host] }
  | .exchange (.reEnumerate device) => { k with closing := k.closing ++ [.reEnumerate device] }
  | _ => k

def ofEffects (effects : List Effect) : Custody := effects.foldl observe none

/-- How often the class handle was given back. -/
def returns (k : Custody) : Nat := k.closing.countP (·.isDeinit)

/-- The class handle was given out last, for this binding, and not given back. -/
def Holds (k : Custody) (b : Binding) (target : ClassHandle) : Prop :=
  k.opened = some (b, target) ∧ k.returns = 0

/-- No class handle is out: there was none, or it was given back once. -/
def Free (k : Custody) : Prop := k.opened = .none ∨ k.returns = 1

/-- The use of the device was ended as it should be after a success, with the handles of one and
the same binding. -/
def Finished (k : Custody) : Prop :=
  ∃ b target, k.opened = some (b, target) ∧
    k.closing = [.busReset b.host, .deinit b.device target, .reEnumerate b.device]

theorem Finished.free {k : Custody} (h : k.Finished) : k.Free := by
  obtain ⟨b, target, -, hclosing⟩ := h
  right
  simp [returns, hclosing, Primitive.isDeinit]

/-- When a primitive may be called. -/
def Permits (k : Custody) : Primitive → Prop
  | .init device => k.Free ∧ k.offer.map (·.device) = some device
  | .call target request =>
    ∃ b, k.Holds b target ∧ ∀ interface ∈ request.interface?, interface = b.interface
  | .deinit device target =>
    ∃ b, k.Holds b target ∧ device = b.device ∧
      k.closing = if k.shown = .complete then [.busReset b.host] else []
  | .busReset host =>
    k.shown = .complete ∧ k.closing = [] ∧ ∃ b target, k.Holds b target ∧ host = b.host
  | .reEnumerate device =>
    k.shown = .complete ∧ ∃ b target, k.opened = some (b, target) ∧ device = b.device ∧
      k.closing = [.busReset b.host, .deinit device target]

/-- Between two requests the handle is back if no device is attached, and the use of the device is
ended if the upgrade is complete. -/
def AtRest (k : Custody) : Prop :=
  (k.shown = .unattached → k.Free) ∧ (k.shown = .complete → k.Finished)

/-- When an effect is in order. -/
def Allows (k : Custody) : Effect → Prop
  | .taken _ => k.AtRest
  | .watch .unattached => k.Free
  | .watch .complete => k.closing = [] ∧ ∃ b target, k.Holds b target
  | .exchange e => k.Permits e.primitive
  | _ => True

/-- Several effects are in order, one after the other. -/
def Admits (k : Custody) : List Effect → Prop
  | [] => True
  | e :: es => k.Allows e ∧ (k.observe e).Admits es

@[simp]
theorem ofEffects_append_singleton (effects : List Effect) (e : Effect) :
    ofEffects (effects ++ [e]) = (ofEffects effects).observe e := by
  simp [ofEffects]

theorem ofEffects_append (effects later : List Effect) :
    ofEffects (effects ++ later) = later.foldl observe (ofEffects effects) := by
  simp [ofEffects]

section
variable {k : Custody} {e : Effect}

theorem observe_of_not_isDeed (h : e.isDeed = false) : k.observe e = k := by
  cases e with
  | taken | watch | exchange => simp [Effect.isDeed] at h
  | completed | notice | relayed => rfl

theorem allows_of_not_isDeed (h : e.isDeed = false) : k.Allows e := by
  cases e with
  | taken | watch | exchange => simp [Effect.isDeed] at h
  | completed | notice | relayed => trivial

theorem allows_watch {p : Phase} (hu : p ≠ .unattached) (hc : p ≠ .complete) :
    k.Allows (.watch p) := by
  cases p with
  | unattached => exact absurd rfl hu
  | complete => exact absurd rfl hc
  | _ => trivial

end

/-- Every effect of a record is in order. -/
def Lawful (effects : List Effect) : Prop :=
  Throughout (fun before e => (ofEffects before).Allows e) effects

theorem ofEffects_filter (effects : List Effect) :
    ofEffects (effects.filter (·.isDeed)) = ofEffects effects := by
  induction effects using List.reverseRecOn with
  | nil => rfl
  | append_singleton effects e ih =>
    rw [List.filter_append, ofEffects_append_singleton, ← ih]
    cases he : e.isDeed with
    | false => simp [he, observe_of_not_isDeed he]
    | true => simp [he]

theorem lawful_append_singleton {effects : List Effect} {e : Effect} :
    Lawful (effects ++ [e]) ↔ Lawful effects ∧ (ofEffects effects).Allows e :=
  Throughout.append_singleton

theorem lawful_filter (effects : List Effect) :
    Lawful (effects.filter (·.isDeed)) ↔ Lawful effects := by
  induction effects using List.reverseRecOn with
  | nil => rfl
  | append_singleton effects e ih =>
    rw [List.filter_append, lawful_append_singleton]
    cases he : e.isDeed with
    | false => simpa [he, allows_of_not_isDeed he] using ih
    | true =>
      rw [List.filter_cons_of_pos he, List.filter_nil, lawful_append_singleton, ofEffects_filter]
      exact and_congr_left' ih

theorem lawful_append {effects later : List Effect} :
    Lawful (effects ++ later) ↔ Lawful effects ∧ (ofEffects effects).Admits later := by
  induction later generalizing effects with
  | nil => simp [Admits]
  | cons e later ih =>
    rw [List.append_cons, ih, ofEffects_append_singleton, lawful_append_singleton, and_assoc]
    rfl

/-- A class handle is not given back twice. -/
theorem Lawful.returns_le_one {effects : List Effect} (h : Lawful effects) :
    (ofEffects effects).returns ≤ 1 := by
  induction effects using List.reverseRecOn with
  | nil => exact Nat.zero_le _
  | append_singleton effects e ih =>
    obtain ⟨hl, he⟩ := lawful_append_singleton.mp h
    have hle := ih hl
    -- Only the return of the handle adds to the count, and it is permitted at zero.
    rw [ofEffects_append_singleton]
    cases e with
    | taken q =>
      cases q with
      | bind b =>
        simp only [observe]
        split <;> exact hle
      | nextPhase | completed => exact hle
    | completed | watch | notice | relayed => exact hle
    | exchange x =>
      cases x with
      | init device result =>
        cases result with
        | error => exact hle
        | ok => exact Nat.zero_le _
      | call => exact hle
      | busReset | reEnumerate =>
        simpa [observe, returns, Primitive.isDeinit] using hle
      | deinit device target result =>
        obtain ⟨b, ⟨-, hnone⟩, -⟩ := he
        rw [observe, returns, List.countP_append, ← returns, hnone]
        simp [Primitive.isDeinit]

end Custody

/-! ## The handles that the controller stores -/

namespace Controller

/-- The controller stores what the record shows to be lent. -/
structure Keeps (c : Controller) (k : Custody) : Prop where
  shown : k.shown = c.phase
  device : c.boundDevice = k.offer.map (·.device)
  interface : c.boundInterface = k.offer.map (·.interface)
  /-- The host outlasts a detach. -/
  host : ∀ b, k.offer = some b → c.boundHost = some b.host
  live : ∀ target, c.liveClass = some target →
    k.closing = [] ∧ ∃ b, k.offer = some b ∧ k.opened = some (b, target)
  free : c.liveClass = none → k.Free
  away : c.phase = .unattached → c.liveClass = none ∧ c.inFlight = none
  complete : c.phase = .complete → k.Finished

/-- An interface is selected only if it is the one that is bound. -/
theorem boundInterface_of_action {c : Controller} {p : Phase} {request : ClassCall} {length : Nat}
    (h : c.action p = .start request length) {interface : InterfaceHandle}
    (hi : interface ∈ request.interface?) : c.boundInterface = some interface := by
  cases starts_of_action h with
  | setInterface bound hb =>
    obtain rfl := Option.some.inj hi
    exact hb
  | _ => simp [ClassCall.interface?] at hi

/-- Two controllers store the same handles. -/
structure SameHandles (c d : Controller) : Prop where
  host : d.boundHost = c.boundHost
  device : d.boundDevice = c.boundDevice
  interface : d.boundInterface = c.boundInterface
  live : d.liveClass = c.liveClass

namespace Keeps

variable {c d : Controller} {k : Custody}

theorem new (image : Bytes) (config : Config) : (Controller.new image config).Keeps .none where
  shown := rfl
  device := rfl
  interface := rfl
  host := by simp [Custody.none]
  live := by simp [Controller.new]
  free _ := .inl rfl
  away _ := ⟨rfl, rfl⟩
  complete := by simp [Controller.new]

theorem atRest (h : c.Keeps k) : k.AtRest := by
  refine ⟨fun hu => h.free (h.away ?_).1, fun hc => h.complete ?_⟩
  · rw [← h.shown, hu]
  · rw [← h.shown, hc]

theorem of_sameHandles (h : c.Keeps k) (hs : SameHandles c d) (hp : d.phase = c.phase)
    (hf : d.phase = .unattached → c.inFlight = none → d.inFlight = none) : d.Keeps k where
  shown := h.shown.trans hp.symm
  device := hs.device.trans h.device
  interface := hs.interface.trans h.interface
  host b hb := hs.host.trans (h.host b hb)
  live target ht := h.live target (hs.live.symm.trans ht)
  free hl := h.free (hs.live.symm.trans hl)
  away hu := by
    obtain ⟨hl, hi⟩ := h.away (hp.symm.trans hu)
    exact ⟨hs.live.trans hl, hf hu hi⟩
  complete hc := h.complete (hp.symm.trans hc)

/-- To show a phase in which a device is in use changes nothing about what is lent. -/
theorem watch {p : Phase} (h : c.Keeps k) (hs : SameHandles c d) (hp : d.phase = p)
    (hu : p ≠ .unattached) (hc : p ≠ .complete) : d.Keeps (k.observe (.watch p)) where
  shown := hp.symm
  device := by simpa [Custody.observe, hu] using hs.device.trans h.device
  interface := by simpa [Custody.observe, hu] using hs.interface.trans h.interface
  host b hb := hs.host.trans (h.host b (by simpa [Custody.observe, hu] using hb))
  live target ht := by
    simpa [Custody.observe, hu] using h.live target (hs.live.symm.trans ht)
  free hl := h.free (hs.live.symm.trans hl)
  away hd := absurd (hp.symm.trans hd) hu
  complete hd := absurd (hp.symm.trans hd) hc

/-- A live class handle was given out for the device that is bound. -/
theorem holds (h : c.Keeps k) {target : ClassHandle} (ht : c.liveClass = some target) :
    k.closing = [] ∧ ∃ b, k.Holds b target ∧ k.offer = some b ∧ c.boundHost = some b.host ∧
      c.boundDevice = some b.device ∧ c.boundInterface = some b.interface := by
  obtain ⟨hc, b, hb, ho⟩ := h.live target ht
  refine ⟨hc, b, ⟨ho, by simp [Custody.returns, hc]⟩, hb, h.host b hb, ?_, ?_⟩
  · simp [h.device, hb]
  · simp [h.interface, hb]

end Keeps

end Controller

namespace Session

variable {δ κ : Type}

/-- What the record of a session shows to be lent. -/
def custody (s : Session δ κ) : Custody := .ofEffects s.effects

theorem custody_of_deeds {s t : Session δ κ} {es : List Effect} (h : t.deeds = s.deeds ++ es) :
    t.custody = es.foldl Custody.observe s.custody := by
  rw [custody, ← Custody.ofEffects_filter, ← deeds, h, Custody.ofEffects_append, deeds,
    Custody.ofEffects_filter, custody]

theorem lawful_of_deeds {s t : Session δ κ} {es : List Effect} (h : t.deeds = s.deeds ++ es)
    (hs : Custody.Lawful s.effects) (he : s.custody.Admits es) : Custody.Lawful t.effects := by
  rw [← Custody.lawful_filter, ← deeds, h, Custody.lawful_append, deeds, Custody.lawful_filter,
    Custody.ofEffects_filter]
  exact ⟨hs, he⟩

/-- All that was done was in order, and the controller stores what is lent. -/
structure Custodial (s : Session δ κ) : Prop where
  keeps : s.controller.Keeps s.custody
  lawful : Custody.Lawful s.effects

namespace Custodial

variable {s t : Session δ κ}

/-- What is done next is in order, and the controller stores what is lent after it. -/
theorem does {l : List Effect} (h : Custodial s) (ha : t.deeds = s.deeds ++ l)
    (he : s.custody.Admits l) (hk : t.controller.Keeps (l.foldl Custody.observe s.custody)) :
    Custodial t :=
  ⟨by rwa [custody_of_deeds ha], lawful_of_deeds ha h.lawful he⟩

/-- Nothing is done, and the controller stays as it is. -/
theorem elsewhere (h : Custodial s) (hc : t.controller = s.controller) (hd : t.deeds = s.deeds) :
    Custodial t := by
  refine h.does (l := []) (by rw [hd, List.append_nil]) trivial ?_
  rw [hc]
  exact h.keeps

theorem note (h : Custodial s) (n : Notice) : Custodial (s.note n) :=
  h.elsewhere rfl (deeds_note s n)

theorem setPhase (h : Custodial s) {p : Phase} (hu : p ≠ .unattached) (hc : p ≠ .complete) :
    Custodial (s.setPhase p) := by
  refine h.does (deeds_setPhase s p) ⟨Custody.allows_watch hu hc, trivial⟩ ?_
  exact h.keeps.watch ⟨by simp, by simp, by simp, by simp⟩ (by simp) hu hc

theorem fail (h : Custodial s) (cause : UpgradeError) : Custodial (s.fail cause) := by
  refine h.does (deeds_fail s cause) ⟨trivial, trivial⟩ ?_
  refine h.keeps.watch (p := .error) ⟨?_, ?_, ?_, ?_⟩ ?_ (by simp) (by simp)
  all_goals simp [Controller.recordFailure]

theorem advance (h : Custodial s) (p : Phase) : Custodial (s.advance p) := by
  cases hr : s.channel.refusal? with
  | none =>
    rw [advance_of_room p hr]
    exact h.elsewhere rfl rfl
  | some reason =>
    rw [advance_of_refusal p hr]
    exact h.fail _

theorem deliverAll (h : Custodial s) (ds : List (Completion × Reply)) :
    Custodial (s.deliverAll ds) :=
  h.elsewhere (controller_deliverAll ds) (deeds_deliverAll s ds)

/-- What a completion does to the controller does not touch the handles. -/
theorem settled (h : Custodial s) (op : InFlight) (x : Completion) (r : Reply) :
    Custodial (s.settled op x r) := by
  have ha := s.controller.conclude_alike op x.operation r
  refine h.does (l := []) (by rw [deeds_settled, List.append_nil]) trivial ?_
  rw [controller_settled]
  exact h.keeps.of_sameHandles ⟨ha.boundHost, ha.boundDevice, ha.boundInterface, ha.liveClass⟩
    ha.phase fun _ _ => ha.inFlight

variable (drv : Driver δ)

/-- The device is gone, and a class handle that was still out is given back. -/
theorem release (h : Custodial s) : Custodial ((s.release drv).setPhase .unattached) := by
  have hb := release_becomes drv s
  have hkeeps : ∀ k : Custody, k.Free →
      ((s.release drv).setPhase .unattached).controller.Keeps (k.observe (.watch .unattached)) := by
    intro k hk
    rw [controller_setPhase, hb.controller]
    exact
      { shown := by simp [Custody.observe]
        device := by simp [Custody.observe, Controller.forgetDevice_eq]
        interface := by simp [Custody.observe, Controller.forgetDevice_eq]
        host := by simp [Custody.observe]
        live := by simp
        free := fun _ => hk
        away := by simp
        complete := by simp }
  cases hl : s.controller.liveClass with
  | none =>
    have hfree := h.keeps.free hl
    refine h.does (l := [.watch .unattached]) ?_ ⟨hfree, trivial⟩ (hkeeps _ hfree)
    rw [deeds_setPhase, deeds_release_of_idle drv hl]
  | some target =>
    obtain ⟨hclosing, b, hholds, -, -, hd, -⟩ := h.keeps.holds hl
    obtain ⟨result, hr⟩ := deeds_release drv hl hd
    have hopen : s.custody.shown ≠ .complete := by
      intro hs
      obtain ⟨b', target', -, hc⟩ := h.keeps.complete (h.keeps.shown.symm.trans hs)
      simp [hclosing] at hc
    have hfree : (s.custody.observe (.exchange (.deinit b.device target result))).Free := by
      right
      simp [Custody.observe, Custody.returns, hclosing, Primitive.isDeinit]
    refine h.does (l := [.exchange (.deinit b.device target result), .watch .unattached]) ?_
      ⟨⟨b, hholds, rfl, ?_⟩, hfree, trivial⟩ (hkeeps _ hfree)
    · rw [deeds_setPhase, hr, List.append_assoc, List.singleton_append]
    · rw [if_neg hopen, hclosing]

/-- A class handle is given out for the device that was bound last. -/
theorem initialise {device : DeviceHandle} (h : Custodial s) (hp : s.controller.phase = .attached)
    (hl : s.controller.liveClass = none) (hd : s.controller.boundDevice = some device) :
    Custodial (s.initialise drv device) := by
  have hoffer : s.custody.offer.map (·.device) = some device := h.keeps.device.symm.trans hd
  obtain ⟨b, hb, hbd⟩ := Option.map_eq_some_iff.mp hoffer
  have hpermits : s.custody.Permits (.init device) := ⟨h.keeps.free hl, hoffer⟩
  rcases initialise_answers drv s device with ⟨driver, cause, he⟩ | ⟨driver, target, he⟩
  · rw [he]
    have hrefused : Custodial
        ((s.withDriver driver).record (.exchange (.init device (.error cause)))) := by
      refine h.does (l := [.exchange (.init device (.error cause))]) ?_ ⟨hpermits, trivial⟩ h.keeps
      rw [deeds_record, deeds_withDriver]
      rfl
    exact hrefused.fail _
  · rw [he]
    refine Custodial.advance (h.does (deeds_initialised s driver device target)
      ⟨hpermits, trivial⟩ ?_) _
    exact
      { shown := h.keeps.shown
        device := h.keeps.device
        interface := h.keeps.interface
        host := h.keeps.host
        live := fun target' ht => by
          obtain rfl := Option.some.inj ht
          exact ⟨rfl, b, hb, by simp [Custody.observe, hb]⟩
        free := fun hn => by simp [Controller.startOver] at hn
        away := fun hu => by
          simp [Controller.startOver, Controller.resetCounters, hp] at hu
        complete := fun hc => by
          simp [Controller.startOver, Controller.resetCounters, hp] at hc }

/-- An operation goes to the class handle that is out. -/
theorem start {target : ClassHandle} {request : ClassCall} {length : Nat} (h : Custodial s)
    (hl : s.controller.liveClass = some target)
    (hi : ∀ interface ∈ request.interface?, s.controller.boundInterface = some interface) :
    Custodial (s.start drv target request length) := by
  obtain ⟨-, b, hholds, -, -, -, hb⟩ := h.keeps.holds hl
  have hhanded : Custodial (s.handOver drv target request length) := by
    refine h.does (deeds_handOver s drv target request length)
      ⟨⟨b, hholds, fun interface hx => ?_⟩, trivial⟩ ?_
    · exact Option.some.inj ((hi interface hx).symm.trans hb)
    · refine h.keeps.of_sameHandles ?_ ?_ fun hu _ => ?_
      all_goals rw [controller_handOver] at *
      · exact ⟨rfl, rfl, rfl, rfl⟩
      · rfl
      · have hn := (h.keeps.away hu).1
        simp [hl] at hn
  rw [start_eq]
  split
  · exact hhanded.deliverAll _
  · exact (hhanded.deliverAll _).fail _

/-- The use of the device is ended right after the success is shown. -/
theorem finish (h : Custodial s) (hl : s.controller.liveClass ≠ none) :
    Custodial ((s.setPhase .complete).finish drv) := by
  obtain ⟨target, ht⟩ := Option.ne_none_iff_exists'.mp hl
  obtain ⟨hclosing, b, hholds, hoffer, hh, hd, hi⟩ := h.keeps.holds ht
  have ht' : (s.setPhase .complete).controller.liveClass = some target := by simpa using ht
  have hd' : (s.setPhase .complete).controller.boundDevice = some b.device := by simpa using hd
  have hh' : (s.setPhase .complete).controller.boundHost = some b.host := by simpa using hh
  obtain ⟨result, hr⟩ := deeds_finish drv ht' hd' hh'
  have hdone : Custody.Finished
      { s.custody with
        shown := .complete
        closing := [.busReset b.host, .deinit b.device target, .reEnumerate b.device] } :=
    ⟨b, target, hholds.1, rfl⟩
  refine h.does
    (l := [.watch .complete, .exchange (.busReset b.host),
      .exchange (.deinit b.device target result), .exchange (.reEnumerate b.device)]) ?_
    ⟨⟨hclosing, b, target, hholds⟩, ?_, ?_, ?_, trivial⟩ ?_
  · rw [hr, deeds_setPhase, List.append_assoc, List.singleton_append]
  · exact ⟨rfl, hclosing, b, target, hholds, rfl⟩
  · refine ⟨b, ⟨hholds.1, ?_⟩, rfl, ?_⟩
    · simp [Custody.observe, Custody.returns, hclosing, Primitive.isDeinit]
    · simp [Custody.observe, hclosing]
  · refine ⟨rfl, b, target, hholds.1, rfl, ?_⟩
    simp [Custody.observe, hclosing]
  · rw [(finish_becomes drv _).controller]
    simp only [List.foldl_cons, List.foldl_nil, Custody.observe, hclosing, List.nil_append,
      List.cons_append, if_neg (show Phase.complete ≠ .unattached by simp)]
    exact
      { shown := by simp
        device := by simpa using h.keeps.device
        interface := by simpa using h.keeps.interface
        host := fun b' hb' => by simpa using h.keeps.host b' hb'
        live := by simp
        free := fun _ => hdone.free
        away := by simp
        complete := fun _ => hdone }

/-- What a request leads to is in order. A binding is left out here that the controller takes
down: the record shows it before. -/
theorem outcome {q : Request} (h : Custodial s) (o : Outcome drv s q t)
    (hq : ∀ b, q = .bind b → s.controller.phase ≠ .unattached) : Custodial t := by
  cases o with
  | dropped p n _ => exact h.note n
  | ignored b _ => exact h.note _
  | stale x r _ => exact h.note _
  | bound b hp => exact absurd hp (hq b rfl)
  | released => exact h.release drv
  | initialised device hp _ hd =>
    have hl := (h.keeps.away hp).1
    exact (h.setPhase (by simp) (by simp)).initialise drv (by simp) (by simpa using hl)
      (by simpa using hd)
  | started p target request length _ _ hl hact =>
    have hp := Phase.needsClass_of_operation? (Controller.operation?_of_action hact)
    have hu : p ≠ .unattached := by
      rintro rfl
      simp [Phase.needsClass] at hp
    have hc : p ≠ .complete := by
      rintro rfl
      simp [Controller.action] at hact
    refine (h.setPhase hu hc).start drv (by simpa using hl) fun interface hx => ?_
    simpa using Controller.boundInterface_of_action hact hx
  | skipped => exact (h.setPhase (by simp) (by simp)).advance _
  | finished _ _ hl => exact h.finish drv hl
  | blocked p cause hp =>
    rcases hp with rfl | rfl
    all_goals exact (h.setPhase (by simp) (by simp)).fail _
  | reported => exact (h.setPhase (by simp) (by simp)).note _
  | advanced x r op p _ _ => exact (h.settled op x r).advance p
  | failed x r op cause _ _ => exact (h.settled op x r).fail cause

/-- The request is taken up, and a lost completion is looked for. -/
theorem noticed {q : Request} (h : Custodial s)
    (hq : ∀ b, q = .bind b → s.controller.phase ≠ .unattached) : Custodial (s.noticed q) := by
  -- The record follows a binding when it is taken up, the controller only when it is dealt with.
  have hobserve : s.custody.observe (.taken q) = s.custody := by
    cases q with
    | nextPhase | completed => rfl
    | bind b => exact if_neg fun hu => hq b rfl (h.keeps.shown.symm.trans hu)
  have htaken : Custodial (s.record (.taken q)) := by
    refine h.does (deeds_taken s q) ⟨h.keeps.atRest, trivial⟩ ?_
    rw [List.foldl_cons, List.foldl_nil, hobserve]
    exact h.keeps
  by_cases hb : Bereft s
  · rw [noticed_of_bereft hb]
    refine Custodial.fail (s := (s.record (.taken q)).forgetLoss) ?_ _
    exact htaken.elsewhere rfl rfl
  · refine htaken.elsewhere (noticed_of_not_bereft hb q).1.controller ?_
    rw [deeds_noticed hb, deeds_taken]

/-- The controller takes down a binding where no device is attached. -/
theorem bound (h : Custodial s) (b : Binding) (hp : s.controller.phase = .unattached) :
    Custodial (Session.handle drv s (.bind b)).1 := by
  obtain ⟨hl, hi⟩ := h.keeps.away hp
  have hb := not_bereft_of_idle hi
  have hsame := (noticed_of_not_bereft hb (.bind b)).1.controller
  have hshown : s.custody.shown = .unattached := h.keeps.shown.trans hp
  have ho := outcome_handle drv s (.bind b)
  generalize (Session.handle drv s (.bind b)).1 = t at ho ⊢
  cases ho with
  | ignored _ hn => exact absurd (hsame ▸ hp) hn
  | bound =>
    refine h.does (l := [.taken (.bind b)]) ?_ ⟨h.keeps.atRest, trivial⟩ ?_
    · rw [deeds_modify, deeds_note, deeds_noticed hb]
    · rw [controller_modify, controller_note, hsame]
      simp only [List.foldl_cons, List.foldl_nil, Custody.observe, if_pos hshown]
      exact
        { shown := h.keeps.shown
          device := rfl
          interface := rfl
          host := fun b' hb' => by rw [← Option.some.inj hb']; rfl
          live := fun target ht => by simp [Controller.bind, hl] at ht
          free := fun _ => h.keeps.free hl
          away := fun _ => ⟨hl, hi⟩
          complete := fun hc => by simp [Controller.bind, hp] at hc }

/-- One request leaves everything in order. -/
theorem handle (h : Custodial s) (q : Request) : Custodial (Session.handle drv s q).1 := by
  by_cases hq : ∃ b, q = .bind b ∧ s.controller.phase = .unattached
  · obtain ⟨b, rfl, hp⟩ := hq
    exact h.bound drv b hp
  · have hq' : ∀ b, q = .bind b → s.controller.phase ≠ .unattached :=
      fun b hb hp => hq ⟨b, hb, hp⟩
    refine (h.noticed hq').outcome drv (outcome_handle drv s q) fun b hb hp => ?_
    by_cases hl : Bereft s
    · simp [noticed_of_bereft hl] at hp
    · rw [(noticed_of_not_bereft hl q).1.controller] at hp
      exact hq' b hb hp

end Custodial

theorem Served.custodial {drv : Driver δ} {image : Bytes} {config : Config} {s : Session δ κ}
    (h : Served drv image config s) : Custodial s := by
  induction h with
  | start driver channel => exact ⟨.new image config, .nil⟩
  | elsewhere _ hst ih => exact ih.elsewhere hst.controller hst.others.deeds_eq
  | handle q _ ih => exact ih.handle drv q

end Session

namespace Installation

variable {δ κ : Type} {drv : Driver δ} {image : Bytes} {config : Config} {s : Session δ κ}

/-- Whatever is requested and whatever the driver answers, the controller borrows a class handle for
the device that was bound last, when none is out, uses none but that, and gives it back exactly
once before it shows that the device is gone or right after it shows that the upgrade is complete.
Only then, and in that order, it resets the bus before and has the device enumerated again behind;
all with the handles of the one binding. -/
theorem custody_lawful (h : Session.Served drv image config s) :
    Custody.Lawful s.effects ∧ (Custody.ofEffects s.effects).AtRest ∧
      ∀ n, (Custody.ofEffects (s.effects.take n)).returns ≤ 1 :=
  ⟨h.custodial.lawful, h.custodial.keeps.atRest,
    fun n => Custody.Lawful.returns_le_one (h.custodial.lawful.take n)⟩

/-- The whole upgrade with an image of one byte, in which nothing fails. -/
def upgraded : Installation Nat Unit := (blank 7).moves obliging (ordinary 7)

theorem served_upgraded : Session.Served obliging #[7] .standard upgraded.session :=
  Shared.served (.of_plays (by decide +kernel))

theorem upgraded_lawful :
    Custody.Lawful upgraded.effects ∧
      (Custody.ofEffects upgraded.effects).closing =
        [.busReset Accelerator.host, .deinit Accelerator.device ⟨1⟩,
          .reEnumerate Accelerator.device] :=
  ⟨(custody_lawful served_upgraded).1, by decide +kernel⟩

/-- The success is shown before the use of the device is ended: when observers see it nothing of
that is done yet, and all of it when the next request is taken up. So they can rely on it only where
no upgrade comes to a success at all. -/
theorem complete_shown_first (h : Session.Served drv image config s) :
    (∀ n, s.effects[n]? = some (.watch .complete) →
        (Custody.ofEffects (s.effects.take n)).closing = []) ∧
      (∀ n q, s.effects[n]? = some (.taken q) →
        (Custody.ofEffects (s.effects.take n)).shown = .complete →
          (Custody.ofEffects (s.effects.take n)).Finished) ∧
      ((Custody.ofEffects s.effects).shown = .complete →
        (Custody.ofEffects s.effects).Finished) ∧
      ((∀ n, s.effects[n]? = some (.watch .complete) →
          (Custody.ofEffects (s.effects.take n)).Finished) ↔
        .watch .complete ∉ s.effects) := by
  have hlawful := h.custodial.lawful
  have hopen : ∀ n, s.effects[n]? = some (.watch .complete) →
      (Custody.ofEffects (s.effects.take n)).closing = [] := fun n hn => (hlawful n _ hn).1
  refine ⟨hopen, fun n q hn => (hlawful n _ hn).2, h.custodial.keeps.atRest.2, ?_⟩
  constructor
  · intro hfinished hmem
    obtain ⟨n, hn⟩ := List.mem_iff_getElem?.mp hmem
    obtain ⟨b, target, -, hclosing⟩ := hfinished n hn
    simp [hopen n hn] at hclosing
  · intro hnever n hn
    exact absurd (List.mem_of_getElem? hn) hnever

theorem upgraded_shown_first :
    upgraded.effects[62]? = some (.watch .complete) ∧
      (Custody.ofEffects (upgraded.effects.take 62)).closing = [] := by
  have hshown : upgraded.effects[62]? = some (.watch .complete) :=
    Effect.eq_watch_of_watched? (by decide +kernel)
  exact ⟨hshown, (complete_shown_first served_upgraded).1 62 hshown⟩

/-- Observers see the success of this upgrade before the use of the device is ended. -/
theorem exists_complete_unfinished :
    ∃ s : Session Nat Unit, Session.Served obliging #[7] .standard s ∧
      ¬∀ n, s.effects[n]? = some (.watch .complete) →
        (Custody.ofEffects (s.effects.take n)).Finished := by
  refine ⟨upgraded.session, served_upgraded, fun hfinished => ?_⟩
  have hshown : upgraded.effects[62]? = some (.watch .complete) :=
    Effect.eq_watch_of_watched? (by decide +kernel)
  have hclosing : (Custody.ofEffects (upgraded.effects.take 62)).closing = [] := by decide +kernel
  obtain ⟨b, target, -, hc⟩ := hfinished 62 hshown
  simp [hclosing] at hc

end Installation

end FirmwareUpgrade
