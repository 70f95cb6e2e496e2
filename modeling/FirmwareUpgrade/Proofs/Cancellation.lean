import FirmwareUpgrade.Proofs.Custody
import FirmwareUpgrade.Proofs.Quiescence
import FirmwareUpgrade.Proofs.Range

/-!
# The detach of the device cancels an upgrade

The step that a detach amounts to waits in the queue like any other. What was queued before it is
handled first, and may queue steps of the upgrade behind it; completions of the operation that is
cut off may come later, or never. None of this matters: behind the detach only such follow-ups wait
(`Channel.Trails`), the detach returns the class handle and forgets the rest, and a controller that
is cleared in this way drops every follow-up.
-/
namespace FirmwareUpgrade

/-- Nothing is left of a device. -/
structure Controller.Cleared (c : Controller) : Prop where
  phase : c.phase = .unattached
  live : c.liveClass = none
  device : c.boundDevice = none
  interface : c.boundInterface = none
  readback : c.readback = none
  idle : c.inFlight = none
  transferred : c.transferred = 0
  block : c.block = 0

/-- The controller that let go of its device is cleared. -/
theorem Controller.cleared_forgetDevice (c : Controller) :
    (Controller.forgetDevice { c with liveClass := none } |>.enter .unattached).Cleared := by
  have hr := (Controller.forgetDevice { c with liveClass := none }).readback_enter_of_ne .unattached
    (by simp)
  constructor
  case readback => rw [hr, readback_forgetDevice]
  all_goals simp [forgetDevice_eq]

/-! ## Follow-ups -/

/-- Behind the requests of a list nothing waits but follow-ups. -/
def Channel.Trails {κ : Type} (base : List Request) (c : Channel Request κ) : Prop :=
  ∃ later, c.waiting.map (·.request) = base ++ later ∧ ∀ q ∈ later, q.isFollowUp = true

theorem Channel.Trails.send {κ : Type} {base : List Request} {c : Channel Request κ}
    (h : c.Trails base) {q : Request} (hq : q.isFollowUp = true) : Trails base (c.send q) := by
  obtain ⟨later, hw, hl⟩ := h
  change Trails base (c.push ⟨q, none⟩)
  cases hr : c.refusal? with
  | none =>
    refine ⟨later ++ [q], ?_, ?_⟩
    · rw [waiting_push_of_refusal?_eq_none _ hr, List.map_append, hw]
      simp
    · simpa [or_imp, forall_and] using ⟨hl, hq⟩
  | some reason =>
    rw [push_of_refusal?_eq_some _ hr]
    exact ⟨later, hw, hl⟩

namespace Session

variable {δ κ : Type} {drv : Driver δ} {image : Bytes} {config : Config} {s t : Session δ κ}
  {base : List Request} {q : Request}

/-- The primitives called so far, oldest first. -/
def primitives (s : Session δ κ) : List Primitive := s.effects.filterMap Effect.primitive?

/-- Primitives are called as deeds only. -/
theorem primitives_eq (s : Session δ κ) : s.primitives = s.deeds.filterMap Effect.primitive? := by
  rw [deeds, List.filterMap_filter, primitives]
  congr 1
  funext e
  cases e <;> rfl

theorem Elsewhere.primitives (h : Elsewhere s t) : t.primitives = s.primitives := by
  rw [primitives_eq, h.others.deeds_eq, ← primitives_eq]

theorem handles_noticed (s : Session δ κ) (q : Request) :
    Controller.SameHandles s.controller (s.noticed q).controller := by
  by_cases hb : Bereft s
  · rw [noticed_of_bereft hb]
    constructor <;> simp [Controller.recordFailure]
    all_goals rfl
  · rw [(noticed_of_not_bereft hb q).1.controller]
    exact ⟨rfl, rfl, rfl, rfl⟩

theorem primitives_noticed (s : Session δ κ) (q : Request) :
    (s.noticed q).primitives = s.primitives := by
  by_cases hb : Bereft s
  · rw [noticed_of_bereft hb, primitives_eq, deeds_fail]
    show ((s.record (.taken q)).deeds ++ _).filterMap _ = _
    simp [Effect.primitive?, ← primitives_eq]
  · exact (noticed_of_not_bereft hb q).1.primitives

/-- A request queues only follow-ups. -/
theorem trails_handle (h : s.channel.Trails base) (q : Request) :
    (handle drv s q).1.channel.Trails base :=
  (outcome_handle drv s q).channel (fun _ _ hq hc => hc.send hq) (by rwa [channel_noticed])

theorem trails_dropOldest (h : s.channel.Trails (q :: base)) :
    s.dropOldest.channel.Trails base := by
  obtain ⟨later, hw, hl⟩ := h
  refine ⟨later, ?_, hl⟩
  have ht := congrArg List.tail hw
  rw [← List.map_tail] at ht
  exact ht

/-! ## The step that lets go of the device -/

theorem cleared_unattached (drv : Driver δ) (s : Session δ κ) :
    (controller (handle drv s (.nextPhase .unattached)).1).Cleared := by
  rw [handle_unattached, controller_setPhase, (release_becomes drv _).controller]
  exact Controller.cleared_forgetDevice _

theorem primitives_unattached_of_idle (drv : Driver δ) (hl : s.controller.liveClass = none) :
    primitives (handle drv s (.nextPhase .unattached)).1 = s.primitives := by
  have hlive := (handles_noticed s (.nextPhase .unattached)).live.trans hl
  rw [handle_unattached, primitives_eq, deeds_setPhase, deeds_release_of_idle drv hlive,
    List.filterMap_append, ← primitives_eq, primitives_noticed]
  simp [Effect.primitive?]

/-- The class handle that is live is returned. -/
theorem primitives_unattached (drv : Driver δ) {target : ClassHandle} {device : DeviceHandle}
    (hl : s.controller.liveClass = some target) (hd : s.controller.boundDevice = some device) :
    primitives (handle drv s (.nextPhase .unattached)).1 =
      s.primitives ++ [.deinit device target] := by
  have hsame := handles_noticed s (.nextPhase .unattached)
  obtain ⟨result, hr⟩ := deeds_release drv (hsame.live.trans hl) (hsame.device.trans hd)
  rw [handle_unattached, primitives_eq, deeds_setPhase, hr, List.filterMap_append,
    List.filterMap_append, ← primitives_eq, primitives_noticed]
  simp [Effect.primitive?, Exchange.primitive]

/-- A cleared controller drops what follows up on the upgrade that was cut off. -/
theorem take_of_cleared (drv : Driver δ) (h : s.controller.Cleared) (hq : q.isFollowUp = true) :
    ∃ n, take drv s q = s.note n := by
  cases q with
  | bind b => simp [Request.isFollowUp] at hq
  | completed x r =>
    have hx := Controller.awaited?_of_idle h.idle x.ticket
    exact ⟨.staleCompletion x.operation s.controller.phase, by simp only [take, complete, hx]⟩
  | nextPhase p =>
    have ho : s.controller.objection? p = some (.noClassHandle p) := by
      have hp : p.needsClass = true := hq
      have hu : p ≠ .unattached := by rintro rfl; simp [Phase.needsClass] at hp
      have ha : p ≠ .attached := by rintro rfl; simp [Phase.needsClass] at hp
      simp [Controller.objection?, h.phase, h.live, hp, hu, ha, Phase.isTerminal]
    exact ⟨.noClassHandle p, by simp only [take, step, ho]⟩

theorem handle_of_cleared (drv : Driver δ) (h : s.controller.Cleared)
    (hq : q.isFollowUp = true) : Untouched s (handle drv s q).1 := by
  have hnoticed := (noticed_of_not_bereft (not_bereft_of_idle h.idle) q).1
  obtain ⟨n, hn⟩ := take_of_cleared drv (s := s.noticed q) (hnoticed.controller ▸ h) hq
  show Untouched s (take drv (s.noticed q) q)
  rw [hn]
  exact hnoticed.trans (.note _ n)

end Session

namespace Installation

variable {δ κ : Type} {drv : Driver δ} {image : Bytes} {config : Config} {i j : Installation δ κ}
  {base : List Request}

/-! ## Moves -/

theorem moves_cons (drv : Driver δ) (i : Installation δ κ) (m : Move δ) (ms : List (Move δ)) :
    i.moves drv (m :: ms) = (i.move drv m).moves drv ms := rfl

theorem moves_append (drv : Driver δ) (i : Installation δ κ) (ms ns : List (Move δ)) :
    i.moves drv (ms ++ ns) = (i.moves drv ms).moves drv ns :=
  List.foldl_append

theorem served_moves (h : Session.Served drv image config i.session) (ms : List (Move δ)) :
    Session.Served drv image config (i.moves drv ms).session := by
  induction ms generalizing i with
  | nil => exact h
  | cons m ms ih => exact ih (served_move h m)

/-- The driver and its completions put no more than follow-ups behind what waits. -/
theorem trails_move (h : i.channel.Trails base) {m : Move δ} (he : m.isEvent = false)
    (hw : m.isWork = false) : (i.move drv m).channel.Trails base := by
  cases m with
  | event => simp [Move.isEvent] at he
  | work => simp [Move.isWork] at hw
  | drive driver notices =>
    show (Session.relayAll (i.session.withDriver driver) notices).channel.Trails base
    rwa [Session.channel_relayAll]
  | complete x r => exact Session.channel_deliver (fun _ _ hq hc => hc.send hq) h x r

/-- The worker takes the first of the requests that wait. -/
theorem trails_work (drv : Driver δ) {q : Request} (h : i.channel.Trails (q :: base)) :
    (i.move drv .work).session = (Session.handle drv i.session.dropOldest q).1 ∧
      (i.move drv .work).channel.Trails base := by
  obtain ⟨later, hreq, -⟩ := id h
  have hs := (session_work_of_requests drv (i := i) hreq).1
  refine ⟨hs, ?_⟩
  show (i.move drv .work).session.channel.Trails base
  rw [hs]
  exact Session.trails_handle (Session.trails_dropOldest h) q

/-- As long as the worker took no more requests than were ahead of it, a request waits. -/
theorem trails_moves (drv : Driver δ) {q : Request} {ms : List (Move δ)}
    (hms : ∀ m ∈ ms, m.isEvent = false) :
    ∀ {i : Installation δ κ} {ahead : List Request}, i.channel.Trails (ahead ++ [q]) →
      ms.countP (·.isWork) ≤ ahead.length →
      (i.moves drv ms).channel.Trails (ahead.drop (ms.countP (·.isWork)) ++ [q]) := by
  induction ms with
  | nil => exact fun h _ => h
  | cons m ms ih =>
    intro i ahead h hle
    rw [List.forall_mem_cons] at hms
    rw [moves_cons]
    cases hw : m.isWork with
    | false =>
      rw [List.countP_cons_of_neg (by simp [hw])] at hle ⊢
      exact ih hms.2 (trails_move h hms.1 hw) hle
    | true =>
      obtain rfl := Move.eq_work_of_isWork hw
      rw [List.countP_cons_of_pos hw] at hle ⊢
      cases ahead with
      | nil => simp at hle
      | cons first ahead => exact ih hms.2 (trails_work drv h).2 (Nat.le_of_succ_le_succ hle)

/-- Nothing is done any more once the device was let go of. -/
theorem cleared_moves (drv : Driver δ) {ms : List (Move δ)} (hms : ∀ m ∈ ms, m.isEvent = false) :
    ∀ {i : Installation δ κ}, i.controller.Cleared → i.channel.Trails [] →
      (i.moves drv ms).controller.Cleared ∧
        (i.moves drv ms).session.primitives = i.session.primitives := by
  induction ms with
  | nil => exact fun h _ => ⟨h, rfl⟩
  | cons m ms ih =>
    intro i h ht
    rw [List.forall_mem_cons] at hms
    suffices hm : (i.move drv m).controller.Cleared ∧ (i.move drv m).channel.Trails [] ∧
        (i.move drv m).session.primitives = i.session.primitives by
      obtain ⟨hc, ht', hp⟩ := hm
      obtain ⟨hc', hp'⟩ := ih hms.2 hc ht'
      exact ⟨hc', hp'.trans hp⟩
    cases hw : m.isWork with
    | false =>
      have hm := elsewhere_move drv i hw
      refine ⟨?_, trails_move ht hms.1 hw, hm.primitives⟩
      rwa [show (i.move drv m).controller = i.controller from hm.controller]
    | true =>
      obtain rfl := Move.eq_work_of_isWork hw
      obtain ⟨later, hreq, hl⟩ := id ht
      cases later with
      | nil =>
        rcases i.session_work drv with ⟨-, hs⟩ | ⟨q, hq, -⟩
        · rw [controller, channel, ← session, hs]
          exact ⟨h, ht, rfl⟩
        · have hnil := hq.symm.trans hreq
          simp at hnil
      | cons q later =>
        rw [List.forall_mem_cons] at hl
        have hahead : i.channel.Trails [q] := ⟨later, hreq, hl.2⟩
        obtain ⟨hs, ht'⟩ := trails_work drv hahead
        have hu := Session.handle_of_cleared drv (s := i.session.dropOldest) h hl.1
        rw [← hs] at hu
        refine ⟨?_, ht', hu.primitives⟩
        rwa [show (i.move drv .work).controller = i.controller from hu.controller]

/-- From the first installation to the second the controller handles the detach: it returns the
class handle that is live, if there is one, calls nothing else, and is cleared. -/
structure Detaches (k l : Installation δ κ) : Prop where
  head : k.session.requests.head? = some (.nextPhase .unattached)
  idle : k.controller.liveClass = none → l.session.primitives = k.session.primitives
  live : ∀ target, k.controller.liveClass = some target →
    ∃ device, k.controller.boundDevice = some device ∧
      l.session.primitives = k.session.primitives ++ [.deinit device target]
  cleared : l.controller.Cleared

theorem detaches_work (h : Session.Served drv image config i.session)
    (ht : i.channel.Trails [.nextPhase .unattached]) :
    Detaches i (i.move drv .work) ∧ (i.move drv .work).channel.Trails [] := by
  obtain ⟨later, hreq, -⟩ := id ht
  obtain ⟨hs, ht'⟩ := trails_work drv ht
  refine ⟨⟨?_, fun hl => ?_, fun target hl => ?_, ?_⟩, ht'⟩
  · rw [Session.requests, hreq]
    rfl
  · rw [hs]
    exact Session.primitives_unattached_of_idle drv (s := i.session.dropOldest) hl
  · obtain ⟨-, b, -, -, -, hdevice, -⟩ := h.custodial.keeps.holds hl
    refine ⟨b.device, hdevice, ?_⟩
    rw [hs]
    exact Session.primitives_unattached drv (s := i.session.dropOldest) hl hdevice
  · rw [controller, ← session, hs]
    exact Session.cleared_unattached drv _

/-- The request that an accepted detach amounts to waits behind all others. -/
theorem requests_of_detach {vendor product : UInt16} {host : HostHandle} {device : DeviceHandle}
    (hd : i.dispatch vendor product host device .detach = (j, .success)) :
    j.session.requests = i.session.requests ++ [.nextPhase .unattached] := by
  have hq : HostEvent.detach.request host device = .ok (.nextPhase .unattached) := rfl
  obtain ⟨hl, hr⟩ := room_of_success hq (congrArg Prod.snd hd)
  have hs := (dispatch_of_room hl hq hr).2
  rw [hd] at hs
  rw [show j.session = _ from hs, Session.requests_noteAll, Session.requests_post _ hr]

/-- A list with more than `n` elements of some kind can be cut before the next one of them. -/
theorem exists_append_of_lt_countP {α : Type} {p : α → Bool} {l : List α} {n : Nat}
    (h : n < l.countP p) : ∃ a x b, l = a ++ x :: b ∧ p x = true ∧ a.countP p = n := by
  induction l generalizing n with
  | nil => simp at h
  | cons y l ih =>
    cases hy : p y with
    | false =>
      rw [List.countP_cons_of_neg (by simp [hy])] at h
      obtain ⟨a, x, b, rfl, hx, ha⟩ := ih h
      exact ⟨y :: a, x, b, rfl, hx, by rw [List.countP_cons_of_neg (by simp [hy]), ha]⟩
    | true =>
      cases n with
      | zero => exact ⟨[], y, l, rfl, hy, rfl⟩
      | succ n =>
        rw [List.countP_cons_of_pos hy] at h
        obtain ⟨a, x, b, rfl, hx, ha⟩ := ih (Nat.lt_of_succ_lt_succ h)
        exact ⟨y :: a, x, b, rfl, hx, by rw [List.countP_cons_of_pos hy, ha]⟩

/-- Whatever was requested and answered before, and whatever waits, a detach that was accepted
cancels the upgrade unless another event follows. It is handled when the worker has handled all that
waited ahead of it, and before that the queue is not empty. Handling it returns the class handle
that is live at the time, once; nothing is called after it, however the driver and its completions
go on, and nothing is left of the device, neither then nor when the queue has drained. -/
theorem detach_cancels {vendor product : UInt16} {host : HostHandle} {device : DeviceHandle}
    (h : Session.Served drv image config i.session)
    (hd : i.dispatch vendor product host device .detach = (j, .success))
    (ms : List (Move δ)) (hms : ∀ m ∈ ms, m.isEvent = false) :
    ((j.moves drv ms).session.requests = [] →
        i.session.requests.length < ms.countP (·.isWork) ∧
          (j.moves drv ms).controller.Cleared) ∧
      ∀ before after, ms = before ++ .work :: after →
        before.countP (·.isWork) = i.session.requests.length →
        Detaches (j.moves drv before) ((j.moves drv before).move drv .work) ∧
          (j.moves drv ms).session.primitives =
            ((j.moves drv before).move drv .work).session.primitives ∧
          (j.moves drv ms).controller.Cleared := by
  have hserved : Session.Served drv image config j.session := by
    have hj : j = i.move drv (.event vendor product host device .detach) := by
      rw [move, hd]
    rw [hj]
    exact served_move h _
  have hqueued : j.channel.Trails (i.session.requests ++ [.nextPhase .unattached]) :=
    ⟨[], (requests_of_detach hd).trans (List.append_nil _).symm, by simp⟩
  have hhandled : ∀ before after, ms = before ++ .work :: after →
      before.countP (·.isWork) = i.session.requests.length →
      Detaches (j.moves drv before) ((j.moves drv before).move drv .work) ∧
        (j.moves drv ms).session.primitives =
          ((j.moves drv before).move drv .work).session.primitives ∧
        (j.moves drv ms).controller.Cleared := by
    rintro before after rfl hcount
    rw [List.forall_mem_append, List.forall_mem_cons] at hms
    have ht := trails_moves drv hms.1 hqueued hcount.le
    rw [hcount, List.drop_length, List.nil_append] at ht
    obtain ⟨hdetaches, ht'⟩ := detaches_work (served_moves hserved before) ht
    obtain ⟨hcleared, hprimitives⟩ := cleared_moves drv hms.2.2 hdetaches.cleared ht'
    rw [moves_append, moves_cons]
    exact ⟨hdetaches, hprimitives, hcleared⟩
  refine ⟨fun hdrained => ?_, hhandled⟩
  have hlt : i.session.requests.length < ms.countP (·.isWork) := by
    by_contra hle
    obtain ⟨later, hreq, -⟩ := trails_moves drv hms hqueued (Nat.not_lt.mp hle)
    have hnil := hreq.symm.trans hdrained
    simp at hnil
  obtain ⟨before, m, after, hsplit, hm, hcount⟩ := exists_append_of_lt_countP hlt
  obtain rfl := Move.eq_work_of_isWork hm
  exact ⟨hlt, (hhandled before after hsplit hcount).2.2⟩

/-- The last byte of the image came back, and that is still to be handled. -/
def cameBack : Installation Nat Unit :=
  readingBack.moves obliging [.complete ⟨5, .upload⟩ (.ok #[7])]

/-- The step that the reply leads to is handled after the detach, and then the reply to the upload
comes for a second time. -/
theorem cameBack_cancelled :
    let j := (cameBack.dispatch dfuVendor dfuProduct Accelerator.host Accelerator.device .detach).1
    let k := j.moves obliging
      [.work, .work, .work, .complete ⟨5, .upload⟩ (.ok #[7]), .work]
    (cameBack.dispatch dfuVendor dfuProduct Accelerator.host Accelerator.device .detach).2 =
        .success ∧
      (j.moves obliging [.work]).controller.liveClass = some ⟨1⟩ ∧
      k.session.requests = [] ∧ k.controller.Cleared ∧
      k.session.primitives =
        ((j.moves obliging [.work]).move obliging .work).session.primitives := by
  have hserved : Session.Served obliging #[7] .standard cameBack.session :=
    served_moves (Shared.served (.of_plays (by decide +kernel))) _
  have hcancels := detach_cancels hserved
    (Prod.ext rfl (by decide +kernel) :
      cameBack.dispatch dfuVendor dfuProduct Accelerator.host Accelerator.device .detach =
        (_, .success))
    [.work, .work, .work, .complete ⟨5, .upload⟩ (.ok #[7]), .work] (by decide)
  have hdrained := hcancels.1 (by decide +kernel)
  have hhandled := hcancels.2 [.work] [.work, .complete ⟨5, .upload⟩ (.ok #[7]), .work] rfl
    (by decide +kernel)
  exact ⟨by decide +kernel, by decide +kernel, by decide +kernel, hdrained.2, hhandled.2.1⟩

end Installation

end FirmwareUpgrade
