import FirmwareUpgrade.Proofs.Delivery
import FirmwareUpgrade.Proofs.Run

/-!
# An upgrade that settles

The accelerator without faults, plugged in once, is brought through the whole upgrade by running the
worker and letting the device finish its operations by turns. `Settling` bounds the number of
requests that are left. Every request that is handled lowers the bound, so the bounds that the loops
are given are never reached.
-/
namespace FirmwareUpgrade

/-- A bound on the requests that are left when the step to a phase is due. There are at most three
to an operation: the step to its phase, its completion, and the step that is skipped when nothing is
read back. -/
def Task.cost (t : Task) (p : Phase) (i : Nat) : Nat :=
  3 * (t.agenda p i).length + if p = .readBack then 2 else 1

namespace Session

variable {κ : Type} {s : Rig κ} {t : Task} {n m : Nat}

/-- The upgrade is under way with at most `n` requests left, or done. -/
inductive Settling (s : Rig κ) (t : Task) (n : Nat) : Prop
  | plugged : Fresh s (.new t.image t.config) →
    s.requests = [.bind accelerator, .nextPhase .attached] → t.cost .setInterface 0 + 2 ≤ n →
    Settling s t n
  | bound : Fresh s (acquainted t) → s.requests = [.nextPhase .attached] →
    t.cost .setInterface 0 + 1 ≤ n → Settling s t n
  | due (target : ClassHandle) (p : Phase) (i : Nat) : Due s t target p i →
    s.requests = [.nextPhase p] → t.cost p i ≤ n → Settling s t n
  | called (target : ClassHandle) (op : InFlight) (data : Bytes) (q : Phase) (j : Nat) :
    Issued s t target op data q j →
    s.requests = [.completed ⟨op.ticket, op.operation⟩ (.ok data)] →
    s.state.driver.held = [] → t.cost q j + 1 ≤ n → Settling s t n
  | held (target : ClassHandle) (op : InFlight) (data : Bytes) (q : Phase) (j : Nat) :
    Issued s t target op data q j → s.requests = [] →
    s.state.driver.held = [(⟨op.ticket, op.operation⟩, .ok data)] → t.cost q j + 1 ≤ n →
    Settling s t n
  | done : Done s t → s.requests = [] → Settling s t n

/-- An operation costs a step and a completion. -/
theorem cost_lt {p q : Phase} {i j : Nat} {request : ClassCall} (h : t.Step p i request q j) :
    t.cost q j + 1 < t.cost p i := by
  unfold Task.cost
  rw [h.agenda, List.length_cons]
  split <;> split <;> omega

theorem cost_pos (t : Task) (p : Phase) (i : Nat) : 0 < t.cost p i := by
  unfold Task.cost
  split <;> omega

section
variable {target : ClassHandle} {op : InFlight} {data : Bytes} {p q : Phase} {i j : Nat}

theorem Fresh.dropOldest {c : Controller} (h : Fresh s c) : Fresh s.dropOldest c :=
  ⟨h.controller, h.driver, h.lost, h.room.dropOldest⟩

theorem Due.dropOldest (h : Due s t target p i) : Due s.dropOldest t target p i :=
  ⟨h.ready, h.lost, h.room.dropOldest, h.along, h.held, h.outstanding, h.peak⟩

theorem Issued.dropOldest (h : Issued s t target op data q j) :
    Issued s.dropOldest t target op data q j :=
  ⟨h.engaged, h.lost, h.room.dropOldest, h.along, h.outstanding, h.peak⟩

/-- The step to a phase starts its operation, is skipped or ends the upgrade. -/
theorem Due.settling (h : Due s t target p i) (hreq : s.requests = []) (hn : t.blockCount ≤ 65536)
    (hi : t.interface = Accelerator.interface) :
    ∃ m < t.cost p i, Settling (Session.handle Accelerator.driver s (.nextPhase p)).1 t m := by
  obtain ⟨done, compared, hleg, -⟩ := h.ready.leg
  rcases hleg.action_cases with ⟨request, length, ha⟩ | ⟨rfl, hc, ha⟩ | ⟨hb, -⟩ | ⟨rfl, -⟩
  · obtain ⟨op, data, q, j, hs, hissued, hheld⟩ := h.issue hreq hn hi ha
    refine ⟨t.cost q j + 1, cost_lt hs, ?_⟩
    rcases hheld with ⟨hr, hd⟩ | ⟨hr, hd⟩
    · exact .held target op data q j hissued hr hd (Nat.le_refl _)
    · exact .called target op data q j hissued hr hd (Nat.le_refl _)
  · obtain ⟨rfl, hz, hdue, hr⟩ := h.skip hreq hc ha
    refine ⟨t.cost .getStatusRead 0, ?_, .due target _ _ hdue hr (Nat.le_refl _)⟩
    unfold Task.cost
    rw [t.agenda_readBack_empty hz]
    simp
  · rw [h.ready.interface] at hb
    cases hb
  · obtain ⟨hdone, hr⟩ := h.finish
    exact ⟨0, cost_pos t _ i, .done hdone (hr.trans hreq)⟩

end

/-- The worker handles a request of the upgrade. -/
theorem Settling.handle {r : Request} {rest : List Request} (h : Settling s t n)
    (hreq : s.requests = r :: rest) (hn : t.blockCount ≤ 65536)
    (hi : t.interface = Accelerator.interface) :
    ∃ m < n, Settling (Session.handle Accelerator.driver s.dropOldest r).1 t m := by
  have hrest : s.dropOldest.requests = rest := by rw [requests_dropOldest, hreq, List.tail_cons]
  cases h with
  | plugged hs hr hle =>
    obtain ⟨rfl, rfl⟩ := List.cons.inj (hreq.symm.trans hr)
    obtain ⟨hknown, hr'⟩ := hs.dropOldest.bind
    exact ⟨t.cost .setInterface 0 + 1, by omega, .bound hknown (hr'.trans hrest) (Nat.le_refl _)⟩
  | bound hs hr hle =>
    obtain ⟨rfl, rfl⟩ := List.cons.inj (hreq.symm.trans hr)
    obtain ⟨hdue, hr'⟩ := hs.dropOldest.attach hrest hi
    exact ⟨t.cost .setInterface 0, by omega, .due ⟨1⟩ _ 0 hdue hr' (Nat.le_refl _)⟩
  | due target p i hs hr hle =>
    obtain ⟨rfl, rfl⟩ := List.cons.inj (hreq.symm.trans hr)
    obtain ⟨m, hm, hsettling⟩ := hs.dropOldest.settling hrest hn hi
    exact ⟨m, by omega, hsettling⟩
  | called target op data q j hs hr hheld hle =>
    obtain ⟨rfl, rfl⟩ := List.cons.inj (hreq.symm.trans hr)
    obtain ⟨hdue, hr'⟩ := hs.dropOldest.handle hrest hheld
    exact ⟨t.cost q j, by omega, .due target q j hdue hr' (Nat.le_refl _)⟩
  | held _ _ _ _ _ _ hr => simp [hreq] at hr
  | done _ hr => simp [hreq] at hr

/-- Something is left as long as a request waits or the device holds a completion. -/
theorem Settling.done_of_zero (h : Settling s t 0) : Done s t ∧ s.requests = [] := by
  cases h with
  | plugged _ _ hle | bound _ _ hle | called _ _ _ _ _ _ _ _ hle | held _ _ _ _ _ _ _ _ hle => omega
  | due _ p i _ _ hle =>
    have hpos := cost_pos t p i
    omega
  | done hdone hr => exact ⟨hdone, hr⟩

/-- With no request waiting the device holds a completion, or all is done. -/
theorem Settling.of_idle (h : Settling s t n) (hreq : s.requests = []) :
    Done s t ∨ ∃ driver x r, s.state.driver.held.length = 1 ∧
      s.state.driver.takeHeld = (driver, some (x, r)) ∧
      Settling ((s.withDriver driver).deliver x r) t n ∧
      ((s.withDriver driver).deliver x r).requests = [.completed x r] := by
  cases h with
  | plugged _ hr | bound _ hr | due _ _ _ _ hr | called _ _ _ _ _ _ hr => simp [hreq] at hr
  | held target op data q j hs _ hheld hle =>
    right
    have htake : s.state.driver.takeHeld =
        ({ s.state.driver with held := [], outstanding := s.state.driver.outstanding - 1 },
          some (⟨op.ticket, op.operation⟩, .ok data)) := by
      simp [Accelerator.takeHeld, hheld]
    have hout : s.state.driver.outstanding - 1 = 0 := by
      rw [hs.outstanding, hheld]
      rfl
    have hs' : Issued (s.withDriver { s.state.driver with
        held := [], outstanding := s.state.driver.outstanding - 1 }) t target op data q j :=
      ⟨hs.engaged, hs.lost, hs.room, { hs.along with }, hout, hs.peak⟩
    obtain ⟨hissued, hr⟩ := hs'.deliver hreq ⟨op.ticket, op.operation⟩ (.ok data)
    refine ⟨_, _, _, by rw [hheld]; rfl, htake, .called target op data q j hissued hr ?_ hle, hr⟩
    rw [driver_deliver]
    rfl
  | done hs => exact .inl hs

theorem Settling.note (h : Settling s t n) (notice : Notice) : Settling (s.note notice) t n := by
  cases h with
  | plugged hs hr hle => exact .plugged ⟨hs.controller, hs.driver, hs.lost, hs.room⟩ hr hle
  | bound hs hr hle => exact .bound ⟨hs.controller, hs.driver, hs.lost, hs.room⟩ hr hle
  | due target p i hs hr hle =>
    exact .due target p i
      ⟨hs.ready, hs.lost, hs.room, hs.along, hs.held, hs.outstanding, hs.peak⟩ hr hle
  | called target op data q j hs hr hheld hle =>
    exact .called target op data q j
      ⟨hs.engaged, hs.lost, hs.room, hs.along, hs.outstanding, hs.peak⟩ hr hheld hle
  | held target op data q j hs hr hheld hle =>
    exact .held target op data q j
      ⟨hs.engaged, hs.lost, hs.room, hs.along, hs.outstanding, hs.peak⟩ hr hheld hle
  | done hs hr => exact .done { hs with } hr

/-- The session is about the image of the task. -/
theorem Settling.image (h : Settling s t n) : s.controller.image = t.image := by
  cases h with
  | plugged hs | bound hs =>
    rw [hs.controller]
    rfl
  | due _ _ _ hs =>
    obtain ⟨done, compared, hleg, -⟩ := hs.ready.leg
    exact hleg.image.symm
  | called _ _ _ _ _ hs | held _ _ _ _ _ hs =>
    obtain ⟨done, compared, request, i, hleg, -⟩ := hs.engaged.leg
    exact hleg.image.symm
  | done hs => exact hs.image

/-- The worker handles requests until none is left. -/
theorem Settling.drain (hn : t.blockCount ≤ 65536)
    (hi : t.interface = Accelerator.interface) (fuel : Nat) :
    ∀ {n : Nat} (w : Worker (Upgrade (Accelerator Completion)) Request κ Phase) (count : Nat),
      Settling w.service t n → (requests w.service ≠ [] → n ≤ fuel) →
      ∃ m ≤ n, Settling (w.drain (Session.handle Accelerator.driver) fuel count).1.service t m ∧
        requests (w.drain (Session.handle Accelerator.driver) fuel count).1.service = [] ∧
        (requests w.service ≠ [] → m < n) := by
  induction fuel with
  | zero =>
    intro n w count h hfuel
    have hreq : requests w.service = [] := by
      by_contra hne
      obtain rfl : n = 0 := Nat.le_zero.mp (hfuel hne)
      exact hne h.done_of_zero.2
    exact ⟨n, Nat.le_refl n, h, hreq, fun hne => (hne hreq).elim⟩
  | succ fuel ih =>
    intro n w count h hfuel
    unfold Worker.drain
    cases hw : w.service.channel.waiting with
    | nil =>
      have hreq : requests w.service = [] := requests_eq_nil_iff.mpr hw
      exact ⟨n, Nat.le_refl n, h, hreq, fun hne => (hne hreq).elim⟩
    | cons e rest =>
      have hreq : requests w.service = e.request :: rest.map (·.request) := by
        simp [requests, hw]
      have hle := hfuel (by simp [hreq])
      obtain ⟨m, hm, hs⟩ := h.handle hreq hn hi
      obtain ⟨m', hm', hs', hr', -⟩ := ih (w.dispatch (Session.handle Accelerator.driver) e)
        (count + 1) hs (fun _ => by omega)
      exact ⟨m', by omega, hs', hr', fun _ => by omega⟩

end Session

namespace Task

variable (t : Task)

theorem blockCount_le_size : t.blockCount ≤ t.image.size := by
  have hs := t.blockSize_pos
  have hl := t.lt_blockCount_iff (i := t.image.size)
  have hm := Nat.le_mul_of_pos_right t.image.size hs
  omega

/-- An upgrade takes four operations for each block, and at most six besides. -/
theorem length_schedule_le : t.schedule.length ≤ 4 * t.image.size + 6 := by
  have hn := t.blockCount_le_size
  have hclosing : t.closing.length ≤ 2 := by
    unfold closing
    split <;> simp
  have hdownloads : ((List.range t.blockCount).flatMap t.download).length = 2 * t.blockCount := by
    simp [List.length_flatMap, download, Nat.mul_comm]
  have huploads : ((List.range t.blockCount).flatMap t.upload).length = 2 * t.blockCount := by
    simp [List.length_flatMap, upload, Nat.mul_comm]
  unfold schedule
  simp only [List.length_cons, List.length_append, hdownloads]
  split
  · simp only [List.length_singleton]
    omega
  · rw [huploads]
    omega

/-- The requests of a whole upgrade are well below what the loops allow for. -/
theorem cost_setInterface_le : t.cost .setInterface 0 + 2 ≤ 8 * (2 * t.image.size + 16) := by
  have hl := t.length_schedule_le
  unfold cost
  rw [← schedule_eq_agenda]
  simp only [reduceCtorEq, if_false]
  omega

def downloadCalls (i : Nat) : List DeviceCall :=
  [.dnload (UInt16.ofNat i) (min t.blockSize (t.image.size - i * t.blockSize)), .getStatus]

def uploadCalls (i : Nat) : List DeviceCall :=
  [.upload (UInt16.ofNat i) (UInt16.ofNat (min t.blockSize (t.image.size - i * t.blockSize))),
    .getStatus]

/-- All calls that an upgrade makes of the device. -/
def trace : List DeviceCall :=
  .init :: .setInterface 0 :: .getStatus ::
    ((List.range t.blockCount).flatMap t.downloadCalls ++
      .dnload (UInt16.ofNat t.blockCount) 0 ::
        ((if t.blockCount = 0 then [.getStatus]
          else (List.range t.blockCount).flatMap t.uploadCalls) ++
          .detach t.config.detachTimeout ::
            ((if t.config.checkStatusAfterDetach then [.getStatus] else []) ++
              [.busReset, .deinit, .reEnumerate])))

theorem trace_eq : t.trace =
    .init :: t.schedule.map ClassCall.record ++ [.busReset, .deinit, .reEnumerate] := by
  have hdownload : ∀ i, (t.download i).map ClassCall.record = t.downloadCalls i := by
    intro i
    simp [download, downloadCalls, ClassCall.record, t.size_block]
  have hupload : ∀ i, (t.upload i).map ClassCall.record = t.uploadCalls i := by
    intro i
    simp [upload, uploadCalls, ClassCall.record, t.size_block]
  unfold trace schedule closing
  simp only [List.map_cons, List.map_append, List.map_flatMap, hdownload, apply_ite (List.map _),
    hupload, List.map_nil]
  simp [ClassCall.record]

end Task

namespace Installation

variable {κ : Type} {i : Installation (Accelerator Completion) κ} {t : Task} {n : Nat}

/-- The worker has enough fuel for all that is left. -/
theorem le_drainBudget (h : Session.Settling i.worker.service t n)
    (hreq : Session.requests i.worker.service ≠ []) (hle : n ≤ 8 * (2 * t.image.size + 16)) :
    n ≤ i.drainBudget := by
  have hwaiting : 1 ≤ i.channel.waiting.length := by
    rw [Ne, Session.requests_eq_nil_iff] at hreq
    exact List.length_pos_iff.mpr hreq
  have hm := Nat.mul_le_mul_right (8 * t.image.size + 64) (Nat.add_le_add_right hwaiting 1)
  unfold drainBudget
  rw [show i.controller.image = t.image from h.image]
  omega

theorem settling_runPending (h : Session.Settling i.worker.service t n)
    (hreq : Session.requests i.worker.service ≠ []) (hn : t.blockCount ≤ 65536)
    (hi : t.interface = Accelerator.interface) (hle : n ≤ 8 * (2 * t.image.size + 16)) :
    ∃ m < n, Session.Settling (i.runPending Accelerator.driver).1.worker.service t m ∧
      Session.requests (i.runPending Accelerator.driver).1.worker.service = [] := by
  obtain ⟨m, -, hs, hr, hlt⟩ :=
    h.drain hn hi i.drainBudget i.worker 0 (fun _ => le_drainBudget h hreq hle)
  exact ⟨m, hlt hreq, hs.note _, hr⟩

/-- The completion that is held longest is called. -/
theorem session_deliverNext {d : Accelerator Completion} {x : Completion} {r : Reply}
    (h : i.driver.takeHeld = (d, some (x, r))) :
    (i.deliverNext Accelerator.backlog).session = (Session.withDriver i.session d).deliver x r := by
  simp only [deliverNext, modify, Accelerator.backlog, h]
  rfl

/-- The rounds of the worker and the device come to an end with the upgrade. -/
theorem settling_settleFrom (hn : t.blockCount ≤ 65536) (hi : t.interface = Accelerator.interface)
    (fuel : Nat) :
    ∀ {n : Nat} (i : Installation (Accelerator Completion) κ) (count : Nat),
      Session.Settling i.worker.service t n → Session.requests i.worker.service ≠ [] →
      n ≤ 8 * (2 * t.image.size + 16) → n ≤ fuel + 1 →
      Session.Done (settleFrom (fun i => (i.runPending Accelerator.driver).1) Accelerator.backlog fuel
        i count).1.worker.service t ∧
      Session.requests (settleFrom (fun i => (i.runPending Accelerator.driver).1)
        Accelerator.backlog fuel i count).1.worker.service = [] := by
  induction fuel with
  | zero =>
    intro n i count h hreq hle hfuel
    obtain ⟨m, hm, hs, -⟩ := settling_runPending h hreq hn hi hle
    obtain rfl : m = 0 := by omega
    exact hs.done_of_zero
  | succ fuel ih =>
    intro n i count h hreq hle hfuel
    obtain ⟨m, hm, hs, hr⟩ := settling_runPending h hreq hn hi hle
    unfold settleFrom
    dsimp only
    generalize (i.runPending Accelerator.driver).1 = j at hs hr
    rcases hs.of_idle hr with hdone | ⟨driver, x, r, hheld, htake, hs', hr'⟩
    · have hsize : Accelerator.backlog.size j.driver = 0 := by
        change j.driver.held.length = 0
        rw [hdone.held]
        rfl
      rw [if_pos hsize]
      exact ⟨hdone, hr⟩
    · have hsize : Accelerator.backlog.size j.driver ≠ 0 :=
        fun hz => Nat.one_ne_zero (hheld.symm.trans hz)
      rw [if_neg hsize]
      rw [← session_deliverNext htake] at hs' hr'
      have hne : Session.requests (j.deliverNext Accelerator.backlog).worker.service ≠ [] := by
        rw [hr']
        simp
      have hm' : m ≤ 8 * (2 * t.image.size + 16) := by omega
      exact ih (j.deliverNext Accelerator.backlog) (count + 1) hs' hne hm' (by omega)

/-- With the accelerator come two requests, if there is room for them. -/
theorem session_plug_of_room {δ : Type} {i : Installation δ κ}
    (hl : i.dispatcher.lookup? dfuVendor dfuProduct = some ()) (hr : i.channel.refusal? = none)
    (hr' : (i.channel.send (.bind Session.accelerator)).refusal? = none) :
    (i.plug dfuVendor dfuProduct).1.session =
      Session.post (Session.note (Session.post i.session (.bind Session.accelerator))
        (.interfaceFound 0 Accelerator.device)) (.nextPhase .attached) := by
  have hattach : (HostEvent.attach Accelerator.configuration).request Accelerator.host
      Accelerator.device = .ok (.bind Session.accelerator) := rfl
  have henumerated : HostEvent.enumerationDone.request Accelerator.host Accelerator.device =
      .ok (.nextPhase .attached) := rfl
  obtain ⟨hstatus, hs⟩ := dispatch_of_room hl hattach hr
  have hdispatcher := dispatcher_dispatch i dfuVendor dfuProduct Accelerator.host
    Accelerator.device (.attach Accelerator.configuration)
  unfold plug
  generalize i.dispatch dfuVendor dfuProduct Accelerator.host Accelerator.device
    (.attach Accelerator.configuration) = attached at hstatus hs hdispatcher ⊢
  obtain ⟨j, status⟩ := attached
  subst hstatus
  have hchannel : j.channel = i.channel.send (.bind Session.accelerator) := by
    rw [channel, ← session, hs]
    exact Session.channel_noteAll _ _
  exact (dispatch_of_room (hdispatcher ▸ hl) henumerated (hchannel ▸ hr')).2.trans
    (congrArg (Session.post · (.nextPhase .attached)) hs)

/-- A new controller has room for the requests that come with the accelerator. -/
theorem session_plug {δ : Type} (driver : δ) (image : Bytes) (config : Config) :
    ((new driver image config : Installation δ κ).plug dfuVendor dfuProduct).1.session =
        Session.post (Session.note
          (Session.post (new driver image config : Installation δ κ).session
            (.bind Session.accelerator))
          (.interfaceFound 0 Accelerator.device)) (.nextPhase .attached) ∧
      ((new driver image config : Installation δ κ).plug dfuVendor dfuProduct).1.session.requests =
        [.bind Session.accelerator, .nextPhase .attached] := by
  generalize hnew : (new driver image config : Installation δ κ) = i
  have hroom : i.channel.Roomy := by
    rw [← hnew]
    exact Channel.roomy_bounded _
  have hwaiting : i.channel.waiting = [] := by
    rw [← hnew]
    rfl
  have hlookup : i.dispatcher.lookup? dfuVendor dfuProduct = some () := by
    rw [← hnew]
    rfl
  have hr : i.channel.refusal? = none :=
    hroom.refusal?_eq_none (by simp [hwaiting, minQueueCapacity])
  have hposted := Channel.waiting_push_of_refusal?_eq_none ⟨.bind Session.accelerator, none⟩ hr
  rw [hwaiting, List.nil_append] at hposted
  have hr' : (i.channel.send (.bind Session.accelerator)).refusal? = none :=
    (hroom.send _).refusal?_eq_none (by simp [Channel.send, hposted, minQueueCapacity])
  have hsession := session_plug_of_room hlookup hr hr'
  refine ⟨hsession, ?_⟩
  rw [hsession, Session.requests_post _ hr', Session.requests_note, Session.requests_post _ hr,
    Session.requests, hwaiting]
  rfl

theorem roomy_plug {δ : Type} (driver : δ) (image : Bytes) (config : Config) :
    ((new driver image config : Installation δ κ).plug
      dfuVendor dfuProduct).1.session.channel.Roomy := by
  rw [(session_plug driver image config).1]
  exact ((Channel.roomy_bounded _).send _).send _

theorem settling_plug (t : Task) (deferred : Bool) :
    Session.Settling ((new (Accelerator.new .none deferred) t.image t.config :
        Installation (Accelerator Completion) κ).plug dfuVendor dfuProduct).1.worker.service t
      (t.cost .setInterface 0 + 2) ∧
    Session.requests ((new (Accelerator.new .none deferred) t.image t.config :
        Installation (Accelerator Completion) κ).plug dfuVendor
          dfuProduct).1.worker.service ≠ [] := by
  obtain ⟨hs, hr⟩ := session_plug (κ := κ) (Accelerator.new .none deferred) t.image t.config
  have hroom := roomy_plug (κ := κ) (Accelerator.new (α := Completion) .none deferred) t.image
    t.config
  refine ⟨.plugged ?_ hr (Nat.le_refl _), by rw [hr]; simp⟩
  rw [hs] at hroom
  rw [← session, hs]
  exact ⟨rfl, ⟨deferred, rfl⟩, rfl, hroom⟩

/-- The rounds that follow have fuel for all that is left. -/
theorem settling_settle (h : Session.Settling i.worker.service t n)
    (hreq : Session.requests i.worker.service ≠ []) (hn : t.blockCount ≤ 65536)
    (hi : t.interface = Accelerator.interface) (hle : n ≤ 8 * (2 * t.image.size + 16)) :
    Session.Done (i.settle (fun i => (i.runPending Accelerator.driver).1)
        Accelerator.backlog).1.worker.service t ∧
      Session.requests (i.settle (fun i => (i.runPending Accelerator.driver).1)
        Accelerator.backlog).1.worker.service = [] := by
  have hbudget := le_drainBudget h hreq hle
  have hle' : i.drainBudget ≤ i.settleBudget Accelerator.backlog := by
    unfold drainBudget settleBudget
    exact Nat.mul_le_mul_right _ (by omega)
  exact settling_settleFrom hn hi _ i 0 h hreq hle (by omega)

/-- The accelerator without faults, plugged into a new controller once. The worker and the device
go on by turns until nothing is pending. -/
def atRest (κ : Type) (deferred : Bool) (image : Bytes) (config : Config) :
    Installation (Accelerator Completion) κ :=
  (((new (Accelerator.new .none deferred) image config).plug dfuVendor dfuProduct).1.settle
    (fun i => (i.runPending Accelerator.driver).1) Accelerator.backlog).1

/-- An image of at most `2 ^ 16` blocks is brought onto the device, and the calls that this takes
are exactly those of the trace. -/
theorem atRest_complete (κ : Type) (deferred : Bool) (image : Bytes) (config : Config)
    (hn : (Task.mk image config Accelerator.interface).blockCount ≤ 65536) :
    (atRest κ deferred image config).controller.phase = .complete ∧
      (atRest κ deferred image config).driver.memory = image ∧
      (atRest κ deferred image config).controller.liveClass = none ∧
      (atRest κ deferred image config).controller.readbackAllocations = 1 ∧
      (atRest κ deferred image config).controller.readbackFrees = 1 ∧
      (atRest κ deferred image config).driver.maxOutstanding = 1 ∧
      (atRest κ deferred image config).driver.calls.toList =
        (Task.mk image config Accelerator.interface).trace ∧
      (atRest κ deferred image config).channel.waiting = [] ∧
      (atRest κ deferred image config).driver.held = [] := by
  obtain ⟨hs, hreq⟩ := settling_plug (κ := κ) ⟨image, config, Accelerator.interface⟩ deferred
  have hrest := settling_settle hs hreq hn rfl (Task.cost_setInterface_le _)
  rw [← atRest] at hrest
  obtain ⟨hdone, hr⟩ := hrest
  have hcalls := hdone.calls
  rw [← Task.trace_eq] at hcalls
  generalize atRest κ deferred image config = i at hdone hr hcalls ⊢
  exact ⟨hdone.phase, hdone.memory, hdone.live, hdone.allocations, hdone.frees, hdone.peak,
    hcalls, Session.requests_eq_nil_iff.mp hr, hdone.held⟩

/-- Three blocks, the last of them short, on a device that holds its completions back. -/
theorem atRest_complete_three :
    (Task.mk #[1, 2, 3, 4, 5] { Config.standard with chunkSize := 2 }
        Accelerator.interface).blockCount = 3 ∧
      (atRest Unit true #[1, 2, 3, 4, 5]
        { Config.standard with chunkSize := 2 }).driver.memory = #[1, 2, 3, 4, 5] := by
  have hn : (Task.mk #[1, 2, 3, 4, 5] { Config.standard with chunkSize := 2 }
      Accelerator.interface).blockCount = 3 := by decide +kernel
  obtain ⟨-, hmemory, -⟩ := atRest_complete Unit true #[1, 2, 3, 4, 5]
    { Config.standard with chunkSize := 2 } (by omega)
  exact ⟨hn, hmemory⟩

end Installation

end FirmwareUpgrade
