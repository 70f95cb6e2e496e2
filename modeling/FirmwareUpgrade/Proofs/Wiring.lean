import FirmwareUpgrade.Bus.Link

/-!
# What success means on the wire

An operation of a link is done by a job, and the job is done by actions on the device. It is shown
here what the record of the wire has gained when the job calls its completion with success: for the
selection of an interface the claim, the setting and what it takes to leave the device idle, and for
any other operation the one control transfer that it stands for. Nothing is assumed of the device: it
may answer as it likes, and be another one whenever something is done to it.
-/
namespace FirmwareUpgrade

namespace BusEvent

/-- The data that a successful download took to the device. -/
def downloaded : BusEvent → List UInt8
  | sent request _ _ data (.ok ()) => if request = downloadCode then data.toList else []
  | _ => []

/-- The data that a successful upload brought back, cut to the length that was asked for. -/
def uploaded : BusEvent → List UInt8
  | asked request _ _ length (.ok data) =>
    if request = uploadCode then data.toList.take length.toNat else []
  | _ => []

/-- The status was asked for, and this came back. -/
def reported (interface : UInt8) (data : Bytes) : BusEvent :=
  asked getStatusCode 0 interface.toUInt16 6 (.ok data)

end BusEvent

/-- The control transfer of an operation on an interface that succeeded with a reply. -/
inductive Carries (interface : UInt8) : ClassCall → Bytes → BusEvent → Prop
  | getStatus (data : Bytes) : Carries interface .getStatus data (.reported interface data)
  | dnload (block : UInt16) (data : Bytes) :
    Carries interface (.dnload block data) #[]
      (.sent downloadCode block interface.toUInt16 data (.ok ()))
  | upload (block length : UInt16) (data : Bytes) :
    Carries interface (.upload block length) data
      (.asked uploadCode block interface.toUInt16 length (.ok data))
  | detach (timeout : UInt16) :
    Carries interface (.detach timeout) #[]
      (.sent detachCode timeout interface.toUInt16 #[] (.ok ()))

/-- The transfers that leave the error behind which a status tells of, and the status after them. -/
inductive Clears (interface : UInt8) (s : Status) : List BusEvent → Status → Prop
  | good : s.code = 0 → Clears interface s [] s
  | bad {data : Bytes} {s' : Status} : s.code ≠ 0 → Status.decode data = .ok s' →
    Clears interface s
      [.sent clearStatusCode 0 interface.toUInt16 #[] (.ok ()), .reported interface data] s'

/-- The transfers that leave any error or unfinished transfer behind. -/
inductive Settles (interface : UInt8) : List BusEvent → Prop
  | settled {data : Bytes} {s s' : Status} {clearing : List BusEvent} :
    Status.decode data = .ok s → Clears interface s clearing s' →
    Settles interface (.reported interface data :: clearing ++
      if s'.state = Status.dfuIdle then [] else [.sent abortCode 0 interface.toUInt16 #[] (.ok ())])

/-- The actions with which an interface is selected. -/
inductive Selects (interface setting : UInt8) : List BusEvent → Prop
  | selected {settling : List BusEvent} : Settles interface settling →
    Selects interface setting (.claim interface true :: .alternate setting true :: settling)

/-- The actions of an operation on an interface that succeeded with a reply. -/
inductive Performs (interface : UInt8) : ClassCall → Bytes → List BusEvent → Prop
  | selected {handle : InterfaceHandle} {setting : UInt8} {later : List BusEvent} :
    interface = UInt8.ofNat handle.value → Selects interface setting later →
    Performs interface (.setInterface handle setting) #[] later
  | carried {request : ClassCall} {data : Bytes} {e : BusEvent} :
    Carries interface request data e → Performs interface request data [e]

/-! ## Actions -/

/-- To give an error another name makes no success of it. -/
theorem mapError_eq_ok_iff {ε ε' α : Type} {x : Except ε α} {f : ε → ε'} {a : α} :
    x.mapError f = .ok a ↔ x = .ok a := by
  cases x with
  | error => exact ⟨nofun, nofun⟩
  | ok =>
    constructor <;> intro h <;> cases h <;> rfl

namespace Wire

variable (w : Wire)

theorem trace_countTransfer (action : Option BusAction) : (w.countTransfer action).1.trace = w.trace := by
  cases action <;> rfl

/-- An action is recorded with its result, unless it never ends. -/
theorem trace_act (action : BusAction) (event : Bool → BusEvent) :
    (w.act action event).1.trace = w.trace ∧ (w.act action event).2 = .error .hangs ∨
      (w.act action event).1.trace = w.trace.push (event (w.act action event).2.isOk) := by
  unfold act
  cases w.device.count action with
  | mk device disturbance =>
    dsimp only
    split
    · exact .inl ⟨rfl, rfl⟩
    · exact .inr rfl
    · exact .inr rfl

theorem trace_act_of_ok {w' : Wire} {action : BusAction} {event : Bool → BusEvent}
    (h : w.act action event = (w', .ok ())) : w'.trace = w.trace.push (event true) := by
  have htrace := w.trace_act action event
  rw [h] at htrace
  exact htrace.resolve_left (by simp)

/-- Actions that are no transfers stand in the record as such. -/
theorem record_act {action : BusAction} {event : Bool → BusEvent}
    (he : ∀ ok, (event ok).packet? = none) :
    ∃ later, (w.act action event).1.trace.toList = w.trace.toList ++ later ∧
      ∀ e ∈ later, e.packet? = none := by
  rcases w.trace_act action event with ⟨htrace, -⟩ | htrace
  · exact ⟨[], by simp [htrace], by simp⟩
  · exact ⟨[event (w.act action event).2.isOk], by simp [htrace], by simp [he]⟩

theorem trace_sendData (request : UInt8) (value index : UInt16) (data : Bytes) :
    (w.sendData request value index data).1.trace =
      w.trace.push (.sent request value index data (w.sendData request value index data).2) := by
  have hcount := w.trace_countTransfer (BusAction.ofOut? request)
  unfold sendData
  generalize w.countTransfer (BusAction.ofOut? request) = counted at hcount
  obtain ⟨w', disturbance⟩ := counted
  dsimp only at hcount ⊢
  split <;> simp only [record, hcount]

theorem trace_askData (request : UInt8) (value index length : UInt16) :
    (w.askData request value index length).1.trace =
      w.trace.push (.asked request value index length (w.askData request value index length).2) := by
  have hcount := w.trace_countTransfer (BusAction.ofIn? request)
  unfold askData
  generalize w.countTransfer (BusAction.ofIn? request) = counted at hcount
  obtain ⟨w', disturbance⟩ := counted
  dsimp only at hcount ⊢
  split <;> simp only [record, hcount]

/-- A request that sends data is one transfer, with the fields of its setup stage. -/
theorem trace_request_out {r : ControlRequest} (hr : r.direction = .out) (data : Bytes) :
    ∃ e, (w.request r data).1.trace = w.trace.push e ∧
      ∀ d, (w.request r data).2 = .ok d →
        d = #[] ∧ e = .sent r.request r.value r.index data (.ok ()) := by
  refine ⟨.sent r.request r.value r.index data (w.sendData r.request r.value r.index data).2, ?_, ?_⟩
  · rw [request, hr]
    exact w.trace_sendData ..
  · intro d hd
    rw [request, hr] at hd
    have hsent := mapError_eq_ok_iff.mp hd
    cases hresult : (w.sendData r.request r.value r.index data).2 with
    | error e =>
      rw [hresult] at hsent
      cases hsent
    | ok u =>
      rw [hresult] at hsent
      exact ⟨(Except.ok.inj hsent).symm, rfl⟩

/-- A request that asks for data is one transfer, with the fields of its setup stage. -/
theorem trace_request_inward {r : ControlRequest} (hr : r.direction = .inward) (data : Bytes) :
    ∃ e, (w.request r data).1.trace = w.trace.push e ∧
      ∀ d, (w.request r data).2 = .ok d → e = .asked r.request r.value r.index r.length (.ok d) := by
  refine ⟨.asked r.request r.value r.index r.length
    (w.askData r.request r.value r.index r.length).2, ?_, ?_⟩
  · rw [request, hr]
    exact w.trace_askData ..
  · intro d hd
    rw [request, hr] at hd
    exact congrArg _ (mapError_eq_ok_iff.mp hd)

/-- A status that is read was reported by the device. -/
theorem trace_status {w' : Wire} {interface : UInt8} {s : Status}
    (h : w.status interface = (w', .ok s)) :
    ∃ data, Status.decode data = .ok s ∧ w'.trace = w.trace.push (.reported interface data) := by
  obtain ⟨e, htrace, hreply⟩ :=
    w.trace_request_inward (r := ControlRequest.getStatus interface) rfl #[]
  simp only [status, Prod.mk.injEq] at h
  obtain ⟨rfl, hs⟩ := h
  cases hr : (w.request (.getStatus interface) #[]).2 with
  | error cause => simp [hr, Except.bind] at hs
  | ok data =>
    rw [hr] at hs
    exact ⟨data, mapError_eq_ok_iff.mp hs, htrace.trans (congrArg _ (hreply data hr))⟩

theorem trace_clearError {w' : Wire} {interface : UInt8} {s s' : Status}
    (h : w.clearError interface s = (w', .ok s')) :
    ∃ clearing, Clears interface s clearing s' ∧ w'.trace.toList = w.trace.toList ++ clearing := by
  unfold clearError at h
  split at h
  · rename_i hcode
    obtain ⟨rfl, hs⟩ := Prod.mk.inj h
    obtain rfl := Except.ok.inj hs
    exact ⟨[], .good hcode, (List.append_nil _).symm⟩
  · rename_i hcode
    obtain ⟨e, htrace, hreply⟩ :=
      w.trace_request_out (r := ControlRequest.clearStatus interface) rfl #[]
    split at h
    · simp at h
    · rename_i u d hrequest
      rw [hrequest] at htrace hreply
      obtain ⟨-, rfl⟩ := hreply d rfl
      obtain ⟨data, hdecode, hstatus⟩ := u.trace_status h
      refine ⟨_, .bad hcode hdecode, ?_⟩
      rw [hstatus, htrace]
      simp [ControlRequest.clearStatus]

theorem trace_abortTransfer {w' : Wire} {interface : UInt8} {s : Status}
    (h : w.abortTransfer interface s = (w', .ok ())) :
    w'.trace.toList = w.trace.toList ++
      if s.state = Status.dfuIdle then []
      else [.sent abortCode 0 interface.toUInt16 #[] (.ok ())] := by
  unfold abortTransfer at h
  split at h
  · rename_i hidle
    obtain ⟨rfl, -⟩ := Prod.mk.inj h
    simp [hidle]
  · rename_i hidle
    obtain ⟨e, htrace, hreply⟩ := w.trace_request_out (r := ControlRequest.abort interface) rfl #[]
    simp only [Prod.mk.injEq] at h
    obtain ⟨rfl, hok⟩ := h
    cases hr : (w.request (.abort interface) #[]).2 with
    | error cause => simp [hr, Except.map] at hok
    | ok d =>
      obtain ⟨-, rfl⟩ := hreply d hr
      rw [htrace, if_neg hidle]
      simp [ControlRequest.abort]

theorem trace_settleDevice {w' : Wire} {interface : UInt8}
    (h : w.settleDevice interface = (w', .ok ())) :
    ∃ settling, Settles interface settling ∧ w'.trace.toList = w.trace.toList ++ settling := by
  unfold settleDevice at h
  split at h
  · simp at h
  · rename_i u s hstatus
    obtain ⟨data, hdecode, hu⟩ := w.trace_status hstatus
    split at h
    · simp at h
    · rename_i v s' hclear
      obtain ⟨clearing, hclearing, hv⟩ := u.trace_clearError hclear
      refine ⟨_, .settled hdecode hclearing, ?_⟩
      rw [v.trace_abortTransfer h, hv, hu]
      simp

end Wire

/-! ## Jobs -/

/-- The class request that an operation stands for on an interface, with the data that it sends. -/
def ClassCall.control? (interface : UInt8) : ClassCall → Option (ControlRequest × Bytes)
  | .setInterface .. => none
  | .getStatus => some (.getStatus interface, #[])
  | .dnload block data => some (.dnload interface block (UInt16.ofNat data.size), data)
  | .upload block length => some (.upload interface block length, #[])
  | .detach timeout => some (.detach interface timeout, #[])

/-- The job that is accepted for an operation while an interface is claimed. -/
inductive Work.Serves (claimed : Option Claim) : ClassCall → Work → Prop
  | select {handle : InterfaceHandle} {setting : UInt8} :
    Serves claimed (.setInterface handle setting)
      (.selectInterface (UInt8.ofNat handle.value) setting)
  | transfer {c : Claim} {request : ClassCall} {r : ControlRequest} {data : Bytes} :
    claimed = some c → request.control? c.interface = some (r, data) →
    Serves claimed request (.transfer c r data)

/-- A class request is one transfer, and its success is that of the operation. -/
theorem Wire.request_carries (w : Wire) {interface : UInt8} {request : ClassCall}
    {r : ControlRequest} {data : Bytes} (h : request.control? interface = some (r, data)) :
    ∃ e, (w.request r data).1.trace = w.trace.push e ∧
      ∀ d, (w.request r data).2 = .ok d → Carries interface request d e := by
  cases request with
  | setInterface handle setting => simp [ClassCall.control?] at h
  | getStatus =>
    obtain ⟨rfl, rfl⟩ := Prod.mk.inj (Option.some.inj h)
    obtain ⟨e, htrace, hreply⟩ := w.trace_request_inward (r := .getStatus interface) rfl #[]
    exact ⟨e, htrace, fun d hd => hreply d hd ▸ .getStatus d⟩
  | dnload block payload =>
    obtain ⟨rfl, rfl⟩ := Prod.mk.inj (Option.some.inj h)
    obtain ⟨e, htrace, hreply⟩ :=
      w.trace_request_out (r := .dnload interface block (UInt16.ofNat payload.size)) rfl payload
    refine ⟨e, htrace, fun d hd => ?_⟩
    obtain ⟨rfl, rfl⟩ := hreply d hd
    exact .dnload block payload
  | upload block length =>
    obtain ⟨rfl, rfl⟩ := Prod.mk.inj (Option.some.inj h)
    obtain ⟨e, htrace, hreply⟩ := w.trace_request_inward (r := .upload interface block length) rfl #[]
    exact ⟨e, htrace, fun d hd => hreply d hd ▸ .upload block length d⟩
  | detach timeout =>
    obtain ⟨rfl, rfl⟩ := Prod.mk.inj (Option.some.inj h)
    obtain ⟨e, htrace, hreply⟩ := w.trace_request_out (r := .detach interface timeout) rfl #[]
    refine ⟨e, htrace, fun d hd => ?_⟩
    obtain ⟨rfl, rfl⟩ := hreply d hd
    exact .detach timeout

namespace Link

variable {α : Type} {l : Link α} {target : ClassHandle} {request : ClassCall} {work : Work}

theorem work_serves (h : l.work target request = .ok work) : work.Serves l.claimed request := by
  cases request with
  | setInterface handle setting =>
    simp only [Link.work] at h
    split at h
    · obtain rfl := Except.ok.inj h
      exact .select
    · cases h
  | dnload block data =>
    simp only [Link.work] at h
    split at h
    · split at h
      · split at h
        · rename_i c hc
          obtain rfl := Except.ok.inj h
          exact .transfer hc rfl
        · cases h
      · cases h
    · cases h
  | _ =>
    simp only [Link.work] at h
    split at h
    · split at h
      · rename_i c hc
        obtain rfl := Except.ok.inj h
        exact .transfer hc rfl
      · cases h
    · cases h

/-- An operation is refused, or its job is appended. -/
theorem submit_cases (l : Link α) (target : ClassHandle) (request : ClassCall) (x : α) :
    (∃ cause, l.submit target request x = (l, .refused cause)) ∨
      ∃ work, work.Serves l.claimed request ∧
        l.submit target request x = ({ l with jobs := l.jobs ++ [⟨x, work⟩] }, ⟨.ok (), [], []⟩) := by
  unfold submit
  cases h : l.work target request with
  | error cause => exact .inl ⟨cause, rfl⟩
  | ok work => exact .inr ⟨work, work_serves h, rfl⟩

theorem releaseUnheld_of_claimed {c : Claim} (h : l.claimed = some c) : l.releaseUnheld c = l := by
  simp [releaseUnheld, holds, h]

@[simp] theorem jobs_releaseUnheld (c : Claim) : (l.releaseUnheld c).jobs = l.jobs := by
  unfold releaseUnheld
  split <;> rfl

@[simp] theorem jobs_replaceClaim (c : Option Claim) : (l.replaceClaim c).jobs = l.jobs := by
  unfold replaceClaim
  dsimp only
  split
  · rfl
  · exact jobs_releaseUnheld _

theorem jobs_selectInterface (interface setting : UInt8) :
    (l.selectInterface interface setting).1.jobs = l.jobs := by
  unfold selectInterface
  split
  · rfl
  · dsimp only
    split
    · rfl
    · simp
    · split <;> simp

/-- A job leaves the list of jobs to the link. -/
theorem jobs_perform (work : Work) : (l.perform work).1.jobs = l.jobs := by
  cases work with
  | selectInterface interface setting => exact jobs_selectInterface interface setting
  | transfer claim r data => exact jobs_releaseUnheld claim

/-- If the first selection of an interface succeeds it is claimed from then on. -/
theorem selectInterface_of_ok {l' : Link α} {notices : List Notice} {interface setting : UInt8}
    {data : Bytes} (hc : l.claimed = none)
    (h : l.selectInterface interface setting = (l', notices, .reply (.ok data))) :
    data = #[] ∧ (∃ c, l'.claimed = some c ∧ c.interface = interface) ∧
      ∃ later, Selects interface setting later ∧
        l'.wire.trace.toList = l.wire.trace.toList ++ later := by
  unfold selectInterface at h
  split at h
  · rename_i cause hclaim
    cases cause <;> simp [hitch] at h
  · rename_i u hclaim
    dsimp only at h
    split at h
    · simp [hitch] at h
    · simp [hitch] at h
    · rename_i v halternate
      split at h
      · simp at h
      · rename_i x hsettle
        obtain ⟨settling, hsettling, htrace⟩ := v.trace_settleDevice hsettle
        have hu := l.wire.trace_act_of_ok hclaim
        have hv := u.trace_act_of_ok halternate
        obtain ⟨rfl, -, hreply⟩ : _ ∧ _ ∧ _ := by simpa using h
        refine ⟨hreply, ⟨⟨l.nextSerial, interface⟩, ?_, rfl⟩, _, .selected hsettling, ?_⟩
        · simp [replaceClaim, hc]
        · simp [replaceClaim, hc, htrace, hv, hu]

/-- A job that succeeds has done what its operation stands for. The first one is the selection of the
interface, which is claimed from then on. -/
theorem perform_of_ok {l' : Link α} {notices : List Notice} {data : Bytes}
    (hs : work.Serves l.claimed request)
    (hfirst : ∀ handle setting, request = .setInterface handle setting → l.claimed = none)
    (h : l.perform work = (l', notices, .reply (.ok data))) :
    ∃ c later, l'.claimed = some c ∧ (l.claimed = none ∨ l.claimed = some c) ∧
      Performs c.interface request data later ∧
      l'.wire.trace.toList = l.wire.trace.toList ++ later := by
  cases hs with
  | @select handle setting =>
    have hc := hfirst _ _ rfl
    obtain ⟨rfl, ⟨c, hclaimed, hi⟩, later, hselects, htrace⟩ := selectInterface_of_ok hc h
    exact ⟨c, later, hclaimed, .inl hc, .selected hi (hi ▸ hselects), htrace⟩
  | @transfer c _ r payload hc hcontrol =>
    obtain ⟨e, htrace, hreply⟩ := l.wire.request_carries hcontrol
    simp only [perform] at h
    rw [releaseUnheld_of_claimed (by exact hc)] at h
    obtain ⟨rfl, -, hok⟩ : _ ∧ _ ∧ _ = _ := by simpa using h
    exact ⟨c, [e], hc, .inr hc, .carried (hreply data hok), by simp [htrace]⟩

end Link

end FirmwareUpgrade
