import FirmwareUpgrade.Cli.Flash
import FirmwareUpgrade.Proofs.Consistency
import FirmwareUpgrade.Proofs.Delivery
import FirmwareUpgrade.Proofs.Wiring
import Mathlib.Data.List.Forall2

/-!
# A flash that succeeds has flashed the device

A controller over a link sends one operation at a time to the wire, and between two requests either
the step to a phase is due, or the job of an operation is on its way, or its completion waits
(`Stands`). The record of the wire then holds just the actions of the operations that succeeded, and of
the one in hand. The device may change in any way at any time. If the upgrade is complete in the end,
the image went over the wire block by block and came back, and every status on the way was good.
-/
namespace FirmwareUpgrade

/-- A status reply that is long enough and tells of no error. -/
structure Status.Fine (data : Bytes) : Prop where
  size : 6 ≤ data.size
  code : data[0]? = some okCode
  state : data[4]? ≠ some dfuError

theorem Status.fine_of_check {data : Bytes} {s : Status} (hd : Status.decode data = .ok s)
    (hc : s.check = .ok ()) : Fine data := by
  unfold decode at hd
  split at hd
  · rename_i hlength
    have hsize : 6 ≤ data.size := hlength
    obtain rfl := Except.ok.inj hd
    unfold check at hc
    split at hc
    · rename_i hgood
      refine ⟨hsize, ?_, ?_⟩
      · rw [Array.getElem?_eq_getElem (by omega)]
        exact congrArg some hgood.1
      · rw [Array.getElem?_eq_getElem (by omega)]
        exact fun hstate => hgood.2 (Option.some.inj hstate)
    · cases hc
  · cases hd

namespace Issue

/-- A status that was asked for is good. -/
def Good (d : Issue) : Prop :=
  d.request = .getStatus → ∃ data, d.reply = some (.ok data) ∧ Status.Fine data

/-- These are the actions of an operation that succeeded. -/
def Performed (interface : UInt8) (d : Issue) (actions : List BusEvent) : Prop :=
  ∃ data, d.reply = some (.ok data) ∧ Performs interface d.request data actions

end Issue

namespace Task.Step

variable {t : Task} {p q : Phase} {i j : Nat} {request : ClassCall}

/-- These phases ask for the status. -/
theorem phase_of_getStatus (h : t.Step p i .getStatus q j) :
    p = .getStatus ∨ p = .getStatusRead ∨ p = .checkStatus := by
  cases h <;> simp

theorem ne_checkStatus (h : t.Step p i request q j)
    (ht : t.config.checkStatusAfterDetach = false) : q ≠ .checkStatus := by
  cases h <;> simp [ht]

end Task.Step

/-! ## The controller -/

namespace Controller

variable {c : Controller} {t : Task} {target : ClassHandle} {done : List Issue} {p q : Phase} {i : Nat}
  {request : ClassCall} {op : InFlight} {r : Reply}

/-- A status reply with which an upgrade goes on before the detach is good. -/
theorem Succeeds.fine {d : Controller} {data : Bytes} {equal : Bool}
    (h : Succeeds c op data p d equal) (hp : c.phase = .getStatus ∨ c.phase = .getStatusRead) :
    Status.Fine data := by
  cases h with
  | getStatus s _ hs hc | getStatusRead s _ _ hs hc | verified s _ _ hs hc _ =>
    exact Status.fine_of_check hs hc
  | setInterface hphase | transfer hphase | zeroLengthTransfer hphase | readBack hphase
  | detach hphase | checkStatus hphase => simp [hphase] at hp

/-- The step to phase `p` is due, with `i` blocks through, after these operations. -/
structure Underway (c : Controller) (t : Task) (target : ClassHandle) (done : List Issue) (p : Phase)
    (i : Nat) : Prop where
  live : c.liveClass = some target
  phase : c.phase ≠ .unattached ∧ c.phase.isTerminal = false
  idle : c.inFlight = none
  leg : ∃ compared, c.Leg t target .setInterface done compared p i
  good : ∀ d ∈ done, d.Good
  unchecked : p ≠ .checkStatus

/-- An operation is in flight after these. -/
structure Awaits (c : Controller) (t : Task) (target : ClassHandle) (done : List Issue)
    (op : InFlight) (request : ClassCall) : Prop where
  live : c.liveClass = some target
  inFlight : c.inFlight = some op
  leg : ∃ compared i, c.Leg t target .setInterface done compared c.phase i
  action : c.action c.phase = .start request op.length
  buffer : c.phase = .readBack → c.readback.isSome
  good : ∀ d ∈ done, d.Good
  unchecked : c.phase ≠ .checkStatus

/-- At the beginning of an upgrade nothing is through. -/
theorem underway_opening (t : Task) {b : Binding} (hb : b.interface = t.interface)
    (target : ClassHandle) :
    ((((Controller.new t.image t.config).bind b.host b.device b.interface).enter
      .attached).startOver target).Underway t target [] .setInterface 0 := by
  obtain ⟨image, config, interface⟩ := t
  obtain rfl : b.interface = interface := hb
  refine ⟨rfl, ⟨by simp [startOver, resetCounters], rfl⟩, rfl, ⟨false, ?_⟩, by simp, by simp⟩
  exact Leg.first (c := (((Controller.new image config).bind b.host b.device b.interface).enter
    .attached).startOver target) rfl (by simp) rfl rfl fun _ hb => (Option.some_ne_none _ hb.symm).elim

theorem Underway.await (h : c.Underway t target done p i)
    (ha : c.action p = .start request op.length) (ticket : UInt32) :
    Awaits { c.enter p with nextTicket := ticket, inFlight := some op } t target done op request := by
  obtain ⟨compared, hleg⟩ := h.leg
  have hphase : (c.enter p).phase = p := phase_enter c p
  refine ⟨(liveClass_enter c p).trans h.live, rfl, ⟨compared, i, ?_⟩, ?_, ?_, h.good, ?_⟩
  · dsimp only
    rw [hphase]
    exact hleg.enter.congr rfl rfl rfl rfl rfl rfl
  · dsimp only
    rw [hphase]
    exact (action_enter c p p).trans ha
  · dsimp only
    rw [hphase]
    exact fun hp => hleg.buffered (.inl hp)
  · dsimp only
    rw [hphase]
    exact h.unchecked

/-- The selection of the interface comes first. -/
theorem Awaits.first {handle : InterfaceHandle} {setting : UInt8}
    (h : c.Awaits t target done op (.setInterface handle setting)) :
    done = [] ∧ handle = t.interface := by
  obtain ⟨compared, i, hleg⟩ := h.leg
  obtain ⟨q, j, hs⟩ := hleg.step_of_start h.action
  generalize c.phase = phase at hleg hs
  cases hs with
  | setInterface =>
    have hcalls : done.map (·.request) = [] := List.append_left_eq_self.mp hleg.calls
    exact ⟨List.map_eq_nil_iff.mp hcalls, rfl⟩

theorem Awaits.phase_ne_complete (h : c.Awaits t target done op request) : c.phase ≠ .complete := by
  intro hp
  have ha := h.action
  rw [hp] at ha
  cases ha

/-- If the upgrade goes on, the operation has succeeded and the next step is due. -/
theorem Awaits.goes_on (h : c.Awaits t target done op request)
    (ht : t.config.checkStatusAfterDetach = false) {operation : Operation}
    (hn : (c.conclude op operation r).next = .ok q) :
    ∃ data j, r = .ok data ∧ ∀ x : Completion, (c.conclude op operation r).controller.Underway t target
      (done ++ [⟨target, request, x, true, some (.ok data)⟩]) q j := by
  cases r with
  | error cause => simp [conclude] at hn
  | ok data =>
    obtain ⟨compared, i, hleg⟩ := h.leg
    have halike := conclude_alike c op operation (.ok data)
    have hsucceeds : Succeeds { c with inFlight := none } op data q _ _ := succeeds_of_ok hn
    have hleg' : Leg { c with inFlight := none } t target .setInterface done compared c.phase i :=
      hleg.congr rfl rfl rfl rfl rfl rfl
    have hlast : ∀ x : Completion, ∃ compared' j, t.Step c.phase i request q j ∧ Leg
        (c.conclude op operation (.ok data)).controller t target .setInterface
        (done ++ [⟨target, request, x, true, some (.ok data)⟩]) compared' q j := by
      intro x
      have hs : Issue.Succeeded target ⟨target, request, x, true, some (.ok data)⟩ :=
        ⟨rfl, rfl, data, rfl⟩
      refine ⟨_, hleg'.succeed ?_ rfl hs h.buffer hsucceeds⟩
      exact h.action
    obtain ⟨-, j, hs, -⟩ := hlast ⟨op.ticket, operation⟩
    refine ⟨data, j, rfl, fun x => ⟨?_, ?_, ?_, ?_, ?_, ?_⟩⟩
    · exact halike.liveClass.trans h.live
    · rw [halike.phase]
      exact ⟨hs.phase.1, hs.phase.2.2⟩
    · exact halike.inFlight
    · obtain ⟨compared', j', hs', hleg''⟩ := hlast x
      obtain ⟨-, rfl⟩ := hs.unique hs'
      exact ⟨compared', hleg''⟩
    · intro d hd
      rcases List.mem_append.mp hd with hd | hd
      · exact h.good d hd
      · obtain rfl := List.mem_singleton.mp hd
        rintro rfl
        refine ⟨data, rfl, hsucceeds.fine ?_⟩
        rcases hs.phase_of_getStatus with hp | hp | hp
        · exact .inl hp
        · exact .inr hp
        · exact absurd hp h.unchecked
    · exact hs.ne_checkStatus ht

end Controller

/-! ## The link -/

namespace Link

variable {α : Type} {l l' : Link α} {t : Task} {target : ClassHandle} {interface : UInt8}
  {done : List Issue} {request : ClassCall} {work : Work}

/-- The record of the wire holds the actions of these operations, each of which succeeded. The
interface is claimed with the first one. -/
structure Shows (l : Link α) (interface : UInt8) (done : List Issue) : Prop where
  unclaimed : done = [] → l.claimed = none
  claimed : done ≠ [] → ∃ c, l.claimed = some c ∧ c.interface = interface
  actions : ∃ parts, l.wire.trace.toList = .openDevice true :: parts.flatten ∧
    List.Forall₂ (Issue.Performed interface) done parts

theorem Shows.congr (h : l.Shows interface done) (hc : l'.claimed = l.claimed)
    (ht : l'.wire.trace = l.wire.trace) : l'.Shows interface done where
  unclaimed hd := hc.trans (h.unclaimed hd)
  claimed hd := hc ▸ h.claimed hd
  actions := ht ▸ h.actions

/-- When the job of an operation succeeds, its actions are recorded as well. -/
theorem Shows.perform {notices : List Notice} {data : Bytes} (h : l.Shows interface done)
    (hs : work.Serves l.claimed request)
    (hfirst : ∀ handle setting, request = .setInterface handle setting →
      done = [] ∧ interface = UInt8.ofNat handle.value)
    (hp : l.perform work = (l', notices, .reply (.ok data))) (x : Completion) :
    l'.Shows interface (done ++ [⟨target, request, x, true, some (.ok data)⟩]) := by
  obtain ⟨c, later, hclaimed, hbefore, hperforms, htrace⟩ :=
    perform_of_ok hs (fun _ _ hrequest => h.unclaimed (hfirst _ _ hrequest).1) hp
  have hinterface : c.interface = interface := by
    cases hperforms with
    | selected hi _ => exact hi.trans (hfirst _ _ rfl).2.symm
    | carried hcarries =>
      have hne : done ≠ [] := fun hd => by
        have hnone := h.unclaimed hd
        cases hs with
        | select => cases hcarries
        | transfer hc _ => simp [hnone] at hc
      obtain ⟨c', hc', hi⟩ := h.claimed hne
      rcases hbefore with hb | hb
      · simp [hb] at hc'
      · rw [hb, Option.some.injEq] at hc'
        exact hc' ▸ hi
  obtain ⟨parts, hparts, hall⟩ := h.actions
  refine ⟨fun hd => absurd hd (by simp), fun _ => ⟨c, hclaimed, hinterface⟩, parts ++ [later], ?_, ?_⟩
  · rw [htrace, hparts]
    simp
  · rw [hinterface] at hperforms
    exact List.rel_append hall (.cons ⟨data, rfl, hperforms⟩ .nil)

/-- When the only job is done its completion is called, unless the job never ends. -/
theorem Shows.finish {x : α} (h : l.Shows interface done) (target : ClassHandle)
    (hj : l.jobs = [⟨x, work⟩]) (hs : work.Serves l.claimed request)
    (hfirst : ∀ handle setting, request = .setInterface handle setting →
      done = [] ∧ interface = UInt8.ofNat handle.value) :
    (l.finish 0).1.jobs = [] ∧ ((l.finish 0).2.2 = none ∨ ∃ r, (l.finish 0).2.2 = some (x, r) ∧
      ∀ data, r = .ok data → ∀ y, (l.finish 0).1.Shows interface
        (done ++ [⟨target, request, y, true, some (.ok data)⟩])) := by
  have hshows : ({ l with jobs := [] } : Link α).Shows interface done := h.congr rfl rfl
  have hjobs : (({ l with jobs := [] } : Link α).perform work).1.jobs = [] := jobs_perform work
  have hjob : l.jobs[0]? = some ⟨x, work⟩ := by rw [hj]; rfl
  have herase : l.jobs.eraseIdx 0 = [] := by rw [hj]; rfl
  simp only [Link.finish, hjob, herase]
  cases hp : ({ l with jobs := [] } : Link α).perform work with
  | mk l' rest =>
    obtain ⟨notices, ending⟩ := rest
    rw [hp] at hjobs
    cases ending with
    | never => exact ⟨hjobs, .inl rfl⟩
    | reply r =>
      refine ⟨hjobs, .inr ⟨r, rfl, ?_⟩⟩
      rintro data rfl y
      exact hshows.perform hs hfirst hp y

/-- The second link came from the first with no control transfer, and no job was accepted or done. -/
structure Silent (l l' : Link α) : Prop where
  jobs : l'.jobs = l.jobs
  record : ∃ later, l'.wire.trace.toList = l.wire.trace.toList ++ later ∧
    ∀ e ∈ later, e.packet? = none

theorem Silent.refl (l : Link α) : Silent l l := ⟨rfl, [], (List.append_nil _).symm, by simp⟩

theorem Silent.trans {m : Link α} (h : Silent l l') (h' : Silent l' m) : Silent l m := by
  obtain ⟨a, ha, hno⟩ := h.record
  obtain ⟨b, hb, hno'⟩ := h'.record
  refine ⟨h'.jobs.trans h.jobs, a ++ b, by rw [hb, ha, List.append_assoc], fun e he => ?_⟩
  exact (List.mem_append.mp he).elim (hno e) (hno' e)

theorem silent_releaseUnheld (l : Link α) (c : Claim) : Silent l (l.releaseUnheld c) := by
  unfold releaseUnheld
  split
  · exact .refl l
  · exact ⟨rfl, [.release c.interface], by simp [Wire.record], by simp [BusEvent.packet?]⟩

theorem silent_busReset (l : Link α) : Silent l l.busReset.1 := by
  obtain ⟨hwire, hjobs⟩ : l.busReset.1.wire = l.wire.reset.1 ∧ l.busReset.1.jobs = l.jobs := by
    unfold busReset
    split <;> rename_i hreset <;> simp [hreset]
  exact ⟨hjobs, hwire ▸ l.wire.record_act fun _ => rfl⟩

theorem silent_deinit (l : Link α) (target : ClassHandle) : Silent l (l.deinit target).1 := by
  unfold deinit
  split
  · dsimp only
    split
    · exact .refl l
    · unfold replaceClaim
      dsimp only
      split
      · exact ⟨rfl, [], (List.append_nil _).symm, by simp⟩
      · refine Silent.trans ?_ (silent_releaseUnheld _ _)
        exact ⟨rfl, [], (List.append_nil _).symm, by simp⟩
  · exact .refl l

end Link

/-! ## The end of an upgrade -/

/-- The operations of an upgrade behind the selection of the interface, if the status is not checked
after the detach. -/
def Task.transfers (t : Task) : List ClassCall :=
  .getStatus :: ((List.range t.blockCount).flatMap t.download ++
    .dnload (UInt16.ofNat t.blockCount) #[] ::
      ((if t.blockCount = 0 then [.getStatus] else (List.range t.blockCount).flatMap t.upload) ++
        [.detach t.config.detachTimeout]))

theorem Task.schedule_eq_transfers {t : Task} (ht : t.config.checkStatusAfterDetach = false) :
    t.schedule = .setInterface t.interface 0 :: t.transfers := by
  simp [schedule, transfers, closing, ht]

theorem Task.payload_transfers {t : Task} (ht : t.config.checkStatusAfterDetach = false) :
    t.transfers.flatMap ClassCall.payload = t.image.toList := by
  have hpayload := t.payload_agenda .setInterface
  rwa [← t.schedule_eq_agenda, schedule_eq_transfers ht, if_pos (.inl rfl)] at hpayload

/-- The transfer of an operation that succeeded. A status that came back with it is good. -/
def Accomplishes (interface : UInt8) (request : ClassCall) (e : BusEvent) : Prop :=
  ∃ data, Carries interface request data e ∧ (request = .getStatus → Status.Fine data)

/-- What was done to a device for an upgrade that went well: the interface was selected, each operation
was one transfer that succeeded, the image went to the device and came back, and after that there was
no more transfer. -/
structure Flashed (t : Task) (interface : UInt8) (selecting body closing : List BusEvent) : Prop where
  selecting : Selects interface 0 selecting
  transfers : List.Forall₂ (Accomplishes interface) t.transfers body
  downloaded : body.flatMap BusEvent.downloaded = t.image.toList
  uploaded : body.flatMap BusEvent.uploaded = t.image.toList
  closing : ∀ e ∈ closing, e.packet? = none

section
variable {interface : UInt8} {target : ClassHandle}

theorem Carries.downloaded_eq {request : ClassCall} {data : Bytes} {e : BusEvent}
    (h : Carries interface request data e) : e.downloaded = request.payload := by
  cases h <;> rfl

theorem Carries.uploaded_eq {d : Issue} {data : Bytes} {e : BusEvent} (hd : d.Succeeded target)
    (hr : d.reply = some (.ok data)) (h : Carries interface d.request data e) :
    e.uploaded = d.received := by
  obtain ⟨-, ha, -⟩ := hd
  obtain ⟨_, request, _, accepted, reply⟩ := d
  obtain rfl : accepted = true := ha
  obtain rfl : reply = some (.ok data) := hr
  cases h <;> rfl

/-- Each operation but the selection of the interface was one transfer. -/
theorem accomplished_of_performed {issues : List Issue} {parts : List (List BusEvent)}
    (h : List.Forall₂ (Issue.Performed interface) issues parts)
    (hno : ∀ d ∈ issues, ∀ handle setting, d.request ≠ .setInterface handle setting)
    (hgood : ∀ d ∈ issues, d.Good) (hs : ∀ d ∈ issues, d.Succeeded target) :
    List.Forall₂ (Accomplishes interface) (issues.map (·.request)) parts.flatten ∧
      parts.flatten.flatMap BusEvent.downloaded =
        (issues.map (·.request)).flatMap ClassCall.payload ∧
      parts.flatten.flatMap BusEvent.uploaded = issues.flatMap Issue.received := by
  induction h with
  | nil => exact ⟨.nil, rfl, rfl⟩
  | @cons d part issues parts hd _ ih =>
    obtain ⟨hall, hdown, hup⟩ := ih (fun x hx => hno x (.tail d hx)) (fun x hx => hgood x (.tail d hx))
      (fun x hx => hs x (.tail d hx))
    obtain ⟨data, hreply, hperforms⟩ := hd
    have hmem : d ∈ d :: issues := .head issues
    generalize hrequest : d.request = request at hperforms
    cases hperforms with
    | selected => exact absurd hrequest (hno d hmem _ _)
    | @carried _ _ e hcarries =>
      subst hrequest
      refine ⟨.cons ⟨data, hcarries, fun hstatus => ?_⟩ hall, ?_, ?_⟩
      · obtain ⟨data', hreply', hfine⟩ := hgood d hmem hstatus
        rw [hreply, Option.some.injEq, Except.ok.injEq] at hreply'
        exact hreply' ▸ hfine
      · simp [hdown, hcarries.downloaded_eq]
      · simp [hup, hcarries.uploaded_eq (hs d hmem) hreply]

theorem flashed_of_performed {t : Task} {issues : List Issue} {parts : List (List BusEvent)}
    {closing : List BusEvent} (ht : t.config.checkStatusAfterDetach = false)
    (h : List.Forall₂ (Issue.Performed interface) issues parts)
    (hcalls : issues.map (·.request) = t.schedule) (hgood : ∀ d ∈ issues, d.Good)
    (hs : ∀ d ∈ issues, d.Succeeded target)
    (hback : issues.flatMap Issue.received = t.image.toList)
    (hclosing : ∀ e ∈ closing, e.packet? = none) :
    ∃ selecting body, parts.flatten = selecting ++ body ∧
      Flashed t interface selecting body closing := by
  rw [Task.schedule_eq_transfers ht] at hcalls
  cases h with
  | nil => simp at hcalls
  | @cons d part issues parts hd hall =>
    obtain ⟨hrequest, hrest⟩ : d.request = .setInterface t.interface 0 ∧
        issues.map (·.request) = t.transfers := List.cons.inj hcalls
    have hno : ∀ x ∈ issues, ∀ handle setting, x.request ≠ .setInterface handle setting := by
      intro x hx handle setting hselect
      have hmem : ClassCall.setInterface handle setting ∈ t.transfers := by
        rw [← hrest, ← hselect]
        exact List.mem_map_of_mem hx
      simp only [Task.transfers] at hmem
      split at hmem <;> simp [Task.download, Task.upload] at hmem
    obtain ⟨hbody, hdown, hup⟩ := accomplished_of_performed hall hno
      (fun x hx => hgood x (.tail d hx)) (fun x hx => hs x (.tail d hx))
    obtain ⟨data, hreply, hperforms⟩ := hd
    rw [hrest] at hbody hdown
    refine ⟨part, parts.flatten, rfl, ?_, hbody, hdown.trans (Task.payload_transfers ht), ?_, hclosing⟩
    · rw [hrequest] at hperforms
      cases hperforms with
      | selected _ hselects => exact hselects
      | carried hcarries => cases hcarries
    · have hnone : d.received = [] := by simp [Issue.received, hrequest]
      rw [List.flatMap_cons, hnone, List.nil_append] at hback
      exact hup.trans hback

end

/-! ## Between two requests -/

namespace Session

variable {κ : Type} {s : Session (Link Completion) κ} {t : Task} {interface : UInt8}
  {target : ClassHandle} {done : List Issue} {p : Phase} {i : Nat} {op : InFlight}
  {request : ClassCall} {r : Reply} {b : Binding}

theorem silent_exchange (s : Session (Link Completion) κ) {α : Type} {run : Link Completion → Link Completion × α}
    {entry : α → Exchange} {notices : α → List Notice}
    (h : Link.Silent s.state.driver (run s.state.driver).1) :
    Link.Silent s.state.driver (s.exchange run entry notices).1.state.driver := by
  rw [exchange_eq]
  simpa using h

/-- At the end of an upgrade there is no transfer any more. -/
theorem silent_finish (s : Session (Link Completion) κ) :
    Link.Silent s.state.driver (s.finish Link.driver).state.driver := by
  have hreset : Link.Silent s.state.driver (s.resetBus Link.driver).state.driver := by
    unfold resetBus
    split
    · exact .refl _
    · exact silent_exchange _ (Link.silent_busReset _)
  have hreturn : ∀ u : Session (Link Completion) κ,
      Link.Silent u.state.driver (u.returnClass Link.driver .deinitFailed).state.driver := by
    intro u
    unfold returnClass
    dsimp only
    split
    · rename_i target device _ _
      have hdeinit : Link.Silent u.state.driver
          ((u.modify ({ · with liveClass := none })).exchange (Link.driver.deinit · device target)
            (.deinit device target ·) fun _ => []).1.state.driver :=
        silent_exchange (u.modify ({ · with liveClass := none })) (Link.silent_deinit _ target)
      split
      · rename_i hresult
        rwa [hresult] at hdeinit
      · rename_i hresult
        rw [hresult] at hdeinit
        exact hdeinit
    · exact .refl _
  have henumerate : ∀ u : Session (Link Completion) κ,
      Link.Silent u.state.driver (u.reEnumerate Link.driver).state.driver := by
    intro u
    unfold reEnumerate
    split
    · exact .refl _
    · exact silent_exchange _ (.refl _)
  exact (hreset.trans (hreturn _)).trans (henumerate _)

/-- How a flash stands between two requests. -/
inductive Stands (s : Session (Link Completion) κ) (t : Task) (interface : UInt8) : Prop
  | plugged (b : Binding) : b.interface = t.interface → s.controller = .new t.image t.config →
    s.state.driver.Shows interface [] → s.state.driver.jobs = [] →
    s.requests = [.bind b, .nextPhase .attached] → Stands s t interface
  | bound (b : Binding) : b.interface = t.interface →
    s.controller = (Controller.new t.image t.config).bind b.host b.device b.interface →
    s.state.driver.Shows interface [] → s.state.driver.jobs = [] →
    s.requests = [.nextPhase .attached] → Stands s t interface
  | due (target : ClassHandle) (done : List Issue) (p : Phase) (i : Nat) :
    s.controller.Underway t target done p i → s.state.driver.Shows interface done →
    s.state.driver.jobs = [] → s.requests = [.nextPhase p] → Stands s t interface
  | issued (target : ClassHandle) (done : List Issue) (op : InFlight) (request : ClassCall)
    (work : Work) : s.controller.Awaits t target done op request →
    s.state.driver.Shows interface done → work.Serves s.state.driver.claimed request →
    s.state.driver.jobs = [⟨⟨op.ticket, op.operation⟩, work⟩] → s.requests = [] →
    Stands s t interface
  | answered (target : ClassHandle) (done : List Issue) (op : InFlight) (request : ClassCall)
    (r : Reply) : s.controller.Awaits t target done op request →
    (∀ data, r = .ok data → ∀ x, s.state.driver.Shows interface
      (done ++ [⟨target, request, x, true, some (.ok data)⟩])) →
    s.state.driver.jobs = [] → s.requests = [.completed ⟨op.ticket, op.operation⟩ r] →
    Stands s t interface
  | failed : s.controller.phase ≠ .complete → s.state.driver.jobs = [] → s.requests = [] →
    Stands s t interface
  | complete (selecting body closing : List BusEvent) : s.controller.phase = .complete →
    s.state.driver.wire.trace.toList = .openDevice true :: (selecting ++ body ++ closing) →
    Flashed t interface selecting body closing → s.state.driver.jobs = [] → s.requests = [] →
    Stands s t interface

/-- A flash in which no completion was lost and there is room for the next request. -/
structure Aloft (s : Session (Link Completion) κ) (t : Task) (interface : UInt8) : Prop where
  lost : s.state.lost = none
  room : s.channel.Roomy
  stands : s.Stands t interface

/-! ## One request -/

theorem aloft_fail (hl : s.state.lost = none) (hroom : s.channel.Roomy)
    (hj : s.state.driver.jobs = []) (hreq : s.requests = []) (cause : UpgradeError) :
    Aloft (s.fail cause) t interface :=
  ⟨by simpa using hl, by simpa using hroom,
    .failed (by simp) (by simpa using hj) (by simpa using hreq)⟩

/-- The device becomes known. -/
theorem aloft_bind (hl : s.state.lost = none) (hroom : s.channel.Roomy)
    (hb : b.interface = t.interface) (hc : s.controller = .new t.image t.config)
    (hd : s.state.driver.Shows interface []) (hj : s.state.driver.jobs = [])
    (hreq : s.requests = [.nextPhase .attached]) :
    Aloft (handle Link.driver s (.bind b)).1 t interface := by
  rw [handle_bind Link.driver hl hc]
  refine ⟨hl, hroom, .bound b hb ?_ hd hj hreq⟩
  exact congrArg (Controller.bind · b.host b.device b.interface) hc

/-- The class driver is initialised. -/
theorem aloft_attach (hl : s.state.lost = none) (hroom : s.channel.Roomy)
    (hb : b.interface = t.interface)
    (hc : s.controller = (Controller.new t.image t.config).bind b.host b.device b.interface)
    (hd : s.state.driver.Shows interface []) (hj : s.state.driver.jobs = []) (hreq : s.requests = []) :
    Aloft (handle Link.driver s (.nextPhase .attached)).1 t interface := by
  rw [handle_attach Link.driver hl hc]
  obtain ⟨u, hu, huc, hud, hul, hur, huq⟩ := s.setPhase_taken (.nextPhase .attached) .attached
  rw [hu]
  rw [hc] at huc
  rw [← hur] at hroom
  obtain ⟨hc', hd', hl', hroom', hrequests⟩ := initialise_of_ok Link.driver
    (show Link.driver.init u.state.driver b.device = (_, .ok _) from rfl) hroom (huq.trans hreq)
  refine ⟨hl'.trans (hul.trans hl), hroom', .due ⟨s.state.driver.nextClass⟩ [] .setInterface 0 ?_ ?_ ?_ hrequests⟩
  · rw [hc', huc, hud]
    exact Controller.underway_opening t hb _
  · rw [hd', hud]
    exact hd.congr rfl rfl
  · rw [hd', hud]
    exact hj

/-- The step to a phase is made. -/
theorem handle_underway (hl : s.state.lost = none) (h : s.controller.Underway t target done p i) :
    (handle Link.driver s (.nextPhase p)).1 =
      ((s.record (.taken (.nextPhase p))).setPhase p).perform Link.driver (s.controller.action p) := by
  obtain ⟨compared, hleg⟩ := h.leg
  exact handle_of_leg _ hl hleg h.phase h.live h.idle

/-- The operation of a phase is refused, or its job is accepted. -/
theorem aloft_issue {length : Nat} (hl : s.state.lost = none) (hroom : s.channel.Roomy)
    (h : s.controller.Underway t target done p i) (hd : s.state.driver.Shows interface done)
    (hj : s.state.driver.jobs = []) (hreq : s.requests = [])
    (ha : s.controller.action p = .start request length) :
    Aloft (handle Link.driver s (.nextPhase p)).1 t interface := by
  rw [handle_underway hl h, ha]
  obtain ⟨u, hu, huc, hud, hul, hur, huq⟩ := s.setPhase_taken (.nextPhase p) p
  rw [hu]
  rw [hl] at hul
  rw [← hur] at hroom
  rw [hreq] at huq
  have hlive : u.controller.liveClass = some target := by
    rw [huc, Controller.liveClass_enter, h.live]
  simp only [perform, hlive]
  obtain ⟨v, hv, hcontroller, hdriver, hlost, hchannel, hrequests⟩ :=
    u.handOver_taken Link.driver target request length
  generalize hx : (⟨u.controller.nextTicket, request.operation⟩ : Completion) = x at hdriver
  have hanswered : u.answerTo Link.driver target request =
      (Link.driver.submit u.state.driver target request x).2 := by rw [answerTo, hx]
  rw [start_eq, hanswered, hv]
  rcases u.state.driver.submit_cases target request x with ⟨cause, hsubmit⟩ | ⟨work, hserves, hsubmit⟩
  · rw [show Link.driver.submit u.state.driver target request x = _ from hsubmit] at hdriver ⊢
    refine aloft_fail (hlost.trans hul) (hchannel ▸ hroom) ?_ (hrequests.trans huq) _
    rw [show v.state.driver = u.state.driver from hdriver, hud]
    exact hj
  · rw [show Link.driver.submit u.state.driver target request x = _ from hsubmit] at hdriver ⊢
    refine ⟨hlost.trans hul, hchannel ▸ hroom, .issued target done
      ⟨u.controller.nextTicket, request.operation, length⟩ request work ?_ ?_ ?_ ?_
      (hrequests.trans huq)⟩
    · rw [show (v.deliverAll []).controller = _ from hcontroller, Controller.begin, huc]
      exact h.await ha _
    · rw [show (v.deliverAll []).state.driver = _ from hdriver, hud]
      exact hd.congr rfl rfl
    · rw [show (v.deliverAll []).state.driver = _ from hdriver]
      exact hserves
    · rw [show (v.deliverAll []).state.driver = _ from hdriver, hud, hj, hx]
      rfl

/-- Of an empty image nothing is read back. -/
theorem aloft_skip (hl : s.state.lost = none) (hroom : s.channel.Roomy)
    (h : s.controller.Underway t target done .readBack i) (hd : s.state.driver.Shows interface done)
    (hj : s.state.driver.jobs = []) (hreq : s.requests = []) (hc : s.controller.chunkLength = 0)
    (ha : s.controller.action .readBack = .skip .getStatusRead) :
    Aloft (handle Link.driver s (.nextPhase .readBack)).1 t interface := by
  obtain ⟨compared, hleg⟩ := h.leg
  have hz : (s.controller.enter .readBack).chunkLength = 0 := by
    rw [hleg.enter.chunkLength_eq, ← hleg.chunkLength_eq, hc]
  obtain ⟨rfl, -, hleg'⟩ := hleg.enter.skip hz (hleg.buffered (.inl rfl))
  have hrefusal : ((s.record (.taken (.nextPhase .readBack))).setPhase .readBack).channel.refusal? =
      none := refusal?_eq_none hroom hreq
  rw [handle_underway hl h, ha, perform, advance_of_room _ hrefusal]
  refine ⟨hl, hroom.send _, .due target done .getStatusRead 0 ?_ hd hj ?_⟩
  · exact ⟨(Controller.liveClass_enter ..).trans h.live, ⟨by simp, by simp [Phase.isTerminal]⟩,
      (Controller.inFlight_enter ..).trans h.idle, ⟨compared, hleg'⟩, h.good, by simp⟩
  · rw [requests_post _ hrefusal, requests_setPhase, requests_record, hreq]
    rfl

/-- All operations have succeeded, and the upgrade is complete. -/
theorem aloft_finish (hl : s.state.lost = none) (hroom : s.channel.Roomy)
    (ht : t.config.checkStatusAfterDetach = false)
    (h : s.controller.Underway t target done .complete i) (hd : s.state.driver.Shows interface done)
    (hj : s.state.driver.jobs = []) (hreq : s.requests = []) :
    Aloft (handle Link.driver s (.nextPhase .complete)).1 t interface := by
  obtain ⟨compared, hleg⟩ := h.leg
  rw [handle_underway hl h, show s.controller.action .complete = .finish from rfl, perform]
  obtain ⟨u, hu, huc, hud, hul, hur, huq⟩ := s.setPhase_taken (.nextPhase .complete) .complete
  rw [hu]
  have hf := finish_becomes Link.driver u
  have hsilent := silent_finish u
  obtain ⟨parts, hparts, hall⟩ := hd.actions
  obtain ⟨closing, hclosing, hno⟩ := hsilent.record
  have hcalls := hleg.calls
  rw [← t.schedule_eq_agenda, show t.agenda .complete i = [] from rfl, List.append_nil] at hcalls
  have hback : done.flatMap Issue.received = t.image.toList := by
    rw [hleg.image]
    exact (hleg.place.resolve_left (by simp [Phase.isClosing])).2.2
  obtain ⟨selecting, body, hflatten, hflashed⟩ :=
    flashed_of_performed ht hall hcalls h.good hleg.succeeded hback hno
  refine ⟨hf.lost.trans (hul.trans hl), hf.channel ▸ hur ▸ hroom, .complete selecting body closing ?_ ?_
    hflashed ?_ ?_⟩
  · rw [hf.controller, huc]
    rfl
  · rw [hclosing, hud, hparts, hflatten]
    rfl
  · rw [hsilent.jobs, hud, hj]
  · rw [hf.requests_eq, huq, hreq]

/-- The completion of an operation makes the next step due, or ends the upgrade. -/
theorem aloft_complete (hl : s.state.lost = none) (hroom : s.channel.Roomy)
    (ht : t.config.checkStatusAfterDetach = false)
    (h : s.controller.Awaits t target done op request)
    (hd : ∀ data, r = .ok data → ∀ x, s.state.driver.Shows interface
      (done ++ [⟨target, request, x, true, some (.ok data)⟩]))
    (hj : s.state.driver.jobs = []) (hreq : s.requests = []) :
    Aloft (handle Link.driver s (.completed ⟨op.ticket, op.operation⟩ r)).1 t interface := by
  have hx : s.controller.awaited? op.ticket = some op := by
    simp [Controller.awaited?, h.live, h.inFlight]
  have hrefusal := refusal?_eq_none hroom hreq
  rw [handle_of_lost_eq_none _ hl, take]
  cases hnext : (s.controller.conclude op op.operation r).next with
  | error cause =>
    rw [complete_of_error hx hnext]
    exact aloft_fail (by simpa using hl) (by simpa using hroom) (by simpa using hj)
      (by simpa using hreq) cause
  | ok q =>
    obtain ⟨data, j, hr, hunderway⟩ := h.goes_on ht hnext
    rw [complete_of_ok hx hnext, advance_of_room _ (by simpa using hrefusal)]
    refine ⟨by simpa using hl, by simpa using hroom.send _, .due target
      (done ++ [⟨target, request, ⟨op.ticket, op.operation⟩, true, some (.ok data)⟩]) q j ?_ ?_
      (by simpa using hj) ?_⟩
    · simpa using hunderway ⟨op.ticket, op.operation⟩
    · simpa using hd data hr ⟨op.ticket, op.operation⟩
    · rw [requests_post _ (by simpa using hrefusal), requests_settled, requests_record, hreq]
      rfl

/-- Every request that is handled keeps the flash up. -/
theorem Aloft.handle {q : Request} (h : Aloft s t interface)
    (ht : t.config.checkStatusAfterDetach = false) (hreq : s.requests = q :: s.dropOldest.requests) :
    Aloft (Session.handle Link.driver s.dropOldest q).1 t interface := by
  have hl : s.dropOldest.state.lost = none := h.lost
  have hroom : s.dropOldest.channel.Roomy := h.room.dropOldest
  have hrest : ∀ {p ps}, s.requests = p :: ps → q = p ∧ s.dropOldest.requests = ps := fun hr => by
    rw [hr, List.cons.injEq] at hreq
    exact ⟨hreq.1.symm, hreq.2.symm⟩
  cases h.stands with
  | plugged b hb hc hd hj hr =>
    obtain ⟨rfl, hnone⟩ := hrest hr
    exact aloft_bind hl hroom hb hc hd hj hnone
  | bound b hb hc hd hj hr =>
    obtain ⟨rfl, hnone⟩ := hrest hr
    exact aloft_attach hl hroom hb hc hd hj hnone
  | due target done p i hc hd hj hr =>
    obtain ⟨rfl, hnone⟩ := hrest hr
    have hc' : s.dropOldest.controller.Underway t target done p i := hc
    obtain ⟨compared, hleg⟩ := hc'.leg
    rcases hleg.action_cases with ⟨request, length, ha⟩ | ⟨rfl, hz, ha⟩ | ⟨-, cause, ha⟩ | ⟨rfl, -⟩
    · exact aloft_issue hl hroom hc' hd hj hnone ha
    · exact aloft_skip hl hroom hc' hd hj hnone hz ha
    · rw [handle_underway hl hc', ha, perform]
      exact aloft_fail (s := (s.dropOldest.record (.taken (.nextPhase p))).setPhase p) hl hroom hj hnone
        cause
    · exact aloft_finish hl hroom ht hc' hd hj hnone
  | answered target done op request r hc hd hj hr =>
    obtain ⟨rfl, hnone⟩ := hrest hr
    exact aloft_complete hl hroom ht hc hd hj hnone
  | issued _ _ _ _ _ _ _ _ _ hr | failed _ _ hr | complete _ _ _ _ _ _ _ hr =>
    exact absurd (hreq.symm.trans hr) (List.cons_ne_nil _ _)

/-! ## Jobs -/

/-- The link has done one of its jobs, and calls the completion. -/
def finishJob (s : Session (Link Completion) κ) (i : Nat) : Session (Link Completion) κ :=
  ((s.withDriver (s.state.driver.finish i).1).relayAll (s.state.driver.finish i).2.1).deliverAll
    (s.state.driver.finish i).2.2.toList

theorem finishJob_of_none {i : Nat} (h : s.state.driver.jobs[i]? = none) : s.finishJob i = s := by
  simp only [finishJob, Link.finish, h]
  rfl

/-- A job that is done keeps the flash up, whatever comes of it. -/
theorem Aloft.finishJob (h : Aloft s t interface) (hi : interface = UInt8.ofNat t.interface.value)
    (i : Nat) : Aloft (s.finishJob i) t interface := by
  cases hjob : s.state.driver.jobs[i]? with
  | none => rwa [finishJob_of_none hjob]
  | some job =>
    cases h.stands with
    | plugged _ _ _ _ hj | bound _ _ _ _ hj | due _ _ _ _ _ _ hj | answered _ _ _ _ _ _ _ hj
    | failed _ hj | complete _ _ _ _ _ _ hj => simp [hj] at hjob
    | issued target done op request work hc hd hs hj hr =>
      obtain rfl : i = 0 := by
        by_contra hne
        rw [hj, List.getElem?_eq_none (Nat.pos_of_ne_zero hne)] at hjob
        cases hjob
      obtain ⟨hjobs, hnone | ⟨r, hr', hshows⟩⟩ := hd.finish target hj hs
        fun handle setting hrequest => by
          obtain ⟨hfirst, rfl⟩ := (hrequest ▸ hc).first
          exact ⟨hfirst, hi⟩
      · rw [Session.finishJob, hnone]
        change Aloft ((s.withDriver (s.state.driver.finish 0).1).relayAll _) t interface
        exact ⟨by simpa using h.lost, by simpa using h.room,
          .failed (by simpa using hc.phase_ne_complete) (by simpa using hjobs) (by simpa using hr)⟩
      · rw [Session.finishJob, hr']
        change Aloft (((s.withDriver (s.state.driver.finish 0).1).relayAll _).deliver _ r) t interface
        have hrefusal := refusal?_eq_none h.room hr
        rw [deliver_of_room _ r (by simpa using hrefusal)]
        refine ⟨by simpa using h.lost, by simpa using h.room.send _, .answered target done op request r ?_
          ?_ (by simpa using hjobs) ?_⟩
        · simpa using hc
        · simpa using hshows
        · rw [requests_post _ (by simpa using hrefusal)]
          simp [hr]

end Session

end FirmwareUpgrade
