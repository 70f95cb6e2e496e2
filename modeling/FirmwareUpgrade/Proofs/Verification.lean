import FirmwareUpgrade.Proofs.Run

/-!
# What the comparison decides

While no device is detached, the data that came back is all that the end of the read-back depends
on. A reply that is too short ends the upgrade where it falls short. With the last status check the
data is compared with the image: if they are equal the device is asked to detach, and otherwise the
upgrade ends at their first difference.
-/
namespace FirmwareUpgrade

/-- The first place at which two strings differ. -/
def FirstDifference (a b : List UInt8) (n : Nat) : Prop :=
  a.take n = b.take n ∧ a[n]? ≠ b[n]?

theorem Bytes.firstDifference_of_eq_some {a b : Bytes} {n : Nat}
    (h : a.firstDifference b = some n) : FirstDifference a.toList b.toList n := by
  obtain ⟨-, -, -, hne, hbelow⟩ := firstDifferenceFrom_eq_some h
  refine ⟨List.ext_getElem? fun j => ?_, by simpa using hne⟩
  rw [List.getElem?_take, List.getElem?_take]
  split
  · simpa using hbelow j (Nat.zero_le j) ‹_›
  · rfl

theorem FirstDifference.ne {a b : List UInt8} {n : Nat} (h : FirstDifference a b n) : a ≠ b := by
  rintro rfl
  exact h.2 rfl

theorem mem_of_mem_transitions {p : Phase} {waiting : List Request}
    (h : p ∈ transitions waiting) : .nextPhase p ∈ waiting := by
  obtain ⟨q, hq, hp⟩ := List.mem_filterMap.mp h
  rwa [← Request.eq_nextPhase_of_transition? hp]

namespace Controller

/-- A status check that only the end of the upgrade follows is the last one of the read-back. -/
theorem Leg.last_status {c : Controller} {t : Task} {target : ClassHandle} {opening : Phase}
    {done : List Issue} {compared : Bool} {p : Phase} {i length : Nat} {request : ClassCall}
    (h : c.Leg t target opening done compared p i) (ha : c.action p = .start request length)
    (hend : t.agenda p i = request :: t.closing) : p = .getStatusRead ∧ c.remaining = 0 := by
  have hplace := h.place
  cases p with
  | unattached | attached | error => exact hplace.elim
  | setInterface => simp [Task.agenda, Task.closing] at hend
  | getStatus =>
    by_cases hi : i < t.blockCount
    · simp [Task.agenda, Task.loading, Task.closing, t.downloads_of_lt hi, Task.download] at hend
    · simp [Task.agenda, Task.loading, Task.committing, Task.closing,
        t.downloads_of_le (not_lt.mp hi)] at hend
  | transfer =>
    simp [Task.agenda, Task.loading, Task.closing, t.downloads_of_lt hplace.1,
      Task.download] at hend
  | zeroLengthTransfer =>
    by_cases hn : t.blockCount = 0
    · simp [Task.agenda, Task.committing, Task.reading, Task.closing, hn] at hend
    · simp [Task.agenda, Task.committing, Task.reading, Task.closing, hn, Task.upload,
        t.uploads_of_lt (Nat.pos_of_ne_zero hn)] at hend
  | readBack =>
    by_cases hz : c.chunkLength = 0
    · simp [action, hz] at ha
    · rw [h.chunkLength_eq_zero_iff, not_le] at hz
      simp [Task.agenda, Task.reading, Task.closing, Nat.ne_of_gt (Nat.zero_lt_of_lt hz),
        t.uploads_of_lt hz, Task.upload] at hend
  | getStatusRead =>
    refine ⟨rfl, ?_⟩
    rw [h.remaining_eq_zero_iff]
    by_contra hi
    simp [Task.agenda, Task.closing, t.uploads_of_lt (not_le.mp hi), Task.upload] at hend
  | detach => simp [Task.agenda, Task.closing] at hend
  | checkStatus => simp [Task.agenda, Task.closing] at hend
  | complete => simp [action] at ha

end Controller

section
variable {T : Terms} {c : Controller} {k : Account} {waiting : List Request}
  {target : ClassHandle} {t : Task} {op : InFlight} {i : Nat} {done : List Issue} {last : Issue}
  {x : Completion} {data : Bytes}

theorem Base.getLast?_calls {waiting : List Request} (h : Base T c k waiting) (hT : T.kept)
    (hi : k.attachment.issues = done ++ [last]) : k.calls.getLast? = some last.request := by
  rw [h.calls hT, hi, List.map_append, List.map_singleton, List.getLast?_append]
  rfl

namespace Flying

theorem succeeded (h : Flying T c k (.completed x (.ok data) :: waiting) target t op i done last)
    (hx : x.ticket = op.ticket) : last.Succeeded target :=
  ⟨h.addressed, h.accepted, data, h.reply x _ List.mem_cons_self hx⟩

theorem uploaded_eq (h : Flying T c k (.completed x (.ok data) :: waiting) target t op i done last)
    (hx : x.ticket = op.ticket) :
    k.attachment.uploaded = done.flatMap Issue.received ++ last.received := by
  rw [k.attachment.uploaded_of_succeeded h.bound, h.issues, List.flatMap_append,
    List.flatMap_singleton]
  rw [h.issues]
  intro d hd
  rcases List.mem_append.mp hd with hd | hd
  · exact h.leg.succeeded d hd
  · rw [List.mem_singleton.mp hd]
    exact h.succeeded hx

/-- A reply that is too short is found out by its length. -/
theorem short_reply (h : Flying T c k (.completed x (.ok data) :: waiting) target t op i done last)
    (hx : x.ticket = op.ticket) {block length : UInt16} (hup : last.request = .upload block length)
    (hshort : data.size < length.toNat) :
    (c.conclude op x.operation (.ok data)).next =
      .error (.verificationMismatch k.attachment.uploaded.length) := by
  have ha := h.action
  have hleg := h.leg
  have hp : c.phase = .readBack := by
    rw [hup] at ha
    cases hcp : c.phase <;> simp only [hcp, Controller.action] at ha <;> (try split at ha) <;>
      simp_all
  rw [hp] at ha hleg
  obtain ⟨-, hlen, hreq, hrec⟩ :=
    hleg.readBack_request ha (h.reply x _ List.mem_cons_self hx) (h.succeeded hx)
  rw [hup] at hreq
  obtain ⟨-, hl⟩ := ClassCall.upload.inj hreq
  rw [hl, Task.toNat_size_block, ← hlen] at hshort
  have hback : (done.flatMap Issue.received).length = c.transferred := by
    refine hleg.place.2.length_back ?_
    rw [hleg.transferred]
    omega
  rw [h.uploaded_eq hx, hrec, List.length_append, hback, Array.length_toList]
  simp [Controller.conclude, Controller.succeed, hp, Controller.takeChunk, hshort,
    Controller.storeReadback]

/-- The last status check of the read-back decides. -/
theorem last_status (h : Flying T c k (.completed x (.ok data) :: waiting) target t op i done last)
    (hx : x.ticket = op.ticket) (ho : k.attachment.opening = .setInterface)
    (hend : k.attachment.issues.map (·.request) ++ t.closing = t.agenda .setInterface 0)
    {status : Status} (hs : Status.decode data = .ok status) (hc : status.check = .ok ()) :
    c.phase = .getStatusRead ∧
    (c.conclude op x.operation (.ok data)).controller.readback = none ∧
    (c.conclude op x.operation (.ok data)).controller.transferred = 0 ∧
    (c.conclude op x.operation (.ok data)).controller.block = 0 ∧
    ((c.conclude op x.operation (.ok data)).next = .ok .detach ∧
        k.attachment.uploaded = c.image.toList ∨
      ∃ n, (c.conclude op x.operation (.ok data)).next = .error (.verificationMismatch n) ∧
        FirstDifference k.attachment.uploaded c.image.toList n) := by
  have hcalls := h.leg.calls
  have hlast : t.agenda c.phase i = last.request :: t.closing := by
    rw [ho, ← hend, h.issues] at hcalls
    simpa using hcalls
  obtain ⟨hp, hrem⟩ := h.leg.last_status h.action hlast
  have hleg := h.leg
  have hreq : last.request = .getStatus := by
    have ha := h.action
    rw [hp] at ha
    exact (Action.start.inj ha).1.symm
  have hrec : last.received = [] := by simp [Issue.received, hreq]
  rw [hp] at hleg
  obtain ⟨b, hb⟩ := Option.isSome_iff_exists.mp (hleg.place.2.2.resolve_left (by simp [ho]))
  obtain ⟨hsize, hback⟩ := hleg.readback_eq_back hrem hb
  have hup : k.attachment.uploaded = b.toList := by
    rw [h.uploaded_eq hx, hrec, List.append_nil, hback]
  obtain ⟨notices, hv⟩ := Controller.succeed_getStatusRead (c := { c with inFlight := none }) hp
    hrem hs hc op
  replace hv : c.conclude op x.operation (.ok data) = _ := hv
  have hm : Controller.mismatch { c with inFlight := none, lastStatus := some status } =
      b.firstDifference c.image := by simp [Controller.mismatch, hb]
  rw [hv, hup]
  unfold Controller.verify
  rw [hm]
  cases hd : b.firstDifference c.image with
  | none =>
    rw [Bytes.firstDifference_eq_none_iff hsize] at hd
    exact ⟨hp, by simp [Controller.resetCounters], rfl, rfl, .inl ⟨rfl, by rw [hd]⟩⟩
  | some n =>
    exact ⟨hp, by simp [Controller.resetCounters], rfl, rfl,
      .inr ⟨n, rfl, Bytes.firstDifference_of_eq_some hd⟩⟩

end Flying

end

namespace Session

variable {δ κ : Type} {s : Session δ κ} {x : Completion} {r : Reply} {op : InFlight}

/-! ## Operations that issue nothing -/

theorem calls_fail (cause : UpgradeError) : (s.fail cause).account.calls = s.account.calls := by
  rw [account_fail, Account.add_watch]

theorem calls_advance (p : Phase) : (s.advance p).account.calls = s.account.calls := by
  unfold advance
  split
  · rfl
  · exact calls_fail _

theorem calls_complete : (s.complete x r).account.calls = s.account.calls := by
  unfold complete
  split
  · rw [account_note, Account.add_notice]
    rfl
  · simp only [update]
    split
    · rw [calls_advance, account_noteAll]
      rfl
    · rw [calls_fail, account_noteAll]
      rfl

theorem calls_deliverAll (ds : List (Completion × Reply)) :
    ∀ s : Session δ κ, (s.deliverAll ds).account.calls = s.account.calls := by
  induction ds with
  | nil => exact fun _ => rfl
  | cons d ds ih =>
    intro s
    rw [deliverAll_cons, ih, account_deliver, Account.add_completed]

theorem calls_start (drv : Driver δ) (target : ClassHandle) (request : ClassCall) (length : Nat) :
    (s.start drv target request length).account.calls = s.account.calls ++ [request] := by
  have hh : (s.handOver drv target request length).account.calls =
      s.account.calls ++ [request] := by
    rw [account_handOver, Account.add_call]
  rw [start_eq]
  split
  · rw [calls_deliverAll, hh]
  · rw [calls_fail, calls_deliverAll, hh]

/-! ## The conclusion of an operation -/

theorem calls_noticed (h : ¬Bereft s) (q : Request) :
    (s.noticed q).account.calls = s.account.calls := by
  rw [(noticed_of_not_bereft h q).2.account_eq, account_record, Account.add_taken]

/-! ## Sessions that wait for nothing -/

/-- With nothing in flight, a request that is not a possible step changes nothing. -/
theorem handle_idle (drv : Driver δ) {q : Request} (hidle : s.controller.inFlight = none)
    (hphase : s.controller.phase ≠ .unattached)
    (hq : ∀ p, q = .nextPhase p → s.controller.objection? p ≠ none) :
    controller (handle drv s q).1 = s.controller ∧
      requests (handle drv s q).1 = s.requests ∧
      (account (handle drv s q).1).calls = s.account.calls := by
  have hb := not_bereft_of_idle hidle
  have hu := (noticed_of_not_bereft hb q).1
  have hc := hu.controller
  have hreq := hu.requests_eq
  have hcalls := calls_noticed hb q
  change (take drv (s.noticed q) q).controller = _ ∧ (take drv (s.noticed q) q).requests = _ ∧
    (take drv (s.noticed q) q).account.calls = _
  generalize s.noticed q = u at *
  have hnote : ∀ n, (u.note n).controller = s.controller ∧ (u.note n).requests = s.requests ∧
      (u.note n).account.calls = s.account.calls := by
    intro n
    refine ⟨hc, hreq, ?_⟩
    rw [account_note, Account.add_notice]
    exact hcalls
  cases q with
  | nextPhase p =>
    obtain ⟨n, hn⟩ := Option.ne_none_iff_exists'.mp (hq p rfl)
    rw [← hc] at hn
    simp only [take, step, hn]
    exact hnote n
  | bind b =>
    rw [← hc] at hphase
    simp only [take, bind, if_neg hphase]
    exact hnote _
  | completed x r =>
    have hx : u.controller.awaited? x.ticket = none :=
      Controller.awaited?_of_idle (hc ▸ hidle) x.ticket
    simp only [take, complete, hx]
    exact hnote _

/-- The step to the request for detach, which makes that request. -/
theorem calls_handle_detach (drv : Driver δ) (hidle : s.controller.inFlight = none)
    {target : ClassHandle} (hlive : s.controller.liveClass = some target)
    (hphase : s.controller.phase.isTerminal = false) :
    (account (handle drv s (.nextPhase .detach)).1).calls =
      s.account.calls ++ [.detach s.controller.config.detachTimeout] := by
  have hb := not_bereft_of_idle hidle
  have hc := (noticed_of_not_bereft hb (.nextPhase .detach)).1.controller
  have hcalls := calls_noticed hb (.nextPhase .detach)
  change (take drv (s.noticed (.nextPhase .detach)) (.nextPhase .detach)).account.calls = _
  generalize s.noticed (.nextPhase .detach) = u at *
  have ho : u.controller.objection? .detach = none := by
    simp [Controller.objection?, hc, hphase, hlive, hidle, Phase.needsClass]
  simp only [take, step, ho, Controller.action, perform]
  have hl : (u.setPhase .detach).controller.liveClass = some target := by
    rw [controller_setPhase, Controller.liveClass_enter, hc, hlive]
  rw [if_neg (by simp), hl]
  dsimp only
  rw [calls_start, account_setPhase, Account.add_watch, hcalls, hc]

/-- While the device stays attached a completion that waits is that of the operation in flight,
unless the upgrade is over. -/
theorem Upholds.awaited {T : Terms} (h : Upholds T s) (hT : T.kept) {rest : List Request}
    (hreq : s.requests = .completed x r :: rest) (hterm : s.controller.phase.isTerminal = false) :
    ∃ target t op i done last,
      Flying T s.controller s.account (.completed x r :: rest) target t op i done last ∧
      x.ticket = op.ticket ∧ s.controller.awaited? x.ticket = some op ∧ ¬Bereft s := by
  have hc := h.course
  rw [hreq] at hc
  cases hc.stage with
  | away hs => exact (hs.kept hT).2.2.not_completed.elim
  | ended hp _ => simp [hp] at hterm
  | opening target hs => exact (hs.kept hT).2.2.2.not_completed.elim
  | posted target t p i hs => exact (hs.kept hT).2.not_completed.elim
  | flying target t op i done last hs =>
    have hpos : 0 < s.account.outstanding (.completed x r :: rest) x := by
      rw [Account.outstanding_cons]
      simp [Request.completion?]
    have hx : x.ticket = op.ticket := by
      by_contra hne
      rw [(hs.kept hT).2.2.2 x hne] at hpos
      exact Nat.lt_irrefl 0 hpos
    refine ⟨target, t, op, i, done, last, hs, hx, ?_, ?_⟩
    · simp [Controller.awaited?, hs.live, hs.inFlight, hx]
    · rintro ⟨op', hop, hlost⟩
      obtain rfl := Option.some.inj (hs.inFlight.symm.trans hop)
      have hz := h.lost op hop hlost
      rw [hreq, ← (hs.eq_completion hx).1] at hz
      omega

end Session

namespace Installation

variable {δ κ : Type} {i j : Installation δ κ}

/-- The moves of a run in which no device is detached. -/
abbrev Attached (m : Move δ) : Prop := m.isDetach = false

/-- A queue after a move in which nobody steps on and no device is detached. -/
def Shifts (m : Move δ) (waiting later : List Request) : Prop :=
  later = waiting ∨
    (∃ q, q.transition? = none ∧ q ≠ .nextPhase .unattached ∧ later = waiting ++ [q]) ∨
    m = .work ∧ ∃ q, waiting = q :: later

theorem Aside.shifts {m : Move δ} {s t : Session δ κ} (h : Aside m s t) (hm : Attached m) :
    t.controller = s.controller ∧ calls t.effects = calls s.effects ∧
      Shifts m s.requests t.requests := by
  refine ⟨h.controller, congrArg Account.calls h.silently.account_eq, ?_⟩
  rcases h.requests with hr | ⟨q, ⟨ht, -, hd⟩, hr⟩
  · exact .inl hr
  · exact .inr (.inl ⟨q, ht, hd hm, hr⟩)

/-- A move of an idle upgrade that is not a possible step changes only the queue. -/
theorem move_idle (drv : Driver δ) {m : Move δ} (hm : Attached m)
    (hidle : i.controller.inFlight = none) (hphase : i.controller.phase ≠ .unattached)
    (hq : m = .work → ∀ p rest, i.session.requests = .nextPhase p :: rest →
      i.controller.objection? p ≠ none) :
    (i.move drv m).controller = i.controller ∧
      calls (i.move drv m).effects = calls i.effects ∧
      Shifts m i.session.requests (i.move drv m).session.requests := by
  cases m with
  | event vendor product host device event =>
    exact (aside_event drv i vendor product host device event).shifts hm
  | drive driver notices => exact (aside_drive drv i driver notices).shifts hm
  | work =>
    rcases i.session_work drv with ⟨-, hs⟩ | ⟨q, hreq, hs⟩
    · exact ⟨congrArg Session.controller hs, congrArg (fun s => (Session.account s).calls) hs,
        .inl (congrArg Session.requests hs)⟩
    · obtain ⟨hc, hr, hcalls⟩ := Session.handle_idle drv
        (s := i.session.dropOldest) (q := q) hidle hphase
        (fun p hp => hq rfl p _ (hp ▸ hreq))
      rw [← hs] at hc hr hcalls
      exact ⟨hc, hcalls, .inr (.inr ⟨rfl, q, by rw [hr, hreq]⟩)⟩
  | complete x r =>
    refine ⟨Session.controller_deliver x r, ?_, ?_⟩
    · refine (congrArg Account.calls (Session.account_deliver (s := i.session) x r)).trans ?_
      rw [Account.add_completed]
      rfl
    · rcases Session.requests_deliver (s := i.session) x r with hr | hr
      · exact .inl hr
      · exact .inr (.inl ⟨_, rfl, by simp, hr⟩)

theorem objection?_attached_ne_none {c : Controller} (hphase : c.phase ≠ .unattached) :
    c.objection? .attached ≠ none := by
  simp [Controller.objection?, hphase]

/-- An upgrade that is over issues nothing more until its device is detached. -/
theorem Run.resting {drv : Driver δ} (h : Run drv Attached i j)
    (hterm : i.controller.phase.isTerminal = true) (hidle : i.controller.inFlight = none)
    (hkept : .nextPhase .unattached ∉ i.session.requests) :
    j.controller = i.controller ∧ calls j.effects = calls i.effects ∧
      .nextPhase .unattached ∉ j.session.requests := by
  induction h with
  | start => exact ⟨rfl, rfl, hkept⟩
  | next m _ hm hh ih =>
    obtain ⟨hc, hcalls, hnot⟩ := ih
    have hphase : i.controller.phase ≠ .unattached := by
      intro hp
      simp [hp, Phase.isTerminal] at hterm
    obtain ⟨hc', hcalls', hreq⟩ := move_idle drv hm (by rw [hc, hidle]) (by rwa [hc])
      (fun _ p rest hp => by
        have hu : p ≠ .unattached := by
          rintro rfl
          exact hnot (hp ▸ List.mem_cons_self)
        rw [hc]
        by_cases ha : p = .attached
        · exact ha ▸ objection?_attached_ne_none hphase
        · simp [Controller.objection?, hu, ha, hterm])
    refine ⟨hc'.trans hc, hcalls'.trans hcalls, ?_⟩
    rcases hreq with hr | ⟨q, -, hq, hr⟩ | ⟨-, q, hr⟩
    · rwa [hr]
    · rw [hr]
      simp [hnot, Ne.symm hq]
    · rw [hr] at hnot
      exact fun hm => hnot (List.mem_cons_of_mem _ hm)

/-- Once the step to it waits, the request for detach is made as soon as the worker comes to it. -/
theorem Run.detach {drv : Driver δ} {T : Terms} (h : Run drv Attached i j) (hT : T.kept)
    (h0 : i.session.Upholds T) (hidle : i.controller.inFlight = none)
    {target : ClassHandle} (hlive : i.controller.liveClass = some target)
    (hphase : i.controller.phase.isTerminal = false ∧ i.controller.phase ≠ .unattached)
    (hwait : transitions i.session.requests = [.detach]) :
    (transitions j.session.requests = [.detach] ∧ j.controller = i.controller ∧
        calls j.effects = calls i.effects) ∨
      calls i.effects ++ [.detach i.controller.config.detachTimeout] <+: calls j.effects := by
  induction h with
  | start => exact .inl ⟨hwait, rfl, rfl⟩
  | next m hrun hm hh ih =>
    rename_i j
    rcases ih with ⟨hw, hc, hcalls⟩ | hpre
    · have hu := hrun.upholds h0 (fun _ hm _ => hm) (.inl hT)
      rw [← hc] at hidle hlive hphase
      by_cases hstep : m = .work ∧ ∃ rest, j.session.requests = .nextPhase .detach :: rest
      · obtain ⟨rfl, rest, hrest⟩ := hstep
        right
        have hcall := Session.calls_handle_detach drv (s := j.session.dropOldest) hidle hlive
          hphase.1
        rw [← (session_work_of_requests drv hrest).1] at hcall
        change _ <+: (Session.account (j.move drv .work).session).calls
        rw [hcall, ← hcalls]
        exact hc ▸ List.prefix_rfl
      · left
        have hhead : ∀ q rest, m = .work → j.session.requests = q :: rest →
            q.transition? = none := by
          intro q rest hwork hreq
          rw [hreq] at hw
          cases ht : q.transition? with
          | none => rfl
          | some p =>
            rw [transitions_cons_of_some ht, List.cons.injEq] at hw
            obtain ⟨rfl, -⟩ := hw
            rw [Request.eq_nextPhase_of_transition? ht] at hreq
            exact (hstep ⟨hwork, rest, hreq⟩).elim
        obtain ⟨hc', hcalls', hshift⟩ := move_idle drv hm hidle hphase.2
          (fun hwork p rest hreq => by
            have ht := hhead _ rest hwork hreq
            have hu : p ≠ .unattached := by
              rintro rfl
              exact hu.course.base.kept hT (hreq ▸ List.mem_cons_self)
            obtain rfl : p = .attached := by
              simpa [Request.transition?, hu] using ht
            exact objection?_attached_ne_none hphase.2)
        refine ⟨?_, hc'.trans hc, hcalls'.trans hcalls⟩
        rcases hshift with hr | ⟨q, ht, -, hr⟩ | ⟨hwork, q, hr⟩
        · rw [hr, hw]
        · rw [hr, transitions_append, hw, transitions_singleton_of_none ht, List.append_nil]
        · rw [← transitions_cons_of_none (hhead q _ hwork hr), ← hr, hw]
    · exact .inr (hpre.trans ((grows_move drv j m).filterMap _))

section
variable {drv : Driver δ} {T : Terms} {x : Completion} {data : Bytes} {rest : List Request}

/-- A reply has queued the step to the request for detach, and so the request is made. -/
theorem Run.detach_of_reply {u : Session δ κ} {op : InFlight} {r : Reply} {target : ClassHandle}
    (h : Run drv Attached i j) (hT : T.kept) (hi : i.session.Upholds T)
    (hw : i.session = (u.settled op x r).post (.nextPhase .detach))
    (hroom : (u.settled op x r).channel.refusal? = none)
    (hphase : u.controller.phase = .getStatusRead) (hlive : u.controller.liveClass = some target)
    (hconfig : u.controller.config = T.config) (hrest : transitions u.requests = []) :
    .nextPhase .detach ∈ j.session.requests ∧ calls j.effects = calls i.effects ∨
      calls i.effects ++ [.detach T.config.detachTimeout] <+: calls j.effects := by
  have halike := Controller.conclude_alike u.controller op x.operation r
  have hd : i.controller = (u.controller.conclude op x.operation r).controller :=
    (congrArg Session.controller hw).trans (by simp)
  have hphase' : i.controller.phase = .getStatusRead := by rw [hd, halike.phase, hphase]
  have hlive' : i.controller.liveClass = some target := by rw [hd, halike.liveClass, hlive]
  have hwait : transitions i.session.requests = [.detach] := by
    rw [hw, Session.requests_post _ hroom, Session.requests_settled, transitions_append, hrest]
    rfl
  rcases h.detach hT hi (hd ▸ halike.inFlight) hlive' (by rw [hphase']; exact ⟨rfl, by simp⟩)
      hwait with ⟨hstill, -, hsame⟩ | hpre
  · exact .inl ⟨mem_of_mem_transitions (hstill ▸ List.mem_singleton_self _), hsame⟩
  · rw [hd, halike.config, hconfig] at hpre
    exact .inr hpre

/-- The worker takes up a completion that is awaited. -/
theorem session_work_completed {r : Reply} (drv : Driver δ)
    (hreq : i.session.requests = .completed x r :: rest) (hlost : ¬i.session.Bereft) :
    ∃ u : Session δ κ, (i.move drv .work).session = u.complete x r ∧
      u.controller = i.session.controller ∧ u.channel = i.channel.dropOldest ∧ u.requests = rest ∧
      u.account.calls = calls i.effects := by
  obtain ⟨hs, hrest⟩ := session_work_of_requests drv hreq
  have hu := (Session.noticed_of_not_bereft (s := i.session.dropOldest) hlost (.completed x r)).1
  exact ⟨_, hs, hu.controller, hu.channel, hu.requests_eq.trans hrest,
    Session.calls_noticed (s := i.session.dropOldest) hlost (.completed x r)⟩

theorem upholds_work_completed {r : Reply} (drv : Driver δ) (h : i.session.Upholds T)
    (hT : T.kept) (hreq : i.session.requests = .completed x r :: rest) :
    (i.move drv .work).session.Upholds T := by
  obtain ⟨hs, hrest⟩ := session_work_of_requests drv hreq
  have hc := h.course
  rw [hreq, ← hrest] at hc
  rw [hs]
  exact Session.upholds_handle drv hc h.sound (.inl hT) fun hq => by simp [Request.completion?] at hq

/-- A reply that is shorter than requested ends the upgrade. -/
theorem short_reply_ends (h : i.session.Upholds T) (hT : T.kept)
    (hreq : i.session.requests = .completed x (.ok data) :: rest)
    (hterm : i.controller.phase.isTerminal = false) {block length : UInt16}
    (hup : (calls i.effects).getLast? = some (.upload block length))
    (hshort : data.size < length.toNat) :
    (i.move drv .work).controller.phase = .error ∧
      (i.move drv .work).controller.lastError =
        some (.verificationMismatch (Attachment.ofEffects i.effects).uploaded.length) ∧
      ∀ j, Run drv Attached (i.move drv .work) j →
        j.controller = (i.move drv .work).controller ∧ calls j.effects = calls i.effects := by
  obtain ⟨target, t, op, n, done, last, hs, hx, haw, hlost⟩ := h.awaited hT hreq hterm
  obtain ⟨u, hw, hc, -, hr, hcalls⟩ := session_work_completed drv hreq hlost
  have hlast := h.course.base.getLast?_calls hT hs.issues
  have hcomplete := Session.calls_complete (s := u) (x := x) (r := .ok data)
  rw [hcalls, ← hw] at hcomplete
  rw [← hc] at haw
  rw [Session.complete_of_error haw
    (hc ▸ hs.short_reply hx (Option.some.inj (hlast.symm.trans hup)) hshort)] at hw
  have hctrl : (i.move drv .work).controller = _ := congrArg Session.controller hw
  have hreqs : (i.move drv .work).session.requests = u.requests :=
    (congrArg Session.requests hw).trans (by simp)
  have hphase : (i.move drv .work).controller.phase = .error := congrArg Controller.phase hctrl
  refine ⟨hphase, congrArg Controller.lastError hctrl, fun j hj => ?_⟩
  have hrest : .nextPhase .unattached ∉ (i.move drv .work).session.requests := by
    rw [hreqs, hr]
    exact fun hm => h.course.base.kept hT (hreq ▸ List.mem_cons_of_mem _ hm)
  obtain ⟨hj', hcalls', -⟩ :=
    hj.resting (by rw [hphase]; rfl) (congrArg Controller.inFlight hctrl) hrest
  exact ⟨hj', hcalls'.trans hcomplete⟩

/-- With the last status check of the read-back the upgrade goes on to the request for detach, or
ends at the first difference. -/
theorem last_status_decides (h : i.session.Upholds T) (hT : T.kept)
    (hreq : i.session.requests = .completed x (.ok data) :: rest)
    (hterm : i.controller.phase.isTerminal = false) {interface : InterfaceHandle}
    (hbound : i.controller.boundInterface = some interface)
    (hend : calls i.effects ++ (Task.mk T.image T.config interface).closing =
      (Task.mk T.image T.config interface).schedule)
    {status : Status} (hs : Status.decode data = .ok status) (hc : status.check = .ok ())
    (hroom : i.channel.dropOldest.refusal? = none) :
    (i.move drv .work).controller.readback = none ∧
    (i.move drv .work).controller.transferred = 0 ∧
    (i.move drv .work).controller.block = 0 ∧
    ((Attachment.ofEffects i.effects).uploaded = T.image.toList →
      (i.move drv .work).session.requests = rest ++ [.nextPhase .detach] ∧
      ∀ j, Run drv Attached (i.move drv .work) j →
        .nextPhase .detach ∈ j.session.requests ∧ calls j.effects = calls i.effects ∨
        calls i.effects ++ [.detach T.config.detachTimeout] <+: calls j.effects) ∧
    ((Attachment.ofEffects i.effects).uploaded ≠ T.image.toList →
      (i.move drv .work).controller.phase = .error ∧
      ∃ n, FirstDifference (Attachment.ofEffects i.effects).uploaded T.image.toList n ∧
        (i.move drv .work).controller.lastError = some (.verificationMismatch n)) := by
  obtain ⟨target, t, op, n, done, last, hf, hx, haw, hlost⟩ := h.awaited hT hreq hterm
  obtain ⟨u, hw, hctrl, hch, hreqs, hcalls⟩ := session_work_completed drv hreq hlost
  have hbase := h.course.base
  obtain rfl : t = ⟨T.image, T.config, interface⟩ := by
    obtain ⟨timage, tconfig, tinterface⟩ := t
    have h1 := hf.leg.image.trans hbase.image
    have h2 := hf.leg.config.trans hbase.config
    have h3 := hf.leg.interface (hf.kept hT).1 interface hbound
    simp_all
  have hissues : i.session.account.attachment.issues.map (·.request) = calls i.effects :=
    (hbase.calls hT).symm
  obtain ⟨hphase, hbuffer, htransferred, hblock, hnext⟩ := hf.last_status hx (hf.kept hT).1
    (by rw [hissues, hend, Task.schedule_eq_agenda]) hs hc
  rw [hbase.image] at hnext
  have hcomplete := Session.calls_complete (s := u) (x := x) (r := .ok data)
  rw [hcalls, ← hw] at hcomplete
  rw [← hctrl] at haw hbuffer htransferred hblock hnext
  rcases hnext with ⟨hok, huploaded⟩ | ⟨m, herror, hdiff⟩
  · have hroom' : (u.settled op x (.ok data)).channel.refusal? = none := by
      rw [Session.channel_settled, hch, hroom]
    rw [Session.complete_of_ok haw hok, Session.advance_of_room _ hroom'] at hw
    have hd : (i.move drv .work).controller =
        (u.controller.conclude op x.operation (.ok data)).controller :=
      (congrArg Session.controller hw).trans (by simp)
    have hr : (i.move drv .work).session.requests = rest ++ [.nextPhase .detach] := by
      rw [hw, Session.requests_post _ hroom', Session.requests_settled, hreqs]
    refine ⟨hd ▸ hbuffer, hd ▸ htransferred, hd ▸ hblock, fun _ => ⟨hr, fun j hj => ?_⟩,
      fun hne => (hne huploaded).elim⟩
    have hnone : transitions u.requests = [] := by
      rw [hreqs]
      exact (hf.kept hT).2.1
    have hfollows := hj.detach_of_reply hT (upholds_work_completed drv h hT hreq) hw hroom'
      (hctrl ▸ hphase) (hctrl ▸ hf.live) (hctrl ▸ hbase.config) hnone
    rwa [show calls (i.move drv .work).effects = calls i.effects from hcomplete] at hfollows
  · rw [Session.complete_of_error haw herror] at hw
    have hd : (i.move drv .work).controller =
        ((u.controller.conclude op x.operation (.ok data)).controller.recordFailure
          (.verificationMismatch m)).enter .error :=
      (congrArg Session.controller hw).trans (by simp)
    rw [hd]
    refine ⟨?_, ?_, ?_, fun heq => (hdiff.ne heq).elim, fun _ => ⟨rfl, m, hdiff, rfl⟩⟩
    · refine (Controller.readback_enter_of_ne _ _ (by simp)).trans ?_
      simp
    · simpa using htransferred
    · simpa using hblock

end

/-- While no device is detached, the end of the read-back goes by the data that came back.

The device is asked to detach only if that is the image. A reply that is shorter than requested
ends the upgrade at the number of bytes received so far, and nothing more is issued. When the last
status check succeeds and the queue has room, the buffer is given up and the counters are zero; if
the data is the image the step to the request for detach waits, and the request is made once the
worker comes to it, and otherwise the upgrade ends at the first difference. -/
theorem readback_decides (drv : Driver δ) (driver : δ) (image : Bytes) (config : Config)
    (h : Run drv Attached (new driver image config) i) :
    (∀ n target timeout x result,
      i.effects[n]? = some (.exchange (.call target (.detach timeout) x result)) →
      calls (i.effects.take n) =
          (Attachment.ofEffects (i.effects.take n)).issues.map (·.request) ∧
        (Attachment.ofEffects (i.effects.take n)).uploaded = image.toList) ∧
    (∀ x data rest block length, i.session.requests = .completed x (.ok data) :: rest →
      i.controller.phase.isTerminal = false →
      (calls i.effects).getLast? = some (.upload block length) → data.size < length.toNat →
      (i.move drv .work).controller.phase = .error ∧
      (i.move drv .work).controller.lastError =
        some (.verificationMismatch (Attachment.ofEffects i.effects).uploaded.length) ∧
      ∀ j, Run drv Attached (i.move drv .work) j →
        j.controller = (i.move drv .work).controller ∧ calls j.effects = calls i.effects) ∧
    (∀ x data rest status interface, i.session.requests = .completed x (.ok data) :: rest →
      i.controller.phase.isTerminal = false → i.controller.boundInterface = some interface →
      calls i.effects ++ (Task.mk image config interface).closing =
        (Task.mk image config interface).schedule →
      Status.decode data = .ok status → status.check = .ok () →
      i.channel.dropOldest.refusal? = none →
      (i.move drv .work).controller.readback = none ∧
      (i.move drv .work).controller.transferred = 0 ∧
      (i.move drv .work).controller.block = 0 ∧
      ((Attachment.ofEffects i.effects).uploaded = image.toList →
        (i.move drv .work).session.requests = rest ++ [.nextPhase .detach] ∧
        ∀ j, Run drv Attached (i.move drv .work) j →
          .nextPhase .detach ∈ j.session.requests ∧ calls j.effects = calls i.effects ∨
          calls i.effects ++ [.detach config.detachTimeout] <+: calls j.effects) ∧
      ((Attachment.ofEffects i.effects).uploaded ≠ image.toList →
        (i.move drv .work).controller.phase = .error ∧
        ∃ n, FirstDifference (Attachment.ofEffects i.effects).uploaded image.toList n ∧
          (i.move drv .work).controller.lastError = some (.verificationMismatch n))) := by
  have hu := h.upholds (T := ⟨image, config, True⟩) (upholds_new driver image config _)
    (fun _ hm _ => hm) (.inl trivial)
  refine ⟨fun n target timeout x result hn => ?_, fun x data rest block length hreq hterm hup => ?_,
    fun x data rest status interface hreq hterm hbound hend hs hc => ?_⟩
  · obtain ⟨-, hcalls, hdetach⟩ := hu.sound n _ hn trivial
    exact ⟨hcalls, hdetach rfl⟩
  · exact short_reply_ends hu trivial hreq hterm hup
  · exact last_status_decides hu trivial hreq hterm hbound hend hs hc

/-- The reply to the last status check of the read-back waits. -/
def lastReply : Installation Nat Unit :=
  (blank 7).moves obliging (ordinaryTransfer 7 ++ [.complete ⟨6, .getStatus⟩ (.ok wellStatus)])

theorem lastReply_readback_decides :
    (lastReply.move obliging .work).controller.readback = none ∧
      (lastReply.move obliging .work).session.requests = [.nextPhase .detach] := by
  have h := (readback_decides (i := lastReply) obliging 0 #[7] .standard
    (.of_plays (by decide +kernel))).2.2 ⟨6, .getStatus⟩ wellStatus []
      (Status.ofCode 0 Status.dfuIdle) Accelerator.interface (by decide +kernel)
      (by decide +kernel) (by decide +kernel) (by decide +kernel) (by decide +kernel)
      (by decide +kernel) (by decide +kernel)
  exact ⟨h.1, (h.2.2.2.1 (by decide +kernel)).1⟩

end Installation

end FirmwareUpgrade
