import FirmwareUpgrade.Proofs.Course

/-!
# How the course goes on

For each way in which the handling of a request changes the controller it is shown here that the
course is kept: failure, the detach of the device, the attach of one, the start of an operation and
its success.
-/
namespace FirmwareUpgrade

namespace Controller

theorem awaited?_eq_some_iff {c : Controller} {ticket : UInt32} {op : InFlight} :
    c.awaited? ticket = some op ↔
      c.liveClass ≠ none ∧ c.inFlight = some op ∧ op.ticket = ticket := by
  unfold awaited?
  cases c.liveClass <;> simp [Option.filter_eq_some_iff]

theorem awaited?_of_idle {c : Controller} (h : c.inFlight = none) (ticket : UInt32) :
    c.awaited? ticket = none := by
  unfold awaited?
  cases c.liveClass <;> simp [h]

/-- A step in the course of an upgrade is made only from a phase that can be left, with a class
handle where one is needed and nothing in flight. -/
theorem objection?_eq_none {c : Controller} {p : Phase} (hu : p ≠ .unattached)
    (ha : p ≠ .attached) (h : c.objection? p = none) :
    c.phase.isTerminal = false ∧ ¬(p.needsClass = true ∧ c.liveClass = none) ∧
      c.inFlight = none := by
  simp only [objection?, hu, ha, false_and, if_false] at h
  split at h
  · simp at h
  · rename_i ht
    split at h
    · simp at h
    · rename_i hn
      exact ⟨by simpa using ht, hn, by simpa using h⟩

/-- A device attaches only where none is. -/
theorem phase_of_objection?_eq_none {c : Controller} (h : c.objection? .attached = none) :
    c.phase = .unattached := by
  by_contra hne
  simp [objection?, hne] at h

theorem objection?_ne_verified {c : Controller} {p : Phase} {n : Notice}
    (h : c.objection? p = some n) : n ≠ .verified := by
  rintro rfl
  unfold objection? at h
  split at h
  · simp at h
  · split at h
    · simp at h
    · split at h
      · simp at h
      · split at h <;> simp at h

theorem of_objection?_eq_some {c : Controller} {p : Phase} {n : Notice} (ha : p ≠ .attached)
    (h : c.objection? p = some n) :
    c.liveClass = none ∨ c.inFlight ≠ none ∨ c.phase.isTerminal = true := by
  simp only [objection?, ha, false_and, if_false] at h
  split at h
  · simp at h
  · split at h
    · exact .inr (.inr ‹_›)
    · split at h
      · exact .inl (And.right ‹_›)
      · obtain ⟨op, hop, -⟩ := Option.map_eq_some_iff.mp h
        exact .inr (.inl (by simp [hop]))

/-- The next phase after a success is one of an upgrade under way, and a transfer only if there is
something to transfer. -/
theorem Succeeds.postable {c d : Controller} {op : InFlight} {data : Bytes} {p : Phase}
    {equal : Bool} (h : Succeeds c op data p d equal) :
    p ≠ .unattached ∧ p ≠ .attached ∧ p ≠ .error ∧ (p = .transfer → c.image.size ≠ 0) := by
  cases h with
  | getStatus s hphase hs hc =>
    have hr : c.remaining = 0 ∨ c.image.size ≠ 0 := by
      unfold remaining
      omega
    split <;> simp_all
  | detach hphase => split <;> simp
  | _ => simp

theorem conclude_postable {c : Controller} {op : InFlight} {operation : Operation} {r : Reply}
    {p : Phase} (h : (c.conclude op operation r).next = .ok p) :
    p ≠ .unattached ∧ p ≠ .attached ∧ p ≠ .error ∧ (p = .transfer → c.image.size ≠ 0) := by
  cases r with
  | error cause => simp [conclude] at h
  | ok data =>
    have hs : Succeeds { c with inFlight := none } op data p _ _ := succeeds_of_ok h
    exact hs.postable

end Controller

section
variable {T : Terms} {c d : Controller} {k : Account} {waiting : List Request} {q : Request}

theorem Base.alike (h : Base T c k waiting) (hd : c.Alike d) : Base T d k waiting where
  image := hd.image.trans h.image
  config := hd.config.trans h.config
  next := hd.nextTicket.trans h.next
  drawn := h.drawn
  handed := h.handed
  postable := h.postable
  kept := h.kept
  calls := h.calls
  schedule := hd.boundInterface ▸ h.schedule

/-- Only the operations themselves count, and nothing else of the attachment. -/
theorem Base.reattach (h : Base T c k waiting) {a : Attachment}
    (ha : a.issues = k.attachment.issues) : Base T c { k with attachment := a } waiting :=
  ⟨h.image, h.config, h.next, h.drawn, h.handed, h.postable, h.kept,
    fun hT => (h.calls hT).trans (by rw [ha]), h.schedule⟩

theorem Attachment.issues_watch (a : Attachment) (p : Phase) :
    (a.observe (.watch p)).issues = a.issues := by
  simp only [observe]
  split <;> rfl

theorem Base.watch (h : Base T c k waiting) (p : Phase) : Base T c (k.add (.watch p)) waiting := by
  rw [Account.add_watch]
  exact h.reattach (k.attachment.issues_watch p)

theorem Base.enter (h : Base T c k waiting) (p : Phase) : Base T (c.enter p) k waiting := by
  refine ⟨?_, ?_, ?_, h.drawn, h.handed, h.postable, h.kept, h.calls, ?_⟩
  · simpa using h.image
  · simpa using h.config
  · simpa using h.next
  · simpa using h.schedule

/-! ## Failure and detach -/

/-- A failure ends every upgrade. -/
theorem Base.fail (h : Base T c k waiting) (cause : UpgradeError) :
    Course T ((c.recordFailure cause).enter .error) (k.add (.watch .error)) waiting where
  base := by
    have hw := h.watch .error
    refine ⟨?_, ?_, ?_, hw.drawn, hw.handed, hw.postable, hw.kept, hw.calls, ?_⟩
    · simpa using h.image
    · simpa using h.config
    · simpa using hw.next
    · simpa using hw.schedule
  stage := .ended (by simp [Phase.isTerminal]) (by simp)

/-- Nothing of the device is left once it is detached. -/
theorem Course.release (h : Course T c k (.nextPhase .unattached :: waiting)) :
    Course T ((Controller.forgetDevice { c with liveClass := none }).enter .unattached)
      (k.add (.watch .unattached)) waiting where
  base := by
    have hw := h.base.drop.watch .unattached
    have hT : ¬T.kept := fun hT => h.base.kept hT (List.mem_cons_self ..)
    refine ⟨?_, ?_, ?_, hw.drawn, hw.handed, hw.postable, hw.kept, hw.calls, fun hk => absurd hk hT⟩
    · simpa using h.base.image
    · simpa using h.base.config
    · simpa using hw.next
  stage := by
    refine .away ⟨by simp, ?_, ?_, ?_, fun hk => ?_⟩
    · simp
    · simp
    · rw [Controller.readback_enter_of_ne _ _ (by simp)]
      simp
    · exact absurd (List.mem_cons_self ..) (h.base.kept hk)

/-! ## Attach -/

theorem Stage.away_of_phase (h : Stage T c k waiting) (hp : c.phase = .unattached) :
    Away T c k waiting := by
  cases h with
  | away hs => exact hs
  | ended ht => simp [hp, Phase.isTerminal] at ht
  | opening target hs => rcases hs.phase with ho | ⟨ho, -⟩ <;> simp [hp] at ho
  | posted target t p i hs => exact absurd hp hs.phase.1
  | flying target t op i done last hs =>
    have ha := hs.action
    simp [hp, Controller.action] at ha

theorem Course.bind {b : Binding} (h : Course T c k (.bind b :: waiting)) (hp : c.phase = .unattached) :
    Course T (c.bind b.host b.device b.interface) k waiting := by
  have hd := h.drop (.inl rfl)
  have hs := hd.stage.away_of_phase hp
  refine ⟨⟨hd.base.image, hd.base.config, hd.base.next, hd.base.drawn, hd.base.handed,
    hd.base.postable, hd.base.kept, hd.base.calls, fun hT hc => ?_⟩,
    .away ⟨hs.phase, hs.live, hs.idle, hs.buffer, hs.kept⟩⟩
  exact absurd (hs.kept hT).2.1 hc

/-- The class driver was initialised on a new device. -/
theorem Base.initialise (h : Base T c k waiting) (hk : T.kept → k.calls = [])
    (device : DeviceHandle) (target : ClassHandle) :
    Base T (c.startOver target) (k.add (.exchange (.init device (.ok target)))) waiting := by
  rw [Account.add_init]
  exact ⟨h.image, h.config, h.next, h.drawn, h.handed, h.postable, h.kept, hk,
    fun hT hc => absurd (hk hT) hc⟩

theorem Base.postStep (h : Base T c k waiting) {p : Phase} (hu : p ≠ .unattached)
    (he : p ≠ .error) (ht : p = .transfer → T.image.size ≠ 0) :
    Base T c k (waiting ++ [.nextPhase p]) := by
  refine h.post rfl (fun r hr => ?_) (by simp [hu])
  by_cases ha : p = .attached
  · simp [Request.transition?, ha] at hr
  · simp only [Request.transition?, hu, ha, or_self, if_false, Option.some.injEq] at hr
    exact hr ▸ ⟨he, ht⟩

theorem transitions_step {p : Phase} (hu : p ≠ .unattached) (ha : p ≠ .attached) :
    transitions [.nextPhase p] = [p] := by
  simp [transitions, Request.transition?, hu, ha]

theorem Course.initialise (h : Course T c k (.nextPhase .attached :: waiting))
    (hp : c.phase = .unattached) (device : DeviceHandle) (target : ClassHandle) :
    Base T ((c.enter .attached).startOver target)
        ((k.add (.watch .attached)).add (.exchange (.init device (.ok target)))) waiting ∧
      Course T ((c.enter .attached).startOver target)
        ((k.add (.watch .attached)).add (.exchange (.init device (.ok target))))
        (waiting ++ [.nextPhase .setInterface]) := by
  have hd := h.drop (.inl rfl)
  have hs := hd.stage.away_of_phase hp
  have hcalls : T.kept → k.calls = [] := fun hT => (hs.kept hT).2.1
  have he : c.enter .attached = { c with phase := .attached, watch := .attached } := rfl
  have hc : Base T (c.enter .attached) (k.add (.watch .attached)) waiting :=
    (hd.base.watch .attached).enter .attached
  have hb := hc.initialise (by rwa [Account.add_watch]) device target
  refine ⟨hb, hb.postStep (by simp) (by simp) (by simp), ?_⟩
  rw [Account.add_init, Account.add_watch, he]
  refine .opening target ⟨.inl rfl, rfl, hs.idle, rfl, rfl, rfl, rfl, rfl, fun b hb => ?_,
    fun hT => ?_⟩
  · simp [Controller.startOver, Controller.resetCounters, hs.buffer] at hb
  · obtain ⟨h1, h2, h3⟩ := hs.kept hT
    refine ⟨rfl, ?_, h2, ?_⟩
    · rw [transitions_append, h1, transitions_step (by simp) (by simp), List.nil_append]
    · have hq := h3.post (q := .nextPhase .setInterface) rfl
      exact ⟨hq.fulfilled, hq.outstanding⟩

/-! ## The entry of a phase -/

/-- A phase of an upgrade under way was entered, and its work is still to be begun. -/
structure Arrived (T : Terms) (c : Controller) (k : Account) (waiting : List Request)
    (target : ClassHandle) (t : Task) (p : Phase) (i : Nat) : Prop where
  phase : c.phase = p
  live : c.liveClass = some target
  idle : c.inFlight = none
  bound : k.attachment.target = some target
  leg : c.Leg t target k.attachment.opening k.attachment.issues k.attachment.compared p i
  alone : k.attachment.issues = [] ∨ transitions waiting = []
  buffer : p = .readBack → c.readback.isSome
  kept : T.kept → k.attachment.opening = .setInterface ∧ transitions waiting = [] ∧
    (k.attachment.issues = [] → p = .setInterface) ∧ k.Quiet waiting

/-- A step that the controller makes leads into a phase that was asked for in the course of this
attachment, or with which this attachment opens. -/
theorem Course.arrive {p : Phase} (h : Course T c k (.nextPhase p :: waiting))
    (hn : p.needsClass = true) (hopen : c.phase.isTerminal = false) (hidle : c.inFlight = none)
    (hlive : c.liveClass ≠ none) :
    ∃ target t i, Arrived T (c.enter p) (k.add (.watch p)) waiting target t p i := by
  have hu : p ≠ .unattached := by
    rintro rfl
    simp [Phase.needsClass] at hn
  have ha : p ≠ .attached := by
    rintro rfl
    simp [Phase.needsClass] at hn
  have htr : (Request.nextPhase p).transition? = some p := by simp [Request.transition?, hu, ha]
  have hpost := h.base.postable p (by rw [transitions_cons_of_some htr]; exact List.mem_cons_self)
  have hbuf : p = .readBack → (c.enter p).readback.isSome := by
    rintro rfl
    simp [Controller.readback_enter_readBack]
  rw [Account.add_watch]
  cases h.stage with
  | away hs => exact (hlive hs.live).elim
  | ended hp hi => simp [hp] at hopen
  | flying target t op i done last hs => simp [hs.inFlight] at hidle
  | opening target hs =>
    have hw : k.attachment.observe (.watch p) = { k.attachment with opening := p } := by
      simp [Attachment.observe, hs.issues]
    rw [hw]
    have hleg : Controller.Leg c _ target p [] false p 0 := .first hn
      (by rw [h.base.image]; exact hpost.2) hs.transferred hs.block hs.buffer
    refine ⟨target, _, 0, by simp, by simpa using hs.live, by simpa using hs.idle, hs.bound,
      by simpa only [hs.issues, hs.compared] using hleg.enter, .inl hs.issues, hbuf, fun hT => ?_⟩
    obtain ⟨-, h2, -, h4⟩ := hs.kept hT
    rw [transitions_cons_of_some htr] at h2
    simp only [List.cons.injEq] at h2
    have hq := h4.drop
    exact ⟨h2.1, h2.2, fun _ => h2.1, hq.fulfilled, hq.outstanding⟩
  | posted target t r i hs =>
    have hw : k.attachment.observe (.watch p) = k.attachment := by
      simp [Attachment.observe, hs.issues]
    have hts := hs.transitions
    rw [transitions_cons_of_some htr] at hts
    simp only [List.cons.injEq] at hts
    obtain ⟨rfl, hts⟩ := hts
    rw [hw]
    refine ⟨target, t, i, by simp, by simpa using hs.live, by simpa using hs.idle, hs.bound,
      hs.leg.enter, .inr hts, hbuf, fun hT => ?_⟩
    obtain ⟨h1, h2⟩ := hs.kept hT
    exact ⟨h1, hts, fun hi => absurd hi hs.issues, h2.drop⟩

/-- As long as fewer than `2 ^ 32` operations were issued, the next ticket is a new one. -/
theorem Base.fresh (h : Base T c k waiting) (hk : k.issued.length < 2 ^ 32) {x : Completion}
    (hx : x.ticket = c.nextTicket) : k.outstanding waiting x = 0 := by
  have hnot : x ∉ k.issued := by
    intro hm
    obtain ⟨n, hn, ht⟩ := h.drawn x hm
    rw [hx, h.next] at ht
    have ht := congrArg UInt32.toNat ht
    rw [UInt32.toNat_ofNat', UInt32.toNat_ofNat', Nat.mod_eq_of_lt hk,
      Nat.mod_eq_of_lt (hn.trans hk)] at ht
    omega
  have hheld : k.held x = 0 := by
    by_contra hne
    exact hnot (Account.mem_issued_of_held (Nat.pos_of_ne_zero hne))
  have hwait : waiting.countP (·.completion? = some x) = 0 := by
    refine List.countP_eq_zero.mpr fun q hq hc => ?_
    cases q with
    | completed y r =>
      simp only [Request.completion?, Option.some.injEq, decide_eq_true_eq] at hc
      subst hc
      exact hnot (h.handed y r hq)
    | _ => simp [Request.completion?] at hc
  unfold Account.outstanding
  rw [hheld, hwait]

namespace Arrived

variable {target : ClassHandle} {t : Task} {p : Phase} {i : Nat} {request : ClassCall}
  {length : Nat}

theorem boundInterface_eq (h : Arrived T c k waiting target t p i) (hb : Base T c k waiting)
    (hT : T.kept) (ha : c.action p = .start request length) :
    c.boundInterface = some t.interface := by
  obtain ⟨ho, -, hp, -⟩ := h.kept hT
  by_cases hi : k.attachment.issues = []
  · rw [hp hi] at ha
    simp only [Controller.action] at ha
    split at ha
    · rename_i x hx
      rw [hx, h.leg.interface ho x hx]
    · simp at ha
  · have hc : k.calls ≠ [] := by
      rw [hb.calls hT]
      simpa using hi
    obtain ⟨x, hx, -⟩ := hb.schedule hT hc
    rw [hx, h.leg.interface ho x hx]

/-- The operation that a phase starts is the next one of the schedule. -/
theorem base_call (h : Arrived T c k waiting target t p i) (hb : Base T c k waiting)
    (ha : c.action p = .start request length) (result : Except UsbError Unit) :
    Base T (c.begin request.operation length).1
      (k.add (.exchange (.call target request ⟨c.nextTicket, request.operation⟩ result)))
      waiting := by
  rw [Account.add_call]
  refine ⟨hb.image, hb.config, ?_, fun x hx => ?_, fun x r hm => ?_, hb.postable, hb.kept,
    fun hT => ?_, fun hT _ => ?_⟩
  · rw [List.length_append, UInt32.ofNat_add, ← hb.next]
    rfl
  · rw [List.length_append]
    rcases List.mem_append.mp hx with hx | hx
    · obtain ⟨n, hn, ht⟩ := hb.drawn x hx
      exact ⟨n, by omega, ht⟩
    · rw [List.mem_singleton.mp hx]
      exact ⟨k.issued.length, by simp, hb.next⟩
  · exact List.mem_append_left _ (hb.handed x r hm)
  · simp [Attachment.observe, hb.calls hT]
  · refine ⟨t.interface, h.boundInterface_eq hb hT ha, ?_⟩
    obtain ⟨q, j, hstep⟩ := h.leg.step_of_start ha
    obtain ⟨ho, -⟩ := h.kept hT
    have ht : Task.mk T.image T.config t.interface = t := by
      rw [← hb.image, ← hb.config, ← h.leg.image, ← h.leg.config]
    refine ⟨t.agenda q j, ?_⟩
    rw [ht, Task.schedule_eq_agenda, ← ho, ← h.leg.calls, hstep.agenda, hb.calls hT]
    simp

/-- An accepted operation is in flight. -/
theorem flying (h : Arrived T c k waiting target t p i) (hb : Base T c k waiting)
    (ha : c.action p = .start request length) (hk : T.kept ∨ k.issued.length < 2 ^ 32) :
    Flying T (c.begin request.operation length).1
      (k.add (.exchange (.call target request ⟨c.nextTicket, request.operation⟩ (.ok ()))))
      waiting target t ⟨c.nextTicket, request.operation, length⟩ i k.attachment.issues
      ⟨target, request, ⟨c.nextTicket, request.operation⟩, true, none⟩ := by
  have hfresh : ∀ x, x.ticket = c.nextTicket → k.outstanding waiting x = 0 := by
    intro x hx
    rcases hk with hT | hk
    · exact (h.kept hT).2.2.2.outstanding x
    · exact hb.fresh hk hx
  have hout : ∀ x, (k.add (.exchange (.call target request ⟨c.nextTicket, request.operation⟩
      (.ok ())))).outstanding waiting x ≤
      k.outstanding waiting x + if x = ⟨c.nextTicket, request.operation⟩ then 1 else 0 := by
    intro x
    rw [Account.add_call]
    simp only [Account.outstanding, Account.held, List.count_append, List.count_singleton,
      beq_iff_eq, eq_comm (b := x)]
    omega
  have hnone : ∀ x r, .completed x r ∈ waiting → x.ticket ≠ c.nextTicket := by
    intro x r hm hx
    have hz := hfresh x hx
    have hpos : 0 < waiting.countP (·.completion? = some x) :=
      List.countP_pos_iff.mpr ⟨_, hm, by simp [Request.completion?]⟩
    unfold Account.outstanding at hz
    omega
  have hp : (c.begin request.operation length).1.phase = p := h.phase
  refine ⟨h.live, rfl, h.bound, rfl, rfl, rfl, rfl, ?_, ?_, ?_, fun x hx => ?_,
    fun hr => absurd rfl hr, fun x r hm hx => absurd hx (hnone x r hm), ?_, fun hT => ?_⟩
  · rw [hp]
    exact h.leg.congr rfl rfl rfl rfl rfl rfl
  · rw [hp]
    exact ha
  · rw [hp]
    exact h.buffer
  · have hle := hout x
    rwa [hfresh x hx, Nat.zero_add] at hle
  · refine List.pairwise_of_forall_mem_list fun q hq r _ hc => ?_
    cases q with
    | completed y s =>
      simp only [Request.completion?, Option.some.injEq] at hc
      exact absurd (by rw [hc]; rfl) (hnone y s hq)
    | _ => simp [Request.completion?] at hc
  · obtain ⟨h1, h2, -, h4⟩ := h.kept hT
    refine ⟨h1, h2, ?_, fun x hx => ?_⟩
    · rw [Account.add_call]
      exact congrArg (· ++ _) h4.fulfilled
    · have hne : x ≠ ⟨c.nextTicket, request.operation⟩ := by
        rintro rfl
        exact hx rfl
      have hle := hout x
      rw [if_neg hne, h4.outstanding] at hle
      exact Nat.le_zero.mp hle

/-- A phase that is skipped asks for the next one at once. -/
theorem skip (h : Arrived T c k waiting target t .readBack i) (hc : c.chunkLength = 0) :
    Stage T c k (waiting ++ [.nextPhase .getStatusRead]) := by
  obtain ⟨rfl, hn, hleg⟩ := h.leg.skip hc (h.buffer rfl)
  have hts : transitions (waiting ++ [.nextPhase .getStatusRead]) =
      transitions waiting ++ [.getStatusRead] := by
    rw [transitions_append, transitions_step (by simp) (by simp)]
  by_cases hi : k.attachment.issues = []
  · have hz : c.image.size = 0 := by rwa [Task.blockCount_eq_zero_iff, h.leg.image] at hn
    refine .opening target ⟨.inr ⟨h.phase, hz⟩, h.live, h.idle, h.bound, hi,
      h.leg.place.2.compared, by simp [h.leg.transferred], h.leg.block,
      fun b hb => (h.leg.place.2.buffer b hb).1, fun hT => ?_⟩
    have hp := (h.kept hT).2.2.1 hi
    simp at hp
  · have hw : transitions waiting = [] := h.alone.resolve_left hi
    refine .posted target t .getStatusRead 0 ⟨by simp [h.phase, Phase.isTerminal], h.live, h.idle,
      h.bound, hi, by rw [hts, hw]; rfl, hleg, fun hT => ?_⟩
    obtain ⟨h1, -, -, h4⟩ := h.kept hT
    exact ⟨h1, h4.post rfl⟩

theorem finish (h : Arrived T c k waiting target t .complete i) (hb : Base T c k waiting) :
    Course T { c with liveClass := none } k waiting where
  base := ⟨hb.image, hb.config, hb.next, hb.drawn, hb.handed, hb.postable, hb.kept, hb.calls,
    hb.schedule⟩
  stage := .ended (by simp [h.phase, Phase.isTerminal]) h.idle

/-- The device is asked to detach when the whole image came back, if the upgrade began at its
beginning. -/
theorem uploaded_eq (h : Arrived T c k waiting target t p i) (hb : Base T c k waiting)
    (ho : k.attachment.opening = .setInterface) (ha : c.action p = .start request length)
    (hd : request.operation = .detach) : k.attachment.uploaded = T.image.toList := by
  obtain rfl : p = .detach := by
    cases p <;> simp only [Controller.action] at ha <;> (try split at ha) <;>
      simp only [Action.start.injEq, reduceCtorEq] at ha <;> (obtain ⟨rfl, -⟩ := ha) <;>
      simp [ClassCall.operation] at hd ⊢
  rw [k.attachment.uploaded_of_succeeded h.bound h.leg.succeeded, ← hb.image]
  have hclose : c.Closing _ _ _ := h.leg.place
  rcases hclose with ⟨hc, -⟩ | ⟨-, -, hback⟩
  · simp [ho, Phase.isClosing] at hc
  · exact hback

/-- An upgrade that comes to its end went through the whole image exactly if it began early
enough. -/
theorem justified_iff (h : Arrived T c k waiting target t .complete i) (hb : Base T c k waiting) :
    k.attachment.Justified T.image ↔ Attachment.Early T.image k.attachment.opening := by
  have hclose : c.Closing _ _ _ := h.leg.place
  have hcalls := h.leg.calls
  have hwork := h.leg.working
  have himage : t.image = T.image := h.leg.image.trans hb.image
  unfold Attachment.Justified
  rw [k.attachment.uploaded_of_succeeded h.bound h.leg.succeeded,
    k.attachment.downloaded_of_succeeded h.bound h.leg.succeeded, ← hb.image]
  have hend : t.agenda .complete i = [] := rfl
  rw [hend, List.append_nil] at hcalls
  rw [hcalls, t.payload_agenda, h.leg.image]
  rcases hclose with ⟨hc, hcmp⟩ | ⟨hc, hcmp, hback⟩
  · simp only [hcmp, Bool.false_eq_true, and_false, false_iff]
    cases ho : k.attachment.opening <;> simp [ho, Phase.isClosing] at hc <;>
      exact not_false
  · simp only [hcmp, hback, and_true]
    cases ho : k.attachment.opening <;> simp only [ho, Phase.isClosing, Phase.needsClass,
      reduceCtorEq] at hc hwork <;> simp [Attachment.Early, eq_comm]

end Arrived

/-! ## The end of an operation -/

section
variable {target : ClassHandle} {t : Task} {op : InFlight} {i : Nat} {done : List Issue}
  {last : Issue} {x : Completion} {r : Reply}

/-- The completion of the operation in flight is the only one of it, and no step waits behind
it. -/
theorem Flying.eq_completion (h : Flying T c k (.completed x r :: waiting) target t op i done last)
    (hx : x.ticket = op.ticket) :
    x = op.completion ∧ transitions waiting = [] ∧ k.outstanding waiting x = 0 := by
  have ho := h.own x hx
  rw [Account.outstanding_cons, Request.completion?, if_pos rfl] at ho
  have hxc : x = op.completion := by
    by_contra hne
    rw [if_neg hne] at ho
    omega
  rw [if_pos hxc] at ho
  refine ⟨hxc, List.filterMap_eq_nil_iff.mpr fun q hq => ?_, by omega⟩
  exact (List.pairwise_cons.mp h.behind).1 q hq (by rw [Request.completion?, hxc])

theorem Base.conclude {x : Completion} {r : Reply} (h : Base T c k (.completed x r :: waiting))
    (op : InFlight) (notices : List Notice) :
    Base T (c.conclude op x.operation r).controller
      ((k.add (.taken (.completed x r))).addNotices notices) waiting := by
  have hb : Base T { c with inFlight := none } (k.add (.taken (.completed x r))) waiting :=
    { h.drop.taken _ with }
  exact (hb.alike (Controller.conclude_alike c op x.operation r)).reattach rfl

/-- With the success of the operation in flight the step to the next phase is due. -/
theorem Flying.conclude (h : Flying T c k (.completed x r :: waiting) target t op i done last)
    (hx : x.ticket = op.ticket) {p : Phase} (hp : (c.conclude op x.operation r).next = .ok p) :
    ∃ j, Posted T (c.conclude op x.operation r).controller
      ((k.add (.taken (.completed x r))).addNotices (c.conclude op x.operation r).notices)
      (waiting ++ [.nextPhase p]) target t p j := by
  obtain ⟨hxc, hw, hout⟩ := h.eq_completion hx
  have hreply := h.reply x r List.mem_cons_self hx
  have halike := Controller.conclude_alike c op x.operation r
  have hphase : c.phase ≠ .unattached ∧ c.phase.isTerminal = false := by
    have ha := h.action
    cases hcp : c.phase <;> simp_all [Controller.action, Phase.isTerminal]
  cases r with
  | error cause => simp [Controller.conclude] at hp
  | ok data =>
    have hlast : last.Succeeded target := ⟨h.addressed, h.accepted, data, hreply⟩
    have hs : Controller.Succeeds { c with inFlight := none } op data p _ _ :=
      Controller.succeeds_of_ok hp
    obtain ⟨hu, ha, -⟩ := Controller.conclude_postable hp
    have hleg : Controller.Leg { c with inFlight := none } t target k.attachment.opening done
        k.attachment.compared c.phase i := h.leg.congr rfl rfl rfl rfl rfl rfl
    obtain ⟨j, -, hleg⟩ := hleg.succeed h.action hreply hlast h.buffer hs
    rw [Account.add_taken]
    refine ⟨j, by rwa [halike.phase], halike.liveClass.trans h.live, halike.inFlight, h.bound, ?_,
      ?_, ?_, fun hT => ?_⟩
    · simp [Account.addNotices, h.issues]
    · rw [transitions_append, hw, transitions_step hu ha, List.nil_append]
    · simp only [Account.addNotices, h.issues]
      exact hleg
    · obtain ⟨h1, -, h3, h4⟩ := h.kept hT
      refine ⟨h1, ?_, fun y => ?_⟩
      · simp only [Account.addNotices, Effect.fulfilled?, Option.toList, hxc]
        exact h3
      · rw [Account.outstanding_append]
        simp only [List.countP_singleton, Request.completion?, reduceCtorEq, decide_false,
          Bool.false_eq_true, if_false, Nat.add_zero]
        change k.outstanding waiting y = 0
        have hle := k.outstanding_le_cons waiting (.completed x (.ok data)) y
        by_cases hy : y.ticket = op.ticket
        · by_cases hyc : y = op.completion
          · rw [hyc, ← hxc, hout]
          · have ho := h.own y hy
            rw [if_neg hyc] at ho
            omega
        · rw [h4 y hy] at hle
          exact Nat.le_zero.mp hle

theorem Stage.flying_of_inFlight (h : Stage T c k waiting) (hi : c.inFlight = some op) :
    ∃ target t i done last, Flying T c k waiting target t op i done last := by
  cases h with
  | away hs => simp [hs.idle] at hi
  | ended _ hidle => simp [hidle] at hi
  | opening target hs => simp [hs.idle] at hi
  | posted target t p i hs => simp [hs.idle] at hi
  | flying target t op' i done last hs =>
    obtain rfl := Option.some.inj (hs.inFlight.symm.trans hi)
    exact ⟨target, t, i, done, last, hs⟩

theorem Course.conclude (h : Course T c k (.completed x r :: waiting))
    (hx : c.awaited? x.ticket = some op) {p : Phase}
    (hp : (c.conclude op x.operation r).next = .ok p) :
    Course T (c.conclude op x.operation r).controller
      ((k.add (.taken (.completed x r))).addNotices (c.conclude op x.operation r).notices)
      (waiting ++ [.nextPhase p]) := by
  obtain ⟨-, hi, ht⟩ := Controller.awaited?_eq_some_iff.mp hx
  obtain ⟨target, t, i, done, last, hs⟩ := h.stage.flying_of_inFlight hi
  obtain ⟨j, hpost⟩ := hs.conclude ht.symm hp
  obtain ⟨hu, -, he, htr⟩ := Controller.conclude_postable hp
  rw [h.base.image] at htr
  exact ⟨(h.base.conclude op _).postStep hu he htr, .posted target t p j hpost⟩

end

end

end FirmwareUpgrade
