import FirmwareUpgrade.Proofs.Advance

/-!
# What a request finds and what it leads to

A request is taken up in two steps. The controller first looks for a completion that was lost since
the last request: if it is that of the operation in flight, the upgrade fails, and any other is only
reported. `Outcome` then lists every way in which it can deal with the request, each with the guards
under which it is taken. `outcome_handle` is the only place where the handling of a request is taken
apart: what a request preserves is shown by cases on its outcome.
-/
namespace FirmwareUpgrade

namespace Phase

/-- The operation that a phase consists of. -/
def operation? : Phase → Option Operation
  | setInterface => some .setInterface
  | getStatus | getStatusRead | checkStatus => some .getStatus
  | transfer | zeroLengthTransfer => some .dnload
  | readBack => some .upload
  | detach => some .detach
  | unattached | attached | complete | error => none

theorem needsClass_of_operation? {p : Phase} {operation : Operation}
    (h : p.operation? = some operation) : p.needsClass = true := by
  cases p with
  | unattached | attached | complete | error => simp [operation?] at h
  | _ => rfl

end Phase

namespace Controller

/-- The operations that a phase starts, and how many bytes of the image they move. -/
inductive Starts (c : Controller) : Phase → ClassCall → Nat → Prop
  | setInterface (interface : InterfaceHandle) : c.boundInterface = some interface →
    Starts c .setInterface (.setInterface interface 0) 0
  | getStatus : Starts c .getStatus .getStatus 0
  | transfer : Starts c .transfer (.dnload c.block c.nextChunk) c.chunkLength
  | zeroLengthTransfer : Starts c .zeroLengthTransfer (.dnload c.block #[]) 0
  | readBack : c.chunkLength ≠ 0 →
    Starts c .readBack (.upload c.block (UInt16.ofNat c.chunkLength)) c.chunkLength
  | getStatusRead : Starts c .getStatusRead .getStatus 0
  | detach : Starts c .detach (.detach c.config.detachTimeout) 0
  | checkStatus : Starts c .checkStatus .getStatus 0

theorem starts_of_action {c : Controller} {p : Phase} {request : ClassCall} {length : Nat}
    (h : c.action p = .start request length) : c.Starts p request length := by
  cases p with
  | unattached | complete | error => simp [action] at h
  | attached => cases hd : c.boundDevice <;> simp [action, hd] at h
  | setInterface =>
    cases hb : c.boundInterface with
    | none => simp [action, hb] at h
    | some interface =>
      simp only [action, hb, Action.start.injEq] at h
      obtain ⟨rfl, rfl⟩ := h
      exact .setInterface interface hb
  | readBack =>
    by_cases hc : c.chunkLength = 0
    · simp [action, hc] at h
    · simp only [action, if_neg hc, Action.start.injEq] at h
      obtain ⟨rfl, rfl⟩ := h
      exact .readBack hc
  | getStatus | transfer | zeroLengthTransfer | getStatusRead | detach | checkStatus =>
    obtain ⟨rfl, rfl⟩ := Action.start.inj h
    constructor

theorem operation?_of_action {c : Controller} {p : Phase} {request : ClassCall} {length : Nat}
    (h : c.action p = .start request length) : p.operation? = some request.operation := by
  cases starts_of_action h <;> rfl

end Controller

namespace Session

variable {δ κ : Type}

/-! ## The loss of a completion -/

section
variable {s t u : Session δ κ}

/-- The session that a request finds: the request is taken up, and a loss was looked for. -/
def noticed (s : Session δ κ) (q : Request) : Session δ κ := (s.record (.taken q)).checkLost

/-- The last completion that the queue refused since the last request is that of the operation in
flight. -/
def Bereft (s : Session δ κ) : Prop :=
  ∃ op, s.controller.inFlight = some op ∧ s.state.lost = some op.ticket

/-- The second session differs from the first at most in what was reported and in the cell for a
lost completion. -/
structure Untouched (s t : Session δ κ) : Prop where
  controller : t.controller = s.controller
  channel : t.channel = s.channel
  driver : t.state.driver = s.state.driver
  primitives : t.effects.filterMap Effect.primitive? = s.effects.filterMap Effect.primitive?

theorem Untouched.trans (h : Untouched s t) (k : Untouched t u) : Untouched s u :=
  ⟨k.controller.trans h.controller, k.channel.trans h.channel, k.driver.trans h.driver,
    k.primitives.trans h.primitives⟩

theorem Untouched.note (s : Session δ κ) (n : Notice) : Untouched s (s.note n) :=
  ⟨rfl, rfl, rfl, by simp [List.filterMap_append, Effect.primitive?]⟩

theorem Untouched.requests_eq (h : Untouched s t) : t.requests = s.requests := by
  rw [requests, h.channel, requests]

def forgetLoss (s : Session δ κ) : Session δ κ := { s with state := { s.state with lost := none } }

theorem not_bereft_of_idle (h : s.controller.inFlight = none) : ¬Bereft s := by
  rintro ⟨op, hop, -⟩
  simp [h] at hop

theorem not_bereft_of_lost (h : s.state.lost = none) : ¬Bereft s := by
  rintro ⟨op, -, hop⟩
  simp [h] at hop

theorem noticed_of_bereft (h : Bereft s) (q : Request) :
    s.noticed q = (s.record (.taken q)).forgetLoss.fail .queueFull := by
  obtain ⟨op, hop, hlost⟩ := h
  simp only [noticed, checkLost, hlost, controller, record, hop, Option.any_some,
    beq_self_eq_true, if_true]
  rfl

theorem idle_noticed (h : Bereft s) (q : Request) :
    (s.noticed q).controller.inFlight = none := by
  rw [noticed_of_bereft h]
  simp

/-- Any other loss is only reported. -/
theorem noticed_cases (h : ¬Bereft s) (q : Request) :
    s.noticed q = s.record (.taken q) ∨
      ∃ ticket, s.noticed q = (s.record (.taken q)).forgetLoss.note (.staleLoss ticket) := by
  unfold noticed checkLost
  split
  · exact .inl rfl
  · rename_i ticket hlost
    have hother : ¬s.controller.inFlight.any (·.ticket == ticket) = true := by
      rw [Option.any_eq_true]
      rintro ⟨op, hop, ht⟩
      exact h ⟨op, hop, hlost.trans (congrArg some (beq_iff_eq.mp ht).symm)⟩
    dsimp only
    split
    · rename_i hown
      exact absurd hown hother
    · exact .inr ⟨ticket, rfl⟩

theorem noticed_of_not_bereft (h : ¬Bereft s) (q : Request) :
    Untouched s (s.noticed q) ∧ Silently (s.record (.taken q)) (s.noticed q) := by
  have hprimitives : (s.record (.taken q)).effects.filterMap Effect.primitive? =
      s.effects.filterMap Effect.primitive? := by simp [Effect.primitive?]
  rcases noticed_cases h q with he | ⟨ticket, he⟩
  · rw [he]
    exact ⟨⟨rfl, rfl, rfl, hprimitives⟩, .refl⟩
  · rw [he]
    have hforgot : Untouched s (s.record (.taken q)).forgetLoss :=
      ⟨rfl, rfl, rfl, hprimitives⟩
    exact ⟨hforgot.trans (.note _ _), .note (s := (s.record (.taken q)).forgetLoss) (by simp)⟩

/-- Whatever was lost is forgotten. -/
theorem lost_noticed (s : Session δ κ) (q : Request) : (s.noticed q).state.lost = none := by
  unfold noticed checkLost
  split
  · assumption
  · dsimp only
    split <;> rfl

theorem channel_noticed (s : Session δ κ) (q : Request) : (s.noticed q).channel = s.channel := by
  by_cases hb : Bereft s
  · rw [noticed_of_bereft hb]
    rfl
  · exact (noticed_of_not_bereft hb q).1.channel

end

/-! ## The outcomes -/

/-- The session after a request, by what came of it. -/
inductive Outcome (drv : Driver δ) (s : Session δ κ) : Request → Session δ κ → Prop
  /-- The step to a phase is not possible. -/
  | dropped (p : Phase) (n : Notice) : s.controller.objection? p = some n →
    Outcome drv s (.nextPhase p) (s.note n)
  /-- The device is gone. -/
  | released : Outcome drv s (.nextPhase .unattached) ((s.release drv).setPhase .unattached)
  | initialised (device : DeviceHandle) : s.controller.phase = .unattached →
    s.controller.inFlight = none → s.controller.boundDevice = some device →
    Outcome drv s (.nextPhase .attached) ((s.setPhase .attached).initialise drv device)
  | started (p : Phase) (target : ClassHandle) (request : ClassCall) (length : Nat) :
    s.controller.phase.isTerminal = false → s.controller.inFlight = none →
    s.controller.liveClass = some target → s.controller.action p = .start request length →
    Outcome drv s (.nextPhase p) ((s.setPhase p).start drv target request length)
  /-- Of an empty image there is nothing to read back. -/
  | skipped : s.controller.phase.isTerminal = false → s.controller.inFlight = none →
    s.controller.liveClass ≠ none → s.controller.chunkLength = 0 →
    Outcome drv s (.nextPhase .readBack) ((s.setPhase .readBack).advance .getStatusRead)
  | finished : s.controller.phase.isTerminal = false → s.controller.inFlight = none →
    s.controller.liveClass ≠ none →
    Outcome drv s (.nextPhase .complete) ((s.setPhase .complete).finish drv)
  /-- A device attached that never showed a DFU interface. -/
  | blocked (p : Phase) (cause : UpgradeError) : p = .attached ∨ p = .setInterface →
    s.controller.phase.isTerminal = false → s.controller.inFlight = none →
    Outcome drv s (.nextPhase p) ((s.setPhase p).fail cause)
  /-- Somebody asked for the failure of the upgrade. -/
  | reported : s.controller.phase.isTerminal = false → s.controller.inFlight = none →
    Outcome drv s (.nextPhase .error) ((s.setPhase .error).note .errorRequested)
  | bound (b : Binding) : s.controller.phase = .unattached →
    Outcome drv s (.bind b) ((s.note (.bound b)).modify (·.bind b.host b.device b.interface))
  | ignored (b : Binding) : s.controller.phase ≠ .unattached →
    Outcome drv s (.bind b) (s.note (.attachIgnored b.device s.controller.phase))
  | stale (x : Completion) (r : Reply) : s.controller.awaited? x.ticket = none →
    Outcome drv s (.completed x r) (s.note (.staleCompletion x.operation s.controller.phase))
  | advanced (x : Completion) (r : Reply) (op : InFlight) (p : Phase) :
    s.controller.awaited? x.ticket = some op →
    (s.controller.conclude op x.operation r).next = .ok p →
    Outcome drv s (.completed x r) ((s.settled op x r).advance p)
  | failed (x : Completion) (r : Reply) (op : InFlight) (cause : UpgradeError) :
    s.controller.awaited? x.ticket = some op →
    (s.controller.conclude op x.operation r).next = .error cause →
    Outcome drv s (.completed x r) ((s.settled op x r).fail cause)

variable (drv : Driver δ) (s : Session δ κ)

theorem outcome_enter {p : Phase} (hu : p ≠ .unattached) (ha : p ≠ .attached)
    (ho : s.controller.objection? p = none) :
    Outcome drv s (.nextPhase p) ((s.setPhase p).perform drv (s.controller.action p)) := by
  obtain ⟨hopen, hclass, hidle⟩ := Controller.objection?_eq_none hu ha ho
  have hlive : p.needsClass = true → s.controller.liveClass ≠ none := fun hp hl => hclass ⟨hp, hl⟩
  have hstart : p.needsClass = true →
      (∃ request length, s.controller.action p = .start request length) →
      Outcome drv s (.nextPhase p) ((s.setPhase p).perform drv (s.controller.action p)) := by
    rintro hp ⟨request, length, hact⟩
    obtain ⟨target, ht⟩ := Option.ne_none_iff_exists'.mp (hlive hp)
    have ht' : (s.setPhase p).controller.liveClass = some target := by
      rw [controller_setPhase, Controller.liveClass_enter, ht]
    simp only [hact, perform, ht']
    exact .started p target request length hopen hidle ht hact
  cases p with
  | unattached => exact absurd rfl hu
  | attached => exact absurd rfl ha
  | setInterface =>
    cases hb : s.controller.boundInterface with
    | none =>
      simp only [Controller.action, hb]
      exact .blocked _ _ (.inr rfl) hopen hidle
    | some interface => exact hstart rfl ⟨_, _, by simp only [Controller.action, hb]; rfl⟩
  | readBack =>
    by_cases hc : s.controller.chunkLength = 0
    · simp only [Controller.action, hc]
      exact .skipped hopen hidle (hlive rfl) hc
    · exact hstart rfl ⟨_, _, if_neg hc⟩
  | complete => exact .finished hopen hidle (hlive rfl)
  | error => exact .reported hopen hidle
  | getStatus | transfer | zeroLengthTransfer | getStatusRead | detach | checkStatus =>
    exact hstart rfl ⟨_, _, rfl⟩

theorem outcome_step (p : Phase) : Outcome drv s (.nextPhase p) (s.step drv p) := by
  unfold step
  cases ho : s.controller.objection? p with
  | some n => exact .dropped p n ho
  | none =>
    by_cases hu : p = .unattached
    · subst hu
      exact .released
    simp only [if_neg hu]
    by_cases ha : p = .attached
    · subst ha
      have hp := Controller.phase_of_objection?_eq_none ho
      have hidle : s.controller.inFlight = none := by
        simpa [Controller.objection?, hp, Phase.isTerminal, Phase.needsClass] using ho
      cases hd : s.controller.boundDevice with
      | none =>
        simp only [Controller.action, hd]
        exact .blocked _ _ (.inl rfl) (by rw [hp]; rfl) hidle
      | some device =>
        simp only [Controller.action, hd]
        exact .initialised device hp hidle hd
    · exact outcome_enter drv s hu ha ho

theorem outcome_take (q : Request) : Outcome drv s q (take drv s q) := by
  cases q with
  | nextPhase p => exact outcome_step drv s p
  | bind b =>
    simp only [take, bind]
    split
    · exact .bound b ‹_›
    · exact .ignored b ‹_›
  | completed x r =>
    cases hx : s.controller.awaited? x.ticket with
    | none =>
      simp only [take, complete, hx]
      exact .stale x r hx
    | some op =>
      cases hv : (s.controller.conclude op x.operation r).next with
      | ok p =>
        simp only [take, complete_of_ok hx hv]
        exact .advanced x r op p hx hv
      | error cause =>
        simp only [take, complete_of_error hx hv]
        exact .failed x r op cause hx hv

theorem outcome_handle (q : Request) : Outcome drv (s.noticed q) q (handle drv s q).1 :=
  outcome_take drv (s.noticed q) q

/-- The device is let go of whenever that is requested. -/
theorem handle_unattached : (handle drv s (.nextPhase .unattached)).1 =
    ((s.noticed (.nextPhase .unattached)).release drv).setPhase .unattached := by
  simp [handle, take, step, noticed, Controller.objection?, Controller.action, perform]

variable {drv s} in
/-- When the upgrade has ended every request is dropped, except for the one that lets go of the
device. -/
theorem Outcome.of_ended {q : Request} {t : Session δ κ} (o : Outcome drv s q t)
    (hterminal : s.controller.phase.isTerminal = true) (hidle : s.controller.inFlight = none) :
    (q ≠ .nextPhase .unattached ∧ ∃ n, t = s.note n) ∨
      (q = .nextPhase .unattached ∧ t = (s.release drv).setPhase .unattached) := by
  cases o with
  | dropped p n ho =>
    refine .inl ⟨fun hu => ?_, n, rfl⟩
    obtain rfl := Request.nextPhase.inj hu
    simp [Controller.objection?] at ho
  | released => exact .inr ⟨rfl, rfl⟩
  | ignored b _ => exact .inl ⟨by simp, _, rfl⟩
  | stale x r _ => exact .inl ⟨by simp, _, rfl⟩
  | initialised _ hp | bound _ hp => simp [hp, Phase.isTerminal] at hterminal
  | started p target request length ht | skipped ht | finished ht | blocked _ _ _ ht
  | reported ht => simp [hterminal] at ht
  | advanced x r op p hx | failed x r op cause hx =>
    simp [(Controller.awaited?_eq_some_iff.mp hx).2.1] at hidle

variable {drv s} in
theorem Outcome.of_failed {q : Request} {t : Session δ κ} (o : Outcome drv s q t)
    (hphase : s.controller.phase = .error) (hidle : s.controller.inFlight = none) :
    (q ≠ .nextPhase .unattached ∧ ∃ n, t = s.note n) ∨
      (q = .nextPhase .unattached ∧ t = (s.release drv).setPhase .unattached) :=
  o.of_ended (by rw [hphase]; rfl) hidle

end Session

end FirmwareUpgrade
