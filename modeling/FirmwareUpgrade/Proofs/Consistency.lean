import FirmwareUpgrade.Proofs.Custody
import FirmwareUpgrade.Proofs.Quiescence
import FirmwareUpgrade.Proofs.Range

/-!
# The fields of the controller fit together

The controller says in several places where an upgrade stands: in its phase, in the handles that it
stores, in the operation that it has in flight with the bytes that are counted for it, in the buffer
for what comes back, and in the phase that observers see. A request changes many of them one after
the other and may end in the middle of that, when the class driver fails, when the driver or the
queue refuses something or when a completion was lost. `Controller.Consistent` says how the places
hang together between two requests.

The handles come from the record of what was borrowed and the counts from the range that they keep;
what a phase has in hand is followed here (`Controller.InHand`).
-/
namespace FirmwareUpgrade

namespace Controller

variable {c d : Controller} {image : Bytes} {config : Config} {k : Custody} {n : Nat}

/-- How the fields of a controller hang together. -/
structure Consistent (c : Controller) : Prop where
  /-- Without a device, and when its use was ended, no class handle is kept. -/
  returned : c.phase = .unattached ∨ c.phase = .complete → c.liveClass = none
  /-- An upgrade under way has a class handle. -/
  live : c.phase.isWorking = true → c.liveClass ≠ none
  /-- A class handle goes with those of the device that it was initialised on. -/
  bound : c.liveClass ≠ none →
    c.boundHost ≠ none ∧ c.boundDevice ≠ none ∧ c.boundInterface ≠ none
  /-- Only the operation of the phase is in flight. -/
  issued : ∀ op, c.inFlight = some op → c.phase.operation? = some op.operation
  counted : c.transferred ≤ c.image.size
  length : ∀ op, c.inFlight = some op → op.length ≤ c.remaining
  buffer : ∀ op, c.inFlight = some op → op.operation = .upload → c.readback ≠ none
  watch : c.watch = c.phase

/-- What a phase has in hand: the class handle that it works with, and the operation that it
started. -/
structure InHand (config : Config) (c : Controller) : Prop where
  config_eq : c.config = config
  watch : c.watch = c.phase
  live : c.phase.isWorking = true → c.liveClass ≠ none
  issued : ∀ op, c.inFlight = some op → c.phase.operation? = some op.operation
  buffer : ∀ op, c.inFlight = some op → op.operation = .upload → c.readback ≠ none

@[simp] theorem watch_freeReadback (c : Controller) : c.freeReadback.watch = c.watch := by
  rw [freeReadback_eq]

@[simp] theorem watch_enter (c : Controller) (p : Phase) : (c.enter p).watch = p := by rw [enter_eq]

/-- Observers see nothing of a completion but the steps that follow from it. -/
theorem watch_conclude (c : Controller) (op : InFlight) (operation : Operation) (r : Reply) :
    (c.conclude op operation r).controller.watch = c.watch := by
  have hcheck : ∀ (e : Controller) (data : Bytes) (next : Phase),
      (e.checkStatus data next).controller.watch = e.watch := by
    intro e data next
    unfold checkStatus
    split <;> rfl
  cases r with
  | error cause => rfl
  | ok data =>
    show (Controller.succeed { c with inFlight := none } op data).controller.watch = _
    unfold succeed
    split
    case h_2 => exact hcheck _ data _
    case h_5 =>
      unfold takeChunk
      dsimp only
      split <;> rfl
    case h_6 =>
      split
      · have hc := hcheck { c with inFlight := none } data .detach
        generalize Controller.checkStatus { c with inFlight := none } data .detach = v at hc
        obtain ⟨e, notices, next⟩ := v
        cases next with
        | error cause => exact hc
        | ok p =>
          unfold Verdict.andThen verify
          dsimp only
          split <;> simpa [resetCounters] using hc
      · exact hcheck _ data _
    all_goals rfl

namespace InHand

theorem new (image : Bytes) (config : Config) : (Controller.new image config).InHand config where
  config_eq := rfl
  watch := rfl
  live := by simp [Controller.new, Phase.isWorking]
  issued := by simp [Controller.new]
  buffer := by simp [Controller.new]

/-- With nothing in flight there is little to hold. -/
theorem of_idle (hc : c.config = config) (hw : c.watch = c.phase)
    (hl : c.phase.isWorking = true → c.liveClass ≠ none) (hidle : c.inFlight = none) :
    c.InHand config where
  config_eq := hc
  watch := hw
  live := hl
  issued := by simp [hidle]
  buffer := by simp [hidle]

/-- A failure leaves nothing in hand. -/
theorem fail (h : c.config = config) (cause : UpgradeError) :
    ((c.recordFailure cause).enter .error).InHand config :=
  .of_idle (by simpa using h) (by simp) (by simp [Phase.isWorking, Phase.isTerminal]) (by simp)

/-- The next phase begins with nothing in flight. -/
theorem enter (h : c.config = config) {p : Phase} (hidle : c.inFlight = none)
    (hl : p.isWorking = true → c.liveClass ≠ none) : (c.enter p).InHand config :=
  .of_idle (by simpa using h) (by simp) (by simpa using hl) (by simpa using hidle)

/-- The operation of a phase is begun, with a buffer where bytes are to come back. -/
theorem begin (h : c.config = config) {p : Phase} {request : ClassCall} {length : Nat}
    (hact : c.action p = .start request length) (hl : c.liveClass ≠ none) :
    ((c.enter p).begin request.operation length).1.InHand config where
  config_eq := (config_enter c p).trans h
  watch := by simp [Controller.begin]
  live _ := by simpa [Controller.begin] using hl
  issued op hop := by
    obtain rfl := Option.some.inj hop
    simpa [Controller.begin] using operation?_of_action hact
  buffer op hop hu := by
    obtain rfl := Option.some.inj hop
    have hstarts := starts_of_action hact
    cases hstarts with
    | readBack => simp [Controller.begin, readback_enter_readBack]
    | _ => simp [ClassCall.operation] at hu

/-- When the operation in flight is over, its phase still has the class handle. -/
theorem conclude (h : c.InHand config) (op : InFlight) (operation : Operation) (r : Reply) :
    (c.conclude op operation r).controller.InHand config := by
  have ha := c.conclude_alike op operation r
  refine .of_idle (ha.config.trans h.config_eq) ?_ ?_ ha.inFlight
  · rw [watch_conclude, ha.phase]
    exact h.watch
  · rw [ha.phase, ha.liveClass]
    exact h.live

end InHand

/-- What is borrowed, what is counted and what a phase has in hand make the whole. -/
theorem consistent_of_keeps (hk : c.Keeps k) (hr : c.InRange image n) (hh : c.InHand config) :
    c.Consistent where
  returned hp := by
    rcases hp with hu | hc
    · exact (hk.away hu).1
    · obtain ⟨b, target, -, hclosing⟩ := hk.complete hc
      by_contra hl
      obtain ⟨live, hlive⟩ := Option.ne_none_iff_exists'.mp hl
      simp [(hk.live live hlive).1] at hclosing
  live := hh.live
  bound hl := by
    obtain ⟨live, hlive⟩ := Option.ne_none_iff_exists'.mp hl
    obtain ⟨-, b, -, -, hhost, hdevice, hinterface⟩ := hk.holds hlive
    simp [hhost, hdevice, hinterface]
  issued := hh.issued
  counted := hr.image_eq ▸ hr.transferred_le
  length op hop := by
    have hle := hr.inFlight_le op hop
    rw [remaining, hr.image_eq]
    omega
  buffer := hh.buffer
  watch := hh.watch

end Controller

namespace Session

variable {δ κ : Type} {drv : Driver δ} {image : Bytes} {config : Config} {s t : Session δ κ}
  {q : Request}

theorem inHand_advance (h : s.controller.InHand config) (p : Phase) :
    (s.advance p).controller.InHand config := by
  unfold advance
  split
  · exact h
  · exact .fail h.config_eq _

theorem inHand_initialise (h : s.controller.config = config)
    (hw : s.controller.watch = s.controller.phase) (hidle : s.controller.inFlight = none)
    (device : DeviceHandle) : (s.initialise drv device).controller.InHand config := by
  rcases initialise_cases drv s device with ⟨u, cause, hu, he⟩ | ⟨driver, target, he⟩
  · rw [he, controller_fail, hu.controller]
    exact .fail h _
  · rw [he]
    apply inHand_advance
    exact .of_idle h hw (fun _ => by simp [Controller.startOver]) hidle

/-- An operation is started for the phase that was just entered, or the upgrade fails. -/
theorem inHand_start {p : Phase} {request : ClassCall} {length : Nat}
    (h : s.controller.config = config) (hact : s.controller.action p = .start request length)
    (hl : s.controller.liveClass ≠ none) (target : ClassHandle) :
    ((s.setPhase p).start drv target request length).controller.InHand config := by
  have hbegun : ∀ ds, (((s.setPhase p).handOver drv target request length).deliverAll
      ds).controller.InHand config := by
    intro ds
    rw [controller_deliverAll, controller_handOver]
    exact .begin h hact hl
  rw [start_eq]
  split
  · exact hbegun _
  · exact .fail (hbegun _).config_eq _

/-- Whatever a request leads to, the phase that it ends in has in hand what it needs. -/
theorem inHand_outcome (h : s.controller.InHand config) (o : Outcome drv s q t) :
    t.controller.InHand config := by
  have hc := h.config_eq
  cases o with
  | dropped | ignored | stale => exact h
  | bound b hp =>
    exact ⟨h.config_eq, h.watch, h.live, h.issued, h.buffer⟩
  | released =>
    rw [controller_setPhase, (release_becomes drv s).controller]
    exact .enter (by simpa using hc) (by simp) (by simp [Phase.isWorking])
  | initialised device _ hidle _ =>
    exact inHand_initialise (s := s.setPhase .attached) (by simpa using hc) (by simp)
      (by simpa using hidle) device
  | started p target request length _ _ hl hact =>
    exact inHand_start hc hact (by simp [hl]) target
  | skipped _ hidle hl =>
    apply inHand_advance
    rw [controller_setPhase]
    exact .enter hc hidle fun _ => hl
  | finished _ hidle _ =>
    rw [(finish_becomes drv _).controller]
    exact .of_idle (by simpa using hc) (by simp) (by simp [Phase.isWorking, Phase.isTerminal])
      (by simpa using hidle)
  | blocked p cause => exact .fail (by simpa using hc) cause
  | reported _ hidle =>
    rw [controller_note, controller_setPhase]
    exact .enter hc hidle (by simp [Phase.isWorking, Phase.isTerminal])
  | advanced x r op p _ _ =>
    apply inHand_advance
    rw [controller_settled]
    exact h.conclude op _ r
  | failed x r op cause _ _ =>
    rw [controller_fail, controller_settled]
    exact .fail (h.conclude op x.operation r).config_eq cause

theorem inHand_noticed (h : s.controller.InHand config) (q : Request) :
    (s.noticed q).controller.InHand config := by
  by_cases hb : Bereft s
  · rw [noticed_of_bereft hb]
    exact .fail h.config_eq _
  · rwa [(noticed_of_not_bereft hb q).1.controller]

theorem Served.inHand (h : Served drv image config s) : s.controller.InHand config := by
  induction h with
  | start driver channel => exact .new image config
  | elsewhere _ hst ih =>
    rw [hst.controller]
    exact ih
  | @handle s q _ ih => exact inHand_outcome (inHand_noticed ih q) (outcome_handle drv s q)

theorem Served.consistent (h : Served drv image config s) : s.controller.Consistent :=
  Controller.consistent_of_keeps h.custodial.keeps h.inRange h.inHand

end Session

namespace Installation

variable {δ κ : Type} {drv : Driver δ} {image : Bytes} {config : Config} {s : Session δ κ}

/-- Whatever was requested and answered before, every request leaves the fields of the controller in
step with each other, and the response, the phase that observers see and the last one that was shown
to them are the phase that the controller is in. -/
theorem handle_consistent (h : Session.Served drv image config s) (q : Request) :
    (Session.controller (Session.handle drv s q).1).Consistent ∧
      (Session.handle drv s q).2 = (Session.controller (Session.handle drv s q).1).phase ∧
      (Session.controller (Session.handle drv s q).1).watch = (Session.handle drv s q).2 ∧
      (Session.custody (Session.handle drv s q).1).shown = (Session.handle drv s q).2 := by
  have hserved : Session.Served drv image config (Session.handle drv s q).1 := .handle q h
  exact ⟨hserved.consistent, rfl, hserved.consistent.watch, hserved.custodial.keeps.shown⟩

/-- While the last byte comes back another device attaches. -/
def otherDevice : Request := .bind ⟨Accelerator.host, ⟨0x11⟩, ⟨0x21⟩⟩

theorem readingBack_consistent :
    (Session.controller (Session.handle obliging readingBack.session otherDevice).1).inFlight =
        some ⟨5, .upload, 1⟩ ∧
      (Session.controller
        (Session.handle obliging readingBack.session otherDevice).1).Consistent := by
  have hserved : Session.Served obliging #[7] .standard readingBack.session :=
    Shared.served (.of_plays (by decide +kernel))
  exact ⟨by decide +kernel, (handle_consistent hserved otherDevice).1⟩

end Installation

end FirmwareUpgrade
