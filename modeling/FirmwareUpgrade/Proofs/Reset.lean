import FirmwareUpgrade.Proofs.Consistency
import FirmwareUpgrade.Proofs.Following

/-!
# The detach as a reset

A controller that let go of its device is in the state of a new one, but for what it is ahead of it
by. It also goes on like a new one: given the same events, and over drivers that say the same, the
two do the same. What the drivers say is written down beforehand in a `Script`, so that neither can
react to the tickets, which are all that tells the two apart.
-/
namespace FirmwareUpgrade

/-! ## Scripted drivers -/

/-- What a driver says to one primitive. -/
structure Cue where
  /-- The answer to the initialisation of a device. -/
  init : Except UsbError ClassHandle
  /-- The answer to any other primitive. -/
  result : Except UsbError Unit
  notices : List Notice
  /-- Which of the completions handed over so far are called meanwhile, and with what. -/
  delivered : List (Nat × Reply)

/-- A driver that says what it is told to. -/
structure Script where
  cues : Nat → Cue
  /-- The number of primitives called so far. -/
  asked : Nat
  /-- The completions handed over so far, oldest first. -/
  handed : List Completion

namespace Script

/-- The script at its beginning, with no completion in hand. -/
def opening (cues : Nat → Cue) : Script := ⟨cues, 0, []⟩

def cue (d : Script) : Cue := d.cues d.asked

def next (d : Script) : Script := { d with asked := d.asked + 1 }

def hand (d : Script) (x : Completion) : Script := { d with handed := d.handed ++ [x] }

/-- The completions that replies are meant for. A reply to one that was not handed over is left
out. -/
def called (d : Script) (replies : List (Nat × Reply)) : List (Completion × Reply) :=
  replies.filterMap fun r => d.handed[r.1]?.map (·, r.2)

def driver : Driver Script where
  init d _ := (d.next, d.cue.init)
  submit d _ _ x :=
    (d.next.hand x, ⟨d.cue.result, d.cue.notices, (d.hand x).called d.cue.delivered⟩)
  deinit d _ _ := (d.next, d.cue.result)
  busReset d _ := (d.next, d.cue.notices)
  reEnumerate d _ := (d.next, d.cue.notices)

/-- The same script, and the same completions up to a lead of the tickets. -/
structure Alike (k : UInt32) (d e : Script) : Prop where
  cues : d.cues = e.cues
  asked : d.asked = e.asked
  handed : d.handed = e.handed.map (·.shift k)

namespace Alike

variable {k : UInt32} {d e : Script}

theorem cue_eq (h : Alike k d e) : d.cue = e.cue := by rw [cue, cue, h.cues, h.asked]

theorem next (h : Alike k d e) : Alike k d.next e.next :=
  { h with asked := congrArg (· + 1) h.asked }

theorem hand (h : Alike k d e) (x : Completion) : Alike k (d.hand (x.shift k)) (e.hand x) :=
  { h with handed := by simp [Script.hand, h.handed] }

/-- A reply goes to the same completion. -/
theorem getElem?_handed (h : Alike k d e) (n : Nat) :
    d.handed[n]? = e.handed[n]?.map (·.shift k) := by
  rw [h.handed, List.getElem?_map]

theorem called (h : Alike k d e) (replies : List (Nat × Reply)) :
    d.called replies = (e.called replies).map fun r => (r.1.shift k, r.2) := by
  unfold Script.called
  rw [List.map_filterMap]
  congr 1
  funext r
  rw [h.getElem?_handed]
  cases e.handed[r.1]? <;> rfl

end Alike

theorem agrees_driver (k : UInt32) : driver.Agrees driver (Alike k) where
  init _ _ _ h := ⟨h.next, congrArg Cue.init h.cue_eq⟩
  deinit _ _ _ _ h := h.next
  busReset _ _ _ h := h.next
  reEnumerate _ _ _ h := h.next

end Script

/-- An operation is started alike over alike scripts. -/
theorem Session.Follows.start_script {κ μ : Type} {l : Lead} {before : List Sign}
    {s : Session Script κ} {t : Session Script μ}
    (h : Follows l before (Script.Alike l.tickets) s t) (target : ClassHandle)
    (request : ClassCall) (length : Nat) :
    Follows l before (Script.Alike l.tickets) (s.start Script.driver target request length)
      (t.start Script.driver target request length) := by
  have hd := h.driver
  refine h.start target length (hd.next.hand _) (congrArg Cue.result hd.cue_eq) ?_
  show Script.called _ _ = _
  rw [hd.cue_eq]
  exact (hd.hand ⟨t.controller.nextTicket, request.operation⟩).called _

/-! ## What is left behind -/

/-- What a controller is ahead of a new one by. -/
def Lead.of (c : Controller) : Lead :=
  ⟨c.nextTicket, c.readbackAllocations, c.readbackFrees, c.boundHost, c.lastStatus, c.lastError⟩

/-- Once cleared, a controller is a new one with a lead. -/
theorem Controller.Cleared.eq_ahead {c : Controller} {image : Bytes} {config : Config}
    (h : c.Cleared) (hi : c.image = image) (hc : c.InHand config) :
    c = (Lead.of c).ahead false (Controller.new image config) := by
  have hw := hc.watch.trans h.phase
  obtain ⟨hp, hl, hd, hin, hr, hf, ht, hb⟩ := h
  have hconfig := hc.config_eq
  cases c
  simp_all [Lead.ahead, Lead.of, Controller.new]

namespace Installation

variable {δ κ : Type}

/-! ## What a run leaves as it was made -/

/-- The queue is open and as large as at first, and events go where they went at first. -/
structure Intact (i j : Installation δ κ) : Prop where
  capacity : j.channel.capacity = i.channel.capacity
  isOpen : j.channel.isOpen = i.channel.isOpen
  dispatcher : j.dispatcher = i.dispatcher

theorem Intact.trans {i j k : Installation δ κ} (h : Intact i j) (h' : Intact j k) : Intact i k :=
  ⟨h'.capacity.trans h.capacity, h'.isOpen.trans h.isOpen, h'.dispatcher.trans h.dispatcher⟩

/-- What is sent changes neither the size of a queue nor whether it is open. -/
theorem frame_push {n : Nat} {b : Bool} {c : Channel Request κ}
    (h : c.capacity = n ∧ c.isOpen = b) (e : Envelope Request κ) :
    (c.push e).capacity = n ∧ (c.push e).isOpen = b := by
  unfold Channel.push
  split <;> exact h

theorem intact_event (i : Installation δ κ) (vendor product : UInt16) (host : HostHandle)
    (device : DeviceHandle) (event : HostEvent) :
    Intact i (i.dispatch vendor product host device event).1 := by
  obtain ⟨queue, notices, hs, -, hc⟩ := i.session_dispatch vendor product host device event
  have hframe : queue.capacity = i.channel.capacity ∧ queue.isOpen = i.channel.isOpen := by
    rcases hc with rfl | ⟨q, -, -, rfl⟩
    · exact ⟨rfl, rfl⟩
    · exact frame_push ⟨rfl, rfl⟩ _
  have hqueue : (i.dispatch vendor product host device event).1.channel = queue := by
    rw [channel, ← session, hs]
    exact Session.channel_noteAll _ _
  exact ⟨by rw [hqueue, hframe.1], by rw [hqueue, hframe.2], dispatcher_dispatch ..⟩

/-- The requests that the controller sends leave the rest of the queue as it is. -/
theorem frame_handle (drv : Driver δ) (s : Session δ κ) (q : Request) :
    (Session.handle drv s q).1.channel.capacity = s.channel.capacity ∧
      (Session.handle drv s q).1.channel.isOpen = s.channel.isOpen := by
  refine Session.Outcome.channel
    (P := fun c => c.capacity = s.channel.capacity ∧ c.isOpen = s.channel.isOpen)
    (fun c q _ hc => frame_push hc _) (Session.outcome_handle drv s q) ?_
  rw [Session.channel_noticed]
  exact ⟨rfl, rfl⟩

theorem intact_move (drv : Driver δ) (i : Installation δ κ) (m : Move δ) :
    Intact i (i.move drv m) := by
  cases m with
  | event vendor product host device event => exact intact_event i vendor product host device event
  | work =>
    rcases i.session_work drv with ⟨-, hs⟩ | ⟨q, -, hs⟩
    · refine ⟨?_, ?_, rfl⟩
      all_goals rw [channel, ← session, hs]
    · obtain ⟨hc, ho⟩ := frame_handle drv i.session.dropOldest q
      refine ⟨?_, ?_, rfl⟩
      all_goals rw [channel, ← session, hs]
      · exact hc
      · exact ho
  | drive driver notices =>
    have hc : (i.move drv (.drive driver notices)).channel = i.channel :=
      Session.channel_relayAll (i.session.withDriver driver) notices
    exact ⟨by rw [hc], by rw [hc], rfl⟩
  | complete x r =>
    obtain ⟨hc, ho⟩ := Session.channel_deliver
      (P := fun c => c.capacity = i.channel.capacity ∧ c.isOpen = i.channel.isOpen)
      (fun c q _ hc => frame_push hc _) (s := i.session) ⟨rfl, rfl⟩ x r
    exact ⟨hc, ho, rfl⟩

theorem Shared.intact {drv : Driver δ} {allowed : Request → Prop} {i j : Installation δ κ}
    (h : Shared drv allowed i j) : Intact i j := by
  induction h with
  | start => exact ⟨rfl, rfl, rfl⟩
  | move m _ _ ih => exact ih.trans (intact_move drv _ m)
  | send q callback _ _ ih =>
    obtain ⟨hc, ho⟩ := frame_push (c := Installation.channel _) ⟨rfl, rfl⟩ ⟨q, callback⟩
    exact ih.trans ⟨hc, ho, rfl⟩

end Installation

/-! ## Turns -/

/-- What happens next, with what the driver says left to its script. -/
inductive Turn where
  | event (vendor product : UInt16) (host : HostHandle) (device : DeviceHandle)
    (event : HostEvent)
  /-- The worker handles the oldest request. -/
  | work
  /-- The driver reports something. -/
  | report (notices : List Notice)
  /-- The driver calls a completion that was handed over to it. -/
  | reply (n : Nat) (r : Reply)

namespace Installation

variable {δ κ : Type}

def turn (i : Installation Script κ) : Turn → Installation Script κ
  | .event vendor product host device event =>
    i.move Script.driver (.event vendor product host device event)
  | .work => i.move Script.driver .work
  | .report notices => i.move Script.driver (.drive i.driver notices)
  | .reply n r =>
    match i.driver.handed[n]? with
    | some x => i.move Script.driver (.complete x r)
    | none => i

def turns (i : Installation Script κ) (ts : List Turn) : Installation Script κ := ts.foldl turn i

/-- From here on the driver says what a script tells, and holds no completion. -/
def scripted (i : Installation δ κ) (cues : Nat → Cue) : Installation Script κ where
  worker :=
    { service := ⟨⟨i.controller, i.session.state.lost, .opening cues, i.trace⟩, i.channel⟩
      responses := i.worker.responses }
  dispatcher := i.dispatcher

/-- Two installations in step, of which the second serves a controller that was new. -/
structure InStep (l : Lead) (before : List Sign) (image : Bytes) (config : Config)
    (i j : Installation Script κ) : Prop where
  follows : Session.Follows l before (Script.Alike l.tickets) i.session j.session
  dispatcher : i.dispatcher = j.dispatcher
  served : Session.Served Script.driver image config j.session

namespace InStep

variable {l : Lead} {before : List Sign} {image : Bytes} {config : Config}
  {i j : Installation Script κ}

theorem work (h : InStep l before image config i j) :
    InStep l before image config (i.move Script.driver .work) (j.move Script.driver .work) := by
  have hserved := served_move h.served .work
  refine ⟨?_, h.dispatcher, hserved⟩
  have hrequests := h.follows.requests
  rcases j.session_work Script.driver with ⟨hnil, hj⟩ | ⟨q, hq, hj⟩
  · rw [hnil, List.map_nil] at hrequests
    rcases i.session_work Script.driver with ⟨-, hi⟩ | ⟨q, hq, -⟩
    · rw [hi, hj]
      exact h.follows
    · rw [hq] at hrequests
      simp at hrequests
  · rw [hq, List.map_cons] at hrequests
    have hanchored : j.session.dropOldest.controller.Anchored := h.served.custodial.keeps.anchored
    rw [(session_work_of_requests Script.driver hrequests).1, hj]
    exact Session.Follows.take (Script.agrees_driver l.tickets)
      (h.follows.dropOldest.noticed _ q) (Session.anchored_noticed hanchored q) (fun hf => hf)
      (fun _ target request length _ hf => hf.start_script target request length) q

theorem turn (h : InStep l before image config i j) (t : Turn) :
    InStep l before image config (i.turn t) (j.turn t) := by
  cases t with
  | event vendor product host device event =>
    obtain ⟨-, hd, hf⟩ :=
      follows_dispatch h.dispatcher h.follows vendor product host device event
    exact ⟨hf, hd, served_move h.served (.event vendor product host device event)⟩
  | work => exact h.work
  | report notices =>
    have hdriven := h.follows.withDriver h.follows.driver
    exact ⟨hdriven.hushed (.relayAll notices _) (.relayAll notices _), h.dispatcher,
      served_move h.served (.drive j.driver notices)⟩
  | reply n r =>
    have hx := h.follows.driver.getElem?_handed n
    unfold Installation.turn
    dsimp only
    rw [driver, hx]
    cases j.driver.handed[n]? with
    | none => exact h
    | some x =>
      exact ⟨h.follows.deliver x r, h.dispatcher, served_move h.served (.complete x r)⟩

theorem turns (ts : List Turn) : ∀ {i j : Installation Script κ},
    InStep l before image config i j →
      InStep l before image config (i.turns ts) (j.turns ts) := by
  induction ts with
  | nil => exact fun h => h
  | cons t ts ih => exact fun h => ih (h.turn t)

end InStep

/-! ## The reset -/

variable {drv : Driver δ} {driver : δ} {image : Bytes} {config : Config} {i : Installation δ κ}

/-- When a detach was handled with an empty queue, a new installation is in step. -/
theorem inStep_unattached
    (h : Shared drv (fun _ => True) (new driver image config) i)
    (hq : i.channel.waiting = []) (cues : Nat → Cue) :
    InStep (.of (i.handle drv (.nextPhase .unattached)).1.controller)
      (i.handle drv (.nextPhase .unattached)).1.session.signs image config
      ((i.handle drv (.nextPhase .unattached)).1.scripted cues)
      (new (.opening cues) image config) := by
  have hserved : Session.Served drv image config
      (Session.handle drv i.session (.nextPhase .unattached)).1 := .handle _ h.served
  have hcleared := Session.cleared_unattached drv i.session
  have hrelease := (i.session.noticed (.nextPhase .unattached)).release_becomes drv
  have hintact := h.intact
  have hlost : (Session.handle drv i.session (.nextPhase .unattached)).1.state.lost = none := by
    rw [Session.handle_unattached]
    exact hrelease.lost.trans (Session.lost_noticed _ _)
  have hchannel : (Session.handle drv i.session (.nextPhase .unattached)).1.channel =
      i.channel := by
    rw [Session.handle_unattached]
    exact hrelease.channel.trans (Session.channel_noticed _ _)
  refine ⟨⟨?_, ?_, ?_, ?_, ?_, ⟨rfl, rfl, rfl⟩, ?_⟩, hintact.dispatcher, .start _ _⟩
  · exact hcleared.eq_ahead hserved.inRange.image_eq hserved.inHand
  · exact hlost
  · exact (congrArg Channel.capacity hchannel).trans hintact.capacity
  · exact (congrArg Channel.isOpen hchannel).trans hintact.isOpen
  · show List.map _ (Channel.waiting _) = _
    rw [show ((i.handle drv (.nextPhase .unattached)).1.scripted cues).session.channel =
      i.channel from hchannel, hq]
    rfl
  · exact (List.append_nil _).symm

/-- A detach is a full reset. Whatever was requested and answered before, once it was handled with
nothing waiting the controller shows the same as a new one in every turn, given the same events and
the same script: the same primitives and the same phases, in the same order. The two differ in no
more than the lead that the first has, of which the host, status and error that were last seen are
gone as soon as the class driver is initialised. -/
theorem unattached_resets
    (h : Shared drv (fun _ => True) (new driver image config) i)
    (hq : i.channel.waiting = []) (cues : Nat → Cue) (ts : List Turn) :
    let old := (i.handle drv (.nextPhase .unattached)).1
    let last := ((old.scripted cues).turns ts).controller
    let fresh : Installation Script κ := (new (.opening cues) image config).turns ts
    ((old.scripted cues).turns ts).session.signs = old.session.signs ++ fresh.session.signs ∧
      last = (Lead.of old.controller).ahead fresh.session.opened fresh.controller ∧
      last.phase = fresh.controller.phase ∧ last.transferred = fresh.controller.transferred ∧
      last.block = fresh.controller.block ∧
      (fresh.session.opened = true ∨ fresh.controller.lastError ≠ none →
        last.lastError = fresh.controller.lastError) := by
  dsimp only
  have hstep := (inStep_unattached h hq cues).turns ts
  have hcontroller := hstep.follows.controller
  refine ⟨hstep.follows.signs, hcontroller, ?_, ?_, ?_, fun hseen => ?_⟩
  all_goals rw [show Installation.controller _ = _ from hcontroller]
  · rfl
  · rfl
  · rfl
  · rcases hseen with ho | he
    · simp [Lead.ahead, ho]
    · obtain ⟨cause, hc⟩ := Option.ne_none_iff_exists'.mp he
      simp [Lead.ahead, hc]

/-- A driver that accepts everything, says nothing and calls no completion by itself. -/
def willing (_ : Nat) : Cue := ⟨.ok ⟨1⟩, .ok (), [], []⟩

/-- The device attaches again, is enumerated, and its interface is selected. -/
def reattach : List Turn :=
  [.event dfuVendor dfuProduct Accelerator.host Accelerator.device
      (.attach Accelerator.configuration),
    .event dfuVendor dfuProduct Accelerator.host Accelerator.device .enumerationDone,
    .work, .work, .work, .reply 0 (.ok #[]), .work, .work]

/-- After an upgrade that took eight tickets the next one begins like the first. -/
theorem upgraded_resets :
    let old := (upgraded.handle obliging (.nextPhase .unattached)).1
    let last := ((old.scripted willing).turns reattach).controller
    let fresh : Installation Script Unit := (new (.opening willing) #[7] .standard).turns reattach
    upgraded.channel.waiting = [] ∧ fresh.controller.nextTicket = 2 ∧ last.nextTicket = 10 ∧
      fresh.controller.phase = .getStatus ∧ last.phase = fresh.controller.phase ∧
      ((old.scripted willing).turns reattach).session.signs =
        old.session.signs ++ fresh.session.signs := by
  have hshared : Shared obliging (fun _ => True) (new 0 #[7] .standard) upgraded :=
    .of_plays (by decide +kernel)
  have hidle : upgraded.channel.waiting = [] := by decide +kernel
  have hresets := unattached_resets hshared hidle willing reattach
  exact ⟨hidle, by decide +kernel, by decide +kernel, by decide +kernel, hresets.2.2.1, hresets.1⟩

end Installation

end FirmwareUpgrade
