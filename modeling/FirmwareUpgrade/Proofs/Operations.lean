import FirmwareUpgrade.Proofs.Record

/-!
# What the operations of a session touch

A session is seen through its controller, the cell for a lost completion, its driver, the requests
that wait and the record of effects. For each operation of which others are made it is said here
what it does to each of the five.
-/
namespace FirmwareUpgrade

namespace Controller

/-! ## The read-back buffer -/

section
variable (c : Controller)

theorem readback_allocateReadback :
    c.allocateReadback.readback = some (c.readback.getD (Array.replicate c.image.size 0)) := by
  unfold allocateReadback; split <;> simp [*]

theorem freeReadback_eq : c.freeReadback =
    { c with readback := none, readbackFrees := c.freeReadback.readbackFrees } := by
  unfold freeReadback
  split
  · rfl
  · next h => rw [← h]

@[simp] theorem image_freeReadback : c.freeReadback.image = c.image := by rw [freeReadback_eq]

@[simp] theorem config_freeReadback : c.freeReadback.config = c.config := by rw [freeReadback_eq]

@[simp] theorem boundHost_freeReadback : c.freeReadback.boundHost = c.boundHost := by
  rw [freeReadback_eq]

@[simp] theorem boundDevice_freeReadback : c.freeReadback.boundDevice = c.boundDevice := by
  rw [freeReadback_eq]

@[simp] theorem boundInterface_freeReadback : c.freeReadback.boundInterface = c.boundInterface := by
  rw [freeReadback_eq]

@[simp] theorem liveClass_freeReadback : c.freeReadback.liveClass = c.liveClass := by
  rw [freeReadback_eq]

@[simp] theorem transferred_freeReadback : c.freeReadback.transferred = c.transferred := by
  rw [freeReadback_eq]

@[simp] theorem block_freeReadback : c.freeReadback.block = c.block := by rw [freeReadback_eq]

@[simp] theorem phase_freeReadback : c.freeReadback.phase = c.phase := by rw [freeReadback_eq]

@[simp] theorem inFlight_freeReadback : c.freeReadback.inFlight = c.inFlight := by
  rw [freeReadback_eq]

@[simp] theorem nextTicket_freeReadback : c.freeReadback.nextTicket = c.nextTicket := by
  rw [freeReadback_eq]

@[simp] theorem lastError_freeReadback : c.freeReadback.lastError = c.lastError := by
  rw [freeReadback_eq]

@[simp] theorem readback_freeReadback : c.freeReadback.readback = none := by rw [freeReadback_eq]

end

/-! ## Failure and detach -/

section
variable (c : Controller) (cause : UpgradeError)

@[simp] theorem image_recordFailure : (c.recordFailure cause).image = c.image :=
  c.image_freeReadback

@[simp] theorem config_recordFailure : (c.recordFailure cause).config = c.config :=
  c.config_freeReadback

@[simp] theorem boundInterface_recordFailure :
    (c.recordFailure cause).boundInterface = c.boundInterface :=
  c.boundInterface_freeReadback

@[simp] theorem liveClass_recordFailure : (c.recordFailure cause).liveClass = c.liveClass :=
  c.liveClass_freeReadback

@[simp] theorem transferred_recordFailure : (c.recordFailure cause).transferred = c.transferred :=
  c.transferred_freeReadback

@[simp] theorem block_recordFailure : (c.recordFailure cause).block = c.block :=
  c.block_freeReadback

@[simp] theorem nextTicket_recordFailure : (c.recordFailure cause).nextTicket = c.nextTicket :=
  c.nextTicket_freeReadback

@[simp] theorem readback_recordFailure : (c.recordFailure cause).readback = none :=
  c.readback_freeReadback

@[simp] theorem inFlight_recordFailure : (c.recordFailure cause).inFlight = none := rfl

@[simp] theorem lastError_recordFailure : (c.recordFailure cause).lastError = some cause := rfl

theorem forgetDevice_eq : c.forgetDevice =
    { c.freeReadback with
      inFlight := none, boundDevice := none, boundInterface := none, transferred := 0
      block := 0 } := by
  unfold forgetDevice resetCounters freeReadback
  dsimp only
  split <;> rfl

@[simp] theorem image_forgetDevice : c.forgetDevice.image = c.image := by simp [forgetDevice_eq]

@[simp] theorem config_forgetDevice : c.forgetDevice.config = c.config := by simp [forgetDevice_eq]

@[simp] theorem liveClass_forgetDevice : c.forgetDevice.liveClass = c.liveClass := by
  simp [forgetDevice_eq]

@[simp] theorem nextTicket_forgetDevice : c.forgetDevice.nextTicket = c.nextTicket := by
  simp [forgetDevice_eq]

@[simp] theorem lastError_forgetDevice : c.forgetDevice.lastError = c.lastError := by
  simp [forgetDevice_eq]

@[simp] theorem inFlight_forgetDevice : c.forgetDevice.inFlight = none := by simp [forgetDevice_eq]

@[simp] theorem readback_forgetDevice : c.forgetDevice.readback = none := by simp [forgetDevice_eq]

end

/-! ## Entering a phase -/

section
variable (c : Controller) (p : Phase)

theorem enter_eq : c.enter p =
    { c with
      phase := p
      watch := p
      readback := (c.enter p).readback
      readbackAllocations := (c.enter p).readbackAllocations } := by
  unfold enter allocateReadback
  dsimp only
  split
  · split <;> rfl
  · rfl

@[simp] theorem image_enter : (c.enter p).image = c.image := by rw [enter_eq]

@[simp] theorem config_enter : (c.enter p).config = c.config := by rw [enter_eq]

@[simp] theorem boundHost_enter : (c.enter p).boundHost = c.boundHost := by rw [enter_eq]

@[simp] theorem boundDevice_enter : (c.enter p).boundDevice = c.boundDevice := by rw [enter_eq]

@[simp] theorem boundInterface_enter : (c.enter p).boundInterface = c.boundInterface := by
  rw [enter_eq]

@[simp] theorem liveClass_enter : (c.enter p).liveClass = c.liveClass := by rw [enter_eq]

@[simp] theorem transferred_enter : (c.enter p).transferred = c.transferred := by rw [enter_eq]

@[simp] theorem block_enter : (c.enter p).block = c.block := by rw [enter_eq]

@[simp] theorem inFlight_enter : (c.enter p).inFlight = c.inFlight := by rw [enter_eq]

@[simp] theorem nextTicket_enter : (c.enter p).nextTicket = c.nextTicket := by rw [enter_eq]

@[simp] theorem lastError_enter : (c.enter p).lastError = c.lastError := by rw [enter_eq]

@[simp] theorem phase_enter : (c.enter p).phase = p := by rw [enter_eq]

theorem readback_enter_readBack :
    (c.enter .readBack).readback = some (c.readback.getD (Array.replicate c.image.size 0)) :=
  readback_allocateReadback _

theorem readback_enter_of_ne (h : p ≠ .readBack) : (c.enter p).readback = c.readback := by
  simp [enter, h]

/-- What a phase consists of does not depend on the phase before it. -/
@[simp] theorem action_enter (q : Phase) : (c.enter p).action q = c.action q := by
  cases q <;> simp [action, chunkLength, nextChunk, remaining]

end

end Controller

namespace Session

variable {δ κ : Type}

def effects (s : Session δ κ) : List Effect := s.state.trace.toList

/-- The requests that wait, oldest first. -/
def requests (s : Session δ κ) : List Request := s.channel.waiting.map (·.request)

/-- What is read off the record of a session. -/
def account (s : Session δ κ) : Account := .ofEffects s.effects

/-! ## Recording -/

section
variable (s : Session δ κ) (e : Effect) (n : Notice)

@[simp] theorem controller_record : (s.record e).controller = s.controller := rfl
@[simp] theorem lost_record : (s.record e).state.lost = s.state.lost := rfl
@[simp] theorem driver_record : (s.record e).state.driver = s.state.driver := rfl
@[simp] theorem channel_record : (s.record e).channel = s.channel := rfl
@[simp] theorem requests_record : (s.record e).requests = s.requests := rfl

@[simp] theorem effects_record : (s.record e).effects = s.effects ++ [e] := by
  simp [effects, record]

@[simp] theorem account_record : (s.record e).account = s.account.add e := by
  rw [account, effects_record, Account.ofEffects_append_singleton, account]

@[simp] theorem controller_note : (s.note n).controller = s.controller := rfl
@[simp] theorem lost_note : (s.note n).state.lost = s.state.lost := rfl
@[simp] theorem driver_note : (s.note n).state.driver = s.state.driver := rfl
@[simp] theorem channel_note : (s.note n).channel = s.channel := rfl
@[simp] theorem requests_note : (s.note n).requests = s.requests := rfl
@[simp] theorem effects_note : (s.note n).effects = s.effects ++ [.notice n] :=
  effects_record s _

@[simp] theorem account_note : (s.note n).account = s.account.add (.notice n) :=
  account_record s _

end

/-- A session with more effects at the end of its record. -/
def recordAll (s : Session δ κ) (es : List Effect) : Session δ κ :=
  { s with state := { s.state with trace := s.state.trace ++ es.toArray } }

section
variable (s : Session δ κ) (es : List Effect) (ns : List Notice)

theorem recordAll_cons (e : Effect) : s.recordAll (e :: es) = (s.record e).recordAll es := by
  simp [recordAll, record]

theorem noteAll_eq : ∀ s : Session δ κ, s.noteAll ns = s.recordAll (ns.map .notice) := by
  induction ns with
  | nil => intro s; simp [noteAll, recordAll]
  | cons n ns ih => intro s; rw [List.map_cons, recordAll_cons, ← note, ← ih]; rfl

theorem relayAll_eq : ∀ s : Session δ κ, s.relayAll ns = s.recordAll (ns.map .relayed) := by
  induction ns with
  | nil => intro s; simp [relayAll, recordAll]
  | cons n ns ih => intro s; rw [List.map_cons, recordAll_cons, ← ih]; rfl

theorem effects_recordAll : (s.recordAll es).effects = s.effects ++ es := by
  simp [effects, recordAll]

@[simp] theorem controller_noteAll : (s.noteAll ns).controller = s.controller := by
  rw [noteAll_eq]; rfl

@[simp] theorem lost_noteAll : (s.noteAll ns).state.lost = s.state.lost := by
  rw [noteAll_eq]; rfl

@[simp] theorem driver_noteAll : (s.noteAll ns).state.driver = s.state.driver := by
  rw [noteAll_eq]; rfl

@[simp] theorem channel_noteAll : (s.noteAll ns).channel = s.channel := by rw [noteAll_eq]; rfl

@[simp] theorem requests_noteAll : (s.noteAll ns).requests = s.requests := by
  rw [noteAll_eq]; rfl

@[simp] theorem effects_noteAll : (s.noteAll ns).effects = s.effects ++ ns.map .notice := by
  rw [noteAll_eq, effects_recordAll]

@[simp] theorem controller_relayAll : (s.relayAll ns).controller = s.controller := by
  rw [relayAll_eq]; rfl

@[simp] theorem lost_relayAll : (s.relayAll ns).state.lost = s.state.lost := by
  rw [relayAll_eq]; rfl

@[simp] theorem driver_relayAll : (s.relayAll ns).state.driver = s.state.driver := by
  rw [relayAll_eq]; rfl

@[simp] theorem channel_relayAll : (s.relayAll ns).channel = s.channel := by rw [relayAll_eq]; rfl

@[simp] theorem requests_relayAll : (s.relayAll ns).requests = s.requests := by
  rw [relayAll_eq]; rfl

@[simp] theorem effects_relayAll : (s.relayAll ns).effects = s.effects ++ ns.map .relayed := by
  rw [relayAll_eq, effects_recordAll]

end

@[simp] theorem account_noteAll (ns : List Notice) :
    ∀ s : Session δ κ, (s.noteAll ns).account = s.account.addNotices ns := by
  induction ns with
  | nil => simp [noteAll, Account.addNotices]
  | cons n ns ih =>
    intro s
    change ((s.note n).noteAll ns).account = _
    rw [ih, account_note, Account.add_notice]
    simp [Account.addNotices, Bool.or_assoc]

/-! ## The controller -/

section
variable (s : Session δ κ) (f : Controller → Controller)

@[simp] theorem controller_modify : (s.modify f).controller = f s.controller := rfl
@[simp] theorem lost_modify : (s.modify f).state.lost = s.state.lost := rfl
@[simp] theorem driver_modify : (s.modify f).state.driver = s.state.driver := rfl
@[simp] theorem channel_modify : (s.modify f).channel = s.channel := rfl
@[simp] theorem requests_modify : (s.modify f).requests = s.requests := rfl
@[simp] theorem effects_modify : (s.modify f).effects = s.effects := rfl
@[simp] theorem account_modify : (s.modify f).account = s.account := rfl

end

section
variable (s : Session δ κ) (p : Phase)

@[simp] theorem controller_setPhase : (s.setPhase p).controller = s.controller.enter p := rfl
@[simp] theorem driver_setPhase : (s.setPhase p).state.driver = s.state.driver := rfl
@[simp] theorem requests_setPhase : (s.setPhase p).requests = s.requests := rfl

@[simp] theorem effects_setPhase :
    (s.setPhase p).effects =
      s.effects ++ [.notice (.phaseChanged s.controller.phase p), .watch p] := by
  simp [setPhase]

end

section
variable (s : Session δ κ) (cause : UpgradeError)

@[simp] theorem controller_fail :
    (s.fail cause).controller = (s.controller.recordFailure cause).enter .error := rfl

@[simp] theorem lost_fail : (s.fail cause).state.lost = s.state.lost := rfl

@[simp] theorem driver_fail : (s.fail cause).state.driver = s.state.driver := rfl

@[simp] theorem channel_fail : (s.fail cause).channel = s.channel := rfl

@[simp] theorem requests_fail : (s.fail cause).requests = s.requests := rfl

@[simp] theorem effects_fail :
    (s.fail cause).effects =
      s.effects ++ [.notice (.upgradeFailed s.controller.phase cause),
        .notice (.phaseChanged (s.controller.recordFailure cause).phase .error),
        .watch .error] := by
  simp [fail]

end

section
variable {s : Session δ κ}

theorem account_setPhase (p : Phase) : (s.setPhase p).account = s.account.add (.watch p) := by
  have hn : (s.note (.phaseChanged s.controller.phase p)).account = s.account := by
    rw [account_note, Account.add_of_isSilent _ rfl]
  rw [← hn, setPhase, account_record, account_modify]

theorem account_fail (cause : UpgradeError) :
    (s.fail cause).account = s.account.add (.watch .error) := by
  have hn : (s.note (.upgradeFailed s.controller.phase cause)).account = s.account := by
    rw [account_note, Account.add_of_isSilent _ rfl]
  rw [← hn, fail, account_setPhase, account_modify]

end

/-! ## The queue -/

/-- The session whose oldest request was taken from the queue. -/
def dropOldest (s : Session δ κ) : Session δ κ := { s with channel := s.channel.dropOldest }

section
variable (s : Session δ κ)

@[simp] theorem controller_dropOldest : s.dropOldest.controller = s.controller := rfl
@[simp] theorem lost_dropOldest : s.dropOldest.state.lost = s.state.lost := rfl
@[simp] theorem driver_dropOldest : s.dropOldest.state.driver = s.state.driver := rfl
@[simp] theorem effects_dropOldest : s.dropOldest.effects = s.effects := rfl
@[simp] theorem account_dropOldest : s.dropOldest.account = s.account := rfl

@[simp] theorem requests_dropOldest : s.dropOldest.requests = s.requests.tail := by
  simp [dropOldest, requests, Channel.dropOldest, List.map_tail]

end

theorem requests_post {s : Session δ κ} (r : Request) (h : s.channel.refusal? = none) :
    (s.post r).requests = s.requests ++ [r] := by
  simp [requests, post, Channel.send, Channel.waiting_push_of_refusal?_eq_none _ h]

section
variable (s : Session δ κ) (r : Request)

@[simp] theorem controller_post : (s.post r).controller = s.controller := rfl
@[simp] theorem lost_post : (s.post r).state.lost = s.state.lost := rfl
@[simp] theorem channel_post : (s.post r).channel = s.channel.send r := rfl
@[simp] theorem driver_post : (s.post r).state.driver = s.state.driver := rfl
@[simp] theorem effects_post : (s.post r).effects = s.effects := rfl
@[simp] theorem account_post : (s.post r).account = s.account := rfl

end

theorem advance_of_room {s : Session δ κ} (p : Phase) (h : s.channel.refusal? = none) :
    s.advance p = s.post (.nextPhase p) := by
  simp [advance, h]

theorem advance_of_refusal {s : Session δ κ} (p : Phase) {reason : QueueError}
    (h : s.channel.refusal? = some reason) : s.advance p = s.fail (.ofQueueError reason) := by
  simp [advance, h]

section
variable {s : Session δ κ}

theorem controller_deliver (x : Completion) (r : Reply) :
    (s.deliver x r).controller = s.controller := by
  unfold deliver
  dsimp only
  split <;> rfl

theorem driver_deliver (x : Completion) (r : Reply) :
    (s.deliver x r).state.driver = s.state.driver := by
  unfold deliver
  dsimp only
  split <;> rfl

/-- A completion is recorded and then queued, or its loss is noted. -/
theorem effects_deliver (x : Completion) (r : Reply) :
    ∃ later, (s.deliver x r).effects = s.effects ++ .completed x r :: later ∧
      ∀ e ∈ later, e.isSilent = true := by
  unfold deliver
  dsimp only
  split
  · exact ⟨[], by simp, by simp⟩
  · rename_i reason _
    refine ⟨[.notice (.completionLost x.operation reason)], ?_, by simp [Effect.isSilent]⟩
    change ((s.record (.completed x r)).note _).effects = _
    simp

theorem account_deliver (x : Completion) (r : Reply) :
    (s.deliver x r).account = s.account.add (.completed x r) := by
  unfold deliver
  dsimp only
  split
  · simp
  · change ((s.record (.completed x r)).note _).account = _
    rw [account_note, account_record, Account.add_of_isSilent _ rfl]

theorem deliver_of_room (x : Completion) (r : Reply) (h : s.channel.refusal? = none) :
    s.deliver x r = (s.record (.completed x r)).post (.completed x r) := by
  simp [deliver, h]

/-- A completion is queued, or its ticket stays behind. -/
theorem deliver_cases (x : Completion) (r : Reply) :
    (s.deliver x r).requests = s.requests ++ [.completed x r] ∧
        (s.deliver x r).state.lost = s.state.lost ∨
      (s.deliver x r).requests = s.requests ∧ (s.deliver x r).state.lost = some x.ticket := by
  unfold deliver
  dsimp only
  split
  · rename_i hr
    exact .inl ⟨requests_post _ hr, rfl⟩
  · exact .inr ⟨rfl, rfl⟩

theorem requests_deliver (x : Completion) (r : Reply) :
    (s.deliver x r).requests = s.requests ∨
      (s.deliver x r).requests = s.requests ++ [.completed x r] := by
  rcases s.deliver_cases x r with ⟨h, -⟩ | ⟨h, -⟩
  · exact .inr h
  · exact .inl h

theorem deliverAll_cons (d : Completion × Reply) (ds : List (Completion × Reply)) :
    s.deliverAll (d :: ds) = (s.deliver d.1 d.2).deliverAll ds := rfl

theorem controller_deliverAll (ds : List (Completion × Reply)) :
    (s.deliverAll ds).controller = s.controller := by
  induction ds generalizing s with
  | nil => rfl
  | cons d ds ih => rw [deliverAll_cons, ih, controller_deliver]

end

/-! ## Silent effects -/

/-- The second session came from the first with silent effects only. -/
def Silently (s t : Session δ κ) : Prop :=
  ∃ later, t.effects = s.effects ++ later ∧ ∀ e ∈ later, e.isSilent = true

namespace Silently

variable {s t u : Session δ κ}

theorem refl : Silently s s := ⟨[], by simp, by simp⟩

theorem of_effects_eq (h : t.effects = s.effects) : Silently s t := ⟨[], by simp [h], by simp⟩

theorem trans (h : Silently s t) (k : Silently t u) : Silently s u := by
  obtain ⟨a, ha, hsa⟩ := h
  obtain ⟨b, hb, hsb⟩ := k
  refine ⟨a ++ b, by rw [hb, ha, List.append_assoc], fun e he => ?_⟩
  rcases List.mem_append.mp he with h | h
  · exact hsa e h
  · exact hsb e h

theorem record {e : Effect} (h : e.isSilent = true) : Silently s (s.record e) :=
  ⟨[e], by simp, by simpa using h⟩

theorem note {n : Notice} (h : n ≠ .verified) : Silently s (s.note n) :=
  record (by simpa [Effect.isSilent] using h)

theorem noteAll {ns : List Notice} (h : .verified ∉ ns) : Silently s (s.noteAll ns) := by
  refine ⟨ns.map .notice, by simp, fun e he => ?_⟩
  obtain ⟨n, hn, rfl⟩ := List.mem_map.mp he
  have hne : n ≠ .verified := fun hv => h (hv ▸ hn)
  simpa [Effect.isSilent] using hne

theorem relayAll {ns : List Notice} : Silently s (s.relayAll ns) :=
  ⟨ns.map .relayed, by simp, by simp [Effect.isSilent]⟩

theorem account_eq (h : Silently s t) : t.account = s.account := by
  obtain ⟨later, he, hs⟩ := h
  rw [account, he, account]
  clear he
  induction later using List.reverseRecOn with
  | nil => rw [List.append_nil]
  | append_singleton later e ih =>
    rw [← List.append_assoc, Account.ofEffects_append_singleton,
      Account.add_of_isSilent _ (hs e (by simp))]
    exact ih fun x hx => hs x (by simp [hx])

theorem throughout {P : List Effect → Effect → Prop}
    (hP : ∀ l e, e.isSilent = true → P l e) (h : Silently s t) (hs : Throughout P s.effects) :
    Throughout P t.effects := by
  obtain ⟨later, he, hl⟩ := h
  rw [he]
  exact hs.append fun e he before => hP before e (hl e he)

end Silently

/-! ## The driver -/

/-- A session whose driver is in another state. -/
def withDriver (s : Session δ κ) (driver : δ) : Session δ κ :=
  { s with state := { s.state with driver } }

section
variable (s : Session δ κ) (d : δ)

@[simp] theorem controller_withDriver : (s.withDriver d).controller = s.controller := rfl
@[simp] theorem lost_withDriver : (s.withDriver d).state.lost = s.state.lost := rfl
@[simp] theorem driver_withDriver : (s.withDriver d).state.driver = d := rfl
@[simp] theorem channel_withDriver : (s.withDriver d).channel = s.channel := rfl
@[simp] theorem requests_withDriver : (s.withDriver d).requests = s.requests := rfl
@[simp] theorem effects_withDriver : (s.withDriver d).effects = s.effects := rfl
@[simp] theorem account_withDriver : (s.withDriver d).account = s.account := rfl

end

/-- A session in which an operation has just been handed to the driver, which has answered but
whose completions are still to be queued. -/
def handOver (drv : Driver δ) (s : Session δ κ) (target : ClassHandle) (request : ClassCall)
    (length : Nat) : Session δ κ :=
  let completion : Completion := ⟨s.controller.nextTicket, request.operation⟩
  let r := drv.submit s.state.driver target request completion
  let t : Session δ κ := s.modify fun c => (c.begin request.operation length).1
  ((t.withDriver r.1).record (.exchange (.call target request completion r.2.result))).relayAll
    r.2.notices

def answerTo (drv : Driver δ) (s : Session δ κ) (target : ClassHandle) (request : ClassCall) :
    Answer Completion :=
  (drv.submit s.state.driver target request ⟨s.controller.nextTicket, request.operation⟩).2

theorem start_eq (drv : Driver δ) (s : Session δ κ) (target : ClassHandle) (request : ClassCall)
    (length : Nat) :
    s.start drv target request length =
      match (s.answerTo drv target request).result with
      | .ok () =>
        (s.handOver drv target request length).deliverAll (s.answerTo drv target request).delivered
      | .error cause =>
        ((s.handOver drv target request length).deliverAll
          (s.answerTo drv target request).delivered).fail (.classCall request.operation cause) :=
  rfl

section
variable (drv : Driver δ) (s : Session δ κ) (target : ClassHandle) (request : ClassCall)
  (length : Nat)

@[simp] theorem controller_handOver :
    (s.handOver drv target request length).controller =
      (s.controller.begin request.operation length).1 := by
  simp [handOver]

@[simp] theorem lost_handOver :
    (s.handOver drv target request length).state.lost = s.state.lost := by
  simp [handOver]

@[simp] theorem channel_handOver :
    (s.handOver drv target request length).channel = s.channel := by
  simp [handOver]

@[simp] theorem requests_handOver :
    (s.handOver drv target request length).requests = s.requests := by
  simp [requests]

@[simp] theorem driver_handOver :
    (s.handOver drv target request length).state.driver =
      (drv.submit s.state.driver target request
        ⟨s.controller.nextTicket, request.operation⟩).1 := by
  simp [handOver]

@[simp] theorem effects_handOver :
    (s.handOver drv target request length).effects =
      s.effects ++ .exchange (.call target request ⟨s.controller.nextTicket, request.operation⟩
        (s.answerTo drv target request).result) ::
          (s.answerTo drv target request).notices.map .relayed := by
  simp [handOver, answerTo]

end

theorem account_handOver (drv : Driver δ) {s : Session δ κ} (target : ClassHandle) (request : ClassCall)
    (length : Nat) :
    (s.handOver drv target request length).account =
      s.account.add (.exchange (.call target request ⟨s.controller.nextTicket, request.operation⟩
        (s.answerTo drv target request).result)) := by
  unfold handOver answerTo
  dsimp only
  rw [Silently.relayAll.account_eq, account_record, account_withDriver, account_modify]

theorem exchange_eq {α : Type} (s : Session δ κ) (run : δ → δ × α) (entry : α → Exchange)
    (notices : α → List Notice) :
    s.exchange run entry notices =
      (((s.withDriver (run s.state.driver).1).record
        (.exchange (entry (run s.state.driver).2))).relayAll (notices (run s.state.driver).2),
        (run s.state.driver).2) :=
  rfl

/-- The second session came from the first with silent effects, and only its driver and its
controller, now `c`, may differ. -/
structure Becomes (s t : Session δ κ) (c : Controller) : Prop where
  controller : t.controller = c
  lost : t.state.lost = s.state.lost
  channel : t.channel = s.channel
  silently : Silently s t

namespace Becomes

variable {s t : Session δ κ} {c : Controller}

theorem refl : Becomes s s s.controller := ⟨rfl, rfl, rfl, .refl⟩

theorem note (h : Becomes s t c) {n : Notice} (hn : n ≠ .verified) : Becomes s (t.note n) c :=
  ⟨h.controller, h.lost, h.channel, h.silently.trans (.note hn)⟩

theorem modify (h : Becomes s t c) (f : Controller → Controller) : Becomes s (t.modify f) (f c) :=
  ⟨congrArg f h.controller, h.lost, h.channel, h.silently.trans (.of_effects_eq rfl)⟩

theorem exchange (h : Becomes s t c) {α : Type} {run : δ → δ × α} {entry : α → Exchange}
    {notices : α → List Notice}
    (he : (Effect.exchange (entry (run t.state.driver).2)).isSilent = true) :
    Becomes s (t.exchange run entry notices).1 c := by
  rw [exchange_eq]
  refine ⟨by simpa using h.controller, by simpa using h.lost, by simpa using h.channel, ?_⟩
  have hd : Silently t (t.withDriver (run t.state.driver).1) := .of_effects_eq rfl
  exact h.silently.trans (hd.trans ((Silently.record he).trans .relayAll))

theorem requests_eq (h : Becomes s t c) : t.requests = s.requests := by
  unfold requests
  rw [h.channel]

end Becomes

theorem returnClass_becomes (drv : Driver δ) {s t : Session δ κ} {c : Controller}
    (h : Becomes s t c) (complaint : UsbError → Notice) (hc : ∀ e, complaint e ≠ .verified) :
    Becomes s (t.returnClass drv complaint) { c with liveClass := none } := by
  have hm := h.modify ({ · with liveClass := none })
  unfold returnClass
  dsimp only
  split
  · rename_i target device _ _
    have hx : Becomes s ((t.modify ({ · with liveClass := none })).exchange
        (drv.deinit · device target) (.deinit device target ·) fun _ => []).1 _ := hm.exchange rfl
    split
    · rename_i he
      rwa [he] at hx
    · rename_i he
      rw [he] at hx
      exact hx.note (hc _)
  · exact hm

theorem finish_becomes (drv : Driver δ) (s : Session δ κ) :
    Becomes s (s.finish drv) { s.controller with liveClass := none } := by
  have hr : Becomes s (s.resetBus drv) s.controller := by
    unfold resetBus
    split
    · exact .refl
    · exact Becomes.refl.exchange rfl
  have hc := returnClass_becomes drv hr .deinitFailed (by simp)
  refine Becomes.note ?_ (by simp)
  unfold reEnumerate
  split
  · exact hc
  · exact hc.exchange rfl

theorem release_becomes (drv : Driver δ) (s : Session δ κ) :
    Becomes s (s.release drv)
      (Controller.forgetDevice { s.controller with liveClass := none }) := by
  have hc := returnClass_becomes drv (Becomes.refl (s := s)) .deinitAfterDetach (by simp)
  refine Becomes.modify ?_ _
  unfold noteInFlight
  split
  · exact hc.note (by simp)
  · exact hc

/-! ## The attach of a device -/

section
variable (s : Session δ κ) (driver : δ) (device : DeviceHandle) (target : ClassHandle)

/-- The session after the class driver was initialised on a device. -/
def initialised : Session δ κ :=
  (((s.withDriver driver).record (.exchange (.init device (.ok target)))).modify
    (·.startOver target)).note (.downloadStarts s.controller.image.size)

@[simp] theorem controller_initialised :
    (s.initialised driver device target).controller = s.controller.startOver target := rfl

@[simp] theorem lost_initialised :
    (s.initialised driver device target).state.lost = s.state.lost := rfl

@[simp] theorem requests_initialised :
    (s.initialised driver device target).requests = s.requests := rfl

@[simp] theorem effects_initialised : (s.initialised driver device target).effects =
    s.effects ++ [.exchange (.init device (.ok target)),
      .notice (.downloadStarts s.controller.image.size)] := by
  simp [initialised]

theorem account_initialised : (s.initialised driver device target).account =
    s.account.add (.exchange (.init device (.ok target))) := by
  rw [initialised, account_note, account_modify, account_record, account_withDriver,
    Account.add_of_isSilent _ rfl]

end

/-- The class driver is initialised, or says why it cannot be. -/
theorem initialise_answers (drv : Driver δ) (s : Session δ κ) (device : DeviceHandle) :
    (∃ driver cause, s.initialise drv device =
        ((s.withDriver driver).record (.exchange (.init device (.error cause)))).fail
          (.classInit cause)) ∨
      ∃ driver target,
        s.initialise drv device = (s.initialised driver device target).advance .setInterface := by
  unfold initialise
  rw [exchange_eq]
  generalize drv.init s.state.driver device = answer
  obtain ⟨driver, result⟩ := answer
  cases result with
  | error cause => exact .inl ⟨driver, cause, rfl⟩
  | ok target => exact .inr ⟨driver, target, rfl⟩

/-- The class driver is initialised, or cannot be. -/
theorem initialise_cases (drv : Driver δ) (s : Session δ κ) (device : DeviceHandle) :
    (∃ u cause, Becomes s u s.controller ∧ s.initialise drv device = u.fail (.classInit cause)) ∨
      ∃ driver target,
        s.initialise drv device = (s.initialised driver device target).advance .setInterface := by
  refine (initialise_answers drv s device).imp_left fun ⟨driver, cause, he⟩ => ?_
  have hdriver : Silently s (s.withDriver driver) := .of_effects_eq rfl
  exact ⟨(s.withDriver driver).record (.exchange (.init device (.error cause))), cause,
    ⟨rfl, rfl, rfl, hdriver.trans (.record rfl)⟩, he⟩

/-! ## The end of an operation -/

section
variable {s : Session δ κ} {x : Completion} {r : Reply} {op : InFlight}

/-- What the controller makes of a completion that is awaited. -/
def settled (s : Session δ κ) (op : InFlight) (x : Completion) (r : Reply) : Session δ κ :=
  (s.modify fun c => (c.conclude op x.operation r).controller).noteAll
    (s.controller.conclude op x.operation r).notices

@[simp] theorem controller_settled :
    (s.settled op x r).controller = (s.controller.conclude op x.operation r).controller := by
  simp [settled]

@[simp] theorem requests_settled : (s.settled op x r).requests = s.requests := by simp [settled]

@[simp] theorem account_settled : (s.settled op x r).account =
    s.account.addNotices (s.controller.conclude op x.operation r).notices := by
  simp [settled]

@[simp] theorem channel_settled : (s.settled op x r).channel = s.channel := by simp [settled]

@[simp] theorem lost_settled : (s.settled op x r).state.lost = s.state.lost := by simp [settled]

@[simp] theorem driver_settled : (s.settled op x r).state.driver = s.state.driver := by
  simp [settled]

theorem complete_of_ok (hx : s.controller.awaited? x.ticket = some op) {p : Phase}
    (hv : (s.controller.conclude op x.operation r).next = .ok p) :
    s.complete x r = (s.settled op x r).advance p := by
  simp only [complete, hx, update, hv]
  rfl

theorem complete_of_error (hx : s.controller.awaited? x.ticket = some op) {cause : UpgradeError}
    (hv : (s.controller.conclude op x.operation r).next = .error cause) :
    s.complete x r = (s.settled op x r).fail cause := by
  simp only [complete, hx, update, hv]
  rfl

end

/-- Without a lost completion a request is taken as it is. -/
theorem handle_of_lost_eq_none (drv : Driver δ) {s : Session δ κ} (h : s.state.lost = none)
    (q : Request) : (handle drv s q).1 = take drv (s.record (.taken q)) q := by
  have hl : (s.record (.taken q)).checkLost = s.record (.taken q) := by
    simp only [checkLost, lost_record, h]
  exact congrArg (take drv · q) hl

/-! ## The record only grows -/

section
variable (drv : Driver δ) {s t : Session δ κ}

theorem Silently.grows (h : Silently s t) : s.effects <+: t.effects := by
  obtain ⟨later, he, -⟩ := h
  exact ⟨later, he.symm⟩

theorem grows_record (e : Effect) : s.effects <+: (s.record e).effects := by simp

theorem grows_setPhase (p : Phase) : s.effects <+: (s.setPhase p).effects := by simp

theorem grows_fail (cause : UpgradeError) : s.effects <+: (s.fail cause).effects := by simp

theorem grows_advance (p : Phase) : s.effects <+: (s.advance p).effects := by
  unfold advance
  split
  · simp
  · exact grows_fail _

theorem grows_deliver (x : Completion) (r : Reply) :
    s.effects <+: (s.deliver x r).effects := by
  obtain ⟨later, he, -⟩ := effects_deliver (s := s) x r
  exact ⟨_, he.symm⟩

theorem grows_deliverAll (ds : List (Completion × Reply)) :
    ∀ s : Session δ κ, s.effects <+: (s.deliverAll ds).effects := by
  induction ds with
  | nil => exact fun s => List.prefix_rfl
  | cons d ds ih => exact fun s => (grows_deliver d.1 d.2).trans (ih _)

theorem grows_start (target : ClassHandle) (request : ClassCall) (length : Nat) :
    s.effects <+: (s.start drv target request length).effects := by
  have hh : s.effects <+: (s.handOver drv target request length).effects := by simp
  rw [start_eq]
  split
  · exact hh.trans (grows_deliverAll _ _)
  · exact (hh.trans (grows_deliverAll _ _)).trans (grows_fail _)

theorem grows_initialise (device : DeviceHandle) :
    s.effects <+: (s.initialise drv device).effects := by
  rcases initialise_cases drv s device with ⟨u, cause, hu, he⟩ | ⟨driver, target, he⟩
  · rw [he]
    exact hu.silently.grows.trans (grows_fail _)
  · rw [he]
    refine List.IsPrefix.trans ?_ (grows_advance _)
    simp

theorem grows_perform (action : Action) : s.effects <+: (s.perform drv action).effects := by
  cases action with
  | release => exact (release_becomes drv s).silently.grows
  | initialise device => exact grows_initialise drv device
  | start request length =>
    unfold perform
    dsimp only
    split
    · exact grows_start drv _ request length
    · exact grows_fail _
  | skip next => exact grows_advance next
  | finish => exact (finish_becomes drv s).silently.grows
  | report n => exact grows_record _
  | fail cause => exact grows_fail cause

theorem grows_step (p : Phase) : s.effects <+: (s.step drv p).effects := by
  unfold step
  split
  · exact grows_record _
  · dsimp only
    split
    · exact (grows_perform drv _).trans (grows_setPhase _)
    · exact (grows_setPhase _).trans (grows_perform drv _)

theorem grows_complete (x : Completion) (r : Reply) :
    s.effects <+: (s.complete x r).effects := by
  unfold complete
  split
  · exact grows_record _
  · simp only [update]
    split
    · refine List.IsPrefix.trans ?_ (grows_advance _)
      rw [effects_noteAll]
      exact List.prefix_append _ _
    · refine List.IsPrefix.trans ?_ (grows_fail _)
      rw [effects_noteAll]
      exact List.prefix_append _ _

theorem grows_checkLost : s.effects <+: s.checkLost.effects := by
  unfold checkLost
  split
  · exact List.prefix_rfl
  · dsimp only
    split
    · exact grows_fail (s := { s with state := { s.state with lost := none } }) _
    · exact grows_record (s := { s with state := { s.state with lost := none } }) _

theorem grows_take (q : Request) : s.effects <+: (take drv s q).effects := by
  cases q with
  | nextPhase p => exact grows_step drv p
  | completed x r => exact grows_complete x r
  | bind b =>
    unfold take bind
    dsimp only
    split <;> exact grows_record _

/-- Nothing is ever taken back from the record. -/
theorem grows_handle (q : Request) : s.effects <+: effects (handle drv s q).1 :=
  ((grows_record (.taken q)).trans grows_checkLost).trans (grows_take drv q)

end

end Session

end FirmwareUpgrade
