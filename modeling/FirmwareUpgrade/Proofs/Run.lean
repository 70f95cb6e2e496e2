import FirmwareUpgrade.Installation
import FirmwareUpgrade.Proofs.Handling

/-!
# Runs of an installation

A run is any sequence of moves in which only the event handler and the controller feed the queue:
events of the host stack, requests that the worker handles one at a time, changes of the driver, and
completions that it calls. The driver is an arbitrary one, held only to calling a completion no
more often than it was given it. `Run.upholds` carries the course of the upgrade through a run.
-/
namespace FirmwareUpgrade

/-- One move. -/
inductive Move (δ : Type) where
  | event (vendor product : UInt16) (host : HostHandle) (device : DeviceHandle)
    (event : HostEvent)
  /-- The worker handles the oldest request. -/
  | work
  /-- The driver changes, and reports something. -/
  | drive (driver : δ) (notices : List Notice)
  /-- The driver calls a completion. -/
  | complete (completion : Completion) (reply : Reply)

def Move.isDetach {δ : Type} : Move δ → Bool
  | event _ _ _ _ .detach => true
  | _ => false

namespace Installation

variable {δ κ : Type}

abbrev session (i : Installation δ κ) : Session δ κ := i.worker.service

abbrev effects (i : Installation δ κ) : List Effect := i.session.effects

def move (drv : Driver δ) (i : Installation δ κ) : Move δ → Installation δ κ
  | .event vendor product host device event => (i.dispatch vendor product host device event).1
  | .work => { i with worker := (i.worker.drain (Session.handle drv) 1 0).1 }
  | .drive driver notices =>
    i.modify fun s => Session.relayAll (Session.withDriver s driver) notices
  | .complete completion reply => i.modify fun s => Session.deliver s completion reply

/-- A run from one installation to another with moves of some kind, in which the driver is
honest. -/
inductive Run (drv : Driver δ) (allowed : Move δ → Prop) (start : Installation δ κ) :
    Installation δ κ → Prop
  | start : Run drv allowed start start
  | next {i : Installation δ κ} (m : Move δ) : Run drv allowed start i → allowed m →
    Honest (i.move drv m).effects → Run drv allowed start (i.move drv m)

/-! ## What a move does to the session -/

/-- The requests that events amount to neither step on in the course of an upgrade nor report a
completion. -/
theorem request_of_event {host : HostHandle} {device : DeviceHandle} {event : HostEvent}
    {q : Request} (h : event.request host device = .ok q) :
    q.transition? = none ∧ q.completion? = none ∧
      (event ≠ .detach → q ≠ .nextPhase .unattached) := by
  cases event with
  | attach configuration =>
    unfold HostEvent.request at h
    dsimp only at h
    split at h
    · obtain rfl := Except.ok.inj h
      simp [Request.transition?, Request.completion?]
    · simp at h
  | enumerationDone =>
    obtain rfl := Except.ok.inj h
    simp [Request.transition?, Request.completion?]
  | detach =>
    obtain rfl := Except.ok.inj h
    simp [Request.transition?, Request.completion?]
  | other code => simp [HostEvent.request] at h

/-- An event queues at most the request that it amounts to, and is otherwise only reported. -/
theorem session_dispatch (i : Installation δ κ) (vendor product : UInt16) (host : HostHandle)
    (device : DeviceHandle) (event : HostEvent) :
    ∃ channel notices,
      (i.dispatch vendor product host device event).1.session =
        Session.noteAll { i.session with channel := channel } notices ∧
      .verified ∉ notices ∧
      (channel = i.channel ∨ ∃ q, event.request host device = .ok q ∧
        i.channel.refusal? = none ∧ channel = i.channel.send q) := by
  have hnotices : .verified ∉ event.notices device := by
    cases event with
    | attach configuration =>
      unfold HostEvent.notices
      dsimp only
      split <;> simp
    | _ => simp [HostEvent.notices]
  unfold dispatch Dispatcher.dispatch
  cases i.dispatcher.lookup? vendor product with
  | none => exact ⟨i.channel, [.noDriver vendor product], rfl, by simp, .inl rfl⟩
  | some callback =>
    cases hq : event.request host device with
    | error status =>
      refine ⟨i.channel, [], ?_, by simp, .inl rfl⟩
      simp [react, HostEvent.post, hq, modify]
    | ok q =>
      cases hr : i.channel.refusal? with
      | none =>
        refine ⟨i.channel.send q, event.notices device, ?_, hnotices, .inr ⟨q, rfl, rfl, rfl⟩⟩
        simp [react, HostEvent.post, hq, hr, modify]
      | some reason =>
        refine ⟨i.channel, event.notices device ++ [.eventDropped reason], ?_, ?_, .inl rfl⟩
        · simp [react, HostEvent.post, hq, hr, modify]
        · simp [hnotices]

/-- The event handler has no state that could change. -/
theorem update_unit (vendor product : UInt16) (rs : List (Registration Unit)) :
    Dispatcher.update vendor product () rs = rs := by
  induction rs with
  | nil => rfl
  | cons r rs ih =>
    unfold Dispatcher.update
    rw [ih]
    split <;> rfl

theorem dispatcher_dispatch (i : Installation δ κ) (vendor product : UInt16) (host : HostHandle)
    (device : DeviceHandle) (event : HostEvent) :
    (i.dispatch vendor product host device event).1.dispatcher = i.dispatcher := by
  show (i.dispatcher.dispatch react vendor product host device event i.channel).1 = _
  unfold Dispatcher.dispatch
  split
  · rfl
  · exact congrArg Dispatcher.mk (update_unit vendor product i.dispatcher.registrations)

/-- The request that an event amounts to is queued if its device is known and there is room. -/
theorem dispatch_of_room {i : Installation δ κ} {vendor product : UInt16} {host : HostHandle}
    {device : DeviceHandle} {event : HostEvent} {q : Request}
    (hl : i.dispatcher.lookup? vendor product = some ()) (hq : event.request host device = .ok q)
    (hr : i.channel.refusal? = none) :
    (i.dispatch vendor product host device event).2 = .success ∧
      (i.dispatch vendor product host device event).1.session =
        Session.noteAll (i.session.post q) (event.notices device) := by
  unfold dispatch Dispatcher.dispatch
  rw [hl]
  simp [react, HostEvent.post, hq, hr, modify, Session.post]

/-- Otherwise the host stack is not told that the event was accepted. -/
theorem room_of_success {i : Installation δ κ} {vendor product : UInt16} {host : HostHandle}
    {device : DeviceHandle} {event : HostEvent} {q : Request}
    (hq : event.request host device = .ok q)
    (h : (i.dispatch vendor product host device event).2 = .success) :
    i.dispatcher.lookup? vendor product = some () ∧ i.channel.refusal? = none := by
  unfold dispatch Dispatcher.dispatch at h
  cases hl : i.dispatcher.lookup? vendor product with
  | none => simp [hl] at h
  | some callback =>
    cases hr : i.channel.refusal? with
    | some reason => simp [hl, react, HostEvent.post, hq, hr] at h
    | none => exact ⟨rfl, rfl⟩

/-- The requests behind those of a session that stem from the host stack. -/
def FromHost (m : Move δ) (q : Request) : Prop :=
  q.transition? = none ∧ q.completion? = none ∧
    (m.isDetach = false → q ≠ .nextPhase .unattached)

/-- A move of the host stack or of the driver leaves the controller alone, but an event may queue a
request. -/
structure Aside (m : Move δ) (s t : Session δ κ) : Prop where
  controller : t.controller = s.controller
  lost : t.state.lost = s.state.lost
  silently : Session.Silently s t
  requests : t.requests = s.requests ∨ ∃ q, FromHost m q ∧ t.requests = s.requests ++ [q]

theorem aside_event (drv : Driver δ) (i : Installation δ κ) (vendor product : UInt16)
    (host : HostHandle) (device : DeviceHandle) (event : HostEvent) :
    Aside (.event vendor product host device event) i.session
      (i.move drv (.event vendor product host device event)).session := by
  obtain ⟨channel, notices, hs, hn, hc⟩ := i.session_dispatch vendor product host device event
  change Aside _ _ (i.dispatch vendor product host device event).1.session
  rw [hs]
  refine ⟨by simp, by simp, (Session.Silently.of_effects_eq rfl).trans (.noteAll hn), ?_⟩
  rw [Session.requests_noteAll]
  rcases hc with rfl | ⟨q, hq, hr, rfl⟩
  · exact .inl rfl
  · obtain ⟨ht, hcq, hd⟩ := request_of_event hq
    refine .inr ⟨q, ⟨ht, hcq, fun hm => hd ?_⟩, Session.requests_post q hr⟩
    rintro rfl
    simp [Move.isDetach] at hm

theorem aside_drive (drv : Driver δ) (i : Installation δ κ) (driver : δ) (notices : List Notice) :
    Aside (.drive driver notices) i.session (i.move drv (.drive driver notices)).session :=
  ⟨Session.controller_relayAll _ _, Session.lost_relayAll _ _,
    (Session.Silently.of_effects_eq rfl).trans .relayAll, .inl (Session.requests_relayAll _ _)⟩

/-- The worker takes the oldest request from the queue and hands it to the controller. -/
theorem session_work (drv : Driver δ) (i : Installation δ κ) :
    i.session.requests = [] ∧ (i.move drv .work).session = i.session ∨
      ∃ q, i.session.requests = q :: i.session.dropOldest.requests ∧
        (i.move drv .work).session = (Session.handle drv i.session.dropOldest q).1 := by
  unfold move Session.requests Session.dropOldest Channel.dropOldest
  dsimp only
  cases hw : i.channel.waiting with
  | nil => exact .inl ⟨rfl, by simp [Worker.drain, hw]⟩
  | cons e rest =>
    exact .inr ⟨e.request, rfl, by simp [Worker.drain, hw, Worker.dispatch, Channel.dropOldest]⟩

theorem session_work_of_requests (drv : Driver δ) {i : Installation δ κ} {q : Request}
    {rest : List Request} (h : i.session.requests = q :: rest) :
    (i.move drv .work).session = (Session.handle drv i.session.dropOldest q).1 ∧
      i.session.dropOldest.requests = rest := by
  rcases i.session_work drv with ⟨hnil, -⟩ | ⟨q', hq, hs⟩
  · simp [hnil] at h
  · rw [h, List.cons.injEq] at hq
    obtain ⟨rfl, hrest⟩ := hq
    exact ⟨hs, hrest.symm⟩

theorem grows_move (drv : Driver δ) (i : Installation δ κ) (m : Move δ) :
    i.effects <+: (i.move drv m).effects := by
  cases m with
  | event vendor product host device event =>
    exact (aside_event drv i vendor product host device event).silently.grows
  | work =>
    rcases i.session_work drv with ⟨-, hs⟩ | ⟨q, -, hs⟩
    · rw [effects, effects, hs]
    · rw [effects, effects, hs]
      exact Session.grows_handle drv (s := i.session.dropOldest) q
  | drive driver notices => exact (aside_drive drv i driver notices).silently.grows
  | complete x r => exact Session.grows_deliver x r

/-! ## What a run keeps -/

theorem Aside.upholds {T : Terms} {m : Move δ} {s t : Session δ κ} (h : Aside m s t)
    (hm : T.kept → m.isDetach = false) (hs : s.Upholds T) : t.Upholds T where
  course := by
    rw [h.controller, h.silently.account_eq]
    rcases h.requests with hr | ⟨q, ⟨ht, hq, hd⟩, hr⟩
    · rw [hr]
      exact hs.course
    · rw [hr]
      exact hs.course.post ht hq fun hT => hd (hm hT)
  sound := h.silently.sound hs.sound
  lost := by
    intro op hop hlost
    rw [h.controller] at hop
    rw [h.lost] at hlost
    rw [h.silently.account_eq]
    rcases h.requests with hr | ⟨q, ⟨-, hq, -⟩, hr⟩
    · rw [hr]
      exact hs.lost op hop hlost
    · rw [hr, Account.outstanding_append, hs.lost op hop hlost]
      simp [hq]

/-- No move puts the upgrade off course. -/
theorem upholds_move (drv : Driver δ) {T : Terms} {i : Installation δ κ} {m : Move δ}
    (h : i.session.Upholds T) (hm : T.kept → m.isDetach = false)
    (hk : T.kept ∨ (issued i.effects).length < 2 ^ 32) (hh : Honest (i.move drv m).effects) :
    (i.move drv m).session.Upholds T := by
  cases m with
  | event vendor product host device event =>
    exact (aside_event drv i vendor product host device event).upholds hm h
  | work =>
    rcases i.session_work drv with ⟨-, hs⟩ | ⟨q, hq, hs⟩
    · rwa [hs]
    · rw [effects, hs] at hh
      rw [hs]
      have hc := h.course
      rw [hq] at hc
      exact Session.upholds_handle drv hc h.sound hk fun _ => hh
  | drive driver notices => exact (aside_drive drv i driver notices).upholds hm h
  | complete x r => exact Session.upholds_deliver x r h (Session.held_of_honest hh)

theorem length_issued_le {a b : List Effect} (h : a <+: b) :
    (issued a).length ≤ (issued b).length :=
  (h.filterMap _).length_le

/-- A run of fewer than `2 ^ 32` operations, or one without a detach, stays on course. -/
theorem Run.upholds {drv : Driver δ} {T : Terms} {allowed : Move δ → Prop}
    {start i : Installation δ κ} (h : Run drv allowed start i) (h0 : start.session.Upholds T)
    (hm : ∀ m, allowed m → T.kept → m.isDetach = false)
    (hk : T.kept ∨ (issued i.effects).length < 2 ^ 32) : i.session.Upholds T := by
  induction h with
  | start => exact h0
  | next m _ hallowed hh ih =>
    have hk' := hk.imp_right (length_issued_le (grows_move drv _ m)).trans_lt
    exact upholds_move drv (ih hk') (hm m hallowed) hk' hh

theorem length_calls (effects : List Effect) : (calls effects).length = (issued effects).length := by
  induction effects with
  | nil => rfl
  | cons e effects ih =>
    unfold calls issued at ih ⊢
    rw [List.filterMap_cons, List.filterMap_cons]
    cases e with
    | exchange x => cases x <;> simpa [Effect.call?, Effect.issued?] using ih
    | _ => simpa [Effect.call?, Effect.issued?] using ih

theorem upholds_new (driver : δ) (image : Bytes) (config : Config) (kept : Prop) :
    (new driver image config : Installation δ κ).session.Upholds ⟨image, config, kept⟩ where
  course :=
    { base := ⟨rfl, rfl, rfl, fun _ h => absurd h List.not_mem_nil,
        fun _ _ h => absurd h List.not_mem_nil, fun _ h => absurd h List.not_mem_nil,
        fun _ => List.not_mem_nil, fun _ => rfl, fun _ h => absurd rfl h⟩
      stage := .away ⟨rfl, rfl, rfl, rfl, fun _ => ⟨rfl, rfl, rfl, fun _ => rfl⟩⟩ }
  sound := .nil
  lost := .of_none rfl

/-! ## Runs that are given move by move -/

def moves (drv : Driver δ) (i : Installation δ κ) (ms : List (Move δ)) : Installation δ κ :=
  ms.foldl (move drv) i

/-- A list of moves makes a run if each is of the kind that is allowed and leaves the driver
honest. -/
def Plays (drv : Driver δ) (allowed : Move δ → Prop) (i : Installation δ κ) :
    List (Move δ) → Prop
  | [] => True
  | m :: ms => allowed m ∧ Honest (i.move drv m).effects ∧ Plays drv allowed (i.move drv m) ms

theorem Run.trans {drv : Driver δ} {allowed : Move δ → Prop} {i j k : Installation δ κ}
    (h : Run drv allowed i j) (h' : Run drv allowed j k) : Run drv allowed i k := by
  induction h' with
  | start => exact h
  | next m _ hallowed hh ih => exact .next m ih hallowed hh

theorem Run.of_plays {drv : Driver δ} {allowed : Move δ → Prop} {ms : List (Move δ)} :
    ∀ {i : Installation δ κ}, Plays drv allowed i ms →
      Run drv allowed i (i.moves drv ms) := by
  induction ms with
  | nil => exact fun _ => .start
  | cons m ms ih =>
    intro i h
    exact (Run.next m .start h.1 h.2.1).trans (ih h.2.2)

instance decidablePlays (drv : Driver δ) (allowed : Move δ → Prop) [DecidablePred allowed] :
    ∀ (i : Installation δ κ) (ms : List (Move δ)), Decidable (Plays drv allowed i ms)
  | _, [] => isTrue trivial
  | i, m :: ms =>
    have := decidablePlays drv allowed (i.move drv m) ms
    inferInstanceAs (Decidable (_ ∧ _ ∧ _))

deriving instance DecidableEq for Except
deriving instance DecidableEq for Request

/-! ## A run in which nothing fails -/

/-- A driver that accepts everything and calls nothing. Its state is the last class handle. -/
def obliging : Driver Nat where
  init n _ := (n + 1, .ok ⟨n + 1⟩)
  submit n _ _ _ := (n, ⟨.ok (), [], []⟩)
  deinit n _ _ := (n, .ok ())
  busReset n _ := (n, [])
  reEnumerate n _ := (n, [])

/-- The accelerator attaches and is enumerated. -/
def enumeration : List (Move Nat) :=
  [.event dfuVendor dfuProduct Accelerator.host Accelerator.device
    (.attach Accelerator.configuration),
    .event dfuVendor dfuProduct Accelerator.host Accelerator.device .enumerationDone]

/-- An operation succeeds, and the worker goes on as far as it can. -/
def fulfil (ticket : UInt32) (operation : Operation) (data : Bytes) : List (Move Nat) :=
  [.complete ⟨ticket, operation⟩ (.ok data), .work, .work]

def wellStatus : Bytes := #[0, 0, 0, 0, 2, 0]

/-- The upgrade with an image of one byte up to the last status check of the read-back. -/
def ordinaryTransfer (byte : UInt8) : List (Move Nat) :=
  [enumeration, [.work, .work, .work], fulfil 0 .setInterface #[], fulfil 1 .getStatus wellStatus,
    fulfil 2 .dnload #[], fulfil 3 .getStatus wellStatus, fulfil 4 .dnload #[],
    fulfil 5 .upload #[byte]].flatten

/-- The whole upgrade with an image of one byte. -/
def ordinary (byte : UInt8) : List (Move Nat) :=
  [ordinaryTransfer byte, fulfil 6 .getStatus wellStatus, fulfil 7 .detach #[]].flatten

/-- The installation that the moves are made on. -/
def blank (byte : UInt8) : Installation Nat Unit := new 0 #[byte] .standard

end Installation

end FirmwareUpgrade
