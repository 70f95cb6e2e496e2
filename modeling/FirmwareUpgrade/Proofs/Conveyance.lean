import FirmwareUpgrade.Bench.Switchboard

/-!
# Events become requests

Event handlers are registered for any number of pairs and share one queue, from which a worker
collects. What the host stack asks for is written down with the answers, and so is what the worker
received and what was lost with the queue when it was closed. `Conveys` says that the requests are
what the accepted events amount to, in the order of the events, and `Answers` when an event is
accepted.

The worker may collect at any time, one request or all that wait, so nothing hangs on when it runs.
An event for a pair without a handler does not reach the queue.
-/
namespace FirmwareUpgrade

/-- An event that is handed to an event handler, with the device that it is about. -/
structure Posting where
  host : HostHandle
  device : DeviceHandle
  event : HostEvent

namespace Posting

/-- The request that an event amounts to, if it asks for one. A device that attached is bound to the
first of its interfaces that is of the application-specific class and the subclass of upgrades. -/
def request? (p : Posting) : Option Request :=
  match p.event with
  | .attach configuration =>
    (configuration.interfaces.find? fun i => i.interfaceClass = 0xFE ∧ i.subclass = 0x01).map
      fun i => .bind ⟨p.host, p.device, i.handle⟩
  | .enumerationDone => some (.nextPhase .attached)
  | .detach => some (.nextPhase .unattached)
  | .other _ => none

/-- The answer to an event that asks for no request. -/
def dismissal (p : Posting) : EventStatus :=
  match p.event with
  | .attach _ => .notSupported
  | _ => .success

end Posting

theorem Channel.refusal?_eq_none_iff {ρ κ : Type} {c : Channel ρ κ}
    (hroom : c.waiting.length ≤ c.capacity) :
    c.refusal? = none ↔ ¬(c.isOpen = false ∨ c.waiting.length = c.capacity) := by
  cases hopen : c.isOpen with
  | false => simp [refusal?, hopen]
  | true =>
    have hlt : c.waiting.length < c.capacity ↔ c.waiting.length ≠ c.capacity := by omega
    simp [refusal?, hopen, hlt]

namespace HostEvent

variable {κ : Type} (host : HostHandle) (device : DeviceHandle) (event : HostEvent)

theorem request_eq : event.request host device =
    match Posting.request? ⟨host, device, event⟩ with
    | some q => .ok q
    | none => .error (Posting.dismissal ⟨host, device, event⟩) := by
  cases event with
  | attach configuration =>
    have hspeaks : Interface.isDfu =
        fun i => decide (i.interfaceClass = 0xFE ∧ i.subclass = 0x01) := by
      funext i
      simp only [Interface.isDfu, dfuClass, dfuSubclass, Bool.decide_and]
      rfl
    unfold request Configuration.dfuInterface? Posting.request?
    rw [hspeaks]
    dsimp only
    cases configuration.interfaces.find? _ <;> rfl
  | _ => rfl

/-- An event that asks for no request leaves the queue alone. -/
theorem post_of_none (h : Posting.request? ⟨host, device, event⟩ = none) (c : Channel Request κ) :
    event.post host device c = (c, Posting.dismissal ⟨host, device, event⟩, []) := by
  unfold post
  rw [request_eq, h]

/-- Any other event sends its request, and is answered by what the queue says. -/
theorem post_of_some {q : Request} (h : Posting.request? ⟨host, device, event⟩ = some q)
    (c : Channel Request κ) :
    (event.post host device c).1 = c.push ⟨q, none⟩ ∧
      (event.post host device c).2.1 =
        match c.pushResult with
        | .ok () => .success
        | .error _ => .busy := by
  unfold post
  rw [request_eq, h]
  unfold Channel.pushResult
  cases hr : c.refusal? with
  | none => exact ⟨rfl, rfl⟩
  | some reason => exact ⟨(Channel.push_of_refusal?_eq_some _ hr).symm, rfl⟩

end HostEvent

namespace Switchboard

abbrev channel (b : Switchboard) : Channel Request Unit := b.worker.service.channel

/-! ## What is done and what happens -/

/-- One thing to be done with a switchboard. -/
inductive Action where
  | register (vendor product : UInt16) (listener : Listener)
  | dispatch (vendor product : UInt16) (host : HostHandle) (device : DeviceHandle)
      (event : HostEvent)
  /-- The worker collects one request. -/
  | receive
  /-- The worker collects what waits. -/
  | drain
  | close

/-- The worker collects one request, if any waits. -/
def receive (b : Switchboard) : Switchboard × Option Request :=
  match b.channel.waiting.head? with
  | none => (b, none)
  | some e => ({ b with worker := b.worker.dispatch collect e }, some e.request)

/-- A switchboard with what has happened to it, oldest first. -/
structure Chronicle where
  board : Switchboard
  /-- The events that were handed to an event handler, with the answers. -/
  answered : List (Posting × EventStatus)
  /-- The requests that the worker received. -/
  received : List Request
  /-- The requests that were lost when the queue was closed. -/
  discarded : List Request

namespace Chronicle

def new (capacity : Nat) : Chronicle := ⟨.new capacity, [], [], []⟩

def next (c : Chronicle) : Action → Chronicle
  | .register vendor product listener =>
    { c with board := c.board.register vendor product listener }
  | .dispatch vendor product host device event =>
    let (board, status, _) := c.board.dispatch vendor product host device event
    let answer := (⟨host, device, event⟩, status)
    match c.board.dispatcher.lookup? vendor product with
    | some .handler => { c with board, answered := c.answered ++ [answer] }
    | _ => { c with board }
  | .receive =>
    let (board, request?) := c.board.receive
    { c with board, received := c.received ++ request?.toList }
  | .drain =>
    match c.board.drain with
    | (board, some (requests, _)) => { c with board, received := c.received ++ requests.toList }
    | (board, none) => { c with board }
  | .close =>
    { c with
      board := c.board.close
      discarded := c.discarded ++ c.board.channel.waiting.map (·.request) }

def after (c : Chronicle) (actions : List Action) : Chronicle := actions.foldl next c

/-- The requests that the events amount to that were answered with success. -/
def translations (c : Chronicle) : List Request :=
  (c.answered.filter (·.2 = .success)).filterMap (·.1.request?)

end Chronicle

/-! ## What is to be shown -/

/-- An event with an event handler is answered by what it asks for and by what the queue can take,
and a refused event is forgotten. -/
structure Answers (p : Posting) (before after : Channel Request Unit) (status : EventStatus) :
    Prop where
  idle : p.request? = none → status = p.dismissal ∧ after = before
  busy : ∀ q, p.request? = some q →
    (status = .busy ↔ before.isOpen = false ∨ before.waiting.length = before.capacity)
  refused : status = .busy → after = before
  accepted : ∀ q, p.request? = some q → status ≠ .busy →
    status = .success ∧ after = { before with waiting := before.waiting ++ [⟨q, none⟩] }

namespace Chronicle

/-- No request is lost, doubled or overtaken on its way from the events to the worker. -/
structure Ordered (capacity : Nat) (actions : List Action) (c : Chronicle) : Prop where
  capacity : c.board.channel.capacity = max capacity minQueueCapacity
  room : c.board.channel.waiting.length ≤ c.board.channel.capacity
  isClosed : c.board.channel.isOpen = false ↔ .close ∈ actions
  order : c.received ++ c.discarded ++ c.board.channel.waiting.map (·.request) = c.translations
  /-- Nothing is lost but by closing the queue, and nothing waits behind that. -/
  kept : if c.board.channel.isOpen then c.discarded = [] else c.board.channel.waiting = []

/-- The requests are in order behind some actions, and the next event is answered as it should
be. -/
structure Conveys (capacity : Nat) (actions : List Action) (c : Chronicle) : Prop
    extends Ordered capacity actions c where
  answers : ∀ vendor product host device event,
    c.board.dispatcher.lookup? vendor product = some .handler →
    Answers ⟨host, device, event⟩ c.board.channel
      (c.board.dispatch vendor product host device event).1.channel
      (c.board.dispatch vendor product host device event).2.1

end Chronicle

/-! ## Events and the queue -/

section
variable {b : Switchboard} {vendor product : UInt16} (host : HostHandle) (device : DeviceHandle)
  (event : HostEvent)

theorem dispatch_of_handler (h : b.dispatcher.lookup? vendor product = some .handler) :
    (b.dispatch vendor product host device event).1.channel =
        (event.post host device b.channel).1 ∧
      (b.dispatch vendor product host device event).2.1 =
        (event.post host device b.channel).2.1 := by
  simp [dispatch, Dispatcher.dispatch, h, Listener.react]

/-- Only the event handler touches the queue. -/
theorem dispatch_of_ne_handler (h : b.dispatcher.lookup? vendor product ≠ some .handler) :
    (b.dispatch vendor product host device event).1.channel = b.channel := by
  cases hl : b.dispatcher.lookup? vendor product with
  | none => simp [dispatch, Dispatcher.dispatch, hl]
  | some listener =>
    cases listener with
    | handler => exact absurd hl h
    | recorder name answer => simp [dispatch, Dispatcher.dispatch, hl, Listener.react]

/-- The event handler answers as it should, whatever waits. -/
theorem answers_post {c : Channel Request Unit} (hroom : c.waiting.length ≤ c.capacity) :
    Answers ⟨host, device, event⟩ c (event.post host device c).1
      (event.post host device c).2.1 := by
  cases hq : Posting.request? ⟨host, device, event⟩ with
  | none =>
    rw [event.post_of_none host device hq]
    refine ⟨fun _ => ⟨rfl, rfl⟩, fun q h => ?_, fun _ => rfl, fun q h => ?_⟩
    all_goals simp [hq] at h
  | some q =>
    obtain ⟨hchannel, hstatus⟩ := event.post_of_some host device hq c
    have hidle : Posting.request? ⟨host, device, event⟩ ≠ none := by simp [hq]
    have hrefusal := Channel.refusal?_eq_none_iff hroom
    rw [hchannel, hstatus]
    cases hr : c.refusal? with
    | none =>
      have hresult : c.pushResult = .ok () := by simp [Channel.pushResult, hr]
      rw [hresult]
      refine ⟨fun h => absurd h hidle, fun q' _ => ?_, nofun, fun q' h _ => ⟨rfl, ?_⟩⟩
      · exact iff_of_false nofun (hrefusal.mp hr)
      · obtain rfl := Option.some.inj (hq.symm.trans h)
        simp [Channel.push, hr]
    | some reason =>
      have hresult : c.pushResult = .error reason := by simp [Channel.pushResult, hr]
      rw [hresult]
      refine ⟨fun h => absurd h hidle, fun q' _ => ?_, fun _ => ?_, fun q' _ h => absurd rfl h⟩
      · exact iff_of_true rfl (Decidable.not_not.mp (mt hrefusal.mpr (by simp [hr])))
      · exact Channel.push_of_refusal?_eq_some _ hr

end

/-! ## The worker and the queue -/

theorem receive_of_idle {b : Switchboard} (h : b.channel.waiting.head? = none) :
    b.receive = (b, none) := by
  simp [receive, h]

theorem receive_of_waiting {b : Switchboard} {e : Envelope Request Unit}
    (h : b.channel.waiting.head? = some e) :
    b.receive = ({ b with worker := b.worker.dispatch collect e }, some e.request) := by
  simp [receive, h]

/-- A worker with nothing to do but collect takes all that waits, in order. -/
theorem drain_collect (fuel : Nat) :
    ∀ {w : Worker (Array Request) Request Unit Unit} (count : Nat),
      w.service.channel.waiting.length = fuel →
      (w.drain collect fuel count).1.service.channel = { w.service.channel with waiting := [] } ∧
        (w.drain collect fuel count).1.service.state.toList =
          w.service.state.toList ++ w.service.channel.waiting.map (·.request) := by
  induction fuel with
  | zero =>
    intro w count h
    obtain ⟨⟨state, ⟨capacity, waiting, senders, isOpen⟩⟩, responses⟩ := w
    obtain rfl := List.length_eq_zero_iff.mp h
    simp [Worker.drain]
  | succ fuel ih =>
    intro w count h
    obtain ⟨⟨state, ⟨capacity, waiting, senders, isOpen⟩⟩, responses⟩ := w
    cases waiting with
    | nil => simp at h
    | cons e rest =>
      have hrest := ih (w := Worker.dispatch collect
        ⟨⟨state, ⟨capacity, e :: rest, senders, isOpen⟩⟩, responses⟩ e) (count + 1)
        (by simpa [Worker.dispatch, collect, Channel.dropOldest] using h)
      simpa [Worker.drain, Worker.dispatch, collect, Channel.dropOldest] using hrest

namespace Chronicle

variable {capacity : Nat} {actions : List Action} {c d : Chronicle} {a : Action}

theorem ordered_new (capacity : Nat) : Ordered capacity [] (new capacity) where
  capacity := rfl
  room := Nat.zero_le _
  isClosed := by simp [new, Switchboard.new, channel, Worker.new, Channel.bounded]
  order := rfl
  kept := rfl

/-- Anything but closing the queue keeps it open or closed. -/
theorem Ordered.go_on (h : Ordered capacity actions c) (ha : a ≠ .close)
    {waiting : List (Envelope Request Unit)}
    (hchannel : d.board.channel = { c.board.channel with waiting })
    (hroom : waiting.length ≤ c.board.channel.capacity)
    (horder : d.received ++ d.discarded ++ waiting.map (·.request) = d.translations)
    (hdiscarded : d.discarded = c.discarded)
    (hkept : c.board.channel.isOpen = false → waiting = []) :
    Ordered capacity (actions ++ [a]) d where
  capacity := by rw [hchannel, ← h.capacity]
  room := by rwa [hchannel]
  isClosed := by
    rw [hchannel, h.isClosed]
    simp [ha.symm]
  order := by rwa [hchannel]
  kept := by
    rw [hchannel, hdiscarded]
    have hopen := h.kept
    split
    · rwa [if_pos ‹_›] at hopen
    · exact hkept (Bool.eq_false_iff.mpr ‹_›)

theorem Ordered.stay (h : Ordered capacity actions c) (ha : a ≠ .close)
    (hchannel : d.board.channel = c.board.channel) (hreceived : d.received = c.received)
    (hdiscarded : d.discarded = c.discarded) (htranslations : d.translations = c.translations) :
    Ordered capacity (actions ++ [a]) d := by
  refine h.go_on ha hchannel h.room ?_ hdiscarded fun hclosed => ?_
  · rw [hreceived, hdiscarded, htranslations, h.order]
  · have hkept := h.kept
    rwa [hclosed] at hkept

theorem translations_of_answered {p : Posting} {status : EventStatus}
    (h : d.answered = c.answered ++ [(p, status)]) :
    d.translations = c.translations ++ if status = .success then p.request?.toList else [] := by
  unfold translations
  rw [h, List.filter_append, List.filterMap_append]
  by_cases hs : status = .success
  · cases hp : p.request? <;> simp [hs, hp]
  · simp [hs]

/-- An event that is handed to the event handler adds a request if it is answered with success. -/
theorem Ordered.answered (h : Ordered capacity actions c) (ha : a ≠ .close) {p : Posting}
    {status : EventStatus} (hp : Answers p c.board.channel d.board.channel status)
    (hanswered : d.answered = c.answered ++ [(p, status)]) (hreceived : d.received = c.received)
    (hdiscarded : d.discarded = c.discarded) : Ordered capacity (actions ++ [a]) d := by
  have htranslations := translations_of_answered hanswered
  cases hq : p.request? with
  | none =>
    refine h.stay ha (hp.idle hq).2 hreceived hdiscarded ?_
    simpa [hq] using htranslations
  | some q =>
    by_cases hbusy : status = .busy
    · refine h.stay ha (hp.refused hbusy) hreceived hdiscarded ?_
      simpa [hbusy] using htranslations
    · obtain ⟨rfl, hchannel⟩ := hp.accepted q hq hbusy
      obtain ⟨hopen, hlt⟩ := not_or.mp (mt (hp.busy q hq).mpr hbusy)
      refine h.go_on ha hchannel ?_ ?_ hdiscarded fun hclosed => absurd hclosed hopen
      · have hroom := h.room
        simp only [List.length_append, List.length_singleton]
        omega
      · rw [htranslations, ← h.order, hreceived, hdiscarded]
        simp [hq]

theorem Ordered.dispatch (h : Ordered capacity actions c) (vendor product : UInt16)
    (host : HostHandle) (device : DeviceHandle) (event : HostEvent) :
    Ordered capacity (actions ++ [.dispatch vendor product host device event])
      (c.next (.dispatch vendor product host device event)) := by
  by_cases hl : c.board.dispatcher.lookup? vendor product = some .handler
  · obtain ⟨hchannel, hstatus⟩ := dispatch_of_handler host device event hl
    have hanswers := answers_post host device event h.room
    rw [← hchannel, ← hstatus] at hanswers
    simp only [next, hl]
    exact h.answered (by simp) hanswers rfl rfl rfl
  · have hchannel := dispatch_of_ne_handler host device event hl
    simp only [next]
    exact h.stay (by simp) hchannel rfl rfl rfl

theorem Ordered.receive (h : Ordered capacity actions c) :
    Ordered capacity (actions ++ [.receive]) (c.next .receive) := by
  cases he : c.board.channel.waiting.head? with
  | none =>
    simp only [next, receive_of_idle he]
    exact h.stay (by simp) rfl (List.append_nil _) rfl rfl
  | some e =>
    obtain ⟨rest, hwaiting⟩ := List.head?_eq_some_iff.mp he
    have hkept := h.kept
    have hroom := h.room
    have horder := h.order
    rw [hwaiting] at hkept hroom horder
    -- Something waits, so the queue was not closed and nothing is lost.
    have hopen : c.board.channel.isOpen = true := by
      cases hopen : c.board.channel.isOpen with
      | false => simp [hopen] at hkept
      | true => rfl
    rw [if_pos hopen] at hkept
    simp only [next, receive_of_waiting he]
    have hchannel : (c.board.worker.dispatch collect e).service.channel =
        { c.board.channel with waiting := rest } := by
      simp [Worker.dispatch, collect, Channel.dropOldest, hwaiting]
    refine h.go_on (by simp) hchannel ?_ ?_ rfl fun hclosed => ?_
    · exact Nat.le_of_succ_le hroom
    · simpa [translations, hkept] using horder
    · exact absurd hopen (Bool.eq_false_iff.mp hclosed)

theorem Ordered.drain (h : Ordered capacity actions c) :
    Ordered capacity (actions ++ [.drain]) (c.next .drain) := by
  cases hopen : c.board.channel.isOpen with
  | false =>
    -- The worker is gone, and what waited went with it.
    have hnext : c.next .drain = c := by simp [next, Switchboard.drain, hopen]
    rw [hnext]
    exact h.stay (by simp) rfl rfl rfl rfl
  | true =>
    have hkept := h.kept
    rw [if_pos hopen] at hkept
    obtain ⟨hchannel, hstate⟩ := drain_collect c.board.channel.waiting.length
      (w := .new #[] c.board.channel) 0 rfl
    simp only [next, Switchboard.drain, hopen, if_true]
    refine h.go_on (by simp) hchannel (Nat.zero_le _) ?_ rfl fun _ => rfl
    have horder := h.order
    rw [hkept, List.append_nil] at horder
    rw [hkept, hstate]
    simpa [translations, Worker.new] using horder

theorem Ordered.close (h : Ordered capacity actions c) :
    Ordered capacity (actions ++ [.close]) (c.next .close) where
  capacity := h.capacity
  room := Nat.zero_le _
  isClosed := by simp [next, Switchboard.close, Channel.close]
  order := by
    have horder := h.order
    simpa [next, Switchboard.close, Channel.close, translations] using horder
  kept := rfl

theorem Ordered.next (h : Ordered capacity actions c) (a : Action) :
    Ordered capacity (actions ++ [a]) (c.next a) := by
  cases a with
  | register => exact h.stay (by simp) rfl rfl rfl rfl
  | dispatch vendor product host device event => exact h.dispatch vendor product host device event
  | receive => exact h.receive
  | drain => exact h.drain
  | close => exact h.close

theorem Ordered.after (h : Ordered capacity actions c) (more : List Action) :
    Ordered capacity (actions ++ more) (c.after more) := by
  induction more generalizing actions c with
  | nil => rwa [List.append_nil]
  | cons a more ih =>
    have hmore := ih (h.next a)
    rwa [List.append_assoc] at hmore

/-- Whatever is done with a switchboard, the requests that the worker received, and behind them
those that were lost by closing the queue or that wait, are those that the accepted events amount
to, in the order of the events. At any time an event that asks for no request is answered without a
look at the queue, and one that asks for a request is turned away exactly if the queue is full or
closed. -/
theorem requests_conveyed (capacity : Nat) (actions : List Action) :
    Conveys capacity actions ((new capacity).after actions) := by
  have hordered := (ordered_new capacity).after actions
  refine ⟨by simpa using hordered, fun vendor product host device event hl => ?_⟩
  obtain ⟨hchannel, hstatus⟩ := dispatch_of_handler host device event hl
  rw [hchannel, hstatus]
  exact answers_post host device event hordered.room

/-- The smallest queue takes eight requests. The worker collects them, then there is room again. -/
example :
    let detach := Action.dispatch 0x1A6E 0x089A ⟨0⟩ ⟨0⟩ .detach
    let actions := .register 0x1A6E 0x089A .handler :: List.replicate 9 detach ++ [.drain, detach]
    ((new 0).after actions).answered.map (·.2) =
      List.replicate 8 .success ++ [.busy, .success] := by
  decide

end Chronicle

end Switchboard

end FirmwareUpgrade
