import FirmwareUpgrade.Bench.Countdown
import FirmwareUpgrade.Proofs.Quiescence

/-!
# The queue and its worker in order

All that happens to a queue and its worker is written down in a log: what was sent and with which
result, what the worker took, with which response it was handled, which address was told, and that
the worker was dropped. What the queue should hold and how it should answer is read off the log
(`Worker.waiting` and `Worker.answer`): a first-in, first-out queue of bounded size. `Orderly` says
that the worker does as the log tells.

The log covers every interleaving: between two requests anybody may send, and so may the handler
while it handles one. `runs_perform` shows that whatever is done with a worker has such a log.
-/
namespace FirmwareUpgrade

variable {η ρ κ π : Type}

namespace Channel

/-- What is done with a queue by those who hold a sender of it. -/
inductive Use (ρ κ : Type) where
  | send (e : Envelope ρ κ)
  /-- A sender is cloned. -/
  | clone
  /-- A sender is dropped. -/
  | drop

def use (c : Channel ρ κ) : Use ρ κ → Channel ρ κ
  | .send e => c.push e
  | .clone => c.addSender
  | .drop => c.dropSender

def uses (c : Channel ρ κ) (us : List (Use ρ κ)) : Channel ρ κ := us.foldl use c

end Channel

/-- All that the handler does with its queue is to use a sender. -/
def Handler.Sends (handle : Handler η ρ κ π) : Prop :=
  ∀ s q, ∃ us, (handle s q).1.channel = s.channel.uses us

namespace Worker

/-! ## The log -/

/-- Something that happens to a queue or its worker. -/
inductive Event (ρ κ π : Type) where
  | sent (e : Envelope ρ κ) (result : Except QueueError Unit)
  /-- The worker takes the oldest request. -/
  | taken (e : Envelope ρ κ)
  | handled (e : Envelope ρ κ) (response : π)
  /-- An address is told a response. -/
  | called (address : κ) (response : π)
  /-- The worker is dropped with its queue, and these requests with it. -/
  | closed (left : List (Envelope ρ κ))

namespace Event

def accepted? : Event ρ κ π → Option (Envelope ρ κ)
  | sent e (.ok ()) => some e
  | _ => none

def taken? : Event ρ κ π → Option (Envelope ρ κ)
  | taken e => some e
  | _ => none

def called? : Event ρ κ π → Option (κ × π)
  | called address response => some (address, response)
  | _ => none

def left : Event ρ κ π → List (Envelope ρ κ)
  | closed left => left
  | _ => []

def isClosed : Event ρ κ π → Bool
  | closed _ => true
  | _ => false

/-- Whether the event belongs to the handling of a request. -/
def isService : Event ρ κ π → Bool
  | taken _ | handled .. | called .. => true
  | sent .. | closed _ => false

end Event

/-- What happened, oldest first. -/
abbrev Log (ρ κ π : Type) := List (Event ρ κ π)

def accepted (log : Log ρ κ π) : List (Envelope ρ κ) := log.filterMap Event.accepted?

def taken (log : Log ρ κ π) : List (Envelope ρ κ) := log.filterMap Event.taken?

/-- The requests that were dropped with the worker. -/
def left (log : Log ρ κ π) : List (Envelope ρ κ) := log.flatMap Event.left

def called (log : Log ρ κ π) : List (κ × π) := log.filterMap Event.called?

/-- What belongs to the handling of requests. -/
def handlings (log : Log ρ κ π) : Log ρ κ π := log.filter Event.isService

def isGone (log : Log ρ κ π) : Bool := log.any Event.isClosed

/-- The requests that were accepted and not taken or dropped since. -/
def waiting (log : Log ρ κ π) : List (Envelope ρ κ) :=
  (accepted log).drop ((taken log).length + (left log).length)

/-- What the next sender is told by a queue of a size. -/
def answer (size : Nat) (log : Log ρ κ π) : Except QueueError Unit :=
  if isGone log then .error .closed
  else if (waiting log).length = size then .error .full
  else .ok ()

/-- What the handling of one request adds to the log, apart from what the handler sends. -/
def handling (e : Envelope ρ κ) (response : π) : Log ρ κ π :=
  .taken e :: .handled e response :: (e.callback.map (.called · response)).toList

/-- A queue of a size is as the log tells. -/
structure Tracks (size : Nat) (log : Log ρ κ π) (c : Channel ρ κ) : Prop where
  capacity : c.capacity = size
  isOpen : c.isOpen = !isGone log
  /-- The requests that were taken, followed by those that wait, are those that were accepted, in
  the order of acceptance. -/
  fifo : accepted log = taken log ++ left log ++ c.waiting
  /-- Nothing is dropped as long as the worker is there, and nothing waits behind that. -/
  kept : if isGone log then c.waiting = [] else left log = []
  bounded : ∀ before, before <+: log → (waiting before).length ≤ size
  answered : ∀ before e result after, log = before ++ .sent e result :: after →
    result = answer size before

/-- A queue of a size and its worker are as the log tells. -/
structure Orderly (size : Nat) (log : Log ρ κ π) (w : Worker η ρ κ π) : Prop
    extends Tracks size log w.service.channel where
  /-- Each request that was taken was handled, and its address told, before the next was taken. -/
  served : ∃ services : List (Envelope ρ κ × π), services.map (·.1) = taken log ∧
    handlings log = services.flatMap fun s => handling s.1 s.2
  responses : w.responses.toList = called log

/-! ## What adds to the log -/

/-- The results of what is done with a queue. -/
def sendings (c : Channel ρ κ) : List (Channel.Use ρ κ) → Log ρ κ π
  | [] => []
  | .send e :: us => .sent e c.pushResult :: sendings (c.push e) us
  | .clone :: us => sendings c.addSender us
  | .drop :: us => sendings c.dropSender us

def onChannel (w : Worker η ρ κ π) (f : Channel ρ κ → Channel ρ κ) : Worker η ρ κ π :=
  { w with service := { w.service with channel := f w.service.channel } }

/-- The logs of a worker that began with an empty queue. What the handler does with its queue may be
any use of a sender that leads to the same. -/
inductive Runs (handle : Handler η ρ κ π) (capacity : Nat) (state : η) :
    Log ρ κ π → Worker η ρ κ π → Prop
  | new : Runs handle capacity state [] (.new state (.bounded capacity))
  | use {log : Log ρ κ π} {w : Worker η ρ κ π} (u : Channel.Use ρ κ) :
    Runs handle capacity state log w →
    Runs handle capacity state (log ++ sendings w.service.channel [u]) (w.onChannel (·.use u))
  | dispatch {log : Log ρ κ π} {w : Worker η ρ κ π} {e : Envelope ρ κ} {service : Service η ρ κ}
    {response : π} (us : List (Channel.Use ρ κ)) : Runs handle capacity state log w →
    w.service.channel.waiting.head? = some e →
    handle ⟨w.service.state, w.service.channel.dropOldest⟩ e.request = (service, response) →
    service.channel = w.service.channel.dropOldest.uses us →
    Runs handle capacity state
      (log ++ .taken e :: sendings w.service.channel.dropOldest us ++
        .handled e response :: (e.callback.map (.called · response)).toList)
      (w.dispatch handle e)
  | close {log : Log ρ κ π} {w : Worker η ρ κ π} : Runs handle capacity state log w →
    Runs handle capacity state (log ++ [.closed w.service.channel.waiting])
      (w.onChannel Channel.close)

/-! ## Reading the log -/

section
variable (event : Event ρ κ π) (log later : Log ρ κ π)

@[simp] theorem accepted_nil : accepted ([] : Log ρ κ π) = [] := rfl
@[simp] theorem taken_nil : taken ([] : Log ρ κ π) = [] := rfl
@[simp] theorem left_nil : left ([] : Log ρ κ π) = [] := rfl
@[simp] theorem called_nil : called ([] : Log ρ κ π) = [] := rfl
@[simp] theorem handlings_nil : handlings ([] : Log ρ κ π) = [] := rfl
@[simp] theorem isGone_nil : isGone ([] : Log ρ κ π) = false := rfl

@[simp] theorem accepted_cons :
    accepted (event :: log) = event.accepted?.toList ++ accepted log := by
  cases h : event.accepted? <;> simp [accepted, h]

@[simp] theorem taken_cons : taken (event :: log) = event.taken?.toList ++ taken log := by
  cases h : event.taken? <;> simp [taken, h]

@[simp] theorem called_cons : called (event :: log) = event.called?.toList ++ called log := by
  cases h : event.called? <;> simp [called, h]

@[simp] theorem handlings_cons : handlings (event :: log) =
    (if event.isService then [event] else []) ++ handlings log := by
  cases h : event.isService <;> simp [handlings, h]

@[simp] theorem left_cons : left (event :: log) = event.left ++ left log := List.flatMap_cons

@[simp] theorem isGone_cons : isGone (event :: log) = (event.isClosed || isGone log) :=
  List.any_cons

@[simp] theorem accepted_append : accepted (log ++ later) = accepted log ++ accepted later :=
  List.filterMap_append

@[simp] theorem taken_append : taken (log ++ later) = taken log ++ taken later :=
  List.filterMap_append

@[simp] theorem called_append : called (log ++ later) = called log ++ called later :=
  List.filterMap_append

@[simp] theorem handlings_append : handlings (log ++ later) = handlings log ++ handlings later :=
  List.filter_append ..

@[simp] theorem left_append : left (log ++ later) = left log ++ left later :=
  List.flatMap_append

@[simp] theorem isGone_append : isGone (log ++ later) = (isGone log || isGone later) :=
  List.any_append

end

/-! ## The queue is as the log tells -/

section
variable {size : Nat} {log : Log ρ κ π} {c d : Channel ρ κ} {event : Event ρ κ π}

theorem waiting_eq {ws : List (Envelope ρ κ)} (h : accepted log = taken log ++ left log ++ ws) :
    waiting log = ws := by
  rw [waiting, h, ← List.length_append, List.drop_left]

theorem Tracks.waiting_eq (h : Tracks size log c) : waiting log = c.waiting :=
  Worker.waiting_eq h.fifo

theorem Tracks.length_le (h : Tracks size log c) : c.waiting.length ≤ size :=
  h.waiting_eq ▸ h.bounded log (List.prefix_refl log)

theorem Tracks.left_eq_nil (h : Tracks size log c) (hw : c.waiting ≠ []) :
    isGone log = false ∧ left log = [] := by
  have hkept := h.kept
  cases hg : isGone log with
  | true => exact absurd (by simpa [hg] using hkept) hw
  | false => exact ⟨rfl, by simpa [hg] using hkept⟩

/-- What a sender is told is what the log says. -/
theorem Tracks.pushResult_eq (h : Tracks size log c) : c.pushResult = answer size log := by
  have hle := h.length_le
  unfold Channel.pushResult Channel.refusal? answer
  rw [h.isOpen, h.capacity, h.waiting_eq]
  cases isGone log with
  | true => rfl
  | false =>
    by_cases hfull : c.waiting.length = size
    · simp [hfull]
    · have hlt : c.waiting.length < size := by omega
      simp [hfull, hlt]

/-- One more event. -/
theorem Tracks.snoc (h : Tracks size log c) (hcapacity : d.capacity = c.capacity)
    (hopen : d.isOpen = !isGone (log ++ [event]))
    (hfifo : accepted (log ++ [event]) =
      taken (log ++ [event]) ++ left (log ++ [event]) ++ d.waiting)
    (hkept : if isGone (log ++ [event]) then d.waiting = [] else left (log ++ [event]) = [])
    (hroom : d.waiting.length ≤ size)
    (hanswer : ∀ e result, event = .sent e result → result = answer size log) :
    Tracks size (log ++ [event]) d where
  capacity := hcapacity.trans h.capacity
  isOpen := hopen
  fifo := hfifo
  kept := hkept
  bounded before hb := by
    rcases List.prefix_concat_iff.mp hb with rfl | hb
    · rwa [Worker.waiting_eq hfifo]
    · exact h.bounded before hb
  answered before e result after he := by
    rcases List.eq_nil_or_concat after with rfl | ⟨after, last, rfl⟩
    · obtain ⟨rfl, hevent⟩ := List.append_inj' he rfl
      exact hanswer e result (List.cons.inj hevent).1
    · rw [List.concat_eq_append, ← List.cons_append, ← List.append_assoc] at he
      exact h.answered before e result after (List.append_inj' he rfl).1

/-- An event that has nothing to do with the queue. -/
theorem Tracks.aside (h : Tracks size log c) (ha : event.accepted? = none)
    (ht : event.taken? = none) (hl : event.left = []) (hc : event.isClosed = false)
    (hs : ∀ e result, event ≠ .sent e result) : Tracks size (log ++ [event]) c := by
  refine h.snoc rfl ?_ ?_ ?_ h.length_le fun e result he => absurd he (hs e result)
  · simp [hc, h.isOpen]
  · simpa [ha, ht, hl] using h.fifo
  · simpa [hc, hl] using h.kept

theorem Tracks.new (capacity : Nat) :
    Tracks (π := π) (max capacity minQueueCapacity) []
      (Channel.bounded capacity : Channel ρ κ) where
  capacity := rfl
  isOpen := rfl
  fifo := rfl
  kept := rfl
  bounded before hb := by
    rw [List.prefix_nil.mp hb]
    exact Nat.zero_le _
  answered before e result after he := by simp at he

/-- A request is sent, or refused. -/
theorem Tracks.push (h : Tracks size log c) (e : Envelope ρ κ) :
    Tracks size (log ++ [.sent e c.pushResult]) (c.push e) := by
  have hanswer : ∀ e' result, Event.sent e c.pushResult = (.sent e' result : Event ρ κ π) →
      result = answer size log := by
    rintro e' result he
    obtain ⟨-, rfl⟩ := Event.sent.inj he
    exact h.pushResult_eq
  cases hr : c.refusal? with
  | some reason =>
    have hresult : c.pushResult = .error reason := by simp [Channel.pushResult, hr]
    rw [Channel.push_of_refusal?_eq_some e hr]
    refine h.snoc rfl ?_ ?_ ?_ h.length_le hanswer
    · simp [h.isOpen, Event.isClosed]
    · simpa [hresult, Event.accepted?, Event.taken?, Event.left] using h.fifo
    · simpa [Event.isClosed, Event.left] using h.kept
  | none =>
    have hresult : c.pushResult = .ok () := by simp [Channel.pushResult, hr]
    have hpush : c.push e = { c with waiting := c.waiting ++ [e] } := by simp [Channel.push, hr]
    have hroom : c.isOpen = true ∧ c.waiting.length < c.capacity := by
      unfold Channel.refusal? at hr
      split at hr
      · split at hr
        · exact ⟨‹_›, ‹_›⟩
        · simp at hr
      · simp at hr
    have hgone : isGone log = false := by simpa [h.isOpen] using hroom.1
    rw [hpush]
    refine h.snoc rfl ?_ ?_ ?_ ?_ hanswer
    · simp [h.isOpen, Event.isClosed]
    · simp [hresult, h.fifo, Event.accepted?, Event.taken?, Event.left]
    · simpa [hgone, Event.isClosed, Event.left] using h.kept
    · have hlt := h.capacity ▸ hroom.2
      simpa using hlt

theorem Tracks.uses (us : List (Channel.Use ρ κ)) :
    ∀ {log : Log ρ κ π} {c : Channel ρ κ}, Tracks size log c →
      Tracks size (log ++ sendings c us) (c.uses us) := by
  induction us with
  | nil =>
    intro log c h
    rw [sendings, List.append_nil]
    exact h
  | cons u us ih =>
    intro log c h
    cases u with
    | send e =>
      have hsent := ih (h.push e)
      rwa [List.append_assoc] at hsent
    | clone =>
      exact ih (c := c.addSender) ⟨h.capacity, h.isOpen, h.fifo, h.kept, h.bounded, h.answered⟩
    | drop =>
      exact ih (c := c.dropSender) ⟨h.capacity, h.isOpen, h.fifo, h.kept, h.bounded, h.answered⟩

/-- The worker takes the oldest request. -/
theorem Tracks.dropOldest (h : Tracks size log c) {e : Envelope ρ κ}
    (he : c.waiting.head? = some e) : Tracks size (log ++ [.taken e]) c.dropOldest := by
  obtain ⟨rest, hw⟩ := List.head?_eq_some_iff.mp he
  obtain ⟨hgone, hleft⟩ := h.left_eq_nil (by simp [hw])
  have hle := h.length_le
  have hfifo := h.fifo
  rw [hw] at hle hfifo
  refine h.snoc rfl ?_ ?_ ?_ ?_ (by simp)
  · simp [Channel.dropOldest, h.isOpen, Event.isClosed]
  · simpa [Channel.dropOldest, hw, hleft, Event.accepted?, Event.taken?, Event.left] using hfifo
  · simp [hgone, hleft, Event.isClosed, Event.left]
  · rw [List.length_cons] at hle
    simp only [Channel.dropOldest, hw, List.tail_cons]
    omega

/-- The worker is dropped with its queue. -/
theorem Tracks.close (h : Tracks size log c) :
    Tracks size (log ++ [.closed c.waiting]) c.close := by
  refine h.snoc rfl ?_ ?_ ?_ (Nat.zero_le _) (by simp)
  · simp [Channel.close, Event.isClosed]
  · simpa [Channel.close, Event.accepted?, Event.taken?, Event.left] using h.fifo
  · simp [Channel.close, Event.isClosed]

/-- The handling of a request, with what the handler sends meanwhile. -/
theorem Tracks.handling (h : Tracks size log c) {e : Envelope ρ κ}
    (he : c.waiting.head? = some e) (us : List (Channel.Use ρ κ)) (response : π) :
    Tracks size (log ++ .taken e :: sendings c.dropOldest us ++
      .handled e response :: (e.callback.map (.called · response)).toList)
      (c.dropOldest.uses us) := by
  have hhandled : Tracks size (log ++ .taken e :: sendings c.dropOldest us ++ [.handled e response])
      (c.dropOldest.uses us) := by
    have hsent := (h.dropOldest he).uses us
    rw [List.append_assoc] at hsent
    exact hsent.aside rfl rfl rfl rfl (by simp)
  cases hcallback : e.callback with
  | none => exact hhandled
  | some address =>
    have hcalled : Tracks size (log ++ .taken e :: sendings c.dropOldest us ++
        [.handled e response] ++ [.called address response]) (c.dropOldest.uses us) :=
      hhandled.aside rfl rfl rfl rfl (by simp)
    rwa [List.append_assoc] at hcalled

end

/-! ## The worker is as the log tells -/

/-- What is sent is no part of the handling of a request. -/
theorem sendings_plain (c : Channel ρ κ) (us : List (Channel.Use ρ κ)) :
    handlings (sendings c us : Log ρ κ π) = [] ∧
      taken (sendings c us : Log ρ κ π) = [] ∧ called (sendings c us : Log ρ κ π) = [] := by
  induction us generalizing c with
  | nil => exact ⟨rfl, rfl, rfl⟩
  | cons u us ih =>
    cases u with
    | send e =>
      obtain ⟨hservice, htaken, hcalled⟩ := ih (c.push e)
      simp [sendings, hservice, htaken, hcalled, Event.isService, Event.taken?, Event.called?]
    | clone => exact ih c.addSender
    | drop => exact ih c.dropSender

section
variable {handle : Handler η ρ κ π} {capacity : Nat} {state : η} {log : Log ρ κ π}
  {w : Worker η ρ κ π}

theorem dispatch_of_handle {e : Envelope ρ κ} {service : Service η ρ κ} {response : π}
    (h : handle ⟨w.service.state, w.service.channel.dropOldest⟩ e.request = (service, response)) :
    (w.dispatch handle e).service = service ∧ (w.dispatch handle e).responses.toList =
      w.responses.toList ++ (e.callback.map (·, response)).toList := by
  obtain ⟨⟨s, c⟩, responses⟩ := w
  dsimp only at h
  simp only [Worker.dispatch, h]
  cases e.callback <;> simp

/-- Whatever happens leaves the queue and its worker as the log tells. -/
theorem Runs.orderly (h : Runs handle capacity state log w) :
    Orderly (max capacity minQueueCapacity) log w := by
  induction h with
  | new => exact ⟨.new capacity, ⟨[], rfl, rfl⟩, rfl⟩
  | @use log w u _ ih =>
    obtain ⟨hservice, htaken, hcalled⟩ :=
      sendings_plain (π := π) w.service.channel [u]
    obtain ⟨services, htakes, hserved⟩ := ih.served
    refine ⟨ih.toTracks.uses [u], ⟨services, ?_, ?_⟩, ?_⟩
    · simp [htaken, htakes]
    · simp [hservice, hserved]
    · simp [hcalled, ih.responses, onChannel]
  | @dispatch log w e service response us _ he hhandle hus ih =>
    obtain ⟨hservice, htaken, hcalled⟩ :=
      sendings_plain (π := π) w.service.channel.dropOldest us
    obtain ⟨services, htakes, hserved⟩ := ih.served
    obtain ⟨hstate, hresponses⟩ := dispatch_of_handle hhandle
    refine ⟨?_, ⟨services ++ [(e, response)], ?_, ?_⟩, ?_⟩
    · rw [hstate, hus]
      exact ih.toTracks.handling he us response
    · cases e.callback <;> simp [htaken, htakes, Event.taken?]
    · cases hc : e.callback <;> simp [hservice, hserved, handling, hc, Event.isService]
    · rw [hresponses, ih.responses]
      cases e.callback <;> simp [hcalled, Event.called?]
  | @close log w _ ih =>
    obtain ⟨services, htakes, hserved⟩ := ih.served
    refine ⟨ih.toTracks.close, ⟨services, ?_, ?_⟩, ?_⟩
    · simp [htakes, Event.taken?]
    · simp [hserved, Event.isService]
    · simp [ih.responses, onChannel, Event.called?]

/-! ## Everything that is done with a worker -/

/-- One thing to be done with a worker and its queue. -/
inductive Command (η ρ κ : Type) where
  | use (u : Channel.Use ρ κ)
  /-- Handles requests until none waits, or so many at most. -/
  | runPending (fuel : Nat)
  /-- Handles requests until the handler satisfies a condition or the time is up, or so many at
  most. -/
  | runUntil (done : η → Bool) (deadline : Deadline) (fuel : Nat)
  /-- Drops the worker with its queue. -/
  | close

def perform (handle : Handler η ρ κ π) (w : Worker η ρ κ π) : Command η ρ κ → Worker η ρ κ π
  | .use u => w.onChannel (·.use u)
  | .runPending fuel => (w.drain handle fuel 0).1
  | .runUntil done deadline fuel => (w.runUntil handle done deadline fuel).1
  | .close => w.onChannel Channel.close

theorem runs_dispatch (hs : handle.Sends) (h : Runs handle capacity state log w)
    {e : Envelope ρ κ} (he : w.service.channel.waiting.head? = some e) :
    ∃ log, Runs handle capacity state log (w.dispatch handle e) := by
  obtain ⟨us, hus⟩ := hs ⟨w.service.state, w.service.channel.dropOldest⟩ e.request
  exact ⟨_, h.dispatch us he rfl hus⟩

theorem runs_drain (hs : handle.Sends) (fuel : Nat) (h : Runs handle capacity state log w)
    (count : Nat) : ∃ log, Runs handle capacity state log (w.drain handle fuel count).1 := by
  induction fuel generalizing log w count with
  | zero => exact ⟨log, h⟩
  | succ fuel ih =>
    unfold drain
    cases he : w.service.channel.waiting.head? with
    | none => exact ⟨log, h⟩
    | some e =>
      obtain ⟨log, hlog⟩ := runs_dispatch hs h he
      exact ih hlog (count + 1)

theorem runs_runUntil (hs : handle.Sends) (done : η → Bool) (deadline : Deadline) (fuel : Nat)
    (h : Runs handle capacity state log w) :
    ∃ log, Runs handle capacity state log (w.runUntil handle done deadline fuel).1 := by
  induction fuel generalizing log w deadline with
  | zero =>
    unfold runUntil
    split
    · exact ⟨log, h⟩
    · split <;> exact ⟨log, h⟩
  | succ fuel ih =>
    unfold runUntil
    split
    · exact ⟨log, h⟩
    split
    · exact ⟨log, h⟩
    cases he : w.service.channel.waiting.head? with
    | none => exact ⟨log, h⟩
    | some e =>
      obtain ⟨log, hlog⟩ := runs_dispatch hs h he
      exact ih deadline.next hlog

theorem runs_perform (hs : handle.Sends) (h : Runs handle capacity state log w)
    (command : Command η ρ κ) :
    ∃ log, Runs handle capacity state log (w.perform handle command) := by
  cases command with
  | use u => exact ⟨_, h.use u⟩
  | runPending fuel => exact runs_drain hs fuel h 0
  | runUntil done deadline fuel => exact runs_runUntil hs done deadline fuel h
  | close => exact ⟨_, h.close⟩

theorem runs_foldl_perform (hs : handle.Sends) (commands : List (Command η ρ κ))
    (h : Runs handle capacity state log w) :
    ∃ log, Runs handle capacity state log (commands.foldl (perform handle) w) := by
  induction commands generalizing log w with
  | nil => exact ⟨log, h⟩
  | cons command commands ih =>
    obtain ⟨log, hlog⟩ := runs_perform hs h command
    exact ih hlog

/-- Let a handler do nothing to its queue but send on it. Whatever is done with its worker and the
queue has a log. Every log, of that and of anything that happens in between, tells how the queue and
the worker are: no more requests wait than the queue may hold; a request is refused because of that
exactly if so many wait, and because the queue is closed exactly if the worker was dropped; the
requests handled and those that wait are the accepted ones in their order; and each request that is
handled is answered at its address before the next one is taken, and no other is. A refusal leaves
the queue as it is. -/
theorem orderly_of_sends (hs : handle.Sends) (capacity : Nat) (state : η) :
    (∀ commands : List (Command η ρ κ), ∃ log, Runs handle capacity state log
      (commands.foldl (perform handle) (new state (.bounded capacity)))) ∧
    (∀ (log : Log ρ κ π) (w : Worker η ρ κ π), Runs handle capacity state log w →
      Orderly (max capacity minQueueCapacity) log w) ∧
    ∀ (c : Channel ρ κ) (e : Envelope ρ κ) (reason : QueueError),
      c.pushResult = .error reason → c.push e = c := by
  refine ⟨fun commands => runs_foldl_perform hs commands .new, fun log w h => h.orderly,
    fun c e reason h => ?_⟩
  cases hr : c.refusal? with
  | none => simp [Channel.pushResult, hr] at h
  | some reason => exact Channel.push_of_refusal?_eq_some e hr

end

end Worker

/-! ## Handlers that send on their queue -/

namespace Countdown

variable {κ : Type}

theorem requeue_channel (s : Service Countdown Nat κ) (n : Nat) :
    ∃ us, (requeue s n).channel = s.channel.uses us := by
  unfold requeue
  split
  · exact ⟨[.send ⟨n, none⟩], rfl⟩
  · exact ⟨[], rfl⟩

theorem handle_sends : Handler.Sends (handle (κ := κ)) := by
  intro s n
  unfold handle
  dsimp only
  split
  · exact requeue_channel _ _
  · exact ⟨[], rfl⟩

/-- A number is sent to a countdown that sends on its own queue, and worked off. Only the number
that was sent with an address is answered. -/
theorem countdown_orderly :
    ∃ log, Worker.Runs handle 0 ⟨#[], true, #[]⟩ log
        ([.use (.send ⟨2, some 5⟩), .runPending 3].foldl (Worker.perform handle)
          (.new ⟨#[], true, #[]⟩ (.bounded 0))) ∧
      Worker.called log = [(5, 1)] := by
  obtain ⟨hruns, horderly, -⟩ := Worker.orderly_of_sends (κ := Nat) handle_sends 0 ⟨#[], true, #[]⟩
  obtain ⟨log, hlog⟩ := hruns [.use (.send ⟨2, some 5⟩), .runPending 3]
  exact ⟨log, hlog, (horderly log _ hlog).responses.symm.trans (by decide)⟩

end Countdown

namespace Session

variable {δ κ : Type}

/-- The controller does nothing to its queue but send on it. -/
theorem handle_sends (drv : Driver δ) :
    Handler.Sends (handle drv : Handler (Upgrade δ) Request κ Phase) := by
  intro s q
  refine (outcome_handle drv s q).channel (P := fun c => ∃ us, c = s.channel.uses us) ?_ ?_
  · rintro c q - ⟨us, rfl⟩
    exact ⟨us ++ [.send ⟨q, none⟩], by simp [Channel.uses, Channel.use, Channel.send]⟩
  · exact ⟨[], channel_noticed s q⟩

end Session

end FirmwareUpgrade
