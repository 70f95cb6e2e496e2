import FirmwareUpgrade.Proofs.Served

/-!
# Counts and slices stay in range

A subtraction of the controller stops at zero, a slice is cut at the end of the array, a block is
written only as far as the buffer goes, and a length is taken modulo `2 ^ 16`. `Session.handle?`
handles a request with checks in place of all that: it gives nothing where a subtraction would go
below zero, a count beyond the size of the image, an index beyond its array or a length beyond
sixteen bits. It always gives what `Session.handle` gives, since what is in flight ends within the
image (`Controller.InRange`). A status reply is read at places that its length is compared with
before, and no other count is made but that of the read-back buffers.
-/
namespace FirmwareUpgrade

namespace Bytes

/-- The bytes from `first` to before `last`, if these are places of the string in this order. -/
def slice? (b : Bytes) (first last : Nat) : Option Bytes :=
  if first ≤ last ∧ last ≤ b.size then some (b.extract first last) else none

/-- The buffer with a block written over it, if the block fits in. -/
def overwrite? (buffer : Bytes) (offset : Nat) (block : Bytes) : Option Bytes :=
  if offset + block.size ≤ buffer.size then some (buffer.overwrite offset block) else none

end Bytes

/-- A number in sixteen bits, if it fits in. -/
def narrow? (n : Nat) : Option UInt16 :=
  if n < 2 ^ 16 then some (UInt16.ofNat n) else none

/-! ## Handling with checks -/

namespace Controller

def remaining? (c : Controller) : Option Nat :=
  if c.transferred ≤ c.image.size then some (c.image.size - c.transferred) else none

def chunkLength? (c : Controller) : Option Nat :=
  c.remaining?.map (min (max c.config.chunkSize.toNat 1))

/-- Counts bytes of the image, of which there are no more than its size. -/
def count? (c : Controller) (length : Nat) : Option Controller :=
  if c.transferred + length ≤ c.image.size then
    some { c with transferred := c.transferred + length }
  else none

def action? (c : Controller) : Phase → Option Action
  | .transfer => do
    let length ← c.chunkLength?
    let chunk ← Bytes.slice? c.image c.transferred (c.transferred + length)
    return .start (.dnload c.block chunk) length
  | .readBack => do
    let length ← c.chunkLength?
    if length = 0 then return .skip .getStatusRead
    let requested ← narrow? length
    return .start (.upload c.block requested) length
  | p => some (c.action p)

def storeReadback? (c : Controller) (data : Bytes) : Option Controller := do
  let counted ← c.count? data.size
  match c.readback with
  | none => return counted
  | some buffer => do
    let readback ← Bytes.overwrite? buffer c.transferred data
    return { counted with readback := some readback }

def takeChunk? (c : Controller) (requested : Nat) (data : Bytes) : Option Verdict := do
  let taken ← Bytes.slice? data 0 (min requested data.size)
  let c ← c.storeReadback? taken
  return if data.size < requested then ⟨c, [], .error (.verificationMismatch c.transferred)⟩
  else
    { controller := { c with block := c.block + 1 }
      notices := [.readBack c.transferred c.image.size]
      next := .ok .getStatusRead }

def succeed? (c : Controller) (op : InFlight) (data : Bytes) : Option Verdict :=
  match c.phase with
  | .transfer => do
    let counted ← c.count? op.length
    return ⟨{ counted with block := c.block + 1 },
      [.downloaded counted.transferred c.image.size], .ok .getStatus⟩
  | .readBack => c.takeChunk? op.length data
  | _ => some (c.succeed op data)

def conclude? (c : Controller) (op : InFlight) (operation : Operation) : Reply → Option Verdict
  | .error cause => some (c.conclude op operation (.error cause))
  | .ok data => { c with inFlight := none }.succeed? op data

end Controller

namespace Session

variable {δ κ : Type}

def step? (drv : Driver δ) (s : Session δ κ) (next : Phase) : Option (Session δ κ) :=
  match s.controller.objection? next with
  | some objection => some (s.note objection)
  | none => do
    let action ← s.controller.action? next
    return if next = .unattached then (s.perform drv action).setPhase next
    else (s.setPhase next).perform drv action

def complete? (s : Session δ κ) (completion : Completion) (reply : Reply) :
    Option (Session δ κ) :=
  match s.controller.awaited? completion.ticket with
  | none => some (s.note (.staleCompletion completion.operation s.controller.phase))
  | some op => do
    let v ← s.controller.conclude? op completion.operation reply
    let s := (s.modify fun _ => v.controller).noteAll v.notices
    return match v.next with
    | .ok next => s.advance next
    | .error cause => s.fail cause

def take? (drv : Driver δ) (s : Session δ κ) : Request → Option (Session δ κ)
  | .nextPhase phase => s.step? drv phase
  | .bind binding => some (s.bind binding)
  | .completed completion reply => s.complete? completion reply

/-- Handles one request, unless something would leave its range. -/
def handle? (drv : Driver δ) (s : Session δ κ) (q : Request) : Option (Session δ κ × Phase) := do
  let t ← (checkLost (s.record (.taken q))).take? drv q
  return (t, t.controller.phase)

end Session

/-! ## What keeps the controller in range -/

namespace Controller

/-- What was transferred and what is in flight lie within the image, and so does the read-back
buffer. Of `n` requests each has led to at most one buffer. -/
structure InRange (image : Bytes) (n : Nat) (c : Controller) : Prop where
  image_eq : c.image = image
  transferred_le : c.transferred ≤ image.size
  inFlight_le : ∀ op, c.inFlight = some op → c.transferred + op.length ≤ image.size
  readback_size : ∀ buffer, c.readback = some buffer → buffer.size = image.size
  frees_eq : c.readbackFrees + (if c.readback.isSome then 1 else 0) = c.readbackAllocations
  allocations_le : c.readbackAllocations ≤ n

variable {image : Bytes} {n m : Nat} {c : Controller}

theorem chunkLength_le_remaining (c : Controller) : c.chunkLength ≤ c.remaining := by
  unfold chunkLength
  omega

theorem chunkLength_lt (c : Controller) : c.chunkLength < 2 ^ 16 := by
  have hsize := c.config.chunkSize.toNat_lt
  unfold chunkLength
  omega

/-- An operation moves at most the bytes that remain. -/
theorem length_le_remaining {p : Phase} {request : ClassCall} {length : Nat}
    (h : c.action p = .start request length) : length ≤ c.remaining := by
  have hchunk := c.chunkLength_le_remaining
  cases starts_of_action h with
  | transfer | readBack => exact hchunk
  | _ => exact Nat.zero_le _

namespace InRange

theorem new (image : Bytes) (config : Config) : (Controller.new image config).InRange image 0 where
  image_eq := rfl
  transferred_le := Nat.zero_le _
  inFlight_le := by simp [Controller.new]
  readback_size := by simp [Controller.new]
  frees_eq := rfl
  allocations_le := le_rfl

theorem mono (h : c.InRange image n) (hm : n ≤ m) : c.InRange image m :=
  { h with allocations_le := h.allocations_le.trans hm }

theorem idle (h : c.InRange image n) : { c with inFlight := none }.InRange image n :=
  { h with inFlight_le := by simp }

/-- Counting starts anew when nothing is in flight. -/
theorem resetCounters (h : c.InRange image n) (hidle : c.inFlight = none) :
    c.resetCounters.InRange image n := by
  refine ⟨h.image_eq, Nat.zero_le _, fun op hop => ?_, h.readback_size, h.frees_eq,
    h.allocations_le⟩
  simp [Controller.resetCounters, hidle] at hop

theorem freeReadback (h : c.InRange image n) : c.freeReadback.InRange image n := by
  refine ⟨by simpa using h.image_eq, by simpa using h.transferred_le, ?_, by simp, ?_, ?_⟩
  · simpa using h.inFlight_le
  all_goals
    have hfrees := h.frees_eq
    have hallocations := h.allocations_le
    unfold Controller.freeReadback
    cases hr : c.readback <;> simp [hr] at hfrees ⊢
    all_goals omega

/-- To enter a phase may take one more buffer. -/
theorem enter (h : c.InRange image n) (p : Phase) : (c.enter p).InRange image (n + 1) := by
  have hfrees := h.frees_eq
  have hallocations := h.allocations_le
  refine ⟨by simpa using h.image_eq, by simpa using h.transferred_le, by simpa using h.inFlight_le,
    fun buffer hb => ?_, ?_, ?_⟩
  · by_cases hp : p = .readBack
    · subst hp
      rw [readback_enter_readBack] at hb
      cases hr : c.readback with
      | none => simp [hr, ← Option.some.inj hb, h.image_eq]
      | some old => exact h.readback_size buffer (by simpa [hr] using hb)
    · exact h.readback_size buffer (by rwa [readback_enter_of_ne c p hp] at hb)
  all_goals
    by_cases hp : p = .readBack
    · cases hr : c.readback <;>
        simp [Controller.enter, hp, allocateReadback, hr] at hfrees ⊢
      all_goals omega
    · simp only [Controller.enter, if_neg hp]
      omega

/-- A failure takes no buffer. -/
theorem fail (h : c.InRange image n) (cause : UpgradeError) :
    ((c.recordFailure cause).enter .error).InRange image n := by
  have hfreed := h.freeReadback
  exact ⟨hfreed.image_eq, hfreed.transferred_le, by simp, hfreed.readback_size, hfreed.frees_eq,
    hfreed.allocations_le⟩

theorem forgetDevice (h : c.InRange image n) : c.forgetDevice.InRange image n := by
  have hidle : { c with inFlight := none, boundDevice := none, boundInterface := none }.InRange
      image n := ⟨h.image_eq, h.transferred_le, by simp, h.readback_size, h.frees_eq,
        h.allocations_le⟩
  exact hidle.freeReadback.resetCounters (by simp)

/-- The operation that is begun ends within the image. -/
theorem begin (h : c.InRange image n) (operation : Operation) {length : Nat}
    (hl : length ≤ c.remaining) : (c.begin operation length).1.InRange image n := by
  refine ⟨h.image_eq, h.transferred_le, fun op hop => ?_, h.readback_size, h.frees_eq,
    h.allocations_le⟩
  obtain rfl := Option.some.inj hop
  have htransferred := h.transferred_le
  rw [remaining, h.image_eq] at hl
  show c.transferred + length ≤ image.size
  omega

section
variable (h : c.InRange image n)
include h

theorem checkStatus (data : Bytes) (next : Phase) :
    (c.checkStatus data next).controller.InRange image n := by
  unfold Controller.checkStatus
  split
  · exact h
  · exact { h with }

/-- Bytes that end within the image are counted where nothing is in flight any more. -/
theorem count (hidle : c.inFlight = none) {length : Nat}
    (hl : c.transferred + length ≤ image.size) :
    { c with transferred := c.transferred + length }.InRange image n :=
  ⟨h.image_eq, hl, by simp [hidle], h.readback_size, h.frees_eq, h.allocations_le⟩

theorem storeReadback (hidle : c.inFlight = none) {data : Bytes}
    (hl : c.transferred + data.size ≤ image.size) : (c.storeReadback data).InRange image n := by
  have hcounted := h.count hidle hl
  refine ⟨hcounted.image_eq, hcounted.transferred_le, hcounted.inFlight_le, fun buffer hb => ?_, ?_,
    hcounted.allocations_le⟩
  · obtain ⟨old, ho, rfl⟩ := Option.map_eq_some_iff.mp hb
    rw [Bytes.size_overwrite]
    exact h.readback_size old ho
  · simpa [Controller.storeReadback] using h.frees_eq

theorem takeChunk (hidle : c.inFlight = none) {requested : Nat}
    (hl : c.transferred + requested ≤ image.size) (data : Bytes) :
    (c.takeChunk requested data).controller.InRange image n := by
  have hstored : (c.storeReadback (data.extract 0 requested)).InRange image n := by
    apply h.storeReadback hidle
    rw [Array.size_extract]
    omega
  unfold Controller.takeChunk
  dsimp only
  split
  · exact hstored
  · exact { hstored with }

theorem verify (hidle : c.inFlight = none) : c.verify.controller.InRange image n := by
  have hreset := h.freeReadback.resetCounters (by simpa using hidle)
  unfold Controller.verify
  dsimp only
  split <;> exact hreset

/-- The success of an operation counts at most the bytes that were in flight. -/
theorem succeed (hidle : c.inFlight = none) {op : InFlight}
    (hop : c.transferred + op.length ≤ image.size) (data : Bytes) :
    (c.succeed op data).controller.InRange image n := by
  unfold Controller.succeed
  split
  · exact h
  · exact h.checkStatus data _
  · have hcounted := h.count hidle hop
    exact { hcounted with }
  · exact h.resetCounters hidle
  · exact h.takeChunk hidle hop data
  · split
    · have hchecked := h.checkStatus data .detach
      have hstill : (c.checkStatus data .detach).controller.inFlight = none := by
        rw [(c.checkStatus_alike data .detach).inFlight, hidle]
      unfold Verdict.andThen
      split
      · rename_i he
        rwa [he] at hchecked
      · rename_i he
        rw [he] at hchecked hstill
        exact hchecked.verify hstill
    · exact h.checkStatus data _
  all_goals exact h

theorem conclude {op : InFlight} (hop : c.inFlight = some op) (operation : Operation)
    (reply : Reply) : (c.conclude op operation reply).controller.InRange image n := by
  cases reply with
  | error cause => exact h.idle
  | ok data => exact h.idle.succeed rfl (h.inFlight_le op hop) data

/-! ## The checks succeed -/

theorem remaining?_eq : c.remaining? = some c.remaining := by
  have hle := h.transferred_le
  rw [← h.image_eq] at hle
  rw [remaining?, if_pos hle, remaining]

theorem chunkLength?_eq : c.chunkLength? = some c.chunkLength := by
  rw [chunkLength?, h.remaining?_eq, Option.map_some, chunkLength]

theorem add_chunkLength_le : c.transferred + c.chunkLength ≤ c.image.size := by
  have hle := h.transferred_le
  have hchunk := c.chunkLength_le_remaining
  rw [← h.image_eq] at hle
  rw [remaining] at hchunk
  omega

theorem count?_eq {length : Nat} (hl : c.transferred + length ≤ image.size) :
    c.count? length = some { c with transferred := c.transferred + length } := by
  rw [← h.image_eq] at hl
  rw [count?, if_pos hl]

theorem action?_eq (p : Phase) : c.action? p = some (c.action p) := by
  cases p with
  | transfer =>
    have hslice : Bytes.slice? c.image c.transferred (c.transferred + c.chunkLength) =
        some c.nextChunk := if_pos ⟨Nat.le_add_right _ _, h.add_chunkLength_le⟩
    simp only [action?, action, h.chunkLength?_eq, hslice, Option.bind_eq_bind, Option.bind_some]
    rfl
  | readBack =>
    have hnarrow : narrow? c.chunkLength = some (UInt16.ofNat c.chunkLength) :=
      if_pos c.chunkLength_lt
    simp only [action?, action, h.chunkLength?_eq, hnarrow, Option.bind_eq_bind, Option.bind_some]
    split <;> rfl
  | _ => rfl

theorem storeReadback?_eq {data : Bytes} (hl : c.transferred + data.size ≤ image.size) :
    c.storeReadback? data = some (c.storeReadback data) := by
  simp only [storeReadback?, Controller.storeReadback, h.count?_eq hl, Option.bind_eq_bind,
    Option.bind_some]
  cases hr : c.readback with
  | none => rfl
  | some buffer =>
    have hfits : c.transferred + data.size ≤ buffer.size := by rwa [h.readback_size buffer hr]
    simp only [Bytes.overwrite?, if_pos hfits, Option.bind_some]
    rfl

theorem takeChunk?_eq {requested : Nat} (hl : c.transferred + requested ≤ image.size)
    (data : Bytes) : c.takeChunk? requested data = some (c.takeChunk requested data) := by
  have hcut : data.extract 0 (min requested data.size) = data.extract 0 requested := by
    apply Array.ext <;> simp
  have htaken : Bytes.slice? data 0 (min requested data.size) = some (data.extract 0 requested) := by
    rw [Bytes.slice?, if_pos ⟨Nat.zero_le _, Nat.min_le_right _ _⟩, hcut]
  have hstore : c.storeReadback? (data.extract 0 requested) =
      some (c.storeReadback (data.extract 0 requested)) := by
    apply h.storeReadback?_eq
    rw [Array.size_extract]
    omega
  simp only [takeChunk?, Controller.takeChunk, htaken, hstore, Option.bind_eq_bind,
    Option.bind_some]
  rfl

theorem succeed?_eq {op : InFlight} (hop : c.transferred + op.length ≤ image.size)
    (data : Bytes) : c.succeed? op data = some (c.succeed op data) := by
  unfold succeed?
  split
  · rename_i hp
    simp only [Controller.succeed, hp, h.count?_eq hop, Option.bind_eq_bind, Option.bind_some]
    rfl
  · rename_i hp
    rw [h.takeChunk?_eq hop, Controller.succeed, hp]
  · rfl

theorem conclude?_eq {op : InFlight} (hop : c.inFlight = some op) (operation : Operation)
    (reply : Reply) : c.conclude? op operation reply = some (c.conclude op operation reply) := by
  cases reply with
  | error cause => rfl
  | ok data => exact h.idle.succeed?_eq (h.inFlight_le op hop) data

end

end InRange

end Controller

/-! ## What keeps a session in range -/

def Effect.isTaken : Effect → Bool
  | taken _ => true
  | _ => false

/-- The number of requests that were taken up. -/
def handled (effects : List Effect) : Nat := effects.countP (·.isTaken)

theorem handled_le {a b : List Effect} (h : a <+: b) : handled a ≤ handled b :=
  h.sublist.countP_le

namespace Session

variable {δ κ : Type} (drv : Driver δ) {s t : Session δ κ} {image : Bytes} {n : Nat}

theorem inRange_advance (h : s.controller.InRange image n) (p : Phase) :
    (s.advance p).controller.InRange image n := by
  unfold advance
  split
  · exact h
  · exact h.fail _

theorem inRange_initialise (h : s.controller.InRange image n)
    (hidle : s.controller.inFlight = none) (device : DeviceHandle) :
    (s.initialise drv device).controller.InRange image n := by
  rcases initialise_cases drv s device with ⟨u, cause, hu, he⟩ | ⟨driver, target, he⟩
  · rw [he, controller_fail, hu.controller]
    exact h.fail _
  · rw [he]
    apply inRange_advance
    have hreset := h.resetCounters hidle
    exact { hreset with }

theorem inRange_start (h : s.controller.InRange image n) (target : ClassHandle)
    (request : ClassCall) {length : Nat} (hl : length ≤ s.controller.remaining) :
    (s.start drv target request length).controller.InRange image n := by
  have hbegun : ∀ ds, ((s.handOver drv target request length).deliverAll ds).controller.InRange
      image n := by
    intro ds
    rw [controller_deliverAll, controller_handOver]
    exact h.begin request.operation hl
  rw [start_eq]
  split
  · exact hbegun _
  · exact (hbegun _).fail _

/-- A request takes at most one more buffer and leaves everything in range. -/
theorem inRange_outcome {q : Request} (h : s.controller.InRange image n)
    (o : Outcome drv s q t) : t.controller.InRange image (n + 1) := by
  have hnext := h.mono (Nat.le_succ n)
  have hentered : ∀ p, (s.setPhase p).controller.InRange image (n + 1) := fun p => h.enter p
  -- Only the entry of a phase may take a buffer, and there is at most one to a request.
  cases o with
  | dropped | ignored | stale => exact hnext
  | bound b =>
    exact { hnext with }
  | released =>
    rw [controller_setPhase, (release_becomes drv s).controller]
    apply Controller.InRange.enter
    apply Controller.InRange.forgetDevice
    exact { h with }
  | initialised device _ hidle _ =>
    exact inRange_initialise drv (hentered _) (by simpa using hidle) device
  | started p target request length _ _ _ hact =>
    apply inRange_start drv (hentered p)
    have hl := Controller.length_le_remaining hact
    simpa [Controller.remaining] using hl
  | skipped => exact inRange_advance (hentered _) _
  | finished =>
    have hdone := hentered .complete
    rw [(finish_becomes drv _).controller]
    exact { hdone with }
  | blocked p cause => exact (hentered p).fail cause
  | reported => exact hentered .error
  | advanced x r op p hx =>
    apply inRange_advance
    rw [controller_settled]
    exact hnext.conclude (Controller.awaited?_eq_some_iff.mp hx).2.1 _ _
  | failed x r op cause hx =>
    rw [controller_fail, controller_settled]
    exact (hnext.conclude (Controller.awaited?_eq_some_iff.mp hx).2.1 _ _).fail cause

theorem inRange_noticed (h : s.controller.InRange image n) (q : Request) :
    (s.noticed q).controller.InRange image n := by
  by_cases hb : Bereft s
  · rw [noticed_of_bereft hb]
    exact h.fail _
  · rwa [(noticed_of_not_bereft hb q).1.controller]

/-- Where everything is in range, the checks find nothing. -/
theorem take?_eq (h : s.controller.InRange image n) (q : Request) :
    s.take? drv q = some (take drv s q) := by
  cases q with
  | bind b => rfl
  | nextPhase p =>
    simp only [take?, step?, take, step]
    cases ho : s.controller.objection? p with
    | some objection => rfl
    | none =>
      rw [h.action?_eq]
      rfl
  | completed x r =>
    simp only [take?, complete?, take, complete]
    cases hx : s.controller.awaited? x.ticket with
    | none => rfl
    | some op =>
      simp only [h.conclude?_eq (Controller.awaited?_eq_some_iff.mp hx).2.1]
      rfl

/-- The count of the requests and what they led to, in any session that is served. -/
theorem Served.inRange {drv : Driver δ} {config : Config} (h : Served drv image config s) :
    s.controller.InRange image (handled s.effects) := by
  induction h with
  | start driver channel => exact .new image config
  | @elsewhere s t _ hst ih =>
    obtain ⟨later, he, -⟩ := hst.others
    rw [hst.controller]
    exact ih.mono (handled_le ⟨later, he.symm⟩)
  | @handle s q _ ih =>
    have hgrows : (s.record (.taken q)).effects <+: effects (Session.handle drv s q).1 :=
      grows_checkLost.trans (grows_take drv q)
    have hcount : handled (s.record (.taken q)).effects = handled s.effects + 1 := by
      simp [handled, Effect.isTaken]
    have hle := handled_le hgrows
    rw [hcount] at hle
    exact (inRange_outcome drv (inRange_noticed ih q) (outcome_handle drv s q)).mono hle

end Session

namespace Installation

variable {δ κ : Type} {drv : Driver δ} {image : Bytes} {config : Config} {s : Session δ κ}

/-- Whatever was requested and answered, the bytes transferred lie within the image, a buffer is
given up at most once, no more buffers were taken than requests handled, and nothing leaves its
range when the next request is handled. -/
theorem in_range (h : Session.Served drv image config s) :
    s.controller.transferred ≤ image.size ∧
      s.controller.readbackFrees ≤ s.controller.readbackAllocations ∧
      s.controller.readbackAllocations ≤ handled s.effects ∧
      ∀ q, Session.handle? drv s q = some (Session.handle drv s q) := by
  have hrange := h.inRange
  refine ⟨hrange.transferred_le, ?_, hrange.allocations_le, fun q => ?_⟩
  · rw [← hrange.frees_eq]
    exact Nat.le_add_right _ _
  · have htake := Session.take?_eq drv (Session.inRange_noticed hrange q) q
    show (Session.take? drv (s.noticed q) q).bind _ = _
    rw [htake]
    rfl

/-- The last byte of the image is being read back. -/
def readingBack : Installation Nat Unit :=
  (blank 7).moves obliging <|
    [enumeration, [.work, .work, .work], fulfil 0 .setInterface #[], fulfil 1 .getStatus wellStatus,
      fulfil 2 .dnload #[], fulfil 3 .getStatus wellStatus, fulfil 4 .dnload #[]].flatten

/-- A reply that is longer than what was asked for is cut. -/
theorem readingBack_in_range :
    readingBack.controller.inFlight = some ⟨5, .upload, 1⟩ ∧
      Session.handle? obliging readingBack.session (.completed ⟨5, .upload⟩ (.ok #[7, 8, 9])) =
        some (Session.handle obliging readingBack.session
          (.completed ⟨5, .upload⟩ (.ok #[7, 8, 9]))) := by
  have hserved : Session.Served obliging #[7] .standard readingBack.session :=
    Shared.served (.of_plays (by decide +kernel))
  exact ⟨by decide +kernel, (in_range hserved).2.2.2 _⟩

/-- The checks tell: with more bytes counted than there are, no block is cut from the image. -/
example : { Controller.new #[7] .standard with transferred := 2 }.action? .transfer = none := rfl

end Installation

end FirmwareUpgrade
