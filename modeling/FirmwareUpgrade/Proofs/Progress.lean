import FirmwareUpgrade.Proofs.Buffer
import FirmwareUpgrade.Proofs.Operations
import FirmwareUpgrade.Proofs.Schedule

/-!
# How far an upgrade has come

`Leg` relates a controller that is about to enter a phase, or that has started the operation of
that phase, to the schedule of its task: the operations done so far are the schedule up to there,
the counters say how many blocks are through, and the read-back buffer begins with what was
uploaded. `Leg.succeed` carries it over the success of an operation.
-/
namespace FirmwareUpgrade

namespace Phase

/-- The phases behind the comparison. -/
def isClosing : Phase → Bool
  | detach | checkStatus | complete => true
  | _ => false

end Phase

namespace Controller

/-! ## What a reply leaves alone -/

/-- Two controllers differ at most in the counters, the buffer, the status and the error. -/
structure Alike (c d : Controller) : Prop where
  image : d.image = c.image
  config : d.config = c.config
  boundHost : d.boundHost = c.boundHost
  boundDevice : d.boundDevice = c.boundDevice
  boundInterface : d.boundInterface = c.boundInterface
  liveClass : d.liveClass = c.liveClass
  phase : d.phase = c.phase
  inFlight : d.inFlight = c.inFlight
  nextTicket : d.nextTicket = c.nextTicket

namespace Alike

variable {c d e : Controller}

theorem refl : Alike c c := ⟨rfl, rfl, rfl, rfl, rfl, rfl, rfl, rfl, rfl⟩

theorem trans (h : Alike c d) (k : Alike d e) : Alike c e :=
  ⟨k.image.trans h.image, k.config.trans h.config, k.boundHost.trans h.boundHost,
    k.boundDevice.trans h.boundDevice, k.boundInterface.trans h.boundInterface,
    k.liveClass.trans h.liveClass, k.phase.trans h.phase, k.inFlight.trans h.inFlight,
    k.nextTicket.trans h.nextTicket⟩

end Alike

theorem checkStatus_alike (c : Controller) (data : Bytes) (next : Phase) :
    Alike c (c.checkStatus data next).controller := by
  unfold checkStatus
  split <;> exact ⟨rfl, rfl, rfl, rfl, rfl, rfl, rfl, rfl, rfl⟩

theorem verify_alike (c : Controller) : Alike c c.verify.controller := by
  unfold verify
  dsimp only
  split <;> simp only [resetCounters] <;> constructor <;> simp

theorem takeChunk_alike (c : Controller) (requested : Nat) (data : Bytes) :
    Alike c (c.takeChunk requested data).controller := by
  unfold takeChunk
  dsimp only
  split <;> exact ⟨rfl, rfl, rfl, rfl, rfl, rfl, rfl, rfl, rfl⟩

theorem succeed_alike (c : Controller) (op : InFlight) (data : Bytes) :
    Alike c (c.succeed op data).controller := by
  unfold succeed
  split
  case h_2 => exact checkStatus_alike c data _
  case h_5 => exact takeChunk_alike c _ data
  case h_6 =>
    split
    · have hc := checkStatus_alike c data .detach
      generalize c.checkStatus data .detach = v at hc
      obtain ⟨d, notices, next⟩ := v
      cases next with
      | error cause => exact hc
      | ok p => exact hc.trans (verify_alike d)
    · exact checkStatus_alike c data _
  all_goals exact ⟨rfl, rfl, rfl, rfl, rfl, rfl, rfl, rfl, rfl⟩

theorem conclude_alike (c : Controller) (op : InFlight) (operation : Operation) (reply : Reply) :
    Alike { c with inFlight := none } (c.conclude op operation reply).controller := by
  cases reply with
  | error cause => exact .refl
  | ok data => exact succeed_alike _ op data

/-! ## What follows from a success -/

/-- What a status reply that lets the upgrade go on leaves of the controller. -/
theorem checkStatus_ok {c : Controller} {data : Bytes} {next p : Phase}
    (h : (c.checkStatus data next).next = .ok p) :
    p = next ∧ Notice.verified ∉ (c.checkStatus data next).notices ∧
      ∃ s, Status.decode data = .ok s ∧ s.check = .ok () ∧
        (c.checkStatus data next).controller = { c with lastStatus := some s } := by
  unfold checkStatus at h ⊢
  split at h
  · simp at h
  · rename_i s hs
    simp only [hs]
    cases hc : s.check with
    | error => simp [hc, Except.map] at h
    | ok =>
      simp only [hc, Except.map, Except.ok.injEq] at h
      refine ⟨h.symm, ?_, s, rfl, hc, rfl⟩
      split <;> simp

/-- How an upgrade goes on when the operation in flight succeeds: the next phase, the controller
then, and whether the image was found equal to what came back. -/
inductive Succeeds (c : Controller) (op : InFlight) (data : Bytes) :
    Phase → Controller → Bool → Prop
  | setInterface : c.phase = .setInterface → Succeeds c op data .getStatus c false
  | getStatus (s : Status) : c.phase = .getStatus → Status.decode data = .ok s →
    s.check = .ok () →
    Succeeds c op data (if c.remaining = 0 then .zeroLengthTransfer else .transfer)
      { c with lastStatus := some s } false
  | transfer : c.phase = .transfer →
    Succeeds c op data .getStatus
      { c with block := c.block + 1, transferred := c.transferred + op.length } false
  | zeroLengthTransfer : c.phase = .zeroLengthTransfer →
    Succeeds c op data .readBack c.resetCounters false
  | readBack : c.phase = .readBack → op.length ≤ data.size →
    Succeeds c op data .getStatusRead
      { c.storeReadback (data.extract 0 op.length) with block := c.block + 1 } false
  | getStatusRead (s : Status) : c.phase = .getStatusRead → c.remaining ≠ 0 →
    Status.decode data = .ok s → s.check = .ok () →
    Succeeds c op data .readBack { c with lastStatus := some s } false
  | verified (s : Status) : c.phase = .getStatusRead → c.remaining = 0 →
    Status.decode data = .ok s → s.check = .ok () → c.mismatch = none →
    Succeeds c op data .detach
      ({ c with lastStatus := some s } : Controller).freeReadback.resetCounters true
  | detach : c.phase = .detach →
    Succeeds c op data (if c.config.checkStatusAfterDetach then .checkStatus else .complete) c false
  | checkStatus : c.phase = .checkStatus → Succeeds c op data .complete c false

/-- What a comparison that lets the upgrade go on leaves of the controller. -/
theorem verify_ok {c : Controller} {p : Phase} (h : c.verify.next = .ok p) :
    p = .detach ∧ c.mismatch = none ∧ c.verify.notices = [.verified] ∧
      c.verify.controller = c.freeReadback.resetCounters := by
  unfold verify at h ⊢
  dsimp only at h ⊢
  split at h
  · simp at h
  · rename_i hm
    obtain rfl := Except.ok.inj h
    simp [hm]

theorem Verdict.andThen_of_ok {v : Verdict} {f : Controller → Verdict} {p : Phase}
    (h : (v.andThen f).next = .ok p) :
    ∃ q, v.next = .ok q ∧ (f v.controller).next = .ok p ∧
      v.andThen f = { f v.controller with notices := v.notices ++ (f v.controller).notices } := by
  obtain ⟨c, notices, next⟩ := v
  cases next with
  | error cause => simp [Verdict.andThen] at h
  | ok q => exact ⟨q, rfl, h, rfl⟩

theorem succeeds_of_ok {c : Controller} {op : InFlight} {data : Bytes} {p : Phase}
    (hp : (c.succeed op data).next = .ok p) :
    Succeeds c op data p (c.succeed op data).controller
      (decide (Notice.verified ∈ (c.succeed op data).notices)) := by
  generalize hv : c.succeed op data = v at hp ⊢
  unfold succeed at hv
  split at hv
  case h_1 hphase =>
    subst hv
    obtain rfl := Except.ok.inj hp
    exact .setInterface hphase
  case h_2 hphase =>
    subst hv
    obtain ⟨rfl, hn, s, hs, hc, he⟩ := checkStatus_ok hp
    rw [he, decide_eq_false hn]
    exact .getStatus s hphase hs hc
  case h_3 hphase =>
    subst hv
    obtain rfl := Except.ok.inj hp
    exact .transfer hphase
  case h_4 hphase =>
    subst hv
    obtain rfl := Except.ok.inj hp
    exact .zeroLengthTransfer hphase
  case h_5 hphase =>
    simp only [takeChunk] at hv
    split at hv
    · subst hv
      simp at hp
    · rename_i hd
      subst hv
      obtain rfl := Except.ok.inj hp
      exact .readBack hphase (not_lt.mp hd)
  case h_6 hphase =>
    split at hv
    · rename_i hrem
      subst hv
      obtain ⟨q, hq, hf, he⟩ := Verdict.andThen_of_ok hp
      obtain ⟨-, -, s, hs, hc, hst⟩ := checkStatus_ok hq
      obtain ⟨rfl, hm, hn, hd⟩ := verify_ok hf
      rw [he, hn, hd]
      simp only [List.mem_append, List.mem_singleton, or_true, decide_true]
      rw [hst] at hm ⊢
      exact .verified s hphase hrem hs hc hm
    · rename_i hrem
      subst hv
      obtain ⟨rfl, hn, s, hs, hc, he⟩ := checkStatus_ok hp
      rw [he, decide_eq_false hn]
      exact .getStatusRead s hphase hrem hs hc
  case h_7 hphase =>
    subst hv
    obtain rfl := Except.ok.inj hp
    exact .detach hphase
  case h_8 hphase =>
    subst hv
    obtain rfl := Except.ok.inj hp
    exact .checkStatus hphase
  case h_9 =>
    subst hv
    simp at hp

/-- With the last status check of the read-back comes the comparison. -/
theorem succeed_getStatusRead {c : Controller} {data : Bytes} {status : Status}
    (hp : c.phase = .getStatusRead) (hz : c.remaining = 0)
    (hs : Status.decode data = .ok status) (hc : status.check = .ok ()) (op : InFlight) :
    ∃ notices, c.succeed op data =
      { Controller.verify { c with lastStatus := some status } with notices } := by
  unfold succeed
  split
  case h_6 =>
    rw [if_pos hz]
    unfold checkStatus
    simp only [hs, hc, Except.map, Verdict.andThen]
    exact ⟨_, rfl⟩
  all_goals simp_all

/-! ## Legs -/

/-- Before anything is read back. -/
structure Loading (c : Controller) (opening : Phase) (back : List UInt8) (compared : Bool) :
    Prop where
  opening : opening.isClosing = false
  back : back = []
  compared : compared = false
  buffer : ∀ b, c.readback = some b → b.size = c.image.size

/-- While the image is read back. -/
structure Reading (c : Controller) (opening : Phase) (back : List UInt8) (compared : Bool) :
    Prop where
  opening : opening.isClosing = false
  compared : compared = false
  empty : c.readback = none → back = [] ∧ c.transferred = 0
  buffer : ∀ b, c.readback = some b → b.size = c.image.size ∧ b.toList.take c.transferred = back

/-- While the image is read back the counter says how much came back. -/
theorem Reading.length_back {c : Controller} {opening : Phase} {back : List UInt8}
    {compared : Bool} (h : c.Reading opening back compared) (ht : c.transferred ≤ c.image.size) :
    back.length = c.transferred := by
  cases hb : c.readback with
  | none =>
    obtain ⟨rfl, hz⟩ := h.empty hb
    exact hz.symm
  | some b =>
    obtain ⟨hs, hback⟩ := h.buffer b hb
    rw [← hback, List.length_take, Array.length_toList]
    omega

/-- After the comparison, unless the upgrade began behind it. -/
def Closing (c : Controller) (opening : Phase) (back : List UInt8) (compared : Bool) : Prop :=
  opening.isClosing = true ∧ compared = false ∨
    opening.isClosing = false ∧ compared = true ∧ back = c.image.toList

/-- Where an upgrade may stand on entering a phase with `i` blocks through. -/
def Place (c : Controller) (t : Task) (opening : Phase) (back : List UInt8) (compared : Bool) :
    Phase → Nat → Prop
  | .setInterface, i => i = 0 ∧ opening = .setInterface ∧ c.Loading opening back compared
  | .getStatus, i => i ≤ t.blockCount ∧ c.Loading opening back compared
  | .transfer, i => i < t.blockCount ∧ c.Loading opening back compared
  | .zeroLengthTransfer, _ => c.Loading opening back compared
  | .readBack, i => (i < t.blockCount ∨ t.blockCount = 0 ∧ i = 0) ∧ c.Reading opening back compared
  | .getStatusRead, i => i ≤ t.blockCount ∧ c.Reading opening back compared ∧
      (opening = .getStatusRead ∨ c.readback.isSome)
  | .detach, _ | .checkStatus, _ | .complete, _ => c.Closing opening back compared
  | _, _ => False

/-- An upgrade whose operations began in the phase `opening` has come to the entry of phase `p`
with `i` blocks through. -/
structure Leg (c : Controller) (t : Task) (target : ClassHandle) (opening : Phase)
    (done : List Issue) (compared : Bool) (p : Phase) (i : Nat) : Prop where
  image : t.image = c.image
  config : t.config = c.config
  working : opening.needsClass = true
  interface : opening = .setInterface → ∀ x, c.boundInterface = some x → x = t.interface
  succeeded : ∀ d ∈ done, d.Succeeded target
  calls : done.map (·.request) ++ t.agenda p i = t.agenda opening 0
  transferred : c.transferred = min (i * t.blockSize) c.image.size
  block : c.block = UInt16.ofNat i
  place : c.Place t opening (done.flatMap Issue.received) compared p i

namespace Leg

variable {c : Controller} {t : Task} {target : ClassHandle} {opening : Phase} {done : List Issue}
  {compared : Bool} {p : Phase} {i : Nat}

/-- A leg is a matter of the image, the settings, the interface, the counters and the buffer. -/
theorem congr (h : c.Leg t target opening done compared p i) {d : Controller}
    (himage : d.image = c.image) (hconfig : d.config = c.config)
    (hinterface : d.boundInterface = c.boundInterface) (htransferred : d.transferred = c.transferred)
    (hblock : d.block = c.block) (hbuffer : d.readback = c.readback) :
    d.Leg t target opening done compared p i where
  image := h.image.trans himage.symm
  config := h.config.trans hconfig.symm
  working := h.working
  interface := fun ho x hx => h.interface ho x (hinterface ▸ hx)
  succeeded := h.succeeded
  calls := h.calls
  transferred := by rw [htransferred, h.transferred, himage]
  block := hblock.trans h.block
  place := by
    have hload : ∀ {back}, c.Loading opening back compared → d.Loading opening back compared :=
      fun hl => ⟨hl.1, hl.2, hl.3, by rw [hbuffer, himage]; exact hl.4⟩
    have hread : ∀ {back}, c.Reading opening back compared → d.Reading opening back compared :=
      fun hl => ⟨hl.1, hl.2, by rw [hbuffer, htransferred]; exact hl.3,
        by rw [hbuffer, himage, htransferred]; exact hl.4⟩
    have hplace := h.place
    cases p with
    | unattached | attached | error => exact hplace
    | setInterface => exact ⟨hplace.1, hplace.2.1, hload hplace.2.2⟩
    | getStatus | transfer => exact ⟨hplace.1, hload hplace.2⟩
    | zeroLengthTransfer => exact hload hplace
    | readBack => exact ⟨hplace.1, hread hplace.2⟩
    | getStatusRead => exact ⟨hplace.1, hread hplace.2.1, by rw [hbuffer]; exact hplace.2.2⟩
    | detach | checkStatus | complete =>
      simp only [Place, Closing] at hplace ⊢
      rwa [himage]

/-- The buffer that the upload begins with is no loss. -/
theorem enter (h : c.Leg t target opening done compared p i) :
    (c.enter p).Leg t target opening done compared p i := by
  by_cases hp : p = .readBack
  · subst hp
    have hread : c.Reading opening (done.flatMap Issue.received) compared := h.place.2
    refine ⟨by simpa using h.image, by simpa using h.config, h.working, by simpa using h.interface,
      h.succeeded, h.calls, by simpa using h.transferred, by simpa using h.block, ?_⟩
    refine ⟨h.place.1, hread.opening, hread.compared, fun hn => ?_, fun b hb => ?_⟩
    · simp [readback_enter_readBack] at hn
    · rw [readback_enter_readBack, Option.some.injEq] at hb
      rw [image_enter, transferred_enter]
      cases hr : c.readback with
      | some old =>
        rw [hr, Option.getD_some] at hb
        subst hb
        exact hread.buffer old hr
      | none =>
        obtain ⟨hback, htr⟩ := hread.empty hr
        rw [hr, Option.getD_none] at hb
        subst hb
        exact ⟨by simp, by simp [hback, htr]⟩
  · exact h.congr (by simp) (by simp) (by simp) (by simp) (by simp) (readback_enter_of_ne _ _ hp)

/-- The leg with which the first operation since the initialisation is issued. -/
theorem first (hp : p.needsClass = true)
    (ht : p = .transfer → c.image.size ≠ 0) (htransferred : c.transferred = 0)
    (hblock : c.block = 0) (hbuffer : ∀ b, c.readback = some b → b.size = c.image.size) :
    c.Leg ⟨c.image, c.config, c.boundInterface.getD default⟩ target p [] false p 0 where
  image := rfl
  config := rfl
  working := hp
  interface := fun _ x hx => by simp [hx]
  succeeded := by simp
  calls := rfl
  transferred := by simp [htransferred]
  block := hblock
  place := by
    have hload : p.isClosing = false → c.Loading p [] false := fun h => ⟨h, rfl, rfl, hbuffer⟩
    have hread : p.isClosing = false → c.Reading p [] false :=
      fun h => ⟨h, rfl, fun _ => ⟨rfl, htransferred⟩,
        fun b hb => ⟨hbuffer b hb, by simp [htransferred]⟩⟩
    cases p with
    | unattached | attached | error => simp [Phase.needsClass] at hp
    | setInterface => exact ⟨rfl, rfl, hload rfl⟩
    | getStatus => exact ⟨Nat.zero_le _, hload rfl⟩
    | transfer =>
      refine ⟨?_, hload rfl⟩
      rw [Task.lt_blockCount_iff, Nat.zero_mul]
      exact Nat.pos_of_ne_zero (ht rfl)
    | zeroLengthTransfer => exact hload rfl
    | readBack => exact ⟨by omega, hread rfl⟩
    | getStatusRead => exact ⟨Nat.zero_le _, hread rfl, .inl rfl⟩
    | detach | checkStatus | complete => exact .inl ⟨rfl, rfl⟩

theorem remaining_eq_zero_iff (h : c.Leg t target opening done compared p i) :
    c.remaining = 0 ↔ t.blockCount ≤ i := by
  have hl := t.lt_blockCount_iff (i := i)
  rw [h.image] at hl
  have ht := h.transferred
  unfold remaining
  omega

theorem chunkLength_eq (h : c.Leg t target opening done compared p i) :
    c.chunkLength = (t.block i).size := by
  have hb : max c.config.chunkSize.toNat 1 = t.blockSize := by rw [Task.blockSize, h.config]
  rw [t.size_block, chunkLength, hb, remaining, h.transferred, h.image]
  omega

theorem nextChunk_eq (h : c.Leg t target opening done compared p i) (hi : i < t.blockCount) :
    c.nextChunk = t.block i := by
  have hl := (t.lt_blockCount_iff (i := i)).mp hi
  have ht : c.transferred = i * t.blockSize := by
    rw [h.transferred, ← h.image]
    omega
  rw [nextChunk, h.chunkLength_eq, t.size_block, Task.block, ht, h.image, Nat.add_mul, Nat.one_mul]
  congr 1
  rw [h.image] at hl
  omega

theorem chunkLength_eq_zero_iff (h : c.Leg t target opening done compared p i) :
    c.chunkLength = 0 ↔ t.blockCount ≤ i := by
  have hs := t.blockSize_pos
  have hl := t.lt_blockCount_iff (i := i)
  rw [h.chunkLength_eq, t.size_block]
  omega

/-- Of an empty image nothing is read back. -/
theorem skip (h : c.Leg t target opening done compared .readBack i) (hc : c.chunkLength = 0)
    (hb : c.readback.isSome) :
    i = 0 ∧ t.blockCount = 0 ∧ c.Leg t target opening done compared .getStatusRead 0 := by
  obtain ⟨hi, hread⟩ := h.place
  rw [h.chunkLength_eq_zero_iff] at hc
  obtain ⟨hn, rfl⟩ : t.blockCount = 0 ∧ i = 0 := by omega
  refine ⟨rfl, hn, { h with calls := ?_, place := ⟨Nat.zero_le _, hread, .inr hb⟩ }⟩
  rw [← h.calls, t.agenda_readBack_empty hn]

/-- What there is to do in the course of an upgrade. -/
theorem action_cases (h : c.Leg t target opening done compared p i) :
    (∃ request length, c.action p = .start request length) ∨
      (p = .readBack ∧ c.chunkLength = 0 ∧ c.action p = .skip .getStatusRead) ∨
      (c.boundInterface = none ∧ ∃ cause, c.action p = .fail cause) ∨
      p = .complete ∧ c.action p = .finish := by
  have hplace := h.place
  cases p with
  | unattached | attached | error => exact hplace.elim
  | setInterface =>
    cases hx : c.boundInterface with
    | some x => exact .inl ⟨.setInterface x 0, 0, by simp only [action, hx]⟩
    | none =>
      exact .inr (.inr (.inl ⟨rfl, .classCall .setInterface .invalidHandle,
        by simp only [action, hx]⟩))
  | readBack =>
    by_cases hz : c.chunkLength = 0
    · exact .inr (.inl ⟨rfl, hz, by simp only [action, hz, if_true]⟩)
    · exact .inl ⟨.upload c.block (UInt16.ofNat c.chunkLength), c.chunkLength,
        by simp only [action, hz, if_false]⟩
  | complete => exact .inr (.inr (.inr ⟨rfl, rfl⟩))
  | _ => exact .inl ⟨_, _, rfl⟩

theorem step_of_start (h : c.Leg t target opening done compared p i) {request : ClassCall}
    {length : Nat} (ha : c.action p = .start request length) :
    ∃ q j, t.Step p i request q j := by
  have hplace := h.place
  cases p with
  | unattached | attached | complete | error => simp [action] at ha <;> split at ha <;> simp at ha
  | setInterface =>
    obtain ⟨-, ho, -⟩ := hplace
    simp only [action] at ha
    split at ha
    · rename_i x hx
      obtain rfl := h.interface ho x hx
      obtain ⟨rfl, -⟩ := Action.start.inj ha
      exact ⟨_, _, .setInterface i⟩
    · simp at ha
  | getStatus =>
    obtain ⟨rfl, -⟩ := Action.start.inj ha
    obtain hi | rfl := Nat.lt_or_eq_of_le hplace.1
    · exact ⟨_, _, .more hi⟩
    · exact ⟨_, _, .enough⟩
  | transfer =>
    obtain ⟨hi, -⟩ := hplace
    obtain ⟨rfl, -⟩ := Action.start.inj ha
    rw [h.nextChunk_eq hi, h.block]
    exact ⟨_, _, .transfer hi⟩
  | zeroLengthTransfer =>
    obtain ⟨rfl, -⟩ := Action.start.inj ha
    rw [h.block]
    exact ⟨_, _, .commit i⟩
  | readBack =>
    simp only [action] at ha
    split at ha
    · simp at ha
    · rename_i h0
      obtain ⟨rfl, -⟩ := Action.start.inj ha
      rw [h.chunkLength_eq_zero_iff, not_le] at h0
      rw [h.chunkLength_eq, h.block]
      exact ⟨_, _, .readBack h0⟩
  | getStatusRead =>
    obtain ⟨rfl, -⟩ := Action.start.inj ha
    obtain hi | rfl := Nat.lt_or_eq_of_le hplace.1
    · exact ⟨_, _, .again hi⟩
    · exact ⟨_, _, .compare⟩
  | detach =>
    obtain ⟨rfl, -⟩ := Action.start.inj ha
    rw [← h.config]
    exact ⟨_, _, .detach i⟩
  | checkStatus =>
    obtain ⟨rfl, -⟩ := Action.start.inj ha
    exact ⟨_, _, .checkStatus i⟩

/-- The leg behind an operation that succeeded, if the controller has moved with it. -/
theorem next (h : c.Leg t target opening done compared p i) {last : Issue} {q : Phase} {j : Nat}
    {d : Controller} {compared' : Bool} (hl : last.Succeeded target)
    (hs : t.Step p i last.request q j) (himage : d.image = c.image)
    (hconfig : d.config = c.config) (hinterface : d.boundInterface = c.boundInterface)
    (htransferred : d.transferred = min (j * t.blockSize) c.image.size)
    (hblock : d.block = UInt16.ofNat j)
    (hplace : d.Place t opening (done.flatMap Issue.received ++ last.received) compared' q j) :
    d.Leg t target opening (done ++ [last]) compared' q j where
  image := h.image.trans himage.symm
  config := h.config.trans hconfig.symm
  working := h.working
  interface := fun ho x hx => h.interface ho x (hinterface ▸ hx)
  succeeded := by
    intro x hx
    rcases List.mem_append.mp hx with hx | hx
    · exact h.succeeded x hx
    · rwa [List.mem_singleton.mp hx]
  calls := by
    rw [← h.calls, hs.agenda]
    simp
  transferred := by rw [htransferred, himage]
  block := hblock
  place := by simpa using hplace

end Leg

/-! ## The success of one operation -/

namespace Leg

variable {c : Controller} {t : Task} {target : ClassHandle} {opening : Phase} {done : List Issue}
  {compared : Bool} {i : Nat} {last : Issue}

theorem setInterface (h : c.Leg t target opening done compared .setInterface i) {length : Nat}
    (ha : c.action .setInterface = .start last.request length) (hl : last.Succeeded target) :
    t.Step .setInterface i last.request .getStatus 0 ∧
      c.Leg t target opening (done ++ [last]) compared .getStatus 0 := by
  obtain ⟨rfl, ho, hload⟩ := h.place
  have hr : last.request = .setInterface t.interface 0 := by
    simp only [action] at ha
    split at ha
    · rename_i x hx
      obtain rfl := h.interface ho x hx
      simp only [Action.start.injEq] at ha
      exact ha.1.symm
    · simp at ha
  have hs : t.Step .setInterface 0 last.request .getStatus 0 := hr ▸ .setInterface 0
  refine ⟨hs, h.next hl hs rfl rfl rfl h.transferred h.block ?_⟩
  have hrec : last.received = [] := by simp [Issue.received, hr]
  rw [hrec, List.append_nil]
  exact ⟨Nat.zero_le _, hload⟩

theorem getStatus (h : c.Leg t target opening done compared .getStatus i) {length : Nat}
    (ha : c.action .getStatus = .start last.request length) (hl : last.Succeeded target)
    (s : Option Status) :
    t.Step .getStatus i last.request
        (if c.remaining = 0 then .zeroLengthTransfer else .transfer) i ∧
      ({ c with lastStatus := s } : Controller).Leg t target opening (done ++ [last]) compared
        (if c.remaining = 0 then .zeroLengthTransfer else .transfer) i := by
  obtain ⟨hi, hload⟩ := h.place
  have hload : ({ c with lastStatus := s } : Controller).Loading opening
    (done.flatMap Issue.received) compared := ⟨hload.1, hload.2, hload.3, hload.4⟩
  have hr : last.request = .getStatus := by
    simp only [action, Action.start.injEq] at ha
    exact ha.1.symm
  have hrec : last.received = [] := by simp [Issue.received, hr]
  split
  · rename_i h0
    obtain rfl : i = t.blockCount := Nat.le_antisymm hi (h.remaining_eq_zero_iff.mp h0)
    have hs : t.Step .getStatus t.blockCount last.request .zeroLengthTransfer t.blockCount :=
      hr ▸ .enough
    refine ⟨hs, h.next hl hs rfl rfl rfl h.transferred h.block ?_⟩
    rw [hrec, List.append_nil]
    exact hload
  · rename_i h0
    rw [h.remaining_eq_zero_iff] at h0
    have hi : i < t.blockCount := by omega
    have hs : t.Step .getStatus i last.request .transfer i := hr ▸ .more hi
    refine ⟨hs, h.next hl hs rfl rfl rfl h.transferred h.block ?_⟩
    rw [hrec, List.append_nil]
    exact ⟨hi, hload⟩

/-- One more block is through. -/
theorem transferred_succ {p : Phase} (h : c.Leg t target opening done compared p i)
    (hi : i < t.blockCount) :
    c.transferred + (t.block i).size = min ((i + 1) * t.blockSize) c.image.size := by
  have hl := t.lt_blockCount_iff.mp hi
  rw [h.image] at hl
  rw [h.transferred, t.size_block, h.image, Nat.add_mul]
  omega

theorem block_succ {p : Phase} (h : c.Leg t target opening done compared p i) :
    c.block + 1 = UInt16.ofNat (i + 1) := by
  rw [h.block, UInt16.ofNat_add]
  rfl

theorem transfer (h : c.Leg t target opening done compared .transfer i) {length : Nat}
    (ha : c.action .transfer = .start last.request length) (hl : last.Succeeded target) :
    t.Step .transfer i last.request .getStatus (i + 1) ∧
      ({ c with block := c.block + 1, transferred := c.transferred + length } : Controller).Leg
        t target opening (done ++ [last]) compared .getStatus (i + 1) := by
  obtain ⟨hi, hload⟩ := h.place
  simp only [action, Action.start.injEq, h.nextChunk_eq hi, h.chunkLength_eq, h.block] at ha
  obtain ⟨hr, rfl⟩ := ha
  have hs : t.Step .transfer i last.request .getStatus (i + 1) := hr ▸ .transfer hi
  refine ⟨hs, h.next hl hs rfl rfl rfl (h.transferred_succ hi) h.block_succ ?_⟩
  have hrec : last.received = [] := by simp [Issue.received, ← hr]
  rw [hrec, List.append_nil]
  exact ⟨hi, hload.1, hload.2, hload.3, hload.4⟩

theorem zeroLengthTransfer (h : c.Leg t target opening done compared .zeroLengthTransfer i)
    {length : Nat} (ha : c.action .zeroLengthTransfer = .start last.request length)
    (hl : last.Succeeded target) :
    t.Step .zeroLengthTransfer i last.request .readBack 0 ∧
      c.resetCounters.Leg t target opening (done ++ [last]) compared .readBack 0 := by
  have hload : c.Loading opening (done.flatMap Issue.received) compared := h.place
  simp only [action, Action.start.injEq, h.block] at ha
  have hr := ha.1
  have hs : t.Step .zeroLengthTransfer i last.request .readBack 0 := hr ▸ .commit i
  refine ⟨hs, h.next hl hs rfl rfl rfl (by simp [resetCounters]) rfl ?_⟩
  have hrec : last.received = [] := by simp [Issue.received, ← hr]
  rw [hrec, List.append_nil]
  refine ⟨by omega, hload.opening, hload.compared, fun _ => ⟨hload.back, rfl⟩, fun b hb => ?_⟩
  exact ⟨hload.buffer b hb, by simp [resetCounters, hload.back]⟩

/-- The length of an upload in flight, and what its reply adds to the data that came back. -/
theorem readBack_request (h : c.Leg t target opening done compared .readBack i) {length : Nat}
    (ha : c.action .readBack = .start last.request length) {data : Bytes}
    (hr : last.reply = some (.ok data)) (hl : last.Succeeded target) :
    i < t.blockCount ∧ length = (t.block i).size ∧
      last.request = .upload (UInt16.ofNat i) (UInt16.ofNat (t.block i).size) ∧
      last.received = (data.extract 0 length).toList := by
  simp only [action, h.chunkLength_eq, h.block] at ha
  split at ha
  · simp at ha
  · rename_i h0
    rw [← h.chunkLength_eq, h.chunkLength_eq_zero_iff] at h0
    simp only [Action.start.injEq] at ha
    obtain ⟨hq, rfl⟩ := ha
    refine ⟨by omega, rfl, hq.symm, ?_⟩
    simp only [Issue.received, ← hq, hl.2.1, hr, t.toNat_size_block, Array.toList_extract,
      List.extract_eq_take_drop, List.drop_zero, Nat.sub_zero]

theorem readBack (h : c.Leg t target opening done compared .readBack i) {length : Nat}
    (ha : c.action .readBack = .start last.request length) {data : Bytes}
    (hr : last.reply = some (.ok data)) (hl : last.Succeeded target) (hb : c.readback.isSome)
    (hd : length ≤ data.size) :
    t.Step .readBack i last.request .getStatusRead (i + 1) ∧
      ({ c.storeReadback (data.extract 0 length) with block := c.block + 1 } : Controller).Leg
        t target opening (done ++ [last]) compared .getStatusRead (i + 1) := by
  obtain ⟨hi, rfl, hq, hrec⟩ := h.readBack_request ha hr hl
  obtain ⟨b, hb⟩ := Option.isSome_iff_exists.mp hb
  have hread : c.Reading opening (done.flatMap Issue.received) compared := h.place.2
  obtain ⟨hsize, htake⟩ := hread.buffer b hb
  have hlen : (data.extract 0 (t.block i).size).size = (t.block i).size := by simp; omega
  have hnext := h.transferred_succ hi
  have hs : t.Step .readBack i last.request .getStatusRead (i + 1) := hq ▸ .readBack hi
  refine ⟨hs, h.next hl hs rfl rfl rfl ?_ h.block_succ ?_⟩
  · simpa only [storeReadback, hlen] using hnext
  · refine ⟨hi, ⟨hread.opening, hread.compared, fun hn => ?_, fun b' hb' => ?_⟩, .inr ?_⟩
    · simp [storeReadback, hb] at hn
    · simp only [storeReadback, hb, Option.map_some, Option.some.injEq] at hb'
      subst hb'
      refine ⟨(Bytes.size_overwrite _ _ _).trans hsize, ?_⟩
      rw [hrec, ← htake]
      exact Bytes.take_overwrite b c.transferred _ (by omega)
    · simp [storeReadback, hb]

theorem getStatusRead (h : c.Leg t target opening done compared .getStatusRead i) {length : Nat}
    (ha : c.action .getStatusRead = .start last.request length) (hl : last.Succeeded target)
    (s : Option Status) (hrem : c.remaining ≠ 0) :
    t.Step .getStatusRead i last.request .readBack i ∧
      ({ c with lastStatus := s } : Controller).Leg t target opening (done ++ [last]) compared
        .readBack i := by
  obtain ⟨hi, hread, -⟩ := h.place
  rw [Ne, h.remaining_eq_zero_iff, not_le] at hrem
  have hr : last.request = .getStatus := by
    simp only [action, Action.start.injEq] at ha
    exact ha.1.symm
  have hs : t.Step .getStatusRead i last.request .readBack i := hr ▸ .again hrem
  refine ⟨hs, h.next hl hs rfl rfl rfl h.transferred h.block ?_⟩
  have hrec : last.received = [] := by simp [Issue.received, hr]
  rw [hrec, List.append_nil]
  exact ⟨.inl hrem, hread.1, hread.2, hread.3, hread.4⟩

/-- Once all blocks are through the buffer holds just what came back. -/
theorem readback_eq_back (h : c.Leg t target opening done compared .getStatusRead i)
    (hrem : c.remaining = 0) {b : Bytes} (hb : c.readback = some b) :
    b.size = c.image.size ∧ b.toList = done.flatMap Issue.received := by
  obtain ⟨hi, hread, -⟩ := h.place
  obtain ⟨hsize, htake⟩ := hread.buffer b hb
  refine ⟨hsize, ?_⟩
  rw [← htake, List.take_of_length_le]
  have hn := t.blockCount_le (h.remaining_eq_zero_iff.mp hrem)
  rw [h.image] at hn
  rw [h.transferred, Array.length_toList]
  omega

theorem verified (h : c.Leg t target opening done compared .getStatusRead i) {length : Nat}
    (ha : c.action .getStatusRead = .start last.request length) (hl : last.Succeeded target)
    (s : Option Status) (hrem : c.remaining = 0) (hm : c.mismatch = none) :
    t.Step .getStatusRead i last.request .detach 0 ∧
      (({ c with lastStatus := s } : Controller).freeReadback.resetCounters).Leg t target opening
        (done ++ [last]) true .detach 0 := by
  obtain ⟨hi, hread, -⟩ := h.place
  obtain rfl : i = t.blockCount := Nat.le_antisymm hi (h.remaining_eq_zero_iff.mp hrem)
  have hr : last.request = .getStatus := by
    simp only [action, Action.start.injEq] at ha
    exact ha.1.symm
  have hrec : last.received = [] := by simp [Issue.received, hr]
  cases hb : c.readback with
  | none => simp [mismatch, hb] at hm
  | some b =>
    obtain ⟨hsize, hback⟩ := h.readback_eq_back hrem hb
    simp only [mismatch, hb, Bytes.firstDifference_eq_none_iff hsize] at hm
    subst hm
    have hs : t.Step .getStatusRead t.blockCount last.request .detach 0 := hr ▸ .compare
    refine ⟨hs, h.next hl hs ?_ ?_ ?_ ?_ ?_ ?_⟩
    all_goals simp only [freeReadback, resetCounters, Nat.zero_mul, Nat.zero_min]
    · rfl
    · exact .inr ⟨hread.opening, rfl, by rw [hrec, List.append_nil]; exact hback.symm⟩

theorem detach (h : c.Leg t target opening done compared .detach i) {length : Nat}
    (ha : c.action .detach = .start last.request length) (hl : last.Succeeded target) :
    t.Step .detach i last.request
        (if c.config.checkStatusAfterDetach then .checkStatus else .complete) i ∧
      c.Leg t target opening (done ++ [last]) compared
        (if c.config.checkStatusAfterDetach then .checkStatus else .complete) i := by
  have hclose : c.Closing opening (done.flatMap Issue.received) compared := h.place
  have hr : last.request = .detach t.config.detachTimeout := by
    simp only [action, Action.start.injEq, ← h.config] at ha
    exact ha.1.symm
  have hrec : last.received = [] := by simp [Issue.received, hr]
  rw [← h.config]
  have hs : t.Step .detach i last.request
      (if t.config.checkStatusAfterDetach then .checkStatus else .complete) i := hr ▸ .detach i
  refine ⟨hs, h.next hl hs rfl rfl rfl h.transferred h.block ?_⟩
  rw [hrec, List.append_nil]
  split <;> exact hclose

theorem checkStatus (h : c.Leg t target opening done compared .checkStatus i) {length : Nat}
    (ha : c.action .checkStatus = .start last.request length) (hl : last.Succeeded target) :
    t.Step .checkStatus i last.request .complete i ∧
      c.Leg t target opening (done ++ [last]) compared .complete i := by
  have hclose : c.Closing opening (done.flatMap Issue.received) compared := h.place
  have hr : last.request = .getStatus := by
    simp only [action, Action.start.injEq] at ha
    exact ha.1.symm
  have hrec : last.received = [] := by simp [Issue.received, hr]
  have hs : t.Step .checkStatus i last.request .complete i := hr ▸ .checkStatus i
  refine ⟨hs, h.next hl hs rfl rfl rfl h.transferred h.block ?_⟩
  rw [hrec, List.append_nil]
  exact hclose

/-- A leg ends where the operation in flight succeeds and the upgrade goes on, and a new one
begins. -/
theorem succeed {op : InFlight} (h : c.Leg t target opening done compared c.phase i)
    (ha : c.action c.phase = .start last.request op.length) {data : Bytes}
    (hr : last.reply = some (.ok data)) (hl : last.Succeeded target)
    (hb : c.phase = .readBack → c.readback.isSome) {p : Phase} {d : Controller} {equal : Bool}
    (hs : Succeeds c op data p d equal) :
    ∃ j, t.Step c.phase i last.request p j ∧
      d.Leg t target opening (done ++ [last]) (compared || equal) p j := by
  cases hs with
  | setInterface hphase =>
    rw [hphase] at h ha
    obtain ⟨hstep, hleg⟩ := h.setInterface ha hl
    exact ⟨0, hphase ▸ hstep, by simpa using hleg⟩
  | getStatus s hphase =>
    rw [hphase] at h ha
    obtain ⟨hstep, hleg⟩ := h.getStatus ha hl s
    exact ⟨i, hphase ▸ hstep, by simpa using hleg⟩
  | transfer hphase =>
    rw [hphase] at h ha
    obtain ⟨hstep, hleg⟩ := h.transfer ha hl
    exact ⟨i + 1, hphase ▸ hstep, by simpa using hleg⟩
  | zeroLengthTransfer hphase =>
    rw [hphase] at h ha
    obtain ⟨hstep, hleg⟩ := h.zeroLengthTransfer ha hl
    exact ⟨0, hphase ▸ hstep, by simpa using hleg⟩
  | readBack hphase hd =>
    have hb := hb hphase
    rw [hphase] at h ha
    obtain ⟨hstep, hleg⟩ := h.readBack ha hr hl hb hd
    exact ⟨i + 1, hphase ▸ hstep, by simpa using hleg⟩
  | getStatusRead s hphase hrem =>
    rw [hphase] at h ha
    obtain ⟨hstep, hleg⟩ := h.getStatusRead ha hl s hrem
    exact ⟨i, hphase ▸ hstep, by simpa using hleg⟩
  | verified s hphase hrem _ _ hm =>
    rw [hphase] at h ha
    obtain ⟨hstep, hleg⟩ := h.verified ha hl s hrem hm
    exact ⟨0, hphase ▸ hstep, by simpa using hleg⟩
  | detach hphase =>
    rw [hphase] at h ha
    obtain ⟨hstep, hleg⟩ := h.detach ha hl
    exact ⟨i, hphase ▸ hstep, by simpa using hleg⟩
  | checkStatus hphase =>
    rw [hphase] at h ha
    obtain ⟨hstep, hleg⟩ := h.checkStatus ha hl
    exact ⟨i, hphase ▸ hstep, by simpa using hleg⟩

end Leg

end Controller

end FirmwareUpgrade
