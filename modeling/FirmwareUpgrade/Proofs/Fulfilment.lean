import FirmwareUpgrade.Proofs.Progress

/-!
# Replies that are as they should be

A reply that fits takes the upgrade to the next step. What is read back is then what the device
gives back, piece by piece, so the comparison is that of this with the image. If it is the image no
difference is found. One buffer is allocated for it and given up once.
-/
namespace FirmwareUpgrade

/-- What the upgrade needs of the reply to the operation of a phase when the device gives back `m` in
all: a good status, all bytes that were asked for, and in the end no difference. -/
structure Task.Fits (t : Task) (m : Bytes) (p : Phase) (i : Nat) (request : ClassCall)
    (data : Bytes) : Prop where
  status : request = .getStatus → ∃ s, Status.decode data = .ok s ∧ s.check = .ok ()
  back : p = .readBack → data.size = (t.block i).size ∧
    data.toList = (m.toList.drop (i * t.blockSize)).take t.blockSize
  same : p = .getStatusRead → i = t.blockCount → m.firstDifference t.image = none

/-- The replies of the schedule fit if the image is given back. -/
theorem Task.Answers.fits {t : Task} {p q : Phase} {i j : Nat} {request : ClassCall} {data : Bytes}
    (h : t.Answers i request data) (hs : t.Step p i request q j) :
    t.Fits t.image p i request data where
  status hr := by
    subst hr
    exact h
  back hp := by
    subst hp
    cases hs
    rw [show data = t.block i from h]
    exact ⟨rfl, t.toList_block i⟩
  same _ _ := (Bytes.firstDifference_eq_none_iff rfl).mpr rfl

namespace Controller

/-- What is known of the read-back buffer on entering a phase: it is allocated at most once before
the comparison, and was given up with it. -/
def Tally (c : Controller) (p : Phase) : Prop :=
  if p.isClosing then c.readback = none ∧ c.readbackAllocations = 1 ∧ c.readbackFrees = 1
  else c.readbackFrees = 0 ∧ c.readbackAllocations = if c.readback.isSome then 1 else 0

/-- What is read back is the image as far as it goes. -/
def Faithful (t : Task) (done : List Issue) : Phase → Nat → Prop
  | .readBack, i | .getStatusRead, i =>
    done.flatMap Issue.received = t.image.toList.take (i * t.blockSize)
  | _, _ => True

/-- What is read back is what the device gives back in all, as far as it goes. -/
def Returned (m : Bytes) (t : Task) (done : List Issue) : Phase → Nat → Prop
  | .readBack, i | .getStatusRead, i =>
    done.flatMap Issue.received = m.toList.take (i * t.blockSize)
  | _, _ => True

theorem faithful_iff {t : Task} {done : List Issue} {p : Phase} {i : Nat} :
    Faithful t done p i ↔ Returned t.image t done p i := by
  cases p <;> rfl

theorem Tally.enter {c : Controller} {p : Phase} (h : c.Tally p) : (c.enter p).Tally p := by
  by_cases hp : p = .readBack
  · subst hp
    obtain ⟨hf, ha⟩ := h
    unfold Controller.enter allocateReadback
    rw [if_pos rfl]
    cases hb : c.readback with
    | some b =>
      refine ⟨hf, ?_⟩
      simpa [hb] using ha
    | none =>
      refine ⟨hf, ?_⟩
      simpa [hb] using ha
  · unfold Controller.enter
    rwa [if_neg hp]

theorem Tally.succeeds {c d : Controller} {op : InFlight} {data : Bytes} {p : Phase} {equal : Bool}
    (hs : Succeeds c op data p d equal) (h : c.Tally c.phase) : d.Tally p := by
  cases hs with
  | getStatus s hp =>
    rw [hp] at h
    split <;> exact h
  | setInterface hp | transfer hp | zeroLengthTransfer hp | getStatusRead s hp | checkStatus hp =>
    rw [hp] at h
    exact h
  | readBack hp =>
    rw [hp] at h
    obtain ⟨hf, ha⟩ := h
    exact ⟨hf, by simpa [storeReadback] using ha⟩
  | verified s hp _ _ _ hm =>
    rw [hp] at h
    obtain ⟨hf, ha⟩ := h
    obtain ⟨b, hb⟩ : ∃ b, c.readback = some b := by
      cases hb : c.readback with
      | none => simp [mismatch, hb] at hm
      | some b => exact ⟨b, rfl⟩
    rw [hb] at ha
    simp [Tally, Phase.isClosing, freeReadback, resetCounters, hb, hf, ha]
  | detach hp =>
    rw [hp] at h
    split <;> exact h

/-- A status reply that is good lets the upgrade go on. -/
theorem checkStatus_of_good {c : Controller} {data : Bytes} {next : Phase} {status : Status}
    (hs : Status.decode data = .ok status) (hc : status.check = .ok ()) :
    (c.checkStatus data next).next = .ok next := by
  simp [checkStatus, hs, hc, Except.map]

namespace Leg

variable {c : Controller} {t : Task} {target : ClassHandle} {opening : Phase} {done : List Issue}
  {compared : Bool} {p q : Phase} {i j : Nat} {request : ClassCall} {op : InFlight} {data m : Bytes}

/-- In the end the image is compared with all that the device gives back. -/
theorem mismatch_eq (h : c.Leg t target opening done compared .getStatusRead t.blockCount)
    (hb : c.readback.isSome) (hf : Returned m t done .getStatusRead t.blockCount)
    (hm : m.size ≤ t.image.size) : c.mismatch = m.firstDifference t.image := by
  obtain ⟨b, hb⟩ := Option.isSome_iff_exists.mp hb
  obtain ⟨-, hback⟩ := h.readback_eq_back (h.remaining_eq_zero_iff.mpr (Nat.le_refl _)) hb
  have hle : m.toList.length ≤ t.blockCount * t.blockSize :=
    hm.trans (t.blockCount_le (Nat.le_refl _))
  have hbm : b = m := by
    apply Array.toList_inj.mp
    rw [hback, show done.flatMap Issue.received = _ from hf, List.take_of_length_le hle]
  simp only [mismatch, hb, hbm, h.image]

/-- A reply that fits lets the upgrade go on. -/
theorem goes_on (h : c.Leg t target opening done compared p i) (hp : c.phase = p)
    (hs : t.Step p i request q j) (ha : c.action p = .start request op.length)
    (hb : p = .getStatusRead → c.readback.isSome) (hf : Returned m t done p i)
    (hm : m.size ≤ t.image.size) (hd : t.Fits m p i request data) :
    ∃ next, (c.succeed op data).next = .ok next := by
  cases hs with
  | setInterface | transfer | commit | detach | checkStatus =>
    unfold Controller.succeed
    rw [hp]
    exact ⟨_, rfl⟩
  | more | enough =>
    obtain ⟨status, hs, hc⟩ := hd.status rfl
    unfold Controller.succeed
    rw [hp]
    exact ⟨_, checkStatus_of_good hs hc⟩
  | readBack hi =>
    have hz : c.chunkLength ≠ 0 := fun hz => absurd (h.chunkLength_eq_zero_iff.mp hz) (by omega)
    rw [action, if_neg hz] at ha
    have hlong : ¬data.size < op.length := by
      rw [(hd.back rfl).1, ← (Action.start.inj ha).2, h.chunkLength_eq]
      exact Nat.lt_irrefl _
    exact ⟨.getStatusRead, by simp [Controller.succeed, hp, takeChunk, hlong]⟩
  | again hi =>
    obtain ⟨status, hs, hc⟩ := hd.status rfl
    have hrem : c.remaining ≠ 0 := by
      rw [Ne, h.remaining_eq_zero_iff]
      omega
    unfold Controller.succeed
    rw [hp]
    dsimp only
    rw [if_neg hrem]
    exact ⟨_, checkStatus_of_good hs hc⟩
  | compare =>
    obtain ⟨status, hs, hc⟩ := hd.status rfl
    have hrem := h.remaining_eq_zero_iff.mpr (Nat.le_refl _)
    obtain ⟨notices, hv⟩ := succeed_getStatusRead hp hrem hs hc op
    have hsame : Controller.mismatch { c with lastStatus := some status } = none :=
      (h.mismatch_eq (hb rfl) hf hm).trans (hd.same rfl rfl)
    exact ⟨.detach, by rw [hv]; simp only [verify, hsame]⟩

/-- One more reply, and what came back is still what the device gives back. -/
theorem returned {last : Issue} (h : c.Leg t target opening (done ++ [last]) compared q j)
    (hs : t.Step p i last.request q j) (hf : Returned m t done p i)
    (hl : last.accepted = true) (hr : last.reply = some (.ok data))
    (hd : t.Fits m p i last.request data) : Returned m t (done ++ [last]) q j := by
  have hplace := h.place
  generalize hreq : last.request = request at hs hd
  have hstatus : request = .getStatus → (done ++ [last]).flatMap Issue.received =
      done.flatMap Issue.received := by
    rintro rfl
    simp [Issue.received, hreq]
  cases hs with
  | setInterface | more | enough | transfer | compare | checkStatus => trivial
  | detach => split <;> trivial
  | again => exact (hstatus rfl).trans hf
  | commit =>
    have hz : c.transferred = 0 := by simpa using h.transferred
    have hlen := hplace.2.length_back (by omega)
    rw [hz] at hlen
    simpa [Returned] using List.eq_nil_of_length_eq_zero hlen
  | readBack hi =>
    obtain ⟨hsize, hback⟩ := hd.back rfl
    have hrec : last.received = data.toList := by
      simp only [Issue.received, hreq, hl, hr, t.toNat_size_block]
      exact List.take_of_length_le (Nat.le_of_eq hsize)
    simp only [Returned] at hf ⊢
    rw [List.flatMap_append, hf, List.flatMap_singleton, hrec, hback, Nat.add_mul, Nat.one_mul,
      List.take_add]

/-- The operation in flight succeeds with a reply that fits. -/
theorem proceed (h : c.Leg t target opening done compared p i) (hp : c.phase = p)
    (hs : t.Step p i request q j) (ha : c.action p = .start request op.length)
    (hb : p = .readBack ∨ p = .getStatusRead → c.readback.isSome) (hf : Returned m t done p i)
    (hm : m.size ≤ t.image.size) (hd : t.Fits m p i request data) (operation : Operation) :
    (c.conclude op operation (.ok data)).next = .ok q ∧
      ∃ done' compared',
        (c.conclude op operation (.ok data)).controller.Leg t target opening done' compared' q j ∧
        Returned m t done' q j := by
  have h' : Controller.Leg { c with inFlight := none } t target opening done compared p i :=
    h.congr rfl rfl rfl rfl rfl rfl
  let last : Issue := ⟨target, request, ⟨op.ticket, op.operation⟩, true, some (.ok data)⟩
  obtain ⟨next, hnext⟩ := h'.goes_on hp hs ha (fun hr => hb (.inr hr)) hf hm hd
  subst hp
  have ha' : c.action c.phase = .start last.request op.length := ha
  have hl : last.Succeeded target := ⟨rfl, rfl, data, rfl⟩
  obtain ⟨j', hs', hleg⟩ :=
    h'.succeed ha' rfl hl (fun hr => hb (.inl hr)) (succeeds_of_ok hnext)
  obtain ⟨rfl, rfl⟩ := hs'.unique hs
  exact ⟨hnext, _, _, hleg, hleg.returned hs' hf rfl rfl hd⟩

/-- The operation in flight succeeds with the reply that the schedule asks for. -/
theorem fulfil (h : c.Leg t target opening done compared p i) (hp : c.phase = p)
    (hs : t.Step p i request q j) (ha : c.action p = .start request op.length)
    (hb : p = .readBack ∨ p = .getStatusRead → c.readback.isSome) (hf : Faithful t done p i)
    (htally : c.Tally p) (hd : t.Answers i request data) (operation : Operation) :
    (c.conclude op operation (.ok data)).next = .ok q ∧
      (c.conclude op operation (.ok data)).controller.Tally q ∧
      ∃ done' compared',
        (c.conclude op operation (.ok data)).controller.Leg t target opening done' compared' q j ∧
        Faithful t done' q j := by
  obtain ⟨hnext, done', compared', hleg, hreturned⟩ :=
    h.proceed hp hs ha hb (faithful_iff.mp hf) (Nat.le_refl _) (hd.fits hs) operation
  subst hp
  have hsucc : Succeeds { c with inFlight := none } op data q _ _ := succeeds_of_ok hnext
  exact ⟨hnext, Tally.succeeds hsucc htally, done', compared', hleg, faithful_iff.mpr hreturned⟩

end Leg

end Controller

end FirmwareUpgrade
