import FirmwareUpgrade.Accelerator
import FirmwareUpgrade.Proofs.Schedule
import FirmwareUpgrade.Proofs.StatusReply

/-!
# The device along the schedule

A device without faults accepts every operation of an upgrade and completes it with success. Its
memory grows block by block until it is the image, and is then given back block by block. A block
whose number is a multiple of `2 ^ 16` makes the memory start over, so the image must not have more
than `2 ^ 16` blocks.
-/
namespace FirmwareUpgrade

namespace Task

variable (t : Task)

theorem block_eq (i : Nat) :
    t.block i = t.image.extract (i * t.blockSize) ((i + 1) * t.blockSize) := by
  apply Array.ext_getElem?
  intro j
  simp only [block, Array.getElem?_extract]
  congr 1
  simp only [Nat.min_assoc, Nat.min_self]

/-- One more block behind those that are through. -/
theorem extract_append_block {start i : Nat} (h : start ≤ i * t.blockSize) :
    t.image.extract start (i * t.blockSize) ++ t.block i =
      t.image.extract start ((i + 1) * t.blockSize) := by
  have hle : i * t.blockSize ≤ (i + 1) * t.blockSize := Nat.mul_le_mul_right _ (Nat.le_succ i)
  rw [block_eq, Array.extract_append_extract, Nat.min_eq_left h, Nat.max_eq_right hle]

theorem extract_of_blockCount_le {i : Nat} (h : t.blockCount ≤ i) :
    t.image.extract 0 (i * t.blockSize) = t.image :=
  Array.extract_eq_self_of_le (t.blockCount_le h)

theorem block_ne_empty {i : Nat} (h : i < t.blockCount) : (t.block i).isEmpty = false := by
  have hs := t.size_block i
  have hl := t.lt_blockCount_iff.mp h
  have hp := t.blockSize_pos
  rw [Array.isEmpty_eq_false_iff, Ne, ← Array.size_eq_zero_iff]
  omega

/-- An upgrade asks for no interface but its own. -/
theorem Step.isForeign_eq_false {t : Task} {p q : Phase} {i j : Nat} {request : ClassCall}
    (h : t.Step p i request q j) (hi : t.interface = Accelerator.interface) :
    Accelerator.isForeign request = false := by
  cases h with
  | setInterface => simp [Accelerator.isForeign, hi]
  | _ => rfl

end Task

namespace Accelerator

variable {α : Type}

/-- What a device has in memory, and where it reads on, when `i` blocks are through. -/
def Content (a : Accelerator α) (t : Task) : Phase → Nat → Prop
  | .setInterface, _ => a.memory = #[]
  | .getStatus, i | .transfer, i => a.memory = t.image.extract 0 (i * t.blockSize)
  | .readBack, i | .getStatusRead, i =>
    a.memory = t.image ∧ a.uploadOffset = min (i * t.blockSize) t.image.size
  | _, _ => a.memory = t.image

/-- A device without faults, on which an upgrade has come to the entry of phase `p` with `i` blocks
through. -/
structure Along (a : Accelerator α) (t : Task) (target : ClassHandle) (p : Phase) (i : Nat) :
    Prop where
  faults : a.faults = .none
  live : a.liveClass = some target
  state : a.state ≠ Status.dfuError
  calls : a.calls.toList ++ (t.agenda p i).map ClassCall.record =
    .init :: t.schedule.map ClassCall.record
  content : a.Content t p i

namespace Along

variable {a : Accelerator α} {t : Task} {target : ClassHandle} {p q : Phase} {i j : Nat}
  {request : ClassCall}

theorem respond (h : a.Along t target p i) (hs : t.Step p i request q j)
    (hn : t.blockCount ≤ 65536) :
    ∃ memory uploadOffset state data notices,
      (a.log request.record).respond request =
        ({ a.log request.record with memory, uploadOffset, state }, .ok data, notices) ∧
      state ≠ Status.dfuError ∧
      Content { a.log request.record with memory, uploadOffset, state } t q j ∧
      t.Answers i request data := by
  have hcontent := h.content
  have hstatus : (a.log ClassCall.getStatus.record).respond .getStatus =
      (a.log ClassCall.getStatus.record, .ok (Status.ofCode 0 a.state).encode, []) := by
    simp [Accelerator.respond, statusNow, log, h.faults, Faults.none]
  have hwell : t.Answers i .getStatus (Status.ofCode 0 a.state).encode :=
    ⟨_, Status.decode_encode _, if_pos ⟨rfl, h.state⟩⟩
  cases hs with
  | setInterface =>
    refine ⟨a.memory, a.uploadOffset, Status.dfuIdle, #[], [], rfl, by decide, ?_, trivial⟩
    change a.memory = _
    rw [Nat.zero_mul]
    simpa [Content] using hcontent
  | more | again =>
    exact ⟨a.memory, a.uploadOffset, a.state, _, _, hstatus, h.state, hcontent, hwell⟩
  | enough =>
    refine ⟨a.memory, a.uploadOffset, a.state, _, _, hstatus, h.state, ?_, hwell⟩
    exact hcontent.trans (t.extract_of_blockCount_le (Nat.le_refl _))
  | compare => exact ⟨a.memory, a.uploadOffset, a.state, _, _, hstatus, h.state, hcontent.1, hwell⟩
  | checkStatus =>
    exact ⟨a.memory, a.uploadOffset, a.state, _, _, hstatus, h.state, hcontent, hwell⟩
  | transfer hi =>
    refine ⟨a.memory ++ t.block i, a.uploadOffset, Status.downloadIdle, #[],
      [.blockStored (UInt16.ofNat i) (t.block i).size], ?_, by decide, ?_, trivial⟩
    · have hkeep : (if UInt16.ofNat i = 0 then #[] else a.memory) = a.memory := by
        split
        · rename_i hz
          have hz := congrArg UInt16.toNat hz
          rw [UInt16.toNat_ofNat', UInt16.toNat_zero, Nat.mod_eq_of_lt (by omega)] at hz
          rw [show a.memory = _ from hcontent, hz]
          simp
        · rfl
      simp [Accelerator.respond, t.block_ne_empty hi, log, h.faults, Faults.none, store, hkeep]
    · change a.memory ++ t.block i = _
      rw [show a.memory = _ from hcontent, t.extract_append_block (Nat.zero_le _)]
  | commit =>
    refine ⟨a.memory, 0, Status.dfuIdle, #[], _, rfl, by decide, ⟨hcontent, ?_⟩, trivial⟩
    simp
  | readBack hi =>
    obtain ⟨hmemory, hoffset⟩ := hcontent
    have hl := t.lt_blockCount_iff.mp hi
    have hsize := t.size_block i
    have hfirst : min a.uploadOffset a.memory.size = i * t.blockSize := by
      rw [hoffset, hmemory]
      omega
    have hlast : min (i * t.blockSize + (t.block i).size) t.image.size =
        min ((i + 1) * t.blockSize) t.image.size := by
      rw [hsize, Nat.add_mul]
      omega
    refine ⟨a.memory, min ((i + 1) * t.blockSize) t.image.size, Status.uploadIdle, t.block i, [], ?_,
      by decide, ⟨hmemory, rfl⟩, rfl⟩
    simp only [Accelerator.respond, log, window, t.toNat_size_block, hfirst, h.faults, Faults.none,
      Bytes.readFlawed]
    rw [hmemory, hlast]
    rfl
  | detach =>
    refine ⟨a.memory, a.uploadOffset, Status.appDetach, #[], [], rfl, by decide, ?_, trivial⟩
    split <;> exact hcontent

/-- An operation of the schedule is accepted, and its completion called or held back. -/
theorem submit (h : a.Along t target p i) (hs : t.Step p i request q j)
    (hn : t.blockCount ≤ 65536) (hi : t.interface = interface) (hheld : a.held = [])
    (hout : a.outstanding = 0) (x : α) :
    ∃ b data notices, b.Along t target q j ∧ t.Answers i request data ∧
      b.deferred = a.deferred ∧ b.maxOutstanding = max a.maxOutstanding 1 ∧
      b.outstanding = b.held.length ∧
      b.held = (if a.deferred then [(x, .ok data)] else []) ∧
      a.submit target request x =
        (b, ⟨.ok (), notices, if a.deferred then [] else [(x, .ok data)]⟩) := by
  obtain ⟨memory, uploadOffset, state, data, notices, hr, hstate, hcontent, hanswer⟩ :=
    h.respond hs hn
  have hforeign : isForeign request = false := hs.isForeign_eq_false hi
  have hsubmit : a.submit target request x =
      ({ a.log request.record with memory, uploadOffset, state } : Accelerator α).conclude x
        (.ok data) notices := by
    have hlive : (a.log request.record).liveClass = some target := h.live
    have hreject : (a.log request.record).faults.reject = none := by
      change a.faults.reject = none
      rw [h.faults]
      rfl
    simp only [Accelerator.submit, hforeign, hlive, hreject, hr, ne_eq, not_true_eq_false,
      Bool.false_eq_true, if_false, reduceCtorEq]
  have hcalls : (a.log request.record).calls.toList ++ (t.agenda q j).map ClassCall.record =
      .init :: t.schedule.map ClassCall.record := by
    rw [← h.calls, hs.agenda]
    simp [log]
  have hpeak : max a.maxOutstanding (a.outstanding + 1) = max a.maxOutstanding 1 := by rw [hout]
  rw [hsubmit]
  unfold conclude
  cases hd : a.deferred with
  | true =>
    refine ⟨_, data, notices, ?_, hanswer, ?_, hpeak, ?_, ?_, if_pos hd⟩
    · exact ⟨h.faults, h.live, hstate, hcalls, hcontent⟩
    · exact hd
    · simp [log, hheld, hout]
    · simp [log, hheld]
  | false =>
    refine ⟨_, data, notices, ?_, hanswer, ?_, hpeak, ?_, ?_, if_neg (by simp [log, hd])⟩
    · exact ⟨h.faults, h.live, hstate, hcalls, hcontent⟩
    · exact hd
    · simp [log, hheld, hout]
    · simp [log, hheld]

end Along

/-- A new device is initialised for the upgrade. -/
theorem along_init (deferred : Bool) (t : Task) :
    ∃ a : Accelerator α, (new .none deferred).init device = (a, .ok ⟨1⟩) ∧
      a.Along t ⟨1⟩ .setInterface 0 ∧ a.held = [] ∧ a.outstanding = 0 ∧ a.maxOutstanding = 0 := by
  have hidle : Status.dfuIdle ≠ Status.dfuError := by decide
  refine ⟨_, rfl, ⟨rfl, rfl, hidle, ?_, rfl⟩, rfl, rfl, rfl⟩
  rw [Task.schedule_eq_agenda]
  rfl

end Accelerator

end FirmwareUpgrade
