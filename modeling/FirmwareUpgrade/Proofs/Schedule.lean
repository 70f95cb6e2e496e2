import FirmwareUpgrade.Proofs.Record

/-!
# The schedule of an upgrade

A task is an image, the settings and the interface that it goes to. `schedule` lists every
operation of an upgrade in which nothing fails, and `agenda p i` what of it is left on entering
phase `p` with `i` blocks through in the direction of that phase. Blocks are cut at multiples of
the chunk size, of which zero counts as one; their numbers are taken modulo `2 ^ 16`.
-/
namespace FirmwareUpgrade

/-- What is to be brought onto a device. -/
structure Task where
  image : Bytes
  config : Config
  interface : InterfaceHandle

namespace Task

variable (t : Task)

/-- The length of all blocks but the last. -/
def blockSize : Nat := max t.config.chunkSize.toNat 1

/-- The number of blocks, which is the image size over the block size, rounded up. -/
def blockCount : Nat := (t.image.size + t.blockSize - 1) / t.blockSize

def block (i : Nat) : Bytes :=
  t.image.extract (i * t.blockSize) (min ((i + 1) * t.blockSize) t.image.size)

def download (i : Nat) : List ClassCall := [.dnload (UInt16.ofNat i) (t.block i), .getStatus]

/-- Reads a block back and asks for the status. -/
def upload (i : Nat) : List ClassCall :=
  [.upload (UInt16.ofNat i) (UInt16.ofNat (t.block i).size), .getStatus]

/-- The end of an upgrade, behind the comparison. -/
def closing : List ClassCall :=
  .detach t.config.detachTimeout ::
    if t.config.checkStatusAfterDetach then [.getStatus] else []

/-- All operations of an upgrade. -/
def schedule : List ClassCall :=
  .setInterface t.interface 0 :: .getStatus ::
    ((List.range t.blockCount).flatMap t.download ++
      .dnload (UInt16.ofNat t.blockCount) #[] ::
        ((if t.blockCount = 0 then [.getStatus]
          else (List.range t.blockCount).flatMap t.upload) ++ t.closing))

/-! ## What is left of it -/

def downloads (i : Nat) : List ClassCall :=
  (List.range' i (t.blockCount - i)).flatMap t.download

def uploads (i : Nat) : List ClassCall :=
  (List.range' i (t.blockCount - i)).flatMap t.upload

/-- All that follows once the image is committed. Of an empty image there is nothing to upload. -/
def reading (i : Nat) : List ClassCall :=
  (if t.blockCount = 0 then [.getStatus] else t.uploads i) ++ t.closing

/-- All that follows once the image is sent, with the number that the empty block gets. -/
def committing (i : Nat) : List ClassCall := .dnload (UInt16.ofNat i) #[] :: t.reading 0

/-- All that follows once some blocks are sent. -/
def loading (i : Nat) : List ClassCall := t.downloads i ++ t.committing t.blockCount

/-- What is left on entering a phase with `i` blocks through. -/
def agenda : Phase → Nat → List ClassCall
  | .setInterface, _ => .setInterface t.interface 0 :: .getStatus :: t.loading 0
  | .getStatus, i => .getStatus :: t.loading i
  | .transfer, i => t.loading i
  | .zeroLengthTransfer, i => t.committing i
  | .readBack, i => t.reading i
  | .getStatusRead, i => .getStatus :: (t.uploads i ++ t.closing)
  | .detach, _ => t.closing
  | .checkStatus, _ => [.getStatus]
  | _, _ => []

theorem schedule_eq_agenda : t.schedule = t.agenda .setInterface 0 := by
  simp [schedule, agenda, loading, committing, reading, downloads, uploads, List.range_eq_range']

theorem blockSize_pos : 0 < t.blockSize := by
  unfold blockSize
  omega

/-- A block has a byte exactly when its number is below the count. -/
theorem lt_blockCount_iff {i : Nat} : i < t.blockCount ↔ i * t.blockSize < t.image.size := by
  have hs := t.blockSize_pos
  unfold blockCount
  rw [Nat.lt_div_iff_mul_lt hs]
  constructor <;> intro h <;> omega

theorem blockCount_le {i : Nat} (h : t.blockCount ≤ i) : t.image.size ≤ i * t.blockSize := by
  have hi := t.lt_blockCount_iff (i := i)
  omega

theorem blockCount_eq_zero_iff : t.blockCount = 0 ↔ t.image.size = 0 := by
  have h := t.lt_blockCount_iff (i := 0)
  omega

theorem size_block (i : Nat) :
    (t.block i).size = min t.blockSize (t.image.size - i * t.blockSize) := by
  simp only [block, Array.size_extract, Nat.add_mul]
  omega

/-- The length of a block fits the field that it is requested with. -/
theorem toNat_size_block (i : Nat) :
    (UInt16.ofNat (t.block i).size).toNat = (t.block i).size := by
  have hs : t.blockSize ≤ 65535 := by
    have hc := t.config.chunkSize.toNat_lt
    unfold blockSize
    omega
  rw [UInt16.toNat_ofNat', Nat.mod_eq_of_lt]
  rw [t.size_block]
  omega

theorem toList_block (i : Nat) :
    (t.block i).toList = (t.image.toList.drop (i * t.blockSize)).take t.blockSize := by
  rw [block, Array.toList_extract, List.extract_eq_take_drop, List.take_eq_take_iff]
  simp only [List.length_drop, Array.length_toList, Nat.add_mul]
  omega

theorem downloads_of_lt {i : Nat} (h : i < t.blockCount) :
    t.downloads i = t.download i ++ t.downloads (i + 1) := by
  unfold downloads
  rw [show t.blockCount - i = (t.blockCount - (i + 1)) + 1 by omega, List.range'_succ,
    List.flatMap_cons]

theorem downloads_of_le {i : Nat} (h : t.blockCount ≤ i) : t.downloads i = [] := by
  simp [downloads, Nat.sub_eq_zero_of_le h]

theorem uploads_of_lt {i : Nat} (h : i < t.blockCount) :
    t.uploads i = t.upload i ++ t.uploads (i + 1) := by
  unfold uploads
  rw [show t.blockCount - i = (t.blockCount - (i + 1)) + 1 by omega, List.range'_succ,
    List.flatMap_cons]

theorem uploads_of_le {i : Nat} (h : t.blockCount ≤ i) : t.uploads i = [] := by
  simp [uploads, Nat.sub_eq_zero_of_le h]

/-! ## One operation of it -/

/-- One operation of an upgrade that goes well: the phase that issues it and the number of blocks
that are through then, the operation, and what the two are after its success. -/
inductive Step (t : Task) : Phase → Nat → ClassCall → Phase → Nat → Prop
  | setInterface (i : Nat) :
    t.Step .setInterface i (.setInterface t.interface 0) .getStatus 0
  | more {i : Nat} : i < t.blockCount → t.Step .getStatus i .getStatus .transfer i
  | enough : t.Step .getStatus t.blockCount .getStatus .zeroLengthTransfer t.blockCount
  | transfer {i : Nat} : i < t.blockCount →
    t.Step .transfer i (.dnload (UInt16.ofNat i) (t.block i)) .getStatus (i + 1)
  | commit (i : Nat) : t.Step .zeroLengthTransfer i (.dnload (UInt16.ofNat i) #[]) .readBack 0
  | readBack {i : Nat} : i < t.blockCount →
    t.Step .readBack i (.upload (UInt16.ofNat i) (UInt16.ofNat (t.block i).size)) .getStatusRead
      (i + 1)
  | again {i : Nat} : i < t.blockCount → t.Step .getStatusRead i .getStatus .readBack i
  | compare : t.Step .getStatusRead t.blockCount .getStatus .detach 0
  | detach (i : Nat) : t.Step .detach i (.detach t.config.detachTimeout)
      (if t.config.checkStatusAfterDetach then .checkStatus else .complete) i
  | checkStatus (i : Nat) : t.Step .checkStatus i .getStatus .complete i

/-- The operation is the next one on the agenda. -/
theorem Step.agenda {t : Task} {p q : Phase} {i j : Nat} {request : ClassCall}
    (h : t.Step p i request q j) : t.agenda p i = request :: t.agenda q j := by
  cases h with
  | setInterface | more | commit | checkStatus => rfl
  | enough => simp [Task.agenda, loading, t.downloads_of_le]
  | transfer h => simp [Task.agenda, loading, t.downloads_of_lt h, download]
  | readBack h =>
    simp [Task.agenda, reading, t.uploads_of_lt h, upload, Nat.ne_of_gt (Nat.zero_lt_of_lt h)]
  | again h => simp [Task.agenda, reading, Nat.ne_of_gt (Nat.zero_lt_of_lt h)]
  | compare => simp [Task.agenda, t.uploads_of_le]
  | detach =>
    simp only [Task.agenda, closing]
    split <;> rfl

/-- The success of an operation leaves no choice. -/
theorem Step.unique {t : Task} {p q q' : Phase} {i j j' : Nat} {request : ClassCall}
    (h : t.Step p i request q j) (h' : t.Step p i request q' j') : q = q' ∧ j = j' := by
  cases h <;> cases h' <;> first | exact ⟨rfl, rfl⟩ | exact absurd ‹_› (Nat.lt_irrefl _)

/-- What the upgrade needs of the reply to an operation that is issued with `i` blocks through. -/
def Answers (t : Task) (i : Nat) : ClassCall → Bytes → Prop
  | .getStatus, data => ∃ s, Status.decode data = .ok s ∧ s.check = .ok ()
  | .upload .., data => data = t.block i
  | _, _ => True

theorem agenda_readBack_empty (h : t.blockCount = 0) :
    t.agenda .readBack 0 = t.agenda .getStatusRead 0 := by
  simp [agenda, reading, h, t.uploads_of_le]

/-! ## The payload -/

/-- The blocks from one on are the image from its place on. -/
theorem payload_downloads (i : Nat) :
    (t.downloads i).flatMap ClassCall.payload = t.image.toList.drop (i * t.blockSize) := by
  induction hk : t.blockCount - i generalizing i with
  | zero =>
    have hle : t.blockCount ≤ i := by omega
    have hl := t.blockCount_le hle
    rw [t.downloads_of_le hle, List.drop_eq_nil_of_le (by simpa using hl)]
    rfl
  | succ k ih =>
    have hlt : i < t.blockCount := by omega
    rw [t.downloads_of_lt hlt, List.flatMap_append, ih (i + 1) (by omega)]
    have hd : (t.download i).flatMap ClassCall.payload = (t.block i).toList := by
      simp [download, ClassCall.payload]
    rw [hd, toList_block, Nat.add_mul, Nat.one_mul, ← List.drop_drop, List.take_append_drop]

theorem payload_uploads (i : Nat) : (t.uploads i).flatMap ClassCall.payload = [] := by
  simp only [uploads, upload, List.flatMap_eq_nil_iff, List.mem_flatMap, List.mem_cons,
    List.not_mem_nil, or_false]
  rintro x ⟨j, -, rfl | rfl⟩ <;> rfl

theorem payload_closing : t.closing.flatMap ClassCall.payload = [] := by
  unfold closing
  split <;> rfl

theorem payload_reading (i : Nat) : (t.reading i).flatMap ClassCall.payload = [] := by
  unfold reading
  split <;> simp [payload_uploads, payload_closing, ClassCall.payload]

theorem payload_loading (i : Nat) :
    (t.loading i).flatMap ClassCall.payload = t.image.toList.drop (i * t.blockSize) := by
  simp [loading, committing, payload_downloads, payload_reading, ClassCall.payload]

/-- From the first three phases on the whole image goes to the device, from later ones nothing. -/
theorem payload_agenda (p : Phase) :
    (t.agenda p 0).flatMap ClassCall.payload =
      if p = .setInterface ∨ p = .getStatus ∨ p = .transfer then t.image.toList else [] := by
  have hl : (t.loading 0).flatMap ClassCall.payload = t.image.toList := by
    simpa using t.payload_loading 0
  cases p <;> simp [agenda, hl, committing, payload_reading, payload_uploads, payload_closing,
    ClassCall.payload]

end Task

end FirmwareUpgrade
