import FirmwareUpgrade.Proofs.Buffer
import FirmwareUpgrade.Proofs.Device

/-!
# What a device keeps of an image

The memory starts over with every block whose number is a multiple of `2 ^ 16`, since the number that
such a block carries is zero. What is left of an image in the end is all of it behind the last of
these places, and this is what comes back, with the byte inverted that the flaw is in.
-/
namespace FirmwareUpgrade

namespace Bytes

variable (memory : Bytes) (flaw : Option Nat)

/-- What a memory gives when it is read as a whole. -/
def flawed : Bytes := memory.readFlawed flaw 0 memory.size

theorem size_readFlawed (first last : Nat) :
    (memory.readFlawed flaw first last).size = min last memory.size - first := by
  unfold readFlawed
  cases flaw with
  | none => simp
  | some offset =>
    dsimp only
    split <;> simp

theorem getElem?_readFlawed (first last j : Nat) :
    (memory.readFlawed flaw first last)[j]? =
      if first + j < last then
        if flaw = some (first + j) then memory[first + j]?.map (· ^^^ 0xff) else memory[first + j]?
      else none := by
  have hpart : (memory.extract first last)[j]? =
      if first + j < last then memory[first + j]? else none := by
    rw [Array.getElem?_extract]
    by_cases hj : first + j < last
    · rw [if_pos hj]
      split
      · rfl
      · rw [Array.getElem?_eq_none (by omega)]
    · rw [if_neg hj, if_neg (by omega)]
  unfold readFlawed
  cases flaw with
  | none => simpa using hpart
  | some offset =>
    by_cases hin : first ≤ offset ∧ offset < last
    · simp only [if_pos hin, Array.getElem?_modify, hpart, Option.some.injEq]
      by_cases hj : offset - first = j
      · rw [if_pos hj, if_pos (show first + j < last by omega),
          if_pos (show first + j < last by omega), if_pos (show offset = first + j by omega)]
      · rw [if_neg hj, if_neg (show ¬offset = first + j by omega)]
    · simp only [if_neg hin, hpart, Option.some.injEq]
      split
      · rw [if_neg (show ¬offset = first + j by omega)]
      · rfl

@[simp] theorem size_flawed : (memory.flawed flaw).size = memory.size := by
  simp [flawed, size_readFlawed]

theorem getElem?_flawed (j : Nat) :
    (memory.flawed flaw)[j]? =
      if flaw = some j then memory[j]?.map (· ^^^ 0xff) else memory[j]? := by
  rw [flawed, getElem?_readFlawed, Nat.zero_add]
  split
  · rfl
  · rename_i h
    rw [Array.getElem?_eq_none (by omega)]
    simp

/-- A part of a memory is read as it is read with the whole. -/
theorem readFlawed_eq_extract (first last : Nat) :
    memory.readFlawed flaw first last = (memory.flawed flaw).extract first last := by
  apply Array.ext_getElem?
  intro j
  rw [Array.getElem?_extract, getElem?_readFlawed, getElem?_flawed, size_flawed]
  by_cases hin : first + j < last ∧ first + j < memory.size
  · rw [if_pos hin.1, if_pos (show j < min last memory.size - first by omega)]
  · rw [if_neg (show ¬j < min last memory.size - first by omega)]
    split
    · rw [Array.getElem?_eq_none (by omega)]
      simp
    · rfl

/-- The flaw is the only place where a memory differs from what is read. -/
theorem getElem?_flawed_ne_iff {j : Nat} :
    (memory.flawed flaw)[j]? ≠ memory[j]? ↔ flaw = some j ∧ j < memory.size := by
  rw [getElem?_flawed]
  by_cases hj : j < memory.size
  · by_cases hf : flaw = some j
    · simp [hf, hj]
    · simp [hf]
  · simp [hj]

theorem firstDifference_flawed :
    (memory.flawed flaw).firstDifference memory = flaw.filter (· < memory.size) := by
  have hsize := memory.size_flawed flaw
  cases h : (memory.flawed flaw).firstDifference memory with
  | none =>
    rw [firstDifference_eq_none_iff hsize] at h
    have hnot : ∀ j, ¬(flaw = some j ∧ j < memory.size) := fun j hj =>
      (memory.getElem?_flawed_ne_iff flaw).mpr hj (by rw [h])
    cases flaw with
    | none => rfl
    | some offset =>
      have hout : ¬offset < memory.size := fun hlt => hnot offset ⟨rfl, hlt⟩
      simp [Option.filter, hout]
  | some j =>
    obtain ⟨-, -, -, hne, -⟩ := firstDifferenceFrom_eq_some h
    obtain ⟨rfl, hj⟩ := (memory.getElem?_flawed_ne_iff flaw).mp hne
    simp [Option.filter, hj]

end Bytes

namespace Task

variable (t : Task)

/-- The number of image bytes that are lost again when `i` blocks are through. -/
def restart (i : Nat) : Nat := (i - 1) / 65536 * 65536 * t.blockSize

/-- What is in memory when `i` blocks are through. -/
def stored (i : Nat) : Bytes := t.image.extract (t.restart i) (i * t.blockSize)

/-- What is left of the image when all blocks are through. -/
def kept : Bytes := t.stored t.blockCount

/-- The number of image bytes that are lost in the end. -/
def overwritten : Nat := t.restart t.blockCount

theorem stored_zero : t.stored 0 = #[] := by simp [stored]

/-- Block zero starts over, and any other goes behind what there is. -/
theorem stored_succ (i : Nat) :
    t.stored (i + 1) = (if UInt16.ofNat i = 0 then #[] else t.stored i) ++ t.block i := by
  have hzero : UInt16.ofNat i = 0 ↔ i % 65536 = 0 := by
    rw [← UInt16.toNat_inj, UInt16.toNat_ofNat']
    rfl
  have hsucc : t.restart (i + 1) = i / 65536 * 65536 * t.blockSize := rfl
  split
  · rename_i h
    have hi : i / 65536 * 65536 = i := Nat.div_mul_cancel (Nat.dvd_of_mod_eq_zero (hzero.mp h))
    rw [stored, hsucc, hi, ← block_eq, Array.empty_append]
  · rename_i h
    rw [hzero] at h
    have hsame : t.restart i = i / 65536 * 65536 * t.blockSize := by
      rw [restart, show (i - 1) / 65536 = i / 65536 by omega]
    have hle : t.restart i ≤ i * t.blockSize :=
      Nat.mul_le_mul_right _ (by omega)
    rw [stored, stored, hsucc, ← hsame, t.extract_append_block hle]

theorem stored_of_le {i : Nat} (h : i ≤ 65536) :
    t.stored i = t.image.extract 0 (i * t.blockSize) := by
  rw [stored, restart, show (i - 1) / 65536 = 0 by omega]
  simp

theorem kept_eq : t.kept = t.image.extract t.overwritten t.image.size := by
  have hle := t.blockCount_le (Nat.le_refl _)
  rw [kept, stored, ← overwritten]
  apply Array.ext_getElem?
  intro j
  rw [Array.getElem?_extract, Array.getElem?_extract, Nat.min_eq_right hle, Nat.min_self]

theorem size_kept : t.kept.size = t.image.size - t.overwritten := by simp [kept_eq]

theorem overwritten_eq_zero_iff : t.overwritten = 0 ↔ t.blockCount ≤ 65536 := by
  have hs := t.blockSize_pos
  simp only [overwritten, restart, Nat.mul_eq_zero]
  omega

/-- Only bytes of the image are lost. -/
theorem overwritten_le : t.overwritten ≤ t.image.size := by
  cases hn : t.blockCount with
  | zero => simp [overwritten, restart, hn]
  | succ n =>
    have hlast := t.lt_blockCount_iff.mp (show n < t.blockCount by omega)
    have hle : t.overwritten ≤ n * t.blockSize := by
      rw [overwritten, restart, hn]
      exact Nat.mul_le_mul_right _ (by omega)
    omega

theorem kept_of_overwritten_eq_zero (h : t.overwritten = 0) : t.kept = t.image := by
  simp [kept_eq, h]

end Task

end FirmwareUpgrade
