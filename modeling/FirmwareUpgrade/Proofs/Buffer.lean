import FirmwareUpgrade.Data.Bytes
import Mathlib

/-!
# The read-back buffer

A block written over a buffer extends what was written before it, and the first difference of two
strings of the same size is where they first differ, or none exactly if they are equal.
-/
namespace FirmwareUpgrade.Bytes

theorem getElem?_overwriteFrom (block : Bytes) (k : Nat) (buffer : Bytes) (offset j : Nat)
    (hfit : offset + block.size ≤ buffer.size) :
    (overwriteFrom block k buffer offset)[j]? =
      if offset + k ≤ j ∧ j < offset + block.size then block[j - offset]? else buffer[j]? := by
  fun_induction overwriteFrom block k buffer offset with
  | case1 k buffer h ih =>
    rw [ih (by simpa using hfit), Array.getElem?_setIfInBounds]
    by_cases hj : offset + k = j
    · subst hj
      have hb : offset + k < buffer.size := by omega
      simp [h, hb]
    · simp only [hj, if_false]
      grind
  | case2 k buffer h =>
    rw [if_neg (by omega)]

theorem take_overwrite (buffer : Bytes) (offset : Nat) (block : Bytes)
    (hfit : offset + block.size ≤ buffer.size) :
    (overwrite buffer offset block).toList.take (offset + block.size) =
      buffer.toList.take offset ++ block.toList := by
  apply List.ext_getElem?
  intro j
  have hl : (buffer.toList.take offset).length = offset := by
    rw [List.length_take, Array.length_toList]
    omega
  rw [List.getElem?_take, Array.getElem?_toList, overwrite,
    getElem?_overwriteFrom block 0 buffer offset j hfit]
  by_cases hlt : j < offset
  · rw [List.getElem?_append_left (by omega), List.getElem?_take, Array.getElem?_toList]
    rw [if_pos (by omega), if_neg (by omega), if_pos hlt]
  · rw [List.getElem?_append_right (by omega), hl, Array.getElem?_toList]
    by_cases hb : j < offset + block.size
    · rw [if_pos hb, if_pos (by omega)]
    · rw [if_neg hb, Array.getElem?_eq_none (by omega)]

theorem firstDifferenceFrom_eq_none_iff (a b : Bytes) (k : Nat) (hs : a.size = b.size) :
    firstDifferenceFrom a b k = none ↔ ∀ j, k ≤ j → a[j]? = b[j]? := by
  fun_induction firstDifferenceFrom a b k with
  | case1 k ha hb he ih =>
    rw [ih]
    constructor
    · intro h j hj
      by_cases hk : j = k
      · subst hk
        simpa [ha, hb] using he
      · exact h j (by omega)
    · exact fun h j hj => h j (by omega)
  | case2 k ha hb hne =>
    simp only [reduceCtorEq, false_iff, not_forall]
    exact ⟨k, le_rfl, by simpa [ha, hb] using hne⟩
  | case3 k ha hb => omega
  | case4 k ha =>
    simp only [true_iff]
    intro j hj
    rw [Array.getElem?_eq_none (by omega), Array.getElem?_eq_none (by omega)]

/-- Strings of the same size have no first difference exactly if they are equal. -/
theorem firstDifference_eq_none_iff {a b : Bytes} (hs : a.size = b.size) :
    firstDifference a b = none ↔ a = b := by
  rw [firstDifference, firstDifferenceFrom_eq_none_iff a b 0 hs]
  constructor
  · exact fun h => Array.ext_getElem? fun j => h j (Nat.zero_le j)
  · rintro rfl j -
    rfl

theorem firstDifferenceFrom_eq_some {a b : Bytes} {k j : Nat}
    (h : firstDifferenceFrom a b k = some j) :
    k ≤ j ∧ j < a.size ∧ j < b.size ∧ a[j]? ≠ b[j]? ∧ ∀ m, k ≤ m → m < j → a[m]? = b[m]? := by
  fun_induction firstDifferenceFrom a b k with
  | case1 k ha hb he ih =>
    obtain ⟨hk, hja, hjb, hne, hm⟩ := ih h
    refine ⟨by omega, hja, hjb, hne, fun m hkm hmj => ?_⟩
    by_cases hmk : m = k
    · subst hmk
      simpa [ha, hb] using he
    · exact hm m (by omega) hmj
  | case2 k ha hb hne =>
    obtain rfl := Option.some.inj h
    exact ⟨le_rfl, ha, hb, by simpa [ha, hb] using hne, fun m _ _ => by omega⟩
  | case3 k ha hb => simp at h
  | case4 k ha => simp at h

end FirmwareUpgrade.Bytes
