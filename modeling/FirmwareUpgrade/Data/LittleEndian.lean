/-!
# Sixteen-bit words on the wire

USB sends a word as two bytes, the low one first. `word` puts the two bytes together and `low` and
`high` take them apart again; each of the two directions undoes the other.
-/
namespace FirmwareUpgrade.LittleEndian

/-- The word whose low byte is `lo` and whose high byte is `hi`. -/
def word (lo hi : UInt8) : UInt16 :=
  UInt16.ofNat (lo.toNat + 256 * hi.toNat)

/-- The byte of a word that is sent first. -/
def low (w : UInt16) : UInt8 :=
  UInt8.ofNat (w.toNat % 256)

/-- The byte of a word that is sent second. -/
def high (w : UInt16) : UInt8 :=
  UInt8.ofNat (w.toNat / 256)

theorem toNat_word (lo hi : UInt8) : (word lo hi).toNat = lo.toNat + 256 * hi.toNat := by
  have hl := lo.toNat_lt
  have hh := hi.toNat_lt
  simp only [word, UInt16.toNat_ofNat']
  omega

theorem toNat_low (w : UInt16) : (low w).toNat = w.toNat % 256 := by
  simp [low]

theorem toNat_high (w : UInt16) : (high w).toNat = w.toNat / 256 := by
  have hw := w.toNat_lt
  simp only [high, UInt8.toNat_ofNat']
  omega

@[simp]
theorem low_word (lo hi : UInt8) : low (word lo hi) = lo := by
  apply UInt8.toNat_inj.mp
  have hl := lo.toNat_lt
  rw [toNat_low, toNat_word]
  omega

@[simp]
theorem high_word (lo hi : UInt8) : high (word lo hi) = hi := by
  apply UInt8.toNat_inj.mp
  have hl := lo.toNat_lt
  rw [toNat_high, toNat_word]
  omega

@[simp]
theorem word_low_high (w : UInt16) : word (low w) (high w) = w := by
  apply UInt16.toNat_inj.mp
  rw [toNat_word, toNat_low, toNat_high]
  omega

end FirmwareUpgrade.LittleEndian
