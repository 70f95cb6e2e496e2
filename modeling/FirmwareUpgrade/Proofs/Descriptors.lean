import FirmwareUpgrade.Controller.Config

/-!
# Functional descriptors as bytes

Bytes are a functional descriptor when there are nine of them or more and they begin with the length
and the type of one. The seven that follow are its fields, the words with their low byte first, and
nothing else of it counts: two descriptors are the same exactly when they have the same seven bytes.

Settings that are adapted to a descriptor take over its transfer size and keep the shorter of the
two detach timeouts, where a zero says nothing. To adapt them to it once more changes nothing.
-/
namespace FirmwareUpgrade

namespace Descriptor

variable {raw raw' : Bytes} {d d' : Descriptor}

/-- The bytes of the fields of a descriptor. -/
def fields (d : Descriptor) : Bytes :=
  #[d.attributes,
    LittleEndian.low d.detachTimeout, LittleEndian.high d.detachTimeout,
    LittleEndian.low d.transferSize, LittleEndian.high d.transferSize,
    LittleEndian.low d.version, LittleEndian.high d.version]

theorem encode_eq_append (d : Descriptor) : d.encode = #[9, 0x21] ++ d.fields := rfl

/-- A descriptor that is written out is read back whatever stands behind it. -/
theorem decode?_encode_append (d : Descriptor) (rest : Bytes) :
    decode? (d.encode ++ rest) = some d := by
  have hsize : length ≤ (d.encode ++ rest).size := by
    simp [encode, length]
  simp [decode?, encode, length]

theorem fields_inj : d.fields = d'.fields ↔ d = d' := by
  refine ⟨fun h => ?_, congrArg fields⟩
  have hread := decode?_encode_append d #[]
  rw [encode_eq_append, h, ← encode_eq_append, decode?_encode_append] at hread
  exact (Option.some.inj hread).symm

/-- All of a functional descriptor is there, and it begins with its length and its type. -/
def Begins (raw : Bytes) : Prop :=
  9 ≤ raw.size ∧ raw[0]? = some 9 ∧ raw[1]? = some 0x21

theorem isSome_decode?_iff : (decode? raw).isSome ↔ Begins raw := by
  unfold decode? Begins
  split
  · rename_i h
    have h8 : 8 < raw.size := h
    have hlength : raw[0].toNat = length ↔ raw[0] = 9 := by
      rw [← UInt8.toNat_inj]
      rfl
    rw [Array.getElem?_eq_getElem (by omega), Array.getElem?_eq_getElem (by omega)]
    simp only [Option.some.injEq, hlength]
    split
    · rename_i hbytes
      exact iff_of_true rfl ⟨h, hbytes⟩
    · rename_i hbytes
      exact iff_of_false Bool.false_ne_true fun hall => hbytes hall.2
  · rename_i h
    exact iff_of_false Bool.false_ne_true fun hall => h hall.1

theorem extract_of_decode? (h : decode? raw = some d) : raw.extract 2 9 = d.fields := by
  unfold decode? at h
  split at h
  · rename_i hsize
    have h8 : 8 < raw.size := hsize
    obtain ⟨-, h⟩ := Option.ite_none_right_eq_some.mp h
    obtain rfl := Option.some.inj h
    simp (disch := omega) only [fields, LittleEndian.low_word, LittleEndian.high_word,
      Array.extract_succ_right, Array.extract_eq_empty_of_le]
    rfl
  · cases h

/-- A descriptor is read from what begins like one and goes on with the bytes of its fields. -/
theorem decode?_eq_some_iff : decode? raw = some d ↔ Begins raw ∧ raw.extract 2 9 = d.fields := by
  constructor
  · intro h
    exact ⟨isSome_decode?_iff.mp (by rw [h]; rfl), extract_of_decode? h⟩
  · rintro ⟨hbegins, hfields⟩
    obtain ⟨d', hread⟩ := Option.isSome_iff_exists.mp (isSome_decode?_iff.mpr hbegins)
    have hd : d' = d := fields_inj.mp ((extract_of_decode? hread).symm.trans hfields)
    rw [hread, hd]

/-- Of two inputs the same descriptor is read when both begin like one and have the same fields. -/
theorem decode?_eq_some_both_iff :
    (∃ d, decode? raw = some d ∧ decode? raw' = some d) ↔
      Begins raw ∧ Begins raw' ∧ raw.extract 2 9 = raw'.extract 2 9 := by
  constructor
  · rintro ⟨d, h, h'⟩
    obtain ⟨hbegins, hfields⟩ := decode?_eq_some_iff.mp h
    obtain ⟨hbegins', hfields'⟩ := decode?_eq_some_iff.mp h'
    exact ⟨hbegins, hbegins', hfields.trans hfields'.symm⟩
  · rintro ⟨hbegins, hbegins', hfields⟩
    obtain ⟨d, h⟩ := Option.isSome_iff_exists.mp (isSome_decode?_iff.mpr hbegins)
    have h' := decode?_eq_some_iff.mpr ⟨hbegins', hfields.symm.trans (extract_of_decode? h)⟩
    exact ⟨d, h, h'⟩

end Descriptor

/-- The settings `adapted` are those of `c`, adapted to what a descriptor says. -/
structure Config.Adapted (c : Config) (d : Descriptor) (adapted : Config) : Prop where
  chunkSize : adapted.chunkSize = if d.transferSize = 0 then c.chunkSize else d.transferSize
  detachTimeout : adapted.detachTimeout.toNat =
    if d.detachTimeout = 0 then c.detachTimeout.toNat
    else min c.detachTimeout.toNat d.detachTimeout.toNat
  queueCapacity : adapted.queueCapacity = c.queueCapacity
  checkStatusAfterDetach : adapted.checkStatusAfterDetach = c.checkStatusAfterDetach

namespace Config

variable {c : Config} {d : Descriptor}

theorem toNat_min (a b : UInt16) : (min a b).toNat = min a.toNat b.toNat := by
  rw [Nat.min_def]
  exact apply_ite UInt16.toNat (a ≤ b) a b

theorem adapted_withDescriptor (c : Config) (d : Descriptor) :
    c.Adapted d (c.withDescriptor d) where
  chunkSize := rfl
  detachTimeout := by
    simp only [withDescriptor, apply_ite UInt16.toNat, toNat_min]
  queueCapacity := rfl
  checkStatusAfterDetach := rfl

theorem Adapted.unique {c' c'' : Config} (h : c.Adapted d c') (h' : c.Adapted d c'') :
    c' = c'' := by
  have hchunk := h.chunkSize.trans h'.chunkSize.symm
  have htime := UInt16.toNat_inj.mp (h.detachTimeout.trans h'.detachTimeout.symm)
  have hcapacity := h.queueCapacity.trans h'.queueCapacity.symm
  have hcheck := h.checkStatusAfterDetach.trans h'.checkStatusAfterDetach.symm
  calc c' = ⟨c'.chunkSize, c'.detachTimeout, c'.queueCapacity, c'.checkStatusAfterDetach⟩ := rfl
    _ = ⟨c''.chunkSize, c''.detachTimeout, c''.queueCapacity, c''.checkStatusAfterDetach⟩ := by
      rw [hchunk, htime, hcapacity, hcheck]
    _ = c'' := rfl

/-- Settings that were adapted to a descriptor are as they should be for it already. -/
theorem Adapted.adapted {c' : Config} (h : c.Adapted d c') : c'.Adapted d c' where
  chunkSize := by
    split
    · rfl
    · rename_i hsize
      rw [h.chunkSize, if_neg hsize]
  detachTimeout := by
    split
    · rfl
    · rename_i htime
      rw [h.detachTimeout, if_neg htime, Nat.min_assoc, Nat.min_self]
  queueCapacity := rfl
  checkStatusAfterDetach := rfl

theorem withDescriptor_withDescriptor (c : Config) (d : Descriptor) :
    (c.withDescriptor d).withDescriptor d = c.withDescriptor d :=
  (adapted_withDescriptor ..).unique (adapted_withDescriptor c d).adapted

end Config

/-- Bytes are read as a descriptor exactly when nine of them are there and they begin with `9` and
`0x21`, and which one it is depends on the seven behind these, the words with their low byte first,
and on nothing else. Whatever descriptor it is and whatever the settings were, they are adapted to
it, the second time to no effect. -/
theorem Descriptor.grammar :
    (∀ raw : Bytes, (decode? raw).isSome ↔
      9 ≤ raw.size ∧ raw[0]? = some 9 ∧ raw[1]? = some 0x21) ∧
    (∀ (raw : Bytes) (d : Descriptor), decode? raw = some d ↔
      (decode? raw).isSome ∧ raw.extract 2 9 =
        #[d.attributes,
          LittleEndian.low d.detachTimeout, LittleEndian.high d.detachTimeout,
          LittleEndian.low d.transferSize, LittleEndian.high d.transferSize,
          LittleEndian.low d.version, LittleEndian.high d.version]) ∧
    (∀ raw raw' : Bytes, (∃ d, decode? raw = some d ∧ decode? raw' = some d) ↔
      (decode? raw).isSome ∧ (decode? raw').isSome ∧ raw.extract 2 9 = raw'.extract 2 9) ∧
    ∀ (c : Config) (d : Descriptor),
      c.Adapted d (c.withDescriptor d) ∧
        (c.withDescriptor d).withDescriptor d = c.withDescriptor d := by
  refine ⟨fun raw => isSome_decode?_iff, fun raw d => ?_, fun raw raw' => ?_, fun c d =>
    ⟨c.adapted_withDescriptor d, c.withDescriptor_withDescriptor d⟩⟩
  · rw [isSome_decode?_iff, decode?_eq_some_iff]
    rfl
  · rw [isSome_decode?_iff, isSome_decode?_iff, decode?_eq_some_both_iff]

end FirmwareUpgrade
