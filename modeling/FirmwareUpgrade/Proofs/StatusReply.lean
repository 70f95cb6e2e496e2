import FirmwareUpgrade.Protocol.Status

/-!
# Status replies as bytes

What is shorter than a status reply is refused. Of anything else the first six bytes are read, and
the status that they give is written as the same six again, the 24-bit timeout low byte first in
either direction. A status that is written out is read back whatever stands behind it; this needs
the bound on the timeout that a `Status` carries. The device and the controller have only these
bytes of a status in common, and two of them decide whether it is good.
-/
namespace FirmwareUpgrade.Status

variable {d : Bytes} {s : Status} {e : UpgradeError}

/-- A number of 24 bits is put together again from its bytes. -/
theorem timeout24_bytes {n : Nat} (h : n < 0x1000000) :
    timeout24 (UInt8.ofNat n) (UInt8.ofNat (n / 0x100)) (UInt8.ofNat (n / 0x10000)) = n := by
  simp only [timeout24, UInt8.toNat_ofNat']
  omega

/-- A number of 24 bits is taken apart into the bytes that it was put together from. -/
theorem bytes_timeout24 (b0 b1 b2 : UInt8) :
    UInt8.ofNat (timeout24 b0 b1 b2) = b0 ∧ UInt8.ofNat (timeout24 b0 b1 b2 / 0x100) = b1 ∧
      UInt8.ofNat (timeout24 b0 b1 b2 / 0x10000) = b2 := by
  have h0 := b0.toNat_lt
  have h1 := b1.toNat_lt
  have h2 := b2.toNat_lt
  refine ⟨?_, ?_, ?_⟩ <;>
  · apply UInt8.toNat_inj.mp
    simp only [timeout24, UInt8.toNat_ofNat']
    omega

theorem decode_eq_error_iff :
    decode d = .error e ↔ d.size < length ∧ e = .responseTooShort d.size length := by
  unfold decode
  split
  · rename_i h
    exact ⟨nofun, fun hshort => absurd hshort.1 (Nat.not_lt.mpr h)⟩
  · rename_i h
    exact ⟨fun he => ⟨Nat.lt_of_not_le h, (Except.error.inj he).symm⟩,
      fun he => congrArg Except.error he.2.symm⟩

theorem decode_encode_append (s : Status) (rest : Bytes) : decode (s.encode ++ rest) = .ok s := by
  have hsize : length ≤ (s.encode ++ rest).size := by
    simp [encode, length]
  simp [decode, encode, length, timeout24_bytes s.pollTimeout_lt]

theorem decode_encode (s : Status) : decode s.encode = .ok s := by
  simpa using s.decode_encode_append #[]

/-- A status is read from what begins with the bytes that the status is written as. -/
theorem decode_eq_ok_iff : decode d = .ok s ↔ length ≤ d.size ∧ s.encode = d.extract 0 length := by
  constructor
  · intro h
    unfold decode at h
    split at h
    · rename_i hsize
      have h5 : 5 < d.size := hsize
      obtain rfl := Except.ok.inj h
      obtain ⟨h1, h2, h3⟩ := bytes_timeout24 d[1] d[2] d[3]
      refine ⟨hsize, ?_⟩
      simp (disch := omega) only [encode, h1, h2, h3, length, Array.extract_succ_right,
        Array.extract_eq_empty_of_le]
      rfl
    · cases h
  · rintro ⟨hsize, hs⟩
    have hsplit : d = s.encode ++ d.extract length d.size := by
      rw [hs, Array.extract_append_extract, Nat.max_eq_right hsize]
      simp
    rw [hsplit, decode_encode_append]

theorem check_eq_ok_iff_fields : s.check = .ok () ↔ s.code = okCode ∧ s.state ≠ dfuError := by
  unfold check
  split
  · rename_i h
    exact iff_of_true rfl h
  · rename_i h
    exact iff_of_false nofun h

/-- Whether a status is good is read off two of its bytes. -/
theorem check_eq_ok_iff : s.check = .ok () ↔ s.encode[0]? = some 0 ∧ s.encode[4]? ≠ some 10 := by
  rw [check_eq_ok_iff_fields]
  simp [encode, okCode, dfuError]

/-- Bytes are either too few for a status or they start with the six that their status is written
as, and then the first and the fifth of them say whether it is good. A status that is written out,
whoever made it, is read back whatever stands behind it. -/
theorem wire_format :
    (∀ d : Bytes,
      (d.size < 6 ∧ decode d = .error (.responseTooShort d.size 6)) ∨
      (6 ≤ d.size ∧ ∃ s, decode d = .ok s ∧ s.encode = d.extract 0 6 ∧
        (s.check = .ok () ↔ d[0]? = some 0 ∧ d[4]? ≠ some 10))) ∧
    (∀ (s : Status) (rest : Bytes), decode (s.encode ++ rest) = .ok s) ∧
    (∀ s : Status, s.check = .ok () ↔ s.encode[0]? = some 0 ∧ s.encode[4]? ≠ some 10) ∧
    ∀ code state : UInt8, (ofCode code state).encode = #[code, 0, 0, 0, state, 0] := by
  refine ⟨fun d => ?_, decode_encode_append, fun s => check_eq_ok_iff, fun code state => ?_⟩
  · cases hd : decode d with
    | error e =>
      obtain ⟨hshort, rfl⟩ := decode_eq_error_iff.mp hd
      exact .inl ⟨hshort, rfl⟩
    | ok s =>
      obtain ⟨hsize, hs⟩ := decode_eq_ok_iff.mp hd
      have hbyte : ∀ i < 6, s.encode[i]? = d[i]? := by
        intro i hi
        have hmin : i < min length d.size - 0 := by
          rw [Nat.min_eq_left hsize]
          exact hi
        rw [hs, Array.getElem?_extract, if_pos hmin, Nat.zero_add]
      refine .inr ⟨hsize, s, rfl, hs, ?_⟩
      rw [check_eq_ok_iff, hbyte 0 (by decide), hbyte 4 (by decide)]
  · simp [encode, ofCode]

/-- The timeout is read with its low byte first. -/
example : (decode #[0, 0x10, 0x27, 0x00, 5, 0]).toOption.map Status.pollTimeout = some 10000 := by
  decide

end FirmwareUpgrade.Status
