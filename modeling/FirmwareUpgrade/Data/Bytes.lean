/-!
# Byte strings

Firmware images, transfer payloads and replies are arrays of bytes. Besides the operations of the
standard library they need three of their own: a block written over part of a buffer, the first
place where two strings differ, and their text in hexadecimal.
-/
namespace FirmwareUpgrade

/-- A string of bytes with constant-time access. -/
abbrev Bytes := Array UInt8

namespace Bytes

/-- Writes the bytes of `block` from index `k` on over `buffer`, starting at `offset`. -/
def overwriteFrom (block : Bytes) (k : Nat) (buffer : Bytes) (offset : Nat) : Bytes :=
  if h : k < block.size then
    overwriteFrom block (k + 1) (buffer.setIfInBounds (offset + k) block[k]) offset
  else
    buffer
termination_by block.size - k

/-- The buffer with `block` written over it at `offset`. What would fall behind the end of the
buffer is left out, so the size never changes. -/
def overwrite (buffer : Bytes) (offset : Nat) (block : Bytes) : Bytes :=
  overwriteFrom block 0 buffer offset

theorem size_overwriteFrom (block : Bytes) (k : Nat) (buffer : Bytes) (offset : Nat) :
    (overwriteFrom block k buffer offset).size = buffer.size := by
  fun_induction overwriteFrom block k buffer offset with
  | case1 k buffer h ih => simpa using ih
  | case2 => rfl

@[simp]
theorem size_overwrite (buffer : Bytes) (offset : Nat) (block : Bytes) :
    (overwrite buffer offset block).size = buffer.size :=
  size_overwriteFrom block 0 buffer offset

/-- The first index from `k` on at which both strings have a byte and the two bytes differ. -/
def firstDifferenceFrom (a b : Bytes) (k : Nat) : Option Nat :=
  if ha : k < a.size then
    if hb : k < b.size then
      if a[k] = b[k] then firstDifferenceFrom a b (k + 1) else some k
    else
      none
  else
    none
termination_by a.size - k

/-- The first index at which both strings have a byte and the two bytes differ. -/
def firstDifference (a b : Bytes) : Option Nat :=
  firstDifferenceFrom a b 0

/-- The bytes of a memory from `first` to before `last`, with the one at `flaw` inverted if it lies
among them. -/
def readFlawed (memory : Bytes) (flaw : Option Nat) (first last : Nat) : Bytes :=
  let data := memory.extract first last
  match flaw with
  | some offset =>
    if first ≤ offset ∧ offset < last then data.modify (offset - first) (· ^^^ 0xff) else data
  | none => data

/-- The digit of a value below sixteen, in lower case. -/
def hexDigit (n : Nat) : Char :=
  if n < 10 then Char.ofNat (48 + n) else Char.ofNat (87 + n)

/-- Two lower-case hexadecimal digits for each byte, in order. -/
def toHex (b : Bytes) : String :=
  b.foldl (fun text byte =>
    (text.push (hexDigit (byte.toNat / 16))).push (hexDigit (byte.toNat % 16))) ""

/-- The value of a hexadecimal digit of either case. -/
def hexValue? (c : Char) : Option Nat :=
  if '0' ≤ c ∧ c ≤ '9' then some (c.toNat - 48)
  else if 'a' ≤ c ∧ c ≤ 'f' then some (c.toNat - 87)
  else if 'A' ≤ c ∧ c ≤ 'F' then some (c.toNat - 55)
  else none

/-- Reads pairs of hexadecimal digits onto `acc`; anything else is refused. -/
def readHex (acc : Bytes) : List Char → Option Bytes
  | [] => some acc
  | [_] => none
  | hi :: lo :: rest =>
    match hexValue? hi, hexValue? lo with
    | some h, some l => readHex (acc.push (UInt8.ofNat (16 * h + l))) rest
    | _, _ => none

/-- The bytes written as pairs of hexadecimal digits. -/
def ofHex? (text : String) : Option Bytes :=
  readHex #[] text.toList

end Bytes

end FirmwareUpgrade
