import FirmwareUpgrade.Data.Bytes
import FirmwareUpgrade.Data.LittleEndian

/-!
# Functional descriptors

The nine bytes with which a DFU interface says what it can do: length, type, attributes, detach
timeout, transfer size and version, the last three as words with the low byte first.
-/
namespace FirmwareUpgrade

/-- A DFU functional descriptor. -/
structure Descriptor where
  attributes : UInt8
  detachTimeout : UInt16
  transferSize : UInt16
  version : UInt16
deriving DecidableEq, Repr, Inhabited

namespace Descriptor

/-- The type byte of a DFU functional descriptor. -/
def typeCode : UInt8 := 0x21

/-- The length of a DFU functional descriptor, which is also its first byte. -/
def length : Nat := 9

/-- Reads a descriptor that starts with its length byte; `none` for any other descriptor. Bytes
behind the ninth are of no account. -/
def decode? (raw : Bytes) : Option Descriptor :=
  if h : length ≤ raw.size then
    have h8 : 8 < raw.size := h
    if raw[0].toNat = length ∧ raw[1] = typeCode then
      some {
        attributes := raw[2]
        detachTimeout := LittleEndian.word raw[3] raw[4]
        transferSize := LittleEndian.word raw[5] raw[6]
        version := LittleEndian.word raw[7] raw[8] }
    else
      none
  else
    none

def encode (d : Descriptor) : Bytes :=
  #[UInt8.ofNat length, typeCode, d.attributes,
    LittleEndian.low d.detachTimeout, LittleEndian.high d.detachTimeout,
    LittleEndian.low d.transferSize, LittleEndian.high d.transferSize,
    LittleEndian.low d.version, LittleEndian.high d.version]

def has (d : Descriptor) (mask : UInt8) : Bool :=
  d.attributes &&& mask != 0

/-- The device takes downloads. -/
def canDownload (d : Descriptor) : Bool := d.has 0x01

/-- The device gives uploads. -/
def canUpload (d : Descriptor) : Bool := d.has 0x02

/-- The device still answers once manifestation is over. -/
def manifestationTolerant (d : Descriptor) : Bool := d.has 0x04

/-- The device detaches and attaches again by itself. -/
def willDetach (d : Descriptor) : Bool := d.has 0x08

end Descriptor

end FirmwareUpgrade
