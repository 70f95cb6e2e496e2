import FirmwareUpgrade.Data.Bytes

/-!
# Short digests

The 32-bit FNV-1a hash of a byte string and of a list of text lines. Traces show the payload of a
transfer by it, and a long report is summed up by it.
-/
namespace FirmwareUpgrade.Digest

def empty : UInt32 := 0x811c9dc5

def absorb (h : UInt32) (byte : UInt8) : UInt32 :=
  (h ^^^ byte.toUInt32) * 0x01000193

def ofBytes (b : Bytes) : UInt32 :=
  b.foldl absorb empty

/-- Takes the encoded characters of `text` into the hash. -/
def absorbText (h : UInt32) (text : String) : UInt32 :=
  text.toUTF8.foldl absorb h

/-- The hash of all lines joined by line feeds, with none behind the last. -/
def ofLines (lines : Array String) : UInt32 :=
  (lines.foldl (fun (h, first) line =>
    (absorbText (if first then h else absorb h 10) line, false)) (empty, true)).1

end FirmwareUpgrade.Digest
