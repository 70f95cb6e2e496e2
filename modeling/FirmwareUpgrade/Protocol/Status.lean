import FirmwareUpgrade.Controller.Failure

/-!
# Status replies

The six bytes of a `DFU_GETSTATUS` reply: a status code, a 24-bit poll timeout in milliseconds with
its low byte first, the state of the device and the index of a text. `decode` reads them and
`encode` writes them; bytes behind the sixth are of no account.
-/
namespace FirmwareUpgrade

/-- A decoded status reply. -/
structure Status where
  code : UInt8
  pollTimeout : Nat
  state : UInt8
  stringIndex : UInt8
  pollTimeout_lt : pollTimeout < 0x1000000 := by decide
deriving DecidableEq, Repr

namespace Status

def length : Nat := 6

def okCode : UInt8 := 0x00

/-- The device state `appDETACH`. -/
def appDetach : UInt8 := 0x01

/-- The device state `dfuIDLE`. -/
def dfuIdle : UInt8 := 0x02

/-- The device state `dfuDNLOAD-IDLE`. -/
def downloadIdle : UInt8 := 0x05

/-- The device state `dfuUPLOAD-IDLE`. -/
def uploadIdle : UInt8 := 0x09

/-- The device state `dfuERROR`. -/
def dfuError : UInt8 := 0x0a

def ofCode (code state : UInt8) : Status where
  code := code
  pollTimeout := 0
  state := state
  stringIndex := 0

/-- The 24-bit number whose bytes are given from the low one to the high one. -/
def timeout24 (b0 b1 b2 : UInt8) : Nat :=
  b0.toNat + 0x100 * b1.toNat + 0x10000 * b2.toNat

theorem timeout24_lt (b0 b1 b2 : UInt8) : timeout24 b0 b1 b2 < 0x1000000 := by
  have h0 := b0.toNat_lt
  have h1 := b1.toNat_lt
  have h2 := b2.toNat_lt
  unfold timeout24
  omega

/-- Reads the first six bytes of a reply. -/
def decode (d : Bytes) : Except UpgradeError Status :=
  if h : length ≤ d.size then
    have h5 : 5 < d.size := h
    .ok { code := d[0], pollTimeout := timeout24 d[1] d[2] d[3], state := d[4],
          stringIndex := d[5], pollTimeout_lt := timeout24_lt d[1] d[2] d[3] }
  else
    .error (.responseTooShort d.size length)

def encode (s : Status) : Bytes :=
  #[s.code, UInt8.ofNat s.pollTimeout, UInt8.ofNat (s.pollTimeout / 0x100),
    UInt8.ofNat (s.pollTimeout / 0x10000), s.state, s.stringIndex]

/-- A status is good when its code says so and the device is not in its error state. -/
def check (s : Status) : Except UpgradeError Unit :=
  if s.code = okCode ∧ s.state ≠ dfuError then .ok () else .error (.status s.code s.state)

end Status

end FirmwareUpgrade
