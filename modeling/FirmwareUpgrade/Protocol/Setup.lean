import FirmwareUpgrade.Data.LittleEndian
import FirmwareUpgrade.Protocol.Status

/-!
# Setup packets

A class request is announced by the eight bytes of its setup packet. There is one builder for each
DFU request. `ControlRequest.ofPacket?` reads a packet back, so a packet determines its request.
-/
namespace FirmwareUpgrade

/-- The direction of the data stage, seen from the host. -/
inductive Direction where
  | out
  | inward
deriving DecidableEq, Repr, Inhabited

def detachCode : UInt8 := 0

def downloadCode : UInt8 := 1

def uploadCode : UInt8 := 2

def getStatusCode : UInt8 := 3

def clearStatusCode : UInt8 := 4

def abortCode : UInt8 := 6

/-- The setup stage of a class request to an interface. -/
structure ControlRequest where
  direction : Direction
  request : UInt8
  value : UInt16
  index : UInt16
  length : UInt16
deriving DecidableEq, Repr, Inhabited

namespace ControlRequest

/-- Asks the device to detach within a time in milliseconds. -/
def detach (interface : UInt8) (timeout : UInt16) : ControlRequest :=
  ⟨.out, detachCode, timeout, interface.toUInt16, 0⟩

/-- Sends a block; the block of length zero ends the download. -/
def dnload (interface : UInt8) (block length : UInt16) : ControlRequest :=
  ⟨.out, downloadCode, block, interface.toUInt16, length⟩

def upload (interface : UInt8) (block length : UInt16) : ControlRequest :=
  ⟨.inward, uploadCode, block, interface.toUInt16, length⟩

def getStatus (interface : UInt8) : ControlRequest :=
  ⟨.inward, getStatusCode, 0, interface.toUInt16, UInt16.ofNat Status.length⟩

/-- Leaves the error state. -/
def clearStatus (interface : UInt8) : ControlRequest :=
  ⟨.out, clearStatusCode, 0, interface.toUInt16, 0⟩

/-- Gives up an unfinished transfer. -/
def abort (interface : UInt8) : ControlRequest :=
  ⟨.out, abortCode, 0, interface.toUInt16, 0⟩

/-- The first byte of the packet: a class request to an interface, with its direction. -/
def requestType (r : ControlRequest) : UInt8 :=
  match r.direction with
  | .out => 0x21
  | .inward => 0xA1

def packet (r : ControlRequest) : Bytes :=
  #[r.requestType, r.request,
    LittleEndian.low r.value, LittleEndian.high r.value,
    LittleEndian.low r.index, LittleEndian.high r.index,
    LittleEndian.low r.length, LittleEndian.high r.length]

/-- The direction that the first byte of a packet stands for. -/
def direction? (requestType : UInt8) : Option Direction :=
  if requestType = 0x21 then some .out
  else if requestType = 0xA1 then some .inward
  else none

/-- Reads the setup packet of a class request to an interface. -/
def ofPacket? (p : Bytes) : Option ControlRequest :=
  if h : p.size = 8 then
    (direction? p[0]).map fun direction =>
      { direction, request := p[1],
        value := LittleEndian.word p[2] p[3],
        index := LittleEndian.word p[4] p[5],
        length := LittleEndian.word p[6] p[7] }
  else
    none

end ControlRequest

end FirmwareUpgrade
