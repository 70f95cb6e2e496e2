import FirmwareUpgrade.Controller.Config
import FirmwareUpgrade.Controller.Failure
import FirmwareUpgrade.Controller.Phase
import FirmwareUpgrade.Protocol.Status
import FirmwareUpgrade.Usb.Handle

/-!
# What the controller remembers

The image and how much of it has gone over, the handles of the device, the operation in flight, the
buffer for reading back and the outcome so far. Counts are in bytes and refer to the direction of
transfer at the time: first to the device, then back.
-/
namespace FirmwareUpgrade

/-- The operation that was started last and has not ended. -/
structure InFlight where
  ticket : UInt32
  operation : Operation
  /-- The number of image bytes that the operation moves. -/
  length : Nat
deriving DecidableEq, Repr

/-- The state of an upgrade. -/
structure Controller where
  config : Config
  image : Bytes
  boundHost : Option HostHandle
  boundDevice : Option DeviceHandle
  boundInterface : Option InterfaceHandle
  liveClass : Option ClassHandle
  transferred : Nat
  block : UInt16
  lastStatus : Option Status
  readback : Option Bytes
  readbackAllocations : Nat
  readbackFrees : Nat
  phase : Phase
  /-- The phase that observers outside the worker see. -/
  watch : Phase
  inFlight : Option InFlight
  nextTicket : UInt32
  lastError : Option UpgradeError
deriving DecidableEq, Repr

namespace Controller

/-- A controller with an image to send, to which no device has attached. -/
def new (image : Bytes) (config : Config) : Controller where
  config := config
  image := image
  boundHost := none
  boundDevice := none
  boundInterface := none
  liveClass := none
  transferred := 0
  block := 0
  lastStatus := none
  readback := none
  readbackAllocations := 0
  readbackFrees := 0
  phase := .unattached
  watch := .unattached
  inFlight := none
  nextTicket := 0
  lastError := none

/-- The bytes of the image not yet transferred. -/
def remaining (c : Controller) : Nat :=
  c.image.size - c.transferred

/-- The length of the next block. A chunk size of zero counts as one. -/
def chunkLength (c : Controller) : Nat :=
  min (max c.config.chunkSize.toNat 1) c.remaining

def nextChunk (c : Controller) : Bytes :=
  c.image.extract c.transferred (c.transferred + c.chunkLength)

/-- Starts counting blocks and bytes from zero. -/
def resetCounters (c : Controller) : Controller :=
  { c with block := 0, transferred := 0 }

/-- Gives up the read-back buffer if there is one. -/
def freeReadback (c : Controller) : Controller :=
  match c.readback with
  | some _ => { c with readback := none, readbackFrees := c.readbackFrees + 1 }
  | none => c

/-- Makes sure that there is a read-back buffer, as long as the image. -/
def allocateReadback (c : Controller) : Controller :=
  match c.readback with
  | some _ => c
  | none =>
    { c with
      readback := some (Array.replicate c.image.size 0)
      readbackAllocations := c.readbackAllocations + 1 }

/-- Copies bytes into the read-back buffer at the current place and counts them. -/
def storeReadback (c : Controller) (data : Bytes) : Controller :=
  { c with
    readback := c.readback.map (·.overwrite c.transferred data)
    transferred := c.transferred + data.size }

/-- Where what was read back differs from the image. Without a buffer nothing is verified. -/
def mismatch (c : Controller) : Option Nat :=
  match c.readback with
  | some buffer => buffer.firstDifference c.image
  | none => some 0

/-- Draws the next ticket and takes an operation down as in flight. -/
def begin (c : Controller) (operation : Operation) (length : Nat) : Controller × UInt32 :=
  let ticket := c.nextTicket
  ({ c with nextTicket := ticket + 1, inFlight := some ⟨ticket, operation, length⟩ }, ticket)

def bind (c : Controller) (host : HostHandle) (device : DeviceHandle)
    (interface : InterfaceHandle) : Controller :=
  { c with boundHost := some host, boundDevice := some device, boundInterface := some interface }

def startOver (c : Controller) (target : ClassHandle) : Controller :=
  { c.resetCounters with liveClass := some target, lastError := none, lastStatus := none }

/-- Lets go of everything that belongs to the device, except for the class handle. The host stays
known. -/
def forgetDevice (c : Controller) : Controller :=
  ({ c with
      inFlight := none
      boundDevice := none
      boundInterface := none }.freeReadback).resetCounters

/-- Remembers the cause of a failure. Nothing is in flight after it, and the buffer is given up. -/
def recordFailure (c : Controller) (cause : UpgradeError) : Controller :=
  { c.freeReadback with inFlight := none, lastError := some cause }

end Controller

end FirmwareUpgrade
