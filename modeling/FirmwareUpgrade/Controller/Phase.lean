/-!
# Phases of an upgrade
-/
namespace FirmwareUpgrade

/-- Where an upgrade stands. The phases follow each other in this order, except that a transfer
and the status check behind it repeat for every block. -/
inductive Phase where
  | unattached
  | attached
  | setInterface
  | getStatus
  | transfer
  | zeroLengthTransfer
  | readBack
  | getStatusRead
  | detach
  | checkStatus
  | complete
  | error
deriving DecidableEq, Repr, Inhabited

namespace Phase

def all : List Phase :=
  [unattached, attached, setInterface, getStatus, transfer, zeroLengthTransfer, readBack,
    getStatusRead, detach, checkStatus, complete, error]

def text : Phase → String
  | unattached => "UNATTACHED"
  | attached => "ATTACHED"
  | setInterface => "SET_INTERFACE"
  | getStatus => "GET_STATUS"
  | transfer => "TRANSFER"
  | zeroLengthTransfer => "ZERO_LENGTH_TRANSFER"
  | readBack => "READ_BACK"
  | getStatusRead => "GET_STATUS_READ"
  | detach => "DETACH"
  | checkStatus => "CHECK_STATUS"
  | complete => "COMPLETE"
  | error => "ERROR"

def index (p : Phase) : Nat :=
  all.idxOf p

/-- An upgrade stays in these phases until the device is gone. -/
def isTerminal : Phase → Bool
  | complete | error => true
  | _ => false

/-- Entering these phases takes a live class handle. -/
def needsClass : Phase → Bool
  | unattached | attached | error => false
  | _ => true

end Phase

end FirmwareUpgrade
