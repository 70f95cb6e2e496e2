/-!
# Numbers on the command line

A number is a row of digits, with a plus sign in front at will. Nothing else is let through, and a
number has to be below a bound.
-/
namespace FirmwareUpgrade.Number

/-- Numbers of sixteen bits are below this. -/
def wordBound : Nat := 0x10000

/-- Numbers of 64 bits are below this. -/
def longBound : Nat := 0x10000000000000000

/-- The value of a digit in a base of at most sixteen; letters of either case. -/
def digit? (base : Nat) (c : Char) : Option Nat :=
  let value :=
    if '0' ≤ c ∧ c ≤ '9' then c.toNat - 48
    else if 'a' ≤ c ∧ c ≤ 'f' then c.toNat - 87
    else if 'A' ≤ c ∧ c ≤ 'F' then c.toNat - 55
    else base
  if value < base then some value else none

/-- Reads digits onto a value. -/
def digits? (base acc : Nat) : List Char → Option Nat
  | [] => some acc
  | c :: rest =>
    match digit? base c with
    | some d => digits? base (base * acc + d) rest
    | none => none

/-- Reads at least one digit. -/
def unsigned? (base : Nat) : List Char → Option Nat
  | [] => none
  | cs => digits? base 0 cs

/-- Reads a number below `bound`, with a plus sign in front or without. -/
def parse? (base bound : Nat) (cs : List Char) : Option Nat :=
  let value? :=
    match cs with
    | '+' :: rest => unsigned? base rest
    | cs => unsigned? base cs
  value?.filter (· < bound)

/-- Reads a decimal number below `bound`, or a hexadecimal one behind the mark `0x`. -/
def parseMarked? (bound : Nat) : List Char → Option Nat
  | '0' :: 'x' :: rest => parse? 16 bound rest
  | '0' :: 'X' :: rest => parse? 16 bound rest
  | cs => parse? 10 bound cs

/-- Reads a decimal or marked hexadecimal number of sixteen bits. -/
def word? (text : String) : Option UInt16 :=
  (parseMarked? wordBound text.toList).map UInt16.ofNat

/-- Reads a hexadecimal number of sixteen bits without a mark. -/
def hexWord? (text : String) : Option UInt16 :=
  (parse? 16 wordBound text.toList).map UInt16.ofNat

def long? (text : String) : Option Nat :=
  parse? 10 longBound text.toList

/-- Reads a decimal or marked hexadecimal number of 64 bits. -/
def offset? (text : String) : Option Nat :=
  parseMarked? longBound text.toList

end FirmwareUpgrade.Number
