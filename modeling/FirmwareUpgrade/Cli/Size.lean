import FirmwareUpgrade.Cli.Number

/-!
# Sizes on the command line

A size is a decimal number, perhaps with a fraction and an exponent, followed by a unit: one of the
letters `k m g t p e` for the powers of 1000, an `i` behind it for powers of 1024, and a `b` at the
end at will. Blanks and underscores inside count for nothing. A half byte is rounded up.

Of the digits, as many are taken exactly as fit into 64 bits. The first one beyond them rounds, and
those behind it only count for the scale.
-/
namespace FirmwareUpgrade.Size

def unitPower? (c : Char) : Option Nat :=
  match c.toLower with
  | 'k' => some 1
  | 'm' => some 2
  | 'g' => some 3
  | 't' => some 4
  | 'p' => some 5
  | 'e' => some 6
  | _ => none

/-- Takes the unit off the end of a size, which is given backwards. Gives the rest, still
backwards, and the number of bytes in the unit. -/
def splitUnit (backwards : List Char) : List Char × Nat :=
  let cs :=
    match backwards with
    | 'b' :: rest | 'B' :: rest => rest
    | cs => cs
  let (cs, base) :=
    match cs with
    | 'i' :: rest | 'I' :: rest => (rest, 1024)
    | cs => (cs, 1000)
  match cs with
  | c :: rest =>
    match unitPower? c with
    | some power => (rest, Nat.pow base power)
    | none => (c :: rest, 1)
  | [] => ([], 1)

/-- Where in a number the reader is. -/
inductive Place where
  | start
  | integer
  /-- Behind the digits of the integer that are taken exactly. -/
  | longInteger
  | fraction
  /-- Behind the digits of the fraction that are taken exactly. -/
  | longFraction
  | exponent
  | negativeExponent
deriving DecidableEq, Repr

/-- What has been read of a number: the value is `mantissa * 10 ^ (scale + exponent)`. -/
structure Reading where
  place : Place
  mantissa : Nat
  scale : Int
  exponent : Int
deriving Repr

namespace Reading

def start : Reading := ⟨.start, 0, 0, 0⟩

/-- Takes a digit of the mantissa in: exactly if it fits, else by rounding. A digit that is taken
exactly changes the scale by `kept`, one that is not by `dropped`. -/
def takeDigit (r : Reading) (d : Nat) (exact long : Place) (kept dropped : Int) : Reading :=
  let mantissa := 10 * r.mantissa + d
  if mantissa < Number.longBound then
    { r with place := exact, mantissa, scale := r.scale + kept }
  else
    { r with
      place := long
      mantissa := if 5 ≤ d then r.mantissa + 1 else r.mantissa
      scale := r.scale + dropped }

def digit (r : Reading) (d : Nat) : Reading :=
  match r.place with
  | .start | .integer => r.takeDigit d .integer .longInteger 0 1
  | .longInteger => { r with scale := r.scale + 1 }
  | .fraction => r.takeDigit d .fraction .longFraction (-1) 0
  | .longFraction => r
  | .exponent => { r with exponent := 10 * r.exponent + d }
  | .negativeExponent => { r with exponent := 10 * r.exponent - d }

def mark? (r : Reading) (c : Char) : Option Reading :=
  if c = ' ' ∨ c = '_' then some r
  else
    match r.place, c with
    | .integer, '.' => some { r with place := .fraction }
    | .longInteger, '.' => some { r with place := .longFraction }
    | .integer, 'e' | .integer, 'E' | .longInteger, 'e' | .longInteger, 'E'
    | .fraction, 'e' | .fraction, 'E' | .longFraction, 'e' | .longFraction, 'E' =>
      some { r with place := .exponent }
    | .exponent, '+' => some r
    | .exponent, '-' => some { r with place := .negativeExponent }
    | _, _ => none

def read? (r : Reading) : List Char → Option Reading
  | [] => if r.place = .start then none else some r
  | c :: rest =>
    match Number.digit? 10 c with
    | some d => (r.digit d).read? rest
    | none =>
      match r.mark? c with
      | some r => r.read? rest
      | none => none

/-- The number of whole bytes in so many units, if it is below the bound. -/
def bytes? (r : Reading) (unit : Nat) : Option Nat :=
  let exponent := r.scale + r.exponent
  if 0 ≤ exponent then
    if exponent < 20 then
      let factor := unit * Nat.pow 10 exponent.toNat
      if factor < Number.longBound then
        (some (r.mantissa * factor)).filter (· < Number.longBound)
      else none
    else none
  else if -38 ≤ exponent then
    let power := Nat.pow 10 (-exponent).toNat
    (some ((r.mantissa * unit + power / 2) / power)).filter (· < Number.longBound)
  else some 0

end Reading

def parse? (text : String) : Option Nat :=
  let (backwards, unit) := splitUnit text.toList.reverse
  (Reading.start.read? backwards.reverse).bind (·.bytes? unit)

end FirmwareUpgrade.Size
