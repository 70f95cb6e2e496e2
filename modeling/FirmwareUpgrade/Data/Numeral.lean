/-!
# Numbers in reports

Decimal and lower-case hexadecimal digits, padded with zeros on the left to a least width.
-/
namespace FirmwareUpgrade.Numeral

/-- Fills a text up with zeros on the left until it has at least `width` characters. -/
def padZero (width : Nat) (text : String) : String :=
  "".pushn '0' (width - text.length) ++ text

def decimal (width n : Nat) : String :=
  padZero width (String.ofList (Nat.toDigits 10 n))

/-- Hexadecimal digits in lower case, at least `width` of them. -/
def hex (width n : Nat) : String :=
  padZero width (String.ofList (Nat.toDigits 16 n))

end FirmwareUpgrade.Numeral
