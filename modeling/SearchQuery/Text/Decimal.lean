import SearchQuery.Text.Basic

/-!
# Numbers in decimal

Numbers are written with the ten ASCII digits, most significant first, and read
back from them.
-/

namespace SearchQuery

namespace Text

def ofNat (n : Nat) : Text :=
  Nat.toDigits 10 n

def padded (width n : Nat) : Text :=
  List.leftpad width '0' (ofNat n)

def decimalValue (digits : Text) : Nat :=
  Nat.ofDigitChars 10 digits 0

def isDecimal (t : Text) : Bool :=
  !t.isEmpty && t.all Char.isDigit

def readNat? (t : Text) : Option Nat :=
  if isDecimal t then some (decimalValue t) else none

/-- An unsigned number of 64 bits; a plus sign may stand before its digits. -/
def readWord? (t : Text) : Option Nat :=
  let digits := match t with
    | '+' :: rest => rest
    | _ => t
  (readNat? digits).filter fun n => n < UInt64.size

theorem decimalValue_ofNat (n : Nat) :
    decimalValue (ofNat n) = n :=
  Nat.ofDigitChars_toDigits (by decide) (by decide)

end Text

end SearchQuery
