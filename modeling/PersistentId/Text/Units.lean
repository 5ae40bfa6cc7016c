/-!
# Code units

Texts given by code units of sixteen bits, in which two halves of a pair make one character. A half
that stands alone is no character, but a text may have it all the same. The last of the characters
for private use, of which there are as many, stand for these halves.
-/

namespace PersistentId.Text

/-- The first character that stands for a half of a pair. -/
def firstHalf : Nat := 0x10F800

/-- The character of one code unit. -/
def ofUnit (unit : Nat) : Char :=
  if 0xD800 ≤ unit ∧ unit ≤ 0xDFFF then Char.ofNat (firstHalf + (unit - 0xD800))
  else Char.ofNat unit

/-- Whether a character stands for a half of a pair. -/
def isHalf (c : Char) : Bool :=
  firstHalf ≤ c.toNat

/-- The code of a character, or of the half of a pair that it stands for. -/
def codeOf (c : Char) : Nat :=
  if isHalf c then 0xD800 + (c.toNat - firstHalf) else c.toNat

/-- The text of code units; numbers beyond them stand for their characters. -/
def joinUnits : List Nat → List Char
  | [] => []
  | [unit] => [ofUnit unit]
  | high :: low :: units =>
    if 0xD800 ≤ high ∧ high ≤ 0xDBFF ∧ 0xDC00 ≤ low ∧ low ≤ 0xDFFF then
      Char.ofNat (0x10000 + 0x400 * (high - 0xD800) + (low - 0xDC00)) :: joinUnits units
    else ofUnit high :: joinUnits (low :: units)

/-- The number that a hexadecimal digit stands for. -/
def hexDigit? (c : Char) : Option Nat :=
  if '0' ≤ c ∧ c ≤ '9' then some (c.toNat - '0'.toNat)
  else if 'a' ≤ c ∧ c ≤ 'f' then some (c.toNat - 'a'.toNat + 10)
  else if 'A' ≤ c ∧ c ≤ 'F' then some (c.toNat - 'A'.toNat + 10)
  else none

/-- The number that hexadecimal digits stand for, if there are no others. -/
def hexNumber? (digits : List Char) : Option Nat :=
  digits.foldlM (fun n c => (hexDigit? c).map (16 * n + ·)) 0

end PersistentId.Text
