import PersistentId.Text.Printable
import PersistentId.Text.Units

/-!
# Quoted text

The quoted form of a text for messages: between apostrophes, or between double quotes if the text
holds an apostrophe and no double quote. The quote in use, the backslash and what cannot be shown
are escaped.
-/

namespace PersistentId.Text

/-- A number in hexadecimal, with zeros in front up to the given width. -/
def hexadecimal (width n : Nat) : List Char :=
  let digits := Nat.toDigits 16 n
  List.replicate (width - digits.length) '0' ++ digits

/-- A character by its code. -/
def escaped (c : Char) : List Char :=
  let code := codeOf c
  if code < 0x100 then '\\' :: 'x' :: hexadecimal 2 code
  else if code < 0x10000 then '\\' :: 'u' :: hexadecimal 4 code
  else '\\' :: 'U' :: hexadecimal 8 code

/-- A character inside a text quoted by `mark`. -/
def quotedChar (mark c : Char) : List Char :=
  if c = mark || c = '\\' then ['\\', c]
  else if c = '\n' then ['\\', 'n']
  else if c = '\r' then ['\\', 'r']
  else if c = '\t' then ['\\', 't']
  else if isPrintable c then [c]
  else escaped c

/-- The quote a text is written with. -/
def quoteMark (cs : List Char) : Char :=
  if cs.contains '\'' && !cs.contains '"' then '"' else '\''

/-- The quoted form of a text. -/
def quoted (s : String) : String :=
  let mark := quoteMark s.toList
  String.ofList (mark :: s.toList.flatMap (quotedChar mark) ++ [mark])

end PersistentId.Text
