import PersistentId.Text.Lines

/-!
# Decoding piece by piece

The bytes of a text file come in pieces, which can end inside a character or between the two
characters of a line ending. A `Decoder` keeps what a piece leaves over for the next one. Line
endings are unified on the way.
-/

namespace PersistentId.Text

/-- Whether a byte continues a character. -/
def isContinuation (b : UInt8) : Bool :=
  0x80 ≤ b && b < 0xC0

/-- How many bytes a character takes that starts with the given one. -/
def widthOf (b : UInt8) : Nat :=
  if b < 0xC0 then 1 else if b < 0xE0 then 2 else if b < 0xF0 then 3 else 4

/-- How many bytes at the end make the start of a character; these bytes are given from the end. -/
def openTail : List UInt8 → Nat
  | a :: rest =>
    if 1 < widthOf a then 1
    else if !isContinuation a then 0
    else match rest with
      | b :: rest =>
        if 2 < widthOf b then 2
        else if !isContinuation b then 0
        else match rest with
          | c :: _ => if 3 < widthOf c then 3 else 0
          | [] => 0
      | [] => 0
  | [] => 0

/-- The bytes up to the last character that is whole, and those behind it. -/
def splitWhole (bytes : ByteArray) : ByteArray × ByteArray :=
  let last := (List.range (min 3 bytes.size)).map fun i => bytes.get! (bytes.size - 1 - i)
  let size := bytes.size - openTail last
  (bytes.extract 0 size, bytes.extract size bytes.size)

/-- Whether bytes are the same. -/
instance decidableEqByteArray : DecidableEq ByteArray := ByteArray.instDecidableEq

/-- What is left over of the pieces before. -/
structure Decoder where
  /-- The start of a character. -/
  started : ByteArray := .empty
  /-- Whether a carriage return is held back, as a line feed may follow it. -/
  holdsReturn : Bool := false
  deriving DecidableEq, Inhabited

namespace Decoder

/-- A carriage return at the end that is held back unless the piece is the last one. -/
def holdBack (last : Bool) (cs : List Char) : List Char × Bool :=
  if !last && cs.getLast? = some '\r' then (cs.dropLast, true) else (cs, false)

/-- The characters of a piece, with what is left over; none if the bytes are no text. -/
def feed (decoder : Decoder) (last : Bool) (piece : ByteArray) : Option (List Char × Decoder) := do
  let bytes := decoder.started ++ piece
  let (whole, started) := if last then (bytes, .empty) else splitWhole bytes
  let cs := (← String.fromUTF8? whole).toList
  if decoder.holdsReturn && !last && cs.isEmpty then some ([], { decoder with started })
  else
    let cs := if decoder.holdsReturn then '\r' :: cs else cs
    let (cs, holdsReturn) := holdBack last cs
    some (unify cs, { started, holdsReturn })

end Decoder

/-- The text that bytes encode, with unified line endings. -/
def decode? (bytes : ByteArray) : Option String :=
  (String.fromUTF8? bytes).map fun s => String.ofList (unify s.toList)

/-- A text without carriage returns is what its bytes encode. -/
theorem decode?_toUTF8 {s : String} (h : '\r' ∉ s.toList) : decode? s.toUTF8 = some s := by
  have hs : String.fromUTF8? s.toUTF8 = some s := by
    simp [String.fromUTF8?, String.toUTF8, s.isValidUTF8, String.fromUTF8]
  rw [decode?, hs, Option.map_some, unify_of_not_mem h, String.ofList_toList]

end PersistentId.Text
