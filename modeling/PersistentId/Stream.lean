import PersistentId.Action
import PersistentId.Text.Utf8

/-!
# Streams

An open text file. Text that is written passes through two stores before it reaches the file: it
first waits as a whole (`Stream.pending`) and then in a buffer (`Stream.buffered`). Text that is
read comes from the file in pieces, of which the part that has not been asked for is kept
(`Stream.unread`).

Both directions share one place in the file. Reading a line takes the next piece from there even
while text waits in the buffer, so that this text ends up behind the piece; reading to the end puts
it into the file first. Writing drops what was read ahead.

A stream acts on the bytes of its file.
-/

namespace PersistentId

/-- What a file may be used for once it is open. -/
structure Access where
  reads : Bool
  writes : Bool
  /-- All text goes to the end of the file. -/
  appends : Bool := false
  /-- The file starts empty. -/
  truncates : Bool := false
  /-- The file must not be there before. -/
  creates : Bool := false
  /-- The file is made if it is not there. -/
  makes : Bool := true
  /-- The file holds bytes instead of text. -/
  bytes : Bool := false
  deriving DecidableEq, Repr, Inhabited

namespace Access

/-- The access that a mode stands for: one of `r`, `w`, `a` and `x`, and at most once each `+` for
both directions and `t` or `b` for text or bytes. -/
def ofMode? (mode : String) : Option Access :=
  let cs := mode.toList
  let mains := cs.filter ['r', 'w', 'a', 'x'].contains
  let known := cs.all ['r', 'w', 'a', 'x', '+', 't', 'b'].contains
  let once := cs.eraseDups.length = cs.length
  if !known || !once || (cs.contains 't' && cs.contains 'b') then none
  else
    let both := cs.contains '+'
    let bytes := cs.contains 'b'
    match mains with
    | ['r'] => some { reads := true, writes := both, makes := false, bytes }
    | ['w'] => some { reads := both, writes := true, truncates := true, bytes }
    | ['a'] => some { reads := both, writes := true, appends := true, bytes }
    | ['x'] => some { reads := both, writes := true, creates := true, bytes }
    | _ => none

end Access

/-- An open text file. -/
structure Stream where
  access : Access
  /-- Where the file is read and written next, counted in bytes. -/
  offset : Nat := 0
  /-- Text that waits to be buffered. -/
  pending : ByteArray := .empty
  /-- Text that waits in the buffer. -/
  buffered : ByteArray := .empty
  /-- Text read from the file and not yet given out. -/
  unread : List Char := []
  /-- What is left over of the pieces read. -/
  decoder : Text.Decoder := {}
  deriving DecidableEq, Inhabited

namespace Stream

/-- Actions on a stream and the bytes of its file. -/
abbrev Use (α : Type) := Action (Stream × ByteArray) α

/-- How many bytes wait at most before they are buffered, and are read in one piece. -/
def pieceSize : Nat := 8192

/-- How many bytes the buffer takes. -/
def bufferSize : Nat := 4096

/-! ## Writing -/

/-- Bytes with others put over them from a place on; zeros fill what lies before it. -/
def overwrite (data : ByteArray) (place : Nat) (bytes : ByteArray) : ByteArray :=
  data.extract 0 place ++ ⟨Array.replicate (place - data.size) 0⟩ ++ bytes ++
    data.extract (place + bytes.size) data.size

/-- Put bytes into the file, at its end or where the stream stands. -/
def put (bytes : ByteArray) : Use Unit :=
  modify fun (stream, data) =>
    if bytes.isEmpty then (stream, data)
    else
      let place := if stream.access.appends then data.size else stream.offset
      ({ stream with offset := place + bytes.size }, overwrite data place bytes)

/-- Put what is in the buffer into the file. -/
def emptyBuffer : Use Unit := do
  put (← get).1.buffered
  modify fun (stream, data) => ({ stream with buffered := .empty }, data)

/-- Take bytes into the buffer. What does not fit there empties it first, and is not buffered at all
if it is larger than the buffer. -/
def buffer (bytes : ByteArray) : Use Unit := do
  let (stream, data) ← get
  if stream.buffered.size + bytes.size ≤ bufferSize then
    set ({ stream with buffered := stream.buffered ++ bytes }, data)
  else
    emptyBuffer
    if bufferSize < bytes.size then put bytes
    else modify fun (stream, data) => ({ stream with buffered := bytes }, data)

/-- Take pending text into the buffer. -/
def settle : Use Unit := do
  let pending := (← get).1.pending
  if !pending.isEmpty then
    modify fun (stream, data) => ({ stream with pending := .empty }, data)
    buffer pending

/-- Put all text that waits into the file. -/
def flush : Use Unit := do
  settle
  emptyBuffer

/-- Write a text, and count its characters. -/
def write (text : String) : Use Nat := do
  let bytes := text.toUTF8
  if pieceSize < (← get).1.pending.size + bytes.size then settle
  modify fun (stream, data) => ({ stream with pending := stream.pending ++ bytes }, data)
  if pieceSize ≤ (← get).1.pending.size then settle
  modify fun (stream, data) => ({ stream with unread := [], decoder := {} }, data)
  pure text.length

/-! ## Reading -/

/-- Take the text of bytes from the file, the last of it or not. -/
def decode (last : Bool) (bytes : ByteArray) : Use (List Char) := do
  let (stream, data) ← get
  match stream.decoder.feed last bytes with
  | some (cs, decoder) =>
    set ({ stream with decoder }, data)
    pure cs
  | none => throw .undecodable

/-- Take bytes from the file, up to the given number. -/
def take (count : Nat) : Use ByteArray := do
  let (stream, data) ← get
  let bytes := data.extract stream.offset (stream.offset + count)
  set ({ stream with offset := stream.offset + bytes.size }, data)
  pure bytes

/-- The rest of the file. -/
def readAll : Use String := do
  flush
  let bytes ← take (← get).2.size
  let cs ← decode true bytes
  let (stream, data) ← get
  set ({ stream with unread := [] }, data)
  pure (String.ofList (stream.unread ++ cs))

/-- Read the next piece of the file; false at its end. -/
def readPiece : Use Bool := do
  let bytes ← take pieceSize
  let cs ← decode bytes.isEmpty bytes
  modify fun (stream, data) => ({ stream with unread := cs }, data)
  pure (!bytes.isEmpty || !cs.isEmpty)

/-- The characters up to the end of the line, behind those already read; at most so many pieces are
read. -/
def readLineFrom : Nat → (line : List Char) → Use (List Char)
  | 0, line => pure line
  | n + 1, line => do
    let (stream, data) ← get
    let run := stream.unread.takeWhile (· ≠ '\n')
    match stream.unread.drop run.length with
    | ending :: rest =>
      set ({ stream with unread := rest }, data)
      pure (line ++ run ++ [ending])
    | [] =>
      set ({ stream with unread := [] }, data)
      if ← readPiece then readLineFrom n (line ++ run) else pure (line ++ run)

/-- The next line of the file, with its ending. That the file cannot be read shows only once pending
text is in the buffer. -/
def readLine : Use String := do
  settle
  if !(← get).1.access.reads then throw (.file .notSupported)
  String.ofList <$> readLineFrom ((← get).2.size + 3) []

end Stream

end PersistentId
