import PersistentId.Fault
import PersistentId.Json.Reader

/-!
# Writing JSON

Documents on one line, with a blank behind each comma and colon. Texts are written in visible ASCII:
every other character is given by its code units, unless it is a control character with a short
escape. `writeLayered` spreads the members of an object over lines, and writes it piece by piece.

Not every value can be written: moments cannot, nor can whole numbers that are too long, nor more
lists and tables inside each other than there is room for.
-/

namespace PersistentId.Json

/-- A code unit as an escape. -/
def unitEscape (unit : Nat) : List Char :=
  '\\' :: 'u' :: Text.hexadecimal 4 unit

/-- A character as it is written inside a text. -/
def writeChar (c : Char) : List Char :=
  let n := c.toNat
  if c = '"' then ['\\', '"']
  else if c = '\\' then ['\\', '\\']
  else if c = '\n' then ['\\', 'n']
  else if c = '\r' then ['\\', 'r']
  else if c = '\t' then ['\\', 't']
  else if c = '\x08' then ['\\', 'b']
  else if c = '\x0c' then ['\\', 'f']
  else if 32 ≤ n ∧ n < 127 then [c]
  else if n < 0x10000 then unitEscape n
  else unitEscape (0xD800 + (n - 0x10000) / 0x400) ++ unitEscape (0xDC00 + (n - 0x10000) % 0x400)

/-- A text between quotes. -/
def writeText (s : String) : String :=
  String.ofList ('"' :: s.toList.flatMap writeChar ++ ['"'])

/-- The words for a value that has too many lists and tables inside each other. -/
def deepWords : String :=
  "maximum recursion depth exceeded while encoding a JSON object"

/-- A whole number, which must not be too long. -/
def writeInt (n : Int) : Except Fault String :=
  if isShort n then .ok (toString n) else .error .tooLong

/-- The name of a member for a key. -/
def memberName : Key → Except Fault String
  | .null => .ok "null"
  | .bool true => .ok "true"
  | .bool false => .ok "false"
  | .int n => writeInt n
  | .float x => .ok x.documentText
  | .moment _ => .error .wrongType
  | .str s => .ok s

mutual

/-- A value on one line, with room for so many lists and tables inside each other. The first part
that cannot be written says why there is no document. -/
def writeValue : Nat → Value → Except Fault String
  | _, .null => .ok "null"
  | _, .bool true => .ok "true"
  | _, .bool false => .ok "false"
  | _, .int n => writeInt n
  | _, .float x => .ok x.documentText
  | _, .str s => .ok (writeText s)
  | _, .moment _ => .error .wrongType
  | 0, .list _ | 0, .map _ => .error (.tooDeep deepWords)
  | room + 1, .list items => do
    let parts ← writeItems room items
    pure ("[" ++ ", ".intercalate parts ++ "]")
  | room + 1, .map entries => do
    let parts ← writeEntries room entries
    pure ("\x7b" ++ ", ".intercalate parts ++ "\x7d")
termination_by structural _ v => v

/-- The items of a list. -/
def writeItems : Nat → List Value → Except Fault (List String)
  | _, [] => .ok []
  | room, v :: items => do
    let part ← writeValue room v
    pure (part :: (← writeItems room items))
termination_by structural _ vs => vs

/-- The entries of a table as members. -/
def writeEntries : Nat → List (Key × Value) → Except Fault (List String)
  | _, [] => .ok []
  | room, (k, v) :: entries => do
    let name ← memberName k
    let part ← writeValue room v
    pure ((writeText name ++ ": " ++ part) :: (← writeEntries room entries))
termination_by structural _ es => es

end

/-- The document of a value, on one line. -/
def write (v : Value) : Except Fault String :=
  writeValue depthLimit v

/-! ## Documents on many lines -/

/-- What writing a document piece by piece comes to. -/
inductive Written where
  | whole (document : String)
  /-- Something could not be written; this is what comes before it. -/
  | cut (start : String) (fault : Fault)
  deriving DecidableEq, Repr, Inhabited

/-- What there is of a document. -/
def Written.text : Written → String
  | .whole document => document
  | .cut start _ => start

/-- The members of an object behind what there is of it, each with `gap` in front; the next ones
stand behind a comma, on lines of their own. There is room for so many lists and tables inside each
other in what a member holds. -/
def writeMembers (room : Nat) (document gap : String) : List (Key × Value) → Written
  | [] => .whole (document ++ "\n\x7d")
  | (key, v) :: entries =>
    match memberName key with
    | .error fault => .cut document fault
    | .ok name =>
      let start := document ++ gap ++ (writeText name ++ ": ")
      match writeValue room v with
      | .error fault => .cut start fault
      | .ok part => writeMembers room (start ++ part) ",\n  " entries

/-- An object with one member on each line, indented by two blanks. -/
def writeLayered : List (Key × Value) → Written
  | [] => .whole "\x7b\x7d"
  | entries => writeMembers (depthLimit - 1) "\x7b\n  " "" entries

end PersistentId.Json
