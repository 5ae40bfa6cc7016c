import PersistentId.Fault

/-!
# Encodings

What an output can take. A text is taken as a whole or refused as a whole; `Encoding.check` refuses
it with words about the first characters in a row that cannot be taken.
-/

namespace PersistentId.Tool

/-- What an output can take. -/
structure Encoding where
  name : String := ""
  takes : Char → Bool := fun _ => true
  /-- Why a character cannot be taken. -/
  reason : String := ""
  deriving Inhabited

namespace Encoding

/-- All characters, but no halves of pairs. -/
def utf8 : Encoding where
  name := "utf-8"
  takes c := !Text.isHalf c
  reason := "surrogates not allowed"

/-- The words for a text that is taken up to some characters in a row. -/
def complaint (encoding : Encoding) (taken : Nat) (refused : List Char) : String :=
  let place := match refused with
    | [c] => " character '" ++ String.ofList (Text.escaped c) ++ "' in position " ++
        toString taken
    | _ => " characters in position " ++ toString taken ++ "-" ++
        toString (taken + refused.length - 1)
  "'" ++ encoding.name ++ "' codec can't encode" ++ place ++ ": " ++ encoding.reason

/-- A text has to be one that can be taken. -/
def check (encoding : Encoding) (text : String) : Except Fault Unit :=
  let taken := text.toList.takeWhile encoding.takes
  match (text.toList.drop taken.length).takeWhile fun c => !encoding.takes c with
  | [] => .ok ()
  | refused => .error (.unencodable (encoding.complaint taken.length refused))

/-- All of some texts have to be ones that can be taken. -/
def checkAll (encoding : Encoding) : List String → Except Fault Unit
  | [] => .ok ()
  | text :: texts => do
    encoding.check text
    checkAll encoding texts

end Encoding

end PersistentId.Tool
