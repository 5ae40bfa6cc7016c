import PersistentId.Json.Reader
import PersistentId.Text.Lines
import PersistentId.Text.Search

/-!
# Store lines

A ledger is stored as text with one line for each identifier: the identifier, a tab and its data
as a document on one line. `readStore` reads a whole store: blanks around a line do not count, empty
lines are passed over, a line without a tab has empty data, and data that cannot be read have a
flaw.
-/

namespace PersistentId.Ledger

/-- What a line of a store says: an identifier and its data. -/
abbrev Row := String × Except Json.Flaw Value

/-- What a line of a store says, if anything. -/
def readLine? (line : List Char) : Option Row :=
  match Text.trimChars line with
  | [] => none
  | text =>
    match Text.cut ['\t'] text with
    | some (key, document) => some (String.ofList key, Json.readChars document)
    | none => some (String.ofList text, .ok (.map []))

/-- What the lines of a store say. -/
def readStore (text : String) : List Row :=
  (Text.lines text.toList).filterMap readLine?

/-- The identifiers of a store with their data, empty where they cannot be read. -/
def tableOf (rows : List Row) : Table String Value :=
  Table.ofPairs (rows.map fun (key, data) => (key, data.toOption.getD (.map [])))

/-- The flaw of a row that is more than malformed, if it has one. -/
def Row.depthFlaw? : Row → Option Json.Flaw
  | (_, .error .malformed) | (_, .ok _) => none
  | (_, .error flaw) => some flaw

/-- Whether the data of a row cannot be read. -/
def Row.isUnreadable : Row → Bool
  | (_, .ok _) => false
  | (_, .error _) => true

/-- The identifiers of a store whose data cannot be read, up to a row that is too deep. -/
def unreadable (rows : List Row) : List String :=
  ((rows.takeWhile (·.depthFlaw?.isNone)).filter (·.isUnreadable)).map (·.1)

end PersistentId.Ledger
