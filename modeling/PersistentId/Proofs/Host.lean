import PersistentId.Host
import PersistentId.Proofs.Action
import PersistentId.Proofs.Files

/-!
# Reading and writing on a host

What the actions on files come to where a path opens a place (`FileTree.Opens`): `Host.read` gives
the text there or says why there is none, `Host.write` and `Host.append` leave a host with a new
file (`Host.putFile`). None of them looks at the journal.
-/

namespace PersistentId.Host

/-- The host with the given bytes in the file at a place. -/
def putFile (host : Host) (place : Path) (data : ByteArray) : Host :=
  { host with files := host.files.put place (.file data) }

variable {host : Host} {path : String} {place : Path}

@[simp]
theorem putFile_files (host : Host) (place : Path) (data : ByteArray) :
    (host.putFile place data).files = host.files.put place (.file data) :=
  rfl

theorem putFile_putFile (host : Host) (place : Path) (a b : ByteArray) :
    (host.putFile place a).putFile place b = host.putFile place b := by
  rw [putFile, putFile, putFile, FileTree.put_put_self]

/-- The result of reading the given bytes as a text. -/
def textOf (data : ByteArray) : Except Fault String :=
  match Text.decode? data with
  | some text => .ok text
  | none => .error .undecodable

theorem outcome_read (path : String) (host : Host) :
    (read path).outcome host = ((host.files.contents path).bind textOf, host) := by
  rw [read, Action.outcome_bind_ok (Action.outcome_get _), Action.outcome_bind,
    Action.outcome_ofExcept]
  cases host.files.contents path with
  | error fault => rfl
  | ok data =>
    simp only [Except.bind, textOf]
    cases Text.decode? data <;> rfl

theorem outcome_write (h : host.files.Opens path place) (text : String) :
    (write path text).outcome host = (.ok ⟨⟩, host.putFile place text.toUTF8) := by
  simp only [write, Action.outcome_bind, Action.outcome_get, Action.outcome_ofExcept, h.write]
  rfl

/-- Text is added to whatever file a path leads to, if it leads to one. -/
theorem outcome_append_eq (path text : String) (host : Host) :
    (append path text).outcome host =
      match host.files.reach .findOrMake path with
      | .error fault => (.error fault, host)
      | .ok (place, old) => (.ok ⟨⟩, host.putFile place (old.getD .empty ++ text.toUTF8)) := by
  simp only [append, Action.outcome_bind, Action.outcome_get, Action.outcome_ofExcept,
    FileTree.append]
  cases host.files.reach .findOrMake path <;> rfl

theorem outcome_append (h : host.files.Opens path place) (text : String) :
    (append path text).outcome host =
      (.ok ⟨⟩, host.putFile place (host.files.dataAt place ++ text.toUTF8)) := by
  simp only [append, Action.outcome_bind, Action.outcome_get, Action.outcome_ofExcept, h.append]
  rfl

/-- More text is added to a file that text was added to. -/
theorem outcome_append_putFile (h : host.files.Opens path place) (data : ByteArray)
    (text : String) :
    (append path text).outcome (host.putFile place data) =
      (.ok ⟨⟩, host.putFile place (data ++ text.toUTF8)) := by
  have hopen : (host.putFile place data).files.Opens path place := h.put h.notDirectory data
  rw [outcome_append hopen, putFile_files, FileTree.dataAt_put_self h.ne_nil, putFile_putFile]

end PersistentId.Host
