import PersistentId.LockedFile
import PersistentId.Proofs.Action

/-!
# The mode of a locked file

A locked file is opened in the mode that it is given, and without one in the mode that it has. That
is the mode it was created in until another one is given: the mode of an opening stays with the file
behind it, also if the file could not be opened. `opens_in_last_mode` says so for a file that has
gone through anything (`Handled`), at a host that may be another one each time.

An opening that fails changes nothing else, and closing never fails.
-/

namespace PersistentId

open PersistentId.Action

/-! ## Streams -/

namespace Stream

/-- An action on a stream never fails. -/
abbrev Safe {α : Type} (act : Use α) : Prop :=
  Ends act (fun _ => True) (fun _ _ => True) fun _ _ => False

theorem safe_get_bind {α : Type} {next : Stream × ByteArray → Use α} (h : ∀ s, Safe (next s)) :
    Safe (get >>= next) :=
  Ends.get_bind fun s _ => (h s).mono fun _ _ => trivial

theorem safe_put (bytes : ByteArray) : Safe (put bytes) :=
  Ends.modify fun _ _ => trivial

theorem safe_emptyBuffer : Safe emptyBuffer :=
  safe_get_bind fun _ => (safe_put _).bind fun _ => Ends.modify fun _ _ => trivial

theorem safe_buffer (bytes : ByteArray) : Safe (buffer bytes) := by
  refine safe_get_bind fun s => ?_
  dsimp only
  split
  · exact fun _ _ => trivial
  · refine safe_emptyBuffer.bind fun _ => ?_
    split
    · exact safe_put _
    · exact Ends.modify fun _ _ => trivial

theorem safe_settle : Safe settle := by
  refine safe_get_bind fun s => ?_
  dsimp only
  split
  · exact Ends.bind (Ends.modify fun _ _ => trivial) fun _ => safe_buffer _
  · exact Ends.pure fun _ _ => trivial

theorem outcome_flush (s : Stream × ByteArray) : ∃ t, flush.outcome s = (.ok ⟨⟩, t) := by
  have h : Safe flush := safe_settle.bind fun _ => safe_emptyBuffer
  rcases hflush : flush.outcome s with ⟨fault | a, t⟩
  · exact (h.error trivial hflush).elim
  · exact ⟨t, rfl⟩

end Stream

namespace LockedFile

variable {file : LockedFile} {host : Host}

/-! ## Locks and connections -/

theorem outcome_update (f : LockedFile → LockedFile) (s : LockedFile × Host) :
    (update f).outcome s = (.ok ⟨⟩, (f s.1, s.2)) := rfl

/-- Taking the lock changes only the host; a lock that is held elsewhere is waited for. -/
theorem acquire_ends (writing : Bool) :
    Ends (acquire writing) (fun s => s.1 = file) (fun _ s => s.1 = file)
      fun fault s => fault = .blocked ∧ s.1 = file := by
  refine Ends.get_bind fun s hs => ?_
  dsimp only
  split
  · exact Ends.throw_bind fun _ ht => ⟨rfl, ht ▸ hs⟩
  · exact fun _ _ => hs

theorem connect_ends (writing : Bool) (access : Access) :
    Ends (connect writing access) (fun s => s.1 = file)
      (fun connection s => connection.stream.access = access ∧ s.1 = file)
      fun _ s => s.1 = file := by
  refine Ends.get_bind fun s hs => ?_
  dsimp only
  refine Ends.ofExcept_bind (fun _ t _ ht => ht ▸ hs) fun found _ => Ends.set_bind ?_
  split
  · exact Ends.throw_bind fun _ ht => ht ▸ hs
  · exact Ends.pure fun _ ht => ⟨rfl, ht ▸ hs⟩

/-- What a file is connected to in a mode is used as that mode has it. -/
theorem connectIn_ends (writing : Bool) (mode : Value) :
    Ends (connectIn writing mode) (fun s => s.1 = file)
      (fun connection s => (∃ text access, mode = .str text ∧ Access.ofMode? text = some access ∧
        connection.stream.access = access) ∧ s.1 = file)
      fun _ s => s.1 = file := by
  cases mode with
  | str text =>
    rw [connectIn]
    split
    · next access haccess =>
      exact (connect_ends writing access).weaken (fun _ h => h)
        (fun _ _ h => ⟨⟨text, access, rfl, haccess, h.1⟩, h.2⟩) fun _ _ h => h
    · exact Ends.throw fun _ h => h
  | _ => exact Ends.throw fun _ h => h

/-! ## Opening -/

/-- A file is open in a mode: it is used and locked as the mode has it. -/
structure OpenIn (file : LockedFile) (mode : Value) : Prop where
  mode_eq : file.mode = mode
  connected : ∃ text access connection, mode = .str text ∧ Access.ofMode? text = some access ∧
    file.connection = some connection ∧ connection.stream.access = access
  locked : ∃ writing, writesIn mode = .ok writing ∧ file.writing = some writing

theorem OpenIn.isOpen {mode : Value} (h : file.OpenIn mode) : file.isOpen = true := by
  obtain ⟨_, _, connection, _, _, hconnection, _⟩ := h.connected
  rw [LockedFile.isOpen, hconnection]
  rfl

theorem outcome_openAs_of_isOpen (h : file.isOpen = true) (mode : Value) (host : Host) :
    (openAs mode).outcome (file, host) = (.error (.alreadyOpen file.name), (file, host)) := by
  rw [openAs, outcome_bind_ok (outcome_get _)]
  simp only [h]
  rfl

/-- What opening a closed file comes to. -/
theorem openAs_ends (hopen : file.isOpen = false) (hwriting : file.writing = none) (mode : Value) :
    Ends (openAs mode) (fun s => s.1 = file)
      (fun _ s => s.1.OpenIn (mode.orElse file.mode))
      fun fault s => fault = .blocked ∨ s.1 = { file with mode := mode.orElse file.mode } := by
  -- the mode is set first, and then the kind of the lock
  have hupdate (f : LockedFile → LockedFile) (before : LockedFile) :
      Ends (update f) (fun s => s.1 = before) (fun _ s => s.1 = f before)
        fun fault s => fault = .blocked ∨ s.1 = { file with mode := mode.orElse file.mode } :=
    fun _ hs => congrArg f hs
  refine Ends.get_bind fun s hs => ?_
  dsimp only
  rw [hs, hopen, if_neg Bool.false_ne_true]
  refine Ends.bind (((hupdate _ file).mono fun t ht => ht ▸ hs)) fun _ => ?_
  refine Ends.ofExcept_bind (fun _ _ _ ht => .inr ht) fun writing hkind => ?_
  refine (hupdate _ _).bind fun _ => ?_
  generalize hlocked : ({ file with
    mode := mode.orElse file.mode, writing := some writing } : LockedFile) = locked
  refine ((acquire_ends writing).weaken (fun _ h => h) (fun _ _ h => h)
    fun _ _ h => .inl h.1).bind fun _ => ?_
  refine Ends.bind (Q := fun result s => (∀ connection, result = .ok connection →
      ∃ text access, mode.orElse file.mode = .str text ∧ Access.ofMode? text = some access ∧
        connection.stream.access = access) ∧ s.1 = locked)
    (Ends.attempt ((connectIn_ends writing _).weaken (fun _ h => h)
      (fun _ _ h => ⟨fun _ hconnection => Except.ok.inj hconnection ▸ h.1, h.2⟩)
      fun _ _ h => ⟨nofun, h⟩)) fun result => ?_
  cases result with
  | error fault =>
    -- the lock has been given back
    rintro t ⟨-, ht⟩
    refine .inr ?_
    show ({ t.1 with writing := none } : LockedFile) = _
    rw [ht, ← hlocked, hwriting]
  | ok connection =>
    rintro t ⟨hconnected, ht⟩
    obtain ⟨text, access, hmode, haccess, hstream⟩ := hconnected connection rfl
    show OpenIn { t.1 with connection := some connection } _
    rw [ht, ← hlocked]
    exact ⟨rfl, ⟨text, access, connection, hmode, haccess, rfl, hstream⟩, writing, hkind, rfl⟩

/-- **Opening a closed file** opens it in the mode that is given, or else in the one it has, or
changes nothing but that mode. -/
theorem outcome_openAs_of_closed (hopen : file.isOpen = false) (hwriting : file.writing = none)
    {mode : Value} (hends : ((openAs mode).outcome (file, host)).1 ≠ .error .blocked) :
    (∃ opened, (openAs mode).outcome (file, host) = (.ok ⟨⟩, opened) ∧
        opened.1.OpenIn (mode.orElse file.mode)) ∨
      ∃ fault after, (openAs mode).outcome (file, host) =
        (.error fault, ({ file with mode := mode.orElse file.mode }, after)) := by
  have h := openAs_ends hopen hwriting mode
  rcases hout : (openAs mode).outcome (file, host) with ⟨fault | _, s⟩
  · rcases h.error rfl hout with rfl | hs
    · exact absurd (by rw [hout]) hends
    · exact .inr ⟨fault, s.2, by rw [← hs]⟩
  · exact .inl ⟨s, rfl, h.ok rfl hout⟩

/-! ## Closing -/

/-- What a use of the stream comes to. -/
theorem outcome_onStream {α : Type} {connection : Connection}
    (h : file.connection = some connection) (use : Stream.Use α) (host : Host) :
    ∃ stream after, (onStream use).outcome (file, host) =
      ((use.outcome (connection.stream, host.files.dataAt connection.place)).1,
        ({ file with connection := some { connection with stream } }, after)) := by
  rw [onStream, outcome_bind_ok (outcome_get _)]
  simp only [h]
  exact ⟨_, _, rfl⟩

theorem outcome_onStream_of_none {α : Type} (h : file.connection = none) (use : Stream.Use α)
    (host : Host) : (onStream use).outcome (file, host) = (.error .missingPart, (file, host)) := by
  rw [onStream, outcome_bind_ok (outcome_get _)]
  simp only [h]
  rfl

/-- **Closing never fails**, and leaves a file closed in the mode that it had. -/
theorem outcome_close (file : LockedFile) (host : Host) :
    ∃ after, close.outcome (file, host) =
      (.ok ⟨⟩, (if file.isOpen then { file with connection := none, writing := none } else file,
        after)) := by
  rw [close, outcome_bind_ok (outcome_get _)]
  cases hconnection : file.connection with
  | none =>
    have hopen : file.isOpen = false := by rw [isOpen, hconnection]; rfl
    simp only [hopen]
    exact ⟨host, rfl⟩
  | some connection =>
    have hopen : file.isOpen = true := by rw [isOpen, hconnection]; rfl
    simp only [hopen, if_true]
    obtain ⟨stream, used, huse⟩ := outcome_onStream hconnection Stream.flush host
    obtain ⟨_, hflush⟩ :=
      Stream.outcome_flush (connection.stream, host.files.dataAt connection.place)
    rw [hflush] at huse
    rw [outcome_bind_ok huse]
    exact ⟨_, rfl⟩

theorem isOpen_close (s : LockedFile × Host) : (close.outcome s).2.1.isOpen = false := by
  obtain ⟨after, hclose⟩ := outcome_close s.1 s.2
  rw [show close.outcome s = _ from hclose]
  dsimp only
  split
  · rfl
  · next hopen => exact Bool.eq_false_iff.2 hopen

/-! ## With a file -/

/-- A block with a file opens it without a mode, and closes it behind what is done. -/
theorem outcome_within {α : Type} (use : Use α) (s : LockedFile × Host) :
    (within use).outcome s = match (openAs .null).outcome s with
      | (.ok _, opened) => ((use.outcome opened).1, (close.outcome (use.outcome opened).2).2)
      | (.error fault, s) => (.error fault, s) := by
  rcases hopened : (openAs .null).outcome s with ⟨fault | _, opened⟩
  · exact outcome_bind_error hopened
  · obtain ⟨after, hclose⟩ := outcome_close (use.outcome opened).2.1 (use.outcome opened).2.2
    rw [within, outcome_bind_ok hopened, outcome_bind_ok (outcome_attempt _ _),
      outcome_bind_ok hclose, outcome_ofExcept]
    dsimp only
    rw [show close.outcome (use.outcome opened).2 = _ from hclose]

/-! ## What a file goes through -/

/-- What may have been done with a file that was created in a mode: it has been opened, closed and
used, at a host that was what it was then. The modes are those that it has been given while it was
closed. An opening that waits for the lock for ever is nothing that has been done.

A block with the file is an opening without a mode, what is done, and a closing
(`outcome_within`). -/
inductive Handled (m : Value) : List Value → LockedFile → Prop
  | create (name : String) : Handled m [] { name, mode := m }
  | openAs {given : List Value} {file : LockedFile} (h : Handled m given file) (mode : Value)
      (host : Host) (hends : ((openAs mode).outcome (file, host)).1 ≠ .error .blocked) :
      Handled m (if file.isOpen then given else given ++ [mode])
        ((openAs mode).outcome (file, host)).2.1
  | close {given : List Value} {file : LockedFile} (h : Handled m given file) (host : Host) :
      Handled m given (close.outcome (file, host)).2.1
  | use {given : List Value} {file : LockedFile} (h : Handled m given file) {α : Type}
      (use : Stream.Use α) (host : Host) : Handled m given ((onStream use).outcome (file, host)).2.1

/-- The mode that was given last, or else the one at the beginning. -/
def lastMode (m : Value) (given : List Value) : Value :=
  (given.filter Value.truthy).getLastD m

theorem lastMode_concat (m : Value) (given : List Value) (mode : Value) :
    lastMode m (given ++ [mode]) = mode.orElse (lastMode m given) := by
  rw [lastMode, Value.orElse, List.filter_append]
  cases h : mode.truthy <;> simp [h, lastMode]

variable {m : Value} {given : List Value}

namespace Handled

/-- A file that is closed holds no lock. -/
theorem writing_eq_none (h : Handled m given file) : file.isOpen = false → file.writing = none := by
  induction h with
  | create name => exact fun _ => rfl
  | @openAs _ file h mode host hends ih =>
    cases hopen : file.isOpen with
    | true =>
      rw [outcome_openAs_of_isOpen hopen]
      exact ih
    | false =>
      rcases outcome_openAs_of_closed hopen (ih hopen) hends with
        ⟨opened, hout, hin⟩ | ⟨fault, after, hout⟩ <;> rw [hout]
      · intro hclosed
        rw [hin.isOpen] at hclosed
        cases hclosed
      · exact fun _ => ih hopen
  | @close _ file h host ih =>
    obtain ⟨after, hclose⟩ := LockedFile.outcome_close file host
    rw [hclose]
    dsimp only
    split
    · exact fun _ => rfl
    · exact ih
  | @use _ file h _ use host ih =>
    cases hconnection : file.connection with
    | none =>
      rw [outcome_onStream_of_none hconnection]
      exact ih
    | some connection =>
      obtain ⟨stream, after, huse⟩ := outcome_onStream hconnection use host
      rw [huse]
      rintro ⟨⟩

theorem outcome_close (h : Handled m given file) (host : Host) :
    ∃ after, LockedFile.close.outcome (file, host) =
      (.ok ⟨⟩, ({ file with connection := none, writing := none }, after)) := by
  obtain ⟨after, hclose⟩ := LockedFile.outcome_close file host
  refine ⟨after, ?_⟩
  rw [hclose]
  split
  · rfl
  · next hopen =>
    have hconnection : file.connection = none := by
      rwa [isOpen, Option.not_isSome_iff_eq_none] at hopen
    rw [← hconnection, ← h.writing_eq_none (Bool.eq_false_iff.2 hopen)]

/-- The mode of a file is the one that it was given last. -/
theorem mode_eq (h : Handled m given file) : file.mode = lastMode m given := by
  induction h with
  | create name => rfl
  | @openAs given file h mode host hends ih =>
    cases hopen : file.isOpen with
    | true =>
      rw [outcome_openAs_of_isOpen hopen]
      exact ih
    | false =>
      rw [if_neg Bool.false_ne_true, lastMode_concat, ← ih]
      rcases outcome_openAs_of_closed hopen (h.writing_eq_none hopen) hends with
        ⟨opened, hout, hin⟩ | ⟨fault, after, hout⟩ <;> rw [hout]
      exact hin.mode_eq
  | @close _ file h host ih =>
    obtain ⟨after, hclose⟩ := h.outcome_close host
    rw [hclose]
    exact ih
  | @use _ file h _ use host ih =>
    cases hconnection : file.connection with
    | none =>
      rw [outcome_onStream_of_none hconnection]
      exact ih
    | some connection =>
      obtain ⟨stream, after, huse⟩ := outcome_onStream hconnection use host
      rw [huse]
      exact ih

end Handled

/-- **A file is opened in the mode that it was given last**, or in the one that it was created in if
it has been given none, by an opening without a mode and so by a block. An opening is refused while
the file is open, and the file stays as it is; if it fails for another reason the file stays as it
is but for the mode that was given. Closing never fails and leaves the file closed, as a block
does. -/
theorem opens_in_last_mode (h : Handled m given file) (host : Host) :
    (∀ mode, file.isOpen = true →
        (openAs mode).outcome (file, host) = (.error (.alreadyOpen file.name), (file, host))) ∧
      (∀ mode opened, (openAs mode).outcome (file, host) = (.ok ⟨⟩, opened) →
        opened.1.OpenIn (mode.orElse (lastMode m given))) ∧
      (∀ mode fault after, file.isOpen = false → fault ≠ .blocked →
        (openAs mode).outcome (file, host) = (.error fault, after) →
          after.1 = { file with mode := mode.orElse (lastMode m given) }) ∧
      (∃ after, close.outcome (file, host) =
        (.ok ⟨⟩, ({ file with connection := none, writing := none }, after))) ∧
      ∀ {α : Type} (use : Use α) (opened : LockedFile × Host),
        (openAs .null).outcome (file, host) = (.ok ⟨⟩, opened) →
          opened.1.OpenIn (lastMode m given) ∧
            ((within use).outcome (file, host)).1 = (use.outcome opened).1 ∧
            ((within use).outcome (file, host)).2.1.isOpen = false := by
  have hopens (mode : Value) (opened : LockedFile × Host)
      (hout : (openAs mode).outcome (file, host) = (.ok ⟨⟩, opened)) :
      opened.1.OpenIn (mode.orElse (lastMode m given)) := by
    cases hopen : file.isOpen with
    | true =>
      rw [outcome_openAs_of_isOpen hopen] at hout
      cases hout
    | false =>
      have hends : ((openAs mode).outcome (file, host)).1 ≠ .error .blocked := by rw [hout]; nofun
      rcases outcome_openAs_of_closed hopen (h.writing_eq_none hopen) hends with
        ⟨_, hopened, hin⟩ | ⟨fault, after, hfails⟩
      · rw [hout] at hopened
        obtain rfl := (Prod.mk.inj hopened).2
        rwa [h.mode_eq] at hin
      · rw [hout] at hfails
        cases hfails
  refine ⟨fun mode hopen => outcome_openAs_of_isOpen hopen mode host, hopens, ?_, ?_, ?_⟩
  · intro mode fault after hopen hfault hout
    have hends : ((openAs mode).outcome (file, host)).1 ≠ .error .blocked := by
      rw [hout]
      exact fun he => hfault (Except.error.inj he)
    rcases outcome_openAs_of_closed hopen (h.writing_eq_none hopen) hends with
      ⟨_, hopened, _⟩ | ⟨_, _, hfails⟩
    · rw [hout] at hopened
      cases hopened
    · rw [hout] at hfails
      rw [(Prod.mk.inj hfails).2, h.mode_eq]
  · exact h.outcome_close host
  · intro α use opened hout
    have hwithin := outcome_within use (file, host)
    rw [hout] at hwithin
    rw [hwithin]
    exact ⟨hopens .null opened hout, rfl, isOpen_close _⟩

/-- A file that was created for reading, and has been opened for appending and closed again. -/
def returned : LockedFile :=
  (close.outcome (((openAs (.str "a")).outcome ({ name := "f" }, {})).2.1, {})).2.1

theorem handled_returned : Handled (.str "r") [.str "a"] returned :=
  ((Handled.create "f").openAs (.str "a") {} (by nofun)).close {}

theorem opens_in_last_mode_returned :
    ((openAs .null).outcome (returned, {})).1 = .ok ⟨⟩ ∧
      ((openAs .null).outcome (returned, {})).2.1.OpenIn (.str "a") := by
  have hopens : ((openAs .null).outcome (returned, {})).1 = .ok ⟨⟩ := rfl
  exact ⟨hopens, (opens_in_last_mode handled_returned {}).2.1 .null _ (outcome_eq_of_fst hopens)⟩

/-- A file that was created for reading may be opened for appending without being given a mode. -/
theorem not_forall_openIn_created :
    ¬ ∀ (m : Value) (given : List Value) (file : LockedFile) (host : Host)
      (opened : LockedFile × Host), Handled m given file →
      (openAs .null).outcome (file, host) = (.ok ⟨⟩, opened) → opened.1.OpenIn m := by
  intro h
  have hopens : ((openAs .null).outcome (returned, {})).1 = .ok ⟨⟩ := rfl
  have hread := (h _ _ _ {} _ handled_returned (outcome_eq_of_fst hopens)).mode_eq
  revert hread
  decide +kernel

end LockedFile

end PersistentId
