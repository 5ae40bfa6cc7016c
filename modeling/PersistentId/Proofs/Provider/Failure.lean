import PersistentId.Proofs.Publication

/-!
# What a failed generation leaves

Protocol and authority of a new identifier are put into the object as soon as the scope is known,
the rest when there is an identifier. Finding one leaves all objects alone (`holds_claimUnder`), so
that a generation that fails leaves the object with protocol and authority of the scope and as it
was besides (`Unfinished`), or all as it was if there was no scope to generate under.
`failed_generation` says so for all calls that generate identifiers.

An object that had an identifier keeps it exactly if that has the protocol and the authority of the
scope (`Unfinished.pid?_iff`).
-/

namespace PersistentId

open PersistentId.Action

variable {p : Provider} {s t : Site} {id : ObjectId} {fault : Fault}
  {objects : Shelf DigitalObject}

/-! ## What leaves objects alone -/

namespace Site

variable {α : Type}

/-- A site has the given objects. -/
def Holds (objects : Shelf DigitalObject) (t : Site) : Prop :=
  t.objects = objects

theorem holds_onHost (act : Action Host α) : Keeps (onHost act) (Holds objects) :=
  Ends.zoom fun t ht host _ => by
    rcases act.outcome host with ⟨fault | a, host⟩ <;> exact ht

theorem holds_note (level : Level) (source message : String) :
    Keeps (note level source message) (Holds objects) :=
  holds_onHost _

theorem holds_onService (sid : ServiceId) (act : Action (LocalService × Host) α) :
    Keeps (onService sid act) (Holds objects) :=
  Ends.zoom fun t ht x _ => by
    rcases act.outcome x with ⟨fault | a, x⟩ <;> exact ht

theorem holds_onRegistry (rid : RegistryId) (act : RegistryService.Use α) :
    Keeps (onRegistry rid act) (Holds objects) :=
  Ends.zoom fun t ht x _ => by
    rcases act.outcome x with ⟨fault | a, x⟩ <;> exact ht

theorem holds_draw (source : SourceId) (bound : Nat) :
    Keeps (draw source bound) (Holds objects) := by
  unfold draw
  refine Ends.get_bind fun t ht => ?_
  split
  · exact Ends.pure fun u hu => hu ▸ ht
  · exact Ends.bind (Q := fun _ => Holds objects) (fun u _ => ht) fun _ => Ends.pure fun _ h => h

end Site

open Site

theorem Minter.holds_mint (minter : Minter) (scope : Value) :
    Keeps (minter.mint scope) (Holds objects) := by
  unfold mint
  split
  · refine Keeps.bind (holds_draw _ _) fun n => Ends.ofExcept_bind (fun _ _ _ h => h) fun _ _ => ?_
    exact Ends.pure fun _ h => h
  · next service =>
    refine Keeps.bind ?_ fun n => Ends.ofExcept (fun _ _ _ h => h) fun _ _ _ h => h
    unfold nextNumber
    split
    · exact holds_onService _ _
    · exact Ends.throw fun _ h => h

namespace Provider

theorem holds_nextCandidate (p : Provider) (scope : Scope) :
    Keeps (p.nextCandidate scope) (Holds objects) := by
  unfold nextCandidate
  refine Ends.ofExcept_bind (fun _ _ _ h => h) fun name _ => ?_
  exact Keeps.bind (p.minter.holds_mint _) fun minted =>
    Ends.ofExcept (fun _ _ _ h => h) fun _ _ _ h => h

theorem holds_isLocallyFree (p : Provider) (pid : Identifier) :
    Keeps (p.isLocallyFree (.pid pid)) (Holds objects) := by
  intro t ht
  rw [outcome_isLocallyFree]
  cases p.localService? <;> exact ht

theorem holds_isRegistered (p : Provider) (pid : Identifier) (otherwise : Value) :
    Keeps (p.isRegistered (.pid pid) otherwise) (Holds objects) := by
  unfold isRegistered
  split
  · refine Keeps.bind ?_ fun known => Ends.pure fun _ h => h
    unfold isRemotelyKnown
    split
    · exact Ends.ofExcept_bind (fun _ _ _ h => h) fun _ _ => holds_onRegistry _ _
    · exact Ends.throw fun _ h => h
  · refine Keeps.bind (holds_isLocallyFree p pid) fun free => ?_
    split <;> exact Ends.pure fun _ h => h

theorem holds_isUnique (p : Provider) (pid : Identifier) :
    Keeps (p.isUnique (.pid pid)) (Holds objects) := by
  unfold isUnique
  refine Keeps.bind (holds_isLocallyFree p pid) fun free => ?_
  split
  · exact Ends.pure fun _ h => h
  · refine Keeps.bind (Ends.attempt (holds_isRegistered p pid _)) fun answer => ?_
    cases answer with
    | ok known => exact Ends.pure fun _ h => h
    | error fault =>
      dsimp only
      split
      · exact Ends.throw_bind fun _ h => h
      · refine Keeps.bind (fun t ht => ht) fun text => ?_
        exact Keeps.bind (holds_note _ _ _) fun _ => Ends.pure fun _ h => h

theorem holds_reserve (p : Provider) (pid : Identifier) :
    Keeps (p.reserve pid) (Holds objects) := by
  unfold reserve
  refine Ends.ofExcept_bind (fun _ _ _ h => h) fun service? _ => ?_
  cases service? with
  | none => exact Ends.pure fun _ h => h
  | some sid =>
    refine Ends.ofExcept_bind (fun _ _ _ h => h) fun name _ => ?_
    refine Keeps.bind (Ends.attempt (holds_onService sid _)) fun result => ?_
    split
    · exact Ends.pure fun _ h => h
    · exact Keeps.bind (holds_note _ _ _) fun _ => Ends.pure fun _ h => h
    · exact Ends.throw fun _ h => h

theorem holds_claim (p : Provider) (pid : Identifier) :
    Keeps (p.claim pid) (Holds objects) := by
  unfold claim
  refine Keeps.bind (holds_isUnique p pid) fun free => ?_
  split
  · exact holds_reserve p pid
  · exact Keeps.bind (holds_note _ _ _) fun _ => Ends.pure fun _ h => h

theorem holds_tryCandidates (p : Provider) (scope : Scope) (attempts : Nat) :
    Keeps (p.tryCandidates scope attempts) (Holds objects) := by
  induction attempts with
  | zero => exact Ends.pure fun _ h => h
  | succ attempts ih =>
    refine Keeps.bind (holds_nextCandidate p scope) fun pid => ?_
    refine Keeps.bind (holds_claim p pid) fun taken => ?_
    split
    · exact Ends.pure fun _ h => h
    · exact ih

/-- **Finding an identifier leaves all objects alone**, however it ends. -/
theorem holds_claimUnder (p : Provider) (scope : Scope) :
    Keeps (p.claimUnder scope) (Holds objects) := by
  unfold claimUnder
  refine Ends.ofExcept_bind (fun _ _ _ h => h) fun name _ => ?_
  refine Ends.ofExcept_bind (fun _ _ _ h => h) fun _ _ => ?_
  refine Ends.ofExcept_bind (fun _ _ _ h => h) fun attempts _ => ?_
  refine Keeps.bind (holds_tryCandidates p scope attempts.toNat) fun found => ?_
  cases found with
  | some pid => exact Ends.pure fun _ h => h
  | none => exact Ends.throw fun _ h => h

/-! ## What is left -/

/-- An object that is to be given an identifier of a scope, and has its protocol and authority. -/
def entered (obj : DigitalObject) (scope : Scope) : DigitalObject :=
  { obj with protocol := scope.protocol, authority := scope.authority }

/-- What is left if no identifier was found under a scope: the object has the protocol and the
authority of the scope, and all else is as before. -/
structure Unfinished (id : ObjectId) (scope : Scope) (s t : Site) : Prop where
  object : t.objects.get id = entered (s.objects.get id) scope
  others : ∀ other, other ≠ id → t.objects.get other = s.objects.get other

variable {scope : Scope}

theorem unfinished_of_eq (h : t.objects = s.objects.put id (entered (s.objects.get id) scope)) :
    Unfinished id scope s t where
  object := by rw [h, Shelf.get_put_self]
  others other hne := by rw [h, Shelf.get_put_of_ne _ _ hne]

/-- The object is unchanged exactly if protocol and authority were those of the scope before. -/
theorem Unfinished.object_eq_iff (h : Unfinished id scope s t) :
    t.objects.get id = s.objects.get id ↔
      scope.protocol = (s.objects.get id).protocol ∧
        scope.authority = (s.objects.get id).authority := by
  rw [h.object]
  constructor
  · intro he
    exact ⟨congrArg DigitalObject.protocol he, congrArg DigitalObject.authority he⟩
  · rintro ⟨hprotocol, hauthority⟩
    rw [entered, hprotocol, hauthority]

/-- An object that is to be given an identifier of a scope keeps the one it has exactly if that has
the protocol and the authority of the scope. -/
theorem Unfinished.pid?_iff (h : Unfinished id scope s t) {pid : Identifier}
    (hpid : (s.objects.get id).pid? = .ok (some pid)) :
    (t.objects.get id).pid? = .ok (some pid) ↔
      scope.protocol = pid.protocol ∧ scope.authority = .str pid.authority := by
  obtain ⟨hprotocol, hauthority, -⟩ := DigitalObject.parts_of_pid? hpid
  constructor
  · intro hkept
    obtain ⟨hprotocol', hauthority', -⟩ := DigitalObject.parts_of_pid? hkept
    rw [h.object] at hprotocol' hauthority'
    exact ⟨hprotocol'.symm, hauthority'.symm⟩
  · rintro ⟨hp, ha⟩
    rw [h.object_eq_iff.2 ⟨hp.trans hprotocol, ha.trans hauthority⟩, hpid]

/-! ## Calls -/

/-- The calls that generate an identifier for an object. -/
inductive GenerationCall where
  /-- According to the kind of the object. -/
  | plain
  | forDataset
  | forFile
  deriving DecidableEq, Repr

namespace GenerationCall

/-- What a call does. -/
def act (p : Provider) (id : ObjectId) : GenerationCall → Site.Use Unit
  | .plain => p.generate (.object id)
  | .forDataset => do
    let _ ← p.generateForDataset (.object id)
  | .forFile => do
    let _ ← p.generateForFile (.object id)

/-- The scope that a call generates an identifier under, or why there is none. -/
def scopeIn (p : Provider) (s : Site) (id : ObjectId) : GenerationCall → Except Fault Scope
  | .plain =>
    if (s.objects.get id).isDataset then .ok p.ownScope else p.fileScope s (s.objects.get id)
  | .forDataset => .ok p.ownScope
  | .forFile => p.fileScope s (s.objects.get id)

end GenerationCall

theorem outcome_enterScope (id : ObjectId) (scope : Scope) (s : Site) :
    (enterScope id scope).outcome s =
      (.ok ⟨⟩, { s with objects := s.objects.put id (entered (s.objects.get id) scope) }) :=
  rfl

/-- An identifier that is generated under a scope is given to the object last. -/
theorem unfinished_of_generateUnder
    (h : (do enterScope id scope; p.generateUnder id scope).outcome s = (.error fault, t)) :
    Unfinished id scope s t := by
  rw [outcome_bind_ok (outcome_enterScope id scope s)] at h
  refine unfinished_of_eq ?_
  have hends : Ends (p.generateUnder id scope)
      (Holds (s.objects.put id (entered (s.objects.get id) scope))) (fun _ _ => True)
      fun _ => Holds (s.objects.put id (entered (s.objects.get id) scope)) := by
    unfold generateUnder
    refine Ends.bind (holds_claimUnder p scope) fun pid => ?_
    exact Ends.bind (Q := fun _ _ => True) (Ends.modify fun _ _ => trivial) fun _ =>
      Ends.pure fun _ _ => trivial
  have hstart : Holds (s.objects.put id (entered (s.objects.get id) scope))
      { s with objects := s.objects.put id (entered (s.objects.get id) scope) } := rfl
  exact hends.error hstart h

/-- A failed generation for a data file. -/
theorem failed_generateForFile
    (h : (p.generateForFile (.object id)).outcome s = (.error fault, t)) :
    (p.fileScope s (s.objects.get id) = .error fault ∧ t.objects = s.objects) ∨
      ∃ scope, p.fileScope s (s.objects.get id) = .ok scope ∧ Unfinished id scope s t := by
  have hobject : (Action.ofExcept (Operand.object id).asObject : Site.Use ObjectId).outcome s =
      (.ok id, s) := rfl
  rw [generateForFile, outcome_bind_ok hobject, outcome_bind_ok (outcome_get s)] at h
  cases hscope : p.fileScope s (s.objects.get id) with
  | error cause =>
    rw [hscope, outcome_bind_error (outcome_ofExcept _ _)] at h
    cases h
    exact .inl ⟨rfl, rfl⟩
  | ok scope =>
    rw [hscope, outcome_bind_ok (outcome_ofExcept _ _)] at h
    exact .inr ⟨scope, rfl, unfinished_of_generateUnder h⟩

theorem exists_of_outcome_discard {α : Type} {act : Site.Use α}
    (h : (do let _ ← act : Site.Use Unit).outcome s = (.error fault, t)) :
    act.outcome s = (.error fault, t) := by
  rcases hact : act.outcome s with ⟨cause | a, u⟩
  · rw [outcome_bind_error hact] at h
    cases h
    rfl
  · rw [outcome_bind_ok hact] at h
    cases h

/-- **A generation that fails leaves the object as it was but for protocol and authority**, which
are those of the scope, and leaves all as it was if there was no scope to generate under. Other
objects are as before. Making an object public that has no local part fails as the generation does,
and leaves the same. -/
theorem failed_generation {call : GenerationCall}
    (h : (call.act p id).outcome s = (.error fault, t)) :
    ((call.scopeIn p s id = .error fault ∧ t.objects = s.objects) ∨
      ∃ scope, call.scopeIn p s id = .ok scope ∧ Unfinished id scope s t ∧
        (t.objects.get id = s.objects.get id ↔
          scope.protocol = (s.objects.get id).protocol ∧
            scope.authority = (s.objects.get id).authority) ∧
        ∀ pid, (s.objects.get id).pid? = .ok (some pid) →
          ((t.objects.get id).pid? = .ok (some pid) ↔
            scope.protocol = pid.protocol ∧ scope.authority = .str pid.authority)) ∧
    (call = .plain → (s.objects.get id).lacksLocalPart = true →
      (p.publicize (.object id)).outcome s = (.error fault, t)) := by
  constructor
  · have hleft : (call.scopeIn p s id = .error fault ∧ t.objects = s.objects) ∨
        ∃ scope, call.scopeIn p s id = .ok scope ∧ Unfinished id scope s t := by
      cases call with
      | plain =>
        have hsubject : (subject (.object id)).outcome s = (.ok (s.objects.get id), s) := rfl
        rw [GenerationCall.act, generate, outcome_bind_ok hsubject] at h
        simp only [GenerationCall.scopeIn]
        split at h
        · next hdataset =>
          rw [if_pos hdataset]
          exact .inr ⟨_, rfl, unfinished_of_generateUnder (exists_of_outcome_discard h)⟩
        · next hfile =>
          rw [if_neg hfile]
          exact failed_generateForFile (exists_of_outcome_discard h)
      | forDataset => exact .inr ⟨_, rfl, unfinished_of_generateUnder (exists_of_outcome_discard h)⟩
      | forFile => exact failed_generateForFile (exists_of_outcome_discard h)
    refine hleft.imp_right fun ⟨scope, hscope, hunfinished⟩ => ?_
    exact ⟨scope, hscope, hunfinished, hunfinished.object_eq_iff,
      fun pid hpid => hunfinished.pid?_iff hpid⟩
  · rintro rfl hlacks
    have hobject : (Site.object id).outcome s = (.ok (s.objects.get id), s) := rfl
    rw [publicize, outcome_bind_ok hobject, hlacks]
    exact outcome_bind_error h

/-! ## A provider that has run out of identifiers -/

/-- A provider that gives up after the second candidate. -/
def giving : Provider :=
  { minting with maxAttempts := .int 2 }

/-- A site whose only candidate is taken, and a dataset with an identifier of another provider. -/
def handover : Site where
  services := Shelf.put {} 0
    { ledger := { uncached := [("doi:10.5072/FK2/000000", .map [])] } }
  objects := Shelf.put {} 0
    { kind := .dataset, protocol := .str "hdl", authority := .str "20.500",
      localPart := .str "ABC" }

theorem handover_fails : (giving.generate (.object 0)).outcome handover =
    (.error (.noneFree "doi:10.5072/FK2/" 2),
      ((giving.generate (.object 0)).outcome handover).2) := by
  have hanswer : ((giving.generate (.object 0)).outcome handover).1 =
      .error (.noneFree "doi:10.5072/FK2/" 2) := by
    decide +kernel
  rw [← hanswer]

/-- The dataset is left with an identifier that nobody has given out. -/
theorem failed_generation_handover :
    ∃ t, (giving.generate (.object 0)).outcome handover =
        (.error (.noneFree "doi:10.5072/FK2/" 2), t) ∧
      Unfinished 0 giving.ownScope handover t ∧
      (t.objects.get 0).pidText? = .ok (some "doi:10.5072/ABC") := by
  refine ⟨_, handover_fails, ?_, by decide +kernel⟩
  have hcall : (GenerationCall.plain.act giving 0).outcome handover =
      (.error (.noneFree "doi:10.5072/FK2/" 2),
        ((giving.generate (.object 0)).outcome handover).2) := handover_fails
  obtain ⟨hleft, -⟩ := failed_generation hcall
  rcases hleft with ⟨hscope, -⟩ | ⟨scope, hscope, hunfinished, -⟩
  · cases hscope
  · cases hscope
    exact hunfinished

/-- A generation that fails may leave an object with another identifier than it had. -/
theorem not_forall_object_of_failed_generation :
    ¬ ∀ (p : Provider) (s t : Site) (id : ObjectId) (fault : Fault),
      (p.generate (.object id)).outcome s = (.error fault, t) →
      (t.objects.get id).protocol = (s.objects.get id).protocol ∧
        (t.objects.get id).authority = (s.objects.get id).authority ∧
        (t.objects.get id).pid? = (s.objects.get id).pid? := by
  intro h
  obtain ⟨-, -, hpid⟩ := h _ _ _ _ _ handover_fails
  revert hpid
  decide +kernel

end Provider

end PersistentId
