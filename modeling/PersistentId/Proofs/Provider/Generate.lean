import PersistentId.Proofs.Noid
import PersistentId.Proofs.Provider.Setup
import PersistentId.Proofs.Site
import PersistentId.Provider.Lifecycle

/-!
# Generating identifiers in step

On two sites that are `Beside` each other, where the relation of the local services is a `Bond`, the
generation of an identifier comes to the same (`lockstep_generate`): it fails with the same fault,
or gives the object an identifier that is on record afterwards and was not before (`Issued`).

The lemmas follow the definitions from the minting of a candidate on.
-/

namespace PersistentId

open PersistentId.Action

/-- A provider works with the local service of a number, and so does its minter if it needs one. -/
structure Provider.Uses (p : Provider) (sid : ServiceId) : Prop where
  service : p.service = .service sid
  minter : ∀ template service, p.minter = .sequence template service → service = .service sid
  separator : Text.unbroken p.separator.text = true

/-- A minter is made with the given service, if it needs one. -/
theorem Minter.service_of_forStyle {style config template : Value} {service given : Operand}
    {source : SourceId}
    (h : forStyle style service config source = .ok (.sequence template given)) :
    given = service := by
  unfold forStyle at h
  split at h
  · split at h
    · cases h
    · obtain ⟨_, -, h⟩ := exists_of_bind_eq_ok h
      unfold makeSequence at h
      split at h
      · cases h
      · obtain ⟨mask, -, h⟩ := exists_of_bind_eq_ok h
        split at h
        · cases h
        · cases h
          rfl
  · obtain ⟨_, -, h⟩ := exists_of_bind_eq_ok h
    unfold makeRandom at h
    obtain ⟨mask, -, h⟩ := exists_of_bind_eq_ok h
    split at h <;> cases h

/-- **Providers of all kinds work with the local service that they are set up with.** -/
theorem Provider.uses_of_ofParts {kind : ProviderKind} {parts : Parts} {source : SourceId}
    {endpoint : RegistryId → Value} {p : Provider} {sid : ServiceId}
    (h : ofParts kind parts source endpoint = .ok p) (hs : parts.service = .service sid)
    (hsep : Text.unbroken (parts.separator.orElse (.str "")).text = true) : p.Uses sid := by
  obtain ⟨-, hservice, -, -, -, -, hperma, -, config, hminter⟩ := exists_of_ofParts h
  refine ⟨hservice.trans hs, fun template service hm => ?_, ?_⟩
  · rw [hm] at hminter
    exact (Minter.service_of_forStyle hminter).trans hs
  · rw [separator]
    split
    · rwa [hperma]
    · decide

/-- What is put on record under a key that was not. -/
def Issued (L : Relation) (T : Table String Value) (sid : ServiceId) (key : String) (s t : Site) :
    Prop :=
  key ∉ Table.keys T ∧ ∃ data, Beside (L (T ++ [(key, data)])) sid s t

variable {L : Relation} {E E' : Fault → Prop} {T : Table String Value} {sid : ServiceId}
  {p : Provider}

/-! ## Minting -/

theorem Minter.lockstep_nextNumber (b : Bond L E) (scope : String) :
    Lockstep E (Minter.nextNumber (.service sid) (.str scope)) (Beside (L T) sid)
      (fun _ => Beside (L T) sid) (Beside (L T) sid) := by
  have hscope : (Value.str scope).orElse (.str "") = .str scope := by
    by_cases h : scope = "" <;> simp [Value.orElse, Value.truthy, h]
  simp only [Minter.nextNumber, hscope]
  exact Site.lockstep_onLedger (b.nextNumber T scope)

/-- What a minter makes is not empty. -/
theorem Minter.lockstep_mint (b : Bond L E) (hp : p.Uses sid) (scope : String) :
    Lockstep E (p.minter.mint (.str scope)) (Beside (L T) sid)
      (fun minted s t => minted ≠ "" ∧ Beside (L T) sid s t) (Beside (L T) sid) := by
  unfold Minter.mint
  cases hm : p.minter with
  | random template capacity upper source =>
    refine Lockstep.bind (Site.lockstep_draw source capacity) fun n => ?_
    refine Lockstep.ofExcept_bind fun minted hminted => ?_
    have hne := Noid.render_ne_empty hminted
    refine Lockstep.pure fun s t h => ⟨?_, h⟩
    split
    · exact Text.upper_ne_empty hne
    · exact hne
  | sequence template service =>
    rw [hp.minter template service hm]
    refine Lockstep.bind (lockstep_nextNumber b scope) fun n => ?_
    exact Lockstep.ofExcept (fun _ _ h => h) fun minted hminted s t h =>
      ⟨Noid.render_ne_empty hminted, h⟩

namespace Provider

/-! ## Candidates -/

theorem localService?_of_service (hs : p.service = .service sid) :
    p.localService? = .ok (some sid) := by
  rw [localService?, hs]

theorem lockstep_note (b : Bond L E') (p : Provider) (level : Level) (message : String) :
    Lockstep E (p.note level message) (Beside (L T) sid) (fun _ => Beside (L T) sid)
      (Beside (L T) sid) :=
  Site.lockstep_note b level p.source message

theorem lockstep_isLocallyFree (b : Bond L E') (hp : p.Uses sid) (pid : Identifier) :
    Lockstep E (p.isLocallyFree (.pid pid)) (Beside (L T) sid) (fun _ => Beside (L T) sid)
      (Beside (L T) sid) := by
  intro s t hst
  have hfree : (t.services.get sid).isFree pid.toString =
      (s.services.get sid).isFree pid.toString := by
    rw [LocalService.isFree, LocalService.isFree, hst.rivals, b.registered hst.linked]
  refine .inl ⟨(s.services.get sid).isFree pid.toString, s, t, ?_, ?_, hst⟩
  · simp [isLocallyFree, localService?_of_service hp.service, outcome_bind, Site.textOf,
      Site.textIn, Except.map]
  · simp [isLocallyFree, localService?_of_service hp.service, outcome_bind, Site.textOf,
      Site.textIn, Except.map, hfree]

theorem lockstep_isRegistered (b : Bond L E') (hp : p.Uses sid) (pid : Identifier)
    (otherwise : Value) :
    Lockstep E (p.isRegistered (.pid pid) otherwise) (Beside (L T) sid) (fun _ => Beside (L T) sid)
      (Beside (L T) sid) := by
  unfold isRegistered
  split
  · refine Lockstep.bind ?_ fun known => Lockstep.pure fun _ _ h => h
    unfold isRemotelyKnown
    split
    · exact Lockstep.ofExcept_bind fun pid _ => Site.lockstep_onRegistry _ _
    · exact Lockstep.throw fun _ _ h => h
  · refine Lockstep.bind (lockstep_isLocallyFree b hp pid) fun free => ?_
    split <;> exact Lockstep.pure fun _ _ h => h

theorem lockstep_isUnique (b : Bond L E') (hp : p.Uses sid) (pid : Identifier) :
    Lockstep E (p.isUnique (.pid pid)) (Beside (L T) sid) (fun _ => Beside (L T) sid)
      (Beside (L T) sid) := by
  unfold isUnique
  refine Lockstep.bind (lockstep_isLocallyFree b hp pid) fun free => ?_
  split
  · exact Lockstep.pure fun _ _ h => h
  · refine Lockstep.bind (Lockstep.attempt (lockstep_isRegistered b hp pid _)) fun result => ?_
    cases result with
    | ok known => exact Lockstep.pure fun _ _ h => h
    | error fault =>
      dsimp only
      split
      · exact Lockstep.throw fun _ _ h => h
      · refine Lockstep.bind (Site.lockstep_textOf_pid pid) fun text => ?_
        exact Lockstep.bind (lockstep_note b p _ _) fun _ => Lockstep.pure fun _ _ h => h

/-! ## Reserving -/

theorem lockstep_reserve (b : Bond L E') (hp : p.Uses sid) {pid : Identifier} (hpid : pid.Sound) :
    Lockstep E (p.reserve pid) (Beside (L T) sid)
      (fun taken => if taken then Issued L T sid pid.toString else Beside (L T) sid)
      (Beside (L T) sid) := by
  unfold reserve
  rw [localService?_of_service hp.service]
  refine Lockstep.ofExcept_bind fun service hservice => ?_
  obtain rfl := Except.ok.inj hservice
  refine Lockstep.ofExcept_bind fun name _ => ?_
  have hdata : Ledger.isData (.map [("provider", .str name)]) = true := rfl
  refine Lockstep.bind (Lockstep.attempt (Site.lockstep_onService
    (LocalService.lockstep_reserve (b.reserve T hpid.isKey hdata)))) fun result => ?_
  split
  · exact Lockstep.pure fun s t h => ⟨h.and.1, _, h.and.2⟩
  · exact Lockstep.bind (lockstep_note b p _ _) fun _ => Lockstep.pure fun _ _ h => h
  · exact Lockstep.throw fun _ _ h => h

theorem lockstep_claim (b : Bond L E') (hp : p.Uses sid) {pid : Identifier} (hpid : pid.Sound) :
    Lockstep E (p.claim pid) (Beside (L T) sid)
      (fun taken => if taken then Issued L T sid pid.toString else Beside (L T) sid)
      (Beside (L T) sid) := by
  unfold claim
  refine Lockstep.bind (lockstep_isUnique b hp pid) fun free => ?_
  split
  · exact lockstep_reserve b hp hpid
  · exact Lockstep.bind (lockstep_note b p _ _) fun _ => Lockstep.pure fun _ _ h => h

/-- What a candidate is if it can be made. -/
theorem sound_of_candidate (hp : p.Uses sid) {scope : Scope}
    (hscope : Text.unbroken scope.protocol.text = true) {minted : String} (hm : minted ≠ "")
    {pid : Identifier} (h : p.candidate scope minted = .ok pid) :
    pid.Sound ∧ pid.protocol = scope.protocol := by
  obtain ⟨start, -, h⟩ := exists_of_bind_eq_ok h
  obtain ⟨name, -, h⟩ := exists_of_bind_eq_ok h
  refine Identifier.sound_of_make h ?_ hscope hp.separator
  simp [hm]

theorem lockstep_nextCandidate (b : Bond L E) (hp : p.Uses sid) {scope : Scope}
    (hscope : Text.unbroken scope.protocol.text = true) :
    Lockstep E (p.nextCandidate scope) (Beside (L T) sid)
      (fun pid s t => (pid.Sound ∧ pid.protocol = scope.protocol) ∧ Beside (L T) sid s t)
      (Beside (L T) sid) := by
  unfold nextCandidate
  refine Lockstep.ofExcept_bind fun name _ => ?_
  refine Lockstep.bind (Minter.lockstep_mint b hp name) fun minted => ?_
  exact Lockstep.ofExcept (fun _ _ h => h.2) fun pid hpid s t h =>
    ⟨sound_of_candidate hp hscope h.1 hpid, h.2⟩

/-- What trying candidates comes to: none, or one that is on record from now on. -/
def Found (L : Relation) (T : Table String Value) (sid : ServiceId) (protocol : Value) :
    Option Identifier → Site → Site → Prop
  | none, s, t => Beside (L T) sid s t
  | some pid, s, t => (pid.Sound ∧ pid.protocol = protocol) ∧ Issued L T sid pid.toString s t

theorem lockstep_tryCandidates (b : Bond L E) (hp : p.Uses sid) {scope : Scope}
    (hscope : Text.unbroken scope.protocol.text = true) (attempts : Nat) :
    Lockstep E (p.tryCandidates scope attempts) (Beside (L T) sid)
      (Found L T sid scope.protocol) (Beside (L T) sid) := by
  induction attempts with
  | zero => exact Lockstep.pure fun _ _ h => h
  | succ attempts ih =>
    refine Lockstep.bind (lockstep_nextCandidate b hp hscope) fun pid => ?_
    refine Lockstep.assume fun hpid => ?_
    refine Lockstep.bind (lockstep_claim b hp hpid.1) fun taken => ?_
    cases taken with
    | true => exact Lockstep.pure fun _ _ h => ⟨hpid, h⟩
    | false => exact ih

theorem lockstep_claimUnder (b : Bond L E) (hp : p.Uses sid) {scope : Scope}
    (hscope : Text.unbroken scope.protocol.text = true) :
    Lockstep E (p.claimUnder scope) (Beside (L T) sid)
      (fun pid => Found L T sid scope.protocol (some pid)) (Beside (L T) sid) := by
  unfold claimUnder
  refine Lockstep.ofExcept_bind fun name _ => ?_
  refine Lockstep.ofExcept_bind fun _ _ => ?_
  refine Lockstep.ofExcept_bind fun attempts _ => ?_
  refine Lockstep.bind (lockstep_tryCandidates b hp hscope attempts.toNat) fun found => ?_
  cases found with
  | some pid => exact Lockstep.pure fun _ _ h => h
  | none => exact Lockstep.throw fun _ _ h => h

/-! ## Objects -/

/-- An object has been given an identifier that is on record and was not before. -/
def Given (L : Relation) (T : Table String Value) (sid : ServiceId) (id : ObjectId) (s t : Site) :
    Prop :=
  ∃ key, (s.objects.get id).pidText? = .ok (some key) ∧ Issued L T sid key s t

theorem tidy_setPid {pid : Identifier} (h : Text.unbroken pid.protocol.text = true)
    (obj : DigitalObject) (ho : obj.Tidy) : (obj.setPid (some pid)).Tidy :=
  ⟨h, ho.owner⟩

theorem lockstep_generateUnder (b : Bond L E) (hp : p.Uses sid) (id : ObjectId) {scope : Scope}
    (hscope : Text.unbroken scope.protocol.text = true) :
    Lockstep E (p.generateUnder id scope) (Beside (L T) sid) (fun _ => Given L T sid id)
      (Beside (L T) sid) := by
  unfold generateUnder
  refine Lockstep.bind (lockstep_claimUnder b hp hscope) fun pid => ?_
  refine Lockstep.assume fun hpid => ?_
  refine Lockstep.bind (Lockstep.modify (S := fun _ => Given L T sid id) ?_) fun _ =>
    Lockstep.pure fun _ _ h => h
  rintro s t ⟨hnew, data, h⟩
  refine ⟨pid.toString, ?_, hnew, data, h.change id (tidy_setPid (hpid.2 ▸ hscope))⟩
  simp only [Shelf.get_put_self, DigitalObject.pidText?, DigitalObject.pid?_setPid_some _ hpid.1]
  rfl

theorem unbroken_protocol (p : Provider) : Text.unbroken (Value.str p.protocol).text = true := by
  have hkind : ∀ kind : ProviderKind, Text.unbroken kind.protocol = true := by
    rintro ⟨⟩ <;> decide
  exact hkind p.kind

theorem lockstep_enterScope (id : ObjectId) {scope : Scope}
    (hscope : Text.unbroken scope.protocol.text = true) :
    Lockstep E (enterScope id scope) (Beside (L T) sid) (fun _ => Beside (L T) sid)
      (Beside (L T) sid) :=
  Site.lockstep_change id fun _ ho => ⟨hscope, ho.owner⟩

theorem lockstep_generateForDataset (b : Bond L E) (hp : p.Uses sid) (id : ObjectId) :
    Lockstep E (p.generateForDataset (.object id)) (Beside (L T) sid) (fun _ => Given L T sid id)
      (Beside (L T) sid) :=
  Lockstep.bind (lockstep_enterScope id p.unbroken_protocol) fun _ =>
    lockstep_generateUnder b hp id p.unbroken_protocol

theorem scopeUnder?_eq_ok {protocol authority localPart : Value} {scope : Scope}
    (h : scopeUnder? protocol authority localPart = .ok (some scope)) :
    scope.protocol = protocol := by
  unfold scopeUnder? at h
  split at h
  · cases h
  · obtain ⟨_, -, h⟩ := exists_of_bind_eq_ok h
    cases h
    rfl

/-- The protocol of a scope for a data file has no blank in it. -/
theorem unbroken_fileScope {site : Site} (ht : ∀ id, (site.objects.get id).Tidy)
    {file : DigitalObject} (hf : file.Tidy) {scope : Scope}
    (h : p.fileScope site file = .ok scope) : Text.unbroken scope.protocol.text = true := by
  unfold fileScope at h
  split at h
  · cases h
  · next owner howner =>
    split at h
    · cases h
      exact p.unbroken_protocol
    · obtain ⟨found, hfound, h⟩ := exists_of_bind_eq_ok h
      cases h
      cases found with
      | none => exact p.unbroken_protocol
      | some scope =>
        unfold ownerScope? at hfound
        split at hfound
        · cases hfound
        · next id =>
          rw [Option.getD_some, scopeUnder?_eq_ok hfound]
          exact (ht id).protocol
        · next pid =>
          rw [Option.getD_some, scopeUnder?_eq_ok hfound]
          exact hf.owner pid howner
        · cases hfound

theorem fileScope_congr {s t : Site} (h : s.objects = t.objects) (file : DigitalObject) :
    p.fileScope s file = p.fileScope t file := by
  have howner (owner : Operand) : ownerScope? s owner = ownerScope? t owner := by
    unfold ownerScope?
    rw [h]
  simp only [fileScope, howner]

theorem lockstep_generateForFile (b : Bond L E) (hp : p.Uses sid) (id : ObjectId) :
    Lockstep E (p.generateForFile (.object id)) (Beside (L T) sid) (fun _ => Given L T sid id)
      (Beside (L T) sid) := by
  unfold generateForFile
  refine Lockstep.ofExcept_bind fun found hfound => ?_
  obtain rfl := Except.ok.inj hfound
  refine Lockstep.get_bind fun s t hst => ⟨_, rfl, ?_, ?_⟩
  · rw [fileScope_congr hst.objects, hst.objects]
  · refine Lockstep.ofExcept_bind fun scope hscope => ?_
    have hunbroken := unbroken_fileScope hst.tidy (hst.tidy id) hscope
    exact Lockstep.bind (lockstep_enterScope id hunbroken) fun _ =>
      lockstep_generateUnder b hp id hunbroken

theorem lockstep_subject (operand : Operand) :
    Lockstep E (subject operand) (Beside (L T) sid)
      (fun _ s t => (∃ id, operand = .object id) ∧ Beside (L T) sid s t) (Beside (L T) sid) := by
  unfold subject
  refine Lockstep.ofExcept_bind fun id heq => ?_
  have hid : ∃ id, operand = .object id := by
    cases operand with
    | object other => exact ⟨other, rfl⟩
    | _ => cases heq
  intro s t hst
  exact .inl ⟨s.objects.get id, s, t, rfl, by rw [hst.objects]; rfl, hid, hst⟩

/-- **Generating an identifier goes on in step.** What it gives to an object is on record afterwards
and was not before. -/
theorem lockstep_generate (b : Bond L E) (hp : p.Uses sid) (operand : Operand) :
    Lockstep E (p.generate operand) (Beside (L T) sid)
      (fun _ s t => ∃ id, operand = .object id ∧ Given L T sid id s t) (Beside (L T) sid) := by
  unfold generate
  refine Lockstep.bind (lockstep_subject operand) fun obj => Lockstep.assume ?_
  rintro ⟨id, rfl⟩
  split
  · exact Lockstep.bind (lockstep_generateForDataset b hp id) fun _ =>
      Lockstep.pure fun _ _ h => ⟨id, rfl, h⟩
  · exact Lockstep.bind (lockstep_generateForFile b hp id) fun _ =>
      Lockstep.pure fun _ _ h => ⟨id, rfl, h⟩

end Provider

end PersistentId
