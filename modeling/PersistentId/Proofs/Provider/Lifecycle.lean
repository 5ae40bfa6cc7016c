import PersistentId.Proofs.Copy
import PersistentId.Proofs.Provider.Frame
import PersistentId.Provider.Lifecycle

/-!
# What providers do with registry services

Each operation of a provider with a registry service comes down to at most one call of the service,
for the identifier that the object has: `create_cases`, `modifyTarget_cases`, `delete_cases`,
`publicizeRemotely_cases`, `heldMetadata_cases` and `isObjectRegistered_cases` say which one. The
metadata that are sent have a state and the address of the object's landing page
(`exists_of_registrationMetadata`), and so has the copy of them that the service gets, if they can
be copied.
-/

namespace PersistentId

open PersistentId.Action

/-! ## Metadata -/

namespace Provider

variable {p : Provider} {s t : Site} {obj : DigitalObject} {id : ObjectId}
  {metadata copy : Metadata} {status : String}

/-- The metadata that an identifier is registered with have the given state and the address of the
object's landing page. -/
theorem exists_of_registrationMetadata (h : p.registrationMetadata s obj status = .ok metadata) :
    ∃ url, p.targetUrl obj = .ok url ∧ Table.Distinct metadata ∧
      Table.find? metadata RegistryService.statusKey = some (.ofText status) ∧
      Table.find? metadata RegistryService.targetKey = some (.ofText url) := by
  obtain ⟨basic, hbasic, h⟩ := exists_of_bind_eq_ok h
  obtain ⟨url, hurl, h⟩ := exists_of_bind_eq_ok h
  obtain ⟨described, -, hbasic⟩ := exists_of_bind_eq_ok hbasic
  obtain ⟨creators, -, hbasic⟩ := exists_of_bind_eq_ok hbasic
  obtain ⟨year, -, hbasic⟩ := exists_of_bind_eq_ok hbasic
  cases hbasic
  cases h
  refine ⟨url, hurl, ?_, ?_, ?_⟩
  · simp [Table.Distinct, RegistryService.statusKey, RegistryService.targetKey]
  · simp [Table.find?, RegistryService.statusKey]
  · simp [Table.find?, RegistryService.statusKey, RegistryService.targetKey]

/-- The metadata of an object that was never put up consist of values. -/
theorem values_of_registrationMetadata (hid : s.objects.size ≤ id)
    (h : p.registrationMetadata s (s.objects.get id) status = .ok metadata) :
    ∀ entry ∈ metadata, ∃ v, entry.2 = .value v := by
  rw [Shelf.get_of_size_le _ hid] at h
  obtain ⟨basic, hbasic, h⟩ := exists_of_bind_eq_ok h
  obtain ⟨url, -, h⟩ := exists_of_bind_eq_ok h
  obtain ⟨described, hdescribed, hbasic⟩ := exists_of_bind_eq_ok hbasic
  obtain ⟨creators, hcreators, hbasic⟩ := exists_of_bind_eq_ok hbasic
  obtain ⟨year, -, hbasic⟩ := exists_of_bind_eq_ok hbasic
  cases hdescribed
  cases hcreators
  cases hbasic
  cases h
  simp only [List.cons_append, List.nil_append, List.forall_mem_cons, List.not_mem_nil]
  exact ⟨⟨_, rfl⟩, ⟨_, rfl⟩, ⟨_, rfl⟩, ⟨_, rfl⟩, ⟨_, rfl⟩, ⟨_, rfl⟩, ⟨_, rfl⟩, fun _ hp => hp.elim⟩

/-- An object stays as it is when metadata are copied that have been made for it. -/
theorem get_of_copied {given : Metadata}
    (h : p.registrationMetadata s (s.objects.get id) status = .ok metadata)
    (hgiven : ∀ entry ∈ given, entry ∈ metadata ∨ ∃ v, entry.2 = .value v)
    (hcopied : s.copied given = .ok (copy, t)) : t.objects.get id = s.objects.get id := by
  refine (Site.copies_of_copied hcopied).objects id ?_
  by_cases hid : id < s.objects.size
  · exact .inl hid
  · refine .inr fun entry hentry => (hgiven entry hentry).elim (fun hmem => ?_) fun hv => hv
    exact values_of_registrationMetadata (Nat.le_of_not_lt hid) h entry hmem

end Provider

/-- The copy that a registry service gets of metadata when an identifier is made public. -/
def Site.publicCopy (s : Site) (metadata : Metadata) : Except Fault Metadata :=
  (s.copied (Table.put metadata RegistryService.statusKey (.ofText "public"))).map (·.1)

/-! ## Yielding and dealing -/

/-- An action comes to a result and changes the host at most, whatever that is. -/
def Site.Yields {α : Type} (act : Site.Use α) (s : Site) (result : Except Fault α) : Prop :=
  ∀ host, ∃ host', act.outcome (s.withHost host) = (result, s.withHost host')

/-- An action comes to a result, leaves a registry service as given and an object as it was,
whatever the host is. -/
def Site.Deals {α : Type} (act : Site.Use α) (s : Site) (rid : RegistryId) (id : ObjectId)
    (x : Except Fault α × RegistryService) : Prop :=
  ∀ host, ∃ t, act.outcome (s.withHost host) = (x.1, t) ∧ t.registries.get rid = x.2 ∧
    t.objects.get id = s.objects.get id

namespace Site

variable {α β : Type} {act : Site.Use α} {next : α → Site.Use β} {a : α} {fault : Fault}
  {s : Site} {rid : RegistryId} {id : ObjectId}

theorem deals_onRegistry (s : Site) (rid : RegistryId) (id : ObjectId)
    (call : RegistryService.Use α) :
    Deals (onRegistry rid call) s rid id (call.outcome (s.registries.get rid)) :=
  fun _ => ⟨_, rfl, Shelf.get_put_self _ _ _, rfl⟩

/-- What an action yields is gone on with. -/
theorem Yields.outcome_bind (h : Yields act s (.ok a)) (host : Host) :
    ∃ host', (act >>= next).outcome (s.withHost host) = (next a).outcome (s.withHost host') := by
  obtain ⟨host', hact⟩ := h host
  exact ⟨host', outcome_bind_ok hact⟩

theorem Yields.bind {result : Except Fault β} (h : Yields act s (.ok a))
    (hnext : Yields (next a) s result) : Yields (act >>= next) s result := by
  intro host
  obtain ⟨host', hbind⟩ := h.outcome_bind host
  rw [hbind]
  exact hnext host'

theorem Yields.error_bind (h : Yields act s (.error fault)) :
    Yields (act >>= next) s (.error fault) := by
  intro host
  obtain ⟨host', hact⟩ := h host
  exact ⟨host', outcome_bind_error hact⟩

theorem Deals.after {x : Except Fault β × RegistryService} (h : Yields act s (.ok a))
    (hnext : Deals (next a) s rid id x) : Deals (act >>= next) s rid id x := by
  intro host
  obtain ⟨host', hbind⟩ := h.outcome_bind host
  rw [hbind]
  exact hnext host'

/-- What is done with a result changes the host at most. -/
theorem Deals.bind {x : Except Fault α × RegistryService} {f : α → Except Fault β}
    (h : Deals act s rid id x) (hnext : ∀ a t, Yields (next a) t (f a)) :
    Deals (act >>= next) s rid id (x.1.bind f, x.2) := by
  intro host
  obtain ⟨t, ht, hservice, hobject⟩ := h host
  rw [outcome_bind, ht]
  rcases x.1 with fault | a
  · exact ⟨t, rfl, hservice, hobject⟩
  · obtain ⟨host', hout⟩ := hnext a t t.host
    exact ⟨_, hout, hservice, hobject⟩

theorem Deals.attempt {x : Except Fault α × RegistryService} (h : Deals act s rid id x) :
    Deals act.attempt s rid id (.ok x.1, x.2) := by
  intro host
  obtain ⟨t, ht, hservice, hobject⟩ := h host
  exact ⟨t, by rw [outcome_attempt, ht], hservice, hobject⟩

theorem yields_ofExcept {given result : Except Fault α} (h : given = result) :
    Yields (Action.ofExcept given) s result :=
  fun host => ⟨host, h ▸ rfl⟩

end Site

namespace Provider

open Site

variable {α : Type} {p : Provider} {s : Site} {rid : RegistryId} {id : ObjectId}
  {text : Option String} {metadata : Metadata}

theorem yields_note (p : Provider) (level : Level) (message : String) (s : Site) :
    Yields (p.note level message) s (.ok ()) :=
  fun _ => ⟨_, rfl⟩

theorem yields_subject (id : ObjectId) (s : Site) :
    Yields (subject (.object id)) s (.ok (s.objects.get id)) :=
  fun host => ⟨host, rfl⟩

theorem yields_pidOf {result : Except Fault (Option String)}
    (h : (s.objects.get id).pidText? = result) : Yields (pidOf (.object id)) s result :=
  fun host => ⟨host, h ▸ rfl⟩

theorem yields_metadataForCreation {result : Except Fault Metadata}
    (h : p.registrationMetadata s (s.objects.get id) "reserved" = result) :
    Yields (p.metadataForCreation (.object id)) s result := by
  subst h
  intro host
  have htext : (Site.textOf (.object id)).attempt.outcome (s.withHost host) =
      (.ok (s.textIn (.object id)), s.withHost host) := rfl
  rw [metadataForCreation, outcome_bind_ok htext]
  cases s.textIn (.object id) with
  | error fault => exact ⟨host, rfl⟩
  | ok text => exact ⟨_, rfl⟩

/-- Whether a copy is made or not, the services and an object stay as they are. -/
theorem exists_of_copyMetadata
    (hobject : ∀ copy t, s.copied metadata = .ok (copy, t) →
      t.objects.get id = s.objects.get id) (host : Host) :
    ∃ t, (Site.copyMetadata metadata).attempt.outcome (s.withHost host) =
        (.ok ((s.copied metadata).map (·.1)), t) ∧
      t.registries = s.registries ∧ t.objects.get id = s.objects.get id := by
  rw [outcome_attempt, outcome_copyMetadata, copied_withHost]
  cases hcopied : s.copied metadata with
  | error fault => exact ⟨_, rfl, rfl, rfl⟩
  | ok x =>
    obtain ⟨copy, t⟩ := x
    exact ⟨_, rfl, (copies_of_copied hcopied).registries, hobject copy t hcopied⟩

theorem ask_eq (hc : p.client = .registry rid) (call : RegistryService.Use α) :
    p.ask call = Site.onRegistry rid call := by
  rw [ask, hc]

/-! ## Operations -/

section

variable (hk : p.kind.usesRegistry = true) (hc : p.client = .registry rid)

include hk hc

/-- An object's identifier is removed by one call, unless the object has none that can be read. -/
theorem delete_cases (s : Site) (id : ObjectId) :
    (∃ fault, Yields (p.delete (.object id)) s (.error fault)) ∨
      ∃ text, (s.objects.get id).pidText? = .ok text ∧
        Deals (p.delete (.object id)) s rid id
          ((RegistryService.delete (.ofText? text)).outcome (s.registries.get rid)) := by
  rw [delete, if_pos hk]
  rcases hpid : (s.objects.get id).pidText? with fault | text
  · exact .inl ⟨fault, (yields_pidOf hpid).error_bind⟩
  · refine .inr ⟨text, rfl, Deals.after (yields_pidOf hpid) (Deals.after (yields_note _ _ _ _) ?_)⟩
    rw [ask_eq hc]
    exact deals_onRegistry _ _ _ _

/-- The address of an object's identifier is changed by one call, unless it cannot be told. -/
theorem modifyTarget_cases (s : Site) (id : ObjectId) :
    (∃ fault, Yields (p.modifyTarget (.object id)) s (.error fault)) ∨
      ∃ text url, (s.objects.get id).pidText? = .ok text ∧
        p.targetUrl (s.objects.get id) = .ok url ∧
        Deals (p.modifyTarget (.object id)) s rid id
          (let x := (RegistryService.update (.ofText? text)
            (.ok [(RegistryService.targetKey, .ofText url)])).outcome (s.registries.get rid)
          (x.1.bind fun _ => .ok url, x.2)) := by
  have hmetadata : p.targetMetadata (s.objects.get id) =
      (p.targetUrl (s.objects.get id)).bind fun url =>
        .ok [(RegistryService.targetKey, .ofText url)] := rfl
  rw [modifyTarget]
  rcases hpid : (s.objects.get id).pidText? with fault | text
  · refine .inl ⟨fault, (yields_subject id s).bind ?_⟩
    rw [if_pos hk]
    exact (yields_pidOf hpid).error_bind
  rcases hurl : p.targetUrl (s.objects.get id) with fault | url <;> rw [hurl] at hmetadata
  · refine .inl ⟨fault, (yields_subject id s).bind ?_⟩
    rw [if_pos hk]
    refine (yields_pidOf hpid).bind ((yields_note _ _ _ _).bind ?_)
    exact (yields_ofExcept hmetadata).error_bind
  · refine .inr ⟨text, url, rfl, rfl, Deals.after (yields_subject id s) ?_⟩
    rw [if_pos hk]
    refine Deals.after (yields_pidOf hpid) (Deals.after (yields_note _ _ _ _) ?_)
    refine Deals.after (yields_ofExcept hmetadata) ?_
    refine Deals.bind (x := (RegistryService.update (.ofText? text)
      (.ok [(RegistryService.targetKey, .ofText url)])).outcome (s.registries.get rid)) ?_
      fun _ t => yields_ofExcept hurl
    simp only [updateWith, hc, ask_eq hc]
    exact deals_onRegistry _ _ _ _

omit hk hc in
/-- What is made of the answer to a reservation. -/
def checkReply (text : Option String) (reply : Value) : Except Fault Value :=
  (replyNames reply text).bind fun named =>
    if named then .ok reply else .error (.unexpectedReply text reply.text)

/-- An object's identifier is registered by one call, unless its metadata cannot be told. -/
theorem create_cases (s : Site) (id : ObjectId) :
    (∃ fault, Yields (p.create (.object id)) s (.error fault)) ∨
      ∃ text metadata, (s.objects.get id).pidText? = .ok text ∧
        p.registrationMetadata s (s.objects.get id) "reserved" = .ok metadata ∧
        Deals (p.create (.object id)) s rid id
          (let x := (RegistryService.reserve (.ofText? text)
            ((s.copied metadata).map (·.1))).outcome (s.registries.get rid)
          (x.1.bind (checkReply text), x.2)) := by
  rw [create]
  rcases hpid : (s.objects.get id).pidText? with fault | text
  · exact .inl ⟨fault, (yields_pidOf hpid).error_bind⟩
  rcases hmetadata : p.registrationMetadata s (s.objects.get id) "reserved" with fault | metadata
  · refine .inl ⟨fault, (yields_pidOf hpid).bind ?_⟩
    rw [if_pos hk]
    refine (yields_note _ _ _ _).bind (Yields.error_bind ?_)
    simp only [reserveWith, hc]
    exact (yields_metadataForCreation hmetadata).error_bind
  · refine .inr ⟨text, metadata, rfl, rfl, Deals.after (yields_pidOf hpid) ?_⟩
    generalize hgiven : (s.copied metadata).map (·.1) = given
    rw [if_pos hk]
    refine Deals.after (yields_note _ _ _ _) ?_
    refine Deals.bind (x := (RegistryService.reserve (.ofText? text) given).outcome
      (s.registries.get rid)) ?_ fun reply t => ?_
    · simp only [reserveWith, hc]
      refine Deals.after (yields_metadataForCreation hmetadata) fun host => ?_
      have hkept : ∀ copy t, s.copied metadata = .ok (copy, t) →
          t.objects.get id = s.objects.get id :=
        fun copy t => get_of_copied hmetadata fun entry hentry => .inl hentry
      obtain ⟨t, hcopy, hservices, hobject⟩ := exists_of_copyMetadata hkept host
      rw [hgiven] at hcopy
      rw [outcome_bind_ok hcopy, ← hservices, ← hobject]
      exact deals_onRegistry t rid id _ t.host
    · rw [checkReply]
      rcases hnames : replyNames reply text with fault | named
      · exact (yields_ofExcept rfl).error_bind
      · refine (yields_ofExcept rfl).bind ?_
        cases named <;> exact fun host => ⟨host, rfl⟩

omit hk hc in
/-- What is made of the answer to the question what is held: an unknown identifier has nothing. -/
def held : Except Fault Metadata → Except Fault Metadata
  | .error (.serviceUnknown _) => .ok []
  | result => result

/-- What is held for an object's identifier is asked for by one call. -/
theorem heldMetadata_cases (s : Site) (id : ObjectId) :
    (∃ fault, Yields (p.heldMetadata (.object id)) s (.error fault)) ∨
      ∃ text, (s.objects.get id).pidText? = .ok text ∧
        Deals (p.heldMetadata (.object id)) s rid id
          (let x := (RegistryService.metadata (.ofText? text)).outcome (s.registries.get rid)
          (held x.1, x.2)) := by
  rw [heldMetadata]
  simp only [hk, Bool.not_true, Bool.false_eq_true, if_false]
  rcases hpid : (s.objects.get id).pidText? with fault | text
  · exact .inl ⟨fault, (yields_pidOf hpid).error_bind⟩
  refine .inr ⟨text, rfl, Deals.after (yields_pidOf hpid) ?_⟩
  rw [ask_eq hc]
  refine Deals.bind (f := held) (x := (.ok _, _))
    (deals_onRegistry s rid id (RegistryService.metadata (.ofText? text))).attempt
    fun result t => ?_
  split
  · exact fun host => ⟨host, rfl⟩
  · exact (yields_note _ _ _ _).bind fun host => ⟨host, rfl⟩
  · next fault hfault =>
    have hheld : held (.error fault) = .error fault := by
      rw [held]
      exact fun pid he => hfault pid (Except.error.inj he)
    exact fun host => ⟨host, by rw [hheld]; rfl⟩

omit hk hc in
theorem isObjectRegistered_object (p : Provider) (id : ObjectId) :
    p.isObjectRegistered (.object id) =
      subject (.object id) >>= fun obj => Action.ofExcept obj.pid? >>= fun found =>
        match found with
        | some pid => p.isRegistered (.pid pid) (.bool false)
        | none => pure (.bool false) := rfl

/-- Whether an object's identifier is registered is asked by one call, if it has one. -/
theorem isObjectRegistered_cases (s : Site) (id : ObjectId) :
    (∃ fault, (s.objects.get id).pid? = .error fault ∧
        Yields (p.isObjectRegistered (.object id)) s (.error fault)) ∨
      ((s.objects.get id).pid? = .ok none ∧
        Yields (p.isObjectRegistered (.object id)) s (.ok (.bool false))) ∨
      ∃ pid, (s.objects.get id).pid? = .ok (some pid) ∧
        Deals (p.isObjectRegistered (.object id)) s rid id
          (let x := (RegistryService.isKnown (.str pid.toString)).outcome (s.registries.get rid)
          (x.1.bind fun known => .ok (.bool known), x.2)) := by
  rw [isObjectRegistered_object]
  rcases hpid : (s.objects.get id).pid? with fault | pid?
  · exact .inl ⟨fault, rfl, (yields_subject id s).bind (yields_ofExcept hpid).error_bind⟩
  cases pid? with
  | none =>
    exact .inr (.inl ⟨rfl, (yields_subject id s).bind ((yields_ofExcept hpid).bind
      fun host => ⟨host, rfl⟩)⟩)
  | some pid =>
    refine .inr (.inr ⟨pid, rfl, Deals.after (yields_subject id s)
      (Deals.after (yields_ofExcept hpid) ?_)⟩)
    simp only [isRegistered, hk, if_true, Operand.asPid, isRemotelyKnown, hc]
    exact (Deals.after (yields_ofExcept rfl) (deals_onRegistry _ _ _ _)).bind fun _ _ host =>
      ⟨host, rfl⟩

omit hk in
/-- An object's identifier is made public by one call, unless its metadata cannot be told. That the
service is failing is the answer that this has not succeeded. -/
theorem publicizeRemotely_cases (s : Site) (id : ObjectId) :
    (((∃ fault, (s.objects.get id).pidText? = .error fault) ∨
        ∃ fault, p.registrationMetadata s (s.objects.get id) "reserved" = .error fault) ∧
      ∃ fault, Yields (p.publicizeRemotely id) s (.error fault)) ∨
      ∃ text metadata, (s.objects.get id).pidText? = .ok text ∧
        p.registrationMetadata s (s.objects.get id) "reserved" = .ok metadata ∧
        ∀ host, ∃ t registered,
          (p.publicizeRemotely id).outcome (s.withHost host) =
            (if (s.registries.get rid).failing.truthy then .ok false
              else (s.publicCopy metadata).map fun _ => true, t) ∧
          t.registries.get rid = ((RegistryService.publicize (.ofText? text)
            (s.publicCopy metadata)).outcome (s.registries.get rid)).2 ∧
          t.objects.get id = { s.objects.get id with registered } := by
  unfold Site.publicCopy publicizeRemotely
  rcases hpid : (s.objects.get id).pidText? with fault | text
  · exact .inl ⟨.inl ⟨fault, rfl⟩, fault, (yields_pidOf hpid).error_bind⟩
  rcases hmetadata : p.registrationMetadata s (s.objects.get id) "reserved" with fault | metadata
  · exact .inl ⟨.inr ⟨fault, rfl⟩, fault,
      (yields_pidOf hpid).bind (yields_metadataForCreation hmetadata).error_bind⟩
  refine .inr ⟨text, metadata, rfl, rfl, fun host => ?_⟩
  obtain ⟨host, hbind⟩ := (yields_pidOf hpid).outcome_bind host
  rw [hbind]
  obtain ⟨host, hbind⟩ := (yields_metadataForCreation hmetadata).outcome_bind host
  rw [hbind]
  generalize hsent : Table.put metadata RegistryService.statusKey (.ofText "public") = sent
  have hgiven : ∀ entry ∈ sent, entry ∈ metadata ∨ ∃ v, entry.2 = .value v := by
    intro entry hentry
    rw [← hsent] at hentry
    exact (Table.mem_or_eq_of_mem_put hentry).imp_right fun heq => ⟨_, heq⟩
  obtain ⟨t, hcopy, hservices, hobject⟩ :=
    exists_of_copyMetadata (fun copy t => get_of_copied hmetadata hgiven) host
  rw [outcome_bind_ok hcopy, ask_eq hc, outcome_bind, outcome_attempt, Site.onRegistry,
    outcome_zoom, ← hservices, ← hobject]
  have hkey := Value.asKey_ofText? text
  cases hf : (t.registries.get rid).failing.truthy with
  | true =>
    simp only [RegistryService.outcome_publicize_of_failing _ hkey hf]
    exact ⟨_, _, rfl, Shelf.get_put_self _ _ _, rfl⟩
  | false =>
    cases hcopied : s.copied sent with
    | error fault =>
      have hfault := fromService_of_copied hcopied
      have hcall := RegistryService.outcome_publicize_of_error _ hkey hf fault
      simp only [Except.map] at hcall ⊢
      rw [hcall]
      simp only [hfault]
      exact ⟨_, _, rfl, Shelf.get_put_self _ _ _, rfl⟩
    | ok x =>
      have hcall := RegistryService.outcome_publicize (t.registries.get rid) hkey x.1
      rw [if_neg (ne_true_of_eq_false hf)] at hcall
      simp only [Except.map] at hcall ⊢
      rw [hcall]
      exact ⟨_, _, rfl, Shelf.get_put_self _ _ _, Shelf.get_put_self _ _ _⟩

end

end Provider

end PersistentId
