import PersistentId.Operation
import PersistentId.Proofs.Provider.Lifecycle
import PersistentId.Proofs.Text.Search

/-!
# Operations on identifiers

A `Turn` is one operation of a provider on the identifier of an object, on a site of its own.
`Turn.effect` says what it does at the provider's registry service: it looks up the identifiers that
it generates, if any, and then asks for the identifier of its object once at most. What that makes
of the records is said by `Turn.Makes`. Whether anything was made of them can be told from the
answer (`Turn.changes`), but for one case: making an identifier public that has no record with
metadata that cannot be copied fails, and leaves an empty record all the same (`Turn.slips`).
-/

namespace PersistentId

open PersistentId.Action

/-! ## Turns -/

/-- What a provider is asked to do with the identifier of an object. -/
inductive Duty where
  | generate
  | create
  | modifyTarget
  | publicize
  | delete
  | metadata
  | registered
  deriving DecidableEq, Repr

namespace Duty

/-- The name of the operation. -/
def operation : Duty → String
  | .generate => "generate_identifier"
  | .create => "create_identifier"
  | .modifyTarget => "modify_identifier_target_url"
  | .publicize => "publicize_identifier"
  | .delete => "delete_identifier"
  | .metadata => "get_identifier_metadata"
  | .registered => "already_registered"

/-- What the registry service is asked for the identifier of the object; a new identifier is looked
up. -/
def call : Duty → ServiceCall
  | .generate | .registered => .exists
  | .create => .reserve
  | .modifyTarget => .update
  | .publicize => .publicize
  | .delete => .delete
  | .metadata => .getMetadata

/-- Whether an operation makes an entry in the records. -/
def enters : Duty → Bool
  | .create | .modifyTarget | .publicize => true
  | _ => false

/-- Whether an operation registers the identifier. -/
def registers : Duty → Bool
  | .create | .publicize => true
  | _ => false

end Duty

/-- An operation of a provider on an object of a site. -/
structure Turn where
  provider : Provider
  duty : Duty
  object : ObjectId
  site : Site

namespace Turn

/-- The answer, and the site behind it. -/
def outcome (x : Turn) : Except Fault Answer × Site :=
  (x.provider.call x.duty.operation [.object x.object]).outcome x.site

def answer (x : Turn) : Except Fault Answer :=
  x.outcome.1

def after (x : Turn) : Site :=
  x.outcome.2

/-- The canonical form of the object's identifier, a generated one if that comes first. -/
def pidText? (x : Turn) : Except Fault (Option String) :=
  (x.after.objects.get x.object).pidText?

/-- Whether an operation has come to what it is for. -/
def succeeds (x : Turn) : Bool :=
  match x.answer with
  | .ok answer => answer != .ofBool false
  | .error _ => false

/-- Whether an identifier is generated before anything else is done. -/
def generates (x : Turn) : Bool :=
  x.duty = .generate || x.duty = .publicize && (x.site.objects.get x.object).lacksLocalPart

/-- Whether the object has a valid identifier, or is to get one. -/
def Valid (x : Turn) : Prop :=
  x.generates = true ∨ ∃ pid, (x.site.objects.get x.object).pid? = .ok (some pid)

/-- Whether the records have been changed. -/
def changes (x : Turn) : Bool :=
  x.succeeds && (x.duty.enters || x.duty = .delete)

/-- The site on which the object has its identifier, a generated one if that comes first. -/
def ready? (x : Turn) : Option Site :=
  if x.generates then
    match (x.provider.generate (.object x.object)).outcome x.site with
    | (.ok _, t) => some t
    | (.error _, _) => none
  else some x.site

/-- Whether the metadata that make an identifier public cannot be copied. -/
def uncopyable (x : Turn) : Bool :=
  x.ready?.any fun t =>
    match x.provider.registrationMetadata t (t.objects.get x.object) "reserved" with
    | .ok metadata => !(t.publicCopy metadata).isOk
    | .error _ => false

/-- Whether an operation is to make an identifier public that has no record with a service, which is
not failing, but with metadata that cannot be copied. -/
def slips (x : Turn) (service : RegistryService) : Bool :=
  x.duty = .publicize && x.uncopyable && !service.failing.truthy &&
    x.pidText?.toOption.any fun text => !Table.has service.records (.ofText? text)

/-- The provider works with the given registry service. -/
structure Uses (x : Turn) (rid : RegistryId) : Prop where
  kind : x.provider.kind.usesRegistry = true
  client : x.provider.client = .registry rid

/-! ## What an operation does at the registry service -/

/-- What an operation makes of the records of a service, for the identifier with the given canonical
form. Without one it may fail after an entry has been made. -/
inductive Makes (x : Turn) (text : Option String) (service : RegistryService) :
    Table Key Metadata → Prop
  | same (h : x.changes = false) (hs : x.slips service = false) :
      x.Makes text service service.records
  | entry {url : String} {record : Metadata} (hd : x.duty.enters = true)
      (hs : x.slips service = false)
      (hok : text ≠ none → service.fixedReply = none → x.succeeds = true)
      (hurl : x.provider.targetUrl (x.after.objects.get x.object) = .ok url)
      (h : RegistryService.Entry service.records (.ofText? text) url x.duty.registers record) :
      x.Makes text service (Table.put service.records (.ofText? text) record)
  | removal (hd : x.duty = .delete) (hok : x.succeeds = true) :
      x.Makes text service (Table.remove service.records (.ofText? text))
  | slip (hs : x.slips service = true) (hfault : ∃ fault, x.answer = .error fault) :
      x.Makes text service (Table.put service.records (.ofText? text) [])

/-- What an operation does at a registry service: it looks generated identifiers up, and may then
ask once for the identifier of its object. -/
inductive Effect (x : Turn) (rid : RegistryId) : Prop
  | looks (pids : List Identifier) (hwhole : ∀ pid ∈ pids, pid.Whole)
      (hgen : pids ≠ [] → x.generates = true) (hchanges : x.changes = false)
      (hslips : x.slips (x.site.registries.get rid) = false)
      (hafter : x.after.registries.get rid = (x.site.registries.get rid).asked pids)
  | asks (pids : List Identifier) (hwhole : ∀ pid ∈ pids, pid.Whole)
      (hgen : pids ≠ [] → x.generates = true) (text : Option String) (records : Table Key Metadata)
      (htext : x.pidText? = .ok text) (hvalid : x.Valid → text ≠ none)
      (hmakes : x.Makes text (x.site.registries.get rid) records)
      (hafter : x.after.registries.get rid =
        { ((x.site.registries.get rid).asked pids).called x.duty.call (.ofText? text) with
          records })

variable {x : Turn} {rid : RegistryId} {α : Type} {act : Site.Use α} {f : α → Answer}

theorem changes_eq_false_of_error {fault : Fault} (h : x.answer = .error fault) :
    x.changes = false := by
  simp [changes, succeeds, h]

theorem slips_eq_false (h : x.duty ≠ .publicize) (service : RegistryService) :
    x.slips service = false := by
  simp [slips, h]

theorem Makes.of_error {fault : Fault} {text : Option String} {service : RegistryService}
    (h : x.answer = .error fault) (hd : x.duty ≠ .publicize) :
    x.Makes text service service.records :=
  .same (changes_eq_false_of_error h) (slips_eq_false hd _)

theorem duty_of_slips {service : RegistryService} (h : x.slips service = true) :
    x.duty = .publicize := by
  by_contra hd
  rw [slips_eq_false hd] at h
  cases h

/-- Making an identifier public slips if the metadata that it sends cannot be copied. -/
theorem slips_of_ready {t : Site} {text : Option String} {metadata : Metadata}
    (hd : x.duty = .publicize) (hready : x.ready? = some t) (htext : x.pidText? = .ok text)
    (hmetadata : x.provider.registrationMetadata t (t.objects.get x.object) "reserved" =
      .ok metadata) (service : RegistryService) :
    x.slips service = (!(t.publicCopy metadata).isOk && !service.failing.truthy &&
      !Table.has service.records (.ofText? text)) := by
  simp [slips, hd, uncopyable, hready, hmetadata, htext, Except.toOption]

theorem exists_of_yields {result : Except Fault α}
    (hcall : x.provider.call x.duty.operation [.object x.object] = f <$> act)
    (h : Site.Yields act x.site result) :
    x.answer = result.map f ∧ ∃ host, x.after = x.site.withHost host := by
  obtain ⟨host, hout⟩ := h x.site.host
  have houtcome : x.outcome = (result.map f, x.site.withHost host) := by
    rw [outcome, hcall, outcome_map]
    exact congrArg (fun o => (o.1.map f, o.2)) hout
  exact ⟨congrArg (·.1) houtcome, host, congrArg (·.2) houtcome⟩

theorem answer_of_deals {y : Except Fault α × RegistryService}
    (hcall : x.provider.call x.duty.operation [.object x.object] = f <$> act)
    (h : Site.Deals act x.site rid x.object y) :
    x.answer = y.1.map f ∧ x.after.registries.get rid = y.2 ∧
      x.after.objects.get x.object = x.site.objects.get x.object := by
  obtain ⟨t, hout, hservice, hobject⟩ := h x.site.host
  have houtcome : x.outcome = (y.1.map f, t) := by
    rw [outcome, hcall, outcome_map]
    exact congrArg (fun o => (o.1.map f, o.2)) hout
  have hafter : x.after = t := congrArg (·.2) houtcome
  exact ⟨congrArg (·.1) houtcome, hafter ▸ hservice, hafter ▸ hobject⟩

/-- An operation that does not come to call the service. -/
theorem effect_of_yields {result : Except Fault α}
    (hcall : x.provider.call x.duty.operation [.object x.object] = f <$> act)
    (h : Site.Yields act x.site result) (hd : x.duty ≠ .publicize)
    (hchanges : x.answer = result.map f → x.changes = false) : x.Effect rid := by
  obtain ⟨hanswer, host, hafter⟩ := exists_of_yields hcall h
  refine .looks [] (by simp) (by simp) (hchanges hanswer) (slips_eq_false hd _) ?_
  rw [hafter, RegistryService.asked_nil]
  rfl

/-- An operation that comes to one call of the service. -/
theorem effect_of_deals {text : Option String} {y : Except Fault α × RegistryService}
    (hcall : x.provider.call x.duty.operation [.object x.object] = f <$> act)
    (hgen : x.generates = false) (htext : (x.site.objects.get x.object).pidText? = .ok text)
    (h : Site.Deals act x.site rid x.object y)
    (hmakes : x.answer = y.1.map f →
      x.after.objects.get x.object = x.site.objects.get x.object → ∃ records,
      x.Makes text (x.site.registries.get rid) records ∧
        y.2 = { (x.site.registries.get rid).called x.duty.call (.ofText? text) with records }) :
    x.Effect rid := by
  obtain ⟨hanswer, hservice, hobject⟩ := answer_of_deals hcall h
  obtain ⟨records, hmakes, hy⟩ := hmakes hanswer hobject
  refine .asks [] (by simp) (by simp) text records (by rw [pidText?, hobject, htext]) ?_ hmakes
    (by rw [hservice, hy, RegistryService.asked_nil])
  rintro (hvalid | ⟨pid, hpid⟩)
  · rw [hvalid] at hgen
    cases hgen
  · rw [DigitalObject.pidText?_of_pid? hpid] at htext
    rintro rfl
    cases htext

/-! ## Operations one by one -/

section

variable (hu : x.Uses rid)

include hu

theorem effect_create (hd : x.duty = .create) : x.Effect rid := by
  have hcall : x.provider.call x.duty.operation [.object x.object] =
      Answer.value <$> x.provider.create (.object x.object) := by
    rw [hd]
    rfl
  have hne : x.duty ≠ .publicize := by simp [hd]
  rcases Provider.create_cases hu.kind hu.client x.site x.object with
    ⟨fault, hyields⟩ | ⟨text, metadata, htext, hmetadata, hdeals⟩
  · exact effect_of_yields hcall hyields hne changes_eq_false_of_error
  obtain ⟨url, hurl, -, hstatus, htarget⟩ := Provider.exists_of_registrationMetadata hmetadata
  generalize hgiven : (x.site.copied metadata).map (·.1) = given at hdeals
  refine effect_of_deals hcall (by simp [generates, hd]) htext hdeals fun hanswer hobject => ?_
  cases given with
  | error fault =>
    rw [RegistryService.outcome_reserve_of_error _ (Value.asKey_ofText? text)] at hanswer ⊢
    exact ⟨_, .of_error hanswer hne, by rw [hd]; rfl⟩
  | ok copy =>
    obtain ⟨t, hcopies⟩ := Site.exists_copies hgiven
    rw [RegistryService.outcome_reserve _ (Value.asKey_ofText? text)] at hanswer ⊢
    split at hanswer
    · next hf =>
      exact ⟨_, .of_error hanswer hne,
        by rw [if_pos hf, hd]; rfl⟩
    next hf =>
    split at hanswer
    · next hhas =>
      exact ⟨_, .of_error hanswer hne,
        by rw [if_neg hf, if_pos hhas, hd]; rfl⟩
    next hhas =>
    have hentry : RegistryService.Entry (x.site.registries.get rid).records (.ofText? text) url
        true (RegistryService.reserved copy) :=
      RegistryService.entry_reserved (by simpa using hhas) (hcopies.values hstatus)
        (hcopies.values htarget)
    refine ⟨_, .entry (by rw [hd]; rfl) (slips_eq_false hne _) (fun htext hreply => ?_)
      (hobject ▸ hurl) (by rw [hd]; exact hentry), by rw [if_neg hf, if_neg hhas, hd]; rfl⟩
    obtain ⟨pid, rfl⟩ := Option.ne_none_iff_exists'.1 htext
    have hnames : Provider.replyNames (.str ("success: " ++ pid)) (some pid) = .ok true := by
      have htruthy : (Value.str ("success: " ++ pid)).truthy = true := by
        simp [Value.truthy]
      simp [Provider.replyNames, htruthy, Text.occursIn_append]
    have hok : x.answer = .ok (.value (.str ("success: " ++ pid))) := by
      rw [hanswer, hreply]
      show ((Provider.checkReply (some pid) (.str ("success: " ++ pid))).map Answer.value) = _
      rw [Provider.checkReply, hnames]
      rfl
    rw [succeeds, hok]
    rfl

theorem effect_modifyTarget (hd : x.duty = .modifyTarget) : x.Effect rid := by
  have hcall : x.provider.call x.duty.operation [.object x.object] =
      Answer.ofText <$> x.provider.modifyTarget (.object x.object) := by
    rw [hd]
    rfl
  have hne : x.duty ≠ .publicize := by simp [hd]
  rcases Provider.modifyTarget_cases hu.kind hu.client x.site x.object with
    ⟨fault, hyields⟩ | ⟨text, url, htext, hurl, hdeals⟩
  · exact effect_of_yields hcall hyields hne changes_eq_false_of_error
  refine effect_of_deals hcall (by simp [generates, hd]) htext hdeals fun hanswer hobject => ?_
  rw [RegistryService.outcome_update _ (Value.asKey_ofText? text)] at hanswer ⊢
  split at hanswer
  · next hf =>
    exact ⟨_, .of_error hanswer hne, by rw [if_pos hf, hd]; rfl⟩
  next hf =>
  split at hanswer
  · next hnone =>
    exact ⟨_, .of_error hanswer hne, by rw [if_neg hf, hd]; rfl⟩
  · next record hrecord =>
    have hentry := RegistryService.entry_updated hrecord url
    refine ⟨_, .entry (by rw [hd]; rfl) (slips_eq_false hne _) (fun _ _ => ?_) (hobject ▸ hurl)
      (by rw [hd]; exact hentry), by rw [if_neg hf, hd]; rfl⟩
    rw [succeeds, hanswer]
    rfl

theorem effect_delete (hd : x.duty = .delete) : x.Effect rid := by
  have hcall : x.provider.call x.duty.operation [.object x.object] =
      (fun _ => .nothing) <$> x.provider.delete (.object x.object) := by
    rw [hd]
    rfl
  have hne : x.duty ≠ .publicize := by simp [hd]
  rcases Provider.delete_cases hu.kind hu.client x.site x.object with
    ⟨fault, hyields⟩ | ⟨text, htext, hdeals⟩
  · exact effect_of_yields hcall hyields hne changes_eq_false_of_error
  refine effect_of_deals hcall (by simp [generates, hd]) htext hdeals fun hanswer _ => ?_
  rw [RegistryService.outcome_delete _ (Value.asKey_ofText? text)] at hanswer ⊢
  split at hanswer
  · next hf =>
    exact ⟨_, .of_error hanswer hne, by rw [if_pos hf, hd]; rfl⟩
  next hf =>
  split at hanswer
  · next hnone =>
    exact ⟨_, .of_error hanswer hne, by rw [if_neg hf, hd]; rfl⟩
  · next record hrecord =>
    refine ⟨_, .removal hd ?_, by rw [if_neg hf, hd]; rfl⟩
    rw [succeeds, hanswer]
    rfl

theorem effect_metadata (hd : x.duty = .metadata) : x.Effect rid := by
  have hcall : x.provider.call x.duty.operation [.object x.object] =
      .metadata <$> x.provider.heldMetadata (.object x.object) := by
    rw [hd]
    rfl
  have hchanges : x.changes = false := by simp [changes, hd, Duty.enters]
  have hne : x.duty ≠ .publicize := by simp [hd]
  rcases Provider.heldMetadata_cases hu.kind hu.client x.site x.object with
    ⟨fault, hyields⟩ | ⟨text, htext, hdeals⟩
  · exact effect_of_yields hcall hyields hne changes_eq_false_of_error
  refine effect_of_deals hcall (by simp [generates, hd]) htext hdeals fun _ _ => ?_
  rw [RegistryService.outcome_metadata _ (Value.asKey_ofText? text)]
  exact ⟨_, .same hchanges (slips_eq_false hne _), by rw [hd]; rfl⟩

theorem effect_registered (hd : x.duty = .registered) : x.Effect rid := by
  have hcall : x.provider.call x.duty.operation [.object x.object] =
      .value <$> x.provider.isObjectRegistered (.object x.object) := by
    rw [hd]
    rfl
  have hchanges : x.changes = false := by simp [changes, hd, Duty.enters]
  have hne : x.duty ≠ .publicize := by simp [hd]
  rcases Provider.isObjectRegistered_cases hu.kind hu.client x.site x.object with
    ⟨fault, -, hyields⟩ | ⟨-, hyields⟩ | ⟨pid, hpid, hdeals⟩
  · exact effect_of_yields hcall hyields hne changes_eq_false_of_error
  · exact effect_of_yields hcall hyields hne fun _ => hchanges
  have htext : (x.site.objects.get x.object).pidText? = .ok (some pid.toString) := by
    rw [DigitalObject.pidText?_of_pid? hpid]
    rfl
  refine effect_of_deals hcall (by simp [generates, hd]) htext hdeals fun _ _ => ?_
  rw [show Value.str pid.toString = .ofText? (some pid.toString) from rfl,
    RegistryService.outcome_isKnown _ (Value.asKey_ofText? _)]
  exact ⟨_, .same hchanges (slips_eq_false hne _), by rw [hd]; rfl⟩

/-- **Whether an identifier is registered is answered from the records.** -/
theorem answer_registered (hd : x.duty = .registered) {text : String}
    (htext : x.pidText? = .ok (some text)) :
    x.answer =
      if (x.site.registries.get rid).failing.truthy then .error (.serviceDown (.str text))
      else .ok (.ofBool (Table.has (x.site.registries.get rid).records (.str text))) := by
  have hcall : x.provider.call x.duty.operation [.object x.object] =
      Answer.value <$> x.provider.isObjectRegistered (.object x.object) := by
    rw [hd]
    rfl
  rw [pidText?] at htext
  rcases Provider.isObjectRegistered_cases hu.kind hu.client x.site x.object with
    ⟨fault, hpid, hyields⟩ | ⟨hpid, hyields⟩ | ⟨pid, hpid, hdeals⟩
  · obtain ⟨-, host, hafter⟩ := exists_of_yields hcall hyields
    rw [hafter, Site.withHost, DigitalObject.pidText?_of_pid? hpid] at htext
    cases htext
  · obtain ⟨-, host, hafter⟩ := exists_of_yields hcall hyields
    rw [hafter, Site.withHost, DigitalObject.pidText?_of_pid? hpid] at htext
    cases htext
  · obtain ⟨hanswer, -, hobject⟩ := answer_of_deals hcall hdeals
    rw [hobject, DigitalObject.pidText?_of_pid? hpid] at htext
    cases htext
    have hkey : (Value.str pid.toString).asKey = .ok (.str pid.toString) := rfl
    rw [hanswer, RegistryService.outcome_isKnown _ hkey]
    split <;> rfl

omit hu in
theorem effect_generate (hd : x.duty = .generate) : x.Effect rid := by
  have hcall : x.provider.call x.duty.operation [.object x.object] =
      (fun _ => .operand (.object x.object)) <$> x.provider.generate (.object x.object) := by
    rw [hd]
    rfl
  have hchanges : x.changes = false := by simp [changes, hd, Duty.enters]
  have honward : x.site.Onward x.after := by
    rw [after, outcome, hcall, outcome_map]
    exact ((x.provider.ends_generate x.object).weaken (fun _ h => h) (fun _ _ h => h.2)
      fun _ _ h => h).snd (.refl _)
  obtain ⟨pids, hwhole, hafter⟩ := honward.asked rid
  exact .looks pids hwhole (by simp [generates, hd]) hchanges (slips_eq_false (by simp [hd]) _)
    hafter

omit hu in
/-- Making an identifier public with metadata of which a copy is given, or none. -/
theorem makes_of_publicize {text : Option String} {url : String} {service : RegistryService}
    {given : Except Fault Metadata} (hd : x.duty = .publicize)
    (hslips : x.slips service =
      (!given.isOk && !service.failing.truthy && !Table.has service.records (.ofText? text)))
    (hanswer : x.answer = (if service.failing.truthy then .ok false
      else given.map fun _ => true).map Answer.ofBool)
    (hurl : x.provider.targetUrl (x.after.objects.get x.object) = .ok url)
    (hgiven : ∀ copy, given = .ok copy → Table.Distinct copy ∧
      Table.find? copy RegistryService.targetKey = some (.ofText url)) (pids : List Identifier) :
    ∃ records, x.Makes text service records ∧
      ((RegistryService.publicize (.ofText? text) given).outcome (service.asked pids)).2 =
        { (service.asked pids).called .publicize (.ofText? text) with records } := by
  have hkey := Value.asKey_ofText? text
  cases hf : service.failing.truthy with
  | true =>
    have hfail : (service.asked pids).failing.truthy = true := hf
    rw [RegistryService.outcome_publicize_of_failing _ hkey hfail]
    refine ⟨_, .same ?_ (by simp [hslips, hf]), rfl⟩
    rw [changes, succeeds, hanswer, hf]
    rfl
  | false =>
    have hfail : (service.asked pids).failing.truthy = false := hf
    cases given with
    | ok copy =>
      obtain ⟨hdistinct, htarget⟩ := hgiven copy rfl
      have hentry : RegistryService.Entry service.records (.ofText? text) url x.duty.registers
          (RegistryService.published (Table.find? service.records (.ofText? text)) copy) := by
        rw [hd]
        exact RegistryService.entry_published hdistinct htarget _
      rw [RegistryService.outcome_publicize _ hkey, if_neg (ne_true_of_eq_false hfail)]
      refine ⟨_, .entry (by rw [hd]; rfl) (by rw [hslips]; rfl) (fun _ _ => ?_) hurl hentry, rfl⟩
      rw [succeeds, hanswer, hf]
      rfl
    | error fault =>
      have hfault : x.answer = .error fault := by
        rw [hanswer, hf]
        rfl
      rw [RegistryService.outcome_publicize_of_error _ hkey hfail]
      cases hold : Table.find? service.records (.ofText? text) with
      | some record =>
        have hhas : Table.has service.records (.ofText? text) = true :=
          Table.has_iff_exists.2 ⟨_, hold⟩
        have hput := Table.put_of_find? hold
        refine ⟨_, .same (changes_eq_false_of_error hfault) (by simp [hslips, hhas]), ?_⟩
        simp only [RegistryService.asked, hold, Option.getD_some, hput]
      | none =>
        have hhas : Table.has service.records (.ofText? text) = false := by
          rw [Table.has, hold]
          rfl
        refine ⟨_, .slip ?_ ⟨fault, hfault⟩, ?_⟩
        · simp [hslips, hf, hhas, Except.isOk, Except.toBool]
        · simp only [RegistryService.asked, hold, Option.getD_none]

/-- Making an identifier public on a site on which it has been generated if need be. -/
theorem effect_of_publicizeRemotely {t : Site} {pids : List Identifier} (hd : x.duty = .publicize)
    (hready : x.ready? = some t)
    (hout : x.outcome = (Answer.ofBool <$> x.provider.publicizeRemotely x.object).outcome t)
    (hwhole : ∀ pid ∈ pids, pid.Whole) (hgen : pids ≠ [] → x.generates = true)
    (hasked : t.registries.get rid = (x.site.registries.get rid).asked pids)
    (hvalid : x.Valid → ∃ pid, (t.objects.get x.object).pid? = .ok (some pid)) : x.Effect rid := by
  rw [outcome_map] at hout
  rcases Provider.publicizeRemotely_cases hu.client t x.object with
    ⟨hcause, fault, hyields⟩ | ⟨text, metadata, htext, hmetadata, hpublicize⟩
  · obtain ⟨host, hfail⟩ := hyields t.host
    rw [show (x.provider.publicizeRemotely x.object).outcome t = _ from hfail] at hout
    have hafter : x.after = t.withHost host := congrArg (·.2) hout
    refine .looks pids hwhole hgen (changes_eq_false_of_error (congrArg (·.1) hout)) ?_ ?_
    · rcases hcause with ⟨fault, hpid⟩ | ⟨fault, hmetadata⟩
      · have hpid' : x.pidText? = .error fault := by rw [pidText?, hafter]; exact hpid
        simp [slips, hpid', Except.toOption]
      · simp [slips, uncopyable, hready, hmetadata]
    · rw [hafter]
      exact hasked
  obtain ⟨u, registered, hpublicized, hservice, hobject⟩ := hpublicize t.host
  rw [show (x.provider.publicizeRemotely x.object).outcome t = _ from hpublicized] at hout
  have hafter : x.after = u := congrArg (·.2) hout
  have hpid : x.pidText? = .ok text := by
    rw [pidText?, hafter, hobject, ← htext]
    rfl
  have hsome : x.Valid → text ≠ none := by
    rintro hx rfl
    obtain ⟨pid, hpid⟩ := hvalid hx
    rw [DigitalObject.pidText?_of_pid? hpid] at htext
    cases htext
  obtain ⟨url, hurl, hdistinct, -, htarget⟩ := Provider.exists_of_registrationMetadata hmetadata
  have hsame : x.provider.targetUrl (x.after.objects.get x.object) = .ok url := by
    rw [hafter, hobject, ← hurl]
    rfl
  have hanswer : x.answer = _ := congrArg (·.1) hout
  rw [hasked] at hanswer hservice
  have hgiven : ∀ copy, t.publicCopy metadata = .ok copy → Table.Distinct copy ∧
      Table.find? copy RegistryService.targetKey = some (.ofText url) := by
    intro copy hcopy
    obtain ⟨_, hcopies⟩ := Site.exists_copies hcopy
    rw [← Table.find?_put_of_ne _ (.ofText "public") RegistryService.statusKey_beq_targetKey]
      at htarget
    exact ⟨hcopies.distinct (Table.distinct_put hdistinct _ _), hcopies.values htarget⟩
  obtain ⟨records, hmakes, hrecords⟩ := makes_of_publicize hd
    (slips_of_ready hd hready hpid hmetadata (x.site.registries.get rid)) hanswer hsame hgiven pids
  exact .asks pids hwhole hgen text records hpid hsome hmakes
    (by rw [hafter, hservice, hrecords, hd]; rfl)

theorem effect_publicize (hd : x.duty = .publicize) : x.Effect rid := by
  have hcall : x.provider.call x.duty.operation [.object x.object] =
      Answer.ofBool <$> x.provider.publicize (.object x.object) := by
    rw [hd]
    rfl
  have hobject : (Site.object x.object).outcome x.site =
      (.ok (x.site.objects.get x.object), x.site) := rfl
  have hout : x.outcome =
      (Answer.ofBool <$> x.provider.publicize (.object x.object)).outcome x.site := by
    rw [outcome, hcall]
  rw [Provider.publicize, outcome_map, outcome_bind_ok hobject] at hout
  cases hlacks : (x.site.objects.get x.object).lacksLocalPart with
  | false =>
    have hgen : x.generates = false := by simp [generates, hd, hlacks]
    have hready : x.ready? = some x.site := by simp [ready?, hgen]
    have hnone : ∀ pid ∈ ([] : List Identifier), pid.Whole := by simp
    refine effect_of_publicizeRemotely hu hd hready ?_ hnone (by simp)
      (RegistryService.asked_nil _).symm fun hvalid => ?_
    · rw [hout, outcome_map]
      simp only [hlacks, hu.kind]
      rfl
    · rcases hvalid with hvalid | hpid
      · rw [hgen] at hvalid
        cases hvalid
      · exact hpid
  | true =>
    have hgen : x.generates = true := by simp [generates, hd, hlacks]
    have hend := x.provider.ends_generate (s := x.site) x.object x.site (.refl _)
    simp only [hlacks, hu.kind, if_true] at hout
    rcases hgenerate : (x.provider.generate (.object x.object)).outcome x.site with ⟨fault | ⟨⟩, t⟩
    · have hready : x.ready? = none := by simp [ready?, hgen, hgenerate]
      rw [hgenerate] at hend
      rw [outcome_bind_error hgenerate] at hout
      obtain ⟨pids, hwhole, hasked⟩ := hend.asked rid
      refine .looks pids hwhole (fun _ => hgen) (changes_eq_false_of_error (congrArg (·.1) hout))
        (by simp [slips, uncopyable, hready]) ?_
      rw [after, hout]
      exact hasked
    · have hready : x.ready? = some t := by simp [ready?, hgen, hgenerate]
      rw [hgenerate] at hend
      rw [outcome_bind_ok hgenerate] at hout
      obtain ⟨⟨pid, hpid, -⟩, honward⟩ := hend
      obtain ⟨pids, hwhole, hasked⟩ := honward.asked rid
      exact effect_of_publicizeRemotely hu hd hready (by rw [hout, outcome_map]) hwhole
        (fun _ => hgen) hasked fun _ => ⟨pid, hpid⟩

/-- **What an operation does at the registry service.** -/
theorem effect : x.Effect rid :=
  match hd : x.duty with
  | .generate => effect_generate hd
  | .create => effect_create hu hd
  | .modifyTarget => effect_modifyTarget hu hd
  | .publicize => effect_publicize hu hd
  | .delete => effect_delete hu hd
  | .metadata => effect_metadata hu hd
  | .registered => effect_registered hu hd

end

end Turn

end PersistentId
