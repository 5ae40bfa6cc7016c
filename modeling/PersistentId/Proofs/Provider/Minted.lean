import PersistentId.Proofs.Generation
import PersistentId.Proofs.Provider.Print

/-!
# What generated identifiers are made of

An object for which an identifier is generated has one that is made of the scope for it and of a
local part that was minted on the way (`Provider.Receives`); whatever the provider and the site,
generation does not succeed otherwise (`exists_receives_of_generate`).

* Under the scope of the provider itself the identifier lies under the provider's authority and
  shoulder. The provider is in charge of it unless it is on the list of those that the provider is
  not in charge of, which generation does not look at (`managed_of_generate`).
* Under the identifier of an owner it has the owner's protocol and authority, and its local part
  goes on from that of the owner. The separator is the provider's, so that it is printed as what the
  owner's identifier goes on to only if that has the same (`extends_owner_of_generate`).
-/

namespace PersistentId

open PersistentId.Action

namespace Provider

variable {p : Provider} {scope : Scope} {s t : Site} {id : ObjectId} {minted : String}
  {pid : Identifier} {attempts : Nat}

/-! ## The candidate that is taken -/

/-- On the way from one site to another an identifier is found in as many attempts: after some
candidates that could not be claimed a local part is minted, and the candidate made with it is
claimed. -/
inductive Draws (p : Provider) (scope : Scope) (attempts : Nat) (s t : Site) (minted : String)
    (pid : Identifier) : Prop where
  | intro {refused : Nat} {name : String} {u v : Site} (hlt : refused < attempts)
      (hrefused : (p.tryCandidates scope refused).outcome s = (.ok none, u))
      (hname : p.scopeName scope = .ok name)
      (hmint : (p.minter.mint (.str name)).outcome u = (.ok minted, v))
      (hcandidate : p.candidate scope minted = .ok pid)
      (hclaim : (p.claim pid).outcome v = (.ok true, t)) : Draws p scope attempts s t minted pid

theorem exists_of_nextCandidate (h : (p.nextCandidate scope).outcome s = (.ok pid, t)) :
    ∃ name minted, p.scopeName scope = .ok name ∧
      (p.minter.mint (.str name)).outcome s = (.ok minted, t) ∧
      p.candidate scope minted = .ok pid := by
  obtain ⟨name, hname, h⟩ := exists_of_outcome_ofExcept_bind h
  obtain ⟨minted, u, hmint, h⟩ := exists_of_outcome_bind h
  rw [outcome_ofExcept] at h
  obtain ⟨hcandidate, rfl⟩ := Prod.mk.inj h
  exact ⟨name, minted, hname, hmint, hcandidate⟩

theorem exists_draws_of_tryCandidates
    (h : (p.tryCandidates scope attempts).outcome s = (.ok (some pid), t)) :
    ∃ minted, p.Draws scope attempts s t minted pid := by
  -- on the attempts left: the first candidate is taken, or is one more that was refused
  induction attempts generalizing s with
  | zero => cases h
  | succ attempts ih =>
    obtain ⟨first, u, hnext, h⟩ := exists_of_outcome_bind h
    obtain ⟨taken, v, hclaim, h⟩ := exists_of_outcome_bind h
    cases taken with
    | true =>
      obtain ⟨name, minted, hname, hmint, hcandidate⟩ := exists_of_nextCandidate hnext
      cases h
      exact ⟨minted, .intro (Nat.succ_pos attempts) rfl hname hmint hcandidate hclaim⟩
    | false =>
      obtain ⟨minted, @⟨refused, _, _, _, hlt, hrefused, hname, hmint, hcandidate, hclaim'⟩⟩ := ih h
      refine ⟨minted, .intro (Nat.succ_lt_succ hlt) ?_ hname hmint hcandidate hclaim'⟩
      rw [tryCandidates, outcome_bind_ok hnext, outcome_bind_ok hclaim]
      exact hrefused

theorem exists_draws_of_claimUnder (h : (p.claimUnder scope).outcome s = (.ok pid, t)) :
    ∃ m minted, p.maxAttempts.asInt = .ok m ∧ p.Draws scope m.toNat s t minted pid := by
  obtain ⟨_, -, h⟩ := exists_of_outcome_ofExcept_bind h
  obtain ⟨_, -, h⟩ := exists_of_outcome_ofExcept_bind h
  obtain ⟨m, hm, h⟩ := exists_of_outcome_ofExcept_bind h
  obtain ⟨found, _, htry, h⟩ := exists_of_outcome_bind h
  cases found with
  | none => cases h
  | some first =>
    cases h
    obtain ⟨minted, hdraws⟩ := exists_draws_of_tryCandidates htry
    exact ⟨m, minted, hm, hdraws⟩

/-- What is minted on the way is not empty, so that the identifier is a whole one. -/
theorem Draws.whole (h : p.Draws scope attempts s t minted pid) : pid.Whole := by
  obtain ⟨-, -, -, hmint, hcandidate, -⟩ := h
  have hne := ((p.minter.ends_mint _).ok (Site.Onward.refl _) hmint).1
  exact whole_of_candidate hne hcandidate

/-- A candidate has the protocol and the authority of the scope, and all else but the start of the
local part from the provider. -/
theorem exists_of_candidate (h : p.candidate scope minted = .ok pid) :
    ∃ authority start name, scope.authority = .str authority ∧ scope.start = .str start ∧
      pid = ⟨scope.protocol, authority, start ++ minted,
        if p.separator = .null then .str "" else p.separator, .str p.urlStart, .str name⟩ := by
  obtain ⟨start, hstart, h⟩ := exists_of_bind_eq_ok h
  obtain ⟨name, -, h⟩ := exists_of_bind_eq_ok h
  obtain ⟨authority, localPart, hauthority, hlocal, rfl⟩ := Identifier.exists_of_make h
  refine ⟨authority, start, name, hauthority, ?_, by rw [Value.str.inj hlocal]⟩
  cases hs : scope.start with
  | str text =>
    rw [hs] at hstart
    rw [Except.ok.inj hstart]
  | _ =>
    rw [hs] at hstart
    cases hstart

/-! ## Objects -/

/-- An object has been given an identifier: the one found under the scope for the object, which is
made of that and of what was minted. -/
structure Receives (p : Provider) (id : ObjectId) (s t : Site) (scope : Scope) (minted : String)
    (pid : Identifier) : Prop where
  scope_eq : GenerationCall.plain.scopeIn p s id = .ok scope
  draws : ∃ m u, p.maxAttempts.asInt = .ok m ∧
    p.Draws scope m.toNat (entering s id scope) u minted pid
  candidate : p.candidate scope minted = .ok pid
  object : t.objects.get id = (s.objects.get id).setPid (some pid)
  pid? : (t.objects.get id).pid? = .ok (some pid)

theorem exists_of_outcome_discard_ok {α : Type} {act : Site.Use α}
    (h : (do let _ ← act : Site.Use Unit).outcome s = (.ok ⟨⟩, t)) :
    ∃ a, act.outcome s = (.ok a, t) := by
  obtain ⟨a, u, hact, h⟩ := exists_of_outcome_bind h
  cases h
  exact ⟨a, hact⟩

/-- An identifier is generated under the scope for the object. -/
theorem exists_scope_of_generate (h : (p.generate (.object id)).outcome s = (.ok ⟨⟩, t)) :
    ∃ scope name, GenerationCall.plain.scopeIn p s id = .ok scope ∧
      (p.generateUnder id scope).outcome (entering s id scope) = (.ok name, t) := by
  have hsubject : (subject (.object id)).outcome s = (.ok (s.objects.get id), s) := rfl
  rw [generate, outcome_bind_ok hsubject] at h
  rw [GenerationCall.scopeIn]
  split at h
  · next hdataset =>
    obtain ⟨name, h⟩ := exists_of_outcome_discard_ok h
    exact ⟨_, name, by rw [if_pos hdataset], h⟩
  · next hfile =>
    obtain ⟨name, h⟩ := exists_of_outcome_discard_ok h
    have hobject : (Action.ofExcept (Operand.object id).asObject : Site.Use ObjectId).outcome s =
        (.ok id, s) := rfl
    rw [generateForFile, outcome_bind_ok hobject, outcome_bind_ok (outcome_get s)] at h
    obtain ⟨scope, hscope, h⟩ := exists_of_outcome_ofExcept_bind h
    exact ⟨scope, name, by rw [if_neg hfile]; exact hscope, h⟩

/-- **A successful generation gives the object what was found under the scope for it.** -/
theorem exists_receives_of_generate (h : (p.generate (.object id)).outcome s = (.ok ⟨⟩, t)) :
    ∃ scope minted pid, p.Receives id s t scope minted pid := by
  obtain ⟨scope, name, hscope, h⟩ := exists_scope_of_generate h
  obtain ⟨pid, u, hclaim, h⟩ := exists_of_outcome_bind h
  obtain ⟨m, minted, hm, hdraws⟩ := exists_draws_of_claimUnder hclaim
  have hobjects : u.objects = (entering s id scope).objects :=
    (holds_claimUnder p scope).ok rfl hclaim
  have ht : t = { u with objects := u.objects.put id ((u.objects.get id).setPid (some pid)) } :=
    (Prod.mk.inj h).2.symm
  have hobject : t.objects.get id = (s.objects.get id).setPid (some pid) := by
    rw [ht, Shelf.get_put_self, hobjects, entering, Shelf.get_put_self]
    rfl
  refine ⟨scope, minted, pid, hscope, ⟨m, u, hm, hdraws⟩, ?_, hobject, ?_⟩
  · obtain ⟨-, -, -, -, hcandidate, -⟩ := hdraws
    exact hcandidate
  · rw [hobject, DigitalObject.pid?_setPid _ hdraws.whole]

/-! ## Under the provider's own scope -/

/-- A provider is in charge of what lies under its authority and shoulder unless it is excluded. -/
theorem canManage_eq_of_beginsWith {shoulder : String} (hprotocol : pid.protocol = .str p.protocol)
    (hauthority : p.authority = .str pid.authority) (hshoulder : p.shoulder = .str shoulder)
    (hstart : Text.beginsWith shoulder pid.localPart = true) :
    p.canManage pid = .ok (!p.excluded.contains pid.toString) := by
  have hfits : pid.protocol = .str p.protocol ∧ p.authority = .str pid.authority :=
    ⟨hprotocol, hauthority⟩
  have hlies : (Value.asTextOr Fault.notAStart p.shoulder).map
      (Text.beginsWith · pid.localPart) = .ok true := by
    rw [hshoulder, ← hstart]
    rfl
  rw [canManage, if_pos hfits]
  cases p.excluded.contains pid.toString with
  | true => rfl
  | false =>
    cases p.managed.contains pid.toString with
    | true => rfl
    | false => exact hlies

/-- **A provider is in charge of what it generates unless that is excluded**: of every identifier of
a dataset, or of a data file whose identifier does not depend on its owner. It lies under the
provider's authority and shoulder, but it may be one of those that are excluded by name. -/
theorem managed_of_generate (h : (p.generate (.object id)).outcome s = (.ok ⟨⟩, t))
    (hown : (s.objects.get id).isDataset = true ∨ p.fileFormat = .independent) :
    ∃ pid, (t.objects.get id).pid? = .ok (some pid) ∧
      pid.protocol = .str p.protocol ∧ p.authority = .str pid.authority ∧
      (∃ shoulder, p.shoulder = .str shoulder ∧
        Text.beginsWith shoulder pid.localPart = true) ∧
      p.canManage pid = .ok (!p.excluded.contains pid.toString) := by
  obtain ⟨scope, minted, pid, hreceives⟩ := exists_receives_of_generate h
  obtain rfl : scope = p.ownScope := by
    have hscope := hreceives.scope_eq
    rw [GenerationCall.scopeIn] at hscope
    split at hscope
    · exact (Except.ok.inj hscope).symm
    · next hfile =>
      rw [fileScope] at hscope
      split at hscope
      · cases hscope
      · rw [if_pos (hown.resolve_left hfile)] at hscope
        exact (Except.ok.inj hscope).symm
  obtain ⟨authority, shoulder, name, hauthority, hshoulder, hpid⟩ :=
    exists_of_candidate hreceives.candidate
  have hprotocol : pid.protocol = .str p.protocol := by rw [hpid]; rfl
  have hsame : p.authority = .str pid.authority := by rw [hpid]; exact hauthority
  have hstart : Text.beginsWith shoulder pid.localPart = true := by
    rw [hpid]
    exact Text.beginsWith_append shoulder minted
  exact ⟨pid, hreceives.pid?, hprotocol, hsame, ⟨shoulder, hshoulder, hstart⟩,
    canManage_eq_of_beginsWith hprotocol hsame hshoulder hstart⟩

theorem managed_of_generate_passing :
    ∃ t pid, (minting.generate (.object 0)).outcome passing = (.ok ⟨⟩, t) ∧
      (t.objects.get 0).pid? = .ok (some pid) ∧ minting.canManage pid = .ok true := by
  have hanswer : ((minting.generate (.object 0)).outcome passing).1 = .ok ⟨⟩ := by
    decide +kernel
  have hgenerate := outcome_eq_of_fst hanswer
  have hdataset : (passing.objects.get (0 : ObjectId)).isDataset = true := rfl
  obtain ⟨pid, hpid, -, -, -, hmanaged⟩ := managed_of_generate hgenerate (.inl hdataset)
  exact ⟨_, pid, hgenerate, hpid, hmanaged⟩

/-- A provider of DOIs that is not in charge of the first one that it makes. -/
def excepting : Provider :=
  { minting with excluded := ["doi:10.5072/FK2/000000"] }

/-- A provider may generate an identifier that it is not in charge of. -/
theorem not_forall_managed_of_generate :
    ¬ ∀ (p : Provider) (s t : Site) (id : ObjectId) (pid : Identifier),
      (p.generate (.object id)).outcome s = (.ok ⟨⟩, t) →
      (s.objects.get id).isDataset = true →
      (t.objects.get id).pid? = .ok (some pid) → p.canManage pid = .ok true := by
  intro h
  have hanswer : ((excepting.generate (.object 0)).outcome passing).1 = .ok ⟨⟩ := by
    decide +kernel
  have hpid : (((excepting.generate (.object 0)).outcome passing).2.objects.get 0).pid? =
      .ok (some { protocol := .str "doi", authority := "10.5072", localPart := "FK2/000000",
                  urlStart := .str "https://doi.org/", provider := .str "FAKE" }) := by
    decide +kernel
  have hmanaged := h _ _ _ 0 _ (outcome_eq_of_fst hanswer) rfl hpid
  revert hmanaged
  decide +kernel

/-! ## Under the identifier of an owner -/

/-- **What depends on an owner goes on from the owner's identifier but for the separator.** A data
file gets the protocol and the authority of its owner's identifier, and the local part of that with
a slash and what was minted. Its separator is that of the provider, and it is printed as the owner's
identifier with a slash and what was minted exactly if the owner's separator is printed alike. -/
theorem extends_owner_of_generate {oid : ObjectId} {owner : Identifier}
    (h : (p.generate (.object id)).outcome s = (.ok ⟨⟩, t)) (hformat : p.fileFormat = .dependent)
    (hfile : (s.objects.get id).isDataset = false)
    (howner : (s.objects.get id).owner? = some (.object oid))
    (hpid : (s.objects.get oid).pid? = .ok (some owner)) :
    ∃ minted pid, p.Receives id s t
        ⟨owner.protocol, .str owner.authority, .str (owner.localPart ++ "/")⟩ minted pid ∧
      pid.protocol = owner.protocol ∧ pid.authority = owner.authority ∧
      pid.localPart = owner.localPart ++ "/" ++ minted ∧
      pid.separator = (if p.separator = .null then .str "" else p.separator) ∧
      (pid.toString = owner.toString ++ "/" ++ minted ↔
        pid.separator.text = owner.separator.text) := by
  obtain ⟨scope, minted, pid, hreceives⟩ := exists_receives_of_generate h
  obtain rfl : scope =
      ⟨owner.protocol, .str owner.authority, .str (owner.localPart ++ "/")⟩ := by
    have hscope := hreceives.scope_eq
    rw [GenerationCall.scopeIn, if_neg (by simp [hfile]), fileScope, howner] at hscope
    simp only [hformat, reduceCtorEq, if_false, ownerScope?_of_pid? hpid] at hscope
    exact (Except.ok.inj hscope).symm
  obtain ⟨authority, start, name, hauthority, hstart, heq⟩ :=
    exists_of_candidate hreceives.candidate
  obtain rfl := Value.str.inj hauthority
  obtain rfl := Value.str.inj hstart
  refine ⟨minted, pid, hreceives, by rw [heq], by rw [heq], by rw [heq], by rw [heq], ?_⟩
  rw [heq]
  simp only [Identifier.toString, Identifier.path, String.append_assoc, String.append_right_inj]
  simp only [← String.append_assoc, String.append_left_inj]

/-- A dataset with a DOI and a data file that it owns. -/
def collection : Site where
  objects := (Shelf.put {} 0
    { kind := .dataset, protocol := .str "doi", authority := .str "10.9999",
      localPart := .str "OLD/ABC" }).put 1 { kind := .dataFile, owner? := some (.object 0) }

theorem pid?_collection :
    (collection.objects.get (0 : ObjectId)).pid? =
      .ok (some { protocol := .str "doi", authority := "10.9999", localPart := "OLD/ABC",
                  urlStart := .str "https://doi.org/" }) := by
  decide +kernel

theorem extends_owner_of_generate_collection :
    ∃ t minted pid, (minting.generate (.object 1)).outcome collection = (.ok ⟨⟩, t) ∧
      (t.objects.get 1).pid? = .ok (some pid) ∧
      pid.toString = "doi:10.9999/OLD/ABC" ++ "/" ++ minted := by
  have hanswer : ((minting.generate (.object 1)).outcome collection).1 = .ok ⟨⟩ := by
    decide +kernel
  have hgenerate := outcome_eq_of_fst hanswer
  obtain ⟨minted, pid, hreceives, -, -, -, hseparator, htext⟩ :=
    extends_owner_of_generate hgenerate rfl rfl rfl pid?_collection
  exact ⟨_, minted, pid, hgenerate, hreceives.pid?, htext.2 (by rw [hseparator]; rfl)⟩

/-- A provider of local permanent links that have no separator. -/
def joining : Provider :=
  { linking with permaSeparator := .str "" }

/-- The identifier of a data file may be printed as something else than what that of its owner goes
on to. -/
theorem not_forall_extends_owner_of_generate :
    ¬ ∀ (p : Provider) (s t : Site) (id oid : ObjectId) (owner pid : Identifier),
      (p.generate (.object id)).outcome s = (.ok ⟨⟩, t) → p.fileFormat = .dependent →
      (s.objects.get id).owner? = some (.object oid) →
      (s.objects.get oid).pid? = .ok (some owner) →
      (t.objects.get id).pid? = .ok (some pid) →
      ∃ minted, pid.toString = owner.toString ++ "/" ++ minted := by
  intro h
  have hanswer : ((joining.generate (.object 1)).outcome collection).1 = .ok ⟨⟩ := by
    decide +kernel
  have hpid : (((joining.generate (.object 1)).outcome collection).2.objects.get 1).pid? =
      .ok (some { protocol := .str "doi", authority := "10.9999", localPart := "OLD/ABC/000000"
                  separator := .str "", provider := .str "PERMA"
                  urlStart := .str
                    "https://data.example.org/citation?persistentId=perma:" }) := by
    decide +kernel
  obtain ⟨minted, htext⟩ := h _ _ _ 1 0 _ _ (outcome_eq_of_fst hanswer) rfl rfl pid?_collection
    hpid
  have hbegins := Text.beginsWith_append ("doi:10.9999/OLD/ABC" ++ "/") minted
  have hprinted : Text.beginsWith "doi:10.9999/OLD/ABC/" "doi:10.9999OLD/ABC/000000" = true := by
    have hleft : "doi:10.9999OLD/ABC/000000" = "doi:10.9999/OLD/ABC" ++ "/" ++ minted := htext
    rw [hleft]
    exact hbegins
  exact absurd hprinted (by decide +kernel)

end Provider

end PersistentId
