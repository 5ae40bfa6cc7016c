import PersistentId.Proofs.Noid
import PersistentId.Proofs.Onward
import PersistentId.Provider.Generate

/-!
# What the generation of identifiers leaves alone

However the generation of an identifier ends, the site has gone `Site.Onward` (`ends_generate`). If
it succeeds, the object has an identifier that the provider found free before and that is in use in
its local service afterwards (`Obtains`).

The lemmas follow the definitions from the minting of a candidate on.
-/

namespace PersistentId

open PersistentId.Action

variable {p : Provider} {s : Site} {pid : Identifier} {key : String}

/-- What a minter makes is not empty. -/
theorem Minter.ends_mint (minter : Minter) (scope : Value) :
    Ends (minter.mint scope) s.Onward (fun minted t => minted ≠ "" ∧ s.Onward t)
      fun _ => s.Onward := by
  unfold mint
  split
  · refine Ends.bind (Site.keeps_draw _ _) fun n => ?_
    refine Ends.ofExcept_bind (fun _ _ _ h => h) fun minted hminted => ?_
    have hne := Noid.render_ne_empty hminted
    refine Ends.pure fun t h => ⟨?_, h⟩
    split
    · exact Text.upper_ne_empty hne
    · exact hne
  · next service =>
    refine Ends.bind (Q := fun _ => s.Onward) ?_ fun n => ?_
    · unfold nextNumber
      split
      · exact Site.keeps_onLedger fun _ => Ledger.keeps_nextNumber _
      · exact Ends.throw fun _ h => h
    · exact Ends.ofExcept (fun _ _ _ h => h) fun minted hminted t h =>
        ⟨Noid.render_ne_empty hminted, h⟩

namespace Provider

/-! ## Candidates -/

theorem whole_of_candidate {scope : Scope} {minted : String} (hm : minted ≠ "")
    (h : p.candidate scope minted = .ok pid) : pid.Whole := by
  obtain ⟨start, -, h⟩ := exists_of_bind_eq_ok h
  obtain ⟨name, -, h⟩ := exists_of_bind_eq_ok h
  exact Identifier.whole_of_make h (by simp [hm])

theorem ends_nextCandidate (p : Provider) (scope : Scope) :
    Ends (p.nextCandidate scope) s.Onward (fun pid t => pid.Whole ∧ s.Onward t)
      fun _ => s.Onward := by
  unfold nextCandidate
  refine Ends.ofExcept_bind (fun _ _ _ h => h) fun name _ => ?_
  refine Ends.bind (p.minter.ends_mint _) fun minted => ?_
  exact Ends.ofExcept (fun _ _ _ h => h.2) fun pid hpid t h => ⟨whole_of_candidate h.1 hpid, h.2⟩

/-- An identifier is free where a provider works: in its local service, and in its registry service
as far as that answers. -/
structure FindsFree (p : Provider) (s : Site) (key : String) : Prop where
  locally : ∀ sid, p.localService? = .ok (some sid) → (s.services.get sid).isFree key = true
  remotely : p.kind.usesRegistry = true → ∀ rid, p.client = .registry rid →
    (s.registries.get rid).failing.truthy = false →
      Table.has (s.registries.get rid).records (.str key) = false

/-- An identifier is in use in the local service of a provider, if it has one. -/
def Reserves (p : Provider) (s : Site) (key : String) : Prop :=
  ∀ sid, p.localService? = .ok (some sid) → (s.services.get sid).isFree key = false

theorem outcome_isLocallyFree (p : Provider) (s : Site) (pid : Identifier) :
    (p.isLocallyFree (.pid pid)).outcome s =
      (p.localService?.map fun found =>
        found.all fun sid => (s.services.get sid).isFree pid.toString, s) := by
  unfold isLocallyFree
  rw [outcome_bind, outcome_ofExcept]
  rcases p.localService? with fault | _ | sid <;> rfl

theorem ends_isLocallyFree (p : Provider) (pid : Identifier) :
    Ends (p.isLocallyFree (.pid pid)) s.Onward
      (fun free t => (free = true → ∀ sid, p.localService? = .ok (some sid) →
        (s.services.get sid).isFree pid.toString = true) ∧ s.Onward t) fun _ => s.Onward := by
  intro t ht
  rw [outcome_isLocallyFree]
  rcases hservice : p.localService? with fault | found
  · exact ht
  · refine ⟨fun hfree sid hsid => ht.isFree ?_, ht⟩
    cases hsid
    exact hfree

/-- A registry service that says that it does not know an identifier has no record of it, and one
that does not say is failing. -/
def Answers (p : Provider) (s : Site) (key : String) (answer : Except Fault Bool) : Prop :=
  p.kind.usesRegistry = true → ∀ rid, p.client = .registry rid →
    match answer with
    | .ok known =>
      known = false → Table.has (s.registries.get rid).records (.str key) = false
    | .error _ => (s.registries.get rid).failing.truthy = true

/-- A registry service that answers does so from its records. -/
theorem outcome_isRemotelyKnown {rid : RegistryId} (hclient : p.client = .registry rid) (s : Site)
    (pid : Identifier) :
    (p.isRemotelyKnown (.ok pid)).outcome s =
      (if (s.registries.get rid).failing.truthy then .error (.serviceDown (.str pid.toString))
        else .ok (Table.has (s.registries.get rid).records (.str pid.toString)),
        { s with registries := s.registries.put rid ((s.registries.get rid).asked [pid]) }) := by
  have hknown := RegistryService.outcome_isKnown (s.registries.get rid)
    (show Value.asKey (.str pid.toString) = .ok (.str pid.toString) from rfl)
  simp only [isRemotelyKnown, hclient]
  rw [outcome_bind_ok (outcome_ofExcept _ _), Site.onRegistry, outcome_zoom, hknown]
  rfl

theorem ends_isRemotelyKnown (p : Provider) (hpid : pid.Whole) :
    Ends (p.isRemotelyKnown (.ok pid)) s.Onward
      (fun known t => p.Answers s pid.toString (.ok known) ∧ s.Onward t)
      fun fault t => p.Answers s pid.toString (.error fault) ∧ s.Onward t := by
  by_cases hclient : ∃ rid, p.client = .registry rid
  · obtain ⟨rid, hclient⟩ := hclient
    intro t ht
    have hasked := ht.trans (.ask t rid hpid)
    rw [outcome_isRemotelyKnown hclient, ht.failing, ht.records]
    cases hf : (s.registries.get rid).failing.truthy with
    | true =>
      refine ⟨fun _ other hother => ?_, hasked⟩
      obtain rfl := Operand.registry.inj (hclient.symm.trans hother)
      exact hf
    | false =>
      refine ⟨fun _ other hother hfalse => ?_, hasked⟩
      obtain rfl := Operand.registry.inj (hclient.symm.trans hother)
      exact hfalse
  · unfold isRemotelyKnown
    split
    · next rid hrid => exact absurd ⟨rid, hrid⟩ hclient
    · exact Ends.throw fun t ht => ⟨fun _ rid hrid => absurd ⟨rid, hrid⟩ hclient, ht⟩

theorem ends_isRegistered (p : Provider) (hpid : pid.Whole) :
    Ends (p.isRegistered (.pid pid) (.bool false)) s.Onward
      (fun known t => p.Answers s pid.toString (.ok known.truthy) ∧ s.Onward t)
      fun fault t => p.Answers s pid.toString (.error fault) ∧ s.Onward t := by
  unfold isRegistered
  split
  · exact Ends.bind (ends_isRemotelyKnown p hpid) fun known => Ends.pure fun t h => h
  · next hkind =>
    have hnone (answer : Except Fault Bool) : p.Answers s pid.toString answer :=
      fun he => absurd he hkind
    refine Ends.bind ((ends_isLocallyFree p pid).weaken (fun _ h => h) (fun _ _ h => h.2)
      fun _ _ h => ⟨hnone _, h⟩) fun free => ?_
    split <;> exact Ends.pure fun t h => ⟨hnone _, h⟩

/-- **What is called unique is free**, unless the registry service fails. -/
theorem ends_isUnique (p : Provider) (hpid : pid.Whole) :
    Ends (p.isUnique (.pid pid)) s.Onward
      (fun free t => (free = true → p.FindsFree s pid.toString) ∧ s.Onward t)
      fun _ => s.Onward := by
  unfold isUnique
  refine Ends.bind (ends_isLocallyFree p pid) fun free => Ends.assume fun hlocally => ?_
  split
  · exact Ends.pure fun t h => ⟨nofun, h⟩
  · next hfree =>
    have hfree : free = true := by simpa using hfree
    refine Ends.bind (Ends.attempt (R := fun answer t =>
      p.Answers s pid.toString (answer.map Value.truthy) ∧ s.Onward t)
      (ends_isRegistered p hpid)) fun answer => Ends.assume fun hanswer => ?_
    cases answer with
    | ok known =>
      refine Ends.pure fun t h => ⟨fun hknown => ⟨hlocally hfree, fun hkind rid hrid _ => ?_⟩, h⟩
      exact hanswer hkind rid hrid (by simpa using hknown)
    | error fault =>
      dsimp only
      split
      · exact Ends.throw_bind fun t h => h
      · refine Ends.bind (Q := fun _ => s.Onward) (fun t h => h) fun text => ?_
        refine Ends.bind (Site.keeps_note _ _ _) fun _ => Ends.pure fun t h => ⟨fun _ => ?_, h⟩
        refine ⟨hlocally hfree, fun hkind rid hrid hworks => ?_⟩
        rw [hanswer hkind rid hrid] at hworks
        cases hworks

/-! ## Claiming -/

theorem keeps_note (p : Provider) (level : Level) (message : String) :
    Keeps (p.note level message) s.Onward :=
  Site.keeps_note _ _ _

/-- What has been reserved is in use. -/
theorem ends_reserve (p : Provider) (pid : Identifier) :
    Ends (p.reserve pid) s.Onward
      (fun taken t => (taken = true → p.Reserves t pid.toString) ∧ s.Onward t)
      fun _ => s.Onward := by
  unfold reserve
  refine Ends.ofExcept_bind (fun _ _ _ h => h) fun service? hservice => ?_
  cases service? with
  | none =>
    refine Ends.pure fun t h => ⟨fun _ sid hsid => ?_, h⟩
    rw [hservice] at hsid
    cases hsid
  | some sid =>
    refine Ends.ofExcept_bind (fun _ _ _ h => h) fun name _ => ?_
    refine Ends.bind (Ends.attempt (R := fun result t =>
      (result = .ok () → p.Reserves t pid.toString) ∧ s.Onward t) fun t ht => ?_) fun result => ?_
    · have hkeeps : Keeps (Site.onService sid (LocalService.reserve pid.toString
          (.map [("provider", .str name)]))) s.Onward :=
        Site.keeps_onService fun _ => LocalService.keeps_reserve _ _
      have hkept := hkeeps t ht
      rcases hout : (LocalService.reserve pid.toString (.map [("provider", .str name)])).outcome
        (t.services.get sid, t.host) with ⟨fault | ⟨⟩, service, host⟩
      · rw [Site.onService, outcome_zoom, hout] at hkept ⊢
        exact ⟨nofun, hkept⟩
      · rw [Site.onService, outcome_zoom, hout] at hkept ⊢
        refine ⟨fun _ other hother => ?_, hkept⟩
        rw [hservice] at hother
        cases hother
        rw [Shelf.get_put_self]
        exact LocalService.isFree_of_reserve hout
    · split
      · exact Ends.pure fun t h => ⟨fun _ => h.1 rfl, h.2⟩
      · exact Ends.bind ((keeps_note p _ _).mono fun t h => h.2) fun _ =>
          Ends.pure fun t h => ⟨nofun, h⟩
      · exact Ends.throw fun t h => h.2

/-- An identifier was free for a provider on the one site and is in use for it on the other. -/
def Claims (p : Provider) (s t : Site) (key : String) : Prop :=
  p.FindsFree s key ∧ p.Reserves t key

theorem ends_claim (p : Provider) (hpid : pid.Whole) :
    Ends (p.claim pid) s.Onward
      (fun taken t => (taken = true → p.Claims s t pid.toString) ∧ s.Onward t)
      fun _ => s.Onward := by
  unfold claim
  refine Ends.bind (ends_isUnique p hpid) fun free => Ends.assume fun hfree => ?_
  split
  · next he =>
    exact (ends_reserve p pid).weaken (fun _ h => h)
      (fun _ _ h => ⟨fun ht => ⟨hfree he, h.1 ht⟩, h.2⟩) fun _ _ h => h
  · exact Ends.bind (keeps_note p _ _) fun _ => Ends.pure fun t h => ⟨nofun, h⟩

theorem ends_tryCandidates (p : Provider) (scope : Scope) (attempts : Nat) :
    Ends (p.tryCandidates scope attempts) s.Onward
      (fun found t => (∀ pid, found = some pid → pid.Whole ∧ p.Claims s t pid.toString) ∧
        s.Onward t) fun _ => s.Onward := by
  induction attempts with
  | zero => exact Ends.pure fun t h => ⟨nofun, h⟩
  | succ attempts ih =>
    refine Ends.bind (ends_nextCandidate p scope) fun pid => Ends.assume fun hpid => ?_
    refine Ends.bind (ends_claim p hpid) fun taken => ?_
    split
    · next he =>
      refine Ends.pure fun t h => ⟨fun other hother => ?_, h.2⟩
      cases hother
      exact ⟨hpid, h.1 he⟩
    · exact ih.mono fun t h => h.2

theorem ends_claimUnder (p : Provider) (scope : Scope) :
    Ends (p.claimUnder scope) s.Onward
      (fun pid t => pid.Whole ∧ p.Claims s t pid.toString ∧ s.Onward t) fun _ => s.Onward := by
  unfold claimUnder
  refine Ends.ofExcept_bind (fun _ _ _ h => h) fun name _ => ?_
  refine Ends.ofExcept_bind (fun _ _ _ h => h) fun _ _ => ?_
  refine Ends.ofExcept_bind (fun _ _ _ h => h) fun attempts _ => ?_
  refine Ends.bind (ends_tryCandidates p scope attempts.toNat) fun found => ?_
  cases found with
  | some pid => exact Ends.pure fun t h => ⟨(h.1 pid rfl).1, (h.1 pid rfl).2, h.2⟩
  | none => exact Ends.throw fun t h => h.2

/-! ## Objects -/

/-- An object has an identifier that was free before and is in use now. -/
def Obtains (p : Provider) (id : ObjectId) (s t : Site) : Prop :=
  ∃ pid, (t.objects.get id).pid? = .ok (some pid) ∧ p.Claims s t pid.toString

theorem ends_generateUnder (p : Provider) (id : ObjectId) (scope : Scope) :
    Ends (p.generateUnder id scope) s.Onward (fun _ t => p.Obtains id s t ∧ s.Onward t)
      fun _ => s.Onward := by
  unfold generateUnder
  refine Ends.bind (ends_claimUnder p scope) fun pid => ?_
  refine Ends.bind (Q := fun _ t => p.Obtains id s t ∧ s.Onward t) (Ends.modify ?_) fun _ =>
    Ends.pure fun _ h => h
  rintro t ⟨hpid, hclaims, ht⟩
  refine ⟨⟨pid, ?_, hclaims⟩, ?_⟩
  · rw [Shelf.get_put_self, DigitalObject.pid?_setPid _ hpid]
  · exact ht.trans (.of_eq rfl rfl)

theorem keeps_enterScope (id : ObjectId) (scope : Scope) : Keeps (enterScope id scope) s.Onward :=
  Site.keeps_change id _

theorem ends_generateForFile (p : Provider) (id : ObjectId) :
    Ends (p.generateForFile (.object id)) s.Onward (fun _ t => p.Obtains id s t ∧ s.Onward t)
      fun _ => s.Onward := by
  unfold generateForFile
  refine Ends.ofExcept_bind (fun _ _ _ h => h) fun found hfound => ?_
  obtain rfl := Except.ok.inj hfound
  refine Ends.get_bind fun t ht => ?_
  refine Ends.ofExcept_bind (fun _ u _ hu => hu ▸ ht) fun scope _ => ?_
  exact Ends.bind ((keeps_enterScope id scope).mono fun u hu => hu ▸ ht) fun _ =>
    ends_generateUnder p id scope

/-- **However the generation of an identifier ends**, the site has gone onward. If it succeeds, the
object has an identifier that was free before and is in use now. -/
theorem ends_generate (p : Provider) (id : ObjectId) :
    Ends (p.generate (.object id)) s.Onward (fun _ t => p.Obtains id s t ∧ s.Onward t)
      fun _ => s.Onward := by
  unfold generate
  refine Ends.bind (Q := fun _ => s.Onward) (fun t h => h) fun obj => ?_
  split
  · refine Ends.bind (Q := fun _ t => p.Obtains id s t ∧ s.Onward t) ?_ fun _ =>
      Ends.pure fun _ h => h
    exact Ends.bind (keeps_enterScope id _) fun _ => ends_generateUnder p id _
  · exact Ends.bind (ends_generateForFile p id) fun _ => Ends.pure fun _ h => h

end Provider

end PersistentId
