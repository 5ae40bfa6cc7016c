import PersistentId.Proofs.Provider.Lifecycle
import PersistentId.Proofs.Request

/-!
# What becomes of identifiers that are made public

Whether an identifier counts as registered once it has been made public, and is refused to other
objects, is decided by what is held of it (`Provider.taken`): with a registry service it always is,
without one only if it is in use in the local service. An identifier that is generated on the way
is. One that the object had before is not reserved by being made public
(`Provider.not_forall_registered_of_publicize`).

`Provider.registered_of_publicize` says this for all providers that have a local service, and that
an identifier that is taken is not generated again.
-/

namespace PersistentId

open PersistentId.Action

/-! ## Sites on which identifiers are generated -/

/-- The site after providers have generated identifiers for objects. -/
def Site.afterGenerating (s : Site) : List (Provider × ObjectId) → Site
  | [] => s
  | (p, id) :: rest => ((p.generate (.object id)).outcome s).2.afterGenerating rest

theorem Provider.onward_generate (p : Provider) (id : ObjectId) (s : Site) :
    s.Onward ((p.generate (.object id)).outcome s).2 :=
  ((p.ends_generate id).weaken (fun _ h => h) (fun _ _ h => h.2) fun _ _ h => h).snd (.refl s)

theorem Site.onward_afterGenerating (s : Site) (generations : List (Provider × ObjectId)) :
    s.Onward (s.afterGenerating generations) := by
  induction generations generalizing s with
  | nil => exact .refl s
  | cons next rest ih => exact (next.1.onward_generate next.2 s).trans (ih _)

namespace Provider

variable {p q : Provider} {s t : Site} {sid : ServiceId} {rid : RegistryId} {id : ObjectId}
  {pid : Identifier} {key : String}

/-! ## Taken identifiers -/

/-- The registry service that a provider works with is not failing and has a record of an
identifier. -/
def Records (p : Provider) (s : Site) (key : String) : Prop :=
  ∃ rid, p.client = .registry rid ∧ (s.registries.get rid).failing.truthy = false ∧
    Table.has (s.registries.get rid).records (.str key) = true

/-- An identifier is in use where a provider works, or has a record there. -/
def Takes (p : Provider) (s : Site) (key : String) : Prop :=
  (∃ sid, p.localService? = .ok (some sid) ∧ (s.services.get sid).isFree key = false) ∨
    p.kind.usesRegistry = true ∧ p.Records s key

/-- Another provider works with the same services. -/
structure SharedWith (p q : Provider) : Prop where
  service : q.service = p.service
  client : p.kind.usesRegistry = true → q.kind.usesRegistry = true ∧ q.client = p.client

theorem Takes.onward (h : p.Takes s key) (hst : s.Onward t) : p.Takes t key := by
  rcases h with ⟨sid, hservice, hused⟩ | ⟨hkind, rid, hclient, hworks, hknown⟩
  · exact .inl ⟨sid, hservice, hst.inUse sid key hused⟩
  · exact .inr ⟨hkind, rid, hclient, by rw [hst.failing, hworks], by rw [hst.records, hknown]⟩

theorem Takes.not_findsFree (h : p.Takes s key) (hq : p.SharedWith q) : ¬ q.FindsFree s key := by
  intro hfree
  rcases h with ⟨sid, hservice, hused⟩ | ⟨hkind, rid, hclient, hworks, hknown⟩
  · have hsame : q.localService? = p.localService? := by
      rw [localService?, localService?, hq.service]
    rw [hfree.locally sid (hsame.trans hservice)] at hused
    cases hused
  · obtain ⟨hqkind, hqclient⟩ := hq.client hkind
    rw [hfree.remotely hqkind rid (hqclient.trans hclient) hworks] at hknown
    cases hknown

/-- **What is taken is not generated again.** -/
theorem Takes.pidText?_ne (h : p.Takes s key) (hq : p.SharedWith q)
    (generations : List (Provider × ObjectId))
    (hout : (q.generate (.object id)).outcome (s.afterGenerating generations) = (.ok (), t)) :
    (t.objects.get id).pidText? ≠ .ok (some key) := by
  obtain ⟨⟨pid, hpid, hclaims⟩, -⟩ := (q.ends_generate id).ok (.refl _) hout
  intro htext
  rw [DigitalObject.pidText?_of_pid? hpid] at htext
  cases htext
  exact (h.onward (s.onward_afterGenerating generations)).not_findsFree hq hclaims.1

/-! ## Answers -/

/-- Whether an identifier that has been made public counts as registered: with a registry service it
does, without one only if it is in use in the local service. -/
def taken (p : Provider) (s : Site) (sid : ServiceId) (pid : Identifier) : Bool :=
  p.kind.usesRegistry || !(s.services.get sid).isFree pid.toString

/-- An identifier is on record if the provider works with a registry service. -/
def Recorded (p : Provider) (s : Site) (pid : Identifier) : Prop :=
  p.kind.usesRegistry = true → p.Records s pid.toString

theorem exists_of_isRegistered (hs : p.service = .service sid) (hr : p.Recorded s pid) :
    ∃ t, (p.isRegistered (.pid pid) (.bool false)).outcome s =
      (.ok (.bool (p.taken s sid pid)), t) := by
  unfold isRegistered taken
  cases hk : p.kind.usesRegistry with
  | true =>
    obtain ⟨rid, hclient, hworks, hknown⟩ := hr hk
    have hask := outcome_isRemotelyKnown hclient s pid
    rw [if_neg (by rw [hworks]; nofun), hknown] at hask
    exact ⟨_, outcome_bind_ok hask⟩
  | false =>
    have hfree := p.outcome_isLocallyFree s pid
    rw [localService?_of_service hs] at hfree
    refine ⟨s, ?_⟩
    rw [if_neg nofun, outcome_bind_ok hfree]
    cases hused : (s.services.get sid).isFree pid.toString <;> simp [hused]

theorem outcome_isUnique_of_recorded (hs : p.service = .service sid) (hr : p.Recorded s pid) :
    ((p.isUnique (.pid pid)).outcome s).1 = .ok (!p.taken s sid pid) := by
  have hfree := p.outcome_isLocallyFree s pid
  rw [localService?_of_service hs] at hfree
  rw [isUnique, outcome_bind_ok hfree]
  cases hused : (s.services.get sid).isFree pid.toString with
  | false => simp [hused, taken]
  | true =>
    obtain ⟨t, hregistered⟩ := exists_of_isRegistered hs hr
    have hattempt : (p.isRegistered (.pid pid) (.bool false)).attempt.outcome s =
        (.ok (.ok (.bool (p.taken s sid pid))), t) := by
      rw [outcome_attempt, hregistered]
    simp only [Option.all_some, hused, Bool.not_true, Bool.false_eq_true, if_false]
    rw [outcome_bind_ok hattempt]
    rfl

theorem outcome_isObjectRegistered_of_recorded (hs : p.service = .service sid)
    (hpid : (s.objects.get id).pid? = .ok (some pid)) (hr : p.Recorded s pid) :
    ((p.isObjectRegistered (.object id)).outcome s).1 = .ok (.bool (p.taken s sid pid)) := by
  obtain ⟨t, hregistered⟩ := exists_of_isRegistered hs hr
  have hsubject : (subject (.object id)).outcome s = (.ok (s.objects.get id), s) := rfl
  rw [isObjectRegistered_object, outcome_bind_ok hsubject, hpid,
    outcome_bind_ok (outcome_ofExcept _ _), hregistered]

/-! ## Making public -/

/-- The registry service of a provider works, if it has one. -/
def Works (p : Provider) (s : Site) : Prop :=
  p.kind.usesRegistry = true → ∃ rid, p.client = .registry rid ∧
    (s.registries.get rid).failing.truthy = false

theorem Works.onward (h : p.Works s) (hst : s.Onward t) : p.Works t := by
  intro hk
  obtain ⟨rid, hclient, hworks⟩ := h hk
  exact ⟨rid, hclient, by rw [hst.failing, hworks]⟩

/-- With a registry service the identifier is on record afterwards, and the object has kept it. -/
theorem recorded_of_publicizeRemotely (hk : p.kind.usesRegistry = true) (hw : p.Works s)
    (h : (p.publicizeRemotely id).outcome s = (.ok true, t)) :
    (t.objects.get id).pid? = (s.objects.get id).pid? ∧
      ∀ pid, (t.objects.get id).pid? = .ok (some pid) → p.Recorded t pid := by
  obtain ⟨rid, hclient, hworks⟩ := hw hk
  rcases publicizeRemotely_cases hclient s id with
    ⟨-, fault, hyields⟩ | ⟨text, metadata, htext, -, hpublicize⟩
  · obtain ⟨host, hfail⟩ := hyields s.host
    cases h.symm.trans hfail
  obtain ⟨u, registered, hout, hservice, hobject⟩ := hpublicize s.host
  have hanswer := h.symm.trans hout
  obtain rfl : t = u := congrArg (·.2) hanswer
  -- an answer that this has succeeded is given only if there is a copy
  obtain ⟨copy, hcopy⟩ : ∃ copy, s.publicCopy metadata = .ok copy := by
    cases hcopy : s.publicCopy metadata with
    | error fault =>
      rw [hcopy, hworks] at hanswer
      cases hanswer
    | ok copy => exact ⟨copy, rfl⟩
  rw [hcopy] at hservice
  have hkept : (t.objects.get id).pid? = (s.objects.get id).pid? := by
    rw [hobject]
    rfl
  refine ⟨hkept, fun pid hpid _ => ⟨rid, hclient, ?_⟩⟩
  rw [hkept] at hpid
  rw [DigitalObject.pidText?_of_pid? hpid] at htext
  cases htext
  rw [RegistryService.outcome_publicize _ (Value.asKey_ofText? _),
    if_neg (ne_true_of_eq_false hworks)] at hservice
  rw [hservice]
  exact ⟨hworks, Table.has_iff_exists.2 ⟨_, Table.find?_put_self _ _ _⟩⟩

/-- What is there when an identifier has been made public. -/
theorem exists_of_publicize (hs : p.service = .service sid) (hw : p.Works s)
    (h : (p.publicize (.object id)).outcome s = (.ok true, t)) :
    (∀ pid, (t.objects.get id).pid? = .ok (some pid) → p.Recorded t pid) ∧
      ((s.objects.get id).lacksLocalPart = true →
        ∃ pid, (t.objects.get id).pid? = .ok (some pid) ∧ p.taken t sid pid = true) := by
  have hobject : (Site.object id).outcome s = (.ok (s.objects.get id), s) := rfl
  rw [publicize, outcome_bind_ok hobject] at h
  cases hlacks : (s.objects.get id).lacksLocalPart with
  | false =>
    refine ⟨?_, nofun⟩
    cases hk : p.kind.usesRegistry with
    | false => exact fun pid _ hk' => absurd hk' (by rw [hk]; nofun)
    | true =>
      simp only [hlacks, hk] at h
      exact (recorded_of_publicizeRemotely hk hw h).2
  | true =>
    simp only [hlacks, if_true] at h
    obtain ⟨⟨⟩, u, hgenerate, h⟩ := exists_of_outcome_bind h
    obtain ⟨⟨pid, hpid, -, hused⟩, honward⟩ := (p.ends_generate id).ok (.refl _) hgenerate
    cases hk : p.kind.usesRegistry with
    | false =>
      simp only [hk] at h
      cases h
      refine ⟨fun pid _ hk' => absurd hk' (by rw [hk]; nofun), fun _ => ⟨pid, hpid, ?_⟩⟩
      rw [taken, hused sid (localService?_of_service hs)]
      simp
    | true =>
      simp only [hk] at h
      obtain ⟨hkept, hrecorded⟩ := recorded_of_publicizeRemotely hk (hw.onward honward) h
      exact ⟨hrecorded, fun _ => ⟨pid, hkept.trans hpid, by rw [taken, hk]; rfl⟩⟩

theorem takes_of_taken (hs : p.service = .service sid) (hr : p.Recorded s pid)
    (h : p.taken s sid pid = true) : p.Takes s pid.toString := by
  rw [taken, Bool.or_eq_true, Bool.not_eq_true'] at h
  rcases h with hk | hused
  · exact .inr ⟨hk, hr hk⟩
  · exact .inl ⟨sid, localService?_of_service hs, hused⟩

/-- **An identifier that has been made public counts as registered and is refused to other objects
exactly if it is taken**: if it was generated for that, if there is a registry service, or if it is
in use in the local service. If it is, it is not generated again. An object without a valid
identifier is not registered either. -/
theorem registered_of_publicize (hs : p.service = .service sid) (hw : p.Works s)
    (h : (p.publicize (.object id)).outcome s = (.ok true, t)) :
    ((s.objects.get id).lacksLocalPart = true →
      ∃ pid, (t.objects.get id).pid? = .ok (some pid) ∧ p.taken t sid pid = true) ∧
    ((t.objects.get id).pid? = .ok none →
      ((p.isObjectRegistered (.object id)).outcome t).1 = .ok (.bool false)) ∧
    ∀ pid, (t.objects.get id).pid? = .ok (some pid) →
      ((p.isObjectRegistered (.object id)).outcome t).1 = .ok (.bool (p.taken t sid pid)) ∧
      ((p.isUnique (.pid pid)).outcome t).1 = .ok (!p.taken t sid pid) ∧
      (p.taken t sid pid = true → ∀ generations q other u, p.SharedWith q →
        (q.generate (.object other)).outcome (t.afterGenerating generations) = (.ok (), u) →
          (u.objects.get other).pidText? ≠ .ok (some pid.toString)) := by
  obtain ⟨hrecorded, hgenerated⟩ := exists_of_publicize hs hw h
  refine ⟨hgenerated, fun hnone => ?_, fun pid hpid => ⟨?_, ?_, fun htaken => ?_⟩⟩
  · have hsubject : (subject (.object id)).outcome t = (.ok (t.objects.get id), t) := rfl
    rw [isObjectRegistered_object, outcome_bind_ok hsubject, hnone,
      outcome_bind_ok (outcome_ofExcept _ _)]
    rfl
  · exact outcome_isObjectRegistered_of_recorded hs hpid (hrecorded pid hpid)
  · exact outcome_isUnique_of_recorded hs (hrecorded pid hpid)
  · intro generations q other u hq hout
    exact (takes_of_taken hs (hrecorded pid hpid) htaken).pidText?_ne hq generations hout

/-- A site with a dataset that has an identifier and one that has none. -/
def deposit : Site where
  objects := (Shelf.put {} 0
    { kind := .dataset, protocol := .str "doi", authority := .str "10.5072",
      localPart := .str "FK2/000000" }).put 1 { kind := .dataset }

theorem minting_works (s : Site) : minting.Works s := nofun

/-- An identifier is generated for a dataset that is made public. -/
theorem registered_of_publicize_deposit :
    ∃ t pid, (minting.publicize (.object 1)).outcome deposit = (.ok true, t) ∧
      (t.objects.get 1).pid? = .ok (some pid) ∧ minting.taken t 0 pid = true ∧
      ((minting.isObjectRegistered (.object 1)).outcome t).1 = .ok (.bool true) := by
  have hout : (minting.publicize (.object 1)).outcome deposit =
      (.ok true, ((minting.publicize (.object 1)).outcome deposit).2) := by
    have hanswer : ((minting.publicize (.object 1)).outcome deposit).1 = .ok true := by
      decide +kernel
    rw [← hanswer]
  have hservice : minting.service = .service 0 := rfl
  obtain ⟨hgenerated, -, hanswers⟩ := registered_of_publicize hservice (minting_works deposit) hout
  obtain ⟨pid, hpid, htaken⟩ := hgenerated (by decide +kernel)
  refine ⟨_, pid, hout, hpid, htaken, ?_⟩
  rw [(hanswers pid hpid).1, htaken]

/-- Making an identifier public that the object had before does not reserve it, and so it is not
registered. -/
theorem not_forall_registered_of_publicize :
    ¬ ∀ (p : Provider) (s t : Site) (sid : ServiceId) (id : ObjectId) (pid : Identifier),
      p.service = .service sid → p.Works s →
      (p.publicize (.object id)).outcome s = (.ok true, t) →
      (t.objects.get id).pid? = .ok (some pid) →
      ((p.isObjectRegistered (.object id)).outcome t).1 = .ok (.bool true) ∧
      ((p.isUnique (.pid pid)).outcome t).1 = .ok false ∧
      ∀ other u, (p.generate (.object other)).outcome t = (.ok (), u) →
        (u.objects.get other).pidText? ≠ .ok (some pid.toString) := by
  intro h
  obtain ⟨hregistered, -⟩ := h minting deposit deposit 0 0 _ rfl (minting_works deposit) rfl rfl
  have hnot : ((minting.isObjectRegistered (.object 0)).outcome deposit).1 = .ok (.bool false) := by
    decide +kernel
  rw [hnot] at hregistered
  cases hregistered

end Provider

end PersistentId
