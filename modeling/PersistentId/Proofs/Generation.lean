import PersistentId.Proofs.Provider.Candidates
import PersistentId.Proofs.Provider.Failure

/-!
# The first candidate that is free

A dataset gets an identifier under the scope of the provider, and so does a data file, unless its
identifier depends on that of its owner and the owner has one (`Provider.ScopeOf`).

`Prepared.outcome_generate` says what becomes of an object that an identifier is generated for: it
is given the first of the candidates that come next which is free; or generation fails, because none
of as many as are tried is free or because a further one cannot be made. It also says what is left
on the site: what has come on record, and how many random numbers or numbers of the scope have been
used up. With a minter that does not run out only the first two happen
(`Provider.generates_first_free`).
-/

namespace PersistentId

open PersistentId.Action

namespace Provider

variable {p : Provider} {scope : Scope} {s t u : Site} {sid : ServiceId} {id : ObjectId}
  {c : Nat → Identifier} {m : Int} {text : String} {template : Noid.Template}

/-! ## Scopes -/

/-- The scope for a data file with something in the place for its owner: that of the provider,
unless the file depends on an owner with an identifier. -/
inductive FileScope (p : Provider) (s : Site) : Operand → Scope → Prop where
  | independent {owner : Operand} (h : p.fileFormat = .independent) :
      FileScope p s owner p.ownScope
  | unowned : FileScope p s .nothing p.ownScope
  | unnamed {oid : ObjectId} (h : (s.objects.get oid).lacksLocalPart = true) :
      FileScope p s (.object oid) p.ownScope
  | owned {oid : ObjectId} {pid : Identifier} (h : p.fileFormat = .dependent)
      (hpid : (s.objects.get oid).pid? = .ok (some pid)) (hshort : pid.protocol.isShort = true) :
      FileScope p s (.object oid)
        ⟨pid.protocol, .str pid.authority, .str (pid.localPart ++ "/")⟩

/-- The scope for an object, which is a dataset or has a place for an owner. -/
inductive ScopeOf (p : Provider) (s : Site) (obj : DigitalObject) : Scope → Prop where
  | dataset (h : obj.isDataset = true) : ScopeOf p s obj p.ownScope
  | file {owner : Operand} {scope : Scope} (h : obj.isDataset = false)
      (howner : obj.owner? = some owner) (hscope : p.FileScope s owner scope) :
      ScopeOf p s obj scope

theorem Prepared.fits_ownScope (h : p.Prepared sid) : p.ownScope.Fits :=
  ⟨nofun, rfl, h.authority, h.shoulder⟩

/-- What stands before a slash in a local part makes a proper start with it. -/
theorem FileScope.fits {owner : Operand} (h : p.Prepared sid) (hs : p.FileScope s owner scope) :
    scope.Fits := by
  cases hs with
  | independent _ | unowned | unnamed _ => exact h.fits_ownScope
  | @owned oid pid _ hpid hshort =>
    obtain ⟨hfits, -⟩ := DigitalObject.fits_of_pid? hpid
    obtain ⟨hprotocol, _, _, ha, hl, hproper, hproper'⟩ := wellFormed_eq_true_iff.1 hfits
    obtain rfl := Value.str.inj ha
    obtain rfl := Value.str.inj hl
    exact ⟨hprotocol, hshort, ⟨_, rfl, hproper⟩, _, rfl, Part.isProper_append hproper' (by decide)⟩

theorem ScopeOf.fits {obj : DigitalObject} (h : p.Prepared sid) (hs : p.ScopeOf s obj scope) :
    scope.Fits := by
  cases hs with
  | dataset _ => exact h.fits_ownScope
  | file _ _ hscope => exact hscope.fits h

/-- Under an owner with an identifier that is extended by a slash and what is minted. -/
theorem ownerScope?_of_pid? {oid : ObjectId} {pid : Identifier}
    (hpid : (s.objects.get oid).pid? = .ok (some pid)) :
    ownerScope? s (.object oid) =
      .ok (some ⟨pid.protocol, .str pid.authority, .str (pid.localPart ++ "/")⟩) := by
  obtain ⟨hprotocol, hauthority, hlocal⟩ := DigitalObject.parts_of_pid? hpid
  have htruthy : (!(Value.str pid.localPart).truthy) ≠ true := by
    simpa [Value.truthy] using (DigitalObject.fits_of_pid? hpid).2
  rw [ownerScope?, scopeUnder?, ← hprotocol, ← hauthority, ← hlocal, if_neg htruthy]
  rfl

theorem FileScope.fileScope_eq {owner : Operand} {file : DigitalObject}
    (h : p.FileScope s owner scope) (howner : file.owner? = some owner) :
    p.fileScope s file = .ok scope := by
  rw [fileScope, howner]
  dsimp only
  split
  · next hformat =>
    cases h with
    | independent _ | unowned | unnamed _ => rfl
    | owned hdependent _ _ =>
      rw [hformat] at hdependent
      cases hdependent
  · next hformat =>
    cases h with
    | independent hindependent => exact absurd hindependent hformat
    | unowned => rfl
    | unnamed hlacks =>
      rw [DigitalObject.lacksLocalPart] at hlacks
      rw [ownerScope?, scopeUnder?, if_pos hlacks]
      rfl
    | owned _ hpid _ =>
      rw [ownerScope?_of_pid? hpid]
      rfl

theorem ScopeOf.scopeIn_eq (h : p.ScopeOf s (s.objects.get id) scope) :
    GenerationCall.plain.scopeIn p s id = .ok scope := by
  rw [GenerationCall.scopeIn]
  cases h with
  | dataset hdataset => rw [if_pos hdataset]
  | file hfile howner hscope =>
    rw [if_neg (by simp [hfile]), hscope.fileScope_eq howner]

/-! ## Generating under a scope -/

/-- The site on which an object has the protocol and the authority of a scope. -/
def entering (s : Site) (id : ObjectId) (scope : Scope) : Site :=
  { s with objects := s.objects.put id (entered (s.objects.get id) scope) }

/-- An object is given an identifier under the scope that it is for. -/
theorem outcome_generate_of_scopeIn {result : Except Fault String}
    (h : GenerationCall.plain.scopeIn p s id = .ok scope)
    (hunder : (p.generateUnder id scope).outcome (entering s id scope) = (result, t)) :
    (p.generate (.object id)).outcome s = (result.map fun _ => ⟨⟩, t) := by
  have hsubject : (subject (.object id)).outcome s = (.ok (s.objects.get id), s) := rfl
  have hentered : (do enterScope id scope; p.generateUnder id scope).outcome s = (result, t) := by
    rw [outcome_bind_ok (outcome_enterScope id scope s)]
    exact hunder
  have hdiscard {act : Site.Use String} (hact : act.outcome s = (result, t)) :
      (do let _ ← act : Site.Use Unit).outcome s = (result.map fun _ => ⟨⟩, t) := by
    cases result with
    | error fault => exact outcome_bind_error hact
    | ok name => exact outcome_bind_ok hact
  rw [generate, outcome_bind_ok hsubject]
  rw [GenerationCall.scopeIn] at h
  split at h
  · next hdataset =>
    cases h
    rw [if_pos hdataset]
    exact hdiscard hentered
  · next hfile =>
    rw [if_neg hfile]
    have hobject : (Action.ofExcept (Operand.object id).asObject : Site.Use ObjectId).outcome s =
        (.ok id, s) := rfl
    refine hdiscard ?_
    rw [generateForFile, outcome_bind_ok hobject, outcome_bind_ok (outcome_get s), h,
      outcome_bind_ok (outcome_ofExcept _ _)]
    exact hentered

/-- What generating under a scope fails with if none of `m` candidates is free. -/
def shortage (p : Provider) (scope : Scope) (m : Int) : Fault :=
  if isShort m then .noneFree (p.nameOf scope) m else .tooLong

/-- The first candidate that can be claimed is taken, and it is a failure if there is none or if
trying them fails. -/
theorem Prepared.outcome_claimUnder (h : p.Prepared sid) (hf : scope.Fits)
    (hm : p.maxAttempts.asInt = .ok m) {result : Except Fault (Option Identifier)}
    (htry : (p.tryCandidates scope m.toNat).outcome s = (result, t)) :
    (p.claimUnder scope).outcome s =
      (match result with
        | .ok (some pid) => .ok pid
        | .ok none => .error (p.shortage scope m)
        | .error fault => .error fault, t) := by
  rw [claimUnder, h.scopeName_eq hf, outcome_bind_ok (outcome_ofExcept _ _), h.localService?_eq,
    outcome_bind_ok (outcome_ofExcept _ _), hm, outcome_bind_ok (outcome_ofExcept _ _)]
  cases result with
  | error fault => exact outcome_bind_error htry
  | ok found =>
    rw [outcome_bind_ok htry]
    cases found <;> rfl

/-! ## What becomes of the object and the site -/

/-- What the generation of an identifier for an object leaves alone, however it ends. -/
structure Spares (id : ObjectId) (sid : ServiceId) (s t : Site) : Prop where
  objects : ∀ other, other ≠ id → t.objects.get other = s.objects.get other
  providers : t.providers = s.providers
  records : ∀ rid, (t.registries.get rid).records = (s.registries.get rid).records
  failing : ∀ rid, (t.registries.get rid).failing = (s.registries.get rid).failing
  services : ∀ other, other ≠ sid → t.services.get other = s.services.get other

/-- An object has been given an identifier when `k` local parts had been minted: it has that one,
just that one has come on record, and just these have been used up. As to the numbers of a minter in
sequence, so the ledger remembers, and so it is stored as long as identifiers are stored apart. -/
structure Assigned (p : Provider) (sid : ServiceId) (id : ObjectId) (scope : Scope)
    (pid : Identifier) (k : Nat) (s t : Site) : Prop where
  object : t.objects.get id = (s.objects.get id).setPid (some pid)
  pid? : (t.objects.get id).pid? = .ok (some pid)
  data? : ∀ key, (t.services.get sid).ledger.data? key =
    if key = pid.toString then some p.entry else (s.services.get sid).ledger.data? key
  spends : (∀ template service, p.minter = .sequence template service →
      (s.services.get sid).ledger.Apart s.host) →
    p.minter.Spends sid (p.nameOf scope) k s t
  remembers : ∀ template service, p.minter = .sequence template service →
    (t.services.get sid).ledger.numbers = Table.put (s.services.get sid).ledger.numbers
      (.str (p.nameOf scope)) ((s.services.get sid).ledger.coming s.host (p.nameOf scope) + k)

/-- No identifier has been found for an object when `k` local parts had been minted: it has the
protocol and the authority of the scope, nothing has come on record, and just the local parts have
been used up. -/
structure Refused (p : Provider) (sid : ServiceId) (id : ObjectId) (scope : Scope) (k : Nat)
    (s t : Site) : Prop where
  unfinished : Unfinished id scope s t
  data? : ∀ key, (t.services.get sid).ledger.data? key = (s.services.get sid).ledger.data? key
  spends : p.minter.Spends sid (p.nameOf scope) k s t

/-- A candidate that comes next is a whole identifier. -/
theorem UpcomingTo.whole (h : p.Prepared sid) (hof : p.minter.OfTemplate sid text template)
    (hf : scope.Fits) {i k : Nat} (hc : p.UpcomingTo sid scope k s c) (hi : i < k) :
    (c i).Whole := by
  obtain ⟨minted, hnth, hmade⟩ := hc i hi
  rw [hmade]
  exact whole_of_candidate (Minter.ne_empty_of_rendered hnth)
    (h.candidate_eq hf (hof.isPlain_of_rendered hnth))

/-- Reserving an identifier uses up nothing more. -/
theorem spends_of_reserved {k : Nat} {key : String} {data : Value}
    (h : p.minter.Spends sid (p.nameOf scope) k s t) (htried : s.Tried sid t)
    (hready : p.minter.Ready sid (p.nameOf scope) 0 t) (hreserved : t.Reserved sid key data u)
    (ha : ∀ template service, p.minter = .sequence template service →
      (s.services.get sid).ledger.Apart s.host) :
    p.minter.Spends sid (p.nameOf scope) k s u := by
  cases hm : p.minter with
  | random template capacity upper source =>
    rw [hm] at h
    refine ⟨fun other => ?_, ?_⟩
    · rw [hreserved.sources]
      exact h.1 other
    · rw [hreserved.gains.same]
      exact h.2
  | sequence template service =>
    rw [hm] at h
    refine ⟨hreserved.sources.trans h.1, fun other => ?_, by rw [hreserved.gains.same]; exact h.2.2⟩
    obtain ⟨numbers, heq⟩ := htried.service
    have hapart : (t.services.get sid).ledger.Apart t.host := by
      rw [heq]
      exact (ha template service hm).grown htried.grown
    rw [hreserved.gains.coming_eq (hready template service hm).legible hapart]
    exact h.2.1 other

theorem findsFree_entering {key : String} :
    p.FindsFree (entering s id scope) key ↔ p.FindsFree s key :=
  ⟨fun h => ⟨h.locally, h.remotely⟩, fun h => ⟨h.locally, h.remotely⟩⟩

/-- A candidate that has been found is given to the object. -/
theorem assigned_of_found {k : Nat} {pid : Identifier} {v : Site} (hwhole : pid.Whole)
    (htried : (entering s id scope).Tried sid u)
    (hspends : p.minter.Spends sid (p.nameOf scope) (k + 1) (entering s id scope) u)
    (hready : p.minter.Ready sid (p.nameOf scope) 0 u)
    (hreserved : u.Reserved sid pid.toString p.entry v) :
    Spares id sid s { v with objects := v.objects.put id ((v.objects.get id).setPid (some pid)) } ∧
      p.Assigned sid id scope pid (k + 1) s
        { v with objects := v.objects.put id ((v.objects.get id).setPid (some pid)) } := by
  have hobjects := hreserved.objects.trans htried.objects
  constructor
  · refine ⟨fun other hne => ?_, hreserved.providers.trans htried.providers,
      fun rid => (hreserved.records rid).trans (htried.records rid),
      fun rid => (hreserved.failing rid).trans (htried.failing rid),
      fun other hne => (hreserved.others other hne).trans (htried.others other hne)⟩
    rw [Shelf.get_put_of_ne _ _ hne, hobjects]
    exact Shelf.get_put_of_ne _ _ hne
  · have hgiven : (v.objects.put id ((v.objects.get id).setPid (some pid))).get id =
        (s.objects.get id).setPid (some pid) := by
      rw [Shelf.get_put_self, hobjects, entering, Shelf.get_put_self]
      rfl
    refine ⟨hgiven, ?_, fun key => ?_, fun ha => ?_, fun template service hm => ?_⟩
    · rw [hgiven, DigitalObject.pid?_setPid _ hwhole]
    · rw [hreserved.gains.data? key, htried.data?_eq]
      rfl
    · have hspent := spends_of_reserved hspends htried hready hreserved ha
      exact hspent
    · rw [hm] at hspends
      have hnumbers :
          (v.services.get sid).ledger.numbers = (u.services.get sid).ledger.numbers := by
        rw [hreserved.gains.same]
      exact hnumbers.trans hspends.2.2

/-- No candidate has been given to the object. -/
theorem refused_of_tried {k : Nat} (htried : (entering s id scope).Tried sid t)
    (hspends : p.minter.Spends sid (p.nameOf scope) k (entering s id scope) t) :
    Spares id sid s t ∧ p.Refused sid id scope k s t := by
  refine ⟨⟨fun other hne => ?_, htried.providers, htried.records, htried.failing, htried.others⟩,
    unfinished_of_eq htried.objects, htried.data?_eq, hspends⟩
  rw [htried.objects]
  exact Shelf.get_put_of_ne _ _ hne

/-- **What comes of generating an identifier** if the first `k` candidates can be made: the first
one that is free is given to the object; or none is free, and generation fails for want of
candidates or as making the next one does. -/
theorem Prepared.outcome_generate (hp : p.Prepared sid)
    (hof : p.minter.OfTemplate sid text template) (hscope : p.ScopeOf s (s.objects.get id) scope)
    (hm : p.maxAttempts.asInt = .ok m) (halone : (s.services.get sid).rivals = none)
    (hreached : (s.services.get sid).ledger.Reached)
    (hstorable : (s.services.get sid).ledger.Storable s.host)
    (hready : p.minter.Ready sid (p.nameOf scope) m.toNat s) {k : Nat} (hk : k ≤ m.toNat)
    (hc : p.UpcomingTo sid scope k s c)
    (hend : k < m.toNat → ∃ fault, p.minter.nth s sid (p.nameOf scope) k = .error fault) :
    ∃ t, Spares id sid s t ∧
      ((∃ j < k, p.FirstFree s c j ∧ (p.generate (.object id)).outcome s = (.ok ⟨⟩, t) ∧
          p.Assigned sid id scope (c j) (j + 1) s t) ∨
        ((∀ i < k, ¬ p.FindsFree s (c i).toString) ∧
          ((k = m.toNat ∧
              (p.generate (.object id)).outcome s = (.error (p.shortage scope m), t) ∧
              p.Refused sid id scope k s t) ∨
            ∃ fault, k < m.toNat ∧ p.minter.nth s sid (p.nameOf scope) k = .error fault ∧
              (p.generate (.object id)).outcome s = (.error fault, t) ∧
              p.Refused sid id scope (k + 1) s t))) := by
  have hfits := hscope.fits hp
  have hserves : (entering s id scope).Serves sid := ⟨halone, hreached.regular.distinct, hstorable⟩
  obtain ⟨result, t, htry, htries⟩ :=
    hp.outcome_tryCandidates (s := entering s id scope) hof hfits hserves hready hk hc hend
  have hclaim := hp.outcome_claimUnder hfits hm htry
  have hgenerate {result : Except Fault String} {u : Site}
      (hunder : (p.generateUnder id scope).outcome (entering s id scope) = (result, u)) :=
    outcome_generate_of_scopeIn hscope.scopeIn_eq hunder
  have hfree {i : Nat} (h : ¬ p.FindsFree (entering s id scope) (c i).toString) :
      ¬ p.FindsFree s (c i).toString :=
    fun hfinds => h (findsFree_entering.2 hfinds)
  cases htries with
  | @found j u _ hj hfirst htried hspends hready' hreserved =>
    obtain ⟨hspares, hassigned⟩ := assigned_of_found (hc.whole hp hof hfits hj) htried hspends
      hready' hreserved
    exact ⟨_, hspares, .inl ⟨j, hj,
      ⟨findsFree_entering.1 hfirst.1, fun i hi => hfree (hfirst.2 i hi)⟩,
      hgenerate (outcome_bind_ok hclaim), hassigned⟩⟩
  | exhausted hall hnone htried hspends =>
    obtain ⟨hspares, hrefused⟩ := refused_of_tried htried hspends
    exact ⟨t, hspares, .inr ⟨fun i hi => hfree (hnone i hi),
      .inl ⟨hall, hgenerate (outcome_bind_error hclaim), hrefused⟩⟩⟩
  | failed hlt hfails hnone htried hspends =>
    obtain ⟨hspares, hrefused⟩ := refused_of_tried htried hspends
    exact ⟨t, hspares, .inr ⟨fun i hi => hfree (hnone i hi),
      .inr ⟨_, hlt, hfails, hgenerate (outcome_bind_error hclaim), hrefused⟩⟩⟩

/-- **The first candidate that is free is given to the object**, and generation fails exactly if
none is free of as many as are tried. -/
theorem generates_first_free (hp : p.Supplied sid) (hscope : p.ScopeOf s (s.objects.get id) scope)
    (hm : p.maxAttempts.asInt = .ok m) (hshort : isShort m = true)
    (halone : (s.services.get sid).rivals = none)
    (hreached : (s.services.get sid).ledger.Reached)
    (hstart : 0 ≤ (s.services.get sid).ledger.start.toInt)
    (hstorable : (s.services.get sid).ledger.Storable s.host)
    (hnumbers : ∀ template service, p.minter = .sequence template service →
      (s.services.get sid).ledger.Legible s.host ∧
        (Ledger.placeAt (s.services.get sid).ledger.numberStore ≠ none →
          isShort ((s.services.get sid).ledger.coming s.host (p.nameOf scope) + m.toNat) = true)) :
    ∃ c t, p.Upcoming sid scope s c ∧ Spares id sid s t ∧
      ((∃ j < m.toNat, p.FirstFree s c j ∧
          (p.generate (.object id)).outcome s = (.ok ⟨⟩, t) ∧
          p.Assigned sid id scope (c j) (j + 1) s t) ∨
        ((∀ i < m.toNat, ¬ p.FindsFree s (c i).toString) ∧
          (p.generate (.object id)).outcome s = (.error (.noneFree (p.nameOf scope) m), t) ∧
          p.Refused sid id scope m.toNat s t)) := by
  have hready : p.minter.Ready sid (p.nameOf scope) m.toNat s := fun template service he =>
    ⟨hreached.regular, hstart, (hnumbers template service he).1, (hnumbers template service he).2⟩
  obtain ⟨_, _, hof⟩ := hp.minter.exists_ofTemplate
  obtain ⟨c, hc⟩ := hp.exists_upcoming hready
  obtain ⟨t, hspares, hends⟩ := hp.toPrepared.outcome_generate hof hscope hm halone hreached
    hstorable hready (Nat.le_refl _) (hc.upcomingTo _) fun hlt => absurd hlt (Nat.lt_irrefl _)
  rw [shortage, if_pos hshort] at hends
  refine ⟨c, t, hc, hspares, hends.imp_right fun ⟨hnone, hfails⟩ => ?_⟩
  rcases hfails with ⟨-, hout, hrefused⟩ | ⟨_, hlt, -⟩
  · exact ⟨hnone, hout, hrefused⟩
  · exact absurd hlt (Nat.lt_irrefl _)

/-! ## A provider that passes over what is taken -/

/-- A provider of numbers in sequence. -/
def counting : Provider :=
  { minting with
    style := .str Minter.sequenceStyle
    minter := .sequence (.str "zd") (.service 0) }

/-- A ledger in which the first number is taken. -/
def stocked : Ledger :=
  ((Ledger.Deed.reserve "doi:10.5072/FK2/1" .null).act.outcome
    (Ledger.keeper true, Ledger.storeroom)).2.1

/-- A site with such a ledger, and with a dataset. -/
def passing : Site where
  host := Ledger.storeroom
  services := Shelf.put {} 0 { ledger := stocked }
  objects := Shelf.put {} 0 { kind := .dataset }

theorem stocked_reached : stocked.Reached := by
  obtain ⟨entries, hopened⟩ := Ledger.storeroom_create true
  exact (Ledger.Reached.opened hopened).deed _ Ledger.storeroom

theorem stocked_store : stocked.store = some "/d/s" ∧ stocked.numberStore = some "/d/n" := by
  decide +kernel

theorem stocked_storable : stocked.Storable Ledger.storeroom := by
  have hempty : stocked.uncached = [] := List.isEmpty_iff.1 (by decide +kernel)
  intro _ path hpath
  rw [stocked_store.1] at hpath
  cases hpath
  refine ⟨⟨_, Ledger.storeroom_opens⟩, ?_⟩
  rw [hempty]
  exact fun _ hp => absurd hp List.not_mem_nil

theorem stocked_legible : stocked.Legible Ledger.storeroom := by
  intro path hpath
  rw [stocked_store.2] at hpath
  cases hpath
  exact ⟨_, [], Ledger.storeroom_opens_numbers, Ledger.numbersOf_empty,
    fun _ hp => absurd hp List.not_mem_nil⟩

theorem prepared_counting : counting.Prepared 0 where
  authority := ⟨_, rfl, by decide⟩
  shoulder := ⟨_, rfl, by decide⟩
  service := rfl
  client := nofun
  named := ⟨_, rfl⟩
  separator := nofun
  short := rfl

theorem supplied_counting : counting.Supplied 0 where
  toPrepared := prepared_counting
  minter := by
    have hparse : Noid.Template.parse "zd" = .ok ⟨"zd", [], .unbounded, ['d']⟩ := rfl
    exact .sequence hparse rfl rfl

/-- The second candidate is the first one that is free. -/
theorem generates_first_free_passing :
    ∃ c t, ∃ j < 20, counting.Upcoming 0 counting.ownScope passing c ∧
      counting.FirstFree passing c j ∧
      (counting.generate (.object 0)).outcome passing = (.ok ⟨⟩, t) ∧
      counting.Assigned 0 0 counting.ownScope (c j) (j + 1) passing t ∧
      (t.objects.get 0).pidText? = .ok (some "doi:10.5072/FK2/2") := by
  have hscope : counting.ScopeOf passing (passing.objects.get (0 : ObjectId)) counting.ownScope :=
    .dataset rfl
  have hattempts : counting.maxAttempts.asInt = .ok 20 := rfl
  have hshort : isShort 20 = true := by decide +kernel
  have halone : (passing.services.get 0).rivals = none := rfl
  have hstart : 0 ≤ stocked.start.toInt := by decide +kernel
  have hcoming : isShort (stocked.coming Ledger.storeroom (counting.nameOf counting.ownScope) +
      (20 : Int).toNat) = true := by
    decide +kernel
  obtain ⟨c, t, hc, -, ⟨j, hj, hfirst, hout, hassigned⟩ | ⟨-, hout, -⟩⟩ :=
    generates_first_free supplied_counting hscope hattempts hshort halone stocked_reached hstart
      stocked_storable fun _ _ _ => ⟨stocked_legible, fun _ => hcoming⟩
  · refine ⟨c, t, j, hj, hc, hfirst, hout, hassigned, ?_⟩
    have hleft : (((counting.generate (.object 0)).outcome passing).2.objects.get 0).pidText? =
        .ok (some "doi:10.5072/FK2/2") := by
      decide +kernel
    rwa [hout] at hleft
  · have hanswer : ((counting.generate (.object 0)).outcome passing).1 = .ok ⟨⟩ := by
      decide +kernel
    rw [hout] at hanswer
    exact absurd hanswer nofun

end Provider

end PersistentId
