import PersistentId.Proofs.Minter
import PersistentId.Proofs.Provider.Misfit
import PersistentId.Proofs.Publication

/-!
# Candidates one after the other

A provider that has what it needs (`Provider.Prepared`) makes a candidate of every local part that
is minted for it (`Prepared.candidate_eq`), and says of each whether it is free
(`Prepared.outcome_isUnique`). A candidate that is free can be reserved, and nothing else changes
then (`Site.Reserved`); one that is not is dropped, and nothing changes (`Site.Asked`).

So trying candidates ends with the first one that is free, when as many local parts are used up as
have been looked at, or with none if none is free, or with a fault if the minter runs out before
(`Provider.Tries`). Which candidates come next is settled from the start, as neither looking them up
nor reserving one makes a difference to them.
-/

namespace PersistentId

open PersistentId.Action

variable {p : Provider} {scope : Provider.Scope} {s t u : Site} {sid : ServiceId} {key : String}
  {pid : Identifier} {c : Nat → Identifier}

/-! ## Sites that can reserve -/

/-- A local service that no others use can store what it reserves. -/
structure Site.Serves (sid : ServiceId) (s : Site) : Prop where
  alone : (s.services.get sid).rivals = none
  distinct : Table.Distinct (s.services.get sid).ledger.uncached
  storable : (s.services.get sid).ledger.Storable s.host

/-- A site on which a text has been reserved, after registry services may have been asked for it. -/
structure Site.Reserved (sid : ServiceId) (key : String) (data : Value) (s t : Site) : Prop where
  objects : t.objects = s.objects
  providers : t.providers = s.providers
  sources : t.sources = s.sources
  records : ∀ rid, (t.registries.get rid).records = (s.registries.get rid).records
  failing : ∀ rid, (t.registries.get rid).failing = (s.registries.get rid).failing
  others : ∀ other, other ≠ sid → t.services.get other = s.services.get other
  rivals : (t.services.get sid).rivals = (s.services.get sid).rivals
  gains : (s.services.get sid).ledger.Gains key data (t.services.get sid).ledger s.host t.host

namespace Site

theorem Tried.serves (h : s.Tried sid t) (hs : s.Serves sid) : t.Serves sid := by
  obtain ⟨numbers, heq⟩ := h.service
  refine ⟨by rw [heq]; exact hs.alone, by rw [heq]; exact hs.distinct, fun hflush path hpath => ?_⟩
  rw [heq] at hflush hpath
  obtain ⟨⟨place, hopen⟩, hwritable⟩ := hs.storable hflush path hpath
  exact ⟨⟨place, h.grown.opens path place hopen⟩, by rw [heq]; exact hwritable⟩

/-- What is free in a local service is so wherever identifiers have only been tried. -/
theorem Tried.isFree_eq (h : s.Tried sid t) (other : ServiceId) (key : String) :
    (t.services.get other).isFree key = (s.services.get other).isFree key := by
  by_cases he : other = sid
  · obtain ⟨numbers, heq⟩ := h.service
    rw [he, heq]
    rfl
  · rw [h.others other he]

theorem Tried.data?_eq (h : s.Tried sid t) (key : String) :
    (t.services.get sid).ledger.data? key = (s.services.get sid).ledger.data? key := by
  obtain ⟨numbers, heq⟩ := h.service
  rw [heq]
  rfl

theorem Tried.findsFree_iff (h : s.Tried sid t) (p : Provider) (key : String) :
    p.FindsFree t key ↔ p.FindsFree s key := by
  have hlocally (other : ServiceId) := h.isFree_eq other key
  constructor
  · rintro ⟨hl, hr⟩
    refine ⟨fun other ho => hlocally other ▸ hl other ho, fun hk rid hc hf => ?_⟩
    rw [← h.failing] at hf
    rw [← h.records]
    exact hr hk rid hc hf
  · rintro ⟨hl, hr⟩
    refine ⟨fun other ho => hlocally other ▸ hl other ho, fun hk rid hc hf => ?_⟩
    rw [h.failing] at hf
    rw [h.records]
    exact hr hk rid hc hf

theorem Asked.reserved {data : Value} (h : s.Asked t) (h' : t.Reserved sid key data u) :
    s.Reserved sid key data u where
  objects := h'.objects.trans h.objects
  providers := h'.providers.trans h.providers
  sources := h'.sources.trans h.sources
  records rid := (h'.records rid).trans (h.records rid)
  failing rid := (h'.failing rid).trans (h.failing rid)
  others other hne := by rw [h'.others other hne, h.services]
  rivals := by rw [h'.rivals, h.services]
  gains := by
    have hgains := h'.gains
    rw [h.services] at hgains
    refine ⟨hgains.data?, hgains.same, ?_⟩
    rw [← h.files]
    exact hgains.files

theorem asked_note (level : Level) (source message : String) (s : Site) :
    ∃ t, (note level source message).outcome s = (.ok ⟨⟩, t) ∧ s.Asked t :=
  ⟨_, rfl, rfl, rfl, rfl, rfl, rfl, fun _ => rfl, fun _ => rfl⟩

end Site

namespace Provider

open Minter

/-! ## Making candidates -/

/-- What a provider needs to generate identifiers, besides a minter: an authority and a shoulder
that can be parts of identifiers, the local service of a number, a registry service if it registers
its identifiers with one, a name, and a separator that can be written. -/
structure Prepared (p : Provider) (sid : ServiceId) : Prop where
  authority : ∃ a, p.authority = .str a ∧ Part.isProper a = true
  shoulder : ∃ l, p.shoulder = .str l ∧ Part.isProper l = true
  service : p.service = .service sid
  client : p.kind.usesRegistry = true → ∃ rid, p.client = .registry rid
  named : p.Named
  separator : p.separator ≠ .null
  short : p.separator.isShort = true

/-- What a provider needs to generate identifiers as long as there are free ones: also a minter that
does not run out. -/
structure Supplied (p : Provider) (sid : ServiceId) : Prop extends p.Prepared sid where
  minter : p.minter.Endless sid

theorem separator_ne_null_of_ofParts {kind : ProviderKind} {parts : Parts} {source : SourceId}
    {endpoint : RegistryId → Value} (h : ofParts kind parts source endpoint = .ok p) :
    p.separator ≠ .null := by
  obtain ⟨-, -, -, -, -, -, hseparator, -⟩ := exists_of_ofParts h
  rw [separator]
  split
  · rw [hseparator, Value.orElse]
    split
    · next htruthy =>
      intro hnull
      rw [hnull] at htruthy
      cases htruthy
    · simp
  · simp

/-- **A provider of any kind that was set up has what it needs**, if its parts are as they should
be, and its minter is one of its template. -/
theorem prepared_of_ofParts {kind : ProviderKind} {parts : Parts} {source : SourceId}
    {endpoint : RegistryId → Value} (h : ofParts kind parts source endpoint = .ok p)
    (ha : ∃ a, p.authority = .str a ∧ Part.isProper a = true)
    (hl : ∃ l, p.shoulder = .str l ∧ Part.isProper l = true)
    (hs : parts.service = .service sid)
    (hc : kind.usesRegistry = true → ∃ rid, parts.client = .registry rid)
    (hshort : p.separator.isShort = true) {text : String} {template : Noid.Template}
    (htext : p.minter.template = .str text) (htemplate : Noid.Template.parse text = .ok template)
    (hlead : Part.isPlain (String.ofList template.lead) = true) :
    p.Prepared sid ∧ p.minter.OfTemplate sid text template ∧
      ∀ given service, p.minter = .sequence given service →
        parts.style.orElse (.str randomStyle) = .str sequenceStyle := by
  obtain ⟨rfl, hservice, hclient, -, -, -, -, -, config, hminter⟩ := exists_of_ofParts h
  rw [hs] at hminter
  refine ⟨⟨ha, hl, hservice.trans hs, fun hk => ?_, ⟨_, name_of_ofParts h hc⟩,
    separator_ne_null_of_ofParts h, hshort⟩,
    ofTemplate_of_forStyle hminter htext htemplate hlead⟩
  rw [hclient]
  exact hc hk

/-- **A provider of any kind that was set up can generate identifiers** as long as there are free
ones, if its template does not run out. -/
theorem supplied_of_ofParts {kind : ProviderKind} {parts : Parts} {source : SourceId}
    {endpoint : RegistryId → Value} (h : ofParts kind parts source endpoint = .ok p)
    (ha : ∃ a, p.authority = .str a ∧ Part.isProper a = true)
    (hl : ∃ l, p.shoulder = .str l ∧ Part.isProper l = true)
    (hs : parts.service = .service sid)
    (hc : kind.usesRegistry = true → ∃ rid, parts.client = .registry rid)
    (hshort : p.separator.isShort = true) {text : String} {template : Noid.Template}
    (htext : p.minter.template = .str text) (htemplate : Noid.Template.parse text = .ok template)
    (hlead : Part.isPlain (String.ofList template.lead) = true)
    (hg : parts.style.orElse (.str randomStyle) = .str sequenceStyle →
      template.generator = .unbounded) : p.Supplied sid := by
  obtain ⟨he, hof, hstyle⟩ := prepared_of_ofParts h ha hl hs hc hshort htext htemplate hlead
  exact ⟨he, hof.endless fun given service hm => hg (hstyle given service hm)⟩

/-- A scope whose authority can be one of identifiers, and in which local parts can start as they
are to. -/
structure Scope.Fits (scope : Scope) : Prop where
  protocol : scope.protocol ≠ .null
  short : scope.protocol.isShort = true
  authority : ∃ a, scope.authority = .str a ∧ Part.isProper a = true
  start : ∃ l, scope.start = .str l ∧ Part.isProper l = true

/-- The name of a scope that can be written. -/
def nameOf (p : Provider) (scope : Scope) : String :=
  scope.protocol.text ++ ":" ++ scope.authority.text ++ p.separator.text ++ scope.start.text

/-- The candidate with a minted local part, with what the provider has for its identifiers. -/
def made (p : Provider) (scope : Scope) (minted : String) : Identifier where
  protocol := scope.protocol
  authority := scope.authority.text
  localPart := scope.start.text ++ minted
  separator := p.separator
  urlStart := .str p.urlStart
  provider := .str p.kind.displayName

/-- What an identifier is reserved with. -/
def entry (p : Provider) : Value :=
  .map [("provider", .str p.kind.displayName)]

theorem Named.name_eq (h : p.Named) : p.name = .ok p.kind.displayName := by
  obtain ⟨name, hname⟩ := h
  obtain ⟨_, -, rfl⟩ := exists_of_map_eq_ok hname
  exact hname

theorem wording_of_isShort {v : Value} (h : v.isShort = true) : v.wording = .ok v.text := by
  rw [Value.wording, if_pos h]

theorem Prepared.scopeName_eq (h : p.Prepared sid) (hf : scope.Fits) :
    p.scopeName scope = .ok (p.nameOf scope) := by
  obtain ⟨a, ha, -⟩ := hf.authority
  obtain ⟨l, hl, -⟩ := hf.start
  have hauthority : scope.authority.wording = .ok scope.authority.text := by rw [ha]; rfl
  have hstart : scope.start.wording = .ok scope.start.text := by rw [hl]; rfl
  rw [scopeName, wording_of_isShort hf.short, ok_bind, hauthority, ok_bind,
    wording_of_isShort h.short, ok_bind, hstart]
  rfl

/-- **What is minted makes a candidate** if it is plain. -/
theorem Prepared.candidate_eq (h : p.Prepared sid) (hf : scope.Fits) {minted : String}
    (hm : Part.isPlain minted = true) : p.candidate scope minted = .ok (p.made scope minted) := by
  obtain ⟨a, ha, hproper⟩ := hf.authority
  obtain ⟨l, hl, hproper'⟩ := hf.start
  have hfits : wellFormed scope.protocol (.str a) (.str (l ++ minted)) = .ok true := by
    rw [wellFormed_str hf.protocol, hproper, Part.isProper_append hproper' hm]
    rfl
  have hpiece : scope.start.asPiece = .ok l := by rw [hl]; rfl
  have hlink : Value.str p.urlStart ≠ .null := nofun
  have hmake := Identifier.make_of_wellFormed hfits h.separator hlink (.str p.kind.displayName)
  rw [candidate, hpiece, ok_bind, h.named.name_eq, ok_bind, ha, hmake, made, ha, hl]
  rfl

/-! ## Looking candidates up -/

theorem Prepared.localService?_eq (h : p.Prepared sid) : p.localService? = .ok (some sid) :=
  localService?_of_service h.service

theorem Prepared.outcome_isLocallyFree (h : p.Prepared sid) (s : Site) (pid : Identifier) :
    (p.isLocallyFree (.pid pid)).outcome s =
      (.ok ((s.services.get sid).isFree pid.toString), s) := by
  rw [Provider.outcome_isLocallyFree, h.localService?_eq]
  rfl

theorem Prepared.findsFree_iff (h : p.Prepared sid) : p.FindsFree s key ↔
    (s.services.get sid).isFree key = true ∧
      (p.kind.usesRegistry = true → ∀ rid, p.client = .registry rid →
        (s.registries.get rid).failing.truthy = false →
          Table.has (s.registries.get rid).records (.str key) = false) := by
  refine ⟨fun hfree => ⟨hfree.locally sid h.localService?_eq, hfree.remotely⟩,
    fun hfree => ⟨fun other ho => ?_, hfree.2⟩⟩
  rw [h.localService?_eq] at ho
  cases ho
  exact hfree.1

/-- Asking a registry service makes no difference to its records. -/
theorem asked_put (s : Site) (rid : RegistryId) (pids : List Identifier) :
    s.Asked { s with registries := s.registries.put rid ((s.registries.get rid).asked pids) } := by
  refine ⟨rfl, rfl, rfl, rfl, rfl, fun other => ?_, fun other => ?_⟩ <;>
  · by_cases he : other = rid
    · rw [he, Shelf.get_put_self]
      rfl
    · rw [Shelf.get_put_of_ne _ _ he]

/-- What is found of a candidate that is free in local use: whether it has a record with the
registry service, or that this does not answer. -/
theorem Prepared.outcome_isRegistered (h : p.Prepared sid)
    (hfree : (s.services.get sid).isFree pid.toString = true) :
    ∃ answer t, (p.isRegistered (.pid pid) (.bool false)).outcome s = (answer, t) ∧ s.Asked t ∧
      ((∃ known, answer = .ok (.bool known) ∧ (known = false ↔ p.FindsFree s pid.toString)) ∨
        ∃ fault, answer = .error fault ∧ fault.fromService = true ∧
          p.FindsFree s pid.toString) := by
  rw [isRegistered]
  cases hk : p.kind.usesRegistry with
  | false =>
    refine ⟨.ok (.bool false), s, ?_, .refl s, .inl ⟨false, rfl, ?_⟩⟩
    · rw [if_neg Bool.false_ne_true, outcome_bind_ok (h.outcome_isLocallyFree s pid), hfree]
      rfl
    · exact iff_of_true rfl (h.findsFree_iff.2 ⟨hfree, by simp [hk]⟩)
  | true =>
    obtain ⟨rid, hrid⟩ := h.client hk
    have hknown := outcome_isRemotelyKnown hrid s pid
    rw [if_pos rfl]
    cases hfails : (s.registries.get rid).failing.truthy with
    | true =>
      rw [if_pos hfails] at hknown
      refine ⟨_, _, outcome_bind_error hknown, asked_put s rid [pid], .inr ⟨_, rfl, rfl, ?_⟩⟩
      refine h.findsFree_iff.2 ⟨hfree, fun _ other hother hanswers => ?_⟩
      rw [← Operand.registry.inj (hrid.symm.trans hother), hfails] at hanswers
      cases hanswers
    | false =>
      rw [if_neg (by simp [hfails])] at hknown
      refine ⟨_, _, outcome_bind_ok hknown, asked_put s rid [pid], .inl ⟨_, rfl, ?_⟩⟩
      rw [h.findsFree_iff]
      refine ⟨fun hnone => ⟨hfree, fun _ other hother _ => ?_⟩, fun hfinds => ?_⟩
      · rw [← Operand.registry.inj (hrid.symm.trans hother)]
        exact hnone
      · exact hfinds.2 hk rid hrid hfails

/-- **Whether a candidate is free is found out** without changing anything. -/
theorem Prepared.outcome_isUnique (h : p.Prepared sid) (s : Site) (pid : Identifier) :
    ∃ free t, (p.isUnique (.pid pid)).outcome s = (.ok free, t) ∧ s.Asked t ∧
      (free = true ↔ p.FindsFree s pid.toString) := by
  rw [isUnique, outcome_bind_ok (h.outcome_isLocallyFree s pid)]
  cases hfree : (s.services.get sid).isFree pid.toString with
  | false =>
    refine ⟨false, s, rfl, .refl s, iff_of_false Bool.false_ne_true fun hfinds => ?_⟩
    rw [(h.findsFree_iff.1 hfinds).1] at hfree
    cases hfree
  | true =>
    obtain ⟨answer, t, hanswer, hasked, hsays⟩ := h.outcome_isRegistered hfree
    have hattempt : (p.isRegistered (.pid pid) (.bool false)).attempt.outcome s =
        (.ok answer, t) := by
      rw [outcome_attempt, hanswer]
    rw [Bool.not_true, if_neg Bool.false_ne_true, outcome_bind_ok hattempt]
    rcases hsays with ⟨known, rfl, hknown⟩ | ⟨fault, rfl, hservice, hfinds⟩
    · exact ⟨!known, t, rfl, hasked, by rw [← hknown, Bool.not_eq_true']⟩
    · have htext : (Site.textOf (.pid pid)).outcome t = (.ok pid.toString, t) := rfl
      obtain ⟨u, hnote, hnoted⟩ := Site.asked_note .info p.source
        ("Unable to check registry for " ++ pid.toString ++ " (assuming unique): " ++
          fault.message) t
      refine ⟨true, u, ?_, hasked.trans hnoted, iff_of_true rfl hfinds⟩
      simp only [hservice, Bool.not_true, Bool.false_eq_true, if_false]
      rw [outcome_bind_ok htext, note, outcome_bind_ok hnote]
      rfl

/-! ## Reserving -/

/-- **What is free can be reserved**, and nothing else changes. -/
theorem Prepared.outcome_reserve (h : p.Prepared sid) (hs : s.Serves sid)
    (hfree : (s.services.get sid).isFree pid.toString = true) :
    ∃ t, (p.reserve pid).outcome s = (.ok true, t) ∧
      s.Reserved sid pid.toString p.entry t := by
  have hnew : (s.services.get sid).ledger.registered pid.toString = false := by
    simpa [LocalService.isFree, hs.alone] using hfree
  have hdata : Ledger.dataOf p.entry = .ok [("provider", .str p.kind.displayName)] := rfl
  have hwrite : ∃ document, Json.write (.map [("provider", .str p.kind.displayName)]) =
      .ok document := Json.exists_write rfl (show 1 ≤ Json.depthLimit by decide)
  obtain ⟨ledger, host, hreserve, hgains⟩ :=
    Ledger.outcome_reserve_fresh hs.distinct hs.storable hnew hdata hwrite
  refine ⟨{ s with services := s.services.put sid { s.services.get sid with ledger }, host },
    ?_, ?_⟩
  · have hloss : (s.services.get sid).afterLoss? = none := by
      rw [LocalService.afterLoss?, hs.alone]
    have hservice : (LocalService.reserve pid.toString p.entry).outcome
        (s.services.get sid, s.host) = (.ok ⟨⟩, { s.services.get sid with ledger }, host) := by
      rw [LocalService.reserve, outcome_bind_ok (outcome_get _)]
      simp only [hloss]
      rw [outcome_zoom, hreserve]
    have hattempt : (Site.onService sid
        (LocalService.reserve pid.toString p.entry)).attempt.outcome s = (.ok (.ok ⟨⟩), { s with
          services := s.services.put sid { s.services.get sid with ledger }, host }) := by
      rw [outcome_attempt, Site.onService, outcome_zoom, hservice]
    rw [reserve, h.localService?_eq, outcome_bind_ok (outcome_ofExcept _ _)]
    dsimp only
    rw [h.named.name_eq, outcome_bind_ok (outcome_ofExcept _ _), ← entry,
      outcome_bind_ok hattempt]
    rfl
  · refine ⟨rfl, rfl, rfl, fun _ => rfl, fun _ => rfl, fun other hne => Shelf.get_put_of_ne _ _ hne,
      by rw [Shelf.get_put_self], ?_⟩
    rw [Shelf.get_put_self]
    exact hgains

/-- **A candidate that is free is reserved, and one that is not is dropped.** -/
theorem Prepared.outcome_claim (h : p.Prepared sid) (hs : s.Serves sid) (pid : Identifier) :
    (p.FindsFree s pid.toString ∧ ∃ t, (p.claim pid).outcome s = (.ok true, t) ∧
        s.Reserved sid pid.toString p.entry t) ∨
      (¬ p.FindsFree s pid.toString ∧ ∃ t, (p.claim pid).outcome s = (.ok false, t) ∧
        s.Asked t) := by
  obtain ⟨free, t, hunique, hasked, hfree⟩ := h.outcome_isUnique s pid
  rw [claim, outcome_bind_ok hunique]
  cases free with
  | true =>
    have hfinds := hfree.1 rfl
    have htried := hasked.tried sid
    have hfree' : (t.services.get sid).isFree pid.toString = true := by
      rw [htried.isFree_eq, (h.findsFree_iff.1 hfinds).1]
    obtain ⟨u, hreserve, hreserved⟩ := h.outcome_reserve (htried.serves hs) hfree'
    exact .inl ⟨hfinds, u, hreserve, hasked.reserved hreserved⟩
  | false =>
    obtain ⟨u, hnote, hnoted⟩ := Site.asked_note .debug p.source
      ("generated identifier already in use: " ++ pid.toString) t
    refine .inr ⟨fun hfinds => absurd (hfree.2 hfinds) nofun, u, ?_, hasked.trans hnoted⟩
    rw [if_neg Bool.false_ne_true, note, outcome_bind_ok hnote]
    rfl

/-! ## Trying candidates -/

/-- The first of some candidates that is free. -/
def FirstFree (p : Provider) (s : Site) (c : Nat → Identifier) (j : Nat) : Prop :=
  p.FindsFree s (c j).toString ∧ ∀ i < j, ¬ p.FindsFree s (c i).toString

/-- What comes of trying a number of candidates, if the first `k` of them can be made and making the
next one fails, and what is left: the first one that is free has been reserved, all up to it having
been minted; or none is free and all have been minted; or none of those that can be made is free,
and one more has been minted in vain. -/
inductive Tries (p : Provider) (sid : ServiceId) (scope : Scope) (c : Nat → Identifier)
    (k attempts : Nat) (s : Site) : Except Fault (Option Identifier) → Site → Prop where
  | found {j : Nat} {u t : Site} (hj : j < k) (hfirst : p.FirstFree s c j)
      (htried : s.Tried sid u) (hspends : p.minter.Spends sid (p.nameOf scope) (j + 1) s u)
      (hready : p.minter.Ready sid (p.nameOf scope) 0 u)
      (hreserved : u.Reserved sid (c j).toString p.entry t) :
      Tries p sid scope c k attempts s (.ok (some (c j))) t
  | exhausted {t : Site} (hall : k = attempts) (hnone : ∀ i < k, ¬ p.FindsFree s (c i).toString)
      (htried : s.Tried sid t) (hspends : p.minter.Spends sid (p.nameOf scope) k s t) :
      Tries p sid scope c k attempts s (.ok none) t
  | failed {fault : Fault} {t : Site} (hlt : k < attempts)
      (hfails : p.minter.nth s sid (p.nameOf scope) k = .error fault)
      (hnone : ∀ i < k, ¬ p.FindsFree s (c i).toString)
      (htried : s.Tried sid t) (hspends : p.minter.Spends sid (p.nameOf scope) (k + 1) s t) :
      Tries p sid scope c k attempts s (.error fault) t

/-- A candidate that is not free is dropped before the others are tried. -/
theorem Tries.drop {k attempts : Nat} {result : Except Fault (Option Identifier)}
    (hfirst : ¬ p.FindsFree s (c 0).toString) (htried : s.Tried sid u)
    (hspends : p.minter.Spends sid (p.nameOf scope) 1 s u)
    (h : p.Tries sid scope (fun i => c (i + 1)) k attempts u result t) :
    p.Tries sid scope c (k + 1) (attempts + 1) s result t := by
  have hbefore {n : Nat} (hn : ∀ i < n, ¬ p.FindsFree u (c (i + 1)).toString) :
      ∀ i < n + 1, ¬ p.FindsFree s (c i).toString := by
    rintro (_ | i) hi
    · exact hfirst
    · rw [← htried.findsFree_iff]
      exact hn i (by omega)
  cases h with
  | @found j v _ hj hfound htried' hspends' hready hreserved =>
    have hspent := hspends.add hspends'
    rw [Nat.add_comm 1] at hspent
    exact .found (by omega) ⟨(htried.findsFree_iff _ _).1 hfound.1, hbefore hfound.2⟩
      (htried.trans htried') hspent hready hreserved
  | exhausted hall hnone htried' hspends' =>
    have hspent := hspends.add hspends'
    rw [Nat.add_comm 1] at hspent
    exact .exhausted (by omega) (hbefore hnone) (htried.trans htried') hspent
  | failed hlt hfails hnone htried' hspends' =>
    have hspent := hspends.add hspends'
    rw [Nat.add_comm 1] at hspent
    rw [hspends.nth, Nat.add_comm] at hfails
    exact .failed (by omega) hfails (hbefore hnone) (htried.trans htried') hspent

/-- The candidates of a scope that come next. -/
def Upcoming (p : Provider) (sid : ServiceId) (scope : Scope) (s : Site) (c : Nat → Identifier) :
    Prop :=
  ∀ i, ∃ minted, p.minter.nth s sid (p.nameOf scope) i = .ok minted ∧ c i = p.made scope minted

/-- The first `k` candidates of a scope that come next. -/
def UpcomingTo (p : Provider) (sid : ServiceId) (scope : Scope) (k : Nat) (s : Site)
    (c : Nat → Identifier) : Prop :=
  ∀ i < k, ∃ minted, p.minter.nth s sid (p.nameOf scope) i = .ok minted ∧
    c i = p.made scope minted

theorem Upcoming.upcomingTo (h : p.Upcoming sid scope s c) (k : Nat) :
    p.UpcomingTo sid scope k s c :=
  fun i _ => h i

theorem Supplied.exists_upcoming (h : p.Supplied sid) {n : Nat}
    (hr : p.minter.Ready sid (p.nameOf scope) n s) : ∃ c, p.Upcoming sid scope s c := by
  choose minted hminted _ using h.minter.exists_of_nth hr
  exact ⟨fun i => p.made scope (minted i), fun i => ⟨minted i, hminted i, rfl⟩⟩

variable {text : String} {template : Noid.Template}

/-- A candidate is what is made of the local part that comes next, or fails as making that does. -/
theorem Prepared.outcome_nextCandidate (h : p.Prepared sid)
    (hof : p.minter.OfTemplate sid text template) (hf : scope.Fits) {n : Nat}
    (hr : p.minter.Ready sid (p.nameOf scope) (n + 1) s) :
    ∃ t, (p.nextCandidate scope).outcome s =
        ((p.minter.nth s sid (p.nameOf scope) 0).map (p.made scope), t) ∧ s.Tried sid t ∧
      p.minter.Spends sid (p.nameOf scope) 1 s t ∧ p.minter.Ready sid (p.nameOf scope) n t := by
  obtain ⟨t, hmint, hleft⟩ := hof.outcome_mint hr
  refine ⟨t, ?_, hleft⟩
  rw [nextCandidate, h.scopeName_eq hf, outcome_bind_ok (outcome_ofExcept _ _)]
  cases hnth : p.minter.nth s sid (p.nameOf scope) 0 with
  | error fault =>
    rw [hnth] at hmint
    exact outcome_bind_error hmint
  | ok minted =>
    rw [hnth] at hmint
    rw [outcome_bind_ok hmint, h.candidate_eq hf (hof.isPlain_of_rendered hnth)]
    rfl

/-- **Trying candidates ends with the first one that is free**, with none if all are tried and none
is, or with the fault that making the next one has. -/
theorem Prepared.outcome_tryCandidates (h : p.Prepared sid)
    (hof : p.minter.OfTemplate sid text template) (hf : scope.Fits) {k attempts : Nat}
    (hs : s.Serves sid) (hr : p.minter.Ready sid (p.nameOf scope) attempts s)
    (hk : k ≤ attempts) (hc : p.UpcomingTo sid scope k s c)
    (hend : k < attempts → ∃ fault, p.minter.nth s sid (p.nameOf scope) k = .error fault) :
    ∃ result t, (p.tryCandidates scope attempts).outcome s = (result, t) ∧
      p.Tries sid scope c k attempts s result t := by
  induction attempts generalizing s c k with
  | zero =>
    obtain rfl := Nat.le_zero.1 hk
    have hasked := Site.Asked.refl s
    exact ⟨_, s, rfl, .exhausted rfl nofun (hasked.tried sid) (spends_zero hasked)⟩
  | succ attempts ih =>
    obtain ⟨t, hnext, htried, hspends, hready⟩ := h.outcome_nextCandidate hof hf hr
    rw [tryCandidates]
    cases k with
    | zero =>
      -- there is no candidate to try
      obtain ⟨fault, hfails⟩ := hend (Nat.succ_pos _)
      rw [hfails] at hnext
      exact ⟨_, t, outcome_bind_error hnext, .failed (Nat.succ_pos _) hfails nofun htried hspends⟩
    | succ k =>
      obtain ⟨minted, hminted, hmade⟩ := hc 0 (Nat.succ_pos _)
      rw [hminted, Except.map, ← hmade] at hnext
      rw [outcome_bind_ok hnext]
      rcases h.outcome_claim (htried.serves hs) (c 0) with
        ⟨hfree, u, hclaim, hreserved⟩ | ⟨htaken, u, hclaim, hasked⟩
      · rw [outcome_bind_ok hclaim]
        have hfirst : p.FirstFree s c 0 := ⟨(htried.findsFree_iff ..).1 hfree, nofun⟩
        exact ⟨_, u, rfl, .found (Nat.succ_pos _) hfirst htried hspends
          (hready.mono (Nat.zero_le _)) hreserved⟩
      · rw [outcome_bind_ok hclaim]
        have htried' := htried.trans (hasked.tried sid)
        have hspends' := hspends.add (spends_zero hasked)
        have hrest : p.UpcomingTo sid scope k u fun i => c (i + 1) := by
          intro i hi
          obtain ⟨minted, hminted, hmade⟩ := hc (i + 1) (by omega)
          exact ⟨minted, by rw [hspends'.nth, Nat.add_comm, hminted], hmade⟩
        have hlast (hlt : k < attempts) :
            ∃ fault, p.minter.nth u sid (p.nameOf scope) k = .error fault := by
          rw [hspends'.nth, Nat.add_comm]
          exact hend (by omega)
        obtain ⟨result, v, htry, htries⟩ :=
          ih (htried'.serves hs) (hready.asked hasked) (by omega) hrest hlast
        exact ⟨result, v, htry,
          htries.drop (fun hfree => htaken ((htried.findsFree_iff ..).2 hfree)) htried' hspends'⟩

end Provider

end PersistentId
