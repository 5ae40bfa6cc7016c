import PersistentId.Proofs.Ledger.Persisted
import PersistentId.Proofs.Request

/-!
# Identifiers are issued once

Providers of any kind share a ledger that keeps its identifiers in a store, and the ledger may be
opened anew at any time. Whatever is asked of the site, no two identifiers that are generated have
the same canonical form (`issued_once`): an identifier that is generated is in the store from then
on, a ledger that is opened reads it there, and a candidate that is on record is not taken.

The invariant is that all on record is in the store (`Ledger.Persisted`). It makes a bond of a
ledger with itself (`bond_alone`).
-/

namespace PersistentId

open PersistentId.Action Ledger

/-- A ledger with itself, all that it has on record being in the store, on files that have grown
from the given ones. -/
def Alone (files : FileTree) (place numberPlace : Path) : Relation := fun T x y =>
  x = y ∧ Persisted place numberPlace T x.1 x.2 ∧ files.Grown x.2.files

variable {files : FileTree} {place numberPlace : Path} {T : Table String Value} {sid : ServiceId}
  {s s' : Site}

/-- **A ledger that keeps nothing back stays so**, whatever is reserved and given out. -/
theorem bond_alone (files : FileTree) (place numberPlace : Path) :
    Bond (Alone files place numberPlace) fun _ => False where
  note := by
    rintro T ledger _ host _ entries ⟨⟨⟩, h, hg⟩
    exact ⟨rfl, h.record entries, hg⟩
  data? := by
    rintro T x _ ⟨rfl, -⟩ key
    rfl
  ids := by
    rintro T x _ ⟨rfl, -⟩
    rfl
  reserve := by
    rintro T key data hk hd ⟨ledger, host⟩ _ ⟨rfl, h, hg⟩
    by_cases hnew : key ∈ Table.keys T
    · have hreg : ledger.registered key = true := by
        rw [h.registered_eq, Table.has_eq_true_iff]
        exact hnew
      exact .inr (.inl ⟨_, _, _, outcome_reserve_of_registered hreg data host,
        outcome_reserve_of_registered hreg data host, rfl, h, hg⟩)
    · obtain ⟨host', hout, hnext, -, hgrown⟩ := h.reserve hnew hk hd
      exact .inl ⟨_, _, _, hout, hout, hnew, rfl, hnext, hg.trans hgrown⟩
  nextNumber := by
    rintro T scope ⟨ledger, host⟩ _ ⟨rfl, h, hg⟩
    obtain ⟨result, ledger', host', hout, hnext, hgrown⟩ := h.nextNumber scope
    cases result with
    | ok n => exact .inl ⟨_, _, _, hout, hout, rfl, hnext, hg.trans hgrown⟩
    | error fault => exact .inr (.inl ⟨_, _, _, hout, hout, rfl, hnext, hg.trans hgrown⟩)

/-! ## Reopening -/

/-- **A ledger that is opened anew has the same on record.** -/
theorem exists_of_reopen (h : Beside (Alone files place numberPlace T) sid s s) {opening : Opening}
    (hk : opening.KeepsAt files place numberPlace) :
    ∃ reply s', ((Request.reopen opening).act sid).outcome s = (reply, s') ∧
      (∀ pid, reply ≠ .ok (.assigned pid)) ∧
        Beside (Alone files place numberPlace T) sid s' s' := by
  obtain ⟨-, hp, hg⟩ := h.linked
  obtain ⟨result, entries, hcreate, hblank⟩ :=
    exists_of_create opening.directory opening.config opening.name s.host
  rw [Request.outcome_reopen, hcreate]
  cases result with
  | error fault =>
    exact ⟨_, _, rfl, by simp, h.objects, h.registries, h.sources, h.rivals, h.tidy, rfl,
      hp.record entries, hg⟩
  | ok ledger =>
    obtain ⟨blank, _, hb, -⟩ := hblank ledger rfl
    obtain ⟨journal, hcreate', hnext⟩ := hp.create hb ((hk _ blank hb).mono hg)
    rw [hcreate] at hcreate'
    obtain ⟨hledger, hrecord⟩ := Prod.mk.inj hcreate'
    rw [← Except.ok.inj hledger, ← hrecord] at hnext
    exact ⟨_, _, rfl, by simp, h.withLedger ⟨rfl, hnext, hg⟩⟩

/-! ## Runs -/

/-- What generated identifiers were assigned, in their order. -/
def assigned (log : List (Request × Except Fault Reply)) : List (Except Fault (Option String)) :=
  log.filterMap fun entry =>
    match entry.2 with
    | .ok (.assigned pid) => some pid
    | _ => none

theorem assigned_cons_of_ne (request : Request) {reply : Except Fault Reply}
    (h : ∀ pid, reply ≠ .ok (.assigned pid)) (log : List (Request × Except Fault Reply)) :
    assigned ((request, reply) :: log) = assigned log := by
  rw [assigned, List.filterMap_cons_none]
  · rfl
  · dsimp only
    split
    · next pid => exact absurd rfl (h pid)
    · rfl

/-- Whether a ledger that a request opens keeps its files at the given places. -/
def Request.KeepsAt (files : FileTree) (place numberPlace : Path) : Request → Prop
  | .reopen opening => opening.KeepsAt files place numberPlace
  | _ => True

/-- **A request keeps all on record in the store**, and what it assigns was not on record. -/
theorem exists_of_act {request : Request} (hf : request.Fits sid)
    (hk : request.KeepsAt files place numberPlace)
    (h : Beside (Alone files place numberPlace T) sid s s) :
    ∃ reply s' more, (request.act sid).outcome s = (reply, s') ∧
      Beside (Alone files place numberPlace (T ++ more)) sid s' s' ∧
      ∀ pid, reply = .ok (.assigned pid) →
        ∃ key, pid = .ok (some key) ∧ key ∉ Table.keys T ∧ key ∈ Table.keys more := by
  cases hr : request.isReopen with
  | true =>
    cases request with
    | reopen opening =>
      obtain ⟨reply, s', hout, hreply, hnext⟩ := exists_of_reopen h hk
      exact ⟨reply, s', [], hout, by rwa [List.append_nil], fun pid he => absurd he (hreply pid)⟩
    | _ => cases hr
  | false =>
    rcases Request.lockstep_act (bond_alone files place numberPlace) hf hr s s h with
      ⟨reply, s', t', hs, ht, more, hnext, hreply⟩ | ⟨fault, s', t', hs, ht, hnext⟩ | ⟨_, _, he, -⟩
    · obtain rfl : s' = t' := (Prod.mk.inj (hs.symm.trans ht)).2
      exact ⟨_, _, more, hs, hnext, fun pid he => hreply pid (Except.ok.inj he)⟩
    · obtain rfl : s' = t' := (Prod.mk.inj (hs.symm.trans ht)).2
      exact ⟨_, _, [], hs, by rwa [List.append_nil], fun pid he => by cases he⟩
    · exact absurd he id

theorem exists_of_serve {requests : List Request}
    (hf : ∀ request ∈ requests, request.Fits sid)
    (hk : ∀ request ∈ requests, request.KeepsAt files place numberPlace)
    (h : Beside (Alone files place numberPlace T) sid s s) :
    ∃ log s' more, ∃ keys : List String, serve sid requests s = (log, s') ∧
      Beside (Alone files place numberPlace (T ++ more)) sid s' s' ∧
      assigned log = keys.map (fun key => .ok (some key)) ∧ keys.Nodup ∧
      (∀ key ∈ keys, key ∉ Table.keys T ∧ key ∈ Table.keys more) := by
  induction requests generalizing s T with
  | nil =>
    exact ⟨[], s, [], [], rfl, by rwa [List.append_nil], rfl, List.nodup_nil, by simp⟩
  | cons request requests ih =>
    obtain ⟨hfit, hfits⟩ := List.forall_mem_cons.1 hf
    obtain ⟨hkeep, hkeeps⟩ := List.forall_mem_cons.1 hk
    obtain ⟨reply, s₁, new, hout, hnext, hreply⟩ := exists_of_act hfit hkeep h
    obtain ⟨log, s', more, keys, hserve, hlast, hassigned, hnodup, hkeys⟩ := ih hfits hkeeps hnext
    have hkeys' : ∀ key ∈ keys, key ∉ Table.keys T ∧ key ∈ Table.keys (new ++ more) := by
      intro key hkey
      obtain ⟨hold, hmore⟩ := hkeys key hkey
      exact ⟨fun h => hold (Table.mem_keys_append.2 (.inl h)),
        Table.mem_keys_append.2 (.inr hmore)⟩
    have hrun : serve sid (request :: requests) s = ((request, reply) :: log, s') := by
      rw [serve_cons, hout, hserve]
    rw [List.append_assoc] at hlast
    by_cases hissue : ∃ pid, reply = .ok (.assigned pid)
    · obtain ⟨_, rfl⟩ := hissue
      obtain ⟨key, rfl, hnew, hmem⟩ := hreply _ rfl
      refine ⟨_, s', new ++ more, key :: keys, hrun, hlast, congrArg (_ :: ·) hassigned,
        List.nodup_cons.2 ⟨fun hkey => ?_, hnodup⟩, List.forall_mem_cons.2 ⟨⟨hnew, ?_⟩, hkeys'⟩⟩
      · exact (hkeys key hkey).1 (Table.mem_keys_append.2 (.inr hmem))
      · exact Table.mem_keys_append.2 (.inl hmem)
    · have hne : ∀ pid, reply ≠ .ok (.assigned pid) := fun pid he => hissue ⟨pid, he⟩
      exact ⟨_, s', new ++ more, keys, hrun, hlast,
        (assigned_cons_of_ne request hne log).trans hassigned, hnodup, hkeys'⟩

/-- A site on which a ledger was opened has all that the ledger has on record in the store. -/
theorem alone_of_reopen {s₀ : Site} {opening : Opening}
    (hopen : ((Request.reopen opening).act sid).outcome s₀ = (.ok .done, s))
    (hk : opening.KeepsAt s₀.host.files place numberPlace) (hne : numberPlace ≠ place)
    (hended : Ended (s₀.host.files.dataAt place)) (ht : ∀ id, (s₀.objects.get id).Tidy) :
    Beside (Alone s₀.host.files place numberPlace (s.services.get sid).ledger.cached) sid s s := by
  obtain ⟨ledger, host, hcreate, rfl⟩ := Request.exists_of_reopen hopen
  rw [Site.ledger_withLedger]
  obtain ⟨blank, _, entries, hb, rfl, rfl⟩ := configured_of_create hcreate
  have hkept := hk _ blank hb
  have hp := Persisted.of_create hcreate ⟨hkept.store, hkept.numbers, hkept.flushes⟩ hne hended
  exact beside_withLedger_self ht (show Alone _ _ _ _ _ _ from ⟨rfl, hp, .refl _⟩)

/-- **No identifier is issued twice**, whatever is asked and however often the ledger is opened
anew. -/
theorem issued_once {s₀ : Site} {opening : Opening}
    (hopen : ((Request.reopen opening).act sid).outcome s₀ = (.ok .done, s))
    (hk : opening.KeepsAt s₀.host.files place numberPlace) (hne : numberPlace ≠ place)
    (hended : Ended (s₀.host.files.dataAt place)) (ht : ∀ id, (s₀.objects.get id).Tidy)
    (requests : List Request) (hf : ∀ request ∈ requests, request.Fits sid)
    (hks : ∀ request ∈ requests, request.KeepsAt s₀.host.files place numberPlace) :
    ∃ log s', ∃ keys : List String, serve sid requests s = (log, s') ∧
      assigned log = keys.map (fun key => .ok (some key)) ∧ keys.Nodup ∧
      ∀ key ∈ keys, (s'.services.get sid).ledger.registered key = true := by
  obtain ⟨log, s', more, keys, hserve, hlast, hassigned, hnodup, hkeys⟩ :=
    exists_of_serve hf hks (alone_of_reopen hopen hk hne hended ht)
  refine ⟨log, s', keys, hserve, hassigned, hnodup, fun key hkey => ?_⟩
  obtain ⟨-, hp, -⟩ := hlast.linked
  rw [hp.registered_eq, Table.has_eq_true_iff, Table.mem_keys_append]
  exact .inr (hkeys key hkey).2

/-- Two identifiers, the ledger being opened anew in between. The number that was drawn first is
drawn again. -/
theorem issued_once_storeroom :
    ∃ site log s', ∃ keys : List String,
      ((Request.reopen storeroomOpening).act 0).outcome storeroomSite = (.ok .done, site) ∧
      serve 0 [.generate minting (.object 0), .reopen storeroomOpening,
        .generate minting (.object 1)] site = (log, s') ∧
      assigned log = keys.map (fun key => .ok (some key)) ∧ keys.Nodup ∧ keys.length = 2 := by
  obtain ⟨site, hopen, -⟩ := storeroomSite_reopen
  obtain ⟨log, s', keys, hserve, hassigned, hnodup, -⟩ :=
    issued_once hopen storeroomOpening_keepsAt (by decide) storeroom_ended storeroomSite_tidy
      [.generate minting (.object 0), .reopen storeroomOpening, .generate minting (.object 1)]
      (by simp [Request.Fits, minting_uses])
      (by simp [Request.KeepsAt, storeroomOpening_keepsAt])
  have hlength : (assigned (serve 0 [.generate minting (.object 0), .reopen storeroomOpening,
      .generate minting (.object 1)]
      (((Request.reopen storeroomOpening).act 0).outcome storeroomSite).2).1).length = 2 := by
    decide +kernel
  rw [hopen, hserve, hassigned, List.length_map] at hlength
  exact ⟨site, log, s', keys, hopen, hserve, hassigned, hnodup, hlength⟩

end PersistentId
