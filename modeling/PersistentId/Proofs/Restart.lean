import PersistentId.Proofs.Ledger.Current
import PersistentId.Proofs.Request

/-!
# Restarts are not observed

Two sites are asked the same, but on one of them the ledger is opened anew now and then. Every other
request gets the same reply on both, and the files are the same in the end (`restarts_unobserved`).

The two ledgers may remember different numbers. Both are `Ledger.Current`, though, and on the same
files current ledgers answer alike: they are `Twins`, which is a bond (`bond_twins`).
-/

namespace PersistentId

open PersistentId.Action Ledger

/-- Two current ledgers on the same files. -/
def Twins (opening : Opening) (blank : Ledger) (place numberPlace : Path) : Relation := fun T x y =>
  Current opening blank place numberPlace T x.1 x.2 ∧
    Current opening blank place numberPlace T y.1 y.2 ∧ x.2.files = y.2.files

variable {opening : Opening} {blank : Ledger} {place numberPlace : Path} {T : Table String Value}
  {sid : ServiceId} {s t : Site}

theorem lockstep_reserve_twins {key : String} {data : Value} (hk : Ledger.isKey key = true)
    (hd : Ledger.isData data = true) :
    Lockstep (fun _ => False) (Ledger.reserve key data) (Twins opening blank place numberPlace T)
      (fun _ x y => key ∉ Table.keys T ∧
        Twins opening blank place numberPlace (T ++ [(key, data)]) x y)
      (Twins opening blank place numberPlace T) := by
  rintro ⟨ledger, host⟩ ⟨ledger', host'⟩ ⟨hx, hy, hfiles⟩
  by_cases hnew : key ∈ Table.keys T
  · have hhas : Table.has T key = true := Table.has_eq_true_iff.2 hnew
    have hregx : ledger.registered key = true := by rw [hx.persisted.registered_eq, hhas]
    have hregy : ledger'.registered key = true := by rw [hy.persisted.registered_eq, hhas]
    exact .inr (.inl ⟨_, _, _, outcome_reserve_of_registered hregx data host,
      outcome_reserve_of_registered hregy data host', hx, hy, hfiles⟩)
  · obtain ⟨_, _, houtx, hfilesx, hx'⟩ := hx.reserve hnew hk hd
    obtain ⟨_, _, houty, hfilesy, hy'⟩ := hy.reserve hnew hk hd
    refine .inl ⟨_, _, _, houtx, houty, hnew, hx', hy', ?_⟩
    rw [hfilesx, hfilesy, show host.files = host'.files from hfiles]

theorem lockstep_nextNumber_twins (scope : String) :
    Lockstep (· = .tooLong) (Ledger.nextNumber (.str scope))
      (Twins opening blank place numberPlace T) (fun _ => Twins opening blank place numberPlace T)
      (Twins opening blank place numberPlace T) := by
  rintro ⟨ledger, host⟩ ⟨ledger', host'⟩ ⟨hx, hy, hfiles⟩
  obtain ⟨_, _, houtx, hfilesx, hx'⟩ := hx.nextNumber scope
  obtain ⟨_, _, houty, hfilesy, hy'⟩ := hy.nextNumber scope
  rw [← show host.files = host'.files from hfiles] at houty hfilesy hy'
  have hsame := hfilesx.trans hfilesy.symm
  by_cases hlong : (drawn blank numberPlace host.files scope).1 = .error .tooLong
  · exact .inr (.inr ⟨_, _, rfl, hlong ▸ houtx⟩)
  · cases hresult : (drawn blank numberPlace host.files scope).1 with
    | ok n =>
      exact .inl ⟨n, _, _, hresult ▸ houtx, hresult ▸ houty, hx' hlong, hy' hlong, hsame⟩
    | error fault =>
      exact .inr (.inl ⟨fault, _, _, hresult ▸ houtx, hresult ▸ houty, hx' hlong, hy' hlong,
        hsame⟩)

/-- **Twins answer alike**, as long as no number is too long to be written. -/
theorem bond_twins (opening : Opening) (blank : Ledger) (place numberPlace : Path) :
    Bond (Twins opening blank place numberPlace) (· = .tooLong) where
  note := by
    rintro T ledger ledger' host host' entries ⟨hx, hy, hfiles⟩
    exact ⟨hx.record entries, hy.record entries, hfiles⟩
  data? := by
    rintro T x y ⟨hx, hy, -⟩ key
    rw [hx.persisted.data?_eq, hy.persisted.data?_eq]
  ids := by
    rintro T x y ⟨hx, hy, -⟩
    rw [hx.persisted.ids_eq, hy.persisted.ids_eq]
  reserve _ _ _ hk hd := lockstep_reserve_twins hk hd
  nextNumber _ scope := lockstep_nextNumber_twins scope

/-! ## Runs -/

/-- Opening the ledger of one site anew leaves the sites side by side. -/
theorem Beside.reopen (h : Beside (Twins opening blank place numberPlace T) sid s t) :
    ∃ t', ((Request.reopen opening).act sid).outcome t = (.ok .done, t') ∧
      Beside (Twins opening blank place numberPlace T) sid s t' := by
  obtain ⟨hx, hy, hfiles⟩ := h.linked
  obtain ⟨ledger, entries, hcreate, hnext⟩ := hy.create
  refine ⟨t.withLedger sid ledger (t.host.record entries), ?_, h.objects, h.registries, h.sources,
    ?_, h.tidy, hx, ?_, hfiles⟩
  · rw [Request.outcome_reopen, hcreate]
  · rw [h.rivals, Site.withLedger, Shelf.get_put_self]
  · rw [Site.ledger_withLedger]
    exact hnext

/-- Any other request gets the same reply on both sites. -/
theorem Beside.act (h : Beside (Twins opening blank place numberPlace T) sid s t)
    {request : Request} (hf : request.Fits sid) (hr : request.isReopen = false)
    (hshort : ((request.act sid).outcome s).1 ≠ .error .tooLong) :
    ∃ reply s' t' T', (request.act sid).outcome s = (reply, s') ∧
      (request.act sid).outcome t = (reply, t') ∧
      Beside (Twins opening blank place numberPlace T') sid s' t' := by
  rcases Request.lockstep_act (bond_twins opening blank place numberPlace) hf hr s t h with
    ⟨reply, s', t', hs, ht, more, hnext, -⟩ | ⟨fault, s', t', hs, ht, hnext⟩ | ⟨_, s', rfl, hs⟩
  · exact ⟨_, s', t', T ++ more, hs, ht, hnext⟩
  · exact ⟨_, s', t', T, hs, ht, hnext⟩
  · exact absurd (congrArg Prod.fst hs) hshort

/-- **Requests leave the sites side by side**, wherever the ledger of the second one is opened
anew. -/
theorem Beside.serve (h : Beside (Twins opening blank place numberPlace T) sid s t)
    {requests : List Request} (hf : ∀ request ∈ requests, request.Fits sid)
    (hr : ∀ other, .reopen other ∈ requests → other = opening)
    (hshort : ∀ entry ∈ (serve sid (requests.filter (!·.isReopen)) s).1,
      entry.2 ≠ .error .tooLong) :
    ∃ plain log s' t' T', PersistentId.serve sid (requests.filter (!·.isReopen)) s = (plain, s') ∧
      PersistentId.serve sid requests t = (log, t') ∧
      log.filter (!·.1.isReopen) = plain ∧
      (∀ entry ∈ log, entry.1.isReopen = true → entry.2 = .ok .done) ∧
      Beside (Twins opening blank place numberPlace T') sid s' t' := by
  induction requests generalizing s t T with
  | nil => exact ⟨[], [], s, t, T, rfl, rfl, rfl, by simp, h⟩
  | cons request requests ih =>
    obtain ⟨hfit, hfits⟩ := List.forall_mem_cons.1 hf
    have hrs : ∀ other, .reopen other ∈ requests → other = opening :=
      fun other hmem => hr other (List.mem_cons_of_mem _ hmem)
    cases hreopen : request.isReopen with
    | true =>
      cases request with
      | reopen other =>
        obtain rfl := hr other List.mem_cons_self
        obtain ⟨t₁, hact, hnext⟩ := h.reopen
        have hplain : (Request.reopen other :: requests).filter (!·.isReopen) =
            requests.filter (!·.isReopen) := rfl
        rw [hplain] at hshort ⊢
        obtain ⟨plain, log, s', t', T', hs, ht, hlog, hdone, hlast⟩ := ih hnext hfits hrs hshort
        exact ⟨plain, (.reopen other, .ok .done) :: log, s', t', T', hs,
          by rw [serve_cons, hact, ht], hlog,
          List.forall_mem_cons.2 ⟨fun _ => rfl, hdone⟩, hlast⟩
      | _ => cases hreopen
    | false =>
      have hplain : (request :: requests).filter (!·.isReopen) =
          request :: requests.filter (!·.isReopen) :=
        List.filter_cons_of_pos (by rw [hreopen]; rfl)
      rw [hplain] at hshort ⊢
      rw [serve_cons, List.forall_mem_cons] at hshort
      obtain ⟨hfirst, hrest⟩ := hshort
      obtain ⟨reply, s₁, t₁, T₁, hacts, hactt, hnext⟩ := h.act hfit hreopen hfirst
      rw [hacts] at hrest
      obtain ⟨plain, log, s', t', T', hs, ht, hlog, hdone, hlast⟩ := ih hnext hfits hrs hrest
      refine ⟨(request, reply) :: plain, (request, reply) :: log, s', t', T',
        by rw [serve_cons, hacts, hs],
        by rw [serve_cons, hactt, ht], ?_,
        List.forall_mem_cons.2 ⟨fun he => ?_, hdone⟩, hlast⟩
      · rw [List.filter_cons_of_pos (by rw [hreopen]; rfl), hlog]
      · rw [hreopen] at he
        cases he

/-- A site on which a ledger was opened, beside itself. -/
theorem twins_of_reopen {s₀ : Site}
    (hopen : ((Request.reopen opening).act sid).outcome s₀ = (.ok .done, s))
    (hk : KeptAt s₀.host.files place numberPlace (s.services.get sid).ledger)
    (hne : numberPlace ≠ place) (hended : Ended (s₀.host.files.dataAt place))
    (ht : ∀ id, (s₀.objects.get id).Tidy) :
    ∃ blank T, Beside (Twins opening blank place numberPlace T) sid s s := by
  obtain ⟨ledger, host, hcreate, rfl⟩ := Request.exists_of_reopen hopen
  rw [Site.ledger_withLedger] at hk
  obtain ⟨blank, hcurrent⟩ := Current.of_create hcreate hk hne hended
  exact ⟨blank, ledger.cached,
    beside_withLedger_self ht (show Twins _ _ _ _ _ _ _ from ⟨hcurrent, hcurrent, rfl⟩)⟩

/-- **Restarts are not observed**: whenever the ledger is opened anew, every other request gets the
reply that it gets without that, and the files are the same in the end. The next numbers are written
as whole documents: none may be too long for that. -/
theorem restarts_unobserved {s₀ : Site}
    (hopen : ((Request.reopen opening).act sid).outcome s₀ = (.ok .done, s))
    (hk : KeptAt s₀.host.files place numberPlace (s.services.get sid).ledger)
    (hne : numberPlace ≠ place) (hended : Ended (s₀.host.files.dataAt place))
    (ht : ∀ id, (s₀.objects.get id).Tidy)
    (requests : List Request) (hf : ∀ request ∈ requests, request.Fits sid)
    (hr : ∀ other, .reopen other ∈ requests → other = opening)
    (hshort : ∀ entry ∈ (serve sid (requests.filter (!·.isReopen)) s).1,
      entry.2 ≠ .error .tooLong) :
    ∃ plain log s' t', serve sid (requests.filter (!·.isReopen)) s = (plain, s') ∧
      serve sid requests s = (log, t') ∧ log.filter (!·.1.isReopen) = plain ∧
      (∀ entry ∈ log, entry.1.isReopen = true → entry.2 = .ok .done) ∧
      t'.host.files = s'.host.files ∧ t'.objects = s'.objects := by
  obtain ⟨blank, T, hstart⟩ := twins_of_reopen hopen hk hne hended ht
  obtain ⟨plain, log, s', t', T', hs, hlog, hsame, hdone, hlast⟩ := hstart.serve hf hr hshort
  exact ⟨plain, log, s', t', hs, hlog, hsame, hdone, hlast.linked.2.2.symm, hlast.objects.symm⟩

/-- Numbers and an identifier, the ledger being opened anew in between. -/
theorem restarts_unobserved_storeroom :
    ∃ site plain log s' t',
      ((Request.reopen storeroomOpening).act 0).outcome storeroomSite = (.ok .done, site) ∧
      serve 0 [.next "a", .generate minting (.object 0), .next "a"] site = (plain, s') ∧
      serve 0 [.next "a", .reopen storeroomOpening, .generate minting (.object 0),
        .reopen storeroomOpening, .next "a"] site = (log, t') ∧
      log.filter (!·.1.isReopen) = plain ∧ (∀ entry ∈ plain, entry.2.isOk = true) ∧
      t'.host.files = s'.host.files := by
  obtain ⟨site, hopen, hledger⟩ := storeroomSite_reopen
  have hok : ∀ entry ∈ (serve 0 [.next "a", .generate minting (.object 0), .next "a"]
      (((Request.reopen storeroomOpening).act 0).outcome storeroomSite).2).1,
      entry.2.isOk = true := by
    decide +kernel
  rw [hopen] at hok
  obtain ⟨plain, log, s', t', hplain, hlog, hsame, -, hfiles, -⟩ :=
    restarts_unobserved hopen (by rw [hledger]; exact storeroom_keptAt) (by decide) storeroom_ended
      storeroomSite_tidy
      [.next "a", .reopen storeroomOpening, .generate minting (.object 0),
        .reopen storeroomOpening, .next "a"]
      (by simp [Request.Fits, minting_uses]) (by simp) fun entry hentry he => by
        have hreply := hok entry hentry
        rw [he] at hreply
        cases hreply
  have hrun : serve 0 [.next "a", .generate minting (.object 0), .next "a"] site = (plain, s') :=
    hplain
  rw [hrun] at hok
  exact ⟨site, plain, log, s', t', hopen, hrun, hlog, hsame, hok, hfiles⟩

end PersistentId
