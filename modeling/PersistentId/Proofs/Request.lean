import PersistentId.Proofs.Ledger.Persisted
import PersistentId.Proofs.Provider.Generate

/-!
# Requests to a site

What is asked of a site on which providers share the ledger of one local service: identifiers are
reserved, looked up, listed and generated, numbers are given out, and a newly opened ledger may take
the place of the one there (`Request.reopen`). `serve` meets requests one after another and keeps a
log of the replies.

On sites side by side a request other than to reopen the ledger gets the same reply
(`Request.lockstep_act`).
-/

namespace PersistentId

open PersistentId.Action Ledger

/-- What is asked of a site. -/
inductive Request where
  | reserve (key : String) (data : Value)
  | next (scope : String)
  | registered (key : String)
  | dataOf (key : String)
  | ids
  | generate (p : Provider) (operand : Operand)
  /-- Other objects, registry services and random numbers take the place of those there. -/
  | exchange (objects : Shelf DigitalObject) (registries : Shelf RegistryService)
      (sources : Shelf (List Int))
  /-- A newly opened ledger takes the place of the one there. -/
  | reopen (opening : Opening)

/-- The reply to a request. -/
inductive Reply where
  | done
  | number (n : Counter)
  | registered (known : Bool)
  | data (found : Option Value)
  | ids (ids : List String)
  /-- The canonical form of the identifier that the object has after one was generated for it. -/
  | assigned (pid : Except Fault (Option String))

namespace Request

/-- Meet a request on a site, where the ledger is that of the given local service. -/
def act (sid : ServiceId) : Request → Site.Use Reply
  | .reserve key data => do
    Site.onService sid (LocalService.reserve key data)
    pure .done
  | .next scope => .number <$> Site.onLedger sid (Ledger.nextNumber (.str scope))
  | .registered key => do pure (.registered (((← get).services.get sid).ledger.registered key))
  | .dataOf key => do pure (.data (((← get).services.get sid).ledger.data? key))
  | .ids => do pure (.ids ((← get).services.get sid).ledger.ids)
  | .generate p operand => do
    p.generate operand
    .assigned <$> (Provider.pidOf operand).attempt
  | .exchange objects registries sources => do
    modify fun site => { site with objects, registries, sources }
    pure .done
  | .reopen opening => do
    let ledger ← Site.onHost (Ledger.create opening.directory opening.config opening.name)
    modify fun site =>
      { site with services := site.services.put sid { site.services.get sid with ledger } }
    pure .done

/-- Whether a request is to reopen the ledger. -/
def isReopen : Request → Bool
  | .reopen _ => true
  | _ => false

/-- Whether a request can be met as it is meant: what it reserves can stand in a store, its provider
works with the local service, and its objects are tidy. -/
def Fits (sid : ServiceId) : Request → Prop
  | .reserve key data => Ledger.isKey key = true ∧ Ledger.isData data = true
  | .generate p _ => p.Uses sid
  | .exchange objects _ _ => ∀ id, (objects.get id).Tidy
  | _ => True

end Request

/-- Meet requests one after another. -/
def serve (sid : ServiceId) :
    List Request → Site → List (Request × Except Fault Reply) × Site
  | [], site => ([], site)
  | request :: requests, site =>
    let (reply, site) := (request.act sid).outcome site
    let (log, site) := serve sid requests site
    ((request, reply) :: log, site)

theorem serve_cons (sid : ServiceId) (request : Request) (requests : List Request) (site : Site) :
    serve sid (request :: requests) site =
      ((request, ((request.act sid).outcome site).1) ::
          (serve sid requests ((request.act sid).outcome site).2).1,
        (serve sid requests ((request.act sid).outcome site).2).2) := rfl

/-- The site with a ledger in a local service, on the given host. -/
def Site.withLedger (site : Site) (sid : ServiceId) (ledger : Ledger) (host : Host) : Site :=
  { site with host, services := site.services.put sid { site.services.get sid with ledger } }

@[simp]
theorem Site.ledger_withLedger (site : Site) (sid : ServiceId) (ledger : Ledger) (host : Host) :
    ((site.withLedger sid ledger host).services.get sid).ledger = ledger := by
  rw [withLedger, Shelf.get_put_self]

theorem Request.outcome_reopen (sid : ServiceId) (opening : Opening) (site : Site) :
    ((Request.reopen opening).act sid).outcome site =
      match (Ledger.create opening.directory opening.config opening.name).outcome site.host with
      | (.ok ledger, host) => (.ok .done, site.withLedger sid ledger host)
      | (.error fault, host) => (.error fault, { site with host }) := by
  rw [act, outcome_bind, Site.onHost, outcome_zoom]
  rcases (Ledger.create opening.directory opening.config opening.name).outcome site.host with
    ⟨fault | ledger, host⟩ <;> rfl

/-- Where a ledger was opened, it stands on the site. -/
theorem Request.exists_of_reopen {sid : ServiceId} {opening : Opening} {site site' : Site}
    (h : ((Request.reopen opening).act sid).outcome site = (.ok .done, site')) :
    ∃ ledger host, (Ledger.create opening.directory opening.config opening.name).outcome site.host =
      (.ok ledger, host) ∧ site' = site.withLedger sid ledger host := by
  rw [outcome_reopen] at h
  rcases hcreate : (Ledger.create opening.directory opening.config opening.name).outcome site.host
    with ⟨fault | ledger, host⟩
  · rw [hcreate] at h
    cases h
  · rw [hcreate] at h
    exact ⟨ledger, host, rfl, (Prod.mk.inj h).2.symm⟩

/-! ## Side by side -/

/-- What is on record after a request, and that it was not before if it was assigned. -/
def Follows (L : Relation) (T : Table String Value) (sid : ServiceId) (reply : Reply) (s t : Site) :
    Prop :=
  ∃ more, Beside (L (T ++ more)) sid s t ∧
    ∀ pid, reply = .assigned pid →
      ∃ key, pid = .ok (some key) ∧ key ∉ Table.keys T ∧ key ∈ Table.keys more

variable {L : Relation} {E : Fault → Prop} {T : Table String Value} {sid : ServiceId}

theorem Beside.follows {s t : Site} (h : Beside (L T) sid s t) {reply : Reply}
    (hr : ∀ pid, reply ≠ .assigned pid) : Follows L T sid reply s t :=
  ⟨[], by rwa [List.append_nil], fun pid he => absurd he (hr pid)⟩

/-- Related ledgers may take the places of those there. -/
theorem Beside.withLedger {L' : Ledger × Host → Ledger × Host → Prop}
    {L : Ledger × Host → Ledger × Host → Prop} {s t : Site} (h : Beside L sid s t)
    {ledger ledger' : Ledger} {host host' : Host} (hl : L' (ledger, host) (ledger', host')) :
    Beside L' sid (s.withLedger sid ledger host) (t.withLedger sid ledger' host') :=
  ⟨h.objects, h.registries, h.sources, by simp [Site.withLedger, h.rivals], h.tidy, by
    rw [Site.ledger_withLedger, Site.ledger_withLedger]
    exact hl⟩

/-- A site with a ledger is beside itself if that is related to itself. -/
theorem beside_withLedger_self {L : Ledger × Host → Ledger × Host → Prop} {s : Site}
    (ht : ∀ id, (s.objects.get id).Tidy) {ledger : Ledger} {host : Host}
    (hl : L (ledger, host) (ledger, host)) :
    Beside L sid (s.withLedger sid ledger host) (s.withLedger sid ledger host) := by
  have hstart : Beside (fun _ _ => True) sid s s := ⟨rfl, rfl, rfl, rfl, ht, trivial⟩
  exact hstart.withLedger hl

/-- A request that only looks at the ledger. -/
theorem lockstep_view {f : Ledger → Reply}
    (hf : ∀ x y, L T x y → f x.1 = f y.1) (hr : ∀ ledger pid, f ledger ≠ .assigned pid) :
    Lockstep E (do pure (f ((← get).services.get sid).ledger) : Site.Use Reply) (Beside (L T) sid)
      (Follows L T sid) (Beside (L T) sid) := by
  intro s t hst
  refine .inl ⟨f (s.services.get sid).ledger, s, t, by simp [Except.map], ?_, hst.follows (hr _)⟩
  rw [hf _ _ hst.linked]
  simp [Except.map]

theorem lockstep_assigned (p : Provider) (b : Bond L E) (hp : p.Uses sid) (operand : Operand) :
    Lockstep E (Request.act sid (.generate p operand)) (Beside (L T) sid) (Follows L T sid)
      (Beside (L T) sid) := by
  refine Lockstep.bind (Provider.lockstep_generate b hp operand) fun _ => ?_
  rintro s t ⟨id, rfl, key, hpid, hnew, data, h⟩
  have hreply (site : Site) (hsite : (site.objects.get id).pidText? = .ok (some key)) :
      (Reply.assigned <$> (Provider.pidOf (.object id)).attempt).outcome site =
        (.ok (.assigned (.ok (some key))), site) := by
    have hread : (Provider.pidOf (.object id)).outcome site =
        ((site.objects.get id).pidText?, site) := rfl
    rw [outcome_map, outcome_attempt, hread, hsite]
    rfl
  refine .inl ⟨.assigned (.ok (some key)), s, t, hreply s hpid, hreply t (h.objects ▸ hpid),
    [(key, data)], h, ?_⟩
  · rintro _ ⟨⟩
    exact ⟨key, rfl, hnew, by simp [Table.keys]⟩

/-- **On sites side by side a request gets one reply.** -/
theorem Request.lockstep_act (b : Bond L E) {request : Request} (hf : request.Fits sid)
    (hr : request.isReopen = false) :
    Lockstep E (request.act sid) (Beside (L T) sid) (Follows L T sid) (Beside (L T) sid) := by
  cases request with
  | reserve key data =>
    refine Lockstep.bind ((Site.lockstep_onService
      (LocalService.lockstep_reserve (b.reserve T hf.1 hf.2))).weaken (fun _ => False.elim)
        (fun _ _ h => h) (fun _ _ _ h => h) fun _ _ h => h) fun _ => ?_
    exact Lockstep.pure fun s t h => ⟨[(key, data)], h.and.2, fun pid he => by cases he⟩
  | next scope =>
    rw [Request.act, map_eq_pure_bind]
    exact Lockstep.bind (Site.lockstep_onLedger (b.nextNumber T scope)) fun _ =>
      Lockstep.pure fun _ _ h => h.follows (by simp)
  | registered key =>
    exact lockstep_view (f := fun ledger => .registered (ledger.registered key))
      (fun x y h => congrArg Reply.registered (b.registered h key)) (by simp)
  | dataOf key =>
    exact lockstep_view (f := fun ledger => .data (ledger.data? key))
      (fun x y h => congrArg Reply.data (b.data? h key)) (by simp)
  | ids =>
    exact lockstep_view (f := fun ledger => .ids ledger.ids)
      (fun x y h => congrArg Reply.ids (b.ids h)) (by simp)
  | generate p operand => exact lockstep_assigned p b hf operand
  | exchange objects registries sources =>
    refine Lockstep.bind (Lockstep.modify (S := fun _ => Beside (L T) sid) fun s t h =>
      ⟨rfl, rfl, rfl, h.rivals, hf, h.linked⟩) fun _ => ?_
    exact Lockstep.pure fun s t h => h.follows (by simp)
  | reopen opening => cases hr

/-! ## A site with a ledger in an empty directory -/

/-- Two datasets and the numbers that a minter will draw. -/
def storeroomSite : Site where
  host := storeroom
  objects := (Shelf.put {} 0 { kind := .dataset }).put 1 { kind := .dataset }
  sources := Shelf.put {} 0 [5, 5, 7]

/-- A provider of DOIs that are registered nowhere. -/
def minting : Provider where
  kind := .fake
  authority := .str "10.5072"
  shoulder := .str "FK2/"
  minter := .random (.str "reeeeee") 594823321 (.bool true) 0
  service := .service 0

/-- What the ledger is opened from. -/
def storeroomOpening : Opening := ⟨.str "/d", twoFiles true, .null⟩

theorem storeroomSite_tidy (id : ObjectId) : (storeroomSite.objects.get id).Tidy := by
  have hdataset : ({ kind := .dataset } : DigitalObject).Tidy := ⟨rfl, fun _ h => by cases h⟩
  have hdefault : (default : DigitalObject).Tidy := ⟨rfl, fun _ h => by cases h⟩
  rw [storeroomSite]
  by_cases h₁ : id = 1
  · rw [h₁, Shelf.get_put_self]
    exact hdataset
  rw [Shelf.get_put_of_ne _ _ h₁]
  by_cases h₀ : id = 0
  · rw [h₀, Shelf.get_put_self]
    exact hdataset
  · rw [Shelf.get_put_of_ne _ _ h₀]
    exact hdefault

theorem minting_uses : minting.Uses 0 where
  service := rfl
  minter template service h := by cases h
  separator := by decide

theorem storeroom_keptAt : KeptAt storeroomSite.host.files ["d", "s"] ["d", "n"] (keeper true) :=
  ⟨⟨_, rfl, storeroom_opens⟩, ⟨_, rfl, storeroom_opens_numbers⟩, rfl⟩

theorem storeroomOpening_keepsAt :
    storeroomOpening.KeepsAt storeroomSite.host.files ["d", "s"] ["d", "n"] := by
  intro tree ledger h
  rw [eq_keeper_of_configured h]
  exact storeroom_keptAt

theorem storeroomSite_reopen :
    ∃ site, ((Request.reopen storeroomOpening).act 0).outcome storeroomSite = (.ok .done, site) ∧
      (site.services.get 0).ledger = keeper true := by
  obtain ⟨entries, hcreate⟩ := storeroom_create true
  rw [Request.outcome_reopen]
  simp only [storeroomOpening, storeroomSite, hcreate]
  exact ⟨_, rfl, Site.ledger_withLedger ..⟩

end PersistentId
