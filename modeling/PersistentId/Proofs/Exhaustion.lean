import PersistentId.Proofs.Generation
import PersistentId.Proofs.Noid.Exhaustion

/-!
# Generating with a template that may run out

A minter in sequence whose template is bounded makes only so many local parts more, and then it
fails; any other minter makes one whenever it is used. `Minter.supply` says how many there are.

`Provider.generation_ends` says what comes of generating an identifier with any template: the first
candidate that is free is given to the object, as long as there are candidates. If none is free,
generation fails for want of candidates when all that are to be tried have been, and otherwise with
what the minter fails with, which is another fault.
-/

namespace PersistentId

open PersistentId.Action

variable {minter : Minter} {template : Noid.Template} {text : String} {s t : Site}
  {sid : ServiceId} {n i : Nat}

/-! ## How many local parts there are -/

namespace Minter

variable {scope : String}

/-- How many local parts, but no more than `n`, a minter still makes for a scope: `n`, unless it is
one in sequence whose template is bounded. That makes as many as there is room for from the coming
number on. -/
def supply (minter : Minter) (template : Noid.Template) (s : Site) (sid : ServiceId)
    (scope : String) (n : Nat) : Nat :=
  match minter with
  | .random .. => n
  | .sequence .. =>
    if template.generator = .unbounded then n
    else min n (((template.capacity * template.overrun : Nat) : Int) -
      (s.services.get sid).ledger.coming s.host scope).toNat

theorem supply_le (minter : Minter) (template : Noid.Template) (s : Site) (sid : ServiceId)
    (scope : String) (n : Nat) : minter.supply template s sid scope n ≤ n := by
  cases minter with
  | random => exact Nat.le_refl _
  | sequence =>
    rw [supply]
    split
    · exact Nat.le_refl _
    · exact Nat.min_le_left _ _

/-- What a minter in sequence makes is rendered of a natural number. -/
theorem exists_nth_sequence {service : Operand}
    (hr : (Minter.sequence (.str text) service).Ready sid scope n s) (i : Nat) :
    ∃ k : Nat, (k : Int) = (s.services.get sid).ledger.coming s.host scope + i ∧
      (Minter.sequence (.str text) service).nth s sid scope i =
        Noid.render (.str text) (.int k) := by
  have hzero := (hr _ _ rfl).zero_le_coming
  obtain ⟨k, hk⟩ := Int.eq_ofNat_of_zero_le
    (a := (s.services.get sid).ledger.coming s.host scope + i) (by omega)
  exact ⟨k, hk.symm, by rw [nth, rendered, numberAt, hk]⟩

/-- There are as many local parts as the supply says. -/
theorem OfTemplate.exists_of_nth (h : minter.OfTemplate sid text template)
    (hr : minter.Ready sid scope n s) (hi : i < minter.supply template s sid scope n) :
    ∃ minted, minter.nth s sid scope i = .ok minted := by
  cases h with
  | random htemplate hlead =>
    obtain ⟨minted, hminted, -⟩ := (Endless.random htemplate hlead).exists_of_nth hr i
    exact ⟨minted, hminted⟩
  | sequence htemplate hlead =>
    obtain ⟨k, hk, hnth⟩ := exists_nth_sequence hr i
    rw [hnth, Noid.exists_render_eq_ok_iff htemplate]
    rw [supply] at hi
    split at hi
    · next hunbounded => exact .inl hunbounded
    · exact .inr (by omega)

/-- **The next use of a minter fails**, and its template is exhausted then. -/
theorem OfTemplate.nth_supply (h : minter.OfTemplate sid text template)
    (hr : minter.Ready sid scope n s) (hlt : minter.supply template s sid scope n < n) :
    minter.nth s sid scope (minter.supply template s sid scope n) =
      .error (.templateExhausted text) := by
  cases h with
  | random => exact absurd hlt (Nat.lt_irrefl n)
  | sequence htemplate hlead =>
    obtain ⟨k, hk, hnth⟩ := exists_nth_sequence hr (supply _ template s sid scope n)
    rw [hnth, Noid.render_eq_error_iff htemplate]
    rw [supply] at hk hlt
    split at hlt
    · exact absurd hlt (Nat.lt_irrefl n)
    · next hbounded =>
      rw [if_neg hbounded] at hk
      exact ⟨hbounded, by omega⟩

end Minter

/-! ## Generating -/

namespace Provider

variable {p : Provider} {scope : Scope} {id : ObjectId} {m : Int}

/-- A provider of any kind that was set up with a local service, and with a registry service if it
registers its identifiers with one. Its authority, its shoulder and the lead of its template can be
parts of identifiers, and its separator can be written. -/
structure SetUp (p : Provider) (sid : ServiceId) (text : String) (template : Noid.Template) :
    Prop where
  made : ∃ kind parts source endpoint, ofParts kind parts source endpoint = .ok p ∧
    parts.service = .service sid ∧
      (kind.usesRegistry = true → ∃ rid, parts.client = .registry rid)
  authority : ∃ a, p.authority = .str a ∧ Part.isProper a = true
  shoulder : ∃ l, p.shoulder = .str l ∧ Part.isProper l = true
  short : p.separator.isShort = true
  given : p.minter.template = .str text
  parses : Noid.Template.parse text = .ok template
  lead : Part.isPlain (String.ofList template.lead) = true

theorem SetUp.prepared (h : p.SetUp sid text template) :
    p.Prepared sid ∧ p.minter.OfTemplate sid text template := by
  obtain ⟨kind, parts, source, endpoint, hmade, hs, hc⟩ := h.made
  obtain ⟨hp, hof, -⟩ := prepared_of_ofParts hmade h.authority h.shoulder hs hc h.short h.given
    h.parses h.lead
  exact ⟨hp, hof⟩

/-- The local service of a provider works, whatever has become of it since it was opened: no others
use it, it stores what it is to store, and it can give out `n` numbers of a scope if the minter of
the provider needs them. -/
structure Backed (p : Provider) (sid : ServiceId) (scope : String) (n : Nat) (s : Site) : Prop where
  alone : (s.services.get sid).rivals = none
  reached : (s.services.get sid).ledger.Reached
  start : 0 ≤ (s.services.get sid).ledger.start.toInt
  storable : (s.services.get sid).ledger.Storable s.host
  legible : ∀ template service, p.minter = .sequence template service →
    (s.services.get sid).ledger.Legible s.host
  short : ∀ template service, p.minter = .sequence template service →
    Ledger.placeAt (s.services.get sid).ledger.numberStore ≠ none →
      isShort ((s.services.get sid).ledger.coming s.host scope + n) = true

theorem Backed.ready {name : String} (h : p.Backed sid name n s) : p.minter.Ready sid name n s :=
  fun template service he =>
    ⟨h.reached.regular, h.start, h.legible template service he, h.short template service he⟩

theorem exists_upcomingTo {k : Nat}
    (h : ∀ i < k, ∃ minted, p.minter.nth s sid (p.nameOf scope) i = .ok minted) :
    ∃ c, p.UpcomingTo sid scope k s c := by
  choose! minted hminted using h
  exact ⟨fun i => p.made scope (minted i), fun i hi => ⟨minted i, hminted i hi, rfl⟩⟩

/-- **What comes of generating an identifier.** The first candidate that is free is given to the
object, out of as many as are to be tried and as the minter makes. If none is free, generation fails
for want of candidates if all that are to be tried have been, and as exhausted templates do if the
minter made fewer. -/
theorem generation_ends (hp : p.SetUp sid text template)
    (hscope : p.ScopeOf s (s.objects.get id) scope) (hm : p.maxAttempts.asInt = .ok m)
    (hbacked : p.Backed sid (p.nameOf scope) m.toNat s) :
    ∃ k c t, k = p.minter.supply template s sid (p.nameOf scope) m.toNat ∧
      p.UpcomingTo sid scope k s c ∧ Spares id sid s t ∧
      ((∃ j < k, p.FirstFree s c j ∧ (p.generate (.object id)).outcome s = (.ok ⟨⟩, t) ∧
          p.Assigned sid id scope (c j) (j + 1) s t) ∨
        ((∀ i < k, ¬ p.FindsFree s (c i).toString) ∧
          ((k = m.toNat ∧
              (p.generate (.object id)).outcome s = (.error (p.shortage scope m), t) ∧
              p.Refused sid id scope k s t) ∨
            (k < m.toNat ∧
              (p.generate (.object id)).outcome s = (.error (.templateExhausted text), t) ∧
              p.Refused sid id scope (k + 1) s t)))) := by
  obtain ⟨hprepared, hof⟩ := hp.prepared
  have hready := hbacked.ready
  have hfails := hof.nth_supply hready
  obtain ⟨c, hc⟩ := exists_upcomingTo fun i hi => hof.exists_of_nth hready hi
  obtain ⟨t, hspares, hends⟩ := hprepared.outcome_generate hof hscope hm hbacked.alone
    hbacked.reached hbacked.storable hready (Minter.supply_le ..) hc fun hlt => ⟨_, hfails hlt⟩
  refine ⟨_, c, t, rfl, hc, hspares, hends.imp_right (And.imp_right (Or.imp_right ?_))⟩
  rintro ⟨fault, hlt, hfault, hout, hrefused⟩
  obtain rfl := Except.error.inj (hfault.symm.trans (hfails hlt))
  exact ⟨hlt, hout, hrefused⟩

/-! ## A provider with one number left -/

/-- A provider of numbers in sequence of one digit. -/
def waning : Provider where
  kind := .fake
  authority := .str "10.5072"
  shoulder := .str "FK2/"
  style := .str Minter.sequenceStyle
  config := .map [("sequence_template", .str "sd")]
  minter := .sequence (.str "sd") (.service 0)
  service := .service 0

/-- What it is made from. -/
def waningParts : Parts where
  authority := .str "10.5072"
  shoulder := .str "FK2/"
  style := .str Minter.sequenceStyle
  service := .service 0
  config := .map [("sequence_template", .str "sd")]

/-- A ledger in memory alone whose sequences start with nine, and in which the identifier with that
number is taken. -/
def lastTaken : Ledger where
  uncached := [("doi:10.5072/FK2/9", .map [])]
  start := .number 9

/-- A site with such a ledger, and with a dataset. -/
def waningSite : Site where
  services := Shelf.put {} 0 { ledger := lastTaken }
  objects := Shelf.put {} 0 { kind := .dataset }

theorem lastTaken_reached : lastTaken.Reached := by
  have hopened : (Ledger.create .null (.map [("sequence_start", .int 9)]) .null).outcome {} =
      (.ok { start := .number 9 }, {}) := rfl
  have hreached := (Ledger.Reached.opened hopened).deed (.reserve "doi:10.5072/FK2/9" .null) {}
  have hreserved : ((Ledger.Deed.reserve "doi:10.5072/FK2/9" .null).act.outcome
      (({ start := .number 9 } : Ledger), ({} : Host))).2.1 = lastTaken := by
    decide +kernel
  rwa [hreserved] at hreached

theorem waning_setUp : waning.SetUp 0 "sd" ⟨"sd", [], .sequence, ['d']⟩ where
  made := ⟨.fake, waningParts, 0, fun _ => .null, by decide +kernel, rfl, nofun⟩
  authority := ⟨_, rfl, by decide⟩
  shoulder := ⟨_, rfl, by decide⟩
  short := rfl
  given := rfl
  parses := rfl
  lead := rfl

theorem waning_backed : waning.Backed 0 (waning.nameOf waning.ownScope) 20 waningSite where
  alone := rfl
  reached := lastTaken_reached
  start := by decide
  storable := nofun
  legible := nofun
  short := nofun

theorem waning_fails : ((waning.generate (.object 0)).outcome waningSite).1 =
    .error (.templateExhausted "sd") := by
  decide +kernel

/-- Its one candidate is taken, and the second number is used up in vain. -/
theorem generation_ends_waning :
    ∃ t, (waning.generate (.object 0)).outcome waningSite =
        (.error (.templateExhausted "sd"), t) ∧
      waning.Refused 0 0 waning.ownScope 2 waningSite t := by
  have hscope : waning.ScopeOf waningSite (waningSite.objects.get (0 : ObjectId))
      waning.ownScope :=
    .dataset rfl
  have hattempts : waning.maxAttempts.asInt = .ok 20 := rfl
  obtain ⟨k, c, t, hk, -, -, hends⟩ := generation_ends waning_setUp hscope hattempts waning_backed
  have hone : k = 1 := hk.trans (by decide +kernel)
  have hfails := waning_fails
  rcases hends with ⟨j, -, -, hout, -⟩ | ⟨-, ⟨hall, -⟩ | ⟨-, hout, hrefused⟩⟩
  · rw [hout] at hfails
    cases hfails
  · rw [hone] at hall
    exact absurd hall (by decide)
  · exact ⟨t, hout, by rwa [hone] at hrefused⟩

/-- Generating an identifier for a dataset may fail otherwise than for want of candidates. -/
theorem not_forall_noneFree_of_generate :
    ¬ ∀ (p : Provider) (sid : ServiceId) (text : String) (template : Noid.Template) (s : Site)
      (id : ObjectId) (m : Int), p.SetUp sid text template → p.maxAttempts.asInt = .ok m →
      p.Backed sid (p.nameOf p.ownScope) m.toNat s → (s.objects.get id).isDataset = true →
      ((p.generate (.object id)).outcome s).1 = .ok ⟨⟩ ∨
        ∃ name n, ((p.generate (.object id)).outcome s).1 = .error (.noneFree name n) := by
  intro h
  have hattempts : waning.maxAttempts.asInt = .ok 20 := rfl
  rcases h _ _ _ _ waningSite 0 20 waning_setUp hattempts waning_backed rfl with
    hok | ⟨name, n, hnone⟩
  · cases waning_fails.symm.trans hok
  · cases waning_fails.symm.trans hnone

end Provider

end PersistentId
