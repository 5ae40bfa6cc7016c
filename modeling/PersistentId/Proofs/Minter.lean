import PersistentId.Minter.Minting
import PersistentId.Proofs.Ledger.Coming
import PersistentId.Proofs.Noid.Room

/-!
# What minters make one after the other

A random minter draws below the capacity of its template, and a minter in sequence gets its numbers
from a local service (`Minter.OfTemplate`). Which numbers come next is settled: those that the
source holds, or the coming ones of the scope (`Minter.numberAt`). There is a local part for every
number if the minter is random, or if its template is unbounded (`Minter.Endless`).

Minting gives the first of the local parts that come next or fails if there is none, uses up its
number and no other (`Minter.Spends`), and leaves what identifiers are looked up in as it was
(`Site.Tried`). This is `Minter.OfTemplate.outcome_mint`.
-/

namespace PersistentId

open PersistentId.Action

variable {minter : Minter} {s t u : Site} {sid : ServiceId} {scope : String} {k n : Nat}

/-! ## What is left alone -/

/-- A site on which identifiers may have been minted and looked up, but none reserved: it differs
from what it was in random numbers, in the numbers that a ledger has given out, in the calls that
registry services have got and in what the host has of them. -/
structure Site.Tried (sid : ServiceId) (s t : Site) : Prop where
  objects : t.objects = s.objects
  providers : t.providers = s.providers
  records : ∀ rid, (t.registries.get rid).records = (s.registries.get rid).records
  failing : ∀ rid, (t.registries.get rid).failing = (s.registries.get rid).failing
  others : ∀ other, other ≠ sid → t.services.get other = s.services.get other
  service : ∃ numbers, t.services.get sid =
    { s.services.get sid with ledger := { (s.services.get sid).ledger with numbers } }
  grown : s.host.files.Grown t.host.files

theorem Site.Tried.trans (h : s.Tried sid t) (h' : t.Tried sid u) : s.Tried sid u where
  objects := h'.objects.trans h.objects
  providers := h'.providers.trans h.providers
  records rid := (h'.records rid).trans (h.records rid)
  failing rid := (h'.failing rid).trans (h.failing rid)
  others other hne := (h'.others other hne).trans (h.others other hne)
  service := by
    obtain ⟨numbers, heq⟩ := h.service
    obtain ⟨numbers', heq'⟩ := h'.service
    exact ⟨numbers', by rw [heq', heq]⟩
  grown := h.grown.trans h'.grown

/-- A site on which registry services may have been asked for identifiers and entries may have been
made in the journal. -/
structure Site.Asked (s t : Site) : Prop where
  objects : t.objects = s.objects
  providers : t.providers = s.providers
  services : t.services = s.services
  sources : t.sources = s.sources
  files : t.host.files = s.host.files
  records : ∀ rid, (t.registries.get rid).records = (s.registries.get rid).records
  failing : ∀ rid, (t.registries.get rid).failing = (s.registries.get rid).failing

theorem Site.Asked.refl (s : Site) : s.Asked s :=
  ⟨rfl, rfl, rfl, rfl, rfl, fun _ => rfl, fun _ => rfl⟩

theorem Site.Asked.trans (h : s.Asked t) (h' : t.Asked u) : s.Asked u where
  objects := h'.objects.trans h.objects
  providers := h'.providers.trans h.providers
  services := h'.services.trans h.services
  sources := h'.sources.trans h.sources
  files := h'.files.trans h.files
  records rid := (h'.records rid).trans (h.records rid)
  failing rid := (h'.failing rid).trans (h.failing rid)

theorem Site.Asked.tried (h : s.Asked t) (sid : ServiceId) : s.Tried sid t where
  objects := h.objects
  providers := h.providers
  records := h.records
  failing := h.failing
  others other _ := by rw [h.services]
  service := ⟨_, by rw [h.services]⟩
  grown := h.files ▸ .refl _

namespace Minter

/-! ## Numbers -/

/-- The number that a minter gets for a scope when it has been used `i` times more: what its source
holds, or the coming number of the scope. -/
def numberAt (minter : Minter) (s : Site) (sid : ServiceId) (scope : String) (i : Nat) : Int :=
  match minter with
  | .random _ capacity _ source => (s.sources.get source).getD i 0 % (capacity : Int)
  | .sequence .. => (s.services.get sid).ledger.coming s.host scope + i

/-- The local part that a minter makes of a number. -/
def rendered : Minter → Int → Except Fault String
  | .random template _ upper _, n =>
    (Noid.render template (.int n)).map fun minted =>
      if upper.truthy then Text.upper minted else minted
  | .sequence template _, n => Noid.render template (.int n)

/-- The local part that a minter makes for a scope when it has been used `i` times more. -/
def nth (minter : Minter) (s : Site) (sid : ServiceId) (scope : String) (i : Nat) :
    Except Fault String :=
  minter.rendered (minter.numberAt s sid scope i)

/-- A local part is not empty. -/
theorem ne_empty_of_rendered {i : Int} {minted : String} (h : minter.rendered i = .ok minted) :
    minted ≠ "" := by
  cases minter with
  | random template capacity upper source =>
    obtain ⟨written, hrender, rfl⟩ := exists_of_map_eq_ok h
    have hne := Noid.render_ne_empty hrender
    split
    · exact Text.upper_ne_empty hne
    · exact hne
  | sequence template service => exact Noid.render_ne_empty h

/-- What minting `k` local parts for a scope uses up: random numbers of the minter's source, or
numbers of the scope, and nothing else. -/
def Spends (minter : Minter) (sid : ServiceId) (scope : String) (k : Nat) (s t : Site) : Prop :=
  match minter with
  | .random _ _ _ source =>
    (∀ other, t.sources.get other =
      if other = source then (s.sources.get other).drop k else s.sources.get other) ∧
      (t.services.get sid).ledger.numbers = (s.services.get sid).ledger.numbers
  | .sequence .. =>
    t.sources = s.sources ∧
      (∀ other, (t.services.get sid).ledger.coming t.host other =
        (s.services.get sid).ledger.coming s.host other + if other = scope then (k : Int) else 0) ∧
      (t.services.get sid).ledger.numbers = if k = 0 then (s.services.get sid).ledger.numbers
        else Table.put (s.services.get sid).ledger.numbers (.str scope)
          ((s.services.get sid).ledger.coming s.host scope + k)

/-- Looking identifiers up uses up nothing. -/
theorem spends_zero (h : s.Asked t) : minter.Spends sid scope 0 s t := by
  cases minter with
  | random template capacity upper source =>
    refine ⟨fun other => ?_, by rw [h.services]⟩
    rw [h.sources, List.drop_zero, ite_self]
  | sequence template service =>
    refine ⟨h.sources, fun other => ?_, by rw [h.services, if_pos rfl]⟩
    rw [h.services, Ledger.coming_congr h.files]
    simp

theorem Spends.add (h : minter.Spends sid scope k s t) (h' : minter.Spends sid scope n t u) :
    minter.Spends sid scope (k + n) s u := by
  cases minter with
  | random template capacity upper source =>
    refine ⟨fun other => ?_, h'.2.trans h.2⟩
    rw [h'.1 other, h.1 other]
    split
    · rw [List.drop_drop]
    · rfl
  | sequence template service =>
    obtain ⟨hsources, hcoming, hnumbers⟩ := h
    obtain ⟨hsources', hcoming', hnumbers'⟩ := h'
    refine ⟨hsources'.trans hsources, fun other => ?_, ?_⟩
    · rw [hcoming' other, hcoming other]
      split <;> omega
    · rw [hnumbers', hnumbers, hcoming scope, if_pos rfl]
      by_cases hk : k = 0
      · simp [hk]
      · by_cases hn : n = 0
        · simp [hn]
        · rw [if_neg hn, if_neg hk, if_neg (by omega), Table.put_put_self, Int.add_assoc,
            Int.natCast_add]

/-- The numbers that come next are those behind the ones that were used up. -/
theorem Spends.numberAt (h : minter.Spends sid scope k s t) (i : Nat) :
    minter.numberAt t sid scope i = minter.numberAt s sid scope (k + i) := by
  cases minter with
  | random template capacity upper source =>
    simp only [Minter.numberAt]
    rw [h.1 source, if_pos rfl, List.getD_eq_getElem?_getD, List.getElem?_drop,
      ← List.getD_eq_getElem?_getD]
  | sequence template service =>
    simp only [Minter.numberAt]
    rw [h.2.1 scope, if_pos rfl]
    omega

theorem Spends.nth (h : minter.Spends sid scope k s t) (i : Nat) :
    minter.nth t sid scope i = minter.nth s sid scope (k + i) :=
  congrArg minter.rendered (h.numberAt i)

/-! ## Minters and their templates -/

/-- A minter as it is made from a template with a plain lead: a random one, which draws below the
capacity, or one in sequence that gets its numbers from the local service of a number. -/
inductive OfTemplate (sid : ServiceId) (text : String) (template : Noid.Template) :
    Minter → Prop where
  | random {upper : Value} {source : SourceId} (h : Noid.Template.parse text = .ok template)
      (hlead : Part.isPlain (String.ofList template.lead) = true) :
      OfTemplate sid text template (.random (.str text) template.capacity upper source)
  | sequence (h : Noid.Template.parse text = .ok template)
      (hlead : Part.isPlain (String.ofList template.lead) = true) :
      OfTemplate sid text template (.sequence (.str text) (.service sid))

/-- A minter that makes a local part of every number it gets, and one that can be part of an
identifier: a random one, or one in sequence whose template is unbounded, the lead of the template
being plain. -/
inductive Endless (sid : ServiceId) : Minter → Prop where
  | random {text : String} {template : Noid.Template} {upper : Value} {source : SourceId}
      (h : Noid.Template.parse text = .ok template)
      (hlead : Part.isPlain (String.ofList template.lead) = true) :
      Endless sid (.random (.str text) template.capacity upper source)
  | sequence {text : String} {template : Noid.Template}
      (h : Noid.Template.parse text = .ok template) (hg : template.generator = .unbounded)
      (hlead : Part.isPlain (String.ofList template.lead) = true) :
      Endless sid (.sequence (.str text) (.service sid))

variable {text : String} {template : Noid.Template}

theorem Endless.exists_ofTemplate (h : minter.Endless sid) :
    ∃ text template, minter.OfTemplate sid text template := by
  cases h with
  | random h hlead => exact ⟨_, _, .random h hlead⟩
  | sequence h _ hlead => exact ⟨_, _, .sequence h hlead⟩

theorem OfTemplate.endless (h : minter.OfTemplate sid text template)
    (hg : ∀ given service, minter = .sequence given service → template.generator = .unbounded) :
    minter.Endless sid := by
  cases h with
  | random h hlead => exact .random h hlead
  | sequence h hlead => exact .sequence h (hg _ _ rfl) hlead

/-- A minter that is made for a style is one of its template, and in sequence for one style only. -/
theorem ofTemplate_of_forStyle {style config : Value} {source : SourceId}
    (h : forStyle style (.service sid) config source = .ok minter)
    (htext : minter.template = .str text) (htemplate : Noid.Template.parse text = .ok template)
    (hlead : Part.isPlain (String.ofList template.lead) = true) :
    minter.OfTemplate sid text template ∧
      ∀ given service, minter = .sequence given service → style = .str sequenceStyle := by
  unfold forStyle at h
  split at h
  · next hstyle =>
    rw [if_neg nofun] at h
    obtain ⟨given, -, h⟩ := exists_of_bind_eq_ok h
    rw [makeSequence, if_neg nofun] at h
    obtain ⟨mask, -, h⟩ := exists_of_bind_eq_ok h
    split at h
    · cases h
    · cases h
      obtain rfl : given = .str text := htext
      exact ⟨.sequence htemplate hlead, fun _ _ _ => hstyle⟩
  · obtain ⟨given, -, h⟩ := exists_of_bind_eq_ok h
    obtain ⟨mask, hmask, h⟩ := exists_of_bind_eq_ok h
    split at h
    · cases h
      obtain rfl : given = .str text := htext
      obtain rfl : mask = template := Except.ok.inj (hmask.symm.trans htemplate)
      exact ⟨.random htemplate hlead, nofun⟩
    · cases h

/-- **A local part that is made can be part of an identifier.** -/
theorem OfTemplate.isPlain_of_rendered (h : minter.OfTemplate sid text template) {i : Int}
    {minted : String} (hrendered : minter.rendered i = .ok minted) :
    Part.isPlain minted = true := by
  cases h with
  | random htemplate hlead =>
    obtain ⟨written, hrender, rfl⟩ := exists_of_map_eq_ok hrendered
    have hplain := Noid.isPlain_of_render hrender htemplate hlead
    split
    · exact Text.isPlain_upper hplain
    · exact hplain
  | sequence htemplate hlead => exact Noid.isPlain_of_render hrendered htemplate hlead

/-- A minter is ready to be used `n` more times for a scope: if it is one in sequence, the ledger
is ready to give out as many numbers. -/
def Ready (minter : Minter) (sid : ServiceId) (scope : String) (n : Nat) (s : Site) : Prop :=
  ∀ template service, minter = .sequence template service →
    (s.services.get sid).ledger.Counts s.host scope n

/-- Looking identifiers up leaves a minter ready. -/
theorem Ready.asked (hr : minter.Ready sid scope n s) (h : s.Asked t) :
    minter.Ready sid scope n t := by
  intro template service hm
  rw [h.services]
  exact (hr template service hm).congr h.files

theorem Ready.mono (hr : minter.Ready sid scope n s) (hk : k ≤ n) :
    minter.Ready sid scope k s :=
  fun template service hm => (hr template service hm).mono hk

/-- **There is a next local part, and one after it, and so on**, and all of them can be parts of
identifiers. -/
theorem Endless.exists_of_nth (h : minter.Endless sid) (hr : minter.Ready sid scope n s) (i : Nat) :
    ∃ minted, minter.nth s sid scope i = .ok minted ∧ Part.isPlain minted = true := by
  obtain ⟨_, _, hof⟩ := h.exists_ofTemplate
  have hnth : ∃ minted, minter.nth s sid scope i = .ok minted := by
    cases h with
    | @random text template upper source htemplate hlead =>
      have hpos : (0 : Int) < template.capacity := Int.natCast_pos.2 template.capacity_pos
      have hnonneg := Int.emod_nonneg ((s.sources.get source).getD i 0) (Int.ne_of_gt hpos)
      have hlt := Int.emod_lt_of_pos ((s.sources.get source).getD i 0) hpos
      obtain ⟨cs, hrender, -⟩ := Noid.exists_of_render htemplate hnonneg (.inl (by omega))
      exact ⟨_, by rw [nth, rendered, numberAt, hrender]; rfl⟩
    | @sequence text template htemplate hg hlead =>
      have hzero := (hr _ _ rfl).zero_le_coming
      obtain ⟨cs, hrender, -⟩ := Noid.exists_of_render htemplate
        (n := (s.services.get sid).ledger.coming s.host scope + i) (by omega) (.inr hg)
      exact ⟨_, hrender⟩
  exact hnth.imp fun minted hminted => ⟨hminted, hof.isPlain_of_rendered hminted⟩

/-! ## Minting -/

theorem outcome_draw (source : SourceId) (bound : Nat) (s : Site) :
    ∃ sources, (Site.draw source bound).outcome s =
        (.ok ((s.sources.get source).getD 0 0 % (bound : Int)).toNat, { s with sources }) ∧
      ∀ other, sources.get other =
        if other = source then (s.sources.get other).drop 1 else s.sources.get other := by
  rw [Site.draw, outcome_bind_ok (outcome_get s)]
  cases hsource : s.sources.get source with
  | nil =>
    refine ⟨s.sources, by simp, fun other => ?_⟩
    split
    · next he => rw [he, hsource]; rfl
    · rfl
  | cons n rest =>
    refine ⟨s.sources.put source rest, rfl, fun other => ?_⟩
    split
    · next he => rw [he, Shelf.get_put_self, hsource]; rfl
    · next hne => exact Shelf.get_put_of_ne _ _ hne

/-- A random minter makes of the number drawn what it makes of any, or fails as that does. -/
theorem outcome_mint_random {capacity : Nat} (hpos : 0 < capacity) (template upper : Value)
    (source : SourceId) (scope : Value) (s : Site) :
    ∃ sources, ((Minter.random template capacity upper source).mint scope).outcome s =
        ((Minter.random template capacity upper source).rendered
          ((s.sources.get source).getD 0 0 % (capacity : Int)), { s with sources }) ∧
      ∀ other, sources.get other =
        if other = source then (s.sources.get other).drop 1 else s.sources.get other := by
  obtain ⟨sources, hdraw, hsources⟩ := outcome_draw source capacity s
  have hnonneg := Int.emod_nonneg ((s.sources.get source).getD 0 0)
    (Int.ne_of_gt (Int.natCast_pos.2 hpos))
  refine ⟨sources, ?_, hsources⟩
  simp only [mint, rendered]
  rw [outcome_bind_ok hdraw, Int.toNat_of_nonneg hnonneg]
  cases hrender : Noid.render template
      (.int ((s.sources.get source).getD 0 0 % (capacity : Int))) with
  | ok minted => rw [outcome_bind_ok (outcome_ofExcept _ _)]; rfl
  | error fault => exact outcome_bind_error (outcome_ofExcept _ _)

/-- A minter in sequence has its local service give out a number. -/
theorem outcome_nextNumber {scope : String} {given : Counter} {ledger : Ledger} {host : Host}
    (h : (Ledger.nextNumber (.str scope)).outcome ((s.services.get sid).ledger, s.host) =
      (.ok given, ledger, host)) :
    (nextNumber (.service sid) (.str scope)).outcome s = (.ok given, { s with
      services := s.services.put sid { s.services.get sid with ledger }, host }) := by
  have hscope : (Value.str scope).orElse (.str "") = .str scope := by
    by_cases he : scope = "" <;> simp [Value.orElse, Value.truthy, he]
  simp only [nextNumber, hscope, Site.onLedger, Site.onService, outcome_zoom, h]

/-- **Minting gives the local part that comes next**, or fails as making it does, and uses it up in
either case. -/
theorem OfTemplate.outcome_mint (h : minter.OfTemplate sid text template)
    (hr : minter.Ready sid scope (n + 1) s) :
    ∃ t, (minter.mint (.str scope)).outcome s = (minter.nth s sid scope 0, t) ∧ s.Tried sid t ∧
      minter.Spends sid scope 1 s t ∧ minter.Ready sid scope n t := by
  cases h with
  | @random upper source htemplate hlead =>
    obtain ⟨sources, hmint, hsources⟩ :=
      outcome_mint_random template.capacity_pos (.str text) upper source (.str scope) s
    refine ⟨{ s with sources }, hmint, ?_, ⟨hsources, rfl⟩, nofun⟩
    exact ⟨rfl, rfl, fun _ => rfl, fun _ => rfl, fun _ _ => rfl, ⟨_, rfl⟩, .refl _⟩
  | sequence htemplate hlead =>
    obtain ⟨given, host, hgive, hgiven, hcounts, hadvances⟩ := (hr _ _ rfl).next
    refine ⟨{ s with
      services := s.services.put sid { s.services.get sid with
        ledger := (s.services.get sid).ledger.after scope given }, host }, ?_, ?_,
      ⟨rfl, fun other => ?_, ?_⟩, fun _ _ _ => ?_⟩
    · rw [mint, outcome_bind_ok (outcome_nextNumber hgive), hgiven, outcome_ofExcept, nth, rendered,
        numberAt, Int.natCast_zero, Int.add_zero]
    · refine ⟨rfl, rfl, fun _ => rfl, fun _ => rfl, fun other hne => Shelf.get_put_of_ne _ _ hne,
        ⟨_, Shelf.get_put_self ..⟩, hadvances.grown⟩
    · rw [Shelf.get_put_self]
      exact hadvances.coming other
    · rw [Shelf.get_put_self, if_neg Nat.one_ne_zero, Ledger.after, hgiven]
      rfl
    · rw [Shelf.get_put_self]
      exact hcounts

end Minter

end PersistentId
