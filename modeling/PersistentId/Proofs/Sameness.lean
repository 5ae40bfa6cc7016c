import PersistentId.Proofs.Ledger.Growth
import PersistentId.Provider.Lifecycle

/-!
# When the same identifier is treated as the same

Two identifiers are the same if they have the same parts (`Identifier.sameAs`). Ledgers, lists of
managed identifiers and registry services go by the canonical form, in which the separator shows as
well. So the same identifier is treated as the same (`TreatedAlike`) exactly if its separator is
printed alike (`treatedAlike_iff`); its address and its provider make no difference.

Under another separator an identifier that has been reserved is unknown to the ledger, because a
reservation adds just the text that is reserved (`Ledger.registered_reserve`).
-/

namespace PersistentId

open PersistentId.Action

variable {pid other : Identifier} {protocol : String}

/-! ## What is printed alike -/

/-- Only a text counts as equal to one. -/
theorem Value.eq_str_of_agrees {s : String} {v : Value} (h : (Value.str s).agrees v = true) :
    v = .str s := by
  cases v with
  | str t =>
    simp only [agrees, key?, Key.beq_str, decide_eq_true_eq] at h
    rw [h]
  | float x =>
    simp only [agrees, key?, Key.beq_iff, Key.normal] at h
    split at h <;> cases h
  | null | bool | int | moment => simp [agrees, key?, Key.beq_iff, Key.normal] at h
  | list | map => simp [agrees, key?] at h

namespace Identifier

theorem parts_of_sameAs (hp : pid.protocol = .str protocol) (h : pid.sameAs other = true) :
    other.protocol = .str protocol ∧ pid.authority = other.authority ∧
      pid.localPart = other.localPart := by
  rw [sameAs, Bool.and_eq_true, Bool.and_eq_true, decide_eq_true_eq, decide_eq_true_eq, hp] at h
  exact ⟨Value.eq_str_of_agrees h.1.1, h.1.2, h.2⟩

/-- The same identifier is printed alike exactly if its separator is. -/
theorem toString_eq_iff_of_sameAs (hp : pid.protocol = .str protocol)
    (h : pid.sameAs other = true) :
    pid.toString = other.toString ↔ pid.separator.text = other.separator.text := by
  obtain ⟨hprotocol, ha, hl⟩ := parts_of_sameAs hp h
  rw [toString, toString, path, path, hp, hprotocol, ha, hl, String.append_right_inj,
    String.append_left_inj, String.append_right_inj]

end Identifier

theorem Site.textOf_pid_congr (h : pid.toString = other.toString) :
    Site.textOf (.pid pid) = Site.textOf (.pid other) := by
  simp only [textOf, textIn, h]

namespace Provider

variable (p : Provider)

theorem canManage_congr (hp : pid.protocol = .str protocol) (hsame : pid.sameAs other = true)
    (h : pid.toString = other.toString) : p.canManage pid = p.canManage other := by
  obtain ⟨hprotocol, ha, hl⟩ := Identifier.parts_of_sameAs hp hsame
  rw [canManage, canManage, h, hp, hprotocol, ha, hl]

theorem isLocallyFree_congr (h : pid.toString = other.toString) :
    p.isLocallyFree (.pid pid) = p.isLocallyFree (.pid other) := by
  simp only [isLocallyFree, Site.textOf_pid_congr h]

theorem isRemotelyKnown_ok (pid : Identifier) :
    p.isRemotelyKnown (.ok pid) = match p.client with
      | .registry id => Site.onRegistry id (RegistryService.isKnown (.str pid.toString))
      | _ => throw .missingPart := rfl

theorem isRegistered_congr (h : pid.toString = other.toString) (otherwise : Value) :
    p.isRegistered (.pid pid) otherwise = p.isRegistered (.pid other) otherwise := by
  simp only [isRegistered, Operand.asPid, isRemotelyKnown_ok, isLocallyFree_congr p h, h]

theorem isUnique_congr (h : pid.toString = other.toString) :
    p.isUnique (.pid pid) = p.isUnique (.pid other) := by
  simp only [isUnique, isLocallyFree_congr p h, isRegistered_congr p h, Site.textOf_pid_congr h]

/-- An object is as registered as the identifier that its parts make. -/
theorem outcome_isObjectRegistered {site : Site} {id : ObjectId}
    (h : (site.objects.get id).pid? = .ok (some pid)) :
    (p.isObjectRegistered (.object id)).outcome site =
      (p.isRegistered (.pid pid) (.bool false)).outcome site := by
  have hsubject : (subject (.object id)).outcome site = (.ok (site.objects.get id), site) := rfl
  have hpid : (Action.ofExcept (site.objects.get id).pid?).outcome site =
      (.ok (some pid), site) := by
    rw [h]
    rfl
  exact (outcome_bind_ok hsubject).trans (outcome_bind_ok hpid)

end Provider

/-! ## What is treated alike -/

/-- Ledgers, local services and providers make no difference between two identifiers, nor between
objects that have them. -/
structure TreatedAlike (pid other : Identifier) : Prop where
  registered : ∀ ledger : Ledger,
    ledger.registered pid.toString = ledger.registered other.toString
  data : ∀ ledger : Ledger, ledger.data? pid.toString = ledger.data? other.toString
  conflict : ∀ (data : Value) (state : LocalService × Host),
    ((LocalService.reserve pid.toString data).outcome state).1 =
        .error (.alreadyIssued pid.toString) ↔
      ((LocalService.reserve other.toString data).outcome state).1 =
        .error (.alreadyIssued other.toString)
  managed : ∀ p : Provider, p.canManage pid = p.canManage other
  unique : ∀ p : Provider, p.isUnique (.pid pid) = p.isUnique (.pid other)
  known : ∀ (p : Provider) (otherwise : Value),
    p.isRegistered (.pid pid) otherwise = p.isRegistered (.pid other) otherwise
  object : ∀ (p : Provider) (site : Site) (id : ObjectId),
    (site.objects.get id).pid? = .ok (some other) →
      (p.isObjectRegistered (.object id)).outcome site =
        (p.isRegistered (.pid pid) (.bool false)).outcome site

/-- What is printed alike is treated alike. -/
theorem treatedAlike_of_toString_eq (hp : pid.protocol = .str protocol)
    (hsame : pid.sameAs other = true) (h : pid.toString = other.toString) :
    TreatedAlike pid other where
  registered ledger := by rw [h]
  data ledger := by rw [h]
  conflict data state := by rw [h]
  managed p := p.canManage_congr hp hsame h
  unique p := p.isUnique_congr h
  known p otherwise := p.isRegistered_congr h otherwise
  object p site id hid := by rw [p.outcome_isObjectRegistered hid, p.isRegistered_congr h]

/-- What is treated alike is printed alike: a ledger that has one of them has nothing else. -/
theorem TreatedAlike.toString_eq (h : TreatedAlike pid other) : pid.toString = other.toString := by
  have hregistered := h.registered { uncached := [(pid.toString, .map [])] }
  have hself : Ledger.registered { uncached := [(pid.toString, .map [])] } pid.toString = true :=
    Ledger.registered_iff.2 (.inr List.mem_cons_self)
  rw [hself, eq_comm, Ledger.registered_iff] at hregistered
  simpa [Table.keys, eq_comm] using hregistered

/-- **The same identifier is treated as the same** exactly if its separator is printed alike. If it
is not, one of the two stays as unknown as it was when the other is reserved. -/
theorem treatedAlike_iff (hp : pid.protocol = .str protocol) (hsame : pid.sameAs other = true) :
    (TreatedAlike pid other ↔ pid.separator.text = other.separator.text) ∧
      (pid.separator.text ≠ other.separator.text →
        ∀ (data : Value) (ledger ledger' : Ledger) (host host' : Host),
          (Ledger.reserve pid.toString data).outcome (ledger, host) = (.ok ⟨⟩, ledger', host') →
          ledger'.registered pid.toString = true ∧
            ledger'.registered other.toString = ledger.registered other.toString) := by
  have hprinted := Identifier.toString_eq_iff_of_sameAs hp hsame
  refine ⟨⟨fun h => hprinted.1 h.toString_eq,
    fun h => treatedAlike_of_toString_eq hp hsame (hprinted.2 h)⟩, ?_⟩
  intro hne data ledger ledger' host host' hreserve
  have hother : other.toString ≠ pid.toString := fun h => hne (hprinted.1 h.symm)
  refine ⟨(Ledger.registered_reserve hreserve).2 (.inl rfl), ?_⟩
  rw [Bool.eq_iff_iff, Ledger.registered_reserve hreserve, or_iff_right hother]

/-- An identifier as it is issued without a separator. -/
def bareLink : Identifier where
  protocol := .str "perma"
  authority := "NIST"
  localPart := "MDS000000"
  separator := .str ""
  urlStart := .str "https://data.example.org/citation?persistentId=perma:"
  provider := .str "PERMA"

theorem treatedAlike_iff_bareLink :
    (bareLink.protocol = .str "perma" ∧
        bareLink.sameAs { bareLink with urlStart := .str "", provider := .null } = true) ∧
      TreatedAlike bareLink { bareLink with urlStart := .str "", provider := .null } := by
  have hsame : bareLink.sameAs { bareLink with urlStart := .str "", provider := .null } = true := by
    decide
  have hp : bareLink.protocol = .str "perma" := rfl
  exact ⟨⟨hp, hsame⟩, (treatedAlike_iff hp hsame).1.2 rfl⟩

/-- The identifier of an object with the same parts, whose separator is a slash, is not known. -/
theorem not_forall_registered_of_sameAs :
    ¬∀ (pid other : Identifier) (data : Value) (ledger ledger' : Ledger) (host host' : Host),
      pid.sameAs other = true →
      (Ledger.reserve pid.toString data).outcome (ledger, host) = (.ok ⟨⟩, ledger', host') →
      ledger'.registered other.toString = true := by
  intro h
  have hreserve : (Ledger.reserve bareLink.toString .null).outcome ({}, {}) =
    (.ok ⟨⟩, { uncached := [(bareLink.toString, .map [])] }, {}) := rfl
  have hregistered := h bareLink { bareLink with separator := .str "/" } .null {} _ {} _ (by decide)
    hreserve
  rw [Ledger.registered_reserve hreserve] at hregistered
  exact absurd hregistered (by decide)

end PersistentId
