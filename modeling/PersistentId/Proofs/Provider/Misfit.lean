import PersistentId.Proofs.Provider.Order

/-!
# When reading a text fails

A provider of local permanent links looks whether what stands behind its protocol begins with its
authority, and whether its separator follows. Something else than a text may be configured for
either of them (`Value.IsMisfit`). Reading a text that gets as far as that fails with a fault that
names the type of the value (`Stumbles`). It fails in no other way, and for DOIs and Handles it
never does (`parse_eq_error_iff`).

Whether a provider reads all texts is a matter of what is configured alone (`reads_iff_fits`). Of
several providers the first one that finds something or fails decides (`parseWith_eq_error_iff`).
-/

namespace PersistentId

open PersistentId.Action Identifier

/-! ## Values that are no texts -/

namespace Value

/-- Whether a value counts as given and is no text. -/
def IsMisfit (v : Value) : Prop :=
  v.truthy = true ∧ ∀ s, v ≠ .str s

theorem not_isMisfit_str (s : String) : ¬ IsMisfit (.str s) :=
  fun h => h.2 s rfl

theorem asTextOr_eq_error_iff {v : Value} {f : Value → Fault} {fault : Fault} :
    v.asTextOr f = .error fault ↔ (∀ s, v ≠ .str s) ∧ f v = fault := by
  cases v <;> simp [asTextOr]

end Value

namespace Provider

variable {p : Provider} {providers : List Provider} {path text : String} {fault : Fault} {v : Value}

/-! ## What stands behind the protocol -/

/-- The value that a provider of local permanent links fails over when it reads what stands behind
the protocol: its authority, or behind that its separator. -/
inductive Stumbles (p : Provider) (path : String) : Value → Prop where
  | authority (h : p.authority.IsMisfit) (hpath : path ≠ "") : Stumbles p path p.authority
  | separator {authority : String} (ha : p.authority = .str authority) (hne : authority ≠ "")
      (hpath : Text.beginsWith authority path = true) (h : p.separator.IsMisfit) :
      Stumbles p path p.separator

theorem dropSeparator_eq_error_iff {separator : Value} {rest : String} :
    dropSeparator separator rest = .error fault ↔
      separator.IsMisfit ∧ Fault.notAStart separator = fault := by
  rw [dropSeparator, Value.IsMisfit]
  cases ht : separator.truthy with
  | false =>
    constructor
    · intro h
      cases h
    · rintro ⟨⟨h, -⟩, -⟩
      cases h
  | true =>
    rw [Bool.not_true, if_neg Bool.false_ne_true]
    cases hs : separator.asTextOr Fault.notAStart with
    | error cause =>
      obtain ⟨hno, rfl⟩ := Value.asTextOr_eq_error_iff.1 hs
      constructor
      · intro h
        cases h
        exact ⟨⟨rfl, hno⟩, rfl⟩
      · rintro ⟨-, rfl⟩
        rfl
    | ok start =>
      constructor
      · intro h
        cases h
      · rintro ⟨⟨-, hno⟩, -⟩
        rw [Value.asTextOr_eq_error_iff.2 ⟨hno, rfl⟩] at hs
        cases hs

/-- Nothing is looked at without an authority, or if nothing stands behind the protocol. -/
theorem ownLocalPart_of_falsy (h : p.authority.truthy = false ∨ path = "") :
    p.ownLocalPart (.str path) = .ok none := by
  have heither : (!p.authority.truthy || !(Value.str path).truthy) = true := by
    rcases h with h | rfl
    · rw [h]
      rfl
    · exact Bool.or_true _
  rw [ownLocalPart, heither]
  rfl

theorem ownLocalPart_of_isMisfit (h : p.authority.IsMisfit) (hpath : path ≠ "") :
    p.ownLocalPart (.str path) = .error (.notAStart p.authority) := by
  have htext : (Value.str path).asText "startswith" = .ok path := rfl
  have htruthy : (Value.str path).truthy = true := by simp [Value.truthy, hpath]
  rw [ownLocalPart, h.1, htruthy, Bool.not_true, Bool.or_self, if_neg Bool.false_ne_true, htext,
    ok_bind, Value.asTextOr_eq_error_iff.2 ⟨h.2, rfl⟩]
  rfl

theorem not_stumbles_of_falsy (h : p.authority.truthy = false ∨ path = "") :
    ¬ p.Stumbles path v := by
  rintro (⟨hmisfit, hpath⟩ | ⟨ha, hne, hbegins, -⟩)
  · rcases h with h | h
    · rw [hmisfit.1] at h
      cases h
    · exact hpath h
  · rcases h with h | rfl
    · simp [ha, Value.truthy, hne] at h
    · exact hne (by simpa using Text.beginsWith_eq_true_iff.1 hbegins)

theorem stumbles_iff_of_authority {authority : String} (ha : p.authority = .str authority)
    (hne : authority ≠ "") : p.Stumbles path v ↔
      Text.beginsWith authority path = true ∧ p.separator.IsMisfit ∧ v = p.separator := by
  constructor
  · rintro (⟨h, -⟩ | ⟨ha', -, hbegins, h⟩)
    · exact absurd (ha ▸ h) (Value.not_isMisfit_str _)
    · rw [ha, Value.str.injEq] at ha'
      exact ⟨ha' ▸ hbegins, h, rfl⟩
  · rintro ⟨hbegins, h, rfl⟩
    exact .separator ha hne hbegins h

/-- Finding the local part fails over a value that is no text, and over nothing else. -/
theorem ownLocalPart_eq_error_iff : p.ownLocalPart (.str path) = .error fault ↔
    ∃ v, p.Stumbles path v ∧ Fault.notAStart v = fault := by
  by_cases hfalsy : p.authority.truthy = false ∨ path = ""
  · rw [ownLocalPart_of_falsy hfalsy]
    refine iff_of_false (by simp) ?_
    rintro ⟨v, h, -⟩
    exact not_stumbles_of_falsy hfalsy h
  obtain ⟨htruthy, hpath⟩ := not_or.1 hfalsy
  by_cases hmisfit : p.authority.IsMisfit
  · rw [ownLocalPart_of_isMisfit hmisfit hpath, Except.error.injEq]
    constructor
    · exact fun h => ⟨_, .authority hmisfit hpath, h⟩
    · rintro ⟨v, - | ⟨ha, -⟩, h⟩
      · exact h
      · exact absurd (ha ▸ hmisfit) (Value.not_isMisfit_str _)
  · -- a value that counts as given and is no misfit is a text
    obtain ⟨authority, ha⟩ : ∃ a, p.authority = .str a := by
      by_contra hno
      exact hmisfit ⟨by simpa using htruthy, fun s h => hno ⟨s, h⟩⟩
    have hne : authority ≠ "" := by simpa [ha, Value.truthy] using htruthy
    simp only [ownLocalPart_of_authority ha hne, stumbles_iff_of_authority ha hne]
    cases hstrip : Text.stripStart? authority path with
    | none =>
      have hbegins := Text.stripStart?_eq_none_iff.1 hstrip
      simp [hbegins]
    | some rest =>
      have hbegins : Text.beginsWith authority path = true := by
        rw [Text.stripStart?_eq_some_iff.1 hstrip, Text.beginsWith_append]
      have hdrop : dropSeparator p.separator rest = .error fault ↔
          ∃ v, (p.separator.IsMisfit ∧ v = p.separator) ∧ Fault.notAStart v = fault := by
        rw [dropSeparator_eq_error_iff]
        constructor
        · rintro ⟨h, he⟩
          exact ⟨_, ⟨h, rfl⟩, he⟩
        · rintro ⟨_, ⟨h, rfl⟩, he⟩
          exact ⟨h, he⟩
      simp only [hbegins, true_and]
      rw [← hdrop]
      cases dropSeparator p.separator rest <;> simp [Except.map]

/-! ## Texts -/

/-- A provider can say how it is called. -/
def Named (p : Provider) : Prop :=
  ∃ name, p.name = .ok name

/-- What a provider makes of texts as parts does not fail. -/
theorem Named.exists_of_fromParts (h : p.Named) (protocol authority localPart : String) :
    ∃ found, (p.fromParts (.str protocol) (.str authority) (.str localPart)).result =
      .ok found := by
  obtain ⟨name, hname⟩ := h
  have hprotocol : Value.str protocol ≠ .null := nofun
  rw [fromParts, Parsing.result_ofExcept_bind hname, Parsing.result_bind_ok (result_say ..),
    Parsing.result_ofExcept_bind (wellFormed_str hprotocol authority localPart)]
  by_cases hproper : (Part.isProper authority && Part.isProper localPart) = true
  · have hfits := (wellFormed_str hprotocol authority localPart).trans (congrArg _ hproper)
    rw [if_pos hproper, Parsing.result_map, Parsing.result_ofExcept, make, hfits]
    exact ⟨_, rfl⟩
  · rw [if_neg hproper]
    exact ⟨_, rfl⟩

theorem exists_str_of_ownLocalPart {localPart : String}
    (h : p.ownLocalPart (.str path) = .ok (some localPart)) : ∃ a, p.authority = .str a := by
  by_contra hno
  by_cases hfalsy : p.authority.truthy = false ∨ path = ""
  · rw [ownLocalPart_of_falsy hfalsy] at h
    cases h
  · obtain ⟨htruthy, hpath⟩ := not_or.1 hfalsy
    have hmisfit : p.authority.IsMisfit := ⟨by simpa using htruthy, fun s hs => hno ⟨s, hs⟩⟩
    rw [ownLocalPart_of_isMisfit hmisfit hpath] at h
    cases h

theorem Named.exists_of_parseOwn (h : p.Named) {localPart? : Option String}
    (hown : p.ownLocalPart (.str path) = .ok localPart?) :
    ∃ found, (p.parseOwn (.str path)).result = .ok found := by
  rw [parseOwn, Parsing.result_ofExcept_bind hown]
  cases localPart? with
  | none => exact ⟨_, rfl⟩
  | some localPart =>
    obtain ⟨authority, ha⟩ := exists_str_of_ownLocalPart hown
    dsimp only
    split
    · exact ⟨_, rfl⟩
    · rw [ha]
      exact h.exists_of_fromParts permaProtocol authority localPart

theorem Named.parseOwn_eq_error_iff (h : p.Named) :
    (p.parseOwn (.str path)).result = .error fault ↔
      ∃ v, p.Stumbles path v ∧ Fault.notAStart v = fault := by
  rw [← ownLocalPart_eq_error_iff]
  cases hown : p.ownLocalPart (.str path) with
  | error cause =>
    have hfails : (p.parseOwn (.str path)).result = .error cause := by
      rw [parseOwn, Parsing.result_bind, Parsing.result_ofExcept, hown]
      rfl
    rw [hfails, Except.error.injEq, Except.error.injEq]
  | ok localPart? =>
    obtain ⟨found, hfound⟩ := h.exists_of_parseOwn hown
    rw [hfound]
    exact iff_of_false (by simp) (by simp)

/-- The value that a provider fails over when it reads a text. -/
def StumblesOn (p : Provider) (text : Option String) (v : Value) : Prop :=
  p.kind = .perma ∧ ∃ s path, text = some s ∧ decoded (p.unlinked s) = "perma:" ++ path ∧
    p.Stumbles path v

/-- **Reading a text fails over a configured value that is no text**, and over nothing else. -/
theorem Named.parse_eq_error_iff (h : p.Named) {text : Option String} :
    (p.parse (.ofText? text)).result = .error fault ↔
      ∃ v, p.StumblesOn text v ∧ Fault.notAStart v = fault := by
  cases text with
  | none => exact iff_of_false nofun (by rintro ⟨v, ⟨-, _, _, he, -⟩, -⟩; cases he)
  | some s =>
    rw [Value.ofText?]
    by_cases hk : p.kind = .perma
    · rw [result_parse_of_perma hk]
      cases hsplit : splitProtocol? (decoded (p.unlinked s)) with
      | none =>
        refine iff_of_false nofun ?_
        rintro ⟨v, ⟨-, _, path, ⟨⟩, hpath, -⟩, -⟩
        rw [hpath, splitProtocol?_perma] at hsplit
        cases hsplit
      | some split =>
        obtain ⟨protocol, path⟩ := split
        have hdecoded := eq_append_of_splitProtocol? hsplit
        dsimp only
        by_cases he : protocol = permaProtocol
        · rw [if_pos he, h.parseOwn_eq_error_iff]
          constructor
          · rintro ⟨v, hv, hfault⟩
            exact ⟨v, ⟨hk, s, path, rfl, by rw [hdecoded, he]; rfl, hv⟩, hfault⟩
          · rintro ⟨v, ⟨-, _, path', ⟨⟩, hpath, hv⟩, hfault⟩
            rw [hpath, splitProtocol?_perma] at hsplit
            cases hsplit
            exact ⟨v, hv, hfault⟩
        · rw [if_neg he]
          refine iff_of_false nofun ?_
          rintro ⟨v, ⟨-, _, path', ⟨⟩, hpath, -⟩, -⟩
          rw [hpath, splitProtocol?_perma] at hsplit
          cases hsplit
          exact he rfl
    · obtain ⟨name, hname⟩ := h
      rw [Provider.result_parse hk hname (resolves_unlinked hk s)]
      exact iff_of_false nofun fun ⟨_, ⟨hperma, _⟩, _⟩ => hk hperma

/-! ## What is configured -/

/-- What is configured for a provider lets it read all texts: authority and separator are no
misfits, but for a separator that is never looked at. -/
def Fits (p : Provider) : Prop :=
  p.kind = .perma → ¬ p.authority.IsMisfit ∧
    ∀ authority, p.authority = .str authority → authority ≠ "" →
      Text.occursIn "%3A" authority = false → ¬ p.separator.IsMisfit

/-- A link under a provider's address that goes on as given. -/
theorem decoded_unlinked_url (hk : p.kind = .perma) (hpath : Text.occursIn "%3A" path = false) :
    decoded (p.unlinked (p.urlStart ++ path)) = "perma:" ++ path := by
  rw [unlinked_url hk, decoded_append_of_not_mem (by decide), decoded_eq_self hpath]

/-- Nothing begins with an authority in which a colon is encoded, as all colons are decoded. -/
theorem occursIn_of_beginsWith {authority start : String} (hpath : decoded text = start ++ path)
    (h : Text.beginsWith authority path = true) : Text.occursIn "%3A" authority = false := by
  have hnone := occursIn_decoded text
  rw [Bool.eq_false_iff] at hnone ⊢
  intro hoccurs
  refine hnone (Text.occursIn_eq_true_iff.2 ?_)
  rw [hpath, String.toList_append]
  exact (Text.occursIn_eq_true_iff.1 hoccurs).trans
    ((Text.beginsWith_eq_true_iff.1 h).isInfix.trans (List.suffix_append _ _).isInfix)

theorem Named.reads_iff (h : p.Named) (text : Option String) :
    (∃ found, (p.parse (.ofText? text)).result = .ok found) ↔ ∀ v, ¬ p.StumblesOn text v := by
  cases hresult : (p.parse (.ofText? text)).result with
  | error fault =>
    obtain ⟨v, hv, -⟩ := h.parse_eq_error_iff.1 hresult
    exact iff_of_false nofun fun hnone => hnone v hv
  | ok found =>
    refine iff_of_true ⟨found, rfl⟩ fun v hv => ?_
    rw [h.parse_eq_error_iff.2 ⟨v, hv, rfl⟩] at hresult
    cases hresult

/-- **Which providers read all texts** depends on what is configured for them. -/
theorem Named.reads_iff_fits (h : p.Named) :
    (∀ text, ∃ found, (p.parse (.ofText? text)).result = .ok found) ↔ p.Fits := by
  simp only [h.reads_iff]
  constructor
  · refine fun hreads hk => ⟨fun hmisfit => ?_, fun authority ha hne hcode hmisfit => ?_⟩
    · have hlink : decoded (p.unlinked (p.urlStart ++ "x")) = "perma:" ++ "x" :=
        decoded_unlinked_url hk (by decide)
      exact hreads _ _ ⟨hk, _, _, rfl, hlink, .authority hmisfit (by decide)⟩
    · have hbegins : Text.beginsWith authority authority = true :=
        Text.beginsWith_eq_true_iff.2 (List.prefix_refl _)
      exact hreads _ _ ⟨hk, _, _, rfl, decoded_unlinked_url hk hcode,
        .separator ha hne hbegins hmisfit⟩
  · rintro hfits text v ⟨hk, s, path, -, hpath, ⟨hmisfit, -⟩ | ⟨ha, hne, hbegins, hmisfit⟩⟩
    · exact (hfits hk).1 hmisfit
    · exact (hfits hk).2 _ ha hne (occursIn_of_beginsWith hpath hbegins) hmisfit

/-! ## Several providers -/

/-- The first provider that finds something or fails decides. -/
theorem parseFirst_eq_error_iff {s : Value} :
    (parseFirst s providers).result = .error fault ↔
      ∃ before q after, providers = before ++ q :: after ∧
        (∀ r ∈ before, (r.parse s).result = .ok none) ∧ (q.parse s).result = .error fault := by
  induction providers with
  | nil => exact iff_of_false nofun (by simp)
  | cons p providers ih =>
    rw [parseFirst]
    constructor
    · intro h
      cases hp : (p.parse s).result with
      | error cause =>
        rw [Parsing.result_bind, hp] at h
        cases h
        exact ⟨[], p, providers, rfl, List.forall_mem_nil _, hp⟩
      | ok found =>
        rw [Parsing.result_bind_ok hp] at h
        cases found with
        | some pid => cases h
        | none =>
          obtain ⟨before, q, after, rfl, hbefore, hq⟩ := ih.1 h
          exact ⟨p :: before, q, after, rfl, List.forall_mem_cons.2 ⟨hp, hbefore⟩, hq⟩
    · rintro ⟨before, q, after, hsplit, hbefore, hq⟩
      cases before with
      | nil =>
        cases hsplit
        rw [Parsing.result_bind, hq]
        rfl
      | cons r before =>
        cases hsplit
        obtain ⟨hp, hbefore⟩ := List.forall_mem_cons.1 hbefore
        rw [Parsing.result_bind_ok hp]
        exact ih.2 ⟨before, q, after, rfl, hbefore, hq⟩

theorem parseWith_eq_error_iff {text : Option String} :
    (parseWith providers (.ofText? text)).result = .error fault ↔
      ∃ before q after, providers = before ++ q :: after ∧
        (∀ r ∈ before, (r.parse (.ofText? text)).result = .ok none) ∧
        (q.parse (.ofText? text)).result = .error fault := by
  rw [parseWith]
  split
  · exact parseFirst_eq_error_iff
  · next hfalsy =>
    -- nothing is read in nothing, and nothing fails
    refine iff_of_false (fun h => by cases h) ?_
    rintro ⟨before, q, after, -, -, hq⟩
    rw [Provider.parse, Bool.eq_false_iff.2 hfalsy] at hq
    cases hq

end Provider

end PersistentId
