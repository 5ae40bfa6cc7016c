import PersistentId.Proofs.Identifier.Parse
import PersistentId.Provider.Generate
import PersistentId.Provider.Parse

/-!
# Where identifiers come from

`Identifier.Arises` lists the ways in which an identifier comes into being: it is made of its parts,
read in a text under one of the grammars, put together from the parts of an object, or generated.
All of them end at the same test of the parts (`Arises.proper`), and every two parts that pass it
are parts of an identifier. So `exists_arises_iff` says exactly which parts identifiers have.

The test looks for the first NUL only. Behind a NUL at the start of a part there may be others
(`not_forall_arises`).
-/

namespace PersistentId

open PersistentId.Action

/-! ## Parts -/

namespace Part

theorem isForbidden_eq_false_iff {c : Char} :
    isForbidden c = false ↔ Text.isBlank c = false ∧ c ≠ '\'' ∧ c ≠ ';' := by
  simp [isForbidden, and_assoc]

/-- A NUL behind the first character is none that counts if the first character is one as well. -/
theorem hasTerminator_eq_false_iff {s : String} :
    hasTerminator s = false ↔
      ∀ i, 0 < i → s.toList[i]? = some '\x00' → s.toList[0]? = some '\x00' := by
  rw [hasTerminator]
  cases s.toList with
  | nil => simp
  | cons c cs =>
    constructor
    · intro h i hi hget
      obtain ⟨i, rfl⟩ := Nat.exists_eq_succ_of_ne_zero hi.ne'
      have hmem : '\x00' ∈ cs := List.mem_of_getElem? hget
      have hc : c = '\x00' := by simpa [hmem] using h
      rw [hc]
      rfl
    · intro h
      rw [Bool.eq_false_iff]
      intro hterminator
      obtain ⟨hc, hcontains⟩ := (Bool.and_eq_true _ _).mp hterminator
      obtain ⟨i, hi⟩ := List.mem_iff_getElem?.1 (List.contains_iff_mem.1 hcontains)
      exact absurd (Option.some.inj (h (i + 1) (by omega) hi)) (bne_iff_ne.1 hc)

/-- **What a proper part looks like.** It has no blank, apostrophe or semicolon, and a NUL behind
its first character only if that is one itself. -/
theorem isProper_iff {s : String} :
    isProper s = true ↔
      (∀ c ∈ s.toList, Text.isBlank c = false ∧ c ≠ '\'' ∧ c ≠ ';') ∧
        ∀ i, 0 < i → s.toList[i]? = some '\x00' → s.toList[0]? = some '\x00' := by
  rw [isProper_eq_true_iff, clean_eq_self_iff, hasTerminator_eq_false_iff]
  simp only [isForbidden_eq_false_iff]

end Part

namespace Identifier

/-- The identifiers that come into being. -/
inductive Arises : Identifier → Prop where
  /-- One is made of given parts. -/
  | made {protocol authority identifier separator urlStart provider : Value} {pid : Identifier}
      (h : make protocol authority identifier separator urlStart provider = .ok pid) : Arises pid
  /-- One is given another local part. -/
  | renamed {origin pid : Identifier} {identifier : Value}
      (h : origin.withLocalPart identifier = .ok pid) : Arises pid
  /-- A text is read under the shared grammar. -/
  | parsed {s : Value} {pid : Identifier} (h : (parse s).result = .ok (some pid)) : Arises pid
  /-- A text is read under the shared grammar with any separator. -/
  | parsedGeneric {separator s : Value} {pid : Identifier}
      (h : (parseGeneric separator s).result = .ok (some pid)) : Arises pid
  /-- A text is read under the grammars of providers. -/
  | parsedWith {providers : List Provider} {s : Value} {pid : Identifier}
      (h : (parseWith providers s).result = .ok (some pid)) : Arises pid
  /-- A text is read under the grammar of a provider. -/
  | parsedBy {p : Provider} {s : Value} {pid : Identifier}
      (h : (p.parse s).result = .ok (some pid)) : Arises pid
  /-- What stands behind a protocol is read under the grammar of a provider. -/
  | parsedPath {p : Provider} {protocol path : Value} {pid : Identifier}
      (h : (p.parsePathOf protocol path).result = .ok (some pid)) : Arises pid
  /-- A provider is given the parts. -/
  | parsedParts {p : Provider} {protocol authority identifier : Value} {pid : Identifier}
      (h : (p.parseParts protocol authority identifier).result = .ok (some pid)) : Arises pid
  /-- An object has the parts. -/
  | ofObject {obj : DigitalObject} {pid : Identifier} (h : obj.pid? = .ok (some pid)) : Arises pid
  /-- A provider generates a new one. -/
  | generated {p : Provider} {scope : Provider.Scope} {site site' : Site} {pid : Identifier}
      (h : (p.claimUnder scope).outcome site = (.ok pid, site')) : Arises pid

/-- Authority and local part of an identifier are proper ones. -/
def Proper (pid : Identifier) : Prop :=
  Part.isProper pid.authority = true ∧ Part.isProper pid.localPart = true

variable {protocol authority identifier separator urlStart provider : Value} {pid : Identifier}
  {p : Provider}

theorem proper_of_make
    (h : make protocol authority identifier separator urlStart provider = .ok pid) :
    pid.Proper := by
  have hfits := wellFormed_of_make h
  obtain ⟨-, a, l, rfl, rfl, ha, hl⟩ := wellFormed_eq_true_iff.1 hfits
  rw [make, hfits] at h
  obtain ⟨fits, hok, h⟩ := exists_of_bind_eq_ok h
  cases hok
  rw [Bool.not_true, if_neg Bool.false_ne_true] at h
  dsimp only at h
  split at h
  all_goals
    obtain ⟨url, -, h⟩ := exists_of_bind_eq_ok h
    cases h
    exact ⟨ha, hl⟩

theorem proper_of_parseGeneric {s : Value}
    (h : (parseGeneric separator s).result = .ok (some pid)) : pid.Proper := by
  obtain ⟨text, -, h⟩ := Parsing.exists_of_result_bind h
  dsimp only at h
  split at h
  · cases h
  · obtain ⟨mark, -, h⟩ := Parsing.exists_of_result_bind h
    split at h
    · cases h
    · rw [Parsing.result_pure, Except.ok.injEq] at h
      cases hmake : make (.str _) (.str _) (.str _) separator .null .null with
      | error fault =>
        rw [hmake] at h
        cases h
      | ok pid =>
        rw [hmake] at h
        cases h
        exact proper_of_make hmake

theorem proper_of_fromParts
    (h : (p.fromParts protocol authority identifier).result = .ok (some pid)) : pid.Proper := by
  obtain ⟨name, -, h⟩ := Parsing.exists_of_result_bind h
  obtain ⟨_, -, h⟩ := Parsing.exists_of_result_bind h
  obtain ⟨fits, -, h⟩ := Parsing.exists_of_result_bind h
  split at h
  · rw [Parsing.result_map, Parsing.result_ofExcept] at h
    obtain ⟨made, hmake, he⟩ := exists_of_map_eq_ok h
    cases he
    exact proper_of_make hmake
  · cases h

theorem proper_of_parseParts
    (h : (p.parseParts protocol authority identifier).result = .ok (some pid)) : pid.Proper := by
  rw [Provider.parseParts] at h
  split at h
  · exact proper_of_fromParts h
  · cases h

theorem proper_of_parsePath {path : Value}
    (h : (p.parsePath protocol path).result = .ok (some pid)) : pid.Proper := by
  rw [Provider.parsePath] at h
  split at h
  · cases h
  · obtain ⟨s, -, h⟩ := Parsing.exists_of_result_bind h
    split at h
    · exact proper_of_parseParts h
    · cases h

theorem proper_of_parseOwn {path : Value}
    (h : (p.parseOwn path).result = .ok (some pid)) : pid.Proper := by
  obtain ⟨localPart, -, h⟩ := Parsing.exists_of_result_bind h
  split at h
  · cases h
  · split at h
    · cases h
    · exact proper_of_fromParts h

theorem proper_of_parsePathOf {path : Value}
    (h : (p.parsePathOf protocol path).result = .ok (some pid)) : pid.Proper := by
  rw [Provider.parsePathOf] at h
  split at h
  case' isTrue => obtain ⟨_, -, h⟩ := Parsing.exists_of_result_bind h
  all_goals
    dsimp only at h
    split at h
    · cases h
    · split at h
      · exact proper_of_parseOwn h
      · exact proper_of_parsePath h
      all_goals
        obtain ⟨found, hfound, h⟩ := Parsing.exists_of_result_bind h
        obtain ⟨hsome, -⟩ := Option.filter_eq_some_iff.1 (Except.ok.inj h)
        exact proper_of_parsePath (hsome ▸ hfound)

theorem proper_of_parse {s : Value} (h : (p.parse s).result = .ok (some pid)) : pid.Proper := by
  rw [Provider.parse] at h
  split at h
  · cases h
  · obtain ⟨text, -, h⟩ := Parsing.exists_of_result_bind h
    dsimp only at h
    split at h
    · exact proper_of_parsePathOf h
    · cases h

theorem proper_of_parseFirst {providers : List Provider} {s : Value}
    (h : (Provider.parseFirst s providers).result = .ok (some pid)) : pid.Proper := by
  induction providers with
  | nil => cases h
  | cons p providers ih =>
    obtain ⟨found, hfound, h⟩ := Parsing.exists_of_result_bind h
    cases found with
    | none => exact ih h
    | some other =>
      cases h
      exact proper_of_parse hfound

theorem proper_of_pid? {obj : DigitalObject} (h : obj.pid? = .ok (some pid)) : pid.Proper := by
  obtain ⟨fits, -, h⟩ := exists_of_bind_eq_ok h
  split at h
  · cases h
  · obtain ⟨made, hmake, he⟩ := exists_of_map_eq_ok h
    cases he
    exact proper_of_make hmake

/-- A candidate is made of its parts, and of the candidates that are tried one is taken. -/
theorem proper_of_tryCandidates {scope : Provider.Scope} {attempts : Nat} {site site' : Site}
    (h : (p.tryCandidates scope attempts).outcome site = (.ok (some pid), site')) :
    pid.Proper := by
  -- on the attempts left: the candidate at hand is taken, or one of those tried after it
  induction attempts generalizing site with
  | zero => cases h
  | succ attempts ih =>
    obtain ⟨candidate, site₁, hnext, h⟩ := exists_of_outcome_bind h
    obtain ⟨claimed, site₂, -, h⟩ := exists_of_outcome_bind h
    split at h
    · cases h
      obtain ⟨name, site₃, -, hnext⟩ := exists_of_outcome_bind hnext
      obtain ⟨minted, site₄, -, hnext⟩ := exists_of_outcome_bind hnext
      obtain ⟨start, -, hcandidate⟩ := exists_of_bind_eq_ok (Prod.mk.inj hnext).1
      obtain ⟨name, -, hmake⟩ := exists_of_bind_eq_ok hcandidate
      exact proper_of_make hmake
    · exact ih h

theorem proper_of_claimUnder {scope : Provider.Scope} {site site' : Site}
    (h : (p.claimUnder scope).outcome site = (.ok pid, site')) : pid.Proper := by
  obtain ⟨name, site₁, -, h⟩ := exists_of_outcome_bind h
  obtain ⟨service, site₂, -, h⟩ := exists_of_outcome_bind h
  obtain ⟨attempts, site₃, -, h⟩ := exists_of_outcome_bind h
  obtain ⟨found, site₄, htry, h⟩ := exists_of_outcome_bind h
  cases found with
  | none => cases h
  | some other =>
    cases h
    exact proper_of_tryCandidates htry

/-- **However an identifier comes into being, its parts are proper ones.** -/
theorem Arises.proper (h : pid.Arises) : pid.Proper := by
  cases h with
  | made h => exact proper_of_make h
  | renamed h => exact proper_of_make h
  | parsed h =>
    rw [parse] at h
    split at h
    · exact proper_of_parseGeneric h
    · cases h
  | parsedWith h =>
    rw [parseWith] at h
    split at h
    · exact proper_of_parseFirst h
    · cases h
  | parsedGeneric h => exact proper_of_parseGeneric h
  | parsedBy h => exact proper_of_parse h
  | parsedPath h => exact proper_of_parsePathOf h
  | parsedParts h => exact proper_of_parseParts h
  | ofObject h => exact proper_of_pid? h
  | generated h => exact proper_of_claimUnder h

/-- **The parts of identifiers.** Two texts are authority and local part of an identifier that comes
into being, by whatever way, exactly when they are in normal form, without blanks, apostrophes and
semicolons, and a NUL stands behind their first character only if that is one itself. -/
theorem exists_arises_iff {authority localPart : String} :
    (∃ pid : Identifier, pid.Arises ∧ pid.authority = authority ∧ pid.localPart = localPart) ↔
      ∀ part ∈ [authority, localPart], Part.clean part = part ∧
        (∀ c ∈ part.toList, Text.isBlank c = false ∧ c ≠ '\'' ∧ c ≠ ';') ∧
        ∀ i, 0 < i → part.toList[i]? = some '\x00' → part.toList[0]? = some '\x00' := by
  constructor
  · rintro ⟨pid, harises, rfl, rfl⟩ part hmem
    have hproper : Part.isProper part = true := by
      obtain ⟨ha, hl⟩ := harises.proper
      simp only [List.mem_cons, List.not_mem_nil, or_false] at hmem
      rcases hmem with rfl | rfl
      · exact ha
      · exact hl
    exact ⟨(Part.isProper_eq_true_iff.1 hproper).1, Part.isProper_iff.1 hproper⟩
  · intro h
    have ha := Part.isProper_iff.2 (h authority (by simp)).2
    have hl := Part.isProper_iff.2 (h localPart (by simp)).2
    have hmake := make_str "" authority localPart "" .null
    rw [ha, hl] at hmake
    exact ⟨_, .made hmake, rfl, rfl⟩

/-- A local part may have a NUL behind its first character. -/
theorem not_forall_arises :
    ¬ ∀ pid : Identifier, pid.Arises → ∀ i, 0 < i → pid.localPart.toList[i]? ≠ some '\x00' := by
  intro h
  have hparts : partsIn "/" (decoded "doi:10.5072/\x00a\x00") =
      some ("doi", "10.5072", "\x00a\x00") := by
    decide +kernel
  have hparse : (parse (.str "doi:10.5072/\x00a\x00")).result =
      .ok (some (ofParts "/" ("doi", "10.5072", "\x00a\x00"))) := by
    rw [result_parse, hparts]
    rfl
  have hget : (ofParts "/" ("doi", "10.5072", "\x00a\x00")).localPart.toList[2]? =
      some '\x00' := by
    decide
  exact h _ (.parsed hparse) 2 (by decide) hget

end Identifier

end PersistentId
