import PersistentId.DigitalObject
import PersistentId.Proofs.Action
import PersistentId.Proofs.Ledger.Line

/-!
# Identifiers without blanks

A text is `unbroken` if no character of it is blank. Authority and local part of an identifier are,
as they are in normal form; if the protocol and the separator are as well, so is the canonical form,
which then can stand in a store (`Ledger.isKey_of_unbroken`).

An object that is given an identifier has it if that is `Whole` (`DigitalObject.pid?_setPid`). A
whole identifier without a blank in its canonical form is `Sound`.
-/

namespace PersistentId

open PersistentId.Action

theorem Part.isProper_eq_true_iff {s : String} :
    isProper s = true ↔ clean s = s ∧ hasTerminator s = false := by
  rw [isProper, Bool.and_eq_true, decide_eq_true_eq, Bool.not_eq_true', eq_comm]

namespace Text

/-- Whether no character of a text is blank. -/
def unbroken (s : String) : Bool :=
  s.toList.all fun c => !isBlank c

@[simp]
theorem unbroken_append (s t : String) : unbroken (s ++ t) = (unbroken s && unbroken t) := by
  simp [unbroken]

theorem unbroken_of_isProper {s : String} (h : Part.isProper s = true) : unbroken s = true := by
  refine List.all_eq_true.2 fun c hc => ?_
  have hforbidden := Part.clean_eq_self_iff.1 (Part.isProper_eq_true_iff.1 h).1 c hc
  simp only [Part.isForbidden, Bool.or_eq_false_iff] at hforbidden
  rw [hforbidden.1.1]
  rfl

end Text

/-- A text without blanks can stand in a store. -/
theorem Ledger.isKey_of_unbroken {s : String} (h : Text.unbroken s = true) (hne : s ≠ "") :
    isKey s = true := by
  rw [Text.unbroken, List.all_eq_true] at h
  cases hs : s.toList with
  | nil => exact absurd (String.toList_eq_nil_iff.1 hs) hne
  | cons c cs =>
    rw [hs] at h
    simp only [isKey, hs, Bool.and_eq_true, List.all_eq_true, bne_iff_ne]
    refine ⟨h c (by simp), fun d hd => ⟨⟨?_, ?_⟩, ?_⟩⟩ <;>
    · rintro rfl
      exact absurd (h _ hd) (by decide)

theorem wellFormed_str {protocol : Value} (hp : protocol ≠ .null) (authority localPart : String) :
    wellFormed protocol (.str authority) (.str localPart) =
      .ok (Part.isProper authority && Part.isProper localPart) := by
  have hnull : [protocol, .str authority, .str localPart].contains Value.null = false := by
    simp [Ne.symm hp]
  simp only [wellFormed, hnull, Value.asTextOr]
  cases ha : Part.isProper authority <;> simp [ha, bind, Except.bind, pure, Except.pure]

theorem wellFormed_eq_true_iff {protocol authority identifier : Value} :
    wellFormed protocol authority identifier = .ok true ↔
      protocol ≠ .null ∧ ∃ s t, authority = .str s ∧ identifier = .str t ∧
        Part.isProper s = true ∧ Part.isProper t = true := by
  constructor
  · intro h
    simp only [wellFormed] at h
    split at h
    · cases h
    · next hnull =>
      obtain ⟨s, hs, h⟩ := exists_of_bind_eq_ok h
      split at h
      · cases h
      · next hauthority =>
        obtain ⟨t, ht, h⟩ := exists_of_bind_eq_ok h
        refine ⟨fun hp => hnull (by simp [hp]), s, t, ?_, ?_, by simpa using hauthority,
          Except.ok.inj h⟩
        · cases authority with
          | str x => cases hs; rfl
          | _ => cases hs
        · cases identifier with
          | str x => cases ht; rfl
          | _ => cases ht
  · rintro ⟨hp, s, t, rfl, rfl, hs, ht⟩
    rw [wellFormed_str hp, hs, ht]
    rfl

namespace Identifier

/-- What is made of parts that fit has these parts. -/
theorem make_of_wellFormed {protocol separator urlStart : Value} {authority localPart : String}
    (h : wellFormed protocol (.str authority) (.str localPart) = .ok true)
    (hs : separator ≠ .null) (hu : urlStart ≠ .null) (provider : Value) :
    make protocol (.str authority) (.str localPart) separator urlStart provider =
      .ok ⟨protocol, authority, localPart, separator, urlStart, provider⟩ := by
  simp only [make, h, hs, hu]
  rfl

/-- What is made with an address has the given parts, nothing standing for no separator. -/
theorem exists_of_make {protocol authority identifier separator provider : Value}
    {urlStart : String} {pid : Identifier}
    (h : make protocol authority identifier separator (.str urlStart) provider = .ok pid) :
    ∃ a l, authority = .str a ∧ identifier = .str l ∧
      pid = ⟨protocol, a, l, if separator = .null then .str "" else separator, .str urlStart,
        provider⟩ := by
  have hfits := wellFormed_of_make h
  obtain ⟨-, a, l, rfl, rfl, -, -⟩ := wellFormed_eq_true_iff.1 hfits
  simp only [make, hfits] at h
  cases h
  exact ⟨a, l, rfl, rfl, rfl⟩

/-- An identifier that an object has when it is given it. -/
structure Whole (pid : Identifier) : Prop where
  fits : wellFormed pid.protocol (.str pid.authority) (.str pid.localPart) = .ok true
  separator : pid.separator ≠ .null
  urlStart : pid.urlStart ≠ .null
  named : pid.localPart ≠ ""

theorem whole_of_make {protocol authority separator provider : Value} {localPart urlStart : String}
    {pid : Identifier}
    (h : make protocol authority (.str localPart) separator (.str urlStart) provider = .ok pid)
    (hl : localPart ≠ "") : pid.Whole := by
  have hfits := wellFormed_of_make h
  obtain ⟨a, l, rfl, hlocal, rfl⟩ := exists_of_make h
  obtain rfl := Value.str.inj hlocal
  refine ⟨hfits, ?_, by simp, hl⟩
  dsimp only
  split
  · simp
  · next hne => exact hne

/-- An identifier that an object can have and a store can hold. -/
structure Sound (pid : Identifier) : Prop where
  fits : wellFormed pid.protocol (.str pid.authority) (.str pid.localPart) = .ok true
  separator : pid.separator ≠ .null
  urlStart : pid.urlStart ≠ .null
  named : pid.localPart ≠ ""
  unbroken : Text.unbroken pid.toString = true

theorem Sound.whole {pid : Identifier} (h : pid.Sound) : pid.Whole :=
  ⟨h.fits, h.separator, h.urlStart, h.named⟩

theorem sound_of_make {protocol authority separator provider : Value} {localPart urlStart : String}
    {pid : Identifier}
    (h : make protocol authority (.str localPart) separator (.str urlStart) provider = .ok pid)
    (hl : localPart ≠ "") (hp : Text.unbroken protocol.text = true)
    (hs : Text.unbroken separator.text = true) : pid.Sound ∧ pid.protocol = protocol := by
  have hwhole := whole_of_make h hl
  obtain ⟨-, _, _, ha, ht, hproper, hproper'⟩ := wellFormed_eq_true_iff.1 hwhole.fits
  obtain rfl := Value.str.inj ha
  obtain rfl := Value.str.inj ht
  obtain ⟨a, l, rfl, hlocal, rfl⟩ := exists_of_make h
  refine ⟨⟨hwhole.fits, hwhole.separator, hwhole.urlStart, hwhole.named, ?_⟩, rfl⟩
  have hseparator : Text.unbroken
      (if separator = .null then .str "" else separator : Value).text = true := by
    split
    · rfl
    · exact hs
  simp [toString, path, hp, hseparator, Text.unbroken_of_isProper hproper,
    Text.unbroken_of_isProper hproper']
  decide

theorem Sound.isKey {pid : Identifier} (h : pid.Sound) : Ledger.isKey pid.toString = true :=
  Ledger.isKey_of_unbroken h.unbroken (by simp [toString])

end Identifier

/-- **An object that is given a whole identifier has it.** -/
theorem DigitalObject.pid?_setPid (obj : DigitalObject) {pid : Identifier} (h : pid.Whole) :
    (obj.setPid (some pid)).pid? = .ok (some pid) := by
  have hlacks : (obj.setPid (some pid)).lacksLocalPart = false := by
    simp [setPid, lacksLocalPart, Value.truthy, h.named]
  have hmake := Identifier.make_of_wellFormed h.fits h.separator h.urlStart pid.provider
  simp only [pid?, hlacks]
  simp [setPid, h.fits, hmake, bind, Except.bind]

theorem DigitalObject.pid?_setPid_some (obj : DigitalObject) {pid : Identifier} (h : pid.Sound) :
    (obj.setPid (some pid)).pid? = .ok (some pid) :=
  obj.pid?_setPid h.whole

/-- The parts of an identifier are those of the object that has it. -/
theorem DigitalObject.parts_of_pid? {obj : DigitalObject} {pid : Identifier}
    (h : obj.pid? = .ok (some pid)) :
    pid.protocol = obj.protocol ∧ .str pid.authority = obj.authority ∧
      .str pid.localPart = obj.localPart := by
  obtain ⟨fits, -, h⟩ := exists_of_bind_eq_ok h
  split at h
  · cases h
  · obtain ⟨made, hmake, hsome⟩ := exists_of_map_eq_ok h
    cases hsome
    have hfits := Identifier.wellFormed_of_make hmake
    obtain ⟨-, a, l, ha, hl, -, -⟩ := wellFormed_eq_true_iff.1 hfits
    rw [Identifier.make, hfits, ok_bind] at hmake
    simp only [Bool.not_true, Bool.false_eq_true, if_false] at hmake
    split at hmake
    all_goals
      obtain ⟨urlStart, -, hmake⟩ := exists_of_bind_eq_ok hmake
      cases hmake
      exact ⟨rfl, by rw [ha]; rfl, by rw [hl]; rfl⟩

/-- An identifier that an object has is well formed and has a local part. -/
theorem DigitalObject.fits_of_pid? {obj : DigitalObject} {pid : Identifier}
    (h : obj.pid? = .ok (some pid)) :
    wellFormed pid.protocol (.str pid.authority) (.str pid.localPart) = .ok true ∧
      pid.localPart ≠ "" := by
  obtain ⟨hprotocol, hauthority, hlocal⟩ := parts_of_pid? h
  rw [hprotocol, hauthority, hlocal]
  obtain ⟨fits, hfits, h⟩ := exists_of_bind_eq_ok h
  split at h
  · cases h
  · next hboth =>
    rw [Bool.or_eq_true, not_or, Bool.not_eq_true, Bool.not_eq_false'] at hboth
    refine ⟨hfits.trans (congrArg _ hboth.1), fun he => hboth.2 ?_⟩
    rw [lacksLocalPart, ← hlocal, he]
    rfl

theorem DigitalObject.pidText?_of_pid? {obj : DigitalObject}
    {result : Except Fault (Option Identifier)} (h : obj.pid? = result) :
    obj.pidText? = result.map fun pid? => pid?.map (·.toString) := by
  rw [pidText?, h]
  cases result <;> rfl

theorem DigitalObject.exists_of_pidText? {obj : DigitalObject} {text : String}
    (h : obj.pidText? = .ok (some text)) :
    ∃ pid, obj.pid? = .ok (some pid) ∧ pid.toString = text := by
  obtain ⟨pid?, hpid, hmap⟩ := exists_of_bind_eq_ok h
  obtain ⟨pid, rfl, htext⟩ := Option.map_eq_some_iff.1 (Except.ok.inj hmap)
  exact ⟨pid, hpid, htext⟩

end PersistentId
