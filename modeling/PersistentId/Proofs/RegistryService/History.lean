import Mathlib.Data.List.DropRight
import PersistentId.Proofs.RegistryService.Visit

/-!
# What a registry service comes to hold

A service is called any number of times, and may begin and cease to fail in between. What it has for
an identifier then is what the calls for it have made since it was deleted last: it has a record if
one of them has entered it, and the record is one table put over the other as the calls had them
(`Kept`, which each call keeps and so each run).

A call enters an identifier by coming to what it is for, or by slipping: this is what calls that
fail do to records, and otherwise they do nothing. What is asked of other identifiers has no bearing
on a record, so that it can be left out (`find?_run_filter`).
-/

namespace PersistentId

open RegistryService

/-! ## What calls put into a record -/

namespace Inquiry

/-- What a call puts over the record of its identifier. -/
def contribution? (q : Inquiry) : Option Metadata :=
  match q.call, q.metadata with
  | .reserve, .ok given => some (reserved given)
  | .update, .ok changes => some changes
  | .publicize, .ok changes => some (changes ++ [(statusKey, .ofText "public")])
  | _, _ => none

/-- What is reserved has distinct keys. -/
theorem distinct_reserved {given : Metadata} (h : Table.Distinct given) :
    Table.Distinct (reserved given) := by
  rw [reserved]
  split
  · exact h
  · exact Table.distinct_put h _ _

/-- **A call that makes a record of one makes it by putting its contribution over that.** -/
theorem effect_eq_some {q : Inquiry} (hkeyed : q.Keyed) {record : Option Metadata}
    (hcall : q.call = .reserve ∨ q.call = .update ∨ q.call = .publicize)
    (h : q.fits record = true ∨ q.effect record ≠ record) :
    q.effect record =
        some (q.contribution?.elim (record.getD []) (Table.putAll (record.getD []))) ∧
      (q.call = .update → record.isSome = true) := by
  obtain ⟨call, pid, metadata⟩ := q
  rcases hcall with hcall | hcall | hcall <;> obtain rfl : call = _ := hcall
  · cases metadata with
    | error fault => cases record <;> simp [fits, effect, Except.isOk, Except.toBool] at h
    | ok given =>
      cases record with
      | some record => simp [fits, effect] at h
      | none =>
        have hput : Table.putAll [] (reserved given) = reserved given :=
          Table.ofPairs_of_distinct (distinct_reserved (hkeyed given rfl))
        exact ⟨congrArg some hput.symm, fun he => by cases he⟩
  · cases metadata with
    | error fault => cases record <;> simp [fits, effect, Except.isOk, Except.toBool] at h
    | ok changes =>
      cases record with
      | none => simp [fits, effect] at h
      | some record => exact ⟨rfl, fun _ => rfl⟩
  · cases metadata with
    | error fault => exact ⟨rfl, fun he => by cases he⟩
    | ok changes =>
      refine ⟨congrArg some ?_, fun he => by cases he⟩
      show published record changes = Table.putAll (record.getD []) (changes ++ _)
      rw [Table.putAll_append]
      rfl

end Inquiry

/-! ## Calls that count -/

namespace Visit

/-- Whether a call is for the identifier with a key and has come to what it is for, or has changed
the records nevertheless. -/
def counts (x : Visit) (key : Key) : Bool :=
  x.inquiry.concerns key && (x.succeeds || x.leaves)

/-- Whether a call enters the identifier with a key. -/
def enters (x : Visit) (key : Key) : Bool :=
  x.counts key && (x.inquiry.call = .reserve || x.inquiry.call = .publicize)

/-- Whether a call deletes the identifier with a key. -/
def removes (x : Visit) (key : Key) : Bool :=
  x.inquiry.concerns key && x.succeeds && x.inquiry.call = .delete

/-- What a call puts over the record of the identifier with a key. -/
def contribution? (x : Visit) (key : Key) : Option Metadata :=
  if x.counts key then x.inquiry.contribution? else none

/-- The calls since the identifier with a key was deleted last. -/
def since (key : Key) (visits : List Visit) : List Visit :=
  visits.rtakeWhile fun x => !x.removes key

/-- Whether the identifier with a key has been entered since it was deleted last. -/
def entered (key : Key) (visits : List Visit) : Bool :=
  (since key visits).any (·.enters key)

/-- What calls have put over one another for the identifier with a key since it was deleted
last. -/
def override (key : Key) (visits : List Visit) : Metadata :=
  ((since key visits).filterMap (·.contribution? key)).foldl Table.putAll []

/-- A record is what calls have made of it. -/
def Kept (record : Option Metadata) (key : Key) (visits : List Visit) : Prop :=
  match record with
  | none =>
    entered key visits = false ∧ (since key visits).filterMap (·.contribution? key) = []
  | some record => entered key visits = true ∧ override key visits = record

variable {x : Visit} {key : Key} {visits : List Visit} {record : Option Metadata}

theorem since_concat : since key (visits ++ [x]) =
    if x.removes key then [] else since key visits ++ [x] := by
  rw [since, List.rtakeWhile_concat, since]
  cases x.removes key <;> rfl

namespace Kept

theorem entered_eq (h : Kept record key visits) : entered key visits = record.isSome := by
  cases record <;> exact h.1

theorem override_eq (h : Kept record key visits) : override key visits = record.getD [] := by
  cases record with
  | none => rw [override, h.2]; rfl
  | some record => exact h.2

/-- A call that deletes leaves nothing. -/
theorem removed (hr : x.removes key = true) : Kept none key (visits ++ [x]) := by
  have hsince : since key (visits ++ [x]) = [] := by rw [since_concat, if_pos hr]
  rw [Kept, entered, hsince]
  exact ⟨rfl, rfl⟩

/-- A call may neither enter nor change anything. -/
theorem idle (h : Kept record key visits) (hr : x.removes key = false)
    (he : x.enters key = false) (hc : x.contribution? key = none) :
    Kept record key (visits ++ [x]) := by
  have hsince : since key (visits ++ [x]) = since key visits ++ [x] := by
    rw [since_concat, if_neg (Bool.eq_false_iff.1 hr)]
  cases record <;> simpa [Kept, entered, override, hsince, he, hc] using h

/-- A call puts what it has over the record that there is, or over nothing if it enters one. -/
theorem grown (h : Kept record key visits) (hr : x.removes key = false)
    (he : x.enters key = true ∨ record.isSome = true) :
    Kept (some ((x.contribution? key).elim (record.getD []) (Table.putAll (record.getD [])))) key
      (visits ++ [x]) := by
  have hsince : since key (visits ++ [x]) = since key visits ++ [x] := by
    rw [since_concat, if_neg (Bool.eq_false_iff.1 hr)]
  refine ⟨?_, ?_⟩
  · rw [entered, hsince, List.any_append, ← entered, h.entered_eq]
    rcases he with he | he <;> simp [he]
  · rw [override, hsince, List.filterMap_append, List.foldl_append, ← override, h.override_eq]
    cases hc : x.contribution? key <;> simp [hc]

end Kept

/-! ### One call -/

theorem counts_iff : x.counts key = true ↔
    (x.inquiry.concerns key = true ∧ x.admitted = true) ∧
      (x.inquiry.fits (x.record? key) = true ∨
        x.inquiry.effect (x.record? key) ≠ x.record? key) := by
  rw [counts, Bool.and_eq_true, and_assoc]
  refine and_congr_right fun hc => ?_
  rw [succeeds_of_concerns hc, leaves_of_concerns hc]
  cases x.admitted <;> cases x.inquiry.fits (x.record? key) <;> simp

theorem find?_after_of_counts (h : x.counts key = true) :
    Table.find? x.after.records key = x.inquiry.effect (x.record? key) := by
  obtain ⟨⟨hc, ha⟩, -⟩ := counts_iff.1 h
  rw [find?_after, hc, ha, if_pos (Bool.and_self true)]

theorem find?_after_of_not_counts (h : ¬x.counts key = true) :
    Table.find? x.after.records key = x.record? key := by
  rw [find?_after]
  split
  · next hact =>
    rw [counts_iff, not_and, not_or, not_not] at h
    exact (h (Bool.and_eq_true_iff.1 hact)).2
  · rfl

theorem counts_of_removes (h : x.removes key = true) : x.counts key = true := by
  rw [removes, Bool.and_eq_true, Bool.and_eq_true] at h
  rw [counts, h.1.1, h.1.2]
  rfl

namespace Kept

/-- A call that changes nothing keeps what is said of a record. -/
theorem concat_of_not_counts (h : Kept record key visits) (hcounts : ¬x.counts key = true) :
    Kept record key (visits ++ [x]) :=
  h.idle (Bool.eq_false_iff.2 fun hr => hcounts (counts_of_removes hr))
    (by rw [enters, Bool.eq_false_iff.2 hcounts, Bool.false_and])
    (by rw [contribution?, if_neg hcounts])

theorem concat_of_reads (h : Kept (x.record? key) key visits)
    (hcall : x.inquiry.call = .exists ∨ x.inquiry.call = .getMetadata) :
    Kept (x.inquiry.effect (x.record? key)) key (visits ++ [x]) := by
  have heffect : x.inquiry.effect (x.record? key) = x.record? key := by
    rcases hcall with hcall | hcall <;> simp [Inquiry.effect, hcall]
  rw [heffect]
  refine h.idle ?_ ?_ ?_ <;> rcases hcall with hcall | hcall <;>
    simp [removes, enters, contribution?, Inquiry.contribution?, hcall]

theorem concat_of_changes (h : Kept (x.record? key) key visits) (hkeyed : x.inquiry.Keyed)
    (hcounts : x.counts key = true)
    (hcall : x.inquiry.call = .reserve ∨ x.inquiry.call = .update ∨ x.inquiry.call = .publicize) :
    Kept (x.inquiry.effect (x.record? key)) key (visits ++ [x]) := by
  obtain ⟨heffect, hupdate⟩ := Inquiry.effect_eq_some hkeyed hcall (counts_iff.1 hcounts).2
  have hcontribution : x.contribution? key = x.inquiry.contribution? := by
    rw [contribution?, if_pos hcounts]
  rw [heffect, ← hcontribution]
  refine h.grown ?_ ?_
  · rcases hcall with hcall | hcall | hcall <;> simp [removes, hcall]
  · rcases hcall with hcall | hcall | hcall
    · exact .inl (by simp [enters, hcounts, hcall])
    · exact .inr (hupdate hcall)
    · exact .inl (by simp [enters, hcounts, hcall])

theorem concat_of_deletes (hcounts : x.counts key = true) (hcall : x.inquiry.call = .delete) :
    Kept (x.inquiry.effect (x.record? key)) key (visits ++ [x]) := by
  have heffect : x.inquiry.effect (x.record? key) = none := by simp [Inquiry.effect, hcall]
  obtain ⟨⟨hc, ha⟩, hchange⟩ := counts_iff.1 hcounts
  have hfits : x.inquiry.fits (x.record? key) = true := by
    rw [heffect] at hchange
    cases hrecord : x.record? key with
    | none => simpa [hrecord] using hchange
    | some record => simp [Inquiry.fits, hcall]
  rw [heffect]
  refine removed ?_
  rw [removes, succeeds_of_concerns hc, hc, ha, hfits, hcall]
  rfl

/-- **One call makes of a record what is said of the calls so far.** -/
theorem concat (h : Kept (x.record? key) key visits) (hkeyed : x.inquiry.Keyed) :
    Kept (Table.find? x.after.records key) key (visits ++ [x]) := by
  by_cases hcounts : x.counts key = true
  · rw [find?_after_of_counts hcounts]
    cases hcall : x.inquiry.call with
    | «exists» => exact h.concat_of_reads (.inl hcall)
    | getMetadata => exact h.concat_of_reads (.inr hcall)
    | reserve => exact h.concat_of_changes hkeyed hcounts (.inl hcall)
    | update => exact h.concat_of_changes hkeyed hcounts (.inr (.inl hcall))
    | publicize => exact h.concat_of_changes hkeyed hcounts (.inr (.inr hcall))
    | delete => exact concat_of_deletes hcounts hcall
  · rw [find?_after_of_not_counts hcounts]
    exact h.concat_of_not_counts hcounts

end Kept

end Visit

/-! ## Runs -/

namespace RegistryService

/-- What happens to a service: it is called, or it is set to fail or not to. -/
inductive Step where
  | ask (q : Inquiry)
  | switch (failing : Value)

namespace Step

/-- The service behind a step. -/
def next (service : RegistryService) : Step → RegistryService
  | ask q => (Visit.mk q service).after
  | switch failing => { service with failing }

/-- The entry that a step makes in the list of calls. -/
def entry? : Step → Option (ServiceCall × Value)
  | ask q => some (q.call, q.pid)
  | switch _ => none

/-- Whether a step is no call for another identifier than the one with a key. -/
def concerns (key : Key) : Step → Bool
  | ask q => q.concerns key
  | switch _ => true

end Step

/-- The service behind steps. -/
def run (service : RegistryService) (steps : List Step) : RegistryService :=
  steps.foldl Step.next service

/-- The calls of steps, with the service as each of them finds it. -/
def visits (service : RegistryService) : List Step → List Visit
  | [] => []
  | .ask q :: steps => ⟨q, service⟩ :: visits (Step.next service (.ask q)) steps
  | .switch failing :: steps => visits { service with failing } steps

variable {service : RegistryService} {steps : List Step}

theorem run_concat (step : Step) : run service (steps ++ [step]) = step.next (run service steps) :=
  List.foldl_concat ..

theorem visits_append (more : List Step) :
    visits service (steps ++ more) = visits service steps ++ visits (run service steps) more := by
  induction steps generalizing service with
  | nil => rfl
  | cons step steps ih =>
    cases step with
    | ask q => exact congrArg (_ :: ·) ih
    | switch failing => exact ih

/-- **Every call is noted once, and in order.** -/
theorem calls_run (service : RegistryService) (steps : List Step) :
    (run service steps).calls = service.calls ++ steps.filterMap Step.entry? := by
  induction steps using List.reverseRecOn with
  | nil => exact (List.append_nil _).symm
  | append_singleton steps step ih =>
    rw [run_concat, List.filterMap_append, ← List.append_assoc, ← ih]
    cases step with
    | ask q =>
      obtain ⟨records, hafter⟩ := (Visit.mk q (run service steps)).exists_after_eq
      rw [Step.next, hafter]
      rfl
    | switch failing => exact (List.append_nil _).symm

/-- **The record of an identifier is what the calls for it have made of it.** -/
theorem kept_run (key : Key) (hrecords : service.records = [])
    (hkeyed : ∀ q, Step.ask q ∈ steps → q.Keyed) :
    Visit.Kept (Table.find? (run service steps).records key) key (visits service steps) := by
  induction steps using List.reverseRecOn with
  | nil =>
    show Visit.Kept (Table.find? service.records key) key []
    rw [hrecords]
    exact ⟨rfl, rfl⟩
  | append_singleton steps step ih =>
    have ih := ih fun q hq => hkeyed q (List.mem_append_left _ hq)
    rw [run_concat, visits_append]
    cases step with
    | ask q =>
      exact Visit.Kept.concat (x := ⟨q, run service steps⟩) ih (hkeyed q List.mem_concat_self)
    | switch failing => rwa [visits, visits, List.append_nil]

/-- **Calls for other identifiers have no bearing on a record.** -/
theorem find?_run_filter {other : RegistryService} {key : Key}
    (hfailing : service.failing = other.failing)
    (hfind : Table.find? service.records key = Table.find? other.records key) :
    Table.find? (run service (steps.filter (Step.concerns key))).records key =
      Table.find? (run other steps).records key := by
  induction steps generalizing service other with
  | nil => exact hfind
  | cons step steps ih =>
    cases step with
    | switch failing => exact ih rfl hfind
    | ask q =>
      have hsame (service : RegistryService) :
          (Step.next service (.ask q)).failing = service.failing := Visit.failing_after ⟨q, service⟩
      have hother : Table.find? (Visit.mk q other).after.records key =
          if q.concerns key && (Visit.mk q other).admitted then
            q.effect (Table.find? other.records key)
          else Table.find? other.records key := Visit.find?_after _ _
      cases hc : q.concerns key with
      | false =>
        rw [List.filter_cons_of_neg (by simp [Step.concerns, hc])]
        refine ih (hfailing.trans (hsame other).symm) ?_
        rw [hfind, Step.next, hother, hc]
        rfl
      | true =>
        rw [List.filter_cons_of_pos (by simp [Step.concerns, hc])]
        refine ih ?_ ?_
        · exact (hsame service).trans (hfailing.trans (hsame other).symm)
        · have hadmitted : (Visit.mk q service).admitted = (Visit.mk q other).admitted := by
            rw [Visit.admitted, Visit.admitted, hfailing]
          rw [Step.next, Step.next, hother, Visit.find?_after, hadmitted, Visit.record?, hfind]

/-- **What a registry service holds after any calls**, if it was set up empty and may have failed at
any times.

The list of calls has each of them once, in order. A call that fails has changed the records if and
only if it slips. An identifier is known exactly if a call has entered it since it was deleted last,
and its record is then what the calls since have put over one another; this is the record that it
has without the calls for other identifiers. -/
theorem holds_of_run (hcalls : service.calls = []) (hrecords : service.records = [])
    (hkeyed : ∀ q, Step.ask q ∈ steps → q.Keyed) :
    (run service steps).calls = steps.filterMap Step.entry? ∧
      (∀ x ∈ visits service steps, x.succeeds = false →
        (x.after.records ≠ x.service.records ↔ x.Slips)) ∧
      ∀ {pid : Value} {key : Key}, pid.asKey = .ok key →
        ((run service steps).failing.truthy = false →
          ((isKnown pid).outcome (run service steps)).1 =
              .ok (Visit.entered key (visits service steps)) ∧
            ((metadata pid).outcome (run service steps)).1 =
              if Visit.entered key (visits service steps) then
                .ok (Visit.override key (visits service steps))
              else .error (refusal (.serviceUnknown (.ofKey key)))) ∧
        Table.find? (run service (steps.filter (Step.concerns key))).records key =
          Table.find? (run service steps).records key := by
  refine ⟨?_, fun x _ hfails => ?_, fun {pid key} hk => ⟨fun hf => ?_, find?_run_filter rfl rfl⟩⟩
  · rw [calls_run, hcalls, List.nil_append]
  · rw [← x.leaves_iff, Visit.leaves, hfails, Bool.not_false, Bool.true_and, decide_eq_true_iff]
  · have hkept := kept_run key hrecords hkeyed
    have hrecord := hkept.override_eq
    rw [outcome_isKnown _ hk, outcome_metadata _ hk, hf, hkept.entered_eq]
    refine ⟨rfl, ?_⟩
    cases hfind : Table.find? (run service steps).records key with
    | none => rfl
    | some record =>
      rw [hfind] at hrecord
      exact congrArg Except.ok hrecord.symm

/-- An identifier is reserved, given another address, which fails, and made public; another one is
reserved in between. -/
def depositing : List Step :=
  [.ask ⟨.reserve, .str "hdl:20.500/ABC", .ok [(targetKey, .ofText "https://a.org/")]⟩,
    .switch (.bool true),
    .ask ⟨.update, .str "hdl:20.500/ABC", .ok [(targetKey, .ofText "https://b.org/")]⟩,
    .switch (.bool false),
    .ask ⟨.reserve, .str "hdl:20.500/XYZ", .ok []⟩,
    .ask ⟨.publicize, .str "hdl:20.500/ABC", .ok [(.str "datacite.title", .ofText "Data")]⟩]

/-- The record has the first address, and the state public. -/
theorem holds_of_run_depositing :
    (run {} depositing).calls = depositing.filterMap Step.entry? ∧
      ((metadata (.str "hdl:20.500/ABC")).outcome (run {} depositing)).1 =
        .ok [(targetKey, .ofText "https://a.org/"), (statusKey, .ofText "public"),
          (.str "datacite.title", .ofText "Data")] := by
  have hkeyed : ∀ q, Step.ask q ∈ depositing → q.Keyed := by
    intro q hq given hgiven
    simp only [depositing, List.mem_cons, List.not_mem_nil, Step.ask.injEq, or_false,
      reduceCtorEq, false_or] at hq
    rcases hq with rfl | rfl | rfl | rfl <;> cases hgiven <;> decide
  have h := @holds_of_run {} depositing rfl rfl hkeyed
  refine ⟨h.1, ?_⟩
  have hkey : (Value.str "hdl:20.500/ABC").asKey = .ok (.str "hdl:20.500/ABC") := rfl
  rw [((h.2.2 hkey).1 (by decide +kernel)).2]
  decide +kernel

/-- What is made public with metadata that cannot be copied has a record behind the call that
fails. -/
theorem not_forall_records_eq_of_fails :
    ¬ ∀ (steps : List Step) (x : Visit), x ∈ visits {} steps → x.succeeds = false →
      x.after.records = x.service.records := by
  intro h
  have hsame := h [.ask ⟨.publicize, .str "hdl:20.500/ABC", .error .immutable⟩] _
    List.mem_cons_self (by decide +kernel)
  revert hsame
  decide +kernel

end RegistryService

end PersistentId
