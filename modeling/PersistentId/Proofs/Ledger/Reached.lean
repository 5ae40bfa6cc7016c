import PersistentId.Proofs.Ledger.Growth
import PersistentId.Proofs.Ledger.Sequence

/-!
# What a ledger may have become

A ledger that was opened may be asked for whatever it offers, on whatever has become of its host
(`Reached`). It remembers no number before its first one, and nothing waits twice (`Regular`).
-/

namespace PersistentId.Ledger

open PersistentId.Action

variable {ledger : Ledger}

/-- Nothing waits twice, and no number is remembered that comes before the first one. -/
structure Regular (ledger : Ledger) : Prop where
  distinct : Table.Distinct ledger.uncached
  started : ∀ scope n, Table.find? ledger.numbers scope = some n → ledger.start.toInt ≤ n

/-- A ledger that was opened, whatever it has been asked for since then and whatever has become of
its host. -/
inductive Reached : Ledger → Prop where
  | opened {directory config name : Value} {host host' : Host} {ledger : Ledger}
      (h : (create directory config name).outcome host = (.ok ledger, host')) : Reached ledger
  | deed {ledger : Ledger} (h : Reached ledger) (deed : Deed) (host : Host) :
      Reached (deed.act.outcome (ledger, host)).2.1
  | number {ledger : Ledger} (h : Reached ledger) (scope : Value) (host : Host) :
      Reached ((nextNumber scope).outcome (ledger, host)).2.1
  | assign {ledger : Ledger} (h : Reached ledger) (name : String) (v : Value) :
      Reached (ledger.assign name v)

theorem Regular.start_le_expected (h : ledger.Regular) (scope : Key) :
    ledger.start.toInt ≤ (ledger.expected scope).toInt := by
  rw [expected]
  split
  · next n hn => exact h.started scope n hn
  · exact Int.le_refl _

/-- Remembering a number that comes no earlier than the first one. -/
theorem Regular.put (h : ledger.Regular) (scope : Key) {n : Int} (hn : ledger.start.toInt ≤ n) :
    Regular { ledger with numbers := Table.put ledger.numbers scope n } where
  distinct := h.distinct
  started other m hm := by
    cases he : scope == other with
    | false =>
      rw [Table.find?_put_of_ne _ _ he] at hm
      exact h.started other m hm
    | true =>
      rw [← Table.find?_congr _ he, Table.find?_put_self] at hm
      exact Option.some.inj hm ▸ hn

theorem Regular.assign (h : ledger.Regular) (name : String) (v : Value) :
    (ledger.assign name v).Regular := by
  unfold Ledger.assign
  split <;> exact ⟨h.distinct, h.started⟩

theorem regular_flush : Keeps flush fun x => x.1.Regular := by
  refine Keeps.of_snd fun x h => ?_
  obtain ⟨result, stored, rest, host', hsplit, hflush⟩ := exists_of_flush x.1 x.2
  have hdistinct := h.distinct
  rw [hsplit] at hdistinct
  rw [show x = (x.1, x.2) from rfl, hflush]
  exact ⟨hdistinct.sublist (List.sublist_append_right stored rest), h.started⟩

theorem regular_reserve (key : String) (data : Value) :
    Keeps (reserve key data) fun x => x.1.Regular := by
  unfold reserve
  refine Keeps.get_bind fun s _ => ?_
  dsimp only
  split
  · exact Ends.throw_bind fun _ h => h
  · refine Ends.ofExcept_bind (fun _ _ _ h => h) fun entries _ => ?_
    refine Keeps.bind (Ends.modify fun t ht => ⟨Table.distinct_put ht.distinct _ _, ht.started⟩)
      fun _ => Keeps.get_bind fun t _ => ?_
    split
    · exact regular_flush
    · exact Ends.pure fun _ h => h

theorem regular_warnUnreadable (store : String) (keys : List String) :
    Keeps (warnUnreadable store keys) fun x => x.1.Regular := by
  induction keys with
  | nil => exact Ends.pure fun _ h => h
  | cons key keys ih => exact Keeps.bind (keeps_note (P := Regular) _ _) fun _ => ih

theorem regular_reload : Keeps reload fun x => x.1.Regular := by
  unfold reload
  refine Keeps.get_bind fun s _ => ?_
  split
  · exact Ends.throw fun _ h => h
  · refine Keeps.bind (keeps_onHost (P := Regular) _) fun text => ?_
    refine Keeps.bind (regular_warnUnreadable _ _) fun _ => ?_
    split
    · exact Ends.throw_bind fun _ h => h
    · exact Ends.modify fun t ht => ⟨ht.distinct, ht.started⟩

/-- What is given out comes no earlier than what the ledger remembers, which is the same until
then. -/
theorem regular_nextNumber (scope : Value) : Keeps (nextNumber scope) fun x => x.1.Regular := by
  unfold nextNumber
  refine Ends.ofExcept_bind (fun _ _ _ h => h) fun scope _ => Ends.get_bind fun s hs => ?_
  have hhost {α : Type} (act : Action Host α) : Keeps (onHost act) fun x => x.1 = s.1 :=
    keeps_onHost (P := (· = s.1)) act
  have hupdate (given : Counter) : Ends
      (do
        update fun ledger =>
          { ledger with numbers := Table.put ledger.numbers scope (given.toInt + 1) }
        pure given)
      (fun x => (s.1.expected scope).toInt ≤ given.toInt ∧ x.1 = s.1) (fun _ x => x.1.Regular)
      fun _ x => x.1.Regular := by
    refine Ends.bind (Q := fun _ x => x.1.Regular) (Ends.modify fun t ht => ?_) fun _ =>
      Ends.pure fun _ h => h
    have hregular : t.1.Regular := ht.2 ▸ hs
    refine hregular.put scope ?_
    rw [ht.2]
    have := hs.start_le_expected scope
    omega
  dsimp only
  split
  · exact Ends.bind (Ends.pure fun t ht => ⟨Int.le_refl _, congrArg (·.1) ht⟩) hupdate
  · refine Ends.bind ((hhost _).weaken (fun _ h => congrArg (·.1) h) (fun _ _ h => h)
      fun _ _ h => h ▸ hs) fun _ => ?_
    refine Ends.bind ((hhost _).weaken (fun _ h => h) (fun _ _ h => h) fun _ _ h => h ▸ hs)
      fun text => ?_
    refine Ends.bind ((keeps_numbersIn (P := (· = s.1)) _ _).weaken (fun _ h => h)
      (fun _ _ h => h) fun _ _ h => h ▸ hs) fun stored => ?_
    refine Ends.bind ((hhost _).weaken (fun _ h => h) (fun _ _ h => h) fun _ _ h => h ▸ hs)
      fun _ => ?_
    split
    · refine Ends.bind (Ends.pure fun t ht => ⟨?_, ht⟩) hupdate
      rw [Counter.toInt_max]
      exact Int.le_max_left ..
    · exact Ends.throw_bind fun _ h => h ▸ hs

/-- **Whatever a ledger is asked for, it stays regular.** -/
theorem Reached.regular (h : ledger.Reached) : ledger.Regular := by
  induction h with
  | opened h =>
    obtain ⟨blank, table, _, hb, rfl, -⟩ := configured_of_create h
    obtain ⟨-, huncached, hnumbers⟩ := configured_eq_ok hb
    refine ⟨by rw [huncached]; exact List.Pairwise.nil, fun scope n hn => ?_⟩
    rw [hnumbers] at hn
    cases hn
  | deed _ deed host ih =>
    cases deed with
    | reserve key data => exact (regular_reserve key data).snd ih
    | flush => exact regular_flush.snd ih
    | reload => exact regular_reload.snd ih
  | number _ scope host ih => exact (regular_nextNumber scope).snd ih
  | assign _ name v ih => exact ih.assign name v

end PersistentId.Ledger
