import PersistentId.Proofs.Ledger.Agreement

/-!
# What has been reserved stays so

A reservation adds just the text that is reserved (`registered_reserve`). Even where it fails, and
when numbers are given out, nothing is lost that a ledger has on record (`keeps_reserve`,
`keeps_nextNumber`).
-/

namespace PersistentId.Ledger

open PersistentId.Action

variable {ledger ledger' : Ledger} {host host' : Host} {key other : String} {data : Value}

theorem registered_iff : ledger.registered key = true ↔
    key ∈ Table.keys ledger.cached ∨ key ∈ Table.keys ledger.uncached := by
  rw [registered_eq_has, Table.has_eq_true_iff, entries, Table.mem_keys_append]

/-- What waits with one more identifier is on record with it. -/
theorem registered_put {v : Value} :
    Ledger.registered { ledger with uncached := Table.put ledger.uncached key v } other = true ↔
      other = key ∨ ledger.registered other = true := by
  rw [registered_iff, registered_iff, Table.mem_keys_put]
  simp only [or_left_comm, or_comm]

/-- Storing what is waiting changes nothing about what has been reserved, however it ends. -/
theorem registered_flush (ledger : Ledger) (host : Host) (other : String) :
    (flush.outcome (ledger, host)).2.1.registered other = true ↔
      ledger.registered other = true := by
  obtain ⟨result, stored, rest, host', hsplit, hflush⟩ := exists_of_flush ledger host
  rw [hflush, registered_iff, registered_iff, Table.mem_keys_putAll, hsplit,
    Table.mem_keys_append, or_assoc]

/-- **A reservation adds just the text that is reserved.** -/
theorem registered_reserve
    (h : (reserve key data).outcome (ledger, host) = (.ok ⟨⟩, ledger', host')) :
    ledger'.registered other = true ↔ other = key ∨ ledger.registered other = true := by
  obtain ⟨_, _, hget, h⟩ := exists_of_outcome_bind h
  cases hget
  dsimp only at h
  split at h
  · obtain ⟨_, _, hthrow, -⟩ := exists_of_outcome_bind h
    cases hthrow
  · obtain ⟨entries, _, hentries, h⟩ := exists_of_outcome_bind h
    obtain ⟨-, rfl⟩ := Prod.mk.inj hentries
    obtain ⟨_, _, hupdate, h⟩ := exists_of_outcome_bind h
    cases hupdate
    obtain ⟨_, _, hget, h⟩ := exists_of_outcome_bind h
    cases hget
    split at h
    · have hflush := registered_flush
        { ledger with uncached := Table.put ledger.uncached key (.map entries) } host other
      rw [h] at hflush
      exact hflush.trans registered_put
    · cases h
      exact registered_put

/-! ## However an action ends -/

/-- An action on the host makes no difference to the ledger. -/
theorem keeps_onHost {α : Type} (act : Action Host α) {P : Ledger → Prop} :
    Keeps (onHost act) fun x => P x.1 :=
  Ends.zoom fun t ht s hs => by
    subst hs
    rcases act.outcome t.2 with ⟨fault | a, host⟩ <;> exact ht

theorem keeps_note (level : Level) (message : String) {P : Ledger → Prop} :
    Keeps (note level message) fun x => P x.1 :=
  Keeps.get_bind fun _ _ => keeps_onHost _

theorem keeps_flush : Keeps flush fun x => x.1.registered other = true :=
  Keeps.of_snd fun x h => (registered_flush x.1 x.2 _).2 h

theorem keeps_reserve : Keeps (reserve key data) fun x => x.1.registered other = true := by
  unfold reserve
  refine Keeps.get_bind fun s _ => ?_
  dsimp only
  split
  · exact Ends.throw_bind fun _ h => h
  · refine Ends.ofExcept_bind (fun _ _ _ h => h) fun entries _ => ?_
    refine Keeps.bind (Ends.modify fun t ht => registered_put.2 (.inr ht)) fun _ => ?_
    refine Keeps.get_bind fun t _ => ?_
    split
    · exact keeps_flush
    · exact Ends.pure fun _ h => h

theorem keeps_numbersIn (path document : String) {P : Ledger → Prop} :
    Keeps (numbersIn path document) fun x => P x.1 := by
  unfold numbersIn
  split
  · exact Ends.pure fun _ h => h
  · exact Keeps.bind (keeps_note _ _) fun _ => Ends.pure fun _ h => h
  · exact Keeps.bind (keeps_note _ _) fun _ => Ends.pure fun _ h => h
  · exact Ends.throw fun _ h => h

/-- Giving out numbers makes no difference to what is on record. -/
theorem keeps_nextNumber (scope : Value) :
    Keeps (nextNumber scope) fun x => x.1.registered other = true := by
  have hhost {α : Type} (act : Action Host α) :
      Keeps (onHost act) fun x => x.1.registered other = true :=
    keeps_onHost (P := fun ledger => ledger.registered other = true) act
  have hupdate (f : Ledger → Table Key Int) (given : Counter) :
      Keeps (do update fun ledger => { ledger with numbers := f ledger }; pure given)
        fun x => x.1.registered other = true :=
    Keeps.bind (Ends.modify fun _ h => h) fun _ => Ends.pure fun _ h => h
  unfold nextNumber
  refine Ends.ofExcept_bind (fun _ _ _ h => h) fun scope _ => Keeps.get_bind fun s _ => ?_
  dsimp only
  split
  · exact Keeps.bind (Ends.pure fun _ h => h) fun given => hupdate _ given
  · refine Keeps.bind (hhost _) fun _ => Keeps.bind (hhost _) fun text => ?_
    refine Keeps.bind (keeps_numbersIn (P := fun ledger => ledger.registered other = true) _ _)
      fun stored => Keeps.bind (hhost _) fun _ => ?_
    split
    · exact Keeps.bind (Ends.pure fun _ h => h) fun given => hupdate _ given
    · exact Ends.throw_bind fun _ h => h

end PersistentId.Ledger
