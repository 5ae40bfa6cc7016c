import PersistentId.Action

/-!
# What actions do

The outcomes of the small actions that others are made of, as equations for `simp`, and three ways
to follow a larger one: `outcome_bind_ok` and `outcome_bind_error` go step by step where the state
is known, `Ends` says how an action may end, and `Lockstep` relates two runs.

An action keeps in step if from related states it gives the same result, fails with the same fault,
and leaves related states (`Lockstep`). Some faults of the first run may be set aside: after these
nothing is said of the second one. The rules follow the ways in which actions are put together.
-/

namespace PersistentId.Action

variable {σ τ α β : Type}

/-! ## Outcomes -/

theorem ok_bind {ε : Type} (a : α) (next : α → Except ε β) : (Except.ok a >>= next) = next a := rfl

theorem exists_of_bind_eq_ok {ε : Type} {first : Except ε α} {next : α → Except ε β} {b : β}
    (h : first >>= next = .ok b) : ∃ a, first = .ok a ∧ next a = .ok b := by
  cases first with
  | error fault => cases h
  | ok a => exact ⟨a, rfl, h⟩

theorem exists_of_map_eq_ok {ε : Type} {first : Except ε α} {f : α → β} {b : β}
    (h : first.map f = .ok b) : ∃ a, first = .ok a ∧ f a = b := by
  cases first with
  | error fault => cases h
  | ok a => exact ⟨a, rfl, Except.ok.inj h⟩

@[simp]
theorem outcome_get (s : σ) : (get : Action σ σ).outcome s = (.ok s, s) := rfl

@[simp]
theorem outcome_set (s t : σ) : (set t : Action σ PUnit).outcome s = (.ok ⟨⟩, t) := rfl

@[simp]
theorem outcome_zoom (part : τ → σ) (restore : σ → τ → τ) (act : Action σ α) (t : τ) :
    (act.zoom part restore).outcome t =
      ((act.outcome (part t)).1, restore (act.outcome (part t)).2 t) := rfl

@[simp]
theorem outcome_attempt (act : Action σ α) (s : σ) :
    act.attempt.outcome s = (.ok (act.outcome s).1, (act.outcome s).2) := rfl

theorem outcome_bind_ok {act : Action σ α} {f : α → Action σ β} {s t : σ} {a : α}
    (h : act.outcome s = (.ok a, t)) : (act >>= f).outcome s = (f a).outcome t := by
  rw [outcome_bind, h]

theorem outcome_bind_error {act : Action σ α} {f : α → Action σ β} {s t : σ} {fault : Fault}
    (h : act.outcome s = (.error fault, t)) : (act >>= f).outcome s = (.error fault, t) := by
  rw [outcome_bind, h]

theorem exists_of_outcome_bind {act : Action σ α} {f : α → Action σ β} {s t : σ} {b : β}
    (h : (act >>= f).outcome s = (.ok b, t)) :
    ∃ a u, act.outcome s = (.ok a, u) ∧ (f a).outcome u = (.ok b, t) := by
  rw [outcome_bind] at h
  rcases hact : act.outcome s with ⟨fault | a, u⟩
  · rw [hact] at h
    cases h
  · rw [hact] at h
    exact ⟨a, u, rfl, h⟩

/-- What comes of an action, if it is known how it ends. -/
theorem outcome_eq_of_fst {act : Action σ α} {s : σ} {result : Except Fault α}
    (h : (act.outcome s).1 = result) : act.outcome s = (result, (act.outcome s).2) := by
  rw [← h]

/-- What may fail outright has not failed if the whole has not. -/
theorem exists_of_outcome_ofExcept_bind {result : Except Fault α} {f : α → Action σ β} {s t : σ}
    {b : β} (h : (Action.ofExcept result >>= f).outcome s = (.ok b, t)) :
    ∃ a, result = .ok a ∧ (f a).outcome s = (.ok b, t) := by
  cases result with
  | error fault => cases h
  | ok a => exact ⟨a, rfl, h⟩

@[simp]
theorem outcome_map (f : α → β) (act : Action σ α) (s : σ) :
    (f <$> act).outcome s = ((act.outcome s).1.map f, (act.outcome s).2) := by
  rw [map_eq_pure_bind, outcome_bind]
  rcases act.outcome s with ⟨a | a, t⟩ <;> rfl

/-! ## One run -/

/-- How an action may end from a state with `P`: with a result and a state that fit `Q`, or with a
fault and a state that fit `F`. -/
def Ends (act : Action σ α) (P : σ → Prop) (Q : α → σ → Prop) (F : Fault → σ → Prop) : Prop :=
  ∀ s, P s → match act.outcome s with
    | (.ok a, t) => Q a t
    | (.error fault, t) => F fault t

/-- An action keeps what holds of a state, however it ends. -/
abbrev Keeps (act : Action σ α) (P : σ → Prop) : Prop :=
  Ends act P (fun _ => P) fun _ => P

namespace Ends

variable {act : Action σ α} {P : σ → Prop} {Q : α → σ → Prop} {F : Fault → σ → Prop} {s t : σ}

theorem ok (h : Ends act P Q F) (hs : P s) {a : α} (hout : act.outcome s = (.ok a, t)) : Q a t := by
  have hend := h s hs
  rwa [hout] at hend

theorem error (h : Ends act P Q F) (hs : P s) {fault : Fault}
    (hout : act.outcome s = (.error fault, t)) : F fault t := by
  have hend := h s hs
  rwa [hout] at hend

/-- What holds however an action ends. -/
theorem snd {R : σ → Prop} (h : Ends act P (fun _ => R) fun _ => R) (hs : P s) :
    R (act.outcome s).2 := by
  have hend := h s hs
  rcases hout : act.outcome s with ⟨fault | a, t⟩ <;> rwa [hout] at hend

theorem pure {a : α} (h : ∀ s, P s → Q a s) : Ends (pure a : Action σ α) P Q F :=
  fun s hs => h s hs

theorem throw_bind {fault : Fault} {f : α → Action σ β} {S : β → σ → Prop}
    (h : ∀ s, P s → F fault s) : Ends ((throw fault : Action σ α) >>= f) P S F :=
  fun s hs => h s hs

theorem throw {fault : Fault} (h : ∀ s, P s → F fault s) :
    Ends (throw fault : Action σ α) P Q F :=
  fun s hs => h s hs

theorem bind {act : Action σ α} {f : α → Action σ β} {S : β → σ → Prop} (h : Ends act P Q F)
    (hf : ∀ a, Ends (f a) (Q a) S F) : Ends (act >>= f) P S F := by
  intro s hs
  rcases hout : act.outcome s with ⟨fault | a, t⟩
  · rw [outcome_bind_error hout]
    exact h.error hs hout
  · rw [outcome_bind_ok hout]
    exact hf a t (h.ok hs hout)

theorem ofExcept {result : Except Fault α} (hF : ∀ fault s, result = .error fault → P s → F fault s)
    (h : ∀ a, result = .ok a → ∀ s, P s → Q a s) :
    Ends (ofExcept result : Action σ α) P Q F := by
  cases result with
  | ok a => exact h a rfl
  | error fault => exact fun s hs => hF fault s rfl hs

theorem ofExcept_bind {result : Except Fault α} {f : α → Action σ β} {S : β → σ → Prop}
    (hF : ∀ fault s, result = .error fault → P s → F fault s)
    (h : ∀ a, result = .ok a → Ends (f a) P S F) : Ends (Action.ofExcept result >>= f) P S F := by
  cases result with
  | ok a => exact h a rfl
  | error fault => exact fun s hs => hF fault s rfl hs

theorem get_bind {f : σ → Action σ β} {S : β → σ → Prop}
    (h : ∀ s, P s → Ends (f s) (fun t => t = s) S F) : Ends (get >>= f) P S F :=
  fun s hs => h s hs s rfl

theorem set_bind {f : PUnit → Action σ β} {S : β → σ → Prop}
    (h : Ends (f ⟨⟩) (fun s => s = t) S F) : Ends (set t >>= f) P S F :=
  fun _ _ => h t rfl

theorem modify {f : σ → σ} {S : PUnit → σ → Prop} (h : ∀ s, P s → S ⟨⟩ (f s)) :
    Ends (modify f : Action σ PUnit) P S F :=
  fun s hs => h s hs

/-- An action on a part of the state. What it needs of the whole may depend on the state. -/
theorem zoom {part : τ → σ} {restore : σ → τ → τ} {P' : τ → Prop} {Q' : α → τ → Prop}
    {F' : Fault → τ → Prop}
    (h : ∀ t, P' t → Ends act (fun s => s = part t) (fun a s => Q' a (restore s t))
      fun fault s => F' fault (restore s t)) : Ends (act.zoom part restore) P' Q' F' := by
  intro t ht
  have hend := h t ht _ rfl
  rw [outcome_zoom]
  rcases hout : act.outcome (part t) with ⟨fault | a, s⟩ <;> rwa [hout] at hend

/-- A failure that is caught counts as a result. -/
theorem attempt {R : Except Fault α → σ → Prop} {F' : Fault → σ → Prop}
    (h : Ends act P (fun a => R (.ok a)) fun fault => R (.error fault)) :
    Ends act.attempt P R F' := by
  intro s hs
  have hend := h s hs
  rw [outcome_attempt]
  rcases hout : act.outcome s with ⟨fault | a, t⟩ <;> rwa [hout] at hend

/-- What holds of the state whatever it is holds outright. -/
theorem assume {C : Prop} (h : C → Ends act P Q F) : Ends act (fun s => C ∧ P s) Q F :=
  fun s hs => h hs.1 s hs.2

theorem mono {P' : σ → Prop} (h : Ends act P Q F) (hP : ∀ s, P' s → P s) : Ends act P' Q F :=
  fun s hs => h s (hP s hs)

theorem weaken {P' : σ → Prop} {Q' : α → σ → Prop} {F' : Fault → σ → Prop} (h : Ends act P Q F)
    (hP : ∀ s, P' s → P s) (hQ : ∀ a s, Q a s → Q' a s) (hF : ∀ fault s, F fault s → F' fault s) :
    Ends act P' Q' F' := by
  intro s hs
  have hend := h s (hP s hs)
  rcases hout : act.outcome s with ⟨fault | a, t⟩
  · rw [hout] at hend
    exact hF fault t hend
  · rw [hout] at hend
    exact hQ a t hend

end Ends

theorem Keeps.bind {P : σ → Prop} {act : Action σ α} {f : α → Action σ β} (h : Keeps act P)
    (hf : ∀ a, Keeps (f a) P) : Keeps (act >>= f) P :=
  Ends.bind h hf

/-- What holds of the states that an action leaves, however it ends, it keeps. -/
theorem Keeps.of_snd {P : σ → Prop} {act : Action σ α} (h : ∀ s, P s → P (act.outcome s).2) :
    Keeps act P := by
  intro s hs
  have hend := h s hs
  rcases hout : act.outcome s with ⟨fault | a, t⟩ <;> rwa [hout] at hend

/-- What is done after reading the state may depend on it. -/
theorem Keeps.get_bind {P : σ → Prop} {f : σ → Action σ β} (h : ∀ s, P s → Keeps (f s) P) :
    Keeps (get >>= f) P :=
  Ends.get_bind fun s hs => (h s hs).mono fun _ ht => ht ▸ hs

/-! ## Two runs -/

/-- Two runs of an action from related states come to the same: they end with one result in states
related by `Q`, or with one fault in states related by `F`. After a fault in `E` of the first run
nothing is said. -/
def Lockstep (E : Fault → Prop) (act : Action σ α) (R : σ → σ → Prop) (Q : α → σ → σ → Prop)
    (F : σ → σ → Prop) : Prop :=
  ∀ s t, R s t →
    (∃ a s' t', act.outcome s = (.ok a, s') ∧ act.outcome t = (.ok a, t') ∧ Q a s' t') ∨
      (∃ fault s' t', act.outcome s = (.error fault, s') ∧ act.outcome t = (.error fault, t') ∧
        F s' t') ∨
      ∃ fault s', E fault ∧ act.outcome s = (.error fault, s')

namespace Lockstep

variable {E : Fault → Prop} {R F : σ → σ → Prop} {Q : α → σ → σ → Prop}

theorem pure {a : α} (h : ∀ s t, R s t → Q a s t) :
    Lockstep E (pure a : Action σ α) R Q F :=
  fun s t hst => .inl ⟨a, s, t, rfl, rfl, h s t hst⟩

theorem throw {fault : Fault} (h : ∀ s t, R s t → F s t) :
    Lockstep E (throw fault : Action σ α) R Q F :=
  fun s t hst => .inr (.inl ⟨fault, s, t, rfl, rfl, h s t hst⟩)

theorem ofExcept {result : Except Fault α} (h : ∀ s t, R s t → F s t)
    (hq : ∀ a, result = .ok a → ∀ s t, R s t → Q a s t) :
    Lockstep E (ofExcept result : Action σ α) R Q F := by
  intro s t hst
  cases result with
  | ok a => exact .inl ⟨a, s, t, rfl, rfl, hq a rfl s t hst⟩
  | error fault => exact .inr (.inl ⟨fault, s, t, rfl, rfl, h s t hst⟩)

theorem bind {act : Action σ α} {f : α → Action σ β} {S : β → σ → σ → Prop}
    (h : Lockstep E act R Q F) (hf : ∀ a, Lockstep E (f a) (Q a) S F) :
    Lockstep E (act >>= f) R S F := by
  intro s t hst
  rcases h s t hst with ⟨a, s', t', hs, ht, hq⟩ | ⟨fault, s', t', hs, ht, hF⟩ | ⟨fault, s', he, hs⟩
  · rw [outcome_bind_ok hs, outcome_bind_ok ht]
    exact hf a s' t' hq
  · exact .inr (.inl ⟨fault, s', t', outcome_bind_error hs, outcome_bind_error ht, hF⟩)
  · exact .inr (.inr ⟨fault, s', he, outcome_bind_error hs⟩)

/-- What may fail outright goes on with what it gives. -/
theorem ofExcept_bind {result : Except Fault α} {f : α → Action σ β} {S : β → σ → σ → Prop}
    (h : ∀ a, result = .ok a → Lockstep E (f a) R S R) :
    Lockstep E (Action.ofExcept result >>= f) R S R := by
  cases result with
  | ok a => exact h a rfl
  | error fault => exact throw fun _ _ hst => hst

/-- Reading the state goes on in step if what is done with either state is the same. -/
theorem get_bind {f : σ → Action σ β} {S : β → σ → σ → Prop}
    (h : ∀ s t, R s t → ∃ act, f s = act ∧ f t = act ∧ Lockstep E act R S F) :
    Lockstep E (get >>= f) R S F := by
  intro s t hst
  obtain ⟨act, hs, ht, hact⟩ := h s t hst
  rw [outcome_bind_ok (outcome_get s), outcome_bind_ok (outcome_get t), hs, ht]
  exact hact s t hst

theorem modify {f : σ → σ} {S : PUnit → σ → σ → Prop} (h : ∀ s t, R s t → S ⟨⟩ (f s) (f t)) :
    Lockstep E (modify f : Action σ PUnit) R S F :=
  fun s t hst => .inl ⟨⟨⟩, f s, f t, rfl, rfl, h s t hst⟩

/-- What holds of both states whatever they are holds outright. -/
theorem assume {act : Action σ α} {P : Prop} (h : P → Lockstep E act R Q F) :
    Lockstep E act (fun s t => P ∧ R s t) Q F :=
  fun s t hst => h hst.1 s t hst.2

/-- An action on a part of the state. -/
theorem zoom {act : Action σ α} {part : τ → σ} {restore : σ → τ → τ} {R' F' : τ → τ → Prop}
    {Q' : α → τ → τ → Prop} (h : Lockstep E act R Q F) (hR : ∀ s t, R' s t → R (part s) (part t))
    (hQ : ∀ a s t x y, R' s t → Q a x y → Q' a (restore x s) (restore y t))
    (hF : ∀ s t x y, R' s t → F x y → F' (restore x s) (restore y t)) :
    Lockstep E (act.zoom part restore) R' Q' F' := by
  intro s t hst
  rcases h _ _ (hR s t hst) with ⟨a, x, y, hs, ht, hq⟩ | ⟨fault, x, y, hs, ht, hf⟩ |
    ⟨fault, x, he, hs⟩
  · exact .inl ⟨a, _, _, by rw [outcome_zoom, hs], by rw [outcome_zoom, ht],
      hQ a s t x y hst hq⟩
  · exact .inr (.inl ⟨fault, _, _, by rw [outcome_zoom, hs], by rw [outcome_zoom, ht],
      hF s t x y hst hf⟩)
  · exact .inr (.inr ⟨fault, _, he, by rw [outcome_zoom, hs]⟩)

/-- From one state there is one outcome. -/
theorem refl (act : Action σ α) : Lockstep E act Eq (fun _ => Eq) Eq := by
  rintro s _ rfl
  rcases hact : act.outcome s with ⟨a | a, s'⟩
  · exact .inr (.inl ⟨a, s', s', rfl, rfl, rfl⟩)
  · exact .inl ⟨a, s', s', rfl, rfl, rfl⟩

/-- A failure that is caught counts as a result; none may be set aside then. -/
theorem attempt {act : Action σ α} (h : Lockstep (fun _ => False) act R Q F) :
    Lockstep E act.attempt R
      (fun result s t => match result with
        | .ok a => Q a s t
        | .error _ => F s t) F := by
  intro s t hst
  rcases h s t hst with ⟨a, s', t', hs, ht, hq⟩ | ⟨fault, s', t', hs, ht, hF⟩ | ⟨_, _, he, -⟩
  · exact .inl ⟨.ok a, s', t', by simp [hs], by simp [ht], hq⟩
  · exact .inl ⟨.error fault, s', t', by simp [hs], by simp [ht], hF⟩
  · exact absurd he id

theorem weaken {act : Action σ α} {R' F' : σ → σ → Prop} {Q' : α → σ → σ → Prop}
    {E' : Fault → Prop} (h : Lockstep E act R Q F) (hE : ∀ fault, E fault → E' fault)
    (hR : ∀ s t, R' s t → R s t) (hQ : ∀ a s t, Q a s t → Q' a s t)
    (hF : ∀ s t, F s t → F' s t) : Lockstep E' act R' Q' F' := by
  intro s t hst
  rcases h s t (hR s t hst) with ⟨a, s', t', hs, ht, hq⟩ | ⟨fault, s', t', hs, ht, hf⟩ |
    ⟨fault, s', he, hs⟩
  · exact .inl ⟨a, s', t', hs, ht, hQ a s' t' hq⟩
  · exact .inr (.inl ⟨fault, s', t', hs, ht, hF s' t' hf⟩)
  · exact .inr (.inr ⟨fault, s', hE fault he, hs⟩)

end Lockstep

end PersistentId.Action
