import PersistentId.Proofs.Minter
import PersistentId.Proofs.Noid.Exhaustion

/-!
# What random minters make

A random minter draws below the capacity of its template, and all of that is rendered, so minting
never fails. What it can make (`Minter.Makes`) is what is rendered of the numbers below the
capacity.

`Noid.exhaustion_and_drawing` says this together with where a template is exhausted: exactly at the
capacity if no line feed ends the template, and then a random minter can make all that the template
renders. A template that ends with a line feed goes on behind its capacity, and most of what it
renders is never made.
-/

namespace PersistentId

open PersistentId.Action

namespace Minter

variable {minter : Minter} {template : Noid.Template} {text minted : String} {upper : Value}
  {source : SourceId}

/-- A minter makes a local part for some scope on some site. -/
def Makes (minter : Minter) (minted : String) : Prop :=
  ∃ (scope : Value) (s t : Site), (minter.mint scope).outcome s = (.ok minted, t)

theorem eq_of_makeRandom (h : makeRandom (.str text) upper source = .ok minter)
    (htemplate : Noid.Template.parse text = .ok template) :
    template.generator = .random ∧
      minter = .random (.str text) template.capacity upper source := by
  obtain ⟨mask, hmask, h⟩ := exists_of_bind_eq_ok h
  obtain rfl : mask = template := Except.ok.inj (hmask.symm.trans htemplate)
  split at h
  · next hgenerator => exact ⟨hgenerator, (Except.ok.inj h).symm⟩
  · cases h

/-- What is made of a number is the text rendered of it, in upper case or as it is. -/
theorem exists_rendered_eq (template : Value) (capacity : Nat) (upper : Value) (source : SourceId) :
    ∃ f : String → String, (f = id ∨ f = Text.upper) ∧
      ∀ n, (Minter.random template capacity upper source).rendered n =
        (Noid.render template (.int n)).map f := by
  cases hupper : upper.truthy with
  | true => exact ⟨_, .inr rfl, fun n => by simp [rendered, hupper]⟩
  | false => exact ⟨_, .inl rfl, fun n => by simp only [rendered, hupper]; rfl⟩

/-- A number that the template has room for is made into a local part, and no other one is. -/
theorem exists_rendered_iff (htemplate : Noid.Template.parse text = .ok template)
    (hrandom : template.generator = .random) (upper : Value) (source : SourceId) {n : Nat} :
    (∃ minted, (Minter.random (.str text) template.capacity upper source).rendered n =
      .ok minted) ↔ n < template.capacity * template.overrun := by
  obtain ⟨f, -, hf⟩ := exists_rendered_eq (.str text) template.capacity upper source
  have hbounded : template.generator ≠ .unbounded := by rw [hrandom]; nofun
  have hrender := Noid.exists_render_eq_ok_iff (n := n) htemplate
  rw [or_iff_right hbounded] at hrender
  rw [hf, ← hrender]
  constructor
  · rintro ⟨minted, h⟩
    obtain ⟨s, hs, -⟩ := exists_of_map_eq_ok h
    exact ⟨s, hs⟩
  · rintro ⟨s, hs⟩
    exact ⟨f s, by rw [hs]; rfl⟩

/-- Different numbers are made into different local parts. -/
theorem eq_of_rendered_eq (htemplate : Noid.Template.parse text = .ok template) {capacity k n : Nat}
    (hk : (Minter.random (.str text) capacity upper source).rendered k = .ok minted)
    (hn : (Minter.random (.str text) capacity upper source).rendered n = .ok minted) : k = n := by
  obtain ⟨f, hcase, hf⟩ := exists_rendered_eq (.str text) capacity upper source
  rw [hf] at hk hn
  exact Noid.eq_of_render_eq htemplate hcase hk hn

/-- The number drawn is one below the capacity. -/
theorem exists_drawn (text : String) (template : Noid.Template) (upper : Value) (source : SourceId)
    (scope : Value) (s : Site) :
    ∃ n < template.capacity, (n : Int) =
        (s.sources.get source).getD 0 0 % (template.capacity : Int) ∧
      ∃ t, ((Minter.random (.str text) template.capacity upper source).mint scope).outcome s =
        ((Minter.random (.str text) template.capacity upper source).rendered n, t) := by
  have hpos : (0 : Int) < template.capacity := Int.natCast_pos.2 template.capacity_pos
  have hnonneg := Int.emod_nonneg ((s.sources.get source).getD 0 0) (Int.ne_of_gt hpos)
  have hlt := Int.emod_lt_of_pos ((s.sources.get source).getD 0 0) hpos
  obtain ⟨sources, hmint, -⟩ :=
    outcome_mint_random template.capacity_pos (.str text) upper source scope s
  refine ⟨((s.sources.get source).getD 0 0 % (template.capacity : Int)).toNat, by omega,
    Int.toNat_of_nonneg hnonneg, { s with sources }, ?_⟩
  rw [Int.toNat_of_nonneg hnonneg, hmint]

/-- **A random minter can make what is rendered of the numbers below the capacity**, and nothing
else. -/
theorem makes_iff :
    (Minter.random (.str text) template.capacity upper source).Makes minted ↔
      ∃ n < template.capacity,
        (Minter.random (.str text) template.capacity upper source).rendered n = .ok minted := by
  constructor
  · rintro ⟨scope, s, t, hmint⟩
    obtain ⟨n, hn, -, u, hdrawn⟩ := exists_drawn text template upper source scope s
    exact ⟨n, hn, (Prod.mk.inj (hdrawn.symm.trans hmint)).1⟩
  · rintro ⟨n, hn, hrendered⟩
    -- a source that holds just this number
    let s : Site := { sources := ({} : Shelf (List Int)).put source [(n : Int)] }
    obtain ⟨k, hk, hdraw, t, hdrawn⟩ := exists_drawn text template upper source .null s
    have hheld : s.sources.get source = [(n : Int)] := Shelf.get_put_self ..
    have hsame : (k : Int) = n := by
      rw [hdraw, hheld]
      exact Int.emod_eq_of_lt (Int.natCast_nonneg n) (Int.ofNat_lt.2 hn)
    rw [Int.ofNat_inj.1 hsame, hrendered] at hdrawn
    exact ⟨.null, s, t, hdrawn⟩

end Minter

namespace Noid

open Minter

variable {text : String} {template : Template}

/-- All that a template renders is made by its random minters exactly if no line feed ends it. -/
theorem forall_makes_iff {upper : Value} {source : SourceId}
    (h : Template.parse text = .ok template) (hrandom : template.generator = .random) :
    (∀ (n : Nat) (minted : String),
        (Minter.random (.str text) template.capacity upper source).rendered n = .ok minted →
          (Minter.random (.str text) template.capacity upper source).Makes minted) ↔
      text.toList.getLast? ≠ some '\n' := by
  rw [← overrun_eq_one_iff h]
  constructor
  · intro hall
    by_contra hne
    -- the first number that is not drawn
    have hroom : template.capacity < template.capacity * template.overrun := by
      have hpos : 0 < template.overrun := by
        have hroom := room_pos template.places
        rw [room_places (Mask.split_of_parse h).2.2] at hroom
        exact Nat.pos_of_mul_pos_left hroom
      exact (Nat.lt_mul_iff_one_lt_right template.capacity_pos).2 (by omega)
    obtain ⟨minted, hminted⟩ := (exists_rendered_iff h hrandom upper source).2 hroom
    obtain ⟨n, hn, hrendered⟩ := makes_iff.1 (hall _ _ hminted)
    exact Nat.ne_of_lt hn (eq_of_rendered_eq h hrendered hminted)
  · intro hone n minted hrendered
    have hroom := (exists_rendered_iff h hrandom upper source).1 ⟨minted, hrendered⟩
    rw [hone, Nat.mul_one] at hroom
    exact makes_iff.2 ⟨n, hroom, hrendered⟩

/-- **Where a template is exhausted, and what is drawn from it.** A bounded template renders just
the numbers that it has room for, an unbounded one all. There is room for the capacity and no more
exactly if no line feed ends the template. A random minter never fails, it makes what is rendered of
the numbers below the capacity, and that is all that the template renders under the same
condition. -/
theorem exhaustion_and_drawing (h : Template.parse text = .ok template) :
    (∀ n : Nat, render (.str text) (.int n) = .error (.templateExhausted text) ↔
      template.generator ≠ .unbounded ∧ template.capacity * template.overrun ≤ n) ∧
    (∀ n : Nat, (∃ s, render (.str text) (.int n) = .ok s) ↔
      template.generator = .unbounded ∨ n < template.capacity * template.overrun) ∧
    (template.overrun = 1 ↔ text.toList.getLast? ≠ some '\n') ∧
    ∀ (upper : Value) (source : SourceId) (minter : Minter),
      makeRandom (.str text) upper source = .ok minter →
        (∀ scope s, ∃ minted t, (minter.mint scope).outcome s = (.ok minted, t)) ∧
        (∀ minted, minter.Makes minted ↔
          ∃ n < template.capacity, minter.rendered n = .ok minted) ∧
        ((∀ (n : Nat) (minted : String), minter.rendered n = .ok minted → minter.Makes minted) ↔
          text.toList.getLast? ≠ some '\n') := by
  refine ⟨fun n => render_eq_error_iff h, fun n => exists_render_eq_ok_iff h,
    overrun_eq_one_iff h, fun upper source minter hmake => ?_⟩
  obtain ⟨hrandom, rfl⟩ := eq_of_makeRandom hmake h
  refine ⟨fun scope s => ?_, fun minted => makes_iff, forall_makes_iff h hrandom⟩
  obtain ⟨n, hn, -, t, hmint⟩ := exists_drawn text template upper source scope s
  have hroom := template.capacity_le_room
  rw [room_places (Mask.split_of_parse h).2.2] at hroom
  obtain ⟨minted, hminted⟩ :=
    (exists_rendered_iff h hrandom upper source).2 (Nat.lt_of_lt_of_le hn hroom)
  exact ⟨minted, t, by rw [hmint, hminted]⟩

/-- A template of one digit, with a line feed behind it. -/
def lined : Template :=
  ⟨"rd\n", [], .random, ['d', '\n']⟩

theorem parse_lined : Template.parse "rd\n" = .ok lined := rfl

/-- It has room for 290 numbers, of which ten are drawn. -/
theorem exhaustion_and_drawing_lined :
    lined.capacity = 10 ∧ (∃ s, render (.str "rd\n") (.int 289) = .ok s) ∧
      render (.str "rd\n") (.int 290) = .error (.templateExhausted "rd\n") ∧
      (Minter.random (.str "rd\n") 10 .null 0).Makes "09" ∧
      ∃ (n : Nat) (minted : String),
        (Minter.random (.str "rd\n") 10 .null 0).rendered n = .ok minted ∧
          ¬ (Minter.random (.str "rd\n") 10 .null 0).Makes minted := by
  obtain ⟨hexhausted, hrendered, -, hrandom⟩ := exhaustion_and_drawing parse_lined
  obtain ⟨-, hmakes, hall⟩ := hrandom .null 0 _ rfl
  have hfeed : ¬ "rd\n".toList.getLast? ≠ some '\n' := by decide
  rw [← hall] at hfeed
  simp only [not_forall] at hfeed
  obtain ⟨n, minted, hminted, hmake⟩ := hfeed
  exact ⟨rfl, (hrendered 289).2 (.inr (by decide)),
    (hexhausted 290).2 ⟨nofun, by decide⟩, (hmakes _).2 ⟨9, by decide, by rfl⟩,
    n, minted, hminted, hmake⟩

/-- A bounded template may go on rendering behind its capacity. -/
theorem not_forall_exhausted_iff :
    ¬ ∀ (text : String) (template : Template) (n : Nat), Template.parse text = .ok template →
      template.generator ≠ .unbounded →
      (render (.str text) (.int n) = .error (.templateExhausted text) ↔
        template.capacity ≤ n) := by
  intro h
  have hten : render (.str "rd\n") (.int 10) = .ok "0b" := by decide +kernel
  have hexhausted := (h _ _ 10 parse_lined nofun).2 (by decide)
  cases hten.symm.trans hexhausted

end Noid

end PersistentId
