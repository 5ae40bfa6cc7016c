import PersistentId.Config
import PersistentId.Proofs.Table

/-!
# Merged configurations

A configuration is a tree: what is no table stands as a leaf at a path of keys (`HasLeaf`), and the
tables are its branches (`HasTable`). A value is tidy if no two keys of a table count as one, on any
level of tables in tables.

`find?_merge` says what a key of merged tables has, and `at?_merge_cons` from it what stands at a
path. The laws follow by induction on the path:

* a leaf is one of the primary configuration, or one of the defaults that the primary leaves open
  (`hasLeaf_merge_iff`), and there is a table where either of them has one, as long as no leaf of
  the primary is on the way (`exists_hasTable_merge_iff`);
* the keys of every table are those of the defaults with the further ones of the primary behind
  them (`keys_of_hasTable_merge`);
* what a configuration has been put over it can be put over again without a change
  (`merge_merge`), and so can what it is itself (`merge_self`).

`merge_by_path` has all of them together.
-/

namespace PersistentId

/-! ## Trees -/

namespace Value

/-- Whether a value is a table. -/
def isTable : Value → Bool
  | .map _ => true
  | _ => false

theorem isTable_eq_true_iff {v : Value} : v.isTable = true ↔ ∃ entries, v = .map entries := by
  cases v <;> simp [isTable]

/-- What stands at a path of keys. -/
def at? : Value → List Key → Option Value
  | v, [] => some v
  | .map entries, k :: path => (Table.find? entries k).bind (at? · path)
  | _, _ :: _ => none

@[simp]
theorem at?_nil (v : Value) : v.at? [] = some v := by
  cases v <;> rfl

@[simp]
theorem at?_map_cons (entries : List (Key × Value)) (k : Key) (path : List Key) :
    (Value.map entries).at? (k :: path) = (Table.find? entries k).bind (at? · path) := rfl

/-- At a value that is no table there is only the value. -/
theorem at?_of_isTable_eq_false {v w : Value} {path : List Key} (hv : v.isTable = false)
    (h : v.at? path = some w) : path = [] ∧ w = v := by
  cases path with
  | nil => exact ⟨rfl, (Option.some.inj ((at?_nil v).symm.trans h)).symm⟩
  | cons k path => cases v <;> simp_all [isTable, at?]

mutual

/-- Whether no two keys of a table count as one, on any level of tables in tables. -/
def isTidy : Value → Bool
  | .map entries => entriesAreTidy entries
  | _ => true
termination_by structural v => v

/-- `isTidy` of the entries of a table. -/
def entriesAreTidy : List (Key × Value) → Bool
  | [] => true
  | (k, v) :: entries => !Table.has entries k && isTidy v && entriesAreTidy entries
termination_by structural v => v

end

end Value

namespace Config

open Value

variable {primary defaults : Config} {k : Key} {v w : Value} {path : List Key}

/-- Whether no two keys count as one, on any level. -/
def isTidy (config : Config) : Bool :=
  entriesAreTidy config

theorem distinct_of_isTidy (h : isTidy primary = true) : Table.Distinct primary := by
  induction primary with
  | nil => exact List.Pairwise.nil
  | cons p primary ih =>
    obtain ⟨k, v⟩ := p
    simp only [isTidy, entriesAreTidy, Bool.and_eq_true, Bool.not_eq_true'] at h
    obtain ⟨⟨hnew, -⟩, hrest⟩ := h
    exact List.pairwise_cons.2
      ⟨fun q hq => BEq.comm.trans (Table.has_eq_false_iff.1 hnew q hq), ih hrest⟩

theorem isTidy_of_mem (h : isTidy primary = true) {p : Key × Value} (hp : p ∈ primary) :
    p.2.isTidy = true := by
  induction primary with
  | nil => cases hp
  | cons q primary ih =>
    obtain ⟨k, v⟩ := q
    simp only [isTidy, entriesAreTidy, Bool.and_eq_true] at h
    rcases List.mem_cons.1 hp with rfl | hp
    · exact h.1.2
    · exact ih h.2 hp

theorem isTidy_of_find? (h : isTidy primary = true) (hv : Table.find? primary k = some v) :
    v.isTidy = true := by
  obtain ⟨k', hmem, -⟩ := Table.exists_of_find?_eq_some hv
  exact isTidy_of_mem h hmem

/-- A configuration has a value at a path, and it is no table. -/
def HasLeaf (config : Config) (path : List Key) (v : Value) : Prop :=
  (Value.map config).at? path = some v ∧ v.isTable = false

/-- A configuration has a table at a path. -/
def HasTable (config : Config) (path : List Key) (entries : Config) : Prop :=
  (Value.map config).at? path = some (.map entries)

/-- A configuration has no leaf on the way along a path, its end included. -/
def IsClear (config : Config) (path : List Key) : Prop :=
  ∀ start, start ≠ [] → start <+: path → ∀ v, ¬ HasLeaf config start v

/-- The keys of the table at a path, if there is one. -/
def keysAt (config : Config) (path : List Key) : List Key :=
  match (Value.map config).at? path with
  | some (.map entries) => Table.keys entries
  | _ => []

/-! ## Merged tables -/

@[simp]
theorem mergeValue_none (v : Value) : mergeValue v none = v := by
  cases v <;> rfl

theorem mergeValue_map_map (primary defaults : Config) :
    mergeValue (.map primary) (some (.map defaults)) = .map (merge primary defaults) := rfl

/-- A value is put over what was there as it is, unless both are tables. -/
theorem mergeValue_eq_self {old : Option Value}
    (h : v.isTable = false ∨ ∀ defaults, old ≠ some (.map defaults)) : mergeValue v old = v := by
  unfold mergeValue
  split
  · next primary defaults =>
    rcases h with h | h
    · cases h
    · exact absurd rfl (h defaults)
  · rfl

/-- What a key of merged tables has. -/
theorem find?_merge (h : Table.Distinct primary) (defaults : Config) (k : Key) :
    Table.find? (merge primary defaults) k = match Table.find? primary k with
      | some v => some (mergeValue v (Table.find? defaults k))
      | none => Table.find? defaults k := by
  induction primary generalizing defaults with
  | nil => rfl
  | cons p primary ih =>
    obtain ⟨l, v⟩ := p
    obtain ⟨hl, hrest⟩ := List.pairwise_cons.1 h
    rw [merge, ih hrest, Table.find?]
    cases hk : l == k with
    | true =>
      have hnone : Table.find? primary k = none := by
        rw [← Table.find?_congr primary hk, Table.find?_eq_none_iff]
        exact fun q hq => BEq.comm.trans (hl q hq)
      rw [hnone, ← Table.find?_congr _ hk, Table.find?_put_self, if_pos rfl,
        Table.find?_congr defaults hk]
    | false => rw [Table.find?_put_of_ne _ _ hk, if_neg Bool.false_ne_true]

/-- **The keys come in the order of the defaults**, those that only the primary has behind them. -/
theorem keys_merge (h : Table.Distinct primary) (defaults : Config) :
    Table.keys (merge primary defaults) =
      Table.keys defaults ++ (Table.keys primary).filter fun k => !Table.has defaults k := by
  induction primary generalizing defaults with
  | nil => exact (List.append_nil _).symm
  | cons p primary ih =>
    obtain ⟨l, v⟩ := p
    obtain ⟨hl, hrest⟩ := List.pairwise_cons.1 h
    -- the key that has just been put in stands in none of the entries behind it
    have hsame : (Table.keys primary).filter
          (fun k => !Table.has (Table.put defaults l (mergeValue v (Table.find? defaults l))) k) =
        (Table.keys primary).filter fun k => !Table.has defaults k := by
      refine List.filter_congr fun k hk => ?_
      obtain ⟨q, hq, rfl⟩ := List.mem_map.1 hk
      rw [Table.has_put, hl q hq, Bool.or_false]
    have hkeys : Table.keys ((l, v) :: primary) = l :: Table.keys primary := rfl
    rw [merge, ih hrest, hsame, Table.keys_put, hkeys, List.filter_cons]
    cases Table.has defaults l <;> simp

/-! ## Along a path -/

/-- A key of the primary is lacking, has a table in both, or has something that replaces what the
defaults have. -/
theorem find?_cases (primary defaults : Config) (k : Key) :
    Table.find? primary k = none ∨
      (∃ inner outer, Table.find? primary k = some (.map inner) ∧
        Table.find? defaults k = some (.map outer)) ∨
      ∃ v, Table.find? primary k = some v ∧
        (v.isTable = false ∨ ∀ outer, Table.find? defaults k ≠ some (.map outer)) := by
  cases hk : Table.find? primary k with
  | none => exact .inl rfl
  | some v =>
    refine .inr ?_
    cases hv : v.isTable with
    | false => exact .inr ⟨v, rfl, .inl hv⟩
    | true =>
      obtain ⟨inner, rfl⟩ := isTable_eq_true_iff.1 hv
      by_cases hd : ∃ outer, Table.find? defaults k = some (.map outer)
      · obtain ⟨outer, hd⟩ := hd
        exact .inl ⟨inner, outer, rfl, hd⟩
      · exact .inr ⟨_, rfl, .inr (not_exists.1 hd)⟩

/-- Behind a key that the primary lacks stands what the defaults have. -/
theorem at?_merge_of_none (h : Table.Distinct primary) (hk : Table.find? primary k = none) :
    (Value.map (merge primary defaults)).at? (k :: path) =
      (Value.map defaults).at? (k :: path) := by
  rw [at?_map_cons, find?_merge h, hk, at?_map_cons]

/-- Behind a key that has a table in both stands what the merged tables have. -/
theorem at?_merge_of_tables {inner outer : Config} (h : Table.Distinct primary)
    (hk : Table.find? primary k = some (.map inner))
    (hd : Table.find? defaults k = some (.map outer)) :
    (Value.map (merge primary defaults)).at? (k :: path) =
      (Value.map (merge inner outer)).at? path := by
  rw [at?_map_cons, find?_merge h, hk, hd]
  rfl

/-- Behind every other key stands what the primary has. -/
theorem at?_merge_of_some (h : Table.Distinct primary) (hk : Table.find? primary k = some v)
    (hv : v.isTable = false ∨ ∀ outer, Table.find? defaults k ≠ some (.map outer)) :
    (Value.map (merge primary defaults)).at? (k :: path) = (Value.map primary).at? (k :: path) := by
  rw [at?_map_cons, find?_merge h, hk, at?_map_cons, hk]
  exact congrArg (·.at? path) (mergeValue_eq_self hv)

/-- Where a key has no table there is none behind it, and a leaf only if the path ends there. -/
theorem at?_cons_of_ne_map (hk : ∀ entries, Table.find? defaults k ≠ some (.map entries))
    (h : (Value.map defaults).at? (k :: path) = some v) : path = [] ∧ v.isTable = false := by
  rw [at?_map_cons] at h
  obtain ⟨w, hw, hv⟩ := Option.bind_eq_some_iff.1 h
  have hleaf : w.isTable = false := by
    refine Bool.eq_false_iff.2 fun htable => ?_
    obtain ⟨entries, rfl⟩ := isTable_eq_true_iff.1 htable
    exact hk entries hw
  obtain ⟨hpath, rfl⟩ := at?_of_isTable_eq_false hleaf hv
  exact ⟨hpath, hleaf⟩

/-! ### Clear paths -/

/-- No leaf is on the way behind a key that is lacking. -/
theorem isClear_of_none (hk : Table.find? primary k = none) (path : List Key) :
    IsClear primary (k :: path) := by
  intro start hne hstart v hleaf
  obtain ⟨rest, rfl⟩ : ∃ rest, start = k :: rest := by
    cases start with
    | nil => exact absurd rfl hne
    | cons l rest => exact ⟨rest, by rw [(List.cons_prefix_cons.1 hstart).1]⟩
  simp [HasLeaf, hk] at hleaf

/-- On the way behind a key with a table are the leaves of the table. -/
theorem isClear_of_table {inner : Config} (hk : Table.find? primary k = some (.map inner)) :
    IsClear primary (k :: path) ↔ IsClear inner path := by
  constructor
  · intro h start hne hstart v hleaf
    refine h (k :: start) nofun (List.cons_prefix_cons.2 ⟨rfl, hstart⟩) v ?_
    rwa [HasLeaf, at?_map_cons, hk]
  · intro h start hne hstart v hleaf
    cases start with
    | nil => exact hne rfl
    | cons l start =>
      obtain ⟨rfl, hrest⟩ := List.cons_prefix_cons.1 hstart
      rw [HasLeaf, at?_map_cons, hk] at hleaf
      cases start with
      | nil =>
        cases hleaf.1
        cases hleaf.2
      | cons m start => exact h (m :: start) nofun hrest v hleaf

/-- A leaf under the first key is on the way. -/
theorem not_isClear_of_leaf (hk : Table.find? primary k = some v) (hv : v.isTable = false)
    (path : List Key) : ¬ IsClear primary (k :: path) := by
  intro h
  refine h [k] nofun (List.cons_prefix_cons.2 ⟨rfl, List.nil_prefix⟩) v ⟨?_, hv⟩
  simp [hk]

/-! ### What stands there -/

theorem not_hasLeaf_nil (config : Config) (v : Value) : ¬ HasLeaf config [] v := by
  rintro ⟨hv, hleaf⟩
  cases hv
  cases hleaf

theorem hasTable_nil_iff {config t : Config} : HasTable config [] t ↔ config = t := by
  simp [HasTable]

/-- **A leaf is one of the primary, or one of the defaults** at a path that is clear in the primary
and at which the primary has no table. -/
theorem hasLeaf_merge_iff (h : isTidy primary = true) (defaults : Config) (path : List Key)
    (v : Value) :
    HasLeaf (merge primary defaults) path v ↔ HasLeaf primary path v ∨
      (HasLeaf defaults path v ∧ IsClear primary path ∧ ∀ t, ¬ HasTable primary path t) := by
  induction path generalizing primary defaults with
  | nil => simp [not_hasLeaf_nil]
  | cons k path ih =>
    have hdistinct := distinct_of_isTidy h
    rcases find?_cases primary defaults k with hk | ⟨inner, outer, hk, hd⟩ | ⟨w, hk, hw⟩
    · have hleaf : ¬ HasLeaf primary (k :: path) v := by simp [HasLeaf, hk]
      have htable : ∀ t, ¬ HasTable primary (k :: path) t := by simp [HasTable, hk]
      rw [HasLeaf, at?_merge_of_none hdistinct hk, ← HasLeaf]
      simp [hleaf, htable, isClear_of_none hk]
    · have htidy : isTidy inner = true := isTidy_of_find? h hk
      rw [isClear_of_table hk, HasLeaf, at?_merge_of_tables hdistinct hk hd]
      simp only [HasLeaf, HasTable, at?_map_cons, hk, hd, Option.bind_some]
      exact ih htidy outer
    · rw [HasLeaf, at?_merge_of_some hdistinct hk hw, ← HasLeaf]
      refine ⟨.inl, fun hor => hor.resolve_right ?_⟩
      rintro ⟨⟨hdefault, hleaf⟩, hclear, htable⟩
      rcases hw with hw | hd
      · exact not_isClear_of_leaf hk hw path hclear
      · obtain ⟨rfl, -⟩ := at?_cons_of_ne_map hd hdefault
        cases hw : w.isTable with
        | false => exact not_isClear_of_leaf hk hw [] hclear
        | true =>
          obtain ⟨inner, rfl⟩ := isTable_eq_true_iff.1 hw
          exact htable inner (by simp [HasTable, hk])

/-- There is a table where the primary has one, and where the defaults have one and the path is
clear in the primary. -/
theorem exists_hasTable_merge_iff (h : isTidy primary = true) (defaults : Config)
    (path : List Key) :
    (∃ t, HasTable (merge primary defaults) path t) ↔ (∃ t, HasTable primary path t) ∨
      ((∃ t, HasTable defaults path t) ∧ IsClear primary path) := by
  induction path generalizing primary defaults with
  | nil => simp [hasTable_nil_iff]
  | cons k path ih =>
    have hdistinct := distinct_of_isTidy h
    rcases find?_cases primary defaults k with hk | ⟨inner, outer, hk, hd⟩ | ⟨w, hk, hw⟩
    · have hlacks : (Value.map primary).at? (k :: path) = none := by simp [hk]
      simp only [HasTable, at?_merge_of_none hdistinct hk, hlacks]
      simp [isClear_of_none hk]
    · have htidy : isTidy inner = true := isTidy_of_find? h hk
      rw [isClear_of_table hk]
      simp only [HasTable, at?_merge_of_tables hdistinct hk hd, at?_map_cons, hk, hd,
        Option.bind_some]
      exact ih htidy outer
    · simp only [HasTable, at?_merge_of_some hdistinct hk hw]
      refine ⟨.inl, fun hor => hor.resolve_right ?_⟩
      rintro ⟨⟨t, ht⟩, hclear⟩
      rcases hw with hw | hd
      · exact not_isClear_of_leaf hk hw path hclear
      · cases (at?_cons_of_ne_map hd ht).2

theorem keysAt_of_hasTable {config t : Config} (h : HasTable config path t) :
    keysAt config path = Table.keys t := by
  rw [keysAt, h]

theorem keysAt_eq_nil {config : Config} (h : ∀ t, ¬ HasTable config path t) :
    keysAt config path = [] := by
  unfold keysAt
  split
  · next t ht => exact absurd ht (h t)
  · rfl

/-- **On every level the keys of the defaults come first**, in their order, and behind them those
that only the primary has, in theirs. -/
theorem keys_of_hasTable_merge (h : isTidy primary = true) {t : Config}
    (ht : HasTable (merge primary defaults) path t) :
    Table.keys t = keysAt defaults path ++
      (keysAt primary path).filter fun k => !(keysAt defaults path).any (· == k) := by
  induction path generalizing primary defaults with
  | nil =>
    obtain rfl := hasTable_nil_iff.1 ht
    rw [keysAt_of_hasTable (hasTable_nil_iff.2 rfl), keysAt_of_hasTable (hasTable_nil_iff.2 rfl),
      keys_merge (distinct_of_isTidy h)]
    simp only [Table.has_eq_any_keys]
  | cons k path ih =>
    have hdistinct := distinct_of_isTidy h
    rcases find?_cases primary defaults k with hk | ⟨inner, outer, hk, hd⟩ | ⟨w, hk, hw⟩
    · rw [HasTable, at?_merge_of_none hdistinct hk] at ht
      have hprimary : keysAt primary (k :: path) = [] :=
        keysAt_eq_nil (by simp [HasTable, hk])
      rw [keysAt_of_hasTable ht, hprimary]
      exact (List.append_nil _).symm
    · rw [HasTable, at?_merge_of_tables hdistinct hk hd] at ht
      simp only [keysAt, at?_map_cons, hk, hd, Option.bind_some]
      exact ih (isTidy_of_find? h hk) ht
    · rw [HasTable, at?_merge_of_some hdistinct hk hw] at ht
      have hdefaults : keysAt defaults (k :: path) = [] := by
        refine keysAt_eq_nil fun u hu => ?_
        rcases hw with hw | hd
        · rw [at?_map_cons, hk] at ht
          cases (at?_of_isTable_eq_false hw ht).2
          cases hw
        · cases (at?_cons_of_ne_map hd hu).2
      rw [keysAt_of_hasTable ht, hdefaults, List.nil_append]
      exact (List.filter_eq_self.2 fun _ _ => rfl).symm

/-! ## Merging again -/

/-- A configuration that has every value as it is after merging stays as it is. -/
theorem merge_eq_self (h : ∀ p ∈ primary, ∃ old, Table.find? defaults p.1 = some old ∧
    mergeValue p.2 (some old) = old) : merge primary defaults = defaults := by
  induction primary with
  | nil => rfl
  | cons p primary ih =>
    obtain ⟨k, v⟩ := p
    obtain ⟨old, hold, hsame⟩ := h (k, v) List.mem_cons_self
    rw [merge, hold, hsame, Table.put_of_find? hold]
    exact ih fun q hq => h q (List.mem_cons_of_mem _ hq)

/-- A table whose values can be put over once more can be so itself. -/
theorem merge_merge_of_values (hprimary : Table.Distinct primary)
    (h : ∀ p ∈ primary, ∀ old, mergeValue p.2 (some (mergeValue p.2 old)) = mergeValue p.2 old)
    (defaults : Config) :
    merge primary (merge primary defaults) = merge primary defaults := by
  refine merge_eq_self fun p hp => ⟨mergeValue p.2 (Table.find? defaults p.1), ?_, h p hp _⟩
  rw [find?_merge hprimary, Table.find?_of_mem hprimary hp]

mutual

/-- What a value has been put over it can be put over once more. -/
theorem mergeValue_mergeValue : ∀ v : Value, v.isTidy = true → ∀ old,
    mergeValue v (some (mergeValue v old)) = mergeValue v old
  | .map primary, h => fun old => by
    have hdistinct : Table.Distinct primary := distinct_of_isTidy h
    have hvalues := mergeValue_mergeValue_of_mem primary h
    by_cases hold : ∃ defaults, old = some (.map defaults)
    · obtain ⟨defaults, rfl⟩ := hold
      exact congrArg Value.map (merge_merge_of_values hdistinct hvalues defaults)
    · rw [mergeValue_eq_self (.inr (not_exists.1 hold)), mergeValue_map_map]
      refine congrArg Value.map (merge_eq_self fun p hp =>
        ⟨p.2, Table.find?_of_mem hdistinct hp, ?_⟩)
      simpa using hvalues p hp none
  | .null, _ | .bool _, _ | .int _, _ | .float _, _ | .str _, _ | .moment _, _ | .list _, _ =>
    fun _ => rfl

theorem mergeValue_mergeValue_of_mem : ∀ primary : List (Key × Value),
    entriesAreTidy primary = true → ∀ p ∈ primary, ∀ old,
      mergeValue p.2 (some (mergeValue p.2 old)) = mergeValue p.2 old
  | [], _ => nofun
  | (k, v) :: primary, h => fun p hp => by
    simp only [entriesAreTidy, Bool.and_eq_true] at h
    rcases List.mem_cons.1 hp with rfl | hp
    · exact mergeValue_mergeValue v h.1.2
    · exact mergeValue_mergeValue_of_mem primary h.2 p hp

end

/-- **What a configuration has been merged into it can be merged into once more.** -/
theorem merge_merge (h : isTidy primary = true) (defaults : Config) :
    merge primary (merge primary defaults) = merge primary defaults :=
  merge_merge_of_values (distinct_of_isTidy h) (mergeValue_mergeValue_of_mem primary h) defaults

theorem merge_eq_putAll (h : Table.Distinct (defaults ++ primary)) :
    merge primary defaults = Table.putAll defaults primary := by
  induction primary generalizing defaults with
  | nil => rfl
  | cons p primary ih =>
    obtain ⟨k, v⟩ := p
    have hnew : Table.has defaults k = false := Table.has_eq_false_iff.2 fun q hq =>
      (List.pairwise_append.1 h).2.2 q hq (k, v) List.mem_cons_self
    have hnone : Table.find? defaults k = none := by simpa [Table.has] using hnew
    have hput := Table.put_of_has_eq_false hnew v
    rw [merge, Table.putAll, hnone, mergeValue_none]
    refine ih ?_
    rw [hput, List.append_assoc]
    exact h

/-- A configuration without defaults is what it is. -/
theorem merge_empty (h : Table.Distinct primary) : merge primary [] = primary := by
  have hdistinct : Table.Distinct ([] ++ primary) := h
  exact (merge_eq_putAll hdistinct).trans (Table.putAll_eq_append hdistinct)

/-- **A configuration merged into itself is what it is.** -/
theorem merge_self (h : isTidy primary = true) : merge primary primary = primary := by
  have htwice := merge_merge h []
  rwa [merge_empty (distinct_of_isTidy h)] at htwice

/-! ## All of it -/

/-- **What merging gives, at every path.** Two tables can always be merged. A leaf of the result is
one of the primary, or one of the defaults where the way to it is clear in the primary and no table
of the primary is in its place; the keys on every level are those of the defaults with the others
of the primary behind them. So nothing changes if one of the two is empty, if both are the same, or
if the primary is merged in again. -/
theorem merge_by_path (primary defaults : Config) (h : isTidy primary = true) :
    mergeOver (.map primary) (.map defaults) = .ok (.map (merge primary defaults)) ∧
    (∀ path v, HasLeaf (merge primary defaults) path v ↔ HasLeaf primary path v ∨
      (HasLeaf defaults path v ∧ IsClear primary path ∧ ∀ t, ¬ HasTable primary path t)) ∧
    (∀ path, (∃ t, HasTable (merge primary defaults) path t) ↔ (∃ t, HasTable primary path t) ∨
      ((∃ t, HasTable defaults path t) ∧ IsClear primary path)) ∧
    (∀ path t, HasTable (merge primary defaults) path t →
      Table.keys t = keysAt defaults path ++
        (keysAt primary path).filter fun k => !(keysAt defaults path).any (· == k)) ∧
    merge [] defaults = defaults ∧
    merge primary [] = primary ∧
    merge primary primary = primary ∧
    merge primary (merge primary defaults) = merge primary defaults :=
  ⟨rfl, hasLeaf_merge_iff h defaults, exists_hasTable_merge_iff h defaults,
    fun _ _ => keys_of_hasTable_merge h, merge_nil defaults, merge_empty (distinct_of_isTidy h),
    merge_self h, merge_merge h defaults⟩

/-- A configuration with nothing, a table and an empty table in it. -/
def tuned : Config :=
  [("style", .null), ("client", .map [("site", .str "a")]), ("lists", .map [])]

/-- Defaults for it, with a table for one of its tables and a number for the other. -/
def stock : Config :=
  [("client", .map [("retries", .int 3), ("site", .str "b")]), ("style", .str "plain"),
    ("lists", .int 1)]

/-- What comes of the two. -/
def fitted : Config :=
  [("client", .map [("retries", .int 3), ("site", .str "a")]), ("style", .null), ("lists", .map [])]

/-- A default on a lower level is taken over, with the keys there in the order of the defaults. -/
theorem merge_by_path_tuned :
    isTidy tuned = true ∧ merge tuned stock = fitted ∧
    HasLeaf fitted ["client", "retries"] (.int 3) ∧
    (∃ t, HasTable fitted ["client"] t ∧ Table.keys t = [.str "retries", .str "site"]) ∧
    merge tuned fitted = fitted := by
  have htidy : isTidy tuned = true := by decide
  obtain ⟨-, hleaf, htable, hkeys, -, -, -, hagain⟩ := merge_by_path tuned stock htidy
  have hclear : IsClear tuned ["client", "retries"] :=
    (isClear_of_table rfl).2 (isClear_of_none rfl [])
  obtain ⟨t, ht⟩ := (htable ["client"]).2 (.inl ⟨_, rfl⟩)
  exact ⟨htidy, rfl, (hleaf _ _).2 (.inr ⟨⟨rfl, rfl⟩, hclear, nofun⟩), ⟨t, ht, hkeys _ t ht⟩,
    hagain⟩

end Config

end PersistentId
