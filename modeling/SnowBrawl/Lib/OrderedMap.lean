import Mathlib.Data.List.Basic
import Mathlib.Data.List.Nodup
import Mathlib.Data.Fintype.EquivFin

/-!
# Insertion-ordered maps

An ECMAScript `Map` keeps one entry per key and enumerates its entries in the
order the keys were first inserted: `set` on a present key overwrites the value
*in place*, `set` on an absent key appends, and `delete` removes the entry.
Programs observe the order through `values()` and `entries()`, so a model that
forgets it cannot describe, for instance, which of two equally good candidates a
scan over `values()` keeps.

`Map` is that object as a list of entries together with the fact that the keys
are distinct.  The invariant is a field, so no operation can build a map with a
repeated key and no lemma carries it as a hypothesis.

## Main results

* `get?_eq_some_iff` — a lookup succeeds exactly on the entries of the list; it
  is what every other lookup lemma is reduced to.
* `get?_set`, `get?_delete`, `get?_filter` — the lookup algebra of the three
  mutating operations.
* `mem_values_iff` — an enumerated value is the value of some key.
* `ChangesOnly.trans` — frame properties of operations in a row compose.
-/

namespace Js

universe u v

/-- An ECMAScript `Map`: its entries in insertion order, with distinct keys. -/
structure Map (κ : Type u) (ν : Type v) where
  entries : List (κ × ν)
  nodup_keys : (entries.map Prod.fst).Nodup

namespace Map

variable {κ : Type u} {ν : Type v}

/-- `new Map()`. -/
def empty : Map κ ν := ⟨[], List.nodup_nil⟩

/-- The keys, in insertion order. -/
def keys (m : Map κ ν) : List κ := m.entries.map Prod.fst

/-- `Map.prototype.values`, in insertion order. -/
def values (m : Map κ ν) : List ν := m.entries.map Prod.snd

/-- `Map.prototype.size`. -/
def size (m : Map κ ν) : Nat := m.entries.length

variable [DecidableEq κ]

/-- `Map.prototype.get`, with `undefined` as `none`. -/
def get? (m : Map κ ν) (k : κ) : Option ν := m.entries.lookup k

/-- `Map.prototype.has`. -/
def has (m : Map κ ν) (k : κ) : Bool := k ∈ m.keys

theorem nodup_map_update (entries : List (κ × ν)) (k : κ) (x : ν)
    (h : (entries.map Prod.fst).Nodup) :
    ((entries.map fun e => if e.1 = k then (k, x) else e).map Prod.fst).Nodup := by
  have same : (entries.map fun e => if e.1 = k then (k, x) else e).map Prod.fst =
      entries.map Prod.fst := by
    rw [List.map_map]
    apply List.map_congr_left
    intro e _
    by_cases hk : e.1 = k <;> simp [hk]
  rw [same]
  exact h

omit [DecidableEq κ] in
theorem nodup_append_fresh (entries : List (κ × ν)) (k : κ) (x : ν)
    (h : (entries.map Prod.fst).Nodup) (fresh : k ∉ entries.map Prod.fst) :
    ((entries ++ [(k, x)]).map Prod.fst).Nodup := by
  rw [List.map_append, List.nodup_append]
  refine ⟨h, List.nodup_singleton _, ?_⟩
  intro a ha b hb
  simp only [List.map_cons, List.map_nil, List.mem_singleton] at hb
  rintro rfl
  exact fresh (hb ▸ ha)

/-- `Map.prototype.set`: a present key keeps its position and takes the new
value; an absent key is appended. -/
def set (m : Map κ ν) (k : κ) (x : ν) : Map κ ν :=
  if present : k ∈ m.keys then
    ⟨m.entries.map (fun e => if e.1 = k then (k, x) else e),
      nodup_map_update m.entries k x m.nodup_keys⟩
  else
    ⟨m.entries ++ [(k, x)], nodup_append_fresh m.entries k x m.nodup_keys present⟩

/-- `Map.prototype.delete`. -/
def delete (m : Map κ ν) (k : κ) : Map κ ν :=
  ⟨m.entries.filter (fun e => e.1 ≠ k),
    (List.filter_sublist.map Prod.fst).nodup m.nodup_keys⟩

/-- The entries a predicate keeps, in order.  A `for … of map.entries()` loop
that deletes the entry it is visiting computes this: deleting the current entry
does not disturb the iteration over the rest. -/
def filter (p : κ → ν → Bool) (m : Map κ ν) : Map κ ν :=
  ⟨m.entries.filter (fun e => p e.1 e.2),
    (List.filter_sublist.map Prod.fst).nodup m.nodup_keys⟩

/-- `Map.prototype.clear`. -/
def clear (_ : Map κ ν) : Map κ ν := empty

/-! ## Lookup -/

/-- A lookup succeeds exactly on the map's entries; distinct keys make the
first match the only one. -/
theorem get?_eq_some_iff {m : Map κ ν} {k : κ} {x : ν} :
    m.get? k = some x ↔ (k, x) ∈ m.entries := by
  obtain ⟨entries, nodup⟩ := m
  simp only [get?]
  induction entries with
  | nil => simp
  | cons e rest ih =>
      obtain ⟨a, b⟩ := e
      simp only [List.map_cons, List.nodup_cons] at nodup
      rw [List.lookup_cons, List.mem_cons]
      by_cases hk : k = a
      · subst hk
        simp only [beq_self_eq_true, Option.some.injEq, Prod.mk.injEq, true_and]
        constructor
        · rintro rfl
          exact Or.inl rfl
        · rintro (rfl | mem)
          · rfl
          · exact absurd (List.mem_map_of_mem (f := Prod.fst) mem) nodup.1
      · have hne : (k == a) = false := by simpa using hk
        simp only [hne, ih nodup.2, Prod.mk.injEq, hk, false_and, false_or]

/-- A map with an entry is not empty. -/
theorem size_pos_of_get?_eq_some {m : Map κ ν} {k : κ} {x : ν} (h : m.get? k = some x) :
    0 < m.size :=
  List.length_pos_of_mem (get?_eq_some_iff.mp h)

theorem get?_eq_none_iff {m : Map κ ν} {k : κ} : m.get? k = none ↔ k ∉ m.keys := by
  simp only [get?, List.lookup_eq_none_iff, keys, List.mem_map, not_exists, not_and]
  constructor
  · intro h e he hk
    simpa [hk] using h e he
  · intro h e he
    simpa [bne_iff_ne, ne_eq] using fun heq => h e he heq.symm

/-- Over an infinite key type some key is always absent. -/
theorem exists_get?_eq_none [Infinite κ] (m : Map κ ν) : ∃ k, m.get? k = none := by
  obtain ⟨k, hk⟩ := Infinite.exists_notMem_finset m.keys.toFinset
  exact ⟨k, get?_eq_none_iff.mpr (by simpa using hk)⟩

@[simp] theorem get?_empty (k : κ) : (empty : Map κ ν).get? k = none := rfl

omit [DecidableEq κ] in
@[simp] theorem values_empty : (empty : Map κ ν).values = [] := rfl

omit [DecidableEq κ] in
@[simp] theorem size_empty : (empty : Map κ ν).size = 0 := rfl

theorem mem_keys_iff {m : Map κ ν} {k : κ} : k ∈ m.keys ↔ ∃ x, m.get? k = some x := by
  rw [← not_iff_not, ← get?_eq_none_iff]
  simp only [not_exists]
  constructor
  · intro h x hx
    simp [h] at hx
  · intro h
    cases hk : m.get? k with
    | none => rfl
    | some x => exact absurd hk (h x)

theorem has_eq_true_iff {m : Map κ ν} {k : κ} : m.has k = true ↔ ∃ x, m.get? k = some x := by
  simp only [has, decide_eq_true_eq, mem_keys_iff]

/-- An enumerated value is the value stored under some key. -/
theorem mem_values_iff {m : Map κ ν} {x : ν} : x ∈ m.values ↔ ∃ k, m.get? k = some x := by
  simp only [values, List.mem_map, get?_eq_some_iff]
  constructor
  · rintro ⟨⟨k, y⟩, mem, rfl⟩
    exact ⟨k, mem⟩
  · rintro ⟨k, mem⟩
    exact ⟨(k, x), mem, rfl⟩

/-! ## The mutating operations -/

theorem mem_entries_set {m : Map κ ν} {k j : κ} {x y : ν} :
    (j, y) ∈ (m.set k x).entries ↔ (j = k ∧ y = x) ∨ (j ≠ k ∧ (j, y) ∈ m.entries) := by
  unfold set
  split
  · next present =>
      simp only [List.mem_map]
      constructor
      · rintro ⟨⟨a, b⟩, mem, heq⟩
        by_cases hk : a = k
        · simp only [hk, ite_true, Prod.mk.injEq] at heq
          exact Or.inl ⟨heq.1.symm, heq.2.symm⟩
        · simp only [hk, ite_false, Prod.mk.injEq] at heq
          obtain ⟨rfl, rfl⟩ := heq
          exact Or.inr ⟨hk, mem⟩
      · rintro (⟨rfl, rfl⟩ | ⟨hk, mem⟩)
        · obtain ⟨⟨a, b⟩, mem, rfl⟩ := List.mem_map.mp present
          exact ⟨(a, b), mem, by simp⟩
        · exact ⟨(j, y), mem, by simp [hk]⟩
  · next absent =>
      simp only [List.mem_append, List.mem_singleton, Prod.mk.injEq]
      constructor
      · rintro (mem | ⟨rfl, rfl⟩)
        · have hne : j ≠ k := by
            rintro rfl
            exact absurd (List.mem_map_of_mem (f := Prod.fst) mem) absent
          exact Or.inr ⟨hne, mem⟩
        · exact Or.inl ⟨rfl, rfl⟩
      · rintro (⟨rfl, rfl⟩ | ⟨_, mem⟩)
        · exact Or.inr ⟨rfl, rfl⟩
        · exact Or.inl mem

theorem entries_set_of_mem {m : Map κ ν} {k : κ} (h : k ∈ m.keys) (x : ν) :
    (m.set k x).entries = m.entries.map fun e => if e.1 = k then (k, x) else e := by
  rw [set, dif_pos h]

theorem entries_set_of_not_mem {m : Map κ ν} {k : κ} (h : k ∉ m.keys) (x : ν) :
    (m.set k x).entries = m.entries ++ [(k, x)] := by
  rw [set, dif_neg h]

@[simp] theorem get?_set_self (m : Map κ ν) (k : κ) (x : ν) : (m.set k x).get? k = some x := by
  rw [get?_eq_some_iff, mem_entries_set]
  exact Or.inl ⟨rfl, rfl⟩

theorem get?_set_of_ne (m : Map κ ν) {k j : κ} (x : ν) (hne : j ≠ k) :
    (m.set k x).get? j = m.get? j := by
  cases hj : m.get? j with
  | some y => rw [get?_eq_some_iff, mem_entries_set]; exact Or.inr ⟨hne, get?_eq_some_iff.mp hj⟩
  | none =>
      cases hs : (m.set k x).get? j with
      | none => rfl
      | some y =>
          rw [get?_eq_some_iff, mem_entries_set] at hs
          rcases hs with ⟨heq, -⟩ | ⟨-, mem⟩
          · exact absurd heq hne
          · rw [← get?_eq_some_iff, hj] at mem
            cases mem

theorem get?_set (m : Map κ ν) (k j : κ) (x : ν) :
    (m.set k x).get? j = if j = k then some x else m.get? j := by
  split
  · next h => subst h; exact get?_set_self m j x
  · next h => exact get?_set_of_ne m x h

/-- Writing the value a key already has leaves the entries as they are. -/
theorem entries_set_of_get? {m : Map κ ν} {k : κ} {x : ν} (h : m.get? k = some x) :
    (m.set k x).entries = m.entries := by
  rw [entries_set_of_mem (mem_keys_iff.mpr ⟨x, h⟩)]
  conv_rhs => rw [← List.map_id m.entries]
  apply List.map_congr_left
  intro e he
  split
  · next hek =>
      -- the one entry under `k` holds `x`
      have hkey : m.get? k = some e.2 := get?_eq_some_iff.mpr (by rw [← hek]; exact he)
      rw [h, Option.some.injEq] at hkey
      rw [hkey, ← hek]
      rfl
  · rfl

@[simp] theorem get?_delete_self (m : Map κ ν) (k : κ) : (m.delete k).get? k = none := by
  rw [get?_eq_none_iff]
  simp [delete, keys]

theorem get?_delete_of_ne (m : Map κ ν) {k j : κ} (hne : j ≠ k) :
    (m.delete k).get? j = m.get? j := by
  apply Option.ext
  intro y
  simp only [get?_eq_some_iff, delete, List.mem_filter, ne_eq, decide_not,
    Bool.not_eq_eq_eq_not, Bool.not_true, decide_eq_false_iff_not]
  exact ⟨fun h => h.1, fun h => ⟨h, hne⟩⟩

theorem get?_delete (m : Map κ ν) (k j : κ) :
    (m.delete k).get? j = if j = k then none else m.get? j := by
  split
  · next h => subst h; exact get?_delete_self m j
  · next h => exact get?_delete_of_ne m h

theorem has_set_iff (m : Map κ ν) (k j : κ) (x : ν) :
    (m.set k x).has j = true ↔ j = k ∨ m.has j = true := by
  rw [has_eq_true_iff, has_eq_true_iff, get?_set]
  split
  · next h => exact ⟨fun _ => Or.inl h, fun _ => ⟨x, rfl⟩⟩
  · next h => exact ⟨Or.inr, fun hj => hj.resolve_left h⟩

theorem has_delete_iff (m : Map κ ν) (k j : κ) :
    (m.delete k).has j = true ↔ j ≠ k ∧ m.has j = true := by
  rw [has_eq_true_iff, has_eq_true_iff, get?_delete]
  split
  · next h => simp [h]
  · next h => exact ⟨fun hj => ⟨h, hj⟩, fun hj => hj.2⟩

theorem get?_filter (p : κ → ν → Bool) (m : Map κ ν) (k : κ) :
    (m.filter p).get? k = (m.get? k).filter (p k) := by
  apply Option.ext
  intro y
  simp only [get?_eq_some_iff, filter, List.mem_filter, Option.filter_eq_some_iff]

@[simp] theorem get?_clear (m : Map κ ν) (k : κ) : m.clear.get? k = none := rfl

/-- A value enumerated after a `set` is the new value or an old one. -/
theorem mem_values_set {m : Map κ ν} {k : κ} {x y : ν} (h : y ∈ (m.set k x).values) :
    y = x ∨ y ∈ m.values := by
  obtain ⟨j, hj⟩ := mem_values_iff.mp h
  rw [get?_set] at hj
  split at hj
  · exact Or.inl (Option.some.inj hj).symm
  · exact Or.inr (mem_values_iff.mpr ⟨j, hj⟩)

theorem mem_values_delete {m : Map κ ν} {k : κ} {y : ν} (h : y ∈ (m.delete k).values) :
    y ∈ m.values := by
  obtain ⟨j, hj⟩ := mem_values_iff.mp h
  rw [get?_delete] at hj
  split at hj
  · cases hj
  · exact mem_values_iff.mpr ⟨j, hj⟩

theorem mem_values_filter {p : κ → ν → Bool} {m : Map κ ν} {y : ν}
    (h : y ∈ (m.filter p).values) : y ∈ m.values := by
  obtain ⟨j, hj⟩ := mem_values_iff.mp h
  rw [get?_filter, Option.filter_eq_some_iff] at hj
  exact mem_values_iff.mpr ⟨j, hj.1⟩

/-! ## Properties of every entry -/

/-- Every entry satisfies `P`. -/
def All (P : κ → ν → Prop) (m : Map κ ν) : Prop := ∀ k x, m.get? k = some x → P k x

variable {P : κ → ν → Prop} {m : Map κ ν}

theorem all_empty (P : κ → ν → Prop) : (empty : Map κ ν).All P := by
  intro k x hk
  cases hk

theorem All.set (h : m.All P) {k : κ} {x : ν} (hx : P k x) : (m.set k x).All P := by
  intro j y hj
  rw [get?_set] at hj
  split at hj
  · next hjk =>
      subst hjk
      cases hj
      exact hx
  · exact h j y hj

theorem All.delete (h : m.All P) (k : κ) : (m.delete k).All P := by
  intro j y hj
  rw [get?_delete] at hj
  split at hj
  · cases hj
  · exact h j y hj

theorem All.filter (h : m.All P) (p : κ → ν → Bool) : (m.filter p).All P := by
  intro j y hj
  rw [get?_filter, Option.filter_eq_some_iff] at hj
  exact h j y hj.1

/-- An enumerated value is stored under a key it satisfies `P` with. -/
theorem All.of_mem_values (h : m.All P) {x : ν} (hx : x ∈ m.values) :
    ∃ k, m.get? k = some x ∧ P k x := by
  obtain ⟨k, hk⟩ := mem_values_iff.mp hx
  exact ⟨k, hk, h k x hk⟩

/-- Values that each name the key they are stored under name every key once. -/
theorem nodup_map_values {f : ν → κ} (h : m.All fun k x => f x = k) : (m.values.map f).Nodup := by
  have hkeys : m.values.map f = m.keys := by
    simp only [values, keys, List.map_map]
    apply List.map_congr_left
    rintro ⟨k, x⟩ hmem
    exact h k x (get?_eq_some_iff.mpr hmem)
  rw [hkeys]
  exact m.nodup_keys

/-! ## Frames: which entries a change may touch -/

/-- `m'` differs from `m` only where `R` allows: at every key the entry is the
same, or going from `m`'s entry to `m'`'s is a change `R` allows at that key.
A frame property of an operation is this relation between the map before and
after it. -/
def ChangesOnly (R : κ → Option ν → Option ν → Prop) (m m' : Map κ ν) : Prop :=
  ∀ k, m'.get? k = m.get? k ∨ R k (m.get? k) (m'.get? k)

namespace ChangesOnly

variable {R R' : κ → Option ν → Option ν → Prop} {m m' m'' : Map κ ν}

theorem refl (R : κ → Option ν → Option ν → Prop) (m : Map κ ν) : ChangesOnly R m m :=
  fun _ => Or.inl rfl

theorem of_eq (R : κ → Option ν → Option ν → Prop) (h : m' = m) : ChangesOnly R m m' :=
  h ▸ refl R m

theorem mono (sub : ∀ k x y, R k x y → R' k x y) (h : ChangesOnly R m m') :
    ChangesOnly R' m m' :=
  fun k => (h k).imp_right (sub k _ _)

/-- Two changes in a row, when the changes `R` allows compose. -/
theorem trans (hR : ∀ k x y z, R k x y → R k y z → R k x z) (h₁ : ChangesOnly R m m')
    (h₂ : ChangesOnly R m' m'') : ChangesOnly R m m'' := by
  intro k
  rcases h₁ k with same₁ | step₁ <;> rcases h₂ k with same₂ | step₂
  · exact Or.inl (same₂.trans same₁)
  · rw [same₁] at step₂
    exact Or.inr step₂
  · rw [← same₂] at step₁
    exact Or.inr step₁
  · exact Or.inr (hR k _ _ _ step₁ step₂)

theorem set {k : κ} {x : ν} (h : R k (m.get? k) (some x)) : ChangesOnly R m (m.set k x) := by
  intro j
  by_cases hj : j = k
  · subst hj
    rw [get?_set_self]
    exact Or.inr h
  · exact Or.inl (get?_set_of_ne m x hj)

theorem delete {k : κ} (h : R k (m.get? k) none) : ChangesOnly R m (m.delete k) := by
  intro j
  by_cases hj : j = k
  · subst hj
    rw [get?_delete_self]
    exact Or.inr h
  · exact Or.inl (get?_delete_of_ne m hj)

end ChangesOnly

end Map

end Js
