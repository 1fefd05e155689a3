import Mathlib

/-!
# Scanning for the first element of smallest key

A left fold over a list that keeps the element of strictly smallest key seen so
far, passing over the elements that have no key.  Because the comparison is
strict, the element kept is the *first* one of smallest key.

## Main results

* `Earliest.scan_eq_none_iff` — the scan finds nothing exactly when no element
  has a key.
* `Earliest.scan_eq_some_iff` — what the scan finds is the first element of
  smallest key, in the sense of `IsFirstMin`, which is unique
  (`IsFirstMin.unique`).
-/

namespace Earliest

variable {α β : Type*} [LinearOrder β] (key : α → Option β)

/-- One step of the scan: take `a` when it has a key strictly below the one
kept so far. -/
def step (best : Option (α × β)) (a : α) : Option (α × β) :=
  match key a with
  | some t => if best.all (fun b => t < b.2) then some (a, t) else best
  | none => best

/-- The scan of a whole list. -/
def scan (l : List α) : Option (α × β) := l.foldl (step key) none

/-- `a`, of key `t`, is the first element of `l` of smallest key: the keyed
elements before it have larger keys, and those after it keys no smaller. -/
def IsFirstMin (l : List α) (a : α) (t : β) : Prop :=
  ∃ before after, l = before ++ a :: after ∧ key a = some t ∧
    (∀ b ∈ before, ∀ u, key b = some u → t < u) ∧ ∀ b ∈ after, ∀ u, key b = some u → t ≤ u

variable {key}

namespace IsFirstMin

theorem mem {l : List α} {a : α} {t : β} (h : IsFirstMin key l a t) : a ∈ l := by
  obtain ⟨before, after, rfl, -⟩ := h
  simp

theorem key_eq {l : List α} {a : α} {t : β} (h : IsFirstMin key l a t) : key a = some t := by
  obtain ⟨-, -, -, ha, -⟩ := h
  exact ha

/-- No element of the list has a smaller key. -/
theorem le {l : List α} {a : α} {t : β} (h : IsFirstMin key l a t) {b : α} (hb : b ∈ l)
    {u : β} (hu : key b = some u) : t ≤ u := by
  obtain ⟨before, after, rfl, ha, hbefore, hafter⟩ := h
  rcases List.mem_append.mp hb with hb | hb
  · exact (hbefore b hb u hu).le
  · rcases List.mem_cons.mp hb with rfl | hb
    · rw [ha, Option.some.injEq] at hu
      exact hu.le
    · exact hafter b hb u hu

/-- An element appended after the first minimum does not displace it unless its
key is strictly smaller. -/
theorem append_of_not_lt {l : List α} {a x : α} {t : β} (h : IsFirstMin key l a t)
    (hx : ∀ u, key x = some u → t ≤ u) : IsFirstMin key (l ++ [x]) a t := by
  obtain ⟨before, after, rfl, ha, hbefore, hafter⟩ := h
  refine ⟨before, after ++ [x], by simp, ha, hbefore, fun b hb u hu => ?_⟩
  rcases List.mem_append.mp hb with hb | hb
  · exact hafter b hb u hu
  · rw [List.mem_singleton.mp hb] at hu
    exact hx u hu

/-- An element appended with a key below every key of the list is the new first
minimum. -/
theorem append_of_lt {l : List α} {x : α} {u : β} (hx : key x = some u)
    (hlt : ∀ b ∈ l, ∀ v, key b = some v → u < v) : IsFirstMin key (l ++ [x]) x u :=
  ⟨l, [], rfl, hx, hlt, by simp⟩

/-- The first minimum of a list is unique. -/
theorem unique {l : List α} {a b : α} {t u : β} (ha : IsFirstMin key l a t)
    (hb : IsFirstMin key l b u) : a = b ∧ t = u := by
  have htu : t = u := le_antisymm (ha.le hb.mem hb.key_eq) (hb.le ha.mem ha.key_eq)
  subst htu
  refine ⟨?_, rfl⟩
  obtain ⟨before₁, after₁, hl₁, hka, hbefore₁, -⟩ := ha
  obtain ⟨before₂, after₂, hl₂, hkb, hbefore₂, -⟩ := hb
  -- neither element stands before the other's position
  have ha₂ : a ∉ before₂ := fun hmem => lt_irrefl t (hbefore₂ a hmem t hka)
  have hb₁ : b ∉ before₁ := fun hmem => lt_irrefl t (hbefore₁ b hmem t hkb)
  rcases List.append_eq_append_iff.mp (hl₁.symm.trans hl₂) with ⟨c, hc₂, hc⟩ | ⟨c, hc₁, hc⟩
  · cases c with
    | nil => exact (List.cons.inj (by simpa using hc)).1
    | cons x c =>
        rw [List.cons_append, List.cons.injEq] at hc
        exact absurd (hc₂ ▸ List.mem_append_right _ (hc.1 ▸ List.mem_cons_self)) ha₂
  · cases c with
    | nil => exact (List.cons.inj (by simpa using hc.symm)).1
    | cons x c =>
        rw [List.cons_append, List.cons.injEq] at hc
        exact absurd (hc₁ ▸ List.mem_append_right _ (hc.1 ▸ List.mem_cons_self)) hb₁

end IsFirstMin

/-- What the scan has kept after a prefix `pre` of the list: nothing when no
element of `pre` has a key, and its first minimum otherwise. -/
def Kept (key : α → Option β) (pre : List α) : Option (α × β) → Prop
  | none => ∀ a ∈ pre, key a = none
  | some (a, t) => IsFirstMin key pre a t

/-- One step keeps `Kept`. -/
theorem Kept.step {pre : List α} {best : Option (α × β)} (h : Kept key pre best) (x : α) :
    Kept key (pre ++ [x]) (Earliest.step key best x) := by
  unfold Earliest.step
  cases best with
  | none =>
      -- nothing kept yet: `x` is taken as soon as it has a key
      cases hx : key x with
      | none =>
          intro a ha
          rcases List.mem_append.mp ha with ha | ha
          · exact h a ha
          · rw [List.mem_singleton.mp ha, hx]
      | some u =>
          refine IsFirstMin.append_of_lt hx fun b hb v hv => ?_
          rw [h b hb] at hv
          cases hv
  | some kept =>
      obtain ⟨a, t⟩ := kept
      cases hx : key x with
      | none => exact IsFirstMin.append_of_not_lt h (by simp [hx])
      | some u =>
          by_cases hlt : u < t
          · simp only [Option.all_some, decide_eq_true_eq, hlt, if_true]
            exact IsFirstMin.append_of_lt hx fun b hb v hv => lt_of_lt_of_le hlt (h.le hb hv)
          · simp only [Option.all_some, decide_eq_true_eq, hlt, if_false]
            refine IsFirstMin.append_of_not_lt h fun v hv => ?_
            rw [hx, Option.some.injEq] at hv
            exact hv ▸ not_lt.mp hlt

/-- A whole fold keeps `Kept`. -/
theorem Kept.foldl {pre : List α} {best : Option (α × β)} (h : Kept key pre best)
    (l : List α) : Kept key (pre ++ l) (l.foldl (Earliest.step key) best) := by
  -- induction on the rest of the list; the prefix grows by one element a step
  induction l generalizing pre best with
  | nil => simpa using h
  | cons x l ih =>
      rw [List.foldl_cons, show pre ++ x :: l = (pre ++ [x]) ++ l by simp]
      exact ih (h.step x)

theorem kept_scan (key : α → Option β) (l : List α) : Kept key l (scan key l) := by
  have h := (show Kept key [] none from fun _ ha => absurd ha List.not_mem_nil).foldl l
  rwa [List.nil_append] at h

theorem scan_eq_none_iff {l : List α} : scan key l = none ↔ ∀ a ∈ l, key a = none := by
  constructor
  · intro h
    simpa [Kept, h] using kept_scan key l
  · intro h
    have hkept := kept_scan key l
    cases hs : scan key l with
    | none => rfl
    | some best =>
        obtain ⟨a, t⟩ := best
        rw [hs] at hkept
        have ha := h a hkept.mem
        rw [hkept.key_eq] at ha
        cases ha

theorem isFirstMin_of_scan_eq_some {l : List α} {a : α} {t : β} (h : scan key l = some (a, t)) :
    IsFirstMin key l a t := by
  have hkept := kept_scan key l
  rw [h] at hkept
  exact hkept

/-- Nothing after an element of least key displaces it. -/
theorem foldl_step_of_le {a : α} {t : β} {l : List α}
    (h : ∀ b ∈ l, ∀ u, key b = some u → t ≤ u) :
    l.foldl (step key) (some (a, t)) = some (a, t) := by
  induction l with
  | nil => rfl
  | cons b l ih =>
      have hb : step key (some (a, t)) b = some (a, t) := by
        unfold step
        cases hkb : key b with
        | none => rfl
        | some u => simp [not_lt.mpr (h b List.mem_cons_self u hkb)]
      rw [List.foldl_cons, hb]
      exact ih fun c hc => h c (List.mem_cons_of_mem b hc)

/-- A first element whose key is no larger than any other is what the scan finds. -/
theorem scan_cons_of_le {a : α} {t : β} (ha : key a = some t) {l : List α}
    (h : ∀ b ∈ l, ∀ u, key b = some u → t ≤ u) : scan key (a :: l) = some (a, t) := by
  have hstep : step key none a = some (a, t) := by simp [step, ha]
  rw [scan, List.foldl_cons, hstep]
  exact foldl_step_of_le h

/-- The scan finds an element exactly when it is the first minimum. -/
theorem scan_eq_some_iff {l : List α} {a : α} {t : β} :
    scan key l = some (a, t) ↔ IsFirstMin key l a t := by
  refine ⟨isFirstMin_of_scan_eq_some, fun h => ?_⟩
  cases hs : scan key l with
  | none =>
      have hnone := scan_eq_none_iff.mp hs a h.mem
      rw [h.key_eq] at hnone
      cases hnone
  | some best =>
      obtain ⟨b, u⟩ := best
      obtain ⟨rfl, rfl⟩ := (isFirstMin_of_scan_eq_some hs).unique h
      rfl

end Earliest
