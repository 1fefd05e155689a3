import Mathlib

/-!
# Numbered, time-stamped logs

A log to which entries are only appended, each with the next sequence number
and the current time, while the clock only moves forward.  Such a log is
numbered `1, …, n` without gaps, its time stamps never decrease, and none lies
in the future.  Because the stamps are in order, a loop that drops entries from
the front while the oldest one is stale drops exactly the stale entries, as a
filter over the whole log would.

## Main definitions

* `StampedLog.Stamped seq time l n now` — `l` is numbered `1, …, n`, ordered by
  time, and stamped no later than `now`.

## Main results

* `StampedLog.Stamped.append` — appending the next number at the current time
  keeps the log stamped; `Stamped.later` — so does the clock moving forward.
* `StampedLog.dropWhile_eq_filter` — on a list where a test that holds at an
  entry holds at every earlier one, dropping from the front while the test
  holds is filtering out the entries where it holds.
-/

namespace StampedLog

variable {α : Type*}

/-- `l` is numbered `1, …, n` in order, its stamps never decrease, and none is
after `now`. -/
structure Stamped (seq time : α → ℕ) (l : List α) (n now : ℕ) : Prop where
  numbered : l.map seq = List.range' 1 n
  ordered : l.Pairwise fun x y => time x ≤ time y
  past : ∀ x ∈ l, time x ≤ now

namespace Stamped

variable {seq time : α → ℕ} {l : List α} {n now : ℕ}

theorem nil (now : ℕ) : Stamped seq time [] 0 now :=
  ⟨rfl, List.Pairwise.nil, fun _ hx => absurd hx List.not_mem_nil⟩

/-- Appending an entry with the next number, stamped now. -/
theorem append (h : Stamped seq time l n now) {x : α} (hseq : seq x = n + 1) (htime : time x = now) :
    Stamped seq time (l ++ [x]) (n + 1) now := by
  refine ⟨?_, ?_, ?_⟩
  · rw [List.map_append, h.numbered, List.map_singleton, hseq, List.range'_1_concat, Nat.add_comm]
  · -- every earlier stamp is at most now, which is the new entry's stamp
    refine List.pairwise_append.mpr ⟨h.ordered, List.pairwise_singleton _ _, ?_⟩
    intro y hy z hz
    rw [List.mem_singleton.mp hz, htime]
    exact h.past y hy
  · intro y hy
    rcases List.mem_append.mp hy with hy | hy
    · exact h.past y hy
    · rw [List.mem_singleton.mp hy, htime]

/-- The clock moving forward. -/
theorem later (h : Stamped seq time l n now) {now' : ℕ} (hle : now ≤ now') :
    Stamped seq time l n now' :=
  ⟨h.numbered, h.ordered, fun x hx => (h.past x hx).trans hle⟩

end Stamped

/-- Dropping entries from the front while `p` holds drops exactly the entries
where `p` holds, when `p` holding at an entry makes it hold at every entry
`r`-before it. -/
theorem dropWhile_eq_filter {r : α → α → Prop} {p : α → Bool} (hp : ∀ x y, r x y → p y → p x) :
    ∀ {l : List α}, l.Pairwise r → l.dropWhile p = l.filter fun x => !p x
  | [], _ => rfl
  | x :: rest, hl => by
      obtain ⟨hx, hrest⟩ := List.pairwise_cons.mp hl
      by_cases hpx : p x = true
      · rw [List.dropWhile_cons_of_pos hpx, List.filter_cons_of_neg (by simp [hpx]),
          dropWhile_eq_filter hp hrest]
      · -- `x` stays, and so does everything after it, where `p` fails too
        have hkeep : ∀ y ∈ rest, (!p y) = true := fun y hy => by
          simpa using fun hpy => hpx (hp x y (hx y hy) hpy)
        rw [List.dropWhile_cons_of_neg hpx, List.filter_cons_of_pos (by simpa using hpx),
          List.filter_eq_self.mpr hkeep]

end StampedLog
