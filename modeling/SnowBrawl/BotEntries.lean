import SnowBrawl.Runs
import SnowBrawl.Cache

/-!
# The bots' cache entries

The bots are entries of `playersCache` like the players, but they are not in
`clients`, and `updateBots` visits a bot only while its entry is there.

The idle cleanup deletes every entry outside `clients` whose `updatedAt` is
older than `CLEANUP_IDLE_MS`.  Only a visit of `updateBots` refreshes a bot's
`updatedAt`, so when the 50 ms timer is held up for longer than that while the
cleanup timer fires, every bot is deleted (`idle_cleanup_drops_bots`), and
`updateBots` skips a bot without an entry from then on.

## Main results

* `idle_cleanup_drops_bots` — from the start, any delay of more than
  `CLEANUP_IDLE_MS` followed by the cleanup leaves no bot in the cache.
-/

namespace SnowBrawl

open Js

/-! ## The state `initBots` leaves -/

section Start

variable (rs : Stream' ℝ) (i n : ℕ) (w : World)

@[simp] theorem initBotsFrom_now : (initBotsFrom rs i n w).now = w.now := by
  induction n generalizing rs i w with
  | zero => rfl
  | succ n ih => exact ih _ _ _

@[simp] theorem initBotsFrom_clients : (initBotsFrom rs i n w).clients = w.clients := by
  induction n generalizing rs i w with
  | zero => rfl
  | succ n ih => exact ih _ _ _

/-- Every entry `initBots` writes is stamped with the start time. -/
theorem initBotsFrom_updatedAt (h : ∀ e ∈ w.playersCache.values, e.updatedAt = w.now) :
    ∀ e ∈ (initBotsFrom rs i n w).playersCache.values, e.updatedAt = w.now := by
  induction n generalizing rs i w with
  | zero => exact h
  | succ n ih =>
      refine ih _ _ _ fun e he => ?_
      -- the new entry has `updatedAt := w.now`, the others were there before
      rcases Map.mem_values_set he with rfl | he
      · rfl
      · exact h e he

end Start

/-! ## The idle cleanup -/

/-- The cleanup deletes every entry of a client no longer in `clients` that is
older than `CLEANUP_IDLE_MS`. -/
theorem cleanupIdle_get?_of_idle {w : World} {k : JsString} (hk : w.clients.has k = false)
    {e : PlayerSnapshot} (he : w.playersCache.get? k = some e)
    (hidle : (w.now : ℤ) - e.updatedAt > cleanupIdleMs) :
    (cleanupIdle w).playersCache.get? k = none := by
  simp only [cleanupIdle, Map.get?_filter, he, Option.filter, hk, Bool.false_or, hidle,
    decide_true, Bool.not_true, Bool.false_eq_true, if_false]

/-- **A late bot timer loses every bot.**  Whatever the seed and the draws of
`initBots`, if the clock advances by more than `CLEANUP_IDLE_MS` before
`updateBots` first runs and the cleanup timer fires, the state reached has no
entry for any of `bot-0` … `bot-4`. -/
theorem idle_cleanup_drops_bots (worldSeed now : ℕ) (rs : Stream' ℝ)
    (hrs : ∀ n, 0 ≤ rs n ∧ rs n < 1) {dt : ℕ} (hdt : cleanupIdleMs < dt) :
    Reachable ⟨cleanupIdle { initBots worldSeed now rs with now := now + dt }, []⟩ ∧
      ∀ i < botCount,
        (cleanupIdle { initBots worldSeed now rs with now := now + dt }).playersCache.get?
          (botId i) = none := by
  have hnow : (initBots worldSeed now rs).now = now := initBotsFrom_now _ _ _ _
  have hreach := (Reachable.init worldSeed now rs hrs).tick dt
  simp only [hnow] at hreach
  refine ⟨hreach.cleanup, fun i _ => ?_⟩
  cases he : (initBots worldSeed now rs).playersCache.get? (botId i) with
  | none =>
      simp only [cleanupIdle, Map.get?_filter]
      rw [show ({ initBots worldSeed now rs with now := now + dt } : World).playersCache =
        (initBots worldSeed now rs).playersCache from rfl, he]
      rfl
  | some e =>
      -- the entry was stamped at the start, and nobody is connected
      have hstamp : e.updatedAt = now :=
        initBotsFrom_updatedAt rs 0 botCount (emptyWorld worldSeed now) (by simp [emptyWorld]) e
          (Map.mem_values_iff.mpr ⟨_, he⟩)
      have hclients : (initBots worldSeed now rs).clients.has (botId i) = false := by
        rw [show (initBots worldSeed now rs).clients = Map.empty from
          initBotsFrom_clients _ _ _ _]
        rfl
      let w' : World := { initBots worldSeed now rs with now := now + dt }
      have he' : w'.playersCache.get? (botId i) = some e := he
      have hclients' : w'.clients.has (botId i) = false := hclients
      refine cleanupIdle_get?_of_idle hclients' he' ?_
      show ((now + dt : ℕ) : ℤ) - e.updatedAt > cleanupIdleMs
      rw [hstamp]
      push_cast
      omega

theorem idle_cleanup_drops_bots_at_zero :
    (∀ n : ℕ, 0 ≤ (fun _ => (0 : ℝ)) n ∧ (fun _ => (0 : ℝ)) n < 1) ∧ cleanupIdleMs < 5001 ∧
      Reachable ⟨cleanupIdle { initBots 0 0 (fun _ => 0) with now := 0 + 5001 }, []⟩ ∧
      ∀ i < botCount,
        (cleanupIdle { initBots 0 0 (fun _ => 0) with now := 0 + 5001 }).playersCache.get?
          (botId i) = none :=
  ⟨fun _ => ⟨le_refl 0, zero_lt_one⟩, by decide,
    idle_cleanup_drops_bots 0 0 (fun _ => 0) (fun _ => ⟨le_refl 0, zero_lt_one⟩) (by decide)⟩

end SnowBrawl
