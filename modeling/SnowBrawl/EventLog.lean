import SnowBrawl.Segments
import SnowBrawl.Lives
import SnowBrawl.Lib.StampedLog

/-!
# The event log

`appendEventInMem` stamps each event with `++latestSeq` and `Date.now()` and
pushes it onto `events`; nothing else writes the log, and the clock only moves
forward.  So in every reachable state the log is numbered `1, …, latestSeq`
without gaps, its time stamps never decrease, and none is in the future
(`LogOk`).  The model keeps the whole log; the source also calls
`pruneEvents(now)` on each append, which shifts events off the front while the
oldest is older than `TTL.EVENT_MS`.  What the source keeps is therefore a
suffix of the model's log, and since the log is in time order, on every such
suffix the loop drops exactly the stale events.

## Main definitions

* `pruneEvents` — `pruneEvents(now)` of `state.ts`.
* `LogOk` — the log is numbered and stamped in order (`StampedLog.Stamped`).

## Main results

* `LogOk.of_reachable` — the invariant, from every reachable state.
* `event_log_in_order` — the log is numbered and stamped in order, and
  `pruneEvents` on any suffix of it drops exactly the events outside the window.
-/

namespace SnowBrawl

open Js StampedLog

/-! ## Pruning -/

/-- `TTL.EVENT_MS`. -/
def ttlEventMs : ℕ := 2 * 60000

/-- `pruneEvents(now)`: shift the oldest event off while it is older than the
window of `TTL.EVENT_MS`. -/
def pruneEvents (now : ℕ) : List WorldEvent → List WorldEvent
  | [] => []
  | e :: rest => if (e.time : ℤ) < (now : ℤ) - ttlEventMs then pruneEvents now rest else e :: rest

/-- The event is older than the window at `now`. -/
def Stale (now : ℕ) (e : WorldEvent) : Bool := decide ((e.time : ℤ) < (now : ℤ) - ttlEventMs)

theorem pruneEvents_eq_dropWhile (now : ℕ) (l : List WorldEvent) :
    pruneEvents now l = l.dropWhile (Stale now) := by
  induction l with
  | nil => rfl
  | cons e rest ih =>
      by_cases he : Stale now e = true
      · rw [List.dropWhile_cons_of_pos he, pruneEvents, if_pos (decide_eq_true_iff.mp he), ih]
      · rw [List.dropWhile_cons_of_neg he, pruneEvents, if_neg (by simpa [Stale] using he)]

/-- On a log in time order, the loop drops exactly the stale events. -/
theorem pruneEvents_of_ordered {l : List WorldEvent} (hl : l.Pairwise fun e e' => e.time ≤ e'.time)
    (now : ℕ) : pruneEvents now l = l.filter fun e => !Stale now e := by
  rw [pruneEvents_eq_dropWhile]
  refine dropWhile_eq_filter (fun e e' hle hstale => ?_) hl
  -- an event before a stale one is no younger, so stale too
  simp only [Stale, decide_eq_true_eq] at hstale ⊢
  exact lt_of_le_of_lt (Int.ofNat_le.mpr hle) hstale

/-! ## The invariant -/

/-- The log is numbered `1, …, latestSeq`, in time order, and stamped no later
than now. -/
def LogOk (w : World) : Prop := Stamped WorldEvent.seq WorldEvent.time w.events w.latestSeq w.now

namespace LogOk

variable {w w' : World}

theorem of_eq (h : LogOk w) (hevents : w'.events = w.events) (hseq : w'.latestSeq = w.latestSeq)
    (hnow : w'.now = w.now) : LogOk w' := by
  unfold LogOk
  rw [hevents, hseq, hnow]
  exact h

theorem appendEventInMem (h : LogOk w) (body : EventBody) :
    LogOk (SnowBrawl.appendEventInMem body w) :=
  Stamped.append h rfl rfl

/-- Of the kinds of write, only an event touches the log, and it appends. -/
theorem of_write (h : LogOk w) (hw : Write w w') : LogOk w' := by
  cases hw with
  | event body _ => exact h.appendEventInMem body
  | conn k f _ => exact h.of_eq (updateConn_events k f w) (updateConn_latestSeq k f w) (updateConn_now k f w)
  | setCache | updateCache | bots | seenShots | kills | clientObj | enqueue => exact h.of_eq rfl rfl rfl

theorem of_writes (h : LogOk w) (hw : Writes w w') : LogOk w' :=
  Writes.lift (R := fun w w' => LogOk w → LogOk w') (fun _ => id) (fun h₁ h₂ => h₂ ∘ h₁)
    (fun hw h => h.of_write hw) hw h

theorem registerClient (h : LogOk w) (k now : ℕ) (snap : PlayerSnapshot) :
    LogOk (SnowBrawl.registerClient k now snap w) :=
  (h.of_eq (updateConn_events ..) (updateConn_latestSeq ..) (updateConn_now ..)).appendEventInMem _

theorem onClose (h : LogOk w) (k : ℕ) : LogOk (SnowBrawl.onClose k w).1 := by
  have hconn : LogOk
      (updateConn k (fun conn => { conn with accepting := false, closed := true }) w) :=
    h.of_eq (updateConn_events ..) (updateConn_latestSeq ..) (updateConn_now ..)
  unfold SnowBrawl.onClose
  split
  · exact hconn
  · exact (hconn.of_eq rfl rfl rfl).appendEventInMem _

theorem resumeMessage (h : LogOk w) (k : ℕ) (d : Draw) (stage : MessageStage) :
    LogOk (SnowBrawl.resumeMessage k w d stage).1 := by
  cases stage with
  | decoding msg => exact h.of_writes (onMessage_writes k msg)
  | hello now snap => exact h.registerClient k now snap
  | joined => exact h.of_eq rfl rfl rfl
  | respawned pending => exact h.of_eq rfl rfl rfl
  | shooting clientId stage => exact h.of_writes (resumeShot_writes clientId stage)
  | broadcasting => exact h

theorem resumeTask (h : LogOk w) (t : Task) (d : Draw) : LogOk (SnowBrawl.resumeTask t w d).1 := by
  cases t with
  | message k stage => exact h.resumeMessage k d stage
  | closing _ => exact h
  | bots now id rest stage => exact h.of_writes (resumeBots_writes now id rest stage)

theorem init (worldSeed now : ℕ) (rs : Stream' ℝ) : LogOk (initSys worldSeed now rs).world := by
  have hempty : LogOk (emptyWorld worldSeed now) := Stamped.nil now
  exact hempty.of_writes (initBotsFrom_writes rs 0 botCount _)

/-- **Every transition keeps `LogOk`.**  Time passing only moves the bound on the
stamps. -/
theorem step {s s' : Sys} (h : LogOk s.world) (hstep : Step s s') : LogOk s'.world := by
  cases hstep with
  | connect s k fresh => exact h.of_eq rfl rfl rfl
  | arrive => exact h
  | close s k c _ _ => exact h.onClose k
  | resume w pre post t d _ => exact h.resumeTask t d
  | botTimer s d _ => exact h.of_writes (scanBots_writes s.world.now s.world.bots.keys s.world d)
  | cleanup s => exact h.of_eq rfl rfl rfl
  | purge s => exact h.of_eq rfl rfl rfl
  | stateTick s =>
      unfold SnowBrawl.stateTick
      split_ifs
      · exact h
      · exact h
      · exact h.of_eq rfl rfl rfl
  | snapshotTick s =>
      unfold SnowBrawl.snapshotTick
      split_ifs
      · exact h
      · exact h.of_eq rfl rfl rfl
  | tick s dt => exact Stamped.later h (Nat.le_add_right _ dt)

theorem of_reachable {s : Sys} (hs : Reachable s) : LogOk s.world := by
  induction hs with
  | init worldSeed now rs _ => exact init worldSeed now rs
  | step _ hstep ih => exact ih.step hstep

end LogOk

/-- **The event log is in order.**  In every reachable state the events are
numbered `1, …, latestSeq` without gaps, their time stamps never decrease and
none is after now; and on every suffix of the log, which is what the source
keeps after earlier prunes, `pruneEvents` drops exactly the events older than
the window. -/
theorem event_log_in_order {s : Sys} (hs : Reachable s) :
    s.world.events.map WorldEvent.seq = List.range' 1 s.world.latestSeq ∧
      s.world.events.Pairwise (fun e e' => e.time ≤ e'.time) ∧
      (∀ e ∈ s.world.events, e.time ≤ s.world.now) ∧
      ∀ kept dropped : List WorldEvent, s.world.events = dropped ++ kept → ∀ now : ℕ,
        pruneEvents now kept = kept.filter fun e => !decide ((e.time : ℤ) < (now : ℤ) - ttlEventMs) := by
  have h := LogOk.of_reachable hs
  refine ⟨h.numbered, h.ordered, h.past, fun kept dropped hlog now => ?_⟩
  have hkept : kept.Pairwise fun e e' => e.time ≤ e'.time :=
    h.ordered.sublist (hlog ▸ List.sublist_append_right dropped kept)
  exact pruneEvents_of_ordered hkept now

/-- Two players duel for nine rounds: the log holds at least the nine hits, ten
seconds apart, and is in order. -/
theorem event_log_in_order_after_rounds :
    ∃ s, Reachable s ∧ 9 ≤ s.world.events.length ∧
      s.world.events.map WorldEvent.seq = List.range' 1 s.world.latestSeq ∧
      s.world.events.Pairwise (fun e e' => e.time ≤ e'.time) ∧
      (∀ e ∈ s.world.events, e.time ≤ s.world.now) ∧
      ∀ kept dropped : List WorldEvent, s.world.events = dropped ++ kept → ∀ now : ℕ,
        pruneEvents now kept = kept.filter fun e => !decide ((e.time : ℤ) < (now : ℤ) - ttlEventMs) := by
  obtain ⟨w, a, b, hs, hduel, hhp, hdead, hmarks, -⟩ := duel_start
  obtain ⟨w', -, hs', -, -, -, -, -, hmarks', -⟩ := Duel.rounds 9 hs hduel (by rw [hhp]; norm_num) hdead
  -- each hit of the victim is an event of the log
  have hlen : 9 ≤ w'.events.length := by
    have hhits : (lifeMarks b.id w'.events).length = 9 := by
      rw [hmarks', hmarks, List.nil_append, List.length_replicate]
    rw [← hhits]
    exact List.length_filterMap_le _ _
  exact ⟨_, hs', hlen, event_log_in_order hs'⟩

end SnowBrawl
