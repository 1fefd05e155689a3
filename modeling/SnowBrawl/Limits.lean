import SnowBrawl.Game
import SnowBrawl.Lib.Json

/-!
# Call sequences: the rate limit and the shot dedup

Two small tables of the server protect it, one from floods and one from resent
shots.  What each guarantees is a property of a whole sequence of calls, so
this module runs them over lists of calls with their clock readings.

## The rate limit

`rateLimitOk` counts the frames of a connection in a fixed window: a call more
than `RATE.windowMs` after the window's start opens a new window, and a call is
let through while its window has seen at most `RATE.maxMsgs` calls.  A closed
interval of length `windowMs` can straddle two windows but not three: a window
opened inside the interval lasts past its end (`admittedIn_le_of_opened`).  So
the interval lets through at most `2 * maxMsgs` calls (`rateLimit_window_le`),
whatever the state of the record when the sequence begins.

## The shot dedup

`seenShotBefore` remembers each shot id with an expiry `SHOT_DEDUP_MS` ahead
and writes only when it lets a call through; a timer purges the expired
entries.  A call that gets past writes an entry that keeps its id out until the
expiry, and a purge removes only entries that no later call would see as live.
So the calls of one shot id that get past are `SHOT_DEDUP_MS` apart
(`passed_shots_spaced`), and the purge changes nothing that a call can observe
(`shotRun_without_purges`).

## Design notes

* The clock is non-decreasing: the times of a sequence are `Pairwise (· ≤ ·)`.
  Both results need it; out of order, a purge at a late time removes an entry a
  call at an earlier time would have seen.
* `shotRun` runs the model's own `serverHandleSnowball` and `purgeSeenShots`
  on the world.  Which calls get past is read off by `passedShot`, the part of
  the handler before its lookup of the shooter.  Two lemmas tie it to the
  handler: a call that gets past writes its expiry
  (`serverHandleSnowball_seenShots`), and one that does not returns at once,
  with no `snowball` event and no hit search after it
  (`serverHandleSnowball_of_not_passed`).
-/

namespace SnowBrawl

open Js

/-! ## The rate limit -/

/-- The verdicts of `rateLimitOk` on one `WSClient` over calls at `times`, each
with the time of its call. -/
def rateLimitRun : WSClient → List ℕ → List (ℕ × Bool)
  | _, [] => []
  | c, now :: rest => (now, (rateLimitOk c now).1) :: rateLimitRun (rateLimitOk c now).2 rest

/-- The calls of a run let through at a time in `[a, a + RATE.windowMs]`. -/
noncomputable def admittedIn (a : ℝ) (run : List (ℕ × Bool)) : ℕ :=
  run.countP fun r => r.2 ∧ a ≤ r.1 ∧ (r.1 : ℝ) ≤ a + rateWindowMs

/-- A call within the window counts in it. -/
theorem rateLimitOk_of_within {c : WSClient} {now : ℕ}
    (h : (now : ℤ) - c.bucketStart ≤ rateWindowMs) :
    rateLimitOk c now =
      (decide (c.bucketCount + 1 ≤ rateMaxMsgs), { c with bucketCount := c.bucketCount + 1 }) := by
  simp [rateLimitOk, not_lt.mpr h]

/-- A call past the window opens a new one, and is let through as its first. -/
theorem rateLimitOk_of_past {c : WSClient} {now : ℕ}
    (h : (now : ℤ) - c.bucketStart > rateWindowMs) :
    rateLimitOk c now = (true, { c with bucketStart := now, bucketCount := 1 }) := by
  simp [rateLimitOk, h, rateMaxMsgs]

theorem admittedIn_cons (a : ℝ) (now : ℕ) (ok : Bool) (run : List (ℕ × Bool)) :
    admittedIn a ((now, ok) :: run) =
      admittedIn a run + if ok ∧ a ≤ now ∧ (now : ℝ) ≤ a + rateWindowMs then 1 else 0 := by
  simp only [admittedIn, List.countP_cons, decide_eq_true_eq]

/-- Calls after the interval are not in it. -/
theorem admittedIn_of_after {a : ℝ} (c : WSClient) {times : List ℕ}
    (h : ∀ t ∈ times, a + rateWindowMs < t) : admittedIn a (rateLimitRun c times) = 0 := by
  induction times generalizing c with
  | nil => rfl
  | cons now rest ih =>
      have hnow : ¬ (now : ℝ) ≤ a + rateWindowMs := not_le.mpr (h now List.mem_cons_self)
      rw [rateLimitRun, admittedIn_cons, ih _ fun t ht => h t (List.mem_cons_of_mem now ht),
        if_neg (by tauto)]

/-- **A window opened in the interval lasts to its end.**  Once a window starts
at or after `a`, no call up to `a + windowMs` opens another, so the interval
gets at most what is left of that window's budget. -/
theorem admittedIn_le_of_opened {a : ℝ} {c : WSClient} (hstart : a ≤ c.bucketStart)
    {times : List ℕ} (hsorted : times.Pairwise (· ≤ ·)) :
    admittedIn a (rateLimitRun c times) ≤ rateMaxMsgs - c.bucketCount := by
  induction times generalizing c with
  | nil => exact Nat.zero_le _
  | cons now rest ih =>
      obtain ⟨hle, hrest⟩ := List.pairwise_cons.mp hsorted
      by_cases hnow : (now : ℝ) ≤ a + rateWindowMs
      · -- the call is within the window the interval opened
        have hwithin : (now : ℤ) - c.bucketStart ≤ rateWindowMs := by
          have : (now : ℝ) - c.bucketStart ≤ rateWindowMs := by linarith
          exact_mod_cast this
        have hih := ih (c := { c with bucketCount := c.bucketCount + 1 }) hstart hrest
        rw [rateLimitRun, rateLimitOk_of_within hwithin, admittedIn_cons]
        dsimp only at hih ⊢
        split_ifs with hin
        · have : c.bucketCount + 1 ≤ rateMaxMsgs := by simpa using hin.1
          omega
        · omega
      · -- the interval is over: nothing from here on is in it
        have hafter : ∀ t ∈ now :: rest, a + rateWindowMs < t := by
          intro t ht
          rcases List.mem_cons.mp ht with rfl | ht
          · exact not_le.mp hnow
          · exact lt_of_lt_of_le (not_le.mp hnow) (by exact_mod_cast hle t ht)
        rw [admittedIn_of_after c hafter]
        exact Nat.zero_le _

/-- Calls from `a` on get the rest of the window they start in, and at most one
more window. -/
theorem admittedIn_le_of_from {a : ℝ} (c : WSClient) {times : List ℕ}
    (hfrom : ∀ t ∈ times, a ≤ t) (hsorted : times.Pairwise (· ≤ ·)) :
    admittedIn a (rateLimitRun c times) ≤ (rateMaxMsgs - c.bucketCount) + rateMaxMsgs := by
  induction times generalizing c with
  | nil => exact Nat.zero_le _
  | cons now rest ih =>
      obtain ⟨hle, hrest⟩ := List.pairwise_cons.mp hsorted
      have hnow : a ≤ now := hfrom now List.mem_cons_self
      by_cases hpast : (now : ℤ) - c.bucketStart > rateWindowMs
      · -- a new window opens inside the interval, with this call its first
        have hopened := admittedIn_le_of_opened
          (c := { c with bucketStart := now, bucketCount := 1 }) hnow hrest
        have hmax : 1 ≤ rateMaxMsgs := by decide
        rw [rateLimitRun, rateLimitOk_of_past hpast, admittedIn_cons]
        dsimp only at hopened ⊢
        split_ifs <;> omega
      · have hih := ih { c with bucketCount := c.bucketCount + 1 }
          (fun t ht => hfrom t (List.mem_cons_of_mem now ht)) hrest
        rw [rateLimitRun, rateLimitOk_of_within (not_lt.mp hpast), admittedIn_cons]
        dsimp only at hih ⊢
        split_ifs with hin
        · have : c.bucketCount + 1 ≤ rateMaxMsgs := by simpa using hin.1
          omega
        · omega

/-- **The rate limit over a sliding interval.**  For calls of one connection
with a non-decreasing clock, every closed interval of length `RATE.windowMs`
holds at most `2 * RATE.maxMsgs` calls that `rateLimitOk` let through, from any
state of the record. -/
theorem rateLimit_window_le (c : WSClient) {times : List ℕ} (hsorted : times.Pairwise (· ≤ ·))
    (a : ℝ) : admittedIn a (rateLimitRun c times) ≤ 2 * rateMaxMsgs := by
  induction times generalizing c with
  | nil => exact Nat.zero_le _
  | cons now rest ih =>
      obtain ⟨hle, hrest⟩ := List.pairwise_cons.mp hsorted
      by_cases hnow : a ≤ now
      · -- the calls from here on are all from `a` on
        have hfrom : ∀ t ∈ now :: rest, a ≤ t := by
          intro t ht
          rcases List.mem_cons.mp ht with rfl | ht
          · exact hnow
          · exact le_trans hnow (by exact_mod_cast hle t ht)
        have := admittedIn_le_of_from c hfrom hsorted
        omega
      · -- a call before the interval does not count
        rw [rateLimitRun, admittedIn_cons, if_neg (by tauto)]
        exact ih _ hrest

theorem rateLimit_window_le_from_zero :
    [0, 1, 20001].Pairwise (· ≤ ·) ∧
      admittedIn 0 (rateLimitRun ⟨[], .null, 0, 0, 0, 0⟩ [0, 1, 20001]) ≤ 2 * rateMaxMsgs :=
  ⟨by decide, rateLimit_window_le ⟨[], .null, 0, 0, 0, 0⟩ (by decide) 0⟩

/-! ## The shot dedup -/

/-- An entry of `seenShots` that makes `seenShotBefore` answer true at `now`:
present, non-zero and in the future. -/
def LiveAt (now : ℕ) : Option ℕ → Prop
  | some exp => exp ≠ 0 ∧ exp > now
  | none => False

theorem LiveAt.mono {now now' : ℕ} {e : Option ℕ} (h : LiveAt now' e) (hle : now ≤ now') :
    LiveAt now e := by
  cases e with
  | none => exact h
  | some exp => exact ⟨h.1, lt_of_le_of_lt hle h.2⟩

theorem seenShotBefore_of_live {shotId : JsString} {now : ℕ} {seen : Map JsString ℕ}
    (h : LiveAt now (seen.get? shotId)) : seenShotBefore shotId now seen = (true, seen) := by
  unfold seenShotBefore
  cases hs : seen.get? shotId with
  | none => rw [hs] at h; exact h.elim
  | some exp =>
      rw [hs] at h
      exact if_pos (show exp ≠ 0 ∧ exp > now from h)

/-- A call whose id is not live gets past and writes the expiry. -/
theorem seenShotBefore_of_not_live {shotId : JsString} {now : ℕ} {seen : Map JsString ℕ}
    (h : ¬ LiveAt now (seen.get? shotId)) :
    seenShotBefore shotId now seen = (false, seen.set shotId (now + shotDedupMs)) := by
  unfold seenShotBefore
  cases hs : seen.get? shotId with
  | none => rfl
  | some exp =>
      rw [hs] at h
      exact if_neg (show ¬ (exp ≠ 0 ∧ exp > now) from h)

noncomputable section

/-- The shot id with which a `serverHandleSnowball` call gets past
`seenShotBefore`; `none` when its direction is not finite or its id is live. -/
def passedShot (msg : JsValue) (w : World) (d : Draw) : Option JsString :=
  match isFiniteVec3 (msg.get (ascii "dir")) with
  | none => none
  | some _ =>
      let shotId := (isUuidLike (msg.get (ascii "id"))).getD d.uuid
      if (seenShotBefore shotId w.now w.seenShots).1 then none else some shotId

/-- The call gets past with shot id `shotId` exactly when its direction is
finite, its id is `shotId`, and the entry of `shotId` is not live. -/
theorem passedShot_eq_some_iff {msg : JsValue} {w : World} {d : Draw} {shotId : JsString} :
    passedShot msg w d = some shotId ↔
      (isFiniteVec3 (msg.get (ascii "dir"))).isSome ∧
        (isUuidLike (msg.get (ascii "id"))).getD d.uuid = shotId ∧
          ¬ LiveAt w.now (w.seenShots.get? shotId) := by
  unfold passedShot
  split
  · next hdir => simp [hdir]
  · next hdir =>
      dsimp only
      by_cases hlive : LiveAt w.now (w.seenShots.get? ((isUuidLike (msg.get (ascii "id"))).getD d.uuid))
      · rw [seenShotBefore_of_live hlive]
        simp only [if_true, reduceCtorEq, false_iff, not_and]
        rintro - rfl
        exact absurd hlive
      · rw [seenShotBefore_of_not_live hlive]
        simp only [Bool.false_eq_true, if_false, Option.some.injEq, hdir, Option.isSome_some,
          true_and]
        constructor
        · rintro rfl
          exact ⟨rfl, hlive⟩
        · rintro ⟨rfl, -⟩
          rfl

/-- **The handler writes the dedup table exactly when a call gets past.** -/
theorem serverHandleSnowball_seenShots (clientId : JsString) (msg : JsValue) (w : World)
    (d : Draw) :
    (serverHandleSnowball clientId msg w d).1.seenShots =
      match passedShot msg w d with
      | some shotId => w.seenShots.set shotId (w.now + shotDedupMs)
      | none => w.seenShots := by
  unfold serverHandleSnowball passedShot
  cases isFiniteVec3 (msg.get (ascii "dir")) with
  | none => rfl
  | some rawDir =>
      dsimp only
      by_cases hlive : LiveAt w.now (w.seenShots.get? ((isUuidLike (msg.get (ascii "id"))).getD d.uuid))
      · simp only [seenShotBefore_of_live hlive, if_true]
      · simp only [seenShotBefore_of_not_live hlive, Bool.false_eq_true, if_false]
        split <;> rfl

/-- **A call that does not get past does nothing.**  When `passedShot` is
`none` (the direction is not finite, or the shot id is live), the handler
returns at once: no `snowball` event, no write of the table, and no hit search
after it. -/
theorem serverHandleSnowball_of_not_passed {clientId : JsString} {msg : JsValue} {w : World}
    {d : Draw} (h : passedShot msg w d = none) : serverHandleSnowball clientId msg w d = (w, .done) := by
  unfold serverHandleSnowball
  unfold passedShot at h
  cases hdir : isFiniteVec3 (msg.get (ascii "dir")) with
  | none => rfl
  | some rawDir =>
      rw [hdir] at h
      dsimp only at h ⊢
      by_cases hlive : LiveAt w.now (w.seenShots.get? ((isUuidLike (msg.get (ascii "id"))).getD d.uuid))
      · rw [seenShotBefore_of_live hlive]
      · -- an id that is not live gets past
        rw [seenShotBefore_of_not_live hlive] at h
        simp at h

/-- A call whose shot id is live does not get past. -/
theorem passedShot_eq_none_of_live {msg : JsValue} {w : World} {d : Draw}
    (hlive : LiveAt w.now (w.seenShots.get? ((isUuidLike (msg.get (ascii "id"))).getD d.uuid))) :
    passedShot msg w d = none := by
  cases hp : passedShot msg w d with
  | none => rfl
  | some shotId =>
      obtain ⟨-, rfl, hdead⟩ := passedShot_eq_some_iff.mp hp
      exact absurd hlive hdead

theorem serverHandleSnowball_now (clientId : JsString) (msg : JsValue) (w : World) (d : Draw) :
    (serverHandleSnowball clientId msg w d).1.now = w.now := by
  unfold serverHandleSnowball
  split
  · rfl
  · dsimp only
    split
    · rfl
    · split <;> rfl

/-- What reaches the dedup table: a snowball call, or a tick of the purge timer. -/
inductive ShotOp where
  | snowball (clientId : JsString) (msg : JsValue) (d : Draw)
  | purge

/-- A purge tick. -/
def ShotOp.isPurge : ShotOp → Bool
  | .purge => true
  | .snowball .. => false

/-- Calls and ticks at the given clock readings: for each call, its time and
the shot id it got past `seenShotBefore` with. -/
def shotRun : World → List (ℕ × ShotOp) → List (ℕ × Option JsString)
  | _, [] => []
  | w, (now, .snowball clientId msg d) :: rest =>
      let w := { w with now := now }
      (now, passedShot msg w d) :: shotRun (serverHandleSnowball clientId msg w d).1 rest
  | w, (now, .purge) :: rest => shotRun (purgeSeenShots { w with now := now }) rest

theorem shotRun_snowball (w : World) (now : ℕ) (clientId : JsString) (msg : JsValue) (d : Draw)
    (rest : List (ℕ × ShotOp)) :
    shotRun w ((now, .snowball clientId msg d) :: rest) =
      (now, passedShot msg { w with now := now } d) ::
        shotRun (serverHandleSnowball clientId msg { w with now := now } d).1 rest := rfl

theorem shotRun_purge (w : World) (now : ℕ) (rest : List (ℕ × ShotOp)) :
    shotRun w ((now, .purge) :: rest) = shotRun (purgeSeenShots { w with now := now }) rest := rfl

end

/-- The times of the calls of a run that got past with shot id `s`. -/
def passedTimes (s : JsString) (run : List (ℕ × Option JsString)) : List ℕ :=
  run.filterMap fun r => if r.2 = some s then some r.1 else none

theorem passedTimes_cons (s : JsString) (now : ℕ) (o : Option JsString)
    (run : List (ℕ × Option JsString)) :
    passedTimes s ((now, o) :: run) = (if o = some s then [now] else []) ++ passedTimes s run := by
  unfold passedTimes
  split_ifs with h <;> simp [h]

/-! ### Spacing -/

/-- After a call of `s` got past at time `t`, the table keeps `s` out until
`t + SHOT_DEDUP_MS`, or that time has come. -/
def Guards (s : JsString) (t : ℕ) (w : World) : Prop :=
  w.seenShots.get? s = some (t + shotDedupMs) ∨ t + shotDedupMs ≤ w.now

namespace Guards

variable {s : JsString} {t : ℕ} {w : World}

/-- A guarded id gets past only once its expiry has come. -/
theorem passed_le (h : Guards s t w) {msg : JsValue} {d : Draw}
    (hp : passedShot msg w d = some s) : t + shotDedupMs ≤ w.now := by
  have hdead := (passedShot_eq_some_iff.mp hp).2.2
  rcases h with hentry | hle
  · rw [hentry] at hdead
    have hne : t + shotDedupMs ≠ 0 := by simp [shotDedupMs]
    simp only [LiveAt, not_and, not_lt] at hdead
    exact hdead hne
  · exact hle

theorem tick (h : Guards s t w) {now : ℕ} (hle : w.now ≤ now) : Guards s t { w with now := now } := by
  rcases h with hentry | hpast
  · exact Or.inl hentry
  · exact Or.inr (le_trans hpast hle)

theorem serverHandleSnowball (h : Guards s t w) (clientId : JsString) (msg : JsValue) (d : Draw) :
    Guards s t (SnowBrawl.serverHandleSnowball clientId msg w d).1 := by
  unfold Guards
  rw [serverHandleSnowball_seenShots, serverHandleSnowball_now]
  cases hp : passedShot msg w d with
  | none => exact h
  | some shotId =>
      by_cases hid : s = shotId
      · -- the guarded id itself got past, so its expiry had come
        subst hid
        exact Or.inr (h.passed_le hp)
      · dsimp only
        rw [Map.get?_set_of_ne _ _ hid]
        exact h

theorem purge (h : Guards s t w) : Guards s t (purgeSeenShots w) := by
  unfold Guards purgeSeenShots
  dsimp only
  rw [Map.get?_filter]
  rcases h with hentry | hpast
  · rw [hentry]
    by_cases hexp : t + shotDedupMs ≤ w.now
    · exact Or.inr hexp
    · left
      simp [Option.filter, hexp]
  · exact Or.inr hpast

end Guards

/-- Every later call of a guarded id that gets past comes at its expiry or
after. -/
theorem passedTimes_ge {s : JsString} {t : ℕ} :
    ∀ (ops : List (ℕ × ShotOp)) (w : World), Guards s t w → (∀ op ∈ ops, w.now ≤ op.1) →
      (ops.map Prod.fst).Pairwise (· ≤ ·) → ∀ t' ∈ passedTimes s (shotRun w ops),
        t + shotDedupMs ≤ t' := by
  intro ops
  induction ops with
  | nil => intro _ _ _ _ t' ht'; simp [shotRun, passedTimes] at ht'
  | cons op rest ih =>
      intro w hguard hge hsorted
      obtain ⟨now, op⟩ := op
      have hnow : w.now ≤ now := hge _ List.mem_cons_self
      have hafter : ∀ op ∈ rest, now ≤ op.1 := by
        intro op hop
        exact (List.pairwise_cons.mp hsorted).1 _ (List.mem_map_of_mem hop)
      have hrest := (List.pairwise_cons.mp hsorted).2
      have hguard' := hguard.tick hnow
      cases op with
      | snowball clientId msg d =>
          intro t' ht'
          rw [shotRun, passedTimes_cons, List.mem_append] at ht'
          rcases ht' with ht' | ht'
          · -- this call: it got past with the guarded id
            split_ifs at ht' with hp
            · rw [List.mem_singleton.mp ht']
              exact hguard'.passed_le hp
            · exact absurd ht' List.not_mem_nil
          · refine ih _ (hguard'.serverHandleSnowball clientId msg d) ?_ hrest t' ht'
            rw [serverHandleSnowball_now]
            exact hafter
      | purge => exact ih _ hguard'.purge hafter hrest

/-- **The calls of one shot id that get past `seenShotBefore` are
`SHOT_DEDUP_MS` apart.**  Over any sequence of `serverHandleSnowball` calls and
purge ticks with a non-decreasing clock, the times of the calls that got past
with shot id `s` are pairwise at least `SHOT_DEDUP_MS` apart. -/
theorem passed_shots_spaced (w : World) {ops : List (ℕ × ShotOp)}
    (hsorted : (ops.map Prod.fst).Pairwise (· ≤ ·)) (s : JsString) :
    (passedTimes s (shotRun w ops)).Pairwise fun t₁ t₂ => t₁ + shotDedupMs ≤ t₂ := by
  induction ops generalizing w with
  | nil => simp [shotRun, passedTimes]
  | cons op rest ih =>
      obtain ⟨now, op⟩ := op
      have hafter : ∀ op ∈ rest, now ≤ op.1 := by
        intro op hop
        exact (List.pairwise_cons.mp hsorted).1 _ (List.mem_map_of_mem hop)
      have hrest := (List.pairwise_cons.mp hsorted).2
      cases op with
      | snowball clientId msg d =>
          rw [shotRun, passedTimes_cons]
          split_ifs with hp
          · -- the call got past: it writes the guard for everything after it
            have hguard : Guards s now (SnowBrawl.serverHandleSnowball clientId msg
                { w with now := now } d).1 := by
              left
              rw [serverHandleSnowball_seenShots, hp]
              exact Map.get?_set_self _ _ _
            refine List.pairwise_cons.mpr ⟨fun t' ht' => ?_, ih _ hrest⟩
            refine passedTimes_ge rest _ hguard ?_ hrest t' ht'
            rw [serverHandleSnowball_now]
            exact hafter
          · exact ih _ hrest
      | purge => exact ih _ hrest

/-! ### The purge is invisible -/

/-- Two tables that agree from time `n` on: on every id they hold the same
entry, or entries neither of which is live at `n`. -/
def AgreeAt (n : ℕ) (seen₁ seen₂ : Map JsString ℕ) : Prop :=
  ∀ k, seen₁.get? k = seen₂.get? k ∨ (¬ LiveAt n (seen₁.get? k) ∧ ¬ LiveAt n (seen₂.get? k))

namespace AgreeAt

variable {n : ℕ} {seen₁ seen₂ : Map JsString ℕ}

theorem refl (n : ℕ) (seen : Map JsString ℕ) : AgreeAt n seen seen := fun _ => Or.inl rfl

/-- An entry dead at `n` stays dead, so agreement lasts. -/
theorem mono (h : AgreeAt n seen₁ seen₂) {n' : ℕ} (hle : n ≤ n') : AgreeAt n' seen₁ seen₂ := by
  intro k
  rcases h k with heq | ⟨hdead₁, hdead₂⟩
  · exact Or.inl heq
  · exact Or.inr ⟨fun hlive => hdead₁ (hlive.mono hle), fun hlive => hdead₂ (hlive.mono hle)⟩

theorem live_iff (h : AgreeAt n seen₁ seen₂) (k : JsString) :
    LiveAt n (seen₁.get? k) ↔ LiveAt n (seen₂.get? k) := by
  rcases h k with heq | ⟨hdead₁, hdead₂⟩
  · rw [heq]
  · exact iff_of_false hdead₁ hdead₂

theorem set (h : AgreeAt n seen₁ seen₂) (k : JsString) (x : ℕ) :
    AgreeAt n (seen₁.set k x) (seen₂.set k x) := by
  intro j
  rw [Map.get?_set, Map.get?_set]
  split
  · exact Or.inl rfl
  · exact h j

/-- A purge at `now` removes only entries that are dead from `now` on. -/
theorem purge (h : AgreeAt n seen₁ seen₂) {now : ℕ} (hle : n ≤ now) :
    AgreeAt now (seen₁.filter fun _ exp => !decide (exp ≤ now)) seen₂ := by
  intro k
  rw [Map.get?_filter]
  cases hk : seen₁.get? k with
  | none => exact (h.mono hle k).imp (by rw [hk]; exact id) (by rw [hk]; exact id)
  | some exp =>
      by_cases hexp : exp ≤ now
      · -- removed: it was dead at `now`, and so is the other table's entry
        have hdead₁ : ¬ LiveAt now (some exp) := fun hlive => absurd hexp (not_le.mpr hlive.2)
        have hdead₂ : ¬ LiveAt now (seen₂.get? k) := by
          rw [← (h.mono hle).live_iff k, hk]
          exact hdead₁
        right
        simp only [Option.filter, hexp, decide_true, Bool.not_true]
        exact ⟨not_false, hdead₂⟩
      · simp only [Option.filter, hexp, decide_false, Bool.not_false]
        rw [← hk]
        exact h.mono hle k

end AgreeAt

/-- Tables that agree give every call the same verdict. -/
theorem passedShot_congr {w₁ w₂ : World} (h : AgreeAt w₁.now w₁.seenShots w₂.seenShots)
    (hnow : w₁.now = w₂.now) (msg : JsValue) (d : Draw) :
    passedShot msg w₁ d = passedShot msg w₂ d := by
  unfold passedShot
  cases isFiniteVec3 (msg.get (ascii "dir")) with
  | none => rfl
  | some rawDir =>
      dsimp only
      by_cases hlive : LiveAt w₁.now (w₁.seenShots.get? ((isUuidLike (msg.get (ascii "id"))).getD d.uuid))
      · have hlive₂ := (h.live_iff _).mp hlive
        rw [hnow] at hlive₂
        rw [seenShotBefore_of_live hlive, seenShotBefore_of_live hlive₂]
      · have hdead₂ := mt (h.live_iff _).mpr hlive
        rw [hnow] at hdead₂
        rw [seenShotBefore_of_not_live hlive, seenShotBefore_of_not_live hdead₂]

/-- Runs from agreeing tables, one of them without its purge ticks, give the
same verdicts. -/
theorem shotRun_agree :
    ∀ (ops : List (ℕ × ShotOp)) (w₁ w₂ : World) (n : ℕ), AgreeAt n w₁.seenShots w₂.seenShots →
      (∀ op ∈ ops, n ≤ op.1) → (ops.map Prod.fst).Pairwise (· ≤ ·) →
        shotRun w₁ ops = shotRun w₂ (ops.filter fun op => !op.2.isPurge) := by
  intro ops
  induction ops with
  | nil => intro _ _ _ _ _ _; rfl
  | cons op rest ih =>
      intro w₁ w₂ n h hge hsorted
      obtain ⟨now, op⟩ := op
      have hnow : n ≤ now := hge _ List.mem_cons_self
      have hafter : ∀ op ∈ rest, now ≤ op.1 := by
        intro op hop
        exact (List.pairwise_cons.mp hsorted).1 _ (List.mem_map_of_mem hop)
      have hrest := (List.pairwise_cons.mp hsorted).2
      cases op with
      | snowball clientId msg d =>
          -- the same verdict, and the same write on both sides
          have hverdict :=
            @passedShot_congr { w₁ with now := now } { w₂ with now := now } (h.mono hnow) rfl msg d
          have hnext : AgreeAt now
              (serverHandleSnowball clientId msg { w₁ with now := now } d).1.seenShots
              (serverHandleSnowball clientId msg { w₂ with now := now } d).1.seenShots := by
            rw [serverHandleSnowball_seenShots, serverHandleSnowball_seenShots, ← hverdict]
            cases passedShot msg { w₁ with now := now } d with
            | none => exact h.mono hnow
            | some shotId => exact (h.mono hnow).set shotId _
          rw [List.filter_cons_of_pos (by rfl), shotRun, shotRun, hverdict,
            ih _ _ now hnext hafter hrest]
      | purge =>
          rw [List.filter_cons_of_neg (by simp [ShotOp.isPurge]), shotRun]
          exact ih _ w₂ now (h.purge hnow) hafter hrest

/-- **The purge timer is invisible to the calls.**  Deleting every purge tick
from a sequence with a non-decreasing clock leaves the verdict of every
`serverHandleSnowball` call unchanged: the purge drops only entries whose
expiry has come, which `seenShotBefore` ignores anyway (`exp > now` against
`exp <= now`). -/
theorem shotRun_without_purges (w : World) {ops : List (ℕ × ShotOp)}
    (hsorted : (ops.map Prod.fst).Pairwise (· ≤ ·)) :
    shotRun w ops = shotRun w (ops.filter fun op => !op.2.isPurge) :=
  shotRun_agree ops w w 0 (AgreeAt.refl 0 _) (fun _ _ => Nat.zero_le _) hsorted

/-- **What the shot dedup guarantees.**  Over any sequence of
`serverHandleSnowball` calls and purge ticks with a non-decreasing clock, the
calls that get past `seenShotBefore` with one shot id are pairwise
`SHOT_DEDUP_MS` apart, and the same calls get past when every purge tick is
deleted.  These are the only calls that can throw: a call that does not get
past leaves the world as it was and returns, with no `snowball` event and no
hit search. -/
theorem shot_dedup_spaced_and_purge_free (w : World) {ops : List (ℕ × ShotOp)}
    (hsorted : (ops.map Prod.fst).Pairwise (· ≤ ·)) (s : JsString) :
    (passedTimes s (shotRun w ops)).Pairwise (fun t₁ t₂ => t₁ + shotDedupMs ≤ t₂) ∧
      shotRun w ops = shotRun w (ops.filter fun op => !op.2.isPurge) ∧
      ∀ (clientId : JsString) (msg : JsValue) (w' : World) (d : Draw), passedShot msg w' d = none →
        serverHandleSnowball clientId msg w' d = (w', .done) :=
  ⟨passed_shots_spaced w hsorted s, shotRun_without_purges w hsorted,
    fun _ _ _ _ h => serverHandleSnowball_of_not_passed h⟩

/-! ### A resent throw -/

/-- The vector literal `{"x":x,"y":y,"z":z}` of integers. -/
def vecLit (x y z : ℤ) : JsValue :=
  .obj [(ascii "x", .num (.ofInt x)), (ascii "y", .num (.ofInt y)), (ascii "z", .num (.ofInt z))]

theorem isFiniteVec3_vecLit {x y z : ℤ} (hx : x.natAbs < 10 ^ 21) (hy : y.natAbs < 10 ^ 21)
    (hz : z.natAbs < 10 ^ 21) : isFiniteVec3 (vecLit x y z) = some ⟨x, y, z⟩ := by
  have hxy : (ascii "x" == ascii "y") = false := by decide
  have hxz : (ascii "x" == ascii "z") = false := by decide
  have hyz : (ascii "y" == ascii "z") = false := by decide
  simp only [isFiniteVec3, vecLit, JsValue.truthy, JsValue.get, List.reverse_cons, List.reverse_nil,
    List.nil_append, List.cons_append, List.lookup, hxy, hxz, hyz, beq_self_eq_true, Option.getD_some,
    Json.asFinite?_ofInt hx, Json.asFinite?_ofInt hy, Json.asFinite?_ofInt hz, if_true]
  rfl

/-- A world with nothing in it, at time `0`. -/
def quietWorld : World :=
  ⟨0, 0, 0, [], Map.empty, Map.empty, Map.empty, Map.empty, Map.empty, Map.empty, Map.empty, [], [],
    []⟩

/-- `{"t":"snowball","dir":{"x":0,"y":0,"z":1},"id":"shot-0001"}`: a throw along
the z axis. -/
def throwAlongZ : JsValue :=
  .obj [(ascii "t", .str (ascii "snowball")), (ascii "dir", vecLit 0 0 1),
    (ascii "id", .str (ascii "shot-0001"))]

theorem throwAlongZ_dir : (isFiniteVec3 (throwAlongZ.get (ascii "dir"))).isSome := by
  rw [show throwAlongZ.get (ascii "dir") = vecLit 0 0 1 by decide,
    isFiniteVec3_vecLit (by decide) (by decide) (by decide)]
  rfl

theorem throwAlongZ_id : isUuidLike (throwAlongZ.get (ascii "id")) = some (ascii "shot-0001") := by
  decide

/-- The throw gets past whenever its id is not live. -/
theorem throwAlongZ_passes {w : World} (d : Draw)
    (hfree : ¬ LiveAt w.now (w.seenShots.get? (ascii "shot-0001"))) :
    passedShot throwAlongZ w d = some (ascii "shot-0001") :=
  passedShot_eq_some_iff.mpr ⟨throwAlongZ_dir, by rw [throwAlongZ_id]; rfl, hfree⟩

/-- The throw is refused while its id is live. -/
theorem throwAlongZ_refused {w : World} (d : Draw)
    (hlive : LiveAt w.now (w.seenShots.get? (ascii "shot-0001"))) :
    passedShot throwAlongZ w d = none :=
  passedShot_eq_none_of_live (by rw [throwAlongZ_id]; exact hlive)

/-- The draws of the calls: every random number `0`, every new id `"u"`. -/
def throwDraw : Draw := ⟨fun _ => 0, ascii "u"⟩

/-- A player throws at `0`, the purge timer ticks at `2000`, and the client
sends the same throw again at `5000`. -/
def resentThrow : List (ℕ × ShotOp) :=
  [(0, .snowball (ascii "a") throwAlongZ throwDraw), (2000, .purge),
    (5000, .snowball (ascii "a") throwAlongZ throwDraw)]

/-- The first throw gets past, the purge keeps its expiry, and the resent one is
refused. -/
theorem shotRun_resentThrow :
    shotRun quietWorld resentThrow = [(0, some (ascii "shot-0001")), (5000, none)] := by
  have h₀ : passedShot throwAlongZ { quietWorld with now := 0 } throwDraw = some (ascii "shot-0001") :=
    throwAlongZ_passes throwDraw (by simp [quietWorld, LiveAt])
  rw [resentThrow, shotRun_snowball, h₀, shotRun_purge, shotRun_snowball, throwAlongZ_refused throwDraw]
  · rfl
  · -- the first throw wrote the expiry `10000`, which the purge at `2000` kept
    simp [LiveAt, purgeSeenShots, Map.get?_filter, Option.filter, serverHandleSnowball_seenShots, h₀,
      shotDedupMs]

theorem shot_dedup_for_one_resent_shot :
    (resentThrow.map Prod.fst).Pairwise (· ≤ ·) ∧
      shotRun quietWorld resentThrow = [(0, some (ascii "shot-0001")), (5000, none)] ∧
      (passedTimes (ascii "shot-0001") (shotRun quietWorld resentThrow)).Pairwise
          (fun t₁ t₂ => t₁ + shotDedupMs ≤ t₂) ∧
        shotRun quietWorld resentThrow =
          shotRun quietWorld (resentThrow.filter fun op => !op.2.isPurge) ∧
        ∀ (clientId : JsString) (msg : JsValue) (w' : World) (d : Draw), passedShot msg w' d = none →
          serverHandleSnowball clientId msg w' d = (w', .done) :=
  ⟨by decide, shotRun_resentThrow,
    shot_dedup_spaced_and_purge_free quietWorld (by decide) (ascii "shot-0001")⟩

end SnowBrawl
