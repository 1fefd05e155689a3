import SnowBrawl.Game

/-!
# `bot.ts`: the bots

Five bots live in `bots` and, like every player, in `playersCache`.  The
interval timer calls `updateBots` every 50 ms; a call visits the bots in
insertion order, and the visit of a bot that shoots is suspended across the
`await`s of `botShoot`.  Calls overlap: a timer tick does not wait for the
previous call.

## Design notes

* **What a suspended visit carries.**  `updateBots` reads the bot's snapshot at
  the top of the visit and writes `{ ...snapshot, pos, rotY, vel, updatedAt }`
  after `await botShoot(...)`.  The continuation `BotStage.shooting` holds that
  snapshot as read, so the model writes back exactly the fields the source
  spreads.
* **Aliasing of the position.**  Every write of a bot's cache entry stores the
  bot's own position object (`pos: bot.pos`, `pos: spawn` with `bot.pos =
  spawn`), or spreads an entry that does; the movement mutates that object in
  place (`bot.pos.x += …`).  `moveBotInCache` therefore moves the cache entry
  together with the bot.  The velocity object is shared the same way except just
  after a respawn, and no handler reads a bot's velocity from the cache, so the
  model stores it at the final write only.
* **Transcendental functions.**  `Math.sin`, `Math.cos`, `Math.pow`, `Math.atan2`
  and `Math.sqrt` are `Real.sin`, `Real.cos`, `Real.rpow`, `Complex.arg` and
  `Real.sqrt`; `Math.atan2(y, x)` is the argument of `x + y·i`.
-/

namespace SnowBrawl

open Js

noncomputable section

/-- `terrainHeight(x, z)` of `bot.ts`, under the world seed. -/
def terrainHeight (worldSeed : ℕ) (x z : ℝ) : ℝ :=
  let scale1 : ℝ := 0.06
  let scale2 : ℝ := 0.12
  let s : ℝ := worldSeed * 0.0001
  let n1 := Real.sin (x * scale1 + s * 13.37) + Real.cos (z * scale1 - s * 7.21)
  let n2 := Real.sin ((x + 1000) * scale2 - s * 3.17) - Real.cos ((z - 500) * scale2 + s * 9.99)
  let h := n1 * 0.7 + n2 * 0.3
  let sign : ℝ := if h ≥ 0 then 1 else -1
  sign * |h| ^ (1.8 : ℝ) * 2.5 + 6

/-- **The terrain lies between `-4` and `16`.**  Both noise terms lie in
`[-2, 2]`, so the height before the lift of `6` is at most `2 ^ 1.8 · 2.5 ≤ 10`
in size. -/
theorem terrainHeight_bounds (worldSeed : ℕ) (x z : ℝ) :
    -4 ≤ terrainHeight worldSeed x z ∧ terrainHeight worldSeed x z ≤ 16 := by
  unfold terrainHeight
  dsimp only
  generalize hh : (Real.sin (x * 0.06 + worldSeed * 0.0001 * 13.37) +
      Real.cos (z * 0.06 - worldSeed * 0.0001 * 7.21)) * 0.7 +
    (Real.sin ((x + 1000) * 0.12 - worldSeed * 0.0001 * 3.17) -
      Real.cos ((z - 500) * 0.12 + worldSeed * 0.0001 * 9.99)) * 0.3 = h
  have habs : |h| ≤ 2 := by
    rw [← hh, abs_le]
    constructor <;> linarith [Real.sin_le_one (x * 0.06 + worldSeed * 0.0001 * 13.37),
      Real.neg_one_le_sin (x * 0.06 + worldSeed * 0.0001 * 13.37),
      Real.cos_le_one (z * 0.06 - worldSeed * 0.0001 * 7.21),
      Real.neg_one_le_cos (z * 0.06 - worldSeed * 0.0001 * 7.21),
      Real.sin_le_one ((x + 1000) * 0.12 - worldSeed * 0.0001 * 3.17),
      Real.neg_one_le_sin ((x + 1000) * 0.12 - worldSeed * 0.0001 * 3.17),
      Real.cos_le_one ((z - 500) * 0.12 + worldSeed * 0.0001 * 9.99),
      Real.neg_one_le_cos ((z - 500) * 0.12 + worldSeed * 0.0001 * 9.99)]
  have hpow : |h| ^ (1.8 : ℝ) ≤ 4 :=
    calc |h| ^ (1.8 : ℝ) ≤ 2 ^ (1.8 : ℝ) := Real.rpow_le_rpow (abs_nonneg h) habs (by norm_num)
      _ ≤ 2 ^ (2 : ℝ) := Real.rpow_le_rpow_of_exponent_le (by norm_num) (by norm_num)
      _ = 4 := by norm_num
  have hnonneg : 0 ≤ |h| ^ (1.8 : ℝ) := Real.rpow_nonneg (abs_nonneg h) _
  constructor <;> split_ifs <;> linarith

/-- The terrain is never above 16. -/
theorem terrainHeight_le (worldSeed : ℕ) (x z : ℝ) : terrainHeight worldSeed x z ≤ 16 :=
  (terrainHeight_bounds worldSeed x z).2

/-! ### The noise and the lift

The lift of `6` is not enough: once the noise falls below about `-1.63` the
power `1.8` of it, stretched by `2.5`, outweighs the lift. -/

/-- The weighted sum of sinusoids that `terrainHeight` raises to the power `1.8`. -/
def terrainNoise (worldSeed : ℕ) (x z : ℝ) : ℝ :=
  let scale1 : ℝ := 0.06
  let scale2 : ℝ := 0.12
  let s : ℝ := worldSeed * 0.0001
  let n1 := Real.sin (x * scale1 + s * 13.37) + Real.cos (z * scale1 - s * 7.21)
  let n2 := Real.sin ((x + 1000) * scale2 - s * 3.17) - Real.cos ((z - 500) * scale2 + s * 9.99)
  n1 * 0.7 + n2 * 0.3

/-- What `terrainHeight` makes of the noise: its sign-preserving power `1.8`,
stretched by `2.5` and lifted by `6`. -/
def terrainLift (h : ℝ) : ℝ :=
  let sign : ℝ := if h ≥ 0 then 1 else -1
  sign * |h| ^ (1.8 : ℝ) * 2.5 + 6

theorem terrainHeight_eq (worldSeed : ℕ) (x z : ℝ) :
    terrainHeight worldSeed x z = terrainLift (terrainNoise worldSeed x z) := rfl

/-- Where the noise is not negative the terrain is at least `6` high. -/
theorem six_le_terrainLift {h : ℝ} (hh : 0 ≤ h) : 6 ≤ terrainLift h := by
  have hpow : 0 ≤ |h| ^ (1.8 : ℝ) := Real.rpow_nonneg (abs_nonneg h) _
  simp only [terrainLift, ge_iff_le, if_pos hh]
  linarith

/-- Where the noise is at most `-1.7` the terrain is below zero, as
`1.7 ^ 1.8 > 2.4`: raised to the fifth power, `1.7 ^ 9 > 2.4 ^ 5`. -/
theorem terrainLift_neg {h : ℝ} (hh : h ≤ -17 / 10) : terrainLift h < 0 := by
  have habs : 17 / 10 ≤ |h| := by
    rw [abs_of_neg (by linarith)]
    linarith
  have hpow5 : (12 / 5 : ℝ) ^ 5 < (|h| ^ (1.8 : ℝ)) ^ 5 := by
    rw [← Real.rpow_mul_natCast (abs_nonneg h), show (1.8 : ℝ) * (5 : ℕ) = (9 : ℕ) by norm_num,
      Real.rpow_natCast]
    calc (12 / 5 : ℝ) ^ 5 < (17 / 10) ^ 9 := by norm_num
      _ ≤ |h| ^ 9 := pow_le_pow_left₀ (by norm_num) habs 9
  have hpow : 12 / 5 < |h| ^ (1.8 : ℝ) :=
    lt_of_pow_lt_pow_left₀ 5 (Real.rpow_nonneg (abs_nonneg h) _) hpow5
  simp only [terrainLift, ge_iff_le, if_neg (show ¬ 0 ≤ h by linarith)]
  linarith

/-- The cosine of a small angle is close to `1`. -/
theorem one_sub_sq_div_two_le_cos_of_abs_le {y d : ℝ} (h : |y| ≤ d) :
    1 - d ^ 2 / 2 ≤ Real.cos y := by
  have hsq : y ^ 2 ≤ d ^ 2 := by
    rw [← sq_abs]
    exact pow_le_pow_left₀ (abs_nonneg y) h 2
  linarith [Real.one_sub_sq_div_two_le_cos (x := y)]

/-- At the centre of the map, under seed `0`, the base terms are
`sin 0 + cos 0 = 1` and outweigh the doubled ones. -/
theorem terrainNoise_zero_centre_nonneg : 0 ≤ terrainNoise 0 0 0 := by
  simp only [terrainNoise, Nat.cast_zero, zero_mul, zero_add, sub_zero, Real.sin_zero,
    Real.cos_zero]
  linarith [Real.neg_one_le_sin ((0 + 1000) * 0.12 : ℝ), Real.cos_le_one ((0 - 500) * 0.12 : ℝ)]

/-- At the centre of the map, under seed `3526`, all four terms are close to
their minimum. -/
theorem terrainNoise_centre_le : terrainNoise 3526 0 0 ≤ -17 / 10 := by
  have hlo := Real.pi_gt_d4
  have hhi := Real.pi_lt_d4
  simp only [terrainNoise, Nat.cast_ofNat, zero_mul, zero_add, zero_sub]
  -- the first base term is `3π/2` to within `0.003`
  have h1 : Real.sin (3526 * 0.0001 * 13.37) ≤ -(1 - 0.003 ^ 2 / 2) := by
    have e : (3526 : ℝ) * 0.0001 * 13.37 =
        (3526 * 0.0001 * 13.37 - 3 * Real.pi / 2) + Real.pi / 2 + Real.pi := by ring
    rw [e, Real.sin_add_pi, Real.sin_add_pi_div_two, neg_le_neg_iff]
    exact one_sub_sq_div_two_le_cos_of_abs_le (abs_le.mpr ⟨by linarith, by linarith⟩)
  -- the second is `π - 0.6` to within `0.001`
  have h2 : Real.cos (-(3526 * 0.0001 * 7.21)) ≤ -(1 - 0.6 ^ 2 / 2) := by
    have e : -((3526 : ℝ) * 0.0001 * 7.21) =
        -(Real.pi - (Real.pi - 3526 * 0.0001 * 7.21)) := by ring
    rw [e, Real.cos_neg, Real.cos_pi_sub, neg_le_neg_iff]
    exact one_sub_sq_div_two_le_cos_of_abs_le (abs_le.mpr ⟨by linarith, by linarith⟩)
  -- the doubled terms are nineteen and nine turns away from small angles
  have h3 : Real.sin (1000 * 0.12 - 3526 * 0.0001 * 3.17) ≤ -(0.49 - 0.5 ^ 3 / 6) := by
    have e : (1000 : ℝ) * 0.12 - 3526 * 0.0001 * 3.17 =
        -(38 * Real.pi - (1000 * 0.12 - 3526 * 0.0001 * 3.17)) + (19 : ℕ) * (2 * Real.pi) := by
      push_cast
      ring
    rw [e, Real.sin_add_nat_mul_two_pi, Real.sin_neg, neg_le_neg_iff]
    have hy : 0 < 38 * Real.pi - (1000 * 0.12 - 3526 * 0.0001 * 3.17) := by linarith
    have hy3 : (38 * Real.pi - (1000 * 0.12 - 3526 * 0.0001 * 3.17)) ^ 3 ≤ 0.5 ^ 3 :=
      pow_le_pow_left₀ hy.le (by linarith) 3
    linarith [Real.sin_gt_sub_cube hy]
  have h4 : 1 - 0.08 ^ 2 / 2 ≤ Real.cos (-500 * 0.12 + 3526 * 0.0001 * 9.99) := by
    have e : (-500 : ℝ) * 0.12 + 3526 * 0.0001 * 9.99 =
        (-500 * 0.12 + 3526 * 0.0001 * 9.99 + 18 * Real.pi) - (9 : ℕ) * (2 * Real.pi) := by
      push_cast
      ring
    rw [e, Real.cos_sub_nat_mul_two_pi]
    exact one_sub_sq_div_two_le_cos_of_abs_le (abs_le.mpr ⟨by linarith, by linarith⟩)
  norm_num at h1 h2 h3 h4 ⊢
  linarith

/-- Under seed `3526` the centre of the map lies below zero. -/
theorem terrainHeight_centre_neg : terrainHeight 3526 0 0 < 0 := by
  rw [terrainHeight_eq]
  exact terrainLift_neg terrainNoise_centre_le

/-- `Math.atan2(y, x)`. -/
def atan2 (y x : ℝ) : ℝ := Complex.arg ⟨x, y⟩

/-- `Math.max(-half, Math.min(half, v))`. -/
def clampTo (half v : ℝ) : ℝ := max (-half) (min half v)

/-- `BOT_COUNT`. -/
def botCount : ℕ := 5
/-- `SHOT_INTERVAL`. -/
def shotInterval : ℝ := 10000
/-- `MOVE_INTERVAL`. -/
def moveInterval : ℕ := 3000
/-- `BOT_SPEED`. -/
def botSpeed : ℝ := 3
/-- `CHRISTMAS_TREE_RADIUS`. -/
def christmasTreeRadius : ℝ := 25

/-- `bot-${i}`. -/
def botId (i : ℕ) : JsString := ascii "bot-" ++ ascii (toString i)

/-- `BOT_NAMES[i]`, `雪人Bot-${i + 1}`. -/
def botName (i : ℕ) : JsString := [0x96EA, 0x4EBA] ++ ascii "Bot-" ++ ascii (toString (i + 1))

/-! ## Positions -/

/-- Attempt `k` of `getRandomSpawnPos`: two draws spread over `MAP_HALF * 1.5`. -/
def spawnAttempt (rs : Stream' ℝ) (k : ℕ) : ℝ × ℝ :=
  ((rs (2 * k) - 0.5) * (mapHalf * 1.5), (rs (2 * k + 1) - 0.5) * (mapHalf * 1.5))

/-- The `do … while (attempts < 50)` loop from attempt `k` with `n` attempts
left: the first point outside the tree's radius, or the last one tried, and the
number of draws used. -/
def spawnSearch (rs : Stream' ℝ) : ℕ → ℕ → ℝ × ℝ × ℕ
  | k, 0 => ((spawnAttempt rs k).1, (spawnAttempt rs k).2, 2 * (k + 1))
  | k, n + 1 =>
      let p := spawnAttempt rs k
      if Real.sqrt (p.1 ^ 2 + p.2 ^ 2) > christmasTreeRadius then (p.1, p.2, 2 * (k + 1))
      else spawnSearch rs (k + 1) n

/-- `getRandomSpawnPos()`, with the number of draws it used. -/
def getRandomSpawnPos (worldSeed : ℕ) (rs : Stream' ℝ) : Vec3 × ℕ :=
  let r := spawnSearch rs 0 49
  let x := clampTo mapHalf r.1
  let z := clampTo mapHalf r.2.1
  (⟨x, terrainHeight worldSeed x z, z⟩, r.2.2)

/-- The wander loop of `getRandomMoveTarget` from attempt `k` with `n` attempts
left. -/
def wanderSearch (rs : Stream' ℝ) (safeZone : ℝ) (cur : Vec3) : ℕ → ℕ → ℝ × ℝ × ℕ
  | k, n =>
      let angle := rs (2 * k) * Real.pi * 2
      let distance := 10 + rs (2 * k + 1) * 20
      let x := clampTo safeZone (cur.x + Real.cos angle * distance)
      let z := clampTo safeZone (cur.z + Real.sin angle * distance)
      match n with
      | 0 => (x, z, 2 * (k + 1))
      | n + 1 =>
          if Real.sqrt (x ^ 2 + z ^ 2) > christmasTreeRadius then (x, z, 2 * (k + 1))
          else wanderSearch rs safeZone cur (k + 1) n

/-- `getRandomMoveTarget(currentPos)`, with the number of draws it used. -/
def getRandomMoveTarget (worldSeed : ℕ) (cur : Vec3) (rs : Stream' ℝ) : Vec3 × ℕ :=
  let safeZone := mapHalf - 40
  if |cur.x| > safeZone ∨ |cur.z| > safeZone then
    -- outside the safe zone: head for the centre
    let angleToCenter := atan2 (-cur.z) (-cur.x)
    let distance := 40 + rs 0 * 30
    let x := clampTo safeZone (cur.x + Real.cos angleToCenter * distance)
    let z := clampTo safeZone (cur.z + Real.sin angleToCenter * distance)
    if Real.sqrt (x ^ 2 + z ^ 2) < christmasTreeRadius then
      let offsetAngle := angleToCenter + (rs 1 - 0.5) * Real.pi / 2
      let x := clampTo safeZone (cur.x + Real.cos offsetAngle * distance)
      let z := clampTo safeZone (cur.z + Real.sin offsetAngle * distance)
      (⟨x, terrainHeight worldSeed x z, z⟩, 2)
    else (⟨x, terrainHeight worldSeed x z, z⟩, 1)
  else
    let r := wanderSearch rs safeZone cur 0 19
    (⟨r.1, terrainHeight worldSeed r.1 r.2.1, r.2.1⟩, r.2.2)

/-- `findNearestPlayer(botPos)`: the first non-bot, living player at the least
horizontal distance, scanning `playersCache.values()`. -/
def findNearestPlayer (botPos : Vec3) (players : List PlayerSnapshot) : Option PlayerSnapshot :=
  (players.foldl (fun (acc : Option (PlayerSnapshot × ℝ)) player =>
    if (ascii "bot-").isPrefixOf player.id ∨ player.hp ≤ 0 then acc
    else
      let dist := Real.sqrt ((player.pos.x - botPos.x) ^ 2 + (player.pos.z - botPos.z) ^ 2)
      if acc.all (fun a => dist < a.2) then some (player, dist) else acc) none).map Prod.fst

/-- The movement part of a visit: refresh the target when there is none or
`MOVE_INTERVAL` has passed, then walk `BOT_SPEED · 0.05` towards it, clamped to
the map and set on the terrain; the bot and the number of draws used. -/
def moveBot (worldSeed now : ℕ) (bot : Bot) (rs : Stream' ℝ) : Bot × ℕ :=
  let (bot, used) :=
    if bot.targetPos.isNone ∨ (now : ℤ) - bot.moveTimer > moveInterval then
      let t := getRandomMoveTarget worldSeed bot.pos rs
      ({ bot with targetPos := some t.1, moveTimer := now }, t.2)
    else (bot, 0)
  match bot.targetPos with
  | some target =>
      let dx := target.x - bot.pos.x
      let dz := target.z - bot.pos.z
      let dist := Real.sqrt (dx * dx + dz * dz)
      if dist > 0.5 then
        let vel : Vec3 := { bot.vel with x := dx / dist * botSpeed, z := dz / dist * botSpeed }
        let x := clampTo mapHalf (bot.pos.x + vel.x * 0.05)
        let z := clampTo mapHalf (bot.pos.z + vel.z * 0.05)
        ({ bot with vel := vel, rotY := atan2 dx dz, pos := ⟨x, terrainHeight worldSeed x z, z⟩ },
          used)
      else ({ bot with vel := { bot.vel with x := 0, z := 0 }, targetPos := none }, used)
  | none => (bot, used)

/-- The in-place move of `bot.pos`, seen through the cache entry that holds the
same object. -/
def moveBotInCache (id : JsString) (pos : Vec3) (cache : Map JsString PlayerSnapshot) :
    Map JsString PlayerSnapshot :=
  updateIfPresent cache id fun e => { e with pos := pos }

/-! ## Visits -/

/-- Where a suspended visit of `updateBots` stands. -/
inductive BotStage where
  /-- Awaiting the `respawn` broadcast. -/
  | respawned
  /-- Inside `await botShoot(...)`; the snapshot the visit read. -/
  | shooting (snapshot : PlayerSnapshot) (shot : ShotStage)
  /-- `botShoot` returned; awaiting the resumption of the visit. -/
  | shot (snapshot : PlayerSnapshot)

/-- The synchronous part of `botShoot(bot, target)`: aim at the target's body
and append the `snowball` event. -/
def botShoot (bot : Bot) (target : PlayerSnapshot) (w : World) (d : Draw) : World × ShotStage :=
  let dir := norm ⟨target.pos.x - bot.pos.x, (target.pos.y + 1.0) - (bot.pos.y + 1.3),
    target.pos.z - bot.pos.z⟩
  let origin : Vec3 := ⟨bot.pos.x, bot.pos.y + 1.3, bot.pos.z⟩
  (appendEventInMem (.snowball d.uuid bot.id origin dir snowballSpeed) w,
    .flying d.uuid origin dir)

/-- `bot.lastShotAt = t` on the bot object. -/
def setLastShotAt (id : JsString) (t : ℝ) (w : World) : World :=
  match w.bots.get? id with
  | some bot => { w with bots := w.bots.set id { bot with lastShotAt := t } }
  | none => w

/-- The final write of a visit: the snapshot read at its top, with the bot's
current position, heading and velocity. -/
def finishVisit (now : ℕ) (id : JsString) (snapshot : PlayerSnapshot) (w : World) : World :=
  match w.bots.get? id with
  | some bot =>
      let w := { w with
        playersCache := w.playersCache.set id
          { snapshot with pos := bot.pos, rotY := bot.rotY, vel := bot.vel, updatedAt := now } }
      enqueuePendingState ⟨id, bot.pos, bot.rotY, bot.vel, false, now, none⟩ w
  | none => w

/-- The synchronous run of `updateBots` over the bots `ids`, up to the first
`await`: the world, and the suspended visit (bot, bots after it, stage). -/
def scanBots (now : ℕ) (d : Draw) :
    List JsString → World → World × Option (JsString × List JsString × BotStage)
  | [], w => (w, none)
  | id :: rest, w =>
      match w.bots.get? id, w.playersCache.get? id with
      | some bot, some snapshot =>
          if snapshot.hp ≤ 0 ∧ snapshot.deadUntil ≤ now then
            let spawn := (getRandomSpawnPos w.worldSeed d.rand).1
            let w := { w with
              bots := w.bots.set id
                { bot with pos := spawn, hp := 100, vel := Vec3.zero, targetPos := none }
              playersCache := w.playersCache.set id
                { snapshot with pos := spawn, hp := 100, deadUntil := 0, updatedAt := now } }
            (appendEventInMem (.respawn id spawn 100) w, some (id, rest, .respawned))
          else if snapshot.hp ≤ 0 then scanBots now d rest w
          else
            let moved := moveBot w.worldSeed now bot d.rand
            let d' : Draw := { d with rand := d.rand.drop moved.2 }
            let bot := moved.1
            let w := { w with
              bots := w.bots.set id bot
              playersCache := moveBotInCache id bot.pos w.playersCache }
            if (now : ℝ) - bot.lastShotAt > shotInterval then
              match findNearestPlayer bot.pos w.playersCache.values with
              | some target =>
                  let bot := { bot with
                    rotY := atan2 (target.pos.x - bot.pos.x) (target.pos.z - bot.pos.z) }
                  let w := { w with bots := w.bots.set id bot }
                  let fired := botShoot bot target w d
                  (fired.1, some (id, rest, .shooting snapshot fired.2))
              | none =>
                  scanBots now d' rest (finishVisit now id snapshot (setLastShotAt id now w))
            else scanBots now d' rest (finishVisit now id snapshot w)
      | _, _ => scanBots now d rest w

/-- The segments of `botShoot` after its first `await`: the hit search, the
death, and `bot.lastShotAt`.  A returned `none` is `botShoot` returning. -/
def resumeBotShot (id : JsString) (w : World) : ShotStage → World × Option ShotStage
  | .flying shotId origin dir =>
      match resolveShot id shotId origin dir w with
      | some (w', stage) => (w', some stage)
      | none => (setLastShotAt id w.now w, none)
  | .landed shotId victim newHp respawnAt =>
      if newHp = 0 then
        let name : JsValue := ((w.bots.get? id).map (fun b => JsValue.str b.name)).getD .undefined
        (appendEventInMem (.death victim.id victim.name id name shotId respawnAt) w,
          some (.killed (respawnAt - respawnMs)))
      else (setLastShotAt id (respawnAt - respawnMs : ℕ) w, none)
  | .killed landedAt => (setLastShotAt id landedAt w, none)

/-! ## Start-up -/

/-- The world before `initBots`: nothing connected, nothing cached. -/
def emptyWorld (worldSeed now : ℕ) : World where
  now := now
  worldSeed := worldSeed
  latestSeq := 0
  events := []
  playersCache := Map.empty
  clientObjs := Map.empty
  clients := Map.empty
  conns := Map.empty
  pendingStates := Map.empty
  seenShots := Map.empty
  bots := Map.empty
  kills := []
  statesSent := []
  snapshotsSent := []

/-- One iteration of `initBots`: bot `i` at a random spawn point, in `bots` and
in the cache; the draws it used. -/
def initBot (i : ℕ) (w : World) (rs : Stream' ℝ) : World × ℕ :=
  let spawn := getRandomSpawnPos w.worldSeed rs
  let rs' := rs.drop spawn.2
  let bot : Bot :=
    { id := botId i, name := botName i, pos := spawn.1, rotY := rs' 0 * Real.pi * 2,
      vel := Vec3.zero, hp := 100, targetPos := none,
      lastShotAt := w.now + rs' 1 * shotInterval, moveTimer := w.now }
  ({ w with
    bots := w.bots.set bot.id bot
    playersCache := w.playersCache.set bot.id
      { id := bot.id, name := .str bot.name, pos := bot.pos, rotY := bot.rotY, vel := bot.vel,
        hp := 100, crouch := false, deadUntil := 0, updatedAt := w.now, pingMs := none } },
    spawn.2 + 2)

/-- `initBots()` for bots `i, i+1, …` while `n` remain. -/
def initBotsFrom (rs : Stream' ℝ) : ℕ → ℕ → World → World
  | _, 0, w => w
  | i, n + 1, w =>
      let r := initBot i w rs
      initBotsFrom (rs.drop r.2) (i + 1) n r.1

/-- `initBots()`: the state `main.ts` starts serving from. -/
def initBots (worldSeed now : ℕ) (rs : Stream' ℝ) : World :=
  initBotsFrom rs 0 botCount (emptyWorld worldSeed now)

end

end SnowBrawl
