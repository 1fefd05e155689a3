import SnowBrawl.Lib.Earliest
import SnowBrawl.Game
import SnowBrawl.Bot

/-!
# What the hit search finds, and whom a bot aims at

`serverHandleSnowball` and its copy in `botShoot` (both `resolveShot` here)
decide a hit on samples of the trajectory: the times `i · dt` for
`i = 0 … snowballSimSteps`, `dt = snowballLifeSec / snowballSimSteps`, cut at
the first sample below `y = 0`.  For each player it does not skip, the inner
loop stops at the first sample inside the player's cylinder; across players the
strict comparison keeps the earliest such sample, and on a tie the player that
comes first in the table.

Between two samples the ball travels `1.25` units against a cylinder of radius
`0.9`, so a throw can cross a cylinder without a sample inside it.

## Main results

* `hitSearch_eq_scan` — the hit search is an `Earliest.scan` of the table, keyed
  by the contact time of each player it does not skip.
* `contactTime_eq_some`, `contactTime_eq_none` — the contact time is the time
  of the first sample that hits the player (`SampleHits`).
* `hitSearch_finds_earliest_sample` — a hit is reported exactly when a sample
  hits a player the search does not skip, at the time of the earliest such
  sample.
* `grazing_throw_not_hit` — a level throw passing `0.85` from a player's axis,
  midway between two samples, crosses the cylinder and is not reported.
* `findNearestPlayer_eq_some_iff` — the player a bot aims at is the first
  living non-bot player at the least horizontal distance.
-/

namespace SnowBrawl

open Js

noncomputable section

/-- Sample `i` of the trajectory. -/
def sampleAt (origin v0 : Vec3) (i : ℕ) : Vec3 := snowballPosAt origin v0 (i * sampleDt)

/-- Sample `i` hits the player standing at `target`: it is one of the samples,
no sample up to it is below `y = 0`, and it lies in the player's cylinder. -/
def SampleHits (origin v0 target : Vec3) (i : ℕ) : Prop :=
  i ≤ snowballSimSteps ∧ (∀ j ≤ i, 0 ≤ (sampleAt origin v0 j).y) ∧
    intersectsPlayerCylinder (sampleAt origin v0 i) target = true

theorem sampleDt_pos : 0 < sampleDt := by
  norm_num [sampleDt, snowballLifeSec, snowballSimSteps]

/-! ## One player -/

section Contact

variable {origin v0 target : Vec3}

/-- The inner loop stops at a sample `m` in the cylinder, after samples that
were above ground and outside it. -/
theorem contactFrom_eq_some {i n : ℕ} {t : ℝ} (h : contactFrom origin v0 target i n = some t) :
    ∃ m, i ≤ m ∧ m < i + n ∧ t = m * sampleDt ∧ 0 ≤ (sampleAt origin v0 m).y ∧
      intersectsPlayerCylinder (sampleAt origin v0 m) target = true ∧
      ∀ j, i ≤ j → j < m → 0 ≤ (sampleAt origin v0 j).y ∧
        intersectsPlayerCylinder (sampleAt origin v0 j) target = false := by
  -- induction on the samples left; the loop moves on from `i` to `i + 1`
  induction n generalizing i with
  | zero => cases h
  | succ n ih =>
      simp only [contactFrom] at h
      split_ifs at h with hbelow hin
      · -- the loop stops at sample `i`
        obtain rfl := Option.some.inj h
        exact ⟨i, le_rfl, by omega, rfl, not_lt.mp hbelow, hin,
          fun j hij hjm => absurd hjm (by omega)⟩
      · obtain ⟨m, him, hmn, ht, hy, hm, hbefore⟩ := ih h
        refine ⟨m, by omega, by omega, ht, hy, hm, fun j hij hjm => ?_⟩
        rcases Nat.eq_or_lt_of_le hij with rfl | hij
        · exact ⟨not_lt.mp hbelow, Bool.eq_false_iff.mpr hin⟩
        · exact hbefore j hij hjm

/-- When the inner loop finds nothing, no sample it reached above ground lies
in the cylinder. -/
theorem contactFrom_eq_none {i n : ℕ} (h : contactFrom origin v0 target i n = none) {m : ℕ}
    (him : i ≤ m) (hmn : m < i + n) (hy : ∀ j, i ≤ j → j ≤ m → 0 ≤ (sampleAt origin v0 j).y) :
    intersectsPlayerCylinder (sampleAt origin v0 m) target = false := by
  induction n generalizing i with
  | zero => omega
  | succ n ih =>
      simp only [contactFrom] at h
      split_ifs at h with hbelow hin
      · -- the trajectory was cut at sample `i`, which `hy` puts above ground
        exact absurd (hy i le_rfl him) (not_le.mpr hbelow)
      · rcases Nat.eq_or_lt_of_le him with rfl | him
        · exact Bool.eq_false_iff.mpr hin
        · exact ih h him (by omega) fun j hij hjm => hy j (by omega) hjm

/-- The contact time is the time of the first sample that hits. -/
theorem contactTime_eq_some {t : ℝ} (h : contactTime origin v0 target = some t) :
    ∃ i : ℕ, t = i * sampleDt ∧ SampleHits origin v0 target i ∧
      ∀ j < i, ¬ SampleHits origin v0 target j := by
  obtain ⟨m, -, hm, ht, hy, hin, hbefore⟩ := contactFrom_eq_some h
  refine ⟨m, ht, ⟨by omega, fun j hj => ?_, hin⟩, fun j hj hhit => ?_⟩
  · rcases Nat.eq_or_lt_of_le hj with rfl | hj
    · exact hy
    · exact (hbefore j (Nat.zero_le j) hj).1
  · have hout := (hbefore j (Nat.zero_le j) hj).2
    rw [hhit.2.2] at hout
    cases hout

/-- Without a contact time no sample hits. -/
theorem contactTime_eq_none (h : contactTime origin v0 target = none) (i : ℕ) :
    ¬ SampleHits origin v0 target i := by
  rintro ⟨hi, hy, hin⟩
  have hout := contactFrom_eq_none h (Nat.zero_le i) (by omega) fun j _ hj => hy j hj
  rw [hin] at hout
  cases hout

/-- A throw from a point above ground inside a player's cylinder meets the
player at its first sample, whatever its velocity. -/
theorem contactTime_of_inside (hy : 0 ≤ origin.y) (hin : intersectsPlayerCylinder origin target = true) :
    contactTime origin v0 target = some 0 := by
  have hfirst : snowballPosAt origin v0 0 = origin := by
    simp [snowballPosAt]
  simp only [contactTime, contactFrom, Nat.cast_zero, zero_mul, hfirst, not_lt.mpr hy, hin,
    if_false, if_true]

/-- Contact times are not negative. -/
theorem contactTime_nonneg {t : ℝ} (h : contactTime origin v0 target = some t) : 0 ≤ t := by
  obtain ⟨i, rfl, -⟩ := contactTime_eq_some h
  exact mul_nonneg (Nat.cast_nonneg i) sampleDt_pos.le

/-- The contact time is no later than any sample that hits. -/
theorem contactTime_le {t : ℝ} (h : contactTime origin v0 target = some t) {j : ℕ}
    (hj : SampleHits origin v0 target j) : t ≤ j * sampleDt := by
  obtain ⟨i, rfl, -, hfirst⟩ := contactTime_eq_some h
  have hij : i ≤ j := not_lt.mp fun hlt => hfirst j hlt hj
  exact mul_le_mul_of_nonneg_right (by exact_mod_cast hij) sampleDt_pos.le

end Contact

/-! ## The table -/

/-- The key of the search: the contact time of a player it does not skip. -/
def targetKey (shooterId : JsString) (now : ℕ) (origin v0 : Vec3) (p : PlayerSnapshot) :
    Option ℝ :=
  if skipsTarget shooterId now p then none else contactTime origin v0 p.pos

section Table

variable {shooterId : JsString} {now : ℕ} {origin v0 : Vec3} {players : List PlayerSnapshot}

theorem considerTarget_eq_step (shooterId : JsString) (now : ℕ) (origin v0 : Vec3) :
    considerTarget shooterId now origin v0 = Earliest.step (targetKey shooterId now origin v0) := by
  funext best p
  unfold considerTarget Earliest.step targetKey
  split_ifs
  · rfl
  · cases contactTime origin v0 p.pos with
    | none => rfl
    | some t =>
        -- the two comparisons differ only in their `Decidable` instances
        congr

theorem hitSearch_eq_scan (shooterId : JsString) (now : ℕ) (origin v0 : Vec3)
    (players : List PlayerSnapshot) :
    hitSearch shooterId now origin v0 players =
      Earliest.scan (targetKey shooterId now origin v0) players := by
  rw [hitSearch, considerTarget_eq_step]
  rfl

/-- No hit is reported exactly when no sample hits a player the search does not
skip. -/
theorem hitSearch_eq_none_iff :
    hitSearch shooterId now origin v0 players = none ↔
      ∀ p ∈ players, ¬ skipsTarget shooterId now p → ∀ i, ¬ SampleHits origin v0 p.pos i := by
  rw [hitSearch_eq_scan, Earliest.scan_eq_none_iff]
  refine forall₂_congr fun p _ => ?_
  unfold targetKey
  by_cases hskip : skipsTarget shooterId now p
  · simp [hskip]
  · simp only [hskip, if_false, not_false_eq_true, forall_const]
    constructor
    · exact fun h => contactTime_eq_none h
    · intro h
      cases ht : contactTime origin v0 p.pos with
      | none => rfl
      | some t =>
          obtain ⟨i, -, hi, -⟩ := contactTime_eq_some ht
          exact absurd hi (h i)

/-- A player the search meets first, does not skip and hits at the first sample
is the one hit. -/
theorem hitSearch_cons_of_contact_zero {p : PlayerSnapshot} (hskip : ¬ skipsTarget shooterId now p)
    (hc : contactTime origin v0 p.pos = some 0) (rest : List PlayerSnapshot) :
    hitSearch shooterId now origin v0 (p :: rest) = some (p, 0) := by
  rw [hitSearch_eq_scan]
  refine Earliest.scan_cons_of_le (by rw [targetKey, if_neg hskip, hc]) fun q _ u hu => ?_
  unfold targetKey at hu
  split_ifs at hu
  exact contactTime_nonneg hu

/-- A reported hit is on a player the search does not skip, at the time of a
sample that hits it, and no sample hits any such player earlier. -/
theorem hitSearch_eq_some {victim : PlayerSnapshot} {t : ℝ}
    (h : hitSearch shooterId now origin v0 players = some (victim, t)) :
    victim ∈ players ∧ ¬ skipsTarget shooterId now victim ∧
      (∃ i : ℕ, t = i * sampleDt ∧ SampleHits origin v0 victim.pos i) ∧
      ∀ q ∈ players, ¬ skipsTarget shooterId now q →
        ∀ j, SampleHits origin v0 q.pos j → t ≤ j * sampleDt := by
  rw [hitSearch_eq_scan] at h
  have hmin := Earliest.isFirstMin_of_scan_eq_some h
  have hkey := hmin.key_eq
  unfold targetKey at hkey
  split_ifs at hkey with hskip
  obtain ⟨i, hti, hi, -⟩ := contactTime_eq_some hkey
  refine ⟨hmin.mem, hskip, ⟨i, hti, hi⟩, fun q hq hqskip j hj => ?_⟩
  cases hc : contactTime origin v0 q.pos with
  | none => exact absurd hj (contactTime_eq_none hc j)
  | some u =>
      have hqkey : targetKey shooterId now origin v0 q = some u := by
        rw [targetKey, if_neg hqskip, hc]
      calc t ≤ u := hmin.le hq hqkey
        _ ≤ j * sampleDt := contactTime_le hc hj

/-- **The hit search decides on samples.**  For any table, shooter, origin and
velocity (`resolveShot` passes the shooter's position raised by `1.3` and
`dir · snowballSpeed`), no hit is reported exactly when no sample hits a player
the search does not skip; a reported hit is on such a player, at the time of a
sample that hits it, and no sample hits any such player earlier. -/
theorem hitSearch_finds_earliest_sample (shooterId : JsString) (now : ℕ) (origin v0 : Vec3)
    (players : List PlayerSnapshot) :
    (hitSearch shooterId now origin v0 players = none ↔
        ∀ p ∈ players, ¬ skipsTarget shooterId now p → ∀ i, ¬ SampleHits origin v0 p.pos i) ∧
      ∀ victim t, hitSearch shooterId now origin v0 players = some (victim, t) →
        victim ∈ players ∧ ¬ skipsTarget shooterId now victim ∧
        (∃ i : ℕ, t = i * sampleDt ∧ SampleHits origin v0 victim.pos i) ∧
        ∀ q ∈ players, ¬ skipsTarget shooterId now q →
          ∀ j, SampleHits origin v0 q.pos j → t ≤ j * sampleDt :=
  ⟨hitSearch_eq_none_iff, fun _ _ h => hitSearch_eq_some h⟩

end Table

/-! ## A throw between two samples -/

/-- A point within `hitRadius` of the axis, between the feet and `hitHeight`
above them, is in the cylinder. -/
theorem intersectsPlayerCylinder_of_le {p q : Vec3}
    (hr : (p.x - q.x) ^ 2 + (p.z - q.z) ^ 2 ≤ hitRadius ^ 2) (hlo : q.y ≤ p.y)
    (hhi : p.y ≤ q.y + hitHeight) : intersectsPlayerCylinder p q = true := by
  have hside : Real.sqrt ((p.x - q.x) ^ 2 + (p.z - q.z) ^ 2) ≤ hitRadius := by
    calc Real.sqrt ((p.x - q.x) ^ 2 + (p.z - q.z) ^ 2) ≤ Real.sqrt (hitRadius ^ 2) :=
          Real.sqrt_le_sqrt hr
      _ = hitRadius := Real.sqrt_sq (by norm_num [hitRadius])
  simp only [intersectsPlayerCylinder, gt_iff_lt, if_neg (not_lt.mpr hside)]
  exact decide_eq_true ⟨hlo, hhi⟩

/-- A point farther than `hitRadius` from the axis is not in the cylinder. -/
theorem intersectsPlayerCylinder_of_lt {p q : Vec3}
    (hr : hitRadius ^ 2 < (p.x - q.x) ^ 2 + (p.z - q.z) ^ 2) :
    intersectsPlayerCylinder p q = false := by
  have hside : hitRadius < Real.sqrt ((p.x - q.x) ^ 2 + (p.z - q.z) ^ 2) :=
    (Real.lt_sqrt (by norm_num [hitRadius])).mpr hr
  simp only [intersectsPlayerCylinder, gt_iff_lt, if_pos hside]

/-- The thrower, `a`, standing at the origin. -/
def thrower : PlayerSnapshot :=
  { id := ascii "a", name := .str (ascii "a"), pos := ⟨0, 0, 0⟩, rotY := 0, vel := ⟨0, 0, 0⟩,
    hp := 100, crouch := false, deadUntil := 0, updatedAt := 0, pingMs := none }

/-- `b`, standing `0.625` along a throw towards `+x` and `0.85` to its side:
midway between the first two samples, inside the radius `0.9`. -/
def grazedPlayer : PlayerSnapshot :=
  { thrower with id := ascii "b", name := .str (ascii "b"), pos := ⟨0.625, 0, 0.85⟩ }

/-- The origin `serverHandleSnowball` gives `a`'s throw. -/
def levelOrigin : Vec3 := ⟨thrower.pos.x, thrower.pos.y + 1.3, thrower.pos.z⟩

/-- The velocity of a throw towards `+x`. -/
def levelVelocity : Vec3 := vec3Mul (norm ⟨1, 0, 0⟩) snowballSpeed

theorem levelVelocity_eq : levelVelocity = ⟨25, 0, 0⟩ := by
  simp [levelVelocity, norm, vec3Normalize, vec3Len, vec3Mul, snowballSpeed]

/-- The level throw is `|1.25 i - 0.625| ≥ 0.625` along from `b` at every sample,
so `0.85` to the side is outside the radius. -/
theorem grazedPlayer_not_sampled (i : ℕ) :
    intersectsPlayerCylinder (sampleAt levelOrigin levelVelocity i) grazedPlayer.pos = false := by
  have halong : (0.625 : ℝ) ^ 2 ≤ (25 * (i * (3 / 60)) - 0.625) ^ 2 := by
    rcases Nat.eq_zero_or_pos i with rfl | hi
    · norm_num
    · have hi' : (1 : ℝ) ≤ i := by exact_mod_cast hi
      nlinarith
  apply intersectsPlayerCylinder_of_lt
  simp only [sampleAt, snowballPosAt, levelVelocity_eq, levelOrigin, grazedPlayer, thrower,
    sampleDt, snowballLifeSec, snowballSimSteps, hitRadius]
  push_cast
  nlinarith

/-- **A throw can cross a cylinder unseen.**  `b` is not skipped, the level
throw of `a` is inside `b`'s cylinder at `t = 1/40`, well within the lifetime
and before the ball could reach the ground, and yet the hit search over the
table `[a, b]` reports no hit. -/
theorem grazing_throw_not_hit :
    ¬ skipsTarget thrower.id 0 grazedPlayer ∧
      intersectsPlayerCylinder (snowballPosAt levelOrigin levelVelocity (1 / 40))
        grazedPlayer.pos = true ∧
      (∀ t' ∈ Set.Icc (0 : ℝ) (1 / 40), 0 ≤ (snowballPosAt levelOrigin levelVelocity t').y) ∧
      (1 / 40 : ℝ) ≤ snowballLifeSec ∧
      hitSearch thrower.id 0 levelOrigin levelVelocity [thrower, grazedPlayer] = none := by
  have hskip : ¬ skipsTarget thrower.id 0 grazedPlayer := by
    simp [skipsTarget, thrower, grazedPlayer]
    decide
  refine ⟨hskip, ?_, ?_, by norm_num [snowballLifeSec], ?_⟩
  · apply intersectsPlayerCylinder_of_le <;>
      norm_num [snowballPosAt, levelVelocity_eq, levelOrigin, grazedPlayer, thrower, gravity,
        hitRadius, hitHeight]
  · rintro t' ⟨h0, h1⟩
    simp only [snowballPosAt, levelVelocity_eq, levelOrigin, thrower, gravity]
    nlinarith
  · rw [hitSearch_eq_none_iff]
    intro p hp hpskip i hhit
    rcases List.mem_pair.mp hp with rfl | rfl
    · exact hpskip (Or.inl rfl)
    · exact Bool.false_ne_true ((grazedPlayer_not_sampled i).symm.trans hhit.2.2)

end

/-! ## Whom a bot aims at

`findNearestPlayer` is the same kind of scan: its key is the horizontal distance
of a living player that is not a bot. -/

/-- The key of the bots' search: the horizontal distance of a living player that
is not a bot. -/
noncomputable def nearestKey (botPos : Vec3) (p : PlayerSnapshot) : Option ℝ :=
  if (ascii "bot-").isPrefixOf p.id ∨ p.hp ≤ 0 then none
  else some (Real.sqrt ((p.pos.x - botPos.x) ^ 2 + (p.pos.z - botPos.z) ^ 2))

theorem findNearestPlayer_eq_scan (botPos : Vec3) (players : List PlayerSnapshot) :
    findNearestPlayer botPos players = (Earliest.scan (nearestKey botPos) players).map Prod.fst := by
  have hstep : (fun (acc : Option (PlayerSnapshot × ℝ)) (player : PlayerSnapshot) =>
      if (ascii "bot-").isPrefixOf player.id ∨ player.hp ≤ 0 then acc
      else
        let dist := Real.sqrt ((player.pos.x - botPos.x) ^ 2 + (player.pos.z - botPos.z) ^ 2)
        if acc.all (fun a => dist < a.2) then some (player, dist) else acc) =
      Earliest.step (nearestKey botPos) := by
    funext acc p
    unfold Earliest.step nearestKey
    split_ifs
    · rfl
    · -- the two comparisons differ only in their `Decidable` instances
      congr
  rw [findNearestPlayer, hstep]
  rfl

/-- **A bot aims at the first nearest living player that is not a bot.**  The
search returns `target` exactly when `target` is, in the order of the cache, the
first living non-bot player at the least horizontal distance. -/
theorem findNearestPlayer_eq_some_iff {botPos : Vec3} {players : List PlayerSnapshot}
    {target : PlayerSnapshot} :
    findNearestPlayer botPos players = some target ↔
      ∃ dist, Earliest.IsFirstMin (nearestKey botPos) players target dist := by
  rw [findNearestPlayer_eq_scan, Option.map_eq_some_iff]
  constructor
  · rintro ⟨⟨a, dist⟩, hs, rfl⟩
    exact ⟨dist, Earliest.scan_eq_some_iff.mp hs⟩
  · rintro ⟨dist, h⟩
    exact ⟨(target, dist), Earliest.scan_eq_some_iff.mpr h, rfl⟩

/-- The search finds nobody exactly when every player is a bot or dead. -/
theorem findNearestPlayer_eq_none_iff {botPos : Vec3} {players : List PlayerSnapshot} :
    findNearestPlayer botPos players = none ↔
      ∀ p ∈ players, (ascii "bot-").isPrefixOf p.id ∨ p.hp ≤ 0 := by
  rw [findNearestPlayer_eq_scan, Option.map_eq_none_iff, Earliest.scan_eq_none_iff]
  refine forall₂_congr fun p _ => ?_
  unfold nearestKey
  split_ifs with h
  · exact iff_of_true rfl h
  · exact iff_of_false (by simp) h

end SnowBrawl
