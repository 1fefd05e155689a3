import SnowBrawl.Bot
import SnowBrawl.Lib.Euler

/-!
# The client's snowball against the server's

The server decides hits on the parabola `snowballPosAt(origin, dir · 25, t)`
under its own gravity `20` (`CONFIG.GAME`).  Every client draws the throw as a
`Snowball` created by `NetworkManager.applyEvent` from the event's `origin` and
`dir`, and moves it once per frame by `Snowball.update(dt)`: a semi-implicit
Euler step under the client's `CONFIG`, gravity `22` and speed `28`.  The
event's `speed` is not read.

## Main results

* `run_coords` — while the ball is active, each coordinate of a run of `update`
  is a run of `Euler.eulerStep`, so `Euler.eulerRun_eq` gives it in closed form.
* `remote_snowball_misses_server_path` — after one second of frames the client's
  ball is more than `hitRadius` away from where the server tests for hits, for
  every direction the server can broadcast.
-/

namespace SnowBrawl

namespace Client

/-- `CONFIG.gravity` of `client_src/utils.js`. -/
def gravity : ℝ := 22

/-- `CONFIG.snowballSpeed` of `client_src/utils.js`. -/
def snowballSpeed : ℝ := 28

/-- A box of `STATIC_OBSTACLES`. -/
structure Box where
  min : Vec3
  max : Vec3

/-- What `update` reads and writes of a client `Snowball`. -/
structure Snowball where
  pos : Vec3
  velocity : Vec3
  active : Bool

noncomputable section

namespace Snowball

/-- `new Snowball(ev.id, ev.origin, ev.dir, ev.ownerId)` in `applyEvent`. -/
def ofEvent (origin dir : Vec3) : Snowball := ⟨origin, vec3Mul dir snowballSpeed, true⟩

/-- The obstacle test of `update`: the ball, of radius `0.2`, overlaps `box`. -/
def touches (p : Vec3) (box : Box) : Prop :=
  let radius : ℝ := 0.2
  ¬ (p.y + radius < box.min.y ∨ p.y - radius > box.max.y) ∧
    box.min.x - radius ≤ p.x ∧ p.x ≤ box.max.x + radius ∧
    box.min.z - radius ≤ p.z ∧ p.z ≤ box.max.z + radius

instance (p : Vec3) : DecidablePred (touches p) := fun box =>
  inferInstanceAs (Decidable (¬ (p.y + 0.2 < box.min.y ∨ p.y - 0.2 > box.max.y) ∧
    box.min.x - 0.2 ≤ p.x ∧ p.x ≤ box.max.x + 0.2 ∧ box.min.z - 0.2 ≤ p.z ∧ p.z ≤ box.max.z + 0.2))

/-- `update(dt)`: gravity on the velocity, the velocity on the position, then
the ball is destroyed on the ground (`terrainHeight` under the client's
`worldSeed`) or in an obstacle. -/
def update (terrain : ℝ → ℝ → ℝ) (obstacles : List Box) (dt : ℝ) (b : Snowball) : Snowball :=
  if !b.active then b
  else
    let velocity : Vec3 := ⟨b.velocity.x, b.velocity.y - gravity * dt, b.velocity.z⟩
    let pos : Vec3 :=
      ⟨b.pos.x + velocity.x * dt, b.pos.y + velocity.y * dt, b.pos.z + velocity.z * dt⟩
    if pos.y ≤ terrain pos.x pos.z then ⟨pos, velocity, false⟩
    else if ∃ box ∈ obstacles, touches pos box then ⟨pos, velocity, false⟩
    else ⟨pos, velocity, true⟩

/-- The frames `dts`, in order. -/
def run (terrain : ℝ → ℝ → ℝ) (obstacles : List Box) (dts : List ℝ) (b : Snowball) : Snowball :=
  dts.foldl (fun b dt => update terrain obstacles dt b) b

section Run

variable {terrain : ℝ → ℝ → ℝ} {obstacles : List Box}

theorem update_of_inactive {b : Snowball} (hb : b.active = false) (dt : ℝ) :
    update terrain obstacles dt b = b := by
  simp [update, hb]

theorem run_of_inactive {b : Snowball} (hb : b.active = false) (dts : List ℝ) :
    run terrain obstacles dts b = b := by
  induction dts with
  | nil => rfl
  | cons dt dts ih =>
      simp only [run, List.foldl_cons, update_of_inactive hb] at ih ⊢
      exact ih

/-- A ball active at the end of a run was active at its start. -/
theorem active_of_run_active {b : Snowball} {dts : List ℝ}
    (hactive : (run terrain obstacles dts b).active = true) : b.active = true := by
  cases hb : b.active
  · rw [run_of_inactive hb] at hactive
    rw [hb] at hactive
    exact hactive
  · rfl

/-- An active ball moves by one Euler step in each coordinate, whether or not
the frame then destroys it. -/
theorem update_coords {b : Snowball} (hb : b.active = true) (dt : ℝ) :
    let b' := update terrain obstacles dt b
    (b'.pos.x, b'.velocity.x) = Euler.eulerStep 0 (b.pos.x, b.velocity.x) dt ∧
    (b'.pos.y, b'.velocity.y) = Euler.eulerStep (-gravity) (b.pos.y, b.velocity.y) dt ∧
    (b'.pos.z, b'.velocity.z) = Euler.eulerStep 0 (b.pos.z, b.velocity.z) dt := by
  intro b'
  have hpos : b'.pos = ⟨b.pos.x + b.velocity.x * dt,
      b.pos.y + (b.velocity.y - gravity * dt) * dt, b.pos.z + b.velocity.z * dt⟩ := by
    simp only [b', update, hb, Bool.not_true, Bool.false_eq_true, ite_false]
    split_ifs <;> rfl
  have hvel : b'.velocity = ⟨b.velocity.x, b.velocity.y - gravity * dt, b.velocity.z⟩ := by
    simp only [b', update, hb, Bool.not_true, Bool.false_eq_true, ite_false]
    split_ifs <;> rfl
  rw [hpos, hvel]
  simp only [Euler.eulerStep, zero_mul, add_zero, neg_mul, ← sub_eq_add_neg, and_self]

/-- **Each coordinate of an active run is an Euler run**: under no acceleration
horizontally and under the client's gravity vertically. -/
theorem run_coords {b : Snowball} {dts : List ℝ}
    (hactive : (run terrain obstacles dts b).active = true) :
    let r := run terrain obstacles dts b
    (r.pos.x, r.velocity.x) = Euler.eulerRun 0 dts (b.pos.x, b.velocity.x) ∧
    (r.pos.y, r.velocity.y) = Euler.eulerRun (-gravity) dts (b.pos.y, b.velocity.y) ∧
    (r.pos.z, r.velocity.z) = Euler.eulerRun 0 dts (b.pos.z, b.velocity.z) := by
  induction dts generalizing b with
  | nil => exact ⟨rfl, rfl, rfl⟩
  | cons dt dts ih =>
      -- the run goes on from the ball after the first frame, which was active
      have hrest : (run terrain obstacles dts (update terrain obstacles dt b)).active = true :=
        hactive
      have hb : b.active = true := active_of_run_active hactive
      obtain ⟨hx, hy, hz⟩ := @update_coords terrain obstacles b hb dt
      obtain ⟨ihx, ihy, ihz⟩ := ih hrest
      refine ⟨?_, ?_, ?_⟩
      · rw [Euler.eulerRun_cons, ← hx]
        exact ihx
      · rw [Euler.eulerRun_cons, ← hy]
        exact ihy
      · rw [Euler.eulerRun_cons, ← hz]
        exact ihz

/-- A ball rising from above every point of the terrain, with the vertical speed
for `n` more frames of 1/60 s, stays active through them when there are no
obstacles. -/
theorem run_rising_active (hterrain : ∀ x z, terrain x z ≤ 16) (n : ℕ) (b : Snowball)
    (hb : b.active = true) (hy : 16 < b.pos.y) (hv : gravity / 60 * n ≤ b.velocity.y) :
    (run terrain [] (List.replicate n (1 / 60)) b).active = true := by
  induction n generalizing b with
  | zero => exact hb
  | succ n ih =>
      -- the frame slows the ball by `gravity / 60` and it still rises
      have hv' : gravity / 60 * n ≤ b.velocity.y - gravity * (1 / 60) := by
        push_cast at hv
        linarith
      have hrise : 0 ≤ b.velocity.y - gravity * (1 / 60) := by
        have : (0 : ℝ) ≤ gravity / 60 * n := by unfold gravity; positivity
        linarith
      have hy' : 16 < b.pos.y + (b.velocity.y - gravity * (1 / 60)) * (1 / 60) := by
        have hclimb := mul_nonneg hrise (by norm_num : (0 : ℝ) ≤ 1 / 60)
        linarith
      have hup : update terrain [] (1 / 60) b =
          ⟨⟨b.pos.x + b.velocity.x * (1 / 60), b.pos.y + (b.velocity.y - gravity * (1 / 60)) * (1 / 60),
            b.pos.z + b.velocity.z * (1 / 60)⟩, ⟨b.velocity.x, b.velocity.y - gravity * (1 / 60),
            b.velocity.z⟩, true⟩ := by
        have habove := lt_of_le_of_lt (hterrain (b.pos.x + b.velocity.x * (1 / 60))
          (b.pos.z + b.velocity.z * (1 / 60))) hy'
        simp only [update, hb, Bool.not_true, Bool.false_eq_true, ite_false]
        rw [if_neg (not_le.mpr habove)]
        simp
      simp only [run, List.replicate_succ, List.foldl_cons] at ih ⊢
      rw [hup]
      exact ih _ rfl hy' hv'

end Run

end Snowball

/-- The distance between two points. -/
def dist3 (p q : Vec3) : ℝ := vec3Len ⟨p.x - q.x, p.y - q.y, p.z - q.z⟩

/-- The offset between the client's ball and the server's parabola after one
second, in closed form: `3 · dir` from the speeds, and `1 + 11 Q` downwards from
the gravities and the Euler term `Q = Σ dtᵢ²`. -/
theorem offset_after_one_second {terrain : ℝ → ℝ → ℝ} {obstacles : List Box}
    {origin dir : Vec3} {dts : List ℝ} (htotal : dts.sum = 1)
    (hactive : (Snowball.run terrain obstacles dts (Snowball.ofEvent origin dir)).active = true) :
    let p := (Snowball.run terrain obstacles dts (Snowball.ofEvent origin dir)).pos
    let q := snowballPosAt origin (vec3Mul dir SnowBrawl.snowballSpeed) 1
    p.x - q.x = 3 * dir.x ∧ p.y - q.y = 3 * dir.y - (1 + 11 * Euler.sumSq dts) ∧
      p.z - q.z = 3 * dir.z := by
  obtain ⟨hx, hy, hz⟩ := Snowball.run_coords hactive
  rw [Euler.eulerRun_eq, htotal] at hx hy hz
  generalize Snowball.run terrain obstacles dts (Snowball.ofEvent origin dir) = r at hx hy hz ⊢
  simp only [Snowball.ofEvent, vec3Mul, Prod.mk.injEq] at hx hy hz
  simp only [snowballPosAt, vec3Mul, hx.1, hy.1, hz.1, gravity, snowballSpeed,
    SnowBrawl.gravity, SnowBrawl.snowballSpeed]
  refine ⟨by ring, by ring, by ring⟩

/-- **The client draws the snowball away from where the server tests for hits.**
Take any snowball event the server broadcasts: any `origin`, and the direction
`norm(msg.dir)` of any `msg.dir`.  After any frames of at most 1/60 s that add
up to one second, if the client's ball is still active it lies more than
`hitRadius` from `snowballPosAt(origin, dir · 25, 1)`: the offset of
`offset_after_one_second` is at least `2 - 11/60` long. -/
theorem remote_snowball_misses_server_path (terrain : ℝ → ℝ → ℝ) (obstacles : List Box)
    (origin msgDir : Vec3) (dts : List ℝ) (hframes : ∀ dt ∈ dts, 0 < dt ∧ dt ≤ 1 / 60)
    (htotal : dts.sum = 1)
    (hactive :
      (Snowball.run terrain obstacles dts (Snowball.ofEvent origin (norm msgDir))).active = true) :
    hitRadius < dist3 (Snowball.run terrain obstacles dts (Snowball.ofEvent origin (norm msgDir))).pos
      (snowballPosAt origin (vec3Mul (norm msgDir) SnowBrawl.snowballSpeed) 1) := by
  obtain ⟨hx, hy, hz⟩ := offset_after_one_second htotal hactive
  -- the Euler term of frames of at most 1/60 s over one second
  have hQ : Euler.sumSq dts ≤ 1 / 60 := by
    have hle := Euler.sum_sq_le fun dt hdt => And.intro (hframes dt hdt).1.le (hframes dt hdt).2
    rw [htotal, mul_one] at hle
    exact hle
  have hQ0 := Euler.sumSq_nonneg dts
  -- the broadcast direction has length 1, or is zero
  have hunit : (norm msgDir).x ^ 2 + (norm msgDir).y ^ 2 + (norm msgDir).z ^ 2 =
      if vec3Len msgDir = 0 then 0 else 1 := vec3Normalize_sq msgDir
  set d := norm msgDir with hd
  set c := 1 + 11 * Euler.sumSq dts with hc
  unfold dist3 vec3Len
  rw [Real.lt_sqrt (by norm_num [hitRadius]), hx, hy, hz, hitRadius]
  have hsq : (3 * d.x) ^ 2 + (3 * d.y - c) ^ 2 + (3 * d.z) ^ 2 =
      9 * (d.x ^ 2 + d.y ^ 2 + d.z ^ 2) - 6 * d.y * c + c ^ 2 := by ring
  rw [hsq]
  have hdy : d.y ^ 2 ≤ d.x ^ 2 + d.y ^ 2 + d.z ^ 2 := by linarith [sq_nonneg d.x, sq_nonneg d.z]
  have hc1 : 1 ≤ c := by linarith
  split_ifs at hunit
  · -- `msg.dir` was zero: the offset is the vertical `c ≥ 1`
    rw [hunit] at hdy ⊢
    have hy0 : d.y = 0 := pow_eq_zero_iff two_ne_zero |>.mp (le_antisymm hdy (sq_nonneg d.y))
    have hcc : 1 ≤ c ^ 2 := one_le_pow₀ hc1
    rw [hy0]
    norm_num
    linarith
  · -- a unit direction: `9 - 6 c dir.y + c² ≥ (3 - c)²`, and `c ≤ 1 + 11/60`
    rw [hunit] at hdy ⊢
    have hy1 : d.y ≤ 1 := (abs_le.mp ((sq_le_one_iff_abs_le_one d.y).mp hdy)).2
    have hyc : d.y * c ≤ c := mul_le_of_le_one_left (by linarith) hy1
    have hfar : (9 / 5 : ℝ) ^ 2 ≤ (3 - c) ^ 2 := pow_le_pow_left₀ (by norm_num) (by linarith) 2
    have hexpand : (3 - c) ^ 2 = 9 - 6 * c + c ^ 2 := by ring
    linarith

/-- A throw straight up from height 17, drawn at 60 frames per second. -/
theorem remote_snowball_misses_server_path_straight_up :
    (∀ dt ∈ List.replicate 60 (1 / 60 : ℝ), 0 < dt ∧ dt ≤ 1 / 60) ∧
    (List.replicate 60 (1 / 60 : ℝ)).sum = 1 ∧
    (Snowball.run (terrainHeight 0) [] (List.replicate 60 (1 / 60))
      (Snowball.ofEvent ⟨0, 17, 0⟩ (norm ⟨0, 1, 0⟩))).active = true ∧
    hitRadius < dist3 (Snowball.run (terrainHeight 0) [] (List.replicate 60 (1 / 60))
      (Snowball.ofEvent ⟨0, 17, 0⟩ (norm ⟨0, 1, 0⟩))).pos
      (snowballPosAt ⟨0, 17, 0⟩ (vec3Mul (norm ⟨0, 1, 0⟩) SnowBrawl.snowballSpeed) 1) := by
  have hframes : ∀ dt ∈ List.replicate 60 (1 / 60 : ℝ), 0 < dt ∧ dt ≤ 1 / 60 := by
    intro dt hdt
    rw [(List.mem_replicate.mp hdt).2]
    norm_num
  have htotal : (List.replicate 60 (1 / 60 : ℝ)).sum = 1 := by
    rw [List.sum_replicate]
    norm_num
  have hup : norm ⟨0, 1, 0⟩ = ⟨0, 1, 0⟩ := by
    simp [norm, vec3Normalize, vec3Len]
  have hactive : (Snowball.run (terrainHeight 0) [] (List.replicate 60 (1 / 60))
      (Snowball.ofEvent ⟨0, 17, 0⟩ (norm ⟨0, 1, 0⟩))).active = true := by
    apply Snowball.run_rising_active (terrainHeight_le 0) 60 _ rfl
    · norm_num [Snowball.ofEvent]
    · simp only [Snowball.ofEvent, hup, vec3Mul, gravity, snowballSpeed]
      norm_num
  exact ⟨hframes, htotal, hactive,
    remote_snowball_misses_server_path _ _ _ _ _ hframes htotal hactive⟩

end

end Client

end SnowBrawl
