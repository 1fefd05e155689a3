import Mathlib.Data.Real.Basic
import Mathlib.Algebra.BigOperators.Group.List.Basic
import Mathlib.Tactic.Ring
import Mathlib.Tactic.Linarith

/-!
# Semi-implicit Euler steps under constant acceleration

A game loop that integrates a body under a constant acceleration `a` with frame
times `dt₁, dt₂, …` updates the velocity first and then moves the body with the
new velocity:

    v ← v + a·dt,   p ← p + v·dt.

For one coordinate this is `eulerStep`, and `eulerRun` folds it over the frame
times.  The result depends on the frames only through their total `T = Σ dtᵢ`
and their total square `Q = Σ dtᵢ²`:

    p = p₀ + v₀·T + (a/2)·(T² + Q),   v = v₀ + a·T   (`eulerRun_eq`).

The exact parabola has `T²` where the steps have `T² + Q`; since `Q ≤ h·T` when
every frame is at most `h` (`sum_sq_le`), the steps drift from it by at most
`|a|/2 · h · T`.
-/

namespace Euler

/-- One frame of length `dt`: velocity first, then position. -/
def eulerStep (a : ℝ) (pv : ℝ × ℝ) (dt : ℝ) : ℝ × ℝ :=
  (pv.1 + (pv.2 + a * dt) * dt, pv.2 + a * dt)

/-- The frames `dts`, in order. -/
def eulerRun (a : ℝ) (dts : List ℝ) (pv : ℝ × ℝ) : ℝ × ℝ :=
  dts.foldl (eulerStep a) pv

/-- The total square `Σ dtᵢ²` of the frames. -/
def sumSq (dts : List ℝ) : ℝ := (dts.map fun dt => dt ^ 2).sum

@[simp] theorem sumSq_nil : sumSq [] = 0 := rfl

@[simp] theorem sumSq_cons (dt : ℝ) (dts : List ℝ) : sumSq (dt :: dts) = dt ^ 2 + sumSq dts := by
  simp [sumSq]

@[simp] theorem eulerRun_nil (a : ℝ) (pv : ℝ × ℝ) : eulerRun a [] pv = pv := rfl

theorem eulerRun_cons (a dt : ℝ) (dts : List ℝ) (pv : ℝ × ℝ) :
    eulerRun a (dt :: dts) pv = eulerRun a dts (eulerStep a pv dt) := rfl

/-- **The closed form of a run.**  It depends on the frames only through their
total `T` and total square `Q`. -/
theorem eulerRun_eq (a : ℝ) (dts : List ℝ) (p v : ℝ) :
    eulerRun a dts (p, v) =
      (p + v * dts.sum + a / 2 * (dts.sum ^ 2 + sumSq dts), v + a * dts.sum) := by
  induction dts generalizing p v with
  | nil => simp
  | cons dt dts ih =>
      rw [eulerRun_cons, eulerStep, ih, List.sum_cons, sumSq_cons]
      -- after the first frame the body is at `p + (v + a dt) dt` with velocity `v + a dt`
      congr 1 <;> ring

/-- Frames of at most `h` have a total square of at most `h` times their total. -/
theorem sum_sq_le {h : ℝ} {dts : List ℝ} (hframes : ∀ dt ∈ dts, 0 ≤ dt ∧ dt ≤ h) :
    sumSq dts ≤ h * dts.sum := by
  induction dts with
  | nil => simp
  | cons dt dts ih =>
      obtain ⟨hpos, hle⟩ := hframes dt List.mem_cons_self
      have htail := ih fun x hx => hframes x (List.mem_cons_of_mem dt hx)
      rw [sumSq_cons, List.sum_cons]
      have hsq : dt ^ 2 ≤ h * dt := by nlinarith
      linarith

theorem sumSq_nonneg (dts : List ℝ) : 0 ≤ sumSq dts := by
  induction dts with
  | nil => simp
  | cons dt dts ih =>
      rw [sumSq_cons]
      positivity

end Euler
