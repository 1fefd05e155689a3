import SnowBrawl.Protocol

/-!
# `utils.ts`

The sanitisers and the ballistics helpers the handlers call.

`clampName` and `clampChat` receive whatever a message carried.  In the source
they begin with `(value ?? "").trim()`: on `null` and `undefined` that is the
trim of `""`, on a string it is the string's trim, and on any other value it
calls a method the value does not have and throws a `TypeError`.  The model's
result type, `Except JsError JsString`, records exactly that.

`isFiniteVec3` is the shape check of the `state` and `snowball` payloads; it
returns the vector it accepted, so a handler cannot use a component the check
did not read.
-/

namespace SnowBrawl

open Js

/-- `(v ?? "").trim()`: the trim of a string, of `""` for `null` and
`undefined`, and a `TypeError` for every other value. -/
def trimValue (v : JsValue) : Except JsError JsString :=
  match v.orElse (.str []) with
  | .str s => .ok (trim s)
  | _ => .error .typeError

/-- `clampName(name)`: trim, collapse whitespace runs to one space, fall back to
`"Player"` when nothing is left, keep at most `MAX_NAME` code units. -/
def clampName (name : JsValue) : Except JsError JsString := do
  let trimmed := collapseWhitespace (← trimValue name)
  return slice (if trimmed.isEmpty then ascii "Player" else trimmed) maxName

/-- `clampChat(textValue)`: trim, keep at most `MAX_CHAT` code units. -/
def clampChat (textValue : JsValue) : Except JsError JsString := do
  return slice (← trimValue textValue) maxChat

/-- `isUuidLike(s)`: a string of 8 to 64 code units. -/
def isUuidLike (s : JsValue) : Option JsString :=
  match s with
  | .str u => if 8 ≤ u.length ∧ u.length ≤ 64 then some u else none
  | _ => none

/-- `isFiniteVec3(v)`: `v` is truthy and its `x`, `y`, `z` are finite numbers;
the accepted vector. -/
noncomputable def isFiniteVec3 (v : JsValue) : Option Vec3 :=
  if v.truthy then do
    let x ← (v.get (ascii "x")).asFinite?
    let y ← (v.get (ascii "y")).asFinite?
    let z ← (v.get (ascii "z")).asFinite?
    return ⟨x, y, z⟩
  else none

noncomputable section

/-- `vec3Len(a)`, `Math.hypot(a.x, a.y, a.z)`. -/
def vec3Len (a : Vec3) : ℝ := Real.sqrt (a.x ^ 2 + a.y ^ 2 + a.z ^ 2)

/-- `vec3Normalize(a)`; a zero vector is divided by 1 (`|| 1`). -/
def vec3Normalize (a : Vec3) : Vec3 :=
  let L := if vec3Len a = 0 then 1 else vec3Len a
  ⟨a.x / L, a.y / L, a.z / L⟩

/-- A normalised vector has length 1, or is zero when its input was. -/
theorem vec3Normalize_sq (a : Vec3) :
    (vec3Normalize a).x ^ 2 + (vec3Normalize a).y ^ 2 + (vec3Normalize a).z ^ 2 =
      if vec3Len a = 0 then 0 else 1 := by
  have hsq : vec3Len a ^ 2 = a.x ^ 2 + a.y ^ 2 + a.z ^ 2 := Real.sq_sqrt (by positivity)
  unfold vec3Normalize
  split_ifs with hzero
  · -- the length is zero, so is the sum of the squares it is the root of
    rw [hzero] at hsq
    simp only [div_one]
    linarith
  · rw [div_pow, div_pow, div_pow, ← add_div, ← add_div, ← hsq]
    exact div_self (pow_ne_zero 2 hzero)

/-- `norm(v)`, the same computation as `vec3Normalize`. -/
def norm (v : Vec3) : Vec3 := vec3Normalize v

/-- `vec3Mul(a, s)`. -/
def vec3Mul (a : Vec3) (s : ℝ) : Vec3 := ⟨a.x * s, a.y * s, a.z * s⟩

/-- `snowballPosAt(origin, v0, t)`: the parabola under `CONFIG.GAME.gravity`. -/
def snowballPosAt (origin v0 : Vec3) (t : ℝ) : Vec3 :=
  ⟨origin.x + v0.x * t, origin.y + v0.y * t - 0.5 * gravity * t * t, origin.z + v0.z * t⟩

/-- `intersectsPlayerCylinder(p, playerPos)`: within `hitRadius` horizontally
and between the feet and `hitHeight` above them. -/
def intersectsPlayerCylinder (p playerPos : Vec3) : Bool :=
  let dx := p.x - playerPos.x
  let dz := p.z - playerPos.z
  let horizontal := Real.sqrt (dx ^ 2 + dz ^ 2)
  if horizontal > hitRadius then false
  else decide (p.y ≥ playerPos.y ∧ p.y ≤ playerPos.y + hitHeight)

end

/-! ## The sanitisers -/

theorem trimValue_eq_ok_iff {v : JsValue} {s : JsString} :
    trimValue v = .ok s ↔
      (∃ u, v = .str u ∧ trim u = s) ∨ ((v = .undefined ∨ v = .null) ∧ s = []) := by
  cases v <;> simp [trimValue, JsValue.orElse, trim, eq_comm]

/-- The trim throws exactly on the values that are neither strings nor nullish. -/
theorem trimValue_eq_error_iff {v : JsValue} :
    trimValue v = .error .typeError ↔
      (v.asString? = none ∧ v ≠ .undefined ∧ v ≠ .null) := by
  cases v <;> simp [trimValue, JsValue.orElse, JsValue.asString?]

/-- A name `clampName` returns has between one and `MAX_NAME` code units. -/
theorem clampName_length {v : JsValue} {s : JsString} (h : clampName v = .ok s) :
    1 ≤ s.length ∧ s.length ≤ maxName := by
  simp only [clampName, bind, Except.bind, pure, Except.pure] at h
  split at h
  · cases h
  · next trimmed htrim =>
      cases h
      apply slice_length_mem _ (by decide)
      split
      · decide
      · next hne => simpa using hne

end SnowBrawl
