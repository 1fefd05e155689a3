import SnowBrawl.Lib.Json

/-!
# `ToNumber`, `ToString` and `<` against a number

`a < b` on a value `a` and a number `b` converts `a` with `ToNumber`
(ECMA-262 §7.1.4) and compares; a `NaN` makes the comparison false.  Strings
are read by `StringToNumber`: after trimming, the empty string is `0`,
`Infinity` may carry a sign, a decimal literal may omit the digits on either
side of its point and may have an exponent, and `0b`, `0o` and `0x` introduce
unsigned binary, octal and hexadecimal integers.  An array is first turned into
the string its `join(",")` builds, an object into `"[object Object]"`.

`NumberValue` is the result: a rational (numbers are exact decimals in this
development), one of the two infinities, or `NaN`.
-/

namespace Js
open Json

/-- The value `ToNumber` produces. -/
inductive NumberValue where
  | finite (q : ℚ)
  | posInf
  | negInf
  | nan
  deriving DecidableEq

namespace NumberValue

/-- Unary minus. -/
def neg : NumberValue → NumberValue
  | finite q => finite (-q)
  | posInf => negInf
  | negInf => posInf
  | nan => nan

/-- `x < n` for a natural number `n`: false on `NaN` and `+Infinity`. -/
def ltNat : NumberValue → ℕ → Bool
  | finite q, n => decide (q < n)
  | negInf, _ => true
  | _, _ => false

end NumberValue

/-- The value of digits in a base, most significant first. -/
def digitsValueIn (base : ℕ) (ds : List ℕ) : ℕ := ds.foldl (fun acc d => acc * base + d) 0

/-- The value of a digit of the base (2, 8, 10 or 16), in either case. -/
def digitIn (base : ℕ) (u : CodeUnit) : Option ℕ :=
  match hexValue u with
  | some d => if d < base then some d else none
  | none => none

/-- The whole text as digits of the base, at least one. -/
def allDigits (base : ℕ) (s : JsString) : Option (List ℕ) :=
  if s = [] then none else s.mapM (digitIn base)

/-- An optional exponent closing a decimal literal: nothing, or `e`/`E`, an
optional sign and digits up to the end of the text. -/
def exponentPart : JsString → Option ℤ
  | [] => some 0
  | u :: r =>
      if u = 0x65 ∨ u = 0x45 then
        let (neg, digits) : Bool × JsString :=
          match r with
          | v :: r' => if v = 0x2D then (true, r') else if v = 0x2B then (false, r') else (false, r)
          | [] => (false, [])
        (allDigits 10 digits).map fun ds =>
          if neg then -(digitsValueIn 10 ds : ℤ) else digitsValueIn 10 ds
      else none

/-- *StrUnsignedDecimalLiteral*, the whole text: `Infinity`, or digits, an
optional point with optional digits, and an optional exponent; at least one
digit before or after the point. -/
def unsignedDecimal (s : JsString) : Option NumberValue :=
  if s = ascii "Infinity" then some .posInf
  else
    let (intDigits, r₁) := spanDigits s
    let (fracDigits, r₂) : List ℕ × JsString :=
      match r₁ with
      | u :: r => if u = 0x2E then spanDigits r else ([], r₁)
      | [] => ([], [])
    if intDigits = [] ∧ fracDigits = [] then none
    else (exponentPart r₂).map fun (e : ℤ) =>
      .finite ((digitsValueIn 10 (intDigits ++ fracDigits) : ℚ) * (10 : ℚ) ^ (e - (fracDigits.length : ℤ)))

/-- `StringToNumber(s)` (ECMA-262 §7.1.4.1.1). -/
def stringToNumber (s : JsString) : NumberValue :=
  let t := trim s
  let literal : Option NumberValue :=
    match t with
    | [] => some (.finite 0)
    | u :: rest =>
        let radix : Option ℕ :=
          match rest with
          | x :: _ =>
              if u = 0x30 ∧ (x = 0x62 ∨ x = 0x42) then some 2
              else if u = 0x30 ∧ (x = 0x6F ∨ x = 0x4F) then some 8
              else if u = 0x30 ∧ (x = 0x78 ∨ x = 0x58) then some 16
              else none
          | [] => none
        match radix with
        | some base => (allDigits base rest.tail).map fun ds => .finite (digitsValueIn base ds)
        | none =>
            if u = 0x2B then unsignedDecimal rest
            else if u = 0x2D then (unsignedDecimal rest).map NumberValue.neg
            else unsignedDecimal (u :: rest)
  literal.getD .nan

mutual
/-- `ToString(v)`. -/
def toStringValue : JsValue → JsString
  | .undefined => ascii "undefined"
  | .null => ascii "null"
  | .bool b => if b then ascii "true" else ascii "false"
  | .num x =>
      if x.isFinite then numberToString x
      else if x.mantissa < 0 then ascii "-Infinity" else ascii "Infinity"
  | .str s => s
  | .arr xs => joinElements xs
  | .obj _ => ascii "[object Object]"

/-- `Array.prototype.join(",")`: `undefined` and `null` elements are empty. -/
def joinElements : List JsValue → JsString
  | [] => []
  | x :: rest =>
      let first := match x with
        | .undefined => []
        | .null => []
        | _ => toStringValue x
      match rest with
      | [] => first
      | _ :: _ => first ++ 0x2C :: joinElements rest
end

/-- `ToNumber(v)`; an array or object goes through `ToPrimitive`, whose
`valueOf` returns the object itself, so through its `toString`. -/
def toNumber : JsValue → NumberValue
  | .undefined => .nan
  | .null => .finite 0
  | .bool b => .finite (if b then 1 else 0)
  | .num x =>
      if x.isFinite then .finite x.value
      else if x.mantissa < 0 then .negInf else .posInf
  | .str s => stringToNumber s
  | .arr xs => stringToNumber (joinElements xs)
  | .obj _ => .nan

/-- `v < n` for a natural number `n`. -/
def lessThanNat (v : JsValue) (n : ℕ) : Bool := (toNumber v).ltNat n

theorem lessThanNat_ofInt {k : ℤ} (hk : k.natAbs < 10 ^ 21) (n : ℕ) :
    lessThanNat (.num (.ofInt k)) n = decide (k < n) := by
  simp only [lessThanNat, toNumber, isFinite_ofInt hk, if_true, NumberValue.ltNat,
    JsonNumber.value_ofInt]
  congr 1
  exact propext (by exact_mod_cast Iff.rfl)

end Js
