import Mathlib
import SnowBrawl.Lib.JsString

/-!
# The values a JSON message turns into

`JSON.parse` produces null, booleans, numbers, strings, arrays and objects;
reading a property the object does not have produces `undefined`.  `JsValue` is
that domain.  Nothing here knows what a message *should* contain: a handler that
expects a string field receives whatever the sender put there, and the type
makes the model say what happens then.

## Numbers

A JSON number is a decimal literal.  `JsonNumber` keeps it exactly, as
`mantissa · 10^exponent`, and the program's arithmetic on it is done in `ℝ`:
binary64 is idealised as exact real arithmetic.  Three effects of the
conversion to a double and of rounding can be seen by a program; the model
keeps the first and not the other two.

* Overflow: a literal of magnitude at least `2^1024 − 2^970` (the midpoint above
  `Number.MAX_VALUE`) becomes `±Infinity`, which `Number.isFinite` rejects.
  `JsonNumber.isFinite` is exactly that test.
* Underflow: a non-zero literal below the smallest double, such as `1e-400`,
  parses to `0`, which is falsy; here it keeps its value and is truthy.  Where
  the source tests a number field's truthiness (the `crouch` of a `state`
  message, the `exp` of a token), such a literal takes the other branch.
* Rounding: the program rounds every sum, product and square root to the
  nearest double, and here each is exact.  Two results can then compare
  differently: `2.97 + 1.3` and `2.07 + 2.2` are the same real but different
  doubles, so a hit test of the shot search can go the other way at its
  boundary, and two distances that differ as reals can be the same double,
  which changes the player `findNearestPlayer` takes first.

The results of this development are statements about the exact values, as the
source's comments and configuration describe them.

## Property reads

`get` reads an own property of an object; every other value has none of the
property names a message handler reads, so it yields `undefined` there.  Reading
a property of `null` or `undefined` throws in the language; the handlers modelled
in this development test truthiness first, and their models never call `get` on
those two values.
-/

namespace Js

/-- An exception a built-in operation throws.  The model distinguishes only the
kind: calling a method the receiver does not have is a `TypeError`. -/
inductive JsError where
  | typeError
  deriving DecidableEq, Repr, Inhabited

/-- A JSON number literal, kept exactly: `mantissa · 10^exponent`. -/
structure JsonNumber where
  mantissa : ℤ
  exponent : ℤ
  deriving DecidableEq, Repr

namespace JsonNumber

/-- The exact value of the literal. -/
def value (n : JsonNumber) : ℚ := n.mantissa * (10 : ℚ) ^ n.exponent

/-- The literal `k` with no fraction and no exponent. -/
def ofInt (k : ℤ) : JsonNumber := ⟨k, 0⟩

/-- `Number.isFinite` of the double the literal converts to. -/
def isFinite (n : JsonNumber) : Bool := decide (|n.value| < 2 ^ 1024 - 2 ^ 970)

/-- The value as a real number. -/
def toReal (n : JsonNumber) : ℝ := (n.value : ℝ)

@[simp] theorem value_ofInt (k : ℤ) : (ofInt k).value = k := by simp [value, ofInt]

end JsonNumber

/-- A value produced by `JSON.parse`, or `undefined` from reading a missing
property. -/
inductive JsValue where
  | undefined
  | null
  | bool (b : Bool)
  | num (n : JsonNumber)
  | str (s : JsString)
  | arr (elems : List JsValue)
  | obj (fields : List (JsString × JsValue))

namespace JsValue

/-- ToBoolean: `undefined`, `null`, `false`, `0` and `""` are falsy (a parsed
number is never `NaN`). -/
def truthy : JsValue → Bool
  | undefined => false
  | null => false
  | bool b => b
  | num n => n.mantissa ≠ 0
  | str s => !s.isEmpty
  | arr _ => true
  | obj _ => true

/-- `v.key`.  `JSON.parse` lets a repeated key overwrite the earlier value, so
the last binding wins. -/
def get : JsValue → JsString → JsValue
  | obj fields, key => ((fields.reverse.lookup key).getD undefined)
  | _, _ => undefined

/-- `typeof v === "string"`, returning the string. -/
def asString? : JsValue → Option JsString
  | str s => some s
  | _ => none

/-- `typeof v === "number"`, returning the literal. -/
def asNumber? : JsValue → Option JsonNumber
  | num n => some n
  | _ => none

/-- `Number.isFinite(v)`, returning the value when it holds. -/
def asFinite? (v : JsValue) : Option ℝ :=
  match v with
  | num n => if n.isFinite then some n.toReal else none
  | _ => none

/-- `v === "lit"` for a string literal. -/
def isStr (v : JsValue) (lit : JsString) : Bool :=
  match v with
  | str s => s == lit
  | _ => false

/-- `v ?? d`: the default exactly on `null` and `undefined`. -/
def orElse (v d : JsValue) : JsValue :=
  match v with
  | undefined => d
  | null => d
  | _ => v

/-- `v || d`: the default on every falsy value. -/
def orIfFalsy (v d : JsValue) : JsValue := if v.truthy then v else d

theorem isStr_eq_true {v : JsValue} {lit : JsString} : v.isStr lit = true ↔ v = .str lit := by
  cases v <;> simp [isStr]

/-- A member after all the given ones decides nothing for another key. -/
theorem get_obj_append_of_not_mem {fields extra : List (JsString × JsValue)} {key : JsString}
    (h : key ∉ extra.map Prod.fst) : (obj (fields ++ extra)).get key = (obj fields).get key := by
  have hnone : extra.reverse.lookup key = none := by
    rw [List.lookup_eq_none_iff]
    intro p hp
    have hne : p.1 ≠ key := fun hk => h (List.mem_map.mpr ⟨p, List.mem_reverse.mp hp, hk⟩)
    rw [bne_iff_ne]
    exact fun hk => hne hk.symm
  simp only [get, List.reverse_append, List.lookup_append, hnone, Option.none_or]

theorem lookup_map_value (fields : List (JsString × JsValue)) (g : JsValue → JsValue)
    (key : JsString) :
    (fields.map fun f => (f.1, g f.2)).lookup key = (fields.lookup key).map g := by
  induction fields with
  | nil => rfl
  | cons f rest ih =>
      obtain ⟨k, v⟩ := f
      by_cases h : key = k
      · subst h
        simp [List.lookup]
      · have hb : (key == k) = false := by simpa using h
        simp [List.lookup, hb, ih]

/-- Reading a member commutes with a map on the values that keeps `undefined`. -/
theorem get_obj_map_value {fields : List (JsString × JsValue)} {g : JsValue → JsValue}
    (hg : g undefined = undefined) (key : JsString) :
    (obj (fields.map fun f => (f.1, g f.2))).get key = g ((obj fields).get key) := by
  simp only [get, ← List.map_reverse, lookup_map_value]
  cases fields.reverse.lookup key <;> simp [hg]

@[simp] theorem get_str (s key : JsString) : (str s).get key = undefined := rfl
@[simp] theorem get_num (n : JsonNumber) (key : JsString) : (num n).get key = undefined := rfl

theorem asFinite?_eq_some {v : JsValue} {r : ℝ} :
    v.asFinite? = some r ↔ ∃ n, v = num n ∧ n.isFinite = true ∧ n.toReal = r := by
  cases v with
  | num n =>
      simp only [asFinite?]
      split <;> simp_all
  | _ => simp [asFinite?]

/-! ## Decidable equality -/

mutual
/-- Structural equality of two values. -/
def beq : JsValue → JsValue → Bool
  | undefined, undefined => true
  | null, null => true
  | bool x, bool y => x == y
  | num x, num y => x == y
  | str x, str y => x == y
  | arr xs, arr ys => beqList xs ys
  | obj xs, obj ys => beqFields xs ys
  | _, _ => false

def beqList : List JsValue → List JsValue → Bool
  | [], [] => true
  | x :: xs, y :: ys => beq x y && beqList xs ys
  | _, _ => false

def beqFields : List (JsString × JsValue) → List (JsString × JsValue) → Bool
  | [], [] => true
  | (k, x) :: xs, (l, y) :: ys => k == l && beq x y && beqFields xs ys
  | _, _ => false
end

mutual
theorem beq_iff : ∀ a b : JsValue, beq a b = true ↔ a = b
  | undefined, b => by cases b <;> simp [beq]
  | null, b => by cases b <;> simp [beq]
  | bool x, b => by cases b <;> simp [beq]
  | num x, b => by cases b <;> simp [beq]
  | str x, b => by cases b <;> simp [beq]
  | arr xs, b => by cases b <;> simp [beq, beqList_iff xs]
  | obj xs, b => by cases b <;> simp [beq, beqFields_iff xs]

theorem beqList_iff : ∀ xs ys : List JsValue, beqList xs ys = true ↔ xs = ys
  | [], ys => by cases ys <;> simp [beqList]
  | x :: xs, ys => by cases ys <;> simp [beqList, beq_iff x, beqList_iff xs]

theorem beqFields_iff : ∀ xs ys : List (JsString × JsValue), beqFields xs ys = true ↔ xs = ys
  | [], ys => by cases ys <;> simp [beqFields]
  | (k, x) :: xs, ys => by
      cases ys with
      | nil => simp [beqFields]
      | cons f ys =>
          obtain ⟨l, y⟩ := f
          simp [beqFields, beq_iff x, beqFields_iff xs, and_assoc]
end

/-- Values can be compared, so the results of a parser can be checked by `decide`. -/
instance : DecidableEq JsValue := fun a b => decidable_of_iff _ (beq_iff a b)


end JsValue

/-- Setting a member of an object literal (`{ ...fields, key: v }`): a member
of that name keeps its place and takes the value, otherwise the member goes last
(`CreateDataProperty`, ECMA-262 §7.3.5). -/
def setField (fields : List (JsString × JsValue)) (key : JsString) (v : JsValue) :
    List (JsString × JsValue) :=
  if key ∈ fields.map Prod.fst then fields.map fun f => if f.1 = key then (key, v) else f
  else fields ++ [(key, v)]

/-- A member after the update is an old one or the one set. -/
theorem mem_setField {fields : List (JsString × JsValue)} {key : JsString} {v : JsValue}
    {f : JsString × JsValue} (h : f ∈ setField fields key v) : f ∈ fields ∨ f = (key, v) := by
  unfold setField at h
  split_ifs at h
  · obtain ⟨g, hg, rfl⟩ := List.mem_map.mp h
    split_ifs
    · exact Or.inr rfl
    · exact Or.inl hg
  · simpa using h

theorem setField_of_not_mem {fields : List (JsString × JsValue)} {key : JsString}
    (h : key ∉ fields.map Prod.fst) (v : JsValue) : setField fields key v = fields ++ [(key, v)] :=
  if_neg h

end Js
