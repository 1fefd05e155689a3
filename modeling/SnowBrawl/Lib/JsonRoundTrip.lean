import SnowBrawl.Lib.Json

/-!
# Every value read back

`Json.parse_serialize_obj` reads back flat objects only.  This module reads
back every value: numbers of any size and exponent, and arrays and objects
nested to any depth.

A value does not come back unchanged.  `JSON.stringify` writes `undefined` and
the numbers that are not finite as `null`, and it leaves out an object member
whose value is `undefined`.  A number comes back with the same value, but it may
be a different literal: `1e21` is written `1e+21`, and `100` is read as the
literal `100`, not `1e2`.  `normalize` keeps exactly what survives.  It writes
each finite number as its canonical literal `JsonNumber.canon`, which has no
trailing zero in its mantissa.  Two literals have one canonical literal exactly
when their values agree (`canon_eq_canon_iff`).

## Numbers

`Number::toString` writes the significant digits `sigDigits` in one of five
forms, chosen by where the decimal point falls:

* digits then zeros;
* a point inside the digits;
* `0.` and zeros before the digits;
* one digit and an exponent;
* one digit, a point, the rest, and an exponent.

`parseNumber_significandText` reads each form back, and
`parseNumber_numberToString` assembles the five forms.

## Values

The parser is mutual over values, array elements and object members, and so is
the proof.  `ReadsBack`, `ElementsReadBack` and `MembersReadBack` say what is
read back from each kind of text.  There is one lemma for each constructor,
which takes the facts for the values inside it.  The mutual theorem
`readsBack` assembles these lemmas by structural recursion on the value, the
same recursion that `serialize` follows.  The fuel that `parse` starts with is
more than the length of the text, and that is enough at every depth.

## Main results

* `canon_eq_canon_iff`: two literals have the same canonical literal exactly
  when they have the same value.
* `parseNumber_numberToString`: the text of a number reads back as a literal
  with the same value.
* `parse_serialize`: the text of any value reads back as a value with the same
  `normalize`.
-/

namespace Js.JsonNumber

/-! ## Canonical literals -/

/-- Move up to `fuel` trailing zeros of the mantissa into the exponent. -/
def stripZeros : ℕ → ℤ → ℤ → JsonNumber
  | 0, m, e => ⟨m, e⟩
  | fuel + 1, m, e => if m ≠ 0 ∧ 10 ∣ m then stripZeros fuel (m / 10) (e + 1) else ⟨m, e⟩

/-- The literal of the same value with no trailing zero in its mantissa, and
`0` written `0e0`. -/
def canon (x : JsonNumber) : JsonNumber :=
  if x.mantissa = 0 then ⟨0, 0⟩ else stripZeros x.mantissa.natAbs x.mantissa x.exponent

/-- A literal in the form `canon` produces. -/
def Canonical (x : JsonNumber) : Prop :=
  (x.mantissa = 0 ∧ x.exponent = 0) ∨ (x.mantissa ≠ 0 ∧ ¬ 10 ∣ x.mantissa)

theorem value_mk_div_ten {m : ℤ} (e : ℤ) (hm : 10 ∣ m) :
    (⟨m / 10, e + 1⟩ : JsonNumber).value = (⟨m, e⟩ : JsonNumber).value := by
  obtain ⟨q, rfl⟩ := hm
  simp only [value, Int.mul_ediv_cancel_left q (by norm_num : (10 : ℤ) ≠ 0), zpow_add_one₀
    (by norm_num : (10 : ℚ) ≠ 0), Int.cast_mul]
  ring

theorem value_stripZeros (fuel : ℕ) (m e : ℤ) : (stripZeros fuel m e).value = (⟨m, e⟩ : JsonNumber).value := by
  induction fuel generalizing m e with
  | zero => rfl
  | succ fuel ih =>
      rw [stripZeros]
      split_ifs with h
      · rw [ih, value_mk_div_ten e h.2]
      · rfl

/-- With as much fuel as the magnitude of the mantissa, every trailing zero is
moved. -/
theorem canonical_stripZeros (fuel : ℕ) {m : ℤ} (e : ℤ) (hm : m ≠ 0) (hfuel : m.natAbs ≤ fuel) :
    Canonical (stripZeros fuel m e) := by
  induction fuel generalizing m e with
  | zero => exact absurd (Int.natAbs_eq_zero.mp (Nat.le_zero.mp hfuel)) hm
  | succ fuel ih =>
      rw [stripZeros]
      split_ifs with h
      · -- a tenth of a non-zero multiple of ten is non-zero and smaller
        obtain ⟨q, rfl⟩ := h.2
        have hq : q ≠ 0 := by rintro rfl; simp at hm
        rw [Int.mul_ediv_cancel_left q (by norm_num : (10 : ℤ) ≠ 0)]
        refine ih (e + 1) hq ?_
        rw [Int.natAbs_mul] at hfuel
        have := Int.natAbs_pos.mpr hq
        simp at hfuel
        omega
      · right
        exact ⟨hm, fun h10 => h ⟨hm, h10⟩⟩

theorem value_canon (x : JsonNumber) : x.canon.value = x.value := by
  unfold canon
  split_ifs with h
  · simp [value, h]
  · exact value_stripZeros _ _ _

theorem canonical_canon (x : JsonNumber) : x.canon.Canonical := by
  unfold canon
  split_ifs with h
  · exact Or.inl ⟨rfl, rfl⟩
  · exact canonical_stripZeros _ _ h le_rfl

/-- Of two literals of one value, the one of smaller exponent has a mantissa
`10 ^ k` times the other's, so it equals the other unless its mantissa is a
multiple of ten. -/
theorem eq_of_value_eq_of_exponent_le {x y : JsonNumber} (hx : ¬ 10 ∣ x.mantissa)
    (hle : x.exponent ≤ y.exponent) (h : x.value = y.value) : x = y := by
  obtain ⟨m₁, e₁⟩ := x
  obtain ⟨m₂, e₂⟩ := y
  obtain ⟨k, rfl⟩ : ∃ k : ℕ, e₂ = e₁ + k := ⟨(e₂ - e₁).toNat, by simp at hle; omega⟩
  have hm : m₁ = m₂ * 10 ^ k := by
    simp only [value] at h
    rw [zpow_add₀ (by norm_num), zpow_natCast, mul_comm ((10 : ℚ) ^ e₁), ← mul_assoc] at h
    exact_mod_cast mul_right_cancel₀ (zpow_ne_zero e₁ (by norm_num : (10 : ℚ) ≠ 0)) h
  cases k with
  | zero => simp [hm]
  | succ k => exact absurd ⟨m₂ * 10 ^ k, by rw [hm, pow_succ]; ring⟩ hx

/-- A canonical literal is fixed by its value. -/
theorem Canonical.eq_of_value_eq {x y : JsonNumber} (hx : x.Canonical) (hy : y.Canonical)
    (h : x.value = y.value) : x = y := by
  have hzero {z : JsonNumber} (hz : z.mantissa ≠ 0) : z.value ≠ 0 :=
    mul_ne_zero (Int.cast_ne_zero.mpr hz) (zpow_ne_zero _ (by norm_num))
  rcases hx with ⟨hmx, hex⟩ | ⟨hmx, hx10⟩ <;> rcases hy with ⟨hmy, hey⟩ | ⟨hmy, hy10⟩
  · obtain ⟨mx, ex⟩ := x
    obtain ⟨my, ey⟩ := y
    simp_all
  · exact absurd (h.symm.trans (by simp [value, hmx])) (hzero hmy)
  · exact absurd (h.trans (by simp [value, hmy])) (hzero hmx)
  · rcases le_total x.exponent y.exponent with hle | hle
    · exact eq_of_value_eq_of_exponent_le hx10 hle h
    · exact (eq_of_value_eq_of_exponent_le hy10 hle h.symm).symm

theorem canon_eq_canon_iff {x y : JsonNumber} : x.canon = y.canon ↔ x.value = y.value := by
  constructor
  · intro h
    rw [← value_canon x, ← value_canon y, h]
  · intro h
    exact (canonical_canon x).eq_of_value_eq (canonical_canon y) (by rw [value_canon, value_canon, h])

end Js.JsonNumber

namespace Json
open Js Utf8

/-! ## Numbers read back -/

theorem digitsValue_append (L M : List ℕ) :
    digitsValue (L ++ M) = digitsValue L * 10 ^ M.length + digitsValue M := by
  induction M using List.reverseRecOn with
  | nil => simp [digitsValue]
  | append_singleton M d ih =>
      rw [← List.append_assoc, digitsValue, List.foldl_append, ← digitsValue, ih]
      simp only [digitsValue, List.foldl_append, List.foldl_cons, List.foldl_nil, List.length_append,
        List.length_singleton, pow_succ]
      ring

@[simp] theorem digitsValue_replicate_zero (j : ℕ) : digitsValue (List.replicate j 0) = 0 := by
  induction j with
  | zero => rfl
  | succ j ih => rw [List.replicate_succ', digitsValue_append, ih]; rfl

/-- Leading zeros do not change the value. -/
theorem digitsValue_replicate_append (j : ℕ) (L : List ℕ) :
    digitsValue (List.replicate j 0 ++ L) = digitsValue L := by
  rw [digitsValue_append, digitsValue_replicate_zero, zero_mul, zero_add]

theorem digitText_append (L M : List ℕ) : digitText (L ++ M) = digitText L ++ digitText M :=
  List.map_append

theorem isDigit_false_of_endsNumber {t : JsString} (ht : EndsNumber t) :
    ∀ u ∈ t.head?, isDigit u = false := fun u hu => (ht u hu).1

/-- Digits led by one that is not `0` are an integer part. -/
theorem parseIntPart_digitText {d : ℕ} {L : List ℕ} (hd : 0 < d) (hlt : ∀ c ∈ d :: L, c < 10)
    {t : JsString} (ht : ∀ u ∈ t.head?, isDigit u = false) :
    parseIntPart (digitText (d :: L) ++ t) = some (d :: L, t) := by
  have hd10 := hlt d List.mem_cons_self
  have hne : digitUnit d ≠ 0x30 := by
    intro h
    have := congrArg Fin.val h
    rw [digitUnit_val hd10] at this
    simp at this
    omega
  rw [digitText, List.map_cons, List.cons_append, parseIntPart, if_neg hne,
    if_pos (isDigit_digitUnit hd10), ← List.cons_append, ← List.map_cons, ← digitText,
    spanDigits_digitText hlt ht]

theorem parseIntPart_zero (t : JsString) : parseIntPart (digitUnit 0 :: t) = some ([0], t) := by
  rw [parseIntPart, if_pos (by decide)]

/-- A point and at least one digit are a fraction. -/
theorem parseFraction_point {L : List ℕ} (hL : L ≠ []) (hlt : ∀ c ∈ L, c < 10) {t : JsString}
    (ht : ∀ u ∈ t.head?, isDigit u = false) :
    parseFraction (0x2E :: (digitText L ++ t)) = some (L, t) := by
  rw [parseFraction, if_pos rfl, spanDigits_digitText hlt ht]
  cases L with
  | nil => exact absurd rfl hL
  | cons d L => rfl

theorem parseFraction_of_not_point {t : JsString} (ht : ∀ u ∈ t.head?, u ≠ 0x2E) :
    parseFraction t = some ([], t) := by
  cases t with
  | nil => rfl
  | cons u r => rw [parseFraction, if_neg (ht u rfl)]

/-- The exponent `Number::toString` writes: `e`, a sign, the digits. -/
def exponentText (e : ℤ) : JsString := [0x65, if e < 0 then 0x2D else 0x2B] ++ decimal e.natAbs

theorem parseExponent_exponentText (e : ℤ) {t : JsString} (ht : ∀ u ∈ t.head?, isDigit u = false) :
    parseExponent (exponentText e ++ t) = some (e, t) := by
  have hspan : spanDigits (decimal e.natAbs ++ t) = (decimalList e.natAbs, t) := by
    rw [decimal_eq]
    exact spanDigits_digitText (decimalList_lt _) ht
  obtain ⟨d, ds, hds⟩ : ∃ d ds, decimalList e.natAbs = d :: ds := by
    by_cases hn : e.natAbs = 0
    · exact ⟨0, [], by simp [decimalList, hn]⟩
    · obtain ⟨d, ds, hds, -⟩ := decimalList_head e.natAbs hn
      exact ⟨d, ds, hds⟩
  unfold exponentText
  split_ifs with he
  · simp only [List.cons_append, List.nil_append, parseExponent, if_true, hspan, hds, true_or]
    rw [← hds, digitsValue_decimalList]
    congr 2
    omega
  · simp only [List.cons_append, List.nil_append, parseExponent, if_true, hspan, hds, true_or,
      show (0x2B : CodeUnit) ≠ 0x2D by decide, if_false, Bool.false_eq_true]
    rw [← hds, digitsValue_decimalList]
    congr 2
    omega


/-- An integer part starts with a digit, so never with a minus sign. -/
theorem head_ne_minus_of_parseIntPart {s r : JsString} {I : List ℕ}
    (h : parseIntPart s = some (I, r)) : ∀ u ∈ s.head?, u ≠ 0x2D := by
  intro u hu hminus
  cases s with
  | nil => cases hu
  | cons v s =>
      obtain rfl : v = u := Option.some.inj hu
      subst hminus
      simp [parseIntPart, isDigit] at h

/-- The parts of a number literal read one after another. -/
theorem parseNumber_of_parts {s r₁ r₂ t : JsString} {I F : List ℕ} {E : ℤ}
    (hI : parseIntPart s = some (I, r₁)) (hF : parseFraction r₁ = some (F, r₂))
    (hE : parseExponent r₂ = some (E, t)) (neg : Bool) :
    parseNumber ((if neg then [0x2D] else []) ++ s) =
      some (⟨if neg then -(digitsValue (I ++ F) : ℤ) else digitsValue (I ++ F), E - F.length⟩, t) := by
  cases neg with
  | true => simp [parseNumber, hI, hF, hE]
  | false =>
      cases s with
      | nil => simp [parseIntPart] at hI
      | cons u r =>
          simp [parseNumber, if_neg (head_ne_minus_of_parseIntPart hI u rfl), hI, hF, hE]

/-- The value of a literal with a sign. -/
theorem value_signed (neg : Bool) (D : ℕ) (e : ℤ) :
    (⟨if neg then -(D : ℤ) else D, e⟩ : JsonNumber).value = (if neg then -1 else 1) * (D : ℚ) * 10 ^ e := by
  cases neg <;> simp [JsonNumber.value]


/-- The digits of `n` without its trailing zeros, most significant first. -/
def sigDigits (n : ℕ) : List ℕ := ((decimalDigits n).dropWhile (· = 0)).reverse

/-- The number of trailing zeros of `n`. -/
def trailingZeros (n : ℕ) : ℕ := ((decimalDigits n).takeWhile (· = 0)).length

theorem sigDigits_lt (n : ℕ) : ∀ d ∈ sigDigits n, d < 10 := by
  intro d hd
  rw [sigDigits, List.mem_reverse, decimalDigits_eq] at hd
  exact Nat.digits_lt_base (by norm_num) ((List.dropWhile_sublist _).subset hd)

theorem takeWhile_digits_eq_replicate (n : ℕ) :
    (decimalDigits n).takeWhile (· = 0) = List.replicate (trailingZeros n) 0 :=
  List.eq_replicate_iff.mpr ⟨rfl, fun x hx => by simpa using List.mem_takeWhile_imp hx⟩

theorem digitsValue_sigDigits (n : ℕ) : digitsValue (sigDigits n) * 10 ^ trailingZeros n = n := by
  have hsplit := List.takeWhile_append_dropWhile (p := fun d => decide (d = 0)) (l := decimalDigits n)
  rw [takeWhile_digits_eq_replicate] at hsplit
  have hval : Nat.ofDigits 10 (decimalDigits n) = n := by rw [decimalDigits_eq, Nat.ofDigits_digits]
  have hof := congrArg (Nat.ofDigits 10) hsplit
  rw [Nat.ofDigits_append, hval] at hof
  simp only [Nat.ofDigits_replicate_zero, List.length_replicate, zero_add] at hof
  rw [sigDigits, digitsValue_reverse, mul_comm]
  exact hof

/-- Dropping the leading zeros of a list that ends in a digit other than `0`
leaves a list with the same last digit. -/
theorem getLast_dropWhile_zero : ∀ {L : List ℕ} (hne : L ≠ []), L.getLast hne ≠ 0 →
    ∃ h : L.dropWhile (· = 0) ≠ [], (L.dropWhile (· = 0)).getLast h = L.getLast hne
  | [], hne, _ => absurd rfl hne
  | a :: L, hne, hlast => by
      by_cases ha : a = 0
      · -- the leading zero goes, and the rest still ends in the same digit
        have hL : L ≠ [] := by
          rintro rfl
          exact hlast (by simpa using ha)
        rw [List.getLast_cons hL] at hlast ⊢
        simp only [List.dropWhile_cons, ha, decide_true, if_true]
        exact getLast_dropWhile_zero hL hlast
      · simp only [List.dropWhile_cons, ha, decide_false, Bool.false_eq_true, if_false]
        exact ⟨List.cons_ne_nil a L, trivial⟩

/-- The significant digits of a number other than zero lead with a digit other
than `0`. -/
theorem sigDigits_eq_cons {n : ℕ} (hn : n ≠ 0) : ∃ d L, sigDigits n = d :: L ∧ 0 < d := by
  have hne : decimalDigits n ≠ [] := by
    rw [decimalDigits_eq]; exact Nat.digits_ne_nil_iff_ne_zero.mpr hn
  have hlast : (decimalDigits n).getLast hne ≠ 0 := by
    simp only [decimalDigits_eq]; exact Nat.getLast_digit_ne_zero 10 hn
  obtain ⟨hdrop, hgl⟩ := getLast_dropWhile_zero hne hlast
  refine ⟨((decimalDigits n).dropWhile (· = 0)).getLast hdrop,
    (((decimalDigits n).dropWhile (· = 0)).dropLast).reverse, ?_, ?_⟩
  · rw [sigDigits]
    conv_lhs => rw [← List.dropLast_append_getLast hdrop]
    simp
  · rw [hgl]
    exact Nat.pos_of_ne_zero hlast

theorem numberToString_of_ne_zero {x : JsonNumber} (hx : x.mantissa ≠ 0) :
    numberToString x = (if x.mantissa < 0 then [0x2D] else []) ++
      significandText (sigDigits x.mantissa.natAbs)
        ((sigDigits x.mantissa.natAbs).length + trailingZeros x.mantissa.natAbs + x.exponent) := by
  rw [numberToString, if_neg hx]
  simp [sigDigits, trailingZeros]


/-- A text that starts with something other than a digit, such as `.` or `e`,
ends the digits before it. -/
theorem isDigit_head_false {u : CodeUnit} (hu : isDigit u = false) (r : JsString) :
    ∀ v ∈ (u :: r : JsString).head?, isDigit v = false := by
  intro v hv
  obtain rfl : u = v := Option.some.inj hv
  exact hu

theorem exponentText_eq_cons (e : ℤ) (t : JsString) :
    exponentText e ++ t = 0x65 :: ((if e < 0 then 0x2D else 0x2B) :: (decimal e.natAbs ++ t)) := rfl

section Significand

variable {d : ℕ} {L : List ℕ} (hd : 0 < d) (hlt : ∀ c ∈ d :: L, c < 10) (neg : Bool) {t : JsString}
  (ht : EndsNumber t)
include hd hlt ht

/-- The plain form: every digit, then zeros up to the decimal point. -/
theorem parseNumber_plain (j : ℕ) :
    ∃ y : JsonNumber, parseNumber ((if neg then [0x2D] else []) ++
        (digitText (d :: L) ++ List.replicate j (digitUnit 0) ++ t)) = some (y, t) ∧
      y.value = (if neg then -1 else 1) * digitsValue (d :: L) * 10 ^ (j : ℤ) := by
  have hall : ∀ c ∈ d :: (L ++ List.replicate j 0), c < 10 := by
    intro c hc
    simp only [List.mem_cons, List.mem_append, List.mem_replicate] at hc
    rcases hc with rfl | hc | ⟨-, rfl⟩
    · exact hlt c List.mem_cons_self
    · exact hlt c (List.mem_cons_of_mem _ hc)
    · norm_num
  have htext : digitText (d :: L) ++ List.replicate j (digitUnit 0) =
      digitText (d :: (L ++ List.replicate j 0)) := by
    simp [digitText, List.map_replicate]
  rw [htext, parseNumber_of_parts (parseIntPart_digitText hd hall (isDigit_false_of_endsNumber ht))
    (parseFraction_of_endsNumber ht) (parseExponent_of_endsNumber ht)]
  refine ⟨_, rfl, ?_⟩
  rw [value_signed, List.append_nil, ← List.cons_append, digitsValue_append, digitsValue_replicate_zero]
  simp

/-- The form with a point inside the digits: `q + 1` digits before it. -/
theorem parseNumber_point {q : ℕ} (hq : q < L.length) :
    ∃ y : JsonNumber, parseNumber ((if neg then [0x2D] else []) ++
        (digitText (d :: L.take q) ++ [0x2E] ++ digitText (L.drop q) ++ t)) = some (y, t) ∧
      y.value = (if neg then -1 else 1) * digitsValue (d :: L) * 10 ^ (-((L.length - q : ℕ) : ℤ)) := by
  have htake : ∀ c ∈ d :: L.take q, c < 10 := fun c hc => by
    rcases List.mem_cons.mp hc with rfl | hc
    · exact hlt c List.mem_cons_self
    · exact hlt c (List.mem_cons_of_mem _ (List.mem_of_mem_take hc))
  have hdrop : ∀ c ∈ L.drop q, c < 10 := fun c hc => hlt c (List.mem_cons_of_mem _ (List.mem_of_mem_drop hc))
  have hne : L.drop q ≠ [] := by simpa using hq
  rw [List.append_assoc, List.append_assoc, List.singleton_append,
    parseNumber_of_parts (parseIntPart_digitText hd htake (isDigit_head_false (by decide) _))
      (parseFraction_point hne hdrop (isDigit_false_of_endsNumber ht)) (parseExponent_of_endsNumber ht)]
  refine ⟨_, rfl, ?_⟩
  rw [value_signed, List.cons_append, List.take_append_drop, List.length_drop, zero_sub]

omit hd in
/-- The form below one: `0.`, `j` zeros, the digits. -/
theorem parseNumber_small (j : ℕ) :
    ∃ y : JsonNumber, parseNumber ((if neg then [0x2D] else []) ++
        ([digitUnit 0, 0x2E] ++ List.replicate j (digitUnit 0) ++ digitText (d :: L) ++ t)) = some (y, t) ∧
      y.value = (if neg then -1 else 1) * digitsValue (d :: L) * 10 ^ (-((j + (L.length + 1) : ℕ) : ℤ)) := by
  have hall : ∀ c ∈ List.replicate j 0 ++ d :: L, c < 10 := by
    intro c hc
    rcases List.mem_append.mp hc with hc | hc
    · rw [List.eq_of_mem_replicate hc]; norm_num
    · exact hlt c hc
  have htext : [digitUnit 0, 0x2E] ++ List.replicate j (digitUnit 0) ++ digitText (d :: L) ++ t =
      digitUnit 0 :: (0x2E :: (digitText (List.replicate j 0 ++ d :: L) ++ t)) := by
    simp [digitText, List.map_replicate]
  rw [htext, parseNumber_of_parts (parseIntPart_zero _)
    (parseFraction_point (by simp) hall (isDigit_false_of_endsNumber ht)) (parseExponent_of_endsNumber ht)]
  refine ⟨_, rfl, ?_⟩
  rw [value_signed, List.singleton_append,
    show 0 :: (List.replicate j 0 ++ d :: L) = List.replicate (j + 1) 0 ++ d :: L by
      simp [List.replicate_succ],
    digitsValue_replicate_append]
  simp

/-- The exponent form with one digit. -/
theorem parseNumber_exp_one (hL : L = []) (e : ℤ) :
    ∃ y : JsonNumber, parseNumber ((if neg then [0x2D] else []) ++
        (digitText (d :: L) ++ exponentText e ++ t)) = some (y, t) ∧
      y.value = (if neg then -1 else 1) * digitsValue (d :: L) * 10 ^ e := by
  subst hL
  have hexp := exponentText_eq_cons e t
  rw [List.append_assoc, parseNumber_of_parts (parseIntPart_digitText hd hlt
      (by rw [hexp]; exact isDigit_head_false (by decide) _))
    (parseFraction_of_not_point (by rw [hexp]; simp))
    (parseExponent_exponentText e (isDigit_false_of_endsNumber ht))]
  refine ⟨_, rfl, ?_⟩
  rw [value_signed]
  simp

/-- The exponent form with a point after the first digit. -/
theorem parseNumber_exp_point (hL : L ≠ []) (e : ℤ) :
    ∃ y : JsonNumber, parseNumber ((if neg then [0x2D] else []) ++
        (digitText [d] ++ [0x2E] ++ digitText L ++ exponentText e ++ t)) = some (y, t) ∧
      y.value = (if neg then -1 else 1) * digitsValue (d :: L) * 10 ^ (e - L.length) := by
  have hd10 : ∀ c ∈ [d], c < 10 := fun c hc => hlt c (by simp_all)
  have hL10 : ∀ c ∈ L, c < 10 := fun c hc => hlt c (List.mem_cons_of_mem _ hc)
  have hexp := exponentText_eq_cons e t
  rw [List.append_assoc, List.append_assoc, List.append_assoc, List.singleton_append,
    parseNumber_of_parts (parseIntPart_digitText hd hd10 (isDigit_head_false (by decide) _))
      (parseFraction_point hL hL10 (by rw [hexp]; exact isDigit_head_false (by decide) _))
      (parseExponent_exponentText e (isDigit_false_of_endsNumber ht))]
  refine ⟨_, rfl, ?_⟩
  rw [value_signed, List.singleton_append]

/-- Whichever of its four forms `significandText` picks, the number read back has the
value of the significand times ten to the power of the point's position. -/
theorem parseNumber_significandText (n : ℤ) :
    ∃ y : JsonNumber, parseNumber ((if neg then [0x2D] else []) ++
        (significandText (d :: L) n ++ t)) = some (y, t) ∧
      y.value = (if neg then -1 else 1) * digitsValue (d :: L) * 10 ^ (n - (L.length + 1)) := by
  have hk : ((d :: L).length : ℤ) = L.length + 1 := by simp
  rw [significandText]
  dsimp only
  rw [hk]
  by_cases hplain : (L.length : ℤ) + 1 ≤ n ∧ n ≤ 21
  · -- the digits, then zeros up to the point
    rw [if_pos hplain]
    obtain ⟨y, hy, hv⟩ := parseNumber_plain hd hlt neg ht (n - (L.length + 1)).toNat
    refine ⟨y, hy, hv.trans ?_⟩
    rw [Int.toNat_of_nonneg (by omega)]
  rw [if_neg hplain]
  by_cases hpoint : 0 < n ∧ n ≤ 21
  · -- a point inside the digits
    rw [if_pos hpoint]
    have hq : n.toNat - 1 < L.length := by omega
    obtain ⟨y, hy, hv⟩ := parseNumber_point hd hlt neg ht hq
    have htake : (d :: L).take n.toNat = d :: L.take (n.toNat - 1) := by
      rw [show n.toNat = n.toNat - 1 + 1 by omega, List.take_succ_cons]; simp
    have hdrop : (d :: L).drop n.toNat = L.drop (n.toNat - 1) := by
      rw [show n.toNat = n.toNat - 1 + 1 by omega, List.drop_succ_cons]; simp
    refine ⟨y, by rw [htake, hdrop]; exact hy, hv.trans ?_⟩
    congr 2
    omega
  rw [if_neg hpoint]
  by_cases hsmall : -6 < n ∧ n ≤ 0
  · -- below one: a point and zeros first
    rw [if_pos hsmall]
    obtain ⟨y, hy, hv⟩ := parseNumber_small hlt neg ht (-n).toNat
    refine ⟨y, hy, hv.trans ?_⟩
    congr 2
    omega
  rw [if_neg hsmall]
  by_cases hone : L = []
  · -- one digit and an exponent
    subst hone
    obtain ⟨y, hy, hv⟩ := parseNumber_exp_one hd hlt neg ht rfl (n - 1)
    refine ⟨y, hy, hv.trans ?_⟩
    simp
  · -- a point after the first digit and an exponent
    have hlen : (d :: L).length ≠ 1 := by simpa using hone
    rw [if_neg hlen]
    obtain ⟨y, hy, hv⟩ := parseNumber_exp_point hd hlt neg ht hone (n - 1)
    refine ⟨y, hy, hv.trans ?_⟩
    congr 2
    ring

end Significand


/-- What the number serialiser writes reads back as a literal of the same value,
whatever follows it that can end a number. -/
theorem parseNumber_numberToString (x : JsonNumber) {t : JsString} (ht : EndsNumber t) :
    ∃ y : JsonNumber, parseNumber (numberToString x ++ t) = some (y, t) ∧ y.value = x.value := by
  by_cases hx : x.mantissa = 0
  · -- zero is written as a single digit
    have hzero := parseNumber_of_parts (parseIntPart_zero t) (parseFraction_of_endsNumber ht)
      (parseExponent_of_endsNumber ht) false
    rw [numberToString, if_pos hx, decimal, if_pos rfl]
    refine ⟨_, hzero, ?_⟩
    simp [JsonNumber.value, hx, digitsValue]
  · obtain ⟨d, L, hsig, hd⟩ := sigDigits_eq_cons (Int.natAbs_ne_zero.mpr hx)
    have hlt : ∀ c ∈ d :: L, c < 10 := hsig ▸ sigDigits_lt _
    obtain ⟨y, hy, hv⟩ := parseNumber_significandText hd hlt (decide (x.mantissa < 0)) ht
      ((sigDigits x.mantissa.natAbs).length + trailingZeros x.mantissa.natAbs + x.exponent)
    rw [hsig] at hy hv
    refine ⟨y, by rw [numberToString_of_ne_zero hx, hsig]; simpa using hy, hv.trans ?_⟩
    -- the trailing zeros go back from the exponent into the mantissa
    have hmag : (digitsValue (d :: L) : ℚ) * 10 ^ (trailingZeros x.mantissa.natAbs : ℤ) =
        (x.mantissa.natAbs : ℚ) := by
      rw [← hsig, zpow_natCast]
      exact_mod_cast digitsValue_sigDigits x.mantissa.natAbs
    have hsign : (if decide (x.mantissa < 0) = true then (-1 : ℚ) else 1) * (x.mantissa.natAbs : ℚ) =
        x.mantissa := by
      by_cases hneg : x.mantissa < 0
      · simp [hneg, abs_of_neg hneg]
      · simp [hneg, abs_of_nonneg (not_lt.mp hneg)]
    have hexp : ((d :: L).length : ℤ) + trailingZeros x.mantissa.natAbs + x.exponent - (L.length + 1) =
        trailingZeros x.mantissa.natAbs + x.exponent := by
      rw [List.length_cons]
      push_cast
      ring
    rw [hexp, zpow_add₀ (by norm_num), ← mul_assoc, mul_assoc _ (digitsValue (d :: L) : ℚ), hmag, hsign]
    rfl

/-! ## Where each text starts -/

/-- `significandText` starts with a digit in each of its forms. -/
theorem significandText_eq_cons {d : ℕ} {L : List ℕ} (hlt : ∀ c ∈ d :: L, c < 10) (n : ℤ) :
    ∃ c r, significandText (d :: L) n = digitUnit c :: r ∧ c < 10 := by
  have hd10 := hlt d List.mem_cons_self
  unfold significandText
  dsimp only
  split_ifs with hplain hpoint hsmall
  · exact ⟨d, _, rfl, hd10⟩
  · obtain ⟨k, hk⟩ : ∃ k, n.toNat = k + 1 := ⟨n.toNat - 1, by omega⟩
    rw [hk, List.take_succ_cons]
    exact ⟨d, _, rfl, hd10⟩
  · exact ⟨0, _, rfl, by norm_num⟩
  -- both exponent forms, with either sign, start with the first digit
  all_goals exact ⟨d, _, rfl, hd10⟩

/-- A number is written starting with `-` or a digit. -/
theorem numberToString_eq_cons (x : JsonNumber) :
    ∃ u r, numberToString x = u :: r ∧ (u = 0x2D ∨ isDigit u = true) := by
  by_cases hx : x.mantissa = 0
  · rw [numberToString, if_pos hx, decimal, if_pos rfl]
    exact ⟨_, _, rfl, .inr (by decide)⟩
  · obtain ⟨d, L, hsig, -⟩ := sigDigits_eq_cons (Int.natAbs_ne_zero.mpr hx)
    have hlt : ∀ c ∈ d :: L, c < 10 := hsig ▸ sigDigits_lt _
    rw [numberToString_of_ne_zero hx, hsig]
    split_ifs
    · exact ⟨_, _, rfl, .inl rfl⟩
    · obtain ⟨c, r, hr, hc⟩ := significandText_eq_cons hlt
        ((d :: L).length + trailingZeros x.mantissa.natAbs + x.exponent)
      rw [List.nil_append, hr]
      exact ⟨_, _, rfl, .inr (isDigit_digitUnit hc)⟩

/-- What can start the text of a value: never white space, `]` or `}`. -/
def StartsValue (u : CodeUnit) : Prop := isJsonWs u = false ∧ u ≠ 0x5D ∧ u ≠ 0x7D

instance decidableStartsValue : DecidablePred StartsValue :=
  fun _ => inferInstanceAs (Decidable (_ ∧ _ ∧ _))

theorem startsValue_of_number {u : CodeUnit} (hu : u = 0x2D ∨ isDigit u = true) : StartsValue u := by
  rcases hu with rfl | hu
  · decide
  · simp only [isDigit, Bool.and_eq_true, decide_eq_true_eq] at hu
    refine ⟨by simp [isJsonWs]; omega, ?_, ?_⟩ <;> · intro h; subst h; simp at hu

theorem serialize_eq_cons (v : JsValue) : ∃ u r, serialize v = u :: r ∧ StartsValue u := by
  cases v with
  | num x =>
      rw [serialize]
      split_ifs
      · obtain ⟨u, r, hr, hu⟩ := numberToString_eq_cons x
        exact ⟨u, r, hr, startsValue_of_number hu⟩
      · exact ⟨_, _, rfl, by decide⟩
  | undefined | null => exact ⟨_, _, rfl, by decide⟩
  | bool b => cases b <;> exact ⟨_, _, rfl, by decide⟩
  | str s | arr xs | obj fields => exact ⟨_, _, List.cons_append .., by decide⟩

theorem serialize_ne_nil (v : JsValue) : serialize v ≠ [] := by
  obtain ⟨u, r, hr, -⟩ := serialize_eq_cons v
  rw [hr]
  exact List.cons_ne_nil u r

/-- A closing bracket or a comma ends a number. -/
theorem endsNumber_of_closing {d : CodeUnit} (hd : d = 0x2C ∨ d = 0x5D ∨ d = 0x7D)
    (r : JsString) : EndsNumber (d :: r) := by
  intro u hu
  obtain rfl : d = u := Option.some.inj hu
  rcases hd with rfl | rfl | rfl <;> decide

/-! ## One step of the parser -/

/-- `parseValue` hands a text that starts like a number to `parseNumber`. -/
theorem parseValue_number (fuel : ℕ) {u : CodeUnit} (hu : u = 0x2D ∨ isDigit u = true) (r : JsString) :
    parseValue (fuel + 1) (u :: r) = (parseNumber (u :: r)).map fun p => (.num p.1, p.2) := by
  have hne : ∀ c : CodeUnit, c.val ∈ [0x7B, 0x5B, 0x22, 0x74, 0x66, 0x6E] → u ≠ c := by
    rintro c hc rfl
    rcases hu with h | h
    · subst h; simp at hc
    · simp only [isDigit, Bool.and_eq_true, decide_eq_true_eq] at h
      simp at hc; omega
  rw [parseValue_cons fuel (startsValue_of_number hu).1, if_neg (hne 0x7B (by simp)),
    if_neg (hne 0x5B (by simp)), if_neg (hne 0x22 (by simp)), if_neg (hne 0x74 (by simp)),
    if_neg (hne 0x66 (by simp)), if_neg (hne 0x6E (by simp))]

/-- The parser never produces `undefined`. -/
theorem parseValue_ne_undefined {fuel : ℕ} {s r : JsString} {w : JsValue}
    (h : parseValue fuel s = some (w, r)) : w ≠ .undefined := by
  rintro rfl
  cases fuel with
  | zero => cases h
  | succ fuel =>
      rw [parseValue] at h
      split at h
      · cases h
      · split_ifs at h <;> (try split at h) <;> (try split_ifs at h) <;> simp_all

/-- The last element of an array, then its `]`. -/
theorem parseElements_last {fuel : ℕ} {s t : JsString} {w : JsValue}
    (h : parseValue fuel s = some (w, 0x5D :: t)) : parseElements (fuel + 1) s = some ([w], t) := by
  rw [parseElements, h]
  simp [skipWs_cons (u := 0x5D) (by decide)]

/-- An element, then a comma and the rest of the array. -/
theorem parseElements_comma {fuel : ℕ} {s r : JsString} {w : JsValue}
    (h : parseValue fuel s = some (w, 0x2C :: r)) :
    parseElements (fuel + 1) s = (parseElements fuel r).map fun p => (w :: p.1, p.2) := by
  rw [parseElements, h]
  simp [skipWs_cons (u := 0x2C) (by decide)]

/-- A member: its key, the colon, then a value the comma or closing brace ends. -/
theorem parseMembers_quote {fuel : ℕ} (key : JsString) {s r : JsString} {w : JsValue} {d : CodeUnit}
    (h : parseValue fuel s = some (w, d :: r)) (hd : d = 0x2C ∨ d = 0x7D) :
    parseMembers (fuel + 1) (quote key ++ 0x3A :: s) =
      if d = 0x2C then (parseMembers fuel r).map fun p => ((key, w) :: p.1, p.2)
      else some ([(key, w)], r) := by
  have hdws : isJsonWs d = false := by rcases hd with rfl | rfl <;> decide
  simp only [quote, List.cons_append, List.append_assoc]
  rw [parseMembers]
  simp only [skipWs_cons (u := 0x22) (by decide), expect, ↓reduceIte, List.nil_append,
    Option.bind_eq_bind, Option.bind_some, parseChars_quoteBody, skipWs_cons (u := 0x3A) (by decide),
    h, skipWs_cons hdws]
  rcases hd with rfl | rfl
  · simp
  · simp

/-! ## What a value keeps through a round trip -/

mutual
/-- What `JSON.parse(JSON.stringify(v))` keeps of `v`: `undefined` and the
numbers that are not finite become `null`, a number is known only by its value,
and an object member whose value is `undefined` is gone. -/
def normalize : JsValue → JsValue
  | .undefined => .null
  | .null => .null
  | .bool b => .bool b
  | .num x => if x.isFinite then .num x.canon else .null
  | .str s => .str s
  | .arr xs => .arr (normalizeElements xs)
  | .obj fields => .obj (normalizeMembers fields)

def normalizeElements : List JsValue → List JsValue
  | [] => []
  | x :: xs => normalize x :: normalizeElements xs

def normalizeMembers : List (JsString × JsValue) → List (JsString × JsValue)
  | [] => []
  | (_, .undefined) :: rest => normalizeMembers rest
  | (key, v) :: rest => (key, normalize v) :: normalizeMembers rest
end

theorem normalizeMembers_cons_of_ne {v : JsValue} (hv : v ≠ .undefined) (key : JsString)
    (rest : List (JsString × JsValue)) :
    normalizeMembers ((key, v) :: rest) = (key, normalize v) :: normalizeMembers rest := by
  cases v <;> first | exact absurd rfl hv | rfl

theorem memberTexts_cons_of_ne {v : JsValue} (hv : v ≠ .undefined) (key : JsString)
    (rest : List (JsString × JsValue)) :
    memberTexts ((key, v) :: rest) = (quote key ++ 0x3A :: serialize v) :: memberTexts rest := by
  cases v <;> first | exact absurd rfl hv | rfl

/-- Every member is written as its quoted key, a colon and its value. -/
theorem mem_memberTexts {fields : List (JsString × JsValue)} :
    ∀ m ∈ memberTexts fields, ∃ key v, m = quote key ++ 0x3A :: serialize v := by
  induction fields with
  | nil => intro m hm; cases hm
  | cons f rest ih =>
      obtain ⟨key, v⟩ := f
      intro m hm
      by_cases hv : v = .undefined
      · subst hv
        exact ih m hm
      · rw [memberTexts_cons_of_ne hv] at hm
        rcases List.mem_cons.mp hm with rfl | hm
        · exact ⟨key, v, rfl⟩
        · exact ih m hm

/-- An object written without members keeps none. -/
theorem normalizeMembers_eq_nil {fields : List (JsString × JsValue)} (h : memberTexts fields = []) :
    normalizeMembers fields = [] := by
  induction fields with
  | nil => rfl
  | cons f rest ih =>
      obtain ⟨key, v⟩ := f
      by_cases hv : v = .undefined
      · subst hv
        exact ih h
      · rw [memberTexts_cons_of_ne hv] at h
        cases h

/-- `isFinite` looks only at the value. -/
theorem normalize_num_of_value_eq {x y : JsonNumber} (h : y.value = x.value) :
    normalize (.num y) = normalize (.num x) := by
  have hfin : y.isFinite = x.isFinite := by simp only [JsonNumber.isFinite, h]
  simp only [normalize, hfin, JsonNumber.canon_eq_canon_iff.mpr h]

/-! ## Values read back -/

/-- The text of `v`, followed by anything that ends a number, reads back as a
value that keeps what `v` keeps, given more fuel than the text is long. -/
def ReadsBack (v : JsValue) : Prop :=
  ∀ fuel, (serialize v).length < fuel → ∀ t, EndsNumber t →
    ∃ w, parseValue fuel (serialize v ++ t) = some (w, t) ∧ normalize w = normalize v

/-- The elements of a non-empty array, then `]`, read back. -/
def ElementsReadBack (xs : List JsValue) : Prop :=
  xs ≠ [] → ∀ fuel, ([0x2C].intercalate (elementTexts xs)).length + 1 < fuel → ∀ t,
    ∃ ws, parseElements fuel ([0x2C].intercalate (elementTexts xs) ++ 0x5D :: t) = some (ws, t) ∧
      normalizeElements ws = normalizeElements xs

/-- The members of an object that writes at least one, then `}`, read back. -/
def MembersReadBack (fields : List (JsString × JsValue)) : Prop :=
  memberTexts fields ≠ [] → ∀ fuel, ([0x2C].intercalate (memberTexts fields)).length + 1 < fuel →
    ∀ t, ∃ ws, parseMembers fuel ([0x2C].intercalate (memberTexts fields) ++ 0x7D :: t) = some (ws, t) ∧
      normalizeMembers ws = normalizeMembers fields

theorem ReadsBack.of_succ {v : JsValue}
    (h : ∀ fuel t, EndsNumber t →
      ∃ w, parseValue (fuel + 1) (serialize v ++ t) = some (w, t) ∧ normalize w = normalize v) :
    ReadsBack v := by
  intro fuel hfuel t ht
  obtain ⟨f, rfl⟩ : ∃ f, fuel = f + 1 := ⟨fuel - 1, by omega⟩
  exact h f t ht

theorem readsBack_of_isScalar {v : JsValue} (hv : isScalar v = true) : ReadsBack v :=
  .of_succ fun fuel _ ht => ⟨v, parseValue_serialize_scalar hv fuel ht, rfl⟩

theorem readsBack_undefined : ReadsBack .undefined :=
  .of_succ fun fuel _ ht => ⟨.null, parseValue_serialize_scalar (v := .null) rfl fuel ht, rfl⟩

theorem readsBack_num (x : JsonNumber) : ReadsBack (.num x) := by
  refine .of_succ fun fuel t ht => ?_
  by_cases hfin : x.isFinite
  · -- a finite number is written by `Number::toString` and read by `parseNumber`
    obtain ⟨y, hy, hval⟩ := parseNumber_numberToString x ht
    obtain ⟨u, r, hr, hu⟩ := numberToString_eq_cons x
    refine ⟨.num y, ?_, normalize_num_of_value_eq hval⟩
    rw [serialize, if_pos hfin, hr, List.cons_append, parseValue_number fuel hu, ← List.cons_append,
      ← hr, hy]
    rfl
  · refine ⟨.null, ?_, ?_⟩
    · rw [serialize, if_neg hfin]
      exact parseValue_serialize_scalar (v := .null) rfl fuel ht
    · simp [normalize, hfin]

theorem readsBack_arr {xs : List JsValue} (h : ElementsReadBack xs) : ReadsBack (.arr xs) := by
  intro fuel hfuel t _
  obtain ⟨f, rfl⟩ : ∃ f, fuel = f + 1 := ⟨fuel - 1, by omega⟩
  have htext : serialize (.arr xs) ++ t = 0x5B :: ([0x2C].intercalate (elementTexts xs) ++ 0x5D :: t) := by
    simp [serialize]
  rw [htext, parseValue_cons f (by decide), if_neg (by decide), if_pos rfl]
  cases xs with
  | nil =>
      simp only [elementTexts, List.intercalate_nil, List.nil_append, skipWs_cons (u := 0x5D) (by decide)]
      exact ⟨.arr [], rfl, rfl⟩
  | cons x xs =>
      -- the first element starts the text, and it is no closing bracket
      obtain ⟨u, r, hr, hu⟩ := serialize_eq_cons x
      obtain ⟨rest, hrest⟩ : ∃ rest, [0x2C].intercalate (elementTexts (x :: xs)) ++ 0x5D :: t =
          u :: rest := by
        cases xs <;> simp [elementTexts, hr, List.intercalate_cons_cons]
      have hlen : ([0x2C].intercalate (elementTexts (x :: xs))).length + 1 < f := by
        simp only [serialize, List.length_cons, List.length_append] at hfuel
        omega
      obtain ⟨ws, hws, hnorm⟩ := h (List.cons_ne_nil x xs) f hlen t
      rw [hrest, skipWs_cons hu.1]
      dsimp only
      rw [if_neg hu.2.1, ← hrest, hws]
      exact ⟨.arr ws, rfl, by simp only [normalize, hnorm]⟩

theorem readsBack_obj {fields : List (JsString × JsValue)} (h : MembersReadBack fields) :
    ReadsBack (.obj fields) := by
  intro fuel hfuel t _
  obtain ⟨f, rfl⟩ : ∃ f, fuel = f + 1 := ⟨fuel - 1, by omega⟩
  have htext : serialize (.obj fields) ++ t =
      0x7B :: ([0x2C].intercalate (memberTexts fields) ++ 0x7D :: t) := by
    simp [serialize]
  rw [htext, parseValue_cons f (by decide), if_pos rfl]
  by_cases hnil : memberTexts fields = []
  · rw [hnil]
    simp only [List.intercalate_nil, List.nil_append, skipWs_cons (u := 0x7D) (by decide)]
    exact ⟨.obj [], rfl, by simp [normalize, normalizeMembers_eq_nil hnil, normalizeMembers]⟩
  · -- every member starts with the quotation mark of its key
    obtain ⟨m, ms, hms⟩ := List.exists_cons_of_ne_nil hnil
    obtain ⟨key, v, hm⟩ := mem_memberTexts m (hms ▸ List.mem_cons_self)
    obtain ⟨rest, hrest⟩ : ∃ rest, [0x2C].intercalate (memberTexts fields) ++ 0x7D :: t =
        0x22 :: rest := by
      rw [hms, hm]
      cases ms <;> simp [quote, List.intercalate_cons_cons]
    have hlen : ([0x2C].intercalate (memberTexts fields)).length + 1 < f := by
      simp only [serialize, List.length_cons, List.length_append] at hfuel
      omega
    obtain ⟨ws, hws, hnorm⟩ := h hnil f hlen t
    rw [hrest, skipWs_cons (u := 0x22) (by decide)]
    dsimp only
    rw [if_neg (by decide), ← hrest, hws]
    exact ⟨.obj ws, rfl, by simp only [normalize, hnorm]⟩

theorem elementsReadBack_cons {x : JsValue} {xs : List JsValue} (hx : ReadsBack x)
    (hxs : ElementsReadBack xs) : ElementsReadBack (x :: xs) := by
  intro _ fuel hfuel t
  obtain ⟨f, rfl⟩ : ∃ f, fuel = f + 1 := ⟨fuel - 1, by omega⟩
  have hlenx : 0 < (serialize x).length := List.length_pos_iff.mpr (serialize_ne_nil x)
  cases xs with
  | nil =>
      -- the last element, then the closing bracket
      simp only [elementTexts, List.intercalate_singleton] at hfuel ⊢
      obtain ⟨w, hw, hnorm⟩ := hx f (by omega) (0x5D :: t) (endsNumber_of_closing (.inr (.inl rfl)) t)
      rw [parseElements_last hw]
      exact ⟨[w], rfl, by simp only [normalizeElements, hnorm]⟩
  | cons y ys =>
      -- an element, a comma, and the elements after it
      have htext : [0x2C].intercalate (elementTexts (x :: y :: ys)) ++ 0x5D :: t =
          serialize x ++ 0x2C :: ([0x2C].intercalate (elementTexts (y :: ys)) ++ 0x5D :: t) := by
        simp [elementTexts, List.intercalate_cons_cons]
      have hlen := congrArg List.length htext
      simp only [List.length_append, List.length_cons] at hlen
      obtain ⟨w, hw, hnorm⟩ := hx f (by omega) _ (endsNumber_of_closing (.inl rfl) _)
      obtain ⟨ws, hws, hnorms⟩ := hxs (List.cons_ne_nil y ys) f (by omega) t
      rw [htext, parseElements_comma hw, hws]
      exact ⟨w :: ws, rfl, by simp only [normalizeElements, hnorm, hnorms]⟩

theorem membersReadBack_cons {key : JsString} {v : JsValue} {rest : List (JsString × JsValue)}
    (hv : ReadsBack v) (hrest : MembersReadBack rest) : MembersReadBack ((key, v) :: rest) := by
  by_cases hu : v = .undefined
  · -- a member whose value is `undefined` is neither written nor kept
    subst hu
    exact hrest
  intro _ fuel hfuel t
  obtain ⟨f, rfl⟩ : ∃ f, fuel = f + 1 := ⟨fuel - 1, by omega⟩
  rw [memberTexts_cons_of_ne hu] at hfuel ⊢
  rw [normalizeMembers_cons_of_ne hu]
  by_cases hnil : memberTexts rest = []
  · -- the last member, then the closing brace
    rw [hnil, List.intercalate_singleton] at hfuel ⊢
    simp only [List.length_append, List.length_cons] at hfuel
    obtain ⟨w, hw, hnorm⟩ := hv f (by omega) (0x7D :: t) (endsNumber_of_closing (.inr (.inr rfl)) t)
    rw [List.append_assoc, List.cons_append, parseMembers_quote key hw (.inr rfl), if_neg (by decide)]
    refine ⟨[(key, w)], rfl, ?_⟩
    rw [normalizeMembers_cons_of_ne (parseValue_ne_undefined hw), normalizeMembers_eq_nil hnil, hnorm]
    rfl
  · -- a member, a comma, and the members after it
    obtain ⟨m, ms, hms⟩ := List.exists_cons_of_ne_nil hnil
    have htext : [0x2C].intercalate ((quote key ++ 0x3A :: serialize v) :: memberTexts rest) ++ 0x7D :: t =
        quote key ++ 0x3A :: (serialize v ++ 0x2C :: ([0x2C].intercalate (memberTexts rest) ++ 0x7D :: t)) := by
      rw [hms, List.intercalate_cons_cons]
      simp
    have hlen := congrArg List.length htext
    simp only [List.length_append, List.length_cons] at hlen
    obtain ⟨w, hw, hnorm⟩ := hv f (by omega) _ (endsNumber_of_closing (.inl rfl) _)
    obtain ⟨ws, hws, hnorms⟩ := hrest hnil f (by omega) t
    rw [htext, parseMembers_quote key hw (.inl rfl), if_pos rfl, hws]
    refine ⟨(key, w) :: ws, rfl, ?_⟩
    rw [normalizeMembers_cons_of_ne (parseValue_ne_undefined hw), hnorm, hnorms]

/-! The text of a value is read back by induction on the value: each constructor
reads back when the values inside it do. -/

mutual

theorem readsBack : (v : JsValue) → ReadsBack v
  | .undefined => readsBack_undefined
  | .null => readsBack_of_isScalar rfl
  | .bool _ => readsBack_of_isScalar rfl
  | .num x => readsBack_num x
  | .str _ => readsBack_of_isScalar rfl
  | .arr xs => readsBack_arr (elementsReadBack xs)
  | .obj fields => readsBack_obj (membersReadBack fields)

theorem elementsReadBack : (xs : List JsValue) → ElementsReadBack xs
  | [] => fun h => absurd rfl h
  | x :: xs => elementsReadBack_cons (readsBack x) (elementsReadBack xs)

theorem membersReadBack : (fields : List (JsString × JsValue)) → MembersReadBack fields
  | [] => fun h => absurd rfl h
  | (_, v) :: rest => membersReadBack_cons (readsBack v) (membersReadBack rest)

end

/-- **What `JSON.stringify` writes, `JSON.parse` reads back** as a value that
keeps what the original keeps. -/
theorem parse_serialize (v : JsValue) :
    ∃ w, parse (serialize v) = some w ∧ normalize w = normalize v := by
  obtain ⟨w, hw, hnorm⟩ := readsBack v (2 * (serialize v).length + 2) (by omega) []
    (fun _ h => by cases h)
  rw [List.append_nil] at hw
  refine ⟨w, ?_, hnorm⟩
  rw [parse, hw]
  rfl

theorem stringify_of_ne {v : JsValue} (hv : v ≠ .undefined) : stringify v = some (serialize v) := by
  cases v <;> first | exact absurd rfl hv | rfl

theorem stringify_bind_parse {v : JsValue} (hv : v ≠ .undefined) :
    ∃ w, (stringify v).bind parse = some w ∧ normalize w = normalize v := by
  rw [stringify_of_ne hv, Option.bind_some]
  exact parse_serialize v

end Json
