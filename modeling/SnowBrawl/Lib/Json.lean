import SnowBrawl.Lib.JsValue
import SnowBrawl.Lib.Utf8

/-!
# `JSON.stringify` and `JSON.parse`

Both work on ECMAScript strings, so on UTF-16 code units.

`serialize` is `JSON.stringify` without indentation (ECMA-262 §25.5.2):
strings are quoted by `QuoteJSONString`, which escapes the quotation mark, the
backslash, the control characters and every lone surrogate, and copies every
other code unit, a surrogate pair included; numbers are written by
`Number::toString`; inside an object a property whose value is `undefined` is
left out, and inside an array `undefined` is written `null`.  `stringify`
returns `none` for a top-level `undefined`, where the built-in returns
`undefined`.

`parse` is `JSON.parse` without a reviver: the grammar of ECMA-404, with an
object's members kept in the order written.  It is defined with fuel; every two
units of fuel consume at least one code unit of the text, and `parse` starts
with twice the length of the text and two more.

Numbers are exact decimals here, as everywhere in this development
(`JsonNumber`), and `Number::toString` is applied to that exact value.

## What is proved

* `parse_serialize_obj`: a flat object (one whose values are strings,
  booleans, `null` and integers of magnitude below `10^21`) comes back from
  `parse (serialize ·)` as it was;
* `mojibake_serialize_obj`: encoding the text of a flat object with well-formed
  strings as UTF-8 and reading the bytes back as Latin-1 gives the text of the
  same object with every key and string value replaced by its `mojibake`.
-/

namespace Json
open Js Utf8

/-! ## Text pieces -/

/-- The code unit of a decimal digit. -/
def digitUnit (d : ℕ) : CodeUnit := Fin.ofNat _ (0x30 + d)

/-- Decimal digits, most significant first, as text. -/
def digitText (ds : List ℕ) : JsString := ds.map digitUnit

/-- The decimal digits of `n`, least significant first, in at most `fuel` steps. -/
def digitsAux : ℕ → ℕ → List ℕ
  | 0, _ => []
  | fuel + 1, n => if n = 0 then [] else n % 10 :: digitsAux fuel (n / 10)

/-- The decimal digits of `n`, least significant first; this is `Nat.digits 10 n`
(`decimalDigits_eq`), computed by structural recursion so that `decide` can run it. -/
def decimalDigits (n : ℕ) : List ℕ := digitsAux n n

/-- The decimal numeral of a natural number. -/
def decimal (n : ℕ) : JsString := if n = 0 then [digitUnit 0] else digitText (decimalDigits n).reverse

/-- A lowercase hexadecimal digit. -/
def hexUnit (d : ℕ) : CodeUnit := if d < 10 then Fin.ofNat _ (0x30 + d) else Fin.ofNat _ (0x61 + (d - 10))

/-- Four lowercase hexadecimal digits. -/
def hex4 (n : ℕ) : JsString :=
  [hexUnit (n / 4096 % 16), hexUnit (n / 256 % 16), hexUnit (n / 16 % 16), hexUnit (n % 16)]

/-! ## Numbers -/

/-- `Number::toString` once the value is written `s · 10^(n - k)` with `s` a
`k`-digit integer not ending in zero: plain digits up to 21 places, a decimal
point inside them, a leading `0.` down to six zeros, and exponent form beyond. -/
def significandText (sig : List ℕ) (n : ℤ) : JsString :=
  let k := sig.length
  if k ≤ n ∧ n ≤ 21 then digitText sig ++ List.replicate (n - k).toNat (digitUnit 0)
  else if 0 < n ∧ n ≤ 21 then digitText (sig.take n.toNat) ++ [0x2E] ++ digitText (sig.drop n.toNat)
  else if -6 < n ∧ n ≤ 0 then
    [digitUnit 0, 0x2E] ++ List.replicate (-n).toNat (digitUnit 0) ++ digitText sig
  else
    let e := n - 1
    let expText := [0x65, if e < 0 then 0x2D else 0x2B] ++ decimal e.natAbs
    if k = 1 then digitText sig ++ expText
    else digitText (sig.take 1) ++ [0x2E] ++ digitText (sig.drop 1) ++ expText

/-- `Number::toString(x)` (ECMA-262 §6.1.6.1.20) of the exact value of a literal. -/
def numberToString (x : JsonNumber) : JsString :=
  if x.mantissa = 0 then decimal 0
  else
    let ds := decimalDigits x.mantissa.natAbs
    -- the trailing zeros of the mantissa move into the exponent
    let zeros := (ds.takeWhile (· = 0)).length
    let sig := (ds.dropWhile (· = 0)).reverse
    (if x.mantissa < 0 then [0x2D] else []) ++
      significandText sig (sig.length + zeros + x.exponent)

/-! ## Strings -/

/-- How `QuoteJSONString` writes one code unit that is not part of a pair. -/
def escapeUnit (u : CodeUnit) : JsString :=
  if u.val = 0x08 then [0x5C, 0x62]
  else if u.val = 0x09 then [0x5C, 0x74]
  else if u.val = 0x0A then [0x5C, 0x6E]
  else if u.val = 0x0C then [0x5C, 0x66]
  else if u.val = 0x0D then [0x5C, 0x72]
  else if u.val = 0x22 then [0x5C, 0x22]
  else if u.val = 0x5C then [0x5C, 0x5C]
  else if u.val < 0x20 || isSurrogate u then [0x5C, 0x75] ++ hex4 u.val
  else [u]

/-- The inside of `QuoteJSONString(s)`: a surrogate pair is copied, and every
other code unit goes through `escapeUnit`. -/
def quoteBody : JsString → JsString
  | [] => []
  | [a] => escapeUnit a
  | a :: b :: rest =>
      if isHighSurrogate a && isLowSurrogate b then a :: b :: quoteBody rest
      else escapeUnit a ++ quoteBody (b :: rest)

/-- `QuoteJSONString(s)`. -/
def quote (s : JsString) : JsString := 0x22 :: quoteBody s ++ [0x22]

/-! ## Serialisation -/

mutual
/-- `SerializeJSONProperty` without indentation. -/
def serialize : JsValue → JsString
  | .undefined => ascii "null"
  | .null => ascii "null"
  | .bool b => if b then ascii "true" else ascii "false"
  | .num x => if x.isFinite then numberToString x else ascii "null"
  | .str s => quote s
  | .arr xs => 0x5B :: [0x2C].intercalate (elementTexts xs) ++ [0x5D]
  | .obj fields => 0x7B :: [0x2C].intercalate (memberTexts fields) ++ [0x7D]

/-- The elements of an array, `undefined` written as `null`. -/
def elementTexts : List JsValue → List JsString
  | [] => []
  | x :: xs => serialize x :: elementTexts xs

/-- The members of an object; a property whose value is `undefined` is left out. -/
def memberTexts : List (JsString × JsValue) → List JsString
  | [] => []
  | (_, .undefined) :: rest => memberTexts rest
  | (key, v) :: rest => (quote key ++ 0x3A :: serialize v) :: memberTexts rest
end

/-- `JSON.stringify(v)`; `none` where the built-in returns `undefined`. -/
def stringify : JsValue → Option JsString
  | .undefined => none
  | v => some (serialize v)

/-! ## Parsing -/

/-- JSON whitespace: SPACE, TAB, LF and CR. -/
def isJsonWs (u : CodeUnit) : Bool := u.val = 0x20 || u.val = 0x09 || u.val = 0x0A || u.val = 0x0D

def skipWs (s : JsString) : JsString := s.dropWhile isJsonWs

/-- The text `p`, then the rest. -/
def expect : JsString → JsString → Option JsString
  | [], s => some s
  | p :: ps, u :: s => if u = p then expect ps s else none
  | _ :: _, [] => none

def isDigit (u : CodeUnit) : Bool := 0x30 ≤ u.val && u.val ≤ 0x39

/-- The value of a hexadecimal digit of either case. -/
def hexValue (u : CodeUnit) : Option ℕ :=
  if 0x30 ≤ u.val ∧ u.val ≤ 0x39 then some (u.val - 0x30)
  else if 0x61 ≤ u.val ∧ u.val ≤ 0x66 then some (u.val - 0x61 + 10)
  else if 0x41 ≤ u.val ∧ u.val ≤ 0x46 then some (u.val - 0x41 + 10)
  else none

/-- The character a one-letter escape `\e` stands for. -/
def simpleEscape (e : CodeUnit) : Option CodeUnit :=
  if e.val = 0x22 then some 0x22
  else if e.val = 0x5C then some 0x5C
  else if e.val = 0x2F then some 0x2F
  else if e.val = 0x62 then some 0x08
  else if e.val = 0x66 then some 0x0C
  else if e.val = 0x6E then some 0x0A
  else if e.val = 0x72 then some 0x0D
  else if e.val = 0x74 then some 0x09
  else none

/-- The contents of a string literal after its opening quotation mark, and the
text after the closing one. -/
def parseChars : JsString → Option (JsString × JsString)
  | [] => none
  | u :: rest =>
      if u = 0x22 then some ([], rest)
      else if u = 0x5C then
        match rest with
        | [] => none
        | e :: rest' =>
            if e = 0x75 then
              match rest' with
              | h₁ :: h₂ :: h₃ :: h₄ :: rest'' =>
                  match hexValue h₁, hexValue h₂, hexValue h₃, hexValue h₄ with
                  | some d₁, some d₂, some d₃, some d₄ =>
                      (parseChars rest'').map fun r =>
                        (Fin.ofNat _ (d₁ * 4096 + d₂ * 256 + d₃ * 16 + d₄) :: r.1, r.2)
                  | _, _, _, _ => none
              | _ => none
            else
              match simpleEscape e with
              | some c => (parseChars rest').map fun r => (c :: r.1, r.2)
              | none => none
      else if u.val < 0x20 then none
      else (parseChars rest).map fun r => (u :: r.1, r.2)

/-- The digits at the front of the text and the text after them. -/
def spanDigits (s : JsString) : List ℕ × JsString :=
  ((s.takeWhile isDigit).map (·.val - 0x30), s.dropWhile isDigit)

/-- The value of decimal digits, most significant first. -/
def digitsValue (ds : List ℕ) : ℕ := ds.foldl (fun acc d => acc * 10 + d) 0

/-- The integer part of a number: `0`, or a digit `1`–`9` and more digits. -/
def parseIntPart : JsString → Option (List ℕ × JsString)
  | [] => none
  | u :: rest =>
      if u = 0x30 then some ([0], rest)
      else if isDigit u then some (spanDigits (u :: rest))
      else none

/-- An optional fraction: `.` and at least one digit. -/
def parseFraction : JsString → Option (List ℕ × JsString)
  | u :: rest =>
      if u = 0x2E then
        match spanDigits rest with
        | ([], _) => none
        | (ds, r) => some (ds, r)
      else some ([], u :: rest)
  | [] => some ([], [])

/-- An optional exponent: `e` or `E`, an optional sign, at least one digit. -/
def parseExponent : JsString → Option (ℤ × JsString)
  | u :: rest =>
      if u = 0x65 ∨ u = 0x45 then
        let (neg, r) : Bool × JsString :=
          match rest with
          | v :: r' => if v = 0x2D then (true, r') else if v = 0x2B then (false, r') else (false, rest)
          | [] => (false, [])
        match spanDigits r with
        | ([], _) => none
        | (ds, r') => some (if neg then -(digitsValue ds : ℤ) else digitsValue ds, r')
      else some (0, u :: rest)
  | [] => some (0, [])

/-- A number literal: `-`, integer part, fraction, exponent. -/
def parseNumber (s : JsString) : Option (JsonNumber × JsString) := do
  let (neg, s) : Bool × JsString :=
    match s with
    | u :: r => if u = 0x2D then (true, r) else (false, s)
    | [] => (false, [])
  let (intDigits, s) ← parseIntPart s
  let (fracDigits, s) ← parseFraction s
  let (e, s) ← parseExponent s
  let m : ℤ := digitsValue (intDigits ++ fracDigits)
  some (⟨if neg then -m else m, e - fracDigits.length⟩, s)

mutual
/-- A value, after optional whitespace. -/
def parseValue : ℕ → JsString → Option (JsValue × JsString)
  | 0, _ => none
  | fuel + 1, s =>
      match skipWs s with
      | [] => none
      | u :: rest =>
          if u = 0x7B then
            match skipWs rest with
            | [] => none
            | v :: rest' =>
                if v = 0x7D then some (.obj [], rest')
                else (parseMembers fuel (v :: rest')).map fun r => (.obj r.1, r.2)
          else if u = 0x5B then
            match skipWs rest with
            | [] => none
            | v :: rest' =>
                if v = 0x5D then some (.arr [], rest')
                else (parseElements fuel (v :: rest')).map fun r => (.arr r.1, r.2)
          else if u = 0x22 then (parseChars rest).map fun r => (.str r.1, r.2)
          else if u = 0x74 then (expect (ascii "rue") rest).map fun r => (.bool true, r)
          else if u = 0x66 then (expect (ascii "alse") rest).map fun r => (.bool false, r)
          else if u = 0x6E then (expect (ascii "ull") rest).map fun r => (.null, r)
          else (parseNumber (u :: rest)).map fun r => (.num r.1, r.2)

/-- The members of a non-empty object and the text after its `}`. -/
def parseMembers : ℕ → JsString → Option (List (JsString × JsValue) × JsString)
  | 0, _ => none
  | fuel + 1, s => do
      let r₀ ← expect [0x22] (skipWs s)
      let (key, r₁) ← parseChars r₀
      let r₂ ← expect [0x3A] (skipWs r₁)
      let (v, r₃) ← parseValue fuel r₂
      match skipWs r₃ with
      | d :: r₄ =>
          if d = 0x2C then (parseMembers fuel r₄).map fun r => ((key, v) :: r.1, r.2)
          else if d = 0x7D then some ([(key, v)], r₄)
          else none
      | [] => none

/-- The elements of a non-empty array and the text after its `]`. -/
def parseElements : ℕ → JsString → Option (List JsValue × JsString)
  | 0, _ => none
  | fuel + 1, s => do
      let (v, r₁) ← parseValue fuel s
      match skipWs r₁ with
      | d :: r₂ =>
          if d = 0x2C then (parseElements fuel r₂).map fun r => (v :: r.1, r.2)
          else if d = 0x5D then some ([v], r₂)
          else none
      | [] => none
end

/-- `JSON.parse(text)`; `none` is the `SyntaxError` it throws. -/
def parse (text : JsString) : Option JsValue := do
  let (v, rest) ← parseValue (2 * text.length + 2) text
  if skipWs rest = [] then some v else none

/-! ## Strings read back -/

/-- A code unit with nothing to escape is written as itself. -/
theorem escapeUnit_of_plain {u : CodeUnit} (h20 : 0x20 ≤ u.val) (hq : u.val ≠ 0x22)
    (hb : u.val ≠ 0x5C) (hs : isSurrogate u = false) : escapeUnit u = [u] := by
  unfold escapeUnit
  split_ifs <;> simp_all
  omega

theorem hexValue_hexUnit {d : ℕ} (hd : d < 16) : hexValue (hexUnit d) = some d := by
  unfold hexUnit
  split_ifs <;>
    simp (disch := omega) only [hexValue, Fin.val_ofNat, Nat.mod_eq_of_lt] <;>
    split_ifs <;> (try simp only [Option.some.injEq]) <;> omega

/-- Outside the quotation mark, the backslash and the control characters, the
scanner copies a code unit. -/
theorem parseChars_cons_plain {u : CodeUnit} (h20 : 0x20 ≤ u.val) (hq : u ≠ 0x22) (hb : u ≠ 0x5C)
    (t : JsString) : parseChars (u :: t) = (parseChars t).map fun r => (u :: r.1, r.2) := by
  rw [parseChars.eq_def]
  simp only [if_neg hq, if_neg hb, if_neg (show ¬ u.val < 0x20 by omega)]

/-- A backslash and a one-letter escape stand for one code unit. -/
theorem parseChars_simpleEscape {e c : CodeUnit} (he : e ≠ 0x75) (hc : simpleEscape e = some c)
    (t : JsString) : parseChars (0x5C :: e :: t) = (parseChars t).map fun r => (c :: r.1, r.2) := by
  rw [parseChars.eq_def]
  simp [he, hc]

/-- The value of the four hexadecimal digits of a code unit is the code unit. -/
theorem ofNat_hex4_value (u : CodeUnit) :
    Fin.ofNat 65536 (u.val / 4096 % 16 * 4096 + u.val / 256 % 16 * 256 + u.val / 16 % 16 * 16 +
      u.val % 16) = u := by
  ext
  simp only [Fin.val_ofNat]
  omega

/-- Whatever `escapeUnit` writes for a code unit, the scanner reads it back. -/
theorem parseChars_escapeUnit (u : CodeUnit) (t : JsString) :
    parseChars (escapeUnit u ++ t) = (parseChars t).map fun r => (u :: r.1, r.2) := by
  unfold escapeUnit
  split_ifs with h₁ h₂ h₃ h₄ h₅ h₆ h₇ h₈
  -- the seven two-character escapes
  · obtain rfl : u = 0x08 := Fin.ext h₁
    exact parseChars_simpleEscape (e := 0x62) (by decide) (by decide) t
  · obtain rfl : u = 0x09 := Fin.ext h₂
    exact parseChars_simpleEscape (e := 0x74) (by decide) (by decide) t
  · obtain rfl : u = 0x0A := Fin.ext h₃
    exact parseChars_simpleEscape (e := 0x6E) (by decide) (by decide) t
  · obtain rfl : u = 0x0C := Fin.ext h₄
    exact parseChars_simpleEscape (e := 0x66) (by decide) (by decide) t
  · obtain rfl : u = 0x0D := Fin.ext h₅
    exact parseChars_simpleEscape (e := 0x72) (by decide) (by decide) t
  · obtain rfl : u = 0x22 := Fin.ext h₆
    exact parseChars_simpleEscape (e := 0x22) (by decide) (by decide) t
  · obtain rfl : u = 0x5C := Fin.ext h₇
    exact parseChars_simpleEscape (e := 0x5C) (by decide) (by decide) t
  -- `\uXXXX`: the four hexadecimal digits give back the code unit
  · have hu := u.isLt
    simp only [hex4, List.cons_append, List.nil_append]
    rw [parseChars.eq_def]
    simp +decide only [hexValue_hexUnit (Nat.mod_lt _ (by norm_num : 16 > 0)), ofNat_hex4_value,
      if_true, if_false]
  · have h20 : 0x20 ≤ u.val := by simp at h₈; omega
    rw [List.singleton_append, parseChars_cons_plain h20 (fun h => h₆ (by simp [h]))
      (fun h => h₇ (by simp [h]))]

/-- The closing quotation mark ends the string. -/
theorem parseChars_quoteMark (t : JsString) : parseChars (0x22 :: t) = some ([], t) := by
  rw [parseChars.eq_def]; simp

theorem isHighSurrogate_plain {a : CodeUnit} (ha : isHighSurrogate a = true) :
    0x20 ≤ a.val ∧ a ≠ 0x22 ∧ a ≠ 0x5C := by
  simp [isHighSurrogate, Fin.ext_iff] at *; omega

theorem isLowSurrogate_plain {a : CodeUnit} (ha : isLowSurrogate a = true) :
    0x20 ≤ a.val ∧ a ≠ 0x22 ∧ a ≠ 0x5C := by
  simp [isLowSurrogate, Fin.ext_iff] at *; omega

/-- The scanner reads a quoted string back to the string, and stops after its
closing quotation mark. -/
theorem parseChars_quoteBody (s t : JsString) :
    parseChars (quoteBody s ++ 0x22 :: t) = some (s, t) := by
  fun_induction quoteBody s with
  | case1 => exact parseChars_quoteMark t
  | case2 a => rw [parseChars_escapeUnit, parseChars_quoteMark]; rfl
  | case3 a b rest hpair ih =>
      simp only [Bool.and_eq_true] at hpair
      obtain ⟨ha20, haq, hab⟩ := isHighSurrogate_plain hpair.1
      obtain ⟨hb20, hbq, hbb⟩ := isLowSurrogate_plain hpair.2
      rw [List.cons_append, List.cons_append, parseChars_cons_plain ha20 haq hab,
        parseChars_cons_plain hb20 hbq hbb, ih]
      rfl
  | case4 a b rest hpair ih =>
      rw [List.append_assoc, parseChars_escapeUnit, ih]
      rfl

/-! ## Integers read back -/

theorem digitsAux_eq {fuel n : ℕ} (h : n ≤ fuel) : digitsAux fuel n = Nat.digits 10 n := by
  induction fuel generalizing n with
  | zero =>
      obtain rfl : n = 0 := by omega
      rfl
  | succ fuel ih =>
      rw [digitsAux]
      split_ifs with hn
      · subst hn; simp
      · rw [Nat.digits_def' (by norm_num) (Nat.pos_of_ne_zero hn), ih (by omega)]

theorem decimalDigits_eq (n : ℕ) : decimalDigits n = Nat.digits 10 n := digitsAux_eq le_rfl

theorem digitsValue_reverse (L : List ℕ) : digitsValue L.reverse = Nat.ofDigits 10 L := by
  induction L with
  | nil => rfl
  | cons d L ih =>
      rw [List.reverse_cons, digitsValue, List.foldl_append, ← digitsValue, ih, Nat.ofDigits_cons]
      simp only [List.foldl_cons, List.foldl_nil]
      ring

theorem digitUnit_val {d : ℕ} (hd : d < 10) : (digitUnit d).val = 0x30 + d := by
  simp only [digitUnit, Fin.val_ofNat]
  omega

theorem isDigit_digitUnit {d : ℕ} (hd : d < 10) : isDigit (digitUnit d) = true := by
  simp [isDigit, digitUnit_val hd]
  omega

/-- A run of digits followed by a non-digit is read as that run. -/
theorem spanDigits_digitText {ds : List ℕ} (hds : ∀ d ∈ ds, d < 10) {t : JsString}
    (ht : ∀ u ∈ t.head?, isDigit u = false) : spanDigits (digitText ds ++ t) = (ds, t) := by
  induction ds with
  | nil =>
      cases t with
      | nil => rfl
      | cons u r =>
          have hu : ¬ isDigit u = true := by simp [ht u rfl]
          simp only [spanDigits, digitText, List.map_nil, List.nil_append,
            List.takeWhile_cons_of_neg hu, List.dropWhile_cons_of_neg hu]
  | cons d ds ih =>
      have hd := hds d List.mem_cons_self
      have htail := ih fun e he => hds e (List.mem_cons_of_mem d he)
      simp only [spanDigits, digitText, Prod.mk.injEq] at htail
      simp only [spanDigits, digitText, List.map_cons, List.cons_append,
        List.takeWhile_cons_of_pos (isDigit_digitUnit hd), List.dropWhile_cons_of_pos (isDigit_digitUnit hd),
        digitUnit_val hd, htail.1, htail.2, Nat.add_sub_cancel_left]

/-- The digits `decimal` writes, most significant first. -/
def decimalList (n : ℕ) : List ℕ := if n = 0 then [0] else (Nat.digits 10 n).reverse

theorem decimal_eq (n : ℕ) : decimal n = digitText (decimalList n) := by
  unfold decimal decimalList
  split_ifs <;> simp [decimalDigits_eq, digitText]

theorem decimalList_lt (n : ℕ) : ∀ d ∈ decimalList n, d < 10 := by
  unfold decimalList
  split_ifs
  · simp
  · intro d hd
    exact Nat.digits_lt_base (by norm_num) (List.mem_reverse.mp hd)

theorem digitsValue_decimalList (n : ℕ) : digitsValue (decimalList n) = n := by
  unfold decimalList
  split_ifs with hn
  · subst hn; rfl
  · rw [digitsValue_reverse, Nat.ofDigits_digits]

/-- A numeral never starts with a zero unless it is `0`. -/
theorem decimalList_head (n : ℕ) (hn : n ≠ 0) : ∃ d ds, decimalList n = d :: ds ∧ 0 < d ∧ d < 10 := by
  have hne : Nat.digits 10 n ≠ [] := Nat.digits_ne_nil_iff_ne_zero.mpr hn
  have hlast := Nat.getLast_digit_ne_zero 10 hn
  have hlt := Nat.digits_lt_base (b := 10) (m := n) (by norm_num) (List.getLast_mem hne)
  refine ⟨(Nat.digits 10 n).getLast hne, ((Nat.digits 10 n).dropLast).reverse, ?_, by omega, hlt⟩
  rw [decimalList, if_neg hn]
  conv_lhs => rw [← List.dropLast_append_getLast hne]
  simp

/-- A numeral starts with a digit, so never with a minus sign. -/
theorem decimal_append_eq_cons (n : ℕ) (t : JsString) :
    ∃ u r, decimal n ++ t = u :: r ∧ u ≠ 0x2D := by
  obtain ⟨d, ds, hds⟩ : ∃ d ds, decimalList n = d :: ds := by
    by_cases hn : n = 0
    · exact ⟨0, [], by simp [decimalList, hn]⟩
    · obtain ⟨d, ds, hds, -⟩ := decimalList_head n hn
      exact ⟨d, ds, hds⟩
  have hd := decimalList_lt n d (by simp [hds])
  refine ⟨digitUnit d, digitText ds ++ t, by rw [decimal_eq, hds]; rfl, fun h => ?_⟩
  have := congrArg Fin.val h
  rw [digitUnit_val hd] at this
  simp at this
  omega

theorem parseIntPart_decimal (n : ℕ) {t : JsString} (ht : ∀ u ∈ t.head?, isDigit u = false) :
    parseIntPart (decimal n ++ t) = some (decimalList n, t) := by
  by_cases hn : n = 0
  · subst hn; rfl
  · obtain ⟨d, ds, hds, hd0, hd⟩ := decimalList_head n hn
    have hlt := decimalList_lt n
    rw [decimal_eq, hds, digitText, List.map_cons, List.cons_append, parseIntPart]
    have hne : digitUnit d ≠ 0x30 := by
      intro h; have := congrArg Fin.val h; rw [digitUnit_val hd] at this; simp at this; omega
    rw [if_neg hne, if_pos (isDigit_digitUnit hd), ← List.cons_append, ← List.map_cons, ← digitText,
      spanDigits_digitText (hds ▸ hlt) ht]

/-- What may follow a number: not a digit, `.`, `e` or `E`. -/
def EndsNumber (t : JsString) : Prop :=
  ∀ u ∈ t.head?, isDigit u = false ∧ u ≠ 0x2E ∧ u ≠ 0x65 ∧ u ≠ 0x45

theorem parseFraction_of_endsNumber {t : JsString} (ht : EndsNumber t) : parseFraction t = some ([], t) := by
  cases t with
  | nil => rfl
  | cons u r => rw [parseFraction, if_neg (ht u rfl).2.1]

theorem parseExponent_of_endsNumber {t : JsString} (ht : EndsNumber t) : parseExponent t = some (0, t) := by
  cases t with
  | nil => rfl
  | cons u r =>
      obtain ⟨-, -, he, hE⟩ := ht u rfl
      simp [parseExponent, he, hE]

/-- The text `JSON.stringify` writes for an integer written without exponent. -/
def intText (k : ℤ) : JsString := (if k < 0 then [0x2D] else []) ++ decimal k.natAbs

theorem parseNumber_intText (k : ℤ) {t : JsString} (ht : EndsNumber t) :
    parseNumber (intText k ++ t) = some (.ofInt k, t) := by
  have hdig : ∀ u ∈ t.head?, isDigit u = false := fun u hu => (ht u hu).1
  have hint := parseIntPart_decimal k.natAbs hdig
  unfold parseNumber intText
  split_ifs with hk
  · simp only [List.cons_append]
    simp [hint, parseFraction_of_endsNumber ht, parseExponent_of_endsNumber ht,
      digitsValue_decimalList, JsonNumber.ofInt, abs_of_neg hk]
  · obtain ⟨u, r, hur, hne⟩ := decimal_append_eq_cons k.natAbs t
    simp only [List.nil_append]
    rw [hur]
    simp only [if_neg hne]
    rw [← hur]
    simp [hint, parseFraction_of_endsNumber ht, parseExponent_of_endsNumber ht,
      digitsValue_decimalList, JsonNumber.ofInt, abs_of_nonneg (not_lt.mp hk)]

/-- `Number::toString` of an integer below `10^21` in magnitude writes its digits. -/
theorem numberToString_ofInt {k : ℤ} (hk : k.natAbs < 10 ^ 21) :
    numberToString (.ofInt k) = intText k := by
  unfold numberToString intText
  by_cases hk0 : k = 0
  · subst hk0; rfl
  simp only [JsonNumber.ofInt, if_neg hk0, add_zero]
  congr 1
  have hn : k.natAbs ≠ 0 := Int.natAbs_ne_zero.mpr hk0
  set ds := decimalDigits k.natAbs with hds
  have hlen : ds.length ≤ 21 := by
    rw [hds, decimalDigits_eq]; exact (Nat.digits_length_le_iff (by norm_num) _).mpr hk
  -- the zeros at the end of the number: the least significant digits that are `0`
  have htake : ds.takeWhile (· = 0) = List.replicate (ds.takeWhile (· = 0)).length 0 :=
    List.eq_replicate_iff.mpr ⟨rfl, fun x hx => by simpa using List.mem_takeWhile_imp hx⟩
  have hsplit : ds.takeWhile (· = 0) ++ ds.dropWhile (· = 0) = ds := List.takeWhile_append_dropWhile
  have hlens := congrArg List.length hsplit
  rw [List.length_append] at hlens
  rw [significandText, if_pos (by simp only [List.length_reverse]; omega), decimal, if_neg hn, ← hds]
  conv_rhs => rw [← hsplit, htake]
  simp [digitText, List.map_reverse]

theorem isFinite_ofInt {k : ℤ} (hk : k.natAbs < 10 ^ 21) : (JsonNumber.ofInt k).isFinite = true := by
  simp only [JsonNumber.isFinite, JsonNumber.value_ofInt, decide_eq_true_eq]
  have h1 : |(k : ℚ)| < 10 ^ 21 := by
    rw [← Int.cast_abs, Int.abs_eq_natAbs]
    exact_mod_cast hk
  -- `10^21` is far below the largest finite double, `2^1024 - 2^970 = 2^970 (2^54 - 1)`
  have hsplit : (2 : ℚ) ^ 1024 = 2 ^ 970 * 2 ^ 54 := by rw [← pow_add]
  have h70 : (10 : ℚ) ^ 21 ≤ 2 ^ 970 :=
    le_trans (by norm_num : (10 : ℚ) ^ 21 ≤ 2 ^ 70) (pow_le_pow_right₀ (by norm_num) (by norm_num))
  have hlt : (10 : ℚ) ^ 21 < 2 ^ 970 * 2 ^ 54 - 2 ^ 970 := by
    have h54 : (2 : ℚ) ^ 970 * 2 ^ 54 = 2 ^ 970 * 18014398509481984 := by norm_num
    rw [h54]
    generalize (2 : ℚ) ^ 970 = x at h70 ⊢
    linarith
  rw [hsplit]
  exact lt_trans h1 hlt

/-- A small integer literal is a finite number, and `Number.isFinite` returns it. -/
theorem asFinite?_ofInt {k : ℤ} (hk : k.natAbs < 10 ^ 21) :
    (JsValue.num (.ofInt k)).asFinite? = some (k : ℝ) := by
  simp [JsValue.asFinite?, isFinite_ofInt hk, JsonNumber.toReal]

/-! ## Flat objects read back -/

/-- The values of a flat object: strings, booleans, `null`, and integers below
`10^21` in magnitude written without exponent. -/
def isScalar : JsValue → Bool
  | .null => true
  | .bool _ => true
  | .str _ => true
  | .num x => x.exponent == 0 && decide (x.mantissa.natAbs < 10 ^ 21)
  | _ => false

theorem skipWs_cons {u : CodeUnit} (hu : isJsonWs u = false) (s : JsString) : skipWs (u :: s) = u :: s :=
  List.dropWhile_cons_of_neg (by simp [hu])

@[simp] theorem expect_append (p s : JsString) : expect p (p ++ s) = some s := by
  induction p with
  | nil => rfl
  | cons u p ih => simp [expect, ih]

/-- One step of `parseValue` on a text that starts with a given code unit. -/
theorem parseValue_cons (fuel : ℕ) {u : CodeUnit} (hu : isJsonWs u = false) (r : JsString) :
    parseValue (fuel + 1) (u :: r) =
      if u = 0x7B then
        match skipWs r with
        | [] => none
        | v :: rest' =>
            if v = 0x7D then some (.obj [], rest')
            else (parseMembers fuel (v :: rest')).map fun r => (.obj r.1, r.2)
      else if u = 0x5B then
        match skipWs r with
        | [] => none
        | v :: rest' =>
            if v = 0x5D then some (.arr [], rest')
            else (parseElements fuel (v :: rest')).map fun r => (.arr r.1, r.2)
      else if u = 0x22 then (parseChars r).map fun r => (.str r.1, r.2)
      else if u = 0x74 then (expect (ascii "rue") r).map fun r => (.bool true, r)
      else if u = 0x66 then (expect (ascii "alse") r).map fun r => (.bool false, r)
      else if u = 0x6E then (expect (ascii "ull") r).map fun r => (.null, r)
      else (parseNumber (u :: r)).map fun r => (.num r.1, r.2) := by
  rw [parseValue, skipWs_cons hu]

/-- A number starts with `-` or a digit, so `parseValue` hands it to `parseNumber`. -/
theorem parseValue_intText (fuel : ℕ) (k : ℤ) {t : JsString} (ht : EndsNumber t) :
    parseValue (fuel + 1) (intText k ++ t) = some (.num (.ofInt k), t) := by
  obtain ⟨u, r, hur, hstart⟩ : ∃ u r, intText k ++ t = u :: r ∧ (u = 0x2D ∨ 0x30 ≤ u.val ∧ u.val ≤ 0x39) := by
    unfold intText
    split_ifs
    · exact ⟨0x2D, _, rfl, .inl rfl⟩
    · obtain ⟨d, ds, hds⟩ : ∃ d ds, decimalList k.natAbs = d :: ds := by
        by_cases hn : k.natAbs = 0
        · exact ⟨0, [], by simp [decimalList, hn]⟩
        · obtain ⟨d, ds, hds, -⟩ := decimalList_head k.natAbs hn
          exact ⟨d, ds, hds⟩
      have hd := decimalList_lt k.natAbs d (by simp [hds])
      refine ⟨digitUnit d, digitText ds ++ t, by rw [decimal_eq, hds]; rfl, .inr ?_⟩
      rw [digitUnit_val hd]; omega
  have hws : isJsonWs u = false := by
    rcases hstart with rfl | h
    · decide
    · simp [isJsonWs]; omega
  have hne : ∀ c : CodeUnit, c.val ∈ [0x7B, 0x5B, 0x22, 0x74, 0x66, 0x6E] → u ≠ c := by
    rintro c hc rfl
    rcases hstart with h | h
    · subst h; simp at hc
    · simp at hc; omega
  rw [hur, parseValue_cons fuel hws, if_neg (hne 0x7B (by simp)), if_neg (hne 0x5B (by simp)),
    if_neg (hne 0x22 (by simp)), if_neg (hne 0x74 (by simp)), if_neg (hne 0x66 (by simp)),
    if_neg (hne 0x6E (by simp)), ← hur, parseNumber_intText k ht]
  rfl

theorem serialize_num_ofInt {k : ℤ} (hk : k.natAbs < 10 ^ 21) :
    serialize (.num (.ofInt k)) = intText k := by
  rw [serialize, if_pos (isFinite_ofInt hk), numberToString_ofInt hk]

/-- Every scalar is read back from its text by `parseValue`, given any fuel. -/
theorem parseValue_serialize_scalar {v : JsValue} (hv : isScalar v = true) (fuel : ℕ) {t : JsString}
    (ht : EndsNumber t) : parseValue (fuel + 1) (serialize v ++ t) = some (v, t) := by
  match v, hv with
  | .null, _ => rfl
  | .bool true, _ => rfl
  | .bool false, _ => rfl
  | .str s, _ =>
      simp only [serialize, quote, List.cons_append, List.append_assoc]
      rw [parseValue_cons fuel (u := 0x22) (by decide)]
      simp [parseChars_quoteBody]
  | .num x, hx =>
      obtain ⟨m, e⟩ := x
      simp only [isScalar, Bool.and_eq_true, beq_iff_eq, decide_eq_true_eq] at hx
      obtain ⟨rfl, hm⟩ := hx
      rw [show (⟨m, 0⟩ : JsonNumber) = .ofInt m from rfl, serialize_num_ofInt hm]
      exact parseValue_intText fuel m ht

/-- A flat object has no `undefined` member, so every member is written. -/
theorem memberTexts_of_scalar {fields : List (JsString × JsValue)}
    (hf : ∀ f ∈ fields, isScalar f.2 = true) :
    memberTexts fields = fields.map fun f => quote f.1 ++ 0x3A :: serialize f.2 := by
  induction fields with
  | nil => rfl
  | cons f rest ih =>
      obtain ⟨k, v⟩ := f
      have hv := hf (k, v) List.mem_cons_self
      have hrest := ih fun g hg => hf g (List.mem_cons_of_mem _ hg)
      cases v <;> simp_all [isScalar, memberTexts]

/-- One member, then a comma or the closing brace. -/
theorem parseMembers_member {k : JsString} {v : JsValue} (hv : isScalar v = true) (fuel : ℕ)
    {d : CodeUnit} (hd : d = 0x2C ∨ d = 0x7D) (rest : JsString) :
    parseMembers (fuel + 2) (quote k ++ 0x3A :: (serialize v ++ d :: rest)) =
      if d = 0x2C then (parseMembers (fuel + 1) rest).map fun r => ((k, v) :: r.1, r.2)
      else some ([(k, v)], rest) := by
  have hend : EndsNumber (d :: rest) := by
    intro u hu
    simp only [List.head?_cons, Option.mem_def, Option.some.injEq] at hu
    subst hu
    rcases hd with rfl | rfl <;> decide
  have hdws : isJsonWs d = false := by rcases hd with rfl | rfl <;> decide
  have hval := parseValue_serialize_scalar hv fuel hend
  simp only [quote, List.cons_append, List.append_assoc]
  rw [parseMembers]
  simp only [skipWs_cons (u := 0x22) (by decide), expect, ↓reduceIte, List.nil_append,
    Option.bind_eq_bind, Option.bind_some, parseChars_quoteBody, skipWs_cons (u := 0x3A) (by decide),
    hval, skipWs_cons hdws]
  rcases hd with rfl | rfl
  · simp
  · simp

theorem parseMembers_memberTexts : ∀ {fields : List (JsString × JsValue)}, fields ≠ [] →
    (∀ f ∈ fields, isScalar f.2 = true) → ∀ {fuel : ℕ}, fields.length < fuel → ∀ t : JsString,
    parseMembers fuel ([0x2C].intercalate (memberTexts fields) ++ 0x7D :: t) = some (fields, t)
  | [], hne, _, _, _, _ => absurd rfl hne
  | [(k, v)], _, hf, fuel, hfuel, t => by
      obtain ⟨f, rfl⟩ : ∃ f, fuel = f + 2 := ⟨fuel - 2, by simp at hfuel; omega⟩
      rw [memberTexts_of_scalar hf, List.map_singleton, List.intercalate_singleton,
        List.append_assoc, List.cons_append,
        parseMembers_member (hf (k, v) List.mem_cons_self) f (.inr rfl), if_neg (by decide)]
  | (k, v) :: g :: gs, _, hf, fuel, hfuel, t => by
      obtain ⟨f, rfl⟩ : ∃ f, fuel = f + 2 := ⟨fuel - 2, by simp at hfuel; omega⟩
      have hrest : ∀ h ∈ g :: gs, isScalar h.2 = true := fun h hh => hf h (List.mem_cons_of_mem _ hh)
      have ih := @parseMembers_memberTexts (g :: gs) (List.cons_ne_nil g gs) hrest (f + 1)
        (by simp at hfuel ⊢; omega) t
      rw [memberTexts_of_scalar hrest] at ih
      rw [memberTexts_of_scalar hf, List.map_cons, List.map_cons, List.intercalate_cons_cons]
      simp only [List.append_assoc, List.cons_append]
      rw [parseMembers_member (hf (k, v) List.mem_cons_self) f (.inl rfl), if_pos rfl]
      simp only [List.map_cons] at ih
      rw [List.nil_append, ih]
      rfl

/-- Pieces that are each non-empty are at least as many as the code units of
their join. -/
theorem length_le_intercalate (sep : JsString) :
    ∀ xs : List JsString, (∀ x ∈ xs, x ≠ []) → xs.length ≤ (sep.intercalate xs).length
  | [], _ => by simp
  | [x], h => by
      simp only [List.intercalate_singleton, List.length_singleton]
      exact List.length_pos_iff.mpr (h x List.mem_cons_self)
  | x :: y :: ys, h => by
      have hx := List.length_pos_iff.mpr (h x List.mem_cons_self)
      have ih := length_le_intercalate sep (y :: ys) fun z hz => h z (List.mem_cons_of_mem x hz)
      rw [List.intercalate_cons_cons, List.length_append, List.length_append, List.length_cons]
      omega

/-- **A flat object survives `JSON.stringify` and `JSON.parse`.** -/
theorem parse_serialize_obj {fields : List (JsString × JsValue)}
    (hf : ∀ f ∈ fields, isScalar f.2 = true) : parse (serialize (.obj fields)) = some (.obj fields) := by
  have htext : serialize (.obj fields) = 0x7B :: ([0x2C].intercalate (memberTexts fields) ++ [0x7D]) := by
    rw [serialize, List.cons_append]
  rw [parse, htext, List.length_cons, show 2 * (_ + 1) + 2 = (2 * _ + 3) + 1 by ring,
    parseValue_cons _ (by decide), if_pos rfl]
  cases fields with
  | nil => rfl
  | cons f rest =>
      -- the first member starts with the quotation mark of its key
      have hlen : (f :: rest).length ≤ ([0x2C].intercalate (memberTexts (f :: rest))).length := by
        apply le_trans _ (length_le_intercalate _ _ _)
        · simp [memberTexts_of_scalar hf]
        · intro x hx
          rw [memberTexts_of_scalar hf] at hx
          obtain ⟨g, -, rfl⟩ := List.mem_map.mp hx
          simp [quote]
      have hfirst : ∃ r, [0x2C].intercalate (memberTexts (f :: rest)) ++ [0x7D] = 0x22 :: r := by
        rw [memberTexts_of_scalar hf, List.map_cons]
        cases rest <;> simp [quote, List.intercalate_cons_cons]
      obtain ⟨r, hr⟩ := hfirst
      rw [hr]
      simp only [skipWs_cons (u := 0x22) (by decide), show (0x22 : CodeUnit) ≠ 0x7D by decide,
        if_false]
      rw [← hr, parseMembers_memberTexts (List.cons_ne_nil f rest) hf
        (by simp only [List.length_append, List.length_singleton] at hlen ⊢; omega) []]
      rfl

/-! ## The text of a flat object read as Latin-1 -/

/-- A scalar with its string, if it is one, replaced by its mojibake. -/
def mojibakeScalar : JsValue → JsValue
  | .str s => .str (mojibake s)
  | v => v

/-- A member with its key and string value replaced by their mojibake. -/
def mojibakeField (f : JsString × JsValue) : JsString × JsValue := (mojibake f.1, mojibakeScalar f.2)

theorem isScalar_num_ofInt (k : ℤ) : isScalar (.num (.ofInt k)) = true ↔ k.natAbs < 10 ^ 21 := by
  simp only [isScalar, JsonNumber.ofInt, beq_self_eq_true, Bool.true_and]
  exact decide_eq_true_iff

/-- The strings of a scalar are ASCII. -/
def scalarAscii : JsValue → Bool
  | .str s => isAscii s
  | _ => true

/-- The strings of a scalar are well formed. -/
def scalarWellFormed : JsValue → Bool
  | .str s => isWellFormed s
  | _ => true

theorem quoteBody_cons_of_not_high {a : CodeUnit} (ha : isHighSurrogate a = false) (s : JsString) :
    quoteBody (a :: s) = escapeUnit a ++ quoteBody s := by
  cases s with
  | nil => simp [quoteBody]
  | cons b rest => simp [quoteBody, ha]

/-- Quoting goes code unit by code unit across a prefix without surrogates. -/
theorem quoteBody_append {p : JsString} (hp : ∀ u ∈ p, isSurrogate u = false) (t : JsString) :
    quoteBody (p ++ t) = quoteBody p ++ quoteBody t := by
  induction p with
  | nil => rfl
  | cons u p ih =>
      have hu := isHighSurrogate_eq_false (hp u List.mem_cons_self)
      rw [List.cons_append, quoteBody_cons_of_not_high hu, quoteBody_cons_of_not_high hu,
        ih fun v hv => hp v (List.mem_cons_of_mem u hv), List.append_assoc]

/-- Code units from `U+0080` to `U+00FF` need no escape. -/
theorem quoteBody_of_latin1High {p : JsString} (hp : ∀ u ∈ p, 0x80 ≤ u.val ∧ u.val < 0x100) :
    quoteBody p = p := by
  induction p with
  | nil => rfl
  | cons u p ih =>
      obtain ⟨h80, h100⟩ := hp u List.mem_cons_self
      have hs : isSurrogate u = false := isSurrogate_eq_false_of_lt (by omega)
      rw [quoteBody_cons_of_not_high (isHighSurrogate_eq_false hs),
        escapeUnit_of_plain (by omega) (by omega) (by omega) hs,
        ih fun v hv => hp v (List.mem_cons_of_mem u hv)]
      rfl

theorem hexUnit_lt {d : ℕ} (hd : d < 16) : (hexUnit d).val < 0x80 := by
  unfold hexUnit
  split_ifs <;> simp only [Fin.val_ofNat] <;> omega

theorem escapeUnit_ascii {u : CodeUnit} (hu : u.val < 0x80) : ∀ c ∈ escapeUnit u, c.val < 0x80 := by
  unfold escapeUnit
  split_ifs
  all_goals first
    | (intro c hc; simp only [List.mem_cons, List.not_mem_nil, or_false] at hc
       rcases hc with rfl | rfl <;> decide)
    | (intro c hc
       simp only [hex4, List.cons_append, List.nil_append, List.mem_cons, List.not_mem_nil,
         or_false] at hc
       rcases hc with rfl | rfl | rfl | rfl | rfl | rfl <;>
         first | decide | exact hexUnit_lt (Nat.mod_lt _ (by norm_num)))
    | (intro c hc; simp only [List.mem_singleton] at hc; subst hc; exact hu)

theorem escapeUnit_ne_nil (a : CodeUnit) : escapeUnit a ≠ [] := by
  unfold escapeUnit
  split_ifs <;> simp

/-- The first code unit `escapeUnit` writes is never a trailing surrogate. -/
theorem escapeUnit_head (a : CodeUnit) : ∀ u ∈ (escapeUnit a).head?, isLowSurrogate u = false := by
  intro u hu
  unfold escapeUnit at hu
  split_ifs at hu with h₁ h₂ h₃ h₄ h₅ h₆ h₇ h₈ <;>
    simp only [List.head?_cons, List.cons_append, Option.mem_def, Option.some.injEq] at hu <;>
    subst hu <;> first | decide | exact isLowSurrogate_eq_false (by simp at h₈; exact h₈.2)

theorem quoteBody_head (s : JsString) : ∀ u ∈ (quoteBody s).head?, isLowSurrogate u = false := by
  intro u hu
  match s with
  | [] => simp [quoteBody] at hu
  | [a] => exact escapeUnit_head a u hu
  | a :: b :: rest =>
      rw [quoteBody] at hu
      split_ifs at hu with hpair
      · simp only [List.head?_cons, Option.mem_def, Option.some.injEq] at hu
        subst hu
        simp [isHighSurrogate, isLowSurrogate] at hpair ⊢
        omega
      · rw [List.head?_append_of_ne_nil _ (escapeUnit_ne_nil a)] at hu
        exact escapeUnit_head a u hu

theorem mojibake_escapeUnit {a : CodeUnit} (ha : isSurrogate a = false) :
    mojibake (escapeUnit a) = quoteBody (mojibake [a]) := by
  by_cases h80 : a.val < 0x80
  · rw [mojibake_of_ascii (escapeUnit_ascii h80), mojibake_cons_of_ascii h80, mojibake_nil]
    rfl
  · have hplain := escapeUnit_of_plain (u := a) (by omega) (by omega) (by omega) ha
    have hval : unitValue a = a.val := by simp [unitValue, ha]
    have hbytes : ∀ u ∈ mojibake [a], 0x80 ≤ u.val ∧ u.val < 0x100 := by
      rw [mojibake_cons_of_not_high (isHighSurrogate_eq_false ha), mojibake_nil, List.append_nil, hval]
      exact fun u hu => ⟨mojibake_encodePoint_ge (by omega) (by have := a.isLt; omega) u hu,
        lt_of_mem_latin1 hu⟩
    rw [hplain, quoteBody_of_latin1High hbytes]

/-- Quoting commutes with the Latin-1 reading of UTF-8 on a well-formed string. -/
theorem mojibake_quoteBody {s : JsString} (hs : isWellFormed s = true) :
    mojibake (quoteBody s) = quoteBody (mojibake s) := by
  fun_induction quoteBody s with
  | case1 => rfl
  | case2 a =>
      have ha : isSurrogate a = false := by simpa [isWellFormed] using hs
      exact mojibake_escapeUnit ha
  | case3 a b rest hpair ih =>
      have hrest : isWellFormed rest = true := by simpa [isWellFormed, hpair] using hs
      obtain ⟨h80, hmax⟩ := pairValue_lt a b (by simp_all) (by simp_all)
      have hbytes : ∀ u ∈ latin1 (encodePoint (pairValue a b)), isSurrogate u = false ∧
          0x80 ≤ u.val ∧ u.val < 0x100 := fun u hu =>
        ⟨isSurrogate_eq_false_of_lt (by have := lt_of_mem_latin1 hu; omega),
          mojibake_encodePoint_ge h80 hmax u hu, lt_of_mem_latin1 hu⟩
      rw [mojibake_pair hpair, mojibake_pair hpair, quoteBody_append (fun u hu => (hbytes u hu).1),
        quoteBody_of_latin1High (fun u hu => (hbytes u hu).2), ih hrest]
  | case4 a b rest hpair ih =>
      have hwf : isSurrogate a = false ∧ isWellFormed (b :: rest) = true := by
        simpa [isWellFormed, hpair] using hs
      have ha := isHighSurrogate_eq_false hwf.1
      have hlatin : ∀ u ∈ mojibake [a], isSurrogate u = false := fun u hu =>
        isSurrogate_eq_false_of_lt (by have := lt_of_mem_latin1 hu; omega)
      have hsplit : mojibake (a :: b :: rest) = mojibake [a] ++ mojibake (b :: rest) := by
        rw [mojibake_cons_of_not_high ha, mojibake_cons_of_not_high ha, mojibake_nil, List.append_nil]
      rw [mojibake_append _ (quoteBody_head _), mojibake_escapeUnit hwf.1, ih hwf.2, hsplit,
        quoteBody_append hlatin]

/-- A text that starts below the surrogates does not start with a trailing one. -/
theorem head_not_low {u : CodeUnit} (hu : u.val < 0xD800) (r : JsString) :
    ∀ x ∈ (u :: r).head?, isLowSurrogate x = false := by
  intro x hx
  simp only [List.head?_cons, Option.mem_def, Option.some.injEq] at hx
  subst hx
  exact isLowSurrogate_eq_false (isSurrogate_eq_false_of_lt hu)

theorem mojibake_quote {s : JsString} (hs : isWellFormed s = true) :
    mojibake (quote s) = quote (mojibake s) := by
  have h22 : (0x22 : CodeUnit).val < 0x80 := by decide
  unfold quote
  rw [mojibake_append (0x22 :: quoteBody s) (head_not_low (by decide) []), mojibake_cons_of_ascii h22,
    mojibake_cons_of_ascii h22, mojibake_nil, mojibake_quoteBody hs]

theorem intText_ascii (k : ℤ) : ∀ u ∈ intText k, u.val < 0x80 := by
  intro u hu
  unfold intText at hu
  rw [List.mem_append, decimal_eq] at hu
  rcases hu with hu | hu
  · split_ifs at hu
    · simp only [List.mem_singleton] at hu
      subst hu
      decide
    · simp at hu
  · obtain ⟨d, hd, rfl⟩ := List.mem_map.mp hu
    have hd10 := decimalList_lt _ d hd
    rw [digitUnit_val hd10]
    omega

theorem mojibake_serialize_scalar {v : JsValue} (hv : isScalar v = true)
    (hw : scalarWellFormed v = true) : mojibake (serialize v) = serialize (mojibakeScalar v) := by
  match v, hv, hw with
  | .null, _, _ =>
      show mojibake (ascii "null") = ascii "null"
      decide +kernel
  | .bool true, _, _ =>
      show mojibake (ascii "true") = ascii "true"
      decide +kernel
  | .bool false, _, _ =>
      show mojibake (ascii "false") = ascii "false"
      decide +kernel
  | .str s, _, hs => exact mojibake_quote hs
  | .num x, hx, _ =>
      obtain ⟨m, e⟩ := x
      simp only [isScalar, Bool.and_eq_true, beq_iff_eq, decide_eq_true_eq] at hx
      obtain ⟨rfl, hm⟩ := hx
      show mojibake (serialize (.num (.ofInt m))) = serialize (.num (.ofInt m))
      rw [serialize_num_ofInt hm]
      exact mojibake_of_ascii (intText_ascii m)

theorem isScalar_mojibakeScalar (v : JsValue) : isScalar (mojibakeScalar v) = isScalar v := by
  cases v <;> rfl

theorem mojibake_member {k : JsString} {v : JsValue} (hk : isWellFormed k = true)
    (hv : isScalar v = true) (hw : scalarWellFormed v = true) :
    mojibake (quote k ++ 0x3A :: serialize v) =
      quote (mojibake k) ++ 0x3A :: serialize (mojibakeScalar v) := by
  rw [mojibake_append _ (head_not_low (by decide) _), mojibake_quote hk,
    mojibake_cons_of_ascii (by decide), mojibake_serialize_scalar hv hw]

theorem mojibake_intercalate : ∀ xs : List JsString,
    mojibake ([0x2C].intercalate xs) = [0x2C].intercalate (xs.map mojibake)
  | [] => rfl
  | [x] => by simp
  | x :: y :: ys => by
      rw [List.intercalate_cons_cons, List.append_assoc, List.singleton_append,
        mojibake_append _ (head_not_low (by decide) _), mojibake_cons_of_ascii (by decide),
        mojibake_intercalate (y :: ys)]
      simp only [List.map_cons, List.intercalate_cons_cons, List.append_assoc, List.singleton_append]

/-- **Reading the UTF-8 of a flat object's text as Latin-1.**  The result is the
text of the same object with every key and string value replaced by its
`mojibake`. -/
theorem mojibake_serialize_obj {fields : List (JsString × JsValue)}
    (hf : ∀ f ∈ fields, isScalar f.2 = true ∧ isWellFormed f.1 = true ∧ scalarWellFormed f.2 = true) :
    mojibake (serialize (.obj fields)) = serialize (.obj (fields.map mojibakeField)) := by
  have hscalar : ∀ f ∈ fields, isScalar f.2 = true := fun f hf' => (hf f hf').1
  have hscalar' : ∀ f ∈ fields.map mojibakeField, isScalar f.2 = true := by
    intro f hf'
    obtain ⟨g, hg, rfl⟩ := List.mem_map.mp hf'
    rw [mojibakeField, isScalar_mojibakeScalar]
    exact hscalar g hg
  have hmembers : (memberTexts fields).map mojibake = memberTexts (fields.map mojibakeField) := by
    rw [memberTexts_of_scalar hscalar, memberTexts_of_scalar hscalar', List.map_map, List.map_map]
    refine List.map_congr_left fun f hf' => ?_
    obtain ⟨hv, hk, hw⟩ := hf f hf'
    exact mojibake_member hk hv hw
  simp only [serialize, List.cons_append]
  rw [mojibake_cons_of_ascii (by decide), mojibake_append _ (head_not_low (by decide) []),
    mojibake_intercalate, hmembers, mojibake_cons_of_ascii (by decide), mojibake_nil]


/-- A member is its own mojibake exactly when its key and string value are
ASCII. -/
theorem mojibakeField_eq_self_iff (f : JsString × JsValue) :
    mojibakeField f = f ↔ isAscii f.1 = true ∧ scalarAscii f.2 = true := by
  obtain ⟨k, v⟩ := f
  cases v <;> simp [mojibakeField, mojibakeScalar, scalarAscii, mojibake_eq_self_iff]

theorem map_mojibakeField_eq_self_iff (fields : List (JsString × JsValue)) :
    fields.map mojibakeField = fields ↔ ∀ f ∈ fields, isAscii f.1 = true ∧ scalarAscii f.2 = true := by
  induction fields with
  | nil => simp
  | cons f fields ih => simp [ih, mojibakeField_eq_self_iff]

/-- Under ASCII keys, a member of the mojibake is the mojibake of the member. -/
theorem get_map_mojibakeField {fields : List (JsString × JsValue)}
    (hkeys : ∀ f ∈ fields, isAscii f.1 = true) (key : JsString) :
    (JsValue.obj (fields.map mojibakeField)).get key = mojibakeScalar ((JsValue.obj fields).get key) := by
  have hmap : fields.map mojibakeField = fields.map fun f => (f.1, mojibakeScalar f.2) :=
    List.map_congr_left fun f hf => by rw [mojibakeField, (mojibake_eq_self_iff f.1).mpr (hkeys f hf)]
  rw [hmap, JsValue.get_obj_map_value rfl]

/-! ## Serialised text is well formed

`QuoteJSONString` escapes every lone surrogate and copies every pair, and the
rest of a JSON text is ASCII.  So the text of any value is a well-formed string
that starts with an ASCII code unit, which is what lets it go through UTF-8 and
back unchanged. -/

theorem isAscii_digitText {ds : List ℕ} (h : ∀ d ∈ ds, d < 10) : isAscii (digitText ds) = true := by
  refine List.all_eq_true.mpr fun u hu => ?_
  obtain ⟨d, hd, rfl⟩ := List.mem_map.mp hu
  have hd10 := h d hd
  simp only [digitUnit_val hd10, decide_eq_true_eq]
  omega

theorem isAscii_decimal (n : ℕ) : isAscii (decimal n) = true := by
  rw [decimal_eq]
  exact isAscii_digitText (decimalList_lt n)

theorem isAscii_significandText {sig : List ℕ} (hsig : ∀ d ∈ sig, d < 10) (n : ℤ) :
    isAscii (significandText sig n) = true := by
  have htake (k : ℕ) : isAscii (digitText (sig.take k)) = true :=
    isAscii_digitText fun d hd => hsig d (List.mem_of_mem_take hd)
  have hdrop (k : ℕ) : isAscii (digitText (sig.drop k)) = true :=
    isAscii_digitText fun d hd => hsig d (List.mem_of_mem_drop hd)
  have htail : isAscii (digitText sig.tail) = true :=
    isAscii_digitText fun d hd => hsig d (List.mem_of_mem_tail hd)
  have hzero : (digitUnit 0).val < 0x80 := by decide
  have hzeros (k : ℕ) : isAscii (List.replicate k (digitUnit 0)) = true :=
    List.all_eq_true.mpr fun u hu => by rw [List.eq_of_mem_replicate hu]; decide
  unfold significandText
  dsimp only
  split_ifs <;> simp [isAscii_digitText hsig, htake, hdrop, htail, hzero, hzeros, isAscii_decimal]

theorem isAscii_numberToString (x : JsonNumber) : isAscii (numberToString x) = true := by
  unfold numberToString
  by_cases h0 : x.mantissa = 0
  · rw [if_pos h0]
    exact isAscii_decimal 0
  · rw [if_neg h0]
    have hds : ∀ d ∈ decimalDigits x.mantissa.natAbs, d < 10 := by
      rw [decimalDigits_eq]
      exact fun d hd => Nat.digits_lt_base (by norm_num) hd
    -- the significand keeps some of those digits, reversed
    have hsig : ∀ d ∈ ((decimalDigits x.mantissa.natAbs).dropWhile (· = 0)).reverse, d < 10 :=
      fun d hd => hds d ((List.dropWhile_sublist _).subset (List.mem_reverse.mp hd))
    dsimp only
    rw [isAscii_append, isAscii_significandText hsig, Bool.and_true]
    split_ifs <;> decide

theorem isAscii_hex4 (n : ℕ) : isAscii (hex4 n) = true := by
  simp only [hex4, isAscii_cons, isAscii_nil, Bool.and_true, Bool.and_eq_true, decide_eq_true_eq]
  exact ⟨hexUnit_lt (Nat.mod_lt _ (by norm_num)), hexUnit_lt (Nat.mod_lt _ (by norm_num)),
    hexUnit_lt (Nat.mod_lt _ (by norm_num)), hexUnit_lt (Nat.mod_lt _ (by norm_num))⟩

theorem not_surrogate_of_isAscii {s : JsString} (h : isAscii s = true) :
    ∀ c ∈ s, isSurrogate c = false :=
  fun _ hc => isSurrogate_eq_false_of_lt (by have := lt_of_isAscii h hc; omega)

/-- Every code unit `escapeUnit` writes is ASCII, or the unit itself when that is
no surrogate. -/
theorem escapeUnit_not_surrogate (u : CodeUnit) : ∀ c ∈ escapeUnit u, isSurrogate c = false := by
  have hescape (e : CodeUnit) (he : e.val < 0x80) : ∀ c ∈ [0x5C, e], isSurrogate c = false :=
    not_surrogate_of_isAscii (by simp [he])
  unfold escapeUnit
  split_ifs with h₁ h₂ h₃ h₄ h₅ h₆ h₇ h₈
  all_goals first | (refine hescape _ ?_; decide) | skip
  · exact not_surrogate_of_isAscii (by rw [isAscii_append, isAscii_hex4]; decide)
  · intro c hc
    rw [List.mem_singleton.mp hc]
    simp only [Bool.or_eq_true, decide_eq_true_eq, not_or] at h₈
    simpa using h₈.2

theorem isWellFormed_quoteBody (s : JsString) : isWellFormed (quoteBody s) = true := by
  fun_induction quoteBody s with
  | case1 => rfl
  | case2 a => exact isWellFormed_of_forall (escapeUnit_not_surrogate a)
  | case3 a b rest hpair ih =>
      -- a pair is copied, and read back as a pair
      simp only [isWellFormed, hpair, if_true]
      exact ih
  | case4 a b rest hpair ih =>
      exact isWellFormed_append (isWellFormed_of_forall (escapeUnit_not_surrogate a)) ih

/-- An ASCII code unit in front of a well-formed string keeps it well formed. -/
theorem isWellFormed_cons_of_lt {u : CodeUnit} (hu : u.val < 0x80) {s : JsString}
    (hs : isWellFormed s = true) : isWellFormed (u :: s) = true := by
  rw [← List.singleton_append]
  exact isWellFormed_append (isWellFormed_of_isAscii (by simpa using hu)) hs

theorem isWellFormed_quote (s : JsString) : isWellFormed (quote s) = true := by
  unfold quote
  exact isWellFormed_cons_of_lt (by decide)
    (isWellFormed_append (isWellFormed_quoteBody s) (by decide))

theorem isWellFormed_intercalate : ∀ {ts : List JsString}, (∀ t ∈ ts, isWellFormed t = true) →
    isWellFormed ([0x2C].intercalate ts) = true
  | [], _ => rfl
  | [t], h => by simpa using h t List.mem_cons_self
  | t :: t' :: ts, h => by
      rw [List.intercalate_cons_cons, List.append_assoc]
      refine isWellFormed_append (h t List.mem_cons_self)
        (isWellFormed_cons_of_lt (by decide) (isWellFormed_intercalate fun x hx => h x ?_))
      exact List.mem_cons_of_mem t hx

/-- A member is written `key:value`. -/
theorem isWellFormed_memberTexts_cons (key : JsString) (v : JsValue)
    (rest : List (JsString × JsValue)) (hv : isWellFormed (serialize v) = true)
    (hrest : ∀ t ∈ memberTexts rest, isWellFormed t = true) :
    ∀ t ∈ memberTexts ((key, v) :: rest), isWellFormed t = true := by
  have hmember : isWellFormed (quote key ++ 0x3A :: serialize v) = true :=
    isWellFormed_append (isWellFormed_quote key) (isWellFormed_cons_of_lt (by decide) hv)
  -- a member whose value is `undefined` is left out
  cases v <;> simpa [memberTexts, hmember] using hrest

theorem isAscii_null : isAscii (ascii "null") = true := by decide +kernel

theorem isAscii_true : isAscii (ascii "true") = true := by decide +kernel

theorem isAscii_false : isAscii (ascii "false") = true := by decide +kernel

mutual

theorem isWellFormed_serialize : (v : JsValue) → isWellFormed (serialize v) = true
  | .undefined => isWellFormed_of_isAscii isAscii_null
  | .null => isWellFormed_of_isAscii isAscii_null
  | .bool true => isWellFormed_of_isAscii isAscii_true
  | .bool false => isWellFormed_of_isAscii isAscii_false
  | .num x => by
      simp only [serialize]
      split_ifs
      · exact isWellFormed_of_isAscii (isAscii_numberToString x)
      · exact isWellFormed_of_isAscii isAscii_null
  | .str s => isWellFormed_quote s
  | .arr xs => by
      simp only [serialize]
      exact isWellFormed_cons_of_lt (by decide) (isWellFormed_append
        (isWellFormed_intercalate (isWellFormed_elementTexts xs)) (by decide))
  | .obj fields => by
      simp only [serialize]
      exact isWellFormed_cons_of_lt (by decide) (isWellFormed_append
        (isWellFormed_intercalate (isWellFormed_memberTexts fields)) (by decide))

theorem isWellFormed_elementTexts : (xs : List JsValue) → ∀ t ∈ elementTexts xs, isWellFormed t = true
  | [] => by simp [elementTexts]
  | x :: xs => by
      have hx := isWellFormed_serialize x
      have hxs := isWellFormed_elementTexts xs
      intro t ht
      rcases List.mem_cons.mp ht with rfl | ht
      · exact hx
      · exact hxs t ht

theorem isWellFormed_memberTexts :
    (fields : List (JsString × JsValue)) → ∀ t ∈ memberTexts fields, isWellFormed t = true
  | [] => by simp [memberTexts]
  | (key, v) :: rest =>
      isWellFormed_memberTexts_cons key v rest (isWellFormed_serialize v)
        (isWellFormed_memberTexts rest)

end

/-- The text of a value starts with an ASCII code unit. -/
theorem serialize_head (v : JsValue) : ∀ u ∈ (serialize v).head?, u.val < 0x80 := by
  intro u hu
  have hkeyword {w : String} (hw : isAscii (ascii w) = true) (h : u ∈ (ascii w).head?) :
      u.val < 0x80 :=
    lt_of_isAscii hw (List.mem_of_mem_head? h)
  cases v with
  | num x =>
      simp only [serialize] at hu
      split_ifs at hu
      · exact lt_of_isAscii (isAscii_numberToString x) (List.mem_of_mem_head? hu)
      · exact hkeyword isAscii_null hu
  | undefined | null => exact hkeyword isAscii_null hu
  | bool b =>
      cases b
      · exact hkeyword isAscii_false hu
      · exact hkeyword isAscii_true hu
  | str s | arr xs | obj fields =>
      simp only [serialize, quote, List.head?_cons, List.cons_append, Option.mem_def,
        Option.some.injEq] at hu
      subst hu
      decide

end Json
