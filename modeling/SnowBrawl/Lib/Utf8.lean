import SnowBrawl.Lib.JsString

/-!
# UTF-8, and the Latin-1 reading of its bytes

`TextEncoder.prototype.encode` first reads a string as a sequence of Unicode
scalar values, a surrogate pair as one code point and a lone surrogate as
U+FFFD (`scalarValues`), and then writes each scalar value as one to four bytes
(`encodePoint`).  `TextDecoder.prototype.decode` runs the WHATWG UTF-8 decoder
(`Decoder`), which never fails: each maximal ill-formed subsequence becomes one
U+FFFD, and a leading byte order mark is dropped.

`String.fromCharCode(b)` on a byte gives the code unit of the same value, so a
byte sequence read back without decoding is its Latin-1 reading (`latin1`).  A
string encoded and then read back so is `mojibake s`: one code unit per byte.
The two readings agree on ASCII (`mojibake_of_ascii`); every other scalar value
turns into two to four code units between U+0080 and U+00FF
(`mojibake_encodePoint_ge`).

`mojibake` distributes over concatenation at every point that does not split a
surrogate pair (`mojibake_append`), which is what lets a format built from
ASCII punctuation around arbitrary strings be reasoned about piecewise.

The decoder reads back every scalar value the encoder writes
(`run_encodePoint`, one lemma per length), so `decode` inverts `encode` on a
well-formed string, except that a leading U+FEFF is taken for a byte order
mark and dropped (`decode_encode`).
-/

namespace Utf8
open Js

/-- An element of a `Uint8Array`. -/
abbrev Byte := Fin 256

/-- `Byte` is not empty, named once like `Js.instNeZeroCodeUnitCount`. -/
instance instNeZeroByteCount : NeZero (256 : ℕ) := ⟨by decide⟩

/-! ## Scalar values of a string -/

/-- A leading surrogate, `U+D800`–`U+DBFF`. -/
def isHighSurrogate (u : CodeUnit) : Bool := 0xD800 ≤ u.val && u.val ≤ 0xDBFF

/-- A trailing surrogate, `U+DC00`–`U+DFFF`. -/
def isLowSurrogate (u : CodeUnit) : Bool := 0xDC00 ≤ u.val && u.val ≤ 0xDFFF

/-- Either kind of surrogate. -/
def isSurrogate (u : CodeUnit) : Bool := 0xD800 ≤ u.val && u.val ≤ 0xDFFF

/-- The code point a surrogate pair stands for. -/
def pairValue (hi lo : CodeUnit) : ℕ := 0x10000 + (hi.val - 0xD800) * 0x400 + (lo.val - 0xDC00)

/-- A code unit read on its own: a lone surrogate is U+FFFD. -/
def unitValue (u : CodeUnit) : ℕ := if isSurrogate u then 0xFFFD else u.val

/-- The conversion of a string to a USVString, read as code points: a surrogate
pair is one code point, and every other code unit is one. -/
def scalarValues : JsString → List ℕ
  | [] => []
  | [a] => [unitValue a]
  | a :: b :: rest =>
      if isHighSurrogate a && isLowSurrogate b then pairValue a b :: scalarValues rest
      else unitValue a :: scalarValues (b :: rest)

/-- `String.prototype.isWellFormed`: no lone surrogate. -/
def isWellFormed : JsString → Bool
  | [] => true
  | [a] => !isSurrogate a
  | a :: b :: rest =>
      if isHighSurrogate a && isLowSurrogate b then isWellFormed rest
      else !isSurrogate a && isWellFormed (b :: rest)

/-! ## The encoder -/

/-- The UTF-8 encoder on one scalar value. -/
def encodePoint (c : ℕ) : List Byte :=
  if c < 0x80 then [Fin.ofNat _ c]
  else if c < 0x800 then [Fin.ofNat _ (0xC0 + c / 0x40), Fin.ofNat _ (0x80 + c % 0x40)]
  else if c < 0x10000 then
    [Fin.ofNat _ (0xE0 + c / 0x1000), Fin.ofNat _ (0x80 + c / 0x40 % 0x40),
      Fin.ofNat _ (0x80 + c % 0x40)]
  else
    [Fin.ofNat _ (0xF0 + c / 0x40000), Fin.ofNat _ (0x80 + c / 0x1000 % 0x40),
      Fin.ofNat _ (0x80 + c / 0x40 % 0x40), Fin.ofNat _ (0x80 + c % 0x40)]

/-- `new TextEncoder().encode(s)`. -/
def encode (s : JsString) : List Byte := (scalarValues s).flatMap encodePoint

/-- The string of `String.fromCharCode(b)` over the bytes, one code unit each. -/
def latin1 (bytes : List Byte) : JsString := bytes.map (Fin.castLE (by decide))

/-- Every code unit is ASCII. -/
def isAscii (s : JsString) : Bool := s.all fun u => u.val < 0x80

/-- A string encoded as UTF-8 and read back one byte per code unit. -/
def mojibake (s : JsString) : JsString := latin1 (encode s)

/-! ## The decoder -/

/-- The UTF-8 decoder's variables between bytes (WHATWG Encoding §8.1.1). -/
structure Decoder where
  codePoint : ℕ
  bytesSeen : ℕ
  bytesNeeded : ℕ
  lowerBoundary : ℕ
  upperBoundary : ℕ
  deriving DecidableEq, Repr

/-- U+FFFD REPLACEMENT CHARACTER. -/
def replacementCharacter : CodeUnit := 0xFFFD

/-- The code units of a code point: a supplementary one is a surrogate pair. -/
def codeUnits (c : ℕ) : JsString :=
  if c < 0x10000 then [Fin.ofNat _ c]
  else [Fin.ofNat _ (0xD800 + (c - 0x10000) / 0x400),
    Fin.ofNat _ (0xDC00 + (c - 0x10000) % 0x400)]

namespace Decoder

/-- No sequence pending. -/
def init : Decoder := ⟨0, 0, 0, 0x80, 0xBF⟩

/-- A byte read with no sequence pending: an ASCII byte is a code point, a lead
byte opens a sequence (narrowing the range of the next byte after `E0`, `ED`,
`F0` and `F4`), and any other byte is an error. -/
def start (b : Byte) : JsString × Decoder :=
  if b.val ≤ 0x7F then (codeUnits b.val, init)
  else if 0xC2 ≤ b.val ∧ b.val ≤ 0xDF then
    ([], { init with bytesNeeded := 1, codePoint := b.val % 0x20 })
  else if 0xE0 ≤ b.val ∧ b.val ≤ 0xEF then
    ([], { init with
      lowerBoundary := if b.val = 0xE0 then 0xA0 else 0x80
      upperBoundary := if b.val = 0xED then 0x9F else 0xBF
      bytesNeeded := 2, codePoint := b.val % 0x10 })
  else if 0xF0 ≤ b.val ∧ b.val ≤ 0xF4 then
    ([], { init with
      lowerBoundary := if b.val = 0xF0 then 0x90 else 0x80
      upperBoundary := if b.val = 0xF4 then 0x8F else 0xBF
      bytesNeeded := 3, codePoint := b.val % 0x08 })
  else ([replacementCharacter], init)

/-- The decoder's handler on one byte, returning the code units it emits. -/
def step (d : Decoder) (b : Byte) : JsString × Decoder :=
  if d.bytesNeeded = 0 then start b
  else if ¬ (d.lowerBoundary ≤ b.val ∧ b.val ≤ d.upperBoundary) then
    -- the pending sequence is an error, and the byte is put back on the stream
    -- to be read again with nothing pending
    let (out, d') := start b
    (replacementCharacter :: out, d')
  else
    let cp := d.codePoint * 0x40 + b.val % 0x40
    if d.bytesSeen + 1 = d.bytesNeeded then (codeUnits cp, init)
    else ([], ⟨cp, d.bytesSeen + 1, d.bytesNeeded, 0x80, 0xBF⟩)

/-- The decoder over the rest of the stream; a sequence still pending at its end
is one more error. -/
def run : Decoder → List Byte → JsString
  | d, [] => if d.bytesNeeded = 0 then [] else [replacementCharacter]
  | d, b :: rest => (d.step b).1 ++ run (d.step b).2 rest

end Decoder

/-- `new TextDecoder("utf-8").decode(bytes)`: the decoder's output, less a
leading U+FEFF (the byte order mark, which the decoder skips unless told not to). -/
def decode (bytes : List Byte) : JsString :=
  match Decoder.init.run bytes with
  | u :: rest => if u = 0xFEFF then rest else u :: rest
  | [] => []

/-! ## Lemmas -/

@[simp] theorem latin1_nil : latin1 [] = [] := rfl

@[simp] theorem latin1_cons (b : Byte) (bs : List Byte) :
    latin1 (b :: bs) = Fin.castLE (by decide) b :: latin1 bs := rfl

@[simp] theorem latin1_append (bs cs : List Byte) : latin1 (bs ++ cs) = latin1 bs ++ latin1 cs :=
  List.map_append

/-- A Latin-1 reading holds only code units below U+0100, so never a surrogate. -/
theorem lt_of_mem_latin1 {u : CodeUnit} {bs : List Byte} (h : u ∈ latin1 bs) : u.val < 0x100 := by
  obtain ⟨b, -, rfl⟩ := List.mem_map.mp h
  exact b.isLt

theorem isSurrogate_eq_false_of_lt {u : CodeUnit} (h : u.val < 0xD800) : isSurrogate u = false := by
  simp [isSurrogate]; omega

theorem isHighSurrogate_eq_false_of_lt {u : CodeUnit} (h : u.val < 0xD800) :
    isHighSurrogate u = false := by
  simp [isHighSurrogate]; omega

theorem isHighSurrogate_eq_false {u : CodeUnit} (h : isSurrogate u = false) :
    isHighSurrogate u = false := by
  simp [isSurrogate, isHighSurrogate] at *; omega

theorem isLowSurrogate_eq_false {u : CodeUnit} (h : isSurrogate u = false) :
    isLowSurrogate u = false := by
  simp [isSurrogate, isLowSurrogate] at *; omega

/-- A code unit that does not open a pair is a code point by itself. -/
theorem scalarValues_cons_of_not_high {a : CodeUnit} (ha : isHighSurrogate a = false)
    (s : JsString) : scalarValues (a :: s) = unitValue a :: scalarValues s := by
  cases s with
  | nil => rfl
  | cons b rest => simp [scalarValues, ha]

/-- Cutting a string where the second part does not begin with a trailing
surrogate never splits a pair. -/
theorem scalarValues_append (s : JsString) {t : JsString}
    (ht : ∀ u ∈ t.head?, isLowSurrogate u = false) :
    scalarValues (s ++ t) = scalarValues s ++ scalarValues t := by
  fun_induction scalarValues s with
  | case1 => rfl
  | case2 a =>
      cases t with
      | nil => rfl
      | cons u t' =>
          have hu : isLowSurrogate u = false := ht u rfl
          simp [scalarValues, hu]
  | case3 a b rest hpair ih => simp [scalarValues, hpair, ih]
  | case4 a b rest hpair ih =>
      simp only [List.cons_append] at ih ⊢
      simp [scalarValues, hpair, ih]

theorem encode_append (s : JsString) {t : JsString}
    (ht : ∀ u ∈ t.head?, isLowSurrogate u = false) : encode (s ++ t) = encode s ++ encode t := by
  simp [encode, scalarValues_append s ht]

theorem mojibake_append (s : JsString) {t : JsString}
    (ht : ∀ u ∈ t.head?, isLowSurrogate u = false) :
    mojibake (s ++ t) = mojibake s ++ mojibake t := by
  simp [mojibake, encode_append s ht]

theorem mojibake_cons_of_not_high {a : CodeUnit} (ha : isHighSurrogate a = false) (s : JsString) :
    mojibake (a :: s) = latin1 (encodePoint (unitValue a)) ++ mojibake s := by
  simp [mojibake, encode, scalarValues_cons_of_not_high ha]

/-- A surrogate pair is one code point of the encoding. -/
theorem mojibake_pair {a b : CodeUnit} (hab : (isHighSurrogate a && isLowSurrogate b) = true)
    (s : JsString) : mojibake (a :: b :: s) = latin1 (encodePoint (pairValue a b)) ++ mojibake s := by
  simp [mojibake, encode, scalarValues, hab]

/-- An ASCII code unit is its own byte and its own Latin-1 reading. -/
theorem mojibake_cons_of_ascii {a : CodeUnit} (ha : a.val < 0x80) (s : JsString) :
    mojibake (a :: s) = a :: mojibake s := by
  rw [mojibake_cons_of_not_high (isHighSurrogate_eq_false_of_lt (by omega))]
  have hval : unitValue a = a.val := by simp [unitValue, isSurrogate_eq_false_of_lt (u := a) (by omega)]
  rw [hval, encodePoint, if_pos ha, latin1_cons, latin1_nil, List.singleton_append]
  congr 1
  ext
  simp
  omega

@[simp] theorem mojibake_nil : mojibake [] = [] := rfl

theorem mojibake_of_ascii {s : JsString} (h : ∀ u ∈ s, u.val < 0x80) : mojibake s = s := by
  induction s with
  | nil => rfl
  | cons a s ih =>
      rw [mojibake_cons_of_ascii (h a List.mem_cons_self),
        ih fun u hu => h u (List.mem_cons_of_mem a hu)]

/-- Every byte of the encoding of a non-ASCII scalar value is at least `0x80`. -/
theorem mojibake_encodePoint_ge {c : ℕ} (h80 : 0x80 ≤ c) (hmax : c < 0x110000) :
    ∀ u ∈ latin1 (encodePoint c), 0x80 ≤ u.val := by
  intro u hu
  have hc : ¬ c < 0x80 := by omega
  unfold encodePoint at hu
  simp only [hc, if_false] at hu
  split_ifs at hu <;>
    simp only [latin1_cons, latin1_nil, List.mem_cons, List.not_mem_nil, or_false] at hu <;>
    rcases hu with rfl | rfl | rfl | rfl <;> simp <;> omega

theorem pairValue_lt (a b : CodeUnit) (ha : isHighSurrogate a = true) (hb : isLowSurrogate b = true) :
    0x80 ≤ pairValue a b ∧ pairValue a b < 0x110000 := by
  simp only [isHighSurrogate, isLowSurrogate, Bool.and_eq_true, decide_eq_true_eq] at ha hb
  unfold pairValue
  omega

/-! ## Lengths -/

/-- A code point below `0x80` is one byte, every other at least two. -/
theorem length_encodePoint_ge (c : ℕ) : (if c < 0x80 then 1 else 2) ≤ (encodePoint c).length := by
  unfold encodePoint
  split_ifs <;> simp

/-- A code unit read on its own is ASCII exactly when it is. -/
theorem unitValue_lt_iff (u : CodeUnit) : unitValue u < 0x80 ↔ u.val < 0x80 := by
  unfold unitValue isSurrogate
  split_ifs with h
  · simp only [Bool.and_eq_true, decide_eq_true_eq] at h
    omega
  · rfl

theorem encode_singleton (a : CodeUnit) : encode [a] = encodePoint (unitValue a) := by
  simp [encode, scalarValues]

theorem encode_cons_cons (a b : CodeUnit) (rest : JsString) :
    encode (a :: b :: rest) =
      if isHighSurrogate a && isLowSurrogate b then encodePoint (pairValue a b) ++ encode rest
      else encodePoint (unitValue a) ++ encode (b :: rest) := by
  simp only [encode, scalarValues]
  split <;> simp

/-- The encoding has a byte for every code unit, and one more for every code
unit that is not ASCII: a code point below `0x800` is two bytes for one unit, a
larger one in the BMP three, and a pair four bytes for two units. -/
theorem length_add_countP_le_length_encode (s : JsString) :
    s.length + s.countP (fun u => 0x80 ≤ u.val) ≤ (encode s).length := by
  fun_induction scalarValues s with
  | case1 => simp [encode]
  | case2 a =>
      have h := length_encodePoint_ge (unitValue a)
      have ha := unitValue_lt_iff a
      rw [encode_singleton, List.countP_singleton, List.length_singleton]
      split_ifs at h ⊢ <;> simp only [decide_eq_true_eq] at * <;> omega
  | case3 a b rest hpair ih =>
      have hab : isHighSurrogate a = true ∧ isLowSurrogate b = true := by simpa using hpair
      have hlen : (encodePoint (pairValue a b)).length = 4 := by
        have : 0x10000 ≤ pairValue a b := by unfold pairValue; omega
        unfold encodePoint
        split_ifs <;> first | omega | rfl
      -- both halves of a pair are far above ASCII
      have hge : 0x80 ≤ a.val ∧ 0x80 ≤ b.val := by
        have := hab.1; have := hab.2
        simp only [isHighSurrogate, isLowSurrogate, Bool.and_eq_true, decide_eq_true_eq] at *
        omega
      rw [encode_cons_cons, if_pos hpair, List.length_append, hlen, List.countP_cons,
        List.countP_cons, List.length_cons, List.length_cons]
      simp only [hge.1, hge.2, decide_true, if_true]
      omega
  | case4 a b rest hpair ih =>
      have h := length_encodePoint_ge (unitValue a)
      have ha := unitValue_lt_iff a
      rw [encode_cons_cons, if_neg hpair, List.length_append, List.countP_cons, List.length_cons]
      rw [List.length_cons] at ih
      split_ifs at h ⊢ <;> simp_all <;> omega

/-- A non-empty string has a non-empty encoding. -/
theorem encode_ne_nil {s : JsString} (h : s ≠ []) : encode s ≠ [] := by
  have hlen := length_add_countP_le_length_encode s
  have hpos : 0 < s.length := List.length_pos_iff.mpr h
  exact List.ne_nil_of_length_pos (by omega)

/-- **A string survives the Latin-1 reading of its encoding only when it is
ASCII.**  Any other code unit makes the reading longer. -/
theorem mojibake_eq_self_iff (s : JsString) : mojibake s = s ↔ isAscii s = true := by
  constructor
  · intro h
    have hlen := length_add_countP_le_length_encode s
    have hml : (mojibake s).length = (encode s).length := List.length_map _
    rw [h] at hml
    have hzero : s.countP (fun u => 0x80 ≤ u.val) = 0 := by omega
    simp only [isAscii, List.all_eq_true, decide_eq_true_eq]
    intro u hu
    have := List.countP_eq_zero.mp hzero u hu
    simp only [decide_eq_true_eq] at this
    omega
  · intro h
    simp only [isAscii, List.all_eq_true, decide_eq_true_eq] at h
    exact mojibake_of_ascii h

/-- Reading the bytes of a Latin-1 string back into a `Uint8Array` gives the
bytes. -/
theorem map_ofNat_latin1 (bytes : List Byte) :
    (latin1 bytes).map (fun u => (Fin.ofNat 256 u.val : Byte)) = bytes := by
  rw [latin1, List.map_map]
  conv_rhs => rw [← List.map_id bytes]
  exact List.map_congr_left fun b _ => by ext; simp

/-! ## Decoding an encoding -/

namespace Decoder

theorem run_cons (d : Decoder) (b : Byte) (rest : List Byte) :
    d.run (b :: rest) = (d.step b).1 ++ (d.step b).2.run rest := rfl

theorem step_init (b : Byte) : init.step b = start b := rfl

theorem start_one {b : Byte} (h : b.val ≤ 0x7F) : start b = (codeUnits b.val, init) := by
  simp [start, h]

theorem start_two {b : Byte} (hlo : 0xC2 ≤ b.val) (hhi : b.val ≤ 0xDF) :
    start b = ([], ⟨b.val % 0x20, 0, 1, 0x80, 0xBF⟩) := by
  rw [start, if_neg (by omega), if_pos ⟨hlo, hhi⟩]
  rfl

theorem start_three {b : Byte} (hlo : 0xE0 ≤ b.val) (hhi : b.val ≤ 0xEF) :
    start b = ([], ⟨b.val % 0x10, 0, 2, if b.val = 0xE0 then 0xA0 else 0x80,
      if b.val = 0xED then 0x9F else 0xBF⟩) := by
  rw [start, if_neg (by omega), if_neg (by omega), if_pos ⟨hlo, hhi⟩]
  rfl

theorem start_four {b : Byte} (hlo : 0xF0 ≤ b.val) (hhi : b.val ≤ 0xF4) :
    start b = ([], ⟨b.val % 0x08, 0, 3, if b.val = 0xF0 then 0x90 else 0x80,
      if b.val = 0xF4 then 0x8F else 0xBF⟩) := by
  rw [start, if_neg (by omega), if_neg (by omega), if_neg (by omega), if_pos ⟨hlo, hhi⟩]
  rfl

/-- A continuation byte in range that ends the sequence emits its code point. -/
theorem step_last {d : Decoder} {b : Byte} (hneed : d.bytesNeeded = d.bytesSeen + 1)
    (hlo : d.lowerBoundary ≤ b.val) (hhi : b.val ≤ d.upperBoundary) :
    d.step b = (codeUnits (d.codePoint * 0x40 + b.val % 0x40), init) := by
  rw [step, if_neg (by omega), if_neg (not_not.mpr ⟨hlo, hhi⟩), if_pos hneed.symm]

/-- A continuation byte in range that does not end the sequence is taken in. -/
theorem step_more {d : Decoder} {b : Byte} (hneed : d.bytesSeen + 1 < d.bytesNeeded)
    (hlo : d.lowerBoundary ≤ b.val) (hhi : b.val ≤ d.upperBoundary) :
    d.step b = ([], ⟨d.codePoint * 0x40 + b.val % 0x40, d.bytesSeen + 1, d.bytesNeeded, 0x80, 0xBF⟩) := by
  rw [step, if_neg (by omega), if_neg (not_not.mpr ⟨hlo, hhi⟩), if_neg (by omega)]

end Decoder

theorem val_ofNat_byte {n : ℕ} (h : n < 0x100) : (Fin.ofNat 256 n : Byte).val = n := by
  simp only [Fin.val_ofNat]
  omega

theorem run_encodePoint_one {c : ℕ} (hc : c < 0x80) (rest : List Byte) :
    Decoder.init.run (encodePoint c ++ rest) = codeUnits c ++ Decoder.init.run rest := by
  have hb := val_ofNat_byte (show c < 0x100 by omega)
  rw [encodePoint, if_pos hc, List.singleton_append, Decoder.run_cons, Decoder.step_init,
    Decoder.start_one (by omega), hb]

theorem run_encodePoint_two {c : ℕ} (hlo : 0x80 ≤ c) (hc : c < 0x800) (rest : List Byte) :
    Decoder.init.run (encodePoint c ++ rest) = codeUnits c ++ Decoder.init.run rest := by
  have h1 := val_ofNat_byte (show 0xC0 + c / 0x40 < 0x100 by omega)
  have h2 := val_ofNat_byte (show 0x80 + c % 0x40 < 0x100 by omega)
  rw [encodePoint, if_neg (by omega), if_pos hc, List.cons_append, List.singleton_append,
    Decoder.run_cons, Decoder.step_init, Decoder.start_two (by omega) (by omega),
    Decoder.run_cons, Decoder.step_last rfl (by dsimp only; omega) (by dsimp only; omega)]
  simp only [h1, h2, List.nil_append]
  congr 2
  omega

theorem run_encodePoint_three {c : ℕ} (hlo : 0x800 ≤ c) (hc : c < 0x10000)
    (hsur : ¬ (0xD800 ≤ c ∧ c ≤ 0xDFFF)) (rest : List Byte) :
    Decoder.init.run (encodePoint c ++ rest) = codeUnits c ++ Decoder.init.run rest := by
  have h1 := val_ofNat_byte (show 0xE0 + c / 0x1000 < 0x100 by omega)
  have h2 := val_ofNat_byte (show 0x80 + c / 0x40 % 0x40 < 0x100 by omega)
  have h3 := val_ofNat_byte (show 0x80 + c % 0x40 < 0x100 by omega)
  rw [encodePoint, if_neg (by omega), if_neg (by omega), if_pos hc, List.cons_append,
    List.cons_append, List.singleton_append, Decoder.run_cons, Decoder.step_init,
    Decoder.start_three (by omega) (by omega)]
  -- after `E0` the second byte is at least `A0`, after `ED` at most `9F`
  rw [Decoder.run_cons, Decoder.step_more (by dsimp only; omega)
      (by dsimp only; rw [h1, h2]; split_ifs <;> omega)
      (by dsimp only; rw [h1, h2]; split_ifs <;> omega),
    Decoder.run_cons, Decoder.step_last rfl (by dsimp only; omega) (by dsimp only; omega)]
  simp only [h1, h2, h3, List.nil_append]
  congr 2
  omega

theorem run_encodePoint_four {c : ℕ} (hlo : 0x10000 ≤ c) (hc : c < 0x110000) (rest : List Byte) :
    Decoder.init.run (encodePoint c ++ rest) = codeUnits c ++ Decoder.init.run rest := by
  have h1 := val_ofNat_byte (show 0xF0 + c / 0x40000 < 0x100 by omega)
  have h2 := val_ofNat_byte (show 0x80 + c / 0x1000 % 0x40 < 0x100 by omega)
  have h3 := val_ofNat_byte (show 0x80 + c / 0x40 % 0x40 < 0x100 by omega)
  have h4 := val_ofNat_byte (show 0x80 + c % 0x40 < 0x100 by omega)
  rw [encodePoint, if_neg (by omega), if_neg (by omega), if_neg (by omega), List.cons_append,
    List.cons_append, List.cons_append, List.singleton_append, Decoder.run_cons,
    Decoder.step_init, Decoder.start_four (by omega) (by omega)]
  -- after `F0` the second byte is at least `90`, after `F4` at most `8F`
  rw [Decoder.run_cons, Decoder.step_more (by dsimp only; omega)
      (by dsimp only; rw [h1, h2]; split_ifs <;> omega)
      (by dsimp only; rw [h1, h2]; split_ifs <;> omega),
    Decoder.run_cons, Decoder.step_more (by dsimp only; omega) (by dsimp only; omega)
      (by dsimp only; omega),
    Decoder.run_cons, Decoder.step_last rfl (by dsimp only; omega) (by dsimp only; omega)]
  simp only [h1, h2, h3, h4, List.nil_append]
  congr 2
  omega

/-- The decoder reads back every scalar value the encoder writes. -/
theorem run_encodePoint {c : ℕ} (hc : c < 0x110000) (hsur : ¬ (0xD800 ≤ c ∧ c ≤ 0xDFFF))
    (rest : List Byte) :
    Decoder.init.run (encodePoint c ++ rest) = codeUnits c ++ Decoder.init.run rest := by
  by_cases h1 : c < 0x80
  · exact run_encodePoint_one h1 rest
  by_cases h2 : c < 0x800
  · exact run_encodePoint_two (by omega) h2 rest
  by_cases h3 : c < 0x10000
  · exact run_encodePoint_three (by omega) h3 hsur rest
  · exact run_encodePoint_four (by omega) hc rest

theorem codeUnits_val (a : CodeUnit) : codeUnits a.val = [a] := by
  rw [codeUnits, if_pos a.isLt]
  simp

theorem codeUnits_pairValue {a b : CodeUnit} (hab : (isHighSurrogate a && isLowSurrogate b) = true) :
    codeUnits (pairValue a b) = [a, b] := by
  simp only [isHighSurrogate, isLowSurrogate, Bool.and_eq_true, decide_eq_true_eq] at hab
  have hq : (pairValue a b - 0x10000) / 0x400 = a.val - 0xD800 := by unfold pairValue; omega
  have hr : (pairValue a b - 0x10000) % 0x400 = b.val - 0xDC00 := by unfold pairValue; omega
  rw [codeUnits, if_neg (by unfold pairValue; omega), hq, hr]
  simp only [List.cons.injEq, and_true]
  refine ⟨Fin.ext ?_, Fin.ext ?_⟩ <;> rw [Fin.val_ofNat] <;> omega

/-- **The decoder inverts the encoder on well-formed strings.** -/
theorem run_encode (s : JsString) (hs : isWellFormed s = true) : Decoder.init.run (encode s) = s := by
  fun_induction scalarValues s with
  | case1 => rfl
  | case2 a =>
      have ha : isSurrogate a = false := by simpa [isWellFormed] using hs
      have hval : unitValue a = a.val := by simp [unitValue, ha]
      rw [encode_singleton, hval, ← List.append_nil (encodePoint a.val)]
      rw [run_encodePoint (by omega) (by simpa [isSurrogate] using ha), codeUnits_val a]
      rfl
  | case3 a b rest hpair ih =>
      have hrest : isWellFormed rest = true := by simpa [isWellFormed, hpair] using hs
      have hlt := pairValue_lt a b (by simp_all) (by simp_all)
      rw [encode_cons_cons, if_pos hpair, run_encodePoint hlt.2 (by unfold pairValue; omega),
        codeUnits_pairValue hpair, ih hrest]
      rfl
  | case4 a b rest hpair ih =>
      have hab : isSurrogate a = false ∧ isWellFormed (b :: rest) = true := by
        simpa [isWellFormed, hpair] using hs
      have hval : unitValue a = a.val := by simp [unitValue, hab.1]
      rw [encode_cons_cons, if_neg hpair, hval,
        run_encodePoint (by omega) (by simpa [isSurrogate] using hab.1), codeUnits_val a,
        ih hab.2]
      rfl

/-- **`TextDecoder` reads back what `TextEncoder` wrote**, for a well-formed
string that does not begin with a byte order mark. -/
theorem decode_encode (s : JsString) (hs : isWellFormed s = true) (hbom : s.head? ≠ some 0xFEFF) :
    decode (encode s) = s := by
  rw [decode, run_encode s hs]
  cases s with
  | nil => rfl
  | cons u rest =>
      have hu : u ≠ 0xFEFF := fun h => hbom (by rw [h]; rfl)
      simp only [if_neg hu]

/-- The encoding of a non-ASCII scalar value opens with a lead byte, `C0` or
above. -/
theorem exists_lead_encodePoint {c : ℕ} (h80 : 0x80 ≤ c) (hmax : c < 0x110000) :
    ∃ b ∈ encodePoint c, 0xC0 ≤ b.val := by
  unfold encodePoint
  rw [if_neg (by omega)]
  split_ifs
  · exact ⟨_, List.mem_cons_self, by rw [val_ofNat_byte (by omega)]; omega⟩
  · exact ⟨_, List.mem_cons_self, by rw [val_ofNat_byte (by omega)]; omega⟩
  · exact ⟨_, List.mem_cons_self, by rw [val_ofNat_byte (by omega)]; omega⟩

/-- A code unit that is not ASCII is encoded from a lead byte on. -/
theorem exists_lead_unitValue {a : CodeUnit} (ha : ¬ a.val < 0x80) :
    ∃ b ∈ encodePoint (unitValue a), 0xC0 ≤ b.val := by
  have hv : 0x80 ≤ unitValue a := by
    have := unitValue_lt_iff a
    omega
  have hmax : unitValue a < 0x110000 := by unfold unitValue; split_ifs <;> omega
  exact exists_lead_encodePoint hv hmax

/-- A string that is not ASCII has a lead byte in its encoding. -/
theorem exists_lead_of_not_ascii {s : JsString} (h : isAscii s = false) :
    ∃ b ∈ encode s, 0xC0 ≤ b.val := by
  fun_induction scalarValues s with
  | case1 => simp [isAscii] at h
  | case2 a =>
      have ha : ¬ a.val < 0x80 := by simpa [isAscii] using h
      rw [encode_singleton]
      exact exists_lead_unitValue ha
  | case3 a b rest hpair ih =>
      have hlt := pairValue_lt a b (by simp_all) (by simp_all)
      obtain ⟨x, hx, hlead⟩ := exists_lead_encodePoint hlt.1 hlt.2
      rw [encode_cons_cons, if_pos hpair]
      exact ⟨x, List.mem_append_left _ hx, hlead⟩
  | case4 a b rest hpair ih =>
      rw [encode_cons_cons, if_neg hpair]
      by_cases ha : a.val < 0x80
      · -- the first unit is ASCII, so the rest is not
        have hrest : isAscii (b :: rest) = false := by
          simpa [isAscii, ha] using h
        obtain ⟨x, hx, hlead⟩ := ih hrest
        exact ⟨x, List.mem_append_right _ hx, hlead⟩
      · obtain ⟨x, hx, hlead⟩ := exists_lead_unitValue ha
        exact ⟨x, List.mem_append_left _ hx, hlead⟩

/-! ## Well-formed strings -/

@[simp] theorem isAscii_nil : isAscii [] = true := rfl

@[simp] theorem isAscii_cons (u : CodeUnit) (s : JsString) :
    isAscii (u :: s) = (decide (u.val < 0x80) && isAscii s) := List.all_cons

@[simp] theorem isAscii_append (s t : JsString) : isAscii (s ++ t) = (isAscii s && isAscii t) :=
  List.all_append

theorem lt_of_isAscii {s : JsString} (h : isAscii s = true) {u : CodeUnit} (hu : u ∈ s) :
    u.val < 0x80 := by
  simpa using List.all_eq_true.mp h u hu

/-- Well-formed strings concatenate to a well-formed string: a well-formed
string never ends inside a pair. -/
theorem isWellFormed_append {s t : JsString} (hs : isWellFormed s = true)
    (ht : isWellFormed t = true) : isWellFormed (s ++ t) = true := by
  fun_induction isWellFormed s with
  | case1 => exact ht
  | case2 a =>
      have ha : isSurrogate a = false := by simpa [isWellFormed] using hs
      cases t with
      | nil => exact hs
      | cons b rest =>
          -- `a` is no leading surrogate, so it is read on its own
          simp [isWellFormed, isHighSurrogate_eq_false ha, ha, ht]
  | case3 a b rest hpair ih =>
      have hrest : isWellFormed rest = true := by simpa [isWellFormed, hpair] using hs
      simp only [List.cons_append, isWellFormed, hpair, if_true]
      exact ih hrest
  | case4 a b rest hpair ih =>
      have hwf : isSurrogate a = false ∧ isWellFormed (b :: rest) = true := by
        simpa [isWellFormed, hpair] using hs
      simp only [List.cons_append, isWellFormed, hpair, if_false, Bool.false_eq_true, hwf.1,
        Bool.not_false, Bool.true_and]
      exact ih hwf.2

/-- A string without surrogates is well formed. -/
theorem isWellFormed_of_forall {s : JsString} (h : ∀ u ∈ s, isSurrogate u = false) :
    isWellFormed s = true := by
  induction s with
  | nil => rfl
  | cons u s ih =>
      have hu := h u List.mem_cons_self
      have hs := ih fun v hv => h v (List.mem_cons_of_mem u hv)
      rw [← List.singleton_append]
      exact isWellFormed_append (by simp [isWellFormed, hu]) hs

theorem isWellFormed_of_isAscii {s : JsString} (h : isAscii s = true) : isWellFormed s = true :=
  isWellFormed_of_forall fun _ hu => isSurrogate_eq_false_of_lt (by have := lt_of_isAscii h hu; omega)

end Utf8
