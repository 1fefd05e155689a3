import SnowBrawl.Lib.Utf8

/-!
# `btoa` and `atob`

`btoa` encodes a string of code units below U+0100 (one byte each) in the
standard alphabet of RFC 4648 §4, with `=` padding to a multiple of four
characters; a larger code unit throws.  `atob` runs the WHATWG
*forgiving-base64 decode*: it drops ASCII whitespace, drops one or two trailing
`=` when the length is a multiple of four, refuses a length of `4k + 1` or a
character outside the alphabet, and decodes the rest six bits per character,
ignoring the bits of an incomplete final byte.

So `atob` also accepts an encoding whose padding has been stripped, and
decodes it to the bytes encoded (`atob_encodeChars`).  That is the fact a
base64url scheme that strips its padding and restores only the alphabet relies
on.

Both functions are stated over whole groups: three bytes are four characters,
and a final group of one or two bytes is two or three characters.  This is the
bit buffer of the specifications read 24 bits at a time.
-/

namespace Base64
open Js Utf8

/-! ## The alphabet -/

/-- The character of a six-bit value: `A`–`Z`, `a`–`z`, `0`–`9`, `+`, `/`. -/
def sextetChar (v : ℕ) : CodeUnit :=
  if v < 26 then Fin.ofNat _ (0x41 + v)
  else if v < 52 then Fin.ofNat _ (0x61 + (v - 26))
  else if v < 62 then Fin.ofNat _ (0x30 + (v - 52))
  else if v = 62 then 0x2B
  else 0x2F

/-- The six-bit value of a character of the alphabet. -/
def sextetValue (u : CodeUnit) : Option ℕ :=
  if 0x41 ≤ u.val ∧ u.val ≤ 0x5A then some (u.val - 0x41)
  else if 0x61 ≤ u.val ∧ u.val ≤ 0x7A then some (u.val - 0x61 + 26)
  else if 0x30 ≤ u.val ∧ u.val ≤ 0x39 then some (u.val - 0x30 + 52)
  else if u.val = 0x2B then some 62
  else if u.val = 0x2F then some 63
  else none

/-- The padding character `=`. -/
def padChar : CodeUnit := 0x3D

/-- ASCII whitespace: TAB, LF, FF, CR and SPACE. -/
def isAsciiWhitespace (u : CodeUnit) : Bool :=
  u.val = 0x09 || u.val = 0x0A || u.val = 0x0C || u.val = 0x0D || u.val = 0x20

/-! ## Encoding -/

/-- The six-bit values of the encoding, three bytes to four values; a final
group of one or two bytes is padded with zero bits to two or three values. -/
def encodeSextets : List Byte → List ℕ
  | a :: b :: c :: rest =>
      [a.val / 4, a.val % 4 * 16 + b.val / 16, b.val % 16 * 4 + c.val / 64, c.val % 64] ++
        encodeSextets rest
  | [a, b] => [a.val / 4, a.val % 4 * 16 + b.val / 16, b.val % 16 * 4]
  | [a] => [a.val / 4, a.val % 4 * 16]
  | [] => []

/-- The characters of the encoding, before padding. -/
def encodeChars (bytes : List Byte) : JsString := (encodeSextets bytes).map sextetChar

/-- RFC 4648 base64 of a byte sequence: `=` up to a multiple of four characters. -/
def encode (bytes : List Byte) : JsString :=
  encodeChars bytes ++ List.replicate ((3 - bytes.length % 3) % 3) padChar

/-- `btoa(s)`; `none` is the `InvalidCharacterError` it throws on a code unit
above U+00FF. -/
def btoa (s : JsString) : Option JsString :=
  if s.all (·.val < 0x100) then some (encode (s.map fun u => Fin.ofNat _ u.val)) else none

/-! ## Decoding -/

/-- Four six-bit values to three bytes; a final group of three or two values
gives two or one byte, its spare bits dropped. -/
def decodeSextets : List ℕ → List Byte
  | a :: b :: c :: d :: rest =>
      [Fin.ofNat _ (a * 4 + b / 16), Fin.ofNat _ (b % 16 * 16 + c / 4), Fin.ofNat _ (c % 4 * 64 + d)] ++
        decodeSextets rest
  | [a, b, c] => [Fin.ofNat _ (a * 4 + b / 16), Fin.ofNat _ (b % 16 * 16 + c / 4)]
  | [a, b] => [Fin.ofNat _ (a * 4 + b / 16)]
  | _ => []

/-- One or two `=` at the end of the data come off. -/
def dropPadding (data : JsString) : JsString :=
  if data.drop (data.length - 2) = [padChar, padChar] then data.take (data.length - 2)
  else if data.getLast? = some padChar then data.dropLast
  else data

/-- WHATWG forgiving-base64 decode; `none` is failure. -/
def forgivingDecode (s : JsString) : Option (List Byte) :=
  let data := s.filter fun u => !isAsciiWhitespace u
  let data := if data.length % 4 = 0 then dropPadding data else data
  if data.length % 4 = 1 then none
  else (data.mapM sextetValue).map decodeSextets

/-- `atob(s)`: the decoded bytes as code units; `none` is the
`InvalidCharacterError` it throws. -/
def atob (s : JsString) : Option JsString := (forgivingDecode s).map latin1

/-! ## The alphabet inverts -/

theorem sextetValue_sextetChar {v : ℕ} (hv : v < 64) : sextetValue (sextetChar v) = some v := by
  unfold sextetChar
  -- one case per range of the alphabet; in each, the character's value is read back
  split_ifs <;>
    simp (disch := omega) only [sextetValue, Fin.val_ofNat, Nat.mod_eq_of_lt] <;>
    split_ifs <;> (try simp only [Option.some.injEq]) <;> omega

/-- An alphabet character is ASCII and is neither `=`, whitespace, `-`, `_` nor `.`. -/
theorem sextetChar_ascii (v : ℕ) :
    (sextetChar v).val < 0x80 ∧ sextetChar v ≠ padChar ∧ isAsciiWhitespace (sextetChar v) = false ∧
      sextetChar v ≠ 0x2D ∧ sextetChar v ≠ 0x5F ∧ sextetChar v ≠ 0x2E := by
  unfold sextetChar
  split_ifs <;> simp [padChar, isAsciiWhitespace, Fin.ext_iff] <;> omega

/-! ## Round trip -/

theorem encodeSextets_lt (bytes : List Byte) : ∀ v ∈ encodeSextets bytes, v < 64 := by
  fun_induction encodeSextets bytes with
  | case1 a b c rest ih =>
      intro v hv
      simp only [List.cons_append, List.nil_append, List.mem_cons] at hv
      have := a.isLt; have := b.isLt; have := c.isLt
      rcases hv with rfl | rfl | rfl | rfl | hv <;> first | omega | exact ih v hv
  | case2 a b =>
      intro v hv
      simp only [List.mem_cons, List.not_mem_nil, or_false] at hv
      have := a.isLt; have := b.isLt
      rcases hv with rfl | rfl | rfl <;> omega
  | case3 a =>
      intro v hv
      simp only [List.mem_cons, List.not_mem_nil, or_false] at hv
      have := a.isLt
      rcases hv with rfl | rfl <;> omega
  | case4 => simp

/-- Four characters per whole group, and two or three for a final partial one,
so never a length of `4k + 1`. -/
theorem length_encodeSextets_mod (bytes : List Byte) : (encodeSextets bytes).length % 4 ≠ 1 := by
  fun_induction encodeSextets bytes with
  | case1 a b c rest ih =>
      simp only [List.length_append, List.length_cons, List.length_nil]
      omega
  | case2 a b => simp
  | case3 a => simp
  | case4 => simp

theorem decodeSextets_encodeSextets (bytes : List Byte) :
    decodeSextets (encodeSextets bytes) = bytes := by
  fun_induction encodeSextets bytes with
  | case1 a b c rest ih =>
      simp only [List.cons_append, List.nil_append, decodeSextets, ih, List.cons.injEq, and_true]
      refine ⟨?_, ?_, ?_⟩ <;> ext <;> simp <;> omega
  | case2 a b =>
      simp only [decodeSextets, List.cons.injEq, and_true]
      refine ⟨?_, ?_⟩ <;> ext <;> simp <;> omega
  | case3 a =>
      simp only [decodeSextets, List.cons.injEq, and_true]
      ext; simp; omega
  | case4 => rfl

theorem mapM_sextetValue_map {vs : List ℕ} (h : ∀ v ∈ vs, v < 64) :
    (vs.map sextetChar).mapM sextetValue = some vs := by
  induction vs with
  | nil => rfl
  | cons v vs ih =>
      rw [List.map_cons, List.mapM_cons, sextetValue_sextetChar (h v List.mem_cons_self),
        ih fun w hw => h w (List.mem_cons_of_mem v hw)]
      rfl

/-- The characters of an encoding never end in `=`. -/
theorem getLast_encodeChars (bytes : List Byte) :
    ∀ u ∈ (encodeChars bytes).getLast?, u ≠ padChar := by
  intro u hu
  obtain ⟨v, -, rfl⟩ := List.mem_map.mp (List.mem_of_getLast? hu)
  exact (sextetChar_ascii v).2.1

theorem filter_encodeChars (bytes : List Byte) :
    (encodeChars bytes).filter (fun u => !isAsciiWhitespace u) = encodeChars bytes := by
  refine List.filter_eq_self.mpr fun u hu => ?_
  obtain ⟨v, -, rfl⟩ := List.mem_map.mp hu
  simp [(sextetChar_ascii v).2.2.1]

/-- Without padding, nothing comes off as padding. -/
theorem dropPadding_encodeChars (bytes : List Byte) :
    dropPadding (encodeChars bytes) = encodeChars bytes := by
  have hlast := getLast_encodeChars bytes
  unfold dropPadding
  have hdrop : (encodeChars bytes).drop ((encodeChars bytes).length - 2) ≠ [padChar, padChar] := by
    intro h
    have hl := congrArg List.getLast? h
    rw [List.getLast?_drop] at hl
    split_ifs at hl with hle
    · simp at hl
    · exact hlast padChar (by simpa using hl) rfl
  rw [if_neg hdrop, if_neg (show ¬ _ = some padChar from fun h => hlast padChar h rfl)]

/-- The last step of the decoder on the characters of an encoding. -/
theorem decodeChars_encodeChars (bytes : List Byte) :
    (if (encodeChars bytes).length % 4 = 1 then none
      else ((encodeChars bytes).mapM sextetValue).map decodeSextets) = some bytes := by
  have hlen : (encodeChars bytes).length % 4 ≠ 1 := by
    rw [encodeChars, List.length_map]
    exact length_encodeSextets_mod bytes
  rw [if_neg hlen, encodeChars, mapM_sextetValue_map (encodeSextets_lt bytes), Option.map_some,
    decodeSextets_encodeSextets]

/-- Padding dropped, the characters of an encoding decode to its bytes. -/
theorem forgivingDecode_encodeChars (bytes : List Byte) :
    forgivingDecode (encodeChars bytes) = some bytes := by
  unfold forgivingDecode
  simp only [filter_encodeChars, dropPadding_encodeChars, ite_self]
  exact decodeChars_encodeChars bytes

/-- An encoding and its padding make a multiple of four characters. -/
theorem length_encodeSextets_add_pad (bytes : List Byte) :
    ((encodeSextets bytes).length + (3 - bytes.length % 3) % 3) % 4 = 0 := by
  fun_induction encodeSextets bytes with
  | case1 a b c rest ih =>
      simp only [List.length_append, List.length_cons, List.length_nil] at ih ⊢
      omega
  | case2 a b => simp
  | case3 a => simp
  | case4 => simp

/-- The padding of a full encoding comes off, one or two `=` or none. -/
theorem dropPadding_encode (bytes : List Byte) : dropPadding (encode bytes) = encodeChars bytes := by
  have hlen := length_encodeSextets_add_pad bytes
  have hchars : (encodeChars bytes).length = (encodeSextets bytes).length := List.length_map _
  unfold encode
  have hpad : (3 - bytes.length % 3) % 3 = 0 ∨ (3 - bytes.length % 3) % 3 = 1 ∨
      (3 - bytes.length % 3) % 3 = 2 := by omega
  rcases hpad with h0 | h1 | h2
  · rw [h0, List.replicate_zero, List.append_nil, dropPadding_encodeChars]
  · -- one `=`: the character before it is not `=`
    rw [h1, List.replicate_one]
    have hne : encodeChars bytes ≠ [] := by
      intro h
      rw [h, List.length_nil] at hchars
      omega
    unfold dropPadding
    have hdrop : (encodeChars bytes ++ [padChar]).drop ((encodeChars bytes ++ [padChar]).length - 2) =
        [(encodeChars bytes).getLast hne, padChar] := by
      rw [List.length_append, List.length_singleton, show (encodeChars bytes).length + 1 - 2 =
        (encodeChars bytes).length - 1 by omega, List.drop_append_of_le_length (by omega),
        List.drop_length_sub_one hne]
      rfl
    have hlast : (encodeChars bytes).getLast hne ≠ padChar :=
      getLast_encodeChars bytes _ (List.getLast?_eq_some_getLast hne)
    rw [hdrop, if_neg (fun h => hlast (List.cons.inj h).1), List.getLast?_concat, if_pos rfl,
      List.dropLast_concat]
  · rw [h2]
    unfold dropPadding
    have hdrop : (encodeChars bytes ++ List.replicate 2 padChar).drop
        ((encodeChars bytes ++ List.replicate 2 padChar).length - 2) = [padChar, padChar] := by
      rw [List.length_append, List.length_replicate, Nat.add_sub_cancel]
      exact List.drop_left' rfl
    rw [hdrop, if_pos rfl, List.length_append, List.length_replicate, Nat.add_sub_cancel]
    exact List.take_left' rfl

/-- `atob`'s decoder reads back a full encoding. -/
theorem forgivingDecode_encode (bytes : List Byte) : forgivingDecode (encode bytes) = some bytes := by
  have hws : (encode bytes).filter (fun u => !isAsciiWhitespace u) = encode bytes := by
    refine List.filter_eq_self.mpr fun u hu => ?_
    rcases List.mem_append.mp hu with hu | hu
    · obtain ⟨v, -, rfl⟩ := List.mem_map.mp hu
      simp [(sextetChar_ascii v).2.2.1]
    · rw [List.eq_of_mem_replicate hu]
      decide
  have hlen : (encode bytes).length % 4 = 0 := by
    rw [encode, List.length_append, List.length_replicate, encodeChars, List.length_map]
    exact length_encodeSextets_add_pad bytes
  unfold forgivingDecode
  simp only [hws, hlen, if_true, dropPadding_encode]
  exact decodeChars_encodeChars bytes

theorem atob_encode (bytes : List Byte) : atob (encode bytes) = some (latin1 bytes) := by
  simp [atob, forgivingDecode_encode]

theorem atob_encodeChars (bytes : List Byte) : atob (encodeChars bytes) = some (latin1 bytes) := by
  simp [atob, forgivingDecode_encodeChars]

/-- `btoa` of a Latin-1 reading encodes the bytes read. -/
theorem btoa_latin1 (bytes : List Byte) : btoa (latin1 bytes) = some (encode bytes) := by
  have hall : (latin1 bytes).all (·.val < 0x100) = true :=
    List.all_eq_true.mpr fun u hu => decide_eq_true (lt_of_mem_latin1 hu)
  rw [btoa, if_pos hall, map_ofNat_latin1]

end Base64
