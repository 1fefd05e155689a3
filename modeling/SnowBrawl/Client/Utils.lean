import SnowBrawl.Lib.Utf8

/-!
# `client_src/utils.js`: repairing a name

The client draws every player name through `fixUTF8`, a heuristic meant to undo
a name that reached it as the Latin-1 reading of its UTF-8 bytes.  A name with
a code unit in `U+00C0`–`U+00FF` (a lead byte of a two-, three- or four-byte
sequence) is taken back to bytes, one per code unit, and decoded as UTF-8.  The
decoding is kept only when it has no `U+FFFD`; otherwise the name is drawn as it
came.

So the repair is all or nothing: one ill-formed sequence anywhere in the bytes,
such as a multi-byte sequence cut short, leaves the whole name as mojibake
(`fixUTF8_of_replacement`).  On the mojibake of a whole well-formed name it
gives the name back (`fixUTF8_mojibake`), except for a leading U+FEFF, which
`TextDecoder` drops as a byte order mark (`fixUTF8_drops_byte_order_mark`).
-/

namespace SnowBrawl

namespace Client

open Js Utf8

/-- A code unit in `U+00C0`–`U+00FF`, the test of `hasWeirdChars`. -/
def isWeirdChar (u : CodeUnit) : Bool := 0xC0 ≤ u.val && u.val ≤ 0xFF

/-- `new Uint8Array(str.split('').map(c => c.charCodeAt(0) & 0xFF))`: the low
byte of each code unit. -/
def lowBytes (str : JsString) : List Byte := str.map fun c => Fin.ofNat 256 (c.val % 0x100)

/-- `fixUTF8(str)` on a string. -/
def fixUTF8 (str : JsString) : JsString :=
  if str.isEmpty then str
  else
    let hasWeirdChars := str.any isWeirdChar
    if !hasWeirdChars then str
    else
      let bytes := lowBytes str
      let fixed := decode bytes
      if replacementCharacter ∈ fixed then str else fixed

theorem fixUTF8_eq (str : JsString) :
    fixUTF8 str =
      if str.any isWeirdChar ∧ replacementCharacter ∉ decode (lowBytes str) then
        decode (lowBytes str)
      else str := by
  unfold fixUTF8
  by_cases hweird : str.any isWeirdChar = true
  · -- a name with a weird character is not empty
    have hne : str.isEmpty = false := by
      cases str with
      | nil => simp at hweird
      | cons _ _ => rfl
    simp only [hne, hweird, Bool.not_true, Bool.false_eq_true, if_false, true_and]
    split_ifs <;> rfl
  · simp [hweird]

/-- A name without a code unit in `U+00C0`–`U+00FF` is drawn as it is. -/
theorem fixUTF8_of_not_weird {str : JsString} (h : ∀ u ∈ str, isWeirdChar u = false) :
    fixUTF8 str = str := by
  have hany : str.any isWeirdChar = false := by
    simpa only [List.any_eq_false, Bool.not_eq_true] using h
  rw [fixUTF8_eq, if_neg (by simp [hany])]

/-- A name whose bytes do not decode cleanly is drawn as it is. -/
theorem fixUTF8_of_replacement {str : JsString}
    (h : replacementCharacter ∈ decode (lowBytes str)) : fixUTF8 str = str := by
  rw [fixUTF8_eq, if_neg (by simp [h])]

/-- What `fixUTF8` draws is the name itself or a decoding without `U+FFFD`. -/
theorem fixUTF8_cases (str : JsString) :
    fixUTF8 str = str ∨
      (fixUTF8 str = decode (lowBytes str) ∧ replacementCharacter ∉ fixUTF8 str) := by
  rw [fixUTF8_eq]
  split_ifs with h
  · exact Or.inr ⟨rfl, h.2⟩
  · exact Or.inl rfl

theorem lowBytes_latin1 (bytes : List Byte) : lowBytes (latin1 bytes) = bytes := by
  rw [lowBytes, latin1, List.map_map]
  conv_rhs => rw [← List.map_id bytes]
  exact List.map_congr_left fun b _ => by ext; simp

/-- A lead byte read back as a code unit is a weird character. -/
theorem isWeirdChar_of_lead {b : Byte} (h : 0xC0 ≤ b.val) :
    isWeirdChar (Fin.castLE (by decide) b) = true := by
  simp only [isWeirdChar, Fin.val_castLE, Bool.and_eq_true, decide_eq_true_eq]
  omega

/-- **`fixUTF8` repairs the mojibake of a well-formed name**, unless the name
begins with U+FEFF.  The name's bytes decode back to it; a name with no lead
byte is ASCII and its own mojibake. -/
theorem fixUTF8_mojibake {s : JsString} (hwf : isWellFormed s = true)
    (hrep : replacementCharacter ∉ s) (hbom : s.head? ≠ some 0xFEFF) :
    fixUTF8 (mojibake s) = s := by
  have hdec : decode (lowBytes (mojibake s)) = s := by
    rw [mojibake, lowBytes_latin1, decode_encode s hwf hbom]
  rw [fixUTF8_eq, hdec]
  split_ifs with h
  · rfl
  · -- the repair is skipped only when the mojibake has no lead byte
    have hweird : ∀ u ∈ mojibake s, ¬ isWeirdChar u = true := by
      simpa [hrep] using h
    have hascii : isAscii s = true := by
      by_contra hna
      obtain ⟨b, hb, hlead⟩ := exists_lead_of_not_ascii (Bool.eq_false_iff.mpr hna)
      exact hweird _ (List.mem_map_of_mem hb) (isWeirdChar_of_lead hlead)
    exact (mojibake_eq_self_iff s).mpr hascii

theorem fixUTF8_mojibake_zhang_san :
    isWellFormed [0x5F20, 0x4E09] = true ∧ replacementCharacter ∉ ([0x5F20, 0x4E09] : JsString) ∧
      fixUTF8 (mojibake [0x5F20, 0x4E09]) = [0x5F20, 0x4E09] :=
  ⟨by decide, by decide, fixUTF8_mojibake (by decide) (by decide) (by decide)⟩

/-- **A leading U+FEFF is lost.**  The name `U+FEFF` is well-formed and has no
U+FFFD, but its mojibake `EF BB BF` has a weird character, and `TextDecoder`
takes the decoded U+FEFF for a byte order mark. -/
theorem fixUTF8_drops_byte_order_mark :
    isWellFormed [0xFEFF] = true ∧ replacementCharacter ∉ ([0xFEFF] : JsString) ∧
      fixUTF8 (mojibake [0xFEFF]) = [] := by
  decide

end Client

end SnowBrawl
