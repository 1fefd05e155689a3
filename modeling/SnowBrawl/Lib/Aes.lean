import SnowBrawl.Lib.Gcm

/-!
# The AES block cipher

FIPS 197's `CIPHER` with its `KEYEXPANSION`, for keys of 4, 6 or 8 words
(AES-128, AES-192 and AES-256), on bytes.  The state is the sixteen input bytes
in order, so byte `r + 4c` of the state is row `r` of column `c`, as the
standard lays the input out.

## Main definitions

* `Aes.keyExpansion` — `KEYEXPANSION`: the round keys, as words.
* `Aes.cipher` — `CIPHER`: one block under a key.
* `Aes.block` — `CIPHER` under a key as the block cipher of GCM.

The test after `cipher` is the AES-256 example of FIPS 197, Appendix C.3; the
one after `block` is test case 14 of the GCM specification, AES-256 under the
zero key and the zero IV on one zero block.
-/

namespace Aes

/-- A word of the key schedule: four bytes. -/
abbrev Word := List (Fin 256)

/-! ## The round functions -/

/-- `SBOX`, Table 4 of FIPS 197, by the value of the byte. -/
def sbox : List ℕ :=
  [
    0x63, 0x7c, 0x77, 0x7b, 0xf2, 0x6b, 0x6f, 0xc5, 0x30, 0x01, 0x67, 0x2b, 0xfe, 0xd7, 0xab, 0x76,
    0xca, 0x82, 0xc9, 0x7d, 0xfa, 0x59, 0x47, 0xf0, 0xad, 0xd4, 0xa2, 0xaf, 0x9c, 0xa4, 0x72, 0xc0,
    0xb7, 0xfd, 0x93, 0x26, 0x36, 0x3f, 0xf7, 0xcc, 0x34, 0xa5, 0xe5, 0xf1, 0x71, 0xd8, 0x31, 0x15,
    0x04, 0xc7, 0x23, 0xc3, 0x18, 0x96, 0x05, 0x9a, 0x07, 0x12, 0x80, 0xe2, 0xeb, 0x27, 0xb2, 0x75,
    0x09, 0x83, 0x2c, 0x1a, 0x1b, 0x6e, 0x5a, 0xa0, 0x52, 0x3b, 0xd6, 0xb3, 0x29, 0xe3, 0x2f, 0x84,
    0x53, 0xd1, 0x00, 0xed, 0x20, 0xfc, 0xb1, 0x5b, 0x6a, 0xcb, 0xbe, 0x39, 0x4a, 0x4c, 0x58, 0xcf,
    0xd0, 0xef, 0xaa, 0xfb, 0x43, 0x4d, 0x33, 0x85, 0x45, 0xf9, 0x02, 0x7f, 0x50, 0x3c, 0x9f, 0xa8,
    0x51, 0xa3, 0x40, 0x8f, 0x92, 0x9d, 0x38, 0xf5, 0xbc, 0xb6, 0xda, 0x21, 0x10, 0xff, 0xf3, 0xd2,
    0xcd, 0x0c, 0x13, 0xec, 0x5f, 0x97, 0x44, 0x17, 0xc4, 0xa7, 0x7e, 0x3d, 0x64, 0x5d, 0x19, 0x73,
    0x60, 0x81, 0x4f, 0xdc, 0x22, 0x2a, 0x90, 0x88, 0x46, 0xee, 0xb8, 0x14, 0xde, 0x5e, 0x0b, 0xdb,
    0xe0, 0x32, 0x3a, 0x0a, 0x49, 0x06, 0x24, 0x5c, 0xc2, 0xd3, 0xac, 0x62, 0x91, 0x95, 0xe4, 0x79,
    0xe7, 0xc8, 0x37, 0x6d, 0x8d, 0xd5, 0x4e, 0xa9, 0x6c, 0x56, 0xf4, 0xea, 0x65, 0x7a, 0xae, 0x08,
    0xba, 0x78, 0x25, 0x2e, 0x1c, 0xa6, 0xb4, 0xc6, 0xe8, 0xdd, 0x74, 0x1f, 0x4b, 0xbd, 0x8b, 0x8a,
    0x70, 0x3e, 0xb5, 0x66, 0x48, 0x03, 0xf6, 0x0e, 0x61, 0x35, 0x57, 0xb9, 0x86, 0xc1, 0x1d, 0x9e,
    0xe1, 0xf8, 0x98, 0x11, 0x69, 0xd9, 0x8e, 0x94, 0x9b, 0x1e, 0x87, 0xe9, 0xce, 0x55, 0x28, 0xdf,
    0x8c, 0xa1, 0x89, 0x0d, 0xbf, 0xe6, 0x42, 0x68, 0x41, 0x99, 0x2d, 0x0f, 0xb0, 0x54, 0xbb, 0x16]

/-- `SBOX` applied to one byte. -/
def subByte (b : Fin 256) : Fin 256 := Fin.ofNat 256 (sbox.getD b.val 0)

/-- `XTIMES`: multiplication by `x` in GF(2⁸), modulo `x⁸ + x⁴ + x³ + x + 1`. -/
def xtime (b : Fin 256) : Fin 256 :=
  if b.val < 0x80 then Fin.ofNat 256 (2 * b.val) else Fin.ofNat 256 (2 * b.val - 0x100) ^^^ 0x1b

/-- `SUBBYTES`. -/
def subBytes (s : List (Fin 256)) : List (Fin 256) := s.map subByte

/-- `SHIFTROWS`: row `r` moves `r` columns to the left. -/
def shiftRows (s : List (Fin 256)) : List (Fin 256) :=
  (List.range 16).map fun i => s.getD (i % 4 + 4 * ((i / 4 + i % 4) % 4)) 0

/-- `MIXCOLUMNS` on one column, the product with `[02 03 01 01]` and its
rotations. -/
def mixColumn : List (Fin 256) → List (Fin 256)
  | [a₀, a₁, a₂, a₃] =>
      [xtime a₀ ^^^ (xtime a₁ ^^^ a₁) ^^^ a₂ ^^^ a₃,
        a₀ ^^^ xtime a₁ ^^^ (xtime a₂ ^^^ a₂) ^^^ a₃,
        a₀ ^^^ a₁ ^^^ xtime a₂ ^^^ (xtime a₃ ^^^ a₃),
        (xtime a₀ ^^^ a₀) ^^^ a₁ ^^^ a₂ ^^^ xtime a₃]
  | s => s

/-- `MIXCOLUMNS`. -/
def mixColumns (s : List (Fin 256)) : List (Fin 256) :=
  (List.range 4).flatMap fun c => mixColumn ((s.drop (4 * c)).take 4)

/-- `ADDROUNDKEY`. -/
def addRoundKey (s k : List (Fin 256)) : List (Fin 256) := List.zipWith (· ^^^ ·) s k

/-! ## The key schedule -/

/-- `SUBWORD`. -/
def subWord (w : Word) : Word := w.map subByte

/-- `ROTWORD`: one byte to the left. -/
def rotWord (w : Word) : Word := w.drop 1 ++ w.take 1

/-- The first byte of `Rcon[j]`, `x^(j-1)` in GF(2⁸). -/
def rc (j : ℕ) : Fin 256 := xtime^[j - 1] 1

/-- Word `i` of `KEYEXPANSION`, for `i ≥ nk`, from the words `ws` before it. -/
def nextWord (nk : ℕ) (ws : List Word) (i : ℕ) : Word :=
  let prev := ws.getD (i - 1) []
  let temp :=
    if i % nk = 0 then List.zipWith (· ^^^ ·) (subWord (rotWord prev)) [rc (i / nk), 0, 0, 0]
    else if 6 < nk ∧ i % nk = 4 then subWord prev
    else prev
  List.zipWith (· ^^^ ·) (ws.getD (i - nk) []) temp

/-- The words of the schedule from word `i` on, while `n` remain. -/
def expandFrom (nk : ℕ) : List Word → ℕ → ℕ → List Word
  | ws, _, 0 => ws
  | ws, i, n + 1 => expandFrom nk (ws ++ [nextWord nk ws i]) (i + 1) n

/-- `Nr`, the number of rounds: 10, 12 or 14 for a key of 4, 6 or 8 words. -/
def rounds (key : List (Fin 256)) : ℕ := key.length / 4 + 6

/-- `KEYEXPANSION`: the key's own words, then the words derived from them, four
for each round and four more. -/
def keyExpansion (key : List (Fin 256)) : List Word :=
  let nk := key.length / 4
  expandFrom nk ((List.range nk).map fun j => (key.drop (4 * j)).take 4) nk
    (4 * (rounds key + 1) - nk)

/-- The round key of round `r`: words `4r` to `4r + 3`. -/
def roundKey (ws : List Word) (r : ℕ) : List (Fin 256) := ((ws.drop (4 * r)).take 4).flatten

/-! ## The cipher -/

/-- The rounds of `CIPHER` after the first round key, under the schedule `ws`,
from round `r` with `n` full rounds left. -/
def roundsFrom (ws : List Word) : ℕ → ℕ → List (Fin 256) → List (Fin 256)
  | r, 0, s => addRoundKey (shiftRows (subBytes s)) (roundKey ws r)
  | r, n + 1, s => roundsFrom ws (r + 1) n (addRoundKey (mixColumns (shiftRows (subBytes s))) (roundKey ws r))

/-- `CIPHER`: one block under `key`. -/
def cipher (key input : List (Fin 256)) : List (Fin 256) :=
  let ws := keyExpansion key
  roundsFrom ws 1 (rounds key - 1) (addRoundKey input (roundKey ws 0))

example :
    cipher ((List.range 32).map (Fin.ofNat 256))
        [0x00, 0x11, 0x22, 0x33, 0x44, 0x55, 0x66, 0x77, 0x88, 0x99, 0xaa, 0xbb, 0xcc, 0xdd, 0xee, 0xff] =
      [0x8e, 0xa2, 0xb7, 0xca, 0x51, 0x67, 0x45, 0xbf, 0xea, 0xfc, 0x49, 0x90, 0x4b, 0x49, 0x60, 0x89] := by
  decide +kernel

/-- `CIPHER` under `key`, on blocks of `Gcm`. -/
def block (key : List (Fin 256)) : Gcm.BlockCipher := fun x => Gcm.ofBytes (cipher key (Gcm.toBytes x))

example :
    Gcm.encrypt (block (List.replicate 32 0)) (List.replicate 12 0) (List.replicate 16 0) =
      [0xce, 0xa7, 0x40, 0x3d, 0x4d, 0x60, 0x6b, 0x6e, 0x07, 0x4e, 0xc5, 0xd3, 0xba, 0xf3, 0x9d, 0x18,
        0xd0, 0xd1, 0xc8, 0xa7, 0x99, 0x99, 0x6b, 0xf0, 0x26, 0x5b, 0x98, 0xb5, 0xd4, 0x8a, 0xb9, 0x19] := by
  decide +kernel

end Aes
