import Mathlib
import SnowBrawl.Lib.Utf8

/-!
# Galois/Counter Mode

The authenticated encryption of NIST SP 800-38D, over any block cipher, as
WebCrypto's `AES-GCM` runs it with no additional data and a 128-bit tag:
encryption returns the ciphertext followed by the tag, and decryption splits the
tag off, recomputes it over the ciphertext, and fails (`none`) when the input is
shorter than a tag or the tags differ.

A block is a number below 2¹²⁸, read from sixteen bytes most significant first,
and the block cipher is a function on blocks under a fixed key.  Bytes are
`Fin 256`, with the `NeZero 256` instance of `SnowBrawl.Lib.Utf8`, so that every
module names the same one.

## Main definitions

* `Gcm.gfMul` — the product in GF(2¹²⁸), Algorithm 1.
* `Gcm.ghash` — `GHASH_H`, Algorithm 2.
* `Gcm.gctr` — `GCTR_K`, Algorithm 3.
* `Gcm.encrypt`, `Gcm.decrypt` — Algorithms 4 and 5.

## Main results

* `Gcm.decrypt_encrypt` — decryption inverts encryption, whatever the block
  cipher: the counter mode XORs the same keystream in twice, and the tag
  recomputed over the ciphertext is the one that was sent with it.
-/

namespace Gcm

/-- A block cipher under a fixed key, on blocks. -/
abbrev BlockCipher := ℕ → ℕ

/-! ## Blocks and bytes -/

/-- The sixteen bytes of a block, most significant first. -/
def toBytes (x : ℕ) : List (Fin 256) :=
  (List.range 16).map fun i => Fin.ofNat 256 (x / 256 ^ (15 - i))

/-- The number the bytes spell, most significant first. -/
def ofBytes (l : List (Fin 256)) : ℕ := l.foldl (fun acc b => acc * 256 + b.val) 0

/-- The bytes in blocks of sixteen, the last one padded with zero bytes. -/
def blocks (l : List (Fin 256)) : List ℕ :=
  (List.range ((l.length + 15) / 16)).map fun i =>
    ofBytes ((l.drop (16 * i) ++ List.replicate 16 0).take 16)

@[simp] theorem length_toBytes (x : ℕ) : (toBytes x).length = 16 := by
  simp [toBytes]

/-! ## The hash -/

/-- `R`: the bits `11100001` followed by 120 zero bits. -/
def reduction : ℕ := 0xe1 * 2 ^ 120

/-- Algorithm 1 with `n` bits of `x` left: `z` collects `v` for each set bit of
`x`, most significant first, and `v` is multiplied by the field's generator at
every bit. -/
def mulFrom (x : ℕ) : ℕ → ℕ → ℕ → ℕ
  | z, _, 0 => z
  | z, v, n + 1 =>
      mulFrom x (if x.testBit n then z ^^^ v else z)
        (if v % 2 = 0 then v / 2 else v / 2 ^^^ reduction) n

/-- `X • Y`, the product of two blocks in GF(2¹²⁸). -/
def gfMul (x y : ℕ) : ℕ := mulFrom x 0 y 128

/-- `GHASH_H(X₁ ‖ … ‖ Xₘ)`: `Yᵢ = (Yᵢ₋₁ ⊕ Xᵢ) • H` from `Y₀ = 0`. -/
def ghash (h : ℕ) (xs : List ℕ) : ℕ := xs.foldl (fun y x => gfMul (y ^^^ x) h) 0

/-! ## The counter mode -/

/-- `inc₃₂`: the low 32 bits of the block are incremented modulo 2³². -/
def inc32 (x : ℕ) : ℕ := x / 2 ^ 32 * 2 ^ 32 + (x % 2 ^ 32 + 1) % 2 ^ 32

/-- `CB₁, …, CBₙ` from `CB₁ = ICB`. -/
def counterBlocks (icb : ℕ) : ℕ → List ℕ
  | 0 => []
  | n + 1 => icb :: counterBlocks (inc32 icb) n

/-- The keystream `CIPH(CB₁) ‖ … ‖ CIPH(CBₙ)` of `n` blocks. -/
def keystream (ciph : BlockCipher) (icb n : ℕ) : List (Fin 256) :=
  (counterBlocks icb n).flatMap fun cb => toBytes (ciph cb)

/-- `GCTR_K(ICB, X)`: `X` XORed with the keystream of as many blocks as `X`
needs. -/
def gctr (ciph : BlockCipher) (icb : ℕ) (x : List (Fin 256)) : List (Fin 256) :=
  List.zipWith (· ^^^ ·) x (keystream ciph icb ((x.length + 15) / 16))

/-! ## Encryption and decryption -/

/-- The pre-counter block `J₀`: `IV ‖ 0³¹ ‖ 1` for a 96-bit IV, and otherwise
`GHASH_H` of the IV padded and followed by its length in bits. -/
def j0 (ciph : BlockCipher) (iv : List (Fin 256)) : ℕ :=
  if iv.length = 12 then ofBytes iv * 2 ^ 32 + 1
  else ghash (ciph 0) (blocks iv ++ [iv.length * 8])

/-- The tag `MSB₁₂₈(CIPH(J₀) ⊕ S)`, `S` the hash of the ciphertext padded and
followed by the lengths in bits of the additional data (none) and of the
ciphertext. -/
def tag (ciph : BlockCipher) (iv c : List (Fin 256)) : List (Fin 256) :=
  toBytes (ciph (j0 ciph iv) ^^^ ghash (ciph 0) (blocks c ++ [c.length * 8]))

/-- Algorithm 4, with the tag appended to the ciphertext as WebCrypto returns
it. -/
def encrypt (ciph : BlockCipher) (iv p : List (Fin 256)) : List (Fin 256) :=
  let c := gctr ciph (inc32 (j0 ciph iv)) p
  c ++ tag ciph iv c

/-- Algorithm 5 on a ciphertext followed by its tag: `none` when the input is
shorter than a tag or the tag does not match. -/
def decrypt (ciph : BlockCipher) (iv x : List (Fin 256)) : Option (List (Fin 256)) :=
  if x.length < 16 then none
  else
    let c := x.take (x.length - 16)
    if tag ciph iv c = x.drop (x.length - 16) then some (gctr ciph (inc32 (j0 ciph iv)) c)
    else none

/-! ## Decryption inverts encryption -/

theorem xor_xor_cancel (a b : Fin 256) : (a ^^^ b) ^^^ b = a := by
  have hab : a.val ^^^ b.val < 256 := Nat.xor_lt_two_pow (n := 8) a.isLt b.isLt
  apply Fin.ext
  show ((a.val ^^^ b.val) % 256 ^^^ b.val) % 256 = a.val
  rw [Nat.mod_eq_of_lt hab, Nat.xor_assoc, Nat.xor_self, Nat.xor_zero, Nat.mod_eq_of_lt a.isLt]

/-- XORing the same bytes in twice gives the text back, when there are enough
of them. -/
theorem zipWith_xor_xor :
    ∀ {x k : List (Fin 256)}, x.length ≤ k.length →
      List.zipWith (· ^^^ ·) (List.zipWith (· ^^^ ·) x k) k = x
  | [], _, _ => rfl
  | _ :: _, [], h => absurd h (by simp)
  | a :: x, b :: k, h => by
      rw [List.zipWith_cons_cons, List.zipWith_cons_cons, xor_xor_cancel,
        zipWith_xor_xor (by simpa using h)]

theorem length_keystream (ciph : BlockCipher) (icb n : ℕ) :
    (keystream ciph icb n).length = 16 * n := by
  induction n generalizing icb with
  | zero => rfl
  | succ n ih =>
      rw [keystream, counterBlocks, List.flatMap_cons, List.length_append, length_toBytes,
        ← keystream, ih]
      ring

@[simp] theorem length_gctr (ciph : BlockCipher) (icb : ℕ) (x : List (Fin 256)) :
    (gctr ciph icb x).length = x.length := by
  rw [gctr, List.length_zipWith, length_keystream]
  omega

/-- The counter mode is its own inverse: the keystream depends only on the
length, which it keeps. -/
theorem gctr_gctr (ciph : BlockCipher) (icb : ℕ) (x : List (Fin 256)) :
    gctr ciph icb (gctr ciph icb x) = x := by
  rw [gctr, length_gctr, gctr]
  exact zipWith_xor_xor (by rw [length_keystream]; omega)

@[simp] theorem length_tag (ciph : BlockCipher) (iv c : List (Fin 256)) :
    (tag ciph iv c).length = 16 :=
  length_toBytes _

/-- **Decryption inverts encryption**, for every block cipher, IV and
plaintext. -/
theorem decrypt_encrypt (ciph : BlockCipher) (iv p : List (Fin 256)) :
    decrypt ciph iv (encrypt ciph iv p) = some p := by
  set c := gctr ciph (inc32 (j0 ciph iv)) p with hc
  show decrypt ciph iv (c ++ tag ciph iv c) = some p
  have hlong : ¬(c ++ tag ciph iv c).length < 16 := by simp
  -- the tag is the last sixteen bytes, so the split recovers `c` and its tag
  have hlen : (c ++ tag ciph iv c).length - 16 = c.length := by simp
  simp only [decrypt, if_neg hlong, hlen, List.take_left' rfl, List.drop_left' rfl, if_true]
  rw [hc, gctr_gctr]

end Gcm
