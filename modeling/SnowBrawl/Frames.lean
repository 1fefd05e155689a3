import SnowBrawl.Lib.Aes
import SnowBrawl.Lib.Base64
import SnowBrawl.Lib.Json
import SnowBrawl.Lib.JsonRoundTrip

/-!
# The encrypted WebSocket frames

Every WebSocket message is a JSON text sent encrypted.  `aesEncrypt` of
`utils.ts` writes the text as UTF-8 (`TextEncoder`), encrypts the bytes with
AES-GCM under a fresh 12-byte IV, and returns `btoa` of the IV followed by the
ciphertext, one code unit per byte.  `aesDecrypt` undoes each step: `atob`, the
code units back to bytes, the IV split off, decryption, and `TextDecoder`.  An
exception on the way (a text `atob` refuses, a ciphertext that does not
authenticate) is caught and gives `null`.

`client_src/utils.js` carries a second copy of `getAesKey`, `aesEncrypt` and
`aesDecrypt`, the same code under the key text `build_prod` writes into it, and
wraps them in `wsEncode` and `wsDecode`.  The server sends
`aesEncrypt(JSON.stringify(msg))` (`wsSend`; `broadcast` and
`broadcastDroppable` send the same frame to every client) and reads a client's
frame with `decodeClientWsMsg`.

## Design notes

* **AES-GCM is a parameter.**  `AesGcm` is what the code uses of WebCrypto.  The
  round trip assumes only that decryption inverts encryption under the same key
  and IV (`AesGcm.Inverts`).  `webCryptoAesGcm` is the cipher itself, FIPS 197
  AES in the mode of SP 800-38D with a 128-bit tag (`Aes`, `Gcm`), and it meets
  the assumption (`webCryptoAesGcm_inverts`).
* **The IV is a parameter**, a `List.Vector Byte 12`: `crypto.getRandomValues`
  fills twelve bytes, and the round trip holds for every draw.
* **The two copies** are `aesEncryptWith` and `aesDecryptWith` applied to each
  side's key text.

## Main results

* `aesDecryptWith_aesEncryptWith` — a frame decrypts to the text encrypted,
  when that text is well formed and does not start with U+FEFF.
* `ws_frames_round_trip` — in both directions, a value sent arrives as
  `JSON.parse(JSON.stringify(v))`.
* `ws_frames_keep_values` — in both directions, every value other than
  `undefined` arrives, as a value that `Json.normalize` cannot tell from it.
-/

namespace SnowBrawl

open Js Utf8 Json

/-! ## The key -/

/-- `WS_AES_KEY_HEX` of `config.ts`. -/
def wsAesKeyHex : JsString :=
  ascii "85237b044148ccbcb10a383765ae7359bb1ef8ca816674e2080d76a5f70338bb"

/-- `parseInt(s, 16)`: leading white space, a sign, an optional `0x`, then the
longest run of hexadecimal digits; `none` is `NaN`. -/
def parseIntHex (s : JsString) : Option ℤ :=
  let s := s.dropWhile isWhiteSpace
  let (negative, s) : Bool × JsString := match s with
    | u :: t => if u = 0x2D then (true, t) else if u = 0x2B then (false, t) else (false, s)
    | [] => (false, [])
  let s := match s with
    | u :: x :: t => if u = 0x30 ∧ (x = 0x78 ∨ x = 0x58) then t else s
    | _ => s
  let digits : List ℕ := (s.takeWhile fun u => (hexValue u).isSome).filterMap hexValue
  if digits = [] then none
  else
    let value : ℤ := digits.foldl (fun acc d => acc * 16 + (d : ℤ)) 0
    some (if negative then -value else value)

/-- A number stored into a `Uint8Array`: `NaN` is `0`, an integer is taken
modulo `256`. -/
def toUint8 : Option ℤ → Byte
  | none => 0
  | some n => Fin.ofNat 256 (n % 256).toNat

/-- `getAesKey()`: thirty-two bytes, each `parseInt` of two characters of the
key text. -/
def getAesKey (keyHex : JsString) : List Byte :=
  (List.range 32).map fun i => toUint8 (parseIntHex ((keyHex.drop (i * 2)).take 2))

/-! ## The cipher and the frames -/

/-- What the code uses of WebCrypto's AES-GCM, under a raw key: encryption under
an IV, and decryption, which throws (`none`) on a ciphertext that does not
authenticate. -/
structure AesGcm where
  encrypt : List Byte → List Byte → List Byte → List Byte
  decrypt : List Byte → List Byte → List Byte → Option (List Byte)

/-- Decryption inverts encryption under the same key and IV. -/
def AesGcm.Inverts (aes : AesGcm) : Prop :=
  ∀ key iv plaintext, aes.decrypt key iv (aes.encrypt key iv plaintext) = some plaintext

/-- `aesEncrypt(plaintext)` under the key text `keyHex` and the IV drawn: `btoa`
of the IV followed by the ciphertext of the UTF-8 bytes, one code unit per byte.
`none` would be `btoa` throwing. -/
def aesEncryptWith (aes : AesGcm) (keyHex : JsString) (iv : List.Vector Byte 12)
    (plaintext : JsString) : Option JsString :=
  let key := getAesKey keyHex
  let encoded := encode plaintext
  let ciphertext := aes.encrypt key iv.toList encoded
  let combined := iv.toList ++ ciphertext
  Base64.btoa (latin1 combined)

/-- `aesDecrypt(encrypted)` under the key text `keyHex`; `none` is the `null` of
the `catch`. -/
def aesDecryptWith (aes : AesGcm) (keyHex : JsString) (encrypted : JsString) :
    Option JsString := do
  let binaryString ← Base64.atob encrypted
  -- `combined[i] = binaryString.charCodeAt(i)` stores each unit modulo 256
  let combined : List Byte := binaryString.map fun u => Fin.ofNat 256 u.val
  let iv := combined.take 12
  let ciphertext := combined.drop 12
  let decrypted ← aes.decrypt (getAesKey keyHex) iv ciphertext
  return decode decrypted

/-- `if (!decrypted) return null;` and then `JSON.parse`, whose `SyntaxError`
is caught: a `null` or empty text gives `null`. -/
def parseDecrypted : Option JsString → Option JsValue
  | none => none
  | some [] => none
  | some decrypted => parse decrypted

/-- `aesEncrypt` of `utils.ts`. -/
def aesEncrypt (aes : AesGcm) (iv : List.Vector Byte 12) (plaintext : JsString) :
    Option JsString :=
  aesEncryptWith aes wsAesKeyHex iv plaintext

/-- `aesDecrypt` of `utils.ts`. -/
def aesDecrypt (aes : AesGcm) (encrypted : JsString) : Option JsString :=
  aesDecryptWith aes wsAesKeyHex encrypted

/-- The frame `wsSend(ws, msg)` sends, `aesEncrypt(JSON.stringify(msg))`.
`JSON.stringify(undefined)` is `undefined`, which `TextEncoder` encodes as the
empty text.

The model stops at the frame.  The `ws.send(encrypted)` that follows throws in
Deno when the socket is not `OPEN`, and `ws.ts` calls `wsSend` without `await`
for the `welcome` and the snapshot after a `hello` (lines 88 and 91).  On a
socket that closed while `serverOnHello` was pending, as in
`hello_after_close_stays_online`, those promises reject with no handler, which
ends a Deno process by default.  Neither the exception nor the rejection is
modelled: the server's state after the `hello` is the same either way. -/
def wsSend (aes : AesGcm) (iv : List.Vector Byte 12) (msg : JsValue) : Option JsString :=
  aesEncrypt aes iv ((stringify msg).getD [])

/-- `decodeClientWsMsg(s)`. -/
def decodeClientWsMsg (aes : AesGcm) (s : JsString) : Option JsValue :=
  parseDecrypted (aesDecrypt aes s)

namespace Client

/-- `WS_AES_KEY_HEX` of `client_src/utils.js`: the placeholder `__WS_AES_KEY__`
as `build_prod` replaces it with the key of `config.ts`. -/
def wsAesKeyHex : JsString := SnowBrawl.wsAesKeyHex

/-- `aesEncrypt` of `client_src/utils.js`. -/
def aesEncrypt (aes : AesGcm) (iv : List.Vector Byte 12) (plaintext : JsString) :
    Option JsString :=
  aesEncryptWith aes wsAesKeyHex iv plaintext

/-- `aesDecrypt` of `client_src/utils.js`. -/
def aesDecrypt (aes : AesGcm) (encrypted : JsString) : Option JsString :=
  aesDecryptWith aes wsAesKeyHex encrypted

/-- `wsEncode(obj)`, `aesEncrypt(JSON.stringify(obj))`. -/
def wsEncode (aes : AesGcm) (iv : List.Vector Byte 12) (obj : JsValue) : Option JsString :=
  aesEncrypt aes iv ((stringify obj).getD [])

/-- `wsDecode(str)`. -/
def wsDecode (aes : AesGcm) (str : JsString) : Option JsValue :=
  parseDecrypted (aesDecrypt aes str)

end Client

/-! ## One frame -/

section Frame

variable (aes : AesGcm) (keyHex : JsString)

/-- The frame is the base64 of the IV and the ciphertext. -/
theorem aesEncryptWith_eq (iv : List.Vector Byte 12) (plaintext : JsString) :
    aesEncryptWith aes keyHex iv plaintext =
      some (Base64.encode
        (iv.toList ++ aes.encrypt (getAesKey keyHex) iv.toList (encode plaintext))) :=
  Base64.btoa_latin1 _

/-- Decryption of such a frame splits the IV off again and decrypts the rest. -/
theorem aesDecryptWith_encode (iv : List.Vector Byte 12) (ciphertext : List Byte) :
    aesDecryptWith aes keyHex (Base64.encode (iv.toList ++ ciphertext)) =
      (aes.decrypt (getAesKey keyHex) iv.toList ciphertext).map decode := by
  have hlen : iv.toList.length = 12 := iv.toList_length
  simp only [aesDecryptWith, Base64.atob_encode, Option.bind_eq_bind, Option.bind_some,
    map_ofNat_latin1, List.take_left' hlen, List.drop_left' hlen]
  cases aes.decrypt (getAesKey keyHex) iv.toList ciphertext <;> rfl

/-- **A frame decrypts to its text** under the same key text, when the text is
well formed and does not start with U+FEFF (which `TextDecoder` would take for a
byte order mark). -/
theorem aesDecryptWith_aesEncryptWith {aes : AesGcm} (haes : aes.Inverts) (keyHex : JsString)
    (iv : List.Vector Byte 12) {plaintext : JsString} (hwf : isWellFormed plaintext = true)
    (hbom : plaintext.head? ≠ some 0xFEFF) :
    (aesEncryptWith aes keyHex iv plaintext).bind (aesDecryptWith aes keyHex) = some plaintext := by
  rw [aesEncryptWith_eq, Option.bind_some, aesDecryptWith_encode, haes, Option.map_some,
    decode_encode plaintext hwf hbom]

end Frame

/-! ## JSON texts -/

theorem parse_nil : parse [] = none := rfl

theorem parseDecrypted_some (text : JsString) : parseDecrypted (some text) = parse text := by
  cases text with
  | nil => exact parse_nil.symm
  | cons u rest => rfl

/-- What `JSON.stringify` hands to `TextEncoder` is well formed and starts with
an ASCII code unit. -/
theorem stringify_text_ok (v : JsValue) :
    isWellFormed ((stringify v).getD []) = true ∧ ((stringify v).getD []).head? ≠ some 0xFEFF := by
  cases v with
  | undefined => exact ⟨rfl, by simp [stringify]⟩
  | _ =>
      refine ⟨isWellFormed_serialize _, fun h => ?_⟩
      have hhead := serialize_head _ 0xFEFF h
      exact absurd hhead (by decide)

theorem bind_parse_stringify (v : JsValue) :
    (stringify v).bind parse = parse ((stringify v).getD []) := by
  cases h : stringify v with
  | none => exact parse_nil.symm
  | some text => rfl

/-- **Both directions carry JSON unchanged.**  Under any AES-GCM whose decryption
inverts its encryption and any IV, the server's `decodeClientWsMsg` of the
client's `wsEncode(v)`, and the client's `wsDecode` of the server's frame for
`v`, are `JSON.parse(JSON.stringify(v))`. -/
theorem ws_frames_round_trip (aes : AesGcm) (haes : aes.Inverts) (iv : List.Vector Byte 12)
    (v : JsValue) :
    (Client.wsEncode aes iv v).bind (decodeClientWsMsg aes) = (stringify v).bind parse ∧
      (wsSend aes iv v).bind (Client.wsDecode aes) = (stringify v).bind parse := by
  obtain ⟨hwf, hbom⟩ := stringify_text_ok v
  -- both copies run under the same key text
  have hround := aesDecryptWith_aesEncryptWith haes wsAesKeyHex iv hwf hbom
  obtain ⟨frame, hframe⟩ : ∃ frame, aesEncryptWith aes wsAesKeyHex iv ((stringify v).getD []) =
      some frame := ⟨_, aesEncryptWith_eq aes wsAesKeyHex iv _⟩
  rw [hframe, Option.bind_some] at hround
  have hdecode : parseDecrypted (aesDecryptWith aes wsAesKeyHex frame) =
      (stringify v).bind parse := by
    rw [hround, parseDecrypted_some, bind_parse_stringify]
  constructor
  · show (aesEncryptWith aes wsAesKeyHex iv ((stringify v).getD [])).bind
      (fun s => parseDecrypted (aesDecryptWith aes wsAesKeyHex s)) = _
    rw [hframe, Option.bind_some, hdecode]
  · show (aesEncryptWith aes wsAesKeyHex iv ((stringify v).getD [])).bind
      (fun s => parseDecrypted (aesDecryptWith aes wsAesKeyHex s)) = _
    rw [hframe, Option.bind_some, hdecode]

/-- Both copies run under the same key text, so the frame of a value's text
decodes to `JSON.parse` of that text. -/
theorem parseDecrypted_frame {aes : AesGcm} (haes : aes.Inverts) (iv : List.Vector Byte 12)
    (v : JsValue) :
    (aesEncryptWith aes wsAesKeyHex iv ((stringify v).getD [])).bind
      (fun s => parseDecrypted (aesDecryptWith aes wsAesKeyHex s)) = (stringify v).bind parse := by
  obtain ⟨hwf, hbom⟩ := stringify_text_ok v
  have hround := aesDecryptWith_aesEncryptWith haes wsAesKeyHex iv hwf hbom
  obtain ⟨frame, hframe⟩ : ∃ frame, aesEncryptWith aes wsAesKeyHex iv ((stringify v).getD []) =
      some frame := ⟨_, aesEncryptWith_eq aes wsAesKeyHex iv _⟩
  rw [hframe, Option.bind_some] at hround ⊢
  rw [hround, parseDecrypted_some, bind_parse_stringify]

/-- **Every value sent arrives.**  Under any AES-GCM whose decryption inverts
its encryption and any IV, a value other than `undefined` that either side
sends is decoded on the other side.  The decoded value is the sent one up to
what JSON cannot carry: it has the same `normalize`, so the same numbers by
value, the same strings, and the same nesting. -/
theorem ws_frames_keep_values {aes : AesGcm} (haes : aes.Inverts) (iv : List.Vector Byte 12)
    {v : JsValue} (hv : v ≠ .undefined) :
    (∃ w, (Client.wsEncode aes iv v).bind (decodeClientWsMsg aes) = some w ∧
        Json.normalize w = Json.normalize v) ∧
      ∃ w, (wsSend aes iv v).bind (Client.wsDecode aes) = some w ∧
        Json.normalize w = Json.normalize v := by
  obtain ⟨w, hw, hnorm⟩ := stringify_bind_parse hv
  have hframe := parseDecrypted_frame haes iv v
  rw [hw] at hframe
  exact ⟨⟨w, hframe, hnorm⟩, ⟨w, hframe, hnorm⟩⟩

/-- WebCrypto's `AES-GCM` under a raw key: the ciphertext of `Gcm.encrypt`
followed by its 128-bit tag, with no additional data. -/
def webCryptoAesGcm : AesGcm :=
  ⟨fun key iv plaintext => Gcm.encrypt (Aes.block key) iv plaintext,
    fun key iv ciphertext => Gcm.decrypt (Aes.block key) iv ciphertext⟩

/-- AES-GCM meets the round trip's assumption, under every key. -/
theorem webCryptoAesGcm_inverts : webCryptoAesGcm.Inverts :=
  fun key iv plaintext => Gcm.decrypt_encrypt (Aes.block key) iv plaintext

/-- The IV `00 01 … 0b`. -/
def countingIv : List.Vector Byte 12 := ⟨(List.range 12).map (Fin.ofNat 256), by simp⟩

/-- A `pong`, `{"t":"pong","now":5}`, under AES-GCM. -/
theorem ws_frames_round_trip_pong :
    webCryptoAesGcm.Inverts ∧
      (Client.wsEncode webCryptoAesGcm countingIv
          (.obj [(ascii "t", .str (ascii "pong")), (ascii "now", .num (.ofInt 5))])).bind
          (decodeClientWsMsg webCryptoAesGcm) =
        (stringify (.obj [(ascii "t", .str (ascii "pong")), (ascii "now", .num (.ofInt 5))])).bind
          parse ∧
      (wsSend webCryptoAesGcm countingIv
          (.obj [(ascii "t", .str (ascii "pong")), (ascii "now", .num (.ofInt 5))])).bind
          (Client.wsDecode webCryptoAesGcm) =
        (stringify (.obj [(ascii "t", .str (ascii "pong")), (ascii "now", .num (.ofInt 5))])).bind
          parse :=
  ⟨webCryptoAesGcm_inverts,
    ws_frames_round_trip webCryptoAesGcm webCryptoAesGcm_inverts countingIv
      (.obj [(ascii "t", .str (ascii "pong")), (ascii "now", .num (.ofInt 5))])⟩

/-- A nested value with a number written `100` and a member that is left out,
under AES-GCM. -/
theorem ws_frames_keep_values_nested :
    webCryptoAesGcm.Inverts ∧
      (.arr [.num ⟨100, 0⟩, .obj [(ascii "a", .undefined)]] : JsValue) ≠ .undefined ∧
      (∃ w, (Client.wsEncode webCryptoAesGcm countingIv
          (.arr [.num ⟨100, 0⟩, .obj [(ascii "a", .undefined)]])).bind
            (decodeClientWsMsg webCryptoAesGcm) = some w ∧
        Json.normalize w = Json.normalize (.arr [.num ⟨100, 0⟩, .obj [(ascii "a", .undefined)]])) ∧
      ∃ w, (wsSend webCryptoAesGcm countingIv
          (.arr [.num ⟨100, 0⟩, .obj [(ascii "a", .undefined)]])).bind
            (Client.wsDecode webCryptoAesGcm) = some w ∧
        Json.normalize w = Json.normalize (.arr [.num ⟨100, 0⟩, .obj [(ascii "a", .undefined)]]) :=
  ⟨webCryptoAesGcm_inverts, nofun,
    ws_frames_keep_values webCryptoAesGcm_inverts countingIv (by simp)⟩

end SnowBrawl
