import SnowBrawl.Lib.Base64
import SnowBrawl.Lib.Coerce

/-!
# `auth.ts`: the session token

After the OAuth callback the server issues a JSON Web Token (`createJWT`) and
reads it back from the cookie on every request that needs the user
(`verifyJWT`).  Header and payload are `base64url` texts: the UTF-8 bytes of
`JSON.stringify`, read as a binary string, given to `btoa`, put in the url
alphabet, with the padding removed.  `verifyJWT` restores the alphabet, relies
on `atob`'s forgiving decoder for the padding, and hands the binary string that
`atob` returns to `JSON.parse` as it is: the bytes are never decoded as UTF-8.

## Main results

* `verifyJWT_createJWT` — a token issued for a flat payload is accepted until it
  expires, and `verifyJWT` returns the payload with `iat` and `exp` set, with
  every key and string replaced by its `mojibake`.
* `jwt_round_trip_exact_iff_ascii` — so the payload comes back as it was signed
  exactly when all its keys and strings are ASCII.

## Design notes

HMAC-SHA-256 is a parameter (`Hmac`).  WebCrypto's `verify` for HMAC computes
the code over the same key and data and compares it with the signature, so it
is equality with the function `sign` computes.  Times are values of
`Date.now()`, in milliseconds.  A payload is the list of members of the object
literal, in the order `JSON.stringify` writes them.
-/

namespace SnowBrawl

open Js Utf8 Json

/-- `JWT_EXPIRE_HOURS`. -/
def jwtExpireHours : ℕ := 24

/-- HMAC-SHA-256 of the data under the raw key. -/
abbrev Hmac := List Byte → List Byte → List Byte

/-- `crypto.subtle.importKey("raw", keyData, { name: "HMAC", … })`: a key of
length zero is a `DataError`. -/
def importKey (keyData : List Byte) : Option (List Byte) :=
  if keyData = [] then none else some keyData

/-- `base64url(data)`, on a `Uint8Array` or on a string, which is encoded as
UTF-8 first. -/
def base64url (data : List Byte ⊕ JsString) : Option JsString := do
  let bytes : List Byte :=
    match data with
    | .inl bytes => bytes
    | .inr s => encode s
  let binary := latin1 bytes
  let b64 ← Base64.btoa binary
  return dropTrailing Base64.padChar (replaceAll 0x2F 0x5F (replaceAll 0x2B 0x2D b64))

/-- The header `{ alg: "HS256", typ: "JWT" }`. -/
def jwtHeader : JsValue :=
  .obj [(ascii "alg", .str (ascii "HS256")), (ascii "typ", .str (ascii "JWT"))]

/-- `{ ...payload, iat: now, exp: now + JWT_EXPIRE_HOURS * 3600 }`. -/
def fullPayload (payload : List (JsString × JsValue)) (now : ℕ) : List (JsString × JsValue) :=
  setField (setField payload (ascii "iat") (.num (.ofInt now))) (ascii "exp")
    (.num (.ofInt ↑(now + jwtExpireHours * 3600)))

/-- `createJWT(payload)` when `Date.now()` is `dateNow`; `none` is a rejected
promise. -/
def createJWT (hmac : Hmac) (jwtSecret : JsString) (dateNow : ℕ)
    (payload : List (JsString × JsValue)) : Option JsString := do
  let now := dateNow / 1000
  let headerB64 ← base64url (.inr (← stringify jwtHeader))
  let payloadB64 ← base64url (.inr (← stringify (.obj (fullPayload payload now))))
  let data := headerB64 ++ 0x2E :: payloadB64
  let key ← importKey (encode jwtSecret)
  let sig := hmac key (encode data)
  let sigB64 ← base64url (.inl sig)
  return data ++ 0x2E :: sigB64

/-- `verifyJWT(token)` when `Date.now()` is `dateNow`: the payload, or `none`
for `null`, returned or from the `catch` around the whole body. -/
def verifyJWT (hmac : Hmac) (jwtSecret : JsString) (dateNow : ℕ) (token : JsString) :
    Option JsValue :=
  match split 0x2E token with
  | [headerB64, payloadB64, sigB64] => do
      let data := headerB64 ++ 0x2E :: payloadB64
      let key ← importKey (encode jwtSecret)
      let sigStr := replaceAll 0x5F 0x2F (replaceAll 0x2D 0x2B sigB64)
      let sig := (← Base64.atob sigStr).map fun c => (Fin.ofNat 256 c.val : Byte)
      if sig ≠ hmac key (encode data) then none
      let payloadStr := replaceAll 0x5F 0x2F (replaceAll 0x2D 0x2B payloadB64)
      let payload ← parse (← Base64.atob payloadStr)
      -- `payload.exp` on `null` throws, and the `catch` returns `null`
      if payload = .null then none
      let exp := payload.get (ascii "exp")
      if exp.truthy && lessThanNat exp (dateNow / 1000) then none
      return payload
  | _ => none

/-- The payload `handleCallback` signs for the record `/api/user` returned:
`{ sub: username, id, name: name || username, trust_level: trust_level || 0 }`. -/
def callbackPayload (userInfo : JsValue) : List (JsString × JsValue) :=
  [(ascii "sub", userInfo.get (ascii "username")),
    (ascii "id", userInfo.get (ascii "id")),
    (ascii "name", (userInfo.get (ascii "name")).orIfFalsy (userInfo.get (ascii "username"))),
    (ascii "trust_level", (userInfo.get (ascii "trust_level")).orIfFalsy (.num (.ofInt 0)))]

/-! ## `base64url` -/

theorem base64url_inr (s : JsString) : base64url (.inr s) = base64url (.inl (encode s)) := rfl

/-- A character of the url form of an encoding is neither `=` nor `.`. -/
theorem ne_of_mem_urlChars {bytes : List Byte} {u : CodeUnit}
    (h : u ∈ replaceAll 0x2F 0x5F (replaceAll 0x2B 0x2D (Base64.encodeChars bytes))) :
    u ≠ Base64.padChar ∧ u ≠ 0x2E := by
  rcases mem_replaceAll h with rfl | h
  · decide
  rcases mem_replaceAll h with rfl | h
  · decide
  obtain ⟨v, -, rfl⟩ := List.mem_map.mp h
  exact ⟨(Base64.sextetChar_ascii v).2.1, (Base64.sextetChar_ascii v).2.2.2.2.2⟩

/-- On bytes `base64url` never throws: it returns their encoding with `+` and
`/` replaced and without padding. -/
theorem base64url_inl (bytes : List Byte) :
    base64url (.inl bytes) =
      some (replaceAll 0x2F 0x5F (replaceAll 0x2B 0x2D (Base64.encodeChars bytes))) := by
  have hpad (x : CodeUnit) (hx : x ≠ Base64.padChar) (n : ℕ) :
      x ∉ List.replicate n Base64.padChar := fun h => hx (List.eq_of_mem_replicate h)
  have hlast : ∀ u ∈ (replaceAll 0x2F 0x5F (replaceAll 0x2B 0x2D
      (Base64.encodeChars bytes))).getLast?, u ≠ Base64.padChar :=
    fun u hu => (ne_of_mem_urlChars (List.mem_of_getLast? hu)).1
  simp only [base64url, Base64.btoa_latin1, Option.pure_def, Option.bind_eq_bind, Option.bind_some,
    Base64.encode, replaceAll_append]
  rw [replaceAll_of_not_mem (hpad _ (by decide) _), replaceAll_of_not_mem (hpad _ (by decide) _),
    dropTrailing_append_replicate hlast]

/-- The alphabet restored, an encoding is back: it has no `-` or `_`. -/
theorem restore_urlChars (bytes : List Byte) :
    replaceAll 0x5F 0x2F (replaceAll 0x2D 0x2B
      (replaceAll 0x2F 0x5F (replaceAll 0x2B 0x2D (Base64.encodeChars bytes)))) =
      Base64.encodeChars bytes := by
  simp only [replaceAll, List.map_map]
  conv_rhs => rw [← List.map_id (Base64.encodeChars bytes)]
  refine List.map_congr_left fun u hu => ?_
  obtain ⟨v, -, rfl⟩ := List.mem_map.mp hu
  have h := Base64.sextetChar_ascii v
  simp only [Function.comp_apply, id]
  split_ifs <;> simp_all

/-- What `base64url` makes of bytes has no `.`, and `atob` reads the bytes back
from it once the alphabet is restored. -/
theorem atob_of_base64url {bytes : List Byte} {t : JsString} (h : base64url (.inl bytes) = some t) :
    (0x2E : CodeUnit) ∉ t ∧
      Base64.atob (replaceAll 0x5F 0x2F (replaceAll 0x2D 0x2B t)) = some (latin1 bytes) := by
  rw [base64url_inl, Option.some.injEq] at h
  subst h
  exact ⟨fun hu => (ne_of_mem_urlChars hu).2 rfl, by rw [restore_urlChars, Base64.atob_encodeChars]⟩

/-! ## The token -/

/-- Three pieces without `.`, joined by `.`, split back into them. -/
theorem split_token {h p s : JsString} (hh : (0x2E : CodeUnit) ∉ h) (hp : (0x2E : CodeUnit) ∉ p)
    (hs : (0x2E : CodeUnit) ∉ s) : split 0x2E ((h ++ 0x2E :: p) ++ 0x2E :: s) = [h, p, s] := by
  rw [List.append_assoc, List.cons_append, split_append_cons hh, split_append_cons hp,
    split_of_not_mem hs]

/-- With no `exp` in the payload, the one `fullPayload` sets comes last. -/
theorem fullPayload_of_not_mem_exp {payload : List (JsString × JsValue)}
    (hexp : ascii "exp" ∉ payload.map Prod.fst) (now : ℕ) :
    fullPayload payload now = setField payload (ascii "iat") (.num (.ofInt now)) ++
      [(ascii "exp", .num (.ofInt ↑(now + jwtExpireHours * 3600)))] := by
  refine setField_of_not_mem (fun h => ?_) _
  obtain ⟨f, hf, hfk⟩ := List.mem_map.mp h
  rcases mem_setField hf with hf | rfl
  · exact hexp (List.mem_map.mpr ⟨f, hf, hfk⟩)
  · exact absurd hfk (show ascii "iat" ≠ ascii "exp" by decide)

/-- A member of `fullPayload` is one of the payload, or `iat` or `exp`. -/
theorem mem_fullPayload {payload : List (JsString × JsValue)} {now : ℕ} {f : JsString × JsValue}
    (h : f ∈ fullPayload payload now) :
    f ∈ payload ∨ f = (ascii "iat", .num (.ofInt now)) ∨
      f = (ascii "exp", .num (.ofInt ↑(now + jwtExpireHours * 3600))) := by
  rcases mem_setField h with h | h
  · rcases mem_setField h with h | h
    · exact Or.inl h
    · exact Or.inr (Or.inl h)
  · exact Or.inr (Or.inr h)

/-- The members of a flat payload are flat after `iat` and `exp` are set, while
the times are below `10^21`. -/
theorem fullPayload_flat {payload : List (JsString × JsValue)}
    (hflat : ∀ f ∈ payload, isScalar f.2 = true ∧ isWellFormed f.1 = true ∧ scalarWellFormed f.2 = true)
    {now : ℕ} (hbound : now + jwtExpireHours * 3600 < 10 ^ 21) :
    ∀ f ∈ fullPayload payload now,
      isScalar f.2 = true ∧ isWellFormed f.1 = true ∧ scalarWellFormed f.2 = true := by
  intro f hf
  rcases mem_fullPayload hf with hf | rfl | rfl
  · exact hflat f hf
  · refine ⟨?_, show isWellFormed (ascii "iat") = true by decide, rfl⟩
    rw [isScalar_num_ofInt, Int.natAbs_natCast]
    exact lt_of_le_of_lt (Nat.le_add_right _ _) hbound
  · refine ⟨?_, show isWellFormed (ascii "exp") = true by decide, rfl⟩
    rw [isScalar_num_ofInt, Int.natAbs_natCast]
    exact hbound

/-- `exp` of the payload read back is the one set, a mojibake of its own. -/
theorem get_exp_mojibake {payload : List (JsString × JsValue)}
    (hexp : ascii "exp" ∉ payload.map Prod.fst) (now : ℕ) :
    (JsValue.obj ((fullPayload payload now).map mojibakeField)).get (ascii "exp") =
      .num (.ofInt ↑(now + jwtExpireHours * 3600)) := by
  have hkey : mojibake (ascii "exp") = ascii "exp" := by decide +kernel
  rw [fullPayload_of_not_mem_exp hexp, List.map_append, JsValue.get, List.reverse_append]
  simp [mojibakeField, mojibakeScalar, hkey]

/-- **A token is read back as the mojibake of what was signed.**  For a flat
payload with no `exp` of its own, `createJWT` issues a token, and until it
expires `verifyJWT` accepts it and returns the payload with `iat` and `exp`
set, every key and string value replaced by its `mojibake`. -/
theorem verifyJWT_createJWT (hmac : Hmac) {jwtSecret : JsString} (hsecret : jwtSecret ≠ [])
    {payload : List (JsString × JsValue)}
    (hflat : ∀ f ∈ payload, isScalar f.2 = true ∧ isWellFormed f.1 = true ∧ scalarWellFormed f.2 = true)
    (hexp : ascii "exp" ∉ payload.map Prod.fst) {issuedAt verifiedAt : ℕ}
    (hbound : issuedAt / 1000 + jwtExpireHours * 3600 < 10 ^ 21)
    (hlive : verifiedAt / 1000 ≤ issuedAt / 1000 + jwtExpireHours * 3600) :
    ∃ token, createJWT hmac jwtSecret issuedAt payload = some token ∧
      verifyJWT hmac jwtSecret verifiedAt token =
        some (.obj ((fullPayload payload (issuedAt / 1000)).map mojibakeField)) := by
  set full := fullPayload payload (issuedAt / 1000) with hfull_def
  have hkey : importKey (encode jwtSecret) = some (encode jwtSecret) := if_neg (encode_ne_nil hsecret)
  obtain ⟨H, hH⟩ : ∃ H, base64url (.inl (encode (serialize jwtHeader))) = some H :=
    ⟨_, base64url_inl _⟩
  obtain ⟨P, hP⟩ : ∃ P, base64url (.inl (encode (serialize (.obj full)))) = some P :=
    ⟨_, base64url_inl _⟩
  obtain ⟨G, hG⟩ : ∃ G, base64url (.inl (hmac (encode jwtSecret) (encode (H ++ 0x2E :: P)))) = some G :=
    ⟨_, base64url_inl _⟩
  have hheader : stringify jwtHeader = some (serialize jwtHeader) := rfl
  have hbody : stringify (.obj full) = some (serialize (.obj full)) := rfl
  refine ⟨(H ++ 0x2E :: P) ++ 0x2E :: G, ?_, ?_⟩
  · simp only [createJWT, ← hfull_def, hheader, hbody, base64url_inr, hH, hP, hkey, hG, Option.pure_def,
      Option.bind_eq_bind, Option.bind_some]
  obtain ⟨hHdot, -⟩ := atob_of_base64url hH
  obtain ⟨hPdot, hPatob⟩ := atob_of_base64url hP
  obtain ⟨hGdot, hGatob⟩ := atob_of_base64url hG
  -- the payload text is the mojibake of the JSON signed, which is JSON of the mojibake
  have hfull := fullPayload_flat hflat hbound
  have hparse : parse (latin1 (encode (serialize (.obj full)))) = some (.obj (full.map mojibakeField)) := by
    rw [← mojibake, mojibake_serialize_obj hfull, parse_serialize_obj]
    intro f hf
    obtain ⟨g, hg, rfl⟩ := List.mem_map.mp hf
    rw [mojibakeField, isScalar_mojibakeScalar]
    exact (hfull g hg).1
  -- the token has not expired
  have hget : (JsValue.obj (full.map mojibakeField)).get (ascii "exp") =
      .num (.ofInt ↑(issuedAt / 1000 + jwtExpireHours * 3600)) := get_exp_mojibake hexp _
  have hlt : lessThanNat (.num (.ofInt ↑(issuedAt / 1000 + jwtExpireHours * 3600)))
      (verifiedAt / 1000) = false := by
    rw [lessThanNat_ofInt (by rw [Int.natAbs_natCast]; exact hbound)]
    exact decide_eq_false (by omega)
  simp only [verifyJWT, split_token hHdot hPdot hGdot, hkey, hGatob, map_ofNat_latin1, hPatob,
    hparse, hget, hlt, Option.pure_def, Option.bind_eq_bind, Option.bind_some,
    ne_eq, not_true_eq_false, if_false, reduceCtorEq, Bool.and_false]

/-- **The payload survives the token only when it is ASCII.**  For a flat
payload without `iat` or `exp`, `verifyJWT` returns, before the token expires,
exactly the payload with `iat` and `exp` added if and only if every key and
every string value of the payload is ASCII; a display name such as `张三` comes
back as the Latin-1 reading of its UTF-8 bytes. -/
theorem jwt_round_trip_exact_iff_ascii (hmac : Hmac) {jwtSecret : JsString}
    (hsecret : jwtSecret ≠ []) {payload : List (JsString × JsValue)}
    (hflat : ∀ f ∈ payload, isScalar f.2 = true ∧ isWellFormed f.1 = true ∧ scalarWellFormed f.2 = true)
    (hiat : ascii "iat" ∉ payload.map Prod.fst) (hexp : ascii "exp" ∉ payload.map Prod.fst)
    {issuedAt verifiedAt : ℕ} (hbound : issuedAt / 1000 + jwtExpireHours * 3600 < 10 ^ 21)
    (hlive : verifiedAt / 1000 ≤ issuedAt / 1000 + jwtExpireHours * 3600) :
    ∃ token, createJWT hmac jwtSecret issuedAt payload = some token ∧
      (verifyJWT hmac jwtSecret verifiedAt token =
          some (.obj (fullPayload payload (issuedAt / 1000))) ↔
        ∀ f ∈ payload, isAscii f.1 = true ∧ scalarAscii f.2 = true) := by
  obtain ⟨token, hcreate, hverify⟩ := verifyJWT_createJWT hmac hsecret hflat hexp hbound hlive
  refine ⟨token, hcreate, ?_⟩
  rw [hverify, Option.some.injEq, JsValue.obj.injEq, map_mojibakeField_eq_self_iff,
    fullPayload_of_not_mem_exp hexp, setField_of_not_mem hiat]
  -- `iat` and `exp` are ASCII keys of numbers, so only the payload's members matter
  simp only [List.mem_append, List.mem_singleton]
  constructor
  · intro h f hf
    exact h f (Or.inl (Or.inl hf))
  · intro h f hf
    rcases hf with (hf | rfl) | rfl
    · exact h f hf
    · exact ⟨show isAscii (ascii "iat") = true by decide, rfl⟩
    · exact ⟨show isAscii (ascii "exp") = true by decide, rfl⟩

theorem jwt_round_trip_loses_zhang_san :
    ∃ token, createJWT (fun _ _ => []) (ascii "secret") 0 [(ascii "name", .str [0x5F20, 0x4E09])] =
        some token ∧
      verifyJWT (fun _ _ => []) (ascii "secret") 0 token ≠
        some (.obj (fullPayload [(ascii "name", .str [0x5F20, 0x4E09])] 0)) := by
  obtain ⟨token, hcreate, hiff⟩ := @jwt_round_trip_exact_iff_ascii (fun _ _ => [])
    (ascii "secret") (by decide) [(ascii "name", .str [0x5F20, 0x4E09])]
    (by decide +kernel) (by decide +kernel) (by decide +kernel) 0 0 (by decide) (by decide)
  refine ⟨token, hcreate, fun h => ?_⟩
  have hascii := (hiff.mp h) _ List.mem_cons_self
  revert hascii
  decide

end SnowBrawl
