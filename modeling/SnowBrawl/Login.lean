import SnowBrawl.Auth
import SnowBrawl.Client.Utils
import SnowBrawl.Game

/-!
# From a linux.do account to the name on the screen

A player who logs in through linux.do plays under the display name of the
account.  The name goes a long way:

1. `handleCallback` signs `callbackPayload` of the record `/api/user` returned
   (`createJWT`);
2. `/auth/me` returns what `verifyJWT` reads back from the cookie, and the page
   keeps it as `currentUser`;
3. the game starts with `currentUser.name || currentUser.sub`, which the `hello`
   message carries to `serverOnHello`, which clamps it (`clampName`);
4. the `PlayerModel` built from the snapshot draws `fixUTF8` of that name.

`verifyJWT` returns the mojibake of every string, so the server clamps the
mojibake, and `fixUTF8` has to undo it afterwards (`shownName_eq`).  The clamp
works on the Latin-1 code units, one per byte: it trims a final byte `0xA0`
(read as U+00A0 NO-BREAK SPACE) and cuts at 20 bytes, either of which can leave
a multi-byte sequence incomplete, and then `fixUTF8` gives up and the mojibake
is drawn (`xi_shown_as_mojibake`).

## Design notes

The JSON of `/auth/me` and of the `hello` and `welcome` messages carries the
values as they are: a frame carries the value it decodes to.  The snapshot
`serverOnHello` builds holds `clampName` of the name (`serverOnHello_name`).
-/

namespace SnowBrawl

open Js Utf8 Json

/-- The name a client draws for a player who logged in through linux.do with
the record `userInfo`, the token issued at `issuedAt` and read at `verifiedAt`;
`none` is a step that failed. -/
def shownName (hmac : Hmac) (jwtSecret : JsString) (issuedAt verifiedAt : ℕ) (userInfo : JsValue) :
    Option JsString := do
  let jwt ← createJWT hmac jwtSecret issuedAt (callbackPayload userInfo)
  let currentUser ← verifyJWT hmac jwtSecret verifiedAt jwt
  let playerName := (currentUser.get (ascii "name")).orIfFalsy (currentUser.get (ascii "sub"))
  let name ← (clampName playerName).toOption
  return Client.fixUTF8 name

/-- The snapshot of a `hello` carries the clamped name. -/
theorem serverOnHello_name {name : JsValue} {now : ℕ} {d : Draw} {snap : PlayerSnapshot}
    (h : serverOnHello name now d = .ok snap) : ∃ n, clampName name = .ok n ∧ snap.name = .str n := by
  unfold serverOnHello at h
  cases hc : clampName name with
  | error e => simp [hc] at h
  | ok n =>
      simp only [hc] at h
      cases h
      exact ⟨n, rfl, rfl⟩

theorem keys_callbackPayload (userInfo : JsValue) :
    (callbackPayload userInfo).map Prod.fst =
      [ascii "sub", ascii "id", ascii "name", ascii "trust_level"] := rfl

/-- `name` of the signed payload is the account's name when it is a non-empty
string. -/
theorem get_name_callbackPayload {userInfo : JsValue} {s : JsString}
    (hname : userInfo.get (ascii "name") = .str s) (hs : s ≠ []) :
    (JsValue.obj (callbackPayload userInfo)).get (ascii "name") = .str s := by
  have h₁ : (ascii "name" == ascii "trust_level") = false := by decide +kernel
  have h₂ : (ascii "name" == ascii "name") = true := by decide +kernel
  have htruthy : (JsValue.str s).truthy = true := by simpa [JsValue.truthy] using hs
  -- the lookup runs from the last member: `trust_level`, then `name`
  show ((callbackPayload userInfo).reverse.lookup (ascii "name")).getD .undefined = _
  simp only [callbackPayload, List.reverse_cons, List.reverse_nil, List.nil_append,
    List.cons_append, List.lookup, h₁, h₂, Option.getD_some]
  rw [hname, JsValue.orIfFalsy, if_pos htruthy]

/-- **The name drawn is the repair of the clamped mojibake.**  For an account
whose display name is a non-empty string `s`, and whose record makes a flat
payload, the client draws `fixUTF8` of `clampName` of `mojibake s`. -/
theorem shownName_eq (hmac : Hmac) {jwtSecret : JsString} (hsecret : jwtSecret ≠ [])
    {userInfo : JsValue}
    (hflat : ∀ f ∈ callbackPayload userInfo,
      isScalar f.2 = true ∧ isWellFormed f.1 = true ∧ scalarWellFormed f.2 = true)
    {s : JsString} (hname : userInfo.get (ascii "name") = .str s) (hs : s ≠ [])
    {issuedAt verifiedAt : ℕ} (hbound : issuedAt / 1000 + jwtExpireHours * 3600 < 10 ^ 21)
    (hlive : verifiedAt / 1000 ≤ issuedAt / 1000 + jwtExpireHours * 3600) :
    shownName hmac jwtSecret issuedAt verifiedAt userInfo =
      (clampName (.str (mojibake s))).toOption.map Client.fixUTF8 := by
  have hexp : ascii "exp" ∉ (callbackPayload userInfo).map Prod.fst := by
    rw [keys_callbackPayload]; decide +kernel
  have hiat : ascii "iat" ∉ (callbackPayload userInfo).map Prod.fst := by
    rw [keys_callbackPayload]; decide +kernel
  obtain ⟨token, hcreate, hverify⟩ := verifyJWT_createJWT hmac hsecret hflat hexp hbound hlive
  -- the keys are ASCII, so `name` reads back as the mojibake of the account's name
  have hkeys : ∀ f ∈ fullPayload (callbackPayload userInfo) (issuedAt / 1000),
      isAscii f.1 = true := by
    intro f hf
    rcases mem_fullPayload hf with hf | rfl | rfl
    · have hk : f.1 ∈ (callbackPayload userInfo).map Prod.fst := List.mem_map_of_mem hf
      rw [keys_callbackPayload] at hk
      simp only [List.mem_cons, List.not_mem_nil, or_false] at hk
      rcases hk with hk | hk | hk | hk <;> rw [hk] <;> decide +kernel
    · exact (show isAscii (ascii "iat") = true by decide)
    · exact (show isAscii (ascii "exp") = true by decide)
  have hget : (JsValue.obj (fullPayload (callbackPayload userInfo) (issuedAt / 1000))).get
      (ascii "name") = .str s := by
    rw [fullPayload_of_not_mem_exp hexp, setField_of_not_mem hiat, List.append_assoc,
      JsValue.get_obj_append_of_not_mem, get_name_callbackPayload hname hs]
    simp only [List.singleton_append, List.map_cons, List.map_nil]
    decide +kernel
  have htruthy : (JsValue.str (mojibake s)).truthy = true := by
    have hne : mojibake s ≠ [] := by
      simpa [mojibake, latin1] using encode_ne_nil hs
    simpa [JsValue.truthy] using hne
  simp only [shownName, hcreate, hverify, get_map_mojibakeField hkeys, hget, mojibakeScalar,
    JsValue.orIfFalsy, htruthy, if_true, Option.pure_def, Option.bind_eq_bind, Option.bind_some]
  cases clampName (.str (mojibake s)) <;> rfl

/-- **`习` is drawn as `ä¹`.**  Whatever the secret, the times and the rest of
the account, a player whose linux.do display name is `习` (U+4E60, UTF-8
`E4 B9 A0`) is drawn as the two code units `U+00E4 U+00B9`, while `clampName`
leaves `习` as it is.  The server clamps the mojibake `E4 B9 A0`, whose last
unit reads as a no-break space and is trimmed; `fixUTF8` cannot decode the
incomplete `E4 B9`, and keeps it. -/
theorem xi_shown_as_mojibake (hmac : Hmac) {jwtSecret : JsString} (hsecret : jwtSecret ≠ [])
    {userInfo : JsValue}
    (hflat : ∀ f ∈ callbackPayload userInfo,
      isScalar f.2 = true ∧ isWellFormed f.1 = true ∧ scalarWellFormed f.2 = true)
    (hname : userInfo.get (ascii "name") = .str [0x4E60])
    {issuedAt verifiedAt : ℕ} (hbound : issuedAt / 1000 + jwtExpireHours * 3600 < 10 ^ 21)
    (hlive : verifiedAt / 1000 ≤ issuedAt / 1000 + jwtExpireHours * 3600) :
    shownName hmac jwtSecret issuedAt verifiedAt userInfo = some [0xE4, 0xB9] ∧
      clampName (.str [0x4E60]) = .ok [0x4E60] := by
  have hmojibake : mojibake [0x4E60] = [0xE4, 0xB9, 0xA0] := by decide
  -- `trim` takes the final U+00A0 off
  have hclamp : clampName (.str [0xE4, 0xB9, 0xA0]) = .ok [0xE4, 0xB9] := by decide
  -- `E4` opens a three-byte sequence that `B9` does not finish
  have hdecode : decode (Client.lowBytes [0xE4, 0xB9]) = [replacementCharacter] := by decide
  have hfix : Client.fixUTF8 [0xE4, 0xB9] = [0xE4, 0xB9] :=
    Client.fixUTF8_of_replacement (by rw [hdecode]; exact List.mem_singleton_self _)
  refine ⟨?_, by decide⟩
  rw [shownName_eq hmac hsecret hflat hname (List.cons_ne_nil _ _) hbound hlive, hmojibake, hclamp]
  exact congrArg some hfix

theorem xi_shown_as_mojibake_for_one_account :
    shownName (fun _ _ => []) (ascii "secret") 0 0
        (.obj [(ascii "username", .str (ascii "xi")), (ascii "id", .num (.ofInt 1)),
          (ascii "name", .str [0x4E60]), (ascii "trust_level", .num (.ofInt 1))]) =
        some [0xE4, 0xB9] ∧
      clampName (.str [0x4E60]) = .ok [0x4E60] :=
  xi_shown_as_mojibake (fun _ _ => []) (by decide) (by decide +kernel) (by decide +kernel)
    (by decide) (by decide)

end SnowBrawl
