import SnowBrawl.Runs

/-!
# Player names

`clampName` trims a name, collapses its whitespace runs, replaces an empty
result by `"Player"` and cuts it to `MAX_NAME` code units, so every name it
returns is a string of 1 to `MAX_NAME` code units (`clampName_length`).
`NamesClamped` says that every name the server holds has that form: the names
of the cached snapshots, of the `WSClient` objects, and of the events in the
log.

The `hello` branch keeps the invariant, since the `WSClient` takes
`snap.name`, which is `clampName`'s result.  The `rename` branch of `ws.ts` does
not: it assigns the raw `msg.name` to `client.name` and only then calls
`serverHandleRename`, which clamps its own copy for the cache and the `rename`
event.  `rename_stores_empty_name` follows one connection through `hello` and a
`rename` to the empty string, from any reachable state.
-/

namespace SnowBrawl

open Js

/-- A name as `clampName` returns it: a string of 1 to `MAX_NAME` code units. -/
def ClampedName : JsValue → Prop
  | .str s => 1 ≤ s.length ∧ s.length ≤ maxName
  | _ => False

instance : DecidablePred ClampedName := fun v =>
  match v with
  | .str s => inferInstanceAs (Decidable (1 ≤ s.length ∧ s.length ≤ maxName))
  | .undefined | .null | .bool _ | .num _ | .arr _ | .obj _ => isFalse id

/-- The player names an event carries: `join`'s `player.name`, the `name` of
`chat`, `leave` and `rename`, and both names of `death`. -/
def EventBody.names : EventBody → List JsValue
  | .join player => [player.name]
  | .leave _ name => [name]
  | .chat _ name _ => [name]
  | .rename _ name => [.str name]
  | .death _ victimName _ attackerName _ _ => [victimName, attackerName]
  | .state .. | .snowball .. | .hit .. | .respawn .. => []

/-- Every name the server holds is one `clampName` could have returned. -/
structure NamesClamped (w : World) : Prop where
  cache : ∀ p ∈ w.playersCache.values, ClampedName p.name
  clientObjs : ∀ c ∈ w.clientObjs.values, ClampedName c.name
  events : ∀ e ∈ w.events, ∀ n ∈ e.body.names, ClampedName n

/-- The empty string is too short to be a clamped name. -/
theorem not_clampedName_empty : ¬ ClampedName (.str []) := by
  simp [ClampedName]

/-- A string name passes `clampName`, so `serverOnHello` resolves on it. -/
theorem serverOnHello_str (s : JsString) (now : ℕ) (d : Draw) :
    ∃ snap, serverOnHello (.str s) now d = .ok snap := by
  cases hhello : serverOnHello (.str s) now d with
  | ok snap => exact ⟨snap, rfl⟩
  | error e =>
      -- a string is trimmable, so the error case is impossible
      have huntrim : Untrimmable (.str s) := (serverOnHello_error_iff d _ now).mp ⟨e, hhello⟩
      cases huntrim

/-- **A `rename` to `""` breaks the name invariant, from any reachable state.**
A new connection says `hello` with the name `"a"` and then sends
`{"t":"rename","name":""}`.  `ws.ts` stores the raw `""` in `client.name`
before `serverHandleRename` clamps its own copy to `"Player"`, so the
`WSClient` object holds a name of length 0. -/
theorem rename_stores_empty_name {s : Sys} (hs : Reachable s) :
    ∃ s', Reachable s' ∧ ¬ NamesClamped s'.world := by
  obtain ⟨w, ts⟩ := s
  obtain ⟨k, fresh⟩ := w.conns.exists_get?_eq_none
  let d : Draw := ⟨fun _ => 0, ascii "u"⟩
  have hd : d.Valid := fun _ => ⟨le_refl 0, zero_lt_one⟩
  obtain ⟨snap, hhello⟩ := serverOnHello_str (ascii "a") w.now d
  -- the connection registers `snap.id`
  have hregistered := hs.hello fresh hd hhello
  let w₁ : World := { w with conns := w.conns.set k ⟨none, true, false⟩ }
  have hconn₁ : w₁.conns.get? k = some ⟨none, true, false⟩ := Map.get?_set_self _ _ _
  let w₂ := registerClient k w.now snap w₁
  have hconn₂ := registerClient_conn k w.now snap w₁ hconn₁
  have hreg := registerClient_registered k w.now snap w₁ hconn₁
  have hrate : (rateLimitOk (helloClient w.now snap) w₂.now).1 = true := by
    simpa [w₂] using rateLimitOk_first w.now snap
  -- the `rename` frame arrives and is decoded
  have hrenamed := (hregistered.arrive hconn₂ rfl
    (some (clientMessage "rename" [("name", .str [])]))).resume_last hd
  refine ⟨_, hrenamed, fun hclamped => ?_⟩
  have hname := onMessage_rename_stores_name hreg hrate (.str []) d
  obtain ⟨c, hc, hcname⟩ := Option.map_eq_some_iff.mp hname
  have hmem := Map.mem_values_iff.mpr ⟨snap.id, hc⟩
  have := hclamped.clientObjs c hmem
  rw [hcname] at this
  exact not_clampedName_empty this

theorem rename_stores_empty_name_from_start :
    Reachable (initSys 0 0 fun _ => 0) ∧ ∃ s', Reachable s' ∧ ¬ NamesClamped s'.world := by
  exact ⟨Reachable.start, rename_stores_empty_name Reachable.start⟩

end SnowBrawl
