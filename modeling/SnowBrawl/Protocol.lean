import SnowBrawl.Lib.JsValue
import SnowBrawl.Lib.OrderedMap

/-!
# Protocol types and configuration

The records of `protocol.ts` and the constants of `config.ts` that the server's
logic reads.

## Design notes

* **Numbers.**  Positions, velocities and angles are JavaScript numbers; the
  model computes with them in `ℝ` (exact arithmetic, no rounding).  Every
  such number the server stores is finite by construction, because the only
  numbers from outside are message fields, and the handlers convert a field only
  after `Number.isFinite` accepted it (`Js.JsValue.asFinite?`).  Clock readings
  (`Date.now()`) and the times derived from them are whole milliseconds, `ℕ`;
  hit points are whole numbers, `ℤ`.
* **Names are values, not strings.**  `PlayerSnapshot.name`, `WSClient.name` and
  the name fields of events have type `JsValue`: the TypeScript annotation says
  `string`, but `ws.ts` stores `msg.name` of a `rename` message as it arrived,
  and a model with `JsString` there could not describe what happens next.
* **Optional fields.**  `deadUntil?` is written by every code path that creates a
  snapshot and only ever read as `deadUntil ?? 0`, so it is a plain `ℕ`;
  `pingMs?` really is absent on new snapshots, so it is an `Option`.
-/

namespace SnowBrawl

open Js

/-! The real numerals of the configuration and of the formulas over it, each
named once as at least two, so that every definition that writes one refers to
the same proof. -/

instance instAtLeastTwo2 : Nat.AtLeastTwo 2 := ⟨by decide⟩
instance instAtLeastTwo3 : Nat.AtLeastTwo 3 := ⟨by decide⟩
instance instAtLeastTwo5 : Nat.AtLeastTwo 5 := ⟨by decide⟩
instance instAtLeastTwo6 : Nat.AtLeastTwo 6 := ⟨by decide⟩
instance instAtLeastTwo20 : Nat.AtLeastTwo 20 := ⟨by decide⟩
instance instAtLeastTwo25 : Nat.AtLeastTwo 25 := ⟨by decide⟩
instance instAtLeastTwo40 : Nat.AtLeastTwo 40 := ⟨by decide⟩
instance instAtLeastTwo500 : Nat.AtLeastTwo 500 := ⟨by decide⟩
instance instAtLeastTwo1000 : Nat.AtLeastTwo 1000 := ⟨by decide⟩
instance instAtLeastTwo5000 : Nat.AtLeastTwo 5000 := ⟨by decide⟩

/-- `Vec3`. -/
structure Vec3 where
  x : ℝ
  y : ℝ
  z : ℝ

/-- `{ x: 0, y: 0, z: 0 }`. -/
def Vec3.zero : Vec3 := ⟨0, 0, 0⟩

/-- `PlayerSnapshot`, the entry type of `playersCache`. -/
structure PlayerSnapshot where
  id : JsString
  name : JsValue
  pos : Vec3
  rotY : ℝ
  vel : Vec3
  hp : ℤ
  crouch : Bool
  deadUntil : ℕ
  updatedAt : ℕ
  pingMs : Option JsonNumber

/-- The payload of a `WorldEvent`, before `appendEventInMem` stamps `seq` and
`at` on it.  `state` is part of the union and handled by `applyEventToCache`,
but no code path appends one. -/
inductive EventBody where
  | join (player : PlayerSnapshot)
  | leave (playerId : JsString) (name : JsValue)
  | chat (playerId : JsString) (name : JsValue) (text : JsString)
  | state (playerId : JsString) (pos : Vec3) (rotY : ℝ) (vel : Vec3) (crouch : Bool)
  | snowball (id ownerId : JsString) (origin dir : Vec3) (speed : ℝ)
  | hit (attackerId victimId : JsString) (impulse : Vec3) (victimHp : ℤ) (shotId : JsString)
  | rename (playerId : JsString) (name : JsString)
  | death (victimId : JsString) (victimName : JsValue) (attackerId : JsString)
      (attackerName : JsValue) (shotId : JsString) (respawnAt : ℕ)
  | respawn (playerId : JsString) (pos : Vec3) (hp : ℤ)

/-- `WorldEvent`: a payload with its sequence number `seq` and its timestamp,
the source's `at` (a Lean keyword, so the field is `time`). -/
structure WorldEvent where
  body : EventBody
  seq : ℕ
  time : ℕ

/-- `PendingState`, the per-player entry of the 20 Hz `states` batch. -/
structure PendingState where
  id : JsString
  pos : Vec3
  rotY : ℝ
  vel : Vec3
  crouch : Bool
  updatedAt : ℕ
  pingMs : Option JsonNumber

/-- `WSClient`, the per-connection record of `state.ts`.  The socket itself is
the connection the record belongs to (`Conn`). -/
structure WSClient where
  id : JsString
  name : JsValue
  connectedAt : ℕ
  bucketStart : ℕ
  bucketCount : ℕ
  lastStateAt : ℕ

/-! ## `config.ts` -/

/-- `CONFIG.RATE.windowMs`. -/
def rateWindowMs : ℕ := 10000
/-- `CONFIG.RATE.maxMsgs`. -/
def rateMaxMsgs : ℕ := 1200
/-- `CONFIG.STATE_HZ`. -/
def stateHz : ℕ := 20
/-- `CONFIG.MAX_NAME`. -/
def maxName : ℕ := 20
/-- `CONFIG.MAX_CHAT`. -/
def maxChat : ℕ := 80
/-- `CONFIG.CLEANUP_IDLE_MS`. -/
def cleanupIdleMs : ℕ := 5000
/-- `CONFIG.MAP_HALF`. -/
def mapHalf : ℝ := 190
/-- `CONFIG.GAME.gravity`. -/
def gravity : ℝ := 20
/-- `CONFIG.GAME.snowballSpeed`. -/
def snowballSpeed : ℝ := 25
/-- `CONFIG.GAME.snowballLifeSec`. -/
def snowballLifeSec : ℝ := 3
/-- `CONFIG.GAME.snowballSimSteps`. -/
def snowballSimSteps : ℕ := 60
/-- `CONFIG.GAME.hitRadius`. -/
def hitRadius : ℝ := 0.9
/-- `CONFIG.GAME.hitHeight`. -/
def hitHeight : ℝ := 2.2
/-- `CONFIG.GAME.knockbackForce`. -/
def knockbackForce : ℝ := 26
/-- `CONFIG.GAME.knockUp`. -/
def knockUp : ℝ := 1.2
/-- `CONFIG.GAME.damage`. -/
def damage : ℤ := 10
/-- `CONFIG.GAME.respawnMs`. -/
def respawnMs : ℕ := 3000

end SnowBrawl
