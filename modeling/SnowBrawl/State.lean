import SnowBrawl.Utils

/-!
# `state.ts`: the server's memory

`World` is every module-level variable of the server that a handler reads or
writes: the clock, the event sequence, `playersCache`, `clients`, the
`WSClient` objects, the per-connection closure variable `client` of `ws.ts`,
`pendingStates`, the shot dedup table of `game.ts`, the bots of `bot.ts`, and
the rows `recordKill` inserted.

## Design notes

**Object identity.**  A `WSClient` object is shared between the closure of its
connection and the `clients` map, and `ws.ts` mutates it through the closure
(`client.name = …`, and the counters `rateLimitOk` and `stateFreqOk` bump).
Each object is created with a fresh `crypto.randomUUID()` as its `id` and the id
never changes, so the model names an object by its id: `clientObjs` is the heap
of those objects, `clients` holds the keys of the `clients` map (the value under
a key is the object with that id), and `Conn.client` is the closure variable.

**Segments.**  A handler runs without interruption only between two `await`s.
`Yield` is what one such segment leaves behind: a continuation waiting on a
promise, a normal return, or an exception that rejects the handler's promise.

**The event log.**  `events` holds every event `appendEventInMem` appended, in
order.  The source prunes its array to the last two minutes, but only the
`/health` endpoint reads the array, so the window is not modelled.
`lastSeenSeq` is assigned `latestSeq` right after every increment; the model
keeps the one counter.
-/

namespace SnowBrawl

open Js

/-- A WebSocket accepted by `handleWs`, with its closure variable `client`
(the id of the `WSClient` object it holds). -/
structure Conn where
  client : Option JsString
  /-- The socket still dispatches `message` events. -/
  accepting : Bool
  /-- `socket.onclose` has run. -/
  closed : Bool

/-- `Bot` of `bot.ts`. -/
structure Bot where
  id : JsString
  name : JsString
  pos : Vec3
  rotY : ℝ
  vel : Vec3
  hp : ℤ
  targetPos : Option Vec3
  lastShotAt : ℝ
  moveTimer : ℕ

/-- A row of the `kills` table, as `recordKill` inserts it. -/
structure KillRecord where
  id : JsString
  attackerId : JsString
  attackerName : JsValue
  victimId : JsString
  victimName : JsValue
  shotId : JsString
  timestamp : ℕ

/-- The server's memory. -/
structure World where
  /-- `Date.now()`. -/
  now : ℕ
  /-- `WORLD_SEED`, drawn once at startup. -/
  worldSeed : ℕ
  latestSeq : ℕ
  events : List WorldEvent
  playersCache : Map JsString PlayerSnapshot
  /-- Every `WSClient` object created so far, by its id. -/
  clientObjs : Map JsString WSClient
  /-- The keys of `clients`. -/
  clients : Map JsString Unit
  conns : Map ℕ Conn
  pendingStates : Map JsString PendingState
  /-- `seenShots`: shot id ↦ expiry. -/
  seenShots : Map JsString ℕ
  bots : Map JsString Bot
  /-- The rows `recordKill` inserted. -/
  kills : List KillRecord
  /-- The `list` of every `states` batch assembled, in order. -/
  statesSent : List (List PendingState)
  /-- The `players` of every snapshot assembled, in order. -/
  snapshotsSent : List (List PlayerSnapshot)

/-- What a handler leaves when it reaches an `await` or its end. -/
inductive Yield (σ : Type) where
  /-- Suspended on a promise; `σ` holds what the rest of the handler needs. -/
  | await (k : σ)
  /-- Returned normally. -/
  | done
  /-- An exception escaped: the handler's promise rejects. -/
  | threw (e : JsError)

/-! ## The cache and the event log -/

/-- `playersCache.set(id, f(prev))` when there is a `prev`, as the update
branches of `applyEventToCache` do. -/
def updateIfPresent (cache : Map JsString PlayerSnapshot) (id : JsString)
    (f : PlayerSnapshot → PlayerSnapshot) : Map JsString PlayerSnapshot :=
  match cache.get? id with
  | some prev => cache.set id (f prev)
  | none => cache

/-- `applyEventToCache(ev)`.  `ev.at` is always present, so `ev.at ?? Date.now()`
is `ev.time`, and so is `ev.hp ?? 100` the event's `hp`. -/
def applyEventToCache (ev : WorldEvent) (cache : Map JsString PlayerSnapshot) :
    Map JsString PlayerSnapshot :=
  match ev.body with
  | .join player => cache.set player.id player
  | .leave playerId _ => cache.delete playerId
  | .state playerId pos rotY vel crouch =>
      updateIfPresent cache playerId fun prev =>
        { prev with pos := pos, rotY := rotY, vel := vel, crouch := crouch, updatedAt := ev.time }
  | .rename playerId name =>
      updateIfPresent cache playerId fun prev =>
        { prev with name := .str name, updatedAt := ev.time }
  | .respawn playerId pos hp =>
      updateIfPresent cache playerId fun prev =>
        { prev with pos := pos, hp := hp, deadUntil := 0, updatedAt := ev.time }
  | .hit _ victimId _ victimHp _ =>
      updateIfPresent cache victimId fun prev =>
        { prev with hp := victimHp, updatedAt := ev.time }
  | .death victimId _ _ _ _ respawnAt =>
      updateIfPresent cache victimId fun prev =>
        { prev with hp := 0, deadUntil := respawnAt, updatedAt := ev.time }
  | .chat .. => cache
  | .snowball .. => cache

/-- The synchronous part of `appendEventInMem(ev)`: stamp `seq` and `at`,
append, apply to the cache.  The broadcast that follows is the `await` the
caller suspends on. -/
def appendEventInMem (body : EventBody) (w : World) : World :=
  let full : WorldEvent := ⟨body, w.latestSeq + 1, w.now⟩
  { w with
    latestSeq := w.latestSeq + 1
    events := w.events ++ [full]
    playersCache := applyEventToCache full w.playersCache }

/-! ## Rate limits and the `states` batch -/

/-- `rateLimitOk(c, now)`: a fixed window of `RATE.windowMs` restarted when
`now - bucketStart` exceeds it; the verdict and the mutated record. -/
def rateLimitOk (c : WSClient) (now : ℕ) : Bool × WSClient :=
  let c := if (now : ℤ) - c.bucketStart > rateWindowMs then
      { c with bucketStart := now, bucketCount := 0 } else c
  let c := { c with bucketCount := c.bucketCount + 1 }
  (decide (c.bucketCount ≤ rateMaxMsgs), c)

/-- `stateFreqOk(c, now)`: at most one `state` per 0.75 of the expected interval. -/
def stateFreqOk (c : WSClient) (now : ℕ) : Bool × WSClient :=
  let minInterval : ℚ := 1000 / stateHz
  if ((now : ℚ) - c.lastStateAt) < minInterval * (3 / 4) then (false, c)
  else (true, { c with lastStateAt := now })

/-- `enqueuePendingState(s)`: the latest state per player. -/
def enqueuePendingState (s : PendingState) (w : World) : World :=
  { w with pendingStates := w.pendingStates.set s.id s }

/-- The idle cleanup timer: drop every cache entry of a player not in `clients`
whose `updatedAt` is older than `CLEANUP_IDLE_MS`. -/
def cleanupIdle (w : World) : World :=
  { w with
    playersCache := w.playersCache.filter fun id snap =>
      w.clients.has id || !decide ((w.now : ℤ) - snap.updatedAt > cleanupIdleMs) }

/-- One iteration of the 20 Hz loop of `startStateTickOnce`, up to its
`await`: skip when nobody listens or nothing is pending, else take the batch and
clear the buffer. -/
def stateTick (w : World) : World :=
  if w.clients.size = 0 then w
  else if w.pendingStates.size = 0 then w
  else { w with
    pendingStates := w.pendingStates.clear
    statesSent := w.statesSent ++ [w.pendingStates.values] }

/-- One iteration of the 1 Hz loop of `startStateSyncOnce`: a full snapshot of
the cache, when anybody listens. -/
def snapshotTick (w : World) : World :=
  if w.clients.size = 0 then w
  else { w with snapshotsSent := w.snapshotsSent ++ [w.playersCache.values] }

/-! ## Field lemmas -/

section Frames

variable (body : EventBody) (w : World)

@[simp] theorem appendEventInMem_now : (appendEventInMem body w).now = w.now := rfl
@[simp] theorem appendEventInMem_clients : (appendEventInMem body w).clients = w.clients := rfl
@[simp] theorem appendEventInMem_clientObjs :
    (appendEventInMem body w).clientObjs = w.clientObjs := rfl
@[simp] theorem appendEventInMem_conns : (appendEventInMem body w).conns = w.conns := rfl
@[simp] theorem appendEventInMem_bots : (appendEventInMem body w).bots = w.bots := rfl
@[simp] theorem appendEventInMem_kills : (appendEventInMem body w).kills = w.kills := rfl
@[simp] theorem appendEventInMem_pendingStates :
    (appendEventInMem body w).pendingStates = w.pendingStates := rfl
@[simp] theorem appendEventInMem_seenShots :
    (appendEventInMem body w).seenShots = w.seenShots := rfl
@[simp] theorem appendEventInMem_events :
    (appendEventInMem body w).events = w.events ++ [⟨body, w.latestSeq + 1, w.now⟩] := rfl
@[simp] theorem appendEventInMem_playersCache :
    (appendEventInMem body w).playersCache =
      applyEventToCache ⟨body, w.latestSeq + 1, w.now⟩ w.playersCache := rfl

end Frames

/-- The entry `updateIfPresent` leaves under a key. -/
theorem get?_updateIfPresent (cache : Map JsString PlayerSnapshot) (id j : JsString)
    (f : PlayerSnapshot → PlayerSnapshot) :
    (updateIfPresent cache id f).get? j =
      if j = id then (cache.get? id).map f else cache.get? j := by
  cases hprev : cache.get? id with
  | none =>
      simp only [updateIfPresent, hprev, Option.map_none]
      split
      · next same => rw [same, hprev]
      · rfl
  | some prev =>
      simp only [updateIfPresent, hprev, Option.map_some, Map.get?_set]

end SnowBrawl
