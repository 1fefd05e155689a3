import SnowBrawl.Bot

/-!
# `ws.ts`: connections, and the server as a concurrent system

`socket.onmessage` is an `async` function.  Deno starts one invocation per text
frame and does not wait for it, so the invocations of one connection, the
`onclose` handler, the `updateBots` calls of the interval timer and the other
timers interleave at every `await`.  This module makes that concrete:

* `MessageStage`, `Task` — where a suspended invocation stands and what it
  holds;
* `onMessage`, `onClose`, `resumeTask` — the segments, each the code between
  two `await`s;
* `Step` — the scheduler: a frame arrives, a connection closes, a timer fires,
  the clock advances, or *any* suspended task resumes.

## The `await`s that are yields

Every `await` suspends, even on a promise that is already settled, so every one
is a point where another task may run.  A handler that awaits a function which
itself awaits is modelled with one suspension per call site: `await
appendEventInMem(ev)` runs the synchronous part of `appendEventInMem` (stamp,
log, apply to the cache) and then suspends until the broadcast is done.  When an
`async` callee throws before its first `await` (`serverOnHello`,
`serverHandleChat` and `serverHandleRename` on a name or text that is not a
string), the caller's `await` rethrows at once; the model ends the segment with
`Yield.threw` there.

`decodeClientWsMsg` (AES-GCM decryption under the key every client embeds,
then `JSON.parse`) is the first `await`.  A client can make the decrypted text
any JSON text, so the model lets a frame carry its decoded value directly:
`some v` for a frame that decrypts and parses to `v`, `none` for one that does
not.  Binary frames return before any effect and are not modelled.
-/

namespace SnowBrawl

open Js

/-- Where a suspended `onmessage` invocation stands. -/
inductive MessageStage where
  /-- Awaiting `decodeClientWsMsg(evt.data)`; what it will resolve to. -/
  | decoding (msg : Option JsValue)
  /-- Awaiting `serverOnHello(msg.name)`, which produced `snap` at time `now`. -/
  | hello (now : ℕ) (snap : PlayerSnapshot)
  /-- Awaiting the `join` broadcast. -/
  | joined
  /-- Awaiting the `respawn` broadcast of `serverHandleState`. -/
  | respawned (pending : PendingState)
  /-- Inside `await serverHandleSnowball(...)` for the player `clientId`. -/
  | shooting (clientId : JsString) (stage : ShotStage)
  /-- Awaiting the broadcast of the last event; nothing follows. -/
  | broadcasting

/-- A suspended task of the server. -/
inductive Task where
  /-- An `onmessage` invocation of connection `k`. -/
  | message (k : ℕ) (stage : MessageStage)
  /-- `onclose` of connection `k`, awaiting the `leave` broadcast. -/
  | closing (k : ℕ)
  /-- A visit of `updateBots` (started at `now`) to bot `id`, with the bots after it. -/
  | bots (now : ℕ) (id : JsString) (rest : List JsString) (stage : BotStage)

/-- The state of the whole server: its memory and its suspended tasks. -/
structure Sys where
  world : World
  tasks : List Task

namespace Yield

/-- Relabel the continuation. -/
def map {σ τ : Type} (f : σ → τ) : Yield σ → Yield τ
  | .await k => .await (f k)
  | .done => .done
  | .threw e => .threw e

/-- The segment rejected the handler's promise. -/
def threwQ {σ : Type} : Yield σ → Bool
  | .threw _ => true
  | _ => false

/-- The continuation, if the segment suspended. -/
def toList {σ : Type} : Yield σ → List σ
  | .await k => [k]
  | .done => []
  | .threw _ => []

end Yield

noncomputable section

/-- Write the `WSClient` object with id `cid`. -/
def setClientObj (cid : JsString) (c : WSClient) (w : World) : World :=
  { w with clientObjs := w.clientObjs.set cid c }

/-- Update connection `k`'s record. -/
def updateConn (k : ℕ) (f : Conn → Conn) (w : World) : World :=
  match w.conns.get? k with
  | some c => { w with conns := w.conns.set k (f c) }
  | none => w

section Frames

variable (k : ℕ) (f : Conn → Conn) (cid : JsString) (c : WSClient) (w : World)

@[simp] theorem setClientObj_now : (setClientObj cid c w).now = w.now := rfl
@[simp] theorem setClientObj_conns : (setClientObj cid c w).conns = w.conns := rfl
@[simp] theorem setClientObj_clientObjs :
    (setClientObj cid c w).clientObjs = w.clientObjs.set cid c := rfl

@[simp] theorem updateConn_now : (updateConn k f w).now = w.now := by
  unfold updateConn; split <;> rfl
@[simp] theorem updateConn_clientObjs : (updateConn k f w).clientObjs = w.clientObjs := by
  unfold updateConn; split <;> rfl
@[simp] theorem updateConn_clients : (updateConn k f w).clients = w.clients := by
  unfold updateConn; split <;> rfl
@[simp] theorem updateConn_playersCache : (updateConn k f w).playersCache = w.playersCache := by
  unfold updateConn; split <;> rfl
@[simp] theorem updateConn_events : (updateConn k f w).events = w.events := by
  unfold updateConn; split <;> rfl
@[simp] theorem updateConn_latestSeq : (updateConn k f w).latestSeq = w.latestSeq := by
  unfold updateConn; split <;> rfl

theorem updateConn_get?_self {conn : Conn} (hk : w.conns.get? k = some conn) :
    (updateConn k f w).conns.get? k = some (f conn) := by
  simp only [updateConn, hk, Map.get?_set_self]

end Frames

/-- The `switch (msg.t)` of a registered connection, after the rate limit. -/
def dispatch (cid : JsString) (c : WSClient) (m : JsValue) (w : World) (d : Draw) :
    World × Yield MessageStage :=
  let t := m.get (ascii "t")
  if t.isStr (ascii "ping") then
    -- refresh `updatedAt` so that the idle cleanup spares the player
    ({ w with playersCache := updateIfPresent w.playersCache cid fun s =>
        { s with updatedAt := w.now } }, .done)
  else if t.isStr (ascii "chat") then
    let r := serverHandleChat cid c.name m w
    (r.1, r.2.map fun _ => .broadcasting)
  else if t.isStr (ascii "state") then
    let f := stateFreqOk c w.now
    let w := setClientObj cid f.2 w
    if f.1 then
      let r := serverHandleState cid f.2.name m w d
      (r.1, r.2.map .respawned)
    else (w, .done)
  else if t.isStr (ascii "snowball") then
    let r := serverHandleSnowball cid m w d
    (r.1, r.2.map (.shooting cid))
  else if t.isStr (ascii "rename") then
    -- `client.name = msg.name` happens before `serverHandleRename` looks at it
    let w := setClientObj cid { c with name := m.get (ascii "name") } w
    let r := serverHandleRename cid (m.get (ascii "name")) w
    (r.1, r.2.map fun _ => .broadcasting)
  else (w, .done)

/-- `socket.onmessage` after `decodeClientWsMsg` resolved to `msg`. -/
def onMessage (k : ℕ) (msg : Option JsValue) (w : World) (d : Draw) :
    World × Yield MessageStage :=
  match msg with
  | none => (w, .done)
  | some m =>
      if !m.truthy then (w, .done)
      else
        match (w.conns.get? k).bind Conn.client with
        | none =>
            if (m.get (ascii "t")).isStr (ascii "hello") then
              match serverOnHello (m.get (ascii "name")) w.now d with
              | .ok snap => (w, .await (.hello w.now snap))
              | .error e => (w, .threw e)
            else (w, .done)
        | some cid =>
            match w.clientObjs.get? cid with
            | some c =>
                let r := rateLimitOk c w.now
                let w := setClientObj cid r.2 w
                if r.1 then dispatch cid r.2 m w d
                -- `client.ws.close(4008, ...)`: no further frames are dispatched
                else (updateConn k (fun conn => { conn with accepting := false }) w, .done)
            | none => (w, .done)

/-- `onmessage` after `serverOnHello` resolved: register the client, cache the
snapshot, append `join`. -/
def registerClient (k now : ℕ) (snap : PlayerSnapshot) (w : World) : World :=
  let w := updateConn k (fun conn => { conn with client := some snap.id }) w
  let w := { w with
    clientObjs := w.clientObjs.set snap.id ⟨snap.id, snap.name, now, now, 0, 0⟩
    clients := w.clients.set snap.id ()
    playersCache := w.playersCache.set snap.id snap }
  appendEventInMem (.join snap) w

/-- The segments of `onmessage` after its first. -/
def resumeMessage (k : ℕ) (w : World) (d : Draw) : MessageStage → World × Yield MessageStage
  | .decoding msg => onMessage k msg w d
  | .hello now snap => (registerClient k now snap w, .await .joined)
  | .joined =>
      -- `welcome`, then the snapshot of the cache as it is now
      ({ w with snapshotsSent := w.snapshotsSent ++ [w.playersCache.values] }, .done)
  | .respawned pending => (enqueuePendingState pending w, .done)
  | .shooting clientId stage =>
      let r := resumeShot clientId w d stage
      (r.1, r.2.map (.shooting clientId))
  | .broadcasting => (w, .done)

/-- `socket.onclose`, up to its `await`. -/
def onClose (k : ℕ) (w : World) : World × Option Task :=
  let w' := updateConn k (fun conn => { conn with accepting := false, closed := true }) w
  match (w.conns.get? k).bind Conn.client with
  | none => (w', none)
  | some cid =>
      let name := ((w.clientObjs.get? cid).map WSClient.name).getD .undefined
      let w' := { w' with clients := w'.clients.delete cid }
      (appendEventInMem (.leave cid name) w', some (.closing k))

/-- The task a visit of `updateBots` leaves, if it suspended. -/
def botTask (now : ℕ) : Option (JsString × List JsString × BotStage) → List Task
  | some (id, rest, stage) => [.bots now id rest stage]
  | none => []

/-- One `updateBots()` call from the interval timer, up to its first `await`. -/
def startUpdateBots (w : World) (d : Draw) : World × List Task :=
  let r := scanBots w.now d w.bots.keys w
  (r.1, botTask w.now r.2)

/-- The segments of a visit of `updateBots` after its first. -/
def resumeBots (now : ℕ) (id : JsString) (rest : List JsString) (w : World) (d : Draw) :
    BotStage → World × List Task
  | .respawned =>
      let r := scanBots now d rest w
      (r.1, botTask now r.2)
  | .shooting snapshot shot =>
      let r := resumeBotShot id w shot
      match r.2 with
      | some shot' => (r.1, [.bots now id rest (.shooting snapshot shot')])
      | none => (r.1, [.bots now id rest (.shot snapshot)])
  | .shot snapshot =>
      let r := scanBots now d rest (finishVisit now id snapshot w)
      (r.1, botTask now r.2)

/-- Resume a suspended task: the world, the tasks it leaves, and whether an
exception rejected its promise. -/
def resumeTask (t : Task) (w : World) (d : Draw) : World × List Task × Bool :=
  match t with
  | .message k stage =>
      let r := resumeMessage k w d stage
      (r.1, (r.2.toList).map (.message k), r.2.threwQ)
  | .closing _ => (w, [], false)
  | .bots now id rest stage =>
      let r := resumeBots now id rest w d stage
      (r.1, r.2, false)

/-- The scheduler.  Every transition is enabled whenever its guard holds, in any
order: this is the set of all interleavings. -/
inductive Step : Sys → Sys → Prop where
  /-- `handleWs` accepts a new connection `k`. -/
  | connect (s : Sys) (k : ℕ) (fresh : s.world.conns.get? k = none) :
      Step s ⟨{ s.world with conns := s.world.conns.set k ⟨none, true, false⟩ }, s.tasks⟩
  /-- A text frame arrives on `k`; `onmessage` starts and awaits its decoding. -/
  | arrive (s : Sys) (k : ℕ) (c : Conn) (hk : s.world.conns.get? k = some c)
      (accepting : c.accepting = true) (msg : Option JsValue) :
      Step s ⟨s.world, s.tasks ++ [.message k (.decoding msg)]⟩
  /-- The socket of `k` closes; `onclose` runs. -/
  | close (s : Sys) (k : ℕ) (c : Conn) (hk : s.world.conns.get? k = some c)
      (open_ : c.closed = false) :
      Step s ⟨(onClose k s.world).1, s.tasks ++ (onClose k s.world).2.toList⟩
  /-- A suspended task resumes. -/
  | resume (w : World) (pre post : List Task) (t : Task) (d : Draw) (hd : d.Valid) :
      Step ⟨w, pre ++ t :: post⟩ ⟨(resumeTask t w d).1, pre ++ post ++ (resumeTask t w d).2.1⟩
  /-- The 50 ms interval calls `updateBots()`. -/
  | botTimer (s : Sys) (d : Draw) (hd : d.Valid) :
      Step s ⟨(startUpdateBots s.world d).1, s.tasks ++ (startUpdateBots s.world d).2⟩
  /-- The idle cleanup interval fires. -/
  | cleanup (s : Sys) : Step s ⟨cleanupIdle s.world, s.tasks⟩
  /-- The `seenShots` purge interval fires. -/
  | purge (s : Sys) : Step s ⟨purgeSeenShots s.world, s.tasks⟩
  /-- The 20 Hz `states` loop runs an iteration. -/
  | stateTick (s : Sys) : Step s ⟨stateTick s.world, s.tasks⟩
  /-- The 1 Hz snapshot loop runs an iteration. -/
  | snapshotTick (s : Sys) : Step s ⟨snapshotTick s.world, s.tasks⟩
  /-- Time passes. -/
  | tick (s : Sys) (dt : ℕ) : Step s ⟨{ s.world with now := s.world.now + dt }, s.tasks⟩

/-- The server as `main.ts` starts it: bots initialised, nothing suspended. -/
def initSys (worldSeed now : ℕ) (rs : Stream' ℝ) : Sys := ⟨initBots worldSeed now rs, []⟩

/-- The states of the server some interleaving reaches. -/
inductive Reachable : Sys → Prop where
  | init (worldSeed now : ℕ) (rs : Stream' ℝ) (hrs : ∀ n, 0 ≤ rs n ∧ rs n < 1) :
      Reachable (initSys worldSeed now rs)
  | step {s s' : Sys} : Reachable s → Step s s' → Reachable s'

end

end SnowBrawl
