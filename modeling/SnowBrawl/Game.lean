import SnowBrawl.State

/-!
# `game.ts`: the message handlers

Each handler is modelled up to its first `await`; what it needs afterwards is
the payload of its `Yield.await`.  The handlers read the clock once per
segment (`World.now`), and draw their randomness from a `Draw`.

## The snowball

`serverHandleSnowball` is three segments long:

1. validate, dedup the shot id, append the `snowball` event — `ShotStage.flying`;
2. after the broadcast, search the victim over the cache as it is *then*, write
   the damaged victim, append `hit` — `ShotStage.landed`;
3. after that broadcast, on a kill, record it and append `death` —
   `ShotStage.killed`.

The victim search and the damage write are shared with the bots' `botShoot`
(`bot.ts` copies them, "与 serverHandleSnowball 相同的逻辑"), so they are
defined once here: `contactTime`, `hitSearch`, `landHit`.
-/

namespace SnowBrawl

open Js

/-- What one segment may draw from the environment: the values of successive
`Math.random()` calls, and the value of `crypto.randomUUID()`. -/
structure Draw where
  rand : Stream' ℝ
  uuid : JsString

/-- `Math.random()` returns values in `[0, 1)`. -/
def Draw.Valid (d : Draw) : Prop := ∀ n, 0 ≤ d.rand n ∧ d.rand n < 1

/-- `SHOT_DEDUP_MS`. -/
def shotDedupMs : ℕ := 10000

noncomputable section

/-- The spawn point `{ x: (Math.random() - 0.5) * 40, y: 0, z: … }`. -/
def spawnPoint (d : Draw) : Vec3 := ⟨(d.rand 0 - 0.5) * 40, 0, (d.rand 1 - 0.5) * 40⟩

/-- `serverOnHello(name)`: a fresh snapshot at a random spawn point. -/
def serverOnHello (name : JsValue) (now : ℕ) (d : Draw) : Except JsError PlayerSnapshot := do
  let clamped ← clampName name
  return { id := d.uuid, name := .str clamped, pos := spawnPoint d, rotY := 0,
           vel := Vec3.zero, hp := 100, crouch := false, deadUntil := 0,
           updatedAt := now, pingMs := none }

/-- The snapshot `serverOnHello` makes: the draw's id, at the draw's spawn
point, with full hit points and no respawn time. -/
theorem serverOnHello_ok {name : JsValue} {now : ℕ} {d : Draw} {snap : PlayerSnapshot}
    (h : serverOnHello name now d = .ok snap) :
    snap.id = d.uuid ∧ snap.pos = spawnPoint d ∧ snap.hp = 100 ∧ snap.deadUntil = 0 := by
  unfold serverOnHello at h
  cases hname : clampName name with
  | error e => simp [hname, bind, Except.bind] at h
  | ok clamped =>
      simp only [hname, bind, Except.bind, pure, Except.pure, Except.ok.injEq] at h
      subst h
      exact ⟨rfl, rfl, rfl, rfl⟩

/-- `serverHandleRename(clientId, newRawName)`. -/
def serverHandleRename (clientId : JsString) (newRawName : JsValue) (w : World) :
    World × Yield Unit :=
  match clampName newRawName with
  | .error e => (w, .threw e)
  | .ok newName =>
      if newName.isEmpty then (w, .done)
      else
        let w := { w with
          playersCache := updateIfPresent w.playersCache clientId fun prev =>
            { prev with name := .str newName, updatedAt := w.now } }
        (appendEventInMem (.rename clientId newName) w, .await ())

/-- `serverHandleChat(clientId, name, msg)`. -/
def serverHandleChat (clientId : JsString) (name msg : JsValue) (w : World) :
    World × Yield Unit :=
  match clampChat (msg.get (ascii "text")) with
  | .error e => (w, .threw e)
  | .ok text =>
      if text.isEmpty then (w, .done)
      else (appendEventInMem (.chat clientId name text) w, .await ())

/-- The `pingMs` a `state` message reports, falling back to the previous one. -/
def reportedPing (msg : JsValue) (prev : Option JsonNumber) : Option JsonNumber :=
  (msg.get (ascii "pingMs")).asNumber? <|> prev

/-- `serverHandleState(clientId, name, msg)` up to its `await`: the awaited
continuation is the `PendingState` the respawn branch enqueues afterwards. -/
def serverHandleState (clientId : JsString) (name msg : JsValue) (w : World) (d : Draw) :
    World × Yield PendingState :=
  match isFiniteVec3 (msg.get (ascii "pos")), (msg.get (ascii "rotY")).asFinite? with
  | some pos, some rotY =>
      let vel := (isFiniteVec3 (msg.get (ascii "vel"))).getD Vec3.zero
      let crouch := (msg.get (ascii "crouch")).truthy
      if |pos.x| > mapHalf + 5 ∨ |pos.z| > mapHalf + 5 ∨ |pos.y| > 5000 then (w, .done)
      else
        let now := w.now
        let prev := w.playersCache.get? clientId
        -- 1) frozen while dead; 2) the first state after `deadUntil` revives
        if prev.any (fun p => p.hp ≤ 0 ∧ p.deadUntil > now) then (w, .done)
        else match prev with
          | some p =>
              if p.hp ≤ 0 then
                let spawn := spawnPoint d
                let revived : PlayerSnapshot :=
                  { p with pos := spawn, rotY := rotY, vel := Vec3.zero, hp := 100,
                           crouch := false, deadUntil := 0, updatedAt := now,
                           pingMs := reportedPing msg p.pingMs }
                let w := { w with playersCache := w.playersCache.set clientId revived }
                (appendEventInMem (.respawn clientId spawn 100) w,
                  .await ⟨clientId, revived.pos, revived.rotY, revived.vel, revived.crouch,
                    revived.updatedAt, none⟩)
              else
                let next : PlayerSnapshot :=
                  { id := clientId, name := name, pos := pos, rotY := rotY, vel := vel,
                    hp := p.hp, crouch := crouch, deadUntil := p.deadUntil, updatedAt := now,
                    pingMs := reportedPing msg p.pingMs }
                let w := { w with playersCache := w.playersCache.set clientId next }
                (enqueuePendingState ⟨clientId, pos, rotY, vel, crouch, now, next.pingMs⟩ w, .done)
          | none =>
              let next : PlayerSnapshot :=
                { id := clientId, name := name, pos := pos, rotY := rotY, vel := vel,
                  hp := 100, crouch := crouch, deadUntil := 0, updatedAt := now,
                  pingMs := reportedPing msg none }
              let w := { w with playersCache := w.playersCache.set clientId next }
              (enqueuePendingState ⟨clientId, pos, rotY, vel, crouch, now, next.pingMs⟩ w, .done)
  | _, _ => (w, .done)

/-! ## Shots -/

/-- The sampling step `snowballLifeSec / snowballSimSteps`. -/
def sampleDt : ℝ := snowballLifeSec / snowballSimSteps

/-- The inner loop of the hit search from sample `i`, with `n` samples left:
the time of the first sample inside the target's cylinder, unless a sample
below `y = 0` comes first. -/
def contactFrom (origin v0 target : Vec3) : ℕ → ℕ → Option ℝ
  | _, 0 => none
  | i, n + 1 =>
      let t := i * sampleDt
      let pos := snowballPosAt origin v0 t
      if pos.y < 0 then none
      else if intersectsPlayerCylinder pos target then some t
      else contactFrom origin v0 target (i + 1) n

/-- Samples `0 … snowballSimSteps` of the trajectory against one player. -/
def contactTime (origin v0 target : Vec3) : Option ℝ :=
  contactFrom origin v0 target 0 (snowballSimSteps + 1)

/-- A player the hit search skips: the shooter, and a corpse whose respawn
time has not come. -/
def skipsTarget (shooterId : JsString) (now : ℕ) (p : PlayerSnapshot) : Prop :=
  p.id = shooterId ∨ (p.hp ≤ 0 ∧ p.deadUntil > now)

instance (shooterId : JsString) (now : ℕ) (p : PlayerSnapshot) :
    Decidable (skipsTarget shooterId now p) :=
  inferInstanceAs (Decidable (_ ∨ _))

/-- One iteration of the outer loop: keep the strictly earliest contact. -/
def considerTarget (shooterId : JsString) (now : ℕ) (origin v0 : Vec3)
    (best : Option (PlayerSnapshot × ℝ)) (p : PlayerSnapshot) : Option (PlayerSnapshot × ℝ) :=
  if skipsTarget shooterId now p then best
  else match contactTime origin v0 p.pos with
    | some t => if best.all (fun b => t < b.2) then some (p, t) else best
    | none => best

/-- The hit search over `players` (the cache's values, in order). -/
def hitSearch (shooterId : JsString) (now : ℕ) (origin v0 : Vec3)
    (players : List PlayerSnapshot) : Option (PlayerSnapshot × ℝ) :=
  players.foldl (considerTarget shooterId now origin v0) none

/-- The knockback `vec3Mul(vec3Normalize({ x: v0.x, y: knockUp, z: v0.z }), knockbackForce)`. -/
def knockback (v0 : Vec3) : Vec3 := vec3Mul (vec3Normalize ⟨v0.x, knockUp, v0.z⟩) knockbackForce

/-- The hit points a hit leaves. -/
def damagedHp (hp : ℤ) : ℤ := max 0 (hp - damage)

/-- The victim as the hit writes it. -/
def damagedVictim (victim : PlayerSnapshot) (now : ℕ) : PlayerSnapshot :=
  { victim with
    hp := damagedHp victim.hp
    deadUntil := if damagedHp victim.hp = 0 then now + respawnMs else victim.deadUntil
    updatedAt := now }

/-- Write the damaged victim and append the `hit` event. -/
def landHit (attackerId shotId : JsString) (v0 : Vec3) (victim : PlayerSnapshot)
    (w : World) : World :=
  let w' := { w with playersCache := w.playersCache.set victim.id (damagedVictim victim w.now) }
  appendEventInMem (.hit attackerId victim.id (knockback v0) (damagedHp victim.hp) shotId) w'

/-- The stages of a shot after its first `await`. -/
inductive ShotStage where
  /-- Awaiting the `snowball` broadcast. -/
  | flying (shotId : JsString) (origin dir : Vec3)
  /-- Awaiting the `hit` broadcast; the victim as it was read. -/
  | landed (shotId : JsString) (victim : PlayerSnapshot) (newHp : ℤ) (respawnAt : ℕ)
  /-- Awaiting the `death` broadcast. -/
  | killed (landedAt : ℕ)

/-- The second segment of a shot: search, and on a victim land the hit. -/
def resolveShot (shooterId shotId : JsString) (origin dir : Vec3) (w : World) :
    Option (World × ShotStage) :=
  let v0 := vec3Mul dir snowballSpeed
  (hitSearch shooterId w.now origin v0 w.playersCache.values).map fun best =>
    (landHit shooterId shotId v0 best.1 w,
      .landed shotId best.1 (damagedHp best.1.hp) (w.now + respawnMs))

/-- `seenShotBefore(shotId)`: whether a live entry exists, and the table after
the call (an entry is written only when the shot is new). -/
def seenShotBefore (shotId : JsString) (now : ℕ) (seen : Map JsString ℕ) :
    Bool × Map JsString ℕ :=
  match seen.get? shotId with
  | some exp => if exp ≠ 0 ∧ exp > now then (true, seen)
      else (false, seen.set shotId (now + shotDedupMs))
  | none => (false, seen.set shotId (now + shotDedupMs))

/-- The purge timer: drop the entries whose expiry has come. -/
def purgeSeenShots (w : World) : World :=
  { w with seenShots := w.seenShots.filter fun _ exp => !decide (exp ≤ w.now) }

/-- `serverHandleSnowball(clientId, msg)` up to its first `await`. -/
def serverHandleSnowball (clientId : JsString) (msg : JsValue) (w : World) (d : Draw) :
    World × Yield ShotStage :=
  match isFiniteVec3 (msg.get (ascii "dir")) with
  | none => (w, .done)
  | some rawDir =>
      let shotId := (isUuidLike (msg.get (ascii "id"))).getD d.uuid
      match seenShotBefore shotId w.now w.seenShots with
      | (true, _) => (w, .done)
      | (false, seen) =>
          let w := { w with seenShots := seen }
          match w.playersCache.get? clientId with
          | none => (w, .done)
          | some snap =>
              let dir := norm rawDir
              let origin : Vec3 := ⟨snap.pos.x, snap.pos.y + 1.3, snap.pos.z⟩
              (appendEventInMem (.snowball shotId clientId origin dir snowballSpeed) w,
                .await (.flying shotId origin dir))

/-- The `attackerName` of a player's kill: `attacker?.name || "Unknown"`. -/
def attackerNameOf (w : World) (clientId : JsString) : JsValue :=
  (((w.playersCache.get? clientId).map PlayerSnapshot.name).getD .undefined).orIfFalsy
    (.str (ascii "Unknown"))

/-- The segments of a player's shot after the first `await`. -/
def resumeShot (clientId : JsString) (w : World) (d : Draw) :
    ShotStage → World × Yield ShotStage
  | .flying shotId origin dir =>
      match resolveShot clientId shotId origin dir w with
      | some (w', stage) => (w', .await stage)
      | none => (w, .done)
  | .landed shotId victim newHp respawnAt =>
      if newHp = 0 then
        let attackerName := attackerNameOf w clientId
        let w := { w with
          kills := w.kills ++ [⟨d.uuid, clientId, attackerName, victim.id, victim.name, shotId, w.now⟩] }
        (appendEventInMem (.death victim.id victim.name clientId attackerName shotId respawnAt) w,
          .await (.killed w.now))
      else (w, .done)
  | .killed _ => (w, .done)

end

end SnowBrawl
