import SnowBrawl.Session

/-!
# The invariant of the player cache

About a dozen code paths write `playersCache`.  `serverOnHello` and `join` add
a player.  `serverHandleState` writes an entry in its freeze, revive and move
branches.  A shot writes its victim directly, and then through the `hit` and
`death` events.  Besides these there are `respawn`, `rename`, `ping`,
`initBots`, a bot's respawn, a bot's move, and the write that ends a bot's
visit.  This module proves that all of them keep every entry a snapshot the
game can show (`EntryOk`):

* its hit points are one of `0, 10, …, 100`;
* its `deadUntil` is set exactly while it has no hit points;
* its position is inside the box `serverHandleState` accepts.

Positions, velocities and headings are reals in this model, so they are finite
by construction (see `Protocol`).

## Design notes

The invariant has three parts, and each is needed by the others' proofs.

* **The cache** (`CacheOk`): every entry is valid and is stored under its own
  `id`.  The shot writes its victim under `victim.id`, so without the second
  half it could write to another key.
* **The bots** (`WorldOk.bots`): a bot's position is inside the box.  Every
  move of a bot lands in its cache entry.
* **The suspended tasks** (`Task.Ok`): a visit of `updateBots` writes back the
  snapshot it read before its `await`, a `hello` caches the snapshot
  `serverOnHello` made, and a kill's `death` sets the respawn time computed at
  the hit.

`EventOk` says when `applyEventToCache` keeps the cache valid.  A `hit` event
sets the hit points its victim already has: the shot writes the victim first
and appends the event after.

## Main results

* `SysInv.step` — every transition of the scheduler keeps the invariant.
* `reachable_cache_entries_valid` — every entry of the cache in a reachable
  state is valid.
-/

namespace SnowBrawl

open Js

/-! ## Valid entries -/

/-- The hit points a snapshot can have. -/
def hpValues : Finset ℤ := {0, 10, 20, 30, 40, 50, 60, 70, 80, 90, 100}

/-- Inside the box `serverHandleState` accepts: `MAP_HALF + 5` either way
across, `5000` up or down. -/
def InBounds (p : Vec3) : Prop := |p.x| ≤ mapHalf + 5 ∧ |p.z| ≤ mapHalf + 5 ∧ |p.y| ≤ 5000

/-- A snapshot the game can show. -/
structure EntryOk (e : PlayerSnapshot) : Prop where
  hp_mem : e.hp ∈ hpValues
  deadUntil_ne_zero_iff : e.deadUntil ≠ 0 ↔ e.hp = 0
  pos : InBounds e.pos

/-- Every entry of the cache is valid and stored under its own id. -/
def CacheOk (cache : Map JsString PlayerSnapshot) : Prop :=
  cache.All fun j e => EntryOk e ∧ e.id = j

theorem damagedHp_mem : ∀ hp ∈ hpValues, damagedHp hp ∈ hpValues := by decide

theorem hp_nonneg : ∀ hp ∈ hpValues, 0 ≤ hp := by decide

theorem damagedHp_le {hp : ℤ} (h : hp ∈ hpValues) : damagedHp hp ≤ hp := by
  have := hp_nonneg hp h
  unfold damagedHp damage
  omega

/-- A snapshot with full health and no respawn time, inside the box. -/
theorem entryOk_of_alive {e : PlayerSnapshot} (hhp : e.hp = 100) (hdead : e.deadUntil = 0)
    (hpos : InBounds e.pos) : EntryOk e where
  hp_mem := by rw [hhp]; decide
  deadUntil_ne_zero_iff := by rw [hhp, hdead]; decide
  pos := hpos

/-- The victim as the shot writes it is valid: a kill sets the respawn time,
and a survivor keeps its unset one. -/
theorem EntryOk.damagedVictim {victim : PlayerSnapshot} (h : EntryOk victim) (now : ℕ) :
    EntryOk (damagedVictim victim now) where
  hp_mem := damagedHp_mem _ h.hp_mem
  deadUntil_ne_zero_iff := by
    simp only [SnowBrawl.damagedVictim]
    split_ifs with hzero
    · simp [hzero, respawnMs]
    · -- a survivor had more than one shot's worth of hit points, so no respawn time
      have halive : victim.hp ≠ 0 := by
        intro h0
        apply hzero
        simp [damagedHp, h0, damage]
      have hdead : victim.deadUntil = 0 := by
        by_contra hne
        exact halive (h.deadUntil_ne_zero_iff.mp hne)
      simp [hdead, hzero]
  pos := h.pos

/-! ## Positions -/

theorem abs_clampTo_le {half : ℝ} (h : 0 ≤ half) (v : ℝ) : |clampTo half v| ≤ half := by
  unfold clampTo
  rw [abs_le]
  constructor
  · exact le_max_left _ _
  · exact max_le (by linarith) (min_le_left _ _)

/-- A point on the terrain with coordinates inside the map is inside the box. -/
theorem inBounds_on_terrain (worldSeed : ℕ) {x z : ℝ} (hx : |x| ≤ mapHalf) (hz : |z| ≤ mapHalf) :
    InBounds ⟨x, terrainHeight worldSeed x z, z⟩ := by
  obtain ⟨hlo, hhi⟩ := terrainHeight_bounds worldSeed x z
  refine ⟨?_, ?_, ?_⟩
  · dsimp only; linarith
  · dsimp only; linarith
  · dsimp only; rw [abs_le]; constructor <;> linarith

theorem inBounds_getRandomSpawnPos (worldSeed : ℕ) (rs : Stream' ℝ) :
    InBounds (getRandomSpawnPos worldSeed rs).1 :=
  inBounds_on_terrain worldSeed (abs_clampTo_le (by norm_num [mapHalf]) _)
    (abs_clampTo_le (by norm_num [mapHalf]) _)

/-- A move leaves a bot inside the box: it walks to a clamped point on the
terrain, or stays. -/
theorem inBounds_moveBot (worldSeed now : ℕ) {bot : Bot} (h : InBounds bot.pos) (rs : Stream' ℝ) :
    InBounds (moveBot worldSeed now bot rs).1.pos := by
  unfold moveBot
  -- refreshing the target leaves the position where it was
  have hwalk (x z : ℝ) : InBounds ⟨clampTo mapHalf x, terrainHeight worldSeed (clampTo mapHalf x)
      (clampTo mapHalf z), clampTo mapHalf z⟩ :=
    inBounds_on_terrain worldSeed (abs_clampTo_le (by norm_num [mapHalf]) _)
      (abs_clampTo_le (by norm_num [mapHalf]) _)
  by_cases hc : bot.targetPos.isNone = true ∨ (now : ℤ) - bot.moveTimer > moveInterval
  · -- a new target: the bot walks towards it, or stops
    simp only [hc, if_true]
    split_ifs
    · exact hwalk _ _
    · exact h
  · simp only [hc, if_false]
    split
    · split_ifs
      · exact hwalk _ _
      · exact h
    · exact h

/-- `serverOnHello` and the revive draw a spawn point within 20 of the centre. -/
theorem inBounds_spawnPoint {d : Draw} (hd : d.Valid) : InBounds (spawnPoint d) := by
  obtain ⟨h0, h0'⟩ := hd 0
  obtain ⟨h1, h1'⟩ := hd 1
  refine ⟨?_, ?_, ?_⟩ <;> simp only [spawnPoint, mapHalf, abs_le] <;> constructor <;> linarith

theorem entryOk_of_serverOnHello {name : JsValue} {now : ℕ} {d : Draw} (hd : d.Valid)
    {snap : PlayerSnapshot} (h : serverOnHello name now d = .ok snap) : EntryOk snap := by
  unfold serverOnHello at h
  cases hc : clampName name with
  | error e => simp [hc] at h
  | ok n =>
      simp only [hc] at h
      cases h
      exact entryOk_of_alive rfl rfl (inBounds_spawnPoint hd)

/-! ## Writes to the cache -/

/-- A snapshot inside the box with the hit points and respawn time of a valid
one is valid. -/
theorem EntryOk.of_hp {e e' : PlayerSnapshot} (h : EntryOk e) (hhp : e'.hp = e.hp)
    (hdead : e'.deadUntil = e.deadUntil) (hpos : InBounds e'.pos) : EntryOk e' where
  hp_mem := hhp ▸ h.hp_mem
  deadUntil_ne_zero_iff := hhp ▸ hdead ▸ h.deadUntil_ne_zero_iff
  pos := hpos

/-- A snapshot that keeps the hit points, respawn time and position of a valid
one is valid. -/
theorem EntryOk.of_keeps {e e' : PlayerSnapshot} (h : EntryOk e) (hhp : e'.hp = e.hp)
    (hdead : e'.deadUntil = e.deadUntil) (hpos : e'.pos = e.pos) : EntryOk e' :=
  h.of_hp hhp hdead (hpos ▸ h.pos)

namespace CacheOk

variable {cache : Map JsString PlayerSnapshot}

theorem entry (h : CacheOk cache) {j : JsString} {e : PlayerSnapshot} (he : cache.get? j = some e) :
    EntryOk e ∧ e.id = j :=
  h j e he

/-- An enumerated snapshot is valid and stored under its id. -/
theorem of_mem_values (h : CacheOk cache) {e : PlayerSnapshot} (he : e ∈ cache.values) :
    EntryOk e ∧ cache.get? e.id = some e := by
  obtain ⟨j, hj, hok, hid⟩ := Map.All.of_mem_values h he
  subst hid
  exact ⟨hok, hj⟩

theorem set (h : CacheOk cache) {j : JsString} {e : PlayerSnapshot} (he : EntryOk e)
    (hid : e.id = j) : CacheOk (cache.set j e) :=
  Map.All.set h ⟨he, hid⟩

theorem delete (h : CacheOk cache) (j : JsString) : CacheOk (cache.delete j) :=
  Map.All.delete h j

theorem filter (h : CacheOk cache) (p : JsString → PlayerSnapshot → Bool) :
    CacheOk (cache.filter p) :=
  Map.All.filter h p

/-- An update of a present entry that keeps it valid and keeps its id. -/
theorem updateIfPresent (h : CacheOk cache) {j : JsString} {f : PlayerSnapshot → PlayerSnapshot}
    (hf : ∀ e, cache.get? j = some e → EntryOk e → (f e).id = e.id → EntryOk (f e))
    (hid : ∀ e, (f e).id = e.id) : CacheOk (SnowBrawl.updateIfPresent cache j f) := by
  unfold SnowBrawl.updateIfPresent
  split
  · next e he =>
      obtain ⟨hok, hkey⟩ := h.entry he
      exact h.set (hf e he hok (hid e)) ((hid e).trans hkey)
  · exact h

/-- An update of a present entry that keeps its hit points, respawn time,
position and id. -/
theorem updateIfPresent_of_keeps (h : CacheOk cache) {j : JsString}
    {f : PlayerSnapshot → PlayerSnapshot}
    (hf : ∀ e, (f e).hp = e.hp ∧ (f e).deadUntil = e.deadUntil ∧ (f e).pos = e.pos ∧ (f e).id = e.id) :
    CacheOk (SnowBrawl.updateIfPresent cache j f) :=
  h.updateIfPresent (fun e _ hok _ => hok.of_keeps (hf e).1 (hf e).2.1 (hf e).2.2.1)
    fun e => (hf e).2.2.2

end CacheOk

/-- When `applyEventToCache` keeps the cache valid: a joining snapshot is
valid, a moved player stays inside the box, a respawn brings 100 hit points at a
point inside the box, a hit sets the hit points its victim already has, and a
death sets a respawn time. -/
def EventOk (cache : Map JsString PlayerSnapshot) : EventBody → Prop
  | .join player => EntryOk player
  | .state _ pos _ _ _ => InBounds pos
  | .respawn _ pos hp => InBounds pos ∧ hp = 100
  | .hit _ victimId _ victimHp _ => ∀ e, cache.get? victimId = some e → e.hp = victimHp
  | .death _ _ _ _ _ respawnAt => respawnAt ≠ 0
  | .leave .. | .chat .. | .snowball .. | .rename .. => True

theorem CacheOk.applyEventToCache {cache : Map JsString PlayerSnapshot} (h : CacheOk cache)
    {ev : WorldEvent} (hev : EventOk cache ev.body) :
    CacheOk (SnowBrawl.applyEventToCache ev cache) := by
  obtain ⟨body, seq, time⟩ := ev
  cases body with
  | join player => exact h.set hev rfl
  | leave playerId _ => exact h.delete playerId
  | chat _ _ _ => exact h
  | snowball _ _ _ _ _ => exact h
  | state playerId pos rotY vel crouch =>
      exact h.updateIfPresent (fun _ _ hok _ => ⟨hok.hp_mem, hok.deadUntil_ne_zero_iff, hev⟩)
        fun _ => rfl
  | rename playerId name => exact h.updateIfPresent_of_keeps fun _ => ⟨rfl, rfl, rfl, rfl⟩
  | respawn playerId pos hp =>
      exact h.updateIfPresent (fun _ _ _ _ => entryOk_of_alive hev.2 rfl hev.1) fun _ => rfl
  | hit attackerId victimId impulse victimHp shotId =>
      exact h.updateIfPresent (fun e he hok _ => hok.of_keeps (hev e he).symm rfl rfl) fun _ => rfl
  | death victimId _ _ _ _ respawnAt =>
      refine h.updateIfPresent (fun e _ hok _ => ⟨show (0 : ℤ) ∈ hpValues by decide, ?_, hok.pos⟩)
        fun _ => rfl
      exact ⟨fun _ => rfl, fun _ => hev⟩

/-! ## The world -/

/-- The invariant of the server's memory: the cache, and the bots' positions. -/
structure WorldOk (w : World) : Prop where
  cache : CacheOk w.playersCache
  bots : w.bots.All fun _ b => InBounds b.pos

namespace WorldOk

variable {w : World}

theorem with_cache (h : WorldOk w) {cache : Map JsString PlayerSnapshot} (hc : CacheOk cache) :
    WorldOk { w with playersCache := cache } :=
  ⟨hc, h.bots⟩

theorem appendEventInMem (h : WorldOk w) {body : EventBody} (hev : EventOk w.playersCache body) :
    WorldOk (SnowBrawl.appendEventInMem body w) :=
  ⟨h.cache.applyEventToCache hev, h.bots⟩

theorem enqueuePendingState (h : WorldOk w) (p : PendingState) :
    WorldOk (SnowBrawl.enqueuePendingState p w) :=
  ⟨h.cache, h.bots⟩

theorem setClientObj (h : WorldOk w) (cid : JsString) (c : WSClient) :
    WorldOk (SnowBrawl.setClientObj cid c w) :=
  ⟨h.cache, h.bots⟩

theorem updateConn (h : WorldOk w) (k : ℕ) (f : Conn → Conn) : WorldOk (SnowBrawl.updateConn k f w) := by
  unfold SnowBrawl.updateConn
  split
  · exact ⟨h.cache, h.bots⟩
  · exact h

end WorldOk

/-! ## Shots -/

/-- What a suspended shot needs: a kill's respawn time is set. -/
def ShotStage.Ok : ShotStage → Prop
  | .landed _ _ _ respawnAt => respawnAt ≠ 0
  | .flying .. => True
  | .killed _ => True

/-- The hit search keeps a player of the list that it does not skip. -/
theorem hitSearch_spec {shooterId : JsString} {now : ℕ} {origin v0 : Vec3}
    {players : List PlayerSnapshot} {best : PlayerSnapshot × ℝ}
    (h : hitSearch shooterId now origin v0 players = some best) :
    best.1 ∈ players ∧ ¬ skipsTarget shooterId now best.1 := by
  -- the invariant of the fold: what it keeps is a visited player it does not skip
  suffices key : ∀ (rest : List PlayerSnapshot) (acc : Option (PlayerSnapshot × ℝ)),
      (∀ b ∈ acc, b.1 ∈ players ∧ ¬ skipsTarget shooterId now b.1) → (∀ p ∈ rest, p ∈ players) →
      ∀ b ∈ rest.foldl (considerTarget shooterId now origin v0) acc,
        b.1 ∈ players ∧ ¬ skipsTarget shooterId now b.1 from
    key players none (by simp) (fun _ hp => hp) best h
  intro rest
  induction rest with
  | nil => exact fun acc hacc _ => hacc
  | cons p rest ih =>
      intro acc hacc hsub
      refine ih _ (fun b hb => ?_) fun q hq => hsub q (List.mem_cons_of_mem p hq)
      unfold considerTarget at hb
      split_ifs at hb with hskip
      · exact hacc b hb
      · split at hb
        · split_ifs at hb
          · rw [Option.mem_def, Option.some.injEq] at hb
            subst hb
            exact ⟨hsub p List.mem_cons_self, hskip⟩
          · exact hacc b hb
        · exact hacc b hb

namespace WorldOk

variable {w : World}

/-- The shot writes a valid victim, and its `hit` event sets the hit points it
has just written. -/
theorem landHit (h : WorldOk w) {victim : PlayerSnapshot} (hv : victim ∈ w.playersCache.values)
    (attackerId shotId : JsString) (v0 : Vec3) :
    WorldOk (SnowBrawl.landHit attackerId shotId v0 victim w) := by
  obtain ⟨hok, -⟩ := h.cache.of_mem_values hv
  have hset : CacheOk (w.playersCache.set victim.id (damagedVictim victim w.now)) :=
    h.cache.set (hok.damagedVictim w.now) rfl
  unfold SnowBrawl.landHit
  refine (h.with_cache hset).appendEventInMem ?_
  intro e he
  rw [Map.get?_set_self, Option.some.injEq] at he
  rw [← he]
  rfl

theorem resolveShot (h : WorldOk w) {shooterId shotId : JsString} {origin dir : Vec3}
    {r : World × ShotStage} (hr : SnowBrawl.resolveShot shooterId shotId origin dir w = some r) :
    WorldOk r.1 ∧ r.2.Ok := by
  unfold SnowBrawl.resolveShot at hr
  obtain ⟨best, hbest, rfl⟩ := Option.map_eq_some_iff.mp hr
  refine ⟨h.landHit (hitSearch_spec hbest).1 _ _ _, ?_⟩
  show w.now + respawnMs ≠ 0
  simp [respawnMs]

theorem serverHandleSnowball (h : WorldOk w) (clientId : JsString) (msg : JsValue) (d : Draw) :
    WorldOk (SnowBrawl.serverHandleSnowball clientId msg w d).1 ∧
      ∀ s ∈ (SnowBrawl.serverHandleSnowball clientId msg w d).2.toList, s.Ok := by
  unfold SnowBrawl.serverHandleSnowball
  split
  · exact ⟨h, by simp [Yield.toList]⟩
  · dsimp only
    split
    · exact ⟨h, by simp [Yield.toList]⟩
    · split
      · exact ⟨⟨h.cache, h.bots⟩, by simp [Yield.toList]⟩
      · refine ⟨?_, by simp [Yield.toList, ShotStage.Ok]⟩
        apply WorldOk.appendEventInMem
        · exact ⟨h.cache, h.bots⟩
        · trivial

theorem resumeShot (h : WorldOk w) {stage : ShotStage} (hs : stage.Ok) (clientId : JsString)
    (d : Draw) :
    WorldOk (SnowBrawl.resumeShot clientId w d stage).1 ∧
      ∀ s ∈ (SnowBrawl.resumeShot clientId w d stage).2.toList, s.Ok := by
  cases stage with
  | flying shotId origin dir =>
      simp only [SnowBrawl.resumeShot]
      split
      · next w' stage' hr =>
          obtain ⟨hw', hstage'⟩ := h.resolveShot hr
          exact ⟨hw', by simpa [Yield.toList] using hstage'⟩
      · exact ⟨h, by simp [Yield.toList]⟩
  | landed shotId victim newHp respawnAt =>
      simp only [SnowBrawl.resumeShot]
      split_ifs
      · refine ⟨?_, by simp [Yield.toList, ShotStage.Ok]⟩
        apply WorldOk.appendEventInMem
        · exact ⟨h.cache, h.bots⟩
        · exact hs
      · exact ⟨h, by simp [Yield.toList]⟩
  | killed _ => exact ⟨h, by simp [SnowBrawl.resumeShot, Yield.toList]⟩

end WorldOk

/-! ## Messages -/

/-- What a suspended `onmessage` needs: a `hello` caches a valid snapshot, and
a shot in progress carries its respawn time. -/
def MessageStage.Ok : MessageStage → Prop
  | .hello _ snap => EntryOk snap
  | .shooting _ stage => stage.Ok
  | .decoding _ | .joined | .respawned _ | .broadcasting => True

theorem Yield.forall_mem_toList_map {σ τ : Type} {P : τ → Prop} {f : σ → τ} {y : Yield σ}
    (h : ∀ k ∈ y.toList, P (f k)) : ∀ s ∈ (y.map f).toList, P s := by
  cases y with
  | await k => simpa [Yield.map, Yield.toList] using h
  | done => simp [Yield.map, Yield.toList]
  | threw e => simp [Yield.map, Yield.toList]

/-- The position a `state` message passes the bounds check with. -/
theorem inBounds_of_not_out {pos : Vec3}
    (h : ¬ (|pos.x| > mapHalf + 5 ∨ |pos.z| > mapHalf + 5 ∨ |pos.y| > 5000)) : InBounds pos := by
  simp only [not_or, gt_iff_lt, not_lt] at h
  exact h

namespace WorldOk

variable {w : World}

/-- Each branch of `serverHandleState` writes a valid entry under the sender's
id: the revive puts it at a spawn point with full health, a move keeps its hit
points and respawn time, and a first state starts it at full health. -/
theorem serverHandleState (h : WorldOk w) (clientId : JsString) (name msg : JsValue) {d : Draw}
    (hd : d.Valid) : WorldOk (SnowBrawl.serverHandleState clientId name msg w d).1 := by
  unfold SnowBrawl.serverHandleState
  split
  · next pos rotY _ _ =>
      dsimp only
      split_ifs with hout hfrozen
      · exact h
      · exact h
      · have hpos := inBounds_of_not_out hout
        split
        · next p hp =>
            obtain ⟨hok, hid⟩ := h.cache.entry hp
            split_ifs with hdead
            · -- the revive, then its `respawn` event
              apply WorldOk.appendEventInMem
              · exact h.with_cache (h.cache.set (entryOk_of_alive rfl rfl (inBounds_spawnPoint hd)) hid)
              · exact ⟨inBounds_spawnPoint hd, rfl⟩
            · apply WorldOk.enqueuePendingState
              exact h.with_cache (h.cache.set (hok.of_hp rfl rfl hpos) rfl)
        · apply WorldOk.enqueuePendingState
          exact h.with_cache (h.cache.set (entryOk_of_alive rfl rfl hpos) rfl)
  · exact h

theorem serverHandleChat (h : WorldOk w) (clientId : JsString) (name msg : JsValue) :
    WorldOk (SnowBrawl.serverHandleChat clientId name msg w).1 := by
  unfold SnowBrawl.serverHandleChat
  split
  · exact h
  · split_ifs
    · exact h
    · exact h.appendEventInMem trivial

theorem serverHandleRename (h : WorldOk w) (clientId : JsString) (newRawName : JsValue) :
    WorldOk (SnowBrawl.serverHandleRename clientId newRawName w).1 := by
  unfold SnowBrawl.serverHandleRename
  split
  · exact h
  · split_ifs
    · exact h
    · apply WorldOk.appendEventInMem
      · exact h.with_cache (h.cache.updateIfPresent_of_keeps fun _ => ⟨rfl, rfl, rfl, rfl⟩)
      · trivial

/-- The `switch` of a registered connection keeps the invariant, and what it
suspends on is a valid stage. -/
theorem dispatch (h : WorldOk w) (cid : JsString) (c : WSClient) (m : JsValue) {d : Draw}
    (hd : d.Valid) :
    WorldOk (SnowBrawl.dispatch cid c m w d).1 ∧
      ∀ s ∈ (SnowBrawl.dispatch cid c m w d).2.toList, s.Ok := by
  unfold SnowBrawl.dispatch
  dsimp only
  split_ifs with hping hchat hstate hfreq hsnowball hrename
  · -- a ping refreshes `updatedAt` only
    exact ⟨h.with_cache (h.cache.updateIfPresent_of_keeps fun _ => ⟨rfl, rfl, rfl, rfl⟩),
      by simp [Yield.toList]⟩
  · exact ⟨h.serverHandleChat cid c.name m, Yield.forall_mem_toList_map fun _ _ => trivial⟩
  · exact ⟨(h.setClientObj cid _).serverHandleState cid _ m hd,
      Yield.forall_mem_toList_map fun _ _ => trivial⟩
  · exact ⟨h.setClientObj cid _, by simp [Yield.toList]⟩
  · obtain ⟨hw, hstages⟩ := h.serverHandleSnowball cid m d
    exact ⟨hw, Yield.forall_mem_toList_map hstages⟩
  · exact ⟨(h.setClientObj cid _).serverHandleRename cid _,
      Yield.forall_mem_toList_map fun _ _ => trivial⟩
  · exact ⟨h, by simp [Yield.toList]⟩

/-- A frame keeps the invariant; a `hello` suspends with a valid snapshot. -/
theorem onMessage (h : WorldOk w) (k : ℕ) (msg : Option JsValue) {d : Draw} (hd : d.Valid) :
    WorldOk (SnowBrawl.onMessage k msg w d).1 ∧
      ∀ s ∈ (SnowBrawl.onMessage k msg w d).2.toList, s.Ok := by
  unfold SnowBrawl.onMessage
  rcases msg with _ | m
  · exact ⟨h, by simp [Yield.toList]⟩
  by_cases htruthy : (!m.truthy) = true
  · simp only [htruthy, if_true]
    exact ⟨h, by simp [Yield.toList]⟩
  simp only [htruthy, Bool.false_eq_true, if_false]
  split
  · -- no client yet: only a `hello` goes on, to `serverOnHello`
    split_ifs
    · split
      · next snap hsnap =>
          refine ⟨h, ?_⟩
          simpa [Yield.toList, MessageStage.Ok] using entryOk_of_serverOnHello hd hsnap
      · exact ⟨h, by simp [Yield.toList]⟩
    · exact ⟨h, by simp [Yield.toList]⟩
  · split
    · split_ifs
      · exact (h.setClientObj _ _).dispatch _ _ _ hd
      · exact ⟨(h.setClientObj _ _).updateConn _ _, by simp [Yield.toList]⟩
    · exact ⟨h, by simp [Yield.toList]⟩

/-- Registering a client caches the snapshot of its `hello`. -/
theorem registerClient (h : WorldOk w) (k now : ℕ) {snap : PlayerSnapshot} (hsnap : EntryOk snap) :
    WorldOk (SnowBrawl.registerClient k now snap w) := by
  unfold SnowBrawl.registerClient
  have hconn := h.updateConn k fun conn => { conn with client := some snap.id }
  apply WorldOk.appendEventInMem
  · exact ⟨hconn.cache.set hsnap rfl, hconn.bots⟩
  · exact hsnap

/-- Every later segment of `onmessage` keeps the invariant. -/
theorem resumeMessage (h : WorldOk w) (k : ℕ) {d : Draw} (hd : d.Valid) {stage : MessageStage}
    (hs : stage.Ok) :
    WorldOk (SnowBrawl.resumeMessage k w d stage).1 ∧
      ∀ s ∈ (SnowBrawl.resumeMessage k w d stage).2.toList, s.Ok := by
  cases stage with
  | decoding msg => exact h.onMessage k msg hd
  | hello now snap =>
      exact ⟨h.registerClient k now hs, by simp [SnowBrawl.resumeMessage, Yield.toList, MessageStage.Ok]⟩
  | joined => exact ⟨⟨h.cache, h.bots⟩, by simp [SnowBrawl.resumeMessage, Yield.toList]⟩
  | respawned pending =>
      exact ⟨h.enqueuePendingState pending, by simp [SnowBrawl.resumeMessage, Yield.toList]⟩
  | shooting clientId stage =>
      obtain ⟨hw, hstages⟩ := h.resumeShot hs clientId d
      exact ⟨hw, Yield.forall_mem_toList_map hstages⟩
  | broadcasting => exact ⟨h, by simp [SnowBrawl.resumeMessage, Yield.toList]⟩

theorem onClose (h : WorldOk w) (k : ℕ) : WorldOk (SnowBrawl.onClose k w).1 := by
  unfold SnowBrawl.onClose
  have hconn := h.updateConn k fun conn => { conn with accepting := false, closed := true }
  split
  · exact hconn
  · apply WorldOk.appendEventInMem
    · exact ⟨hconn.cache, hconn.bots⟩
    · trivial

end WorldOk

/-! ## Bots -/

/-- What a suspended visit of bot `id` needs: the snapshot it read is a valid
entry of that bot, and a shot in progress carries its respawn time. -/
def BotStage.Ok (id : JsString) : BotStage → Prop
  | .respawned => True
  | .shooting snapshot stage => (EntryOk snapshot ∧ snapshot.id = id) ∧ stage.Ok
  | .shot snapshot => EntryOk snapshot ∧ snapshot.id = id

/-- What a suspended task needs. -/
def Task.Ok : Task → Prop
  | .message _ stage => stage.Ok
  | .closing _ => True
  | .bots _ id _ stage => stage.Ok id

theorem forall_mem_botTask {now : ℕ} {r : Option (JsString × List JsString × BotStage)}
    (h : ∀ v ∈ r, v.2.2.Ok v.1) : ∀ t ∈ botTask now r, t.Ok := by
  cases r with
  | none => simp [botTask]
  | some v => simpa [botTask, Task.Ok] using h v rfl

namespace WorldOk

variable {w : World}

theorem bot (h : WorldOk w) {id : JsString} {bot : Bot} (hb : w.bots.get? id = some bot) :
    InBounds bot.pos :=
  h.bots id bot hb

theorem setLastShotAt (h : WorldOk w) (id : JsString) (t : ℝ) :
    WorldOk (SnowBrawl.setLastShotAt id t w) := by
  unfold SnowBrawl.setLastShotAt
  split
  · next bot hb =>
      have hpos : InBounds bot.pos := h.bot hb
      exact ⟨h.cache, Map.All.set h.bots hpos⟩
  · exact h

/-- The final write of a visit puts the bot's position into the snapshot it
read. -/
theorem finishVisit (h : WorldOk w) (now : ℕ) {id : JsString} {snapshot : PlayerSnapshot}
    (hs : EntryOk snapshot ∧ snapshot.id = id) : WorldOk (SnowBrawl.finishVisit now id snapshot w) := by
  unfold SnowBrawl.finishVisit
  split
  · next bot hb =>
      apply WorldOk.enqueuePendingState
      exact h.with_cache (h.cache.set (hs.1.of_hp rfl rfl (h.bot hb)) hs.2)
  · exact h

/-- A bot's move keeps it, and its cache entry, inside the box. -/
theorem moveBot (h : WorldOk w) (now : ℕ) {id : JsString} {bot : Bot}
    (hb : w.bots.get? id = some bot) (rs : Stream' ℝ) :
    WorldOk { w with
      bots := w.bots.set id (SnowBrawl.moveBot w.worldSeed now bot rs).1
      playersCache := moveBotInCache id (SnowBrawl.moveBot w.worldSeed now bot rs).1.pos
        w.playersCache } := by
  have hpos := inBounds_moveBot w.worldSeed now (h.bot hb) rs
  exact ⟨h.cache.updateIfPresent (fun e _ hok _ => hok.of_hp rfl rfl hpos) fun _ => rfl,
    Map.All.set h.bots hpos⟩

/-- **A run of `updateBots` up to its first `await` keeps the invariant.**  A
respawn writes a full-health entry at a spawn point, a move keeps the entry
inside the box, and a visit that shoots suspends with the snapshot it read. -/
theorem scanBots (now : ℕ) (ids : List JsString) :
    ∀ (w : World) (d : Draw), WorldOk w →
      WorldOk (SnowBrawl.scanBots now d ids w).1 ∧
        ∀ v ∈ (SnowBrawl.scanBots now d ids w).2, v.2.2.Ok v.1 := by
  -- induction on the bots left to visit; the world and the draws change on the way
  induction ids with
  | nil => exact fun w _ h => ⟨h, by simp [SnowBrawl.scanBots]⟩
  | cons id rest ih =>
      intro w d h
      unfold SnowBrawl.scanBots
      split
      · next bot snapshot hb hsnap =>
          have hentry := h.cache.entry hsnap
          split_ifs with hrespawn hdead
          · -- the respawn, then its `respawn` event
            have hspawn := inBounds_getRandomSpawnPos w.worldSeed d.rand
            refine ⟨?_, by simp [BotStage.Ok]⟩
            apply WorldOk.appendEventInMem
            · exact ⟨h.cache.set (entryOk_of_alive rfl rfl hspawn) hentry.2,
                Map.All.set h.bots hspawn⟩
            · exact ⟨hspawn, rfl⟩
          · exact ih w d h
          · -- a live bot moves, then shoots at the nearest player or ends its visit
            have hmoved := h.moveBot now hb d.rand
            have hpos := inBounds_moveBot w.worldSeed now (h.bot hb) d.rand
            dsimp only
            split_ifs
            · split
              · refine ⟨?_, by simp [botShoot, BotStage.Ok, ShotStage.Ok, hentry]⟩
                apply WorldOk.appendEventInMem
                · exact ⟨hmoved.cache, Map.All.set hmoved.bots hpos⟩
                · trivial
              · exact ih _ _ ((hmoved.setLastShotAt id now).finishVisit now hentry)
            · exact ih _ _ (hmoved.finishVisit now hentry)
      · exact ih w d h

theorem resumeBotShot (h : WorldOk w) (id : JsString) {shot : ShotStage} (hs : shot.Ok) :
    WorldOk (SnowBrawl.resumeBotShot id w shot).1 ∧
      ∀ s ∈ (SnowBrawl.resumeBotShot id w shot).2, s.Ok := by
  cases shot with
  | flying shotId origin dir =>
      simp only [SnowBrawl.resumeBotShot]
      split
      · next w' stage' hr =>
          obtain ⟨hw', hstage'⟩ := h.resolveShot hr
          exact ⟨hw', by simpa using hstage'⟩
      · exact ⟨h.setLastShotAt id w.now, by simp⟩
  | landed shotId victim newHp respawnAt =>
      simp only [SnowBrawl.resumeBotShot]
      split_ifs
      · exact ⟨h.appendEventInMem hs, by simp [ShotStage.Ok]⟩
      · exact ⟨h.setLastShotAt id _, by simp⟩
  | killed landedAt => exact ⟨h.setLastShotAt id landedAt, by simp [SnowBrawl.resumeBotShot]⟩

/-- Every later segment of a visit keeps the invariant. -/
theorem resumeBots (h : WorldOk w) (now : ℕ) (id : JsString) (rest : List JsString) (d : Draw)
    {stage : BotStage} (hs : stage.Ok id) :
    WorldOk (SnowBrawl.resumeBots now id rest w d stage).1 ∧
      ∀ t ∈ (SnowBrawl.resumeBots now id rest w d stage).2, t.Ok := by
  cases stage with
  | respawned =>
      obtain ⟨hw, hr⟩ := h.scanBots now rest w d
      exact ⟨hw, forall_mem_botTask hr⟩
  | shooting snapshot shot =>
      obtain ⟨hw, hshot⟩ := h.resumeBotShot id hs.2
      simp only [SnowBrawl.resumeBots]
      split
      · next shot' hshot' =>
          exact ⟨hw, by simpa [Task.Ok, BotStage.Ok, hs.1] using hshot shot' hshot'⟩
      · exact ⟨hw, by simpa [Task.Ok, BotStage.Ok] using hs.1⟩
  | shot snapshot =>
      obtain ⟨hw, hr⟩ := scanBots now rest _ d (h.finishVisit now hs)
      exact ⟨hw, forall_mem_botTask hr⟩

theorem startUpdateBots (h : WorldOk w) (d : Draw) :
    WorldOk (SnowBrawl.startUpdateBots w d).1 ∧ ∀ t ∈ (SnowBrawl.startUpdateBots w d).2, t.Ok := by
  obtain ⟨hw, hr⟩ := scanBots w.now w.bots.keys w d h
  exact ⟨hw, forall_mem_botTask hr⟩

/-! ## Start-up -/

theorem initBot (h : WorldOk w) (i : ℕ) (rs : Stream' ℝ) : WorldOk (SnowBrawl.initBot i w rs).1 := by
  have hspawn := inBounds_getRandomSpawnPos w.worldSeed rs
  exact ⟨h.cache.set (entryOk_of_alive rfl rfl hspawn) rfl, Map.All.set h.bots hspawn⟩

theorem initBotsFrom (rs : Stream' ℝ) (i n : ℕ) (h : WorldOk w) :
    WorldOk (SnowBrawl.initBotsFrom rs i n w) := by
  induction n generalizing rs i w with
  | zero => exact h
  | succ n ih => exact ih _ _ (h.initBot i rs)

theorem initBots (worldSeed now : ℕ) (rs : Stream' ℝ) :
    WorldOk (SnowBrawl.initBots worldSeed now rs) :=
  initBotsFrom rs 0 botCount ⟨Map.all_empty _, Map.all_empty _⟩

/-! ## The scheduler -/

theorem resumeTask (h : WorldOk w) {t : Task} (ht : t.Ok) {d : Draw} (hd : d.Valid) :
    WorldOk (SnowBrawl.resumeTask t w d).1 ∧ ∀ t' ∈ (SnowBrawl.resumeTask t w d).2.1, t'.Ok := by
  cases t with
  | message k stage =>
      obtain ⟨hw, hstages⟩ := h.resumeMessage k hd ht
      refine ⟨hw, ?_⟩
      simp only [SnowBrawl.resumeTask, List.mem_map]
      rintro _ ⟨s, hs, rfl⟩
      exact hstages s hs
  | closing k => exact ⟨h, by simp [SnowBrawl.resumeTask]⟩
  | bots now id rest stage => exact h.resumeBots now id rest d ht

theorem onClose_tasks (k : ℕ) (w : World) : ∀ t ∈ (SnowBrawl.onClose k w).2.toList, t.Ok := by
  unfold SnowBrawl.onClose
  split <;> simp [Task.Ok]

end WorldOk

/-- The invariant of the whole server: its memory, and every suspended task. -/
structure SysInv (s : Sys) : Prop where
  world : WorldOk s.world
  tasks : ∀ t ∈ s.tasks, t.Ok

namespace SysInv

theorem init (worldSeed now : ℕ) (rs : Stream' ℝ) : SysInv (initSys worldSeed now rs) :=
  ⟨WorldOk.initBots worldSeed now rs, by simp [initSys]⟩

/-- **Every transition of the scheduler keeps the invariant.** -/
theorem step {s s' : Sys} (h : SysInv s) (hstep : Step s s') : SysInv s' := by
  cases hstep with
  | connect s k _ => exact ⟨⟨h.world.cache, h.world.bots⟩, h.tasks⟩
  | arrive s k c _ _ msg =>
      refine ⟨h.world, fun t ht => ?_⟩
      rcases List.mem_append.mp ht with ht | ht
      · exact h.tasks t ht
      · rw [List.mem_singleton.mp ht]
        trivial
  | close s k c _ _ =>
      refine ⟨h.world.onClose k, fun t ht => ?_⟩
      rcases List.mem_append.mp ht with ht | ht
      · exact h.tasks t ht
      · exact WorldOk.onClose_tasks k s.world t ht
  | resume w pre post t d hd =>
      have ht : t.Ok := h.tasks t (by simp)
      obtain ⟨hw, hnew⟩ := h.world.resumeTask ht hd
      refine ⟨hw, fun t' ht' => ?_⟩
      rcases List.mem_append.mp ht' with ht' | ht'
      · exact h.tasks t' (by simp only [List.mem_append, List.mem_cons] at ht' ⊢; tauto)
      · exact hnew t' ht'
  | botTimer s d _ =>
      obtain ⟨hw, hnew⟩ := h.world.startUpdateBots d
      refine ⟨hw, fun t ht => ?_⟩
      rcases List.mem_append.mp ht with ht | ht
      · exact h.tasks t ht
      · exact hnew t ht
  | cleanup s => exact ⟨⟨h.world.cache.filter _, h.world.bots⟩, h.tasks⟩
  | purge s => exact ⟨⟨h.world.cache, h.world.bots⟩, h.tasks⟩
  | stateTick s =>
      refine ⟨?_, h.tasks⟩
      unfold SnowBrawl.stateTick
      split_ifs
      · exact h.world
      · exact h.world
      · exact ⟨h.world.cache, h.world.bots⟩
  | snapshotTick s =>
      refine ⟨?_, h.tasks⟩
      unfold SnowBrawl.snapshotTick
      split_ifs
      · exact h.world
      · exact ⟨h.world.cache, h.world.bots⟩
  | tick s dt => exact ⟨⟨h.world.cache, h.world.bots⟩, h.tasks⟩

theorem of_reachable {s : Sys} (hs : Reachable s) : SysInv s := by
  induction hs with
  | init worldSeed now rs _ => exact init worldSeed now rs
  | step _ hstep ih => exact ih.step hstep

end SysInv

/-- **Every entry of the cache of a reachable state is valid**: its hit points
are one of `0, 10, …, 100`, its respawn time is set exactly while it has none,
and its position is inside the box `serverHandleState` accepts. -/
theorem reachable_cache_entries_valid {s : Sys} (hs : Reachable s) :
    ∀ e ∈ s.world.playersCache.values,
      e.hp ∈ hpValues ∧ (e.deadUntil ≠ 0 ↔ e.hp = 0) ∧
        |e.pos.x| ≤ mapHalf + 5 ∧ |e.pos.z| ≤ mapHalf + 5 ∧ |e.pos.y| ≤ 5000 := by
  intro e he
  obtain ⟨hok, -⟩ := (SysInv.of_reachable hs).world.cache.of_mem_values he
  exact ⟨hok.hp_mem, hok.deadUntil_ne_zero_iff, hok.pos⟩

/-- After a session's `hello` and `state` frames, the player's entry is in the
cache, and every entry is valid. -/
theorem cache_entries_valid_after_a_state :
    ∃ s cid, Reachable s ∧ s.world.playersCache.has cid = true ∧ s.world.pendingStates.has cid = true ∧
      ∀ e ∈ s.world.playersCache.values,
        e.hp ∈ hpValues ∧ (e.deadUntil ≠ 0 ↔ e.hp = 0) ∧
          |e.pos.x| ≤ mapHalf + 5 ∧ |e.pos.z| ≤ mapHalf + 5 ∧ |e.pos.y| ≤ 5000 := by
  obtain ⟨s, cid, hs, -, hcached, hpending, -⟩ := Reachable.session_state
  exact ⟨s, cid, hs, hcached, hpending, reachable_cache_entries_valid hs⟩

end SnowBrawl
