import SnowBrawl.Cache
import SnowBrawl.Session

/-!
# No player is locked out

A player whose connection is still open can always get back into the game,
whatever the server has been doing: from every reachable state there is a
continuation of the run after which the player's cache entry is alive, with hit
points and no respawn time.  A dead player is revived by its first `state`
message once its respawn time has come, a living one stays alive, and one whose
entry was lost gets a new one.

## Main definitions

* `ConnsOk` — every connection that holds a player holds one whose `WSClient`
  object exists.  In `ws.ts` the closure variable `client` *is* the object, so
  this is what makes the model's lookup of the object by its id agree with the
  source; every transition keeps it (`ConnsOk.step`).
* `InPlay` — alive and not waiting to respawn.

## Main results

* `serverHandleState_back_in_play` — a `state` message with a position inside
  the box, from a player whose respawn time has come, leaves an entry that is
  alive or that kept the hit points of a living one.
* `player_gets_back_into_play` — the continuation, from every reachable state.
-/

namespace SnowBrawl

open Js

/-! ## Connections and their `WSClient` objects -/

/-- Every connection that holds a player holds one whose `WSClient` object
exists. -/
def ConnsOk (w : World) : Prop :=
  ∀ k conn cid, w.conns.get? k = some conn → conn.client = some cid → (w.clientObjs.get? cid).isSome

/-- What a segment may do to the connections and the `WSClient` objects without
registering a player: an object is added or replaced, never removed, and a
connection keeps the player it held or holds none. -/
structure RegistryFrame (w w' : World) : Prop where
  objs : ∀ cid, (w.clientObjs.get? cid).isSome → (w'.clientObjs.get? cid).isSome
  conns : ∀ k conn', w'.conns.get? k = some conn' →
    conn'.client = none ∨ ∃ conn, w.conns.get? k = some conn ∧ conn.client = conn'.client

namespace RegistryFrame

variable {w w' w'' : World}

theorem refl (w : World) : RegistryFrame w w :=
  ⟨fun _ h => h, fun _ conn' hk => Or.inr ⟨conn', hk, rfl⟩⟩

theorem of_eq (hconns : w'.conns = w.conns) (hobjs : w'.clientObjs = w.clientObjs) :
    RegistryFrame w w' :=
  ⟨fun _ h => hobjs ▸ h, fun _ conn' hk => Or.inr ⟨conn', hconns ▸ hk, rfl⟩⟩

theorem trans (h₁ : RegistryFrame w w') (h₂ : RegistryFrame w' w'') : RegistryFrame w w'' := by
  refine ⟨fun cid h => h₂.objs cid (h₁.objs cid h), fun k conn'' hk => ?_⟩
  rcases h₂.conns k conn'' hk with hnone | ⟨conn', hk', hsame⟩
  · exact Or.inl hnone
  · rcases h₁.conns k conn' hk' with hnone | ⟨conn, hk₀, hsame'⟩
    · exact Or.inl (hsame ▸ hnone)
    · exact Or.inr ⟨conn, hk₀, hsame'.trans hsame⟩

/-- Writing a `WSClient` object. -/
theorem setClientObj (cid : JsString) (c : WSClient) : RegistryFrame w (SnowBrawl.setClientObj cid c w) := by
  refine ⟨fun cid' h => ?_, fun k conn' hk => Or.inr ⟨conn', hk, rfl⟩⟩
  simp only [setClientObj_clientObjs, Map.get?_set]
  split
  · rfl
  · exact h

/-- An update of a connection's record that leaves its player alone. -/
theorem updateConn (k : ℕ) {f : Conn → Conn} (hf : ∀ conn, (f conn).client = conn.client) :
    RegistryFrame w (SnowBrawl.updateConn k f w) := by
  unfold SnowBrawl.updateConn
  split
  · next conn hconn =>
      refine ⟨fun _ h => h, fun k' conn' hk' => ?_⟩
      rw [Map.get?_set] at hk'
      split at hk'
      · next hsame =>
          rw [Option.some.injEq] at hk'
          subst hsame hk'
          exact Or.inr ⟨conn, hconn, (hf conn).symm⟩
      · exact Or.inr ⟨conn', hk', rfl⟩
  · exact refl w

end RegistryFrame

theorem ConnsOk.frame {w w' : World} (h : ConnsOk w) (hf : RegistryFrame w w') : ConnsOk w' := by
  intro k conn' cid hk hcid
  rcases hf.conns k conn' hk with hnone | ⟨conn, hk₀, hsame⟩
  · rw [hcid] at hnone
    cases hnone
  · exact hf.objs cid (h k conn cid hk₀ (hsame.trans hcid))

/-! ### Each segment -/

namespace RegistryFrame

variable {w w' : World}

/-- No kind of write removes an object or hands a connection another player. -/
theorem of_write (h : Write w w') : RegistryFrame w w' := by
  cases h with
  | clientObj cid c => exact setClientObj cid c
  | conn k f hf => exact updateConn k hf
  | event | setCache | updateCache | bots | seenShots | kills | enqueue => exact .of_eq rfl rfl

theorem of_writes (h : Writes w w') : RegistryFrame w w' :=
  Writes.lift refl trans of_write h

end RegistryFrame

/-- `onclose` marks the connection closed and removes its player from `clients`
only. -/
theorem onClose_registryFrame {w : World} (k : ℕ) : RegistryFrame w (onClose k w).1 := by
  have hconn : RegistryFrame w
      (SnowBrawl.updateConn k (fun conn => { conn with accepting := false, closed := true }) w) :=
    RegistryFrame.updateConn k fun _ => rfl
  unfold onClose
  split
  · exact hconn
  · exact hconn.trans (.of_eq rfl rfl)

/-! ### Every transition -/

namespace ConnsOk

variable {w : World}

/-- Registering a client creates its object together with the connection's
player. -/
theorem registerClient (h : ConnsOk w) (k now : ℕ) (snap : PlayerSnapshot) :
    ConnsOk (SnowBrawl.registerClient k now snap w) := by
  intro k' conn' cid hk' hcid
  simp only [SnowBrawl.registerClient, appendEventInMem_conns, appendEventInMem_clientObjs,
    updateConn_clientObjs] at hk' ⊢
  rw [Map.get?_set]
  split
  · rfl
  · unfold SnowBrawl.updateConn at hk'
    split at hk'
    · next conn hconn =>
        rw [Map.get?_set] at hk'
        split at hk'
        · next hsame =>
            -- the registered connection: its player is the new one
            rw [Option.some.injEq] at hk'
            rw [← hk'] at hcid
            cases hcid
            contradiction
        · exact h k' conn' cid hk' hcid
    · exact h k' conn' cid hk' hcid

theorem resumeMessage (h : ConnsOk w) (k : ℕ) (d : Draw) (stage : MessageStage) :
    ConnsOk (SnowBrawl.resumeMessage k w d stage).1 := by
  cases stage with
  | decoding msg => exact h.frame (.of_writes (onMessage_writes k msg))
  | hello now snap => exact h.registerClient k now snap
  | joined => exact h
  | respawned pending => exact h
  | shooting clientId stage => exact h.frame (.of_writes (resumeShot_writes clientId stage))
  | broadcasting => exact h

theorem resumeTask (h : ConnsOk w) (t : Task) (d : Draw) : ConnsOk (SnowBrawl.resumeTask t w d).1 := by
  cases t with
  | message k stage => exact h.resumeMessage k d stage
  | closing _ => exact h
  | bots now id rest stage => exact h.frame (.of_writes (resumeBots_writes now id rest stage))

theorem init (worldSeed now : ℕ) (rs : Stream' ℝ) : ConnsOk (initSys worldSeed now rs).world := by
  intro k conn cid hk _
  rw [initSys_conns, Map.get?_empty] at hk
  cases hk

/-- **Every transition keeps `ConnsOk`.** -/
theorem step {s s' : Sys} (h : ConnsOk s.world) (hstep : Step s s') : ConnsOk s'.world := by
  cases hstep with
  | connect s k fresh =>
      refine h.frame ⟨fun _ hobj => hobj, fun k' conn' hk' => ?_⟩
      rw [Map.get?_set] at hk'
      split at hk'
      · rw [Option.some.injEq] at hk'
        exact Or.inl (hk' ▸ rfl)
      · exact Or.inr ⟨conn', hk', rfl⟩
  | arrive s k c _ _ msg => exact h
  | close s k c _ _ => exact h.frame (onClose_registryFrame k)
  | resume w pre post t d _ => exact h.resumeTask t d
  | botTimer s d _ =>
      exact h.frame (.of_writes (scanBots_writes s.world.now s.world.bots.keys s.world d))
  | cleanup s => exact h
  | purge s => exact h
  | stateTick s =>
      unfold SnowBrawl.stateTick
      split_ifs
      · exact h
      · exact h
      · exact h
  | snapshotTick s =>
      unfold SnowBrawl.snapshotTick
      split_ifs
      · exact h
      · exact h
  | tick s dt => exact h

theorem of_reachable {s : Sys} (hs : Reachable s) : ConnsOk s.world := by
  induction hs with
  | init worldSeed now rs _ => exact init worldSeed now rs
  | step _ hstep ih => exact ih.step hstep

end ConnsOk

/-! ## A `state` message puts its sender back in play -/

/-- Alive and not waiting to respawn. -/
def InPlay (e : PlayerSnapshot) : Prop := 0 < e.hp ∧ e.deadUntil = 0

/-- A valid entry with hit points has no respawn time. -/
theorem EntryOk.inPlay {e : PlayerSnapshot} (h : EntryOk e) (hhp : 0 < e.hp) : InPlay e := by
  refine ⟨hhp, ?_⟩
  by_contra hne
  have := h.deadUntil_ne_zero_iff.mp hne
  omega

/-- **A `state` message puts its sender back in play.**  A position inside the
box and a finite heading, from a player whose respawn time (if any) has come:
the revive and a first state write full health and no respawn time, and a move
keeps the hit points of a living entry, which has no respawn time. -/
theorem serverHandleState_back_in_play {clientId : JsString} {name msg : JsValue} {w : World}
    (hcache : CacheOk w.playersCache) (d : Draw) {pos : Vec3} {rotY : ℝ}
    (hpos : isFiniteVec3 (msg.get (ascii "pos")) = some pos) (hin : InBounds pos)
    (hrotY : (msg.get (ascii "rotY")).asFinite? = some rotY)
    (hdue : ∀ p, w.playersCache.get? clientId = some p → p.hp ≤ 0 → p.deadUntil ≤ w.now) :
    ∃ e, (serverHandleState clientId name msg w d).1.playersCache.get? clientId = some e ∧
      InPlay e := by
  have hinside : ¬ (|pos.x| > mapHalf + 5 ∨ |pos.z| > mapHalf + 5 ∨ |pos.y| > 5000) := by
    simp only [gt_iff_lt, not_or, not_lt]
    exact hin
  unfold serverHandleState
  simp only [hpos, hrotY, if_neg hinside]
  cases hprev : w.playersCache.get? clientId with
  | none =>
      -- a first state: a new entry at full health
      simp only [Option.any_none, Bool.false_eq_true, ite_false, enqueuePendingState]
      exact ⟨_, Map.get?_set_self _ _ _, by norm_num [InPlay]⟩
  | some p =>
      have hnotfrozen : ¬ (p.hp ≤ 0 ∧ p.deadUntil > w.now) := by
        rintro ⟨hdead, hlater⟩
        exact absurd (hdue p hprev hdead) (not_le.mpr hlater)
      simp only [Option.any_some, hnotfrozen, decide_false, Bool.false_eq_true, ite_false]
      split_ifs with hdead
      · -- the revive, then its `respawn` event: full health, no respawn time
        simp only [appendEventInMem_playersCache, applyEventToCache, get?_updateIfPresent,
          Map.get?_set_self, if_true, Option.map_some]
        exact ⟨_, rfl, by norm_num [InPlay]⟩
      · -- a move keeps the hit points and the respawn time of a living entry
        simp only [enqueuePendingState]
        exact ⟨_, Map.get?_set_self _ _ _, (hcache.entry hprev).1.inPlay (by omega)⟩

theorem inBounds_origin : InBounds ⟨0, 0, 0⟩ := by
  norm_num [InBounds, mapHalf]

/-- A registered connection whose rate limit's window and `state` interval are
over sends \`stateAtCentre\`: its player is back in play, if its respawn time
has come. -/
theorem onMessage_stateAtCentre_back_in_play {w : World} {k : ℕ} {cid : JsString} {c : WSClient}
    (hcache : CacheOk w.playersCache) (hreg : Registered w k cid c)
    (hrate : (w.now : ℤ) - c.bucketStart > rateWindowMs)
    (hfreq : c.lastStateAt + 1000 / stateHz ≤ w.now)
    (hdue : ∀ p, w.playersCache.get? cid = some p → p.hp ≤ 0 → p.deadUntil ≤ w.now) (d : Draw) :
    ∃ e, (onMessage k (some stateAtCentre) w d).1.playersCache.get? cid = some e ∧ InPlay e := by
  obtain ⟨name, w', hcache', hnow, -, heq⟩ := onMessage_stateAtCentre hreg hrate hfreq d
  rw [heq]
  -- both `WSClient` writes leave the cache and the clock alone
  exact serverHandleState_back_in_play (hcache' ▸ hcache) d stateAtCentre_pos inBounds_origin
    stateAtCentre_rotY (by rw [hcache', hnow]; exact hdue)

/-! ## The continuation -/

/-- **No player is locked out.**  From every reachable state, a connection that
is open and holds a player has a continuation in which its player is in play:
time passes until the rate limit's window, the \`state\` interval and the
player's respawn time are over, one \`state\` frame arrives, and its handler
runs.  Whatever the server did before (deaths, the idle cleanup, \`leave\`s of
other connections of the same id, bots that took the id), the player ends with
hit points and no respawn time. -/
theorem player_gets_back_into_play {s : Sys} (hs : Reachable s) {k : ℕ} {conn : Conn}
    (hk : s.world.conns.get? k = some conn) (haccepting : conn.accepting = true)
    {cid : JsString} (hcid : conn.client = some cid) :
    ∃ s', Relation.ReflTransGen Step s s' ∧
      ∃ e, s'.world.playersCache.get? cid = some e ∧ InPlay e := by
  obtain ⟨w, ts⟩ := s
  obtain ⟨c, hc⟩ := Option.isSome_iff_exists.mp (ConnsOk.of_reachable hs k conn cid hk hcid)
  -- wait until the rate limit's window and the `state` interval are over and the
  -- player's respawn time, if it has one, has come
  obtain ⟨dt, hbucket, hlast, hlate⟩ : ∃ dt : ℕ, c.bucketStart + rateWindowMs < w.now + dt ∧
      c.lastStateAt + 1000 / stateHz ≤ w.now + dt ∧
      ∀ p, w.playersCache.get? cid = some p → p.deadUntil ≤ w.now + dt := by
    generalize 1000 / stateHz = interval
    refine ⟨c.bucketStart + c.lastStateAt + ((w.playersCache.get? cid).map PlayerSnapshot.deadUntil).getD 0 +
      rateWindowMs + interval + 1, by omega, by omega, fun p hp => ?_⟩
    rw [hp, Option.map_some, Option.getD_some]
    omega
  let w₁ : World := { w with now := w.now + dt }
  let d : Draw := ⟨fun _ => 0, ascii "u"⟩
  have hd : d.Valid := fun _ => ⟨le_refl 0, zero_lt_one⟩
  have hcache : CacheOk w₁.playersCache := (SysInv.of_reachable hs).world.cache
  have hreg : Registered w₁ k cid c := ⟨by rw [show w₁.conns = w.conns from rfl, hk]; exact hcid, hc⟩
  have hrate : (w₁.now : ℤ) - c.bucketStart > rateWindowMs := by
    show ((w.now + dt : ℕ) : ℤ) - c.bucketStart > rateWindowMs
    omega
  have hdue : ∀ p, w₁.playersCache.get? cid = some p → p.hp ≤ 0 → p.deadUntil ≤ w₁.now :=
    fun p hp _ => hlate p hp
  obtain ⟨e, he, hplay⟩ := onMessage_stateAtCentre_back_in_play hcache hreg hrate hlast hdue d
  -- the clock, the frame, and the first segment of its `onmessage`
  have hrun : Relation.ReflTransGen Step ⟨w, ts⟩
      ⟨(resumeTask (.message k (.decoding (some stateAtCentre))) w₁ d).1,
        ts ++ [] ++ (resumeTask (.message k (.decoding (some stateAtCentre))) w₁ d).2.1⟩ :=
    ((Relation.ReflTransGen.single (Step.tick ⟨w, ts⟩ dt)).tail
      (Step.arrive ⟨w₁, ts⟩ k conn hk haccepting (some stateAtCentre))).tail
      (Step.resume w₁ ts [] _ d hd)
  exact ⟨_, hrun, e, he, hplay⟩

/-- The player of a session gets back into play. -/
theorem player_gets_back_into_play_after_hello :
    ∃ s k conn cid, Reachable s ∧ s.world.conns.get? k = some conn ∧ conn.accepting = true ∧
      conn.client = some cid ∧
      ∃ s', Relation.ReflTransGen Step s s' ∧
        ∃ e, s'.world.playersCache.get? cid = some e ∧ InPlay e := by
  obtain ⟨w, cid, -, hs, hk, -⟩ := Reachable.session
  exact ⟨_, 0, _, cid, hs, hk, rfl, rfl, player_gets_back_into_play hs hk rfl rfl⟩

end SnowBrawl
