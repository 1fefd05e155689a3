import SnowBrawl.Cache
import SnowBrawl.Session

/-!
# What a player's messages can touch

A connection acts for one player, the id in its closure variable `client`.  The
handlers of its messages write `playersCache` directly (`playersCache.set`,
`updateIfPresent`) and through the events they append (`applyEventToCache`
takes the id to write from the event).  This module proves that all those writes
stay on the connection's own entry, with one exception: a shot writes its
victim, and only by lowering the hit points and setting the respawn time.

* `Hit p q` — `q` is `p` with only `hp`, `deadUntil` and `updatedAt` changed,
  and no more hit points;
* `MayChange c v` — what a step of player `c` whose shot hit `v` may do to an
  entry: anything to `c`'s, a `Hit` to `v`'s;
* `EventFrame c v` — when an appended event stays within `MayChange c v`.

The shot lowers, never raises, the victim's hit points only because every entry
has `0 ≤ hp` (the cache invariant of `Cache`): `max 0 (hp - 10)` and the `death`
event's `0` are then at most `hp`.

## Main results

* `applyEventToCache_changesOnly` — the frame of one event.
* `resumeMessage_changesOnly` — the frame of every segment of `onmessage`.
* `messages_change_own_entry` — from a reachable state, every segment of a
  connection's `onmessage` and its `onclose` change only the entry of the
  connection's player and, in a shot, the entry of the one victim.
-/

namespace SnowBrawl

open Js

/-! ## Changes a step may make -/

/-- `q` is `p` after a hit: everything but the hit points, the respawn time and
`updatedAt` is as it was, and the hit points are no higher. -/
structure Hit (p q : PlayerSnapshot) : Prop where
  id_eq : q.id = p.id
  name_eq : q.name = p.name
  pos_eq : q.pos = p.pos
  rotY_eq : q.rotY = p.rotY
  vel_eq : q.vel = p.vel
  crouch_eq : q.crouch = p.crouch
  pingMs_eq : q.pingMs = p.pingMs
  hp_le : q.hp ≤ p.hp

namespace Hit

theorem of_hp_le {p : PlayerSnapshot} {hp : ℤ} (h : hp ≤ p.hp) (deadUntil updatedAt : ℕ) :
    Hit p { p with hp := hp, deadUntil := deadUntil, updatedAt := updatedAt } :=
  ⟨rfl, rfl, rfl, rfl, rfl, rfl, rfl, h⟩

theorem trans {p q r : PlayerSnapshot} (h₁ : Hit p q) (h₂ : Hit q r) : Hit p r :=
  ⟨h₂.id_eq.trans h₁.id_eq, h₂.name_eq.trans h₁.name_eq, h₂.pos_eq.trans h₁.pos_eq,
    h₂.rotY_eq.trans h₁.rotY_eq, h₂.vel_eq.trans h₁.vel_eq, h₂.crouch_eq.trans h₁.crouch_eq,
    h₂.pingMs_eq.trans h₁.pingMs_eq, h₂.hp_le.trans h₁.hp_le⟩

end Hit

/-- What a step of the connection whose player is `c` may do to the entry under
`j`: anything, if `j` is `c`; a `Hit`, if `j` is the victim `v` of its shot. -/
def MayChange (c v : Option JsString) (j : JsString) (e e' : Option PlayerSnapshot) : Prop :=
  some j = c ∨ (some j = v ∧ ∃ p q, e = some p ∧ e' = some q ∧ Hit p q)

namespace MayChange

variable {c v : Option JsString} {j : JsString}

theorem trans {e e' e'' : Option PlayerSnapshot} (h₁ : MayChange c v j e e')
    (h₂ : MayChange c v j e' e'') : MayChange c v j e e'' := by
  rcases h₁ with own | ⟨victim, p, q, rfl, rfl, hit₁⟩
  · exact Or.inl own
  · rcases h₂ with own | ⟨-, q', r, hq, rfl, hit₂⟩
    · exact Or.inl own
    · cases hq
      exact Or.inr ⟨victim, p, r, rfl, rfl, hit₁.trans hit₂⟩

theorem hit {p : PlayerSnapshot} {hp : ℤ} (hv : some j = v) (h : hp ≤ p.hp)
    (deadUntil updatedAt : ℕ) :
    MayChange c v j (some p) (some { p with hp := hp, deadUntil := deadUntil, updatedAt := updatedAt }) :=
  Or.inr ⟨hv, p, _, rfl, rfl, Hit.of_hp_le h deadUntil updatedAt⟩

end MayChange

section Frame

variable {c v : Option JsString} {cache cache' cache'' : Map JsString PlayerSnapshot}

theorem MayChange.changesOnly_trans (h₁ : Map.ChangesOnly (MayChange c v) cache cache')
    (h₂ : Map.ChangesOnly (MayChange c v) cache' cache'') :
    Map.ChangesOnly (MayChange c v) cache cache'' :=
  h₁.trans (fun _ _ _ _ => MayChange.trans) h₂

/-- A write of the player's own entry. -/
theorem changesOnly_set_own (j : JsString) (e : PlayerSnapshot) :
    Map.ChangesOnly (MayChange (some j) v) cache (cache.set j e) :=
  Map.ChangesOnly.set (Or.inl rfl)

theorem changesOnly_updateIfPresent {R : JsString → Option PlayerSnapshot → Option PlayerSnapshot → Prop}
    {j : JsString} {f : PlayerSnapshot → PlayerSnapshot}
    (h : ∀ p, cache.get? j = some p → R j (some p) (some (f p))) :
    Map.ChangesOnly R cache (updateIfPresent cache j f) := by
  unfold updateIfPresent
  split
  · next p hp => exact Map.ChangesOnly.set (hp ▸ h p hp)
  · exact Map.ChangesOnly.refl R cache

theorem changesOnly_updateIfPresent_own (j : JsString) (f : PlayerSnapshot → PlayerSnapshot) :
    Map.ChangesOnly (MayChange (some j) v) cache (updateIfPresent cache j f) :=
  changesOnly_updateIfPresent fun _ _ => Or.inl rfl

end Frame

/-! ## Events -/

/-- When the event a step of player `c` appends stays within `MayChange c v`: an
event about a player is about `c`, except a `hit` or a `death`, which is about
the victim `v` and lowers no hit points. -/
def EventFrame (c v : Option JsString) (cache : Map JsString PlayerSnapshot) : EventBody → Prop
  | .join player => some player.id = c
  | .leave playerId _ => some playerId = c
  | .state playerId .. => some playerId = c
  | .rename playerId _ => some playerId = c
  | .respawn playerId .. => some playerId = c
  | .hit _ victimId _ victimHp _ => some victimId = v ∧ ∀ p, cache.get? victimId = some p → victimHp ≤ p.hp
  | .death victimId .. => some victimId = v ∧ ∀ p, cache.get? victimId = some p → 0 ≤ p.hp
  | .chat .. | .snowball .. => True

theorem applyEventToCache_changesOnly {c v : Option JsString} {cache : Map JsString PlayerSnapshot}
    {ev : WorldEvent} (hev : EventFrame c v cache ev.body) :
    Map.ChangesOnly (MayChange c v) cache (applyEventToCache ev cache) := by
  obtain ⟨body, seq, time⟩ := ev
  cases body with
  | join player => exact Map.ChangesOnly.set (Or.inl hev)
  | leave playerId _ => exact Map.ChangesOnly.delete (Or.inl hev)
  | state playerId _ _ _ _ => exact changesOnly_updateIfPresent fun _ _ => Or.inl hev
  | rename playerId _ => exact changesOnly_updateIfPresent fun _ _ => Or.inl hev
  | respawn playerId _ _ => exact changesOnly_updateIfPresent fun _ _ => Or.inl hev
  | hit _ victimId _ victimHp _ =>
      exact changesOnly_updateIfPresent fun p hp => MayChange.hit hev.1 (hev.2 p hp) p.deadUntil time
  | death victimId _ _ _ _ respawnAt =>
      exact changesOnly_updateIfPresent fun p hp => MayChange.hit hev.1 (hev.2 p hp) respawnAt time
  | chat _ _ _ => exact Map.ChangesOnly.refl _ cache
  | snowball _ _ _ _ _ => exact Map.ChangesOnly.refl _ cache

theorem appendEventInMem_changesOnly {c v : Option JsString} {w : World} {body : EventBody}
    (hev : EventFrame c v w.playersCache body) :
    Map.ChangesOnly (MayChange c v) w.playersCache (appendEventInMem body w).playersCache :=
  applyEventToCache_changesOnly hev

/-- The same, for a world whose cache is `cache` once its other fields are
written. -/
theorem appendEventInMem_changesOnly_of_eq {c v : Option JsString} {w : World} {body : EventBody}
    {cache : Map JsString PlayerSnapshot} (hw : w.playersCache = cache)
    (hev : EventFrame c v cache body) :
    Map.ChangesOnly (MayChange c v) cache (appendEventInMem body w).playersCache := by
  subst hw
  exact applyEventToCache_changesOnly hev

/-! ## The handlers of `game.ts` -/

section Handlers

variable {c v : Option JsString} (w : World) (d : Draw)

theorem serverHandleChat_changesOnly (clientId : JsString) (name msg : JsValue) :
    Map.ChangesOnly (MayChange c v) w.playersCache (serverHandleChat clientId name msg w).1.playersCache := by
  unfold serverHandleChat
  split
  · exact Map.ChangesOnly.refl _ _
  · split
    · exact Map.ChangesOnly.refl _ _
    · exact appendEventInMem_changesOnly trivial

theorem serverHandleRename_changesOnly (clientId : JsString) (newRawName : JsValue) :
    Map.ChangesOnly (MayChange (some clientId) v) w.playersCache
      (serverHandleRename clientId newRawName w).1.playersCache := by
  unfold serverHandleRename
  split
  · exact Map.ChangesOnly.refl _ _
  · split
    · exact Map.ChangesOnly.refl _ _
    · -- the direct write, then the `rename` event, both under `clientId`
      exact MayChange.changesOnly_trans (changesOnly_updateIfPresent_own clientId _)
        (appendEventInMem_changesOnly rfl)

theorem serverHandleState_changesOnly (clientId : JsString) (name msg : JsValue) :
    Map.ChangesOnly (MayChange (some clientId) v) w.playersCache
      (serverHandleState clientId name msg w d).1.playersCache := by
  unfold serverHandleState
  split
  · dsimp only
    split_ifs
    · exact Map.ChangesOnly.refl _ _
    · exact Map.ChangesOnly.refl _ _
    · split
      · split_ifs
        · -- the revive: the direct write, then the `respawn` event
          exact MayChange.changesOnly_trans (changesOnly_set_own clientId _)
            (appendEventInMem_changesOnly rfl)
        · exact changesOnly_set_own clientId _
      · exact changesOnly_set_own clientId _
  · exact Map.ChangesOnly.refl _ _

/-- The first segment of a shot writes no entry. -/
theorem serverHandleSnowball_changesOnly (clientId : JsString) (msg : JsValue) :
    Map.ChangesOnly (MayChange c v) w.playersCache
      (serverHandleSnowball clientId msg w d).1.playersCache := by
  unfold serverHandleSnowball
  split
  · exact Map.ChangesOnly.refl _ _
  · dsimp only
    split
    · exact Map.ChangesOnly.refl _ _
    · split
      · exact Map.ChangesOnly.refl _ _
      · exact appendEventInMem_changesOnly trivial

end Handlers

/-! ## Shots -/

/-- The player a shot stage names as hit. -/
def ShotStage.victim? : ShotStage → Option JsString
  | .landed _ victim _ _ => some victim.id
  | .flying .. | .killed _ => none

/-- The player a segment of a shot may hit: the victim of the `landed` stage it
starts from or suspends at.  A shot passes through one `landed` stage, so all
its segments hit the same player. -/
def ShotStage.segmentVictim? (stage : ShotStage) (next : Yield ShotStage) : Option JsString :=
  stage.victim? <|> next.toList.head?.bind ShotStage.victim?

section Shots

variable {c : Option JsString} {w : World} (h : WorldOk w)
include h

/-- The hit writes its victim, read from the cache in the same segment, and the
`hit` event writes the hit points just written. -/
theorem landHit_changesOnly {victim : PlayerSnapshot} (hv : victim ∈ w.playersCache.values)
    (attackerId shotId : JsString) (v0 : Vec3) :
    Map.ChangesOnly (MayChange c (some victim.id)) w.playersCache
      (landHit attackerId shotId v0 victim w).playersCache := by
  obtain ⟨hok, hget⟩ := h.cache.of_mem_values hv
  have hwrite : Map.ChangesOnly (MayChange c (some victim.id)) w.playersCache
      (w.playersCache.set victim.id (damagedVictim victim w.now)) := by
    refine Map.ChangesOnly.set ?_
    rw [hget]
    exact MayChange.hit rfl (damagedHp_le hok.hp_mem) _ _
  refine MayChange.changesOnly_trans hwrite (appendEventInMem_changesOnly ⟨rfl, fun p hp => ?_⟩)
  rw [Map.get?_set_self, Option.some.injEq] at hp
  rw [← hp]
  rfl

theorem resumeShot_changesOnly (clientId : JsString) (d : Draw) (stage : ShotStage) :
    Map.ChangesOnly (MayChange c (stage.segmentVictim? (resumeShot clientId w d stage).2))
      w.playersCache (resumeShot clientId w d stage).1.playersCache := by
  cases stage with
  | flying shotId origin dir =>
      simp only [resumeShot]
      split
      · next w' stage' hr =>
          unfold resolveShot at hr
          obtain ⟨best, hbest, hr⟩ := Option.map_eq_some_iff.mp hr
          cases hr
          exact landHit_changesOnly h (hitSearch_spec hbest).1 _ _ _
      · exact Map.ChangesOnly.refl _ _
  | landed shotId victim newHp respawnAt =>
      simp only [resumeShot]
      split_ifs
      · -- the `death` event sets the victim's hit points to `0`, which is no more
        -- than the hit points of any entry
        refine appendEventInMem_changesOnly ⟨rfl, fun p hp => ?_⟩
        exact hp_nonneg _ (h.cache.entry hp).1.hp_mem
      · exact Map.ChangesOnly.refl _ _
  | killed _ => exact Map.ChangesOnly.refl _ _

end Shots

/-! ## The segments of `onmessage` and `onclose` -/

/-- The player a segment of connection `k`'s `onmessage` acts for: the one a
`hello` registers, and the connection's otherwise. -/
def MessageStage.actor (k : ℕ) (w : World) : MessageStage → Option JsString
  | .hello _ snap => some snap.id
  | .decoding _ | .joined | .respawned _ | .shooting _ _ | .broadcasting =>
      (w.conns.get? k).bind Conn.client

/-- The player a suspended `onmessage` names as hit: the victim of its shot. -/
def MessageStage.victim? : MessageStage → Option JsString
  | .shooting _ stage => stage.victim?
  | .decoding _ | .hello .. | .joined | .respawned _ | .broadcasting => none

/-- The player a segment of `onmessage` may hit, as `ShotStage.segmentVictim?`. -/
def MessageStage.segmentVictim? (stage : MessageStage) (next : Yield MessageStage) :
    Option JsString :=
  stage.victim? <|> next.toList.head?.bind MessageStage.victim?

theorem MessageStage.segmentVictim?_shooting (clientId : JsString) (stage : ShotStage)
    (next : Yield ShotStage) :
    (MessageStage.shooting clientId stage).segmentVictim? (next.map (.shooting clientId)) =
      stage.segmentVictim? next := by
  cases next <;> rfl

section Messages

variable {v : Option JsString} (w : World) (d : Draw)

theorem dispatch_changesOnly (cid : JsString) (client : WSClient) (m : JsValue) :
    Map.ChangesOnly (MayChange (some cid) v) w.playersCache (dispatch cid client m w d).1.playersCache := by
  unfold dispatch
  dsimp only
  split_ifs
  · exact changesOnly_updateIfPresent_own cid _
  · exact serverHandleChat_changesOnly w cid _ m
  · exact serverHandleState_changesOnly _ d cid _ m
  · exact Map.ChangesOnly.refl _ _
  · exact serverHandleSnowball_changesOnly w d cid m
  · exact serverHandleRename_changesOnly _ cid _
  · exact Map.ChangesOnly.refl _ _

/-- The first segment after the decryption acts for the connection's player. -/
theorem onMessage_changesOnly (k : ℕ) (msg : Option JsValue) :
    Map.ChangesOnly (MayChange ((w.conns.get? k).bind Conn.client) v) w.playersCache
      (onMessage k msg w d).1.playersCache := by
  unfold onMessage
  cases msg with
  | none => exact Map.ChangesOnly.refl _ _
  | some m =>
      dsimp only
      by_cases hfalsy : (!m.truthy) = true
      · rw [if_pos hfalsy]
        exact Map.ChangesOnly.refl _ _
      · rw [if_neg hfalsy]
        cases hcid : (w.conns.get? k).bind Conn.client with
        | none =>
            -- no client yet: a `hello` only awaits `serverOnHello`
            dsimp only
            by_cases hhello : (m.get (ascii "t")).isStr (ascii "hello") = true
            · rw [if_pos hhello]
              split <;> exact Map.ChangesOnly.refl _ _
            · rw [if_neg hhello]
              exact Map.ChangesOnly.refl _ _
        | some cid =>
            dsimp only
            split
            · split_ifs
              · exact dispatch_changesOnly _ d cid _ _
              · exact Map.ChangesOnly.of_eq _ (updateConn_playersCache _ _ _)
            · exact Map.ChangesOnly.refl _ _

/-- A `hello` writes the snapshot it registers, directly and by `join`. -/
theorem registerClient_changesOnly (k now : ℕ) (snap : PlayerSnapshot) :
    Map.ChangesOnly (MayChange (some snap.id) v) w.playersCache
      (registerClient k now snap w).playersCache := by
  unfold registerClient
  refine MayChange.changesOnly_trans (changesOnly_set_own snap.id snap)
    (appendEventInMem_changesOnly_of_eq ?_ rfl)
  simp only [updateConn_playersCache]

end Messages

theorem resumeMessage_changesOnly {w : World} (h : WorldOk w) (k : ℕ) (d : Draw)
    (stage : MessageStage) :
    Map.ChangesOnly (MayChange (stage.actor k w) (stage.segmentVictim? (resumeMessage k w d stage).2))
      w.playersCache (resumeMessage k w d stage).1.playersCache := by
  cases stage with
  | decoding msg => exact onMessage_changesOnly w d k msg
  | hello now snap =>
      have hcache := registerClient_changesOnly (v := none) w k now snap
      exact hcache
  | joined => exact Map.ChangesOnly.refl _ _
  | respawned pending => exact Map.ChangesOnly.refl _ _
  | shooting clientId stage =>
      simp only [resumeMessage, MessageStage.actor, MessageStage.segmentVictim?_shooting]
      exact resumeShot_changesOnly h clientId d stage
  | broadcasting => exact Map.ChangesOnly.refl _ _

/-- `onclose` removes the connection's player, and only it. -/
theorem onClose_changesOnly {v : Option JsString} (w : World) (k : ℕ) :
    Map.ChangesOnly (MayChange ((w.conns.get? k).bind Conn.client) v) w.playersCache
      (onClose k w).1.playersCache := by
  unfold onClose
  split
  · exact Map.ChangesOnly.of_eq _ (updateConn_playersCache _ _ _)
  · next cid hcid =>
      rw [hcid]
      exact appendEventInMem_changesOnly_of_eq (updateConn_playersCache _ _ _) rfl

/-- **A player's messages change only the player's own entry, and a shot its
victim's hit points.**  From a reachable state: a segment of `onmessage` of
connection `k` changes no entry of the cache but the one of the player it acts
for and, if it is a segment of a shot, the one of the victim that shot hit, and
that one only in `hp`, `deadUntil` and `updatedAt` and without raising `hp`.
The connection's `onclose` changes only its player's entry. -/
theorem messages_change_own_entry {s : Sys} (hs : Reachable s) (k : ℕ) (stage : MessageStage)
    (d : Draw) :
    Map.ChangesOnly
        (MayChange (stage.actor k s.world) (stage.segmentVictim? (resumeMessage k s.world d stage).2))
        s.world.playersCache (resumeTask (.message k stage) s.world d).1.playersCache ∧
      Map.ChangesOnly (MayChange ((s.world.conns.get? k).bind Conn.client) none)
        s.world.playersCache (onClose k s.world).1.playersCache :=
  ⟨resumeMessage_changesOnly (SysInv.of_reachable hs).world k d stage, onClose_changesOnly s.world k⟩

/-- The player of a session sends `stateAtCentre`: the frame is handled, and
puts the player's state in the buffer, and it changes no entry but the
player's own. -/
theorem messages_change_own_entry_of_state :
    ∃ s cid, Reachable s ∧ (s.world.conns.get? 0).bind Conn.client = some cid ∧
      (resumeTask (.message 0 (.decoding (some stateAtCentre))) s.world sessionDraw).1.pendingStates.has
        cid = true ∧
      Map.ChangesOnly
          (MayChange ((MessageStage.decoding (some stateAtCentre)).actor 0 s.world)
            ((MessageStage.decoding (some stateAtCentre)).segmentVictim?
              (resumeMessage 0 s.world sessionDraw (.decoding (some stateAtCentre))).2))
          s.world.playersCache
          (resumeTask (.message 0 (.decoding (some stateAtCentre))) s.world sessionDraw).1.playersCache ∧
        Map.ChangesOnly (MayChange ((s.world.conns.get? 0).bind Conn.client) none)
          s.world.playersCache (onClose 0 s.world).1.playersCache := by
  obtain ⟨w, cid, c, hs, -, hreg, hrate, hfreq, halive, -, -⟩ := Reachable.session
  exact ⟨_, cid, hs, hreg.1, (onMessage_stateAtCentre_stores hreg hrate hfreq halive sessionDraw).2,
    messages_change_own_entry hs 0 (.decoding (some stateAtCentre)) sessionDraw⟩

end SnowBrawl
