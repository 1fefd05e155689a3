import SnowBrawl.Names
import SnowBrawl.Limits
import SnowBrawl.Segments
import SnowBrawl.Lib.Json

/-!
# A session

The run on which the properties of the server are seen at work: on a fresh
server connection `0` opens and says `hello`, the player gets its `welcome`
snapshot, and once its rate limit's window and its `state` interval are over
it sends its position.  The `state` frame passes the rate limit and the 20 Hz
check and reaches `serverHandleState`, which puts the state in the `states`
buffer for the next batch.

## Main definitions

* `sessionDraw` — the draws of the run: every random number `0`, every new id
  `"u"`.
* `stateAtCentre` — `{"t":"state","pos":{"x":0,"y":0,"z":0},"rotY":0}`.

## Main results

* `onMessage_stateAtCentre` — a registered player's `stateAtCentre`, past both
  windows, is handled by `serverHandleState` on a world with the same cache,
  clock and buffer.
* `serverHandleState_stores` — a position inside the box, from a player that
  is alive or has no entry yet, is written to the cache and put in the buffer.
* `stateTick_of_pending` — while anybody is online, a pending state goes out in
  the next batch.
* `Reachable.session`, `Reachable.session_state` — the run, before and after
  its `state` frame.
-/

namespace SnowBrawl

open Js

/-! ## The start -/

@[simp] theorem initBotsFrom_conns (rs : Stream' ℝ) (i n : ℕ) (w : World) :
    (initBotsFrom rs i n w).conns = w.conns := by
  induction n generalizing rs i w with
  | zero => rfl
  | succ n ih => exact ih _ _ _

@[simp] theorem initSys_conns (worldSeed now : ℕ) (rs : Stream' ℝ) :
    (initSys worldSeed now rs).world.conns = Map.empty := by
  simp only [initSys, initBots, initBotsFrom_conns, emptyWorld]

/-- The draws of the session: every random number `0`, every new id `"u"`. -/
def sessionDraw : Draw := ⟨fun _ => 0, ascii "u"⟩

theorem sessionDraw_valid : sessionDraw.Valid := fun _ => ⟨le_refl 0, zero_lt_one⟩

/-! ## A `state` frame of a registered player -/

/-- A full interval of the 20 Hz `state` rate after the last accepted `state`,
`stateFreqOk` lets the next one through. -/
theorem stateFreqOk_of_past {c : WSClient} {now : ℕ} (h : c.lastStateAt + 1000 / stateHz ≤ now) :
    (stateFreqOk c now).1 = true := by
  have hq : (c.lastStateAt : ℚ) + 50 ≤ now := by
    norm_num [stateHz] at h
    exact_mod_cast h
  have hnot : ¬ ((now : ℚ) - c.lastStateAt < 1000 / stateHz * (3 / 4)) := by
    norm_num [stateHz]
    linarith
  unfold stateFreqOk
  dsimp only
  rw [if_neg hnot]

/-- A `state` goes through `stateFreqOk`, which stores its verdict's record, and
on to `serverHandleState` if it passes. -/
theorem dispatch_of_state {cid : JsString} {c : WSClient} {m : JsValue} {w : World} {d : Draw}
    (hstate : (m.get (ascii "t")).isStr (ascii "state") = true) :
    dispatch cid c m w d =
      if (stateFreqOk c w.now).1 then
        ((serverHandleState cid (stateFreqOk c w.now).2.name m
            (setClientObj cid (stateFreqOk c w.now).2 w) d).1,
          (serverHandleState cid (stateFreqOk c w.now).2.name m
            (setClientObj cid (stateFreqOk c w.now).2 w) d).2.map .respawned)
      else (setClientObj cid (stateFreqOk c w.now).2 w, .done) := by
  have hping := isStr_false_of_isStr hstate (b := ascii "ping") (by decide)
  have hchat := isStr_false_of_isStr hstate (b := ascii "chat") (by decide)
  simp only [dispatch, hping, hchat, hstate, Bool.false_eq_true, ite_false, ite_true]

/-- \`{"t":"state","pos":{"x":0,"y":0,"z":0},"rotY":0}\`: standing at the centre
of the map, facing along the z axis. -/
def stateAtCentre : JsValue :=
  clientMessage "state"
    [("pos", .obj [(ascii "x", .num (.ofInt 0)), (ascii "y", .num (.ofInt 0)),
      (ascii "z", .num (.ofInt 0))]),
     ("rotY", .num (.ofInt 0))]

theorem stateAtCentre_truthy : stateAtCentre.truthy = true := rfl

theorem stateAtCentre_t : (stateAtCentre.get (ascii "t")).isStr (ascii "state") = true := by
  decide

theorem asFinite?_zero : (JsValue.num (.ofInt 0)).asFinite? = some 0 := by
  simpa using Json.asFinite?_ofInt (k := 0) (by decide)

theorem stateAtCentre_pos : isFiniteVec3 (stateAtCentre.get (ascii "pos")) = some ⟨0, 0, 0⟩ := by
  rw [show stateAtCentre.get (ascii "pos") = vecLit 0 0 0 by decide,
    isFiniteVec3_vecLit (by decide) (by decide) (by decide)]
  simp

theorem stateAtCentre_rotY : (stateAtCentre.get (ascii "rotY")).asFinite? = some 0 := by
  rw [show stateAtCentre.get (ascii "rotY") = .num (.ofInt 0) by decide]
  exact asFinite?_zero

/-- A registered player's `stateAtCentre`, once the rate limit's window and the
`state` interval are over, is let through both and handled by
`serverHandleState`, on the world with the two `WSClient` writes of the checks
done: the cache, the clock and the buffer are as they were. -/
theorem onMessage_stateAtCentre {w : World} {k : ℕ} {cid : JsString} {c : WSClient}
    (hreg : Registered w k cid c) (hrate : (w.now : ℤ) - c.bucketStart > rateWindowMs)
    (hfreq : c.lastStateAt + 1000 / stateHz ≤ w.now) (d : Draw) :
    ∃ name, ∃ w' : World, w'.playersCache = w.playersCache ∧ w'.now = w.now ∧
      w'.pendingStates = w.pendingStates ∧
      (onMessage k (some stateAtCentre) w d).1 = (serverHandleState cid name stateAtCentre w' d).1 := by
  -- the rate limit opens a new window, which keeps `lastStateAt`
  let c' : WSClient := { c with bucketStart := w.now, bucketCount := 1 }
  have hfreq' : (stateFreqOk c' (setClientObj cid c' w).now).1 = true := stateFreqOk_of_past hfreq
  rw [onMessage_registered hreg _ stateAtCentre_truthy, rateLimitOk_of_past hrate, if_pos rfl,
    dispatch_of_state stateAtCentre_t, if_pos hfreq']
  -- both `WSClient` writes leave the cache, the clock and the buffer alone
  let c'' := (stateFreqOk c' (setClientObj cid c' w).now).2
  exact ⟨c''.name, setClientObj cid c'' (setClientObj cid c' w), rfl, rfl, rfl, rfl⟩

/-- **A state is stored.**  A position inside the box and a finite heading, from
a player that is alive or has no entry yet: the move and the first state both
write the player's entry and put its state in the buffer. -/
theorem serverHandleState_stores {clientId : JsString} {name msg : JsValue} {w : World}
    (d : Draw) {pos : Vec3} {rotY : ℝ}
    (hpos : isFiniteVec3 (msg.get (ascii "pos")) = some pos)
    (hinside : ¬ (|pos.x| > mapHalf + 5 ∨ |pos.z| > mapHalf + 5 ∨ |pos.y| > 5000))
    (hrotY : (msg.get (ascii "rotY")).asFinite? = some rotY)
    (halive : ∀ p, w.playersCache.get? clientId = some p → 0 < p.hp) :
    (serverHandleState clientId name msg w d).1.playersCache.has clientId = true ∧
      (serverHandleState clientId name msg w d).1.pendingStates.has clientId = true := by
  unfold serverHandleState
  simp only [hpos, hrotY, if_neg hinside]
  cases hprev : w.playersCache.get? clientId with
  | none =>
      -- a first state
      simp only [Option.any_none, Bool.false_eq_true, ite_false, enqueuePendingState]
      exact ⟨(Map.has_set_iff _ _ _ _).mpr (Or.inl rfl), (Map.has_set_iff _ _ _ _).mpr (Or.inl rfl)⟩
  | some p =>
      -- a move: a living player is neither frozen nor revived
      have hp : ¬ p.hp ≤ 0 := not_le.mpr (halive p hprev)
      have hnotfrozen : ¬ (p.hp ≤ 0 ∧ p.deadUntil > w.now) := fun h => hp h.1
      simp only [Option.any_some, hnotfrozen, decide_false, Bool.false_eq_true, ite_false, if_neg hp,
        enqueuePendingState]
      exact ⟨(Map.has_set_iff _ _ _ _).mpr (Or.inl rfl), (Map.has_set_iff _ _ _ _).mpr (Or.inl rfl)⟩

theorem stateAtCentre_inside :
    ¬ (|(0 : ℝ)| > mapHalf + 5 ∨ |(0 : ℝ)| > mapHalf + 5 ∨ |(0 : ℝ)| > 5000) := by
  norm_num [mapHalf]

/-- A living registered player's `stateAtCentre`, past both windows, writes its
entry and puts its state in the buffer. -/
theorem onMessage_stateAtCentre_stores {w : World} {k : ℕ} {cid : JsString} {c : WSClient}
    (hreg : Registered w k cid c) (hrate : (w.now : ℤ) - c.bucketStart > rateWindowMs)
    (hfreq : c.lastStateAt + 1000 / stateHz ≤ w.now)
    (halive : ∀ p, w.playersCache.get? cid = some p → 0 < p.hp) (d : Draw) :
    (onMessage k (some stateAtCentre) w d).1.playersCache.has cid = true ∧
      (onMessage k (some stateAtCentre) w d).1.pendingStates.has cid = true := by
  obtain ⟨name, w', hcache, -, -, heq⟩ := onMessage_stateAtCentre hreg hrate hfreq d
  rw [heq]
  exact serverHandleState_stores d stateAtCentre_pos stateAtCentre_inside stateAtCentre_rotY
    (hcache ▸ halive)

/-! ## The 20 Hz batch -/

/-- While anybody is online and a state is pending, the 20 Hz loop sends the
whole buffer as one batch and clears it. -/
theorem stateTick_of_pending {w : World} {cid j : JsString} (honline : w.clients.has cid = true)
    (hpending : w.pendingStates.has j = true) :
    stateTick w = { w with
      pendingStates := w.pendingStates.clear
      statesSent := w.statesSent ++ [w.pendingStates.values] } := by
  obtain ⟨u, hu⟩ := Map.has_eq_true_iff.mp honline
  obtain ⟨p, hp⟩ := Map.has_eq_true_iff.mp hpending
  have hclients : w.clients.size ≠ 0 := Nat.pos_iff_ne_zero.mp (Map.size_pos_of_get?_eq_some hu)
  have hbuffer : w.pendingStates.size ≠ 0 := Nat.pos_iff_ne_zero.mp (Map.size_pos_of_get?_eq_some hp)
  simp only [stateTick, hclients, hbuffer, ite_false]

/-! ## The run -/

/-- **A session.**  On a fresh server connection `0` opens and says `hello`
with the name `"a"`, its `welcome` snapshot goes out, and a hundred seconds
pass: the player is registered on the open connection, online and alive, and
both its rate limit's window and its `state` interval are over. -/
theorem Reachable.session :
    ∃ w cid c, Reachable ⟨w, []⟩ ∧ w.conns.get? 0 = some ⟨some cid, true, false⟩ ∧
      Registered w 0 cid c ∧ (w.now : ℤ) - c.bucketStart > rateWindowMs ∧
      c.lastStateAt + 1000 / stateHz ≤ w.now ∧
      (∀ p, w.playersCache.get? cid = some p → 0 < p.hp) ∧
      w.clients.has cid = true ∧ w.snapshotsSent ≠ [] := by
  let w₀ := (initSys 0 0 fun _ => 0).world
  have hfresh : w₀.conns.get? 0 = none := by
    rw [show w₀.conns = Map.empty from initSys_conns 0 0 _]
    rfl
  obtain ⟨snap, hhello⟩ := serverOnHello_str (ascii "a") w₀.now sessionDraw
  have hwelcomed := (Reachable.start.hello hfresh sessionDraw_valid hhello).welcome sessionDraw_valid
  -- the `welcome` snapshot and the clock leave the registration alone
  let w₁ := registerClient 0 w₀.now snap { w₀ with conns := w₀.conns.set 0 ⟨none, true, false⟩ }
  have hconn₀ : { w₀ with conns := w₀.conns.set 0 ⟨none, true, false⟩ }.conns.get? 0 =
      some ⟨none, true, false⟩ := Map.get?_set_self _ _ _
  have hconn : w₁.conns.get? 0 = some ⟨some snap.id, true, false⟩ :=
    registerClient_conn 0 w₀.now snap _ hconn₀
  have hnow : w₁.now = w₀.now := registerClient_now 0 w₀.now snap _
  have hhp : snap.hp = 100 := (serverOnHello_ok hhello).2.2.1
  refine ⟨_, snap.id, helloClient w₀.now snap, hwelcomed.tick 100000, hconn,
    registerClient_registered 0 w₀.now snap _ hconn₀, ?_, ?_, ?_,
    registerClient_clients_has 0 w₀.now snap _, by simp⟩
  · show ((w₁.now + 100000 : ℕ) : ℤ) - (w₀.now : ℤ) > (rateWindowMs : ℤ)
    rw [hnow]
    norm_num [rateWindowMs]
  · show 0 + 1000 / stateHz ≤ w₁.now + 100000
    norm_num [stateHz]
  · -- the only entry of the id is the snapshot `hello` made
    intro p hp
    dsimp only at hp
    rw [registerClient_cache, Option.some.injEq] at hp
    rw [← hp, hhp]
    norm_num

/-- **The session's `state` frame.**  The player of `Reachable.session` sends
`stateAtCentre` and the frame's first segment runs: the player is still
online, has its entry in the cache, and its state waits in the buffer for the
next batch. -/
theorem Reachable.session_state :
    ∃ s cid, Reachable s ∧ s.world.clients.has cid = true ∧ s.world.playersCache.has cid = true ∧
      s.world.pendingStates.has cid = true ∧ s.world.snapshotsSent ≠ [] := by
  obtain ⟨w, cid, c, hs, hk, hreg, hrate, hfreq, halive, honline, hsent⟩ := Reachable.session
  have hstate := (hs.arrive hk rfl (some stateAtCentre)).resume_last sessionDraw_valid
  -- the segment is a sequence of writes, which keep `clients` and the snapshots sent
  have hkeep := Writes.keeps (onMessage_writes (w := w) (d := sessionDraw) 0 (some stateAtCentre))
  have hstored := onMessage_stateAtCentre_stores hreg hrate hfreq halive sessionDraw
  exact ⟨_, cid, hstate, hkeep.1 ▸ honline, hstored.1, hstored.2, hkeep.2.2 ▸ hsent⟩

end SnowBrawl
