import SnowBrawl.Runs
import SnowBrawl.Limits
import SnowBrawl.HitSearch
import SnowBrawl.Lib.Json

/-!
# Runs with shots

A player's shot takes three segments of its `onmessage` (see `Game`): the
throw, which passes the rate limit and the shot dedup and appends `snowball`;
the landing, which searches the victim over the cache and writes the hit; and,
on a kill, the `death`.  This module gives each segment as one transition of a
run, in the shape of `Runs`: the task resumed is the last one.

The throw used is `throwUp`, straight up and without an id of its own, so that
the shot's id is the handler's `crypto.randomUUID()`.  A throw lands at its
first sample on a player whose cylinder holds the thrower's hand
(`contactTime_of_inside`), whatever its direction.

## Main results

* `Reachable.throw`, `Reachable.land`, `Reachable.survive`, `Reachable.kill` —
  the segments of a shot as transitions.
-/

namespace SnowBrawl

open Js

/-! ## The throw -/

/-- `{"t":"snowball","dir":{"x":0,"y":1,"z":0}}`. -/
def throwUp : JsValue :=
  clientMessage "snowball" [("dir", .obj [(ascii "x", .num (.ofInt 0)), (ascii "y", .num (.ofInt 1)),
    (ascii "z", .num (.ofInt 0))])]

theorem throwUp_get_t : throwUp.get (ascii "t") = .str (ascii "snowball") :=
  clientMessage_get_t _ _ _ (by decide)

theorem throwUp_get_id : throwUp.get (ascii "id") = .undefined := by
  have ht : (ascii "id" == ascii "t") = false := by decide
  have hdir : (ascii "id" == ascii "dir") = false := by decide
  simp [throwUp, clientMessage, JsValue.get, List.lookup, ht, hdir]

theorem isFiniteVec3_throwUp_dir : (isFiniteVec3 (throwUp.get (ascii "dir"))).isSome := by
  rw [throwUp, clientMessage_get_field]
  have hy : (ascii "y" == ascii "z") = false := by decide
  have hx : (ascii "x" == ascii "z") = false := by decide
  have hxy : (ascii "x" == ascii "y") = false := by decide
  have hzero := Json.isFinite_ofInt (k := 0) (by norm_num)
  have hone := Json.isFinite_ofInt (k := 1) (by norm_num)
  simp only [isFiniteVec3, JsValue.truthy, JsValue.get, List.reverse_cons, List.reverse_nil,
    List.nil_append, List.cons_append, List.lookup, beq_self_eq_true, hy, hx, hxy,
    Option.getD_some, JsValue.asFinite?, hzero, hone, if_true]
  rfl

section Handler

variable {w : World} {d : Draw}

/-- A `snowball` goes to `serverHandleSnowball`. -/
theorem dispatch_of_snowball {cid : JsString} {c : WSClient} {m : JsValue}
    (hsnowball : (m.get (ascii "t")).isStr (ascii "snowball") = true) :
    dispatch cid c m w d =
      ((serverHandleSnowball cid m w d).1, (serverHandleSnowball cid m w d).2.map (.shooting cid)) := by
  have hping := isStr_false_of_isStr hsnowball (b := ascii "ping") (by decide)
  have hchat := isStr_false_of_isStr hsnowball (b := ascii "chat") (by decide)
  have hstate := isStr_false_of_isStr hsnowball (b := ascii "state") (by decide)
  simp only [dispatch, hping, hchat, hstate, hsnowball, Bool.false_eq_true, ite_false, ite_true]

/-- The first segment of a shot that gets past the dedup: the dedup entry is
written and `snowball` appended, from the shooter's hand. -/
theorem serverHandleSnowball_of_fresh {clientId shotId : JsString} {msg : JsValue} {rawDir : Vec3}
    (hdir : isFiniteVec3 (msg.get (ascii "dir")) = some rawDir)
    (hid : (isUuidLike (msg.get (ascii "id"))).getD d.uuid = shotId)
    (hfresh : ¬ LiveAt w.now (w.seenShots.get? shotId)) {snap : PlayerSnapshot}
    (hsnap : w.playersCache.get? clientId = some snap) :
    serverHandleSnowball clientId msg w d =
      (appendEventInMem (.snowball shotId clientId ⟨snap.pos.x, snap.pos.y + 1.3, snap.pos.z⟩
          (norm rawDir) snowballSpeed)
        { w with seenShots := w.seenShots.set shotId (w.now + shotDedupMs) },
        .await (.flying shotId ⟨snap.pos.x, snap.pos.y + 1.3, snap.pos.z⟩ (norm rawDir))) := by
  simp only [serverHandleSnowball, hdir, hid, seenShotBefore_of_not_live hfresh, hsnap]

end Handler

/-! ## The segments as transitions -/

namespace Reachable

variable {w : World} {ts : List Task} {k : ℕ}

/-- **The throw.**  `throwUp` arrives on the connection of a registered player
within its rate limit, is decoded, and its handler suspends on the `snowball`
broadcast. -/
theorem throw (hs : Reachable ⟨w, ts⟩) {conn : Conn} (hk : w.conns.get? k = some conn)
    (haccepting : conn.accepting = true) {cid : JsString} {c : WSClient}
    (hreg : Registered w k cid c) (hrate : (rateLimitOk c w.now).1 = true)
    {snap : PlayerSnapshot} (hsnap : w.playersCache.get? cid = some snap) {d : Draw}
    (hd : d.Valid) (hfresh : ¬ LiveAt w.now (w.seenShots.get? d.uuid)) :
    ∃ rawDir : Vec3, Reachable
      ⟨appendEventInMem (.snowball d.uuid cid ⟨snap.pos.x, snap.pos.y + 1.3, snap.pos.z⟩
          (norm rawDir) snowballSpeed)
        { setClientObj cid (rateLimitOk c w.now).2 w with
          seenShots := w.seenShots.set d.uuid (w.now + shotDedupMs) },
        ts ++ [.message k (.shooting cid
          (.flying d.uuid ⟨snap.pos.x, snap.pos.y + 1.3, snap.pos.z⟩ (norm rawDir)))]⟩ := by
  obtain ⟨rawDir, hdir⟩ := Option.isSome_iff_exists.mp isFiniteVec3_throwUp_dir
  refine ⟨rawDir, ?_⟩
  have hdecoded := (hs.arrive hk haccepting (some throwUp)).resume_last hd
  have hid : (isUuidLike (throwUp.get (ascii "id"))).getD d.uuid = d.uuid := by
    rw [throwUp_get_id]
    rfl
  -- the rate limit passes, so the handler is the dispatch of a `snowball`
  have hhandler := serverHandleSnowball_of_fresh (w := setClientObj cid (rateLimitOk c w.now).2 w)
    hdir hid hfresh hsnap
  simp only [resumeTask, resumeMessage, onMessage_registered hreg throwUp rfl d, hrate, if_true,
    dispatch_of_snowball (throwUp_get_t ▸ rfl : (throwUp.get (ascii "t")).isStr
      (ascii "snowball") = true), hhandler] at hdecoded
  exact hdecoded

/-- **The landing.**  After the `snowball` broadcast the search finds `victim`,
and the hit is written; the handler suspends on the `hit` broadcast. -/
theorem land {cid shotId : JsString} {origin dir : Vec3}
    (hs : Reachable ⟨w, ts ++ [.message k (.shooting cid (.flying shotId origin dir))]⟩)
    {victim : PlayerSnapshot} {t : ℝ}
    (hhit : hitSearch cid w.now origin (vec3Mul dir snowballSpeed) w.playersCache.values =
      some (victim, t)) {d : Draw} (hd : d.Valid) :
    Reachable ⟨landHit cid shotId (vec3Mul dir snowballSpeed) victim w,
      ts ++ [.message k (.shooting cid
        (.landed shotId victim (damagedHp victim.hp) (w.now + respawnMs)))]⟩ := by
  have hlanded := hs.resume_last hd
  simp only [resumeTask, resumeMessage, resumeShot, resolveShot, hhit, Option.map_some] at hlanded
  exact hlanded

/-- A hit that leaves hit points ends the handler. -/
theorem survive {cid shotId : JsString} {victim : PlayerSnapshot} {newHp : ℤ} {respawnAt : ℕ}
    (hs : Reachable ⟨w, ts ++ [.message k (.shooting cid (.landed shotId victim newHp respawnAt))]⟩)
    (halive : newHp ≠ 0) {d : Draw} (hd : d.Valid) : Reachable ⟨w, ts⟩ := by
  have hdone := hs.resume_last hd
  simp only [resumeTask, resumeMessage, resumeShot, halive, if_false, Yield.map, Yield.toList,
    List.map_nil, List.append_nil] at hdone
  exact hdone

/-- **The kill.**  A hit that leaves no hit points records the kill and appends
`death`; after that broadcast the handler ends. -/
theorem kill {cid shotId : JsString} {victim : PlayerSnapshot} {newHp : ℤ} {respawnAt : ℕ}
    (hs : Reachable ⟨w, ts ++ [.message k (.shooting cid (.landed shotId victim newHp respawnAt))]⟩)
    (hdead : newHp = 0) {d : Draw} (hd : d.Valid) :
    Reachable ⟨appendEventInMem (.death victim.id victim.name cid (attackerNameOf w cid) shotId respawnAt)
        { w with kills := w.kills ++
          [⟨d.uuid, cid, attackerNameOf w cid, victim.id, victim.name, shotId, w.now⟩] }, ts⟩ := by
  have hkilled := hs.resume_last hd
  simp only [resumeTask, resumeMessage, resumeShot, hdead, if_true, Yield.map, Yield.toList,
    List.map_cons, List.map_nil] at hkilled
  have hdone := hkilled.resume_last hd
  simp only [resumeTask, resumeMessage, resumeShot, Yield.map, Yield.toList, List.map_nil,
    List.append_nil] at hdone
  exact hdone

end Reachable

end SnowBrawl
