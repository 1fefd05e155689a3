import SnowBrawl.Names

/-!
# The lifetime of a connection

`handleWs` keeps the player of a connection in its closure variable `client`.
`onclose` removes that player from `clients` and appends `leave`, but it reads
`client` when it runs, and `onmessage` assigns `client` only after two
`await`s: the decryption of the frame and `serverOnHello`.  A `hello` whose
decryption is still pending when the socket closes therefore registers its
player after `onclose` has found nothing to remove.

From then on nothing removes the player: the connection is closed, so no frame
and no second `onclose` arrive; the idle cleanup spares every id in `clients`;
and the snapshot loop keeps sending it.  `hello_after_close_stays_online` builds
that run from any reachable state.
-/

namespace SnowBrawl

open Js

/-- The connection a suspended task belongs to. -/
def Task.conn? : Task → Option ℕ
  | .message k _ => some k
  | .closing k => some k
  | .bots .. => none

/-- Connection `k` is over: `onclose` has run and no task of `k` is suspended. -/
def Finished (s : Sys) (k : ℕ) : Prop :=
  (∃ c, s.world.conns.get? k = some c ∧ c.closed = true) ∧ ∀ t ∈ s.tasks, t.conn? ≠ some k

/-- `onclose` of a connection that holds no client only marks it closed. -/
theorem onClose_unregistered {k : ℕ} {w : World}
    (hnone : (w.conns.get? k).bind Conn.client = none) :
    onClose k w = (updateConn k (fun conn => { conn with accepting := false, closed := true }) w,
      none) := by
  simp only [onClose, hnone]

/-- Some connection number is neither open nor named by a suspended task. -/
theorem exists_unused_conn (w : World) (ts : List Task) :
    ∃ k, w.conns.get? k = none ∧ ∀ t ∈ ts, t.conn? ≠ some k := by
  obtain ⟨k, hk⟩ := Infinite.exists_notMem_finset (w.conns.keys ++ ts.filterMap Task.conn?).toFinset
  rw [List.mem_toFinset, List.mem_append, not_or] at hk
  refine ⟨k, Map.get?_eq_none_iff.mpr hk.1, fun t ht hconn => hk.2 ?_⟩
  exact List.mem_filterMap.mpr ⟨t, ht, hconn⟩

/-- The idle cleanup never drops the entry of an id in `clients`. -/
theorem cleanupIdle_keeps_online {w : World} {cid : JsString} (honline : w.clients.has cid = true) :
    (cleanupIdle w).playersCache.get? cid = w.playersCache.get? cid := by
  simp only [cleanupIdle, Map.get?_filter, honline, Bool.true_or]
  -- the filter's predicate is now constantly true
  cases w.playersCache.get? cid <;> rfl

/-- While anybody is in `clients`, the 1 Hz loop assembles a snapshot of the cache. -/
theorem snapshotTick_of_online {w : World} {cid : JsString} (honline : w.clients.has cid = true) :
    (snapshotTick w).snapshotsSent = w.snapshotsSent ++ [w.playersCache.values] := by
  obtain ⟨u, hu⟩ := Map.has_eq_true_iff.mp honline
  have hsize : w.clients.size ≠ 0 := Nat.pos_iff_ne_zero.mp (Map.size_pos_of_get?_eq_some hu)
  simp only [snapshotTick, hsize, ite_false]

/-- **A `hello` decrypted after `onclose` keeps its player online for good.**
From any reachable state: a new connection `k` receives a `hello` frame and
closes while the frame is still being decrypted.  `onclose` finds no client to
remove; then the `hello` registers one.  Once everything of `k` has finished,
its player is in `clients` and in the cache, the idle cleanup spares it, and the
next snapshot the 1 Hz loop assembles lists it. -/
theorem hello_after_close_stays_online {s : Sys} (hs : Reachable s) :
    ∃ s' k cid, Reachable s' ∧ Finished s' k ∧
      (s'.world.conns.get? k).bind Conn.client = some cid ∧
      s'.world.clients.has cid = true ∧
      (cleanupIdle s'.world).playersCache.get? cid = s'.world.playersCache.get? cid ∧
      (∃ p, s'.world.playersCache.get? cid = some p) ∧
      (snapshotTick s'.world).snapshotsSent =
        s'.world.snapshotsSent ++ [s'.world.playersCache.values] ∧
      ∃ p ∈ s'.world.playersCache.values, p.id = cid := by
  obtain ⟨w, ts⟩ := s
  obtain ⟨k, fresh, hunused⟩ := exists_unused_conn w ts
  let d : Draw := ⟨fun _ => 0, ascii "u"⟩
  have hd : d.Valid := fun _ => ⟨le_refl 0, zero_lt_one⟩
  obtain ⟨snap, hhello⟩ := serverOnHello_str (ascii "a") w.now d
  -- `k` opens and a `hello` frame arrives; its decryption is pending
  have hopened := hs.connect fresh
  have hconn₁ : ({ w with conns := w.conns.set k ⟨none, true, false⟩ } : World).conns.get? k =
      some ⟨none, true, false⟩ := Map.get?_set_self _ _ _
  have hnow₁ : ({ w with conns := w.conns.set k ⟨none, true, false⟩ } : World).now = w.now := rfl
  generalize ({ w with conns := w.conns.set k ⟨none, true, false⟩ } : World) = w₁
    at hopened hconn₁ hnow₁
  have harrived := hopened.arrive hconn₁ rfl
    (some (clientMessage "hello" [("name", .str (ascii "a"))]))
  -- `onclose` runs now and finds no client
  have hclosed := harrived.close hconn₁ rfl
  rw [onClose_unregistered (by rw [hconn₁]; rfl)] at hclosed
  simp only [Option.toList, List.append_nil] at hclosed
  have hconn₂ := updateConn_get?_self k
    (fun conn => { conn with accepting := false, closed := true }) w₁ hconn₁
  have hnow₂ := updateConn_now k (fun conn : Conn => { conn with accepting := false, closed := true }) w₁
  generalize updateConn k (fun conn => { conn with accepting := false, closed := true }) w₁ = w₂
    at hclosed hconn₂ hnow₂
  -- the decryption resolves, and the `hello` registers `snap.id` on the closed connection
  have hhello₂ : serverOnHello (.str (ascii "a")) w₂.now d = .ok snap := by
    rw [hnow₂, hnow₁]
    exact hhello
  have hjoined := (hclosed.decode_hello (by rw [hconn₂]; rfl) hd hhello₂).register hd
  have hconn₃ := registerClient_conn k w₂.now snap w₂ hconn₂
  have hhas := registerClient_clients_has k w₂.now snap w₂
  have hcache := registerClient_cache k w₂.now snap w₂
  generalize registerClient k w₂.now snap w₂ = w₃ at hjoined hconn₃ hhas hcache
  -- the invocation returns; everything of `k` is over
  have hdone := hjoined.welcome hd
  refine ⟨_, k, snap.id, hdone, ⟨⟨_, hconn₃, rfl⟩, hunused⟩, ?bind, hhas, ?cleanup, ⟨snap, hcache⟩,
    ?snapshot, snap, Map.mem_values_iff.mpr ⟨snap.id, hcache⟩, rfl⟩
  case bind =>
    rw [hconn₃]
    rfl
  -- the cleanup and the snapshot loop both test membership in `clients`
  case cleanup => exact cleanupIdle_keeps_online hhas
  case snapshot => exact snapshotTick_of_online hhas

theorem hello_after_close_stays_online_from_start :
    Reachable (initSys 0 0 fun _ => 0) ∧
    ∃ s' k cid, Reachable s' ∧ Finished s' k ∧
      (s'.world.conns.get? k).bind Conn.client = some cid ∧
      s'.world.clients.has cid = true ∧
      (cleanupIdle s'.world).playersCache.get? cid = s'.world.playersCache.get? cid ∧
      (∃ p, s'.world.playersCache.get? cid = some p) ∧
      (snapshotTick s'.world).snapshotsSent =
        s'.world.snapshotsSent ++ [s'.world.playersCache.values] ∧
      ∃ p ∈ s'.world.playersCache.values, p.id = cid := by
  exact ⟨Reachable.start, hello_after_close_stays_online Reachable.start⟩

end SnowBrawl
