import SnowBrawl.Broadcasts
import SnowBrawl.BotEntries
import SnowBrawl.Sessions
import SnowBrawl.Recovery
import SnowBrawl.Client.Network

/-!
# Every online player is in the world

A player joins `clients` and the cache in one synchronous block of
`onmessage` (`registerClient`), and only two things remove a cache entry: the
`leave` event that `onclose` appends just after it removes the player from
`clients`, and the idle cleanup, which spares every id in `clients`.  Every
other write to the cache sets or updates an entry.  So in every reachable state
every id in `clients` has a cache entry (`OnlineCached`), and since the 1 Hz
snapshot is the whole cache, every online player is in every snapshot.  On the
client, a snapshot files every listed id other than the client's own, so every
online player shows up at every other client once it applies the next snapshot.

## Main definitions

* `KeysFrame` — what a segment other than `registerClient` and `onclose` may do:
  leave `clients` alone and keep every cache key.
* `OnlineCached` — every id in `clients` has a cache entry.

## Main results

* `OnlineCached.of_reachable` — the invariant, from every reachable state.
* `online_player_in_next_snapshot` — the next snapshot lists every online
  player, and a client that applies it files each one other than itself.
-/

namespace SnowBrawl

open Js

/-! ## Cache keys -/

theorem has_updateIfPresent {cache : Map JsString PlayerSnapshot} {j : JsString}
    (hj : cache.has j = true) (id : JsString) (f : PlayerSnapshot → PlayerSnapshot) :
    (updateIfPresent cache id f).has j = true := by
  obtain ⟨p, hp⟩ := Map.has_eq_true_iff.mp hj
  rw [Map.has_eq_true_iff, get?_updateIfPresent]
  split
  · next hsame =>
      subst hsame
      exact ⟨_, by rw [hp, Option.map_some]⟩
  · exact ⟨p, hp⟩

/-- Every event but `leave` sets or updates an entry, so it keeps every key. -/
theorem has_applyEventToCache {cache : Map JsString PlayerSnapshot} {j : JsString}
    (hj : cache.has j = true) {ev : WorldEvent} (hleave : ∀ id name, ev.body ≠ .leave id name) :
    (applyEventToCache ev cache).has j = true := by
  unfold applyEventToCache
  split
  · exact (Map.has_set_iff _ _ _ _).mpr (Or.inr hj)
  · next id name hbody => exact absurd hbody (hleave id name)
  all_goals first
    | exact has_updateIfPresent hj _ _
    | exact hj

/-- What a segment other than `registerClient` and `onclose` may do to the
players: leave `clients` alone and keep every cache key. -/
structure KeysFrame (w w' : World) : Prop where
  clients : w'.clients = w.clients
  keys : ∀ j, w.playersCache.has j = true → w'.playersCache.has j = true

namespace KeysFrame

variable {w w' w'' : World}

theorem refl (w : World) : KeysFrame w w := ⟨rfl, fun _ hj => hj⟩

theorem trans (h₁ : KeysFrame w w') (h₂ : KeysFrame w' w'') : KeysFrame w w'' :=
  ⟨h₂.clients.trans h₁.clients, fun j hj => h₂.keys j (h₁.keys j hj)⟩

theorem of_eq (hclients : w'.clients = w.clients) (hcache : w'.playersCache = w.playersCache) :
    KeysFrame w w' :=
  ⟨hclients, fun _ hj => hcache ▸ hj⟩

theorem of_set (hclients : w'.clients = w.clients) {j : JsString} {x : PlayerSnapshot}
    (hcache : w'.playersCache = w.playersCache.set j x) : KeysFrame w w' :=
  ⟨hclients, fun _ hk => hcache ▸ (Map.has_set_iff _ _ _ _).mpr (Or.inr hk)⟩

theorem of_update (hclients : w'.clients = w.clients) {j : JsString}
    {f : PlayerSnapshot → PlayerSnapshot} (hcache : w'.playersCache = updateIfPresent w.playersCache j f) :
    KeysFrame w w' :=
  ⟨hclients, fun _ hk => hcache ▸ has_updateIfPresent hk j f⟩

theorem appendEventInMem {body : EventBody} (hleave : ∀ id name, body ≠ .leave id name) :
    KeysFrame w (SnowBrawl.appendEventInMem body w) :=
  ⟨rfl, fun _ hj => has_applyEventToCache hj hleave⟩

theorem setClientObj (cid : JsString) (c : WSClient) : KeysFrame w (SnowBrawl.setClientObj cid c w) :=
  .of_eq rfl rfl

theorem updateConn (k : ℕ) (f : Conn → Conn) : KeysFrame w (SnowBrawl.updateConn k f w) :=
  .of_eq (updateConn_clients k f w) (updateConn_playersCache k f w)

/-- Every kind of write keeps `clients` and every cache key: an event other
than `leave` sets or updates an entry. -/
theorem of_write (h : Write w w') : KeysFrame w w' := by
  cases h with
  | event body hleave => exact appendEventInMem hleave
  | setCache j x => exact of_set rfl rfl
  | updateCache j f => exact of_update rfl rfl
  | clientObj cid c => exact setClientObj cid c
  | conn k f _ => exact updateConn k f
  | bots | seenShots | kills | enqueue => exact .of_eq rfl rfl

theorem of_writes (h : Writes w w') : KeysFrame w w' :=
  Writes.lift refl trans of_write h

end KeysFrame

/-! ## The invariant -/

/-- Every id in `clients` has a cache entry. -/
def OnlineCached (w : World) : Prop :=
  ∀ j, w.clients.has j = true → w.playersCache.has j = true

namespace OnlineCached

variable {w : World}

theorem frame {w' : World} (h : OnlineCached w) (hf : KeysFrame w w') : OnlineCached w' := by
  intro j hj
  rw [hf.clients] at hj
  exact hf.keys j (h j hj)

/-- `registerClient` puts the player into `clients` and the cache together. -/
theorem registerClient (h : OnlineCached w) (k now : ℕ) (snap : PlayerSnapshot) :
    OnlineCached (SnowBrawl.registerClient k now snap w) := by
  intro j hj
  simp only [SnowBrawl.registerClient, appendEventInMem_clients, updateConn_clients,
    Map.has_set_iff] at hj
  simp only [SnowBrawl.registerClient, SnowBrawl.appendEventInMem, updateConn_playersCache]
  refine has_applyEventToCache ((Map.has_set_iff _ _ _ _).mpr ?_) (by simp)
  rcases hj with rfl | hj
  · exact Or.inl rfl
  · exact Or.inr (h j hj)

/-- `onclose` removes the player from `clients` before its `leave` removes the
entry. -/
theorem onClose (h : OnlineCached w) (k : ℕ) : OnlineCached (SnowBrawl.onClose k w).1 := by
  have hconn : OnlineCached
      (SnowBrawl.updateConn k (fun conn => { conn with accepting := false, closed := true }) w) :=
    h.frame (.updateConn k _)
  unfold SnowBrawl.onClose
  split
  · exact hconn
  · next cid _ =>
      intro j hj
      simp only [appendEventInMem_clients, Map.has_delete_iff] at hj
      obtain ⟨hne, hj⟩ := hj
      simp only [SnowBrawl.appendEventInMem, applyEventToCache]
      exact (Map.has_delete_iff _ _ _).mpr ⟨hne, hconn j hj⟩

theorem resumeMessage (h : OnlineCached w) (k : ℕ) (d : Draw) (stage : MessageStage) :
    OnlineCached (SnowBrawl.resumeMessage k w d stage).1 := by
  cases stage with
  | decoding msg => exact h.frame (.of_writes (onMessage_writes k msg))
  | hello now snap => exact h.registerClient k now snap
  | joined => exact h
  | respawned pending => exact h
  | shooting clientId stage => exact h.frame (.of_writes (resumeShot_writes clientId stage))
  | broadcasting => exact h

theorem resumeTask (h : OnlineCached w) (t : Task) (d : Draw) :
    OnlineCached (SnowBrawl.resumeTask t w d).1 := by
  cases t with
  | message k stage => exact h.resumeMessage k d stage
  | closing _ => exact h
  | bots now id rest stage => exact h.frame (.of_writes (resumeBots_writes now id rest stage))

/-- The idle cleanup spares every id in `clients`. -/
theorem cleanupIdle (h : OnlineCached w) : OnlineCached (SnowBrawl.cleanupIdle w) := by
  intro j hj
  have honline : w.clients.has j = true := hj
  obtain ⟨p, hp⟩ := Map.has_eq_true_iff.mp (h j honline)
  exact Map.has_eq_true_iff.mpr ⟨p, (cleanupIdle_keeps_online honline).trans hp⟩

theorem init (worldSeed now : ℕ) (rs : Stream' ℝ) : OnlineCached (initSys worldSeed now rs).world := by
  intro j hj
  simp only [initSys, initBots, initBotsFrom_clients, emptyWorld] at hj
  cases hj

/-- **Every transition keeps `OnlineCached`.** -/
theorem step {s s' : Sys} (h : OnlineCached s.world) (hstep : Step s s') : OnlineCached s'.world := by
  cases hstep with
  | connect s k fresh => exact h.frame (.of_eq rfl rfl)
  | arrive => exact h
  | close s k c _ _ => exact h.onClose k
  | resume w pre post t d _ => exact h.resumeTask t d
  | botTimer s d _ =>
      exact h.frame (.of_writes (scanBots_writes s.world.now s.world.bots.keys s.world d))
  | cleanup s => exact h.cleanupIdle
  | purge s => exact h.frame (.of_eq rfl rfl)
  | stateTick s =>
      unfold SnowBrawl.stateTick
      split_ifs
      · exact h
      · exact h
      · exact h.frame (.of_eq rfl rfl)
  | snapshotTick s =>
      unfold SnowBrawl.snapshotTick
      split_ifs
      · exact h
      · exact h.frame (.of_eq rfl rfl)
  | tick s dt => exact h.frame (.of_eq rfl rfl)

theorem of_reachable {s : Sys} (hs : Reachable s) : OnlineCached s.world := by
  induction hs with
  | init worldSeed now rs _ => exact init worldSeed now rs
  | step _ hstep ih => exact ih.step hstep

end OnlineCached

/-! ## Online players in every snapshot -/

/-- **Every online player is in the next snapshot, and shows up at every other
client.**  In every reachable state, for every player in `clients`, the next
iteration of the 1 Hz loop sends a snapshot that lists the player, and a client
that applies the ids of that snapshot files the player in its map (unless it is
the client's own player, or its id is empty, which the client skips). -/
theorem online_player_in_next_snapshot {s : Sys} (hs : Reachable s) {j : JsString}
    (hj : s.world.clients.has j = true) :
    ∃ batch, (snapshotTick s.world).snapshotsSent = s.world.snapshotsSent ++ [batch] ∧
      (∃ e ∈ batch, e.id = j) ∧
      ∀ r : Roster, r.localPlayerId ≠ some j → j ≠ [] →
        (NetworkManager.applySnapshot (batch.map PlayerSnapshot.id) r).playersById.has j = true := by
  obtain ⟨e, he⟩ := Map.has_eq_true_iff.mp (OnlineCached.of_reachable hs j hj)
  -- the entry is stored under its own id
  have hid : e.id = j := ((SysInv.of_reachable hs).world.cache.entry he).2
  have hmem : e ∈ s.world.playersCache.values := Map.mem_values_iff.mpr ⟨j, he⟩
  refine ⟨s.world.playersCache.values, snapshotTick_of_online hj, ⟨e, hmem, hid⟩, ?_⟩
  intro r hlocal hne
  exact NetworkManager.has_applySnapshot_of_mem hlocal (List.mem_map.mpr ⟨e, hmem, hid⟩) hne

theorem online_player_in_next_snapshot_after_hello :
    ∃ s j, Reachable s ∧ s.world.clients.has j = true ∧
      ∃ batch, (snapshotTick s.world).snapshotsSent = s.world.snapshotsSent ++ [batch] ∧
        (∃ e ∈ batch, e.id = j) ∧
        ∀ r : Roster, r.localPlayerId ≠ some j → j ≠ [] →
          (NetworkManager.applySnapshot (batch.map PlayerSnapshot.id) r).playersById.has j = true := by
  obtain ⟨w, cid, -, hs, -, -, -, -, -, honline, -⟩ := Reachable.session
  exact ⟨_, cid, hs, honline, online_player_in_next_snapshot hs honline⟩

end SnowBrawl
