import SnowBrawl.Cache
import SnowBrawl.Session

/-!
# What the server broadcasts

Two loops of `state.ts` broadcast the world.  The 20 Hz loop of
`startStateTickOnce` sends the buffer `pendingStates`, the latest state of each
player, as one `states` batch and clears it; it skips an iteration when nobody
listens or nothing is pending, and then the buffer is kept.  The 1 Hz loop of
`startStateSyncOnce` sends the whole cache as a `snapshot`, and so does every
`welcome`.  The model records the batches in `World.statesSent` and
`World.snapshotsSent`.

Everything else the server does may put a state into the buffer, under the id of
the player it is about (`enqueuePendingState` in `serverHandleState`, in the
revive, and at the end of every bot visit), and may send a snapshot of the cache
(the `welcome` of a hello).  Nothing else empties the buffer or sends a batch.

## Main definitions

* `SendFrame` — what a segment may do to the buffer and the batches: store a
  state under its own player's id, and send snapshots that pass `SnapshotOk`.
* `BroadcastOk` — the buffer holds each state under its player's id, every
  `states` batch names each player at most once, and every snapshot passes
  `SnapshotOk`.

## Main results

* `BroadcastOk.of_reachable` — every reachable state satisfies `BroadcastOk`.
* `broadcast_batches_distinct` — no batch sent repeats a player, and every
  player a snapshot carries is a valid cache entry.
* `pending_state_never_lost` — along any run, a player whose state is pending
  still has one pending, or a state of theirs went out in a `states` batch sent
  during the run.
-/

namespace SnowBrawl

open Js

/-! ## The buffer and the batches -/

/-- A change of the buffer at key `j` that stores a state of player `j`. -/
def OwnState (j : JsString) (_ : Option PendingState) (new : Option PendingState) : Prop :=
  ∃ p, new = some p ∧ p.id = j

theorem ownState_trans (j : JsString) (x y z : Option PendingState) (_ : OwnState j x y)
    (h : OwnState j y z) : OwnState j x z := h

/-- A snapshot that names each player once, each with a valid entry. -/
def SnapshotOk (batch : List PlayerSnapshot) : Prop :=
  (batch.map PlayerSnapshot.id).Nodup ∧ ∀ e ∈ batch, EntryOk e

/-- The values of a valid cache are a valid snapshot. -/
theorem snapshotOk_values {cache : Map JsString PlayerSnapshot} (h : CacheOk cache) :
    SnapshotOk cache.values := by
  refine ⟨Map.nodup_map_values fun j e hj => (h j e hj).2, fun e he => ?_⟩
  obtain ⟨j, hj⟩ := Map.mem_values_iff.mp he
  exact (h.entry hj).1

/-- What a segment may do to what the server broadcasts: store a state under its
own player's id, send snapshots that pass `SnapshotOk`, and send no `states`
batch. -/
structure SendFrame (w w' : World) : Prop where
  statesSent : w'.statesSent = w.statesSent
  snapshots : ∃ sent, w'.snapshotsSent = w.snapshotsSent ++ sent ∧ ∀ batch ∈ sent, SnapshotOk batch
  pending : Map.ChangesOnly OwnState w.pendingStates w'.pendingStates

namespace SendFrame

variable {w w' w'' : World}

theorem refl (w : World) : SendFrame w w :=
  ⟨rfl, ⟨[], by simp, by simp⟩, .refl _ _⟩

theorem of_eq (hpending : w'.pendingStates = w.pendingStates) (hstates : w'.statesSent = w.statesSent)
    (hsnapshots : w'.snapshotsSent = w.snapshotsSent) : SendFrame w w' :=
  ⟨hstates, ⟨[], by simp [hsnapshots], by simp⟩, .of_eq _ hpending⟩

theorem trans (h₁ : SendFrame w w') (h₂ : SendFrame w' w'') : SendFrame w w'' := by
  obtain ⟨sent₁, hsent₁, hok₁⟩ := h₁.snapshots
  obtain ⟨sent₂, hsent₂, hok₂⟩ := h₂.snapshots
  refine ⟨h₂.statesSent.trans h₁.statesSent, ⟨sent₁ ++ sent₂, ?_, ?_⟩,
    h₁.pending.trans ownState_trans h₂.pending⟩
  · rw [hsent₂, hsent₁, List.append_assoc]
  · intro batch hbatch
    rcases List.mem_append.mp hbatch with h | h
    · exact hok₁ batch h
    · exact hok₂ batch h

/-- `enqueuePendingState` stores the state under its own player's id. -/
theorem enqueuePendingState (p : PendingState) : SendFrame w (SnowBrawl.enqueuePendingState p w) :=
  ⟨rfl, ⟨[], by simp [SnowBrawl.enqueuePendingState], by simp⟩, .set ⟨p, rfl, rfl⟩⟩

theorem setClientObj (cid : JsString) (c : WSClient) : SendFrame w (SnowBrawl.setClientObj cid c w) :=
  .of_eq rfl rfl rfl

/-- An update of a connection's record. -/
theorem updateConn (k : ℕ) (f : Conn → Conn) : SendFrame w (SnowBrawl.updateConn k f w) := by
  unfold SnowBrawl.updateConn
  split
  · exact .of_eq rfl rfl rfl
  · exact .refl w

/-- A snapshot of the cache as it is. -/
theorem snapshot (hcache : CacheOk w.playersCache) :
    SendFrame w { w with snapshotsSent := w.snapshotsSent ++ [w.playersCache.values] } := by
  refine ⟨rfl, ⟨[w.playersCache.values], rfl, ?_⟩, .refl _ _⟩
  intro batch hbatch
  rw [List.mem_singleton.mp hbatch]
  exact snapshotOk_values hcache

end SendFrame

/-! ### Each segment -/

namespace SendFrame

variable {w w' : World}

/-- Of the kinds of write, only `enqueuePendingState` touches the buffer, and
none sends a batch. -/
theorem of_write (h : Write w w') : SendFrame w w' := by
  cases h with
  | clientObj cid c => exact setClientObj cid c
  | conn k f _ => exact updateConn k f
  | enqueue p => exact enqueuePendingState p
  | event | setCache | updateCache | bots | seenShots | kills => exact .of_eq rfl rfl rfl

theorem of_writes (h : Writes w w') : SendFrame w w' :=
  Writes.lift refl trans of_write h

end SendFrame

section Segments

variable {w : World} {d : Draw}

theorem onClose_sendFrame (k : ℕ) : SendFrame w (onClose k w).1 := by
  have hconn : SendFrame w
      (SnowBrawl.updateConn k (fun conn => { conn with accepting := false, closed := true }) w) :=
    .updateConn k _
  unfold onClose
  split
  · exact hconn
  · exact hconn.trans (.of_eq rfl rfl rfl)

theorem registerClient_sendFrame (k now : ℕ) (snap : PlayerSnapshot) :
    SendFrame w (registerClient k now snap w) :=
  (SendFrame.updateConn k _).trans (.of_eq rfl rfl rfl)

/-- The segments of `onmessage` after its first: the `welcome` of a hello sends
the cache, which is valid. -/
theorem resumeMessage_sendFrame (hcache : CacheOk w.playersCache) (k : ℕ) (stage : MessageStage) :
    SendFrame w (resumeMessage k w d stage).1 := by
  cases stage with
  | decoding msg => exact .of_writes (onMessage_writes k msg)
  | hello now snap => exact registerClient_sendFrame k now snap
  | joined => exact .snapshot hcache
  | respawned pending => exact .enqueuePendingState pending
  | shooting clientId stage => exact .of_writes (resumeShot_writes clientId stage)
  | broadcasting => exact .refl w

theorem resumeTask_sendFrame (hcache : CacheOk w.playersCache) (t : Task) :
    SendFrame w (resumeTask t w d).1 := by
  cases t with
  | message k stage => exact resumeMessage_sendFrame hcache k stage
  | closing _ => exact .refl w
  | bots now id rest stage => exact .of_writes (resumeBots_writes now id rest stage)

end Segments

/-! ## The invariant -/

/-- The buffer holds each state under its player's id, every `states` batch
names each player at most once, and every snapshot sent passes `SnapshotOk`. -/
structure BroadcastOk (w : World) : Prop where
  pending : w.pendingStates.All fun j p => p.id = j
  states : ∀ batch ∈ w.statesSent, (batch.map PendingState.id).Nodup
  snapshots : ∀ batch ∈ w.snapshotsSent, SnapshotOk batch

namespace BroadcastOk

variable {w w' : World}

theorem frame (h : BroadcastOk w) (hf : SendFrame w w') : BroadcastOk w' := by
  obtain ⟨sent, hsent, hok⟩ := hf.snapshots
  refine ⟨fun j p hj => ?_, hf.statesSent ▸ h.states, ?_⟩
  · -- an entry is the one before, or a state stored under its own id
    rcases hf.pending j with hsame | ⟨q, hq, hid⟩
    · exact h.pending j p (hsame ▸ hj)
    · rw [hj, Option.some.injEq] at hq
      exact hq ▸ hid
  · intro batch hbatch
    rw [hsent] at hbatch
    rcases List.mem_append.mp hbatch with hbatch | hbatch
    · exact h.snapshots batch hbatch
    · exact hok batch hbatch

/-- The 20 Hz loop sends the buffer, which names each player once. -/
theorem stateTick (h : BroadcastOk w) : BroadcastOk (SnowBrawl.stateTick w) := by
  unfold SnowBrawl.stateTick
  split_ifs
  · exact h
  · exact h
  · refine ⟨Map.all_empty _, fun batch hbatch => ?_, h.snapshots⟩
    rcases List.mem_append.mp hbatch with hbatch | hbatch
    · exact h.states batch hbatch
    · rw [List.mem_singleton.mp hbatch]
      exact Map.nodup_map_values h.pending

theorem snapshotTick (h : BroadcastOk w) (hcache : CacheOk w.playersCache) :
    BroadcastOk (SnowBrawl.snapshotTick w) := by
  unfold SnowBrawl.snapshotTick
  split_ifs
  · exact h
  · exact h.frame (.snapshot hcache)

theorem init (worldSeed now : ℕ) (rs : Stream' ℝ) : BroadcastOk (initSys worldSeed now rs).world := by
  have hempty : BroadcastOk (emptyWorld worldSeed now) :=
    ⟨Map.all_empty _, by simp [emptyWorld], by simp [emptyWorld]⟩
  exact hempty.frame (.of_writes (initBotsFrom_writes rs 0 botCount _))

/-- **Every transition keeps `BroadcastOk`.** -/
theorem step {s s' : Sys} (hinv : SysInv s) (h : BroadcastOk s.world) (hstep : Step s s') :
    BroadcastOk s'.world := by
  cases hstep with
  | connect s k fresh => exact h.frame (.of_eq rfl rfl rfl)
  | arrive => exact h
  | close s k c _ _ => exact h.frame (onClose_sendFrame k)
  | resume w pre post t d _ => exact h.frame (resumeTask_sendFrame hinv.world.cache t)
  | botTimer s d _ =>
      exact h.frame (.of_writes (scanBots_writes s.world.now s.world.bots.keys s.world d))
  | cleanup s => exact h.frame (.of_eq rfl rfl rfl)
  | purge s => exact h.frame (.of_eq rfl rfl rfl)
  | stateTick s => exact h.stateTick
  | snapshotTick s => exact h.snapshotTick hinv.world.cache
  | tick s dt => exact h.frame (.of_eq rfl rfl rfl)

theorem of_reachable {s : Sys} (hs : Reachable s) : BroadcastOk s.world := by
  induction hs with
  | init worldSeed now rs _ => exact init worldSeed now rs
  | step hs hstep ih => exact ih.step (SysInv.of_reachable hs) hstep

end BroadcastOk

/-- **No batch the server sends repeats a player**, and every player a snapshot
carries is a valid cache entry. -/
theorem broadcast_batches_distinct {s : Sys} (hs : Reachable s) :
    (∀ batch ∈ s.world.statesSent, (batch.map PendingState.id).Nodup) ∧
      ∀ batch ∈ s.world.snapshotsSent, (batch.map PlayerSnapshot.id).Nodup ∧ ∀ e ∈ batch, EntryOk e :=
  ⟨(BroadcastOk.of_reachable hs).states, (BroadcastOk.of_reachable hs).snapshots⟩

/-- After a session's `state` frame and the 20 Hz tick after it, both kinds of
batch have gone out. -/
theorem broadcast_batches_distinct_after_a_state :
    ∃ s, Reachable s ∧ s.world.statesSent ≠ [] ∧ s.world.snapshotsSent ≠ [] ∧
      (∀ batch ∈ s.world.statesSent, (batch.map PendingState.id).Nodup) ∧
      ∀ batch ∈ s.world.snapshotsSent, (batch.map PlayerSnapshot.id).Nodup ∧ ∀ e ∈ batch, EntryOk e := by
  obtain ⟨s, cid, hs, honline, -, hpending, hsent⟩ := Reachable.session_state
  have hs' : Reachable ⟨stateTick s.world, s.tasks⟩ := hs.step (Step.stateTick s)
  have htick := stateTick_of_pending honline hpending
  refine ⟨_, hs', ?_, ?_, broadcast_batches_distinct hs'⟩
  · show (stateTick s.world).statesSent ≠ []
    rw [htick]
    simp
  · show (stateTick s.world).snapshotsSent ≠ []
    rw [htick]
    exact hsent

/-! ## No pending state is lost -/

/-- From `w` to `w'` the server sends the `states` batches `sent`, and every
player pending in `w` is still pending in `w'` or named in a batch sent. -/
def KeepsPending (w w' : World) : Prop :=
  ∃ sent, w'.statesSent = w.statesSent ++ sent ∧
    ∀ j, w.pendingStates.has j = true →
      w'.pendingStates.has j = true ∨ ∃ batch ∈ sent, ∃ p ∈ batch, p.id = j

namespace KeepsPending

variable {w w' w'' : World}

theorem of_eq (hpending : w'.pendingStates = w.pendingStates) (hstates : w'.statesSent = w.statesSent) :
    KeepsPending w w' :=
  ⟨[], by rw [hstates, List.append_nil], fun _ hj => Or.inl (hpending ▸ hj)⟩

theorem refl (w : World) : KeepsPending w w :=
  of_eq rfl rfl

theorem trans (h₁ : KeepsPending w w') (h₂ : KeepsPending w' w'') : KeepsPending w w'' := by
  obtain ⟨sent₁, hsent₁, hkeep₁⟩ := h₁
  obtain ⟨sent₂, hsent₂, hkeep₂⟩ := h₂
  refine ⟨sent₁ ++ sent₂, by rw [hsent₂, hsent₁, List.append_assoc], fun j hj => ?_⟩
  rcases hkeep₁ j hj with hj' | ⟨batch, hbatch, hp⟩
  · rcases hkeep₂ j hj' with hj'' | ⟨batch, hbatch, hp⟩
    · exact Or.inl hj''
    · exact Or.inr ⟨batch, List.mem_append_right _ hbatch, hp⟩
  · exact Or.inr ⟨batch, List.mem_append_left _ hbatch, hp⟩

/-- A segment sends no `states` batch and removes nobody from the buffer. -/
theorem of_sendFrame (hf : SendFrame w w') : KeepsPending w w' := by
  refine ⟨[], by rw [hf.statesSent, List.append_nil], fun j hj => Or.inl ?_⟩
  obtain ⟨p, hp⟩ := Map.has_eq_true_iff.mp hj
  rcases hf.pending j with hsame | ⟨q, hq, -⟩
  · exact Map.has_eq_true_iff.mpr ⟨p, hsame.trans hp⟩
  · exact Map.has_eq_true_iff.mpr ⟨q, hq⟩

/-- The 20 Hz loop either keeps the buffer or sends every state in it. -/
theorem stateTick (h : BroadcastOk w) : KeepsPending w (SnowBrawl.stateTick w) := by
  unfold SnowBrawl.stateTick
  split_ifs
  · exact refl w
  · exact refl w
  · refine ⟨[w.pendingStates.values], rfl, fun j hj => Or.inr ?_⟩
    obtain ⟨p, hp⟩ := Map.has_eq_true_iff.mp hj
    exact ⟨_, List.mem_singleton_self _, p, Map.mem_values_iff.mpr ⟨j, hp⟩, h.pending j p hp⟩

theorem step {s s' : Sys} (hinv : SysInv s) (h : BroadcastOk s.world) (hstep : Step s s') :
    KeepsPending s.world s'.world := by
  cases hstep with
  | connect s k fresh => exact of_sendFrame (.of_eq rfl rfl rfl)
  | arrive => exact refl _
  | close s k c _ _ => exact of_sendFrame (onClose_sendFrame k)
  | resume w pre post t d _ => exact of_sendFrame (resumeTask_sendFrame hinv.world.cache t)
  | botTimer s d _ =>
      exact of_sendFrame (.of_writes (scanBots_writes s.world.now s.world.bots.keys s.world d))
  | cleanup s => exact of_sendFrame (.of_eq rfl rfl rfl)
  | purge s => exact of_sendFrame (.of_eq rfl rfl rfl)
  | stateTick s => exact stateTick h
  | snapshotTick s =>
      unfold SnowBrawl.snapshotTick
      split_ifs
      · exact refl _
      · exact of_eq rfl rfl
  | tick s dt => exact of_sendFrame (.of_eq rfl rfl rfl)

end KeepsPending

theorem Reachable.of_run {s s' : Sys} (hs : Reachable s) (hrun : Relation.ReflTransGen Step s s') :
    Reachable s' := by
  induction hrun with
  | refl => exact hs
  | tail _ hstep ih => exact ih.step hstep

/-- **No pending state is lost.**  Along any run from a reachable state, the
`states` batches only grow, and a player whose state is pending at the start
still has a state pending at the end, or a state of theirs went out in one of
the batches sent during the run. -/
theorem pending_state_never_lost {s s' : Sys} (hs : Reachable s)
    (hrun : Relation.ReflTransGen Step s s') :
    ∃ sent, s'.world.statesSent = s.world.statesSent ++ sent ∧
      ∀ j, s.world.pendingStates.has j = true →
        s'.world.pendingStates.has j = true ∨ ∃ batch ∈ sent, ∃ p ∈ batch, p.id = j := by
  induction hrun with
  | refl => exact KeepsPending.refl _
  | tail hrun hstep ih =>
      have hmid := hs.of_run hrun
      exact KeepsPending.trans ih (KeepsPending.step (SysInv.of_reachable hmid) (BroadcastOk.of_reachable hmid) hstep)

/-- After a session's `state` frame, the player's state is pending, and the
next 20 Hz tick sends it. -/
theorem pending_state_never_lost_over_a_tick :
    ∃ s j, Reachable s ∧ s.world.pendingStates.has j = true ∧
      (stateTick s.world).statesSent = s.world.statesSent ++ [s.world.pendingStates.values] ∧
      Relation.ReflTransGen Step s ⟨stateTick s.world, s.tasks⟩ ∧
      ∃ sent, (stateTick s.world).statesSent = s.world.statesSent ++ sent ∧
        ∀ j, s.world.pendingStates.has j = true →
          (stateTick s.world).pendingStates.has j = true ∨ ∃ batch ∈ sent, ∃ p ∈ batch, p.id = j := by
  obtain ⟨s, cid, hs, honline, -, hpending, -⟩ := Reachable.session_state
  have hrun : Relation.ReflTransGen Step s ⟨stateTick s.world, s.tasks⟩ := .single (Step.stateTick s)
  refine ⟨s, cid, hs, hpending, ?_, hrun, pending_state_never_lost hs hrun⟩
  rw [stateTick_of_pending honline hpending]

end SnowBrawl
