import SnowBrawl.Lib.OrderedMap
import SnowBrawl.Lib.JsString

/-!
# The client's player registry

`network.js` keeps the players it draws in two places: the array `players`,
which the render loop walks, and the map `playersById`, through which every
message finds its player.  `localPlayer` is the model the keyboard drives and
`localPlayerId` the id the last `welcome` assigned.  A `PlayerModel` is created
in four places (`createLocalPlayer`, a `join` event, the `states` stream,
`applySnapshot`) and removed only by `removePlayer`, which finds it through the
map.

## Design notes

**Object identity.**  `players.indexOf(p)` and the map hold objects, not ids, so
the model keeps the objects on a heap: `models` lists the `id` of every
`PlayerModel` constructed, in order, and the registry holds indices into it.  The
`id` of a `PlayerModel` never changes.

**What is kept of a message.**  Only what decides which models exist: the ids of
the `snapshot` and `states` entries (`""` also stands for a missing id, which the
code skips the same way), the id of `welcome`, and the player of `join` and
`leave`.  The other events (`chat`, `state`, `snowball`, `hit`, `rename`,
`death`, `respawn`) and the messages `error` and `pong` change fields of existing
models or the page, never the registry.

**Order.**  Messages are processed one after another in the order they arrive;
`NetworkManager` survives reconnects, so `localPlayerId` and `pendingSnapshot`
carry over from one connection to the next.

## Main results

* `Roster.WF` — the registry holds only objects constructed so far, a local
  player carries the current `localPlayerId`, and a snapshot is pending only
  while there is no id.  `wf_processAll`: every run of messages keeps it.
* `Ghost` — an object left in `players` that the map no longer holds; it
  survives `applySnapshot` (`ghost_applySnapshot`).
* `applySnapshot_has_iff` — after a snapshot the map files exactly the listed
  players, the local one apart.
-/

namespace SnowBrawl

open Js

/-- The events of `applyEvent`, by what they do to the registry. -/
inductive ClientEvent where
  | join (playerId : JsString)
  | leave (playerId : JsString)
  /-- `chat`, `state`, `snowball`, `hit`, `rename`, `death` and `respawn`. -/
  | other
  deriving DecidableEq, Repr

/-- The messages `ws.onmessage` of `NetworkManager.connect` dispatches on. -/
inductive ServerMsg where
  | welcome (id : JsString)
  | snapshot (players : List JsString)
  | states (list : List JsString)
  | event (ev : ClientEvent)
  /-- `error` and `pong`. -/
  | other
  deriving DecidableEq, Repr

/-- The registry: the heap of `PlayerModel`s and the globals that hold them. -/
structure Roster where
  /-- The `id` of every `PlayerModel` constructed so far; an object is its index. -/
  models : List JsString
  players : List ℕ
  playersById : Map JsString ℕ
  localPlayer : Option ℕ
  localPlayerId : Option JsString
  /-- `NetworkManager.pendingSnapshot`. -/
  pendingSnapshot : Option (List JsString)

namespace Roster

/-- The page as it loads: nothing constructed, no id, nothing pending. -/
def init : Roster := ⟨[], [], Map.empty, none, none, none⟩

/-- The `id` field of object `ref`. -/
def idOf (r : Roster) (ref : ℕ) : JsString := r.models.getD ref []

/-- `!!localPlayerId`: an id was assigned and it is not `""`. -/
def hasLocalId (r : Roster) : Bool :=
  match r.localPlayerId with
  | some id => !id.isEmpty
  | none => false

theorem hasLocalId_of_eq {r : Roster} {id : JsString} (hid : r.localPlayerId = some id)
    (hne : id ≠ []) : r.hasLocalId = true := by
  simp [hasLocalId, hid, hne]

end Roster

/-! ## The functions of `network.js` -/

/-- `new PlayerModel(scene, id, …)`, `players.push(rp)`, `playersById.set(id, rp)`:
the three lines the `join` event, the `states` stream and `applySnapshot` each
run for a remote player they do not know. -/
def addRemotePlayer (id : JsString) (r : Roster) : Roster :=
  { r with
    models := r.models ++ [id]
    players := r.players ++ [r.models.length]
    playersById := r.playersById.set id r.models.length }

/-- `createLocalPlayer(snap)`. -/
def createLocalPlayer (id : JsString) (r : Roster) : Roster :=
  { r with
    models := r.models ++ [id]
    localPlayer := some r.models.length
    players := r.players ++ [r.models.length]
    playersById := r.playersById.set id r.models.length }

/-- `removePlayer(id)`: the model the map holds under `id` leaves the map and
`players` (`indexOf` finds its first occurrence). -/
def removePlayer (id : JsString) (r : Roster) : Roster :=
  match r.playersById.get? id with
  | some p => { r with playersById := r.playersById.delete id, players := r.players.erase p }
  | none => r

namespace NetworkManager

/-- One iteration of the first loop of `applySnapshot`. -/
def applySnapshotEntry (r : Roster) (id : JsString) : Roster :=
  if id.isEmpty then r
  else if r.localPlayerId = some id then
    match r.localPlayer with
    | none => createLocalPlayer id r
    | some _ => r
  else
    match r.playersById.get? id with
    | some _ => r
    | none => addRemotePlayer id r

/-- The body of the `for (const [id, p] of playersById.entries())` loop. -/
def pruneEntry (ids : List JsString) (r : Roster) (id : JsString) : Roster :=
  if r.localPlayerId ≠ some id ∧ id ∉ ids then removePlayer id r else r

/-- `applySnapshot(list)`.  The pruning loop deletes only the entry it visits, so
it visits exactly the keys present when it starts. -/
def applySnapshot (list : List JsString) (r : Roster) : Roster :=
  let ids := list.filter fun id => !id.isEmpty
  let r := list.foldl applySnapshotEntry r
  r.playersById.keys.foldl (pruneEntry ids) r

/-- One entry of a `states` batch: a player not yet known gets a placeholder model. -/
def applyStatesEntry (r : Roster) (id : JsString) : Roster :=
  if id.isEmpty then r
  else if r.localPlayerId = some id then r
  else
    match r.playersById.get? id with
    | some _ => r
    | none => addRemotePlayer id r

/-- `applyEvent(ev)`. -/
def applyEvent (ev : ClientEvent) (r : Roster) : Roster :=
  match ev with
  | .join id =>
      -- `join` events before `welcome` are ignored, so as not to create oneself
      -- as a remote player
      if !r.hasLocalId then r
      else if r.localPlayerId = some id then
        match r.localPlayer with
        | none => createLocalPlayer id r
        | some _ => r
      else if r.playersById.has id then r
      else addRemotePlayer id r
  | .leave id => removePlayer id r
  | .other => r

/-- The first lines of the `welcome` branch: a local player of another id, left
from a previous connection, is removed. -/
def dropStaleLocal (id : JsString) (r : Roster) : Roster :=
  match r.localPlayer with
  | some l => if r.idOf l ≠ id then { removePlayer (r.idOf l) r with localPlayer := none } else r
  | none => r

/-- The `welcome` branch: the id is assigned, and a snapshot that waited for it
is applied now. -/
def applyWelcome (id : JsString) (r : Roster) : Roster :=
  let r := { dropStaleLocal id r with localPlayerId := some id }
  match r.pendingSnapshot with
  | some list => { applySnapshot list r with pendingSnapshot := none }
  | none => r

/-- `ws.onmessage` after `wsDecode`, on the registry. -/
def onmessage (m : ServerMsg) (r : Roster) : Roster :=
  match m with
  | .welcome id => applyWelcome id r
  | .snapshot list =>
      if !r.hasLocalId then { r with pendingSnapshot := some list } else applySnapshot list r
  | .states list => list.foldl applyStatesEntry r
  | .event ev => applyEvent ev r
  | .other => r

/-- The messages of a run, in order. -/
def processAll (msgs : List ServerMsg) (r : Roster) : Roster :=
  msgs.foldl (fun r m => onmessage m r) r

theorem processAll_append (msgs msgs' : List ServerMsg) (r : Roster) :
    processAll (msgs ++ msgs') r = processAll msgs' (processAll msgs r) := by
  simp [processAll, List.foldl_append]

end NetworkManager

/-! ## What the registry should satisfy -/

/-- **The registry is consistent.**  `players` and `playersById` hold the same
objects, each once; the map files every object under its own `id`; and a local
player is the object the map holds under `localPlayerId`. -/
@[mk_iff] structure Roster.Consistent (r : Roster) : Prop where
  same : r.players.Perm r.playersById.values
  once : r.players.Nodup
  ids : ∀ e ∈ r.playersById.entries, r.idOf e.2 = e.1
  local_held : r.localPlayer = none ∨ r.localPlayerId.bind r.playersById.get? = r.localPlayer

instance : DecidablePred Roster.Consistent := fun r =>
  decidable_of_iff _ (Roster.consistent_iff r).symm

/-! ## The invariant every run keeps -/

/-- The registry holds only objects constructed so far, and a local player carries
the current, non-empty `localPlayerId`. -/
structure Roster.Sound (r : Roster) : Prop where
  players_lt : ∀ p ∈ r.players, p < r.models.length
  values_lt : ∀ p ∈ r.playersById.values, p < r.models.length
  local_lt : ∀ l, r.localPlayer = some l → l < r.models.length
  local_id : ∀ l, r.localPlayer = some l →
    r.localPlayerId = some (r.idOf l) ∧ r.hasLocalId = true

/-- `Sound`, and a snapshot waits only while there is no id. -/
structure Roster.WF (r : Roster) : Prop extends r.Sound where
  pending_none : r.hasLocalId = true → r.pendingSnapshot = none

theorem Roster.wf_init : Roster.init.WF where
  players_lt := by simp [Roster.init]
  values_lt := by simp [Roster.init]
  local_lt := by simp [Roster.init]
  local_id := by simp [Roster.init]
  pending_none := by simp [Roster.init, Roster.hasLocalId]

section Sound

variable {r : Roster} {id : JsString}

/-- Appending an object leaves the `id`s of the older ones alone. -/
theorem idOf_append {l : ℕ} (hl : l < r.models.length) :
    (r.models ++ [id]).getD l [] = r.idOf l :=
  List.getD_append _ _ _ _ hl

/-- The object appended last has the `id` it was created with. -/
theorem getD_append_length : (r.models ++ [id]).getD r.models.length [] = id := by
  rw [List.getD_append_right _ _ _ _ (le_refl _), Nat.sub_self]
  rfl

theorem sound_addRemotePlayer (hsound : r.Sound) : (addRemotePlayer id r).Sound where
  players_lt p hp := by
    simp only [addRemotePlayer, List.length_append, List.length_singleton, List.mem_append,
      List.mem_singleton] at hp ⊢
    rcases hp with hold | rfl
    · exact Nat.lt_succ_of_lt (hsound.players_lt p hold)
    · exact Nat.lt_succ_self _
  values_lt p hp := by
    simp only [addRemotePlayer, List.length_append, List.length_singleton] at hp ⊢
    rcases Map.mem_values_set hp with rfl | hold
    · exact Nat.lt_succ_self _
    · exact Nat.lt_succ_of_lt (hsound.values_lt p hold)
  local_lt l hl := by
    simp only [addRemotePlayer, List.length_append, List.length_singleton]
    exact Nat.lt_succ_of_lt (hsound.local_lt l hl)
  local_id l hl := by
    have hlt := hsound.local_lt l hl
    simp only [addRemotePlayer, Roster.idOf, Roster.hasLocalId] at hl ⊢
    rw [idOf_append hlt]
    exact hsound.local_id l hl

theorem sound_createLocalPlayer (hsound : r.Sound) (hid : r.localPlayerId = some id)
    (hne : id ≠ []) : (createLocalPlayer id r).Sound where
  players_lt p hp := by
    simp only [createLocalPlayer, List.length_append, List.length_singleton, List.mem_append,
      List.mem_singleton] at hp ⊢
    rcases hp with hold | rfl
    · exact Nat.lt_succ_of_lt (hsound.players_lt p hold)
    · exact Nat.lt_succ_self _
  values_lt p hp := by
    simp only [createLocalPlayer, List.length_append, List.length_singleton] at hp ⊢
    rcases Map.mem_values_set hp with rfl | hold
    · exact Nat.lt_succ_self _
    · exact Nat.lt_succ_of_lt (hsound.values_lt p hold)
  local_lt l hl := by
    simp only [createLocalPlayer, Option.some.injEq] at hl
    subst hl
    simp [createLocalPlayer]
  local_id l hl := by
    simp only [createLocalPlayer, Option.some.injEq] at hl
    subst hl
    show r.localPlayerId = some ((r.models ++ [id]).getD r.models.length []) ∧ r.hasLocalId = true
    rw [getD_append_length]
    exact ⟨hid, Roster.hasLocalId_of_eq hid hne⟩

theorem sound_removePlayer (hsound : r.Sound) : (removePlayer id r).Sound := by
  unfold removePlayer
  split
  · exact {
      players_lt := fun p hp => hsound.players_lt p (List.mem_of_mem_erase hp)
      values_lt := fun p hp => hsound.values_lt p (Map.mem_values_delete hp)
      local_lt := hsound.local_lt
      local_id := hsound.local_id }
  · exact hsound

end Sound

namespace NetworkManager

variable {r : Roster}

/-! Frames: what each function leaves alone. -/

@[simp] theorem addRemotePlayer_localPlayerId (id : JsString) :
    (addRemotePlayer id r).localPlayerId = r.localPlayerId := rfl
@[simp] theorem addRemotePlayer_pendingSnapshot (id : JsString) :
    (addRemotePlayer id r).pendingSnapshot = r.pendingSnapshot := rfl
@[simp] theorem addRemotePlayer_localPlayer (id : JsString) :
    (addRemotePlayer id r).localPlayer = r.localPlayer := rfl
@[simp] theorem createLocalPlayer_localPlayerId (id : JsString) :
    (createLocalPlayer id r).localPlayerId = r.localPlayerId := rfl
@[simp] theorem createLocalPlayer_pendingSnapshot (id : JsString) :
    (createLocalPlayer id r).pendingSnapshot = r.pendingSnapshot := rfl

@[simp] theorem removePlayer_localPlayerId (id : JsString) :
    (removePlayer id r).localPlayerId = r.localPlayerId := by
  unfold removePlayer; split <;> rfl
@[simp] theorem removePlayer_pendingSnapshot (id : JsString) :
    (removePlayer id r).pendingSnapshot = r.pendingSnapshot := by
  unfold removePlayer; split <;> rfl
@[simp] theorem removePlayer_localPlayer (id : JsString) :
    (removePlayer id r).localPlayer = r.localPlayer := by
  unfold removePlayer; split <;> rfl

/-- The functions a `snapshot` or `states` message runs keep `localPlayerId` and
`pendingSnapshot`. -/
structure KeepsIds (f : Roster → Roster) : Prop where
  localPlayerId : ∀ r, (f r).localPlayerId = r.localPlayerId
  pendingSnapshot : ∀ r, (f r).pendingSnapshot = r.pendingSnapshot

theorem KeepsIds.foldl {α : Type} {f : Roster → α → Roster} (hf : ∀ a, KeepsIds (f · a))
    (xs : List α) : KeepsIds (xs.foldl f) := by
  induction xs with
  | nil => exact ⟨fun _ => rfl, fun _ => rfl⟩
  | cons x xs ih =>
      refine ⟨fun r => ?_, fun r => ?_⟩
      · rw [List.foldl_cons, ih.localPlayerId, (hf x).localPlayerId]
      · rw [List.foldl_cons, ih.pendingSnapshot, (hf x).pendingSnapshot]

theorem keepsIds_applySnapshotEntry (id : JsString) : KeepsIds (applySnapshotEntry · id) := by
  constructor <;> intro r <;> unfold applySnapshotEntry <;> repeat' split
  all_goals simp

theorem keepsIds_pruneEntry (ids : List JsString) (id : JsString) :
    KeepsIds (pruneEntry ids · id) := by
  constructor <;> intro r <;> unfold pruneEntry <;> split <;> simp

theorem keepsIds_applySnapshot (list : List JsString) : KeepsIds (applySnapshot list) := by
  have hentries := KeepsIds.foldl keepsIds_applySnapshotEntry list
  constructor <;> intro r <;> simp only [applySnapshot]
  · rw [(KeepsIds.foldl (keepsIds_pruneEntry _) _).localPlayerId, hentries.localPlayerId]
  · rw [(KeepsIds.foldl (keepsIds_pruneEntry _) _).pendingSnapshot, hentries.pendingSnapshot]

theorem keepsIds_applyStatesEntry (id : JsString) : KeepsIds (applyStatesEntry · id) := by
  constructor <;> intro r <;> unfold applyStatesEntry <;> repeat' split
  all_goals simp

theorem keepsIds_applyEvent (ev : ClientEvent) : KeepsIds (applyEvent ev) := by
  constructor <;> intro r <;> unfold applyEvent <;> repeat' split
  all_goals simp

/-! Each function keeps `Sound`. -/

theorem sound_applySnapshotEntry (hsound : r.Sound) (id : JsString) :
    (applySnapshotEntry r id).Sound := by
  unfold applySnapshotEntry
  split
  · exact hsound
  · next hempty =>
    split
    · next hid =>
        split
        · exact sound_createLocalPlayer hsound hid (by simpa using hempty)
        · exact hsound
    · split
      · exact hsound
      · exact sound_addRemotePlayer hsound

theorem sound_applySnapshot (hsound : r.Sound) (list : List JsString) :
    (applySnapshot list r).Sound := by
  have hentries : (list.foldl applySnapshotEntry r).Sound :=
    List.foldlRecOn list applySnapshotEntry hsound fun _ hr' id _ => sound_applySnapshotEntry hr' id
  -- every step of the pruning loop is `removePlayer` or nothing
  refine List.foldlRecOn _ _ hentries fun _ hr' id _ => ?_
  unfold pruneEntry
  split
  · exact sound_removePlayer hr'
  · exact hr'

theorem sound_applyStatesEntry (hsound : r.Sound) (id : JsString) :
    (applyStatesEntry r id).Sound := by
  unfold applyStatesEntry
  repeat' split
  all_goals first | exact hsound | exact sound_addRemotePlayer hsound

theorem sound_applyEvent (hsound : r.Sound) (ev : ClientEvent) : (applyEvent ev r).Sound := by
  unfold applyEvent
  split
  · split
    · exact hsound
    · split
      · next htruthy hid =>
          split
          · next id _ =>
              -- `localPlayerId` is `id`, and it is truthy
              refine sound_createLocalPlayer hsound hid fun hnil => ?_
              simp [Roster.hasLocalId, hid, hnil] at htruthy
          · exact hsound
      · split
        · exact hsound
        · exact sound_addRemotePlayer hsound
  · exact sound_removePlayer hsound
  · exact hsound

/-- After `dropStaleLocal` a local player, if any, has the new id. -/
theorem dropStaleLocal_spec (hsound : r.Sound) (id : JsString) :
    (dropStaleLocal id r).Sound ∧
      (∀ l, (dropStaleLocal id r).localPlayer = some l →
        (dropStaleLocal id r).idOf l = id ∧ id ≠ []) ∧
      (dropStaleLocal id r).pendingSnapshot = r.pendingSnapshot := by
  unfold dropStaleLocal
  split
  · next l hl =>
      split
      · -- another id: the old local player is removed
        have hremoved : (removePlayer (r.idOf l) r).Sound := sound_removePlayer hsound
        exact ⟨⟨hremoved.players_lt, hremoved.values_lt, (fun _ h => by cases h),
          (fun _ h => by cases h)⟩, (fun _ h => by cases h), by simp⟩
      · next hsame =>
        rw [not_not] at hsame
        refine ⟨hsound, fun l' hl' => ?_, rfl⟩
        rw [hl] at hl'
        cases hl'
        obtain ⟨hid, htruthy⟩ := hsound.local_id l hl
        refine ⟨hsame, fun hnil => ?_⟩
        simp [Roster.hasLocalId, hid, hsame, hnil] at htruthy
  · next hl => exact ⟨hsound, (fun _ h => by rw [hl] at h; cases h), rfl⟩

theorem wf_applyWelcome (hwf : r.WF) (id : JsString) : (applyWelcome id r).WF := by
  obtain ⟨hdropped, hlocal, hpending⟩ := dropStaleLocal_spec hwf.toSound id
  -- the id is assigned; a local player kept by `dropStaleLocal` already has it
  have hassigned : Roster.Sound { dropStaleLocal id r with localPlayerId := some id } :=
    ⟨hdropped.players_lt, hdropped.values_lt, hdropped.local_lt, fun l hl => by
      obtain ⟨hidl, hne⟩ := hlocal l hl
      exact ⟨congrArg some hidl.symm, Roster.hasLocalId_of_eq rfl hne⟩⟩
  unfold applyWelcome
  dsimp only
  split
  · next list _ =>
      have hsnap := sound_applySnapshot hassigned list
      exact ⟨⟨hsnap.players_lt, hsnap.values_lt, hsnap.local_lt, hsnap.local_id⟩, fun _ => rfl⟩
  · next hnone => exact ⟨hassigned, fun _ => hnone⟩

/-- **Every message keeps `WF`.** -/
theorem wf_onmessage (hwf : r.WF) (m : ServerMsg) : (onmessage m r).WF := by
  -- a function that keeps the ids and `Sound` keeps `WF`
  have hkeep : ∀ f : Roster → Roster, KeepsIds f → (f r).Sound → (f r).WF := by
    intro f hf hsound
    refine ⟨hsound, fun htruthy => ?_⟩
    rw [hf.pendingSnapshot]
    apply hwf.pending_none
    simpa [Roster.hasLocalId, hf.localPlayerId] using htruthy
  cases m with
  | welcome id => exact wf_applyWelcome hwf id
  | snapshot list =>
      simp only [onmessage]
      split
      · next hnoid =>
          -- no id yet: the snapshot waits, and nothing else changes
          have hnoid' : r.hasLocalId = false := by simpa using hnoid
          refine ⟨⟨hwf.players_lt, hwf.values_lt, hwf.local_lt, hwf.local_id⟩, fun h => ?_⟩
          have h' : r.hasLocalId = true := h
          rw [hnoid'] at h'
          cases h'
      · exact hkeep _ (keepsIds_applySnapshot list) (sound_applySnapshot hwf.toSound list)
  | states list =>
      refine hkeep (list.foldl applyStatesEntry) (KeepsIds.foldl keepsIds_applyStatesEntry list) ?_
      exact List.foldlRecOn list applyStatesEntry hwf.toSound fun _ hr' id _ =>
        sound_applyStatesEntry hr' id
  | event ev => exact hkeep _ (keepsIds_applyEvent ev) (sound_applyEvent hwf.toSound ev)
  | other => exact hwf

/-- **Every run keeps `WF`.** -/
theorem wf_processAll (msgs : List ServerMsg) (hwf : r.WF) : (processAll msgs r).WF :=
  List.foldlRecOn msgs _ hwf fun _ hr' m _ => wf_onmessage hr' m

/-! ## A model left behind -/

/-- `removePlayer` on an id the map holds. -/
theorem removePlayer_of_get? {id : JsString} {p : ℕ} (hp : r.playersById.get? id = some p) :
    removePlayer id r =
      { r with playersById := r.playersById.delete id, players := r.players.erase p } := by
  simp only [removePlayer, hp]

/-- Object `g` is a ghost of the current id `B`: it is in `players`, the map files
it under no id but `B`, and not even there once a local player exists. -/
structure Ghost (B : JsString) (g : ℕ) (r : Roster) : Prop where
  mem : g ∈ r.players
  key : ∀ id, r.playersById.get? id = some g → id = B
  dropped : r.localPlayer.isSome → r.playersById.get? B ≠ some g
  lt : g < r.models.length
  lid : r.localPlayerId = some B

/-- Filing a newer object under any key files `g` under no new key. -/
theorem key_set_of_ne {m : Map JsString ℕ} {B k : JsString} {g n : ℕ}
    (hkey : ∀ id, m.get? id = some g → id = B) (hne : n ≠ g) :
    ∀ id, (m.set k n).get? id = some g → id = B := by
  intro id hid
  rw [Map.get?_set] at hid
  split at hid
  · exact absurd (Option.some.inj hid) hne
  · exact hkey id hid

theorem ghost_applySnapshotEntry {B : JsString} {g : ℕ} (hghost : Ghost B g r) (id : JsString) :
    Ghost B g (applySnapshotEntry r id) := by
  have hfresh : r.models.length ≠ g := Nat.ne_of_gt hghost.lt
  unfold applySnapshotEntry
  split
  · exact hghost
  · split
    · next hid =>
        -- the entry of the current id: the local player is created under `B`
        have hB : id = B := Option.some.inj (hid.symm.trans hghost.lid)
        subst hB
        split
        · exact {
            mem := List.mem_append_left _ hghost.mem
            key := key_set_of_ne hghost.key hfresh
            dropped := fun _ => by
              simp only [createLocalPlayer, Map.get?_set_self, ne_eq, Option.some.injEq]
              exact hfresh
            lt := by
              show g < (r.models ++ [_]).length
              rw [List.length_append, List.length_singleton]
              exact Nat.lt_succ_of_lt hghost.lt
            lid := hghost.lid }
        · exact hghost
    · next hid =>
        split
        · exact hghost
        · -- another player's placeholder; `B` keeps its entry
          have hne : B ≠ id := fun h => hid (h ▸ hghost.lid)
          exact {
            mem := List.mem_append_left _ hghost.mem
            key := key_set_of_ne hghost.key hfresh
            dropped := fun hsome => by
              simp only [addRemotePlayer, Map.get?_set_of_ne _ _ hne]
              exact hghost.dropped hsome
            lt := by
              show g < (r.models ++ [_]).length
              rw [List.length_append, List.length_singleton]
              exact Nat.lt_succ_of_lt hghost.lt
            lid := hghost.lid }

/-- A local player, once there, stays through the first loop of `applySnapshot`. -/
theorem localPlayer_isSome_applySnapshotEntry (hsome : r.localPlayer.isSome) (id : JsString) :
    (applySnapshotEntry r id).localPlayer.isSome := by
  unfold applySnapshotEntry
  repeat' split
  all_goals simp_all

/-- The first loop of `applySnapshot` creates the local player when its id is
listed. -/
theorem localPlayer_isSome_foldl {B : JsString} (hB : B ≠ []) :
    ∀ (list : List JsString) (r : Roster), r.localPlayerId = some B → B ∈ list →
      (list.foldl applySnapshotEntry r).localPlayer.isSome
  | [], _, _, hmem => absurd hmem List.not_mem_nil
  | x :: xs, r, hlid, hmem => by
      rw [List.foldl_cons]
      rcases List.mem_cons.mp hmem with rfl | htail
      · -- the entry of `B` leaves a local player, which the rest keeps
        have hsome : (applySnapshotEntry r B).localPlayer.isSome := by
          unfold applySnapshotEntry
          have hne : B.isEmpty = false := by simpa using hB
          simp only [hne, Bool.false_eq_true, ite_false, hlid, ite_true]
          split <;> simp_all [createLocalPlayer]
        exact List.foldlRecOn (motive := fun r' : Roster => r'.localPlayer.isSome = true)
          xs applySnapshotEntry hsome fun _ h id _ => localPlayer_isSome_applySnapshotEntry h id
      · refine localPlayer_isSome_foldl hB xs _ ?_ htail
        rw [(keepsIds_applySnapshotEntry x).localPlayerId, hlid]

/-- `removePlayer` never drops an object the map does not hold. -/
theorem removePlayer_keeps_unheld {g : ℕ} (hmem : g ∈ r.players)
    (hout : g ∉ r.playersById.values) (id : JsString) :
    g ∈ (removePlayer id r).players ∧ g ∉ (removePlayer id r).playersById.values := by
  cases hp : r.playersById.get? id with
  | none => simp only [removePlayer, hp]; exact ⟨hmem, hout⟩
  | some p =>
      have hne : g ≠ p := fun h => hout (h ▸ Map.mem_values_iff.mpr ⟨id, hp⟩)
      rw [removePlayer_of_get? hp]
      exact ⟨(List.mem_erase_of_ne hne).mpr hmem, fun h => hout (Map.mem_values_delete h)⟩

/-- **A ghost survives `applySnapshot`.**  A snapshot that lists the current id
creates the local player under it, which takes the ghost's entry; the pruning
loop then removes only objects the map holds. -/
theorem ghost_applySnapshot {B : JsString} {g : ℕ} (hghost : Ghost B g r) {list : List JsString}
    (hmem : B ∈ list) (hB : B ≠ []) :
    g ∈ (applySnapshot list r).players ∧ g ∉ (applySnapshot list r).playersById.values := by
  have hentries : Ghost B g (list.foldl applySnapshotEntry r) :=
    List.foldlRecOn list applySnapshotEntry hghost fun _ h id _ => ghost_applySnapshotEntry h id
  have hsome := localPlayer_isSome_foldl hB list r hghost.lid hmem
  have hout : g ∉ (list.foldl applySnapshotEntry r).playersById.values := by
    intro hin
    obtain ⟨id, hid⟩ := Map.mem_values_iff.mp hin
    have hidB := hentries.key id hid
    subst hidB
    exact hentries.dropped hsome hid
  refine List.foldlRecOn
    (motive := fun r' : Roster => g ∈ r'.players ∧ g ∉ r'.playersById.values)
    _ _ ⟨hentries.mem, hout⟩ fun _ h id _ => ?_
  unfold pruneEntry
  split
  · exact removePlayer_keeps_unheld h.1 h.2 id
  · exact h

/-- **After a reconnect the registry keeps a model it no longer files.**  Take any
run of messages that leaves a consistent registry with a local player, and a new
id `B`.  The next connection sends, in the server's order, the `join` of `B`, then
`welcome` with `B`, then a snapshot listing `B`.  `localPlayerId` still holds the
old id when `join` arrives, so the guard meant for the time before `welcome`
lets it through and `B` gets a remote model.  `welcome` drops the old local
player, and the snapshot creates a new local one under `B`: the map now files the
new model under `B`, and the remote one stays in `players` with no entry. -/
theorem reconnect_leaves_ghost_model (msgs : List ServerMsg) (B : JsString)
    (list : List JsString) (hcons : (processAll msgs Roster.init).Consistent)
    (hlocal : (processAll msgs Roster.init).localPlayer.isSome)
    (hfresh : (processAll msgs Roster.init).playersById.get? B = none)
    (hB : B ≠ []) (hmem : B ∈ list) :
    ¬ (processAll (msgs ++ [.event (.join B), .welcome B, .snapshot list]) Roster.init).Consistent := by
  rw [processAll_append]
  generalize hr : processAll msgs Roster.init = r at hcons hlocal hfresh
  have hwf : r.WF := hr ▸ wf_processAll msgs Roster.wf_init
  obtain ⟨l, hl⟩ := Option.isSome_iff_exists.mp hlocal
  obtain ⟨hid, htruthy⟩ := hwf.local_id l hl
  have hlt := hwf.local_lt l hl
  -- the old id is filed, so it is not `B`
  have hheld : r.playersById.get? (r.idOf l) = some l := by
    rcases hcons.local_held with hnone | hbind
    · rw [hl] at hnone
      cases hnone
    · rw [hid, hl] at hbind
      exact hbind
  have hAB : r.idOf l ≠ B := fun h => by
    rw [h, hfresh] at hheld
    cases hheld
  -- `join`: the old id is still there, so `B` gets a remote model, object `g`
  let g := r.models.length
  let r₁ := addRemotePlayer B r
  have hjoin : onmessage (.event (.join B)) r = r₁ := by
    have hother : r.localPlayerId ≠ some B := fun h => hAB (Option.some.inj (hid.symm.trans h))
    have hhas : r.playersById.has B = false := by
      rw [Bool.eq_false_iff, ne_eq, Map.has_eq_true_iff]
      rintro ⟨x, hx⟩
      rw [hfresh] at hx
      cases hx
    simp only [onmessage, applyEvent, htruthy, Bool.not_true, Bool.false_eq_true, ite_false,
      hother, hhas]
    rfl
  -- `welcome`: the old local player is removed, and nothing was pending
  have hidl : r₁.idOf l = r.idOf l := idOf_append hlt
  have hheld₁ : r₁.playersById.get? (r.idOf l) = some l := by
    simp only [r₁, addRemotePlayer, Map.get?_set_of_ne _ _ hAB, hheld]
  let r₂ : Roster := { { removePlayer (r.idOf l) r₁ with localPlayer := none } with
    localPlayerId := some B }
  have hwelcome : onmessage (.welcome B) r₁ = r₂ := by
    have hdrop : dropStaleLocal B r₁ = { removePlayer (r.idOf l) r₁ with localPlayer := none } := by
      unfold dropStaleLocal
      rw [show r₁.localPlayer = some l from hl]
      dsimp only
      rw [hidl, if_pos hAB]
    simp only [onmessage, applyWelcome, hdrop, removePlayer_pendingSnapshot, r₁,
      addRemotePlayer_pendingSnapshot, hwf.pending_none htruthy]
    -- `r₂` keeps the `pendingSnapshot` of `r`, which is empty
    simp only [r₂, r₁, removePlayer_pendingSnapshot, addRemotePlayer_pendingSnapshot,
      hwf.pending_none htruthy]
  have hnotl : g ≠ l := Nat.ne_of_gt hlt
  have hremove := removePlayer_of_get? hheld₁
  have hghost : Ghost B g r₂ := {
    mem := by
      show g ∈ (removePlayer (r.idOf l) r₁).players
      rw [hremove]
      exact (List.mem_erase_of_ne hnotl).mpr (List.mem_append_right _ (List.mem_singleton_self g))
    key := fun id hid' => by
      change (removePlayer (r.idOf l) r₁).playersById.get? id = some g at hid'
      rw [hremove] at hid'
      simp only [r₁, addRemotePlayer, Map.get?_delete, Map.get?_set] at hid'
      split at hid'
      · cases hid'
      · split at hid'
        · next hidB => exact hidB
        · -- an older entry cannot hold the newest object
          exact absurd (hwf.values_lt g (Map.mem_values_iff.mpr ⟨id, hid'⟩)) (lt_irrefl g)
    dropped := fun hsome => by simp [r₂] at hsome
    lt := by
      show g < (removePlayer (r.idOf l) r₁).models.length
      rw [hremove]
      simp [r₁, addRemotePlayer, g]
    lid := rfl }
  -- the snapshot: the new local player takes `B`'s entry, and `g` stays behind
  have hsnap : onmessage (.snapshot list) r₂ = applySnapshot list r₂ := by
    simp only [onmessage, Roster.hasLocalId_of_eq hghost.lid hB, Bool.not_true,
      Bool.false_eq_true, ite_false]
  obtain ⟨hin, hout⟩ := ghost_applySnapshot hghost hmem hB
  simp only [processAll, List.foldl_cons, List.foldl_nil]
  rw [hjoin, hwelcome, hsnap]
  intro hconsistent
  exact hout (hconsistent.same.subset hin)

theorem reconnect_leaves_ghost_model_after_one_session :
    (processAll [.welcome (ascii "a"), .snapshot [ascii "a"]] Roster.init).Consistent ∧
    (processAll [.welcome (ascii "a"), .snapshot [ascii "a"]] Roster.init).localPlayer.isSome ∧
    (processAll [.welcome (ascii "a"), .snapshot [ascii "a"]] Roster.init).playersById.get?
      (ascii "b") = none ∧
    ¬ (processAll ([.welcome (ascii "a"), .snapshot [ascii "a"]] ++
      [.event (.join (ascii "b")), .welcome (ascii "b"), .snapshot [ascii "b"]]) Roster.init).Consistent := by
  have hcons : (processAll [.welcome (ascii "a"), .snapshot [ascii "a"]] Roster.init).Consistent := by
    decide
  have hlocal : (processAll [.welcome (ascii "a"), .snapshot [ascii "a"]]
      Roster.init).localPlayer.isSome := by decide
  have hfresh : (processAll [.welcome (ascii "a"), .snapshot [ascii "a"]] Roster.init).playersById.get?
      (ascii "b") = none := by decide
  exact ⟨hcons, hlocal, hfresh, reconnect_leaves_ghost_model _ (ascii "b") [ascii "b"] hcons hlocal
    hfresh (by decide) (by decide)⟩

/-! ## What a snapshot leaves in the map -/

/-- `removePlayer` takes its id out of the map, and nothing else. -/
theorem removePlayer_has_iff (r : Roster) (id j : JsString) :
    (removePlayer id r).playersById.has j = true ↔ j ≠ id ∧ r.playersById.has j = true := by
  unfold removePlayer
  split
  · exact Map.has_delete_iff _ _ _
  · next hnone =>
      refine ⟨fun hj => ⟨fun hsame => ?_, hj⟩, fun hj => hj.2⟩
      subst hsame
      obtain ⟨x, hx⟩ := Map.has_eq_true_iff.mp hj
      rw [hnone] at hx
      cases hx

/-- An entry of the first loop files its id, unless the id is empty or the local
player's and that player exists already; it removes nothing. -/
theorem applySnapshotEntry_has_iff (r : Roster) (id j : JsString) :
    (applySnapshotEntry r id).playersById.has j = true ↔
      r.playersById.has j = true ∨
        (j = id ∧ id ≠ [] ∧ (r.localPlayerId = some id → r.localPlayer = none)) := by
  unfold applySnapshotEntry
  split
  · next hempty =>
      have : id = [] := List.isEmpty_iff.mp hempty
      simp [this]
  · next hempty =>
      have hne : id ≠ [] := fun h => hempty (List.isEmpty_iff.mpr h)
      split
      · next hid =>
          split
          · next hnone =>
              simp only [createLocalPlayer, Map.has_set_iff, hne, hid, hnone, ne_eq, not_false_eq_true,
                forall_const, and_true]
              exact Or.comm
          · next l hl =>
              simp [hl, hid]
      · next hid =>
          split
          · next p hp =>
              refine ⟨Or.inl, ?_⟩
              rintro (hj | ⟨rfl, -, -⟩)
              · exact hj
              · exact Map.has_eq_true_iff.mpr ⟨p, hp⟩
          · simp only [addRemotePlayer, Map.has_set_iff, hne, hid, ne_eq, not_false_eq_true,
              IsEmpty.forall_iff, and_true]
            exact Or.comm

/-- The first loop files every listed id other than the local player's, and
removes nothing. -/
theorem foldl_applySnapshotEntry_has_iff {j : JsString} (list : List JsString) :
    ∀ r : Roster, r.localPlayerId ≠ some j →
      ((list.foldl applySnapshotEntry r).playersById.has j = true ↔
        r.playersById.has j = true ∨ (j ∈ list ∧ j ≠ [])) := by
  induction list with
  | nil => simp
  | cons id rest ih =>
      intro r hj
      have hj' : (applySnapshotEntry r id).localPlayerId ≠ some j := by
        rw [(keepsIds_applySnapshotEntry id).localPlayerId]
        exact hj
      rw [List.foldl_cons, ih _ hj', applySnapshotEntry_has_iff]
      constructor
      · rintro ((hr | ⟨rfl, hne, -⟩) | ⟨hmem, hne⟩)
        · exact Or.inl hr
        · exact Or.inr ⟨List.mem_cons_self, hne⟩
        · exact Or.inr ⟨List.mem_cons_of_mem _ hmem, hne⟩
      · rintro (hr | ⟨hmem, hne⟩)
        · exact Or.inl (Or.inl hr)
        · rcases List.mem_cons.mp hmem with rfl | htail
          · -- `j` is filed by its own entry, as it is not the local player's
            exact Or.inl (Or.inr ⟨rfl, hne, fun h => absurd h hj⟩)
          · exact Or.inr ⟨htail, hne⟩

/-- One step of the pruning loop removes the id it visits if that id is neither
the local player's nor listed. -/
theorem pruneEntry_has_iff (ids : List JsString) (r : Roster) (id j : JsString) :
    (pruneEntry ids r id).playersById.has j = true ↔
      r.playersById.has j = true ∧ (j = id → r.localPlayerId = some j ∨ j ∈ ids) := by
  unfold pruneEntry
  split
  · next hdrop =>
      rw [removePlayer_has_iff]
      constructor
      · rintro ⟨hne, hj⟩
        exact ⟨hj, fun h => absurd h hne⟩
      · rintro ⟨hj, hkept⟩
        refine ⟨fun h => ?_, hj⟩
        subst h
        rcases hkept rfl with hl | hmem
        · exact hdrop.1 hl
        · exact hdrop.2 hmem
  · next hkeep =>
      refine ⟨fun hj => ⟨hj, fun h => ?_⟩, fun h => h.1⟩
      subst h
      by_contra hnot
      exact hkeep ⟨fun hl => hnot (Or.inl hl), fun hmem => hnot (Or.inr hmem)⟩

/-- The pruning loop over `keys` removes exactly the visited ids that are
neither the local player's nor listed. -/
theorem foldl_pruneEntry_has_iff (ids : List JsString) {j : JsString} (keys : List JsString) :
    ∀ r : Roster, (keys.foldl (pruneEntry ids) r).playersById.has j = true ↔
      r.playersById.has j = true ∧ (j ∈ keys → r.localPlayerId = some j ∨ j ∈ ids) := by
  induction keys with
  | nil => simp
  | cons id rest ih =>
      intro r
      rw [List.foldl_cons, ih, pruneEntry_has_iff, (keepsIds_pruneEntry ids id).localPlayerId]
      simp only [List.mem_cons, or_imp]
      tauto

/-- A listed id other than the local player's, and not empty, is in the map
after the snapshot: the first loop files it and the pruning loop spares it. -/
theorem has_applySnapshot_of_mem {list : List JsString} {r : Roster} {j : JsString}
    (hj : r.localPlayerId ≠ some j) (hmem : j ∈ list) (hne : j ≠ []) :
    (applySnapshot list r).playersById.has j = true := by
  have hids : j ∈ list.filter (fun id => !id.isEmpty) := by simp [hmem, hne]
  show ((list.foldl applySnapshotEntry r).playersById.keys.foldl (pruneEntry _) _).playersById.has j
    = true
  rw [foldl_pruneEntry_has_iff]
  exact ⟨(foldl_applySnapshotEntry_has_iff list r hj).mpr (Or.inr ⟨hmem, hne⟩), fun _ => Or.inr hids⟩

/-- **A snapshot leaves exactly its players in the map.**  Whatever the registry
held before, after `applySnapshot(list)` the map files an id other than the
local player's exactly when the snapshot lists it and it is not empty.  The
first loop files every listed id; the pruning loop, which visits the keys
present when it starts, removes every other one. -/
theorem applySnapshot_has_iff (list : List JsString) (r : Roster) {j : JsString}
    (hj : r.localPlayerId ≠ some j) :
    (applySnapshot list r).playersById.has j = true ↔ j ∈ list ∧ j ≠ [] := by
  constructor
  · intro hhas
    let r₁ := list.foldl applySnapshotEntry r
    have hlocal : r₁.localPlayerId = r.localPlayerId :=
      (KeepsIds.foldl keepsIds_applySnapshotEntry list).localPlayerId r
    have hpruned : (r₁.playersById.keys.foldl (pruneEntry _) r₁).playersById.has j = true := hhas
    rw [foldl_pruneEntry_has_iff, hlocal] at hpruned
    obtain ⟨hhas₁, hkept⟩ := hpruned
    -- an id still filed after the pruning loop was visited by it, so it is listed
    have hkey : j ∈ r₁.playersById.keys := by simpa [Map.has] using hhas₁
    simpa using (hkept hkey).resolve_left hj
  · rintro ⟨hmem, hne⟩
    exact has_applySnapshot_of_mem hj hmem hne

theorem applySnapshot_has_iff_after_welcome :
    (processAll [.welcome (ascii "a"), .snapshot [ascii "a", ascii "b"]] Roster.init).localPlayerId ≠
        some (ascii "b") ∧
      ((applySnapshot [ascii "c"]
          (processAll [.welcome (ascii "a"), .snapshot [ascii "a", ascii "b"]] Roster.init)).playersById.has
          (ascii "b") = true ↔ ascii "b" ∈ [ascii "c"] ∧ ascii "b" ≠ []) := by
  have hj : (processAll [.welcome (ascii "a"), .snapshot [ascii "a", ascii "b"]] Roster.init).localPlayerId ≠
      some (ascii "b") := by
    decide
  exact ⟨hj, applySnapshot_has_iff _ _ hj⟩

end NetworkManager

end SnowBrawl
