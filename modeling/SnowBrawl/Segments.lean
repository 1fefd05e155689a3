import SnowBrawl.Ws

/-!
# What a segment writes

Every segment of the server is a sequence of a few kinds of write: an event
appended, a cache entry set or updated, a bot stored, the shot table or the kill
rows replaced, a `WSClient` object stored, a connection's record updated, and a
state put into the `states` buffer.  `Write` lists these kinds, and `Writes` is a
sequence of them.  Two more steps fall outside `Writes`: registering a client,
which also fills `clients` and sets the connection's player, and `onclose`,
which removes a player from `clients` and appends `leave`.  The `welcome`
snapshot of a `hello` also falls outside it.

Each `*_writes` lemma below shows that a segment is a sequence of `Write`s, by
one case split along the segment's branches.  A property that every kind of
write keeps then holds for every segment, by induction on the sequence, and no
other proof has to walk the segments again.

## Main definitions

* `Write`, `Writes` — the kinds of write, and sequences of them.

## Main results

* `onMessage_writes`, `resumeShot_writes`, `scanBots_writes`, `resumeBots_writes`
  — the segments that `Step` runs are sequences of writes.
-/

namespace SnowBrawl

open Js

/-- One write of a segment.  An event is any event but `leave`; a connection's
record is updated without changing its player. -/
inductive Write : World → World → Prop where
  | event (w : World) (body : EventBody) (hleave : ∀ id name, body ≠ .leave id name) :
      Write w (appendEventInMem body w)
  | setCache (w : World) (j : JsString) (x : PlayerSnapshot) :
      Write w { w with playersCache := w.playersCache.set j x }
  | updateCache (w : World) (j : JsString) (f : PlayerSnapshot → PlayerSnapshot) :
      Write w { w with playersCache := updateIfPresent w.playersCache j f }
  | bots (w : World) (bots : Map JsString Bot) : Write w { w with bots := bots }
  | seenShots (w : World) (seen : Map JsString ℕ) : Write w { w with seenShots := seen }
  | kills (w : World) (kills : List KillRecord) : Write w { w with kills := kills }
  | clientObj (w : World) (cid : JsString) (c : WSClient) : Write w (setClientObj cid c w)
  | conn (w : World) (k : ℕ) (f : Conn → Conn) (hf : ∀ conn, (f conn).client = conn.client) :
      Write w (updateConn k f w)
  | enqueue (w : World) (p : PendingState) : Write w (enqueuePendingState p w)

/-- A sequence of writes. -/
abbrev Writes : World → World → Prop := Relation.ReflTransGen Write

/-- A relation that every kind of write keeps, and that composes, holds across
every sequence of writes. -/
theorem Writes.lift {R : World → World → Prop} (hrefl : ∀ w, R w w)
    (htrans : ∀ {w₁ w₂ w₃}, R w₁ w₂ → R w₂ w₃ → R w₁ w₃) (hwrite : ∀ {w w'}, Write w w' → R w w')
    {w w' : World} (h : Writes w w') : R w w' :=
  h.trans_induction_on (motive := fun {a b} _ => R a b) hrefl hwrite fun _ _ => htrans

/-- A bot and its cache entry stored together, as a respawn and `initBots` do. -/
theorem Writes.botsSetCache (w : World) (bots : Map JsString Bot) (j : JsString) (x : PlayerSnapshot) :
    Writes w { w with bots := bots, playersCache := w.playersCache.set j x } :=
  .tail (.single (.bots w bots)) (.setCache _ j x)

/-- A bot stored and its cache entry updated, as a move does. -/
theorem Writes.botsUpdateCache (w : World) (bots : Map JsString Bot) (j : JsString)
    (f : PlayerSnapshot → PlayerSnapshot) :
    Writes w { w with bots := bots, playersCache := updateIfPresent w.playersCache j f } :=
  .tail (.single (.bots w bots)) (.updateCache _ j f)

/-- No kind of write changes who is online or what has been broadcast. -/
theorem Write.keeps {w w' : World} (h : Write w w') :
    w'.clients = w.clients ∧ w'.statesSent = w.statesSent ∧ w'.snapshotsSent = w.snapshotsSent := by
  cases h with
  | conn k f _ =>
      unfold updateConn
      split <;> exact ⟨rfl, rfl, rfl⟩
  | event | setCache | updateCache | bots | seenShots | kills | clientObj | enqueue =>
      exact ⟨rfl, rfl, rfl⟩

theorem Writes.keeps {w w' : World} (h : Writes w w') :
    w'.clients = w.clients ∧ w'.statesSent = w.statesSent ∧ w'.snapshotsSent = w.snapshotsSent :=
  Writes.lift (R := fun w w' => w'.clients = w.clients ∧ w'.statesSent = w.statesSent ∧
      w'.snapshotsSent = w.snapshotsSent)
    (fun _ => ⟨rfl, rfl, rfl⟩)
    (fun h₁ h₂ => ⟨h₂.1.trans h₁.1, h₂.2.1.trans h₁.2.1, h₂.2.2.trans h₁.2.2⟩) Write.keeps h

/-! ## Each segment -/

section Segments

variable {w : World} {d : Draw}

theorem serverHandleChat_writes (clientId : JsString) (name msg : JsValue) :
    Writes w (serverHandleChat clientId name msg w).1 := by
  unfold serverHandleChat
  split
  · exact .refl
  · split_ifs
    · exact .refl
    · exact .single (.event _ _ (by simp))

theorem serverHandleRename_writes (clientId : JsString) (newRawName : JsValue) :
    Writes w (serverHandleRename clientId newRawName w).1 := by
  unfold serverHandleRename
  split
  · exact .refl
  · split_ifs
    · exact .refl
    · exact .tail (.single (.updateCache _ _ _)) (.event _ _ (by simp))

/-- The revive writes the entry and appends `respawn`; a move and a first state
write the entry and put the state into the buffer. -/
theorem serverHandleState_writes (clientId : JsString) (name msg : JsValue) :
    Writes w (serverHandleState clientId name msg w d).1 := by
  unfold serverHandleState
  split
  · dsimp only
    split_ifs
    · exact .refl
    · exact .refl
    · split
      · split_ifs
        · exact .tail (.single (.setCache _ _ _)) (.event _ _ (by simp))
        · exact .tail (.single (.setCache _ _ _)) (.enqueue _ _)
      · exact .tail (.single (.setCache _ _ _)) (.enqueue _ _)
  · exact .refl

theorem serverHandleSnowball_writes (clientId : JsString) (msg : JsValue) :
    Writes w (serverHandleSnowball clientId msg w d).1 := by
  unfold serverHandleSnowball
  split
  · exact .refl
  · dsimp only
    split
    · exact .refl
    · split
      · exact .single (.seenShots _ _)
      · exact .tail (.single (.seenShots _ _)) (.event _ _ (by simp))

/-- Landing a hit writes the victim's entry and appends `hit`. -/
theorem resolveShot_writes {shooterId shotId : JsString} {origin dir : Vec3} {w' : World}
    {stage : ShotStage} (hr : resolveShot shooterId shotId origin dir w = some (w', stage)) :
    Writes w w' := by
  unfold resolveShot at hr
  obtain ⟨best, -, hbest⟩ := Option.map_eq_some_iff.mp hr
  rw [Prod.mk.injEq] at hbest
  rw [← hbest.1]
  exact .tail (.single (.setCache _ _ _)) (.event _ _ (by simp))

theorem resumeShot_writes (clientId : JsString) (stage : ShotStage) :
    Writes w (resumeShot clientId w d stage).1 := by
  cases stage with
  | flying shotId origin dir =>
      simp only [resumeShot]
      split
      · next w' stage' hr => exact resolveShot_writes hr
      · exact .refl
  | landed shotId victim newHp respawnAt =>
      simp only [resumeShot]
      split_ifs
      · exact .tail (.single (.kills _ _)) (.event _ _ (by simp))
      · exact .refl
  | killed _ => exact .refl

theorem dispatch_writes (cid : JsString) (c : WSClient) (m : JsValue) :
    Writes w (dispatch cid c m w d).1 := by
  unfold dispatch
  dsimp only
  split_ifs
  · exact .single (.updateCache _ _ _)
  · exact serverHandleChat_writes cid c.name m
  · exact .head (.clientObj _ cid _) (serverHandleState_writes cid _ m)
  · exact .single (.clientObj _ cid _)
  · exact serverHandleSnowball_writes cid m
  · exact .head (.clientObj _ cid _) (serverHandleRename_writes cid _)
  · exact .refl

/-- The first segment of `onmessage`: a registered client's message is
dispatched, or refused by the rate limit, which closes the connection. -/
theorem onMessage_writes (k : ℕ) (msg : Option JsValue) :
    Writes w (onMessage k msg w d).1 := by
  unfold onMessage
  cases msg with
  | none => exact .refl
  | some m =>
      dsimp only
      by_cases hfalsy : (!m.truthy) = true
      · -- a falsy message returns at once
        rw [if_pos hfalsy]
      · rw [if_neg hfalsy]
        split
        · -- no player yet: a `hello` only awaits `serverOnHello`
          split_ifs
          · split <;> exact .refl
          · exact .refl
        · split
          · split_ifs
            · exact .head (.clientObj _ _ _) (dispatch_writes _ _ m)
            · exact .tail (.single (.clientObj _ _ _)) (.conn _ k _ fun _ => rfl)
          · exact .refl

theorem finishVisit_writes (now : ℕ) (id : JsString) (snapshot : PlayerSnapshot) :
    Writes w (finishVisit now id snapshot w) := by
  unfold finishVisit
  split
  · exact .tail (.single (.setCache _ _ _)) (.enqueue _ _)
  · exact .refl

theorem setLastShotAt_writes (id : JsString) (t : ℝ) : Writes w (setLastShotAt id t w) := by
  unfold setLastShotAt
  split
  · exact .single (.bots _ _)
  · exact .refl

theorem scanBots_writes (now : ℕ) (ids : List JsString) :
    ∀ (w : World) (d : Draw), Writes w (scanBots now d ids w).1 := by
  -- a visit respawns, moves or shoots its bot, then the loop goes on
  induction ids with
  | nil => exact fun w _ => .refl
  | cons id rest ih =>
      intro w d
      unfold scanBots
      split
      · next bot snapshot _ _ =>
        split_ifs
        · exact .tail (Writes.botsSetCache _ _ _ _) (.event _ _ (by simp))
        · exact ih w d
        · dsimp only
          have hmove : Writes w { w with
              bots := w.bots.set id (moveBot w.worldSeed now bot d.rand).1
              playersCache := moveBotInCache id (moveBot w.worldSeed now bot d.rand).1.pos
                w.playersCache } :=
            Writes.botsUpdateCache _ _ _ _
          split_ifs
          · split
            · exact .tail (.tail hmove (.bots _ _)) (.event _ _ (by simp))
            · exact (hmove.trans ((setLastShotAt_writes _ _).trans (finishVisit_writes _ _ _))).trans
                (ih _ _)
          · exact (hmove.trans (finishVisit_writes _ _ _)).trans (ih _ _)
      · exact ih w d

theorem resumeBotShot_writes (id : JsString) (shot : ShotStage) :
    Writes w (resumeBotShot id w shot).1 := by
  cases shot with
  | flying shotId origin dir =>
      simp only [resumeBotShot]
      split
      · next w' stage' hr => exact resolveShot_writes hr
      · exact setLastShotAt_writes id _
  | landed shotId victim newHp respawnAt =>
      simp only [resumeBotShot]
      split_ifs
      · exact .single (.event _ _ (by simp))
      · exact setLastShotAt_writes id _
  | killed landedAt => exact setLastShotAt_writes id _

theorem resumeBots_writes (now : ℕ) (id : JsString) (rest : List JsString) (stage : BotStage) :
    Writes w (resumeBots now id rest w d stage).1 := by
  cases stage with
  | respawned => exact scanBots_writes now rest w d
  | shooting snapshot shot =>
      simp only [resumeBots]
      split
      · exact resumeBotShot_writes id shot
      · exact resumeBotShot_writes id shot
  | shot snapshot => exact (finishVisit_writes now id snapshot).trans (scanBots_writes now rest _ d)

/-- `initBots` stores each bot and its entry. -/
theorem initBotsFrom_writes (rs : Stream' ℝ) (i n : ℕ) (w : World) :
    Writes w (initBotsFrom rs i n w) := by
  induction n generalizing rs i w with
  | zero => exact .refl
  | succ n ih => exact (Writes.botsSetCache _ _ _ _).trans (ih _ _ _)

end Segments

end SnowBrawl
