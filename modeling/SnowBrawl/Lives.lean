import SnowBrawl.Shots
import SnowBrawl.BotEntries
import SnowBrawl.Names

/-!
# The lives of a player

A player dies when a shot leaves it no hit points: the hit writes `hp = 0` and
`deadUntil = now + RESPAWN_MS`, and the shot's last segment appends `death` and
calls `recordKill`.  It lives again when its first `state` after `deadUntil`
revives it and appends `respawn`.

The hit search skips a corpse only while `deadUntil > now`.  A corpse whose
respawn time has passed but which has sent no `state` yet is hit like a living
player: `max 0 (0 - 10)` is `0` again, so the shot kills it a second time,
appends a second `death` and records a second kill, with no `respawn` between.
`corpse_killed_twice` builds that run from the start: two players at the same
spawn point, eleven throws straight up by one of them, the last one more than
`RESPAWN_MS` after the tenth.

## Main results

* `Duel.shoot` — one round of the run: a throw that lands on the other player.
* `corpse_killed_twice` — a reachable state whose log has a `hit` and a second
  `death` of one player after its first `death`, and no `respawn`, and two kill
  records of that player.
-/

namespace SnowBrawl

open Js

/-! ## What the log says about a life -/

/-- What an event says about the life of a player. -/
inductive LifeMark where
  /-- A hit on the player. -/
  | hit
  | death
  | respawn
  deriving DecidableEq

/-- The mark an event leaves on the life of `v`. -/
def EventBody.lifeMark? (v : JsString) : EventBody → Option LifeMark
  | .hit _ victimId _ _ _ => if victimId = v then some .hit else none
  | .death victimId .. => if victimId = v then some .death else none
  | .respawn playerId .. => if playerId = v then some .respawn else none
  | .join _ | .leave .. | .chat .. | .state .. | .snowball .. | .rename .. => none

/-- The marks the log leaves on the life of `v`, in order. -/
def lifeMarks (v : JsString) (events : List WorldEvent) : List LifeMark :=
  events.filterMap fun e => e.body.lifeMark? v

@[simp] theorem lifeMarks_nil (v : JsString) : lifeMarks v [] = [] := rfl

@[simp] theorem lifeMarks_append (v : JsString) (es es' : List WorldEvent) :
    lifeMarks v (es ++ es') = lifeMarks v es ++ lifeMarks v es' :=
  List.filterMap_append

@[simp] theorem lifeMarks_cons (v : JsString) (e : WorldEvent) (es : List WorldEvent) :
    lifeMarks v (e :: es) = (e.body.lifeMark? v).toList ++ lifeMarks v es := by
  unfold lifeMarks
  rw [List.filterMap_cons]
  cases e.body.lifeMark? v <;> rfl

/-! ## The start: no bot left in the cache -/

/-- `initBots` writes the bots and their entries and nothing else. -/
theorem initBotsFrom_eq (rs : Stream' ℝ) (i n : ℕ) (w : World) :
    ∃ bots cache, initBotsFrom rs i n w = { w with bots := bots, playersCache := cache } := by
  induction n generalizing rs i w with
  | zero => exact ⟨w.bots, w.playersCache, rfl⟩
  | succ n ih =>
      obtain ⟨bots, cache, h⟩ := ih (rs.drop (initBot i w rs).2) (i + 1) (initBot i w rs).1
      exact ⟨bots, cache, h⟩

/-- The world the run starts from: the bots of the start, all deleted by the
idle cleanup after `CLEANUP_IDLE_MS` without a visit of `updateBots`. -/
noncomputable def emptiedWorld : World :=
  cleanupIdle { initBots 0 0 (fun _ => 0) with now := 5001 }

theorem reachable_emptiedWorld : Reachable ⟨emptiedWorld, []⟩ := by
  have htick := Reachable.start.tick 5001
  have hnow : (initBots 0 0 fun _ => 0).now = 0 := initBotsFrom_now _ _ _ _
  simp only [hnow, zero_add] at htick
  exact htick.cleanup

theorem emptiedWorld_fields :
    emptiedWorld.now = 5001 ∧ emptiedWorld.conns = Map.empty ∧ emptiedWorld.clientObjs = Map.empty ∧
      emptiedWorld.events = [] ∧ emptiedWorld.kills = [] ∧ emptiedWorld.seenShots = Map.empty := by
  obtain ⟨bots, cache, h⟩ := initBotsFrom_eq (fun _ => 0) 0 botCount (emptyWorld 0 0)
  have hinit : initBots 0 0 (fun _ => 0) = { emptyWorld 0 0 with bots := bots, playersCache := cache } := h
  simp only [emptiedWorld, hinit, cleanupIdle, emptyWorld, and_self]

/-- Every entry was stamped at `0`, nobody is connected, and it is `5001` now. -/
theorem emptiedWorld_entries : emptiedWorld.playersCache.entries = [] := by
  have hstamp := initBotsFrom_updatedAt (fun _ => 0) 0 botCount (emptyWorld 0 0)
    (by simp [emptyWorld])
  have hclients : (initBots 0 0 fun _ => 0).clients = Map.empty := initBotsFrom_clients _ _ _ _
  simp only [emptiedWorld, cleanupIdle, Map.filter, List.filter_eq_nil_iff]
  rintro ⟨j, e⟩ he
  have hupdated : e.updatedAt = 0 :=
    hstamp e (List.mem_map.mpr ⟨(j, e), he, rfl⟩)
  simp [hclients, hupdated, Map.has, Map.keys, Map.empty, cleanupIdleMs]

/-! ## Two players register -/

section Register

variable {k now : ℕ} {snap : PlayerSnapshot} {w : World}

/-- A new player's entry is appended to the cache. -/
theorem registerClient_entries (hfresh : snap.id ∉ w.playersCache.keys) :
    (registerClient k now snap w).playersCache.entries = w.playersCache.entries ++ [(snap.id, snap)] := by
  simp only [registerClient, appendEventInMem_playersCache, applyEventToCache, updateConn_playersCache]
  rw [Map.entries_set_of_get? (Map.get?_set_self _ _ _), Map.entries_set_of_not_mem hfresh]

theorem registerClient_conns_of_ne {j : ℕ} (hj : j ≠ k) :
    (registerClient k now snap w).conns.get? j = w.conns.get? j := by
  simp only [registerClient, appendEventInMem_conns, updateConn]
  split
  · exact Map.get?_set_of_ne _ _ hj
  · rfl

theorem registerClient_fields :
    (registerClient k now snap w).kills = w.kills ∧
      (registerClient k now snap w).seenShots = w.seenShots ∧
      ∀ v, lifeMarks v (registerClient k now snap w).events = lifeMarks v w.events := by
  simp [registerClient, updateConn, EventBody.lifeMark?]
  split <;> simp

end Register

/-! ## A round: a throw that lands on the other player -/

/-- The draw of every segment of a throw of the run: the shot's id is `"s"`. -/
def shotDraw : Draw := ⟨fun _ => 0, ascii "s"⟩

theorem shotDraw_valid : shotDraw.Valid := fun _ => ⟨le_refl 0, zero_lt_one⟩

section Entries

variable {x y : JsString} {p q : PlayerSnapshot} {m : Map JsString PlayerSnapshot}

/-- A write of the second of two entries. -/
theorem entries_set_second (h : m.entries = [(x, p), (y, q)]) (hne : x ≠ y) (q' : PlayerSnapshot) :
    (m.set y q').entries = [(x, p), (y, q')] := by
  rw [Map.entries_set_of_mem (by simp [Map.keys, h]) q', h]
  simp [hne]

theorem entries_updateIfPresent_second (h : m.entries = [(x, p), (y, q)]) (hne : x ≠ y)
    (f : PlayerSnapshot → PlayerSnapshot) :
    (updateIfPresent m y f).entries = [(x, p), (y, f q)] := by
  have hq : m.get? y = some q := Map.get?_eq_some_iff.mpr (by simp [h])
  simp only [updateIfPresent, hq]
  exact entries_set_second h hne (f q)

end Entries

/-- The state of the run between two rounds: `a` is registered on connection
`0` and its rate window opened no later than now, the cache holds `a` and then
`b`, both at the origin, and the throw's id expires no later than the window
after now. -/
structure Duel (w : World) (a b : PlayerSnapshot) : Prop where
  conn : w.conns.get? 0 = some ⟨some a.id, true, false⟩
  client : ∃ c, w.clientObjs.get? a.id = some c ∧ c.bucketStart ≤ w.now
  entries : w.playersCache.entries = [(a.id, a), (b.id, b)]
  ne : a.id ≠ b.id
  pos_a : a.pos = Vec3.zero
  pos_b : b.pos = Vec3.zero
  seen : ∀ exp, w.seenShots.get? shotDraw.uuid = some exp → exp ≤ w.now + shotDedupMs

/-- The marks a round leaves on the life of its victim, of `hp` hit points. -/
def roundMarks (hp : ℤ) : List LifeMark := .hit :: if damagedHp hp = 0 then [.death] else []

/-- The kills a round records of its victim. -/
def roundKills (hp : ℤ) : ℕ := if damagedHp hp = 0 then 1 else 0

/-- A throw from `a` at the origin lands on `b` at the origin, at its first
sample: the search skips the thrower and meets `b` next. -/
theorem Duel.hitSearch {a b : PlayerSnapshot} (hne : a.id ≠ b.id) (hposa : a.pos = Vec3.zero)
    (hposb : b.pos = Vec3.zero) {now : ℕ} (halive : ¬ (b.hp ≤ 0 ∧ b.deadUntil > now)) (v0 : Vec3) :
    SnowBrawl.hitSearch a.id now ⟨a.pos.x, a.pos.y + 1.3, a.pos.z⟩ v0 [a, b] = some (b, 0) := by
  have hin : intersectsPlayerCylinder ⟨a.pos.x, a.pos.y + 1.3, a.pos.z⟩ b.pos = true := by
    rw [hposa, hposb]
    apply intersectsPlayerCylinder_of_le <;> norm_num [Vec3.zero, hitRadius, hitHeight]
  have hcontact : contactTime _ v0 b.pos = some 0 :=
    contactTime_of_inside (by rw [hposa]; norm_num [Vec3.zero]) hin
  have hskipa : skipsTarget a.id now a := Or.inl rfl
  have hskipb : ¬ skipsTarget a.id now b := by
    rintro (hid | hdead)
    · exact hne hid.symm
    · exact halive hdead
  simp [SnowBrawl.hitSearch, considerTarget, hskipa, hskipb, hcontact]

/-- **One round.**  After a tick past the rate window and the expiry of the last
throw, `a` throws straight up; the throw lands on `b` and, when it leaves `b`
no hit points, kills it. -/
theorem Duel.shoot {w : World} {a b : PlayerSnapshot} (hs : Reachable ⟨w, []⟩) (h : Duel w a b)
    (halive : ¬ (b.hp ≤ 0 ∧ b.deadUntil > w.now + 10001)) :
    ∃ w', Reachable ⟨w', []⟩ ∧ Duel w' a (damagedVictim b (w.now + 10001)) ∧
      w'.now = w.now + 10001 ∧
      lifeMarks b.id w'.events = lifeMarks b.id w.events ++ roundMarks b.hp ∧
      (w'.kills.map KillRecord.victimId).count b.id =
        (w.kills.map KillRecord.victimId).count b.id + roundKills b.hp := by
  obtain ⟨c, hc, hbucket⟩ := h.client
  -- the clock moves past the rate window and the expiry of the last throw
  have hs₁ := hs.tick 10001
  generalize hw₁ : ({ w with now := w.now + 10001 } : World) = w₁ at hs₁
  have hnow₁ : w₁.now = w.now + 10001 := by rw [← hw₁]
  have hconn₁ : w₁.conns.get? 0 = some ⟨some a.id, true, false⟩ := by rw [← hw₁]; exact h.conn
  have hreg : Registered w₁ 0 a.id c := ⟨by rw [hconn₁]; rfl, by rw [← hw₁]; exact hc⟩
  have hrate : rateLimitOk c w₁.now = (true, { c with bucketStart := w₁.now, bucketCount := 1 }) :=
    rateLimitOk_of_past (by rw [hnow₁, rateWindowMs]; push_cast; omega)
  have hentries₁ : w₁.playersCache.entries = [(a.id, a), (b.id, b)] := by
    rw [← hw₁]; exact h.entries
  have hsnap : w₁.playersCache.get? a.id = some a :=
    Map.get?_eq_some_iff.mpr (by rw [hentries₁]; simp)
  have hfresh : ¬ LiveAt w₁.now (w₁.seenShots.get? shotDraw.uuid) := by
    rw [← hw₁]
    cases hexp : w.seenShots.get? shotDraw.uuid with
    | none => exact id
    | some exp =>
        have hle := h.seen exp hexp
        rintro ⟨-, hlive⟩
        simp only [shotDedupMs] at hle hlive
        omega
  obtain ⟨rawDir, hs₂⟩ := hs₁.throw hconn₁ rfl hreg (by rw [hrate]) hsnap shotDraw_valid hfresh
  rw [hrate] at hs₂
  generalize hw₂ : appendEventInMem (.snowball shotDraw.uuid a.id ⟨a.pos.x, a.pos.y + 1.3, a.pos.z⟩
      (norm rawDir) snowballSpeed)
    { setClientObj a.id { c with bucketStart := w₁.now, bucketCount := 1 } w₁ with
      seenShots := w₁.seenShots.set shotDraw.uuid (w₁.now + shotDedupMs) } = w₂ at hs₂
  have hnow₂ : w₂.now = w₁.now := by rw [← hw₂]; rfl
  have hcache₂ : w₂.playersCache = w₁.playersCache := by rw [← hw₂]; rfl
  -- the landing, on `b`
  have hhit := Duel.hitSearch h.ne h.pos_a h.pos_b
    (show ¬ (b.hp ≤ 0 ∧ b.deadUntil > w₁.now) by rw [hnow₁]; exact halive)
    (vec3Mul (norm rawDir) snowballSpeed)
  have hs₃ := hs₂.land (by rw [hnow₂, hcache₂]; simpa [Map.values, hentries₁] using hhit)
    shotDraw_valid
  generalize hw₃ : landHit a.id shotDraw.uuid (vec3Mul (norm rawDir) snowballSpeed) b w₂ = w₃ at hs₃
  have hentries₃ : w₃.playersCache.entries = [(a.id, a), (b.id, damagedVictim b w₁.now)] := by
    rw [← hw₃]
    simp only [landHit, appendEventInMem_playersCache, applyEventToCache, hcache₂, hnow₂]
    rw [entries_updateIfPresent_second (entries_set_second hentries₁ h.ne _) h.ne]
    rfl
  have hnow₃ : w₃.now = w₁.now := by rw [← hw₃, ← hnow₂]; rfl
  have hconn₃ : w₃.conns = w₁.conns := by rw [← hw₃, ← hw₂]; rfl
  have hclient₃ : w₃.clientObjs.get? a.id = some { c with bucketStart := w₁.now, bucketCount := 1 } := by
    rw [← hw₃, ← hw₂]
    exact Map.get?_set_self _ _ _
  have hseen₃ : w₃.seenShots.get? shotDraw.uuid = some (w₁.now + shotDedupMs) := by
    rw [← hw₃, ← hw₂]
    exact Map.get?_set_self _ _ _
  have hmarks₃ : lifeMarks b.id w₃.events = lifeMarks b.id w.events ++ [.hit] := by
    rw [← hw₃, ← hw₂, ← hw₁]
    simp [landHit, setClientObj, EventBody.lifeMark?]
  have hkills₃ : w₃.kills = w.kills := by rw [← hw₃, ← hw₂, ← hw₁]; rfl
  by_cases hdead : damagedHp b.hp = 0
  · -- the kill: `death` writes again what the hit wrote
    have hs₄ := hs₃.kill hdead shotDraw_valid
    refine ⟨_, hs₄, ⟨?_, ?_, ?_, h.ne, h.pos_a, h.pos_b, ?_⟩, ?_, ?_, ?_⟩
    · simpa [hconn₃] using hconn₁
    · exact ⟨_, by simpa using hclient₃, by simp [hnow₃]⟩
    · simp only [appendEventInMem_playersCache, applyEventToCache]
      rw [entries_updateIfPresent_second hentries₃ h.ne, ← hnow₁, hnow₃]
      congr 3
      simp [damagedVictim, hdead, respawnMs, hnow₂]
    · intro exp hexp
      simp only [appendEventInMem_seenShots, appendEventInMem_now] at hexp ⊢
      rw [hseen₃, Option.some.injEq] at hexp
      omega
    · simp [hnow₃, hnow₁]
    · simp [hmarks₃, roundMarks, hdead, EventBody.lifeMark?]
    · simp [hkills₃, roundKills, hdead]
  · have hs₄ := hs₃.survive hdead shotDraw_valid
    refine ⟨_, hs₄, ⟨?_, ?_, ?_, h.ne, h.pos_a, h.pos_b, ?_⟩, ?_, ?_, ?_⟩
    · rw [hconn₃]; exact hconn₁
    · exact ⟨_, hclient₃, by simp [hnow₃]⟩
    · rw [hentries₃, ← hnow₁]
      rfl
    · intro exp hexp
      rw [hseen₃, Option.some.injEq] at hexp
      omega
    · rw [hnow₃, hnow₁]
    · simp [hmarks₃, roundMarks, hdead]
    · simp [hkills₃, roundKills, hdead]

/-- **Rounds on a victim with hit points to spare.**  From `10 (n + 1)` hit
points, `n` rounds leave `10`, each with a hit and no death. -/
theorem Duel.rounds (n : ℕ) {w : World} {a b : PlayerSnapshot} (hs : Reachable ⟨w, []⟩)
    (h : Duel w a b) (hhp : b.hp = 10 * (n + 1)) (hdead : b.deadUntil = 0) :
    ∃ w' b', Reachable ⟨w', []⟩ ∧ Duel w' a b' ∧ b'.id = b.id ∧ b'.hp = 10 ∧ b'.deadUntil = 0 ∧
      w'.now = w.now + 10001 * n ∧
      lifeMarks b.id w'.events = lifeMarks b.id w.events ++ List.replicate n .hit ∧
      (w'.kills.map KillRecord.victimId).count b.id = (w.kills.map KillRecord.victimId).count b.id := by
  -- induction on the rounds; each leaves the victim `10` hit points fewer
  induction n generalizing w b with
  | zero => exact ⟨w, b, hs, h, rfl, by simpa using hhp, hdead, rfl, by simp, rfl⟩
  | succ n ih =>
      have hleft : damagedHp b.hp = 10 * (n + 1) := by
        simp only [damagedHp, damage, hhp]
        push_cast
        omega
      have hpos : (10 : ℤ) * (n + 1) ≠ 0 := by omega
      obtain ⟨w₁, hs₁, h₁, hnow₁, hmarks₁, hkills₁⟩ := h.shoot hs (by rw [hhp]; push_cast; omega)
      obtain ⟨w', b', hs', h', hid, hhp', hdead', hnow', hmarks', hkills'⟩ :=
        ih hs₁ h₁ hleft (by simp [damagedVictim, hleft, hdead, hpos])
      -- the victim keeps its id through the hit
      have hmarks'' : lifeMarks b.id w'.events = lifeMarks b.id w₁.events ++ List.replicate n .hit :=
        hmarks'
      have hkills'' : (w'.kills.map KillRecord.victimId).count b.id =
          (w₁.kills.map KillRecord.victimId).count b.id := hkills'
      refine ⟨w', b', hs', h', hid, hhp', hdead', by rw [hnow', hnow₁]; ring, ?_, ?_⟩
      · have hsurvive : roundMarks b.hp = [.hit] := by simp [roundMarks, hleft, hpos]
        rw [hmarks'', hmarks₁, hsurvive, List.replicate_succ]
        simp
      · have hnokill : roundKills b.hp = 0 := by simp [roundKills, hleft, hpos]
        rw [hkills'', hkills₁, hnokill]
        rfl

/-- The draw of a `hello`: the spawn point is the origin, the id is `id`. -/
noncomputable def helloDraw (id : JsString) : Draw := ⟨fun _ => 1 / 2, id⟩

theorem helloDraw_valid (id : JsString) : (helloDraw id).Valid := fun _ => by
  constructor <;> norm_num [helloDraw]

theorem spawnPoint_helloDraw (id : JsString) : spawnPoint (helloDraw id) = Vec3.zero := by
  simp only [spawnPoint, helloDraw, Vec3.zero]
  norm_num

/-- **The start of the run.**  After the cleanup, `a` says `hello` on
connection `0` and `b` on connection `1`; both spawn at the origin. -/
theorem duel_start :
    ∃ w a b, Reachable ⟨w, []⟩ ∧ Duel w a b ∧ b.hp = 100 ∧ b.deadUntil = 0 ∧
      lifeMarks b.id w.events = [] ∧ w.kills = [] := by
  obtain ⟨hnow, hconns, hobjs, hevents, hkills, hseen⟩ := emptiedWorld_fields
  obtain ⟨a, ha⟩ := serverOnHello_str (ascii "a") emptiedWorld.now (helloDraw (ascii "a"))
  obtain ⟨hida, hposa, -, -⟩ := serverOnHello_ok ha
  -- `a` registers on connection `0`
  have hsa := (reachable_emptiedWorld.hello (k := 0) (by rw [hconns]; rfl)
    (helloDraw_valid _) ha).welcome (helloDraw_valid (ascii "a"))
  generalize hwa : registerClient 0 emptiedWorld.now a
    { emptiedWorld with conns := emptiedWorld.conns.set 0 ⟨none, true, false⟩ } = wa at hsa
  have hconna : wa.conns.get? 0 = some ⟨some a.id, true, false⟩ := by
    rw [← hwa]
    exact @registerClient_conn 0 _ a _ ⟨none, true, false⟩ (Map.get?_set_self _ _ _)
  have hconna₁ : wa.conns.get? 1 = none := by
    rw [← hwa, registerClient_conns_of_ne (by decide), Map.get?_set_of_ne _ _ (by decide), hconns]
    rfl
  have hentriesa : wa.playersCache.entries = [(a.id, a)] := by
    rw [← hwa, registerClient_entries (by simp [Map.keys, emptiedWorld_entries])]
    simp [emptiedWorld_entries]
  obtain ⟨b, hb⟩ := serverOnHello_str (ascii "b") wa.now (helloDraw (ascii "b"))
  obtain ⟨hidb, hposb, hhpb, hdeadb⟩ := serverOnHello_ok hb
  have hne : a.id ≠ b.id := by rw [hida, hidb]; decide
  -- `b` registers on connection `1`
  have hsb := (hsa.hello (k := 1) hconna₁ (helloDraw_valid _) hb).welcome
    (helloDraw_valid (ascii "b"))
  refine ⟨_, a, b, hsb, ⟨?_, ?_, ?_, hne, ?_, ?_, ?_⟩, hhpb, hdeadb, ?_, ?_⟩
  · rw [registerClient_conns_of_ne (by decide)]
    exact (Map.get?_set_of_ne _ _ (by decide)).trans hconna
  · refine ⟨helloClient wa.now a, ?_, by simp [helloClient]⟩
    simp only [registerClient, appendEventInMem_clientObjs, updateConn_clientObjs]
    rw [Map.get?_set_of_ne _ _ hne, ← hwa]
    simp [registerClient, updateConn_clientObjs, helloClient]
  · rw [registerClient_entries (by simp [Map.keys, hentriesa, hne.symm])]
    simp [hentriesa]
  · rw [hposa, spawnPoint_helloDraw]
  · rw [hposb, spawnPoint_helloDraw]
  · intro exp hexp
    rw [(registerClient_fields).2.1, ← hwa, (registerClient_fields).2.1] at hexp
    simp [hseen] at hexp
  · rw [(registerClient_fields).2.2, ← hwa, (registerClient_fields).2.2, hevents]
    rfl
  · rw [(registerClient_fields).1, ← hwa, (registerClient_fields).1, hkills]

/-- **A corpse is killed twice.**  From the start: `a` throws straight up ten
times at `b`, who stands at the same spawn point, which kills `b`.  More than
`RESPAWN_MS` later, before `b` sends a `state`, an eleventh throw hits the
corpse and kills it again.  The log's marks on the life of `b` are ten hits, a
death, a hit and a second death, with no respawn between, and `recordKill` has
recorded the death of `b` twice. -/
theorem corpse_killed_twice :
    ∃ s, Reachable s ∧ ∃ v, lifeMarks v s.world.events =
      List.replicate 10 .hit ++ [.death, .hit, .death] ∧
        (s.world.kills.map KillRecord.victimId).count v = 2 := by
  obtain ⟨w₀, a, b, hs₀, h₀, hhp, hdead, hmarks₀, hkills₀⟩ := duel_start
  -- nine rounds leave `b` ten hit points
  obtain ⟨w₁, b₁, hs₁, h₁, hid₁, hhp₁, -, -, hmarks₁, hkills₁⟩ :=
    h₀.rounds 9 hs₀ (by rw [hhp]; norm_num) hdead
  -- the tenth kills it, until `RESPAWN_MS` from now
  obtain ⟨w₂, hs₂, h₂, hnow₂, hmarks₂, hkills₂⟩ := h₁.shoot hs₁ (by rw [hhp₁]; norm_num)
  have hkilled : damagedHp b₁.hp = 0 := by simp [damagedHp, damage, hhp₁]
  -- the eleventh comes `10001` ms later, past the corpse's respawn time
  have hcorpse : ¬ ((damagedVictim b₁ (w₁.now + 10001)).hp ≤ 0 ∧
      (damagedVictim b₁ (w₁.now + 10001)).deadUntil > w₂.now + 10001) := by
    simp only [damagedVictim, hkilled, if_true, hnow₂, respawnMs]
    omega
  obtain ⟨w₃, hs₃, -, -, hmarks₃, hkills₃⟩ := h₂.shoot hs₂ hcorpse
  -- the victim keeps its id through the hits
  have hmarks₃' : lifeMarks b₁.id w₃.events = lifeMarks b₁.id w₂.events ++ roundMarks 0 := by
    rw [← hkilled]
    exact hmarks₃
  have hkills₃' : (w₃.kills.map KillRecord.victimId).count b₁.id =
      (w₂.kills.map KillRecord.victimId).count b₁.id + roundKills 0 := by
    rw [← hkilled]
    exact hkills₃
  refine ⟨⟨w₃, []⟩, hs₃, b.id, ?_, ?_⟩
  · rw [← hid₁, hmarks₃', hmarks₂, hid₁, hmarks₁, hmarks₀, hhp₁]
    decide
  · rw [← hid₁, hkills₃', hkills₂, hid₁, hkills₁, hkills₀, hhp₁]
    simp [roundKills, damagedHp, damage]

end SnowBrawl
