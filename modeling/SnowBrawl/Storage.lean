import SnowBrawl.State

/-!
# `storage.ts`: the kill log and the statistics by name

A kill is stored twice: as a row of `kills`, and as a `+1` on the `kills`
column of the attacker's `player_stats` row and on the `deaths` column of the
victim's.  `recordKill` runs the three statements one after another, without a
transaction, so a statement that raises leaves the ones before it in effect.

## Main results

* `killsOf_storageRun` — the bookkeeping of any sequence of calls and
  clean-ups: a name's `kills` plus the kills lost to a failed attacker upsert is
  the number of kill rows ever inserted with that attacker name, and the same
  for `deaths` and the victim upserts.
* `kill_counts_exact_iff` — so the counts agree with the rows exactly when no
  upsert that concerns the name raised after its row was inserted.

## Design notes

* **Statements.**  SQLite runs each statement atomically, so a failing
  statement has no effect; what can be partial is the sequence.  A call is
  given with the statement that raises, if any (`KillStmt`).
* **Upsert.**  `INSERT … ON CONFLICT(player_name) DO UPDATE SET kills = kills +
  excluded.kills, …` adds to the row of the name if there is one and creates it
  otherwise (`upsertStats`).  An attacker and a victim of the same name, which
  `ALLOW_DUPLICATE_NAMES` permits, update the same row.
* **Counts.**  `getPlayerStats` returns `null` for a name without a row; the
  model reads that as `0` kills and deaths (`killsOf`, `deathsOf`).
* **Clean-up.**  `cleanupOldKills` deletes rows older than thirty days and
  leaves the statistics alone, so "rows ever inserted" counts the deleted rows
  too (`insertedRows` reads them off the calls, not off the table).
-/

namespace SnowBrawl

open Js

/-- A row of `player_stats`. -/
structure StatsRow where
  kills : ℕ
  deaths : ℕ
  lastSeen : ℕ
  lastPlayerId : JsString

/-- The two tables of `snowbrawl.db`. -/
structure Db where
  kills : List KillRecord
  playerStats : Map JsValue StatsRow

/-- A new database file. -/
def Db.empty : Db := ⟨[], Map.empty⟩

/-- The statements of `recordKill`, in the order it runs them. -/
inductive KillStmt where
  | insertKill
  | upsertAttacker
  | upsertVictim
  deriving DecidableEq

/-- `insertKillStmt.run(...)`. -/
def insertKill (row : KillRecord) (db : Db) : Db := { db with kills := db.kills ++ [row] }

/-- `upsertStatsStmt.run(name, kills, deaths, lastSeen, lastPlayerId)`. -/
def upsertStats (name : JsValue) (kills deaths lastSeen : ℕ) (lastPlayerId : JsString) (db : Db) :
    Db :=
  { db with
    playerStats := db.playerStats.set name
      (match db.playerStats.get? name with
        | some row => ⟨row.kills + kills, row.deaths + deaths, lastSeen, lastPlayerId⟩
        | none => ⟨kills, deaths, lastSeen, lastPlayerId⟩) }

/-- `recordKill(record)`, with the `id` and `timestamp` it drew already in
`row`, when statement `fault` raises (`none`: none does).  The database after
the call, and whether it raised. -/
def recordKill (row : KillRecord) (fault : Option KillStmt) (db : Db) : Db × Bool :=
  if fault = some .insertKill then (db, true)
  else
    let db := insertKill row db
    if fault = some .upsertAttacker then (db, true)
    else
      let db := upsertStats row.attackerName 1 0 row.timestamp row.attackerId db
      if fault = some .upsertVictim then (db, true)
      else (upsertStats row.victimName 0 1 row.timestamp row.victimId db, false)

/-- Thirty days, in milliseconds. -/
def killRetentionMs : ℕ := 30 * 24 * 60 * 60 * 1000

/-- `cleanupOldKills()` at time `now`: `DELETE FROM kills WHERE timestamp < ?`
with the cutoff thirty days back. -/
def cleanupOldKills (now : ℕ) (db : Db) : Db :=
  { db with kills := db.kills.filter fun r => !decide (r.timestamp < now - killRetentionMs) }

/-- What reaches the database: a `recordKill` call with the statement that
raises in it, or the hourly clean-up. -/
inductive StorageOp where
  | recordKill (row : KillRecord) (fault : Option KillStmt)
  | cleanup (now : ℕ)

/-- The database after a sequence of calls. -/
def storageRun (db : Db) : List StorageOp → Db
  | [] => db
  | .recordKill row fault :: ops => storageRun (recordKill row fault db).1 ops
  | .cleanup now :: ops => storageRun (cleanupOldKills now db) ops

/-- The kill rows the calls inserted, whether or not a clean-up deleted them
later. -/
def insertedRows : List StorageOp → List KillRecord
  | [] => []
  | .recordKill row fault :: ops =>
      (if fault = some .insertKill then [] else [row]) ++ insertedRows ops
  | .cleanup _ :: ops => insertedRows ops

/-- The calls whose kill row names `n` as attacker but whose attacker upsert
raised. -/
def missedKills (n : JsValue) : List StorageOp → ℕ
  | [] => 0
  | .recordKill row fault :: ops =>
      (if row.attackerName = n ∧ fault = some .upsertAttacker then 1 else 0) + missedKills n ops
  | .cleanup _ :: ops => missedKills n ops

/-- The calls whose kill row names `n` as victim but whose victim upsert did
not run: it raised, or the attacker upsert before it did. -/
def missedDeaths (n : JsValue) : List StorageOp → ℕ
  | [] => 0
  | .recordKill row fault :: ops =>
      (if row.victimName = n ∧ (fault = some .upsertAttacker ∨ fault = some .upsertVictim)
        then 1 else 0) + missedDeaths n ops
  | .cleanup _ :: ops => missedDeaths n ops

/-- `getPlayerStats(n)?.kills`, with no row read as `0`. -/
def killsOf (db : Db) (n : JsValue) : ℕ := ((db.playerStats.get? n).map StatsRow.kills).getD 0

/-- `getPlayerStats(n)?.deaths`, with no row read as `0`. -/
def deathsOf (db : Db) (n : JsValue) : ℕ := ((db.playerStats.get? n).map StatsRow.deaths).getD 0

/-! ## One statement at a time -/

section Statements

variable (db : Db) (n : JsValue)

@[simp] theorem killsOf_insertKill (row : KillRecord) : killsOf (insertKill row db) n = killsOf db n :=
  rfl

@[simp] theorem deathsOf_insertKill (row : KillRecord) :
    deathsOf (insertKill row db) n = deathsOf db n := rfl

@[simp] theorem killsOf_cleanupOldKills (now : ℕ) :
    killsOf (cleanupOldKills now db) n = killsOf db n := rfl

@[simp] theorem deathsOf_cleanupOldKills (now : ℕ) :
    deathsOf (cleanupOldKills now db) n = deathsOf db n := rfl

/-- An upsert adds its counts to the row of its name, existing or not. -/
theorem killsOf_upsertStats (name : JsValue) (kills deaths lastSeen : ℕ) (lastPlayerId : JsString) :
    killsOf (upsertStats name kills deaths lastSeen lastPlayerId db) n =
      killsOf db n + if n = name then kills else 0 := by
  unfold killsOf upsertStats
  rw [Map.get?_set]
  split_ifs with hn
  · subst hn
    cases db.playerStats.get? n <;> simp
  · simp

theorem deathsOf_upsertStats (name : JsValue) (kills deaths lastSeen : ℕ)
    (lastPlayerId : JsString) :
    deathsOf (upsertStats name kills deaths lastSeen lastPlayerId db) n =
      deathsOf db n + if n = name then deaths else 0 := by
  unfold deathsOf upsertStats
  rw [Map.get?_set]
  split_ifs with hn
  · subst hn
    cases db.playerStats.get? n <;> simp
  · simp

end Statements

/-- What one call adds to a name's kills: one, when its attacker upsert ran. -/
theorem killsOf_recordKill (row : KillRecord) (fault : Option KillStmt) (db : Db) (n : JsValue) :
    killsOf (recordKill row fault db).1 n =
      killsOf db n +
        if row.attackerName = n ∧ fault ≠ some .insertKill ∧ fault ≠ some .upsertAttacker then 1
        else 0 := by
  -- one case per statement that can raise
  rcases fault with _ | _ | _ | _ <;> simp [recordKill, killsOf_upsertStats, eq_comm]

/-- What one call adds to a name's deaths: one, when its victim upsert ran. -/
theorem deathsOf_recordKill (row : KillRecord) (fault : Option KillStmt) (db : Db) (n : JsValue) :
    deathsOf (recordKill row fault db).1 n =
      deathsOf db n + if row.victimName = n ∧ fault = none then 1 else 0 := by
  rcases fault with _ | _ | _ | _ <;> simp [recordKill, deathsOf_upsertStats, eq_comm]

/-! ## Whole sequences -/

/-- **The bookkeeping of the kills.**  Over any sequence of calls and
clean-ups, a name's `kills` plus the calls that lost their attacker upsert is
what it started with plus the kill rows ever inserted with that attacker name. -/
theorem killsOf_storageRun (db : Db) (ops : List StorageOp) (n : JsValue) :
    killsOf (storageRun db ops) n + missedKills n ops =
      killsOf db n + (insertedRows ops).countP fun r => r.attackerName = n := by
  induction ops generalizing db with
  | nil => simp [storageRun, missedKills, insertedRows]
  | cons op ops ih =>
      cases op with
      | recordKill row fault =>
          have hih := ih (recordKill row fault db).1
          rw [killsOf_recordKill] at hih
          rw [storageRun, missedKills, insertedRows, List.countP_append]
          -- the row counts once: in the statistics, or among the missed upserts
          rcases fault with _ | _ | _ | _ <;> by_cases hn : row.attackerName = n <;>
            simp [hn] at hih ⊢ <;> omega
      | cleanup now =>
          rw [storageRun, missedKills, insertedRows, ih, killsOf_cleanupOldKills]

/-- **The bookkeeping of the deaths**, with the victim upserts. -/
theorem deathsOf_storageRun (db : Db) (ops : List StorageOp) (n : JsValue) :
    deathsOf (storageRun db ops) n + missedDeaths n ops =
      deathsOf db n + (insertedRows ops).countP fun r => r.victimName = n := by
  induction ops generalizing db with
  | nil => simp [storageRun, missedDeaths, insertedRows]
  | cons op ops ih =>
      cases op with
      | recordKill row fault =>
          have hih := ih (recordKill row fault db).1
          rw [deathsOf_recordKill] at hih
          rw [storageRun, missedDeaths, insertedRows, List.countP_append]
          rcases fault with _ | _ | _ | _ <;> by_cases hn : row.victimName = n <;>
            simp [hn] at hih ⊢ <;> omega
      | cleanup now =>
          rw [storageRun, missedDeaths, insertedRows, ih, deathsOf_cleanupOldKills]

/-- **The statistics agree with the kill rows exactly when no upsert of the
name was lost.**  From a new database, after any sequence of calls and
clean-ups, the `kills` and `deaths` of a name are the numbers of kill rows ever
inserted with it as attacker and as victim if and only if no call whose row
names it lost the upsert that should have counted it. -/
theorem kill_counts_exact_iff (ops : List StorageOp) (n : JsValue) :
    (killsOf (storageRun Db.empty ops) n =
        (insertedRows ops).countP (fun r => r.attackerName = n) ∧
      deathsOf (storageRun Db.empty ops) n =
        (insertedRows ops).countP (fun r => r.victimName = n)) ↔
      missedKills n ops = 0 ∧ missedDeaths n ops = 0 := by
  have hkills := killsOf_storageRun Db.empty ops n
  have hdeaths := deathsOf_storageRun Db.empty ops n
  have hempty : killsOf Db.empty n = 0 ∧ deathsOf Db.empty n = 0 := ⟨rfl, rfl⟩
  omega

/-- **A failed attacker upsert loses a kill.**  A first kill by `alice` whose
second statement raises leaves its row in `kills`, and `alice` with no kills. -/
theorem kill_counts_drift_after_failed_upsert :
    ¬ (killsOf (storageRun Db.empty
          [.recordKill ⟨ascii "k1", ascii "p1", .str (ascii "alice"), ascii "p2", .str (ascii "bob"),
            ascii "shot-0001", 0⟩ (some .upsertAttacker)]) (.str (ascii "alice")) =
        (insertedRows
          [.recordKill ⟨ascii "k1", ascii "p1", .str (ascii "alice"), ascii "p2", .str (ascii "bob"),
            ascii "shot-0001", 0⟩ (some .upsertAttacker)]).countP
          (fun r => r.attackerName = .str (ascii "alice")) ∧
      deathsOf (storageRun Db.empty
          [.recordKill ⟨ascii "k1", ascii "p1", .str (ascii "alice"), ascii "p2", .str (ascii "bob"),
            ascii "shot-0001", 0⟩ (some .upsertAttacker)]) (.str (ascii "alice")) =
        (insertedRows
          [.recordKill ⟨ascii "k1", ascii "p1", .str (ascii "alice"), ascii "p2", .str (ascii "bob"),
            ascii "shot-0001", 0⟩ (some .upsertAttacker)]).countP
          (fun r => r.victimName = .str (ascii "alice"))) := by
  rw [kill_counts_exact_iff]
  decide

end SnowBrawl
