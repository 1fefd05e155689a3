import SnowBrawl.Rejections

/-!
# Runs of the server

Several properties of the server fail only along a particular run: a connection
opens, says `hello`, sends a few frames, while other tasks are suspended.  This
module provides what such a run is assembled from.

* `Reachable.connect`, `Reachable.arrive`, `Reachable.resume_last` — one
  transition of `Step` each, with the task list in the shape the runs use: a new
  frame's task is appended, and the task resumed is the last one.
* `Reachable.tick`, `Reachable.cleanup` — the clock and the idle cleanup.
* `Reachable.hello` — the macro step every run starts with: connection `k`
  opens, its `hello` frame is decoded, `serverOnHello` resolves, and the client
  is registered.
* `registerClient_registered`, `rateLimitOk_first` — a client right after
  `hello`: the connection holds its `WSClient`, and its first frame passes the
  rate limit.
-/

namespace SnowBrawl

open Js

/-! ## A client right after `hello` -/

section Register

variable (k now : ℕ) (snap : PlayerSnapshot) (w : World)

/-- The `WSClient` object the `hello` branch creates. -/
def helloClient : WSClient := ⟨snap.id, snap.name, now, now, 0, 0⟩

@[simp] theorem registerClient_now : (registerClient k now snap w).now = w.now := by
  simp [registerClient]

/-- The connection now holds the client; it still accepts frames. -/
theorem registerClient_conn {conn : Conn} (hk : w.conns.get? k = some conn) :
    (registerClient k now snap w).conns.get? k = some { conn with client := some snap.id } := by
  simp [registerClient, updateConn_get?_self k _ w hk]

theorem registerClient_registered {conn : Conn} (hk : w.conns.get? k = some conn) :
    Registered (registerClient k now snap w) k snap.id (helloClient now snap) := by
  constructor
  · rw [registerClient_conn k now snap w hk]
    rfl
  · simp [registerClient, helloClient]

theorem registerClient_clients_has :
    (registerClient k now snap w).clients.has snap.id = true := by
  rw [Map.has_eq_true_iff]
  exact ⟨(), by simp [registerClient]⟩

/-- The cache holds the new snapshot, written once directly and once more by the
\`join\` event. -/
theorem registerClient_cache : (registerClient k now snap w).playersCache.get? snap.id = some snap := by
  simp [registerClient, applyEventToCache]

/-- The first frame after `hello` in the same millisecond passes the rate limit. -/
theorem rateLimitOk_first : (rateLimitOk (helloClient now snap) now).1 = true := by
  simp [rateLimitOk, helloClient, rateMaxMsgs]

end Register

/-! ## One transition at a time -/

namespace Reachable

variable {w : World} {ts : List Task}

/-- The server as it starts with world seed `0` at time `0`, every random
number `0`. -/
theorem start : Reachable (initSys 0 0 fun _ => 0) :=
  .init 0 0 _ fun _ => ⟨le_refl 0, zero_lt_one⟩

theorem connect (hs : Reachable ⟨w, ts⟩) {k : ℕ} (fresh : w.conns.get? k = none) :
    Reachable ⟨{ w with conns := w.conns.set k ⟨none, true, false⟩ }, ts⟩ :=
  hs.step (.connect ⟨w, ts⟩ k fresh)

theorem arrive (hs : Reachable ⟨w, ts⟩) {k : ℕ} {c : Conn} (hk : w.conns.get? k = some c)
    (haccepting : c.accepting = true) (msg : Option JsValue) :
    Reachable ⟨w, ts ++ [.message k (.decoding msg)]⟩ :=
  hs.step (.arrive ⟨w, ts⟩ k c hk haccepting msg)

theorem resume_last {t : Task} (hs : Reachable ⟨w, ts ++ [t]⟩) {d : Draw} (hd : d.Valid) :
    Reachable ⟨(resumeTask t w d).1, ts ++ (resumeTask t w d).2.1⟩ := by
  have hstep := Step.resume w ts [] t d hd
  rw [List.append_nil] at hstep
  exact hs.step hstep

/-- A first \`hello\` on an unregistered connection suspends on \`serverOnHello\`. -/
theorem onMessage_hello {k : ℕ} (hnone : (w.conns.get? k).bind Conn.client = none)
    {name : JsValue} {d : Draw} {snap : PlayerSnapshot}
    (hhello : serverOnHello name w.now d = .ok snap) :
    onMessage k (some (clientMessage "hello" [("name", name)])) w d =
      (w, .await (.hello w.now snap)) := by
  have ht := clientMessage_get_t "hello" "name" name (by decide)
  have hname := clientMessage_get_field "hello" "name" name
  simp only [onMessage, JsValue.truthy, hnone, ht, hname, hhello]
  rfl

/-- The decoded \`hello\` of an unregistered connection suspends on
\`serverOnHello\`. -/
theorem decode_hello {k : ℕ} {name : JsValue}
    (hs : Reachable ⟨w, ts ++ [.message k (.decoding (some (clientMessage "hello"
      [("name", name)])))]⟩)
    (hnone : (w.conns.get? k).bind Conn.client = none) {d : Draw} (hd : d.Valid)
    {snap : PlayerSnapshot} (hhello : serverOnHello name w.now d = .ok snap) :
    Reachable ⟨w, ts ++ [.message k (.hello w.now snap)]⟩ := by
  have hdecoded := hs.resume_last hd
  simp only [resumeTask, resumeMessage, onMessage_hello hnone hhello] at hdecoded
  exact hdecoded

/-- \`serverOnHello\` resolved: the client is registered and \`join\` appended. -/
theorem register {k now : ℕ} {snap : PlayerSnapshot}
    (hs : Reachable ⟨w, ts ++ [.message k (.hello now snap)]⟩) {d : Draw} (hd : d.Valid) :
    Reachable ⟨registerClient k now snap w, ts ++ [.message k .joined]⟩ :=
  hs.resume_last hd

/-- The \`join\` broadcast is done: \`welcome\` and a snapshot of the cache go out,
and the invocation returns. -/
theorem welcome {k : ℕ} (hs : Reachable ⟨w, ts ++ [.message k .joined]⟩) {d : Draw}
    (hd : d.Valid) :
    Reachable ⟨{ w with snapshotsSent := w.snapshotsSent ++ [w.playersCache.values] }, ts⟩ := by
  have hwelcomed := hs.resume_last hd
  rw [show (resumeTask (.message k .joined) w d).2.1 = [] from rfl, List.append_nil] at hwelcomed
  exact hwelcomed

/-- **A connection opens and registers.**  Connection \`k\` is accepted, its
\`hello\` frame is decoded, \`serverOnHello\` resolves with \`snap\`, and the client
is registered; the invocation is left awaiting the \`join\` broadcast. -/
theorem hello (hs : Reachable ⟨w, ts⟩) {k : ℕ} (fresh : w.conns.get? k = none)
    {name : JsValue} {d : Draw} (hd : d.Valid) {snap : PlayerSnapshot}
    (hhello : serverOnHello name w.now d = .ok snap) :
    Reachable ⟨registerClient k w.now snap { w with conns := w.conns.set k ⟨none, true, false⟩ },
      ts ++ [.message k .joined]⟩ := by
  let w₁ : World := { w with conns := w.conns.set k ⟨none, true, false⟩ }
  have hconn : w₁.conns.get? k = some ⟨none, true, false⟩ := Map.get?_set_self _ _ _
  have harrived := (hs.connect fresh).arrive hconn rfl
    (some (clientMessage "hello" [("name", name)]))
  have hhello₁ : serverOnHello name w₁.now d = .ok snap := hhello
  exact (harrived.decode_hello (by rw [hconn]; rfl) hd hhello₁).register hd

/-- Connection \`k\` closes: \`onclose\` runs up to its \`await\`. -/
theorem close (hs : Reachable ⟨w, ts⟩) {k : ℕ} {c : Conn} (hk : w.conns.get? k = some c)
    (hopen : c.closed = false) :
    Reachable ⟨(onClose k w).1, ts ++ (onClose k w).2.toList⟩ :=
  hs.step (.close ⟨w, ts⟩ k c hk hopen)

/-- Time passes. -/
theorem tick (hs : Reachable ⟨w, ts⟩) (dt : ℕ) : Reachable ⟨{ w with now := w.now + dt }, ts⟩ :=
  hs.step (.tick ⟨w, ts⟩ dt)

/-- The idle cleanup fires. -/
theorem cleanup (hs : Reachable ⟨w, ts⟩) : Reachable ⟨cleanupIdle w, ts⟩ :=
  hs.step (.cleanup ⟨w, ts⟩)

end Reachable

end SnowBrawl
