import SnowBrawl.Ws

/-!
# When `onmessage` rejects

The handler's promise rejects exactly when an exception escapes a segment.
Only three calls can throw, and each only through the `.trim()` at the start of
`clampName` or `clampChat`:

* `serverOnHello(msg.name)` on the first `hello` of a connection;
* `serverHandleChat`, on the message's `text`;
* `serverHandleRename`, on the message's `name` — after `ws.ts` has already
  stored that `name` in the connection's `WSClient`.

`onMessage_threw_iff` states this completely: a decoded message rejects iff it
is one of those three kinds and the field is neither a string nor nullish.  The
shape checks of `state` and `snowball` (`isFiniteVec3`, `Number.isFinite`,
`isUuidLike`) never throw.
-/

namespace SnowBrawl

open Js

/-- Connection `k` holds the `WSClient` object `c`, of id `cid`. -/
def Registered (w : World) (k : ℕ) (cid : JsString) (c : WSClient) : Prop :=
  (w.conns.get? k).bind Conn.client = some cid ∧ w.clientObjs.get? cid = some c

/-- A field the sanitisers cannot trim: neither a string nor nullish. -/
def Untrimmable (v : JsValue) : Prop := trimValue v = .error .typeError

/-! ## The handlers that can throw -/

section Callees

variable (clientId : JsString) (w : World) (d : Draw)

theorem serverOnHello_error_iff (name : JsValue) (now : ℕ) :
    (∃ e, serverOnHello name now d = .error e) ↔ Untrimmable name := by
  unfold serverOnHello clampName Untrimmable
  cases htrim : trimValue name with
  | error e => cases e; simp [bind, Except.bind]
  | ok s => simp [bind, Except.bind, pure, Except.pure]

theorem serverHandleChat_threw_iff (name msg : JsValue) :
    (serverHandleChat clientId name msg w).2.threwQ = true ↔
      Untrimmable (msg.get (ascii "text")) := by
  unfold serverHandleChat Untrimmable clampChat
  cases htrim : trimValue (msg.get (ascii "text")) with
  | error e => cases e; simp [bind, Except.bind, Yield.threwQ]
  | ok s =>
      simp only [bind, Except.bind, pure, Except.pure]
      split <;> simp [Yield.threwQ]

theorem serverHandleRename_threw_iff (newRawName : JsValue) :
    (serverHandleRename clientId newRawName w).2.threwQ = true ↔ Untrimmable newRawName := by
  unfold serverHandleRename
  cases hclamp : clampName newRawName with
  | error e =>
      have htrim : Untrimmable newRawName := by
        unfold clampName at hclamp
        unfold Untrimmable
        cases htrim : trimValue newRawName with
        | error e' => cases e'; rfl
        | ok s => simp [bind, Except.bind, htrim, pure, Except.pure] at hclamp
      simp [Yield.threwQ, htrim]
  | ok s =>
      have hnot : ¬ Untrimmable newRawName := by
        unfold clampName at hclamp
        unfold Untrimmable
        intro htrim
        simp [bind, Except.bind, htrim] at hclamp
      simp only [hnot, iff_false]
      split <;> simp [Yield.threwQ]

/-- \`serverHandleRename\` touches neither the \`WSClient\` objects nor the
connections. -/
@[simp] theorem serverHandleRename_clientObjs (newRawName : JsValue) :
    (serverHandleRename clientId newRawName w).1.clientObjs = w.clientObjs := by
  unfold serverHandleRename
  split
  · rfl
  · split <;> rfl

theorem serverHandleState_not_threw (name msg : JsValue) :
    (serverHandleState clientId name msg w d).2.threwQ = false := by
  unfold serverHandleState
  dsimp only
  repeat' (first | rfl | split)

theorem serverHandleSnowball_not_threw (msg : JsValue) :
    (serverHandleSnowball clientId msg w d).2.threwQ = false := by
  unfold serverHandleSnowball
  dsimp only
  repeat' (first | rfl | split)

end Callees

@[simp] theorem threwQ_map {σ τ : Type} (f : σ → τ) (y : Yield σ) :
    (y.map f).threwQ = y.threwQ := by
  cases y <;> rfl

/-! ## The dispatch -/

/-- Two distinct tags: a value equal to one is not equal to the other. -/
theorem isStr_false_of_isStr {t : JsValue} {a b : JsString} (ha : t.isStr a = true)
    (hne : (a == b) = false) : t.isStr b = false := by
  rw [JsValue.isStr_eq_true] at ha
  subst ha
  exact hne

section Dispatch

variable {cid : JsString} {c : WSClient} {m : JsValue} {w : World} {d : Draw}

/-- A \`chat\` goes to \`serverHandleChat\` with the connection's name. -/
theorem dispatch_of_chat (hchat : (m.get (ascii "t")).isStr (ascii "chat") = true) :
    dispatch cid c m w d =
      ((serverHandleChat cid c.name m w).1,
        (serverHandleChat cid c.name m w).2.map fun _ => .broadcasting) := by
  have hping := isStr_false_of_isStr hchat (b := ascii "ping") (by decide)
  simp only [dispatch, hping, hchat, Bool.false_eq_true, ite_false, ite_true]

/-- A \`rename\` first stores \`msg.name\` in the \`WSClient\`, then calls
\`serverHandleRename\` on it. -/
theorem dispatch_of_rename (hrename : (m.get (ascii "t")).isStr (ascii "rename") = true) :
    dispatch cid c m w d =
      let w' := setClientObj cid { c with name := m.get (ascii "name") } w
      ((serverHandleRename cid (m.get (ascii "name")) w').1,
        (serverHandleRename cid (m.get (ascii "name")) w').2.map fun _ => .broadcasting) := by
  have hping := isStr_false_of_isStr hrename (b := ascii "ping") (by decide)
  have hchat := isStr_false_of_isStr hrename (b := ascii "chat") (by decide)
  have hstate := isStr_false_of_isStr hrename (b := ascii "state") (by decide)
  have hsnowball := isStr_false_of_isStr hrename (b := ascii "snowball") (by decide)
  simp only [dispatch, hping, hchat, hstate, hsnowball, hrename, Bool.false_eq_true, ite_false,
    ite_true]

/-- The \`switch\` rejects exactly on a \`chat\` or \`rename\` whose field cannot be
trimmed. -/
theorem dispatch_threw_iff :
    (dispatch cid c m w d).2.threwQ = true ↔
      ((m.get (ascii "t")).isStr (ascii "chat") = true ∧ Untrimmable (m.get (ascii "text"))) ∨
      ((m.get (ascii "t")).isStr (ascii "rename") = true ∧ Untrimmable (m.get (ascii "name"))) := by
  by_cases hchat : (m.get (ascii "t")).isStr (ascii "chat") = true
  · have hrename := isStr_false_of_isStr hchat (b := ascii "rename") (by decide)
    rw [dispatch_of_chat hchat]
    simp only [threwQ_map, serverHandleChat_threw_iff, hchat, hrename, Bool.false_eq_true,
      true_and, false_and, or_false]
  · by_cases hrename : (m.get (ascii "t")).isStr (ascii "rename") = true
    · rw [Bool.not_eq_true] at hchat
      rw [dispatch_of_rename hrename]
      simp only [Bool.false_eq_true, threwQ_map, serverHandleRename_threw_iff, hchat, hrename, true_and, false_and,
        false_or]
    · -- neither tag: every remaining branch returns or suspends
      rw [Bool.not_eq_true] at hchat hrename
      unfold dispatch
      simp only [hchat, hrename, Bool.false_eq_true, ite_false, false_and, or_self, iff_false]
      split
      · simp [Yield.threwQ]
      · split
        · split
          · simp [serverHandleState_not_threw]
          · simp [Yield.threwQ]
        · split
          · simp [serverHandleSnowball_not_threw]
          · simp [Yield.threwQ]

end Dispatch

/-! ## The handler -/

/-- A registered connection's message goes through the rate limit, which bumps
the counters of the `WSClient`, and then to the `switch`. -/
theorem onMessage_registered {w : World} {k : ℕ} {cid : JsString} {c : WSClient}
    (hreg : Registered w k cid c) (m : JsValue) (htruthy : m.truthy = true) (d : Draw) :
    onMessage k (some m) w d =
      if (rateLimitOk c w.now).1 then
        dispatch cid (rateLimitOk c w.now).2 m (setClientObj cid (rateLimitOk c w.now).2 w) d
      else (updateConn k (fun conn => { conn with accepting := false })
        (setClientObj cid (rateLimitOk c w.now).2 w), .done) := by
  obtain ⟨hclient, hobj⟩ := hreg
  simp only [onMessage, htruthy, Bool.not_true, Bool.false_eq_true, ite_false, hclient, hobj]

/-- **Exactly these frames reject.**  A decoded message rejects the promise of
`onmessage` iff it is a first `hello` whose `name`, or a `chat` whose `text`, or a
`rename` whose `name`, is neither a string nor nullish — the last two only when
the connection is registered and within its rate limit. -/
theorem onMessage_threw_iff (k : ℕ) (msg : Option JsValue) (w : World) (d : Draw) :
    (onMessage k msg w d).2.threwQ = true ↔
      ∃ m, msg = some m ∧ m.truthy = true ∧
        (((w.conns.get? k).bind Conn.client = none ∧
            (m.get (ascii "t")).isStr (ascii "hello") = true ∧ Untrimmable (m.get (ascii "name"))) ∨
         (∃ cid c, Registered w k cid c ∧ (rateLimitOk c w.now).1 = true ∧
            (((m.get (ascii "t")).isStr (ascii "chat") = true ∧
                Untrimmable (m.get (ascii "text"))) ∨
              ((m.get (ascii "t")).isStr (ascii "rename") = true ∧
                Untrimmable (m.get (ascii "name")))))) := by
  cases msg with
  | none => simp [onMessage, Yield.threwQ]
  | some m =>
      by_cases htruthy : m.truthy = true
      · cases hclient : (w.conns.get? k).bind Conn.client with
        | none =>
            have hnotReg : ∀ cid c, ¬ Registered w k cid c := by
              intro cid c hreg
              rw [hreg.1] at hclient
              cases hclient
            simp only [onMessage, htruthy, Bool.not_true, Bool.false_eq_true, ite_false, hclient]
            split
            · next hhello =>
                cases hhello' : serverOnHello (m.get (ascii "name")) w.now d with
                | ok snap =>
                    have hok : ¬ Untrimmable (m.get (ascii "name")) := by
                      rw [← serverOnHello_error_iff d _ w.now, hhello']
                      simp
                    simp [Yield.threwQ, hok, hnotReg]
                | error e =>
                    have herr : Untrimmable (m.get (ascii "name")) :=
                      (serverOnHello_error_iff d _ w.now).mp ⟨e, hhello'⟩
                    simp [Yield.threwQ, herr, hhello, htruthy]
            · next hhello => simp [Yield.threwQ, hhello, hnotReg]
        | some cid =>
            cases hobj : w.clientObjs.get? cid with
            | none =>
                have hnotReg : ∀ cid' c, ¬ Registered w k cid' c := by
                  intro cid' c hreg
                  rw [hreg.1] at hclient
                  cases hclient
                  rw [hreg.2] at hobj
                  cases hobj
                simp [onMessage, htruthy, hclient, hobj, Yield.threwQ, hnotReg]
            | some c =>
                have hreg : Registered w k cid c := ⟨hclient, hobj⟩
                have hunique : ∀ cid' c', Registered w k cid' c' → cid' = cid ∧ c' = c := by
                  intro cid' c' h'
                  have hid : cid' = cid := Option.some.inj (h'.1.symm.trans hclient)
                  subst hid
                  exact ⟨rfl, Option.some.inj (h'.2.symm.trans hobj)⟩
                rw [onMessage_registered hreg m htruthy d]
                constructor
                · intro hthrew
                  split at hthrew
                  · next hrate =>
                      refine ⟨m, rfl, htruthy, Or.inr ⟨cid, c, hreg, hrate, ?_⟩⟩
                      exact dispatch_threw_iff.mp hthrew
                  · simp [Yield.threwQ] at hthrew
                · rintro ⟨m', hm', -, hcase⟩
                  cases hm'
                  rcases hcase with ⟨hnone, -⟩ | ⟨cid', c', hreg', hrate, hfield⟩
                  · cases hnone
                  · obtain ⟨rfl, rfl⟩ := hunique cid' c' hreg'
                    rw [if_pos hrate]
                    exact dispatch_threw_iff.mpr hfield
      · simp [onMessage, htruthy, Yield.threwQ]

/-! ## Client messages -/

/-- The object `JSON.parse` returns for `{"t": tag, ...fields}`. -/
def clientMessage (tag : String) (fields : List (String × JsValue)) : JsValue :=
  .obj ((ascii "t", .str (ascii tag)) :: fields.map fun f => (ascii f.1, f.2))

/-- The tag of a one-field message is read back by \`msg.t\`. -/
theorem clientMessage_get_t (tag key : String) (v : JsValue) (hkey : ascii key ≠ ascii "t") :
    (clientMessage tag [(key, v)]).get (ascii "t") = .str (ascii tag) := by
  have hne : (ascii "t" == ascii key) = false := beq_eq_false_iff_ne.mpr (Ne.symm hkey)
  simp [clientMessage, JsValue.get, List.lookup, hne]

/-- The field of a one-field message is read back by its key. -/
theorem clientMessage_get_field (tag key : String) (v : JsValue) :
    (clientMessage tag [(key, v)]).get (ascii key) = v := by
  simp [clientMessage, JsValue.get]

/-- A `rename` stores its `name` in the connection's `WSClient` before
`serverHandleRename` looks at it, whatever happens next. -/
theorem onMessage_rename_stores_name {w : World} {k : ℕ} {cid : JsString} {c : WSClient}
    (hreg : Registered w k cid c) (hrate : (rateLimitOk c w.now).1 = true) (name : JsValue)
    (d : Draw) :
    ((onMessage k (some (clientMessage "rename" [("name", name)])) w d).1.clientObjs.get? cid).map
      WSClient.name = some name := by
  have ht := clientMessage_get_t "rename" "name" name (by decide)
  have hname := clientMessage_get_field "rename" "name" name
  have hrename : ((clientMessage "rename" [("name", name)]).get (ascii "t")).isStr
      (ascii "rename") = true := by
    rw [ht]
    decide
  rw [onMessage_registered hreg _ rfl d, if_pos hrate, dispatch_of_rename hrename]
  simp [serverHandleRename_clientObjs, setClientObj, Map.get?_set_self, hname]

/-- **A numeric \`text\` or \`name\` rejects the handler.**  On a connection that
has said \`hello\` and is within its rate limit, the frames \`{"t":"chat","text":5}\`
and \`{"t":"rename","name":7}\` each make the resumed \`onmessage\` reject with the
\`TypeError\` of \`(5).trim()\`; the rejected \`rename\` has by then replaced the
\`WSClient\`'s name with the number \`7\`. -/
theorem numeric_chat_and_rename_reject {w : World} {k : ℕ} {cid : JsString} {c : WSClient}
    (hreg : Registered w k cid c) (hrate : (rateLimitOk c w.now).1 = true) (d : Draw) :
    (resumeTask (.message k (.decoding (some (clientMessage "chat" [("text", .num (.ofInt 5))]))))
        w d).2.2 = true ∧
    (resumeTask (.message k (.decoding (some (clientMessage "rename" [("name", .num (.ofInt 7))]))))
        w d).2.2 = true ∧
    ((resumeTask (.message k (.decoding (some (clientMessage "rename"
        [("name", .num (.ofInt 7))])))) w d).1.clientObjs.get? cid).map WSClient.name =
      some (.num (.ofInt 7)) := by
  simp only [resumeTask, resumeMessage]
  -- both fields reach \`trimValue\` as numbers, which have no \`.trim\`
  have huntrim : Untrimmable (.num (.ofInt 5)) ∧ Untrimmable (.num (.ofInt 7)) := ⟨rfl, rfl⟩
  refine ⟨?chat, ?rename, onMessage_rename_stores_name hreg hrate _ d⟩
  case chat =>
    refine (onMessage_threw_iff k _ w d).mpr ⟨_, rfl, rfl, Or.inr ⟨cid, c, hreg, hrate, ?_⟩⟩
    rw [clientMessage_get_t "chat" "text" _ (by decide), clientMessage_get_field]
    exact Or.inl ⟨by decide, huntrim.1⟩
  case rename =>
    refine (onMessage_threw_iff k _ w d).mpr ⟨_, rfl, rfl, Or.inr ⟨cid, c, hreg, hrate, ?_⟩⟩
    rw [clientMessage_get_t "rename" "name" _ (by decide), clientMessage_get_field]
    exact Or.inr ⟨by decide, huntrim.2⟩

/-- The \`WSClient\` of \`"p"\`, created at time \`0\`. -/
def clientP : WSClient := ⟨ascii "p", .str (ascii "p"), 0, 0, 0, 0⟩

/-- One connection, \`0\`, registered at time \`0\` as the player \`"p"\`. -/
def oneClientWorld : World :=
  { emptyWorld 0 0 with
    conns := Map.empty.set 0 ⟨some (ascii "p"), true, false⟩
    clientObjs := Map.empty.set (ascii "p") clientP }

theorem numeric_chat_and_rename_reject_at_oneClientWorld :
    Registered oneClientWorld 0 (ascii "p") clientP ∧
    (rateLimitOk clientP oneClientWorld.now).1 = true ∧
    (resumeTask (.message 0 (.decoding (some (clientMessage "chat" [("text", .num (.ofInt 5))]))))
        oneClientWorld ⟨fun _ => 0, []⟩).2.2 = true ∧
    (resumeTask (.message 0 (.decoding (some (clientMessage "rename" [("name", .num (.ofInt 7))]))))
        oneClientWorld ⟨fun _ => 0, []⟩).2.2 = true ∧
    ((resumeTask (.message 0 (.decoding (some (clientMessage "rename"
        [("name", .num (.ofInt 7))])))) oneClientWorld ⟨fun _ => 0, []⟩).1.clientObjs.get?
        (ascii "p")).map WSClient.name = some (.num (.ofInt 7)) := by
  have hreg : Registered oneClientWorld 0 (ascii "p") clientP := ⟨rfl, rfl⟩
  have hrate : (rateLimitOk clientP oneClientWorld.now).1 = true := by decide
  exact ⟨hreg, hrate, numeric_chat_and_rename_reject hreg hrate ⟨fun _ => 0, []⟩⟩

end SnowBrawl
