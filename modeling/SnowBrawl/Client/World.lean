import SnowBrawl.Bot

/-!
# The client's world: its seed, its terrain and the scene

`client_src/utils.js` holds the client's `worldSeed`, `1` until a `welcome`
brings the server's, and a copy of `terrainHeight` that reads it; the player's
ground check and the snowballs' ground test call that copy.  `environment.js`
builds the scene once: `ensureEnvironment` calls `createEnvironment` unless
`environmentReady`, and `createEnvironment` reads `worldSeed` for the heights
of the ground mesh and for the random decorations.  `network.js` handles
`welcome` by storing a numeric `msg.seed` in `worldSeed` and calling
`ensureEnvironment`.

## Main results

* `terrainHeight_eq_server` — the client's copy is the server's function.
* `scene_processAll_of_some` — once built, the scene is never rebuilt.
* `ground_seed_after_reconnect` — after a `welcome` with seed `s₁`, any
  messages and a `welcome` with seed `s₂`, the physics reads `s₂` while the
  scene was built from `s₁`.
-/

namespace SnowBrawl

namespace Client

noncomputable section

/-- `terrainHeight(x, z)` of `client_src/utils.js`, under the client's
`worldSeed`. -/
def terrainHeight (worldSeed : ℕ) (x z : ℝ) : ℝ :=
  let scale1 : ℝ := 0.06
  let scale2 : ℝ := 0.12
  let s : ℝ := worldSeed * 0.0001
  let n1 := Real.sin (x * scale1 + s * 13.37) + Real.cos (z * scale1 - s * 7.21)
  let n2 := Real.sin ((x + 1000) * scale2 - s * 3.17) - Real.cos ((z - 500) * scale2 + s * 9.99)
  let h := n1 * 0.7 + n2 * 0.3
  let sign : ℝ := if h ≥ 0 then 1 else -1
  sign * |h| ^ (1.8 : ℝ) * 2.5 + 6

/-- The two copies of the formula are one function. -/
theorem terrainHeight_eq_server : terrainHeight = SnowBrawl.terrainHeight := rfl

/-- What `createEnvironment()` builds, by the seed it read: the ground mesh
lifted by `terrainHeight`, the snow texture and decorations drawn from
`makeRng(worldSeed)`, and the trees of `makeRng(worldSeed + 12345)` with their
`STATIC_OBSTACLES`.  Each of them is a function of that seed. -/
structure Environment where
  seed : ℕ
  deriving DecidableEq

/-- `createEnvironment()`, reading `worldSeed`. -/
def createEnvironment (worldSeed : ℕ) : Environment := ⟨worldSeed⟩

/-- Vertex `(ix, iy)` of the ground: `PlaneGeometry(groundSize, groundSize, 128,
128)`, laid flat by `rotateX(-Math.PI / 2)`, has its height set to
`terrainHeight(x, z)`. -/
def Environment.groundVertex (env : Environment) (ix iy : ℕ) : Vec3 :=
  let groundSize : ℝ := 400
  let x : ℝ := ix * (groundSize / 128) - groundSize / 2
  let z : ℝ := iy * (groundSize / 128) - groundSize / 2
  ⟨x, terrainHeight env.seed x z, z⟩

end

/-- The client globals of the world: `worldSeed`, and the scene that
`createEnvironment` built; `environmentReady` is `scene.isSome`. -/
structure WorldState where
  worldSeed : ℕ
  scene : Option Environment

/-- A server message as the world sees it: a `welcome`, with its `seed` when
that is a number, or any other message, which touches neither. -/
inductive WorldMsg where
  | welcome (seed : Option ℕ)
  | other

namespace WorldState

/-- `let worldSeed = 1; let environmentReady = false;` -/
def init : WorldState := ⟨1, none⟩

/-- `ensureEnvironment()`: build the scene unless `environmentReady`. -/
def ensureEnvironment (c : WorldState) : WorldState :=
  match c.scene with
  | some _ => c
  | none => { c with scene := some (createEnvironment c.worldSeed) }

/-- The seed lines of the `welcome` branch. -/
def onWelcome (seed : Option ℕ) (c : WorldState) : WorldState :=
  match seed with
  | some s => ensureEnvironment { c with worldSeed := s }
  | none => ensureEnvironment c

/-- What `socket.onmessage` does to the world. -/
def onmessage : WorldMsg → WorldState → WorldState
  | .welcome seed, c => onWelcome seed c
  | .other, c => c

/-- The messages `msgs`, in order. -/
def processAll (msgs : List WorldMsg) (c : WorldState) : WorldState :=
  msgs.foldl (fun c m => onmessage m c) c

@[simp] theorem processAll_nil (c : WorldState) : processAll [] c = c := rfl

@[simp] theorem processAll_cons (m : WorldMsg) (msgs : List WorldMsg) (c : WorldState) :
    processAll (m :: msgs) c = processAll msgs (onmessage m c) := rfl

theorem processAll_append (msgs₁ msgs₂ : List WorldMsg) (c : WorldState) :
    processAll (msgs₁ ++ msgs₂) c = processAll msgs₂ (processAll msgs₁ c) :=
  List.foldl_append

/-! ### What one message does -/

@[simp] theorem worldSeed_ensureEnvironment (c : WorldState) :
    (ensureEnvironment c).worldSeed = c.worldSeed := by
  unfold ensureEnvironment
  split <;> rfl

theorem scene_ensureEnvironment_of_some {c : WorldState} {e : Environment}
    (h : c.scene = some e) : (ensureEnvironment c).scene = some e := by
  simp [ensureEnvironment, h]

/-- A built scene stays as it is, whatever the message. -/
theorem scene_onmessage_of_some {c : WorldState} {e : Environment} (h : c.scene = some e)
    (m : WorldMsg) : (onmessage m c).scene = some e := by
  cases m with
  | welcome seed => cases seed <;> exact scene_ensureEnvironment_of_some h
  | other => exact h

/-- A `welcome` with a seed sets `worldSeed` to it. -/
theorem worldSeed_onmessage_welcome (s : ℕ) (c : WorldState) :
    (onmessage (.welcome (some s)) c).worldSeed = s := by
  simp [onmessage, onWelcome]

/-- The first `welcome` builds the scene from its seed. -/
theorem scene_onmessage_init (s : ℕ) :
    (onmessage (.welcome (some s)) init).scene = some (createEnvironment s) := rfl

/-! ### Whole runs -/

/-- Once built, the scene is never rebuilt. -/
theorem scene_processAll_of_some {c : WorldState} {e : Environment} (h : c.scene = some e)
    (msgs : List WorldMsg) : (processAll msgs c).scene = some e := by
  -- induction on the messages; the scene is the invariant
  induction msgs generalizing c with
  | nil => exact h
  | cons m msgs ih => exact ih (scene_onmessage_of_some h m)

end WorldState

/-- **A reconnect keeps the old ground.**  After a `welcome` with seed `s₁`, any
messages and a `welcome` with seed `s₂`, as when the client reconnects to a
restarted server, `worldSeed` (read by the client's `terrainHeight`) is `s₂`
while the scene was built from `s₁`. -/
theorem ground_seed_after_reconnect (s₁ s₂ : ℕ) (msgs : List WorldMsg) :
    (WorldState.processAll (.welcome (some s₁) :: msgs ++ [.welcome (some s₂)])
        WorldState.init).worldSeed = s₂ ∧
      (WorldState.processAll (.welcome (some s₁) :: msgs ++ [.welcome (some s₂)])
        WorldState.init).scene = some (createEnvironment s₁) := by
  have hscene : (WorldState.processAll (.welcome (some s₁) :: msgs) WorldState.init).scene =
      some (createEnvironment s₁) :=
    WorldState.scene_processAll_of_some (WorldState.scene_onmessage_init s₁) msgs
  rw [WorldState.processAll_append]
  exact ⟨WorldState.worldSeed_onmessage_welcome s₂ _,
    WorldState.scene_onmessage_of_some hscene (.welcome (some s₂))⟩

/-- Seeds `0` then `3526`: the vertex of the ground mesh at the centre of the map
is drawn at least `6` high, while the client's physics puts the ground there
below zero. -/
theorem ground_seed_after_restart_at_centre :
    (WorldState.processAll [.welcome (some 0), .welcome (some 3526)] WorldState.init).scene =
        some (createEnvironment 0) ∧
      (createEnvironment 0).groundVertex 64 64 = ⟨0, terrainHeight 0 0 0, 0⟩ ∧
      6 ≤ terrainHeight 0 0 0 ∧
      terrainHeight (WorldState.processAll [.welcome (some 0), .welcome (some 3526)]
        WorldState.init).worldSeed 0 0 < 0 := by
  obtain ⟨hseed, hscene⟩ := ground_seed_after_reconnect 0 3526 []
  refine ⟨hscene, ?_, ?_, ?_⟩
  · simp only [Environment.groundVertex, createEnvironment]
    norm_num
  · rw [terrainHeight_eq_server, SnowBrawl.terrainHeight_eq]
    exact SnowBrawl.six_le_terrainLift SnowBrawl.terrainNoise_zero_centre_nonneg
  · rw [show (WorldState.processAll [.welcome (some 0), .welcome (some 3526)]
      WorldState.init).worldSeed = 3526 from hseed]
    exact SnowBrawl.terrainHeight_centre_neg

/-- **The terrain dips below zero inside the map**, in both copies of the
formula. -/
theorem terrain_below_zero_in_map :
    ∃ worldSeed < 2 ^ 32, ∃ x z : ℝ, |x| ≤ mapHalf ∧ |z| ≤ mapHalf ∧
      SnowBrawl.terrainHeight worldSeed x z < 0 ∧ terrainHeight worldSeed x z < 0 :=
  ⟨3526, by norm_num, 0, 0, by norm_num [mapHalf], by norm_num [mapHalf],
    SnowBrawl.terrainHeight_centre_neg, SnowBrawl.terrainHeight_centre_neg⟩

end Client

end SnowBrawl
