import EdgeAI.Preprocess.Extract

/-!
# `IncrementalLearner`: the experience buffer and its update pass

`add_experience` appends to a `deque(maxlen=memory_size)` and, whenever the buffer holds at least
`update_threshold` entries, runs `_incremental_update`: the feature-weight pass, the band pass and
the cluster pass over the whole buffer, then `update_count += 1`. Each pass groups the buffer by
sensor and skips a group that is too small or whose feature vectors differ in length.

A pass writes the learned dicts key by key, so a pass that raises half way leaves the keys it
wrote; the cluster pass can raise, as `features_matrix - cluster_center` does when the centroids
kept from earlier passes have another length than the group's rows. The random seeding
`np.random.choice` is an input: the `Draws` of the call.

The timestamp, label, reward and context of an experience are read by no update and are left
out; `learning_rate` is kept only because the saved metadata carries it.
-/

namespace EdgeAI

/-- An entry of `experience_buffer`. -/
structure Experience (α : Type) where
  sensorId : PyStr
  features : List α
  featureNames : List PyStr

/-- The outcomes of `np.random.choice(n, k, replace=False)` in one update pass: `k` distinct
indices below `n`, one draw for each sensor the pass seeds. -/
structure Draws where
  choice : PyStr → (n k : Nat) → List (Fin n)
  length_choice : ∀ s n k, k ≤ n → (choice s n k).length = k
  nodup_choice : ∀ s n k, (choice s n k).Nodup

/-- The draws that pick the first `k` indices, to run the model on examples. -/
def Draws.first : Draws :=
  ⟨fun _ n k => (List.finRange n).take k, fun _ n k h => by simp [h],
    fun _ n k => (List.nodup_finRange n).sublist (List.take_sublist _ _)⟩

/-- `IncrementalLearner`; `memory_size` is the buffer's `maxlen`. -/
structure IncrementalLearner (α : Type) where
  learningRate : α
  updateThreshold : Int
  experienceBuffer : Deque (Experience α)
  featureWeights : PyDict α
  anomalyThresholds : PyDict (α × α)
  patternClusters : PyDict (List (List α))
  updateCount : Nat
  totalSamples : Nat

namespace IncrementalLearner

variable {α : Type}

/-- `IncrementalLearner(learning_rate, memory_size, update_threshold)`. -/
def init (learningRate : α) (memorySize : Nat) (updateThreshold : Int) : IncrementalLearner α :=
  ⟨learningRate, updateThreshold, .empty memorySize, .empty, .empty, .empty, 0, 0⟩

end IncrementalLearner

/-! ## Grouping the buffer by sensor -/

section Groups

variable {α : Type}

/-- `sensor_groups`: the experiences of each sensor, sensors in order of first appearance. -/
def sensorGroups (buf : List (Experience α)) : PyDict (List (Experience α)) :=
  buf.foldl (fun g e => g.set e.sensorId ((g.get? e.sensorId).getD [] ++ [e])) .empty

/-- `len(set(len(e["features"]) for e in experiences)) > 1`. -/
def lengthsDiffer : List (Experience α) → Bool
  | [] => false
  | e :: es => es.any fun e' => e'.features.length ≠ e.features.length

/-- `xs[i]`, which raises `IndexError` past the end. -/
def pyIndex (xs : List α) (i : Nat) : Except PyError α :=
  match xs[i]? with
  | some x => .ok x
  | none => .error .indexError

/-- `f"{sensor_id}_{name}"`. -/
def featureKey (sensorId name : PyStr) : PyStr := sensorId ++ pyStr "_" ++ name

end Groups

/-! ## The three passes -/

section Passes

variable {α : Type} [LinearOrderedField α]

/-- The feature-weight blend `0.7 * old + 0.3 * new`, or `new` for a key seen first. -/
def blendWeight (old : Option α) (w : α) : α :=
  match old with
  | some o => 7 / 10 * o + 3 / 10 * w
  | none => w

/-- The band blend `0.8 * old + 0.2 * new`, bound by bound, or the new band for a new key. -/
def blendBand (old : Option (α × α)) (band : α × α) : α × α :=
  match old with
  | some (lo, hi) => (8 / 10 * lo + 2 / 10 * band.1, 8 / 10 * hi + 2 / 10 * band.2)
  | none => band

/-- One sensor's share of `_update_feature_weights`. -/
def weightsGroup (sensorId : PyStr) (exps : List (Experience α)) : Py (PyDict α) Unit :=
  match exps with
  | [] => pure ()
  | e :: _ =>
    if exps.length < 2 ∨ lengthsDiffer exps then pure ()
    else
      let variances := Np.varAxis0 (exps.map (·.features))
      if 0 < variances.sum then
        let weights := variances.map (· / variances.sum)
        e.featureNames.enum.forM fun (i, name) => do
          let w ← Py.ofExcept (pyIndex weights i)
          let key := featureKey sensorId name
          modify fun fw => fw.set key (blendWeight (fw.get? key) w)
      else pure ()

/-- `_update_feature_weights`. -/
def updateFeatureWeights (buf : List (Experience α)) : Py (PyDict α) Unit :=
  (sensorGroups buf).entries.forM fun g => weightsGroup g.1 g.2

/-- One sensor's share of `_update_anomaly_thresholds`: bands `mean ± 3 std`. -/
def thresholdsGroup (sqrt : α → α) (sensorId : PyStr) (exps : List (Experience α)) :
    Py (PyDict (α × α)) Unit :=
  match exps with
  | [] => pure ()
  | e :: _ =>
    if exps.length < 5 ∨ lengthsDiffer exps then pure ()
    else
      let rows := exps.map (·.features)
      let means := Np.meanAxis0 rows
      let stds := Np.stdAxis0 sqrt rows
      e.featureNames.enum.forM fun (i, name) => do
        let key := featureKey sensorId name
        let m ← Py.ofExcept (pyIndex means i)
        let sd ← Py.ofExcept (pyIndex stds i)
        modify fun th => th.set key (blendBand (th.get? key) (m - 3 * sd, m + 3 * sd))

/-- `_update_anomaly_thresholds`. -/
def updateAnomalyThresholds (sqrt : α → α) (buf : List (Experience α)) :
    Py (PyDict (α × α)) Unit :=
  (sensorGroups buf).entries.forM fun g => thresholdsGroup sqrt g.1 g.2

/-- The update of one centroid: the rows nearer than the median distance pull it by `0.3`;
`features_matrix - cluster_center` and the blend broadcast, and raise on a length mismatch. -/
def recenter (sqrt : α → α) (rows : List (List α)) (center : List α) :
    Except PyError (List α) := do
  let diffs ← rows.mapM fun row => Np.broadcast (· - ·) row center
  let distances := diffs.map (Np.norm sqrt)
  let close := (rows.zip distances).filterMap fun (row, d) =>
    if d < Np.median distances then some row else none
  if close.isEmpty then pure center
  else Np.broadcast (· + ·) (center.map (7 / 10 * ·)) ((Np.meanAxis0 close).map (3 / 10 * ·))

/-- One sensor's share of `_update_pattern_clusters` with `max_clusters = 5`: seed five centroids
from the group the first time, then recenter every centroid. -/
def clustersGroup (sqrt : α → α) (draws : Draws) (sensorId : PyStr)
    (exps : List (Experience α)) : Py (PyDict (List (List α))) Unit :=
  if exps.length < 5 ∨ lengthsDiffer exps then pure ()
  else do
    let rows := exps.map (·.features)
    if ((← get).get? sensorId).isNone then
      let indices := draws.choice sensorId rows.length (min 5 rows.length)
      modify (·.set sensorId (indices.map rows.get))
    let clusters := ((← get).get? sensorId).getD []
    let newClusters ← Py.ofExcept (clusters.mapM (recenter sqrt rows))
    modify (·.set sensorId newClusters)

/-- `_update_pattern_clusters`. -/
def updatePatternClusters (sqrt : α → α) (draws : Draws) (buf : List (Experience α)) :
    Py (PyDict (List (List α))) Unit :=
  (sensorGroups buf).entries.forM fun g => clustersGroup sqrt draws g.1 g.2

end Passes

/-! ## `_incremental_update` and `add_experience` -/

section Update

variable {α : Type} [LinearOrderedField α] (lib : Libraries α)

/-- `_incremental_update`. -/
def incrementalUpdate (draws : Draws) : Py (IncrementalLearner α) Unit := do
  let buf := (← get).experienceBuffer.items
  if buf.length < 2 then return
  Py.focus (·.featureWeights) (fun l w => { l with featureWeights := w })
    (updateFeatureWeights buf)
  Py.focus (·.anomalyThresholds) (fun l th => { l with anomalyThresholds := th })
    (updateAnomalyThresholds lib.sqrt buf)
  Py.focus (·.patternClusters) (fun l pc => { l with patternClusters := pc })
    (updatePatternClusters lib.sqrt draws buf)
  modify fun l => { l with updateCount := l.updateCount + 1 }

/-- The buffer entry `add_experience` builds from a record. -/
def Experience.ofFeatures (f : ProcessedFeatures α) : Experience α :=
  ⟨f.sensorId, f.features, f.featureNames⟩

/-- `add_experience`. -/
def addExperience (draws : Draws) (f : ProcessedFeatures α) : Py (IncrementalLearner α) Unit := do
  modify fun l => { l with
    experienceBuffer := l.experienceBuffer.append (.ofFeatures f)
    totalSamples := l.totalSamples + 1 }
  let l ← get
  if l.updateThreshold ≤ l.experienceBuffer.items.length then incrementalUpdate lib draws

/-- A run of `add_experience` calls, each with the draws of its pass. A call that raises leaves
its state to the next: the sensor callbacks that make the calls catch what they raise. -/
def feed : IncrementalLearner α → List (ProcessedFeatures α × Draws) → IncrementalLearner α
  | l, [] => l
  | l, (f, d) :: rest => feed (final (addExperience lib d f l)) rest

/-- The learner states reachable from a fresh learner by `add_experience` calls. -/
inductive Reachable : IncrementalLearner α → Prop
  | init (learningRate : α) (memorySize : Nat) (updateThreshold : Int) :
      Reachable (IncrementalLearner.init learningRate memorySize updateThreshold)
  | step {l : IncrementalLearner α} (draws : Draws) (f : ProcessedFeatures α) :
      Reachable l → Reachable (final (addExperience lib draws f l))

theorem Reachable.feed : ∀ {l : IncrementalLearner α} (fs : List (ProcessedFeatures α × Draws)),
    Reachable lib l → Reachable lib (feed lib l fs)
  | _, [], h => h
  | _, (f, d) :: fs, h => Reachable.feed fs (.step d f h)

end Update

end EdgeAI
