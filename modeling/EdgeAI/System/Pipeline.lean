import EdgeAI.Preprocess.Windows
import EdgeAI.Learner.Scores
import EdgeAI.Learner.Invariants
import EdgeAI.Learner.Isolation
import EdgeAI.Learner.Summary
import EdgeAI.Persist.Params

/-!
# `EdgeAISystem`: the sensor loops feeding the preprocessor and the learner

`setup_sensors` registers five sensors and, with `learning_enabled`, gives each the callback
`_on_sensor_data`, which `read()` runs before it returns, printing what it raises. The callback
calls `process_reading`, checks a record with `detect_anomaly` if `anomaly_detection` is set, and
adds it with `add_experience`. It awaits nothing, so a run is an interleaving of whole loop
iterations (`LoopStep`s), each with the draws of the update pass it may start.

Over every run the system is its three components run side by side (`systemRun_eq`), and the
records of a sensor do not depend on the interleaving (`records_of_sensor_alone`). From
`setup_sensors` with a fresh learner every reachable state keeps `SystemInv` and `KeptTo`, so the
file the periodic save writes loads back exactly (`saved_parameters_load_back`). The learner holds
its bands as pairs: one loaded by `start()` from a hand-written file may not, and is left out.
-/

namespace EdgeAI

/-- The attributes of `EdgeAISystem` that the sensor loops change. -/
structure EdgeAISystem (α : Type) where
  sensorManager : SensorManager α
  preprocessor : SensorPreprocessor α
  learner : IncrementalLearner α

/-- The entries of `config` that decide what the sensor callback does. -/
structure SystemConfig where
  learningEnabled : Bool
  anomalyDetection : Bool

/-- `learning_enabled` and `anomaly_detection` of `_default_config`. -/
def SystemConfig.default : SystemConfig := ⟨true, true⟩

/-- The sensor ids `setup_sensors` registers. -/
def setupSensorIds : List PyStr :=
  [pyStr "temp_room", pyStr "temp_outdoor", pyStr "motion_entrance", pyStr "camera_main",
    pyStr "accel_device"]

section System

variable {α : Type} [LinearOrderedField α] (lib : Libraries α)

/-- `EdgeAISystem(model_path, config)`: a manager with `buffer_size=1000`, a preprocessor with
`window_size=10`, and a learner with the configured rate and memory and the default
`update_threshold=10`. -/
def EdgeAISystem.init (learningRate : α) (memorySize : Nat) : EdgeAISystem α :=
  ⟨.init 1000, .init 10 true, .init learningRate memorySize 10⟩

/-- `setup_sensors`: the five sensors registered with the manager. -/
def EdgeAISystem.setupSensors (s : EdgeAISystem α) : EdgeAISystem α :=
  { s with sensorManager := setupSensorIds.foldl SensorManager.registerSensor s.sensorManager }

/-- `_on_sensor_data`: preprocess the reading; for a record, check it for an anomaly if
`anomaly_detection` is set (the check only prints), then add it to the learning buffer. -/
def onSensorData (anomalyDetection : Bool) (draws : Draws) (r : SensorReading α) :
    Py (EdgeAISystem α) Unit := do
  let features ← Py.focus (·.preprocessor) (fun s p => { s with preprocessor := p })
    (processReading lib r)
  match features with
  | none => pure ()
  | some f =>
    if anomalyDetection then
      let s ← get
      let _ ← Py.ofExcept (detectAnomaly s.learner f)
    Py.focus (·.learner) (fun s l => { s with learner := l }) (addExperience lib draws f)

/-- `_notify_callbacks` of a sensor after `setup_sensors`: `_on_sensor_data` if
`learning_enabled`, with what it raises caught and printed, so that what it changed before
raising stays. -/
def notifyCallbacks (cfg : SystemConfig) (draws : Draws) (r : SensorReading α)
    (s : EdgeAISystem α) : EdgeAISystem α :=
  if cfg.learningEnabled then final (onSensorData lib cfg.anomalyDetection draws r s) else s

/-- One iteration of `_stream_sensor`: `sensor.read()`, which runs the callbacks before it returns
the reading, then the append to the sensor's deque. A read that raises, as `read()` of an
uninitialized sensor does, does neither, and the loop catches it. -/
def systemStep (cfg : SystemConfig) (s : EdgeAISystem α) (e : LoopStep α × Draws) :
    EdgeAISystem α :=
  match e.1.read with
  | .error _ => s
  | .ok r =>
    let s' := notifyCallbacks lib cfg e.2 r s
    { s' with sensorManager := final (SensorManager.appendReading e.1.sensorId r s'.sensorManager) }

/-- The loops of all sensors, interleaved as the event loop ran them. -/
def systemRun (cfg : SystemConfig) (s : EdgeAISystem α) (es : List (LoopStep α × Draws)) :
    EdgeAISystem α :=
  es.foldl (systemStep lib cfg) s

/-! ## The components side by side -/

/-- What the callback does to the preprocessor and the learner, without the anomaly check:
`process_reading`, then `add_experience` of its record. -/
def learnStep (pl : SensorPreprocessor α × IncrementalLearner α) (rd : SensorReading α × Draws) :
    SensorPreprocessor α × IncrementalLearner α :=
  match processReading lib rd.1 pl.1 with
  | .ok (some f) p => (p, final (addExperience lib rd.2 f pl.2))
  | .ok none p => (p, pl.2)
  | .error _ p => (p, pl.2)

/-- The readings the loops read in a run, each with the draws of its iteration. -/
def readsOf (es : List (LoopStep α × Draws)) : List (SensorReading α × Draws) :=
  es.filterMap fun e => match e.1.read with
    | .ok r => some (r, e.2)
    | .error _ => none

/-- The records `process_reading` returns on the readings in turn, each with its draws. -/
def emittedRecords : SensorPreprocessor α → List (SensorReading α × Draws) →
    List (ProcessedFeatures α × Draws)
  | _, [] => []
  | p, (r, d) :: rs =>
    match processReading lib r p with
    | .ok (some f) p' => (f, d) :: emittedRecords p' rs
    | .ok none p' => emittedRecords p' rs
    | .error _ p' => emittedRecords p' rs

theorem detectAnomaly_ok_of_processReading {r : SensorReading α} {p p' : SensorPreprocessor α}
    {f : ProcessedFeatures α} (h : processReading lib r p = .ok (some f) p')
    (l : IncrementalLearner α) : ∃ res, detectAnomaly l f = .ok res :=
  ⟨_, detectAnomaly_eq l (processReading_names lib h).1.le⟩

/-- The callback, as far as it gets: the preprocessor after `process_reading`, and the learner
after `add_experience` of its record. The anomaly check neither raises nor changes anything. -/
theorem final_onSensorData (anomalyDetection : Bool) (draws : Draws) (r : SensorReading α)
    (s : EdgeAISystem α) :
    final (onSensorData lib anomalyDetection draws r s) =
      ⟨s.sensorManager, (learnStep lib (s.preprocessor, s.learner) (r, draws)).1,
        (learnStep lib (s.preprocessor, s.learner) (r, draws)).2⟩ := by
  simp only [onSensorData, learnStep, Py.bind_apply, Py.focus]
  rcases h : processReading lib r s.preprocessor with ⟨_ | f, p⟩ | ⟨e, p⟩
  · rfl
  · obtain ⟨res, hres⟩ := detectAnomaly_ok_of_processReading lib h s.learner
    cases anomalyDetection <;>
      simp only [Bool.false_eq_true, if_false, if_true, Py.pure_apply, Py.get_apply,
        Py.bind_apply, Py.ofExcept_bind_apply, hres, Py.ofExcept_ok, Py.final_focus]
  · rfl

/-- The step: one loop iteration appends the reading to the manager as `SensorManager` alone
does, and runs `learnStep` on the preprocessor and the learner if `learning_enabled`. -/
theorem systemStep_eq (cfg : SystemConfig) (s : EdgeAISystem α) (e : LoopStep α × Draws) :
    systemStep lib cfg s e =
      match e.1.read with
      | .error _ => s
      | .ok r =>
        let pl := if cfg.learningEnabled then learnStep lib (s.preprocessor, s.learner) (r, e.2)
          else (s.preprocessor, s.learner)
        ⟨streamStep s.sensorManager e.1, pl.1, pl.2⟩ := by
  unfold systemStep streamStep notifyCallbacks
  rcases e with ⟨⟨k, _ | r⟩, d⟩
  · rfl
  · cases cfg.learningEnabled
    · rfl
    · simp only [if_true, final_onSensorData]

theorem foldl_learnStep :
    ∀ (p : SensorPreprocessor α) (l : IncrementalLearner α) (rds : List (SensorReading α × Draws)),
      rds.foldl (learnStep lib) (p, l) =
        (processRun lib p (rds.map Prod.fst), feed lib l (emittedRecords lib p rds))
  | _, _, [] => rfl
  | p, l, (r, d) :: rds => by
    rw [List.foldl_cons, List.map_cons, processRun, List.foldl_cons, ← processRun, learnStep,
      emittedRecords]
    rcases processReading lib r p with ⟨_ | f, p'⟩ | ⟨e, p'⟩ <;> exact foldl_learnStep _ _ rds

theorem systemRun_fold (cfg : SystemConfig) :
    ∀ (s : EdgeAISystem α) (es : List (LoopStep α × Draws)),
      systemRun lib cfg s es =
        let pl := if cfg.learningEnabled then (readsOf es).foldl (learnStep lib) (s.preprocessor, s.learner)
          else (s.preprocessor, s.learner)
        ⟨streamRun s.sensorManager (es.map Prod.fst), pl.1, pl.2⟩
  | s, [] => by cases cfg.learningEnabled <;> rfl
  | s, e :: es => by
    rw [systemRun, List.foldl_cons, ← systemRun, systemRun_fold _ (systemStep lib cfg s e) es,
      systemStep_eq]
    rcases e with ⟨⟨k, _ | r⟩, d⟩ <;> cases cfg.learningEnabled <;> rfl

/-- Over every interleaving of the loops, the system is its components run side by side: the
manager as `SensorManager` alone, the preprocessor over every reading that was read, and the
learner over every record `process_reading` returned. With `learning_enabled` off neither of the
last two changes. -/
theorem systemRun_eq (cfg : SystemConfig) (s : EdgeAISystem α) (es : List (LoopStep α × Draws)) :
    systemRun lib cfg s es =
      if cfg.learningEnabled then
        ⟨streamRun s.sensorManager (es.map Prod.fst),
          processRun lib s.preprocessor ((readsOf es).map Prod.fst),
          feed lib s.learner (emittedRecords lib s.preprocessor (readsOf es))⟩
      else { s with sensorManager := streamRun s.sensorManager (es.map Prod.fst) } := by
  rw [systemRun_fold]
  cases cfg.learningEnabled
  · rfl
  · simp only [if_true, foldl_learnStep]

theorem learner_learnStep (pl : SensorPreprocessor α × IncrementalLearner α)
    (rd : SensorReading α × Draws) :
    (learnStep lib pl rd).2 = pl.2 ∨ ∃ f p, processReading lib rd.1 pl.1 = .ok (some f) p ∧
      (learnStep lib pl rd).2 = final (addExperience lib rd.2 f pl.2) := by
  unfold learnStep
  split
  · exact .inr ⟨_, _, ‹_›, rfl⟩
  all_goals exact .inl rfl

/-! ## The records of one sensor -/

theorem emittedRecords_cons (p : SensorPreprocessor α) (r : SensorReading α) (d : Draws)
    (rds : List (SensorReading α × Draws)) :
    emittedRecords lib p ((r, d) :: rds) =
      (returned (processReading lib r p)).toOption.join.toList.map (·, d) ++
        emittedRecords lib (final (processReading lib r p)) rds := by
  rw [emittedRecords]
  rcases processReading lib r p with ⟨_ | f, p'⟩ | ⟨e, p'⟩ <;> rfl

theorem sensorId_of_returned {r : SensorReading α} {p : SensorPreprocessor α}
    {f : ProcessedFeatures α} (h : f ∈ (returned (processReading lib r p)).toOption.join) :
    f.sensorId = r.sensorId := by
  rcases hp : processReading lib r p with ⟨_ | f', p'⟩ | ⟨e, p'⟩ <;>
    simp [hp, returned, Except.toOption] at h
  subst h
  exact (processReading_wellNamed lib hp).1

/-- From two preprocessors with the same settings and window of `k`, the records of `k` over any
readings are those over the readings of `k` alone. -/
theorem emittedRecords_filter_of_sameWindow (k : PyStr) :
    ∀ {p q : SensorPreprocessor α} (rds : List (SensorReading α × Draws)), SameWindow k p q →
      (emittedRecords lib p rds).filter (·.1.sensorId == k) =
        emittedRecords lib q (rds.filter (·.1.sensorId == k))
  | _, _, [], _ => rfl
  | p, q, (r, d) :: rds, h => by
    rw [emittedRecords_cons, List.filter_append, List.filter_cons]
    by_cases hk : r.sensorId = k
    · -- a reading of `k`: the same record from both, and the same window after
      subst hk
      obtain ⟨hret, hsame⟩ := processReading_sync lib r p q h
      rw [if_pos (beq_self_eq_true _), emittedRecords_cons, hret,
        emittedRecords_filter_of_sameWindow r.sensorId rds hsame]
      refine congrArg (· ++ _) (List.filter_eq_self.mpr fun x hx => ?_)
      obtain ⟨f, hf, rfl⟩ := List.mem_map.mp hx
      simpa using sensorId_of_returned lib (Option.mem_toList.mp hf)
    · -- a reading of another sensor: its record is dropped, and the window of `k` stays
      rw [if_neg (by simpa using hk), emittedRecords_filter_of_sameWindow k rds
        ((sameWindow_final_processReading lib hk p).symm.trans h)]
      refine (congrArg (· ++ _) (List.filter_eq_nil_iff.mpr fun x hx => ?_)).trans (List.nil_append _)
      obtain ⟨f, hf, rfl⟩ := List.mem_map.mp hx
      simpa [sensorId_of_returned lib (Option.mem_toList.mp hf)] using hk

/-- Under every interleaving of the sensors' readings, the records `process_reading` returns for a
sensor `k` are those it returns on the readings of `k` alone, in order: a call on another sensor's
reading keeps the settings and the window of `k` and returns a record of that other sensor, and
a call on a reading of `k` reads the preprocessor through the settings and the window of `k`
only. -/
theorem records_of_sensor_alone (k : PyStr) (p : SensorPreprocessor α)
    (rds : List (SensorReading α × Draws)) :
    (emittedRecords lib p rds).filter (·.1.sensorId == k) =
      emittedRecords lib p (rds.filter (·.1.sensorId == k)) :=
  emittedRecords_filter_of_sameWindow lib k rds ⟨rfl, rfl, rfl⟩

/-! ## What every reachable system keeps -/

variable {lib}

/-- What the states the loops reach from `setup_sensors` keep: the learner's bounds, a buffer of
experiences as `process_reading` emits them, and a deque of `buffer_size = 1000` for each of the
five sensors and for no other. -/
structure SystemInv (s : EdgeAISystem α) : Prop where
  learner : LearnerInv s.learner
  emitted : Emitted s.learner.experienceBuffer.items
  buffers : ∀ k, (s.sensorManager.buffer k).map Deque.maxlen =
    if k ∈ setupSensorIds then some 1000 else none

theorem learnStep_inv (hsqrt : ∀ x, 0 ≤ lib.sqrt x)
    (pl : SensorPreprocessor α × IncrementalLearner α) (rd : SensorReading α × Draws)
    (h : LearnerInv pl.2 ∧ Emitted pl.2.experienceBuffer.items) :
    LearnerInv (learnStep lib pl rd).2 ∧ Emitted (learnStep lib pl rd).2.experienceBuffer.items := by
  rcases learner_learnStep lib pl rd with heq | ⟨f, p, hpr, heq⟩ <;> rw [heq]
  · exact h
  · exact ⟨h.1.addExperience hsqrt _ _,
      Emitted.addExperience lib _ (processReading_wellNamed lib hpr).2 h.2⟩

theorem systemInv_setup (learningRate : α) (memorySize : Nat) :
    SystemInv (EdgeAISystem.init learningRate memorySize).setupSensors where
  learner := learnerInv_init _ _ _
  emitted := (keptTo_init [] _ _ _).2
  buffers k := by
    show ((registerAll 1000 setupSensorIds : SensorManager α).buffer k).map _ = _
    rw [buffer_registerAll]
    split <;> rfl

theorem SystemInv.systemStep (hsqrt : ∀ x, 0 ≤ lib.sqrt x) (cfg : SystemConfig)
    {s : EdgeAISystem α} (h : SystemInv s) (e : LoopStep α × Draws) :
    SystemInv (systemStep lib cfg s e) := by
  rw [systemStep_eq]
  rcases e with ⟨⟨k, _ | r⟩, d⟩
  · exact h
  · have hbuf k' := (maxlen_buffer_streamStep s.sensorManager ⟨k, .ok r⟩ k').trans (h.buffers k')
    cases cfg.learningEnabled
    · exact ⟨h.learner, h.emitted, hbuf⟩
    · obtain ⟨hl, he⟩ := learnStep_inv hsqrt (s.preprocessor, s.learner) (r, d)
        ⟨h.learner, h.emitted⟩
      exact ⟨hl, he, hbuf⟩

theorem SystemInv.systemRun (hsqrt : ∀ x, 0 ≤ lib.sqrt x) (cfg : SystemConfig) :
    ∀ {s : EdgeAISystem α} (es : List (LoopStep α × Draws)), SystemInv s →
      SystemInv (systemRun lib cfg s es)
  | _, [], h => h
  | _, e :: es, h => SystemInv.systemRun hsqrt cfg es (h.systemStep hsqrt cfg e)

/-- Every state the loops reach from `setup_sensors` with a fresh learner, under any config and
over any interleaving, keeps the invariant; so the append of each of the five loops never raises
`KeyError`. -/
theorem reachable_system_invariant (vision : Frame ℝ → Except PyError (CameraStats ℝ))
    (cfg : SystemConfig) (learningRate : ℝ) (memorySize : Nat) (es : List (LoopStep ℝ × Draws)) :
    let s := systemRun ⟨Real.sqrt, vision⟩ cfg
      (EdgeAISystem.init learningRate memorySize).setupSensors es
    SystemInv s ∧
      ∀ k ∈ setupSensorIds, ∀ r, raised (SensorManager.appendReading k r s.sensorManager) = none := by
  intro s
  have h : SystemInv s := SystemInv.systemRun Real.sqrt_nonneg cfg es (systemInv_setup _ _)
  refine ⟨h, fun k hk r => ?_⟩
  have hb := h.buffers k
  rw [if_pos hk] at hb
  obtain ⟨d, hd, -⟩ := Option.map_eq_some'.mp hb
  exact raised_appendReading hd r

/-! ## The keys the learner holds, and the file it saves -/

/-- A loop iteration of one of the sensors `ids`: `start_streaming` runs a loop for each registered
sensor, and each sensor's `read()` returns a reading with `sensor_id=self.sensor_id`. -/
def LoopStep.OfSensors (ids : List PyStr) (e : LoopStep α) : Prop :=
  e.sensorId ∈ ids ∧ ∀ r, e.read = .ok r → r.sensorId = e.sensorId

theorem learnStep_keptTo {S : List PyStr} (pl : SensorPreprocessor α × IncrementalLearner α)
    (rd : SensorReading α × Draws) (hr : rd.1.sensorId ∈ S)
    (h : KeptTo S pl.2 ∧ Emitted pl.2.experienceBuffer.items) :
    KeptTo S (learnStep lib pl rd).2 ∧ Emitted (learnStep lib pl rd).2.experienceBuffer.items := by
  rcases learner_learnStep lib pl rd with heq | ⟨f, p, hpr, heq⟩ <;> rw [heq]
  · exact h
  · obtain ⟨hid, hw⟩ := processReading_wellNamed lib hpr
    exact ⟨h.1.addExperience lib _ (hid ▸ hr) hw h.2, Emitted.addExperience lib _ hw h.2⟩

theorem keptTo_systemStep (cfg : SystemConfig) {s : EdgeAISystem α}
    (h : KeptTo setupSensorIds s.learner ∧ Emitted s.learner.experienceBuffer.items)
    {e : LoopStep α × Draws} (he : e.1.OfSensors setupSensorIds) :
    KeptTo setupSensorIds (systemStep lib cfg s e).learner ∧
      Emitted (systemStep lib cfg s e).learner.experienceBuffer.items := by
  rw [systemStep_eq]
  rcases e with ⟨⟨k, _ | r⟩, d⟩
  · exact h
  · cases cfg.learningEnabled
    · exact h
    · exact learnStep_keptTo (s.preprocessor, s.learner) (r, d) ((he.2 r rfl).symm ▸ he.1) h

theorem keptTo_systemRun (cfg : SystemConfig) :
    ∀ {s : EdgeAISystem α} (es : List (LoopStep α × Draws)),
      (∀ e ∈ es, e.1.OfSensors setupSensorIds) →
      KeptTo setupSensorIds s.learner ∧ Emitted s.learner.experienceBuffer.items →
      KeptTo setupSensorIds (systemRun lib cfg s es).learner ∧
        Emitted (systemRun lib cfg s es).learner.experienceBuffer.items
  | _, [], _, h => h
  | _, e :: es, hes, h => keptTo_systemRun cfg es (fun e' he' => hes e' (List.mem_cons_of_mem _ he'))
      (keptTo_systemStep cfg h (hes e (List.mem_cons_self _ _)))

theorem setupSensorIds_not_high : ∀ s ∈ setupSensorIds, ∀ c ∈ s, isHigh c.val = false := by
  have h : setupSensorIds.all (fun s => s.all fun c => !isHigh c.val) = true := by decide
  simpa only [List.all_eq_true, Bool.not_eq_true'] using h

theorem featureVocabulary_not_high : ∀ n ∈ featureVocabulary, ∀ c ∈ n, isHigh c.val = false := by
  have h : featureVocabulary.all (fun s => s.all fun c => !isHigh c.val) = true := by decide
  simpa only [List.all_eq_true, Bool.not_eq_true'] using h

omit [LinearOrderedField α] in
theorem pairFree_of_featureKeys {d : PyDict α} (h : d.KeysAll (FeatureKeyOf setupSensorIds)) :
    d.PairFree := by
  intro k hk
  obtain ⟨s, hs, n, hn, rfl⟩ := h k hk
  refine joinSurrogates_of_not_high fun c hc => ?_
  rcases List.mem_append.mp hc with hc | hc
  · rcases List.mem_append.mp hc with hc | hc
    · exact setupSensorIds_not_high s hs c hc
    · rw [List.mem_singleton.mp hc]
      rfl
  · exact featureVocabulary_not_high n hn c hc

/-- After every run of the five sensors' loops from `setup_sensors` with a fresh learner, the
learner holds the keys of the five sensors only, and the file `save_learned_parameters` writes
loads back to exactly its learned dicts and counters. -/
theorem saved_parameters_load_back (lib : Libraries α) (cfg : SystemConfig) (learningRate : α)
    (memorySize : Nat) (es : List (LoopStep α × Draws)) (hes : ∀ e ∈ es, e.1.OfSensors setupSensorIds)
    (codec : FloatCodec α) (timestamp : α) (f : LearnedFields α) :
    let l := (systemRun lib cfg (EdgeAISystem.init learningRate memorySize).setupSensors es).learner
    KeptTo setupSensorIds l ∧
      loadLearnedParameters codec (saveLearnedParameters codec l timestamp) f = .ok true l.learnedFields := by
  intro l
  obtain ⟨hk, -⟩ : KeptTo setupSensorIds l ∧ Emitted l.experienceBuffer.items :=
    keptTo_systemRun cfg es hes (keptTo_init _ _ _ _)
  exact ⟨hk, load_save_of_pairFree codec l timestamp (pairFree_of_featureKeys hk.weights)
    (pairFree_of_featureKeys hk.bands)
    (fun k hk' => joinSurrogates_of_not_high (setupSensorIds_not_high k (hk.clusters k hk'))) f⟩

end System

/-- Twenty iterations of the `temp_room` loop: `TemperatureSensor.read()` at the times `0` to `19`,
alternating `20.0` and `24.0`. -/
def roomLoop {α : Type} [LinearOrderedField α] : List (LoopStep α × Draws) :=
  (List.range 20).map fun i =>
    (⟨pyStr "temp_room", .ok (temperatureRead (pyStr "temp_room") (i : α)
      (if i % 2 = 0 then 20 else 24))⟩, .first)

theorem roomLoop_ofSensors {α : Type} [LinearOrderedField α] :
    ∀ e ∈ (roomLoop : List (LoopStep α × Draws)), e.1.OfSensors setupSensorIds := fun e he => by
  obtain ⟨i, -, rfl⟩ := List.mem_map.mp he
  exact ⟨show pyStr "temp_room" ∈ setupSensorIds by decide, fun r h => by cases h; rfl⟩

/-- The `temp_room` loop with `memory_size = 10`, then the save and a load. From the nineteenth call
on the buffer holds ten six-feature records, and the passes learn weights, bands and centroids
under the keys of `temp_room`. -/
theorem room_loop_saves :
    (∀ e ∈ (roomLoop : List (LoopStep ℚ × Draws)), e.1.OfSensors setupSensorIds) ∧
    let l := (systemRun ⟨id, fun _ => .error .valueError⟩ .default
      (EdgeAISystem.init (1 / 100) 10).setupSensors roomLoop).learner
    KeptTo setupSensorIds l ∧
      loadLearnedParameters rationalCodec (saveLearnedParameters rationalCodec l 0) l.learnedFields =
        .ok true l.learnedFields :=
  ⟨roomLoop_ofSensors, saved_parameters_load_back ⟨id, fun _ => .error .valueError⟩ .default
    (1 / 100) 10 _ roomLoop_ofSensors rationalCodec 0 _⟩

end EdgeAI
