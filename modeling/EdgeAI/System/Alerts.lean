import EdgeAI.System.Pipeline
import EdgeAI.Learner.Warmup

/-!
# The anomaly alerts of a run

With `anomaly_detection` on, `_on_sensor_data` checks each record with `detect_anomaly` before it
adds it to the learner, and prints `⚠️  Anomaly detected on {reading.sensor_id}: score=...` when
the check reports one. Over any interleaving of the loops, the alerts are those of the learner
alone over the records `process_reading` returned (`systemAlerts_eq`); so, the learner's bands of
a sensor waiting for five of its records, a sensor's first five records never raise an alert.
-/

namespace EdgeAI

section Alerts

variable {α : Type} [LinearOrderedField α] (lib : Libraries α)

/-- The alert a loop iteration prints, if any: the reading's sensor and the score, when the
callback of `learning_enabled` runs the check of `anomaly_detection` and it reports an anomaly. -/
def sensorAlert (cfg : SystemConfig) (s : EdgeAISystem α) (e : LoopStep α × Draws) :
    Option (PyStr × α) :=
  match e.1.read with
  | .error _ => none
  | .ok r =>
    if cfg.learningEnabled && cfg.anomalyDetection then
      match processReading lib r s.preprocessor with
      | .ok (some f) _ => anomalyAlert r.sensorId (detectAnomaly s.learner f)
      | _ => none
    else none

/-- The alerts a run prints, in order. -/
def systemAlerts (cfg : SystemConfig) : EdgeAISystem α → List (LoopStep α × Draws) →
    List (PyStr × α)
  | _, [] => []
  | s, e :: es => (sensorAlert lib cfg s e).toList ++ systemAlerts cfg (systemStep lib cfg s e) es

/-- The alerts of a run are the learner's over the records `process_reading` returned, each
checked before it is added; none without `learning_enabled` and `anomaly_detection`. -/
theorem systemAlerts_eq (cfg : SystemConfig) :
    ∀ (s : EdgeAISystem α) (es : List (LoopStep α × Draws)),
      systemAlerts lib cfg s es =
        if cfg.learningEnabled && cfg.anomalyDetection then
          feedAlerts lib s.learner (emittedRecords lib s.preprocessor (readsOf es))
        else []
  | s, [] => by split <;> rfl
  | s, e :: es => by
    rw [systemAlerts, systemAlerts_eq cfg _ es, systemStep_eq]
    rcases e with ⟨⟨k, _ | r⟩, d⟩
    · rfl
    · rw [show readsOf ((⟨k, .ok r⟩, d) :: es) = (r, d) :: readsOf es from rfl, emittedRecords]
      unfold sensorAlert
      cases cfg.learningEnabled
      · rfl
      cases cfg.anomalyDetection
      · rfl
      dsimp only
      unfold learnStep
      rcases h : processReading lib r s.preprocessor with ⟨_ | f, p⟩ | ⟨err, p⟩
      · rfl
      · simp only [Bool.and_self, if_true, feedAlerts, (processReading_wellNamed lib h).1]
      · rfl

/-- The records `process_reading` returns are named as it names them. -/
theorem emittedRecords_wellNamed :
    ∀ (p : SensorPreprocessor α) (rds : List (SensorReading α × Draws)),
      ∀ q ∈ emittedRecords lib p rds, ∃ t, WellNamed t q.1
  | _, [] => fun _ h => absurd h (List.not_mem_nil _)
  | p, (r, d) :: rds => by
    unfold emittedRecords
    rcases h : processReading lib r p with ⟨_ | f, p'⟩ | ⟨err, p'⟩
    · exact emittedRecords_wellNamed p' rds
    · intro q hq
      rcases List.mem_cons.mp hq with rfl | hq
      exacts [⟨_, (processReading_wellNamed lib h).2⟩, emittedRecords_wellNamed p' rds q hq]
    · exact emittedRecords_wellNamed p' rds

/-- In every run from `setup_sensors` with a fresh learner, under any config and over any
interleaving of the loops, the alerts printed for a sensor are at most its records beyond the
fifth. A run that stops at a sensor's fifth record or before has printed no alert for it: its first
five records never raise one. -/
theorem alerts_wait_for_five_records (cfg : SystemConfig) (learningRate : α) (memorySize : Nat)
    (es : List (LoopStep α × Draws)) (k : PyStr) :
    (systemAlerts lib cfg (EdgeAISystem.init learningRate memorySize).setupSensors es).countP
        (·.1 == k) ≤
      (emittedRecords lib (EdgeAISystem.init learningRate memorySize).setupSensors.preprocessor
        (readsOf es)).countP (·.1.sensorId == k) - 5 := by
  rw [systemAlerts_eq]
  split
  · have h := Warm.feedAlerts_count lib k _ (warm_init learningRate memorySize 10)
      (keptTo_init [] learningRate memorySize 10).2 (emittedRecords_wellNamed lib
        (EdgeAISystem.init learningRate memorySize).setupSensors.preprocessor (readsOf es))
    simpa only [List.countP_nil, Nat.zero_sub, add_zero, zero_add] using h
  · exact Nat.zero_le _

end Alerts

end EdgeAI
