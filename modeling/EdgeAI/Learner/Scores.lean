import EdgeAI.Learner.Detect
import EdgeAI.Learner.Update
import EdgeAI.Preprocess.Shapes

/-!
# `detect_anomaly` and the update passes on the records of `process_reading`

Every record `process_reading` returns has one name for each feature and no name twice
(`processReading_names`). The loops that walk `enumerate(feature_names)` therefore index
`features`, the variances, the means and the standard deviations only within bounds: none of
`detect_anomaly`, `_update_feature_weights` and `_update_anomaly_thresholds` raises
(`emitted_records_in_bounds`).

On such a record `detect_anomaly` computes what the spec says (`detect_anomaly_mean_score`): the
score of each feature that lies strictly outside its learned band, the distance past the crossed
bound over that bound's magnitude or `1.0` for a bound of `0`, each positive, and their mean. The
spec's scores are written out in `outOfBandScore`, apart from the code's `bandScore`.
-/

namespace EdgeAI

section Scores

variable {α : Type} [LinearOrderedField α]

/-- The spec's score of the feature `nv.1` with value `nv.2`: none unless its key has a learned band
`(lower, upper)` that the value lies strictly outside; then the distance past the crossed bound
over that bound's magnitude, or `1.0` when the bound is `0`. -/
def outOfBandScore (th : PyDict (α × α)) (sensorId : PyStr) (nv : PyStr × α) : Option α :=
  match th.get? (featureKey sensorId nv.1) with
  | none => none
  | some (lower, upper) =>
    if nv.2 < lower then some (if lower = 0 then 1 else (lower - nv.2) / |lower|)
    else if upper < nv.2 then some (if upper = 0 then 1 else (nv.2 - upper) / |upper|)
    else none

/-- The spec's scores of a record, feature by feature in order. -/
def outOfBandScores (th : PyDict (α × α)) (f : ProcessedFeatures α) : List α :=
  (f.featureNames.zip f.features).filterMap (outOfBandScore th f.sensorId)

/-- The code's `bandScore` is the spec's score. -/
theorem outOfBandScore_eq (th : PyDict (α × α)) (sensorId : PyStr) (nv : PyStr × α) :
    outOfBandScore th sensorId nv =
      (th.get? (featureKey sensorId nv.1)).bind fun band => bandScore band nv.2 := by
  unfold outOfBandScore
  rcases th.get? (featureKey sensorId nv.1) with _ | ⟨lower, upper⟩
  · rfl
  · by_cases hlo : nv.2 < lower <;> by_cases hup : upper < nv.2 <;>
      simp [bandScore, hlo, hup, ite_not]

theorem outOfBandScore_eq_none {th : PyDict (α × α)} {sensorId : PyStr} {nv : PyStr × α} :
    outOfBandScore th sensorId nv = none ↔
      ∀ lower upper, th.get? (featureKey sensorId nv.1) = some (lower, upper) →
        lower ≤ nv.2 ∧ nv.2 ≤ upper := by
  unfold outOfBandScore
  rcases th.get? (featureKey sensorId nv.1) with _ | ⟨lower, upper⟩
  · simp
  · by_cases hlo : nv.2 < lower <;> by_cases hup : upper < nv.2 <;> simp [hlo, hup, le_of_not_lt]

theorem outOfBandScore_pos {th : PyDict (α × α)} {sensorId : PyStr} {nv : PyStr × α} {s : α}
    (h : outOfBandScore th sensorId nv = some s) : 0 < s := by
  rw [outOfBandScore_eq, Option.bind_eq_some] at h
  obtain ⟨band, -, hs⟩ := h
  exact bandScore_pos hs

/-- The loop of `detect_anomaly` from feature `i` on returns the spec's scores of the features from
`i` on, as long as each name has its feature. -/
theorem anomalyScores_enumFrom (th : PyDict (α × α)) (f : ProcessedFeatures α) :
    ∀ (names : List PyStr) (i : Nat), i + names.length ≤ f.features.length →
      anomalyScores th f (names.enumFrom i) =
        .ok ((names.zip (f.features.drop i)).filterMap (outOfBandScore th f.sensorId))
  | [], _, _ => rfl
  | name :: names, i, h => by
    have hi : i < f.features.length := by simp at h; omega
    have ih := anomalyScores_enumFrom th f names (i + 1) (by simp at h; omega)
    rw [List.enumFrom_cons, List.drop_eq_getElem_cons hi, List.zip_cons_cons,
      List.filterMap_cons, outOfBandScore_eq]
    simp only [anomalyScores]
    rcases th.get? (featureKey f.sensorId name) with _ | band
    · exact ih
    · simp only [pyIndex_of_lt hi, except_ok_bind, ih]
      cases hb : bandScore band f.features[i] <;> simp [hb] <;> rfl

/-- With a name for each feature, `detect_anomaly` returns `(False, 0.0)` when no feature scored,
else `(True, mean)` of the spec's scores. -/
theorem detectAnomaly_eq (l : IncrementalLearner α) {f : ProcessedFeatures α}
    (hlen : f.featureNames.length ≤ f.features.length) :
    detectAnomaly l f = .ok (if outOfBandScores l.anomalyThresholds f = [] then (false, 0)
      else (true, Np.mean (outOfBandScores l.anomalyThresholds f))) := by
  have h := anomalyScores_enumFrom l.anomalyThresholds f f.featureNames 0 (by omega)
  rw [List.drop_zero] at h
  simp only [detectAnomaly, List.enum, h, except_ok_bind, outOfBandScores, List.isEmpty_iff]
  split <;> rfl

/-! ## The records of `process_reading` -/

variable (lib : Libraries α)

theorem nodup_featureNamesFor (t : SensorType) (n : Nat) : (featureNamesFor t n).Nodup := by
  unfold featureNamesFor
  split <;> decide

/-- A record of `process_reading` has one name for each feature, and no name twice. -/
theorem processReading_names {r : SensorReading α} {p p' : SensorPreprocessor α}
    {f : ProcessedFeatures α} (h : processReading lib r p = .ok (some f) p') :
    f.featureNames.length = f.features.length ∧ f.featureNames.Nodup := by
  obtain ⟨-, hw⟩ := processReading_wellNamed lib h
  refine ⟨hw.length_names, ?_⟩
  by_cases ho : HasOwnMethod r.sensorType
  · rw [hw.names_for ho]
    exact nodup_featureNamesFor _ _
  · rw [processReading_generic lib ho p] at h
    simp only [EStateM.Result.ok.injEq, Option.some.injEq] at h
    obtain ⟨rfl, -⟩ := h
    unfold processGeneric
    split <;> exact List.nodup_singleton _

/-- Records of `process_reading` are indexed within bounds: each has one name per feature and no
name twice, `detect_anomaly` returns on it from any learner state, and the weight and band passes
over a buffer of such records raise nothing. -/
theorem emitted_records_in_bounds (l : IncrementalLearner α)
    (hbuf : ∀ e ∈ l.experienceBuffer.items, ∃ r p p' f,
      processReading lib r p = .ok (some f) p' ∧ e = .ofFeatures f) :
    (∀ r p p' f, processReading lib r p = .ok (some f) p' →
      f.featureNames.length = f.features.length ∧ f.featureNames.Nodup ∧
        ∃ res, detectAnomaly l f = .ok res) ∧
    NoRaise (updateFeatureWeights l.experienceBuffer.items) ∧
    NoRaise (updateAnomalyThresholds lib.sqrt l.experienceBuffer.items) := by
  have hfit : NamesFit l.experienceBuffer.items := by
    intro e he
    obtain ⟨r, p, p', f, h, rfl⟩ := hbuf e he
    exact (processReading_names lib h).1.le
  refine ⟨fun r p p' f h => ?_, updateFeatureWeights_noRaise hfit,
    updateAnomalyThresholds_noRaise lib.sqrt hfit⟩
  obtain ⟨hlen, hnodup⟩ := processReading_names lib h
  exact ⟨hlen, hnodup, _, detectAnomaly_eq l hlen.le⟩

/-- Five humidity readings of `"h"`, learned with `update_threshold = 5`: the fifth call runs a
pass, and the buffer holds the five records. -/
theorem humidity_learner_in_bounds :
    let lib : Libraries ℝ := ⟨Real.sqrt, fun _ => .error .valueError⟩
    let l := feed lib (.init (1 / 100) 1000 5) (([50, 52, 48, 51, 49] : List ℝ).map fun v =>
      (processGeneric ⟨pyStr "h", .humidity, 0, .num v, none⟩, Draws.first))
    (∀ r p p' f, processReading lib r p = .ok (some f) p' →
      f.featureNames.length = f.features.length ∧ f.featureNames.Nodup ∧
        ∃ res, detectAnomaly l f = .ok res) ∧
    NoRaise (updateFeatureWeights l.experienceBuffer.items) ∧
    NoRaise (updateAnomalyThresholds Real.sqrt l.experienceBuffer.items) :=
  emitted_records_in_bounds _ _ fun e he => by
    rw [feed_items] at he
    rcases List.mem_append.mp (Deque.mem_rtake he) with he | he
    · exact absurd he (List.not_mem_nil e)
    · obtain ⟨_, hp, rfl⟩ := List.mem_map.mp he
      obtain ⟨v, -, rfl⟩ := List.mem_map.mp hp
      exact ⟨_, .init 10 true, _, _,
        processReading_generic _ (by decide : ¬ HasOwnMethod .humidity) _, rfl⟩

/-- `detect_anomaly` on a record of `process_reading`, from any learner state: `(False, 0.0)`
exactly when no feature lies strictly outside its learned band, else `(True, s)` with `s` the mean
of the spec's scores, each of them, and so `s`, positive. -/
theorem detect_anomaly_mean_score {r : SensorReading α} {p p' : SensorPreprocessor α}
    {f : ProcessedFeatures α} (hf : processReading lib r p = .ok (some f) p')
    (l : IncrementalLearner α) :
    detectAnomaly l f = .ok (if outOfBandScores l.anomalyThresholds f = [] then (false, 0)
      else (true, Np.mean (outOfBandScores l.anomalyThresholds f))) ∧
    (detectAnomaly l f = .ok (false, 0) ↔
      ∀ name v lower upper, (name, v) ∈ f.featureNames.zip f.features →
        l.anomalyThresholds.get? (featureKey f.sensorId name) = some (lower, upper) →
        lower ≤ v ∧ v ≤ upper) ∧
    (∀ s ∈ outOfBandScores l.anomalyThresholds f, 0 < s) ∧
    (outOfBandScores l.anomalyThresholds f ≠ [] →
      0 < Np.mean (outOfBandScores l.anomalyThresholds f)) := by
  have hpos : ∀ s ∈ outOfBandScores l.anomalyThresholds f, 0 < s := fun s hs => by
    obtain ⟨nv, -, hs⟩ := List.mem_filterMap.mp hs
    exact outOfBandScore_pos hs
  have heq := detectAnomaly_eq l (processReading_names lib hf).1.le
  refine ⟨heq, ?_, hpos, fun hne => Np.mean_pos hne hpos⟩
  rw [heq]
  by_cases hnil : outOfBandScores l.anomalyThresholds f = []
  · simp only [hnil, if_true, true_iff]
    intro name v lower upper hmem hband
    exact outOfBandScore_eq_none.mp (List.filterMap_eq_nil_iff.mp hnil _ hmem) lower upper hband
  · simp only [hnil, if_false, Except.ok.injEq, Prod.mk.injEq, Bool.true_eq_false, false_and,
      false_iff]
    intro hin
    obtain ⟨s, hs⟩ := List.exists_mem_of_ne_nil _ hnil
    obtain ⟨nv, hmem, hsome⟩ := List.mem_filterMap.mp hs
    rw [outOfBandScore_eq_none.mpr fun lower upper hband => hin nv.1 nv.2 lower upper hmem hband]
      at hsome
    cases hsome

/-- The humidity record `50` on a learner whose band for `h_humidity_value` is `(40, 45)`:
anomalous, with the score `(50 - 45) / 45`. -/
theorem humidity_record_above_band :
    let l : IncrementalLearner ℝ := { IncrementalLearner.init (1 / 100) 1000 10 with
      anomalyThresholds := PyDict.empty.set (featureKey (pyStr "h") (pyStr "humidity_value")) (40, 45) }
    detectAnomaly l (processGeneric humidityReadings.1) = .ok (true, 1 / 9) := by
  intro l
  have hk : featureKey (pyStr "h") (SensorType.humidity.value ++ pyStr "_value") =
      featureKey (pyStr "h") (pyStr "humidity_value") := by decide
  have hs : outOfBandScores l.anomalyThresholds (processGeneric humidityReadings.1) = [1 / 9] := by
    simp only [outOfBandScores, processGeneric, humidityReadings, l, List.zip_cons_cons,
      List.zip_nil_right, List.filterMap_cons, List.filterMap_nil, outOfBandScore, PyDict.get?_set,
      hk, if_true]
    norm_num
  rw [(detect_anomaly_mean_score ⟨Real.sqrt, fun _ => .error .valueError⟩
    (processReading_generic _ (by decide) (.init 10 true)) l).1, hs]
  norm_num [Np.mean]

end Scores

end EdgeAI
