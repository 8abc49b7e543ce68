import EdgeAI.Learner.Passes

/-!
# `detect_anomaly` and `predict_pattern`

`detect_anomaly` reads only `anomaly_thresholds`: for each name of the record whose key
`f"{sensor_id}_{name}"` has a band, it reads `features.features[i]`, which raises `IndexError` past
the last feature, and scores the value when it lies outside the band. The record is anomalous
when some feature scored, with the mean score.

`predict_pattern` reads only `pattern_clusters`: the distance of the record to each centroid of
its sensor, through `features - c`, which broadcasts and raises on two lengths neither of which is
one, and the index of the first nearest.
-/

namespace EdgeAI

namespace Np

variable {α : Type} [LinearOrderedField α]

/-- `np.argmin`: the index of the first least element. -/
def argmin : List α → Nat
  | [] => 0
  | x :: rest =>
    ((rest.enumFrom 1).foldl (fun acc p => if p.2 < acc.2 then p else acc) (0, x)).1

theorem mean_pos {xs : List α} (hne : xs ≠ []) (h : ∀ x ∈ xs, 0 < x) : 0 < mean xs := by
  obtain ⟨x, hx⟩ := List.exists_mem_of_ne_nil xs hne
  have hsum : 0 < xs.sum := List.sum_pos xs h hne
  exact div_pos hsum (by exact_mod_cast List.length_pos_of_mem hx)

end Np

section Detect

variable {α : Type} [LinearOrderedField α]

/-- The score of `value` against the band `(lower, upper)`: how far past the bound it crossed,
relative to that bound, or `1.0` when the bound is `0`; `none` inside the band. -/
def bandScore (band : α × α) (value : α) : Option α :=
  if value < band.1 ∨ band.2 < value then
    if value < band.1 then some (if band.1 ≠ 0 then (band.1 - value) / |band.1| else 1)
    else some (if band.2 ≠ 0 then (value - band.2) / |band.2| else 1)
  else none

/-- The loop of `detect_anomaly` over `enumerate(features.feature_names)`: the scores in order. -/
def anomalyScores (th : PyDict (α × α)) (f : ProcessedFeatures α) :
    List (Nat × PyStr) → Except PyError (List α)
  | [] => .ok []
  | (i, name) :: rest =>
    match th.get? (featureKey f.sensorId name) with
    | none => anomalyScores th f rest
    | some band => do
      let value ← pyIndex f.features i
      let scores ← anomalyScores th f rest
      pure ((bandScore band value).toList ++ scores)

/-- `detect_anomaly`: `(True, mean score)` when some feature scored, else `(False, 0.0)`. -/
def detectAnomaly (l : IncrementalLearner α) (f : ProcessedFeatures α) :
    Except PyError (Bool × α) := do
  let scores ← anomalyScores l.anomalyThresholds f f.featureNames.enum
  if scores.isEmpty then pure (false, 0) else pure (true, Np.mean scores)

/-- `predict_pattern`. -/
def predictPattern (sqrt : α → α) (l : IncrementalLearner α) (f : ProcessedFeatures α) :
    Except PyError (Option Nat) :=
  match l.patternClusters.get? f.sensorId with
  | none => .ok none
  | some clusters => do
    let distances ← clusters.mapM fun c => do
      let d ← Np.broadcast (· - ·) f.features c
      pure (Np.norm sqrt d)
    pure (if distances.isEmpty then none else some (Np.argmin distances))

/-- Every score is positive: a value below a band is scored against `lower`, one above against
`upper`, and a bound of `0` scores `1`. -/
theorem bandScore_pos {band : α × α} {value s : α} (h : bandScore band value = some s) :
    0 < s := by
  unfold bandScore at h
  split_ifs at h with hout hlo hz hz <;> cases h
  · exact div_pos (sub_pos.mpr hlo) (abs_pos.mpr hz)
  · exact one_pos
  · exact div_pos (sub_pos.mpr (hout.resolve_left hlo)) (abs_pos.mpr hz)
  · exact one_pos

theorem bandScore_isSome {band : α × α} {value : α} (h : value < band.1 ∨ band.2 < value) :
    (bandScore band value).isSome := by
  unfold bandScore
  split_ifs <;> rfl

/-- With a name for each feature the loop returns, every score positive. -/
theorem anomalyScores_ok (th : PyDict (α × α)) (f : ProcessedFeatures α) :
    ∀ {ps : List (Nat × PyStr)}, (∀ p ∈ ps, p.1 < f.features.length) →
      ∃ scores, anomalyScores th f ps = .ok scores ∧ ∀ s ∈ scores, 0 < s
  | [], _ => ⟨[], rfl, fun _ h => absurd h (List.not_mem_nil _)⟩
  | (i, name) :: rest, h => by
    obtain ⟨scores, hs, hpos⟩ := anomalyScores_ok th f fun p hp => h p (List.mem_cons_of_mem _ hp)
    have hi := h _ (List.mem_cons_self _ _)
    simp only [anomalyScores]
    split
    · exact ⟨scores, hs, hpos⟩
    · rename_i band _
      refine ⟨(bandScore band f.features[i]).toList ++ scores, ?_, ?_⟩
      · rw [pyIndex_of_lt hi, except_ok_bind, hs]
        rfl
      · intro s hs'
        rcases List.mem_append.mp hs' with hs' | hs'
        · exact bandScore_pos (Option.mem_toList.mp hs')
        · exact hpos s hs'

/-- A feature whose value lies outside its band is scored. -/
theorem mem_anomalyScores (th : PyDict (α × α)) (f : ProcessedFeatures α) {band : α × α}
    {i : Nat} {name : PyStr} (hband : th.get? (featureKey f.sensorId name) = some band)
    (hi : i < f.features.length) (hout : f.features[i] < band.1 ∨ band.2 < f.features[i]) :
    ∀ {ps : List (Nat × PyStr)} {scores : List α}, (i, name) ∈ ps →
      anomalyScores th f ps = .ok scores → scores ≠ []
  | (j, name') :: rest, scores, hmem, h => by
    simp only [anomalyScores] at h
    by_cases hj : (j, name') = (i, name)
    · -- the feature outside its band
      obtain ⟨rfl, rfl⟩ := Prod.mk.inj hj
      simp only [hband, pyIndex_of_lt hi, except_ok_bind] at h
      obtain ⟨rest', -, h⟩ := except_bind_eq_ok h
      obtain ⟨sc, hsc⟩ := Option.isSome_iff_exists.mp (bandScore_isSome hout)
      rw [← Except.ok.inj h, hsc]
      exact List.cons_ne_nil _ _
    · have hmem' : (i, name) ∈ rest := (List.mem_cons.mp hmem).resolve_left (Ne.symm hj)
      split at h
      · exact mem_anomalyScores th f hband hi hout hmem' h
      · obtain ⟨_, -, h⟩ := except_bind_eq_ok h
        obtain ⟨rest', hrest, h⟩ := except_bind_eq_ok h
        rw [← Except.ok.inj h]
        exact List.append_ne_nil_of_right_ne_nil _ (mem_anomalyScores th f hband hi hout hmem' hrest)

/-- A record with a name for each feature, one of whose features lies outside its learned band,
is reported anomalous with a positive score. -/
theorem detectAnomaly_outside (l : IncrementalLearner α) (f : ProcessedFeatures α)
    (hnames : f.featureNames.length ≤ f.features.length) {band : α × α} {i : Nat} {name : PyStr}
    {v : α} (hname : f.featureNames[i]? = some name)
    (hband : l.anomalyThresholds.get? (featureKey f.sensorId name) = some band)
    (hv : f.features[i]? = some v) (hout : v < band.1 ∨ band.2 < v) :
    ∃ score, detectAnomaly l f = .ok (true, score) ∧ 0 < score := by
  have hlt : ∀ p ∈ f.featureNames.enum, p.1 < f.features.length := fun p hp => by
    have := (List.mem_enum hp).1
    omega
  obtain ⟨hi, rfl⟩ := List.getElem?_eq_some_iff.mp hv
  obtain ⟨scores, hs, hpos⟩ := anomalyScores_ok l.anomalyThresholds f hlt
  have hne := mem_anomalyScores l.anomalyThresholds f hband hi hout
    (List.mem_enum_iff_getElem?.mpr hname) hs
  refine ⟨Np.mean scores, ?_, Np.mean_pos hne hpos⟩
  simp only [detectAnomaly, hs, except_ok_bind]
  rw [if_neg (by simpa [List.isEmpty_iff] using hne)]
  rfl

/-- `detect_anomaly` reads the bands under the record's own keys only. -/
theorem anomalyScores_congr {th th' : PyDict (α × α)} (f : ProcessedFeatures α) :
    ∀ {ps : List (Nat × PyStr)}, (∀ p ∈ ps, th.get? (featureKey f.sensorId p.2) =
      th'.get? (featureKey f.sensorId p.2)) → anomalyScores th f ps = anomalyScores th' f ps
  | [], _ => rfl
  | (i, name) :: rest, h => by
    have ih := anomalyScores_congr f fun p hp => h p (List.mem_cons_of_mem _ hp)
    simp only [anomalyScores, h _ (List.mem_cons_self _ _), ih]

theorem detectAnomaly_congr {l l' : IncrementalLearner α} (f : ProcessedFeatures α)
    (h : ∀ name ∈ f.featureNames, l.anomalyThresholds.get? (featureKey f.sensorId name) =
      l'.anomalyThresholds.get? (featureKey f.sensorId name)) :
    detectAnomaly l f = detectAnomaly l' f := by
  simp only [detectAnomaly,
    anomalyScores_congr f fun p hp => h p.2 (List.snd_mem_of_mem_enum hp)]

end Detect

end EdgeAI
