import EdgeAI.Learner.Update

/-!
# What every reachable learner keeps

The passes write their dicts key by key and can raise between two writes, so what they keep is
stated with `Preserves`: each write keeps it, hence so does every prefix of a pass.

* The weight pass writes `0.7 * old + 0.3 * new`, with `new` one variance of the group over the
  sum of its variances: weights stay in `[0, 1]`.
* The band pass writes `0.8 * old + 0.2 * new`, bound by bound, with `new = (m - 3 sd, m + 3 sd)`
  and `sd` a square root: bands stay ordered.
* The cluster pass seeds `min(5, n)` centroids from a group of `n ≥ 5` rows and recenters them
  one for one: a seeded sensor holds five centroids.

What the passes do not keep is one length for a sensor's centroids: a group of another length
recenters them through a broadcast (see the runs of `EdgeAI.Learner.Runs`).
-/

namespace EdgeAI

section Invariants

variable {α : Type} [LinearOrderedField α]

/-- What the learned dicts of a reachable learner satisfy. -/
structure LearnerInv (l : IncrementalLearner α) : Prop where
  weights : l.featureWeights.All fun w => 0 ≤ w ∧ w ≤ 1
  bands : l.anomalyThresholds.All fun b => b.1 ≤ b.2
  clusters : l.patternClusters.All fun cs => cs.length = 5

theorem blendWeight_mem {old : Option α} {w : α} (ho : ∀ o, old = some o → 0 ≤ o ∧ o ≤ 1)
    (hw : 0 ≤ w ∧ w ≤ 1) : 0 ≤ blendWeight old w ∧ blendWeight old w ≤ 1 := by
  cases old with
  | none => exact hw
  | some o =>
    obtain ⟨h0, h1⟩ := ho o rfl
    simp only [blendWeight]
    constructor <;> linarith [hw.1, hw.2]

theorem blendBand_ordered {old : Option (α × α)} {b : α × α} (ho : ∀ o, old = some o → o.1 ≤ o.2)
    (hb : b.1 ≤ b.2) : (blendBand old b).1 ≤ (blendBand old b).2 := by
  cases old with
  | none => exact hb
  | some o =>
    have h := ho o rfl
    obtain ⟨lo, hi⟩ := o
    simp only [blendBand]
    linarith

/-- A variance over the sum of the group's variances, when that sum is positive. -/
theorem mem_normalized {vs : List α} (hv : ∀ v ∈ vs, 0 ≤ v) (hs : 0 < vs.sum) {w : α}
    (hw : w ∈ vs.map (· / vs.sum)) : 0 ≤ w ∧ w ≤ 1 := by
  obtain ⟨v, hv', rfl⟩ := List.mem_map.mp hw
  exact ⟨div_nonneg (hv v hv') hs.le, (div_le_one hs).mpr (List.single_le_sum hv v hv')⟩

theorem varAxis0_nonneg (rows : List (List α)) : ∀ v ∈ Np.varAxis0 rows, 0 ≤ v := by
  intro v hv
  obtain ⟨j, -, rfl⟩ := List.mem_map.mp hv
  exact Np.var_nonneg _

/-! ## One group -/

theorem weightsGroup_preserves (s : PyStr) (exps : List (Experience α)) :
    Preserves (PyDict.All fun w : α => 0 ≤ w ∧ w ≤ 1) (weightsGroup s exps) := by
  unfold weightsGroup
  split
  · exact .pure _
  · refine .ite (.pure _) ?_
    dsimp only
    split
    · rename_i hpos
      refine .forM fun ⟨i, name⟩ _ => .ofExcept_bind fun w hw => .modify fun fw hfw => ?_
      exact hfw.set _ (blendWeight_mem (hfw _) (mem_normalized (varAxis0_nonneg _) hpos
        (pyIndex_mem hw)))
    · exact .pure _

theorem thresholdsGroup_preserves (sqrt : α → α) (hsqrt : ∀ x, 0 ≤ sqrt x) (s : PyStr)
    (exps : List (Experience α)) :
    Preserves (PyDict.All fun b : α × α => b.1 ≤ b.2) (thresholdsGroup sqrt s exps) := by
  unfold thresholdsGroup
  split
  · exact .pure _
  · refine .ite (.pure _) (.forM fun ⟨i, name⟩ _ => .ofExcept_bind fun m _ =>
      .ofExcept_bind fun sd hsd => .modify fun th hth => hth.set _
        (blendBand_ordered (hth _) ?_))
    have hsd0 : 0 ≤ sd := by
      obtain ⟨j, -, rfl⟩ := List.mem_map.mp (pyIndex_mem hsd)
      exact hsqrt _
    show m - 3 * sd ≤ m + 3 * sd
    linarith

/-- Seeding fills a sensor with five centroids, and recentering maps them one for one. -/
theorem clustersGroup_preserves (sqrt : α → α) (draws : Draws) (s : PyStr)
    (exps : List (Experience α)) :
    Preserves (PyDict.All fun cs : List (List α) => cs.length = 5)
      (clustersGroup sqrt draws s exps) := by
  intro d hd
  by_cases hskip : exps.length < 5 ∨ lengthsDiffer exps = true
  · rw [clustersGroup_skip sqrt draws hskip d]
    exact hd
  rw [clustersGroup_apply sqrt draws s hskip d]
  dsimp only
  set rows := exps.map (·.features) with hrows
  set d' := if (d.get? s).isNone then
    d.set s ((draws.choice s rows.length (min 5 rows.length)).map rows.get) else d with hd'
  have hseed : d'.All (fun cs => cs.length = 5) ∧ ∃ cs, d'.get? s = some cs := by
    cases hget : d.get? s with
    | none =>
      have h5 : min 5 rows.length = 5 := by simp only [hrows, List.length_map]; omega
      have hlen := draws.length_choice s rows.length _ (min_le_right 5 rows.length)
      simp only [hd', hget, Option.isNone_none, if_true]
      exact ⟨hd.set s (by rw [List.length_map, hlen, h5]), _, by rw [PyDict.get?_set, if_pos rfl]⟩
    | some cs =>
      simp only [hd', hget, Option.isNone_some, Bool.false_eq_true, if_false]
      exact ⟨hd, cs, rfl⟩
  obtain ⟨hA, cs, hcs⟩ := hseed
  rw [hcs, Option.getD_some]
  split
  · rename_i cs' hm
    exact hA.set s ((except_mapM_length hm).trans (hA s cs hcs))
  · exact hA

/-! ## A pass, a call, a run -/

theorem updateFeatureWeights_preserves (buf : List (Experience α)) :
    Preserves (PyDict.All fun w : α => 0 ≤ w ∧ w ≤ 1) (updateFeatureWeights buf) :=
  .forM fun g _ => weightsGroup_preserves g.1 g.2

theorem updateAnomalyThresholds_preserves (sqrt : α → α) (hsqrt : ∀ x, 0 ≤ sqrt x)
    (buf : List (Experience α)) :
    Preserves (PyDict.All fun b : α × α => b.1 ≤ b.2) (updateAnomalyThresholds sqrt buf) :=
  .forM fun g _ => thresholdsGroup_preserves sqrt hsqrt g.1 g.2

theorem updatePatternClusters_preserves (sqrt : α → α) (draws : Draws)
    (buf : List (Experience α)) :
    Preserves (PyDict.All fun cs : List (List α) => cs.length = 5)
      (updatePatternClusters sqrt draws buf) :=
  .forM fun g _ => clustersGroup_preserves sqrt draws g.1 g.2

variable (lib : Libraries α)

/-- The update pass leaves each learned dict as it was or as its own pass left it, whether a
later pass raises or not. -/
theorem incrementalUpdate_learned (draws : Draws) (l : IncrementalLearner α) :
    ((final (incrementalUpdate lib draws l)).featureWeights = l.featureWeights ∨
      (final (incrementalUpdate lib draws l)).featureWeights =
        final (updateFeatureWeights l.experienceBuffer.items l.featureWeights)) ∧
    ((final (incrementalUpdate lib draws l)).anomalyThresholds = l.anomalyThresholds ∨
      (final (incrementalUpdate lib draws l)).anomalyThresholds =
        final (updateAnomalyThresholds lib.sqrt l.experienceBuffer.items l.anomalyThresholds)) ∧
    ((final (incrementalUpdate lib draws l)).patternClusters = l.patternClusters ∨
      (final (incrementalUpdate lib draws l)).patternClusters =
        final (updatePatternClusters lib.sqrt draws l.experienceBuffer.items
          l.patternClusters)) := by
  rw [incrementalUpdate_apply]
  split
  · exact ⟨.inl rfl, .inl rfl, .inl rfl⟩
  cases updateFeatureWeights l.experienceBuffer.items l.featureWeights with
  | error => exact ⟨.inr rfl, .inl rfl, .inl rfl⟩
  | ok =>
    cases updateAnomalyThresholds lib.sqrt l.experienceBuffer.items l.anomalyThresholds with
    | error => exact ⟨.inr rfl, .inr rfl, .inl rfl⟩
    | ok =>
      cases updatePatternClusters lib.sqrt draws l.experienceBuffer.items l.patternClusters <;>
        exact ⟨.inr rfl, .inr rfl, .inr rfl⟩

variable {lib}

theorem LearnerInv.incrementalUpdate (hsqrt : ∀ x, 0 ≤ lib.sqrt x) (draws : Draws)
    {l : IncrementalLearner α} (h : LearnerInv l) :
    LearnerInv (final (incrementalUpdate lib draws l)) := by
  obtain ⟨hw, hth, hpc⟩ := incrementalUpdate_learned lib draws l
  refine ⟨?_, ?_, ?_⟩
  · rcases hw with hw | hw <;> rw [hw]
    exacts [h.weights, updateFeatureWeights_preserves _ _ h.weights]
  · rcases hth with hth | hth <;> rw [hth]
    exacts [h.bands, updateAnomalyThresholds_preserves _ hsqrt _ _ h.bands]
  · rcases hpc with hpc | hpc <;> rw [hpc]
    exacts [h.clusters, updatePatternClusters_preserves _ draws _ _ h.clusters]

theorem LearnerInv.addExperience (hsqrt : ∀ x, 0 ≤ lib.sqrt x) (draws : Draws)
    (f : ProcessedFeatures α) {l : IncrementalLearner α} (h : LearnerInv l) :
    LearnerInv (final (addExperience lib draws f l)) := by
  have h' : LearnerInv (l.appendExperience f) := ⟨h.weights, h.bands, h.clusters⟩
  rw [addExperience_apply]
  split
  · exact h'.incrementalUpdate hsqrt draws
  · exact h'

theorem learnerInv_init (learningRate : α) (memorySize : Nat) (updateThreshold : Int) :
    LearnerInv (IncrementalLearner.init learningRate memorySize updateThreshold) :=
  ⟨.empty _, .empty _, .empty _⟩

theorem reachable_learnerInv (hsqrt : ∀ x, 0 ≤ lib.sqrt x) {l : IncrementalLearner α}
    (h : Reachable lib l) : LearnerInv l := by
  induction h with
  | init learningRate memorySize updateThreshold =>
    exact learnerInv_init learningRate memorySize updateThreshold
  | step draws f _ ih => exact ih.addExperience hsqrt draws f

end Invariants

/-- Every learner that `add_experience` calls reach from a fresh one, calls that raise included,
has its weights in `[0, 1]`, its bands ordered and five centroids for each seeded sensor. -/
theorem learned_dicts_keep_bounds (vision : Frame ℝ → Except PyError (CameraStats ℝ))
    {l : IncrementalLearner ℝ} (h : Reachable ⟨Real.sqrt, vision⟩ l) :
    (l.featureWeights.All fun w => 0 ≤ w ∧ w ≤ 1) ∧
      (l.anomalyThresholds.All fun b => b.1 ≤ b.2) ∧
      l.patternClusters.All fun cs => cs.length = 5 :=
  have hinv := reachable_learnerInv Real.sqrt_nonneg h
  ⟨hinv.weights, hinv.bands, hinv.clusters⟩

end EdgeAI
