import EdgeAI.Learner.Passes

/-!
# One call of `add_experience`

`add_experience` appends, and runs `_incremental_update` when the buffer holds at least
`update_threshold` entries. On a buffer whose entries have a name for each feature the weight
and band passes return (`updateFeatureWeights_noRaise`), so what the call does is decided by the
cluster pass alone (`incrementalUpdate_fit`): when it returns, the three learned maps are the
passes' and `update_count` goes up by one; when it raises, the weights and bands are already
written and `update_count` stays.

For a buffer of a single sensor the cluster pass is the sensor's group, and the four ways a call
can go follow: no pass, a pass that skips the group, a pass that keeps the centroids at the
group's length, and a pass that raises on centroids of another length.
-/

namespace EdgeAI

section Update

variable {α : Type} [LinearOrderedField α] (lib : Libraries α)

/-- A name for each feature, as every record of `process_reading` has. -/
def NamesFit (buf : List (Experience α)) : Prop :=
  ∀ e ∈ buf, e.featureNames.length ≤ e.features.length

omit [LinearOrderedField α] in
theorem namesFit_of_mem_sensorGroups {buf : List (Experience α)} (h : NamesFit buf)
    {g : PyStr × List (Experience α)} (hg : g ∈ (sensorGroups buf).entries) : NamesFit g.2 := by
  intro e he
  rw [(mem_sensorGroups hg).1] at he
  exact h e (List.mem_filter.mp he).1

theorem updateFeatureWeights_noRaise {buf : List (Experience α)} (h : NamesFit buf) :
    NoRaise (updateFeatureWeights buf) :=
  NoRaise.forM fun _ hg => weightsGroup_noRaise _ (namesFit_of_mem_sensorGroups h hg)

theorem updateAnomalyThresholds_noRaise (sqrt : α → α) {buf : List (Experience α)}
    (h : NamesFit buf) : NoRaise (updateAnomalyThresholds sqrt buf) :=
  NoRaise.forM fun _ hg => thresholdsGroup_noRaise sqrt _ (namesFit_of_mem_sensorGroups h hg)

/-- `_incremental_update`: the three passes in turn, each on its own map, until one raises;
`update_count` goes up only when all three return. -/
theorem incrementalUpdate_apply (draws : Draws) (l : IncrementalLearner α) :
    incrementalUpdate lib draws l =
      if l.experienceBuffer.items.length < 2 then .ok () l else
      match updateFeatureWeights l.experienceBuffer.items l.featureWeights with
      | .error e w => .error e { l with featureWeights := w }
      | .ok _ w =>
        match updateAnomalyThresholds lib.sqrt l.experienceBuffer.items l.anomalyThresholds with
        | .error e th => .error e { l with featureWeights := w, anomalyThresholds := th }
        | .ok _ th =>
          match updatePatternClusters lib.sqrt draws l.experienceBuffer.items
              l.patternClusters with
          | .error e pc => .error e { l with
              featureWeights := w, anomalyThresholds := th, patternClusters := pc }
          | .ok _ pc => .ok () { l with
              featureWeights := w, anomalyThresholds := th, patternClusters := pc,
              updateCount := l.updateCount + 1 } := by
  by_cases h : l.experienceBuffer.items.length < 2 <;>
    simp only [incrementalUpdate, h, if_true, if_false, Py.bind_apply, Py.get_apply, Py.focus,
      Py.modify_apply, Py.pure_apply]
  generalize updateFeatureWeights l.experienceBuffer.items l.featureWeights = rw
  rcases rw with ⟨_, w⟩ | ⟨e, w⟩
  · dsimp only
    generalize updateAnomalyThresholds lib.sqrt l.experienceBuffer.items l.anomalyThresholds = rt
    rcases rt with ⟨_, th⟩ | ⟨e, th⟩
    · dsimp only
      generalize updatePatternClusters lib.sqrt draws l.experienceBuffer.items
        l.patternClusters = rc
      rcases rc with ⟨_, pc⟩ | ⟨e, pc⟩ <;> rfl
    · rfl
  · rfl

/-- An update pass over a buffer with a name for each feature: the weight and band passes
return, and the cluster pass decides whether the update is counted. -/
theorem incrementalUpdate_fit (draws : Draws) (l : IncrementalLearner α)
    (h2 : 2 ≤ l.experienceBuffer.items.length) (hfit : NamesFit l.experienceBuffer.items) :
    incrementalUpdate lib draws l =
      let w := final (updateFeatureWeights l.experienceBuffer.items l.featureWeights)
      let th := final (updateAnomalyThresholds lib.sqrt l.experienceBuffer.items
        l.anomalyThresholds)
      match updatePatternClusters lib.sqrt draws l.experienceBuffer.items l.patternClusters with
      | .ok _ pc =>
        .ok () { l with
          featureWeights := w
          anomalyThresholds := th
          patternClusters := pc
          updateCount := l.updateCount + 1 }
      | .error e pc =>
        .error e { l with
          featureWeights := w
          anomalyThresholds := th
          patternClusters := pc } := by
  obtain ⟨_, w, hw⟩ := (updateFeatureWeights_noRaise hfit).exists_ok l.featureWeights
  obtain ⟨_, th, hth⟩ :=
    (updateAnomalyThresholds_noRaise lib.sqrt hfit).exists_ok l.anomalyThresholds
  rw [incrementalUpdate_apply, if_neg (by omega), hw, hth]
  generalize updatePatternClusters lib.sqrt draws l.experienceBuffer.items l.patternClusters = r
  rcases r with ⟨_, pc⟩ | ⟨e, pc⟩ <;> rfl

/-- A buffer of fewer than two entries: the pass returns at once. -/
theorem incrementalUpdate_short (draws : Draws) {l : IncrementalLearner α}
    (h : l.experienceBuffer.items.length < 2) : incrementalUpdate lib draws l = .ok () l := by
  rw [incrementalUpdate_apply, if_pos h]

/-- Whatever the cluster pass does, the weights and bands after an update pass are those the
weight and band passes leave. -/
theorem incrementalUpdate_weights_bands (draws : Draws) {l : IncrementalLearner α}
    (h2 : 2 ≤ l.experienceBuffer.items.length) (hfit : NamesFit l.experienceBuffer.items) :
    (final (incrementalUpdate lib draws l)).featureWeights =
        final (updateFeatureWeights l.experienceBuffer.items l.featureWeights) ∧
      (final (incrementalUpdate lib draws l)).anomalyThresholds =
        final (updateAnomalyThresholds lib.sqrt l.experienceBuffer.items l.anomalyThresholds) := by
  rw [incrementalUpdate_fit lib draws l h2 hfit]
  dsimp only
  split <;> exact ⟨rfl, rfl⟩

/-- The update pass writes the three learned maps and `update_count`, nothing else. -/
theorem incrementalUpdate_frame (draws : Draws) (l : IncrementalLearner α) :
    (final (incrementalUpdate lib draws l)).experienceBuffer = l.experienceBuffer ∧
      (final (incrementalUpdate lib draws l)).updateThreshold = l.updateThreshold ∧
      (final (incrementalUpdate lib draws l)).totalSamples = l.totalSamples := by
  rw [incrementalUpdate_apply]
  split
  · exact ⟨rfl, rfl, rfl⟩
  · split
    · exact ⟨rfl, rfl, rfl⟩
    · split
      · exact ⟨rfl, rfl, rfl⟩
      · split <;> exact ⟨rfl, rfl, rfl⟩

/-- The state `add_experience` hands to the update pass: the record appended, the sample
counted. -/
def IncrementalLearner.appendExperience (l : IncrementalLearner α) (f : ProcessedFeatures α) :
    IncrementalLearner α :=
  { l with
    experienceBuffer := l.experienceBuffer.append (.ofFeatures f)
    totalSamples := l.totalSamples + 1 }

omit [LinearOrderedField α] in
theorem IncrementalLearner.items_appendExperience (l : IncrementalLearner α)
    (f : ProcessedFeatures α) :
    (l.appendExperience f).experienceBuffer.items =
      (l.experienceBuffer.items ++ [Experience.ofFeatures f]).rtake l.experienceBuffer.maxlen := rfl

omit [LinearOrderedField α] in
theorem IncrementalLearner.mem_appendExperience {l : IncrementalLearner α}
    {f : ProcessedFeatures α} {e : Experience α}
    (he : e ∈ (l.appendExperience f).experienceBuffer.items) :
    e ∈ l.experienceBuffer.items ∨ e = Experience.ofFeatures f := by
  rw [IncrementalLearner.items_appendExperience] at he
  rcases List.mem_append.mp (Deque.mem_rtake he) with he | he
  exacts [.inl he, .inr (List.mem_singleton.mp he)]

theorem addExperience_apply (draws : Draws) (f : ProcessedFeatures α) (l : IncrementalLearner α) :
    addExperience lib draws f l =
      if (l.appendExperience f).updateThreshold ≤ (l.appendExperience f).experienceBuffer.items.length
      then incrementalUpdate lib draws (l.appendExperience f) else .ok () (l.appendExperience f) := by
  simp only [addExperience, IncrementalLearner.appendExperience, Py.bind_apply, Py.modify_apply,
    Py.get_apply]
  split <;> rfl

/-- Whatever the update pass does, the buffer after a call is the buffer before with the record
appended. -/
theorem final_addExperience_buffer (draws : Draws) (f : ProcessedFeatures α)
    (l : IncrementalLearner α) :
    (final (addExperience lib draws f l)).experienceBuffer =
      l.experienceBuffer.append (.ofFeatures f) ∧
    (final (addExperience lib draws f l)).updateThreshold = l.updateThreshold := by
  rw [addExperience_apply]
  split
  · exact ⟨(incrementalUpdate_frame lib draws _).1, (incrementalUpdate_frame lib draws _).2.1⟩
  · exact ⟨rfl, rfl⟩

theorem feed_append (l : IncrementalLearner α) (xs ys : List (ProcessedFeatures α × Draws)) :
    feed lib l (xs ++ ys) = feed lib (feed lib l xs) ys := by
  induction xs generalizing l with
  | nil => rfl
  | cons p xs ih => exact ih _

/-- The buffer after a run holds the last `memory_size` records of the run, raising calls
included. -/
theorem feed_buffer :
    ∀ (l : IncrementalLearner α) (fs : List (ProcessedFeatures α × Draws)),
      (feed lib l fs).experienceBuffer =
        fs.foldl (fun d p => d.append (.ofFeatures p.1)) l.experienceBuffer ∧
      (feed lib l fs).updateThreshold = l.updateThreshold
  | _, [] => ⟨rfl, rfl⟩
  | l, (f, d) :: fs => by
    obtain ⟨hb, ht⟩ := final_addExperience_buffer lib d f l
    rw [feed, (feed_buffer _ fs).1, (feed_buffer _ fs).2, hb, ht]
    exact ⟨rfl, rfl⟩

/-- The items of the buffer after a run: the last `memory_size` of those before and the run's. -/
theorem feed_items (l : IncrementalLearner α) (fs : List (ProcessedFeatures α × Draws)) :
    (feed lib l fs).experienceBuffer.items =
      (l.experienceBuffer.items ++ fs.map fun p => Experience.ofFeatures p.1).rtake
        l.experienceBuffer.maxlen := by
  have hmap : fs.foldl (fun d p => d.append (.ofFeatures p.1)) l.experienceBuffer =
      (fs.map fun p => Experience.ofFeatures p.1).foldl Deque.append l.experienceBuffer :=
    (List.foldl_map _ _ _ _).symm
  rw [(feed_buffer lib l fs).1, hmap]
  refine Deque.items_foldl_append _ _ _ ?_
  simp [List.rtake, l.experienceBuffer.length_le]

end Update

end EdgeAI
