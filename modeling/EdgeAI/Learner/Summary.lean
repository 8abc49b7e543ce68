import EdgeAI.Learner.Invariants

/-!
# The learner's counters over a run, and `get_learning_summary`

`add_experience` counts every call in `total_samples` and starts an update pass on every call
whose buffer, the record appended, holds at least `update_threshold` entries. The pass counts
itself in `update_count` only when the buffer holds two entries and none of its three passes
raises. The buffer is never emptied, so once it holds `max(update_threshold, 2)` entries, which
needs `memory_size` to be at least that, every later call starts a pass: over `n` calls from a
fresh learner, `update_count` plus the number of calls that raised is
`n + 1 - max(update_threshold, 2)`, or `0` (`updateCount_feed`). A pass is not one per
`update_threshold` new records.

`get_learning_summary` reports the counters, the sizes of the learned dicts and
`len(experience_buffer) / memory_size`, which raises `ZeroDivisionError` for `memory_size = 0`.
`get_feature_importance` reads one weight, with `0.0` for a key the weight pass never wrote.
-/

namespace EdgeAI

section Counters

variable {α : Type} [LinearOrderedField α] (lib : Libraries α)

/-- How many calls of a run raised: the errors the sensor callback catches and prints. -/
def feedRaised : IncrementalLearner α → List (ProcessedFeatures α × Draws) → Nat
  | _, [] => 0
  | l, (f, d) :: rest =>
    (if (raised (addExperience lib d f l)).isSome then 1 else 0) +
      feedRaised (final (addExperience lib d f l)) rest

/-- The passes a run of `n` calls starts, from a buffer of `b` entries with `maxlen = M`, when a
pass needs `k` entries. -/
def startedPasses (k : Int) (M : Nat) : Nat → Nat → Nat
  | _, 0 => 0
  | b, n + 1 => (if k ≤ ((min (b + 1) M : Nat) : Int) then 1 else 0) + startedPasses k M (min (b + 1) M) n

omit [LinearOrderedField α] in
theorem length_appendExperience (l : IncrementalLearner α) (f : ProcessedFeatures α) :
    (l.appendExperience f).experienceBuffer.items.length =
      min (l.experienceBuffer.items.length + 1) l.experienceBuffer.maxlen := by
  rw [IncrementalLearner.items_appendExperience]
  simp only [List.rtake, List.length_drop, List.length_append, List.length_singleton]
  omega

/-- An update pass counts itself or raises once the buffer holds two entries, and does neither
before. -/
theorem incrementalUpdate_counted (draws : Draws) (l : IncrementalLearner α) :
    (final (incrementalUpdate lib draws l)).updateCount +
        (if (raised (incrementalUpdate lib draws l)).isSome then 1 else 0) =
      l.updateCount + if 2 ≤ l.experienceBuffer.items.length then 1 else 0 := by
  by_cases h : l.experienceBuffer.items.length < 2
  · rw [incrementalUpdate_short lib draws h,
      if_neg (show ¬ 2 ≤ l.experienceBuffer.items.length by omega)]
    rfl
  rw [incrementalUpdate_apply, if_neg h, if_pos (show 2 ≤ l.experienceBuffer.items.length by omega)]
  split
  · rfl
  · split
    · rfl
    · split <;> rfl

/-- The step: a call counts its pass, raises in it, or starts none; it starts one when the
buffer, the record appended, holds `max(update_threshold, 2)` entries. -/
theorem addExperience_counted (draws : Draws) (f : ProcessedFeatures α) (l : IncrementalLearner α) :
    (final (addExperience lib draws f l)).updateCount +
        (if (raised (addExperience lib draws f l)).isSome then 1 else 0) =
      l.updateCount + if max l.updateThreshold 2 ≤
        ((l.appendExperience f).experienceBuffer.items.length : Int) then 1 else 0 := by
  rw [addExperience_apply]
  split
  · next hT =>
    change l.updateThreshold ≤ _ at hT
    rw [incrementalUpdate_counted]
    by_cases h2 : 2 ≤ (l.appendExperience f).experienceBuffer.items.length
    · rw [if_pos h2, if_pos (max_le hT (by exact_mod_cast h2))]
      rfl
    · rw [if_neg h2, if_neg (fun h => h2 (by exact_mod_cast (le_max_right _ _).trans h))]
      rfl
  · next hT =>
    change ¬ l.updateThreshold ≤ _ at hT
    rw [if_neg (fun h => hT ((le_max_left _ _).trans h))]
    rfl

/-- The run: `update_count` plus the calls that raised is the number of passes started. -/
theorem updateCount_feedRaised :
    ∀ (l : IncrementalLearner α) (fs : List (ProcessedFeatures α × Draws)),
      (feed lib l fs).updateCount + feedRaised lib l fs =
        l.updateCount + startedPasses (max l.updateThreshold 2) l.experienceBuffer.maxlen
          l.experienceBuffer.items.length fs.length
  | _, [] => rfl
  | l, (f, d) :: fs => by
    obtain ⟨hb, hT⟩ := final_addExperience_buffer lib d f l
    have ih := updateCount_feedRaised (final (addExperience lib d f l)) fs
    have hstep := addExperience_counted lib d f l
    rw [hb, hT, Deque.maxlen_append, show (l.experienceBuffer.append (.ofFeatures f)).items.length =
      _ from length_appendExperience l f] at ih
    rw [length_appendExperience] at hstep
    simp only [feed, feedRaised, List.length_cons, startedPasses]
    omega

/-- The passes started from an empty buffer: one per call from the `max(k, 2)`-th on, if the
buffer can hold that many entries. -/
theorem startedPasses_closed (k : Int) (hk : 2 ≤ k) (M : Nat) :
    ∀ (n b : Nat), b ≤ M →
      startedPasses k M b n = if k ≤ M then ((n : Int) + 1 - max (k - b) 1).toNat else 0
  | 0, b, _ => by
    rw [startedPasses]
    split <;> omega
  | n + 1, b, hb => by
    rw [startedPasses, startedPasses_closed k hk M n _ (min_le_right _ _)]
    split <;> split <;> omega

/-- Over `n` calls from a fresh learner, `update_count` plus the calls that raised is
`n + 1 - max(update_threshold, 2)` once `n` reaches `max(update_threshold, 2)`, and `0` before;
and always `0` if the buffer cannot hold `max(update_threshold, 2)` entries. -/
theorem updateCount_feed (learningRate : α) (memorySize : Nat) (updateThreshold : Int)
    (fs : List (ProcessedFeatures α × Draws)) :
    (feed lib (.init learningRate memorySize updateThreshold) fs).updateCount +
        feedRaised lib (.init learningRate memorySize updateThreshold) fs =
      if max updateThreshold 2 ≤ memorySize then
        ((fs.length : Int) + 1 - max updateThreshold 2).toNat else 0 := by
  rw [updateCount_feedRaised]
  show 0 + startedPasses (max updateThreshold 2) memorySize 0 fs.length = _
  rw [startedPasses_closed _ (le_max_right _ _) _ _ _ (Nat.zero_le _)]
  split <;> omega

theorem maxlen_feed :
    ∀ (l : IncrementalLearner α) (fs : List (ProcessedFeatures α × Draws)),
      (feed lib l fs).experienceBuffer.maxlen = l.experienceBuffer.maxlen
  | _, [] => rfl
  | l, (f, d) :: fs => by
    rw [feed, maxlen_feed, (final_addExperience_buffer lib d f l).1, Deque.maxlen_append]

theorem totalSamples_addExperience (draws : Draws) (f : ProcessedFeatures α)
    (l : IncrementalLearner α) :
    (final (addExperience lib draws f l)).totalSamples = l.totalSamples + 1 := by
  rw [addExperience_apply]
  split
  · exact (incrementalUpdate_frame lib draws _).2.2
  · rfl

theorem totalSamples_feed :
    ∀ (l : IncrementalLearner α) (fs : List (ProcessedFeatures α × Draws)),
      (feed lib l fs).totalSamples = l.totalSamples + fs.length
  | _, [] => rfl
  | l, (f, d) :: fs => by
    rw [feed, totalSamples_feed, totalSamples_addExperience, List.length_cons]
    omega

/-- A call keeps five centroids for each seeded sensor. -/
theorem clusters_addExperience (draws : Draws) (f : ProcessedFeatures α)
    {l : IncrementalLearner α} (h : l.patternClusters.All fun cs => cs.length = 5) :
    (final (addExperience lib draws f l)).patternClusters.All fun cs => cs.length = 5 := by
  rw [addExperience_apply]
  split
  · rcases (incrementalUpdate_learned lib draws _).2.2 with hpc | hpc <;> rw [hpc]
    exacts [h, updatePatternClusters_preserves _ draws _ _ h]
  · exact h

theorem clusters_feed :
    ∀ {l : IncrementalLearner α} (fs : List (ProcessedFeatures α × Draws)),
      (l.patternClusters.All fun cs => cs.length = 5) →
      (feed lib l fs).patternClusters.All fun cs => cs.length = 5
  | _, [], h => h
  | _, (f, d) :: fs, h => clusters_feed fs (clusters_addExperience lib d f h)

end Counters

/-! ## `get_learning_summary` and `get_feature_importance` -/

section Summary

variable {α : Type} [LinearOrderedField α]

/-- The dict `get_learning_summary` returns. -/
structure LearningSummary (α : Type) where
  totalSamples : Nat
  updateCount : Nat
  featuresTracked : Nat
  anomalyThresholdsLearned : Nat
  patternClusters : List (PyStr × Nat)
  bufferUtilization : α

/-- `get_learning_summary`: its last entry, `len(experience_buffer) / memory_size`, raises
`ZeroDivisionError` for `memory_size = 0`. -/
def getLearningSummary (l : IncrementalLearner α) : Except PyError (LearningSummary α) :=
  if l.experienceBuffer.maxlen = 0 then .error .zeroDivisionError
  else .ok ⟨l.totalSamples, l.updateCount, l.featureWeights.entries.length,
    l.anomalyThresholds.entries.length, l.patternClusters.entries.map fun kv => (kv.1, kv.2.length),
    (l.experienceBuffer.items.length : α) / l.experienceBuffer.maxlen⟩

variable (lib : Libraries α)

/-- After `n` calls from a fresh learner, calls that raise included: for `memory_size = 0` the
summary raises `ZeroDivisionError`; otherwise it reports `total_samples = n`, a buffer use of
`min(n, memory_size) / memory_size`, and five centroids for every seeded sensor. -/
theorem learning_summary_of_feed (learningRate : α) (memorySize : Nat) (updateThreshold : Int)
    (fs : List (ProcessedFeatures α × Draws)) :
    let l := feed lib (.init learningRate memorySize updateThreshold) fs
    (memorySize = 0 → getLearningSummary l = .error .zeroDivisionError) ∧
    (0 < memorySize → ∃ sm, getLearningSummary l = .ok sm ∧ sm.totalSamples = fs.length ∧
      sm.bufferUtilization = (min fs.length memorySize : Nat) / (memorySize : α) ∧
      ∀ p ∈ sm.patternClusters, p.2 = 5) := by
  intro l
  have hmax : l.experienceBuffer.maxlen = memorySize := maxlen_feed lib _ fs
  have hlen : l.experienceBuffer.items.length = min fs.length memorySize := by
    show (feed lib _ fs).experienceBuffer.items.length = _
    rw [feed_items]
    simp only [IncrementalLearner.init, Deque.items_empty, Deque.maxlen_empty, List.nil_append,
      List.rtake, List.length_drop, List.length_map]
    omega
  refine ⟨fun h0 => if_pos (hmax.trans h0),
    fun hpos => ⟨_, if_neg (show l.experienceBuffer.maxlen ≠ 0 by omega), ?_, ?_, ?_⟩⟩
  · exact (totalSamples_feed lib _ fs).trans (Nat.zero_add _)
  · show (l.experienceBuffer.items.length : α) / l.experienceBuffer.maxlen = _
    rw [hlen, hmax]
  · intro p hp
    obtain ⟨kv, hkv, rfl⟩ := List.mem_map.mp hp
    exact clusters_feed lib fs (PyDict.All.empty _) kv.1 kv.2 (PyDict.get?_of_mem hkv)

end Summary

end EdgeAI
