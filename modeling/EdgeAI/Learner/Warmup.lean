import EdgeAI.Learner.Isolation

/-!
# A sensor's bands wait for five of its records

The band method skips a group of fewer than five experiences, and a group is the buffer's
experiences of one sensor, which are some of those the learner was given. The keys of two sensors
never meet over the emitted names (`featureKey_injective`), so a learner holds a band of a sensor
`s` under an emitted name only once it was given five records of `s` (`Warm`). On a record of a
sensor that gave fewer, `detect_anomaly` finds no band and reports `(False, 0.0)`.

`_on_sensor_data` checks each record before it adds it to the learner, so the `k`-th record of a
sensor is checked against a learner given `k - 1` of them: over any run of records, the alerts
of a sensor are at most its records beyond the fifth (`Warm.feedAlerts_count`).
-/

namespace EdgeAI

section Warmup

variable {α : Type} [LinearOrderedField α]

/-- What `if is_anomaly: print(...)` prints of a check's outcome: the sensor and the score. -/
def anomalyAlert (sensorId : PyStr) : Except PyError (Bool × α) → Option (PyStr × α)
  | .ok (true, score) => some (sensorId, score)
  | _ => none

variable (lib : Libraries α)

/-- The alerts of records given in turn to a learner, each checked with `detect_anomaly` before
`add_experience` adds it, as `_on_sensor_data` does. -/
def feedAlerts : IncrementalLearner α → List (ProcessedFeatures α × Draws) → List (PyStr × α)
  | _, [] => []
  | l, (f, d) :: rest =>
    (anomalyAlert f.sensorId (detectAnomaly l f)).toList ++
      feedAlerts (final (addExperience lib d f l)) rest

theorem anomalyScores_of_no_band {th : PyDict (α × α)} (f : ProcessedFeatures α) :
    ∀ {ps : List (Nat × PyStr)}, (∀ p ∈ ps, th.get? (featureKey f.sensorId p.2) = none) →
      anomalyScores th f ps = .ok []
  | [], _ => rfl
  | (i, name) :: rest, h => by
    simp only [anomalyScores, h _ (List.mem_cons_self _ _)]
    exact anomalyScores_of_no_band f fun p hp => h p (List.mem_cons_of_mem _ hp)

/-- `detect_anomaly` on a record none of whose names has a band: `(False, 0.0)`. -/
theorem detectAnomaly_of_no_band {l : IncrementalLearner α} {f : ProcessedFeatures α}
    (h : ∀ n ∈ f.featureNames, l.anomalyThresholds.get? (featureKey f.sensorId n) = none) :
    detectAnomaly l f = .ok (false, 0) := by
  rw [detectAnomaly, anomalyScores_of_no_band f fun p hp => h p.2 (List.snd_mem_of_mem_enum hp)]
  rfl

variable (hist : List (Experience α))

/-- Every band under a key `s_n`, `n` an emitted name, has five experiences of `s` in `hist`
behind it. -/
def BandsSeen (th : PyDict (α × α)) : Prop :=
  ∀ s, ∀ n ∈ featureVocabulary, (th.get? (featureKey s n)).isSome →
    5 ≤ hist.countP (·.sensorId == s)

/-- A learner given the experiences `hist` in turn: its buffer keeps some of them, in order, and
each of its bands has five experiences of its sensor in `hist` behind it. -/
structure Warm (l : IncrementalLearner α) : Prop where
  buffer : l.experienceBuffer.items.Sublist hist
  bands : BandsSeen hist l.anomalyThresholds

variable {lib hist}

omit [LinearOrderedField α] in
theorem BandsSeen.append {th : PyDict (α × α)} (h : BandsSeen hist th) (xs : List (Experience α)) :
    BandsSeen (hist ++ xs) th := fun s n hn hsome => by
  have := h s n hn hsome
  rw [List.countP_append]
  omega

omit [LinearOrderedField α] in
theorem warm_init (learningRate : α) (memorySize : Nat) (updateThreshold : Int) :
    Warm [] (IncrementalLearner.init learningRate memorySize updateThreshold) :=
  ⟨List.Sublist.slnil, fun _ _ _ h => absurd h (by simp [IncrementalLearner.init])⟩

/-- The band method writes the keys of its group's sensor only from five experiences of it. -/
theorem thresholdsGroup_seen (sqrt : α → α) {s : PyStr} {exps : List (Experience α)}
    (h : Emitted exps) (hlen : exps.length ≤ hist.countP (·.sensorId == s)) :
    Preserves (BandsSeen hist) (thresholdsGroup sqrt s exps) := by
  cases exps with
  | nil => exact .pure _
  | cons e es =>
    unfold thresholdsGroup
    dsimp only
    split
    · exact .pure _
    rename_i hskip
    refine .forM fun ⟨i, n⟩ hin => .bind (.ofExcept _) fun m => .bind (.ofExcept _) fun sd =>
      .modify fun d hd s' n' hn' hsome => ?_
    rw [PyDict.get?_set] at hsome
    split at hsome
    · -- a key of the group's sensor
      obtain ⟨rfl, -⟩ := featureKey_injective hn'
        ((h e (List.mem_cons_self _ _)).2 n (List.snd_mem_of_mem_enum hin)) ‹_›
      have := (not_or.mp hskip).1
      omega
    · exact hd s' n' hn' hsome

/-- The band pass over a buffer of experiences of `hist`. -/
theorem updateAnomalyThresholds_seen (sqrt : α → α) {buf : List (Experience α)}
    (hsub : buf.Sublist hist) (h : Emitted buf) :
    Preserves (BandsSeen hist) (updateAnomalyThresholds sqrt buf) :=
  .forM fun _ hg => thresholdsGroup_seen sqrt (fun e he => h e (mem_of_mem_group hg he).1) (by
    rw [(mem_sensorGroups hg).1, ← List.countP_eq_length_filter]
    exact hsub.countP_le _)

/-- The step: `add_experience` of a record of `process_reading` keeps a learner warm, the record
added to what it was given. -/
theorem Warm.addExperience (draws : Draws) {t : SensorType} {f : ProcessedFeatures α}
    (hw : WellNamed t f) {l : IncrementalLearner α} (h : Warm hist l)
    (hbuf : Emitted l.experienceBuffer.items) :
    Warm (hist ++ [.ofFeatures f]) (final (addExperience lib draws f l)) := by
  have hsub : (l.appendExperience f).experienceBuffer.items.Sublist (hist ++ [.ofFeatures f]) :=
    (List.drop_sublist _ _).trans (h.buffer.append_right _)
  refine ⟨(final_addExperience_buffer lib draws f l).1 ▸ hsub, ?_⟩
  rw [addExperience_apply]
  split
  · rcases (incrementalUpdate_learned lib draws _).2.1 with hth | hth <;> rw [hth]
    exacts [h.bands.append _,
      updateAnomalyThresholds_seen _ hsub (Emitted.appendExperience hw hbuf) _ (h.bands.append _)]
  · exact h.bands.append _

/-- A warm learner given fewer than five records of a sensor checks its records to
`(False, 0.0)`. -/
theorem Warm.detectAnomaly_cold {l : IncrementalLearner α} (h : Warm hist l)
    {f : ProcessedFeatures α} (hf : ∀ n ∈ f.featureNames, n ∈ featureVocabulary)
    (hcold : hist.countP (·.sensorId == f.sensorId) < 5) : detectAnomaly l f = .ok (false, 0) :=
  detectAnomaly_of_no_band fun n hn => Option.not_isSome_iff_eq_none.mp fun hsome =>
    absurd (h.bands _ n (hf n hn) hsome) (by omega)

/-- The alert on a record counts for the sensor `k` only if the record is of `k` and `k` gave
five records before it. -/
theorem Warm.alert_count {l : IncrementalLearner α} (h : Warm hist l) {f : ProcessedFeatures α}
    (hf : ∀ n ∈ f.featureNames, n ∈ featureVocabulary) (k : PyStr) :
    (anomalyAlert f.sensorId (detectAnomaly l f)).toList.countP (·.1 == k) ≤
      if f.sensorId = k ∧ 5 ≤ hist.countP (·.sensorId == k) then 1 else 0 := by
  split
  · match anomalyAlert f.sensorId (detectAnomaly l f) with
    | none => exact Nat.zero_le _
    | some a => exact List.countP_le_length _
  · rename_i hk
    by_cases hfk : f.sensorId = k
    · subst hfk
      rw [h.detectAnomaly_cold hf (Nat.lt_of_not_le fun h5 => hk ⟨rfl, h5⟩)]
      rfl
    · match detectAnomaly l f with
      | .ok (true, score) => simpa [anomalyAlert] using hfk
      | .ok (false, _) => rfl
      | .error _ => rfl

variable (lib)

/-- The run: a warm learner given the records `fs` raises for a sensor `k` at most as many alerts
as `k` has records beyond the fifth, counting those it was given before. -/
theorem Warm.feedAlerts_count (k : PyStr) :
    ∀ {hist : List (Experience α)} {l : IncrementalLearner α} (fs : List (ProcessedFeatures α × Draws)),
      Warm hist l → Emitted l.experienceBuffer.items → (∀ p ∈ fs, ∃ t, WellNamed t p.1) →
      (feedAlerts lib l fs).countP (·.1 == k) + (hist.countP (·.sensorId == k) - 5) ≤
        hist.countP (·.sensorId == k) + fs.countP (·.1.sensorId == k) - 5
  | _, _, [], _, _, _ => by
    simp only [feedAlerts, List.countP_nil]
    omega
  | hist, l, (f, d) :: fs, h, hbuf, hfs => by
    obtain ⟨t, hw⟩ := hfs (f, d) (List.mem_cons_self _ _)
    have ih := Warm.feedAlerts_count k fs (h.addExperience d hw hbuf)
      (Emitted.addExperience lib d hw hbuf) fun p hp => hfs p (List.mem_cons_of_mem _ hp)
    have ha := h.alert_count hw.mem_vocabulary k
    simp only [feedAlerts, Experience.ofFeatures, List.countP_append, List.countP_cons,
      List.countP_nil, beq_iff_eq] at ih ⊢
    by_cases hk : f.sensorId = k
    · simp only [hk, true_and, if_true] at ha ih ⊢
      split at ha <;> omega
    · simp only [hk, false_and, if_false] at ha ih ⊢
      omega

end Warmup

end EdgeAI
