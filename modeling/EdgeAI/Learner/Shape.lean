import EdgeAI.Learner.Update

/-!
# The lengths of one sensor's centroids

For a learner fed by one sensor, whether an `add_experience` call raises and whether it counts an
update depend on the feature vectors only through their lengths: a pass skips the group unless
its lengths agree, seeds the centroids at the group's length, and broadcasts them against later
groups. `shapeStep` is that dependence read off the code, on the lengths in the buffer, the
centroids' common length and `update_count`; `shapeStep_sound` shows that one call of the code
follows it, and `feed_shape` that a whole run does.

The one case `shapeStep` leaves open is a broadcast against a vector of length one, where what the
centroid becomes depends on the values.
-/

namespace EdgeAI

/-- What the lengths decide about a learner fed by one sensor: the feature lengths in the buffer,
the centroids' common length once seeded, and `update_count`. -/
structure Shape where
  lens : List Nat
  centroid : Option Nat
  count : Nat
deriving DecidableEq, Repr

/-- `len(set(lens)) > 1`. -/
def lensDiffer : List Nat → Bool
  | [] => false
  | n :: ns => ns.any (· ≠ n)

theorem lensDiffer_eq_false {ns : List Nat} (h : lensDiffer ns = false) :
    ∀ a ∈ ns, ∀ b ∈ ns, a = b := by
  cases ns with
  | nil => intro a ha; cases ha
  | cons n ns =>
    simp only [lensDiffer, List.any_eq_false, decide_eq_true_eq, not_not] at h
    have hall : ∀ a ∈ n :: ns, a = n := by
      intro a ha
      rcases List.mem_cons.mp ha with rfl | ha
      · rfl
      · exact h a ha
    intro a ha b hb
    rw [hall a ha, hall b hb]

theorem mem_rtake_append_singleton {β : Type} (l : List β) (x : β) {n : Nat}
    (h : (l ++ [x]).rtake n ≠ []) : x ∈ (l ++ [x]).rtake n := by
  unfold List.rtake at h ⊢
  rw [List.drop_append_eq_append_drop]
  apply List.mem_append_right
  have : l.length + 1 - n - l.length = 0 := by
    by_contra hne
    apply h
    apply List.drop_eq_nil_of_le
    simp only [List.length_append, List.length_singleton]
    omega
  simp only [List.length_append, List.length_singleton, this, List.drop_zero,
    List.mem_singleton]

theorem lengthsDiffer_eq_lensDiffer {α : Type} (buf : List (Experience α)) :
    lengthsDiffer buf = lensDiffer (buf.map (·.features.length)) := by
  cases buf with
  | nil => rfl
  | cons e es =>
    simp only [lengthsDiffer, lensDiffer, List.map_cons]
    induction es with
    | nil => rfl
    | cons x xs ih => simp only [List.any_cons, List.map_cons, ih]

/-- One call on the lengths: `none` where the values decide, else whether the call raises and
the shape after it. A group is skipped unless it has five vectors of one length; its centroids
are seeded at that length, kept there, or meet the group's vectors in a failed broadcast. -/
def shapeStep (M : Nat) (thr : Int) (σ : Shape) (n : Nat) : Option (Bool × Shape) :=
  let lens := (σ.lens ++ [n]).rtake M
  if ¬ thr ≤ lens.length ∨ lens.length < 2 then some (false, { σ with lens := lens })
  else if lens.length < 5 ∨ lensDiffer lens then some (false, ⟨lens, σ.centroid, σ.count + 1⟩)
  else match σ.centroid with
    | none => some (false, ⟨lens, some n, σ.count + 1⟩)
    | some L =>
      if L = n then some (false, ⟨lens, some n, σ.count + 1⟩)
      else if L = 1 ∨ n = 1 then none
      else some (true, ⟨lens, some L, σ.count⟩)

/-- A run of calls on the lengths: which calls raise, and the shape at the end. -/
def shapeRun (M : Nat) (thr : Int) : Shape → List Nat → Option (List Bool × Shape)
  | σ, [] => some ([], σ)
  | σ, n :: ns => match shapeStep M thr σ n with
    | none => none
    | some (r, σ') => match shapeRun M thr σ' ns with
      | none => none
      | some (rs, σ'') => some (r :: rs, σ'')

section Sound

variable {α : Type} [LinearOrderedField α] (lib : Libraries α)

/-- A learner fed by the sensor `s` alone, whose lengths are `σ`. -/
structure HasShape (s : PyStr) (M : Nat) (l : IncrementalLearner α) (σ : Shape) : Prop where
  maxlen : l.experienceBuffer.maxlen = M
  of_sensor : ∀ e ∈ l.experienceBuffer.items, e.sensorId = s
  fit : NamesFit l.experienceBuffer.items
  lens : l.experienceBuffer.items.map (·.features.length) = σ.lens
  unseeded : σ.centroid = none → l.patternClusters.get? s = none
  uniform : ∀ L, σ.centroid = some L → UniformAt l.patternClusters s L
  count : l.updateCount = σ.count

omit [LinearOrderedField α] in
theorem hasShape_init (s : PyStr) (learningRate : α) (M : Nat) (thr : Int) :
    HasShape s M (IncrementalLearner.init learningRate M thr) ⟨[], none, 0⟩ :=
  ⟨rfl, fun _ h => absurd h (List.not_mem_nil _), fun _ h => absurd h (List.not_mem_nil _), rfl,
    fun _ => rfl, fun _ h => (by cases h), rfl⟩

omit [LinearOrderedField α] in
/-- The buffer after the append still holds one sensor's records, each with a name per
feature, and its lengths are the shape's with the new one. -/
theorem hasShape_appendExperience {s : PyStr} {M : Nat} {l : IncrementalLearner α} {σ : Shape}
    (h : HasShape s M l σ) {f : ProcessedFeatures α} (hs : f.sensorId = s)
    (hfit : f.featureNames.length ≤ f.features.length) :
    (∀ e ∈ (l.appendExperience f).experienceBuffer.items, e.sensorId = s) ∧
      NamesFit (l.appendExperience f).experienceBuffer.items ∧
      (l.appendExperience f).experienceBuffer.items.map (·.features.length) =
        (σ.lens ++ [f.features.length]).rtake M := by
  refine ⟨fun e he => ?_, fun e he => ?_, ?_⟩
  · rcases IncrementalLearner.mem_appendExperience he with he | rfl
    exacts [h.of_sensor e he, hs]
  · rcases IncrementalLearner.mem_appendExperience he with he | rfl
    exacts [h.fit e he, hfit]
  · rw [IncrementalLearner.items_appendExperience, h.maxlen, ← Deque.rtake_map, List.map_append,
      h.lens]
    rfl

theorem updatePatternClusters_single (sqrt : α → α) (draws : Draws) {buf : List (Experience α)}
    {s : PyStr} (hs : ∀ e ∈ buf, e.sensorId = s) (hne : buf ≠ []) (d : PyDict (List (List α))) :
    updatePatternClusters sqrt draws buf d = clustersGroup sqrt draws s buf d := by
  simp only [updatePatternClusters, entries_sensorGroups_single hs hne, Py.forM_singleton]

/-- A call whose pass runs over one sensor's buffer with a name per feature: the weights and
bands are written, and the cluster method on the sensor's group decides the rest. -/
theorem addExperience_single {s : PyStr} (draws : Draws) {f : ProcessedFeatures α}
    {l : IncrementalLearner α}
    (hsens : ∀ e ∈ (l.appendExperience f).experienceBuffer.items, e.sensorId = s)
    (hfit : NamesFit (l.appendExperience f).experienceBuffer.items)
    (hthr : l.updateThreshold ≤ ((l.appendExperience f).experienceBuffer.items.length : Int))
    (h2 : 2 ≤ (l.appendExperience f).experienceBuffer.items.length) :
    addExperience lib draws f l =
      match clustersGroup lib.sqrt draws s (l.appendExperience f).experienceBuffer.items
          l.patternClusters with
      | .ok _ pc => .ok () { l.appendExperience f with
          featureWeights := final (updateFeatureWeights
            (l.appendExperience f).experienceBuffer.items l.featureWeights)
          anomalyThresholds := final (updateAnomalyThresholds lib.sqrt
            (l.appendExperience f).experienceBuffer.items l.anomalyThresholds)
          patternClusters := pc
          updateCount := l.updateCount + 1 }
      | .error e pc => .error e { l.appendExperience f with
          featureWeights := final (updateFeatureWeights
            (l.appendExperience f).experienceBuffer.items l.featureWeights)
          anomalyThresholds := final (updateAnomalyThresholds lib.sqrt
            (l.appendExperience f).experienceBuffer.items l.anomalyThresholds)
          patternClusters := pc } := by
  rw [addExperience_apply, if_pos (show (l.appendExperience f).updateThreshold ≤ _ from hthr),
    incrementalUpdate_fit lib draws _ h2 hfit,
    updatePatternClusters_single lib.sqrt draws hsens (List.ne_nil_of_length_pos (by omega))]
  rfl

/-- A call whose buffer, one sensor's, is a group the cluster pass skips leaves the centroids as
they were, whether it raises or not. -/
theorem final_addExperience_clusters {s : PyStr} (draws : Draws) {f : ProcessedFeatures α}
    {l : IncrementalLearner α}
    (hsens : ∀ e ∈ (l.appendExperience f).experienceBuffer.items, e.sensorId = s)
    (hskip : (l.appendExperience f).experienceBuffer.items.length < 5 ∨
      lengthsDiffer (l.appendExperience f).experienceBuffer.items = true) :
    (final (addExperience lib draws f l)).patternClusters = l.patternClusters := by
  rw [addExperience_apply]
  split
  · rw [incrementalUpdate_apply]
    split
    · rfl
    · rename_i h2
      split
      · rfl
      · split
        · rfl
        · rw [updatePatternClusters_single lib.sqrt draws hsens
            (List.ne_nil_of_length_pos (by omega)), clustersGroup_skip lib.sqrt draws hskip]
          rfl
  · rfl

/-- One call follows `shapeStep`: the learner after it has the shape `shapeStep` gives, and the
call raises exactly when `shapeStep` says so, leaving the weights and bands of the pass written
and the centroids and `update_count` as they were. -/
theorem shapeStep_sound {s : PyStr} {M : Nat} {l : IncrementalLearner α} {σ : Shape}
    (h : HasShape s M l σ) (draws : Draws) {f : ProcessedFeatures α} (hs : f.sensorId = s)
    (hfit : f.featureNames.length ≤ f.features.length) {r : Bool} {σ' : Shape}
    (hstep : shapeStep M l.updateThreshold σ f.features.length = some (r, σ')) :
    HasShape s M (final (addExperience lib draws f l)) σ' ∧
      addExperience lib draws f l =
        if r then
          .error .valueError { l.appendExperience f with
            featureWeights := final (updateFeatureWeights
              (l.appendExperience f).experienceBuffer.items l.featureWeights)
            anomalyThresholds := final (updateAnomalyThresholds lib.sqrt
              (l.appendExperience f).experienceBuffer.items l.anomalyThresholds) }
        else .ok () (final (addExperience lib draws f l)) := by
  obtain ⟨hsens, hfit', hlens⟩ := hasShape_appendExperience h hs hfit
  set l' := l.appendExperience f with hl'
  set lens := (σ.lens ++ [f.features.length]).rtake M with hlensdef
  have hlen : l'.experienceBuffer.items.length = lens.length := by
    rw [← hlens, List.length_map]
  have hmax : l'.experienceBuffer.maxlen = M := h.maxlen
  unfold shapeStep at hstep
  simp only [← hlensdef] at hstep
  by_cases hA : ¬ l.updateThreshold ≤ (lens.length : Int) ∨ lens.length < 2
  · -- no pass, or a pass that returns at once
    rw [if_pos hA] at hstep
    obtain ⟨rfl, rfl⟩ := Prod.mk.inj (Option.some.inj hstep).symm
    have hok : addExperience lib draws f l = .ok () l' := by
      rw [addExperience_apply]
      rcases hA with hA | hA
      · rw [if_neg (by rw [hlen]; exact hA)]
      · split
        · rw [incrementalUpdate_apply, if_pos (by rw [hlen]; exact hA)]
        · rfl
    rw [hok]
    exact ⟨⟨hmax, hsens, hfit', hlens, h.unseeded, h.uniform, h.count⟩, rfl⟩
  rw [if_neg hA] at hstep
  have hthr : l'.updateThreshold ≤ (l'.experienceBuffer.items.length : Int) := by
    rw [hlen]; exact (not_or.mp hA).1 |> not_not.mp
  have h2 : 2 ≤ l'.experienceBuffer.items.length := by have := (not_or.mp hA).2; omega
  have hne : l'.experienceBuffer.items ≠ [] := List.ne_nil_of_length_pos (by omega)
  -- the pass: weights and bands written, then the cluster pass on the sensor's group
  have hpass := addExperience_single lib draws hsens hfit' hthr h2
  by_cases hB : lens.length < 5 ∨ lensDiffer lens = true
  · -- the group is skipped
    rw [if_pos hB] at hstep
    obtain ⟨rfl, rfl⟩ := Prod.mk.inj (Option.some.inj hstep).symm
    rw [hpass, clustersGroup_skip lib.sqrt draws
      (by rwa [lengthsDiffer_eq_lensDiffer, hlens, hlen]) l.patternClusters]
    exact ⟨⟨hmax, hsens, hfit', hlens, h.unseeded, h.uniform, by simp [h.count]⟩, rfl⟩
  rw [if_neg hB] at hstep
  -- a group of five or more vectors of the new record's length
  have hskip : ¬ (l'.experienceBuffer.items.length < 5 ∨
      lengthsDiffer l'.experienceBuffer.items = true) := by
    rwa [lengthsDiffer_eq_lensDiffer, hlens, hlen]
  have hall : ∀ e ∈ l'.experienceBuffer.items, e.features.length = f.features.length := by
    have hn := mem_rtake_append_singleton σ.lens f.features.length
      (show lens ≠ [] from List.ne_nil_of_length_pos (by omega))
    intro e he
    exact lensDiffer_eq_false (Bool.eq_false_iff.mpr (not_or.mp hB).2) _
      (hlens ▸ List.mem_map_of_mem (·.features.length) he) _ hn
  have hkeep : ∀ d', clustersGroup lib.sqrt draws s l'.experienceBuffer.items l.patternClusters =
      .ok () d' → UniformAt d' s f.features.length →
      HasShape s M (final (addExperience lib draws f l)) ⟨lens, some f.features.length, σ.count + 1⟩ ∧
        addExperience lib draws f l = .ok () (final (addExperience lib draws f l)) := by
    intro d' hd' hU
    rw [hpass, hd']
    refine ⟨⟨hmax, hsens, hfit', hlens, fun h => (by cases h), ?_, (by simp [h.count])⟩, rfl⟩
    rintro L ⟨⟩
    exact hU
  cases hc : σ.centroid with
  | none =>
    simp only [hc] at hstep
    obtain ⟨rfl, rfl⟩ := Prod.mk.inj (Option.some.inj hstep).symm
    obtain ⟨d', hd', hU, -⟩ := clustersGroup_uniform lib.sqrt draws s hskip hall
      (Or.inl (h.unseeded hc))
    simpa using hkeep d' hd' hU
  | some L =>
    simp only [hc] at hstep
    by_cases hLn : L = f.features.length
    · rw [if_pos hLn] at hstep
      obtain ⟨rfl, rfl⟩ := Prod.mk.inj (Option.some.inj hstep).symm
      obtain ⟨d', hd', hU, -⟩ := clustersGroup_uniform lib.sqrt draws s hskip hall
        (Or.inr (hLn ▸ h.uniform L hc))
      simpa using hkeep d' hd' hU
    · rw [if_neg hLn] at hstep
      split_ifs at hstep with h1
      obtain ⟨rfl, rfl⟩ := Prod.mk.inj (Option.some.inj hstep).symm
      -- the centroids kept from earlier passes meet vectors of another length
      obtain ⟨c, cs, hget, hcs⟩ := h.uniform L hc
      obtain ⟨e, es, hes⟩ := List.exists_cons_of_ne_nil hne
      have hmis := clustersGroup_mismatch lib.sqrt draws s (hes ▸ hskip) hget
        (by rw [hall e (hes ▸ List.mem_cons_self _ _), hcs c (List.mem_cons_self _ _)];
            exact Ne.symm hLn)
        (by rw [hall e (hes ▸ List.mem_cons_self _ _)]; exact fun h' => h1 (Or.inr h'))
        (by rw [hcs c (List.mem_cons_self _ _)]; exact fun h' => h1 (Or.inl h'))
      rw [← hes] at hmis
      rw [hpass, hmis]
      exact ⟨⟨hmax, hsens, hfit', hlens, fun h => (by cases h),
        fun L' hL' => by cases hL'; exact ⟨c, cs, hget, hcs⟩, h.count⟩, rfl⟩

/-- A whole run follows `shapeRun`. -/
theorem feed_shape {s : PyStr} {M : Nat} :
    ∀ {l : IncrementalLearner α} {σ : Shape} (fs : List (ProcessedFeatures α × Draws)),
      HasShape s M l σ →
      (∀ p ∈ fs, p.1.sensorId = s ∧ p.1.featureNames.length ≤ p.1.features.length) →
      ∀ {rs : List Bool} {σ' : Shape},
        shapeRun M l.updateThreshold σ (fs.map (·.1.features.length)) = some (rs, σ') →
        HasShape s M (feed lib l fs) σ'
  | _, _, [], h, _, _, _, hrun => by cases hrun; exact h
  | l, σ, (f, d) :: fs, h, hfs, rs, σ', hrun => by
    obtain ⟨hs, hfit⟩ := hfs (f, d) (List.mem_cons_self _ _)
    simp only [List.map_cons, shapeRun] at hrun
    split at hrun
    · cases hrun
    · rename_i r σ₁ hstep
      split at hrun
      · cases hrun
      · rename_i rs' σ'' hrest
        cases hrun
        have h₁ := (shapeStep_sound lib h d hs hfit hstep).1
        have hthr := (final_addExperience_buffer lib d f l).2
        exact feed_shape fs h₁ (fun p hp => hfs p (List.mem_cons_of_mem _ hp))
          (by rw [hthr]; exact hrest)

/-- A call on one sensor's learner whose new buffer mixes lengths leaves the centroids. -/
theorem hasShape_skip_clusters {s : PyStr} {M : Nat} {l : IncrementalLearner α} {σ : Shape}
    (h : HasShape s M l σ) (draws : Draws) {f : ProcessedFeatures α} (hs : f.sensorId = s)
    (hfit : f.featureNames.length ≤ f.features.length)
    (hd : lensDiffer ((σ.lens ++ [f.features.length]).rtake M) = true) :
    (final (addExperience lib draws f l)).patternClusters = l.patternClusters := by
  obtain ⟨hsens, -, hlens⟩ := hasShape_appendExperience h hs hfit
  exact final_addExperience_clusters lib draws hsens
    (Or.inr (by rw [lengthsDiffer_eq_lensDiffer, hlens]; exact hd))

end Sound

end EdgeAI
