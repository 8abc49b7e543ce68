import EdgeAI.Learner.Invariants
import EdgeAI.Learner.Shape
import EdgeAI.Preprocess.Stream

/-!
# Runs of one temperature sensor through the preprocessor and the learner

The records of a temperature sensor grow from one feature to two once a second value is in the
window, and to six once the window is full (`temperatureHistory_records`). Fed to the learner,
the lengths alone decide the runs below (`feed_shape`, `shapeStep_sound`):

* once the buffer holds `update_threshold` entries, every call runs a pass, so `update_count`
  counts calls, not batches of `update_threshold`;
* centroids seeded while the records have two features meet six-feature records once those fill
  the buffer, and the cluster pass raises `ValueError` after the weight and band passes wrote.
-/

namespace EdgeAI

section Runs

variable {α : Type} [LinearOrderedField α] (lib : Libraries α)

/-- The records of `n` readings of the temperature sensor `"t"`, all of value `20`, from a fresh
preprocessor with `window_size = 10`: one record per reading, with the lengths the window
dictates. -/
theorem temperature_records (n : Nat) (normalize : Bool) :
    ∃ recs : List (ProcessedFeatures α),
      streamReadings lib (.init 10 normalize)
          ((List.range n).map fun i : Nat => temperatureAt 20 (i : α)) = recs.map (.ok ∘ some) ∧
      recs.map (·.features.length) =
        (List.range n).map (fun i => temperatureLength 10 (min (i + 1) 10)) ∧
      ∀ f ∈ recs, f.sensorId = pyStr "t" ∧ f.featureNames.length = f.features.length := by
  obtain ⟨recs, hrecs, hlens, hall⟩ := temperatureHistory_records lib 10 (by decide) normalize
    (pyStr "t") ((List.range n).map fun i : Nat => ((20 : α), (i : α))) fun _ => []
  refine ⟨recs, ?_, by rw [hlens, List.length_map, List.length_range]; simp, hall⟩
  rw [streamReadings_temperature lib (p := .init 10 normalize) (h := fun _ => []) _ (fun k => rfl)
    (fun r hr => by obtain ⟨i, -, rfl⟩ := List.mem_map.mp hr; rfl)]
  rw [← hrecs, temperatureReadings, List.map_map]
  rfl

omit [LinearOrderedField α] in
theorem fits_of_records {recs : List (ProcessedFeatures α)} {s : PyStr}
    (hall : ∀ f ∈ recs, f.sensorId = s ∧ f.featureNames.length = f.features.length)
    (draws : Draws) :
    ∀ p ∈ recs.map (·, draws), p.1.sensorId = s ∧ p.1.featureNames.length ≤ p.1.features.length := by
  intro p hp
  obtain ⟨f, hf, rfl⟩ := List.mem_map.mp hp
  exact ⟨(hall f hf).1, (hall f hf).2.le⟩

/-- Six readings of one temperature sensor, learned with `memory_size = 1000` and
`update_threshold = 5`: the fifth and the sixth call each run a pass, so six calls count two
updates where `6 // 5` is one. -/
theorem update_count_after_six_readings (normalize : Bool) (learningRate : α) (draws : Draws) :
    ∃ recs : List (ProcessedFeatures α),
      streamReadings lib (.init 10 normalize)
          ((List.range 6).map fun i : Nat => temperatureAt 20 (i : α)) = recs.map (.ok ∘ some) ∧
      (feed lib (.init learningRate 1000 5) (recs.map (·, draws))).updateCount = 2 ∧
      recs.length / 5 = 1 := by
  obtain ⟨recs, hrecs, hlens, hall⟩ := temperature_records lib 6 normalize
  have hrun : shapeRun 1000 5 ⟨[], none, 0⟩ ((recs.map (·, draws)).map (·.1.features.length)) =
      some ([false, false, false, false, false, false], ⟨[1, 2, 2, 2, 2, 2], none, 2⟩) := by
    simp only [List.map_map, Function.comp_def]
    rw [hlens]
    decide
  have hshape := feed_shape lib (recs.map (·, draws))
    (hasShape_init (pyStr "t") learningRate 1000 5) (fits_of_records hall draws) hrun
  refine ⟨recs, hrecs, hshape.count, ?_⟩
  have := congrArg List.length hlens
  simp only [List.length_map, List.length_range] at this
  omega

/-- Fourteen readings of one temperature sensor with `window_size = 10`: the first thirteen
records, learned with `memory_size = update_threshold = 5`, seed the centroids at length two from
the second to the sixth record and leave five six-feature records in the buffer; the fourteenth
record has six features. -/
theorem thirteen_records_shape (normalize : Bool) (learningRate : α) (draws : Draws) :
    ∃ (recs : List (ProcessedFeatures α)) (f : ProcessedFeatures α),
      streamReadings lib (.init 10 normalize)
          ((List.range 14).map fun i : Nat => temperatureAt 20 (i : α)) =
        (recs ++ [f]).map (.ok ∘ some) ∧
      f.sensorId = pyStr "t" ∧ f.featureNames.length = f.features.length ∧
      f.features.length = 6 ∧
      HasShape (pyStr "t") 5 (feed lib (.init learningRate 5 5) (recs.map (·, draws)))
        ⟨[2, 6, 6, 6, 6], some 2, 9⟩ := by
  obtain ⟨recs14, hrecs, hlens, hall⟩ := temperature_records lib 14 normalize
  have hl : recs14.map (·.features.length) = [1, 2, 2, 2, 2, 2, 2, 2, 2, 6, 6, 6, 6] ++ [6] := by
    rw [hlens]; decide
  obtain ⟨recs, f, rfl⟩ : ∃ recs f, recs14 = recs ++ [f] := by
    rcases List.eq_nil_or_concat recs14 with h | ⟨L, b, h⟩
    · subst h; cases hl
    · exact ⟨L, b, h.trans (List.concat_eq_append _ _)⟩
  rw [List.map_append] at hl
  obtain ⟨h13, h14⟩ := List.append_inj' hl rfl
  have hf := hall f (List.mem_append_right _ (List.mem_singleton_self _))
  -- thirteen calls: seeded at length two, nine passes, no raise
  have hrun : shapeRun 5 5 ⟨[], none, 0⟩ ((recs.map (·, draws)).map (·.1.features.length)) =
      some (List.replicate 13 false, ⟨[2, 6, 6, 6, 6], some 2, 9⟩) := by
    simp only [List.map_map, Function.comp_def]
    rw [h13]
    decide
  exact ⟨recs, f, hrecs, hf.1, hf.2, List.singleton_inj.mp h14,
    feed_shape lib (recs.map (·, draws)) (hasShape_init (pyStr "t") learningRate 5 5)
      (fits_of_records (fun g hg => hall g (List.mem_append_left _ hg)) draws) hrun⟩

/-- Fourteen readings of one temperature sensor with `window_size = 10`, learned with
`memory_size = update_threshold = 5`: the centroids are seeded at length two from the second to
the sixth record, the last five records have six features, and the fourteenth call raises
`ValueError` in the cluster pass, leaving the weights and bands its pass wrote while the
centroids and `update_count` stay as they were. -/
theorem cluster_pass_raises_on_longer_records (normalize : Bool) (learningRate : α)
    (draws : Draws) :
    ∃ (recs : List (ProcessedFeatures α)) (f : ProcessedFeatures α),
      streamReadings lib (.init 10 normalize)
          ((List.range 14).map fun i : Nat => temperatureAt 20 (i : α)) =
        (recs ++ [f]).map (.ok ∘ some) ∧
      let l := feed lib (.init learningRate 5 5) (recs.map (·, draws))
      addExperience lib draws f l = .error .valueError { l.appendExperience f with
        featureWeights := final (updateFeatureWeights
          (l.appendExperience f).experienceBuffer.items l.featureWeights)
        anomalyThresholds := final (updateAnomalyThresholds lib.sqrt
          (l.appendExperience f).experienceBuffer.items l.anomalyThresholds) } := by
  obtain ⟨recs, f, hrecs, hsid, hfit, h6, hshape⟩ :=
    thirteen_records_shape lib normalize learningRate draws
  refine ⟨recs, f, hrecs, ?_⟩
  -- the fourteenth: six features against centroids of two
  have hstep : shapeStep 5 (feed lib (.init learningRate 5 5) (recs.map (·, draws))).updateThreshold
      ⟨[2, 6, 6, 6, 6], some 2, 9⟩ f.features.length =
      some (true, ⟨[6, 6, 6, 6, 6], some 2, 9⟩) := by
    rw [(feed_buffer lib _ _).2, h6]
    rfl
  exact (shapeStep_sound lib hshape draws hsid hfit.le hstep).2

end Runs

/-! ## Centroids of two lengths -/

section Mixed

/-- A record of the sensor `"t"` with the features `xs`, named as a temperature record of that
length. -/
def recordOf (xs : List ℝ) : ProcessedFeatures ℝ :=
  ⟨xs, featureNamesFor .temperature xs.length, 0, pyStr "t"⟩

/-- Four records `[0]` and one `[1]`, then three `[0, 0]` and two `[1, 1]`. -/
def mixedRecords : List (ProcessedFeatures ℝ) :=
  [[0], [0], [0], [0], [1], [0, 0], [0, 0], [0, 0], [1, 1], [1, 1]].map recordOf

/-- The one-feature rows keep both centroids they can seed where they are. -/
theorem recenter_ones (c : List ℝ) (hc : c = [0] ∨ c = [1]) :
    recenter Real.sqrt [[0], [0], [0], [0], [1]] c = .ok c := by
  rcases hc with rfl | rfl <;> unfold recenter <;>
    simp only [List.mapM_cons, List.mapM_nil, Np.broadcast, List.length_singleton, if_true,
      List.zipWith_cons_cons, List.zipWith_nil_left, bind, Except.bind, pure, Except.pure] <;>
    norm_num [Np.norm, Np.median, List.insertionSort, List.orderedInsert, Np.meanAxis0,
      Np.width, Np.column, Np.mean, List.filterMap_cons, List.filterMap_nil, List.range_succ,
      List.range_zero]

/-- Against the two-feature rows, `[0]` has no row nearer than the median distance and stays,
while `[1]` is pulled by the two rows `[1, 1]` and broadcast to their length. -/
theorem recenter_twos (c : List ℝ) (hc : c = [0] ∨ c = [1]) :
    recenter Real.sqrt [[0, 0], [0, 0], [0, 0], [1, 1], [1, 1]] c =
      .ok (if c = [1] then [1, 1] else c) := by
  have hs : 0 < Real.sqrt 2 := by positivity
  rcases hc with rfl | rfl <;> unfold recenter <;>
    simp only [List.mapM_cons, List.mapM_nil, Np.broadcast, List.length_singleton,
      List.length_cons, List.length_nil, List.map_cons, List.map_nil, bind, Except.bind, pure,
      Except.pure] <;>
    norm_num [Np.norm, Np.median, List.insertionSort, List.orderedInsert, hs.le, not_le.mpr hs,
      Np.meanAxis0, Np.width, Np.column, Np.mean, List.filterMap_cons, List.filterMap_nil,
      List.range_succ, List.range_zero, hs]

theorem mem_of_nodup_of_length_eq {n : Nat} {l : List (Fin n)} (hnd : l.Nodup)
    (hl : l.length = n) (i : Fin n) : i ∈ l := by
  have huniv : l.toFinset = Finset.univ := Finset.eq_univ_of_card _ (by
    rw [List.toFinset_card_of_nodup hnd, hl, Fintype.card_fin])
  exact List.mem_toFinset.mp (huniv ▸ Finset.mem_univ i)

/-- Seeding a group of five rows draws every index once, so every row becomes a centroid. -/
theorem mem_seeds {β : Type} (draws : Draws) (s : PyStr) (rows : List β) (h5 : rows.length = 5)
    {r : β} (hr : r ∈ rows) :
    r ∈ (draws.choice s rows.length (min 5 rows.length)).map rows.get := by
  obtain ⟨i, rfl⟩ := List.get_of_mem hr
  refine List.mem_map_of_mem _ (mem_of_nodup_of_length_eq (draws.nodup_choice _ _ _) ?_ i)
  rw [draws.length_choice _ _ _ (min_le_right _ _)]
  omega

variable (vision : Frame ℝ → Except PyError (CameraStats ℝ)) (learningRate : ℝ) (draws : Draws)

/-- The first five records seed the centroids of `"t"` from the rows `[0]` and `[1]`, and the
pass keeps each where it is. -/
theorem mixed_seeded :
    let l := feed ⟨Real.sqrt, vision⟩ (.init learningRate 5 5)
      (([[0], [0], [0], [0], [1]] : List (List ℝ)).map fun xs => (recordOf xs, draws))
    HasShape (pyStr "t") 5 l ⟨[1, 1, 1, 1, 1], some 1, 1⟩ ∧ l.updateThreshold = 5 ∧
      ∃ cs, l.patternClusters.get? (pyStr "t") = some cs ∧
        (∀ c ∈ cs, c = [0] ∨ c = [1]) ∧ [0] ∈ cs ∧ [1] ∈ cs := by
  intro l
  let lib : Libraries ℝ := ⟨Real.sqrt, vision⟩
  let A := ([[0], [0], [0], [0]] : List (List ℝ)).map fun xs => (recordOf xs, draws)
  have hA : ∀ p ∈ A, p.1.sensorId = pyStr "t" ∧ p.1.featureNames.length ≤ p.1.features.length := by
    intro p hp
    simp only [A, List.map_cons, List.map_nil, List.mem_cons, List.mem_singleton,
      List.not_mem_nil, or_false, or_self] at hp
    subst hp
    exact ⟨rfl, le_refl _⟩
  have hlensA : A.map (·.1.features.length) = [1, 1, 1, 1] := rfl
  have h4 := feed_shape lib A (hasShape_init (pyStr "t") learningRate 5 5) hA
    (by rw [hlensA]; decide : shapeRun 5 5 ⟨[], none, 0⟩ (A.map (·.1.features.length)) = 
      some ([false, false, false, false], ⟨[1, 1, 1, 1], none, 0⟩))
  have hthr4 : (feed lib (.init learningRate 5 5) A).updateThreshold = 5 := (feed_buffer lib _ A).2
  have hitems4 : (feed lib (.init learningRate 5 5) A).experienceBuffer.items =
      A.map (Experience.ofFeatures ·.1) := by
    rw [feed_items]; rfl
  have hsplit : (([[0], [0], [0], [0], [1]] : List (List ℝ)).map fun xs => (recordOf xs, draws)) =
      A ++ [(recordOf [1], draws)] := rfl
  have hsingle : ∀ l' : IncrementalLearner ℝ, feed lib l' [(recordOf [1], draws)] =
      final (addExperience lib draws (recordOf [1]) l') := fun _ => rfl
  simp only [l, hsplit, feed_append, hsingle]
  set l4 := feed lib (.init learningRate 5 5) A
  obtain ⟨hsens, hfit, hlens⟩ := hasShape_appendExperience h4 (f := recordOf [1]) rfl (le_refl _)
  have hstep : shapeStep 5 l4.updateThreshold ⟨[1, 1, 1, 1], none, 0⟩ (recordOf [1]).features.length =
      some (false, ⟨[1, 1, 1, 1, 1], some 1, 1⟩) := by
    rw [hthr4]; decide
  refine ⟨(shapeStep_sound lib h4 draws rfl (le_refl _) hstep).1,
    (final_addExperience_buffer lib draws (recordOf [1]) l4).2.trans hthr4, ?_⟩
  have hlen : (l4.appendExperience (recordOf [1])).experienceBuffer.items.length = 5 := by
    rw [← List.length_map, hlens]; rfl
  have hrows : (l4.appendExperience (recordOf [1])).experienceBuffer.items.map (·.features) =
      [[0], [0], [0], [0], [1]] := by
    rw [IncrementalLearner.items_appendExperience, hitems4, h4.maxlen]; rfl
  have hskip : ¬ ((l4.appendExperience (recordOf [1])).experienceBuffer.items.length < 5 ∨
      lengthsDiffer (l4.appendExperience (recordOf [1])).experienceBuffer.items = true) := by
    rw [lengthsDiffer_eq_lensDiffer, hlens, hlen]; decide
  rw [addExperience_single lib draws hsens hfit (by rw [hlen, hthr4]; decide) (by omega),
    clustersGroup_apply lib.sqrt draws _ hskip, h4.unseeded rfl]
  dsimp only
  rw [hrows]
  have hall : ∀ c ∈ (draws.choice (pyStr "t") ([[0], [0], [0], [0], [1]] : List (List ℝ)).length
      (min 5 ([[0], [0], [0], [0], [1]] : List (List ℝ)).length)).map
        ([[0], [0], [0], [0], [1]] : List (List ℝ)).get, c = [0] ∨ c = [1] := by
    have hrows : ∀ c ∈ ([[0], [0], [0], [0], [1]] : List (List ℝ)), c = [0] ∨ c = [1] := by simp
    intro c hc
    obtain ⟨i, -, rfl⟩ := List.mem_map.mp hc
    exact hrows _ (List.get_mem _ _ _)
  have h0 := mem_seeds draws (pyStr "t") ([[0], [0], [0], [0], [1]] : List (List ℝ)) rfl
    (r := [0]) (by simp)
  have h1 := mem_seeds draws (pyStr "t") ([[0], [0], [0], [0], [1]] : List (List ℝ)) rfl
    (r := [1]) (by simp)
  generalize (draws.choice (pyStr "t") ([[0], [0], [0], [0], [1]] : List (List ℝ)).length
      (min 5 ([[0], [0], [0], [0], [1]] : List (List ℝ)).length)).map
        ([[0], [0], [0], [0], [1]] : List (List ℝ)).get = seeds at hall h0 h1 ⊢
  have hm : seeds.mapM (recenter Real.sqrt [[0], [0], [0], [0], [1]]) = .ok seeds := by
    simpa using except_mapM_ok (g := id) fun c hc => recenter_ones c (hall c hc)
  simp only [Option.isNone_none, if_true, PyDict.get?_set, Option.getD_some, hm, final_ok]
  exact ⟨seeds, rfl, hall, h0, h1⟩

/-- Five one-feature records seed the centroids `[0]` (four times) and `[1]`, in an order the
draws choose; five two-feature records then leave `[0]` as it is and turn `[1]` into `[1, 1]`:
a sensor's centroids end up of two lengths, with no call raising. -/
theorem centroids_of_two_lengths :
    ∃ cs, (feed ⟨Real.sqrt, vision⟩ (.init learningRate 5 5)
        (mixedRecords.map (·, draws))).patternClusters.get? (pyStr "t") = some cs ∧
      [0] ∈ cs ∧ [1, 1] ∈ cs := by
  have hbuf := feed_items ⟨Real.sqrt, vision⟩ (.init learningRate 5 5) (mixedRecords.map (·, draws))
  obtain ⟨h5, hthr5, seeds, hget5, hall, h0, h1⟩ := mixed_seeded vision learningRate draws
  set lib : Libraries ℝ := ⟨Real.sqrt, vision⟩ with hlib
  have hsplit : mixedRecords.map (·, draws) =
      (([[0], [0], [0], [0], [1]] : List (List ℝ)).map fun xs => (recordOf xs, draws)) ++
        [(recordOf [0, 0], draws), (recordOf [0, 0], draws), (recordOf [0, 0], draws),
          (recordOf [1, 1], draws)] ++ [(recordOf [1, 1], draws)] := rfl
  have hsingle : ∀ l : IncrementalLearner ℝ, feed lib l [(recordOf [1, 1], draws)] =
      final (addExperience lib draws (recordOf [1, 1]) l) := fun _ => rfl
  rw [hsplit, feed_append, feed_append, hsingle] at hbuf ⊢
  set l5 := feed lib (.init learningRate 5 5)
    (([[0], [0], [0], [0], [1]] : List (List ℝ)).map fun xs => (recordOf xs, draws))
  -- four calls whose buffers mix lengths leave the centroids
  have skip : ∀ {l : IncrementalLearner ℝ} {σ : Shape} (σ' : Shape) (xs : List ℝ), xs.length = 2 →
      HasShape (pyStr "t") 5 l σ → l.updateThreshold = 5 →
      lensDiffer ((σ.lens ++ [2]).rtake 5) = true → shapeStep 5 5 σ 2 = some (false, σ') →
      HasShape (pyStr "t") 5 (final (addExperience lib draws (recordOf xs) l)) σ' ∧
        (final (addExperience lib draws (recordOf xs) l)).updateThreshold = 5 ∧
        (final (addExperience lib draws (recordOf xs) l)).patternClusters = l.patternClusters := by
    intro l σ σ' xs hxs h hthr hd hstep
    have hfit : (recordOf xs).featureNames.length ≤ (recordOf xs).features.length := by
      simp only [recordOf, hxs]; decide
    exact ⟨(shapeStep_sound lib h draws rfl hfit (by rw [hthr]; exact hxs ▸ hstep)).1,
      (final_addExperience_buffer lib draws _ l).2.trans hthr,
      hasShape_skip_clusters lib h draws rfl hfit (hxs ▸ hd)⟩
  obtain ⟨h9, hthr9, hpc9⟩ : let l9 := feed lib l5 [(recordOf [0, 0], draws),
      (recordOf [0, 0], draws), (recordOf [0, 0], draws), (recordOf [1, 1], draws)]
      HasShape (pyStr "t") 5 l9 ⟨[1, 2, 2, 2, 2], some 1, 5⟩ ∧ l9.updateThreshold = 5 ∧
        l9.patternClusters = l5.patternClusters :=
    have s6 := skip ⟨[1, 1, 1, 1, 2], some 1, 2⟩ [0, 0] rfl h5 hthr5 (by decide) (by decide)
    have s7 := skip ⟨[1, 1, 1, 2, 2], some 1, 3⟩ [0, 0] rfl s6.1 s6.2.1 (by decide) (by decide)
    have s8 := skip ⟨[1, 1, 2, 2, 2], some 1, 4⟩ [0, 0] rfl s7.1 s7.2.1 (by decide) (by decide)
    have s9 := skip ⟨[1, 2, 2, 2, 2], some 1, 5⟩ [1, 1] rfl s8.1 s8.2.1 (by decide) (by decide)
    ⟨s9.1, s9.2.1, s9.2.2.trans (s8.2.2.trans (s7.2.2.trans s6.2.2))⟩
  generalize feed lib l5 [(recordOf [0, 0], draws), (recordOf [0, 0], draws),
    (recordOf [0, 0], draws), (recordOf [1, 1], draws)] = l9 at h9 hthr9 hpc9 hbuf ⊢
  -- the tenth call: rows of two features against centroids of one
  obtain ⟨hsens, hfit, hlens⟩ := hasShape_appendExperience h9 (f := recordOf [1, 1]) rfl (by decide)
  have hlen : (l9.appendExperience (recordOf [1, 1])).experienceBuffer.items.length = 5 := by
    rw [← List.length_map, hlens]; rfl
  have hrows : (l9.appendExperience (recordOf [1, 1])).experienceBuffer.items.map (·.features) =
      [[0, 0], [0, 0], [0, 0], [1, 1], [1, 1]] := by
    have hb : (l9.appendExperience (recordOf [1, 1])).experienceBuffer =
        (final (addExperience lib draws (recordOf [1, 1]) l9)).experienceBuffer :=
      (final_addExperience_buffer lib draws _ l9).1.symm
    rw [hb, hbuf]; rfl
  have hskip : ¬ ((l9.appendExperience (recordOf [1, 1])).experienceBuffer.items.length < 5 ∨
      lengthsDiffer (l9.appendExperience (recordOf [1, 1])).experienceBuffer.items = true) := by
    rw [lengthsDiffer_eq_lensDiffer, hlens, hlen]; decide
  rw [addExperience_single lib draws hsens hfit (by rw [hlen, hthr9]; decide) (by omega),
    clustersGroup_apply lib.sqrt draws _ hskip]
  dsimp only
  have hm : seeds.mapM (recenter Real.sqrt [[0, 0], [0, 0], [0, 0], [1, 1], [1, 1]]) =
      .ok (seeds.map fun c => if c = [1] then [1, 1] else c) :=
    except_mapM_ok fun c hc => recenter_twos c (hall c hc)
  rw [hrows, hpc9, hget5]
  simp only [Option.isNone_some, Bool.false_eq_true, if_false, hget5, Option.getD_some, hm,
    final_ok, PyDict.get?_set, if_true]
  exact ⟨_, rfl, List.mem_map.mpr ⟨[0], h0, by simp⟩, List.mem_map.mpr ⟨[1], h1, by simp⟩⟩

end Mixed

/-- The run of `centroids_of_two_lengths` with a vision stack that refuses every frame,
`learning_rate = 0.01` and the draws that pick the first indices: the learner it reaches keeps its
weights and bands in bounds and five centroids for `"t"`, of two lengths. -/
theorem two_centroid_lengths_in_bounds :
    let l := feed ⟨Real.sqrt, fun _ => .error .valueError⟩ (.init (1 / 100) 5 5)
      (mixedRecords.map (·, Draws.first))
    ((l.featureWeights.All fun w => 0 ≤ w ∧ w ≤ 1) ∧
      (l.anomalyThresholds.All fun b => b.1 ≤ b.2) ∧ l.patternClusters.All fun cs => cs.length = 5) ∧
    ∃ cs, l.patternClusters.get? (pyStr "t") = some cs ∧ [0] ∈ cs ∧ [1, 1] ∈ cs :=
  ⟨learned_dicts_keep_bounds _ (Reachable.feed _ _ (.init _ _ _)),
    centroids_of_two_lengths _ _ _⟩

end EdgeAI
