import EdgeAI.Learner.Invariants

/-!
# A sensor's centroids stay within its values

The cluster pass seeds the centroids of a sensor with rows of its group, then moves each centroid
`c` to `0.7 * c + 0.3 * mean(close, axis=0)`, `close` the rows nearer to `c` than the median
distance, under numpy broadcasting. Each coordinate it writes is a convex combination of a
coordinate of `c` and the mean of a column of the group, whose rows have one length. So if every
feature value of the records of a sensor `s` lies in `[a, b]`, every coordinate of every centroid
of `s` does too (`CentroidsWithin`): along any run, whatever the draws, when a centroid of one
length is broadcast against rows of another, and when the pass raises halfway. The groups of
other sensors write other keys. This is exact arithmetic, the field `α`: in doubles the blend of
two equal values can round just below them (`0.7 * 20.3 + 0.3 * 20.3` is `20.299999999999997`).
-/

namespace EdgeAI

section Centroids

variable {α : Type} [LinearOrderedField α] (s : PyStr) (a b : α)

/-- An experience whose features, if it is one of `s`, lie in `[a, b]`. -/
def ValuesWithin (e : Experience α) : Prop :=
  e.sensorId = s → ∀ x ∈ e.features, a ≤ x ∧ x ≤ b

/-- Every coordinate of every centroid of `s` lies in `[a, b]`. -/
def CentroidsWithin (d : PyDict (List (List α))) : Prop :=
  ∀ cs, d.get? s = some cs → ∀ c ∈ cs, ∀ x ∈ c, a ≤ x ∧ x ≤ b

variable {s a b}

/-- The column means of rows of one length with values in `[a, b]`. -/
theorem meanAxis0_mem_Icc {rows : List (List α)} (hne : rows ≠ [])
    (hlen : ∀ r ∈ rows, r.length = Np.width rows) (h : ∀ r ∈ rows, ∀ x ∈ r, a ≤ x ∧ x ≤ b) :
    ∀ y ∈ Np.meanAxis0 rows, a ≤ y ∧ y ≤ b := by
  intro y hy
  obtain ⟨j, hj, rfl⟩ := List.mem_map.mp hy
  refine Np.mean_mem_Icc (by simpa [Np.column] using hne) fun x hx => ?_
  obtain ⟨r, hr, rfl⟩ := List.mem_map.mp hx
  have hjr : j < r.length := hlen r hr ▸ List.mem_range.mp hj
  rw [List.getD_eq_getElem _ _ hjr]
  exact h r hr _ (List.getElem_mem _)

/-- What recentering can return: the centroid itself, or its blend with the mean of some rows. -/
theorem recenter_cases (sqrt : α → α) {rows : List (List α)} {center c : List α}
    (h : recenter sqrt rows center = .ok c) :
    c = center ∨ ∃ close, close ≠ [] ∧ (∀ r ∈ close, r ∈ rows) ∧
      Np.broadcast (· + ·) (center.map (7 / 10 * ·)) ((Np.meanAxis0 close).map (3 / 10 * ·)) =
        .ok c := by
  unfold recenter at h
  obtain ⟨diffs, -, h⟩ := except_bind_eq_ok h
  dsimp only at h
  split at h
  · exact .inl (Except.ok.inj h).symm
  · rename_i hne
    exact .inr ⟨_, fun hnil => hne (List.isEmpty_iff.mpr hnil), fun r hr => mem_of_mem_close hr, h⟩

/-- Recentering a centroid with values in `[a, b]` on rows of one length with values in
`[a, b]`. -/
theorem recenter_mem_Icc (sqrt : α → α) {rows : List (List α)} {center c : List α}
    (hlen : ∀ r ∈ rows, ∀ r' ∈ rows, r.length = r'.length)
    (hrows : ∀ r ∈ rows, ∀ x ∈ r, a ≤ x ∧ x ≤ b) (hc : ∀ x ∈ center, a ≤ x ∧ x ≤ b)
    (h : recenter sqrt rows center = .ok c) : ∀ x ∈ c, a ≤ x ∧ x ≤ b := by
  rcases recenter_cases sqrt h with rfl | ⟨close, hne, hsub, hb⟩
  · exact hc
  obtain ⟨r₀, rs, rfl⟩ := List.exists_cons_of_ne_nil hne
  have hwidth : ∀ r ∈ r₀ :: rs, r.length = Np.width (r₀ :: rs) := fun r hr =>
    hlen r (hsub r hr) r₀ (hsub r₀ (List.mem_cons_self _ _))
  intro x hx
  obtain ⟨u, hu, v, hv, rfl⟩ := Np.mem_broadcast hb x hx
  obtain ⟨u', hu', rfl⟩ := List.mem_map.mp hu
  obtain ⟨v', hv', rfl⟩ := List.mem_map.mp hv
  have hcu := hc u' hu'
  have hcv := meanAxis0_mem_Icc (List.cons_ne_nil _ _) hwidth (fun r hr => hrows r (hsub r hr)) v' hv'
  constructor <;> linarith only [hcu.1, hcu.2, hcv.1, hcv.2]

/-- The cluster method on any group keeps the centroids of `s` within `[a, b]`: it writes those
of `s` only for the group of `s`, from its rows and the centroids already there. -/
theorem clustersGroup_within (sqrt : α → α) (draws : Draws) {s' : PyStr}
    {exps : List (Experience α)} (hexps : s' = s → ∀ e ∈ exps, ∀ x ∈ e.features, a ≤ x ∧ x ≤ b) :
    Preserves (CentroidsWithin s a b) (clustersGroup sqrt draws s' exps) := by
  intro d hd
  by_cases hskip : exps.length < 5 ∨ lengthsDiffer exps = true
  · rw [clustersGroup_skip sqrt draws hskip d]
    exact hd
  obtain ⟨e₀, es, rfl⟩ := List.exists_cons_of_ne_nil
    (show exps ≠ [] from fun h => hskip (.inl (by simp [h])))
  have hL := lengthsDiffer_eq_false (Bool.eq_false_iff.mpr (not_or.mp hskip).2)
  rw [clustersGroup_apply sqrt draws s' hskip d]
  dsimp only
  set rows := (e₀ :: es).map (·.features)
  have hrows : ∀ r ∈ rows, ∀ x ∈ r, s' = s → a ≤ x ∧ x ≤ b := by
    intro r hr x hx hs
    obtain ⟨e, he, rfl⟩ := List.mem_map.mp hr
    exact hexps hs e he x hx
  set d' := if (d.get? s').isNone then
    d.set s' ((draws.choice s' rows.length (min 5 rows.length)).map rows.get) else d with hd'
  have hseed : CentroidsWithin s a b d' := by
    rw [hd']
    split
    · intro cs hcs c hc x hx
      rw [PyDict.get?_set] at hcs
      split at hcs
      · -- the seeds: rows of the group of `s`
        cases hcs
        obtain ⟨i, -, rfl⟩ := List.mem_map.mp hc
        exact hrows _ (List.mem_iff_get.mpr ⟨i, rfl⟩) x hx (Eq.symm ‹_›)
      · exact hd cs hcs c hc x hx
    · exact hd
  split
  · -- the recentered centroids
    rename_i cs hcs
    intro cs' hcs' c hc x hx
    rw [final_ok, PyDict.get?_set] at hcs'
    split at hcs'
    · rename_i hs
      cases hcs'
      obtain ⟨center, hcenter, hrc⟩ := except_mapM_mem hcs c hc
      have hcen : ∀ y ∈ center, a ≤ y ∧ y ≤ b := by
        cases hget : d'.get? s' <;> rw [hget] at hcenter
        · exact absurd hcenter (List.not_mem_nil _)
        · exact hseed _ (hs ▸ hget) center hcenter
      refine recenter_mem_Icc sqrt (fun r hr r' hr' => ?_) (fun r hr y hy => hrows r hr y hy hs.symm)
        hcen hrc x hx
      obtain ⟨e, he, rfl⟩ := List.mem_map.mp hr
      obtain ⟨e', he', rfl⟩ := List.mem_map.mp hr'
      rw [hL e he, hL e' he']
    · exact hseed cs' hcs' c hc x hx
  · exact hseed

/-- The cluster pass over a buffer whose experiences of `s` have values in `[a, b]`. -/
theorem updatePatternClusters_within (sqrt : α → α) (draws : Draws) {buf : List (Experience α)}
    (hbuf : ∀ e ∈ buf, ValuesWithin s a b e) :
    Preserves (CentroidsWithin s a b) (updatePatternClusters sqrt draws buf) :=
  .forM fun _ hg => clustersGroup_within sqrt draws fun hs e he =>
    hbuf e (mem_of_mem_group hg he).1 ((mem_of_mem_group hg he).2.trans hs)

variable (lib : Libraries α)

/-- The step: `add_experience` of a record within `[a, b]` keeps the buffer and the centroids
within `[a, b]`. -/
theorem centroidsWithin_addExperience (draws : Draws) {f : ProcessedFeatures α}
    (hf : ValuesWithin s a b (.ofFeatures f)) {l : IncrementalLearner α}
    (hbuf : ∀ e ∈ l.experienceBuffer.items, ValuesWithin s a b e)
    (hl : CentroidsWithin s a b l.patternClusters) :
    (∀ e ∈ (final (addExperience lib draws f l)).experienceBuffer.items, ValuesWithin s a b e) ∧
      CentroidsWithin s a b (final (addExperience lib draws f l)).patternClusters := by
  have hbuf' : ∀ e ∈ (l.appendExperience f).experienceBuffer.items, ValuesWithin s a b e := by
    intro e he
    rcases IncrementalLearner.mem_appendExperience he with he | rfl
    exacts [hbuf e he, hf]
  refine ⟨by rw [(final_addExperience_buffer lib draws f l).1]; exact hbuf', ?_⟩
  rw [addExperience_apply]
  split
  · rcases (incrementalUpdate_learned lib draws _).2.2 with h | h <;> rw [h]
    exacts [hl, updatePatternClusters_within _ draws hbuf' _ hl]
  · exact hl

/-- The run. -/
theorem centroidsWithin_feed :
    ∀ (l : IncrementalLearner α) (fs : List (ProcessedFeatures α × Draws)),
      (∀ p ∈ fs, ValuesWithin s a b (.ofFeatures p.1)) →
      (∀ e ∈ l.experienceBuffer.items, ValuesWithin s a b e) →
      CentroidsWithin s a b l.patternClusters → CentroidsWithin s a b (feed lib l fs).patternClusters
  | _, [], _, _, hl => hl
  | _, (f, d) :: fs, hfs, hbuf, hl =>
    have h := centroidsWithin_addExperience lib d (hfs (f, d) (List.mem_cons_self _ _)) hbuf hl
    centroidsWithin_feed _ fs (fun p hp => hfs p (List.mem_cons_of_mem _ hp)) h.1 h.2

end Centroids

/-- Along any run of `add_experience` from a fresh learner, calls that raise included, whatever
`np.random.choice` draws: if every feature value of the records of a sensor `s` lies in `[a, b]`,
so does every coordinate of every centroid `_update_pattern_clusters` learned for `s`. -/
theorem centroids_within_value_range {α : Type} [LinearOrderedField α] (lib : Libraries α)
    (s : PyStr) (a b : α) (learningRate : α) (memorySize : Nat) (updateThreshold : Int)
    (fs : List (ProcessedFeatures α × Draws))
    (hval : ∀ p ∈ fs, p.1.sensorId = s → ∀ x ∈ p.1.features, a ≤ x ∧ x ≤ b) :
    ∀ cs, (feed lib (.init learningRate memorySize updateThreshold) fs).patternClusters.get? s =
      some cs → ∀ c ∈ cs, ∀ x ∈ c, a ≤ x ∧ x ≤ b :=
  centroidsWithin_feed lib _ fs hval (fun _ h => absurd h (List.not_mem_nil _))
    (fun _ h => by cases h)

/-- Five records of `"t"` from `20` to `24` and one of `"u"` of value `100`, learned with
`memory_size = update_threshold = 6`: the sixth call seeds the centroids of `"t"` from its five
records, inside `[20, 24]`. -/
theorem room_centroids_within :
    let fs := ([(pyStr "t", 20), (pyStr "t", 21), (pyStr "u", 100), (pyStr "t", 22),
      (pyStr "t", 23), (pyStr "t", 24)] : List (PyStr × ℝ)).map
        fun p => (currentRecord p.1 p.2, Draws.first)
    (∀ p ∈ fs, p.1.sensorId = pyStr "t" → ∀ x ∈ p.1.features, (20 : ℝ) ≤ x ∧ x ≤ 24) ∧
    ∀ cs, (feed ⟨Real.sqrt, fun _ => .error .valueError⟩ (.init (1 / 100) 6 6) fs).patternClusters.get?
        (pyStr "t") = some cs → ∀ c ∈ cs, ∀ x ∈ c, (20 : ℝ) ≤ x ∧ x ≤ 24 := by
  intro fs
  have h : ∀ p ∈ fs, p.1.sensorId = pyStr "t" → ∀ x ∈ p.1.features, (20 : ℝ) ≤ x ∧ x ≤ 24 := by
    simp only [fs, List.map_cons, List.map_nil, List.mem_cons, List.not_mem_nil, or_false]
    rintro p (rfl | rfl | rfl | rfl | rfl | rfl) hs x hx <;>
      simp only [currentRecord, List.mem_singleton] at hs hx <;> subst hx <;>
      first | exact absurd hs (by decide) | norm_num
  exact ⟨h, centroids_within_value_range _ (pyStr "t") 20 24 (1 / 100) 6 6 fs h⟩

end EdgeAI
