import EdgeAI.Learner.Detect
import EdgeAI.Learner.Invariants
import EdgeAI.Learner.Keys

/-!
# The band of a feature stays near the feature's values

Fix a sensor `s` whose records have the names of one type `t`, and a feature name. If every value
of that feature among the records of `s` lies in `[a, b]`, each band the band pass computes for
the key `s_name` lies in `[a - 3 (b - a) / 2, b + 3 (b - a) / 2]`: the column's mean lies in
`[a, b]` and, by Popoviciu's inequality, its population standard deviation is at most
`(b - a) / 2`. The `0.8 / 0.2` blend keeps a band in that interval, and the groups of other sensors
write other keys (`featureKey_injective`). So the band under the key stays in the interval along
any run, calls that raise included, and a record of `s` whose value lies outside the interval is
reported anomalous with a positive score.
-/

namespace EdgeAI

section Bands

variable (s : PyStr) (t : SensorType) (name : PyStr) (a b : ℝ)

/-- What the band argument needs of a buffer entry: names from the vocabulary and, for an entry
of `s`, the names of the type `t` and the values named `name` in `[a, b]`. -/
structure BandHyp (e : Experience ℝ) : Prop where
  vocabulary : ∀ n ∈ e.featureNames, n ∈ featureVocabulary
  names_for : e.sensorId = s → e.featureNames = featureNamesFor t e.features.length
  in_range : e.sensorId = s → ∀ (i : Nat) (v : ℝ), e.featureNames[i]? = some name →
    e.features[i]? = some v → a ≤ v ∧ v ≤ b

/-- The band under `s_name`, if any, lies in `[a - 3 (b - a) / 2, b + 3 (b - a) / 2]`. -/
def BandWithin (th : PyDict (ℝ × ℝ)) : Prop :=
  ∀ band, th.get? (featureKey s name) = some band →
    a - 3 / 2 * (b - a) ≤ band.1 ∧ band.2 ≤ b + 3 / 2 * (b - a)

variable {s t name a b}

theorem blendBand_mem {lo hi : ℝ} {old : Option (ℝ × ℝ)} {band : ℝ × ℝ}
    (ho : ∀ o, old = some o → lo ≤ o.1 ∧ o.2 ≤ hi) (hb : lo ≤ band.1 ∧ band.2 ≤ hi) :
    lo ≤ (blendBand old band).1 ∧ (blendBand old band).2 ≤ hi := by
  cases old with
  | none => exact hb
  | some o =>
    obtain ⟨h1, h2⟩ := ho o rfl
    obtain ⟨lo', hi'⟩ := o
    simp only [blendBand]
    constructor <;> linarith [hb.1, hb.2]

/-- The band `mean ± 3 std` of values in `[a, b]`. -/
theorem band_of_mem_Icc {xs : List ℝ} (hne : xs ≠ []) (h : ∀ x ∈ xs, a ≤ x ∧ x ≤ b) :
    a - 3 / 2 * (b - a) ≤ Np.mean xs - 3 * Np.std Real.sqrt xs ∧
      Np.mean xs + 3 * Np.std Real.sqrt xs ≤ b + 3 / 2 * (b - a) := by
  have hm := Np.mean_mem_Icc hne h
  have hsd := Np.std_le_half_range hne h
  constructor <;> linarith [hm.1, hm.2]

/-- The column of `name` in a group of records of `s` of one length: values in `[a, b]`. -/
theorem column_mem_Icc {e : Experience ℝ} {es : List (Experience ℝ)}
    (hexps : ∀ x ∈ e :: es, x.sensorId = s ∧ BandHyp s t name a b x)
    (hlen : ∀ x ∈ e :: es, x.features.length = e.features.length) {i : Nat}
    (hi : i < e.features.length) (hname : e.featureNames[i]? = some name) :
    ∀ v ∈ Np.column i ((e :: es).map (·.features)), a ≤ v ∧ v ≤ b := by
  intro v hv
  obtain ⟨r, hr, rfl⟩ := List.mem_map.mp hv
  obtain ⟨x, hx, rfl⟩ := List.mem_map.mp hr
  obtain ⟨hxs, hb⟩ := hexps x hx
  obtain ⟨hes, he⟩ := hexps e (List.mem_cons_self _ _)
  have hnames : x.featureNames = e.featureNames := by
    rw [hb.names_for hxs, he.names_for hes, hlen x hx]
  have hix : i < x.features.length := hlen x hx ▸ hi
  exact hb.in_range hxs i _ (hnames ▸ hname) (by simp [hix])

theorem getElem?_axis0 {f : List ℝ → ℝ} {rows : List (List ℝ)} {i : Nat} {x : ℝ}
    (h : ((List.range (Np.width rows)).map fun j => f (Np.column j rows))[i]? = some x) :
    i < Np.width rows ∧ x = f (Np.column i rows) := by
  rw [List.getElem?_map] at h
  by_cases hi : i < Np.width rows
  · rw [List.getElem?_range hi] at h
    exact ⟨hi, (Option.some.inj h).symm⟩
  · rw [List.getElem?_eq_none (by simpa using hi)] at h
    cases h

/-- The band method on any group keeps the band under `s_name` in the interval: it writes that
key only for the group of `s`, whose column of `name` lies in `[a, b]`. -/
theorem thresholdsGroup_bandWithin (hname : name ∈ featureVocabulary) {s' : PyStr}
    {exps : List (Experience ℝ)} (hexps : ∀ e ∈ exps, e.sensorId = s' ∧ BandHyp s t name a b e) :
    Preserves (BandWithin s name a b) (thresholdsGroup Real.sqrt s' exps) := by
  cases exps with
  | nil => exact .pure _
  | cons e es =>
    unfold thresholdsGroup
    dsimp only
    split
    · exact .pure _
    rename_i hskip
    have hlen := lengthsDiffer_eq_false (Bool.eq_false_iff.mpr (not_or.mp hskip).2)
    refine .forM fun ⟨i, n⟩ hin => .ofExcept_bind fun m hm => .ofExcept_bind fun sd hsd =>
      .modify fun th hth => ?_
    intro band hband
    rw [PyDict.get?_set] at hband
    split at hband
    · -- the key of `s` and `name`: the group is that of `s`
      rename_i hkey
      have hn := (hexps e (List.mem_cons_self _ _)).2.vocabulary n (List.snd_mem_of_mem_enum hin)
      obtain ⟨rfl, rfl⟩ := featureKey_injective hname hn hkey
      cases hband
      obtain ⟨hi, rfl⟩ := getElem?_axis0 (f := Np.mean) (pyIndex_eq_ok.mp hm)
      obtain ⟨-, rfl⟩ := getElem?_axis0 (f := Np.std Real.sqrt) (pyIndex_eq_ok.mp hsd)
      exact blendBand_mem hth (band_of_mem_Icc (by simp [Np.column])
        (column_mem_Icc hexps hlen hi (List.mem_enum_iff_getElem?.mp hin)))
    · exact hth band hband

theorem updateAnomalyThresholds_bandWithin (hname : name ∈ featureVocabulary)
    {buf : List (Experience ℝ)} (hbuf : ∀ e ∈ buf, BandHyp s t name a b e) :
    Preserves (BandWithin s name a b) (updateAnomalyThresholds Real.sqrt buf) :=
  .forM fun _ hg => thresholdsGroup_bandWithin hname fun _ he =>
    ⟨(mem_of_mem_group hg he).2, hbuf _ (mem_of_mem_group hg he).1⟩

variable (vision : Frame ℝ → Except PyError (CameraStats ℝ))

/-- One call: the buffer keeps entries the argument applies to, and the band stays. -/
theorem bandWithin_addExperience (hname : name ∈ featureVocabulary) (draws : Draws)
    {f : ProcessedFeatures ℝ} (hf : BandHyp s t name a b (.ofFeatures f))
    {l : IncrementalLearner ℝ} (hbuf : ∀ e ∈ l.experienceBuffer.items, BandHyp s t name a b e)
    (hl : BandWithin s name a b l.anomalyThresholds) :
    (∀ e ∈ (final (addExperience ⟨Real.sqrt, vision⟩ draws f l)).experienceBuffer.items,
      BandHyp s t name a b e) ∧
    BandWithin s name a b (final (addExperience ⟨Real.sqrt, vision⟩ draws f l)).anomalyThresholds := by
  have hbuf' : ∀ e ∈ (l.appendExperience f).experienceBuffer.items, BandHyp s t name a b e := by
    intro e he
    rcases IncrementalLearner.mem_appendExperience he with he | rfl
    exacts [hbuf e he, hf]
  refine ⟨by rw [(final_addExperience_buffer ⟨Real.sqrt, vision⟩ draws f l).1]; exact hbuf', ?_⟩
  rw [addExperience_apply]
  split
  · rcases (incrementalUpdate_learned ⟨Real.sqrt, vision⟩ draws _).2.1 with h | h <;> rw [h]
    exacts [hl, updateAnomalyThresholds_bandWithin hname hbuf' _ hl]
  · exact hl

theorem bandWithin_feed (hname : name ∈ featureVocabulary) :
    ∀ (l : IncrementalLearner ℝ) (fs : List (ProcessedFeatures ℝ × Draws)),
      (∀ p ∈ fs, BandHyp s t name a b (.ofFeatures p.1)) →
      (∀ e ∈ l.experienceBuffer.items, BandHyp s t name a b e) →
      BandWithin s name a b l.anomalyThresholds →
      BandWithin s name a b (feed ⟨Real.sqrt, vision⟩ l fs).anomalyThresholds
  | _, [], _, _, hl => hl
  | _, (f, d) :: fs, hfs, hbuf, hl =>
    have h := bandWithin_addExperience vision hname d (hfs (f, d) (List.mem_cons_self _ _)) hbuf hl
    bandWithin_feed hname _ fs (fun p hp => hfs p (List.mem_cons_of_mem _ hp)) h.1 h.2

end Bands

/-- Along any run of `add_experience` from a fresh learner, calls that raise included, over
records of `process_reading` where the sensor `s` has one type with a method of its own: if every
value of the feature `name` among the records of `s` lies in `[a, b]`, the band learned under
`s_name`, if any, lies in `[a - 1.5 (b - a), b + 1.5 (b - a)]`, and `detect_anomaly` reports every
record of `s` whose value of `name` lies outside that interval anomalous with a positive score. -/
theorem band_within_value_spread (s : PyStr) (t : SensorType) (name : PyStr) (a b : ℝ)
    (vision : Frame ℝ → Except PyError (CameraStats ℝ)) (learningRate : ℝ) (memorySize : Nat)
    (updateThreshold : Int) (fs : List (ProcessedFeatures ℝ × Draws))
    (hname : name ∈ featureVocabulary) (ht : HasOwnMethod t)
    (hrec : ∀ p ∈ fs, ∃ t', WellNamed t' p.1 ∧ (p.1.sensorId = s → t' = t))
    (hval : ∀ p ∈ fs, p.1.sensorId = s → ∀ (i : Nat) (v : ℝ), p.1.featureNames[i]? = some name →
      p.1.features[i]? = some v → a ≤ v ∧ v ≤ b) :
    (∀ band, (feed ⟨Real.sqrt, vision⟩ (.init learningRate memorySize updateThreshold)
        fs).anomalyThresholds.get? (featureKey s name) = some band →
      a - 3 / 2 * (b - a) ≤ band.1 ∧ band.2 ≤ b + 3 / 2 * (b - a)) ∧
    ∀ (r : ProcessedFeatures ℝ) (band : ℝ × ℝ) (i : Nat) (v : ℝ), r.sensorId = s → WellNamed t r →
      (feed ⟨Real.sqrt, vision⟩ (.init learningRate memorySize updateThreshold)
        fs).anomalyThresholds.get? (featureKey s name) = some band →
      r.featureNames[i]? = some name → r.features[i]? = some v →
      v < a - 3 / 2 * (b - a) ∨ b + 3 / 2 * (b - a) < v →
      ∃ score, detectAnomaly (feed ⟨Real.sqrt, vision⟩
        (.init learningRate memorySize updateThreshold) fs) r = .ok (true, score) ∧ 0 < score := by
  have hhyp : ∀ p ∈ fs, BandHyp s t name a b (.ofFeatures p.1) := by
    intro p hp
    obtain ⟨t', hw, hts⟩ := hrec p hp
    exact ⟨hw.mem_vocabulary, fun hs => hts hs ▸ hw.names_for (hts hs ▸ ht), hval p hp⟩
  have hwithin := bandWithin_feed vision hname (.init learningRate memorySize updateThreshold) fs
    hhyp (fun _ h => absurd h (List.not_mem_nil _)) (fun _ h => by cases h)
  refine ⟨hwithin, fun r band i v hr hw hband hri hv hout => ?_⟩
  obtain ⟨hlo, hhi⟩ := hwithin band hband
  exact detectAnomaly_outside _ r hw.length_names.le hri (hr ▸ hband) hv
    (hout.imp (fun h => by linarith) fun h => by linarith)

/-- Five records of `"t"` alternating `20` and `24`, learned with `memory_size = update_threshold =
5`: the fifth call learns a band for `t_temperature_current`. -/
theorem band_within_value_spread_five :
    let l := feed ⟨Real.sqrt, fun _ => .error .valueError⟩ (.init (1 / 100) 5 5)
      (([20, 24, 20, 24, 20] : List ℝ).map fun v => (currentRecord (pyStr "t") v, Draws.first))
    (∀ band, l.anomalyThresholds.get? (featureKey (pyStr "t") (pyStr "temperature_current")) =
        some band →
      (20 : ℝ) - 3 / 2 * (24 - 20) ≤ band.1 ∧ band.2 ≤ 24 + 3 / 2 * (24 - 20)) ∧
    ∀ (r : ProcessedFeatures ℝ) (band : ℝ × ℝ) (i : Nat) (v : ℝ), r.sensorId = pyStr "t" →
      WellNamed .temperature r →
      l.anomalyThresholds.get? (featureKey (pyStr "t") (pyStr "temperature_current")) =
        some band →
      r.featureNames[i]? = some (pyStr "temperature_current") → r.features[i]? = some v →
      v < 20 - 3 / 2 * (24 - 20) ∨ 24 + 3 / 2 * (24 - 20) < v →
      ∃ score, detectAnomaly l r = .ok (true, score) ∧ 0 < score :=
  band_within_value_spread (pyStr "t") .temperature (pyStr "temperature_current") 20 24
    (fun _ => .error .valueError) (1 / 100) 5 5 _ (by decide) (by decide)
    (fun p hp => by
      obtain ⟨v, -, rfl⟩ := List.mem_map.mp hp
      exact ⟨_, wellNamed_currentRecord _ v, fun _ => rfl⟩)
    (fun p hp _ i x _ hx => by
      obtain ⟨v, hv, rfl⟩ := List.mem_map.mp hp
      rcases i with _ | i
      · obtain rfl : v = x := Option.some.inj hx
        simp only [List.mem_cons, List.mem_singleton, List.not_mem_nil, or_false] at hv
        rcases hv with rfl | rfl | rfl | rfl | rfl <;> norm_num
      · simp [currentRecord] at hx)

end EdgeAI
