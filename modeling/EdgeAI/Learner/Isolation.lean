import EdgeAI.Learner.Detect
import EdgeAI.Learner.Invariants
import EdgeAI.Learner.Keys

/-!
# Other sensors never reach a sensor's weights and bands

The weights and bands of a sensor `s` live under the keys `s_name`, `name` an emitted feature
name. The weight and band passes treat the buffer group by group, and a group reads and writes
only the keys of its own sensor and its first experience's names. Since the keys of two sensors
never meet over the emitted names (`featureKey_injective`):

* a group of another sensor leaves the keys of `s` as they were (`weightsGroup_frame`);
* the group of `s` computes the same from two states that agree on them (`weightsGroup_sync`);
* so what a pass leaves under the keys of `s` is what the group of `s` alone leaves
  (`Isolated.pass_own`), and two buffers with the same experiences of `s` lead to the same
  weights and bands of `s`, and to the same `detect_anomaly` on every record of `s`, whatever the
  other sensors' experiences are.

Read the other way, the passes write no key but those of the sensors in the buffer: a learner fed
the records of a set of sensors holds, in its buffer and its learned dicts, those sensors' keys
and no other (`KeptTo.addExperience`).
-/

namespace EdgeAI

/-! ## Agreement under the keys of one sensor -/

section Agree

variable {β : Type} (s : PyStr)

/-- Two dicts hold the same values under the keys of `s`. -/
def AgreeOn (d d' : PyDict β) : Prop :=
  ∀ n ∈ featureVocabulary, d.get? (featureKey s n) = d'.get? (featureKey s n)

variable {s}

theorem AgreeOn.refl (d : PyDict β) : AgreeOn s d d := fun _ _ => rfl

theorem AgreeOn.symm {d d' : PyDict β} (h : AgreeOn s d d') : AgreeOn s d' d :=
  fun n hn => (h n hn).symm

theorem AgreeOn.trans {d d' d'' : PyDict β} (h : AgreeOn s d d') (h' : AgreeOn s d' d'') :
    AgreeOn s d d'' :=
  fun n hn => (h n hn).trans (h' n hn)

/-- Writing a key of another sensor keeps the keys of `s`. -/
theorem AgreeOn.set_other {s' n' : PyStr} (hs : s' ≠ s) (hn' : n' ∈ featureVocabulary)
    (d : PyDict β) (v : β) : AgreeOn s d (d.set (featureKey s' n') v) := by
  intro n hn
  rw [PyDict.get?_set, if_neg (featureKey_ne_of_sensor_ne (Ne.symm hs) hn hn')]

theorem AgreeOn.set {d d' : PyDict β} (h : AgreeOn s d d') (k : PyStr) (v : β) :
    AgreeOn s (d.set k v) (d'.set k v) := by
  intro n hn
  simp only [PyDict.get?_set]
  split
  · rfl
  · exact h n hn

end Agree

/-- Experiences as `process_reading` emits them: a name from the vocabulary for each feature. -/
def Emitted {α : Type} (exps : List (Experience α)) : Prop :=
  ∀ e ∈ exps, e.featureNames.length ≤ e.features.length ∧
    ∀ n ∈ e.featureNames, n ∈ featureVocabulary

/-- A learner fed records of `process_reading` keeps a buffer of emitted experiences. -/
theorem emitted_feed {α : Type} [LinearOrderedField α] (lib : Libraries α) :
    ∀ (l : IncrementalLearner α) (fs : List (ProcessedFeatures α × Draws)),
      (∀ p ∈ fs, ∃ t, WellNamed t p.1) → Emitted l.experienceBuffer.items →
      Emitted (feed lib l fs).experienceBuffer.items
  | _, [], _, h => h
  | l, (f, d) :: fs, hfs, h => by
    refine emitted_feed lib _ fs (fun p hp => hfs p (List.mem_cons_of_mem _ hp)) ?_
    rw [(final_addExperience_buffer lib d f l).1]
    intro e he
    rcases IncrementalLearner.mem_appendExperience (f := f) he with he | rfl
    · exact h e he
    · obtain ⟨t, hw⟩ := hfs (f, d) (List.mem_cons_self _ _)
      exact ⟨hw.length_names.le, hw.mem_vocabulary⟩

/-- A call of `add_experience` with a record of `process_reading` keeps the buffer emitted. -/
theorem Emitted.addExperience {α : Type} [LinearOrderedField α] (lib : Libraries α) (draws : Draws)
    {t : SensorType} {f : ProcessedFeatures α} (hw : WellNamed t f) {l : IncrementalLearner α}
    (h : Emitted l.experienceBuffer.items) :
    Emitted (final (addExperience lib draws f l)).experienceBuffer.items :=
  emitted_feed lib l [(f, draws)] (fun _ hp => ⟨t, List.mem_singleton.mp hp ▸ hw⟩) h

/-- The buffer with a record of `process_reading` appended, before the update pass. -/
theorem Emitted.appendExperience {α : Type} [LinearOrderedField α] {t : SensorType}
    {f : ProcessedFeatures α} (hw : WellNamed t f) {l : IncrementalLearner α}
    (h : Emitted l.experienceBuffer.items) : Emitted (l.appendExperience f).experienceBuffer.items :=
  fun e he => by
    rcases IncrementalLearner.mem_appendExperience he with he | rfl
    exacts [h e he, ⟨hw.length_names.le, hw.mem_vocabulary⟩]

/-! ## The two group methods -/

section Groups

variable {α : Type} [LinearOrderedField α] {s : PyStr}

theorem weightsGroup_frame {s' : PyStr} (hs : s' ≠ s) {exps : List (Experience α)}
    (h : Emitted exps) (d₀ : PyDict α) : Preserves (AgreeOn s d₀) (weightsGroup s' exps) := by
  cases exps with
  | nil => exact .pure _
  | cons e es =>
    unfold weightsGroup
    dsimp only
    refine .ite (.pure _) (.ite ?_ (.pure _))
    refine .forM fun ⟨i, n⟩ hin => .bind (.ofExcept _) fun w => .modify fun d hd => ?_
    exact hd.trans (AgreeOn.set_other hs
      ((h e (List.mem_cons_self _ _)).2 n (List.snd_mem_of_mem_enum hin)) d _)

theorem weightsGroup_sync {exps : List (Experience α)} (h : Emitted exps) :
    Sync (AgreeOn s) (weightsGroup s exps) := by
  cases exps with
  | nil => exact .pure _
  | cons e es =>
    unfold weightsGroup
    dsimp only
    refine .ite (.pure _) (.ite ?_ (.pure _))
    refine .forM fun ⟨i, n⟩ hin => .bind (.ofExcept _) fun w => .modify fun d₁ d₂ hd => ?_
    have hn := (h e (List.mem_cons_self _ _)).2 n (List.snd_mem_of_mem_enum hin)
    show AgreeOn s (d₁.set (featureKey s n) (blendWeight (d₁.get? (featureKey s n)) w))
      (d₂.set (featureKey s n) (blendWeight (d₂.get? (featureKey s n)) w))
    rw [hd n hn]
    exact hd.set _ _

theorem thresholdsGroup_frame (sqrt : α → α) {s' : PyStr} (hs : s' ≠ s)
    {exps : List (Experience α)} (h : Emitted exps) (d₀ : PyDict (α × α)) :
    Preserves (AgreeOn s d₀) (thresholdsGroup sqrt s' exps) := by
  cases exps with
  | nil => exact .pure _
  | cons e es =>
    unfold thresholdsGroup
    dsimp only
    refine .ite (.pure _) (.forM fun ⟨i, n⟩ hin => .bind (.ofExcept _) fun m =>
      .bind (.ofExcept _) fun sd => .modify fun d hd => ?_)
    exact hd.trans (AgreeOn.set_other hs
      ((h e (List.mem_cons_self _ _)).2 n (List.snd_mem_of_mem_enum hin)) d _)

theorem thresholdsGroup_sync (sqrt : α → α) {exps : List (Experience α)} (h : Emitted exps) :
    Sync (AgreeOn s) (thresholdsGroup sqrt s exps) := by
  cases exps with
  | nil => exact .pure _
  | cons e es =>
    unfold thresholdsGroup
    dsimp only
    refine .ite (.pure _) (.forM fun ⟨i, n⟩ hin => .bind (.ofExcept _) fun m =>
      .bind (.ofExcept _) fun sd => .modify fun d₁ d₂ hd => ?_)
    have hn := (h e (List.mem_cons_self _ _)).2 n (List.snd_mem_of_mem_enum hin)
    show AgreeOn s (d₁.set (featureKey s n)
        (blendBand (d₁.get? (featureKey s n)) (m - 3 * sd, m + 3 * sd)))
      (d₂.set (featureKey s n) (blendBand (d₂.get? (featureKey s n)) (m - 3 * sd, m + 3 * sd)))
    rw [hd n hn]
    exact hd.set _ _

end Groups

/-! ## A pass, for any group method that keeps to its own keys -/

section Pass

variable {α β : Type} (s : PyStr) (grp : PyStr → List (Experience α) → Py (PyDict β) Unit)

/-- What the group of `s` alone leaves, from `d`. -/
def ownGroup (buf : List (Experience α)) (d : PyDict β) : PyDict β :=
  if (buf.filter (·.sensorId == s)).isEmpty then d
  else final (grp s (buf.filter (·.sensorId == s)) d)

/-- A group method that writes only its own sensor's keys, returns on emitted experiences, and
reads only its own sensor's keys. -/
structure Isolated : Prop where
  frame : ∀ s' exps, s' ≠ s → Emitted exps → ∀ d₀, Preserves (AgreeOn s d₀) (grp s' exps)
  no_raise : ∀ s' exps, Emitted exps → NoRaise (grp s' exps)
  sync : ∀ exps, Emitted exps → Sync (AgreeOn s) (grp s exps)

variable {s grp}

/-- The groups of a buffer: the group of `s`, if any, with only other sensors' around it. -/
theorem sensorGroups_split (buf : List (Experience α)) (s : PyStr)
    (hne : (buf.filter (·.sensorId == s)).isEmpty = false) :
    ∃ E₁ E₂, (sensorGroups buf).entries = E₁ ++ (s, buf.filter (·.sensorId == s)) :: E₂ ∧
      (∀ g ∈ E₁, g.1 ≠ s) ∧ ∀ g ∈ E₂, g.1 ≠ s := by
  have hget : (sensorGroups buf).get? s = some (buf.filter (·.sensorId == s)) := by
    rw [get?_sensorGroups, hne]; rfl
  obtain ⟨E₁, E₂, hsplit⟩ := List.append_of_mem (PyDict.mem_of_get? hget)
  have hnd := (sensorGroups buf).nodup
  rw [hsplit, List.map_append, List.map_cons, List.nodup_append, List.nodup_cons] at hnd
  refine ⟨E₁, E₂, hsplit, fun g hg hgs => ?_, fun g hg hgs => ?_⟩
  · exact hnd.2.2 (List.mem_map_of_mem Prod.fst hg) (by rw [hgs]; exact List.mem_cons_self _ _)
  · exact hnd.2.1.1 (show s ∈ E₂.map Prod.fst from hgs ▸ List.mem_map_of_mem Prod.fst hg)

theorem Isolated.forM_others (hI : Isolated s grp) {gs : List (PyStr × List (Experience α))}
    (hgs : ∀ g ∈ gs, g.1 ≠ s ∧ Emitted g.2) (d : PyDict β) :
    AgreeOn s d (final (gs.forM (fun g => grp g.1 g.2) d)) :=
  Preserves.forM (fun g hg => hI.frame g.1 g.2 (hgs g hg).1 (hgs g hg).2 d) d (AgreeOn.refl d)

/-- Under the keys of `s`, a pass leaves what the group of `s` alone leaves. -/
theorem Isolated.pass_own (hI : Isolated s grp) {buf : List (Experience α)} (hbuf : Emitted buf)
    (d : PyDict β) :
    AgreeOn s (final ((sensorGroups buf).entries.forM (fun g => grp g.1 g.2) d))
      (ownGroup s grp buf d) := by
  have hgroups : ∀ g ∈ (sensorGroups buf).entries, Emitted g.2 :=
    fun g hg e he => hbuf e (mem_of_mem_group hg he).1
  unfold ownGroup
  split
  · -- no experience of `s`: every group is another sensor's
    rename_i hnil
    refine (hI.forM_others (fun g hg => ⟨fun hgs => ?_, hgroups g hg⟩) d).symm
    have h := mem_sensorGroups hg
    rw [hgs, List.isEmpty_iff.mp hnil] at h
    exact h.2 h.1
  · rename_i hne
    obtain ⟨E₁, E₂, hsplit, h₁, h₂⟩ := sensorGroups_split buf s (Bool.eq_false_iff.mpr hne)
    have hmem : ∀ g, g ∈ E₁ ∨ g = (s, buf.filter (·.sensorId == s)) ∨ g ∈ E₂ →
        g ∈ (sensorGroups buf).entries := fun g hg => by
      rw [hsplit]; simp only [List.mem_append, List.mem_cons]; tauto
    have hG := hgroups _ (hmem _ (.inr (.inl rfl)))
    rw [hsplit, ← List.singleton_append, ← List.append_assoc,
      NoRaise.final_forM_append (fun g hg => hI.no_raise _ _ (hgroups g (hmem g (by
        simp only [List.mem_append, List.mem_singleton] at hg; tauto)))),
      NoRaise.final_forM_append (fun g hg => hI.no_raise _ _ (hgroups g (hmem g (.inl hg)))),
      Py.forM_singleton]
    have hE₁ := hI.forM_others (fun g hg => ⟨h₁ g hg, hgroups g (hmem g (.inl hg))⟩) d
    exact (hI.forM_others (fun g hg => ⟨h₂ g hg, hgroups g (hmem g (.inr (.inr hg)))⟩) _).symm.trans
      (hI.sync _ hG _ d hE₁.symm).2

/-- Two buffers with the same experiences of `s`, from two dicts that agree under the keys of
`s`: the groups of `s` leave two dicts that agree under them. -/
theorem Isolated.ownGroup_agreeOn (hI : Isolated s grp) {buf₁ buf₂ : List (Experience α)}
    (h₂ : Emitted buf₂) (hs : buf₁.filter (·.sensorId == s) = buf₂.filter (·.sensorId == s))
    {d₁ d₂ : PyDict β} (hd : AgreeOn s d₁ d₂) :
    AgreeOn s (ownGroup s grp buf₁ d₁) (ownGroup s grp buf₂ d₂) := by
  unfold ownGroup
  rw [hs]
  split
  · exact hd
  · exact (hI.sync _ (fun e he => h₂ e (List.mem_filter.mp he).1) d₁ d₂ hd).2

end Pass

/-! ## The update pass and `detect_anomaly` -/

section Learner

variable {α : Type} [LinearOrderedField α] (lib : Libraries α) {s : PyStr}

theorem weightsGroup_isolated : Isolated s (weightsGroup (α := α)) :=
  ⟨fun _ _ hs h => weightsGroup_frame hs h, fun s' _ h => weightsGroup_noRaise s' fun e he => (h e he).1,
    fun _ h => weightsGroup_sync h⟩

theorem thresholdsGroup_isolated (sqrt : α → α) : Isolated s (thresholdsGroup sqrt) :=
  ⟨fun _ _ hs h => thresholdsGroup_frame sqrt hs h,
    fun s' _ h => thresholdsGroup_noRaise sqrt s' fun e he => (h e he).1,
    fun _ h => thresholdsGroup_sync sqrt h⟩

omit [LinearOrderedField α] in
/-- A group of fewer than two experiences leaves the dict. -/
theorem ownGroup_short {β : Type} {grp : PyStr → List (Experience α) → Py (PyDict β) Unit}
    (hshort : ∀ exps, exps.length < 2 → ∀ d, grp s exps d = .ok () d)
    {buf : List (Experience α)} (h : buf.length < 2) (d : PyDict β) : ownGroup s grp buf d = d := by
  unfold ownGroup
  split
  · rfl
  · rw [hshort _ (lt_of_le_of_lt (List.length_filter_le _ _) h)]
    rfl

/-- Under the keys of `s`, the weights and bands after an update pass are what the groups of `s`
alone leave. -/
theorem incrementalUpdate_own (draws : Draws) {l : IncrementalLearner α}
    (h : Emitted l.experienceBuffer.items) :
    AgreeOn s (final (incrementalUpdate lib draws l)).featureWeights
        (ownGroup s weightsGroup l.experienceBuffer.items l.featureWeights) ∧
      AgreeOn s (final (incrementalUpdate lib draws l)).anomalyThresholds
        (ownGroup s (thresholdsGroup lib.sqrt) l.experienceBuffer.items l.anomalyThresholds) := by
  by_cases h2 : l.experienceBuffer.items.length < 2
  · rw [incrementalUpdate_short lib draws h2, final_ok,
      ownGroup_short (fun _ he _ => weightsGroup_skip (.inl he) _) h2,
      ownGroup_short (fun _ he _ => thresholdsGroup_skip lib.sqrt (.inl (by omega)) _) h2]
    exact ⟨AgreeOn.refl _, AgreeOn.refl _⟩
  · obtain ⟨hw, hth⟩ := incrementalUpdate_weights_bands lib draws (by omega) fun e he => (h e he).1
    rw [hw, hth]
    exact ⟨weightsGroup_isolated.pass_own h _, (thresholdsGroup_isolated lib.sqrt).pass_own h _⟩

end Learner

/-! ## The keys a learner holds -/

section Keys

variable {α : Type} [LinearOrderedField α] (S : List PyStr)

/-- A key `s_n` of a sensor `s` of `S` and an emitted name `n`. -/
def FeatureKeyOf (k : PyStr) : Prop := ∃ s ∈ S, ∃ n ∈ featureVocabulary, k = featureKey s n

/-- A learner that keeps to the sensors of `S`: its buffer holds their experiences, and its
learned dicts their keys, and nothing else. -/
structure KeptTo (l : IncrementalLearner α) : Prop where
  buffer : ∀ e ∈ l.experienceBuffer.items, e.sensorId ∈ S
  weights : l.featureWeights.KeysAll (FeatureKeyOf S)
  bands : l.anomalyThresholds.KeysAll (FeatureKeyOf S)
  clusters : l.patternClusters.KeysAll (· ∈ S)

omit [LinearOrderedField α] in
/-- A fresh learner keeps to any sensors, with an empty buffer. -/
theorem keptTo_init (learningRate : α) (memorySize : Nat) (updateThreshold : Int) :
    KeptTo S (IncrementalLearner.init learningRate memorySize updateThreshold) ∧
      Emitted (IncrementalLearner.init learningRate memorySize updateThreshold).experienceBuffer.items :=
  ⟨⟨fun e he => absurd he (List.not_mem_nil e), .empty _, .empty _, .empty _⟩,
    fun e he => absurd he (List.not_mem_nil e)⟩

variable {S} {s : PyStr}

theorem weightsGroup_keys (hs : s ∈ S) {exps : List (Experience α)} (h : Emitted exps) :
    Preserves (PyDict.KeysAll (FeatureKeyOf S)) (weightsGroup s exps) := by
  cases exps with
  | nil => exact .pure _
  | cons e es =>
    unfold weightsGroup
    dsimp only
    refine .ite (.pure _) (.ite ?_ (.pure _))
    refine .forM fun ⟨i, n⟩ hin => .bind (.ofExcept _) fun w => .modify fun d hd => ?_
    exact hd.set ⟨s, hs, n, (h e (List.mem_cons_self _ _)).2 n (List.snd_mem_of_mem_enum hin), rfl⟩ _

theorem thresholdsGroup_keys (sqrt : α → α) (hs : s ∈ S) {exps : List (Experience α)}
    (h : Emitted exps) : Preserves (PyDict.KeysAll (FeatureKeyOf S)) (thresholdsGroup sqrt s exps) := by
  cases exps with
  | nil => exact .pure _
  | cons e es =>
    unfold thresholdsGroup
    dsimp only
    refine .ite (.pure _) (.forM fun ⟨i, n⟩ hin => .bind (.ofExcept _) fun m =>
      .bind (.ofExcept _) fun sd => .modify fun d hd => ?_)
    exact hd.set ⟨s, hs, n, (h e (List.mem_cons_self _ _)).2 n (List.snd_mem_of_mem_enum hin), rfl⟩ _

theorem clustersGroup_keys (sqrt : α → α) (draws : Draws) (hs : s ∈ S) (exps : List (Experience α)) :
    Preserves (PyDict.KeysAll (· ∈ S)) (clustersGroup sqrt draws s exps) := by
  intro d hd
  by_cases hskip : exps.length < 5 ∨ lengthsDiffer exps = true
  · rw [clustersGroup_skip sqrt draws hskip d]
    exact hd
  rw [clustersGroup_apply sqrt draws s hskip d]
  dsimp only
  set rows := exps.map (·.features)
  set d' := if (d.get? s).isNone then
    d.set s ((draws.choice s rows.length (min 5 rows.length)).map rows.get) else d with hd'
  have hseed : PyDict.KeysAll (· ∈ S) d' := by
    rw [hd']
    split
    exacts [hd.set hs _, hd]
  split
  exacts [hseed.set hs _, hseed]

omit [LinearOrderedField α] in
/-- A group of a buffer of the sensors of `S` is one of theirs, of emitted experiences. -/
theorem group_keptTo {buf : List (Experience α)} (hS : ∀ e ∈ buf, e.sensorId ∈ S)
    (hbuf : Emitted buf) {g : PyStr × List (Experience α)} (hg : g ∈ (sensorGroups buf).entries) :
    g.1 ∈ S ∧ Emitted g.2 := by
  obtain ⟨e, he⟩ := List.exists_mem_of_ne_nil _ (mem_sensorGroups hg).2
  obtain ⟨hb, hid⟩ := mem_of_mem_group hg he
  exact ⟨hid ▸ hS e hb, fun e' he' => hbuf e' (mem_of_mem_group hg he').1⟩

variable (lib : Libraries α)

theorem KeptTo.incrementalUpdate (draws : Draws) {l : IncrementalLearner α} (h : KeptTo S l)
    (hbuf : Emitted l.experienceBuffer.items) : KeptTo S (final (incrementalUpdate lib draws l)) := by
  have hg := fun g hg => group_keptTo h.buffer hbuf (g := g) hg
  obtain ⟨hw, hth, hpc⟩ := incrementalUpdate_learned lib draws l
  refine ⟨(incrementalUpdate_frame lib draws l).1 ▸ h.buffer, ?_, ?_, ?_⟩
  · rcases hw with hw | hw <;> rw [hw]
    exacts [h.weights, Preserves.forM (fun g hgm => weightsGroup_keys (hg g hgm).1 (hg g hgm).2) _
      h.weights]
  · rcases hth with hth | hth <;> rw [hth]
    exacts [h.bands, Preserves.forM (fun g hgm => thresholdsGroup_keys _ (hg g hgm).1 (hg g hgm).2)
      _ h.bands]
  · rcases hpc with hpc | hpc <;> rw [hpc]
    exacts [h.clusters, Preserves.forM (fun g hgm => clustersGroup_keys _ draws (hg g hgm).1 g.2) _
      h.clusters]

/-- A call of `add_experience` with a record of a sensor of `S` keeps the learner to `S`. -/
theorem KeptTo.addExperience (draws : Draws) {f : ProcessedFeatures α} (hf : f.sensorId ∈ S)
    {t : SensorType} (hw : WellNamed t f) {l : IncrementalLearner α} (h : KeptTo S l)
    (hbuf : Emitted l.experienceBuffer.items) : KeptTo S (final (addExperience lib draws f l)) := by
  have h' : KeptTo S (l.appendExperience f) := ⟨fun e he => by
    rcases IncrementalLearner.mem_appendExperience he with he | rfl
    exacts [h.buffer e he, hf], h.weights, h.bands, h.clusters⟩
  rw [addExperience_apply]
  split
  · exact h'.incrementalUpdate lib draws (Emitted.appendExperience hw hbuf)
  · exact h'

end Keys

/-- Fix a sensor `s`. Two learners whose weights and bands agree under the keys of `s`, with
buffers of emitted records holding the same experiences of `s` in the same order, still agree
under those keys after an update pass, and `detect_anomaly` gives the same result on every
record of `s` in the two: the other sensors' experiences neither change nor are read for the
weights and bands of `s`. -/
theorem other_sensors_leave_keys {α : Type} [LinearOrderedField α] (lib : Libraries α)
    (draws : Draws) (s : PyStr) {l₁ l₂ : IncrementalLearner α}
    (h₁ : Emitted l₁.experienceBuffer.items) (h₂ : Emitted l₂.experienceBuffer.items)
    (hs : l₁.experienceBuffer.items.filter (·.sensorId == s) =
      l₂.experienceBuffer.items.filter (·.sensorId == s))
    (hw : AgreeOn s l₁.featureWeights l₂.featureWeights)
    (hth : AgreeOn s l₁.anomalyThresholds l₂.anomalyThresholds) :
    AgreeOn s (final (incrementalUpdate lib draws l₁)).featureWeights
        (final (incrementalUpdate lib draws l₂)).featureWeights ∧
      AgreeOn s (final (incrementalUpdate lib draws l₁)).anomalyThresholds
        (final (incrementalUpdate lib draws l₂)).anomalyThresholds ∧
      ∀ r : ProcessedFeatures α, r.sensorId = s → (∀ n ∈ r.featureNames, n ∈ featureVocabulary) →
        detectAnomaly (final (incrementalUpdate lib draws l₁)) r =
          detectAnomaly (final (incrementalUpdate lib draws l₂)) r := by
  obtain ⟨hw₁, hth₁⟩ := incrementalUpdate_own lib draws (s := s) h₁
  obtain ⟨hw₂, hth₂⟩ := incrementalUpdate_own lib draws (s := s) h₂
  have hthAfter := hth₁.trans
    (((thresholdsGroup_isolated lib.sqrt).ownGroup_agreeOn h₂ hs hth).trans hth₂.symm)
  refine ⟨hw₁.trans ((weightsGroup_isolated.ownGroup_agreeOn h₂ hs hw).trans hw₂.symm),
    hthAfter, fun r hr hv => ?_⟩
  exact detectAnomaly_congr r fun n hn => hr ▸ hthAfter n (hv n hn)

/-- Two learners holding the records of `"t"` alternating `20` and `24`; the first also holds two
records of `"u"` among them and a weight under a key of `"u"`. -/
theorem other_sensors_leave_keys_mixed :
    let lib : Libraries ℝ := ⟨Real.sqrt, fun _ => .error .valueError⟩
    let l₁ : IncrementalLearner ℝ := { IncrementalLearner.init 0 10 10 with
      experienceBuffer := ⟨10, ([(pyStr "u", 5), (pyStr "t", 20), (pyStr "t", 24), (pyStr "t", 20),
        (pyStr "u", 7), (pyStr "t", 24), (pyStr "t", 20)] : List (PyStr × ℝ)).map
          fun p => .ofFeatures (currentRecord p.1 p.2), by decide⟩
      featureWeights := PyDict.empty.set (featureKey (pyStr "u") (pyStr "temperature_current")) 1 }
    let l₂ : IncrementalLearner ℝ := { IncrementalLearner.init 0 10 10 with
      experienceBuffer := ⟨10, ([(pyStr "t", 20), (pyStr "t", 24), (pyStr "t", 20), (pyStr "t", 24),
        (pyStr "t", 20)] : List (PyStr × ℝ)).map fun p => .ofFeatures (currentRecord p.1 p.2),
        by decide⟩ }
    AgreeOn (pyStr "t") (final (incrementalUpdate lib .first l₁)).featureWeights
        (final (incrementalUpdate lib .first l₂)).featureWeights ∧
      AgreeOn (pyStr "t") (final (incrementalUpdate lib .first l₁)).anomalyThresholds
        (final (incrementalUpdate lib .first l₂)).anomalyThresholds ∧
      ∀ r : ProcessedFeatures ℝ, r.sensorId = pyStr "t" →
        (∀ n ∈ r.featureNames, n ∈ featureVocabulary) →
        detectAnomaly (final (incrementalUpdate lib .first l₁)) r =
          detectAnomaly (final (incrementalUpdate lib .first l₂)) r :=
  have hemitted : ∀ ps : List (PyStr × ℝ),
      Emitted (ps.map fun p => Experience.ofFeatures (currentRecord p.1 p.2)) := fun ps e he => by
    obtain ⟨p, -, rfl⟩ := List.mem_map.mp he
    exact ⟨(wellNamed_currentRecord p.1 p.2).length_names.le,
      (wellNamed_currentRecord p.1 p.2).mem_vocabulary⟩
  other_sensors_leave_keys ⟨Real.sqrt, fun _ => .error .valueError⟩ .first (pyStr "t")
    (hemitted _) (hemitted _) rfl
    (fun n hn => by
      rw [PyDict.get?_set, if_neg fun h => absurd (featureKey_injective hn (by decide) h).1
        (by decide)]
      rfl)
    (AgreeOn.refl _)

end EdgeAI
