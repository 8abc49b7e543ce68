import EdgeAI.Preprocess.Extract

/-!
# What `process_reading` produces, and what it leaves in the windows

Two facts about every call, whatever the state and the reading:

* the step: the call creates the reading's window if missing and appends at most one cell,
  `appendedCell`, to it — the same cell whether the call then returns or raises — and touches no
  other window (`final_processReading`);
* the records: a returned record has as many names as features, its names come from the
  preprocessor's fixed vocabulary, and for the four sensor types with their own method the
  names are a function of the number of features (`processReading_wellNamed`).

The second is what lets the learner's `f"{sensor_id}_{name}"` keys stand for one feature of
one sensor: no emitted name ends with `_` followed by another (`vocabulary_suffix_free`).
-/

namespace EdgeAI

/-! ## The feature vocabulary -/

/-- The four window statistics `_process_temperature` adds once the window is full. -/
def temperatureStatNames : List PyStr :=
  [pyStr "temperature_mean", pyStr "temperature_std", pyStr "temperature_min",
    pyStr "temperature_max"]

/-- The four axis features of `_process_accelerometer`. -/
def accelAxisNames : List PyStr :=
  [pyStr "accel_x", pyStr "accel_y", pyStr "accel_z", pyStr "accel_magnitude"]

/-- The four features `_process_accelerometer` adds once three rows are in the window. -/
def accelJerkNames : List PyStr :=
  [pyStr "jerk_magnitude", pyStr "accel_x_variance", pyStr "accel_y_variance",
    pyStr "accel_z_variance"]

/-- The six features of `_process_camera`. -/
def cameraNames : List PyStr :=
  [pyStr "brightness_r", pyStr "brightness_g", pyStr "brightness_b", pyStr "brightness_overall",
    pyStr "contrast", pyStr "edge_density"]

/-- The names of a record of a sensor of type `t` with `n` features, for the four sensor types
with an extraction method of their own. -/
def featureNamesFor : SensorType → Nat → List PyStr
  | .temperature, 1 => [pyStr "temperature_current"]
  | .temperature, 2 => [pyStr "temperature_current", pyStr "temperature_delta"]
  | .temperature, 5 => pyStr "temperature_current" :: temperatureStatNames
  | .temperature, 6 =>
    pyStr "temperature_current" :: pyStr "temperature_delta" :: temperatureStatNames
  | .motion, 1 => [pyStr "motion_current"]
  | .motion, 3 => [pyStr "motion_current", pyStr "motion_frequency", pyStr "time_since_motion"]
  | .camera, 6 => cameraNames
  | .accelerometer, 4 => accelAxisNames
  | .accelerometer, 8 => accelAxisNames ++ accelJerkNames
  | _, _ => []

/-- The sensor types with an extraction method of their own. -/
def HasOwnMethod (t : SensorType) : Prop :=
  t = .temperature ∨ t = .motion ∨ t = .camera ∨ t = .accelerometer

instance (t : SensorType) : Decidable (HasOwnMethod t) := by
  unfold HasOwnMethod; infer_instance

/-- Every feature name `process_reading` can emit. -/
def featureVocabulary : List PyStr :=
  featureNamesFor .temperature 6 ++ featureNamesFor .motion 3 ++ cameraNames ++
    featureNamesFor .accelerometer 8 ++
    [pyStr "humidity_value", pyStr "light_value", pyStr "pressure_value", pyStr "gps_value",
      pyStr "unknown"]

/-- No emitted name ends with `_` followed by another emitted name. -/
theorem vocabulary_suffix_free :
    ∀ f ∈ featureVocabulary, ∀ f' ∈ featureVocabulary, ¬ (pyStr "_" ++ f') <:+ f := by
  decide

/-! ## The extraction functions -/

/-- What every record of a sensor of type `t` carries: one name per feature, names from the
vocabulary, and for the types with their own method the names their length dictates. -/
structure WellNamed {α : Type} (t : SensorType) (f : ProcessedFeatures α) : Prop where
  length_names : f.featureNames.length = f.features.length
  mem_vocabulary : ∀ n ∈ f.featureNames, n ∈ featureVocabulary
  names_for : HasOwnMethod t → f.featureNames = featureNamesFor t f.features.length

theorem wellNamed_currentRecord {α : Type} [LinearOrderedField α] (s : PyStr) (v : α) :
    WellNamed .temperature (currentRecord s v) :=
  ⟨rfl, (by decide : ∀ n ∈ [pyStr "temperature_current"], n ∈ featureVocabulary), fun _ => rfl⟩

section Extract

variable {α : Type} [LinearOrderedField α] (lib : Libraries α)

theorem temperatureFeatures_nil (W : Nat) (n : Bool) (v : α) :
    temperatureFeatures lib W n v [] =
      if W = 0 then .error .valueError
      else .ok ([if n then (v - 22) / 5 else v], [pyStr "temperature_current"]) := by
  by_cases hW : W = 0 <;> simp [temperatureFeatures, Np.amin, hW, bind, Except.bind, pure,
    Except.pure]

/-- `_process_temperature` on a non-empty window: the current value, the delta once two values
are in, the four statistics once the window is full. -/
theorem temperatureFeatures_cons (W : Nat) (n : Bool) (v x : α) (xs : List α) :
    temperatureFeatures lib W n v (x :: xs) =
      .ok ((if n then (v - 22) / 5 else v) ::
          ((if 1 ≤ xs.length then [(x :: xs).getD xs.length 0 - (x :: xs).getD (xs.length - 1) 0]
            else []) ++
          (if W ≤ xs.length + 1 then
            [Np.mean (x :: xs), Np.std lib.sqrt (x :: xs), xs.foldl min x, xs.foldl max x]
            else [])),
        pyStr "temperature_current" ::
          ((if 1 ≤ xs.length then [pyStr "temperature_delta"] else []) ++
          (if W ≤ xs.length + 1 then temperatureStatNames else []))) := by
  by_cases h2 : 1 ≤ xs.length <;> by_cases hW : W ≤ xs.length + 1 <;>
    simp [temperatureFeatures, Np.amin, Np.amax, bind, Except.bind, pure, Except.pure, h2, hW,
      temperatureStatNames, Nat.succ_le_succ_iff]

theorem temperatureFeatures_names {W : Nat} {n : Bool} {v : α} {w : List α}
    {fs : List α} {ns : List PyStr} (h : temperatureFeatures lib W n v w = .ok (fs, ns)) :
    ns = featureNamesFor .temperature fs.length ∧ ns.length = fs.length := by
  rcases w with _ | ⟨x, xs⟩
  · by_cases hW : W = 0 <;> simp only [temperatureFeatures_nil, hW, if_true, if_false,
      reduceCtorEq, Except.ok.injEq, Prod.mk.injEq] at h
    obtain ⟨rfl, rfl⟩ := h
    exact ⟨rfl, rfl⟩
  · rw [temperatureFeatures_cons, Except.ok.injEq, Prod.mk.injEq] at h
    obtain ⟨rfl, rfl⟩ := h
    by_cases h2 : 1 ≤ xs.length <;> by_cases hW : W ≤ xs.length + 1 <;>
      simp only [h2, hW, if_true, if_false, List.nil_append, List.singleton_append] <;>
      exact ⟨rfl, rfl⟩

/-- The number of features of a temperature record read off a window of `m` values, for
`window_size = W`. -/
def temperatureLength (W m : Nat) : Nat :=
  1 + (if 2 ≤ m then 1 else 0) + (if W ≤ m then 4 else 0)

/-- On a non-empty window, `_process_temperature` returns, with the names its length dictates. -/
theorem temperatureFeatures_ok (W : Nat) (n : Bool) (v : α) {w : List α} (hw : w ≠ []) :
    ∃ fs, temperatureFeatures lib W n v w = .ok (fs, featureNamesFor .temperature fs.length) ∧
      fs.length = temperatureLength W w.length := by
  obtain ⟨x, xs, rfl⟩ := List.exists_cons_of_ne_nil hw
  rcases hres : temperatureFeatures lib W n v (x :: xs) with e | ⟨fs, ns⟩
  · rw [temperatureFeatures_cons] at hres; cases hres
  · obtain ⟨rfl, -⟩ := temperatureFeatures_names lib hres
    refine ⟨fs, rfl, ?_⟩
    rw [temperatureFeatures_cons, Except.ok.injEq, Prod.mk.injEq] at hres
    rw [← hres.1]
    by_cases h2 : 1 ≤ xs.length <;> by_cases hW : W ≤ xs.length + 1 <;>
      simp [temperatureLength, h2, hW]

theorem motionFeatures_names {W : Nat} {d : Bool} {t : Except PyError α} {w : List α}
    {fs : List α} {ns : List PyStr} (h : motionFeatures W d t w = .ok (fs, ns)) :
    ns = featureNamesFor .motion fs.length ∧ ns.length = fs.length := by
  by_cases hW : W ≤ w.length
  · rcases d with _ | _ <;> rcases t with e | t <;>
      simp [motionFeatures, hW, bind, Except.bind, pure, Except.pure] at h <;>
      (obtain ⟨rfl, rfl⟩ := h; exact ⟨rfl, rfl⟩)
  · simp [motionFeatures, hW, pure, Except.pure] at h
    obtain ⟨rfl, rfl⟩ := h
    exact ⟨rfl, rfl⟩

theorem accelerometerFeatures_names {x y z m : α} {cells : List (Cell α)}
    {fs : List α} {ns : List PyStr} (h : accelerometerFeatures lib x y z m cells = .ok (fs, ns)) :
    ns = featureNamesFor .accelerometer fs.length ∧ ns.length = fs.length := by
  by_cases h3 : 3 ≤ cells.length
  · rcases hr : axesRows cells with e | rows <;>
      simp [accelerometerFeatures, h3, hr, bind, Except.bind, pure, Except.pure] at h
    obtain ⟨rfl, rfl⟩ := h
    exact ⟨rfl, rfl⟩
  · simp [accelerometerFeatures, h3, pure, Except.pure] at h
    obtain ⟨rfl, rfl⟩ := h
    exact ⟨rfl, rfl⟩

theorem featureNamesFor_mem_vocabulary (t : SensorType) (n : Nat) :
    ∀ x ∈ featureNamesFor t n, x ∈ featureVocabulary := by
  unfold featureNamesFor
  split <;> decide

/-! ## One call of `process_reading` -/

omit [LinearOrderedField α] in
theorem final_windowed (r : SensorReading α) (cell : Cell α)
    (extract : SensorPreprocessor α → List (Cell α) → Except PyError (List α × List PyStr))
    (p : SensorPreprocessor α) :
    final (windowed r cell extract p) = p.appendWindow r.sensorId cell := by
  rw [windowed_apply]
  split <;> rfl

/-- The cell `process_reading` appends to the reading's window, if it gets that far. -/
def appendedCell (r : SensorReading α) : Option (Cell α) :=
  match r.sensorType with
  | .temperature => match r.value.toFloat with
    | .ok v => some (.scalar v)
    | .error _ => none
  | .motion => match r.value.truth with
    | .ok b => some (.scalar (boolToFloat b))
    | .error _ => none
  | .accelerometer => match r.value with
    | .dict d =>
      let (x, y, z) := axesOf d
      some (.axes x y z (lib.sqrt (x ^ 2 + y ^ 2 + z ^ 2)))
    | _ => none
  | _ => none

/-- The step: `process_reading` creates the reading's window if missing and appends
`appendedCell` to it, whether it then returns or raises. -/
theorem final_processReading (r : SensorReading α) (p : SensorPreprocessor α) :
    final (processReading lib r p) =
      match appendedCell lib r with
      | some c => (p.ensureWindow r.sensorId).appendWindow r.sensorId c
      | none => p.ensureWindow r.sensorId := by
  simp only [processReading, Py.bind_apply, Py.modify_apply]
  cases ht : r.sensorType <;> simp only [appendedCell, ht, Py.final_map, Py.pure_apply]
  · simp only [processTemperature, Py.bind_apply]
    rcases r.value.toFloat with e | v
    · rfl
    · simp only [Py.ofExcept_ok]; exact final_windowed ..
  · simp only [processMotion, Py.bind_apply]
    rcases r.value.truth with e | b
    · rfl
    · simp only [Py.ofExcept_ok]; exact final_windowed ..
  · simp only [processCamera]
    rcases r.value with x | b | d | f | _ <;> try rfl
    simp only [Py.bind_apply]
    rcases lib.vision f with e | st
    · rfl
    · rcases r.metadata with _ | md <;> rfl
  all_goals try rfl
  · simp only [processAccelerometer]
    rcases r.value with x | b | d | f | _ <;> try rfl
    exact (Py.final_map _ _ _).trans (final_windowed ..)

/-! ## Temperature and motion steps -/

omit [LinearOrderedField α] in
/-- Appending to a window of numbers keeps it a window of numbers: the last `window_size`. -/
theorem window_append_scalars (p : SensorPreprocessor α) (k : PyStr) (xs : List α) (v : α)
    (hw : (p.window k).items = xs.map .scalar) :
    ((p.window k).append (.scalar v)).items = ((xs ++ [v]).rtake p.windowSize).map .scalar := by
  rw [Deque.items_append, hw, SensorPreprocessor.maxlen_window, ← Deque.rtake_map]
  simp

/-- A temperature reading with a numeric value, on a window of numbers `xs`. -/
theorem processReading_temperature {r : SensorReading α} (ht : r.sensorType = .temperature)
    {v : α} (hv : r.value.toFloat = .ok v) (p : SensorPreprocessor α) (xs : List α)
    (hw : (p.window r.sensorId).items = xs.map .scalar) :
    processReading lib r p =
      match temperatureFeatures lib p.windowSize p.normalize v ((xs ++ [v]).rtake p.windowSize) with
      | .ok (fs, ns) => .ok (some ⟨fs, ns, r.timestamp, r.sensorId⟩)
          ((p.ensureWindow r.sensorId).appendWindow r.sensorId (.scalar v))
      | .error e => .error e ((p.ensureWindow r.sensorId).appendWindow r.sensorId (.scalar v)) := by
  simp only [processReading, processTemperature, ht, hv, Py.bind_apply, Py.modify_apply,
    Py.map_apply, Py.ofExcept_ok, windowed_apply, SensorPreprocessor.window_ensureWindow,
    SensorPreprocessor.windowSize_appendWindow, SensorPreprocessor.windowSize_ensureWindow,
    SensorPreprocessor.normalize_appendWindow, SensorPreprocessor.normalize_ensureWindow,
    window_append_scalars p r.sensorId xs v hw, scalars_map, except_ok_bind]
  rcases temperatureFeatures lib p.windowSize p.normalize v ((xs ++ [v]).rtake p.windowSize)
    with e | ⟨fs, ns⟩ <;> rfl

/-- A motion reading whose value has a truth value, on a window of numbers `xs`. -/
theorem processReading_motion {r : SensorReading α} (ht : r.sensorType = .motion)
    {b : Bool} (hv : r.value.truth = .ok b) (p : SensorPreprocessor α) (xs : List α)
    (hw : (p.window r.sensorId).items = xs.map .scalar) :
    processReading lib r p =
      match motionFeatures p.windowSize b (timeSinceMotion r)
          ((xs ++ [boolToFloat b]).rtake p.windowSize) with
      | .ok (fs, ns) => .ok (some ⟨fs, ns, r.timestamp, r.sensorId⟩)
          ((p.ensureWindow r.sensorId).appendWindow r.sensorId (.scalar (boolToFloat b)))
      | .error e => .error e
          ((p.ensureWindow r.sensorId).appendWindow r.sensorId (.scalar (boolToFloat b))) := by
  simp only [processReading, processMotion, ht, hv, Py.bind_apply, Py.modify_apply,
    Py.map_apply, Py.ofExcept_ok, windowed_apply, SensorPreprocessor.window_ensureWindow,
    SensorPreprocessor.windowSize_appendWindow, SensorPreprocessor.windowSize_ensureWindow,
    window_append_scalars p r.sensorId xs _ hw, scalars_map, except_ok_bind]
  generalize motionFeatures p.windowSize b (timeSinceMotion r)
    ((xs ++ [boolToFloat b]).rtake p.windowSize) = m
  rcases m with e | ⟨fs, ns⟩ <;> rfl

/-! ## The records `process_reading` returns -/

omit [LinearOrderedField α] in
theorem windowed_eq_ok {r : SensorReading α} {cell : Cell α}
    {extract : SensorPreprocessor α → List (Cell α) → Except PyError (List α × List PyStr)}
    {p p' : SensorPreprocessor α} {f : ProcessedFeatures α}
    (h : windowed r cell extract p = .ok f p') :
    ∃ fs ns, extract (p.appendWindow r.sensorId cell) ((p.window r.sensorId).append cell).items =
      .ok (fs, ns) ∧ f = ⟨fs, ns, r.timestamp, r.sensorId⟩ := by
  rw [windowed_apply] at h
  split at h
  · cases h
  · rename_i fs ns hx
    cases h
    exact ⟨fs, ns, hx, rfl⟩

/-- The names of a record of one of the four types with a method of their own. -/
def NamedFor (t : SensorType) (r : SensorReading α) (f : ProcessedFeatures α) : Prop :=
  f.sensorId = r.sensorId ∧ f.featureNames = featureNamesFor t f.features.length ∧
    f.featureNames.length = f.features.length

theorem processTemperature_named {r : SensorReading α} {q q' : SensorPreprocessor α}
    {f : ProcessedFeatures α} (h : processTemperature lib r q = .ok f q') :
    NamedFor .temperature r f := by
  simp only [processTemperature, Py.bind_apply] at h
  rcases hv : r.value.toFloat with e | v <;> rw [hv] at h
  · simp at h
  · obtain ⟨fs, ns, hx, rfl⟩ := windowed_eq_ok h
    obtain ⟨w, -, hw⟩ := except_bind_eq_ok hx
    exact ⟨rfl, temperatureFeatures_names lib hw⟩

theorem processMotion_named {r : SensorReading α} {q q' : SensorPreprocessor α}
    {f : ProcessedFeatures α} (h : processMotion r q = .ok f q') : NamedFor .motion r f := by
  simp only [processMotion, Py.bind_apply] at h
  rcases hv : r.value.truth with e | b <;> rw [hv] at h
  · simp at h
  · obtain ⟨fs, ns, hx, rfl⟩ := windowed_eq_ok h
    obtain ⟨w, -, hw⟩ := except_bind_eq_ok hx
    exact ⟨rfl, motionFeatures_names hw⟩

omit [LinearOrderedField α] in
theorem processCamera_named {r : SensorReading α} {q q' : SensorPreprocessor α}
    {f : ProcessedFeatures α} (h : processCamera lib r q = .ok (some f) q') :
    NamedFor .camera r f := by
  unfold processCamera at h
  rcases hv : r.value with x | b | d | fr | _ <;> rw [hv] at h <;> try (simp at h; done)
  simp only [Py.bind_apply] at h
  rcases hc : lib.vision fr with e | st <;> rw [hc] at h
  · simp at h
  · rcases hm : r.metadata with _ | md <;> rw [hm] at h
    · simp at h
    · simp only [Py.ofExcept_ok, Py.pure_apply, EStateM.Result.ok.injEq, Option.some.injEq] at h
      obtain ⟨rfl, -⟩ := h
      exact ⟨rfl, rfl, rfl⟩

theorem processAccelerometer_named {r : SensorReading α} {q q' : SensorPreprocessor α}
    {f : ProcessedFeatures α} (h : processAccelerometer lib r q = .ok (some f) q') :
    NamedFor .accelerometer r f := by
  unfold processAccelerometer at h
  rcases hv : r.value with x | b | d | fr | _ <;> rw [hv] at h <;> try (simp at h; done)
  obtain ⟨fs, ns, hx, rfl⟩ := windowed_eq_ok (Py.map_eq_ok (Option.some_injective _) h)
  exact ⟨rfl, accelerometerFeatures_names lib hx⟩

/-- The records: every record `process_reading` returns is its reading's sensor's, and
`WellNamed` for the reading's type. -/
theorem processReading_wellNamed {r : SensorReading α} {p p' : SensorPreprocessor α}
    {f : ProcessedFeatures α} (h : processReading lib r p = .ok (some f) p') :
    f.sensorId = r.sensorId ∧ WellNamed r.sensorType f := by
  have own : ∀ t, NamedFor t r f → r.sensorType = t →
      f.sensorId = r.sensorId ∧ WellNamed t f := by
    rintro t ⟨hid, hn, hl⟩ rfl
    exact ⟨hid, hl, fun n hn' => featureNamesFor_mem_vocabulary _ _ n (hn ▸ hn'), fun _ => hn⟩
  simp only [processReading, Py.bind_apply, Py.modify_apply] at h
  cases ht : r.sensorType <;> simp only [ht, Py.pure_apply] at h
  · exact own _ (processTemperature_named lib (Py.map_eq_ok (Option.some_injective _) h)) ht
  · exact own _ (processMotion_named (Py.map_eq_ok (Option.some_injective _) h)) ht
  · exact own _ (processCamera_named lib h) ht
  all_goals first
    | exact own _ (processAccelerometer_named lib h) ht
    | simp only [EStateM.Result.ok.injEq, Option.some.injEq] at h
      obtain ⟨rfl, -⟩ := h
      refine ⟨by unfold processGeneric; split <;> rfl, ?_, ?_, ?_⟩
      · unfold processGeneric; split <;> rfl
      · unfold processGeneric; split <;> simp [ht, SensorType.value] <;> decide
      · simp [HasOwnMethod, ht]

end Extract

end EdgeAI
