import EdgeAI.Preprocess.Records

/-!
# Readings one after another: the callback loop and `process_batch`

`_notify_callbacks` hands each reading to `_on_sensor_data`, which calls `process_reading` once;
what the call raises is caught and printed, and the preprocessor state the call leaves goes on to
the next reading (`streamReadings`). `processEach` is the batch as the spec describes it:
`process_reading` once per reading, in order, keeping the results that are not `None`.

Two runs on fixed inputs show where the code parts from both:

* `process_batch` calls `process_reading` twice for each reading it keeps, so every value enters
  its window twice and the records read doubled windows;
* a motion reading without metadata raises after its value entered the window, so a later record
  of the sensor reads a value that no returned record carried.
-/

namespace EdgeAI

section Stream

variable {α : Type} [LinearOrderedField α] (lib : Libraries α)

/-- The batch of the spec: `process_reading` once on each reading, in order, keeping the records
that are not `None`. -/
def processEach : List (SensorReading α) →
    Py (SensorPreprocessor α) (List (Option (ProcessedFeatures α)))
  | [] => pure []
  | r :: rs => do
    match ← processReading lib r with
    | none => processEach rs
    | some f => do
      let fs ← processEach rs
      pure (some f :: fs)

/-- What `process_reading` returns or raises for each reading of a stream, each call starting
from the state the previous one left. -/
def streamReadings : SensorPreprocessor α → List (SensorReading α) →
    List (Except PyError (Option (ProcessedFeatures α)))
  | _, [] => []
  | p, r :: rs => returned (processReading lib r p) :: streamReadings (final (processReading lib r p)) rs

/-! ## Calls on a window of numbers -/

omit [LinearOrderedField α] in
/-- A call that appends the number `v` to the window `k` of numbers `xs`. -/
theorem window_scalar_step {p : SensorPreprocessor α} {k : PyStr} {xs : List α} (v : α)
    (hw : (p.window k).items = xs.map .scalar) :
    (((p.ensureWindow k).appendWindow k (.scalar v)).window k).items =
      ((xs ++ [v]).rtake p.windowSize).map .scalar := by
  simpa using window_append_scalars p k xs v hw

/-- A temperature call that returns: its record, and the window of numbers `ys` it leaves. -/
theorem temperature_call (r : SensorReading α) (ht : r.sensorType = .temperature) (v : α)
    (hv : r.value.toFloat = .ok v) (p : SensorPreprocessor α) (xs ys : List α)
    (hw : (p.window r.sensorId).items = xs.map .scalar) (hys : (xs ++ [v]).rtake p.windowSize = ys)
    (fs : List α) (ns : List PyStr)
    (hf : temperatureFeatures lib p.windowSize p.normalize v ys = .ok (fs, ns)) :
    ∃ p', processReading lib r p = .ok (some ⟨fs, ns, r.timestamp, r.sensorId⟩) p' ∧
      (p'.window r.sensorId).items = ys.map .scalar ∧
      p'.windowSize = p.windowSize ∧ p'.normalize = p.normalize := by
  subst hys
  refine ⟨_, ?_, window_scalar_step v hw, by simp, by simp⟩
  rw [processReading_temperature lib ht hv p xs hw, hf]

/-- A motion call, whether it returns or raises: the window of numbers `ys` it leaves holds the
reading's value either way. -/
theorem motion_call (r : SensorReading α) (ht : r.sensorType = .motion) (b : Bool)
    (hv : r.value.truth = .ok b) (p : SensorPreprocessor α) (xs ys : List α)
    (hw : (p.window r.sensorId).items = xs.map .scalar)
    (hys : (xs ++ [boolToFloat b]).rtake p.windowSize = ys)
    (o : Except PyError (List α × List PyStr))
    (ho : motionFeatures p.windowSize b (timeSinceMotion r) ys = o) :
    ∃ p', processReading lib r p =
        (match o with
        | .ok (fs, ns) => .ok (some ⟨fs, ns, r.timestamp, r.sensorId⟩) p'
        | .error e => .error e p') ∧
      (p'.window r.sensorId).items = ys.map .scalar ∧ p'.windowSize = p.windowSize := by
  subst hys ho
  exact ⟨_, processReading_motion lib ht hv p xs hw, window_scalar_step _ hw, by simp⟩

/-! ## Temperature sensors against their histories -/

/-- What the spec's preprocessor computes for temperature sensors: each sensor keeps the history
of the values it accepted, and a reading's record is read off the last `window_size` of them. -/
def temperatureHistory (W : Nat) (n : Bool) : (PyStr → List α) → List (SensorReading α) →
    List (Except PyError (Option (ProcessedFeatures α)))
  | _, [] => []
  | h, r :: rs =>
    match r.value.toFloat with
    | .error e => .error e :: temperatureHistory W n h rs
    | .ok v =>
      ((temperatureFeatures lib W n v ((h r.sensorId ++ [v]).rtake W)).map
          fun (fs, ns) => some ⟨fs, ns, r.timestamp, r.sensorId⟩) ::
        temperatureHistory W n (Function.update h r.sensorId (h r.sensorId ++ [v])) rs

/-- A temperature reading whose value does not convert raises before it touches its window. -/
theorem processReading_temperature_error {r : SensorReading α} (ht : r.sensorType = .temperature)
    {e : PyError} (hv : r.value.toFloat = .error e) (p : SensorPreprocessor α) :
    processReading lib r p = .error e (p.ensureWindow r.sensorId) := by
  simp only [processReading, processTemperature, ht, hv, Py.bind_apply, Py.modify_apply,
    Py.map_apply, Py.ofExcept_error]

/-- The simulation: on temperature readings, each deque of `feature_windows` holds the last
`window_size` values of its sensor's history, and every call returns the record the history
gives, whatever the interleaving of sensors. -/
theorem streamReadings_temperature :
    ∀ {p : SensorPreprocessor α} {h : PyStr → List α} (rs : List (SensorReading α)),
      (∀ k, (p.window k).items = ((h k).rtake p.windowSize).map .scalar) →
      (∀ r ∈ rs, r.sensorType = .temperature) →
      streamReadings lib p rs = temperatureHistory lib p.windowSize p.normalize h rs
  | _, _, [], _, _ => rfl
  | p, h, r :: rs, hw, hrs => by
    have ht := hrs r (List.mem_cons_self _ _)
    have hrs' := fun r' hr' => hrs r' (List.mem_cons_of_mem _ hr')
    cases hv : r.value.toFloat with
    | error e =>
      simp only [streamReadings, temperatureHistory, hv,
        processReading_temperature_error lib ht hv, returned_error, final_error]
      rw [streamReadings_temperature rs (fun k => by simpa using hw k) hrs']
      simp
    | ok v =>
      have hp := processReading_temperature lib ht hv p _ (hw r.sensorId)
      rw [Deque.rtake_append_rtake] at hp
      have hw' : ∀ k, (((p.ensureWindow r.sensorId).appendWindow r.sensorId (.scalar v)).window
          k).items = ((Function.update h r.sensorId (h r.sensorId ++ [v]) k).rtake
            ((p.ensureWindow r.sensorId).appendWindow r.sensorId (.scalar v)).windowSize).map
            .scalar := by
        intro k
        by_cases hk : k = r.sensorId
        · subst hk
          simpa [Deque.rtake_append_rtake] using window_scalar_step v (hw r.sensorId)
        · simpa [hk] using hw k
      have ih := streamReadings_temperature rs hw' hrs'
      simp only [SensorPreprocessor.windowSize_appendWindow,
        SensorPreprocessor.windowSize_ensureWindow, SensorPreprocessor.normalize_appendWindow,
        SensorPreprocessor.normalize_ensureWindow] at ih
      simp only [streamReadings, temperatureHistory, hv, hp]
      generalize temperatureFeatures lib p.windowSize p.normalize v
        ((h r.sensorId ++ [v]).rtake p.windowSize) = X
      rcases X with e | ⟨fs, ns⟩ <;> simp only [returned_ok, returned_error, final_ok,
        final_error, ih] <;> rfl

/-- The readings of one temperature sensor `k` with the values and timestamps `vs`. -/
def temperatureReadings (k : PyStr) (vs : List (α × α)) : List (SensorReading α) :=
  vs.map fun (x, ts) => ⟨k, .temperature, ts, .num x, none⟩

/-- One temperature sensor: every reading gives a record, with a name per feature, and the
`i`-th has the number of features of a window of `min (m + i + 1) W` values, `m` the values
already in the history. -/
theorem temperatureHistory_records (W : Nat) (hW : 0 < W) (n : Bool) (k : PyStr) :
    ∀ (vs : List (α × α)) (h : PyStr → List α), ∃ recs : List (ProcessedFeatures α),
      temperatureHistory lib W n h (temperatureReadings k vs) = recs.map (.ok ∘ some) ∧
      recs.map (·.features.length) =
        (List.range vs.length).map (fun i => temperatureLength W (min ((h k).length + i + 1) W)) ∧
      ∀ f ∈ recs, f.sensorId = k ∧ f.featureNames.length = f.features.length
  | [], _ => ⟨[], rfl, rfl, fun _ h => absurd h (List.not_mem_nil _)⟩
  | (x, ts) :: vs, h => by
    obtain ⟨fs, hfs, hlen⟩ := temperatureFeatures_ok lib W n x
      (w := (h k ++ [x]).rtake W) (by simp [List.rtake]; omega)
    obtain ⟨recs, hrecs, hlens, hall⟩ :=
      temperatureHistory_records W hW n k vs (Function.update h k (h k ++ [x]))
    refine ⟨⟨fs, featureNamesFor .temperature fs.length, ts, k⟩ :: recs, ?_, ?_, ?_⟩
    · simp only [temperatureReadings, List.map_cons, temperatureHistory, Value.toFloat, hfs,
        List.map_cons]
      rw [← hrecs]
      rfl
    · rw [List.map_cons, hlens, List.length_cons, List.range_succ_eq_map, List.map_cons,
        List.map_map]
      simp only [Function.update_same, List.length_append, List.length_singleton, hlen,
        List.rtake, List.length_drop]
      congr 2
      · omega
      · funext i
        simp only [Function.comp_apply]
        congr 2
        omega
    · rintro f (_ | ⟨_, hf⟩)
      · exact ⟨rfl, (temperatureFeatures_names lib hfs).2⟩
      · exact hall f hf

/-! ## `process_batch` -/

/-- A temperature reading of the sensor `"t"`. -/
def temperatureAt (x ts : α) : SensorReading α := ⟨pyStr "t", .temperature, ts, .num x, none⟩

/-- `process_batch` on two temperature readings of one sensor: both records read a window in which
every value stands twice, where the sequential run reads each value once. -/
theorem processBatch_appends_twice :
    let rs : List (SensorReading α) := [temperatureAt 20 0, temperatureAt 24 1]
    let names := [pyStr "temperature_current", pyStr "temperature_delta"]
    returned (processBatch lib rs (.init 10 true)) =
        .ok [some ⟨[-2 / 5, 0], names, 0, pyStr "t"⟩, some ⟨[2 / 5, 0], names, 1, pyStr "t"⟩] ∧
      ((final (processBatch lib rs (.init 10 true))).window (pyStr "t")).items =
        [20, 20, 24, 24].map .scalar ∧
      returned (processEach lib rs (.init 10 true)) =
        .ok [some ⟨[-2 / 5], [pyStr "temperature_current"], 0, pyStr "t"⟩,
          some ⟨[2 / 5, 4], names, 1, pyStr "t"⟩] ∧
      ((final (processEach lib rs (.init 10 true))).window (pyStr "t")).items =
        [20, 24].map .scalar := by
  obtain ⟨p1, e1, w1, W1, n1⟩ := temperature_call lib (temperatureAt 20 0) rfl 20 rfl
    (.init 10 true) [] [20] rfl rfl [-2 / 5] [pyStr "temperature_current"]
    (by norm_num [temperatureFeatures_cons])
  -- the batch: each reading goes through `process_reading` twice
  obtain ⟨p2, e2, w2, W2, n2⟩ := temperature_call lib (temperatureAt 20 0) rfl 20 rfl
    p1 [20] [20, 20] w1 (by rw [W1]; rfl) [-2 / 5, 0]
    [pyStr "temperature_current", pyStr "temperature_delta"]
    (by rw [W1, n1]; norm_num [temperatureFeatures_cons])
  obtain ⟨p3, e3, w3, W3, n3⟩ := temperature_call lib (temperatureAt 24 1) rfl 24 rfl
    p2 [20, 20] [20, 20, 24] w2 (by rw [W2, W1]; rfl) [2 / 5, 4]
    [pyStr "temperature_current", pyStr "temperature_delta"]
    (by rw [W2, n2, W1, n1]; norm_num [temperatureFeatures_cons])
  obtain ⟨p4, e4, w4, -, -⟩ := temperature_call lib (temperatureAt 24 1) rfl 24 rfl
    p3 [20, 20, 24] [20, 20, 24, 24] w3 (by rw [W3, W2, W1]; rfl) [2 / 5, 0]
    [pyStr "temperature_current", pyStr "temperature_delta"]
    (by rw [W3, n3, W2, n2, W1, n1]; norm_num [temperatureFeatures_cons])
  -- the sequential run: once each
  obtain ⟨q2, f2, v2, -, -⟩ := temperature_call lib (temperatureAt 24 1) rfl 24 rfl
    p1 [20] [20, 24] w1 (by rw [W1]; rfl) [2 / 5, 4]
    [pyStr "temperature_current", pyStr "temperature_delta"]
    (by rw [W1, n1]; norm_num [temperatureFeatures_cons])
  simp only [processBatch, processEach, Py.bind_apply, Py.pure_apply, e1, e2, e3, e4, f2]
  exact ⟨rfl, w4, rfl, v2⟩
/-! ## A motion reading without metadata -/

/-- A motion reading of the sensor `"m"`. -/
def motionAt (b : Bool) (metadata : Option (PyDict α)) (ts : α) : SensorReading α :=
  ⟨pyStr "m", .motion, ts, .bool b, metadata⟩

/-- With `window_size = 2`, a reading with no motion and no metadata raises once its `0` is in the
window; the next record's frequency then counts that `0`, where the two returned readings both
saw motion. -/
theorem motion_raise_keeps_value :
    streamReadings lib (.init 2 false)
        [motionAt true (some .empty) 0, motionAt false none 1, motionAt true (some .empty) 2] =
      [.ok (some ⟨[1], [pyStr "motion_current"], 0, pyStr "m"⟩), .error .attributeError,
        .ok (some ⟨[1, 1 / 2, 0], featureNamesFor .motion 3, 2, pyStr "m"⟩)] ∧
    motionFeatures 2 true (timeSinceMotion (motionAt true (some .empty) 2)) ([1, 1] : List α) =
      .ok ([1, 1, 0], featureNamesFor .motion 3) := by
  obtain ⟨p1, e1, w1, W1⟩ := motion_call lib (motionAt true (some .empty) 0) rfl true rfl
    (.init 2 false) [] [1] rfl rfl (.ok ([1], [pyStr "motion_current"]))
    (by norm_num [motionFeatures, boolToFloat, pure, Except.pure])
  obtain ⟨p2, e2, w2, W2⟩ := motion_call lib (motionAt false none 1) rfl false rfl
    p1 [1] [1, 0] w1 (by rw [W1]; rfl) (.error .attributeError)
    (by rw [W1]; rfl)
  obtain ⟨p3, e3, -, -⟩ := motion_call lib (motionAt true (some .empty) 2) rfl true rfl
    p2 [1, 0] [0, 1] w2 (by rw [W2, W1]; rfl)
    (.ok ([1, 1 / 2, 0], [pyStr "motion_current", pyStr "motion_frequency",
      pyStr "time_since_motion"]))
    (by rw [W2, W1]; norm_num [motionFeatures, boolToFloat, pure, Except.pure])
  refine ⟨?_, by norm_num [motionFeatures, boolToFloat, pure, Except.pure, featureNamesFor]⟩
  simp only [streamReadings, e1, e2, e3, final_ok, final_error, returned_ok, returned_error]
  rfl

end Stream

end EdgeAI
