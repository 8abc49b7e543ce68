import EdgeAI.Sensor.Reading

/-!
# `SensorPreprocessor`: feature extraction with per-sensor windows

`process_reading` makes sure the reading's sensor has a window, then dispatches on the sensor
type. Temperature and motion append the reading's number to the window and read their temporal
features off it; the accelerometer appends the row `[x, y, z, magnitude]`; the camera reads the
frame alone; any other type passes a number through.

The order of effects is the source's: a method appends to the window before it computes what may
still raise, so a raising reading can leave its value behind. `np.array(list(window))` of a window
that mixes numbers and rows raises `ValueError`, which only a sensor id shared between sensor
types can bring about.

`ProcessedFeatures.context` is left out: nothing downstream reads it. Only the temperature entry
of `self.stats` is read (mean `22`, std `5`).
-/

namespace EdgeAI

/-- An item of a feature window: a temperature or motion value, or an accelerometer row. -/
inductive Cell (α : Type) where
  | scalar (x : α)
  | axes (x y z magnitude : α)

/-- `ProcessedFeatures`. -/
structure ProcessedFeatures (α : Type) where
  features : List α
  featureNames : List PyStr
  timestamp : α
  sensorId : PyStr
deriving DecidableEq

/-- `SensorPreprocessor`: every window is a deque of `maxlen = window_size`. -/
structure SensorPreprocessor (α : Type) where
  windowSize : Nat
  normalize : Bool
  featureWindows : PyDict (Deque (Cell α))
  maxlen_eq : ∀ k d, featureWindows.get? k = some d → d.maxlen = windowSize

namespace SensorPreprocessor

variable {α : Type}

/-- `SensorPreprocessor(window_size, normalize)`. -/
def init (windowSize : Nat) (normalize : Bool) : SensorPreprocessor α :=
  ⟨windowSize, normalize, .empty, by simp⟩

/-- `self.feature_windows[sensor_id]`, read as a fresh deque where there is none yet. -/
def window (p : SensorPreprocessor α) (k : PyStr) : Deque (Cell α) :=
  (p.featureWindows.get? k).getD (.empty p.windowSize)

theorem maxlen_window (p : SensorPreprocessor α) (k : PyStr) :
    (p.window k).maxlen = p.windowSize := by
  unfold window
  cases h : p.featureWindows.get? k
  · rfl
  · exact p.maxlen_eq k _ h

theorem maxlen_eq_set (p : SensorPreprocessor α) (k : PyStr) (d : Deque (Cell α))
    (hd : d.maxlen = p.windowSize) :
    ∀ k' d', (p.featureWindows.set k d).get? k' = some d' → d'.maxlen = p.windowSize := by
  intro k' d' h
  rw [PyDict.get?_set] at h
  split at h
  · cases h; exact hd
  · exact p.maxlen_eq k' d' h

/-- `if sensor_id not in self.feature_windows: self.feature_windows[sensor_id] = deque(...)`. -/
def ensureWindow (p : SensorPreprocessor α) (k : PyStr) : SensorPreprocessor α :=
  if (p.featureWindows.get? k).isSome then p
  else { p with
    featureWindows := p.featureWindows.set k (.empty p.windowSize)
    maxlen_eq := p.maxlen_eq_set k _ rfl }

/-- `self.feature_windows[sensor_id].append(x)`. -/
def appendWindow (p : SensorPreprocessor α) (k : PyStr) (x : Cell α) : SensorPreprocessor α :=
  { p with
    featureWindows := p.featureWindows.set k ((p.window k).append x)
    maxlen_eq := p.maxlen_eq_set k _ (by simp [maxlen_window]) }

@[simp] theorem windowSize_init (W : Nat) (n : Bool) : (init W n : SensorPreprocessor α).windowSize = W :=
  rfl

@[simp] theorem normalize_init (W : Nat) (n : Bool) : (init W n : SensorPreprocessor α).normalize = n :=
  rfl

@[simp] theorem window_init (W : Nat) (n : Bool) (k : PyStr) :
    (init W n : SensorPreprocessor α).window k = .empty W := rfl

@[simp] theorem windowSize_ensureWindow (p : SensorPreprocessor α) (k : PyStr) :
    (p.ensureWindow k).windowSize = p.windowSize := by
  unfold ensureWindow; split <;> rfl

@[simp] theorem normalize_ensureWindow (p : SensorPreprocessor α) (k : PyStr) :
    (p.ensureWindow k).normalize = p.normalize := by
  unfold ensureWindow; split <;> rfl

/-- Creating a missing window changes no window as `window` reads it. -/
@[simp] theorem window_ensureWindow (p : SensorPreprocessor α) (k k' : PyStr) :
    (p.ensureWindow k).window k' = p.window k' := by
  unfold ensureWindow
  split
  · rfl
  · rename_i h
    simp only [window, PyDict.get?_set]
    split
    · subst k'; simp_all
    · rfl

@[simp] theorem windowSize_appendWindow (p : SensorPreprocessor α) (k : PyStr) (x : Cell α) :
    (p.appendWindow k x).windowSize = p.windowSize := rfl

@[simp] theorem normalize_appendWindow (p : SensorPreprocessor α) (k : PyStr) (x : Cell α) :
    (p.appendWindow k x).normalize = p.normalize := rfl

@[simp] theorem window_appendWindow (p : SensorPreprocessor α) (k k' : PyStr) (x : Cell α) :
    (p.appendWindow k x).window k' = if k' = k then (p.window k).append x else p.window k' := by
  simp only [appendWindow, window, PyDict.get?_set]
  split <;> rfl

end SensorPreprocessor

/-! ## Windows as arrays, and the shape of the windowed methods -/

section Arrays

variable {α : Type}

/-- `np.array(list(window))` of a temperature or motion window. -/
def scalars : List (Cell α) → Except PyError (List α)
  | [] => .ok []
  | .scalar x :: cs => match scalars cs with
    | .ok xs => .ok (x :: xs)
    | .error e => .error e
  | .axes .. :: _ => .error .valueError

/-- `np.array(list(window))` of an accelerometer window: its rows. -/
def axesRows : List (Cell α) → Except PyError (List (List α))
  | [] => .ok []
  | .axes x y z m :: cs => match axesRows cs with
    | .ok rows => .ok ([x, y, z, m] :: rows)
    | .error e => .error e
  | .scalar _ :: _ => .error .valueError

/-- `np.diff(rows, axis=0)`. -/
def diffRows [Sub α] (rows : List (List α)) : List (List α) :=
  List.zipWith (List.zipWith (· - ·)) rows.tail rows

@[simp] theorem scalars_map (xs : List α) : scalars (xs.map Cell.scalar) = .ok xs := by
  induction xs with
  | nil => rfl
  | cons x xs ih => simp [scalars, ih]

/-- What `_process_temperature`, `_process_motion` and `_process_accelerometer` share: append
`cell` to the reading's window, then read the features off the window, which may raise. -/
def windowed (r : SensorReading α) (cell : Cell α)
    (extract : SensorPreprocessor α → List (Cell α) → Except PyError (List α × List PyStr)) :
    Py (SensorPreprocessor α) (ProcessedFeatures α) := do
  modify (·.appendWindow r.sensorId cell)
  let p ← get
  let (features, names) ← Py.ofExcept (extract p (p.window r.sensorId).items)
  pure ⟨features, names, r.timestamp, r.sensorId⟩

theorem windowed_apply (r : SensorReading α) (cell : Cell α)
    (extract : SensorPreprocessor α → List (Cell α) → Except PyError (List α × List PyStr))
    (p : SensorPreprocessor α) :
    windowed r cell extract p =
      match extract (p.appendWindow r.sensorId cell) ((p.window r.sensorId).append cell).items with
      | .error e => .error e (p.appendWindow r.sensorId cell)
      | .ok (fs, ns) => .ok ⟨fs, ns, r.timestamp, r.sensorId⟩ (p.appendWindow r.sensorId cell) := by
  simp only [windowed, Py.bind_apply, Py.get_apply, Py.modify_apply,
    SensorPreprocessor.window_appendWindow, if_true]
  rcases extract (p.appendWindow r.sensorId cell) ((p.window r.sensorId).append cell).items
    with e | ⟨fs, ns⟩ <;> rfl

end Arrays

/-! ## The extraction methods -/

section Extract

variable {α : Type} [LinearOrderedField α] (lib : Libraries α)

/-- The features `_process_temperature` reads off the window array `w` for the value `value`. -/
def temperatureFeatures (windowSize : Nat) (normalize : Bool) (value : α) (w : List α) :
    Except PyError (List α × List PyStr) := do
  let current := if normalize then (value - 22) / 5 else value
  let delta : List α × List PyStr :=
    if 2 ≤ w.length then
      ([w.getD (w.length - 1) 0 - w.getD (w.length - 2) 0], [pyStr "temperature_delta"])
    else ([], [])
  let stats ← if windowSize ≤ w.length then do
      let lo ← Np.amin w
      let hi ← Np.amax w
      pure ([Np.mean w, Np.std lib.sqrt w, lo, hi],
        [pyStr "temperature_mean", pyStr "temperature_std", pyStr "temperature_min",
          pyStr "temperature_max"])
    else pure ([], [])
  pure (current :: delta.1 ++ stats.1, pyStr "temperature_current" :: delta.2 ++ stats.2)

/-- `_process_temperature`. -/
def processTemperature (r : SensorReading α) :
    Py (SensorPreprocessor α) (ProcessedFeatures α) := do
  let value ← Py.ofExcept r.value.toFloat
  windowed r (.scalar value) fun p cells => do
    let w ← scalars cells
    temperatureFeatures lib p.windowSize p.normalize value w

/-- A temperature record of one feature, the current value `v`: what `_process_temperature`
returns on a sensor's first reading at time `0`, with `normalize` off and `window_size ≥ 2`. -/
def currentRecord (s : PyStr) (v : α) : ProcessedFeatures α :=
  ⟨[v], [pyStr "temperature_current"], 0, s⟩

/-- `reading.timestamp - reading.metadata.get("last_motion", reading.timestamp)`. -/
def timeSinceMotion (r : SensorReading α) : Except PyError α :=
  match r.metadata with
  | none => .error .attributeError
  | some md => .ok (r.timestamp - (md.get? (pyStr "last_motion")).getD r.timestamp)

/-- The features `_process_motion` reads off the window array `w`; the time since the last
motion is only computed, and so can only raise, when the window is full and no motion is seen. -/
def motionFeatures (windowSize : Nat) (detected : Bool) (timeSince : Except PyError α)
    (w : List α) : Except PyError (List α × List PyStr) := do
  let motion : α := boolToFloat detected
  if windowSize ≤ w.length then
    let t ← if detected then pure 0 else timeSince
    pure ([motion, w.sum / w.length, min (t / 60) 10],
      [pyStr "motion_current", pyStr "motion_frequency", pyStr "time_since_motion"])
  else pure ([motion], [pyStr "motion_current"])

/-- `_process_motion`. -/
def processMotion (r : SensorReading α) : Py (SensorPreprocessor α) (ProcessedFeatures α) := do
  let detected ← Py.ofExcept r.value.truth
  windowed r (.scalar (boolToFloat detected)) fun p cells => do
    let w ← scalars cells
    motionFeatures p.windowSize detected (timeSinceMotion r) w

/-- `_process_camera`: `None` unless the value is an array; the context map reads the metadata,
so a frame without metadata raises `AttributeError`. -/
def processCamera (r : SensorReading α) :
    Py (SensorPreprocessor α) (Option (ProcessedFeatures α)) :=
  match r.value with
  | .array frame => do
    let s ← Py.ofExcept (lib.vision frame)
    match r.metadata with
    | none => throw .attributeError
    | some _ => pure (some ⟨[s.brightnessR, s.brightnessG, s.brightnessB, s.brightnessOverall,
        s.contrast, s.edgeDensity], [pyStr "brightness_r", pyStr "brightness_g",
        pyStr "brightness_b", pyStr "brightness_overall", pyStr "contrast",
        pyStr "edge_density"], r.timestamp, r.sensorId⟩)
  | _ => pure none

/-- The features `_process_accelerometer` reads off the window once `[x, y, z, magnitude]` is in
it: the jerk magnitude and the axis variances join once three rows are there. -/
def accelerometerFeatures (x y z magnitude : α) (cells : List (Cell α)) :
    Except PyError (List α × List PyStr) :=
  if 3 ≤ cells.length then do
    let rows ← axesRows cells
    let jerk := diffRows (rows.map (·.take 3))
    pure ([x, y, z, magnitude, Np.mean (jerk.map (Np.norm lib.sqrt))] ++
        [0, 1, 2].map (fun i => Np.var (Np.column i rows)),
      [pyStr "accel_x", pyStr "accel_y", pyStr "accel_z", pyStr "accel_magnitude",
        pyStr "jerk_magnitude", pyStr "accel_x_variance", pyStr "accel_y_variance",
        pyStr "accel_z_variance"])
  else
    pure ([x, y, z, magnitude],
      [pyStr "accel_x", pyStr "accel_y", pyStr "accel_z", pyStr "accel_magnitude"])

/-- The labelled axes `accel_data.get("x", 0)`, `.get("y", 0)`, `.get("z", 0)`. -/
def axesOf (d : PyDict α) : α × α × α :=
  ((d.get? (pyStr "x")).getD 0, (d.get? (pyStr "y")).getD 0, (d.get? (pyStr "z")).getD 0)

/-- `_process_accelerometer`: `None` unless the value is a dict. -/
def processAccelerometer (r : SensorReading α) :
    Py (SensorPreprocessor α) (Option (ProcessedFeatures α)) :=
  match r.value with
  | .dict d =>
    let (x, y, z) := axesOf d
    let magnitude := lib.sqrt (x ^ 2 + y ^ 2 + z ^ 2)
    some <$> windowed r (.axes x y z magnitude) fun _ cells =>
      accelerometerFeatures lib x y z magnitude cells
  | _ => pure none

/-- `_process_generic`: `bool` is a subclass of `int`, so a boolean passes as a number. -/
def processGeneric (r : SensorReading α) : ProcessedFeatures α :=
  match r.value with
  | .num x => ⟨[x], [r.sensorType.value ++ pyStr "_value"], r.timestamp, r.sensorId⟩
  | .bool b => ⟨[boolToFloat b], [r.sensorType.value ++ pyStr "_value"], r.timestamp,
      r.sensorId⟩
  | _ => ⟨[0], [pyStr "unknown"], r.timestamp, r.sensorId⟩

/-- `process_reading`. -/
def processReading (r : SensorReading α) :
    Py (SensorPreprocessor α) (Option (ProcessedFeatures α)) := do
  modify (·.ensureWindow r.sensorId)
  match r.sensorType with
  | .temperature => some <$> processTemperature lib r
  | .motion => some <$> processMotion r
  | .camera => processCamera lib r
  | .accelerometer => processAccelerometer lib r
  | _ => pure (some (processGeneric r))

/-- `process_batch`: `[self.process_reading(r) for r in readings if self.process_reading(r)]`
calls `process_reading` in the filter and again for the element it keeps. -/
def processBatch : List (SensorReading α) →
    Py (SensorPreprocessor α) (List (Option (ProcessedFeatures α)))
  | [] => pure []
  | r :: rs => do
    match ← processReading lib r with
    | none => processBatch rs
    | some _ => do
      let f ← processReading lib r
      let fs ← processBatch rs
      pure (f :: fs)

end Extract

end EdgeAI
