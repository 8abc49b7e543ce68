import EdgeAI.Preprocess.Records

/-!
# `process_reading` on values of every shape

A reading's value is a number, a boolean, a labelled vector, an image array or `None`, whatever
its sensor's type. What `process_reading` does with a value of another shape than its sensor
expects depends on the method it reaches:

* `_process_temperature` calls `float(value)`, which raises `TypeError` on a dict, on `None` and on
  an array of more than one element (`processReading_of_toFloat_error`);
* `_process_motion` calls `bool(value)`, which raises `ValueError` on an array of more than one
  element (`processReading_of_truth_error`);
* `_process_camera` and `_process_accelerometer` return `None` on a value that is not an array,
  respectively not a dict (`processReading_camera_other`, `processReading_accelerometer_other`);
* the other types go to `_process_generic`, which always returns one feature: the number under
  `<type>_value`, anything else as `0` under `unknown` (`processReading_generic`).

In each case the call creates the window of a new sensor and appends nothing, so every window
reads as before (`SensorPreprocessor.window_ensureWindow`).
-/

namespace EdgeAI

section Shapes

variable {α : Type} [LinearOrderedField α] (lib : Libraries α)

theorem toFloat_of_not_scalar (v : Value α)
    (hv : v = .none ∨ (∃ d, v = .dict d) ∨ ∃ fr : Frame α, v = .array fr ∧ 2 ≤ fr.data.length) :
    v.toFloat = .error .typeError := by
  rcases hv with rfl | ⟨d, rfl⟩ | ⟨fr, rfl, hlen⟩
  · rfl
  · rfl
  · rcases fr with ⟨shape, _ | ⟨x, _ | ⟨y, data⟩⟩⟩ <;> simp [Value.toFloat] at hlen ⊢

theorem truth_of_image {fr : Frame α} (hlen : 2 ≤ fr.data.length) :
    (Value.array fr).truth = .error .valueError := by
  rcases fr with ⟨shape, _ | ⟨x, _ | ⟨y, data⟩⟩⟩ <;> simp [Value.truth] at hlen ⊢

/-- A temperature reading whose value `float()` refuses raises, with no value appended. -/
theorem processReading_of_toFloat_error {r : SensorReading α} (ht : r.sensorType = .temperature)
    {e : PyError} (hv : r.value.toFloat = .error e) (p : SensorPreprocessor α) :
    processReading lib r p = .error e (p.ensureWindow r.sensorId) := by
  simp only [processReading, processTemperature, ht, hv, Py.bind_apply, Py.modify_apply,
    Py.map_apply, Py.ofExcept_error]

/-- A motion reading whose value has no truth value raises, with no value appended. -/
theorem processReading_of_truth_error {r : SensorReading α} (ht : r.sensorType = .motion)
    {e : PyError} (hv : r.value.truth = .error e) (p : SensorPreprocessor α) :
    processReading lib r p = .error e (p.ensureWindow r.sensorId) := by
  simp only [processReading, processMotion, ht, hv, Py.bind_apply, Py.modify_apply,
    Py.map_apply, Py.ofExcept_error]

/-- A camera reading that is not an array gives `None`. -/
theorem processReading_camera_other {r : SensorReading α} (ht : r.sensorType = .camera)
    (hv : ∀ fr, r.value ≠ .array fr) (p : SensorPreprocessor α) :
    processReading lib r p = .ok none (p.ensureWindow r.sensorId) := by
  simp only [processReading, processCamera, ht, Py.bind_apply, Py.modify_apply]
  rcases hr : r.value with x | b | d | fr | _
  exacts [rfl, rfl, rfl, absurd hr (hv fr), rfl]

/-- An accelerometer reading that is not a dict gives `None`. -/
theorem processReading_accelerometer_other {r : SensorReading α}
    (ht : r.sensorType = .accelerometer) (hv : ∀ d, r.value ≠ .dict d) (p : SensorPreprocessor α) :
    processReading lib r p = .ok none (p.ensureWindow r.sensorId) := by
  simp only [processReading, processAccelerometer, ht, Py.bind_apply, Py.modify_apply]
  rcases hr : r.value with x | b | d | fr | _
  exacts [rfl, rfl, absurd hr (hv d), rfl, rfl]

/-- A reading of a type without a method of its own: `_process_generic`'s record. -/
theorem processReading_generic {r : SensorReading α} (ht : ¬ HasOwnMethod r.sensorType)
    (p : SensorPreprocessor α) :
    processReading lib r p = .ok (some (processGeneric r)) (p.ensureWindow r.sensorId) := by
  simp only [processReading, Py.bind_apply, Py.modify_apply]
  cases h : r.sensorType <;> simp [HasOwnMethod, h] at ht ⊢

/-- Readings of the shapes the spec lists raise instead of giving `None`: a temperature reading
whose value is `None`, a dict or an image array, and a motion reading whose value is an image
array. The window is created if missing and gets no value. -/
theorem wrong_shape_raises (p : SensorPreprocessor α) (r : SensorReading α) :
    (r.sensorType = .temperature →
      (r.value = .none ∨ (∃ d, r.value = .dict d) ∨
        ∃ fr : Frame α, r.value = .array fr ∧ 2 ≤ fr.data.length) →
      processReading lib r p = .error .typeError (p.ensureWindow r.sensorId)) ∧
    (r.sensorType = .motion → (∃ fr : Frame α, r.value = .array fr ∧ 2 ≤ fr.data.length) →
      processReading lib r p = .error .valueError (p.ensureWindow r.sensorId)) :=
  ⟨fun ht hv => processReading_of_toFloat_error lib ht (toFloat_of_not_scalar _ hv) p,
    fun ht ⟨_, hv, hlen⟩ => processReading_of_truth_error lib ht (hv ▸ truth_of_image hlen) p⟩

/-- A temperature sensor that reports `None`. -/
def noneTemperature : SensorReading ℝ := ⟨pyStr "t", .temperature, 0, .none, none⟩

theorem none_temperature_raises :
    processReading ⟨Real.sqrt, fun _ => .error .valueError⟩ noneTemperature (.init 10 true) =
      .error .typeError ((SensorPreprocessor.init 10 true).ensureWindow (pyStr "t")) :=
  (wrong_shape_raises _ (.init 10 true) noneTemperature).1 rfl (.inl rfl)

/-! ## Names against lengths -/

/-- Two readings of one humidity sensor, a number and then `None`. -/
def humidityReadings : SensorReading ℝ × SensorReading ℝ :=
  (⟨pyStr "h", .humidity, 0, .num 50, none⟩, ⟨pyStr "h", .humidity, 1, .none, none⟩)

end Shapes

end EdgeAI
