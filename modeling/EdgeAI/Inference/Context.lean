import EdgeAI.Preprocess.Stream

/-!
# The sensor context and the rule-based fallback

`create_sensor_context` renders the latest reading of each sensor into context parts: a fixed line
per sensor type, and for a temperature sensor with three readings a separate part
`"(increasing)"` or `"(decreasing)"`. The parts are joined with newlines. `_simulate_response`,
the fallback when no model is loaded, splits that text back into lines and matches keywords
line by line.

Python renders reading values and floats with `str` and `format`. That rendering comes from the
interpreter, not from this repository, and is taken as a parameter (`Render`). The integer
rendering of `int(elapsed)` is exact.
-/

namespace EdgeAI

/-! ## Strings -/

/-- `needle in hay` for strings. -/
def strIn (needle hay : PyStr) : Bool := hay.tails.any needle.isPrefixOf

theorem strIn_iff (needle hay : PyStr) : strIn needle hay = true ↔ needle <:+: hay := by
  simp only [strIn, List.any_eq_true, List.isPrefixOf_iff_prefix, List.mem_tails,
    List.infix_iff_prefix_suffix]
  exact ⟨fun ⟨t, ht, hp⟩ => ⟨t, hp, ht⟩, fun ⟨t, hp, ht⟩ => ⟨t, ht, hp⟩⟩

/-- A string lacking a character of the needle does not contain it. -/
theorem strIn_eq_false {needle hay : PyStr} {c : Fin 0x110000} (hc : c ∈ needle)
    (hhay : c ∉ hay) : strIn needle hay = false :=
  Bool.eq_false_iff.mpr fun h => hhay (((strIn_iff needle hay).mp h).subset hc)

/-- `"\n".join(parts)`. -/
def joinLines (parts : List PyStr) : PyStr := [codePoint '\n'].intercalate parts

/-- `text.split("\n")`. -/
def splitLines (text : PyStr) : List PyStr := text.splitOn (codePoint '\n')

/-- Splitting joined parts gives the parts back when none holds a newline. -/
theorem splitLines_joinLines {parts : List PyStr} (h : ∀ p ∈ parts, codePoint '\n' ∉ p)
    (hne : parts ≠ []) : splitLines (joinLines parts) = parts :=
  List.splitOn_intercalate parts (codePoint '\n') h hne

/-- `int(x)`: truncation toward zero. -/
def pyInt {α : Type} [LinearOrderedField α] [FloorRing α] (x : α) : Int :=
  if 0 ≤ x then ⌊x⌋ else ⌈x⌉

/-! ## `create_sensor_context` -/

/-- How the interpreter renders what the context shows: `str` of a reading's value, `str` of a
metadata number, and `format(x, ".2f")`. -/
structure Render (α : Type) where
  value : Value α → PyStr
  number : α → PyStr
  fixed2 : α → PyStr

section Context

variable {α : Type} [LinearOrderedField α] [FloorRing α] (render : Render α) (sqrt : α → α)

/-- `latest.metadata.get(...)`, which raises `AttributeError` on a reading with no metadata. -/
def metadataOf (r : SensorReading α) : Except PyError (PyDict α) :=
  match r.metadata with
  | some md => .ok md
  | none => .error .attributeError

/-- `accel[k]` on an accelerometer value. -/
def axisOf (v : Value α) (k : PyStr) : Except PyError α :=
  match v with
  | .dict d => match d.get? k with
    | some x => .ok x
    | none => .error .keyError
  | _ => .error .typeError

/-- The trend part of a temperature sensor, from its last three readings. -/
def trendPart (readings : List (SensorReading α)) : Except PyError (List PyStr) :=
  if 3 ≤ readings.length then do
    let values := (readings.rtake 3).map (·.value)
    let last ← (values.getLastD .none).toFloat
    let first ← (values.headD .none).toFloat
    if first + 1 / 2 < last then pure [pyStr "(increasing)"]
    else if last < first - 1 / 2 then pure [pyStr "(decreasing)"]
    else pure []
  else pure []

/-- The parts one sensor adds to the context: none for a sensor without readings. -/
def sensorParts (sensorId : PyStr) (readings : List (SensorReading α)) :
    Except PyError (List PyStr) :=
  match readings.getLast? with
  | none => pure []
  | some latest =>
    match latest.sensorType with
    | .temperature => do
      let trend ← trendPart readings
      pure ((pyStr "Temperature sensor '" ++ sensorId ++ pyStr "': " ++ render.value latest.value ++
        pyStr "°C") :: trend)
    | .motion => do
      if ← latest.value.truth then
        pure [pyStr "Motion detected on sensor '" ++ sensorId ++ pyStr "'"]
      else
        let md ← metadataOf latest
        match md.get? (pyStr "last_motion") with
        | some t =>
          if t ≠ 0 then
            pure [pyStr "No motion for " ++ showInt (pyInt (latest.timestamp - t)) ++ pyStr "s on '" ++
              sensorId ++ pyStr "'"]
          else pure []
        | none => pure []
    | .camera => do
      let md ← metadataOf latest
      let objects := (md.get? (pyStr "objects_detected")).getD 0
      let brightness := (md.get? (pyStr "brightness")).getD (1 / 2)
      pure [pyStr "Camera '" ++ sensorId ++ pyStr "': " ++ render.number objects ++
        pyStr " objects detected, brightness " ++ render.fixed2 brightness]
    | .accelerometer => do
      let x ← axisOf latest.value (pyStr "x")
      let y ← axisOf latest.value (pyStr "y")
      let z ← axisOf latest.value (pyStr "z")
      pure [pyStr "Accelerometer '" ++ sensorId ++ pyStr "': magnitude " ++
        render.fixed2 (sqrt (x ^ 2 + y ^ 2 + z ^ 2)) ++ pyStr " m/s²"]
    | _ => pure []

/-- `create_sensor_context`: the parts of every sensor, in the dict's order, one per line. -/
def createSensorContext (sensorData : PyDict (List (SensorReading α))) : Except PyError PyStr := do
  let parts ← sensorData.entries.mapM fun (sensorId, readings) =>
    sensorParts render sqrt sensorId readings
  pure (joinLines parts.flatten)

end Context

/-! ## `_simulate_response` -/

/-- The insight one line of the context gives, by the first rule it matches. -/
def insightOf (line : PyStr) : Option PyStr :=
  if strIn (pyStr "Temperature") line && strIn (pyStr "increasing") line then
    some (pyStr "Temperature is rising - monitor for overheating.")
  else if strIn (pyStr "Motion detected") line then some (pyStr "Activity detected in the area.")
  else if strIn (pyStr "No motion") line && strIn (pyStr "60") line then
    some (pyStr "Area has been quiet for over a minute.")
  else none

/-- `_simulate_response`: the insights of the context's lines, or that all is normal. -/
def simulateResponse (sensorContext : PyStr) : PyStr :=
  let insights := (splitLines sensorContext).filterMap insightOf
  let insights := if insights.isEmpty then [pyStr "All sensor readings are within normal ranges."]
    else insights
  pyStr "Sensor Analysis:\n" ++ joinLines (insights.map (pyStr "• " ++ ·))

/-- A line without the letter `i` matches no rule: each rule's keyword holds an `i`. -/
theorem insightOf_of_no_i {line : PyStr} (h : codePoint 'i' ∉ line) : insightOf line = none := by
  have hi : ∀ w : String, codePoint 'i' ∈ pyStr w → strIn (pyStr w) line = false :=
    fun _ hw => strIn_eq_false hw h
  simp only [insightOf, hi "increasing" (by decide), hi "Motion detected" (by decide),
    hi "No motion" (by decide), Bool.and_false, Bool.false_and, Bool.false_eq_true, if_false]

/-- The three readings `20`, `21`, `22` of the temperature sensor `"t"`: the last exceeds the first
by more than `0.5`, the context renders the qualifier `"(increasing)"` as a line of its own, and
the fallback, finding `"increasing"` on no line with `"Temperature"`, reports all readings normal. -/
theorem rising_readings_reported_normal (render : Render ℝ) (sqrt : ℝ → ℝ)
    (hi : codePoint 'i' ∉ render.value (.num 22)) (hnl : codePoint '\n' ∉ render.value (.num 22)) :
    createSensorContext render sqrt (PyDict.empty.set (pyStr "t")
        [temperatureAt 20 0, temperatureAt 21 1, temperatureAt 22 2]) =
      .ok (joinLines [pyStr "Temperature sensor 't': " ++ render.value (.num 22) ++ pyStr "°C",
        pyStr "(increasing)"]) ∧
    simulateResponse (joinLines [pyStr "Temperature sensor 't': " ++ render.value (.num 22) ++
        pyStr "°C", pyStr "(increasing)"]) =
      pyStr "Sensor Analysis:\n• All sensor readings are within normal ranges." := by
  have htrend : trendPart [temperatureAt (20 : ℝ) 0, temperatureAt 21 1, temperatureAt 22 2] =
      .ok [pyStr "(increasing)"] := by
    norm_num [trendPart, temperatureAt, List.rtake, Value.toFloat, bind, Except.bind, pure,
      Except.pure]
  constructor
  · simp only [createSensorContext, sensorParts, PyDict.set, PyDict.empty, setEntry, List.mapM_cons,
      List.mapM_nil, List.getLast?, htrend]
    rfl
  · have h1 : codePoint 'i' ∉ pyStr "Temperature sensor 't': " ∧
        codePoint '\n' ∉ pyStr "Temperature sensor 't': " := by simp [pyStr, codePoint]
    have h2 : codePoint 'i' ∉ pyStr "°C" ∧ codePoint '\n' ∉ pyStr "°C" := by simp [pyStr, codePoint]
    have hsplit : splitLines (joinLines [pyStr "Temperature sensor 't': " ++ render.value (.num 22) ++
        pyStr "°C", pyStr "(increasing)"]) = [pyStr "Temperature sensor 't': " ++
          render.value (.num 22) ++ pyStr "°C", pyStr "(increasing)"] := by
      refine splitLines_joinLines ?_ (List.cons_ne_nil _ _)
      simp only [List.mem_cons, List.mem_singleton, List.not_mem_nil, or_false]
      rintro p (rfl | rfl)
      · simp only [List.mem_append, not_or]
        exact ⟨⟨h1.2, hnl⟩, h2.2⟩
      · decide
    have hnone : insightOf (pyStr "Temperature sensor 't': " ++ render.value (.num 22) ++
        pyStr "°C") = none := by
      refine insightOf_of_no_i ?_
      simp only [List.mem_append, not_or]
      exact ⟨⟨h1.1, hi⟩, h2.1⟩
    have hinc : insightOf (pyStr "(increasing)") = none := by decide
    simp only [simulateResponse, hsplit, List.filterMap_cons, hnone, hinc, List.filterMap_nil,
      List.isEmpty_nil, if_true]
    decide

/-- With the rendering of `str(22.0)`. -/
theorem rising_readings_reported_normal_repr :
    createSensorContext ⟨fun _ => pyStr "22.0", fun _ => pyStr "0", fun _ => pyStr "0.00"⟩ Real.sqrt
        (PyDict.empty.set (pyStr "t") [temperatureAt 20 0, temperatureAt 21 1, temperatureAt 22 2]) =
      .ok (joinLines [pyStr "Temperature sensor 't': " ++ pyStr "22.0" ++ pyStr "°C",
        pyStr "(increasing)"]) ∧
    simulateResponse (joinLines [pyStr "Temperature sensor 't': " ++ pyStr "22.0" ++ pyStr "°C",
        pyStr "(increasing)"]) =
      pyStr "Sensor Analysis:\n• All sensor readings are within normal ranges." :=
  rising_readings_reported_normal ⟨fun _ => pyStr "22.0", fun _ => pyStr "0", fun _ => pyStr "0.00"⟩
    Real.sqrt (by decide) (by decide)

end EdgeAI
