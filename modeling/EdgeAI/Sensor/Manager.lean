import EdgeAI.Sensor.Reading

/-!
# `SensorManager`: the per-sensor buffers under concurrent sampling loops

`register_sensor` gives each sensor a fresh `deque(maxlen=buffer_size)`. `start_streaming` then
runs one `_stream_sensor` task per registered sensor. Each task awaits its sensor's `read()`,
appends the reading to its own sensor's deque, sleeps, and starts again; a read that raises is
caught and printed. The tasks share one event loop, so a run is an interleaving of whole loop
iterations: a list of `LoopStep`s, each naming the sensor whose loop ran and what its read gave.

Over every such interleaving each registered sensor's deque holds the last `buffer_size` readings
its own loop produced, in order (`buffer_streamRun`). `get_recent_data` slices that buffer with
`list(buffer)[-n:]`, which gives the last `n` readings for `n ≥ 1` and, since `-0 = 0`, the whole
buffer for `n = 0` (`getRecentData_streamRun`).

The sensors themselves (their hardware, sampling rate and sleep intervals) decide only which
interleaving happens, and are not modelled: every interleaving is covered.
-/

namespace EdgeAI

variable {β : Type}

/-! ## Python's `xs[i:]` -/

/-- `xs[i:]`: a negative start counts from the end and is clamped at the front. -/
def sliceFrom (xs : List β) (i : Int) : List β :=
  if i < 0 then xs.drop (xs.length - i.natAbs) else xs.drop i.toNat

/-- `xs[-n:]` for `n ≥ 1` is the last `n` elements. -/
theorem sliceFrom_neg_of_pos (xs : List β) {n : Int} (hn : 0 < n) :
    sliceFrom xs (-n) = xs.rtake n.toNat := by
  rw [sliceFrom, if_pos (by omega), List.rtake]
  congr 2
  omega

/-- `xs[-0:]` is `xs[0:]`, the whole list. -/
@[simp] theorem sliceFrom_zero (xs : List β) : sliceFrom xs 0 = xs := by
  simp [sliceFrom]

theorem rtake_rtake (l : List β) (n m : Nat) : (l.rtake m).rtake n = l.rtake (min n m) := by
  simp only [List.rtake, List.length_drop, List.drop_drop]
  congr 1
  omega

theorem Deque.maxlen_foldl_append (d : Deque β) (xs : List β) :
    (xs.foldl Deque.append d).maxlen = d.maxlen := by
  induction xs generalizing d with
  | nil => rfl
  | cons x xs ih => rw [List.foldl_cons, ih, Deque.maxlen_append]

/-! ## The manager -/

variable {α : Type}

/-- The part of `SensorManager` the loops and `get_recent_data` read and write. The `sensors`
dict is read only by `start_streaming` to choose which loops run, which the interleaving
`List (LoopStep α)` leaves free. -/
structure SensorManager (α : Type) where
  bufferSize : Nat
  dataBuffers : PyDict (Deque (SensorReading α))

namespace SensorManager

/-- `SensorManager(buffer_size)`. -/
def init (bufferSize : Nat) : SensorManager α := ⟨bufferSize, PyDict.empty⟩

/-- `register_sensor`: a fresh deque under the sensor's id. -/
def registerSensor (m : SensorManager α) (sensorId : PyStr) : SensorManager α :=
  { m with dataBuffers := m.dataBuffers.set sensorId (Deque.empty m.bufferSize) }

/-- `self.data_buffers[sensor_id].append(reading)`: a missing key raises `KeyError`. -/
def appendReading (sensorId : PyStr) (r : SensorReading α) : Py (SensorManager α) Unit := do
  match (← get).dataBuffers.get? sensorId with
  | none => throw .keyError
  | some d => modify fun m => { m with dataBuffers := m.dataBuffers.set sensorId (d.append r) }

/-- The deque of a sensor, if it has one. -/
def buffer (m : SensorManager α) (sensorId : PyStr) : Option (Deque (SensorReading α)) :=
  m.dataBuffers.get? sensorId

@[simp] theorem bufferSize_registerSensor (m : SensorManager α) (k : PyStr) :
    (m.registerSensor k).bufferSize = m.bufferSize := rfl

@[simp] theorem buffer_registerSensor (m : SensorManager α) (k k' : PyStr) :
    (m.registerSensor k).buffer k' =
      if k' = k then some (Deque.empty m.bufferSize) else m.buffer k' := by
  simp [registerSensor, buffer]

/-- One call of `append`: the sensor's own deque gets the reading, every other one is kept, and a
missing key raises with the manager unchanged. -/
theorem final_appendReading (m : SensorManager α) (k : PyStr) (r : SensorReading α) :
    final (appendReading k r m) =
      match m.buffer k with
      | none => m
      | some d => { m with dataBuffers := m.dataBuffers.set k (d.append r) } := by
  simp only [appendReading, buffer, Py.bind_apply, Py.get_apply]
  cases m.dataBuffers.get? k <;> rfl

end SensorManager

/-! ## The sampling loops -/

/-- One iteration of the `_stream_sensor` loop of the sensor `sensorId`: what its `read()` gave. -/
structure LoopStep (α : Type) where
  sensorId : PyStr
  read : Except PyError (SensorReading α)

open SensorManager

/-- The body of `_stream_sensor`'s loop: the append of a read reading, with whatever it raises
caught by the loop's `except Exception`. A read that raised appends nothing. -/
def streamStep (m : SensorManager α) (e : LoopStep α) : SensorManager α :=
  match e.read with
  | .ok r => final (appendReading e.sensorId r m)
  | .error _ => m

/-- The loops of all sensors, interleaved as the event loop ran them. -/
def streamRun (m : SensorManager α) (es : List (LoopStep α)) : SensorManager α :=
  es.foldl streamStep m

/-- The readings the loop of `k` produced in a run, in order. -/
def produced (k : PyStr) (es : List (LoopStep α)) : List (SensorReading α) :=
  es.filterMap fun e => if e.sensorId = k then e.read.toOption else none

/-- `register_sensor` for each sensor, in order, before streaming starts. -/
def registerAll (bufferSize : Nat) (ids : List PyStr) : SensorManager α :=
  ids.foldl registerSensor (init bufferSize)

theorem produced_cons (k : PyStr) (e : LoopStep α) (es : List (LoopStep α)) :
    produced k (e :: es) = produced k [e] ++ produced k es := by
  simp only [produced, List.filterMap_cons, List.filterMap_nil]
  split <;> rfl

/-- The append of a sensor with a deque does not raise. -/
theorem raised_appendReading {m : SensorManager α} {k : PyStr} {d : Deque (SensorReading α)}
    (h : m.buffer k = some d) (r : SensorReading α) : raised (appendReading k r m) = none := by
  simp only [appendReading, Py.bind_apply, Py.get_apply]
  rw [show m.dataBuffers.get? k = some d from h]
  rfl

/-- The step lemma, per sensor: a loop iteration appends to its own sensor's deque the reading
its read returned, and leaves every other sensor's deque as it was. -/
theorem buffer_streamStep (m : SensorManager α) (e : LoopStep α) (k : PyStr) :
    (streamStep m e).buffer k = (m.buffer k).map fun d => (produced k [e]).foldl Deque.append d := by
  rcases e with ⟨k', _ | r⟩
  · simp [streamStep, produced, Except.toOption]
  · simp only [streamStep, final_appendReading]
    by_cases hk : k' = k
    · subst hk
      cases hb : m.buffer k' <;> simp_all [buffer, produced, Except.toOption]
    · cases m.buffer k' <;> simp [buffer, produced, hk, Ne.symm hk]

/-- A loop iteration keeps the capacity of every deque and creates none. -/
theorem maxlen_buffer_streamStep (m : SensorManager α) (e : LoopStep α) (k : PyStr) :
    ((streamStep m e).buffer k).map Deque.maxlen = (m.buffer k).map Deque.maxlen := by
  rw [buffer_streamStep, Option.map_map]
  exact Option.map_congr fun d _ => Deque.maxlen_foldl_append d _

/-- The run lemma: after any interleaving, each sensor's deque has had appended, in order, exactly
the readings its own loop produced. -/
theorem buffer_streamRun (m : SensorManager α) (es : List (LoopStep α)) (k : PyStr) :
    (streamRun m es).buffer k =
      (m.buffer k).map fun d => (produced k es).foldl Deque.append d := by
  induction es generalizing m with
  | nil => simp [streamRun, produced]
  | cons e es ih =>
    rw [streamRun, List.foldl_cons, ← streamRun, ih, buffer_streamStep, Option.map_map,
      produced_cons k e es]
    cases m.buffer k <;> simp

@[simp] theorem bufferSize_registerAll (ids : List PyStr) (m : SensorManager α) :
    (ids.foldl registerSensor m).bufferSize = m.bufferSize := by
  induction ids generalizing m with
  | nil => rfl
  | cons i is ih => rw [List.foldl_cons, ih, bufferSize_registerSensor]

/-- After the registrations every registered sensor has a fresh deque, and no other has one. -/
theorem buffer_registerAll (C : Nat) (ids : List PyStr) (k : PyStr) :
    (registerAll C ids : SensorManager α).buffer k =
      if k ∈ ids then some (Deque.empty C) else none := by
  suffices h : ∀ m : SensorManager α, (ids.foldl registerSensor m).buffer k =
      if k ∈ ids then some (Deque.empty m.bufferSize) else m.buffer k from h _
  induction ids with
  | nil => simp
  | cons i is ih =>
    intro m
    rw [List.foldl_cons, ih, buffer_registerSensor, bufferSize_registerSensor]
    by_cases hk : k ∈ is <;> by_cases hi : k = i <;> simp [hk, hi]

/-- `get_recent_data`: `[]` for a sensor without a deque, else `list(buffer)[-n:]`. -/
def getRecentData (m : SensorManager α) (sensorId : PyStr) (n : Int) : List (SensorReading α) :=
  match m.buffer sensorId with
  | none => []
  | some d => sliceFrom d.items (-n)

/-- Every registered sensor's deque, after any interleaving of the loops that started on fresh
deques: the last `buffer_size` readings of its own loop, oldest first. `get_recent_data` then gives
the last `n` of them for `n ≥ 1`, and the whole deque for `n = 0`. -/
theorem recent_readings_of_registered (C : Nat) (ids : List PyStr) (es : List (LoopStep α))
    (k : PyStr) (hk : k ∈ ids) :
    (∃ d, (streamRun (registerAll C ids) es).buffer k = some d ∧ d.maxlen = C ∧
      d.items = (produced k es).rtake C) ∧
    (∀ n : Int, 0 < n →
      getRecentData (streamRun (registerAll C ids) es) k n = (produced k es).rtake (min n.toNat C)) ∧
    getRecentData (streamRun (registerAll C ids) es) k 0 = (produced k es).rtake C := by
  have hitems := Deque.items_foldl_append (Deque.empty C) (produced k es) [] (by simp [List.rtake])
  have hb : (streamRun (registerAll C ids) es).buffer k =
      some ((produced k es).foldl Deque.append (Deque.empty C)) := by
    rw [buffer_streamRun, buffer_registerAll, if_pos hk, Option.map_some']
  simp only [List.nil_append, Deque.maxlen_empty] at hitems
  refine ⟨⟨_, hb, Deque.maxlen_foldl_append .., hitems⟩, fun n hn => ?_, ?_⟩
  · simp only [getRecentData, hb, hitems, sliceFrom_neg_of_pos _ hn, rtake_rtake]
  · simp only [getRecentData, hb, hitems, neg_zero, sliceFrom_zero]

/-- The readings a sensor's loop produced carry that sensor's id when each `read()` builds its
reading with `sensor_id=self.sensor_id`, as every sensor class does; so a deque holding the last
of them holds no reading of another sensor. -/
theorem sensorId_of_mem_produced {k : PyStr} {es : List (LoopStep α)}
    (hes : ∀ e ∈ es, ∀ r, e.read = .ok r → r.sensorId = e.sensorId) {C : Nat}
    {r : SensorReading α} (hr : r ∈ (produced k es).rtake C) : r.sensorId = k := by
  obtain ⟨e, he, hsome⟩ := List.mem_filterMap.mp (Deque.mem_rtake hr)
  by_cases hk : e.sensorId = k
  · rw [if_pos hk] at hsome
    rcases hread : e.read with _ | r'
    · simp [hread, Except.toOption] at hsome
    · simp only [hread, Except.toOption, Option.some.injEq] at hsome
      rw [← hk, hes e he r (hsome ▸ hread)]
  · simp [hk] at hsome

/-- A temperature reading of the sensor `t`. -/
def sampleReading : SensorReading ℚ := ⟨pyStr "t", .temperature, 0, .num 20, none⟩

/-- One registered sensor whose loop read once: `get_recent_data("t", 0)` returns that reading,
not an empty list. -/
theorem recent_data_zero_is_whole_buffer :
    getRecentData (streamRun (registerAll 1000 [pyStr "t"]) [⟨pyStr "t", .ok sampleReading⟩])
      (pyStr "t") 0 = [sampleReading] :=
  (recent_readings_of_registered 1000 [pyStr "t"] [⟨pyStr "t", .ok sampleReading⟩] (pyStr "t")
    (List.mem_singleton_self _)).2.2.trans (by simp [produced, List.rtake, Except.toOption])

end EdgeAI
