import EdgeAI.Preprocess.Records
import EdgeAI.Sensor.Manager

/-!
# The feature windows over a run, and `create_temporal_embedding`

Every call of `process_reading` creates its sensor's window if missing and appends at most one
cell to it, the same cell whether the call then returns or raises (`final_processReading`). Over
any run of calls the window of a sensor `k` therefore holds the last `window_size` cells that the
readings of `k` appended, in order, whatever the readings of other sensors in between and
whichever calls raised (`items_window_processRun`); it exists once one reading of `k` was
processed (`hasWindow_processRun`).

`create_temporal_embedding(k, L)` reads that window through `np.array`: zeros in front up to `L`
cells when it is shorter, else its last `L` cells (`temporal_embedding_of_run`). Two cases part
from that reading of the docstring:

* `L = 0` gives the whole window, as `window[-0:]` is `window[0:]`;
* an accelerometer window holds four-element rows, so zeros in front of it make a ragged list and
  `np.array` raises `ValueError`.
-/

namespace EdgeAI

/-- A cell holding one number. -/
def Cell.isScalar {α : Type} : Cell α → Bool
  | .scalar _ => true
  | .axes .. => false

/-- `np.array(sequence)` of a list of window cells: numbers give a vector and four-element rows a
matrix, while numbers mixed with rows are ragged and raise `ValueError`. The array is kept as the
cells it was built from. -/
def cellsArray {α : Type} (cs : List (Cell α)) : Except PyError (List (Cell α)) :=
  if cs.all Cell.isScalar || cs.all (!·.isScalar) then .ok cs else .error .valueError

/-- `create_temporal_embedding(sensor_id, sequence_length)`. -/
def createTemporalEmbedding {α : Type} [Zero α] (p : SensorPreprocessor α) (sensorId : PyStr)
    (sequenceLength : Int) : Except PyError (Option (List (Cell α))) :=
  match p.featureWindows.get? sensorId with
  | none => .ok none
  | some d =>
    let sequence :=
      if (d.items.length : Int) < sequenceLength then
        List.replicate (sequenceLength - d.items.length).toNat (.scalar 0) ++ d.items
      else sliceFrom d.items (-sequenceLength)
    (cellsArray sequence).map some

section Windows

variable {α : Type} [LinearOrderedField α] (lib : Libraries α)

/-- The preprocessor after `process_reading` of each reading in turn, whether the call returned a
record, `None`, or raised. -/
def processRun (p : SensorPreprocessor α) (rs : List (SensorReading α)) : SensorPreprocessor α :=
  rs.foldl (fun p r => final (processReading lib r p)) p

/-- The cells the readings of `k` append to its window, in order. -/
def appendedCells (k : PyStr) (rs : List (SensorReading α)) : List (Cell α) :=
  rs.filterMap fun r => if r.sensorId = k then appendedCell lib r else none

/-- The sensor has a window in `feature_windows`. -/
def SensorPreprocessor.HasWindow {β : Type} (p : SensorPreprocessor β) (k : PyStr) : Prop :=
  (p.featureWindows.get? k).isSome

omit [LinearOrderedField α] in
theorem hasWindow_ensureWindow (p : SensorPreprocessor α) (k k' : PyStr) :
    (p.ensureWindow k).HasWindow k' ↔ p.HasWindow k' ∨ k' = k := by
  unfold SensorPreprocessor.ensureWindow SensorPreprocessor.HasWindow
  split
  · rename_i h
    constructor
    · exact .inl
    · rintro (h' | rfl)
      exacts [h', h]
  · by_cases hk : k' = k <;> simp [hk]

omit [LinearOrderedField α] in
theorem hasWindow_appendWindow (p : SensorPreprocessor α) (k k' : PyStr) (x : Cell α) :
    (p.appendWindow k x).HasWindow k' ↔ p.HasWindow k' ∨ k' = k := by
  by_cases hk : k' = k <;>
    simp [SensorPreprocessor.appendWindow, SensorPreprocessor.HasWindow, hk]

@[simp] theorem windowSize_final_processReading (r : SensorReading α) (p : SensorPreprocessor α) :
    (final (processReading lib r p)).windowSize = p.windowSize := by
  rw [final_processReading]
  cases appendedCell lib r <;> simp

/-- The step: one call appends to the window of `k` the cell a reading of `k` appends, and leaves
every other window as it was. -/
theorem window_final_processReading (r : SensorReading α) (p : SensorPreprocessor α) (k : PyStr) :
    (final (processReading lib r p)).window k =
      (appendedCells lib k [r]).foldl Deque.append (p.window k) := by
  rw [final_processReading]
  by_cases hk : r.sensorId = k
  · cases hc : appendedCell lib r <;> simp [appendedCells, hk, hc]
  · cases appendedCell lib r <;> simp [appendedCells, hk, Ne.symm hk]

theorem hasWindow_final_processReading (r : SensorReading α) (p : SensorPreprocessor α)
    (k : PyStr) : (final (processReading lib r p)).HasWindow k ↔ p.HasWindow k ∨ k = r.sensorId := by
  rw [final_processReading]
  cases appendedCell lib r
  · exact hasWindow_ensureWindow p _ k
  · rw [hasWindow_appendWindow, hasWindow_ensureWindow, or_self_right]

@[simp] theorem windowSize_processRun (p : SensorPreprocessor α) (rs : List (SensorReading α)) :
    (processRun lib p rs).windowSize = p.windowSize := by
  induction rs generalizing p with
  | nil => rfl
  | cons r rs ih => rw [processRun, List.foldl_cons, ← processRun, ih, windowSize_final_processReading]

/-- The run: the window of `k` has had appended, in order, exactly the cells of the readings
of `k`. -/
theorem window_processRun (p : SensorPreprocessor α) (rs : List (SensorReading α)) (k : PyStr) :
    (processRun lib p rs).window k = (appendedCells lib k rs).foldl Deque.append (p.window k) := by
  induction rs generalizing p with
  | nil => rfl
  | cons r rs ih =>
    have hcons : appendedCells lib k (r :: rs) = appendedCells lib k [r] ++ appendedCells lib k rs := by
      simp only [appendedCells, List.filterMap_cons, List.filterMap_nil]
      split <;> rfl
    rw [processRun, List.foldl_cons, ← processRun, ih, window_final_processReading, hcons,
      List.foldl_append]

/-- The window of `k` after any run: the last `window_size` of its cells before the run and of
the cells its readings appended. -/
theorem items_window_processRun (p : SensorPreprocessor α) (rs : List (SensorReading α))
    (k : PyStr) :
    ((processRun lib p rs).window k).items =
      ((p.window k).items ++ appendedCells lib k rs).rtake p.windowSize := by
  have hw : (p.window k).items = (p.window k).items.rtake (p.window k).maxlen := by
    rw [List.rtake, Nat.sub_eq_zero_of_le (p.window k).length_le, List.drop_zero]
  rw [window_processRun, Deque.items_foldl_append _ _ _ hw, SensorPreprocessor.maxlen_window]

theorem hasWindow_processRun (p : SensorPreprocessor α) (rs : List (SensorReading α)) (k : PyStr) :
    (processRun lib p rs).HasWindow k ↔ p.HasWindow k ∨ ∃ r ∈ rs, r.sensorId = k := by
  induction rs generalizing p with
  | nil => simp [processRun]
  | cons r rs ih =>
    rw [processRun, List.foldl_cons, ← processRun, ih, hasWindow_final_processReading]
    simp only [List.mem_cons, exists_eq_or_imp]
    constructor
    · rintro ((h | rfl) | h)
      exacts [.inl h, .inr (.inl rfl), .inr (.inr h)]
    · rintro (h | h | h)
      exacts [.inl (.inl h), .inl (.inr h.symm), .inr h]

/-! ## A call reads its own sensor's window only -/

/-- Two preprocessors with the same settings and the same window of `k`. -/
def SameWindow (k : PyStr) (p q : SensorPreprocessor α) : Prop :=
  p.windowSize = q.windowSize ∧ p.normalize = q.normalize ∧ p.window k = q.window k

omit [LinearOrderedField α] in
theorem SameWindow.symm {k : PyStr} {p q : SensorPreprocessor α} (h : SameWindow k p q) :
    SameWindow k q p :=
  ⟨h.1.symm, h.2.1.symm, h.2.2.symm⟩

omit [LinearOrderedField α] in
theorem SameWindow.trans {k : PyStr} {p q u : SensorPreprocessor α} (h : SameWindow k p q)
    (h' : SameWindow k q u) : SameWindow k p u :=
  ⟨h.1.trans h'.1, h.2.1.trans h'.2.1, h.2.2.trans h'.2.2⟩

omit [LinearOrderedField α] in
/-- A window method whose features depend on the settings and the window's cells only returns the
same from two preprocessors with the same settings and window of the reading's sensor. -/
theorem windowed_sync (r : SensorReading α) (cell : Cell α)
    {extract : SensorPreprocessor α → List (Cell α) → Except PyError (List α × List PyStr)}
    (hx : ∀ p q cells, p.windowSize = q.windowSize → p.normalize = q.normalize →
      extract p cells = extract q cells) :
    Sync (SameWindow r.sensorId) (windowed r cell extract) := by
  intro p q h
  have hs : SameWindow r.sensorId (p.appendWindow r.sensorId cell) (q.appendWindow r.sensorId cell) :=
    ⟨h.1, h.2.1, by simp only [SensorPreprocessor.window_appendWindow, if_true, h.2.2]⟩
  rw [windowed_apply, windowed_apply, h.2.2, hx _ _ _ hs.1 hs.2.1]
  cases extract (q.appendWindow r.sensorId cell) ((q.window r.sensorId).append cell).items <;>
    exact ⟨rfl, hs⟩

/-- `process_reading` reads the preprocessor through its settings and its reading's window. -/
theorem processReading_sync (r : SensorReading α) :
    Sync (SameWindow r.sensorId) (processReading lib r) := by
  unfold processReading
  refine .bind (.modify fun p q h => ⟨?_, ?_, ?_⟩) fun _ => ?_
  · simpa using h.1
  · simpa using h.2.1
  · simpa using h.2.2
  split
  · exact .map _ (.bind (.ofExcept _) fun v =>
      windowed_sync r _ fun p q cells h1 h2 => by simp only [h1, h2])
  · exact .map _ (.bind (.ofExcept _) fun b =>
      windowed_sync r _ fun p q cells h1 _ => by simp only [h1])
  · unfold processCamera
    split
    · exact .bind (.ofExcept _) fun _ => by split; exacts [.throw _, .pure _]
    · exact .pure _
  · unfold processAccelerometer
    split
    · exact .map _ (windowed_sync r _ fun _ _ _ _ _ => rfl)
    · exact .pure _
  · exact .pure _

/-- A call on a reading of another sensor keeps the settings and the window of `k`. -/
theorem sameWindow_final_processReading {r : SensorReading α} {k : PyStr} (hk : r.sensorId ≠ k)
    (p : SensorPreprocessor α) : SameWindow k p (final (processReading lib r p)) := by
  refine ⟨(windowSize_final_processReading lib r p).symm, ?_, ?_⟩
  · rw [final_processReading]
    cases appendedCell lib r <;> simp
  · rw [window_final_processReading]
    simp [appendedCells, hk]

/-! ## `create_temporal_embedding` after a run -/

omit [LinearOrderedField α] in
theorem createTemporalEmbedding_of_get [Zero α] {p : SensorPreprocessor α} {k : PyStr}
    {d : Deque (Cell α)} (h : p.featureWindows.get? k = some d) (L : Int) :
    createTemporalEmbedding p k L =
      (cellsArray (if (d.items.length : Int) < L then
        List.replicate (L - d.items.length).toNat (.scalar 0) ++ d.items
      else sliceFrom d.items (-L))).map some := by
  rw [createTemporalEmbedding, h]

omit [LinearOrderedField α] in
theorem cellsArray_scalars {cs : List (Cell α)} (h : ∀ c ∈ cs, c.isScalar) :
    cellsArray cs = .ok cs := by
  simp [cellsArray, List.all_eq_true.mpr h]

omit [LinearOrderedField α] in
/-- Zeros in front of rows are ragged. -/
theorem cellsArray_pad_rows [Zero α] {cs : List (Cell α)} {n : Nat} (hn : 0 < n) (hne : cs ≠ [])
    (h : ∀ c ∈ cs, c.isScalar = false) :
    cellsArray (List.replicate n (Cell.scalar 0) ++ cs) = .error .valueError := by
  obtain ⟨c, hc⟩ := List.exists_mem_of_ne_nil cs hne
  have hs : ¬ (List.replicate n (Cell.scalar (0 : α)) ++ cs).all Cell.isScalar := by
    simp only [List.all_eq_true, not_forall]
    exact ⟨c, List.mem_append_right _ hc, by simp [h c hc]⟩
  have hr : ¬ (List.replicate n (Cell.scalar (0 : α)) ++ cs).all (!·.isScalar) := by
    simp only [List.all_eq_true, not_forall]
    exact ⟨.scalar 0, List.mem_append_left _ (List.mem_replicate.mpr ⟨by omega, rfl⟩),
      by simp [Cell.isScalar]⟩
  rw [cellsArray, if_neg (by simpa only [Bool.or_eq_true, not_or] using And.intro hs hr)]

omit [LinearOrderedField α] in
/-- A window of numbers for `L ≥ 1`: its last `L` cells with zeros in front. -/
theorem createTemporalEmbedding_scalars [Zero α] {p : SensorPreprocessor α} {k : PyStr}
    {d : Deque (Cell α)} (h : p.featureWindows.get? k = some d) (hs : ∀ c ∈ d.items, c.isScalar)
    {L : Int} (hL : 0 < L) :
    createTemporalEmbedding p k L = .ok (some
      (List.replicate (L.toNat - d.items.length) (.scalar 0) ++ d.items.rtake L.toNat)) := by
  rw [createTemporalEmbedding_of_get h]
  split
  · next hlt =>
    rw [List.rtake, Nat.sub_eq_zero_of_le (show d.items.length ≤ L.toNat by omega), List.drop_zero,
      show (L - d.items.length).toNat = L.toNat - d.items.length by omega, cellsArray_scalars]
    · rfl
    · intro c hc
      rcases List.mem_append.mp hc with hc | hc
      · rw [(List.mem_replicate.mp hc).2]
        rfl
      · exact hs c hc
  · next hge =>
    rw [sliceFrom_neg_of_pos _ hL, Nat.sub_eq_zero_of_le (show L.toNat ≤ d.items.length by omega),
      List.replicate_zero, List.nil_append, cellsArray_scalars fun c hc => hs c (Deque.mem_rtake hc)]
    rfl

omit [LinearOrderedField α] in
/-- A window of rows shorter than `L`: the zeros in front make the sequence ragged. -/
theorem createTemporalEmbedding_rows [Zero α] {p : SensorPreprocessor α} {k : PyStr}
    {d : Deque (Cell α)} (h : p.featureWindows.get? k = some d)
    (hr : ∀ c ∈ d.items, c.isScalar = false) (hne : d.items ≠ []) {L : Int}
    (hL : (d.items.length : Int) < L) : createTemporalEmbedding p k L = .error .valueError := by
  rw [createTemporalEmbedding_of_get h, if_pos hL,
    cellsArray_pad_rows (show 0 < (L - d.items.length).toNat by omega) hne hr]
  rfl

/-- `create_temporal_embedding(k, L)` after any run in which `k` read at least once, the window
`w` of `k` being the last `window_size` of its cells:

* if every cell of `k` is a number, then for `L ≥ 1` it returns exactly `L` cells, the last `L`
  of `w` with zeros in front;
* for `L = 0` it returns the whole window, not an empty sequence;
* if every cell of `k` is an accelerometer row and `w` is shorter than `L`, it raises
  `ValueError`. -/
theorem temporal_embedding_of_run [Zero α] (p : SensorPreprocessor α) (rs : List (SensorReading α))
    (k : PyStr) (hk : ∃ r ∈ rs, r.sensorId = k) :
    let w := ((p.window k).items ++ appendedCells lib k rs).rtake p.windowSize
    ((∀ c ∈ (p.window k).items ++ appendedCells lib k rs, c.isScalar) → ∀ L : Int, 0 < L →
      ∃ seq, createTemporalEmbedding (processRun lib p rs) k L = .ok (some seq) ∧
        seq = List.replicate (L.toNat - w.length) (.scalar 0) ++ w.rtake L.toNat ∧
        seq.length = L.toNat) ∧
    createTemporalEmbedding (processRun lib p rs) k 0 = (cellsArray w).map some ∧
    ((∀ c ∈ (p.window k).items ++ appendedCells lib k rs, c.isScalar = false) → w ≠ [] →
      ∀ L : Int, (w.length : Int) < L →
        createTemporalEmbedding (processRun lib p rs) k L = .error .valueError) := by
  obtain ⟨d, hd⟩ := Option.isSome_iff_exists.mp
    ((hasWindow_processRun lib p rs k).mpr (.inr hk))
  have hitems : d.items = ((p.window k).items ++ appendedCells lib k rs).rtake p.windowSize := by
    rw [← items_window_processRun lib p rs k, SensorPreprocessor.window, hd, Option.getD_some]
  dsimp only
  rw [← hitems]
  have hsub : ∀ c ∈ d.items, c ∈ (p.window k).items ++ appendedCells lib k rs := fun c hc =>
    Deque.mem_rtake (hitems ▸ hc)
  refine ⟨fun hs L hL => ⟨_, createTemporalEmbedding_scalars hd (fun c hc => hs c (hsub c hc)) hL,
      rfl, ?_⟩, by simp [createTemporalEmbedding_of_get hd],
    fun hrows hne L hL => createTemporalEmbedding_rows hd (fun c hc => hrows c (hsub c hc)) hne hL⟩
  simp only [List.length_append, List.length_replicate, List.rtake, List.length_drop]
  omega

end Windows

/-- A temperature reading of `"t"` and an accelerometer reading of `"a"`, preprocessed with
`window_size = 10`: the window of `"t"` is padded with zeros, and that of `"a"`, one row, raises
for every `L ≥ 2`. -/
theorem temporal_embedding_of_sample_run :
    let lib : Libraries ℝ := ⟨Real.sqrt, fun _ => .error .valueError⟩
    let p : SensorPreprocessor ℝ := .init 10 true
    let rs := [temperatureRead (pyStr "t") 0 20, accelerometerRead (pyStr "a") 0 0 0 (49 / 5)]
    let law : PyStr → Prop := fun k =>
      let w := ((p.window k).items ++ appendedCells lib k rs).rtake p.windowSize
      ((∀ c ∈ (p.window k).items ++ appendedCells lib k rs, c.isScalar) → ∀ L : Int, 0 < L →
        ∃ seq, createTemporalEmbedding (processRun lib p rs) k L = .ok (some seq) ∧
          seq = List.replicate (L.toNat - w.length) (.scalar 0) ++ w.rtake L.toNat ∧
          seq.length = L.toNat) ∧
      createTemporalEmbedding (processRun lib p rs) k 0 = (cellsArray w).map some ∧
      ((∀ c ∈ (p.window k).items ++ appendedCells lib k rs, c.isScalar = false) → w ≠ [] →
        ∀ L : Int, (w.length : Int) < L →
          createTemporalEmbedding (processRun lib p rs) k L = .error .valueError)
    ((∃ r ∈ rs, r.sensorId = pyStr "t") ∧ law (pyStr "t")) ∧
      (∃ r ∈ rs, r.sensorId = pyStr "a") ∧ law (pyStr "a") := by
  intro lib p rs law
  have ht : ∃ r ∈ rs, r.sensorId = pyStr "t" := ⟨_, List.mem_cons_self _ _, rfl⟩
  have ha : ∃ r ∈ rs, r.sensorId = pyStr "a" :=
    ⟨_, List.mem_cons_of_mem _ (List.mem_singleton_self _), rfl⟩
  exact ⟨⟨ht, temporal_embedding_of_run lib p rs _ ht⟩, ha, temporal_embedding_of_run lib p rs _ ha⟩

end EdgeAI
