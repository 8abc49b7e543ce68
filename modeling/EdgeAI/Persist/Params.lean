import EdgeAI.Persist.RoundTrip
import EdgeAI.Learner.Update

/-!
# `save_learned_parameters` and `load_learned_parameters`

`save_learned_parameters` writes the learner's three dicts and two counters with `json.dump`.
`load_learned_parameters` reads the file with `json.load` and assigns, in order, `feature_weights`,
`anomaly_thresholds` (each value through `tuple()`), `pattern_clusters` (each centroid through
`np.array`), `update_count` and `total_samples`, inside one `try ... except Exception`. So the five
attributes hold whatever the file gave, kept as Python values in `LearnedFields`: a load that
fails part-way returns `False` with what it already assigned, and one whose five reads succeed
returns `True` whatever the values (`load_outcomes`). Saving and loading gives back the fields
with every key's surrogate pairs joined (`load_save`), so exactly when no key holds one
(`load_save_of_pairFree`); a sensor id that is such a pair comes back changed.
-/

namespace EdgeAI

variable {α : Type}

/-! ## Python on parsed values -/

/-- `v[key]` with a string key: a dict looks the key up, any other value is not subscriptable by
a string. -/
def getItem (v : Json α) (key : PyStr) : Except PyError (Json α) :=
  match v with
  | .obj kvs => match lookupEntry key kvs with
    | some x => .ok x
    | none => .error .keyError
  | _ => .error .typeError

/-- `v.items()`: only a dict has it. -/
def itemsOf : Json α → Except PyError (List (PyStr × Json α))
  | .obj kvs => .ok kvs
  | _ => .error .attributeError

/-- The elements `iter(v)` gives, as `tuple(v)` and a `for` loop take them: the items of a list,
the one-character strings of a string, the keys of a dict; numbers, booleans and `None` are not
iterable. -/
def iterOf : Json α → Except PyError (List (Json α))
  | .arr xs => .ok xs
  | .str s => .ok (s.map fun c => .str [c])
  | .obj kvs => .ok (kvs.map fun kv => .str kv.1)
  | _ => .error .typeError

mutual

/-- The shape `np.array` gives a value: a list of items of one shape adds a dimension, anything
but a list is a scalar, and a list of items of unequal shapes is ragged (`none`). -/
def shapeOf : Json α → Option (List Nat)
  | .arr xs => (itemsShape xs).map (xs.length :: ·)
  | _ => some []

def itemsShape : List (Json α) → Option (List Nat)
  | [] => some []
  | x :: xs =>
    match shapeOf x, itemsShape xs with
    | some s, some t => if xs.isEmpty || s == t then some s else none
    | _, _ => none

end

/-- `np.array(c)`: `ValueError` on a ragged nesting of lists, else the array, kept as the value it
was built from (what its `tolist()` gives back for the arrays `save_learned_parameters` wrote). -/
def npArray (c : Json α) : Except PyError (Json α) :=
  if (shapeOf c).isSome then .ok c else .error .valueError

/-! ## The learned attributes -/

/-- The five attributes `load_learned_parameters` assigns, as the Python values they hold. -/
structure LearnedFields (α : Type) where
  featureWeights : Json α
  anomalyThresholds : List (PyStr × List (Json α))
  patternClusters : List (PyStr × List (Json α))
  updateCount : Json α
  totalSamples : Json α

def floatJson (x : α) : Json α := .float (.fin x)

def centroidJson (c : List α) : Json α := .arr (c.map floatJson)

/-- A learner's own fields, as Python values. -/
def IncrementalLearner.learnedFields (l : IncrementalLearner α) : LearnedFields α where
  featureWeights := .obj (l.featureWeights.entries.map fun kv => (kv.1, floatJson kv.2))
  anomalyThresholds :=
    l.anomalyThresholds.entries.map fun kv => (kv.1, [floatJson kv.2.1, floatJson kv.2.2])
  patternClusters := l.patternClusters.entries.map fun kv => (kv.1, kv.2.map centroidJson)
  updateCount := .int l.updateCount
  totalSamples := .int l.totalSamples

/-! ## Saving -/

/-- The `params` dict `save_learned_parameters` dumps, with the time it read. -/
def savedParams (l : IncrementalLearner α) (timestamp : α) : Json α :=
  .obj [(pyStr "feature_weights", l.learnedFields.featureWeights),
    (pyStr "anomaly_thresholds",
      .obj (l.learnedFields.anomalyThresholds.map fun kv => (kv.1, .arr kv.2))),
    (pyStr "pattern_clusters",
      .obj (l.learnedFields.patternClusters.map fun kv => (kv.1, .arr kv.2))),
    (pyStr "metadata", .obj [(pyStr "update_count", .int l.updateCount),
      (pyStr "total_samples", .int l.totalSamples),
      (pyStr "learning_rate", floatJson l.learningRate),
      (pyStr "timestamp", floatJson timestamp)])]

section Codec

variable (codec : FloatCodec α)

/-- `save_learned_parameters`: the text of the file. -/
def saveLearnedParameters (l : IncrementalLearner α) (timestamp : α) : PyStr :=
  dumps codec (savedParams l timestamp)

/-! ## Loading -/

/-- `{k: tuple(v) for k, v in params["anomaly_thresholds"].items()}`. -/
def readBands (params : Json α) : Except PyError (List (PyStr × List (Json α))) := do
  let kvs ← itemsOf (← getItem params (pyStr "anomaly_thresholds"))
  kvs.mapM fun kv => do pure (kv.1, ← iterOf kv.2)

/-- `{k: [np.array(c) for c in v] for k, v in params["pattern_clusters"].items()}`. -/
def readClusters (params : Json α) : Except PyError (List (PyStr × List (Json α))) := do
  let kvs ← itemsOf (← getItem params (pyStr "pattern_clusters"))
  kvs.mapM fun kv => do pure (kv.1, ← (← iterOf kv.2).mapM npArray)

/-- The body of the `try` of `load_learned_parameters` on the parsed `params`: five assignments,
each of which may raise after the ones before it took effect. -/
def loadFields (params : Json α) : Py (LearnedFields α) Unit := do
  let weights ← Py.ofExcept (getItem params (pyStr "feature_weights"))
  modify fun f => { f with featureWeights := weights }
  let bands ← Py.ofExcept (readBands params)
  modify fun f => { f with anomalyThresholds := bands }
  let clusters ← Py.ofExcept (readClusters params)
  modify fun f => { f with patternClusters := clusters }
  let metadata ← Py.ofExcept (getItem params (pyStr "metadata"))
  let updateCount ← Py.ofExcept (getItem metadata (pyStr "update_count"))
  modify fun f => { f with updateCount := updateCount }
  let totalSamples ← Py.ofExcept (getItem metadata (pyStr "total_samples"))
  modify fun f => { f with totalSamples := totalSamples }

/-- `load_learned_parameters` on the file's text: `False` when the text is no JSON or when an
assignment raises, keeping what was assigned before; `True` once all five are assigned. -/
def loadLearnedParameters (text : PyStr) : Py (LearnedFields α) Bool := fun f =>
  match loads codec text with
  | none => .ok false f
  | some params =>
    match loadFields params f with
    | .ok _ f' => .ok true f'
    | .error _ f' => .ok false f'

end Codec

/-! ## What a load does -/

/-- The assignments of a load in turn: each read that succeeds is assigned before the next read,
and the first that raises stops the load with what was assigned so far. -/
theorem loadFields_apply (params : Json α) (f : LearnedFields α) :
    loadFields params f =
      match getItem params (pyStr "feature_weights") with
      | .error e => .error e f
      | .ok w =>
        match readBands params with
        | .error e => .error e ⟨w, f.anomalyThresholds, f.patternClusters, f.updateCount,
            f.totalSamples⟩
        | .ok b =>
          match readClusters params with
          | .error e => .error e ⟨w, b, f.patternClusters, f.updateCount, f.totalSamples⟩
          | .ok c =>
            match getItem params (pyStr "metadata") >>= (getItem · (pyStr "update_count")) with
            | .error e => .error e ⟨w, b, c, f.updateCount, f.totalSamples⟩
            | .ok u =>
              match getItem params (pyStr "metadata") >>= (getItem · (pyStr "total_samples")) with
              | .error e => .error e ⟨w, b, c, u, f.totalSamples⟩
              | .ok t => .ok () ⟨w, b, c, u, t⟩ := by
  simp only [loadFields, Py.modify_apply, Py.bind_apply]
  rcases getItem params (pyStr "feature_weights") with e | w; · rfl
  rcases readBands params with e | b; · rfl
  rcases readClusters params with e | c; · rfl
  rcases getItem params (pyStr "metadata") with e | md; · rfl
  simp only [Py.ofExcept_ok, except_ok_bind]
  rcases getItem md (pyStr "update_count") with e | u; · rfl
  rcases getItem md (pyStr "total_samples") with e | t <;> rfl

section Outcomes

variable (codec : FloatCodec α)

theorem loadLearnedParameters_of_loads {text : PyStr} {params : Json α}
    (h : loads codec text = some params) (f : LearnedFields α) :
    loadLearnedParameters codec text f =
      match loadFields params f with
      | .ok _ f' => .ok true f'
      | .error _ f' => .ok false f' := by
  simp only [loadLearnedParameters, h]

/-- The two outcomes of a load. A record without `metadata` returns `False` with `feature_weights`
already replaced by the record's. A record whose five entries can be read returns `True` with the
values read, whatever they are. -/
theorem load_outcomes (text : PyStr) (f : LearnedFields α) :
    (∀ params weights, loads codec text = some params →
      getItem params (pyStr "feature_weights") = .ok weights →
      getItem params (pyStr "metadata") = .error .keyError →
      ∃ f', loadLearnedParameters codec text f = .ok false f' ∧ f'.featureWeights = weights) ∧
    (∀ params weights bands clusters u t, loads codec text = some params →
      getItem params (pyStr "feature_weights") = .ok weights → readBands params = .ok bands →
      readClusters params = .ok clusters →
      (getItem params (pyStr "metadata") >>= (getItem · (pyStr "update_count"))) = .ok u →
      (getItem params (pyStr "metadata") >>= (getItem · (pyStr "total_samples"))) = .ok t →
      loadLearnedParameters codec text f = .ok true ⟨weights, bands, clusters, u, t⟩) := by
  constructor
  · intro params weights hp hw hmd
    rw [loadLearnedParameters_of_loads codec hp, loadFields_apply, hw]
    rcases readBands params with e | b
    · exact ⟨_, rfl, rfl⟩
    rcases readClusters params with e | c
    · exact ⟨_, rfl, rfl⟩
    simp only [hmd]
    exact ⟨_, rfl, rfl⟩
  · intro params weights bands clusters u t hp hw hb hc hu ht
    rw [loadLearnedParameters_of_loads codec hp, loadFields_apply, hw]
    simp only [hb, hc, hu, ht]

end Outcomes

/-- A record without `metadata`. -/
def recordWithoutMetadata : Json ℚ :=
  .obj [(pyStr "feature_weights", .obj []), (pyStr "anomaly_thresholds", .obj []),
    (pyStr "pattern_clusters", .obj [])]

/-- A record whose five entries read: the weights a list, a band of three numbers, and counters
that are no numbers. -/
def looseRecord : Json ℚ :=
  .obj [(pyStr "feature_weights", .arr []),
    (pyStr "anomaly_thresholds", .obj [(pyStr "t", .arr [.int 1, .int 2, .int 3])]),
    (pyStr "pattern_clusters", .obj []),
    (pyStr "metadata", .obj [(pyStr "update_count", .str (pyStr "x")),
      (pyStr "total_samples", .null)])]

/-- Fields holding one learned weight. -/
def oneWeight : LearnedFields ℚ :=
  ⟨.obj [(pyStr "t_temperature_current", floatJson 1)], [], [], .int 1, .int 2⟩

theorem load_misreads_records :
    (∃ f', loadLearnedParameters rationalCodec (dumps rationalCodec recordWithoutMetadata)
        oneWeight = .ok false f' ∧ f'.featureWeights = .obj []) ∧
      loadLearnedParameters rationalCodec (dumps rationalCodec looseRecord) oneWeight =
        .ok true ⟨.arr [], [(pyStr "t", [.int 1, .int 2, .int 3])], [], .str (pyStr "x"), .null⟩ :=
  ⟨(load_outcomes rationalCodec _ oneWeight).1 _ _ (loads_dumps _ _) rfl rfl,
    (load_outcomes rationalCodec _ oneWeight).2 _ _ _ _ _ _ (loads_dumps _ _) rfl rfl rfl rfl rfl⟩

/-! ## Reading back a saved record -/

section ReadBack

/-- A learner's fields as a load reads them back: every key with its surrogate pairs joined. -/
def LearnedFields.joinKeys (f : LearnedFields α) : LearnedFields α :=
  ⟨f.featureWeights.normalize, joinEntries [] f.anomalyThresholds, joinEntries [] f.patternClusters,
    f.updateCount, f.totalSamples⟩

/-- No key of the dict holds a surrogate pair that a read would join. -/
def PyDict.PairFree {β : Type} (d : PyDict β) : Prop :=
  ∀ k ∈ d.entries.map Prod.fst, joinSurrogates k = k

@[simp] theorem normalize_floatJson (x : α) : (floatJson x).normalize = floatJson x := rfl

@[simp] theorem normalizeItems_floats (xs : List α) :
    normalizeItems (xs.map floatJson) = xs.map floatJson := by
  induction xs with
  | nil => rfl
  | cons x xs ih => simp only [List.map_cons, normalizeItems, normalize_floatJson, ih]

@[simp] theorem normalize_centroidJson (c : List α) : (centroidJson c).normalize = centroidJson c := by
  simp [centroidJson, Json.normalize]

@[simp] theorem normalizeItems_centroids (cs : List (List α)) :
    normalizeItems (cs.map centroidJson) = cs.map centroidJson := by
  induction cs with
  | nil => rfl
  | cons c cs ih => simp only [List.map_cons, normalizeItems, normalize_centroidJson, ih]

theorem normalize_dict {β : Type} (g : β → List (Json α)) (kvs : List (PyStr × β))
    (hg : ∀ b, normalizeItems (g b) = g b) :
    (Json.obj (kvs.map fun kv => (kv.1, Json.arr (g kv.2)))).normalize =
      .obj ((joinEntries [] (kvs.map fun kv => (kv.1, g kv.2))).map fun kv => (kv.1, .arr kv.2)) := by
  have h := joinEntries_map Json.arr [] (kvs.map fun kv => (kv.1, g kv.2))
  rw [List.map_nil, List.map_map] at h
  rw [Json.normalize, normalizeMembers_eq, List.map_map, ← h]
  congr 2
  exact List.map_congr_left fun kv _ => by simp [Json.normalize, hg]

theorem normalize_obj_of_fixed (kvs : List (PyStr × Json α))
    (hfix : ∀ k ∈ kvs.map Prod.fst, joinSurrogates k = k) (hnodup : (kvs.map Prod.fst).Nodup) :
    (Json.obj kvs).normalize = .obj (kvs.map fun kv => (kv.1, kv.2.normalize)) := by
  rw [Json.normalize, normalizeMembers_eq, joinEntries_of_fixed, List.nil_append]
  · intro kv hkv
    obtain ⟨kv', hkv', rfl⟩ := List.mem_map.mp hkv
    exact hfix kv'.1 (List.mem_map_of_mem _ hkv')
  · rw [List.map_nil, List.nil_append, List.map_map]
    exact hnodup

theorem joinEntries_pairFree {β γ : Type} {d : PyDict β} (h : d.PairFree) (g : β → γ) :
    joinEntries [] (d.entries.map fun kv => (kv.1, g kv.2)) = d.entries.map fun kv => (kv.1, g kv.2) := by
  rw [joinEntries_of_fixed, List.nil_append]
  · intro kv hkv
    obtain ⟨kv', hkv', rfl⟩ := List.mem_map.mp hkv
    exact h kv'.1 (List.mem_map_of_mem _ hkv')
  · rw [List.map_nil, List.nil_append, List.map_map]
    exact d.nodup

/-- What `json.load` gives for the saved record: the four entries in order, the dicts with their
keys joined. -/
theorem normalize_savedParams (l : IncrementalLearner α) (timestamp : α) :
    (savedParams l timestamp).normalize = .obj
      [(pyStr "feature_weights", l.learnedFields.featureWeights.normalize),
        (pyStr "anomaly_thresholds",
          .obj ((joinEntries [] l.learnedFields.anomalyThresholds).map fun kv => (kv.1, .arr kv.2))),
        (pyStr "pattern_clusters",
          .obj ((joinEntries [] l.learnedFields.patternClusters).map fun kv => (kv.1, .arr kv.2))),
        (pyStr "metadata", .obj [(pyStr "update_count", .int l.updateCount),
          (pyStr "total_samples", .int l.totalSamples),
          (pyStr "learning_rate", floatJson l.learningRate),
          (pyStr "timestamp", floatJson timestamp)])] := by
  have hbands := normalize_dict (fun b : α × α => [floatJson b.1, floatJson b.2])
    l.anomalyThresholds.entries fun _ => by simp [normalizeItems]
  have hclusters := normalize_dict (fun cs : List (List α) => cs.map centroidJson)
    l.patternClusters.entries fun _ => normalizeItems_centroids _
  simp only [IncrementalLearner.learnedFields, List.map_map, Function.comp_def] at hbands hclusters ⊢
  rw [savedParams, normalize_obj_of_fixed] <;> simp only [List.map_cons, List.map_nil]
  · simp only [IncrementalLearner.learnedFields, List.map_map, Function.comp_def, hbands, hclusters]
    rfl
  all_goals decide

theorem itemsShape_floats (xs : List α) : itemsShape (xs.map floatJson) = some [] := by
  induction xs with
  | nil => rfl
  | cons x xs ih => simp [itemsShape, shapeOf, floatJson, ih]

theorem npArray_centroidJson (c : List α) : npArray (centroidJson c) = .ok (centroidJson c) := by
  simp [npArray, centroidJson, shapeOf, itemsShape_floats]

theorem mapM_iterOf_arr (kvs : List (PyStr × List (Json α))) :
    (kvs.map fun kv => (kv.1, Json.arr kv.2)).mapM (fun kv => do pure (kv.1, ← iterOf kv.2)) =
      .ok kvs := by
  induction kvs with
  | nil => rfl
  | cons kv kvs ih => simp only [List.map_cons, List.mapM_cons, ih]; rfl

theorem mapM_npArray_centroids (kvs : List (PyStr × List (List α))) :
    ((kvs.map fun kv => (kv.1, kv.2.map centroidJson)).map fun kv => (kv.1, Json.arr kv.2)).mapM
        (fun kv => do pure (kv.1, ← (← iterOf kv.2).mapM npArray)) =
      .ok (kvs.map fun kv => (kv.1, kv.2.map centroidJson)) := by
  induction kvs with
  | nil => rfl
  | cons kv kvs ih =>
    have hc : (kv.2.map centroidJson).mapM npArray = .ok (kv.2.map centroidJson) := by
      simpa using except_mapM_ok (g := id) fun c hc => by
        obtain ⟨c, -, rfl⟩ := List.mem_map.mp hc
        exact npArray_centroidJson c
    simp only [List.map_cons, List.mapM_cons, ih]
    simp only [iterOf, except_ok_bind, hc]
    rfl

variable (codec : FloatCodec α) (l : IncrementalLearner α) (timestamp : α)

theorem readBands_savedParams :
    readBands (savedParams l timestamp).normalize =
      .ok (joinEntries [] l.learnedFields.anomalyThresholds) := by
  rw [readBands, normalize_savedParams]
  exact mapM_iterOf_arr _

theorem readClusters_savedParams :
    readClusters (savedParams l timestamp).normalize =
      .ok (joinEntries [] l.learnedFields.patternClusters) := by
  have h : joinEntries [] l.learnedFields.patternClusters =
      (joinEntries [] l.patternClusters.entries).map fun kv => (kv.1, kv.2.map centroidJson) :=
    joinEntries_map _ [] _
  rw [readClusters, normalize_savedParams, h]
  exact mapM_npArray_centroids _

/-- **Saving and loading gives back the learner's fields with every key's surrogate pairs
joined**, into any learner, and returns `True`. -/
theorem load_save (f : LearnedFields α) :
    loadLearnedParameters codec (saveLearnedParameters codec l timestamp) f =
      .ok true l.learnedFields.joinKeys := by
  rw [saveLearnedParameters, loadLearnedParameters_of_loads codec (loads_dumps codec _),
    loadFields_apply, readBands_savedParams, readClusters_savedParams, normalize_savedParams]
  rfl

/-- When no key of the three dicts holds a surrogate pair, a load gives back exactly the saved
learner's fields. -/
theorem load_save_of_pairFree (hw : l.featureWeights.PairFree) (hb : l.anomalyThresholds.PairFree)
    (hc : l.patternClusters.PairFree) (f : LearnedFields α) :
    loadLearnedParameters codec (saveLearnedParameters codec l timestamp) f =
      .ok true l.learnedFields := by
  have hw' : l.learnedFields.featureWeights.normalize = l.learnedFields.featureWeights := by
    rw [IncrementalLearner.learnedFields, Json.normalize, normalizeMembers_eq, List.map_map]
    simp only [Function.comp_def, normalize_floatJson]
    rw [joinEntries_pairFree hw]
  have hb' : joinEntries [] l.learnedFields.anomalyThresholds = l.learnedFields.anomalyThresholds :=
    joinEntries_pairFree hb fun b => [floatJson b.1, floatJson b.2]
  have hc' : joinEntries [] l.learnedFields.patternClusters = l.learnedFields.patternClusters :=
    joinEntries_pairFree hc (·.map centroidJson)
  rw [load_save, LearnedFields.joinKeys, hw', hb', hc']

end ReadBack

/-! ## A sensor id of a surrogate pair -/

section SurrogateKey

variable [LinearOrderedField α] (lib : Libraries α)

/-- A sensor id made of the two halves of a surrogate pair, the Python string `"\ud800\udc00"`. -/
def surrogatePairId : PyStr := [codeUnit 0xd800, codeUnit 0xdc00]

/-- A one-feature temperature record of that sensor. -/
def pairRecord (x : α) : ProcessedFeatures α :=
  ⟨[x], [pyStr "temperature_current"], x, surrogatePairId⟩

theorem weightsGroup_pairRecords :
    weightsGroup surrogatePairId [.ofFeatures (pairRecord (0 : α)), .ofFeatures (pairRecord 1)]
      .empty = .ok () (PyDict.empty.set (featureKey surrogatePairId (pyStr "temperature_current")) 1) := by
  have hvar : Np.varAxis0 [[(0 : α)], [1]] = [1 / 4] := by
    norm_num [Np.varAxis0, Np.width, Np.column, Np.var, Np.mean, List.range_succ, List.range_zero]
  have hpos : (0 : α) < [(1 / 4 : α)].sum := by norm_num
  have hweights : [(1 / 4 : α)].map (· / [(1 / 4 : α)].sum) = [1] := by norm_num
  simp only [weightsGroup, Experience.ofFeatures, pairRecord, lengthsDiffer, List.length_cons,
    List.length_singleton, List.any_cons, List.any_nil, List.map_cons, List.map_nil, hvar, hpos,
    hweights, List.enum_singleton, List.forM_cons', List.forM_nil', pyIndex, blendWeight]
  rfl

/-- Two records of the sensor, learned with `memory_size = 1000` and `update_threshold = 2`: the
second call's pass weighs the one feature `1.0` and skips the bands and the centroids, which need
five records. -/
theorem pairRun_maps (learningRate : α) (draws : Draws) :
    let l := feed lib (.init learningRate 1000 2) [(pairRecord 0, draws), (pairRecord 1, draws)]
    l.featureWeights = PyDict.empty.set (featureKey surrogatePairId (pyStr "temperature_current")) 1 ∧
      l.anomalyThresholds = .empty ∧ l.patternClusters = .empty := by
  set l₁ := (IncrementalLearner.init learningRate 1000 2).appendExperience (pairRecord 0)
  have h₁ : final (addExperience lib draws (pairRecord 0) (.init learningRate 1000 2)) = l₁ := by
    rw [addExperience_apply, if_neg (by simp [l₁, IncrementalLearner.appendExperience,
      IncrementalLearner.init, List.rtake])]
    rfl
  have hitems : (l₁.appendExperience (pairRecord 1)).experienceBuffer.items =
      [.ofFeatures (pairRecord 0), .ofFeatures (pairRecord 1)] := by
    simp [l₁, IncrementalLearner.appendExperience, IncrementalLearner.init, List.rtake]
  have hfit : NamesFit (l₁.appendExperience (pairRecord 1)).experienceBuffer.items := by
    rw [hitems]
    intro e he
    simp only [List.mem_cons, List.mem_singleton, List.not_mem_nil, or_false] at he
    rcases he with rfl | rfl <;> rfl
  have hgroups : (sensorGroups [Experience.ofFeatures (pairRecord (0 : α)),
      .ofFeatures (pairRecord 1)]).entries = [(surrogatePairId, [.ofFeatures (pairRecord 0),
        .ofFeatures (pairRecord 1)])] :=
    entries_sensorGroups_single (by simp [Experience.ofFeatures, pairRecord]) (by simp)
  have hshort : [Experience.ofFeatures (pairRecord (0 : α)), .ofFeatures (pairRecord 1)].length < 5 ∨
      lengthsDiffer [Experience.ofFeatures (pairRecord (0 : α)), .ofFeatures (pairRecord 1)] :=
    .inl (by simp)
  simp only [feed, h₁]
  rw [addExperience_apply, if_pos (by rw [hitems]; rfl), incrementalUpdate_fit lib draws _
    (by rw [hitems]; simp) hfit, hitems]
  simp only [updatePatternClusters, updateFeatureWeights, updateAnomalyThresholds, hgroups,
    Py.forM_singleton, clustersGroup_skip _ _ hshort, thresholdsGroup_skip _ hshort]
  exact ⟨by simp [l₁, IncrementalLearner.appendExperience, IncrementalLearner.init,
    weightsGroup_pairRecords], rfl, rfl⟩

/-- After two records of the sensor `"\ud800\udc00"`, the learner has one weight, under the key
`"\ud800\udc00_temperature_current"`. Saving and loading returns `True`, but the key read back is
`"\U00010000_temperature_current"`: `json` writes the two halves as `\ud800\udc00` and reads that
escape back as the one code point of the pair. -/
theorem load_save_joins_sensor_id (codec : FloatCodec α) (learningRate timestamp : α)
    (draws : Draws) (f : LearnedFields α) :
    let l := feed lib (.init learningRate 1000 2) [(pairRecord 0, draws), (pairRecord 1, draws)]
    l.featureWeights.entries = [(surrogatePairId ++ pyStr "_temperature_current", 1)] ∧
      loadLearnedParameters codec (saveLearnedParameters codec l timestamp) f =
        .ok true { l.learnedFields with
          featureWeights := .obj [(codeUnit 0x10000 :: pyStr "_temperature_current", floatJson 1)] } := by
  obtain ⟨hw, hb, hc⟩ := pairRun_maps lib learningRate draws
  dsimp only
  refine ⟨by rw [hw]; rfl, ?_⟩
  rw [load_save]
  simp only [LearnedFields.joinKeys, IncrementalLearner.learnedFields, hw, hb, hc]
  rfl

end SurrogateKey

end EdgeAI
