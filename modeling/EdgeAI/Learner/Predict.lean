import EdgeAI.Learner.Detect
import EdgeAI.Learner.Runs

/-!
# `predict_pattern` against centroids of any length

`predict_pattern` measures the record against each centroid of its sensor with
`np.linalg.norm(features.features - c)` and returns the index of the first least distance. The
subtraction broadcasts, so what happens depends on the lengths alone (`predict_pattern_by_lengths`):

* no centroids for the sensor: `None`;
* every centroid of the record's length: the index of a nearest centroid;
* a centroid whose length is neither the record's nor one, for a record of length other than
  one: `ValueError`;
* a record of one feature: an index, whatever the centroids' lengths, each distance taken against
  the record's one value broadcast along the centroid.

A sensor's records grow as its window fills while its centroids keep the length they were seeded
at, so the third case is reachable: thirteen temperature records seed centroids of length two, and
the fourteenth record, of six features, makes `predict_pattern` raise
(`predict_pattern_raises_after_thirteen`).
-/

namespace EdgeAI

namespace Np

variable {α : Type} [LinearOrderedField α]

/-- The step of `np.argmin`'s scan: keep the entry seen so far unless the next one is smaller. -/
def lessEntry (acc p : Nat × α) : Nat × α := if p.2 < acc.2 then p else acc

theorem argmin_cons (x : α) (rest : List α) :
    argmin (x :: rest) = ((rest.enumFrom 1).foldl lessEntry (0, x)).1 := rfl

/-- The scan's invariant: the entry it keeps is the start or a scanned one, and at most the start
and every scanned entry. -/
theorem foldl_lessEntry_spec (ps : List (Nat × α)) (acc : Nat × α) :
    (ps.foldl lessEntry acc = acc ∨ ps.foldl lessEntry acc ∈ ps) ∧
      (ps.foldl lessEntry acc).2 ≤ acc.2 ∧ ∀ p ∈ ps, (ps.foldl lessEntry acc).2 ≤ p.2 := by
  induction ps generalizing acc with
  | nil => simp
  | cons p ps ih =>
    obtain ⟨hmem, hacc, hall⟩ := ih (lessEntry acc p)
    have hstep : (lessEntry acc p = acc ∨ lessEntry acc p = p) ∧ (lessEntry acc p).2 ≤ acc.2 ∧
        (lessEntry acc p).2 ≤ p.2 := by
      unfold lessEntry
      split_ifs with h
      · exact ⟨.inr rfl, h.le, le_refl _⟩
      · exact ⟨.inl rfl, le_refl _, not_lt.mp h⟩
    rw [List.foldl_cons]
    refine ⟨?_, hacc.trans hstep.2.1, ?_⟩
    · rcases hmem with h | h
      · rw [h]
        rcases hstep.1 with h' | h'
        · exact .inl h'
        · rw [h']; exact .inr (List.mem_cons_self _ _)
      · exact .inr (List.mem_cons_of_mem _ h)
    · rintro q (_ | ⟨_, hq⟩)
      exacts [hacc.trans hstep.2.2, hall q hq]

/-- `np.argmin` of a non-empty list is the index of a least element. -/
theorem argmin_spec {xs : List α} (hne : xs ≠ []) :
    ∃ v, xs[argmin xs]? = some v ∧ ∀ w ∈ xs, v ≤ w := by
  obtain ⟨x, rest, rfl⟩ := List.exists_cons_of_ne_nil hne
  obtain ⟨hmem, hacc, hall⟩ := foldl_lessEntry_spec (rest.enumFrom 1) (0, x)
  set r := (rest.enumFrom 1).foldl lessEntry (0, x)
  have henum : ∀ p ∈ (x :: rest).enum, r.2 ≤ p.2 := by
    rw [List.enum_cons]
    rintro p (_ | ⟨_, hp⟩)
    exacts [hacc, hall p hp]
  have hr : r ∈ (x :: rest).enum := by
    rw [List.enum_cons]
    rcases hmem with h | h
    · exact h ▸ List.mem_cons_self _ _
    · exact List.mem_cons_of_mem _ h
  refine ⟨r.2, by rw [argmin_cons]; exact List.mem_enum_iff_getElem?.mp hr, fun w hw => ?_⟩
  obtain ⟨i, hi, rfl⟩ := List.getElem_of_mem hw
  exact henum (i, (x :: rest)[i]) (List.mem_enum_iff_getElem?.mpr (List.getElem?_eq_getElem hi))

omit [LinearOrderedField α] in
/-- Broadcasting raises nothing but `ValueError`. -/
theorem broadcast_error {op : α → α → α} {x y : List α} {e : PyError}
    (h : broadcast op x y = .error e) : e = .valueError := by
  unfold broadcast at h
  split at h
  · cases h
  · split at h
    · cases h
    · cases h
    · exact (Except.error.inj h).symm

omit [LinearOrderedField α] in
theorem broadcast_singleton_left (op : α → α → α) (a : α) (y : List α) :
    ∃ z, broadcast op [a] y = .ok z := by
  unfold broadcast
  split
  · exact ⟨_, rfl⟩
  · split
    · exact ⟨_, rfl⟩
    · exact ⟨_, rfl⟩
    · simp_all

end Np

section Predict

variable {α : Type} [LinearOrderedField α] (sqrt : α → α)

/-- A list computation that raises `e` at one element and returns or raises `e` at every other
raises `e`. -/
theorem except_mapM_error {β γ : Type} {g : β → Except PyError γ} {e : PyError} :
    ∀ {l : List β}, (∀ x ∈ l, g x = .error e ∨ ∃ y, g x = .ok y) → (∃ x ∈ l, g x = .error e) →
      l.mapM g = .error e
  | [], _, ⟨_, hx, _⟩ => absurd hx (List.not_mem_nil _)
  | x :: xs, hall, ⟨z, hz, hze⟩ => by
    rcases hall x (List.mem_cons_self _ _) with hx | ⟨y, hy⟩
    · exact except_mapM_cons_error hx xs
    · have hz' : z ∈ xs := by
        rcases List.mem_cons.mp hz with rfl | hz
        · rw [hy] at hze; cases hze
        · exact hz
      have ih := except_mapM_error (fun w hw => hall w (List.mem_cons_of_mem _ hw)) ⟨z, hz', hze⟩
      rw [List.mapM_cons, hy, ih]
      rfl

/-- The distance `np.linalg.norm(features - c)` of a record to a centroid, as `predict_pattern`
computes it. -/
def centroidDistance (features c : List α) : Except PyError α := do
  let d ← Np.broadcast (· - ·) features c
  pure (Np.norm sqrt d)

theorem predictPattern_eq (l : IncrementalLearner α) (f : ProcessedFeatures α) :
    predictPattern sqrt l f =
      match l.patternClusters.get? f.sensorId with
      | none => .ok none
      | some clusters => clusters.mapM (centroidDistance sqrt f.features) >>= fun distances =>
        pure (if distances.isEmpty then none else some (Np.argmin distances)) := rfl

/-- With the distances to a non-empty list of centroids computed, the index of the nearest. -/
theorem predictPattern_of_distances {l : IncrementalLearner α} {f : ProcessedFeatures α}
    {cs : List (List α)} {ds : List α} (hcs : l.patternClusters.get? f.sensorId = some cs)
    (hds : cs.mapM (centroidDistance sqrt f.features) = .ok ds) (hne : ds ≠ []) :
    predictPattern sqrt l f = .ok (some (Np.argmin ds)) := by
  rw [predictPattern_eq, hcs]
  simp only [hds, except_ok_bind, List.isEmpty_iff, hne, if_false]
  rfl

/-- `predict_pattern` by the lengths of the record and of its sensor's centroids: `None` without
centroids; a nearest centroid's index when all have the record's length; `ValueError` when one
has a length that is neither the record's nor one, for a record of length other than one; and an
index, whatever the centroids' lengths, for a record of one feature. -/
theorem predict_pattern_by_lengths (l : IncrementalLearner α) (f : ProcessedFeatures α) :
    (l.patternClusters.get? f.sensorId = none → predictPattern sqrt l f = .ok none) ∧
    (∀ cs, l.patternClusters.get? f.sensorId = some cs → cs ≠ [] →
      (∀ c ∈ cs, c.length = f.features.length) →
      ∃ i c, predictPattern sqrt l f = .ok (some i) ∧ cs[i]? = some c ∧
        ∀ c' ∈ cs, Np.norm sqrt (List.zipWith (· - ·) f.features c) ≤
          Np.norm sqrt (List.zipWith (· - ·) f.features c')) ∧
    (∀ cs c, l.patternClusters.get? f.sensorId = some cs → c ∈ cs →
      c.length ≠ f.features.length → c.length ≠ 1 → f.features.length ≠ 1 →
      predictPattern sqrt l f = .error .valueError) ∧
    (∀ cs, l.patternClusters.get? f.sensorId = some cs → cs ≠ [] → f.features.length = 1 →
      ∃ i, predictPattern sqrt l f = .ok (some i) ∧ i < cs.length) := by
  refine ⟨fun h => by rw [predictPattern_eq, h], ?same, ?raise, ?single⟩
  case same =>
    intro cs hcs hne hlen
    set ds := cs.map fun c => Np.norm sqrt (List.zipWith (· - ·) f.features c)
    have hd : cs.mapM (centroidDistance sqrt f.features) = .ok ds :=
      except_mapM_ok fun c hc => by
        rw [centroidDistance, Np.broadcast_same_length _ (hlen c hc).symm]; rfl
    have hne' : ds ≠ [] := by simpa [ds] using hne
    obtain ⟨v, hv, hmin⟩ := Np.argmin_spec hne'
    rw [List.getElem?_map, Option.map_eq_some'] at hv
    obtain ⟨c, hc, rfl⟩ := hv
    exact ⟨Np.argmin ds, c, predictPattern_of_distances sqrt hcs hd hne', hc,
      fun c' hc' => hmin _ (List.mem_map_of_mem _ hc')⟩
  case raise =>
    intro cs c hcs hc hlen h1 hf1
    have herr : cs.mapM (centroidDistance sqrt f.features) = .error .valueError := by
      refine except_mapM_error (fun c' _ => ?_) ⟨c, hc, ?_⟩
      · rcases h : Np.broadcast (· - ·) f.features c' with e | d
        · rw [Np.broadcast_error h] at h
          exact .inl (by rw [centroidDistance, h]; rfl)
        · exact .inr ⟨_, by rw [centroidDistance, h]; rfl⟩
      · rw [centroidDistance, Np.broadcast_mismatch _ (Ne.symm hlen) hf1 h1]; rfl
    rw [predictPattern_eq, hcs]
    dsimp only
    rw [herr]
    rfl
  case single =>
    intro cs hcs hne h1
    obtain ⟨a, ha⟩ := List.length_eq_one.mp h1
    obtain ⟨ds, hds, hlen, -⟩ := except_mapM_exists (P := fun _ => True)
      (f := centroidDistance sqrt f.features) (l := cs) fun c _ => by
        obtain ⟨z, hz⟩ := Np.broadcast_singleton_left (· - ·) a c
        exact ⟨_, by rw [centroidDistance, ha, hz]; rfl, trivial⟩
    have hne' : ds ≠ [] := fun h => hne (List.length_eq_zero.mp (hlen ▸ h ▸ rfl))
    obtain ⟨v, hv, -⟩ := Np.argmin_spec hne'
    exact ⟨Np.argmin ds, predictPattern_of_distances sqrt hcs hds hne',
      hlen ▸ (List.getElem?_eq_some_iff.mp hv).1⟩

/-- Fourteen readings of one temperature sensor, the first thirteen records learned with
`memory_size = update_threshold = 5`: the learner has centroids of length two for the sensor, and
`predict_pattern` on the fourteenth record, of six features, raises `ValueError`. -/
theorem predict_pattern_raises_after_thirteen :
    ∃ (recs : List (ProcessedFeatures ℝ)) (f : ProcessedFeatures ℝ),
      streamReadings ⟨Real.sqrt, fun _ => .error .valueError⟩ (.init 10 true)
          ((List.range 14).map fun i : Nat => temperatureAt 20 (i : ℝ)) =
        (recs ++ [f]).map (.ok ∘ some) ∧
      predictPattern Real.sqrt (feed ⟨Real.sqrt, fun _ => .error .valueError⟩
        (.init (1 / 100) 5 5) (recs.map (·, Draws.first))) f = .error .valueError := by
  obtain ⟨recs, f, hrecs, hsid, -, h6, hshape⟩ :=
    thirteen_records_shape ⟨Real.sqrt, fun _ => .error .valueError⟩ true (1 / 100 : ℝ) Draws.first
  obtain ⟨c, cs, hget, hlen⟩ := hshape.uniform 2 rfl
  have hc : c.length = 2 := hlen c (List.mem_cons_self _ _)
  exact ⟨recs, f, hrecs, (predict_pattern_by_lengths Real.sqrt _ f).2.2.1 (c :: cs) c
    (hsid ▸ hget) (List.mem_cons_self _ _) (by omega) (by omega) (by omega)⟩

end Predict

end EdgeAI
