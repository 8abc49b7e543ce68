import EdgeAI.Learner.State
import EdgeAI.Preprocess.Records

/-!
# The keys of the learned dicts

The weights and bands are stored under `f"{sensor_id}_{name}"`, joined with `_`, which sensor ids
and feature names both contain. Over the names `process_reading` emits the join is still one to
one: no emitted name ends with `_` followed by another emitted name (`vocabulary_suffix_free`), so
a key determines its name, and with it its sensor id, whatever the sensor ids are.
-/

namespace EdgeAI

/-- A key split after the sensor id `s` and after `s ++ u` leaves `u` empty, when both rests are
`_` followed by an emitted name. -/
theorem key_split_nil {n n' u : PyStr} (hn : n ∈ featureVocabulary)
    (hn' : n' ∈ featureVocabulary) (h : pyStr "_" ++ n = u ++ (pyStr "_" ++ n')) : u = [] := by
  cases u with
  | nil => rfl
  | cons x u =>
    have hsep : pyStr "_" = [codePoint '_'] := rfl
    rw [hsep, List.singleton_append, List.cons_append, List.cons.injEq] at h
    exact absurd ⟨u, by rw [h.2, hsep]⟩ (vocabulary_suffix_free n hn n' hn')

theorem featureKey_injective {s s' n n' : PyStr} (hn : n ∈ featureVocabulary)
    (hn' : n' ∈ featureVocabulary) (h : featureKey s n = featureKey s' n') : s = s' ∧ n = n' := by
  unfold featureKey at h
  rw [List.append_assoc, List.append_assoc] at h
  rcases List.append_eq_append_iff.mp h with ⟨u, rfl, h'⟩ | ⟨u, rfl, h'⟩
  · obtain rfl := key_split_nil hn hn' h'
    simpa using h'
  · obtain rfl := key_split_nil hn' hn h'
    simpa using h'.symm

theorem featureKey_ne_of_sensor_ne {s s' n n' : PyStr} (hs : s ≠ s')
    (hn : n ∈ featureVocabulary) (hn' : n' ∈ featureVocabulary) :
    featureKey s n ≠ featureKey s' n' :=
  fun h => hs (featureKey_injective hn hn' h).1

theorem featureKey_ne_of_name_ne (s : PyStr) {n n' : PyStr} (h : n ≠ n') :
    featureKey s n ≠ featureKey s n' := by
  unfold featureKey
  exact fun h' => h (List.append_cancel_left h')

end EdgeAI
