import EdgeAI.Learner.State

/-!
# The update passes, group by group

Each pass walks `sensor_groups`, which holds for each sensor of the buffer the sensor's
experiences in buffer order (`get?_sensorGroups`), and treats every group by the group's own
method. The facts below are therefore about one group:

* a group that is too small or mixes feature lengths is skipped, and the state stays as it was;
* the weight and band methods never raise on experiences with a name for each feature, which is
  what every record of `process_reading` has;
* the cluster method keeps every centroid at the group's length when the centroids already have
  it, and raises `ValueError` on a first centroid of another length, neither of length one.
-/

namespace EdgeAI

/-! ## `sensor_groups` -/

section Groups

variable {α : Type}

theorem sensorGroups_append (buf : List (Experience α)) (e : Experience α) :
    sensorGroups (buf ++ [e]) =
      (sensorGroups buf).set e.sensorId (((sensorGroups buf).get? e.sensorId).getD [] ++ [e]) := by
  simp only [sensorGroups, List.foldl_append, List.foldl_cons, List.foldl_nil]

/-- The group of `s` is the buffer's experiences of `s`, in buffer order. -/
theorem get?_sensorGroups (buf : List (Experience α)) (s : PyStr) :
    (sensorGroups buf).get? s =
      if (buf.filter (·.sensorId == s)).isEmpty then none else some (buf.filter (·.sensorId == s)) := by
  induction buf using List.reverseRecOn with
  | nil => rfl
  | append_singleton buf e ih =>
    rw [sensorGroups_append, PyDict.get?_set, List.filter_append, ih]
    by_cases h : s = e.sensorId
    · subst h
      cases hF : buf.filter (·.sensorId == e.sensorId) <;> simp [ih, hF]
    · simp [h, Ne.symm h]

theorem mem_sensorGroups {buf : List (Experience α)} {g : PyStr × List (Experience α)}
    (hg : g ∈ (sensorGroups buf).entries) :
    g.2 = buf.filter (·.sensorId == g.1) ∧ g.2 ≠ [] := by
  have h := PyDict.get?_of_mem hg
  rw [get?_sensorGroups] at h
  split at h
  · cases h
  · rename_i hne
    rw [← Option.some.inj h]
    exact ⟨rfl, by simpa using hne⟩

/-- A buffer of one sensor is one group. -/
theorem entries_sensorGroups_single {buf : List (Experience α)} {s : PyStr}
    (hs : ∀ e ∈ buf, e.sensorId = s) (hne : buf ≠ []) :
    (sensorGroups buf).entries = [(s, buf)] := by
  induction buf using List.reverseRecOn with
  | nil => exact absurd rfl hne
  | append_singleton buf e ih =>
    have he := hs e (by simp)
    rw [sensorGroups_append, he]
    by_cases hb : buf = []
    · subst hb; rfl
    · have ih := ih (fun e' h' => hs e' (by simp [h'])) hb
      simp [PyDict.set, PyDict.get?, ih, setEntry, lookupEntry]

/-- The experiences of a group all have the first one's feature length. -/
theorem lengthsDiffer_eq_false {e : Experience α} {es : List (Experience α)}
    (h : lengthsDiffer (e :: es) = false) :
    ∀ e' ∈ e :: es, e'.features.length = e.features.length := by
  simp only [lengthsDiffer, List.any_eq_false, decide_eq_true_eq, not_not] at h
  intro e' he'
  rcases List.mem_cons.mp he' with rfl | he'
  · rfl
  · exact h e' he'

theorem mem_of_mem_group {buf : List (Experience α)} {g : PyStr × List (Experience α)}
    (hg : g ∈ (sensorGroups buf).entries) {e : Experience α} (he : e ∈ g.2) :
    e ∈ buf ∧ e.sensorId = g.1 := by
  rw [(mem_sensorGroups hg).1, List.mem_filter, beq_iff_eq] at he
  exact he

theorem pyIndex_of_lt {xs : List α} {i : Nat} (h : i < xs.length) : pyIndex xs i = .ok xs[i] := by
  simp [pyIndex, h]

theorem pyIndex_eq_ok {xs : List α} {i : Nat} {x : α} : pyIndex xs i = .ok x ↔ xs[i]? = some x := by
  unfold pyIndex
  split <;> rename_i h <;> simp [h]

theorem pyIndex_mem {xs : List α} {i : Nat} {x : α} (h : pyIndex xs i = .ok x) : x ∈ xs :=
  List.getElem?_mem (pyIndex_eq_ok.mp h)

end Groups

/-! ## Skipped groups -/

section Skip

variable {α : Type} [LinearOrderedField α]

theorem weightsGroup_skip {s : PyStr} {exps : List (Experience α)}
    (h : exps.length < 2 ∨ lengthsDiffer exps = true) (d : PyDict α) :
    weightsGroup s exps d = .ok () d := by
  unfold weightsGroup
  split
  · rfl
  · rw [if_pos h]; rfl

theorem thresholdsGroup_skip (sqrt : α → α) {s : PyStr} {exps : List (Experience α)}
    (h : exps.length < 5 ∨ lengthsDiffer exps = true) (d : PyDict (α × α)) :
    thresholdsGroup sqrt s exps d = .ok () d := by
  unfold thresholdsGroup
  split
  · rfl
  · rw [if_pos h]; rfl

theorem clustersGroup_skip (sqrt : α → α) (draws : Draws) {s : PyStr}
    {exps : List (Experience α)} (h : exps.length < 5 ∨ lengthsDiffer exps = true)
    (d : PyDict (List (List α))) :
    clustersGroup sqrt draws s exps d = .ok () d := by
  unfold clustersGroup
  rw [if_pos h]; rfl

end Skip

/-! ## The weight and band methods return -/

section Returns

variable {α : Type} [LinearOrderedField α]

theorem weightsGroup_noRaise (s : PyStr) {exps : List (Experience α)}
    (h : ∀ e ∈ exps, e.featureNames.length ≤ e.features.length) :
    NoRaise (weightsGroup s exps) := by
  cases exps with
  | nil => exact NoRaise.pure _
  | cons e es =>
    refine NoRaise.ite (NoRaise.pure _) (NoRaise.ite ?_ (NoRaise.pure _))
    refine NoRaise.forM fun x hx => NoRaise.bind (NoRaise.ofExcept (pyIndex_of_lt ?_))
      fun _ => NoRaise.modify _
    have := List.fst_lt_of_mem_enum hx
    have := h e (List.mem_cons_self _ _)
    simp only [List.length_map, Np.length_varAxis0]
    exact lt_of_lt_of_le ‹_› ‹_›

theorem thresholdsGroup_noRaise (sqrt : α → α) (s : PyStr) {exps : List (Experience α)}
    (h : ∀ e ∈ exps, e.featureNames.length ≤ e.features.length) :
    NoRaise (thresholdsGroup sqrt s exps) := by
  cases exps with
  | nil => exact NoRaise.pure _
  | cons e es =>
    refine NoRaise.ite (NoRaise.pure _) ?_
    have hi : ∀ x ∈ e.featureNames.enum, x.1 < Np.width ((e :: es).map (·.features)) :=
      fun x hx => lt_of_lt_of_le (List.fst_lt_of_mem_enum hx) (h e (List.mem_cons_self _ _))
    refine NoRaise.forM fun x hx => NoRaise.bind
      (NoRaise.ofExcept (pyIndex_of_lt (by simpa using hi x hx))) fun _ => NoRaise.bind
      (NoRaise.ofExcept (pyIndex_of_lt (by simpa using hi x hx))) fun _ => NoRaise.modify _

end Returns

/-! ## The cluster method and the lengths of centroids -/

section Clusters

variable {α : Type} [LinearOrderedField α] (sqrt : α → α)

omit sqrt in
theorem mem_of_mem_close {rows : List (List α)} {ds : List α} {m : α} {r : List α}
    (h : r ∈ (rows.zip ds).filterMap fun (row, d) => if d < m then some row else none) :
    r ∈ rows := by
  obtain ⟨⟨row, d⟩, hrd, hr⟩ := List.mem_filterMap.mp h
  by_cases hd : d < m <;> simp only [hd, if_true, if_false, reduceCtorEq, Option.some.injEq] at hr
  exact hr ▸ (List.of_mem_zip hrd).1

/-- The blend `0.7 * c + 0.3 * mean(close)` of a centroid with rows of its own length. -/
theorem blend_same_length {center : List α} {close : List (List α)}
    (hmem : ∀ r ∈ close, r.length = center.length) (hne : close ≠ []) :
    ∃ c, Np.broadcast (· + ·) (center.map (7 / 10 * ·)) ((Np.meanAxis0 close).map (3 / 10 * ·)) =
      .ok c ∧ c.length = center.length := by
  obtain ⟨r, rs, rfl⟩ := List.exists_cons_of_ne_nil hne
  have hw : Np.width (r :: rs) = center.length := hmem r (List.mem_cons_self _ _)
  refine ⟨_, Np.broadcast_same_length _ (by simp [hw]), by simp [hw]⟩

theorem recenter_same_length {rows : List (List α)} {center : List α}
    (h : ∀ row ∈ rows, row.length = center.length) :
    ∃ c, recenter sqrt rows center = .ok c ∧ c.length = center.length := by
  have hd : rows.mapM (fun row => Np.broadcast (· - ·) row center) =
      .ok (rows.map fun row => List.zipWith (· - ·) row center) :=
    except_mapM_ok fun row hr => Np.broadcast_same_length _ (h row hr)
  simp only [recenter, hd, except_ok_bind]
  split
  · exact ⟨center, rfl, rfl⟩
  · rename_i hne
    exact blend_same_length (fun r hr => h r (mem_of_mem_close hr)) fun hnil => hne (by rw [hnil]; rfl)

/-- A first centroid and rows of two lengths, neither of them one, do not broadcast. -/
theorem recenter_mismatch {row : List α} {rows : List (List α)} {center : List α}
    (h : row.length ≠ center.length) (hr : row.length ≠ 1) (hc : center.length ≠ 1) :
    recenter sqrt (row :: rows) center = .error .valueError := by
  simp only [recenter, except_mapM_cons_error (f := fun row => Np.broadcast (· - ·) row center)
    (Np.broadcast_mismatch _ h hr hc)]
  rfl

/-- The cluster method on a group it does not skip: seed the sensor's centroids if it has none,
then recenter each of them. -/
theorem clustersGroup_apply (draws : Draws) (s : PyStr) {exps : List (Experience α)}
    (h : ¬ (exps.length < 5 ∨ lengthsDiffer exps = true)) (d : PyDict (List (List α))) :
    clustersGroup sqrt draws s exps d =
      let rows := exps.map (·.features)
      let d' := if (d.get? s).isNone then
          d.set s ((draws.choice s rows.length (min 5 rows.length)).map rows.get) else d
      match ((d'.get? s).getD []).mapM (recenter sqrt rows) with
      | .ok cs => .ok () (d'.set s cs)
      | .error e => .error e d' := by
  simp only [clustersGroup, if_neg h]
  by_cases hc : (d.get? s).isNone = true <;>
    simp only [hc, if_true, if_false, Bool.false_eq_true, Py.bind_apply, Py.get_apply,
      Py.modify_apply, Py.pure_apply] <;>
    split <;> rename_i heq <;>
    first
    | obtain ⟨hx, rfl⟩ := Py.ofExcept_eq_ok heq; rw [hx]
    | obtain ⟨hx, rfl⟩ := Py.ofExcept_eq_error heq; rw [hx]

/-- The centroids of `s`: at least one, all of length `L`. -/
def UniformAt (d : PyDict (List (List α))) (s : PyStr) (L : Nat) : Prop :=
  ∃ c cs, d.get? s = some (c :: cs) ∧ ∀ x ∈ c :: cs, x.length = L

/-- A group of rows of length `L`, with no centroids yet or centroids of length `L`, leaves its
sensor with centroids of length `L` and every other sensor's as they were. -/
theorem clustersGroup_uniform (draws : Draws) (s : PyStr) {exps : List (Experience α)} {L : Nat}
    (hskip : ¬ (exps.length < 5 ∨ lengthsDiffer exps = true))
    (hL : ∀ e ∈ exps, e.features.length = L)
    {d : PyDict (List (List α))} (hd : d.get? s = none ∨ UniformAt d s L) :
    ∃ d', clustersGroup sqrt draws s exps d = .ok () d' ∧ UniformAt d' s L ∧
      ∀ k, k ≠ s → d'.get? k = d.get? k := by
  rw [clustersGroup_apply sqrt draws s hskip d]
  dsimp only
  set rows := exps.map (·.features) with hrows
  set d' := if (d.get? s).isNone then
    d.set s ((draws.choice s rows.length (min 5 rows.length)).map rows.get) else d with hd'
  have hrowsL : ∀ r ∈ rows, r.length = L := by simpa [hrows] using hL
  -- the centroids the recentering starts from
  have hstart : UniformAt d' s L ∧ ∀ k, k ≠ s → d'.get? k = d.get? k := by
    rcases hd with hd | hd
    · have hn : min 5 rows.length = 5 := by simp [hrows]; omega
      have hlen := draws.length_choice s rows.length (min 5 rows.length) (min_le_right _ _)
      rw [hn] at hlen
      obtain ⟨i, is, hi⟩ := List.exists_cons_of_length_eq_add_one (n := 4) hlen
      refine ⟨⟨rows.get i, is.map rows.get, by simp [hd', hd, hn, hi], ?_⟩, fun k hk => by
        simp [hd', hd, hk]⟩
      intro x hx
      obtain ⟨j, -, rfl⟩ := List.mem_map.mp (show x ∈ (i :: is).map rows.get from hx)
      exact hrowsL _ (List.get_mem _ _ _)
    · obtain ⟨c, cs, hget, hcs⟩ := hd
      exact ⟨⟨c, cs, by simp [hd', hget], hcs⟩, fun k _ => by simp [hd', hget]⟩
  obtain ⟨⟨c, cs, hget, hcs⟩, hother⟩ := hstart
  obtain ⟨cs', hm, hlen, hL'⟩ := except_mapM_exists (f := recenter sqrt rows)
    (P := fun c => c.length = L) (l := c :: cs) fun x hx => by
      obtain ⟨y, hy, hyl⟩ := recenter_same_length sqrt fun r hr => (hrowsL r hr).trans (hcs x hx).symm
      exact ⟨y, hy, hyl.trans (hcs x hx)⟩
  rw [hget, Option.getD_some, hm]
  obtain ⟨c', cs'', rfl⟩ := List.exists_cons_of_length_eq_add_one (by simpa using hlen)
  exact ⟨_, rfl, ⟨c', cs'', by simp, hL'⟩, fun k hk => by simp [hk, hother k hk]⟩

/-- Rows and a first centroid of two lengths, neither of them one: the method raises
`ValueError` and leaves the centroids as they were. -/
theorem clustersGroup_mismatch (draws : Draws) (s : PyStr) {e : Experience α}
    {es : List (Experience α)} (hskip : ¬ ((e :: es).length < 5 ∨ lengthsDiffer (e :: es) = true))
    {d : PyDict (List (List α))} {c : List α} {cs : List (List α)} (hd : d.get? s = some (c :: cs))
    (hc : e.features.length ≠ c.length) (he1 : e.features.length ≠ 1) (hc1 : c.length ≠ 1) :
    clustersGroup sqrt draws s (e :: es) d = .error .valueError d := by
  rw [clustersGroup_apply sqrt draws s hskip d]
  simp only [hd, Option.isNone_some, Bool.false_eq_true, if_false, Option.getD_some,
    except_mapM_cons_error (f := recenter sqrt ((e :: es).map (·.features)))
      (recenter_mismatch sqrt hc he1 hc1)]

end Clusters

end EdgeAI
