import EdgeAI.Python.Runtime

/-!
# The numpy operations the pipeline uses

Arrays are lists: a one-dimensional array is `List α`, a matrix is its list of rows. The numbers
are an ordered field `α` and the square root a parameter `sqrt`: the model computes in exact
arithmetic, and the theorems about the system instantiate `α := ℝ`, `sqrt := Real.sqrt`.

Reductions over an axis follow numpy: `np.var` and `np.std` are population statistics,
`np.median` averages the two middle values of an even-length array, and elementwise arithmetic
between one-dimensional arrays of different lengths broadcasts a length-one operand or raises
`ValueError`, as `features_matrix - cluster_center` does.
-/

namespace EdgeAI

namespace Np

/-! ## Broadcasting -/

section Broadcast

variable {α : Type}

/-- Elementwise `op` of two one-dimensional arrays under numpy broadcasting. -/
def broadcast (op : α → α → α) (x y : List α) : Except PyError (List α) :=
  if x.length = y.length then .ok (List.zipWith op x y)
  else match x, y with
    | _, [b] => .ok (x.map (op · b))
    | [a], _ => .ok (y.map (op a ·))
    | _, _ => .error .valueError

theorem broadcast_same_length (op : α → α → α) {x y : List α} (h : x.length = y.length) :
    broadcast op x y = .ok (List.zipWith op x y) := by
  simp [broadcast, h]

/-- Arrays of lengths other than one broadcast only when their lengths agree. -/
theorem broadcast_mismatch (op : α → α → α) {x y : List α} (h : x.length ≠ y.length)
    (hx : x.length ≠ 1) (hy : y.length ≠ 1) : broadcast op x y = .error .valueError := by
  unfold broadcast
  rw [if_neg h]
  split
  · simp_all
  · simp_all
  · rfl

/-- Every item of a broadcast is `op` of an item of each operand. -/
theorem mem_broadcast {op : α → α → α} {x y z : List α} (h : broadcast op x y = .ok z) :
    ∀ w ∈ z, ∃ u ∈ x, ∃ v ∈ y, w = op u v := by
  unfold broadcast at h
  split at h
  · cases h
    intro w hw
    rw [← List.map_uncurry_zip_eq_zipWith] at hw
    obtain ⟨⟨u, v⟩, huv, rfl⟩ := List.mem_map.mp hw
    exact ⟨u, (List.of_mem_zip huv).1, v, (List.of_mem_zip huv).2, rfl⟩
  · split at h <;> cases h <;> intro w hw <;> obtain ⟨u, hu, rfl⟩ := List.mem_map.mp hw
    exacts [⟨u, hu, _, List.mem_singleton_self _, rfl⟩, ⟨_, List.mem_singleton_self _, u, hu, rfl⟩]

end Broadcast

variable {α : Type} [LinearOrderedField α]

/-! ## Reductions -/

/-- `np.mean` of a one-dimensional array. -/
def mean (xs : List α) : α := xs.sum / xs.length

/-- `np.var`: the population variance. -/
def var (xs : List α) : α := mean (xs.map fun x => (x - mean xs) ^ 2)

/-- `np.std`: the population standard deviation. -/
def std (sqrt : α → α) (xs : List α) : α := sqrt (var xs)

/-- `np.min`, which raises on an empty array. -/
def amin : List α → Except PyError α
  | [] => .error .valueError
  | x :: xs => .ok (xs.foldl min x)

/-- `np.max`, which raises on an empty array. -/
def amax : List α → Except PyError α
  | [] => .error .valueError
  | x :: xs => .ok (xs.foldl max x)

/-- `np.median`: the middle of the sorted array, or the mean of its two middle values. -/
def median (xs : List α) : α :=
  let s := xs.insertionSort (· ≤ ·)
  if xs.length % 2 = 1 then s.getD (xs.length / 2) 0
  else (s.getD (xs.length / 2 - 1) 0 + s.getD (xs.length / 2) 0) / 2

/-- `np.linalg.norm` of a one-dimensional array. -/
def norm (sqrt : α → α) (xs : List α) : α := sqrt (xs.map (· ^ 2)).sum

/-! ## Matrices -/

/-- Column `j` of a matrix. -/
def column (j : Nat) (rows : List (List α)) : List α := rows.map fun r => r.getD j 0

/-- The row length of `np.array(rows)`. -/
def width (rows : List (List α)) : Nat := (rows.headD []).length

/-- `np.mean(rows, axis=0)`. -/
def meanAxis0 (rows : List (List α)) : List α :=
  (List.range (width rows)).map fun j => mean (column j rows)

/-- `np.var(rows, axis=0)`. -/
def varAxis0 (rows : List (List α)) : List α :=
  (List.range (width rows)).map fun j => var (column j rows)

/-- `np.std(rows, axis=0)`. -/
def stdAxis0 (sqrt : α → α) (rows : List (List α)) : List α :=
  (List.range (width rows)).map fun j => std sqrt (column j rows)

@[simp] theorem length_meanAxis0 (rows : List (List α)) :
    (meanAxis0 rows).length = width rows := by simp [meanAxis0]

@[simp] theorem length_varAxis0 (rows : List (List α)) :
    (varAxis0 rows).length = width rows := by simp [varAxis0]

@[simp] theorem length_stdAxis0 (sqrt : α → α) (rows : List (List α)) :
    (stdAxis0 sqrt rows).length = width rows := by simp [stdAxis0]

/-! ## Facts about the reductions -/

theorem sum_map_affine (c d : α) (f : α → α) (xs : List α) :
    (xs.map fun x => c * f x + d).sum = c * (xs.map f).sum + xs.length * d := by
  induction xs with
  | nil => simp
  | cons x xs ih => simp only [List.map_cons, List.sum_cons, ih, List.length_cons]; push_cast; ring

theorem mean_map_affine (c d : α) (f : α → α) {xs : List α} (h : xs ≠ []) :
    mean (xs.map fun x => c * f x + d) = c * mean (xs.map f) + d := by
  have hn : (xs.length : α) ≠ 0 := by simpa using h
  simp only [mean, sum_map_affine, List.length_map]
  field_simp
  ring

theorem mean_le_mean {f g : α → α} {xs : List α} (h : ∀ x ∈ xs, f x ≤ g x) :
    mean (xs.map f) ≤ mean (xs.map g) := by
  unfold mean
  rw [List.length_map, List.length_map]
  exact div_le_div_of_nonneg_right (List.sum_le_sum h) (Nat.cast_nonneg _)

theorem mean_nonneg {xs : List α} (h : ∀ x ∈ xs, 0 ≤ x) : 0 ≤ mean xs :=
  div_nonneg (List.sum_nonneg h) (Nat.cast_nonneg _)

theorem var_nonneg (xs : List α) : 0 ≤ var xs :=
  mean_nonneg fun y hy => by
    obtain ⟨x, -, rfl⟩ := List.mem_map.mp hy
    exact sq_nonneg _

/-- The mean of values in `[a, b]` lies in `[a, b]`. -/
theorem mean_mem_Icc {a b : α} {xs : List α} (hne : xs ≠ []) (h : ∀ x ∈ xs, a ≤ x ∧ x ≤ b) :
    a ≤ mean xs ∧ mean xs ≤ b := by
  have hid : mean xs = mean (xs.map fun x => 1 * id x + 0) := by simp
  have hconst : ∀ c : α, mean (xs.map fun x => 0 * id x + c) = c := fun c => by
    rw [mean_map_affine _ _ _ hne]; ring
  constructor
  · calc a = mean (xs.map fun x => 0 * id x + a) := (hconst a).symm
      _ ≤ mean (xs.map fun x => 1 * id x + 0) := mean_le_mean fun x hx => by simp [(h x hx).1]
      _ = mean xs := hid.symm
  · calc mean xs = mean (xs.map fun x => 1 * id x + 0) := hid
      _ ≤ mean (xs.map fun x => 0 * id x + b) := mean_le_mean fun x hx => by simp [(h x hx).2]
      _ = b := hconst b

theorem sum_map_sub_sq (μ : α) (xs : List α) :
    (xs.map fun x => (x - μ) ^ 2).sum = (xs.map (· ^ 2)).sum - 2 * μ * xs.sum + xs.length * μ ^ 2 := by
  induction xs with
  | nil => simp
  | cons x xs ih => simp only [List.map_cons, List.sum_cons, ih, List.length_cons]; push_cast; ring

theorem var_eq_mean_sq_sub {xs : List α} (hne : xs ≠ []) :
    var xs = mean (xs.map (· ^ 2)) - mean xs ^ 2 := by
  have hn : (xs.length : α) ≠ 0 := by simpa using hne
  have hsum : xs.sum = xs.length * mean xs := (mul_div_cancel₀ _ hn).symm
  have hsq : mean (xs.map (· ^ 2)) = (xs.map (· ^ 2)).sum / (xs.length : α) := by
    rw [mean, List.length_map]
  rw [var, mean, List.length_map, sum_map_sub_sq, hsum, hsq,
    show ∀ s n m : α, s - 2 * m * (n * m) + n * m ^ 2 = s - n * m ^ 2 from fun _ _ _ => by ring,
    sub_div, mul_div_cancel_left₀ _ hn]

/-- Popoviciu's inequality: values in `[a, b]` have population variance at most `((b-a)/2)²`. -/
theorem var_le_popoviciu {a b : α} {xs : List α} (hne : xs ≠ []) (h : ∀ x ∈ xs, a ≤ x ∧ x ≤ b) :
    var xs ≤ ((b - a) / 2) ^ 2 := by
  have hsq : mean (xs.map (· ^ 2)) ≤ (a + b) * mean xs - a * b := by
    calc mean (xs.map (· ^ 2)) ≤ mean (xs.map fun x => (a + b) * id x + -(a * b)) :=
          mean_le_mean fun x hx => by
            have := mul_nonneg (sub_nonneg.mpr (h x hx).1) (sub_nonneg.mpr (h x hx).2)
            simp only [id]; linarith [show (x - a) * (b - x) = (a + b) * x - a * b - x ^ 2 by ring]
      _ = (a + b) * mean xs - a * b := by rw [mean_map_affine _ _ _ hne]; simp; ring
  calc var xs = mean (xs.map (· ^ 2)) - mean xs ^ 2 := var_eq_mean_sq_sub hne
    _ ≤ (a + b) * mean xs - a * b - mean xs ^ 2 := by linarith
    _ = ((b - a) / 2) ^ 2 - ((a + b - 2 * mean xs) / 2) ^ 2 := by ring
    _ ≤ ((b - a) / 2) ^ 2 := sub_le_self _ (sq_nonneg _)

end Np

/-! ## Square roots of reals -/

namespace Np

/-- The population standard deviation of values in `[a, b]` is at most `(b - a) / 2`. -/
theorem std_le_half_range {a b : ℝ} {xs : List ℝ} (hne : xs ≠ []) (h : ∀ x ∈ xs, a ≤ x ∧ x ≤ b) :
    std Real.sqrt xs ≤ (b - a) / 2 := by
  obtain ⟨x, hx⟩ := List.exists_mem_of_ne_nil xs hne
  have hab : 0 ≤ (b - a) / 2 := by linarith [(h x hx).1, (h x hx).2]
  calc std Real.sqrt xs ≤ Real.sqrt (((b - a) / 2) ^ 2) :=
        Real.sqrt_le_sqrt (var_le_popoviciu hne h)
    _ = (b - a) / 2 := Real.sqrt_sq hab

theorem std_nonneg (xs : List ℝ) : 0 ≤ std Real.sqrt xs := Real.sqrt_nonneg _

end Np

end EdgeAI
