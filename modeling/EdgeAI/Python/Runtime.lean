import Mathlib

/-!
# The Python runtime the edge pipeline runs on

The learner and the preprocessor are Python methods that mutate `self` and may raise half way
through. They are modelled as statements `Py σ α = EStateM PyError σ α`: a raised exception
keeps the state reached when it was raised, exactly as Python keeps every mutation made before
the `raise`. `Preserves P m` says once that `m` keeps `P` whether it returns or raises, so an
invariant over whole runs is assembled from one lemma per statement.

Strings are sequences of code points, lone surrogates included, as a Python `str` is; a
`deque(maxlen=n)` and a string-keyed `dict` carry their own well-formedness.
-/

namespace EdgeAI

/-! ## Strings -/

/-- A Python `str`: a sequence of code points below `0x110000`, surrogates included. -/
abbrev PyStr := List (Fin 0x110000)

theorem toNat_lt_codeSpace (c : Char) : c.toNat < 0x110000 := by
  have := c.valid
  simp only [UInt32.isValidChar, Nat.isValidChar] at this
  unfold Char.toNat
  omega

def codePoint (c : Char) : Fin 0x110000 := ⟨c.toNat, toNat_lt_codeSpace c⟩

/-- A Python string literal. -/
def pyStr (s : String) : PyStr := s.toList.map codePoint

/-- `str(n)` of a Python `int`. -/
def showInt (n : Int) : PyStr := pyStr (toString n)

/-! ## Statements that may raise -/

/-- The Python exceptions the modelled code raises. -/
inductive PyError where
  | typeError | valueError | indexError | keyError | attributeError | zeroDivisionError
deriving DecidableEq, Repr

/-- A Python statement over the state `σ` returning `α`, which may raise. -/
abbrev Py (σ α : Type) := EStateM PyError σ α

/-- The state a statement leaves behind, whether it returned or raised. -/
def final {σ α : Type} : EStateM.Result PyError σ α → σ
  | .ok _ s => s
  | .error _ s => s

/-- What a statement returned, or the exception it raised. -/
def returned {σ α : Type} : EStateM.Result PyError σ α → Except PyError α
  | .ok a _ => .ok a
  | .error e _ => .error e

/-- The exception a statement raised, if any. -/
def raised {σ α : Type} : EStateM.Result PyError σ α → Option PyError
  | .ok _ _ => none
  | .error e _ => some e

section Results

variable {σ α : Type} (a : α) (e : PyError) (s : σ)

@[simp] theorem final_ok : final (.ok a s : EStateM.Result PyError σ α) = s := rfl
@[simp] theorem final_error : final (.error e s : EStateM.Result PyError σ α) = s := rfl
@[simp] theorem returned_ok : returned (.ok a s : EStateM.Result PyError σ α) = .ok a := rfl
@[simp] theorem returned_error :
    returned (.error e s : EStateM.Result PyError σ α) = .error e := rfl

end Results

namespace Py

variable {σ τ α β : Type}

@[simp] theorem bind_apply {ε σ α β : Type} (x : EStateM ε σ α) (f : α → EStateM ε σ β)
    (s : σ) : (x >>= f) s = match x s with | .ok a s' => f a s' | .error e s' => .error e s' :=
  rfl

@[simp] theorem map_apply {ε σ α β : Type} (f : α → β) (x : EStateM ε σ α) (s : σ) :
    (f <$> x) s = match x s with | .ok a s' => .ok (f a) s' | .error e s' => .error e s' := rfl

@[simp] theorem pure_apply (a : α) (s : σ) : (pure a : Py σ α) s = .ok a s := rfl

@[simp] theorem get_apply (s : σ) : (get : Py σ σ) s = .ok s s := rfl

@[simp] theorem modify_apply (f : σ → σ) (s : σ) :
    (modify f : Py σ PUnit) s = .ok () (f s) := rfl

@[simp] theorem throw_apply (e : PyError) (s : σ) : (throw e : Py σ α) s = .error e s := rfl

theorem final_map (f : α → β) (m : Py σ α) (s : σ) : final ((f <$> m) s) = final (m s) := by
  simp only [map_apply]; cases m s <;> rfl

theorem map_eq_ok {f : α → β} (hf : Function.Injective f) {m : Py σ α} {s s' : σ} {a : α}
    (h : (f <$> m) s = .ok (f a) s') : m s = .ok a s' := by
  simp only [map_apply] at h
  cases hm : m s with
  | ok a' s'' =>
    rw [hm] at h
    obtain ⟨h1, rfl⟩ : f a' = f a ∧ s'' = s' := by simpa using h
    rw [hf h1]
  | error e s'' => rw [hm] at h; cases h

/-- A pure computation that may raise, run as a statement. -/
def ofExcept : Except PyError α → Py σ α
  | .ok a => pure a
  | .error e => throw e

@[simp] theorem ofExcept_ok (a : α) (s : σ) : (ofExcept (.ok a) : Py σ α) s = .ok a s := rfl

theorem ofExcept_eq_ok {x : Except PyError α} {s s' : σ} {a : α}
    (h : (ofExcept x : Py σ α) s = .ok a s') : x = .ok a ∧ s' = s := by
  cases x <;> cases h; exact ⟨rfl, rfl⟩

theorem ofExcept_eq_error {x : Except PyError α} {s s' : σ} {e : PyError}
    (h : (ofExcept x : Py σ α) s = .error e s') : x = .error e ∧ s' = s := by
  cases x <;> cases h; exact ⟨rfl, rfl⟩

@[simp] theorem ofExcept_bind_apply (x : Except PyError α) (f : α → Py σ β) (s : σ) :
    (ofExcept x >>= f) s = match x with
      | .ok a => f a s
      | .error e => .error e s := by
  cases x <;> rfl

@[simp] theorem ofExcept_error (e : PyError) (s : σ) :
    (ofExcept (.error e) : Py σ α) s = .error e s := rfl

/-- Run a statement that mutates one attribute of `self`. -/
def focus (view : σ → τ) (update : σ → τ → σ) (m : Py τ α) : Py σ α := fun s =>
  match m (view s) with
  | .ok a t => .ok a (update s t)
  | .error e t => .error e (update s t)

theorem final_focus (view : σ → τ) (update : σ → τ → σ) (m : Py τ α) (s : σ) :
    final (focus view update m s) = update s (final (m (view s))) := by
  unfold focus
  cases m (view s) <;> rfl

theorem raised_focus (view : σ → τ) (update : σ → τ → σ) (m : Py τ α) (s : σ) :
    raised (focus view update m s) = raised (m (view s)) := by
  unfold focus
  cases m (view s) <;> rfl

theorem forM_singleton {β : Type} (f : β → Py σ PUnit) (b : β) (s : σ) : [b].forM f s = f b s := by
  simp only [List.forM, bind_apply, pure_apply]
  cases f b s <;> rfl

end Py

@[simp] theorem except_ok_bind {ε α β : Type} (a : α) (f : α → Except ε β) :
    (Except.ok a >>= f) = f a := rfl

theorem except_bind_eq_ok {ε α β : Type} {x : Except ε α} {f : α → Except ε β} {b : β}
    (h : (x >>= f) = .ok b) : ∃ a, x = .ok a ∧ f a = .ok b := by
  cases x with
  | error e => cases h
  | ok a => exact ⟨a, rfl, h⟩

theorem except_mapM_ok {ε α β : Type} {f : α → Except ε β} {g : α → β} :
    ∀ {l : List α}, (∀ x ∈ l, f x = .ok (g x)) → l.mapM f = .ok (l.map g)
  | [], _ => rfl
  | x :: xs, h => by
    rw [List.mapM_cons, h x (List.mem_cons_self _ _),
      except_mapM_ok fun y hy => h y (List.mem_cons_of_mem _ hy)]
    rfl

theorem except_mapM_exists {ε α β : Type} {f : α → Except ε β} {P : β → Prop} :
    ∀ {l : List α}, (∀ x ∈ l, ∃ y, f x = .ok y ∧ P y) →
      ∃ ys, l.mapM f = .ok ys ∧ ys.length = l.length ∧ ∀ y ∈ ys, P y
  | [], _ => ⟨[], rfl, rfl, fun _ h => absurd h (List.not_mem_nil _)⟩
  | x :: xs, h => by
    obtain ⟨y, hy, hp⟩ := h x (List.mem_cons_self _ _)
    obtain ⟨ys, hys, hl, hps⟩ := except_mapM_exists fun z hz => h z (List.mem_cons_of_mem _ hz)
    refine ⟨y :: ys, by rw [List.mapM_cons, hy, hys]; rfl, by simp [hl], ?_⟩
    rintro z (_ | ⟨_, hz⟩)
    exacts [hp, hps z hz]

theorem except_mapM_length {ε α β : Type} {f : α → Except ε β} :
    ∀ {l : List α} {ys : List β}, l.mapM f = .ok ys → ys.length = l.length
  | [], _, h => by cases h; rfl
  | x :: xs, ys, h => by
    rw [List.mapM_cons] at h
    obtain ⟨y, -, h⟩ := except_bind_eq_ok h
    obtain ⟨zs, hzs, h⟩ := except_bind_eq_ok h
    cases h
    simp [except_mapM_length hzs]

theorem except_mapM_mem {ε α β : Type} {f : α → Except ε β} :
    ∀ {l : List α} {ys : List β}, l.mapM f = .ok ys → ∀ y ∈ ys, ∃ x ∈ l, f x = .ok y
  | [], _, h => by cases h; exact fun _ hy => absurd hy (List.not_mem_nil _)
  | x :: xs, ys, h => by
    rw [List.mapM_cons] at h
    obtain ⟨y, hy, h⟩ := except_bind_eq_ok h
    obtain ⟨zs, hzs, h⟩ := except_bind_eq_ok h
    cases h
    intro y' hy'
    rcases List.mem_cons.mp hy' with rfl | hy'
    · exact ⟨x, List.mem_cons_self _ _, hy⟩
    · obtain ⟨x', hx', h'⟩ := except_mapM_mem hzs y' hy'
      exact ⟨x', List.mem_cons_of_mem _ hx', h'⟩

theorem except_mapM_cons_error {ε α β : Type} {f : α → Except ε β} {x : α} {e : ε}
    (h : f x = .error e) (xs : List α) : (x :: xs).mapM f = .error e := by
  rw [List.mapM_cons, h]; rfl

/-! ## Invariants of statements -/

/-- `m` keeps `P`, whether it returns or raises. -/
def Preserves {σ α : Type} (P : σ → Prop) (m : Py σ α) : Prop :=
  ∀ s, P s → P (final (m s))

namespace Preserves

variable {σ α β : Type} {P : σ → Prop}

theorem pure (a : α) : Preserves P (pure a : Py σ α) := fun _ h => h

theorem get : Preserves P (get : Py σ σ) := fun _ h => h

theorem throw (e : PyError) : Preserves P (throw e : Py σ α) := fun _ h => h

theorem modify {f : σ → σ} (hf : ∀ s, P s → P (f s)) : Preserves P (modify f : Py σ PUnit) :=
  fun s h => hf s h

theorem ofExcept (x : Except PyError α) : Preserves P (Py.ofExcept x : Py σ α) := by
  cases x <;> exact fun _ h => h

theorem bind {x : Py σ α} {f : α → Py σ β} (hx : Preserves P x) (hf : ∀ a, Preserves P (f a)) :
    Preserves P (x >>= f) := by
  intro s hs
  have h := hx s hs
  simp only [Py.bind_apply]
  cases hxs : x s with
  | ok a s' => rw [hxs] at h; exact hf a s' h
  | error e s' => rw [hxs] at h; exact h

theorem ofExcept_bind {x : Except PyError α} {f : α → Py σ β}
    (hf : ∀ a, x = .ok a → Preserves P (f a)) : Preserves P (Py.ofExcept x >>= f) := by
  cases x with
  | error e => exact fun _ h => h
  | ok a => exact fun s h => hf a rfl s h

theorem ite {c : Prop} [Decidable c] {x y : Py σ α} (hx : Preserves P x) (hy : Preserves P y) :
    Preserves P (if c then x else y) := by
  split <;> assumption

theorem forM {f : β → Py σ PUnit} :
    ∀ {xs : List β}, (∀ b ∈ xs, Preserves P (f b)) → Preserves P (xs.forM f)
  | [], _ => by simpa using Preserves.pure (P := P) PUnit.unit
  | b :: bs, h => by
    simp only [List.forM]
    exact bind (h b (List.mem_cons_self _ _))
      fun _ => forM fun b' hb' => h b' (List.mem_cons_of_mem _ hb')

theorem focus {τ : Type} {Q : τ → Prop} {view : σ → τ} {update : σ → τ → σ} {m : Py τ α}
    (hm : Preserves Q m) (hview : ∀ s, P s → Q (view s))
    (hupdate : ∀ s t, P s → Q t → P (update s t)) : Preserves P (Py.focus view update m) := by
  intro s hs
  rw [Py.final_focus]
  exact hupdate s _ hs (hm _ (hview s hs))

end Preserves

/-! ## Statements that do not raise -/

/-- `m` returns, from every state. -/
def NoRaise {σ α : Type} (m : Py σ α) : Prop := ∀ s, raised (m s) = none

namespace NoRaise

variable {σ α β : Type}

theorem exists_ok {m : Py σ α} (h : NoRaise m) (s : σ) : ∃ a s', m s = .ok a s' := by
  have hs := h s
  cases hm : m s with
  | ok a s' => exact ⟨a, s', rfl⟩
  | error e s' => rw [hm] at hs; cases hs

theorem pure (a : α) : NoRaise (pure a : Py σ α) := fun _ => rfl

theorem get : NoRaise (get : Py σ σ) := fun _ => rfl

theorem modify (f : σ → σ) : NoRaise (modify f : Py σ PUnit) := fun _ => rfl

theorem ofExcept {x : Except PyError α} {a : α} (h : x = .ok a) :
    NoRaise (Py.ofExcept x : Py σ α) := by
  subst h; exact fun _ => rfl

theorem bind {x : Py σ α} {f : α → Py σ β} (hx : NoRaise x) (hf : ∀ a, NoRaise (f a)) :
    NoRaise (x >>= f) := by
  intro s
  obtain ⟨a, s', h⟩ := hx.exists_ok s
  simp only [Py.bind_apply, h]
  exact hf a s'

theorem ite {c : Prop} [Decidable c] {x y : Py σ α} (hx : NoRaise x) (hy : NoRaise y) :
    NoRaise (if c then x else y) := by
  split <;> assumption

theorem forM {f : β → Py σ PUnit} :
    ∀ {xs : List β}, (∀ b ∈ xs, NoRaise (f b)) → NoRaise (xs.forM f)
  | [], _ => by simpa using NoRaise.pure (σ := σ) PUnit.unit
  | b :: bs, h => by
    simp only [List.forM]
    exact bind (h b (List.mem_cons_self _ _))
      fun _ => forM fun b' hb' => h b' (List.mem_cons_of_mem _ hb')

theorem final_forM_append {f : β → Py σ PUnit} {xs : List β} (h : ∀ b ∈ xs, NoRaise (f b))
    (ys : List β) (s : σ) :
    final ((xs ++ ys).forM f s) = final (ys.forM f (final (xs.forM f s))) := by
  obtain ⟨_, s', hs'⟩ := (forM h).exists_ok s
  rw [List.forM_append, Py.bind_apply, hs']
  rfl

end NoRaise

/-! ## Statements run from two related states -/

/-- `m` run from two states related by `R` returns the same and leaves two related states. -/
def Sync {σ α : Type} (R : σ → σ → Prop) (m : Py σ α) : Prop :=
  ∀ s₁ s₂, R s₁ s₂ → returned (m s₁) = returned (m s₂) ∧ R (final (m s₁)) (final (m s₂))

namespace Sync

variable {σ α β : Type} {R : σ → σ → Prop}

theorem pure (a : α) : Sync R (pure a : Py σ α) := fun _ _ h => ⟨rfl, h⟩

theorem throw (e : PyError) : Sync R (throw e : Py σ α) := fun _ _ h => ⟨rfl, h⟩

theorem modify {f : σ → σ} (hf : ∀ s₁ s₂, R s₁ s₂ → R (f s₁) (f s₂)) :
    Sync R (modify f : Py σ PUnit) :=
  fun s₁ s₂ h => ⟨rfl, hf s₁ s₂ h⟩

theorem ofExcept (x : Except PyError α) : Sync R (Py.ofExcept x : Py σ α) := by
  cases x <;> exact fun _ _ h => ⟨rfl, h⟩

theorem bind {x : Py σ α} {f : α → Py σ β} (hx : Sync R x) (hf : ∀ a, Sync R (f a)) :
    Sync R (x >>= f) := by
  intro s₁ s₂ h
  obtain ⟨hr, hR⟩ := hx s₁ s₂ h
  simp only [Py.bind_apply]
  cases h₁ : x s₁ <;> cases h₂ : x s₂ <;> rw [h₁, h₂] at hr hR <;> cases hr
  · exact hf _ _ _ hR
  · exact ⟨rfl, hR⟩

theorem map (f : α → β) {x : Py σ α} (hx : Sync R x) : Sync R (f <$> x) := by
  intro s₁ s₂ h
  obtain ⟨hr, hR⟩ := hx s₁ s₂ h
  simp only [Py.map_apply]
  cases h₁ : x s₁ <;> cases h₂ : x s₂ <;> rw [h₁, h₂] at hr hR <;> cases hr <;> exact ⟨rfl, hR⟩

theorem ite {c : Prop} [Decidable c] {x y : Py σ α} (hx : Sync R x) (hy : Sync R y) :
    Sync R (if c then x else y) := by
  split <;> assumption

theorem forM {f : β → Py σ PUnit} :
    ∀ {xs : List β}, (∀ b ∈ xs, Sync R (f b)) → Sync R (xs.forM f)
  | [], _ => by simpa using Sync.pure (R := R) PUnit.unit
  | b :: bs, h => by
    simp only [List.forM]
    exact bind (h b (List.mem_cons_self _ _))
      fun _ => forM fun b' hb' => h b' (List.mem_cons_of_mem _ hb')

end Sync

/-! ## `collections.deque` with a `maxlen` -/

/-- A `deque(maxlen=maxlen)`: appending to a full deque first drops its oldest item. -/
structure Deque (β : Type) where
  maxlen : Nat
  items : List β
  length_le : items.length ≤ maxlen

namespace Deque

variable {β : Type}

/-- `deque(maxlen=n)`. -/
def empty (maxlen : Nat) : Deque β := ⟨maxlen, [], Nat.zero_le _⟩

/-- `d.append(x)`. -/
def append (d : Deque β) (x : β) : Deque β :=
  ⟨d.maxlen, (d.items ++ [x]).rtake d.maxlen, by simp [List.rtake]; omega⟩

@[simp] theorem maxlen_empty (n : Nat) : (empty n : Deque β).maxlen = n := rfl
@[simp] theorem items_empty (n : Nat) : (empty n : Deque β).items = [] := rfl
@[simp] theorem maxlen_append (d : Deque β) (x : β) : (d.append x).maxlen = d.maxlen := rfl
@[simp] theorem items_append (d : Deque β) (x : β) :
    (d.append x).items = (d.items ++ [x]).rtake d.maxlen := rfl

theorem mem_rtake {l : List β} {n : Nat} {x : β} (h : x ∈ l.rtake n) : x ∈ l :=
  List.mem_of_mem_drop h

theorem rtake_append_rtake (l : List β) (x : β) (n : Nat) :
    (l.rtake n ++ [x]).rtake n = (l ++ [x]).rtake n := by
  simp only [List.rtake, List.length_append, List.length_drop, List.length_singleton]
  rw [List.drop_append_eq_append_drop, List.drop_append_eq_append_drop, List.drop_drop,
    List.length_drop]
  congr 2 <;> omega

theorem rtake_map {γ : Type} (f : β → γ) (l : List β) (n : Nat) :
    (l.map f).rtake n = (l.rtake n).map f := by
  simp [List.rtake, List.map_drop]

theorem items_foldl_append (d : Deque β) (xs : List β) (l : List β)
    (hd : d.items = l.rtake d.maxlen) :
    (xs.foldl append d).items = (l ++ xs).rtake d.maxlen := by
  induction xs generalizing d l with
  | nil => simpa using hd
  | cons x xs ih =>
    rw [List.foldl_cons, ih (d.append x) (l ++ [x]) (by simp [hd, rtake_append_rtake])]
    simp

end Deque

/-! ## String-keyed `dict` -/

/-- `d[k] = v` on an entry list: overwrite `k` where it stands, or add it last. -/
def setEntry {β : Type} (k : PyStr) (v : β) : List (PyStr × β) → List (PyStr × β)
  | [] => [(k, v)]
  | p :: ps => if p.1 = k then (k, v) :: ps else p :: setEntry k v ps

/-- The value an entry list holds for `k`. -/
def lookupEntry {β : Type} (k : PyStr) : List (PyStr × β) → Option β
  | [] => none
  | p :: ps => if p.1 = k then some p.2 else lookupEntry k ps

section Entries

variable {β : Type}

theorem keys_setEntry (k : PyStr) (v : β) :
    ∀ ps : List (PyStr × β), (setEntry k v ps).map Prod.fst =
      if k ∈ ps.map Prod.fst then ps.map Prod.fst else ps.map Prod.fst ++ [k]
  | [] => by simp [setEntry]
  | p :: ps => by
    by_cases h : p.1 = k
    · simp [setEntry, h]
    · have ih := keys_setEntry k v ps
      by_cases hk : k ∈ ps.map Prod.fst <;>
        simp_all [setEntry, Ne.symm h]

theorem nodup_setEntry (k : PyStr) (v : β) (ps : List (PyStr × β))
    (h : (ps.map Prod.fst).Nodup) : ((setEntry k v ps).map Prod.fst).Nodup := by
  rw [keys_setEntry]
  split
  · exact h
  · exact List.nodup_append.mpr ⟨h, List.nodup_singleton k, List.disjoint_singleton.mpr ‹_›⟩

@[simp] theorem lookupEntry_setEntry (k k' : PyStr) (v : β) :
    ∀ ps : List (PyStr × β),
      lookupEntry k' (setEntry k v ps) = if k' = k then some v else lookupEntry k' ps
  | [] => by
    by_cases h : k' = k
    · subst h; simp [setEntry, lookupEntry]
    · simp [setEntry, lookupEntry, h, Ne.symm h]
  | p :: ps => by
    by_cases h : p.1 = k
    · by_cases h' : k' = k
      · subst h'; simp [setEntry, lookupEntry, h]
      · simp [setEntry, lookupEntry, h, h', Ne.symm h']
    · simp only [setEntry, if_neg h, lookupEntry, lookupEntry_setEntry k k' v ps]
      by_cases h' : k' = k
      · subst h'; simp [h]
      · simp [h']

theorem mem_of_lookupEntry {k : PyStr} {v : β} :
    ∀ {ps : List (PyStr × β)}, lookupEntry k ps = some v → (k, v) ∈ ps
  | p :: ps, h => by
    unfold lookupEntry at h
    split at h
    · rename_i hk
      cases h
      exact hk ▸ List.mem_cons_self _ _
    · exact List.mem_cons_of_mem _ (mem_of_lookupEntry h)

theorem lookupEntry_of_mem {k : PyStr} {v : β} :
    ∀ {ps : List (PyStr × β)}, (ps.map Prod.fst).Nodup → (k, v) ∈ ps → lookupEntry k ps = some v
  | p :: ps, hnd, hm => by
    rw [List.map_cons, List.nodup_cons] at hnd
    rcases List.mem_cons.mp hm with rfl | hm
    · simp [lookupEntry]
    · have hk : p.1 ≠ k := fun h => hnd.1 (by rw [h]; exact List.mem_map_of_mem Prod.fst hm)
      simp [lookupEntry, hk, lookupEntry_of_mem hnd.2 hm]

end Entries

/-- A Python `dict` keyed by strings: entries in insertion order, each key once. -/
structure PyDict (β : Type) where
  entries : List (PyStr × β)
  nodup : (entries.map Prod.fst).Nodup

namespace PyDict

variable {β : Type}

/-- `{}`. -/
def empty : PyDict β := ⟨[], List.nodup_nil⟩

/-- `d.get(k)`; `k in d` is `(d.get? k).isSome`. -/
def get? (d : PyDict β) (k : PyStr) : Option β := lookupEntry k d.entries

/-- `d[k] = v`. -/
def set (d : PyDict β) (k : PyStr) (v : β) : PyDict β :=
  ⟨setEntry k v d.entries, nodup_setEntry k v d.entries d.nodup⟩

@[simp] theorem get?_empty (k : PyStr) : (empty : PyDict β).get? k = none := rfl

@[simp] theorem get?_set (d : PyDict β) (k k' : PyStr) (v : β) :
    (d.set k v).get? k' = if k' = k then some v else d.get? k' :=
  lookupEntry_setEntry k k' v d.entries

theorem get?_of_mem {d : PyDict β} {k : PyStr} {v : β} (h : (k, v) ∈ d.entries) :
    d.get? k = some v :=
  lookupEntry_of_mem d.nodup h

theorem mem_of_get? {d : PyDict β} {k : PyStr} {v : β} (h : d.get? k = some v) :
    (k, v) ∈ d.entries :=
  mem_of_lookupEntry h

theorem ext_entries {d e : PyDict β} (h : d.entries = e.entries) : d = e := by
  cases d; cases e; cases h; rfl

instance [DecidableEq β] : DecidableEq (PyDict β) := fun d e =>
  decidable_of_iff (d.entries = e.entries) ⟨ext_entries, fun h => h ▸ rfl⟩

def All (P : β → Prop) (d : PyDict β) : Prop := ∀ k v, d.get? k = some v → P v

theorem All.empty (P : β → Prop) : (empty : PyDict β).All P := fun _ _ h => by cases h

theorem All.set {P : β → Prop} {d : PyDict β} (hd : d.All P) (k : PyStr) {v : β} (hv : P v) :
    (d.set k v).All P := by
  intro k' v' h
  rw [get?_set] at h
  split at h
  · cases h; exact hv
  · exact hd k' v' h

def KeysAll (K : PyStr → Prop) (d : PyDict β) : Prop := ∀ k ∈ d.entries.map Prod.fst, K k

theorem KeysAll.empty (K : PyStr → Prop) : (empty : PyDict β).KeysAll K :=
  fun _ h => absurd h (List.not_mem_nil _)

theorem KeysAll.set {K : PyStr → Prop} {d : PyDict β} (hd : d.KeysAll K) {k : PyStr} (hk : K k)
    (v : β) : (d.set k v).KeysAll K := by
  intro k' hk'
  rw [show (d.set k v).entries = setEntry k v d.entries from rfl, keys_setEntry] at hk'
  split at hk'
  · exact hd k' hk'
  · rcases List.mem_append.mp hk' with h | h
    exacts [hd k' h, List.mem_singleton.mp h ▸ hk]

end PyDict

end EdgeAI
