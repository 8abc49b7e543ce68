import EdgeAI.Persist.Numbers

/-!
# `json.loads(json.dumps(v))`

Reading back what `json.dump` wrote gives the value with every string's surrogate pairs joined
(`loads_dumps`). Keys are strings too: two keys that differ only in how a pair is spelled become
one, and the dict keeps the first one's place and the last one's value, as `dict(pairs)` does
(`Json.normalize`).

The proof follows the value: one case per constructor, and for the items of a list and the
entries of a dict one step per item, the scanner's fuel shrinking with the value's `weight`.
-/

namespace EdgeAI

variable {α : Type}

/-! ## What a round trip gives -/

mutual

/-- The value `loads` reads back from `dumps`: strings with their surrogate pairs joined, and each
dict rebuilt entry by entry as the scanner builds it. -/
def Json.normalize : Json α → Json α
  | .str s => .str (joinSurrogates s)
  | .arr xs => .arr (normalizeItems xs)
  | .obj kvs => .obj (normalizeMembers [] kvs)
  | .null => .null
  | .bool b => .bool b
  | .int n => .int n
  | .float x => .float x

/-- The items of a list, normalized. -/
def normalizeItems : List (Json α) → List (Json α)
  | [] => []
  | x :: xs => x.normalize :: normalizeItems xs

/-- The entries of a dict, normalized and set one after the other into `acc`. -/
def normalizeMembers (acc : List (PyStr × Json α)) : List (PyStr × Json α) → List (PyStr × Json α)
  | [] => acc
  | (k, v) :: kvs => normalizeMembers (setEntry (joinSurrogates k) v.normalize acc) kvs

end

mutual

/-- The fuel the scanner needs for a value: one call per value and per item or entry. -/
def Json.weight : Json α → Nat
  | .arr xs => 1 + itemsWeight xs
  | .obj kvs => 1 + membersWeight kvs
  | _ => 1

/-- The fuel for the items of a list. -/
def itemsWeight : List (Json α) → Nat
  | [] => 0
  | x :: xs => 1 + x.weight + itemsWeight xs

/-- The fuel for the entries of a dict. -/
def membersWeight : List (PyStr × Json α) → Nat
  | [] => 0
  | (_, v) :: kvs => 1 + v.weight + membersWeight kvs

end

theorem weight_pos (j : Json α) : 1 ≤ j.weight := by
  cases j <;> simp [Json.weight]

/-! ## Dicts read back -/

/-- The entries `dict(pairs)` builds from `acc` and then `kvs`, each key with its surrogate pairs
joined: a repeated key keeps its first place and takes its last value. -/
def joinEntries {β : Type} (acc : List (PyStr × β)) : List (PyStr × β) → List (PyStr × β)
  | [] => acc
  | (k, v) :: kvs => joinEntries (setEntry (joinSurrogates k) v acc) kvs

section Entries

variable {β γ : Type}

theorem normalizeMembers_eq (acc : List (PyStr × Json α)) (kvs : List (PyStr × Json α)) :
    normalizeMembers acc kvs = joinEntries acc (kvs.map fun kv => (kv.1, kv.2.normalize)) := by
  induction kvs generalizing acc with
  | nil => simp [normalizeMembers, joinEntries]
  | cons kv kvs ih => obtain ⟨k, v⟩ := kv; simp [normalizeMembers, joinEntries, ih]

theorem setEntry_map (g : β → γ) (k : PyStr) (v : β) (ps : List (PyStr × β)) :
    setEntry k (g v) (ps.map fun kv => (kv.1, g kv.2)) =
      (setEntry k v ps).map fun kv => (kv.1, g kv.2) := by
  induction ps with
  | nil => rfl
  | cons p ps ih => by_cases h : p.1 = k <;> simp [setEntry, h, ih]

theorem joinEntries_map (g : β → γ) (acc kvs : List (PyStr × β)) :
    joinEntries (acc.map fun kv => (kv.1, g kv.2)) (kvs.map fun kv => (kv.1, g kv.2)) =
      (joinEntries acc kvs).map fun kv => (kv.1, g kv.2) := by
  induction kvs generalizing acc with
  | nil => rfl
  | cons kv kvs ih => simp only [List.map_cons, joinEntries, setEntry_map, ih]

theorem setEntry_of_not_mem {k : PyStr} (v : β) {ps : List (PyStr × β)}
    (h : k ∉ ps.map Prod.fst) : setEntry k v ps = ps ++ [(k, v)] := by
  induction ps with
  | nil => rfl
  | cons p ps ih =>
    simp only [List.map_cons, List.mem_cons, not_or] at h
    simp [setEntry, Ne.symm h.1, ih h.2]

/-- Keys that hold no surrogate pair, none twice, come back as they were, in order. -/
theorem joinEntries_of_fixed (acc kvs : List (PyStr × β))
    (hfix : ∀ kv ∈ kvs, joinSurrogates kv.1 = kv.1)
    (hnodup : (acc.map Prod.fst ++ kvs.map Prod.fst).Nodup) : joinEntries acc kvs = acc ++ kvs := by
  induction kvs generalizing acc with
  | nil => simp [joinEntries]
  | cons kv kvs ih =>
    obtain ⟨k, v⟩ := kv
    have hk : k ∉ acc.map Prod.fst := fun h =>
      List.disjoint_of_nodup_append hnodup h (List.mem_cons_self _ _)
    rw [joinEntries, hfix (k, v) (List.mem_cons_self _ _), setEntry_of_not_mem v hk,
      ih _ (fun kv h => hfix kv (List.mem_cons_of_mem _ h)) (by simpa using hnodup)]
    simp

end Entries

/-! ## The text around values -/

theorem skipWs_cons_of_not_ws {c : Fin 0x110000} (h : isWs c = false) (s : PyStr) :
    skipWs (c :: s) = c :: s :=
  List.dropWhile_cons_of_neg (by simp [h])

theorem skipWs_newlineIndent (m : Nat) {c : Fin 0x110000} (h : isWs c = false) (s : PyStr) :
    skipWs (newlineIndent m ++ c :: s) = c :: s := by
  have hws : ∀ x ∈ newlineIndent m, isWs x = true := by
    intro x hx
    rcases List.mem_cons.mp hx with rfl | hx
    · rfl
    · rw [List.eq_of_mem_replicate hx]; rfl
  unfold skipWs
  rw [List.dropWhile_append, if_pos (List.isEmpty_iff.mpr (List.dropWhile_eq_nil_iff.mpr hws))]
  exact skipWs_cons_of_not_ws h s

/-- A number's text starts with a digit, or with a minus sign and a digit. -/
theorem NumberSyntax.text_head (ns : NumberSyntax) :
    ∃ c t, ns.text = c :: t ∧
      (isDigit c = true ∨ c = codePoint '-' ∧ ∃ d t', t = d :: t' ∧ isDigit d = true) := by
  obtain ⟨d, ds, hint, hd⟩ : ∃ d ds, ns.intPart = d :: ds ∧ isDigit d = true := by
    rcases ns.int_ok with h | ⟨d, ds, h, -, hd, -⟩
    · exact ⟨_, _, h, by decide⟩
    · exact ⟨d, ds, h, hd⟩
  rcases ns.sign_ok with hs | hs <;>
    simp only [NumberSyntax.text, hs, hint, List.nil_append, List.cons_append,
      List.singleton_append]
  · exact ⟨_, _, rfl, .inl hd⟩
  · exact ⟨_, _, rfl, .inr ⟨rfl, _, _, rfl, hd⟩⟩

theorem skipWs_space (s : PyStr) : skipWs (codePoint ' ' :: s) = skipWs s :=
  List.dropWhile_cons_of_pos (by decide)

/-- A code point that may start a value: ASCII, no whitespace and no closing bracket. -/
def StartsValue (c : Fin 0x110000) : Prop := c.val < 0x80 ∧ isWs c = false ∧ c ≠ codePoint ']'

theorem startsValue_of_number {c : Fin 0x110000} (h : c = codePoint '-' ∨ isDigit c = true) :
    StartsValue c := by
  rcases h with rfl | h
  · exact ⟨by decide, by decide, by decide⟩
  · have := val_of_isDigit h
    refine ⟨by omega, ?_, by simp; omega⟩
    simp only [isWs, Bool.or_eq_false_iff, decide_eq_false_iff_not, eq_codePoint_iff]
    simp; omega

/-- What follows a value in `json.dump`'s layout ends a number. -/
theorem numberEnd_of_head {c : Fin 0x110000} (h : c = codePoint ',' ∨ c = codePoint '\n')
    (s : PyStr) : NumberEnd (c :: s) := by
  intro d hd
  obtain rfl : d = c := (Option.mem_some_iff.mp hd).symm
  rcases h with rfl | rfl <;> decide

section Written

variable (codec : FloatCodec α)

/-- What `json.dump` writes for a value starts with a code point that may start a value. -/
theorem dumpsAt_cons (level : Nat) (j : Json α) :
    ∃ c t, dumpsAt codec level j = c :: t ∧ StartsValue c := by
  cases j with
  | int n =>
    obtain ⟨ns, hns, -⟩ := showInt_syntax n
    obtain ⟨c, t, h, hc⟩ := ns.text_head
    exact ⟨c, t, by rw [dumpsAt, ← hns, h], startsValue_of_number (hc.symm.imp_left And.left)⟩
  | float x =>
    cases x with
    | fin x =>
      obtain ⟨ns, hns, -⟩ := codec.repr_syntax x
      obtain ⟨c, t, h, hc⟩ := ns.text_head
      exact ⟨c, t, by rw [dumpsAt, floatStr, ← hns, h], startsValue_of_number (hc.symm.imp_left And.left)⟩
    | nan => exact ⟨_, _, rfl, by decide, by decide, by decide⟩
    | inf => exact ⟨_, _, rfl, by decide, by decide, by decide⟩
    | negInf => exact ⟨_, _, rfl, by decide, by decide, by decide⟩
  | bool b => cases b <;> exact ⟨_, _, rfl, by decide, by decide, by decide⟩
  | arr xs => cases xs <;> exact ⟨_, _, rfl, by decide, by decide, by decide⟩
  | obj kvs => cases kvs with
    | nil => exact ⟨_, _, rfl, by decide, by decide, by decide⟩
    | cons kv kvs => exact ⟨_, _, rfl, by decide, by decide, by decide⟩
  | null => exact ⟨_, _, rfl, by decide, by decide, by decide⟩
  | str s => exact ⟨_, _, rfl, by decide, by decide, by decide⟩

theorem one_le_length_dumpsAt (level : Nat) (j : Json α) : 1 ≤ (dumpsAt codec level j).length := by
  obtain ⟨c, t, h, -⟩ := dumpsAt_cons codec level j
  simp [h]

theorem skipWs_newlineIndent_dumpsAt (k m : Nat) (j : Json α) (R : PyStr) :
    skipWs (newlineIndent k ++ (dumpsAt codec m j ++ R)) = dumpsAt codec m j ++ R := by
  obtain ⟨c, t, h, hc⟩ := dumpsAt_cons codec m j
  rw [h, List.cons_append, skipWs_newlineIndent k hc.2.1]

theorem skipWs_dumpsAt (m : Nat) (j : Json α) (R : PyStr) :
    skipWs (dumpsAt codec m j ++ R) = dumpsAt codec m j ++ R := by
  obtain ⟨c, t, h, hc⟩ := dumpsAt_cons codec m j
  rw [h, List.cons_append, skipWs_cons_of_not_ws hc.2.1]

theorem numberEnd_dumpsMembers (m k : Nat) (kvs : List (PyStr × Json α)) (X : PyStr) :
    NumberEnd (dumpsMembers codec m kvs ++ (newlineIndent k ++ X)) := by
  cases kvs with
  | nil => exact numberEnd_of_head (.inr rfl) _
  | cons kv kvs => exact numberEnd_of_head (.inl rfl) _

/-- The items of a list after its opening bracket, as `json.dump` writes them. -/
def itemsText (level : Nat) : List (Json α) → PyStr
  | [] => []
  | x :: xs => dumpsAt codec level x ++ dumpsItems codec level xs

/-- The entries of a dict after the opening quote of its first key. -/
def membersText (level : Nat) : List (PyStr × Json α) → PyStr
  | [] => []
  | (k, v) :: kvs => k.flatMap escapeChar ++ codePoint '"' ::
      (pyStr ": " ++ (dumpsAt codec level v ++ dumpsMembers codec level kvs))

mutual

theorem weight_le_length (level : Nat) : ∀ j : Json α, j.weight ≤ (dumpsAt codec level j).length
  | .arr xs => by
    have := itemsWeight_le_length (level + 1) xs
    cases xs with
    | nil => simp [Json.weight, itemsWeight, dumpsAt]
    | cons x xs =>
      have := weight_le_length (level + 1) x
      simp only [Json.weight, itemsWeight, dumpsAt, dumpsItems, newlineIndent, List.length_cons,
        List.length_append, List.length_replicate] at *
      omega
  | .obj kvs => by
    have := membersWeight_le_length (level + 1) kvs
    cases kvs with
    | nil => simp [Json.weight, membersWeight, dumpsAt]
    | cons kv kvs =>
      obtain ⟨k, v⟩ := kv
      have := weight_le_length (level + 1) v
      simp only [Json.weight, membersWeight, dumpsAt, dumpsMembers, newlineIndent, List.length_cons,
        List.length_append, List.length_replicate] at *
      omega
  | .null | .bool _ | .int _ | .float _ | .str _ => one_le_length_dumpsAt codec level _

theorem itemsWeight_le_length (level : Nat) :
    ∀ xs : List (Json α), itemsWeight xs ≤ (dumpsItems codec level xs).length
  | [] => le_refl 0
  | x :: xs => by
    have := weight_le_length level x
    have := itemsWeight_le_length level xs
    simp only [itemsWeight, dumpsItems, List.length_cons, List.length_append]
    omega

theorem membersWeight_le_length (level : Nat) :
    ∀ kvs : List (PyStr × Json α), membersWeight kvs ≤ (dumpsMembers codec level kvs).length
  | [] => le_refl 0
  | (k, v) :: kvs => by
    have := weight_le_length level v
    have := membersWeight_le_length level kvs
    simp only [membersWeight, dumpsMembers, List.length_cons, List.length_append]
    omega

end

end Written

/-! ## The scanner on what was written -/

section Scanner

variable (codec : FloatCodec α)

theorem scanAtom_number (ns : NumberSyntax) {rest : PyStr} (hs : NumberEnd rest) :
    scanAtom codec (ns.text ++ rest) =
      some (if ns.isFloat then .float (codec.parse ns.text) else .int (intOfToken ns.text), rest) := by
  have hm := matchNumber_text ns hs
  obtain ⟨c, t, ht, hc⟩ := ns.text_head
  rw [ht, List.cons_append] at hm ⊢
  rcases hc with hc | ⟨rfl, d, t', rfl, hd⟩
  · have := val_of_isDigit hc
    have hne : (c : Nat) ≠ 110 ∧ (c : Nat) ≠ 116 ∧ (c : Nat) ≠ 102 ∧ (c : Nat) ≠ 78 ∧
        (c : Nat) ≠ 73 ∧ (c : Nat) ≠ 45 := by omega
    simp [scanAtom, eq_codePoint_iff, hm, hne]
  · have := val_of_isDigit hd
    have hne : codePoint 'I' ≠ d := by rw [ne_comm, Ne, eq_codePoint_iff]; simp; omega
    simp only [List.cons_append] at hm
    simp [scanAtom, hm, pyStr, hne]

theorem scanOnce_of_atom {c : Fin 0x110000} (h1 : c ≠ codePoint '"') (h2 : c ≠ codePoint '{')
    (h3 : c ≠ codePoint '[') (n : Nat) (s : PyStr) :
    scanOnce codec (n + 1) (c :: s) = scanAtom codec (c :: s) := by
  simp only [scanOnce, if_neg h1, if_neg h2, if_neg h3]

theorem scanOnce_number (ns : NumberSyntax) {rest : PyStr} (hs : NumberEnd rest) (n : Nat) :
    scanOnce codec (n + 1) (ns.text ++ rest) =
      some (if ns.isFloat then .float (codec.parse ns.text) else .int (intOfToken ns.text), rest) := by
  rw [← scanAtom_number codec ns hs]
  obtain ⟨c, t, ht, hc⟩ := ns.text_head
  have hne : c ≠ codePoint '"' ∧ c ≠ codePoint '{' ∧ c ≠ codePoint '[' := by
    rcases hc with hc | ⟨rfl, -⟩
    · have := val_of_isDigit hc
      simp only [Ne, eq_codePoint_iff]
      simp
      omega
    · decide
  rw [ht, List.cons_append, scanOnce_of_atom codec hne.1 hne.2.1 hne.2.2]

theorem scanOnce_bracket (n : Nat) {s t : PyStr} {c : Fin 0x110000} (hs : skipWs s = c :: t)
    (hc : c ≠ codePoint ']') :
    scanOnce codec (n + 1) (codePoint '[' :: s) = arrayItems codec n (c :: t) [] := by
  simp [scanOnce, hs, hc]

theorem scanOnce_brace (n : Nat) {s t : PyStr} (hs : skipWs s = codePoint '"' :: t) :
    scanOnce codec (n + 1) (codePoint '{' :: s) = objectMembers codec n t [] := by
  simp [scanOnce, hs]

theorem arrayItems_close {n : Nat} {s s' rest : PyStr} {v : Json α} (acc : List (Json α))
    (h : scanOnce codec n s = some (v, s')) (hs : skipWs s' = codePoint ']' :: rest) :
    arrayItems codec (n + 1) s acc = some (.arr (acc ++ [v]), rest) := by
  simp [arrayItems, h, hs]

theorem arrayItems_comma {n : Nat} {s s' t : PyStr} {v : Json α} (acc : List (Json α))
    (h : scanOnce codec n s = some (v, s')) (hs : skipWs s' = codePoint ',' :: t) :
    arrayItems codec (n + 1) s acc = arrayItems codec n (skipWs t) (acc ++ [v]) := by
  simp [arrayItems, h, hs]

section Members

variable {n : Nat} {s s₁ s₂ s₃ : PyStr} {key : PyStr} {v : Json α} (acc : List (PyStr × Json α))
  (hkey : scanString s = some (key, s₁)) (hcolon : skipWs s₁ = codePoint ':' :: s₂)
  (hv : scanOnce codec n (skipWs s₂) = some (v, s₃))
include hkey hcolon hv

theorem objectMembers_close {rest : PyStr} (hs : skipWs s₃ = codePoint '}' :: rest) :
    objectMembers codec (n + 1) s acc = some (.obj (setEntry key v acc), rest) := by
  simp [objectMembers, hkey, hcolon, hv, hs]

theorem objectMembers_comma {t u : PyStr} (hs : skipWs s₃ = codePoint ',' :: t)
    (hq : skipWs t = codePoint '"' :: u) :
    objectMembers codec (n + 1) s acc = objectMembers codec n u (setEntry key v acc) := by
  simp [objectMembers, hkey, hcolon, hv, hs, hq]

end Members

end Scanner

section ReadBack

variable (codec : FloatCodec α)

mutual

theorem scanOnce_dumpsAt (level : Nat) : ∀ (j : Json α) (n : Nat) (rest : PyStr),
    j.weight ≤ n → NumberEnd rest →
      scanOnce codec n (dumpsAt codec level j ++ rest) = some (j.normalize, rest)
  | .arr xs, n, rest, hn, _ => by
    have ih := arrayItems_itemsText (level + 1) level xs
    obtain ⟨n, rfl⟩ : ∃ n', n = n' + 1 := ⟨n - 1, by have := weight_pos (Json.arr xs); omega⟩
    cases xs with
    | nil =>
      simp [dumpsAt, scanOnce, skipWs_cons_of_not_ws (show isWs (codePoint ']') = false by decide),
        Json.normalize, normalizeItems]
    | cons x xs =>
      obtain ⟨c, t, hxc, hc⟩ := dumpsAt_cons codec (level + 1) x
      have hskip := skipWs_newlineIndent (level + 1) hc.2.1
        (t ++ (dumpsItems codec (level + 1) xs ++ (newlineIndent level ++ codePoint ']' :: rest)))
      simp only [dumpsAt, List.cons_append, List.append_assoc, List.singleton_append, List.nil_append]
      rw [hxc, List.cons_append, scanOnce_bracket codec n hskip hc.2.2, ← List.cons_append, ← hxc]
      simpa [itemsText, Json.normalize, List.append_assoc] using
        ih n [] rest (List.cons_ne_nil _ _) (by simp only [Json.weight] at hn; omega)
  | .obj kvs, n, rest, hn, _ => by
    have ih := objectMembers_membersText (level + 1) level kvs
    obtain ⟨n, rfl⟩ : ∃ n', n = n' + 1 := ⟨n - 1, by have := weight_pos (Json.obj kvs); omega⟩
    cases kvs with
    | nil =>
      simp [dumpsAt, scanOnce, skipWs_cons_of_not_ws (show isWs (codePoint '}') = false by decide),
        Json.normalize, normalizeMembers]
    | cons kv kvs =>
      obtain ⟨k, v⟩ := kv
      have hskip := skipWs_newlineIndent (level + 1) (c := codePoint '"') (by decide)
        (membersText codec (level + 1) ((k, v) :: kvs) ++ newlineIndent level ++ codePoint '}' :: rest)
      simp only [dumpsAt, encodeStr, List.cons_append, List.append_assoc, List.singleton_append,
        List.nil_append]
      rw [scanOnce_brace codec n (by simpa [membersText, List.append_assoc] using hskip)]
      simpa [membersText, Json.normalize, List.append_assoc] using
        ih n [] rest (List.cons_ne_nil _ _) (by simp only [Json.weight] at hn; omega)
  | .str s, n, rest, hn, _ => by
    obtain ⟨n, rfl⟩ : ∃ n', n = n' + 1 := ⟨n - 1, by have := weight_pos (Json.str s (α := α)); omega⟩
    simp [dumpsAt, encodeStr, scanOnce, scanString_escaped, Json.normalize]
  | .null, n, rest, hn, _ => by
    obtain ⟨n, rfl⟩ : ∃ n', n = n' + 1 := ⟨n - 1, by simp [Json.weight] at hn; omega⟩
    simp [dumpsAt, scanOnce, scanAtom, pyStr, codePoint, Json.normalize]
  | .bool b, n, rest, hn, _ => by
    obtain ⟨n, rfl⟩ : ∃ n', n = n' + 1 := ⟨n - 1, by simp [Json.weight] at hn; omega⟩
    cases b <;> simp [dumpsAt, scanOnce, scanAtom, pyStr, codePoint, Json.normalize]
  | .int i, n, rest, hn, hs => by
    obtain ⟨n, rfl⟩ : ∃ n', n = n' + 1 := ⟨n - 1, by simp [Json.weight] at hn; omega⟩
    obtain ⟨ns, hns, hf⟩ := showInt_syntax i
    rw [dumpsAt, ← hns, scanOnce_number codec ns hs, hf, hns, intOfToken_showInt]
    rfl
  | .float x, n, rest, hn, hs => by
    obtain ⟨n, rfl⟩ : ∃ n', n = n' + 1 := ⟨n - 1, by simp [Json.weight] at hn; omega⟩
    cases x with
    | fin x =>
      obtain ⟨ns, hns, hf⟩ := codec.repr_syntax x
      rw [dumpsAt, floatStr, ← hns, scanOnce_number codec ns hs, hf, hns, codec.parse_repr]
      rfl
    | nan => simp [dumpsAt, floatStr, scanOnce, scanAtom, pyStr, codePoint, Json.normalize]
    | inf => simp [dumpsAt, floatStr, scanOnce, scanAtom, pyStr, codePoint, Json.normalize]
    | negInf => simp [dumpsAt, floatStr, scanOnce, scanAtom, pyStr, codePoint, Json.normalize]

theorem arrayItems_itemsText (m k : Nat) : ∀ (xs : List (Json α)) (n : Nat) (acc : List (Json α))
    (rest : PyStr), xs ≠ [] → itemsWeight xs ≤ n →
      arrayItems codec n (itemsText codec m xs ++ newlineIndent k ++ codePoint ']' :: rest) acc =
        some (.arr (acc ++ normalizeItems xs), rest)
  | [], _, _, _, h, _ => absurd rfl h
  | x :: xs, n, acc, rest, _, hn => by
    have ihx := scanOnce_dumpsAt m x
    have ih := arrayItems_itemsText m k xs
    obtain ⟨n, rfl⟩ : ∃ n', n = n' + 1 := ⟨n - 1, by simp only [itemsWeight] at hn; omega⟩
    simp only [itemsWeight] at hn
    cases xs with
    | nil =>
      have hv := ihx n (newlineIndent k ++ codePoint ']' :: rest) (by omega)
        (numberEnd_of_head (.inr rfl) _)
      simp only [itemsText, dumpsItems, List.nil_append, List.append_assoc] at hv ⊢
      rw [arrayItems_close codec acc hv (skipWs_newlineIndent k (by decide) rest)]
      rfl
    | cons y ys =>
      have hv := ihx n (dumpsItems codec m (y :: ys) ++ newlineIndent k ++ codePoint ']' :: rest)
        (by omega) (numberEnd_of_head (.inl rfl) _)
      simp only [itemsText, dumpsItems, List.cons_append, List.append_assoc] at hv ⊢
      rw [arrayItems_comma codec acc hv (skipWs_cons_of_not_ws (by decide) _),
        skipWs_newlineIndent_dumpsAt]
      simpa [itemsText, normalizeItems, List.append_assoc] using
        ih n (acc ++ [x.normalize]) rest (List.cons_ne_nil _ _) (by omega)

theorem objectMembers_membersText (m k : Nat) : ∀ (kvs : List (PyStr × Json α)) (n : Nat)
    (acc : List (PyStr × Json α)) (rest : PyStr), kvs ≠ [] → membersWeight kvs ≤ n →
      objectMembers codec n (membersText codec m kvs ++ newlineIndent k ++ codePoint '}' :: rest)
        acc = some (.obj (normalizeMembers acc kvs), rest)
  | [], _, _, _, h, _ => absurd rfl h
  | (key, v) :: kvs, n, acc, rest, _, hn => by
    have ihv := scanOnce_dumpsAt m v
    have ih := objectMembers_membersText m k kvs
    obtain ⟨n, rfl⟩ : ∃ n', n = n' + 1 := ⟨n - 1, by simp only [membersWeight] at hn; omega⟩
    simp only [membersWeight] at hn
    set R := dumpsMembers codec m kvs ++ (newlineIndent k ++ codePoint '}' :: rest)
    have hkey := scanString_escaped (pyStr ": " ++ (dumpsAt codec m v ++ R)) key
    have hcolon : skipWs (pyStr ": " ++ (dumpsAt codec m v ++ R)) =
        codePoint ':' :: (codePoint ' ' :: (dumpsAt codec m v ++ R)) :=
      skipWs_cons_of_not_ws (by decide) _
    have hv : scanOnce codec n (skipWs (codePoint ' ' :: (dumpsAt codec m v ++ R))) =
        some (v.normalize, R) := by
      rw [skipWs_space, skipWs_dumpsAt]
      exact ihv n R (by omega) (numberEnd_dumpsMembers codec m k kvs _)
    simp only [membersText, List.append_assoc, List.cons_append] at hkey ⊢
    cases kvs with
    | nil =>
      rw [objectMembers_close codec acc hkey hcolon hv (skipWs_newlineIndent k (by decide) rest)]
      rfl
    | cons kv kvs =>
      obtain ⟨k₂, v₂⟩ := kv
      have hs : skipWs R = codePoint ',' :: (newlineIndent m ++ codePoint '"' ::
          (membersText codec m ((k₂, v₂) :: kvs) ++ (newlineIndent k ++ codePoint '}' :: rest))) := by
        simp only [R, dumpsMembers, encodeStr, membersText, List.cons_append, List.append_assoc,
          List.singleton_append]
        exact skipWs_cons_of_not_ws (by decide) _
      rw [objectMembers_comma codec acc hkey hcolon hv hs (skipWs_newlineIndent m (by decide) _)]
      simpa [normalizeMembers, List.append_assoc] using
        ih n _ rest (List.cons_ne_nil _ _) (by omega)

end

/-- `json.loads` reads back what `json.dump` wrote: the value with its strings' surrogate pairs
joined. -/
theorem loads_dumps (j : Json α) : loads codec (dumps codec j) = some j.normalize := by
  obtain ⟨c, t, h, hc⟩ := dumpsAt_cons codec 0 j
  have hbom : (dumps codec j).head? ≠ some (codeUnit 0xfeff) := by
    rw [dumps, h, List.head?_cons, Ne, Option.some.injEq]
    rintro rfl
    exact absurd hc.1 (by decide)
  have hscan := scanOnce_dumpsAt codec 0 j ((dumps codec j).length + 1) []
    (by have := weight_le_length codec 0 j; rw [dumps]; omega) (fun _ h => by cases h)
  have hskip := skipWs_dumpsAt codec 0 j []
  rw [List.append_nil] at hscan hskip
  change skipWs (dumps codec j) = dumps codec j at hskip
  change scanOnce codec _ (dumps codec j) = _ at hscan
  rw [loads, if_neg hbom, hskip, hscan]
  rfl

end ReadBack


end EdgeAI
