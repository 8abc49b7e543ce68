import EdgeAI.Persist.Strings

/-!
# Numbers through `json`: written, then read back

`json.dump` writes an `int` with `int.__repr__` and a float with `float.__repr__`; the scanner's
`_match_number_unicode` reads the longest number at the start of the text. Followed by what the
writer puts after a value (a comma, a new line, a closing bracket, or nothing), a number's text is
read to its end and no further (`matchNumber_text`), and an `int` comes back as itself
(`intOfToken_showInt`).
-/

namespace EdgeAI

/-! ## The matcher on a number's text -/

/-- No digit starts the text. -/
def NoDigitFirst (s : PyStr) : Prop := ∀ c ∈ s.head?, isDigit c = false

/-- What may follow a number so that it is read to its end: neither a digit, nor a dot, nor an
exponent mark. -/
def NumberEnd (s : PyStr) : Prop :=
  ∀ c ∈ s.head?, isDigit c = false ∧ c ≠ codePoint '.' ∧ c ≠ codePoint 'e' ∧ c ≠ codePoint 'E'

theorem noDigitFirst_of_numberEnd {s : PyStr} (h : NumberEnd s) : NoDigitFirst s :=
  fun c hc => (h c hc).1

/-- The digits of a run stop where a non-digit starts. -/
theorem takeWhile_dropWhile_digits {ds : PyStr} (hds : AllDigits ds) {s : PyStr}
    (hs : NoDigitFirst s) :
    (ds ++ s).takeWhile isDigit = ds ∧ (ds ++ s).dropWhile isDigit = s := by
  induction ds with
  | nil =>
    cases s with
    | nil => exact ⟨rfl, rfl⟩
    | cons c s =>
      have hc := hs c rfl
      exact ⟨List.takeWhile_cons_of_neg (by simp [hc]), List.dropWhile_cons_of_neg (by simp [hc])⟩
  | cons d ds ih =>
    have hd := hds d (List.mem_cons_self _ _)
    obtain ⟨ht, hd'⟩ := ih fun x hx => hds x (List.mem_cons_of_mem _ hx)
    exact ⟨by rw [List.cons_append, List.takeWhile_cons_of_pos hd, ht],
      by rw [List.cons_append, List.dropWhile_cons_of_pos hd, hd']⟩

theorem isDigit_of_val {c : Fin 0x110000} (h₁ : 48 ≤ c.val) (h₂ : c.val ≤ 57) : isDigit c = true := by
  simp [isDigit, h₁, h₂]

theorem val_of_isDigit {c : Fin 0x110000} (h : isDigit c = true) : 48 ≤ c.val ∧ c.val ≤ 57 := by
  simpa [isDigit] using h

theorem matchSign_of_digit_first (n : NumberSyntax) (s : PyStr) :
    matchSign (n.intPart ++ s) = ([], n.intPart ++ s) := by
  have hd : ∃ d ds, n.intPart = d :: ds ∧ isDigit d = true := by
    rcases n.int_ok with h | ⟨d, ds, h, -, hd, -⟩
    · exact ⟨_, _, h, by decide⟩
    · exact ⟨d, ds, h, hd⟩
  obtain ⟨d, ds, h, hd⟩ := hd
  have := val_of_isDigit hd
  rw [h, List.cons_append, matchSign, if_neg (by simp; omega)]

theorem matchIntPart_intPart (n : NumberSyntax) {s : PyStr} (hs : NoDigitFirst s) :
    matchIntPart (n.intPart ++ s) = some (n.intPart, s) := by
  rcases n.int_ok with h | ⟨d, ds, h, hd0, hd, hds⟩
  · rw [h]; rfl
  · obtain ⟨ht, hdrop⟩ := takeWhile_dropWhile_digits hds hs
    rw [h, List.cons_append, matchIntPart, if_neg hd0, if_pos hd, ht, hdrop]

theorem matchFrac_frac (n : NumberSyntax) {s : PyStr} (hs : NoDigitFirst s)
    (hdot : ∀ c ∈ s.head?, c ≠ codePoint '.') : matchFrac (n.frac ++ s) = (n.frac, s) := by
  rcases n.frac_ok with h | ⟨d, ds, h, hds⟩
  · rw [h, List.nil_append]
    match s, hdot with
    | [], _ => rfl
    | [_], _ => rfl
    | c :: e :: s, hdot => exact if_neg fun h' => hdot c rfl h'.1
  · obtain ⟨ht, hdrop⟩ := takeWhile_dropWhile_digits (fun x hx => hds x (List.mem_cons_of_mem _ hx)) hs
    rw [h, List.cons_append, List.cons_append, matchFrac,
      if_pos ⟨rfl, hds d (List.mem_cons_self _ _)⟩, ht, hdrop]

theorem matchExp_exp (n : NumberSyntax) {s : PyStr} (hs : NumberEnd s) :
    matchExp (n.exp ++ s) = (n.exp, s) := by
  rcases n.exp_ok with h | ⟨e, sign, d, ds, h, he, hsign, hds⟩
  · rw [h, List.nil_append]
    match s, hs with
    | [], _ => rfl
    | c :: s, hs =>
      have := hs c rfl
      exact if_neg fun h' => h'.elim this.2.2.1 this.2.2.2
  · have hd := val_of_isDigit (hds d (List.mem_cons_self _ _))
    have hsign' : matchExpSign (sign ++ d :: (ds ++ s)) = (sign, d :: (ds ++ s)) := by
      rcases hsign with rfl | rfl | rfl
      · rw [List.nil_append, matchExpSign, if_neg (by simp; omega)]
      · rfl
      · rfl
    obtain ⟨ht, hdrop⟩ := takeWhile_dropWhile_digits hds (noDigitFirst_of_numberEnd hs)
    simp only [List.cons_append] at ht hdrop
    simp only [h, List.cons_append, List.append_assoc, matchExp, if_pos he, hsign', ht, hdrop,
      List.cons_ne_nil, if_false]

theorem noDigitFirst_cons {c : Fin 0x110000} (h : isDigit c = false) (s : PyStr) :
    NoDigitFirst (c :: s) := by
  rintro x ⟨⟩
  exact h

/-- An exponent, or else what follows the number, starts no fraction and no digit. -/
theorem exp_append_head (n : NumberSyntax) {s : PyStr} (hs : NumberEnd s) :
    NoDigitFirst (n.exp ++ s) ∧ ∀ c ∈ (n.exp ++ s).head?, c ≠ codePoint '.' := by
  rcases n.exp_ok with h | ⟨e, sign, d, ds, h, he, -, -⟩
  · rw [h, List.nil_append]
    exact ⟨noDigitFirst_of_numberEnd hs, fun c hc => (hs c hc).2.1⟩
  · rw [h, List.cons_append]
    rcases he with rfl | rfl
    · exact ⟨noDigitFirst_cons (by decide) _, by rintro x ⟨⟩; decide⟩
    · exact ⟨noDigitFirst_cons (by decide) _, by rintro x ⟨⟩; decide⟩

/-- **A number is read to its end** when what follows it starts no number part. -/
theorem matchNumber_text (n : NumberSyntax) {s : PyStr} (hs : NumberEnd s) :
    matchNumber (n.text ++ s) = some (n.text, n.isFloat, s) := by
  obtain ⟨hexpDigit, hexpDot⟩ := exp_append_head n hs
  have hfrac : matchFrac (n.frac ++ n.exp ++ s) = (n.frac, n.exp ++ s) := by
    rw [List.append_assoc]
    exact matchFrac_frac n hexpDigit hexpDot
  have hint : matchIntPart (n.intPart ++ (n.frac ++ n.exp ++ s)) =
      some (n.intPart, n.frac ++ n.exp ++ s) := by
    refine matchIntPart_intPart n ?_
    rcases n.frac_ok with h | ⟨d, ds, h, -⟩
    · rwa [h, List.nil_append]
    · rw [h, List.cons_append, List.cons_append]
      exact noDigitFirst_cons (by decide) _
  have hsign : matchSign (n.sign ++ n.intPart ++ n.frac ++ n.exp ++ s) =
      (n.sign, n.intPart ++ (n.frac ++ n.exp ++ s)) := by
    simp only [List.append_assoc]
    rcases n.sign_ok with h | h
    · simpa [h] using matchSign_of_digit_first n (n.frac ++ (n.exp ++ s))
    · rw [h]; rfl
  simp only [matchNumber, NumberSyntax.text, hsign, hint]
  simp only [bind, Option.bind, hfrac, matchExp_exp n hs]
  rfl

/-! ## `int.__repr__` -/

theorem digitChar_toNat {d : Nat} (h : d < 10) : (Nat.digitChar d).toNat = 48 + d := by
  interval_cases d <;> rfl

theorem digitsValue_append_singleton (l : PyStr) (c : Fin 0x110000) :
    digitsValue (l ++ [c]) = 10 * digitsValue l + (c.val - 48) := by
  simp [digitsValue, List.foldl_append]

/-- The decimal digits of `m` without leading zeros, as `str(m)` writes them. -/
def DecimalOf (m : Nat) (l : PyStr) : Prop :=
  (l = [codePoint '0'] ∧ m = 0) ∨
    ∃ d ds, l = d :: ds ∧ d ≠ codePoint '0' ∧ isDigit d = true ∧ AllDigits ds ∧ digitsValue l = m

theorem decimalOf_toDigitsCore :
    ∀ fuel m (ds : List Char), m < fuel →
      ∃ l, (Nat.toDigitsCore 10 fuel m ds).map codePoint = l ++ ds.map codePoint ∧ DecimalOf m l
  | 0, _, _, h => absurd h (Nat.not_lt_zero _)
  | fuel + 1, m, ds, h => by
    have hd := digitChar_toNat (Nat.mod_lt m (show 10 > 0 by decide))
    have hdigit : isDigit (codePoint (Nat.digitChar (m % 10))) = true :=
      isDigit_of_val (by simp [hd]) (by simp [hd]; omega)
    by_cases hm : m / 10 = 0
    · refine ⟨[codePoint (Nat.digitChar (m % 10))], by simp [Nat.toDigitsCore, hm], ?_⟩
      by_cases h0 : m = 0
      · exact .inl ⟨by subst h0; rfl, h0⟩
      · refine .inr ⟨_, [], rfl, fun h' => ?_, hdigit, fun _ h => absurd h (List.not_mem_nil _), ?_⟩
        · have := congrArg Fin.val h'
          simp [hd] at this; omega
        · simp [digitsValue, hd]; omega
    · obtain ⟨l, hl, hdec⟩ := decimalOf_toDigitsCore fuel (m / 10) (Nat.digitChar (m % 10) :: ds)
        (by omega)
      refine ⟨l ++ [codePoint (Nat.digitChar (m % 10))], by simp [Nat.toDigitsCore, hm, hl], ?_⟩
      rcases hdec with ⟨-, h0⟩ | ⟨d, ds', rfl, hd0, hdd, hds, hval⟩
      · exact absurd h0 hm
      · refine .inr ⟨d, ds' ++ [codePoint (Nat.digitChar (m % 10))], List.cons_append _ _ _, hd0, hdd,
          ?_, ?_⟩
        · intro x hx
          rcases List.mem_append.mp hx with hx | hx
          · exact hds x hx
          · rw [List.mem_singleton.mp hx]; exact hdigit
        · rw [digitsValue_append_singleton, hval]
          simp [hd]; omega

theorem decimalOf_repr (m : Nat) : DecimalOf m (pyStr (Nat.repr m)) := by
  obtain ⟨l, hl, hdec⟩ := decimalOf_toDigitsCore (m + 1) m [] (Nat.lt_succ_self m)
  simp only [List.map_nil, List.append_nil] at hl
  exact (show pyStr (Nat.repr m) = l from hl) ▸ hdec

/-- The digits of `str(m)` read back as `m`. -/
theorem digitsValue_repr (m : Nat) : digitsValue (pyStr (Nat.repr m)) = m := by
  rcases decimalOf_repr m with ⟨h, rfl⟩ | ⟨_, _, _, _, _, _, h⟩
  · rw [h]; rfl
  · exact h

/-- `str(n)` of an `int` is the number syntax, without fraction or exponent. -/
theorem showInt_syntax (n : Int) : ∃ ns : NumberSyntax, ns.text = showInt n ∧ ns.isFloat = false := by
  have hint : ∀ m, ∃ ns : NumberSyntax, ns.sign = [] ∧ ns.frac = [] ∧ ns.exp = [] ∧
      ns.intPart = pyStr (Nat.repr m) := fun m =>
    ⟨⟨[], pyStr (Nat.repr m), [], [], .inl rfl,
      (decimalOf_repr m).imp (·.1) fun ⟨d, ds, h, hd0, hd, hds, _⟩ => ⟨d, ds, h, hd0, hd, hds⟩,
      .inl rfl, .inl rfl⟩, rfl, rfl, rfl, rfl⟩
  cases n with
  | ofNat m =>
    obtain ⟨ns, hs, hf, he, hi⟩ := hint m
    exact ⟨ns, by simp [NumberSyntax.text, hs, hf, he, hi]; rfl, by simp [NumberSyntax.isFloat, hf, he]⟩
  | negSucc m =>
    obtain ⟨ns, -, hf, he, hi⟩ := hint (m + 1)
    refine ⟨{ ns with sign := [codePoint '-'], sign_ok := .inr rfl }, ?_, ?_⟩
    · simp only [NumberSyntax.text, hf, he, hi, List.append_nil]; rfl
    · simp [NumberSyntax.isFloat, hf, he]

/-- **An `int` written by `json.dump` reads back as itself.** -/
theorem intOfToken_showInt (n : Int) : intOfToken (showInt n) = n := by
  cases n with
  | ofNat m =>
    rcases decimalOf_repr m with ⟨h, rfl⟩ | ⟨d, ds, h, -, hd, -, hval⟩
    · rw [show showInt (Int.ofNat 0) = [codePoint '0'] from h]; rfl
    · have hne : d ≠ codePoint '-' := fun h' => by
        have := val_of_isDigit hd; rw [h'] at this; simp at this
      rw [show showInt (Int.ofNat m) = d :: ds from h, intOfToken, if_neg hne, ← h, digitsValue_repr]
      rfl
  | negSucc m =>
    rw [show showInt (Int.negSucc m) = codePoint '-' :: pyStr (Nat.repr (m + 1)) from rfl, intOfToken,
      if_pos rfl, digitsValue_repr]
    rfl

/-! ## A codec for the rationals -/

/-- `str(m)` is a nonempty run of digits. -/
theorem repr_digits (m : Nat) : ∃ d ds, pyStr (Nat.repr m) = d :: ds ∧ AllDigits (d :: ds) := by
  rcases decimalOf_repr m with ⟨h, -⟩ | ⟨d, ds, h, -, hd, hds, -⟩
  · exact ⟨_, _, h, fun c hc => by rw [List.mem_singleton.mp hc]; rfl⟩
  · exact ⟨d, ds, h, fun c hc => (List.mem_cons.mp hc).elim (fun h => h ▸ hd) (hds c)⟩

/-- A codec for `ℚ` that writes a number as `0.` followed by the digits of its `Encodable` index.
It meets both laws of `FloatCodec`, so every theorem about `json` on floats holds of it. -/
def rationalCodec : FloatCodec ℚ where
  repr q := pyStr "0." ++ pyStr (Nat.repr (Encodable.encode q))
  parse t := match Encodable.decode (digitsValue (t.drop 2)) with
    | some q => .fin q
    | none => .nan
  repr_syntax q := by
    obtain ⟨d, ds, h, hds⟩ := repr_digits (Encodable.encode q)
    refine ⟨⟨[], [codePoint '0'], codePoint '.' :: d :: ds, [], .inl rfl, .inl rfl,
      .inr ⟨d, ds, rfl, hds⟩, .inl rfl⟩, ?_, rfl⟩
    show _ = pyStr "0." ++ pyStr (Nat.repr (Encodable.encode q))
    rw [h, NumberSyntax.text, List.append_nil]
    rfl
  parse_repr q := by
    simp only [List.drop_left' (show (pyStr "0.").length = 2 from rfl), digitsValue_repr,
      Encodable.encodek]

end EdgeAI
