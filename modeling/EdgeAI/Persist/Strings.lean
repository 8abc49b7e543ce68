import EdgeAI.Persist.Json

/-!
# Strings through `json`: written, then read back

`json.dump` writes a string in ASCII: a code point above `0xFFFF` becomes the escapes of its
surrogate pair. `json.load` joins a high surrogate escape followed by a low one into the code point
of the pair. A Python `str` may hold surrogates of its own, so the escapes of a lone high surrogate
followed by a lone low one are read back as one code point: reading undoes writing up to
`joinSurrogates`, which joins each such pair (`scanString_escaped`).
-/

namespace EdgeAI

/-! ## Code points as numbers -/

@[simp] theorem codePoint_val (c : Char) : (codePoint c).val = c.toNat := rfl

@[simp] theorem eq_codePoint_iff (d : Fin 0x110000) (c : Char) : d = codePoint c ↔ d.val = c.toNat :=
  Fin.ext_iff

@[simp] theorem codeUnit_val (n : Nat) : (codeUnit n).val = n % 0x110000 := rfl

theorem codeUnit_of_val (c : Fin 0x110000) : codeUnit c.val = c :=
  Fin.ext (Nat.mod_eq_of_lt c.isLt)

theorem hexDigit_val {d : Nat} (h : d < 16) : (hexDigit d).val = if d < 10 then 48 + d else 87 + d := by
  unfold hexDigit
  split <;> simp only [codeUnit_val] <;> omega

theorem hexDigitValue_hexDigit {d : Nat} (h : d < 16) : hexDigitValue (hexDigit d) = some d := by
  have hv := hexDigit_val h
  by_cases hd : d < 10
  · rw [if_pos hd] at hv
    simp only [hexDigitValue, hv, if_pos (show 48 ≤ 48 + d ∧ 48 + d ≤ 57 by omega),
      Nat.add_sub_cancel_left]
  · rw [if_neg hd] at hv
    simp only [hexDigitValue, hv, if_neg (show ¬(48 ≤ 87 + d ∧ 87 + d ≤ 57) by omega),
      if_pos (show 97 ≤ 87 + d ∧ 87 + d ≤ 102 by omega), Nat.add_sub_cancel_left]

/-! ## The scan, step by step -/

@[simp] theorem prependScan_nil : prependScan [] = id := rfl

theorem prependScan_prependScan (a b : PyStr) (r : PyStr × PyStr) :
    prependScan a (prependScan b r) = prependScan (a ++ b) r := by
  simp [prependScan]

theorem scanChars_cons_of_step {st st' : ScanState} {c : Fin 0x110000} {out : PyStr}
    (h : scanStep st c = some (out, some st')) (s : PyStr) :
    scanChars st (c :: s) = (scanChars st' s).map (prependScan out) := by
  simp [scanChars, h]

/-- The four hexadecimal digits of a `\uXXXX` escape of `n`. -/
theorem scanChars_hex (p : Option Nat) {n : Nat} (hn : n < 0x10000) (T : PyStr) :
    scanChars (.unicode 0 0 p) (hexDigit (n / 4096 % 16) :: hexDigit (n / 256 % 16) ::
        hexDigit (n / 16 % 16) :: hexDigit (n % 16) :: T) =
      (scanChars (unicodeEnd p n).2 T).map (prependScan (unicodeEnd p n).1) := by
  have key : 16 * (16 * (16 * (n / 4096 % 16) + n / 256 % 16) + n / 16 % 16) + n % 16 = n := by
    omega
  simp [scanChars, scanStep, hexDigitValue_hexDigit, Nat.mod_lt, key]

theorem isHigh_iff (n : Nat) : isHigh n = true ↔ 0xd800 ≤ n ∧ n ≤ 0xdbff := by simp [isHigh]

theorem isLow_iff (n : Nat) : isLow n = true ↔ 0xdc00 ≤ n ∧ n ≤ 0xdfff := by simp [isLow]

theorem scanStep_plain (c : Fin 0x110000) : scanStep .plain c = plainStep c := rfl

theorem scanStep_escape (e : Fin 0x110000) : scanStep .escape e = escapeStep e := rfl

theorem scanStep_plain_backslash : scanStep .plain (codePoint '\\') = some ([], some .escape) := rfl

theorem scanStep_escape_u : scanStep .escape (codePoint 'u') = some ([], some (.unicode 0 0 none)) :=
  rfl

theorem scanStep_high_backslash (hi : Nat) :
    scanStep (.high hi) (codePoint '\\') = some ([], some (.highEscape hi)) := rfl

theorem scanStep_highEscape_u (hi : Nat) :
    scanStep (.highEscape hi) (codePoint 'u') = some ([], some (.unicode 0 0 (some hi))) := rfl

/-- A `\uXXXX` escape read between code points. -/
theorem scanChars_plain_uEscape {n : Nat} (hn : n < 0x10000) (T : PyStr) :
    scanChars .plain (uEscape n ++ T) =
      (scanChars (unicodeDone n).2 T).map (prependScan (unicodeDone n).1) := by
  simp only [uEscape, List.cons_append, List.nil_append]
  rw [scanChars_cons_of_step scanStep_plain_backslash, scanChars_cons_of_step scanStep_escape_u,
    scanChars_hex none hn]
  simp [unicodeEnd]

/-- A `\uXXXX` escape read after the escape of the high surrogate `hi`. -/
theorem scanChars_high_uEscape (hi : Nat) {n : Nat} (hn : n < 0x10000) (T : PyStr) :
    scanChars (.high hi) (uEscape n ++ T) =
      (scanChars (unicodeEnd (some hi) n).2 T).map (prependScan (unicodeEnd (some hi) n).1) := by
  simp only [uEscape, List.cons_append, List.nil_append]
  rw [scanChars_cons_of_step (scanStep_high_backslash hi),
    scanChars_cons_of_step (scanStep_highEscape_u hi), scanChars_hex (some hi) hn]
  simp

/-! ## One code point, written and read -/

/-- The surrogates of a code point above `0xFFFF` are a high and a low surrogate, which join back
into it. -/
theorem surrogates_of_astral {c : Fin 0x110000} (h : 0x10000 ≤ c.val) :
    highSurrogate c.val < 0x10000 ∧ isHigh (highSurrogate c.val) = true ∧
      isLow (highSurrogate c.val) = false ∧ lowSurrogate c.val < 0x10000 ∧
      isLow (lowSurrogate c.val) = true ∧ joinPair (highSurrogate c.val) (lowSurrogate c.val) = c := by
  have := c.isLt
  refine ⟨?_, ?_, ?_, ?_, ?_, Fin.ext ?_⟩ <;>
    simp only [highSurrogate, lowSurrogate, isHigh, isLow, joinPair, codeUnit_val, Bool.and_eq_true,
      Bool.and_eq_false_iff, decide_eq_true_eq, decide_eq_false_iff_not] <;> omega

/-- What `encode_basestring_ascii` makes of a code point: itself, printable ASCII other than a
backslash; a backslash and a letter; one `\uXXXX` escape; or the escapes of its surrogates. -/
theorem escapeChar_cases (c : Fin 0x110000) :
    (c ≠ codePoint '\\' ∧ escapeChar c = [c] ∧ plainStep c = some ([c], some .plain) ∧
      c.val < 0x80) ∨
    (∃ e, escapeChar c = [codePoint '\\', e] ∧ escapeStep e = some ([c], some .plain) ∧
      e ≠ codePoint 'u' ∧ c.val < 0x80) ∨
    (c.val < 0x10000 ∧ escapeChar c = uEscape c.val) ∨
    (0x10000 ≤ c.val ∧ escapeChar c = uEscape (highSurrogate c.val) ++ uEscape (lowSurrogate c.val)) := by
  by_cases h₁ : c = codePoint '\\'
  · subst h₁; exact .inr (.inl ⟨_, rfl, rfl, by decide, by decide⟩)
  by_cases h₂ : c = codePoint '"'
  · subst h₂; exact .inr (.inl ⟨_, rfl, rfl, by decide, by decide⟩)
  by_cases h₃ : 0x20 ≤ c.val ∧ c.val ≤ 0x7e
  · refine .inl ⟨h₁, by rw [escapeChar, if_neg h₁, if_neg h₂, if_pos h₃], ?_, by omega⟩
    have h₁' : c.val ≠ 92 := by simpa using h₁
    have h₂' : c.val ≠ 34 := by simpa using h₂
    simp [plainStep, h₁', h₂', show ¬c.val < 0x20 by omega]
  by_cases h₄ : c = codePoint '\n'
  · subst h₄; exact .inr (.inl ⟨_, rfl, rfl, by decide, by decide⟩)
  by_cases h₅ : c = codePoint '\r'
  · subst h₅; exact .inr (.inl ⟨_, rfl, rfl, by decide, by decide⟩)
  by_cases h₆ : c = codePoint '\t'
  · subst h₆; exact .inr (.inl ⟨_, rfl, rfl, by decide, by decide⟩)
  by_cases h₇ : c.val = 0x08
  · obtain rfl : c = codeUnit 0x08 := Fin.ext (by simp [h₇])
    exact .inr (.inl ⟨_, rfl, rfl, by decide, by decide⟩)
  by_cases h₈ : c.val = 0x0c
  · obtain rfl : c = codeUnit 0x0c := Fin.ext (by simp [h₈])
    exact .inr (.inl ⟨_, rfl, rfl, by decide, by decide⟩)
  have hrest : escapeChar c = if c.val < 0x10000 then uEscape c.val
      else uEscape (highSurrogate c.val) ++ uEscape (lowSurrogate c.val) := by
    rw [escapeChar, if_neg h₁, if_neg h₂, if_neg h₃, if_neg h₄, if_neg h₅, if_neg h₆, if_neg h₇,
      if_neg h₈]
  split at hrest
  · exact .inr (.inr (.inl ⟨‹_›, hrest⟩))
  · exact .inr (.inr (.inr ⟨by omega, hrest⟩))

theorem map_prependScan_map (a b : PyStr) (r : Option (PyStr × PyStr)) :
    (r.map (prependScan b)).map (prependScan a) = r.map (prependScan (a ++ b)) := by
  cases r <;> simp [prependScan]

/-- A written code point read between code points: itself, unless it is a high surrogate, whose
escape waits for what follows. -/
theorem scanChars_plain_escapeChar (c : Fin 0x110000) (T : PyStr) :
    scanChars .plain (escapeChar c ++ T) =
      if isHigh c.val then scanChars (.high c.val) T else (scanChars .plain T).map (prependScan [c]) := by
  rcases escapeChar_cases c with ⟨-, he, hstep, hlt⟩ | ⟨e, he, hstep, -, hlt⟩ | ⟨hlt, he⟩ | ⟨hge, he⟩
  · rw [he, List.singleton_append, scanChars_cons_of_step ((scanStep_plain c).trans hstep),
      if_neg (by rw [isHigh_iff]; omega)]
  · rw [he, List.cons_append, List.singleton_append, scanChars_cons_of_step scanStep_plain_backslash,
      scanChars_cons_of_step ((scanStep_escape e).trans hstep), if_neg (by rw [isHigh_iff]; omega),
      map_prependScan_map]
    rfl
  · rw [he, scanChars_plain_uEscape hlt]
    unfold unicodeDone
    split <;> simp [codeUnit_of_val]
  · obtain ⟨hH, hhigh, -, hL, hlow, hjoin⟩ := surrogates_of_astral hge
    rw [he, List.append_assoc, scanChars_plain_uEscape hH, if_neg (by rw [isHigh_iff]; omega)]
    simp [unicodeDone, hhigh, scanChars_high_uEscape _ hL, unicodeEnd, hlow, hjoin]

/-- A written code point read after the escape of the high surrogate `hi`: a low surrogate joins
it; anything else leaves it standing for itself and is read as between code points. -/
theorem scanChars_high_escapeChar (hi : Nat) (c : Fin 0x110000) (T : PyStr) :
    scanChars (.high hi) (escapeChar c ++ T) =
      if isLow c.val then (scanChars .plain T).map (prependScan [joinPair hi c.val])
      else (scanChars .plain (escapeChar c ++ T)).map (prependScan [codeUnit hi]) := by
  rcases escapeChar_cases c with ⟨hne, he, hstep, hlt⟩ | ⟨e, he, hstep, hu, hlt⟩ | ⟨hlt, he⟩ | ⟨hge, he⟩
  · have hhigh : scanStep (.high hi) c = some ([codeUnit hi, c], some .plain) := by
      rw [scanStep, if_neg hne, hstep]; rfl
    rw [he, List.singleton_append, scanChars_cons_of_step hhigh, if_neg (by rw [isLow_iff]; omega),
      scanChars_cons_of_step ((scanStep_plain c).trans hstep), map_prependScan_map]
    rfl
  · have hesc : scanStep (.highEscape hi) e = some ([codeUnit hi, c], some .plain) := by
      rw [scanStep, if_neg hu, hstep]; rfl
    rw [he, List.cons_append, List.singleton_append, scanChars_cons_of_step (scanStep_high_backslash hi),
      scanChars_cons_of_step hesc, if_neg (by rw [isLow_iff]; omega),
      scanChars_cons_of_step scanStep_plain_backslash, scanChars_cons_of_step ((scanStep_escape e).trans hstep)]
    simp only [map_prependScan_map]
    rfl
  · rw [he, scanChars_high_uEscape hi hlt, scanChars_plain_uEscape hlt, map_prependScan_map]
    by_cases hl : isLow c.val <;> simp [unicodeEnd, hl]
  · obtain ⟨hH, hhigh, hnotlow, hL, hlow, hjoin⟩ := surrogates_of_astral hge
    rw [he, List.append_assoc, scanChars_high_uEscape hi hH, scanChars_plain_uEscape hH,
      if_neg (by rw [isLow_iff]; omega)]
    simp [unicodeEnd, unicodeDone, hnotlow, hhigh, scanChars_high_uEscape _ hL, hlow, hjoin,
      map_prependScan_map]

/-! ## Whole strings -/

/-- Each high surrogate directly followed by a low surrogate, joined into the code point of the
pair, from the left. -/
def joinSurrogates : PyStr → PyStr
  | c :: d :: s =>
    if isHigh c.val ∧ isLow d.val then joinPair c.val d.val :: joinSurrogates s
    else c :: joinSurrogates (d :: s)
  | s => s

/-- A string without a high surrogate has no pair to join. -/
theorem joinSurrogates_of_not_high :
    ∀ {s : PyStr}, (∀ c ∈ s, isHigh c.val = false) → joinSurrogates s = s
  | c :: d :: s, h => by
    rw [joinSurrogates, if_neg (by simp [h c (List.mem_cons_self _ _)]),
      joinSurrogates_of_not_high fun x hx => h x (List.mem_cons_of_mem _ hx)]
  | [], _ => rfl
  | [_], _ => rfl

theorem scanChars_plain_quote (rest : PyStr) : scanChars .plain (codePoint '"' :: rest) = some ([], rest) :=
  rfl

theorem scanChars_high_quote (hi : Nat) (rest : PyStr) :
    scanChars (.high hi) (codePoint '"' :: rest) = some ([codeUnit hi], rest) := rfl

/-- **Reading a written string gives it back with its surrogate pairs joined.** -/
theorem scanString_escaped (rest : PyStr) (s : PyStr) :
    scanString (s.flatMap escapeChar ++ codePoint '"' :: rest) = some (joinSurrogates s, rest) := by
  unfold scanString
  induction s using joinSurrogates.induct with
  | case1 c d s h ih =>
    rw [joinSurrogates, if_pos h, List.flatMap_cons, List.flatMap_cons, List.append_assoc,
      scanChars_plain_escapeChar, if_pos h.1, List.append_assoc, scanChars_high_escapeChar, if_pos h.2, ih]
    rfl
  | case2 c d s h ih =>
    rw [joinSurrogates, if_neg h, List.flatMap_cons, List.append_assoc, scanChars_plain_escapeChar]
    by_cases hc : isHigh c.val
    · rw [if_pos hc, List.flatMap_cons, List.append_assoc,
        scanChars_high_escapeChar, if_neg (fun hd => h ⟨hc, hd⟩), ← List.append_assoc,
        ← List.flatMap_cons, ih, codeUnit_of_val]
      rfl
    · rw [if_neg hc, ih]
      rfl
  | case3 s h =>
    match s, h with
    | [], _ => rfl
    | [c], _ =>
      rw [List.flatMap_cons, List.flatMap_nil, List.append_nil, scanChars_plain_escapeChar]
      split
      · rw [scanChars_high_quote, codeUnit_of_val]; rfl
      · rw [scanChars_plain_quote]; rfl
    | _ :: _ :: _, h => exact absurd rfl (h _ _ _)

end EdgeAI
