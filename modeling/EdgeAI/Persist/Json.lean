import EdgeAI.Python.Runtime

/-!
# JSON, as Python's `json` package writes and reads it

`save_learned_parameters` writes its record with `json.dump(params, f, indent=2)` and
`load_learned_parameters` reads it with `json.load(f)`. `dumps` follows CPython's `encoder.py` with
the C `encode_basestring_ascii`: a string in ASCII, other code points as `\uXXXX`, and one above
`0xFFFF` as the escapes of its surrogate pair. `loads` follows the C scanner of `_json.c`, whose
string scanner joins a high surrogate escape followed by a low one into one code point. Floats go
through `FloatCodec`: the interpreter's `float.__repr__` and `float()`, with the two laws CPython's
repr meets. The scanner's recursion limit is not modelled: `loads` gives it one unit of fuel per
value, item or entry, enough for any text `json.dump` wrote (`weight_le_length`).
-/

namespace EdgeAI

/-! ## Values -/

/-- A Python `float`: a finite value, or one of the three values `json` writes as `NaN`,
`Infinity` and `-Infinity`. -/
inductive PyFloat (α : Type) where
  | fin (x : α)
  | nan
  | inf
  | negInf
deriving DecidableEq

/-- The Python values of a JSON text: `None`, `bool`, `int`, `float`, `str`, `list`, and `dict`
with string keys, its entries in order. -/
inductive Json (α : Type) where
  | null
  | bool (b : Bool)
  | int (n : Int)
  | float (x : PyFloat α)
  | str (s : PyStr)
  | arr (xs : List (Json α))
  | obj (kvs : List (PyStr × Json α))

def codeUnit (n : Nat) : Fin 0x110000 := ⟨n % 0x110000, Nat.mod_lt _ (by decide)⟩

/-! ## Numbers -/

def isDigit (c : Fin 0x110000) : Bool := 48 ≤ c.val && c.val ≤ 57

/-- `-?` -/
def matchSign : PyStr → PyStr × PyStr
  | c :: s => if c = codePoint '-' then ([c], s) else ([], c :: s)
  | [] => ([], [])

/-- `0|[1-9][0-9]*` -/
def matchIntPart : PyStr → Option (PyStr × PyStr)
  | c :: s =>
    if c = codePoint '0' then some ([c], s)
    else if isDigit c then some (c :: s.takeWhile isDigit, s.dropWhile isDigit)
    else none
  | [] => none

/-- `(\.[0-9]+)?`: a dot counts only when a digit follows it. -/
def matchFrac : PyStr → PyStr × PyStr
  | c :: d :: s =>
    if c = codePoint '.' ∧ isDigit d then (c :: d :: s.takeWhile isDigit, s.dropWhile isDigit)
    else ([], c :: d :: s)
  | s => ([], s)

def matchExpSign : PyStr → PyStr × PyStr
  | c :: s => if c = codePoint '-' ∨ c = codePoint '+' then ([c], s) else ([], c :: s)
  | [] => ([], [])

/-- `([eE][-+]?[0-9]+)?`: without a digit the scanner backtracks to the mark. -/
def matchExp : PyStr → PyStr × PyStr
  | c :: s =>
    if c = codePoint 'e' ∨ c = codePoint 'E' then
      let ds := (matchExpSign s).2.takeWhile isDigit
      if ds = [] then ([], c :: s)
      else (c :: (matchExpSign s).1 ++ ds, (matchExpSign s).2.dropWhile isDigit)
    else ([], c :: s)
  | [] => ([], [])

/-- `_match_number_unicode`: the number at the start of `s`, whether it has a fraction or an
exponent (then it is read as a `float`, else as an `int`), and the text after it. -/
def matchNumber (s : PyStr) : Option (PyStr × Bool × PyStr) := do
  let (intPart, s₁) ← matchIntPart (matchSign s).2
  let (frac, s₂) := matchFrac s₁
  let (exp, s₃) := matchExp s₂
  pure ((matchSign s).1 ++ intPart ++ frac ++ exp, !(frac.isEmpty && exp.isEmpty), s₃)

def digitsValue (ds : PyStr) : Nat := ds.foldl (fun n d => 10 * n + (d.val - 48)) 0

/-- `int(token)` of an integer token. -/
def intOfToken : PyStr → Int
  | c :: ds => if c = codePoint '-' then -(digitsValue ds : Int) else digitsValue (c :: ds)
  | [] => 0

def AllDigits (ds : PyStr) : Prop := ∀ d ∈ ds, isDigit d = true

/-- A number as the syntax reads it: a sign, an integer part, a fraction and an exponent, all but
the integer part possibly empty. -/
structure NumberSyntax where
  sign : PyStr
  intPart : PyStr
  frac : PyStr
  exp : PyStr
  sign_ok : sign = [] ∨ sign = [codePoint '-']
  int_ok : intPart = [codePoint '0'] ∨
    ∃ d ds, intPart = d :: ds ∧ d ≠ codePoint '0' ∧ isDigit d = true ∧ AllDigits ds
  frac_ok : frac = [] ∨ ∃ d ds, frac = codePoint '.' :: d :: ds ∧ AllDigits (d :: ds)
  exp_ok : exp = [] ∨ ∃ e sign d ds, exp = e :: sign ++ d :: ds ∧
    (e = codePoint 'e' ∨ e = codePoint 'E') ∧
    (sign = [] ∨ sign = [codePoint '-'] ∨ sign = [codePoint '+']) ∧ AllDigits (d :: ds)

def NumberSyntax.text (n : NumberSyntax) : PyStr := n.sign ++ n.intPart ++ n.frac ++ n.exp

def NumberSyntax.isFloat (n : NumberSyntax) : Bool := !(n.frac.isEmpty && n.exp.isEmpty)

/-- How the interpreter writes and reads finite floats: `float.__repr__` and `float()`. `repr`
writes the number syntax with a fraction or an exponent (`1.0`, `1e-05`), which `float()` reads
back exactly. -/
structure FloatCodec (α : Type) where
  repr : α → PyStr
  parse : PyStr → PyFloat α
  repr_syntax : ∀ x, ∃ n : NumberSyntax, n.text = repr x ∧ n.isFloat = true
  parse_repr : ∀ x, parse (repr x) = .fin x

/-! ## Writing: `json.dump(obj, f, indent=2)` -/

/-- A hexadecimal digit as `format(n, "04x")` writes it, in lowercase. -/
def hexDigit (d : Nat) : Fin 0x110000 := if d < 10 then codeUnit (48 + d) else codeUnit (87 + d)

/-- `"\\u{0:04x}".format(n)`. -/
def uEscape (n : Nat) : PyStr :=
  [codePoint '\\', codePoint 'u', hexDigit (n / 4096 % 16), hexDigit (n / 256 % 16),
    hexDigit (n / 16 % 16), hexDigit (n % 16)]

/-- The high surrogate of a code point above `0xFFFF`: `0xd800 | ((n >> 10) & 0x3ff)`. -/
def highSurrogate (c : Nat) : Nat := 0xd800 + (c - 0x10000) / 0x400

/-- The low surrogate of a code point above `0xFFFF`: `0xdc00 | (n & 0x3ff)`. -/
def lowSurrogate (c : Nat) : Nat := 0xdc00 + (c - 0x10000) % 0x400

/-- `encode_basestring_ascii` on one code point: `\\` and `"` escaped, the other printable ASCII
kept, the five control characters with a short escape written so, and every other code point as
`\uXXXX`, or as its surrogate pair above `0xFFFF`. -/
def escapeChar (c : Fin 0x110000) : PyStr :=
  if c = codePoint '\\' then [codePoint '\\', codePoint '\\']
  else if c = codePoint '"' then [codePoint '\\', codePoint '"']
  else if 0x20 ≤ c.val ∧ c.val ≤ 0x7e then [c]
  else if c = codePoint '\n' then [codePoint '\\', codePoint 'n']
  else if c = codePoint '\r' then [codePoint '\\', codePoint 'r']
  else if c = codePoint '\t' then [codePoint '\\', codePoint 't']
  else if c.val = 0x08 then [codePoint '\\', codePoint 'b']
  else if c.val = 0x0c then [codePoint '\\', codePoint 'f']
  else if c.val < 0x10000 then uEscape c.val
  else uEscape (highSurrogate c.val) ++ uEscape (lowSurrogate c.val)

/-- A string in quotes, escaped as `ensure_ascii=True` asks. -/
def encodeStr (s : PyStr) : PyStr := codePoint '"' :: s.flatMap escapeChar ++ [codePoint '"']

/-- `'\n' + ' ' * (indent * level)` with `indent=2`. -/
def newlineIndent (level : Nat) : PyStr :=
  codePoint '\n' :: List.replicate (2 * level) (codePoint ' ')

section Dump

variable {α : Type} (codec : FloatCodec α)

/-- `_floatstr` with `allow_nan=True`. -/
def floatStr : PyFloat α → PyStr
  | .fin x => codec.repr x
  | .nan => pyStr "NaN"
  | .inf => pyStr "Infinity"
  | .negInf => pyStr "-Infinity"

mutual

/-- `_iterencode` at nesting `level`: an empty list or dict on one line, else one item a line,
indented two spaces a level. -/
def dumpsAt (level : Nat) : Json α → PyStr
  | .null => pyStr "null"
  | .bool true => pyStr "true"
  | .bool false => pyStr "false"
  | .int n => showInt n
  | .float x => floatStr codec x
  | .str s => encodeStr s
  | .arr [] => [codePoint '[', codePoint ']']
  | .arr (x :: xs) =>
    codePoint '[' :: newlineIndent (level + 1) ++ dumpsAt (level + 1) x ++ dumpsItems (level + 1) xs ++
      newlineIndent level ++ [codePoint ']']
  | .obj [] => [codePoint '{', codePoint '}']
  | .obj ((k, v) :: kvs) =>
    codePoint '{' :: newlineIndent (level + 1) ++ encodeStr k ++ pyStr ": " ++
      dumpsAt (level + 1) v ++ dumpsMembers (level + 1) kvs ++ newlineIndent level ++ [codePoint '}']

def dumpsItems (level : Nat) : List (Json α) → PyStr
  | [] => []
  | x :: xs => codePoint ',' :: newlineIndent level ++ dumpsAt level x ++ dumpsItems level xs

def dumpsMembers (level : Nat) : List (PyStr × Json α) → PyStr
  | [] => []
  | (k, v) :: kvs =>
    codePoint ',' :: newlineIndent level ++ encodeStr k ++ pyStr ": " ++ dumpsAt level v ++
      dumpsMembers level kvs

end

/-- `json.dump(obj, f, indent=2)`: the text written. -/
def dumps (j : Json α) : PyStr := dumpsAt codec 0 j

end Dump

/-! ## Reading: `json.load(f)` -/

def isWs (c : Fin 0x110000) : Bool :=
  c = codePoint ' ' || c = codePoint '\t' || c = codePoint '\n' || c = codePoint '\r'

/-- `WHITESPACE.match(s, end).end()`. -/
def skipWs (s : PyStr) : PyStr := s.dropWhile isWs

def hexDigitValue (c : Fin 0x110000) : Option Nat :=
  if 48 ≤ c.val ∧ c.val ≤ 57 then some (c.val - 48)
  else if 97 ≤ c.val ∧ c.val ≤ 102 then some (c.val - 87)
  else if 65 ≤ c.val ∧ c.val ≤ 70 then some (c.val - 55)
  else none

def hexValue (h₁ h₂ h₃ h₄ : Fin 0x110000) : Option Nat := do
  pure (4096 * (← hexDigitValue h₁) + 256 * (← hexDigitValue h₂) + 16 * (← hexDigitValue h₃) +
    (← hexDigitValue h₄))

/-- `Py_UNICODE_IS_HIGH_SURROGATE`. -/
def isHigh (n : Nat) : Bool := 0xd800 ≤ n && n ≤ 0xdbff

/-- `Py_UNICODE_IS_LOW_SURROGATE`. -/
def isLow (n : Nat) : Bool := 0xdc00 ≤ n && n ≤ 0xdfff

/-- `Py_UNICODE_JOIN_SURROGATES`. -/
def joinPair (hi lo : Nat) : Fin 0x110000 := codeUnit (0x10000 + (hi - 0xd800) * 0x400 + (lo - 0xdc00))

/-- The escapes with one letter: `\"`, `\\`, `\/`, `\b`, `\f`, `\n`, `\r`, `\t`. -/
def simpleEscape (e : Fin 0x110000) : Option (Fin 0x110000) :=
  if e = codePoint '"' ∨ e = codePoint '\\' ∨ e = codePoint '/' then some e
  else if e = codePoint 'b' then some (codeUnit 0x08)
  else if e = codePoint 'f' then some (codeUnit 0x0c)
  else if e = codePoint 'n' then some (codePoint '\n')
  else if e = codePoint 'r' then some (codePoint '\r')
  else if e = codePoint 't' then some (codePoint '\t')
  else none

/-- Where `scanstring_unicode` stands inside a string, read one code point at a time. -/
inductive ScanState where
  /-- Between code points. -/
  | plain
  /-- After a backslash. -/
  | escape
  /-- Inside `\u`, with `digits` hexadecimal digits read, making `value`; `high` is the high
  surrogate just before, when this escape may complete its pair. -/
  | unicode (digits value : Nat) (high : Option Nat)
  /-- After the escape of a high surrogate, which a low surrogate escape next completes. -/
  | high (hi : Nat)
  /-- After a high surrogate and a backslash. -/
  | highEscape (hi : Nat)
deriving DecidableEq

/-- A complete `\uXXXX` escape of `n`: a high surrogate waits for its partner, anything else is a
code point. -/
def unicodeDone (n : Nat) : PyStr × ScanState :=
  if isHigh n then ([], .high n) else ([codeUnit n], .plain)

/-- A code point between code points: the closing quote, a backslash, a control character (an
error with `strict=True`), or a code point of the string. -/
def plainStep (c : Fin 0x110000) : Option (PyStr × Option ScanState) :=
  if c = codePoint '"' then some ([], none)
  else if c = codePoint '\\' then some ([], some .escape)
  else if c.val < 0x20 then none
  else some ([c], some .plain)

/-- The letter after a backslash. -/
def escapeStep (e : Fin 0x110000) : Option (PyStr × Option ScanState) :=
  if e = codePoint 'u' then some ([], some (.unicode 0 0 none))
  else (simpleEscape e).map fun d => ([d], some .plain)

/-- The end of a `\uXXXX` escape of `n`, with the high surrogate escape just before it, if any:
a low surrogate completes the pair; anything else leaves the high surrogate standing for itself,
and is read afresh, as `scanstring_unicode` does when it steps back (`end -= 6`). -/
def unicodeEnd : Option Nat → Nat → PyStr × ScanState
  | none, n => unicodeDone n
  | some hi, n =>
    if isLow n then ([joinPair hi n], .plain)
    else (codeUnit hi :: (unicodeDone n).1, (unicodeDone n).2)

/-- One code point of a string: what it adds to the string, and the next state, none once the
string is closed. -/
def scanStep : ScanState → Fin 0x110000 → Option (PyStr × Option ScanState)
  | .plain, c => plainStep c
  | .escape, e => escapeStep e
  | .unicode k v hi, h => (hexDigitValue h).map fun d =>
    if k < 3 then ([], some (.unicode (k + 1) (16 * v + d) hi))
    else ((unicodeEnd hi (16 * v + d)).1, some (unicodeEnd hi (16 * v + d)).2)
  | .high hi, c =>
    if c = codePoint '\\' then some ([], some (.highEscape hi))
    else (plainStep c).map fun r => (codeUnit hi :: r.1, r.2)
  | .highEscape hi, e =>
    if e = codePoint 'u' then some ([], some (.unicode 0 0 (some hi)))
    else (escapeStep e).map fun r => (codeUnit hi :: r.1, r.2)

def prependScan (out : PyStr) (r : PyStr × PyStr) : PyStr × PyStr := (out ++ r.1, r.2)

/-- The scan from a state: the rest of the string and the text after its closing quote, or none
where `scanstring_unicode` raises. -/
def scanChars : ScanState → PyStr → Option (PyStr × PyStr)
  | _, [] => none
  | st, c :: s =>
    match scanStep st c with
    | none => none
    | some (out, none) => some (out, s)
    | some (out, some st) => (scanChars st s).map (prependScan out)

/-- `scanstring_unicode` with `strict=True`, from just after the opening quote. -/
def scanString (s : PyStr) : Option (PyStr × PyStr) := scanChars .plain s

section Load

variable {α : Type} (codec : FloatCodec α)

/-- The constants and numbers `scan_once_unicode` reads, by their first code point: `null`,
`true`, `false`, `NaN`, `Infinity`, `-Infinity`, and else a number, an `int` unless it has a
fraction or an exponent. -/
def scanAtom : PyStr → Option (Json α × PyStr)
  | [] => none
  | c :: s =>
    if c = codePoint 'n' ∧ (pyStr "ull").isPrefixOf s then some (.null, s.drop 3)
    else if c = codePoint 't' ∧ (pyStr "rue").isPrefixOf s then some (.bool true, s.drop 3)
    else if c = codePoint 'f' ∧ (pyStr "alse").isPrefixOf s then some (.bool false, s.drop 4)
    else if c = codePoint 'N' ∧ (pyStr "aN").isPrefixOf s then some (.float .nan, s.drop 2)
    else if c = codePoint 'I' ∧ (pyStr "nfinity").isPrefixOf s then some (.float .inf, s.drop 7)
    else if c = codePoint '-' ∧ (pyStr "Infinity").isPrefixOf s then some (.float .negInf, s.drop 8)
    else (matchNumber (c :: s)).map fun (tok, isFloat, rest) =>
      (if isFloat then .float (codec.parse tok) else .int (intOfToken tok), rest)

mutual

/-- `scan_once_unicode`: the value at the start of `s` and the text after it. Each call takes one
unit of `fuel`. -/
def scanOnce : Nat → PyStr → Option (Json α × PyStr)
  | 0, _ => none
  | _ + 1, [] => none
  | n + 1, c :: s =>
    if c = codePoint '"' then (scanString s).map fun p => (.str p.1, p.2)
    else if c = codePoint '{' then
      match skipWs s with
      | d :: s => if d = codePoint '}' then some (.obj [], s)
        else if d = codePoint '"' then objectMembers n s [] else none
      | [] => none
    else if c = codePoint '[' then
      match skipWs s with
      | d :: t => if d = codePoint ']' then some (.arr [], t) else arrayItems n (d :: t) []
      | [] => none
    else scanAtom codec (c :: s)

/-- `_parse_object_unicode` from just after a key's opening quote, with the entries read so far:
`dict(pairs)`, where a repeated key keeps its first place and takes its last value. -/
def objectMembers : Nat → PyStr → List (PyStr × Json α) → Option (Json α × PyStr)
  | 0, _, _ => none
  | n + 1, s, acc =>
    match scanString s with
    | none => none
    | some (key, s) =>
      match skipWs s with
      | c :: s =>
        if c = codePoint ':' then
          match scanOnce n (skipWs s) with
          | none => none
          | some (v, s) =>
            match skipWs s with
            | d :: s =>
              if d = codePoint '}' then some (.obj (setEntry key v acc), s)
              else if d = codePoint ',' then
                match skipWs s with
                | q :: s => if q = codePoint '"' then objectMembers n s (setEntry key v acc) else none
                | [] => none
              else none
            | [] => none
        else none
      | [] => none

/-- `_parse_array_unicode` from an item, with the items read so far. -/
def arrayItems : Nat → PyStr → List (Json α) → Option (Json α × PyStr)
  | 0, _, _ => none
  | n + 1, s, acc =>
    match scanOnce n s with
    | none => none
    | some (v, s) =>
      match skipWs s with
      | d :: s =>
        if d = codePoint ']' then some (.arr (acc ++ [v]), s)
        else if d = codePoint ',' then arrayItems n (skipWs s) (acc ++ [v])
        else none
      | [] => none

end

/-- `json.loads`: the value of a whole text, or none where it raises `JSONDecodeError`: on a
leading byte order mark, on a text that is no value, and on text after the value. -/
def loads (text : PyStr) : Option (Json α) :=
  if text.head? = some (codeUnit 0xfeff) then none
  else
    match scanOnce codec (text.length + 1) (skipWs text) with
    | some (v, rest) => if skipWs rest = [] then some v else none
    | none => none

end Load

end EdgeAI
