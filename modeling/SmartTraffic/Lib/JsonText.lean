import SmartTraffic.Lib.Decimal
import SmartTraffic.Lib.Json

/-!
# JSON as text

Values as `json.dumps` writes them, on one line or with an indent, and as `json.loads`
reads them. Everything that is not printable ASCII is escaped when it is written.

A float is written with as few decimals as it has. That is the text Python chooses for
floats of up to seventeen decimals that need no exponent, and the laws below are about
those. Half of a surrogate pair is no character here, and no text with one is read.

What is written is read as the same value, whatever the indent.
-/

namespace SmartTraffic.Lib

namespace JsonText

/-! ## The writer -/

/-- `\uXXXX`. -/
def unicodeEscape (n : Nat) : Text :=
  ['\\', 'u', (n / 4096 % 16).digitChar, (n / 256 % 16).digitChar, (n / 16 % 16).digitChar,
    (n % 16).digitChar]

/-- The characters with an escape of their own, and its letter. -/
def shortEscapes : List (Char × Char) :=
  [('"', '"'), ('\\', '\\'), ('\n', 'n'), ('\r', 'r'), ('\t', 't'), ('\x08', 'b'), ('\x0c', 'f')]

def escapeChar (c : Char) : Text :=
  match shortEscapes.lookup c with
  | some letter => ['\\', letter]
  | none =>
      if 0x20 ≤ c.toNat ∧ c.toNat ≤ 0x7e then [c]
      else if c.toNat < 0x10000 then unicodeEscape c.toNat
      else unicodeEscape (0xd800 + (c.toNat - 0x10000) / 0x400)
        ++ unicodeEscape (0xdc00 + (c.toNat - 0x10000) % 0x400)

def stringText (s : String) : Text := '"' :: s.toList.flatMap escapeChar ++ ['"']

def intText (n : Int) : Text := (if n < 0 then ['-'] else []) ++ natText n.natAbs

/-- The number of decimals of a float, at least one. -/
def decimals (q : Rat) : Nat := ((List.range' 1 17).find? fun d => roundDigits d q = q).getD 17

/-- `Infinity`. -/
def infinityText : Text := ['I', 'n', 'f', 'i', 'n', 'i', 't', 'y']

def floatText : JsonFloat → Text
  | .finite q => fixed (decimals q) q
  | .infinity false => infinityText
  | .infinity true => '-' :: infinityText
  | .nan => ['N', 'a', 'N']

/-- The line break before what stands on a level, if there is an indent. -/
def lineBreak (indent : Option Nat) (level : Nat) : Text :=
  match indent with
  | none => []
  | some width => '\n' :: List.replicate (width * level) ' '

/-- What stands between two items. -/
def separator (indent : Option Nat) (level : Nat) : Text :=
  ',' :: (if indent = none then [' '] else lineBreak indent level)

mutual

def valueText (indent : Option Nat) (level : Nat) : Json → Text
  | .null => ['n', 'u', 'l', 'l']
  | .bool b => if b then ['t', 'r', 'u', 'e'] else ['f', 'a', 'l', 's', 'e']
  | .int n => intText n
  | .float x => floatText x
  | .str s => stringText s
  | .arr [] => ['[', ']']
  | .arr (item :: items) =>
      '[' :: lineBreak indent (level + 1) ++ valueText indent (level + 1) item
        ++ itemsText indent level items
  | .obj [] => ['{', '}']
  | .obj ((key, value) :: fields) =>
      '{' :: lineBreak indent (level + 1) ++ stringText key ++ ':' :: ' '
        :: valueText indent (level + 1) value ++ fieldsText indent level fields

/-- The items after the first, and the end. -/
def itemsText (indent : Option Nat) (level : Nat) : List Json → Text
  | [] => lineBreak indent level ++ [']']
  | item :: items =>
      separator indent (level + 1) ++ valueText indent (level + 1) item
        ++ itemsText indent level items

/-- The fields after the first, and the end. -/
def fieldsText (indent : Option Nat) (level : Nat) : List (String × Json) → Text
  | [] => lineBreak indent level ++ ['}']
  | (key, value) :: fields =>
      separator indent (level + 1) ++ stringText key ++ ':' :: ' '
        :: valueText indent (level + 1) value ++ fieldsText indent level fields

end

/-- `json.dumps(value, indent=indent)`. -/
def dumps (indent : Option Nat) (value : Json) : Text := valueText indent 0 value

/-! ## The reader -/

/-- The white space of JSON. -/
def isBlank (c : Char) : Bool := c = ' ' || c = '\t' || c = '\n' || c = '\r'

def skipBlanks (text : Text) : Text := text.dropWhile isBlank

/-- The value of a hexadecimal digit. -/
def hexValue (c : Char) : Option Nat :=
  if '0' ≤ c ∧ c ≤ '9' then some (c.toNat - '0'.toNat)
  else if 'a' ≤ c ∧ c ≤ 'f' then some (c.toNat - 'a'.toNat + 10)
  else if 'A' ≤ c ∧ c ≤ 'F' then some (c.toNat - 'A'.toNat + 10)
  else none

/-- Where the reader is in a string. -/
inductive StringState
  | plain
  | escaped
  /-- In `\uXXXX`: how many digits are still to come, and the value of those read; `high` is the
  first half of a surrogate pair that goes before. -/
  | hex (high : Option Nat) (left value : Nat)
  /-- After the first half of a surrogate pair. -/
  | highRead (high : Nat)
  | highEscaped (high : Nat)
  deriving DecidableEq

/-- The character of a completed escape, or the first half of one. -/
def codeRead (high : Option Nat) (n : Nat) : Option (StringState × Text) :=
  match high with
  | none =>
      if 0xd800 ≤ n ∧ n < 0xdc00 then some (.highRead n, [])
      else if 0xdc00 ≤ n ∧ n < 0xe000 then none
      else some (.plain, [Char.ofNat n])
  | some h =>
      if 0xdc00 ≤ n ∧ n < 0xe000 then
        some (.plain, [Char.ofNat (0x10000 + (h - 0xd800) * 0x400 + (n - 0xdc00))])
      else none

/-- A character inside a string, other than the quote that ends it, and what it adds. -/
def stringStep (state : StringState) (c : Char) : Option (StringState × Text) :=
  match state with
  | .plain =>
      if c = '\\' then some (.escaped, [])
      else if c.toNat < 0x20 then none
      else some (.plain, [c])
  | .escaped =>
      if c = 'u' then some (.hex none 4 0, [])
      else if c = '/' then some (.plain, ['/'])
      else (shortEscapes.find? fun p => p.2 = c).map fun p => (.plain, [p.1])
  | .hex high left value =>
      (hexValue c).bind fun digit =>
        if left = 1 then codeRead high (16 * value + digit)
        else some (.hex high (left - 1) (16 * value + digit), [])
  | .highRead high => if c = '\\' then some (.highEscaped high, []) else none
  | .highEscaped high => if c = 'u' then some (.hex (some high) 4 0, []) else none

/-- The rest of a string, and what follows it. -/
def readString (state : StringState) (found : Text) : Text → Option (Text × Text)
  | [] => none
  | c :: text =>
      if state = .plain ∧ c = '"' then some (found, text)
      else
        match stringStep state c with
        | none => none
        | some (state', added) => readString state' (found ++ added) text

/-- The digits before a point: a zero alone, or digits that do not start with one. -/
def takeWhole : Text → Text × Text
  | [] => ([], [])
  | c :: text =>
      if c = '0' then (['0'], text)
      else ((c :: text).takeWhile Char.isDigit, (c :: text).dropWhile Char.isDigit)

/-- A point with digits after it. -/
def takeFraction : Text → Text × Text
  | [] => ([], [])
  | c :: text =>
      if c = '.' ∧ text.takeWhile Char.isDigit ≠ [] then
        ('.' :: text.takeWhile Char.isDigit, text.dropWhile Char.isDigit)
      else ([], c :: text)

/-- An exponent with digits in it. -/
def takeExponent : Text → Text × Text
  | [] => ([], [])
  | c :: text =>
      let sign := text.takeWhile fun c => c = '+' || c = '-'
      let digits := (text.drop sign.length).takeWhile Char.isDigit
      if (c = 'e' ∨ c = 'E') ∧ sign.length ≤ 1 ∧ digits ≠ [] then
        (c :: sign ++ digits, (text.drop sign.length).dropWhile Char.isDigit)
      else ([], c :: text)

/-- A number is a float if it has a point or an exponent. -/
def readNumber (text : Text) : Option (Json × Text) :=
  let sign := if text.head? = some '-' then ['-'] else []
  let whole := takeWhole (text.drop sign.length)
  let fraction := takeFraction whole.2
  let exponent := takeExponent fraction.2
  if whole.1 = [] then none
  else if fraction.1 = [] ∧ exponent.1 = [] then
    (readInt (sign ++ whole.1)).map fun n => (.int n, exponent.2)
  else
    (readFloat (sign ++ whole.1 ++ fraction.1 ++ exponent.1)).map fun q =>
      (.float (.finite q), exponent.2)

def constants : List (Text × Json) :=
  [(['n', 'u', 'l', 'l'], .null), (['t', 'r', 'u', 'e'], .bool true),
    (['f', 'a', 'l', 's', 'e'], .bool false), (['N', 'a', 'N'], .float .nan),
    (infinityText, .float (.infinity false)), ('-' :: infinityText, .float (.infinity true))]

def readConstant (text : Text) : Option (Json × Text) :=
  (constants.find? fun p => p.1.isPrefixOf text).map fun p => (p.2, text.drop p.1.length)

mutual

/-- A value, and what follows it. -/
def readValue : Nat → Text → Option (Json × Text)
  | 0, _ => none
  | _, [] => none
  | fuel + 1, c :: text =>
      if c = '"' then (readString .plain [] text).map fun p => (.str (String.ofList p.1), p.2)
      else if c = '[' then
        if (skipBlanks text).head? = some ']' then some (.arr [], (skipBlanks text).tail)
        else (readItems fuel (skipBlanks text)).map fun p => (.arr p.1, p.2)
      else if c = '{' then
        if (skipBlanks text).head? = some '}' then some (.obj [], (skipBlanks text).tail)
        else (readFields fuel (skipBlanks text)).map fun p => (.obj p.1, p.2)
      else (readConstant (c :: text)).or (readNumber (c :: text))

/-- The items up to the end of an array. -/
def readItems : Nat → Text → Option (List Json × Text)
  | 0, _ => none
  | fuel + 1, text =>
      (readValue fuel text).bind fun (item, rest) =>
        match skipBlanks rest with
        | [] => none
        | c :: rest =>
            if c = ']' then some ([item], rest)
            else if c = ',' then
              (readItems fuel (skipBlanks rest)).map fun p => (item :: p.1, p.2)
            else none

/-- The fields up to the end of an object. -/
def readFields : Nat → Text → Option (List (String × Json) × Text)
  | 0, _ => none
  | _, [] => none
  | fuel + 1, c :: text =>
      if c = '"' then
        (readString .plain [] text).bind fun (key, rest) =>
          match skipBlanks rest with
          | [] => none
          | c :: rest =>
              if c = ':' then
                (readValue fuel (skipBlanks rest)).bind fun (value, rest) =>
                  match skipBlanks rest with
                  | [] => none
                  | c :: rest =>
                      if c = '}' then some ([(String.ofList key, value)], rest)
                      else if c = ',' then
                        (readFields fuel (skipBlanks rest)).map fun p =>
                          ((String.ofList key, value) :: p.1, p.2)
                      else none
              else none
      else none

end

/-- `json.loads(text)`; every value takes a character at least, so the fuel never runs out first. -/
def loads (text : Text) : Option Json :=
  (readValue (text.length + 1) (skipBlanks text)).bind fun (value, rest) =>
    if skipBlanks rest = [] then some value else none

/-! ## Strings are read as they were written -/

theorem hexValue_digitChar {d : Nat} (h : d < 16) : hexValue d.digitChar = some d := by
  have hall : ∀ d : Fin 16, hexValue (d : Nat).digitChar = some (d : Nat) := by decide
  exact hall ⟨d, h⟩

/-- Going on after a character. -/
def goOn (found text : Text) (p : StringState × Text) : Option (Text × Text) :=
  readString p.1 (found ++ p.2) text

theorem readString_cons {state : StringState} {c : Char} (h : ¬(state = .plain ∧ c = '"'))
    (found text : Text) :
    readString state found (c :: text) = (stringStep state c).bind (goOn found text) := by
  rw [readString, if_neg h]
  cases stringStep state c with
  | none => rfl
  | some p => rfl

theorem goOn_nil (found text : Text) (state : StringState) :
    goOn found text (state, []) = readString state found text := by
  unfold goOn
  rw [List.append_nil]

/-- One digit of an escape that is not the last one. -/
theorem readString_hex {high : Option Nat} {left value d : Nat} (hd : d < 16) (hleft : left ≠ 1)
    (found text : Text) :
    readString (.hex high left value) found (d.digitChar :: text)
      = readString (.hex high (left - 1) (16 * value + d)) found text := by
  rw [readString_cons (by simp), stringStep, hexValue_digitChar hd, Option.bind_some,
    if_neg hleft, Option.bind_some, goOn_nil]

theorem readString_lastHex {high : Option Nat} {value d : Nat} (hd : d < 16)
    (found text : Text) :
    readString (.hex high 1 value) found (d.digitChar :: text)
      = (codeRead high (16 * value + d)).bind (goOn found text) := by
  rw [readString_cons (by simp), stringStep, hexValue_digitChar hd, Option.bind_some, if_pos rfl]

/-- The four digits of a code. -/
theorem readString_digits {n : Nat} (hn : n < 0x10000) (high : Option Nat) (found text : Text) :
    readString (.hex high 4 0) found ((n / 4096 % 16).digitChar :: (n / 256 % 16).digitChar
        :: (n / 16 % 16).digitChar :: (n % 16).digitChar :: text)
      = (codeRead high n).bind (goOn found text) := by
  have hdigit : ∀ m, m % 16 < 16 := fun m => Nat.mod_lt m (by decide)
  rw [readString_hex (hdigit _) (by decide), readString_hex (hdigit _) (by decide),
    readString_hex (hdigit _) (by decide), readString_lastHex (hdigit _)]
  congr 2
  omega

theorem readString_unicodeEscape {n : Nat} (hn : n < 0x10000) (found text : Text) :
    readString .plain found (unicodeEscape n ++ text)
      = (codeRead none n).bind (goOn found text) := by
  unfold unicodeEscape
  simp only [List.cons_append, List.nil_append]
  rw [readString_cons (by decide), stringStep, if_pos rfl, Option.bind_some, goOn_nil,
    readString_cons (by decide), stringStep, if_pos rfl, Option.bind_some, goOn_nil,
    readString_digits hn]

theorem readString_lowEscape {n : Nat} (hn : n < 0x10000) (high : Nat) (found text : Text) :
    readString (.highRead high) found (unicodeEscape n ++ text)
      = (codeRead (some high) n).bind (goOn found text) := by
  unfold unicodeEscape
  simp only [List.cons_append, List.nil_append]
  rw [readString_cons (by simp), stringStep, if_pos rfl, Option.bind_some, goOn_nil,
    readString_cons (by simp), stringStep, if_pos rfl, Option.bind_some, goOn_nil,
    readString_digits hn]

/-- A character that has an escape of its own. -/
theorem readString_shortEscape {c letter : Char} (h : shortEscapes.lookup c = some letter)
    (found text : Text) :
    readString .plain found ('\\' :: letter :: text) = readString .plain (found ++ [c]) text := by
  have hstep : stringStep .escaped letter = some (.plain, [c]) := by
    have hall : ∀ p ∈ shortEscapes, stringStep .escaped p.2 = some (.plain, [p.1]) := by decide
    exact hall (c, letter) (mem_of_lookup h)
  rw [readString_cons (by decide), stringStep, if_pos rfl, Option.bind_some, goOn_nil,
    readString_cons (by simp), hstep, Option.bind_some]
  rfl

/-- **A character is read as it was written.** -/
theorem readString_escapeChar (c : Char) (found text : Text) :
    readString .plain found (escapeChar c ++ text) = readString .plain (found ++ [c]) text := by
  unfold escapeChar
  cases hshort : shortEscapes.lookup c with
  | some letter => exact readString_shortEscape hshort found text
  | none =>
      dsimp only
      have hvalid := c.valid
      have hrange : c.toNat < 0xd800 ∨ 0xdfff < c.toNat ∧ c.toNat < 0x110000 := by
        simpa [UInt32.isValidChar, Nat.isValidChar] using hvalid
      by_cases hprint : 0x20 ≤ c.toNat ∧ c.toNat ≤ 0x7e
      · -- printable, and neither a quote nor a backslash
        have hquote : c ≠ '"' := by
          rintro rfl
          exact absurd hshort (by decide)
        have hslash : c ≠ '\\' := by
          rintro rfl
          exact absurd hshort (by decide)
        rw [if_pos hprint, List.singleton_append,
          readString_cons (fun h => hquote h.2), stringStep, if_neg hslash,
          if_neg (by omega), Option.bind_some]
        rfl
      · rw [if_neg hprint]
        -- one escape is enough for what is left of the first plane
        by_cases hbmp : c.toNat < 0x10000
        · rw [if_pos hbmp, readString_unicodeEscape hbmp, codeRead, if_neg (by omega),
            if_neg (by omega), Option.bind_some, Char.ofNat_toNat]
          rfl
        · -- the two halves of a surrogate pair
          have hhigh : 0xd800 + (c.toNat - 0x10000) / 0x400 < 0xdc00 := by omega
          have hlow : 0xdc00 + (c.toNat - 0x10000) % 0x400 < 0xe000 := by omega
          have hcode : 0x10000 + (0xd800 + (c.toNat - 0x10000) / 0x400 - 0xd800) * 0x400
              + (0xdc00 + (c.toNat - 0x10000) % 0x400 - 0xdc00) = c.toNat := by omega
          rw [if_neg hbmp, List.append_assoc, readString_unicodeEscape (by omega), codeRead,
            if_pos ⟨by omega, hhigh⟩, Option.bind_some, goOn_nil, readString_lowEscape (by omega),
            codeRead, if_pos ⟨by omega, hlow⟩, Option.bind_some, hcode, Char.ofNat_toNat]
          rfl

theorem readString_flatMap (cs found text : Text) :
    readString .plain found (cs.flatMap escapeChar ++ '"' :: text) = some (found ++ cs, text) := by
  induction cs generalizing found with
  | nil => simp [readString]
  | cons c cs ih =>
      rw [List.flatMap_cons, List.append_assoc, readString_escapeChar, ih, List.append_assoc,
        List.singleton_append]

/-- **A string is read as it was written.** -/
theorem readString_stringText (s : String) (text : Text) :
    ∃ rest, stringText s ++ text = '"' :: rest
      ∧ readString .plain [] rest = some (s.toList, text) := by
  refine ⟨s.toList.flatMap escapeChar ++ '"' :: text, ?_, readString_flatMap _ _ _⟩
  simp [stringText]

/-! ## Numbers are read as they were written -/

/-- The text that follows does not go on with a number. -/
def Stops (text : Text) : Prop :=
  ∀ c, text.head? = some c → c.isDigit = false ∧ c ≠ '.' ∧ c ≠ 'e' ∧ c ≠ 'E'

theorem natText_head (n : Nat) : natText n = ['0'] ∨ ∃ c t, natText n = c :: t ∧ c ≠ '0' := by
  unfold natText
  induction n using Nat.strongRecOn with
  | ind n ih =>
      by_cases hsmall : n < 10
      · rw [Nat.toDigits_of_lt_base hsmall]
        by_cases hzero : n = 0
        · subst hzero
          exact Or.inl rfl
        · refine Or.inr ⟨n.digitChar, [], rfl, ?_⟩
          have hall : ∀ d : Fin 10, (d : Nat) ≠ 0 → (d : Nat).digitChar ≠ '0' := by decide
          exact hall ⟨n, hsmall⟩ hzero
      · rw [Nat.toDigits_of_base_le (by decide) (by omega)]
        rcases ih (n / 10) (by omega) with hzero | ⟨c, t, hcons, hc⟩
        · -- a quotient that is not zero is not written as a zero
          exfalso
          have hvalue := Nat.ofDigitChars_ten_toDigits (n := n / 10)
          rw [hzero] at hvalue
          have hquot : (0 : Nat) = n / 10 := hvalue
          omega
        · rw [hcons]
          exact Or.inr ⟨c, t ++ [(n % 10).digitChar], rfl, hc⟩

theorem takeWhole_natText (n : Nat) {text : Text}
    (h : ∀ c, text.head? = some c → c.isDigit = false) :
    takeWhole (natText n ++ text) = (natText n, text) := by
  rcases natText_head n with hzero | ⟨c, t, hcons, hc⟩
  · rw [hzero]
    rfl
  · have hdigits := isDigits_natText n
    rw [hcons] at hdigits ⊢
    have htake : ((c :: t) ++ text).takeWhile Char.isDigit = c :: t := by
      rw [List.takeWhile_append_of_pos hdigits]
      cases text with
      | nil => rw [List.takeWhile_nil, List.append_nil]
      | cons b text =>
          rw [List.takeWhile_cons_of_neg (by simp [h b rfl]), List.append_nil]
    have hdrop : ((c :: t) ++ text).dropWhile Char.isDigit = text := by
      rw [List.dropWhile_append_of_pos hdigits]
      cases text with
      | nil => rfl
      | cons b text => exact List.dropWhile_cons_of_neg (by simp [h b rfl])
    rw [List.cons_append, takeWhole, if_neg hc, ← List.cons_append, htake, hdrop]

theorem takeFraction_of_stops {text : Text} (h : Stops text) : takeFraction text = ([], text) := by
  cases text with
  | nil => rfl
  | cons c text => exact if_neg fun hc => (h c rfl).2.1 hc.1

theorem takeExponent_of_stops {text : Text} (h : Stops text) : takeExponent text = ([], text) := by
  cases text with
  | nil => rfl
  | cons c text =>
      obtain ⟨-, -, he, hE⟩ := h c rfl
      exact if_neg fun hc => hc.1.elim he hE

theorem takeFraction_point {digits : Text} (hdigits : IsDigits digits) (hne : digits ≠ [])
    {text : Text} (h : Stops text) :
    takeFraction ('.' :: digits ++ text) = ('.' :: digits, text) := by
  have htake : (digits ++ text).takeWhile Char.isDigit = digits := by
    rw [List.takeWhile_append_of_pos hdigits]
    cases text with
    | nil => rw [List.takeWhile_nil, List.append_nil]
    | cons b text => rw [List.takeWhile_cons_of_neg (by simp [(h b rfl).1]), List.append_nil]
  have hdrop : (digits ++ text).dropWhile Char.isDigit = text := by
    rw [List.dropWhile_append_of_pos hdigits]
    cases text with
    | nil => rfl
    | cons b text => exact List.dropWhile_cons_of_neg (by simp [(h b rfl).1])
  rw [List.cons_append, takeFraction, htake, hdrop, if_pos ⟨rfl, hne⟩]

/-- The sign is taken off. -/
theorem sign_natText (negative : Bool) (n : Nat) (text : Text) :
    ((if negative then ['-'] else []) ++ (natText n ++ text)).head? = some '-'
      ↔ negative = true := by
  cases negative with
  | true => simp
  | false =>
      obtain ⟨c, t, hcons⟩ := List.exists_cons_of_ne_nil (natText_ne_nil n)
      have hc : c.isDigit = true := isDigits_natText n c (by rw [hcons]; exact List.mem_cons_self)
      rw [hcons]
      simp only [Bool.false_eq_true, if_false, List.nil_append, List.cons_append, List.head?_cons,
        Option.some.injEq, iff_false]
      rintro rfl
      exact absurd hc (by decide)

theorem readInt_intText (n : Int) : readInt (intText n) = some n := by
  unfold intText
  by_cases hneg : n < 0
  · have hsigned : readSigned ('-' :: natText n.natAbs) = some n := by
      have hread : readNat (natText n.natAbs) = some n.natAbs := by
        unfold readNat
        rw [if_pos ⟨natText_ne_nil _, List.all_eq_true.mpr (isDigits_natText _)⟩]
        exact congrArg some Nat.ofDigitChars_ten_toDigits
      have hsign : readSign ('-' :: natText n.natAbs) = (true, natText n.natAbs) := rfl
      have habs : -(n.natAbs : Int) = n := by omega
      rw [readSigned, hsign, hread]
      exact congrArg some habs
    have hplain : '_' ∉ '-' :: natText n.natAbs := by
      rw [List.mem_cons, not_or]
      exact ⟨by decide, underscore_notMem_digits (isDigits_natText _)⟩
    rw [if_pos hneg, List.singleton_append, readInt, ungroup_of_notMem (by decide) hplain,
      Option.bind_some, hsigned]
  · rw [if_neg hneg, List.nil_append, readInt_natText]
    congr 1
    omega

/-- A number of digits with an optional fraction, taken apart. -/
theorem readNumber_parts (negative : Bool) (n : Nat) (fraction : Text) {text : Text}
    (h : Stops text)
    (hfraction : fraction = []
      ∨ ∃ digits, fraction = '.' :: digits ∧ IsDigits digits ∧ digits ≠ []) :
    readNumber ((if negative then ['-'] else []) ++ natText n ++ fraction ++ text)
      = if fraction = [] then
          (readInt ((if negative then ['-'] else []) ++ natText n)).map fun m => (.int m, text)
        else
          (readFloat ((if negative then ['-'] else []) ++ natText n ++ fraction)).map fun q =>
            (.float (.finite q), text) := by
  -- the whole part ends where the fraction or the rest of the text begins
  have hstart : ∀ c, (fraction ++ text).head? = some c → c.isDigit = false := by
    rcases hfraction with rfl | ⟨digits, rfl, -, -⟩
    · exact fun c hc => (h c hc).1
    · intro c hc
      obtain rfl := Option.some.inj hc
      decide
  have hfrac : takeFraction (fraction ++ text) = (fraction, text) := by
    rcases hfraction with rfl | ⟨digits, rfl, hdigits, hne⟩
    · exact takeFraction_of_stops h
    · exact takeFraction_point hdigits hne h
  -- the sign is read as it was written
  have hsign : (if ((if negative then ['-'] else [])
      ++ (natText n ++ (fraction ++ text))).head? = some '-' then ['-'] else [])
      = (if negative then ['-'] else []) := by
    by_cases hn : negative = true
    · rw [if_pos ((sign_natText negative n _).mpr hn), if_pos hn]
    · rw [if_neg fun hhead => hn ((sign_natText negative n _).mp hhead), if_neg hn]
  have hdrop : ((if negative then ['-'] else []) ++ (natText n ++ (fraction ++ text))).drop
      (if negative then ['-'] else []).length = natText n ++ (fraction ++ text) :=
    List.drop_left
  unfold readNumber
  rw [List.append_assoc, List.append_assoc]
  simp only [hsign, hdrop, takeWhole_natText n hstart, hfrac, takeExponent_of_stops h,
    natText_ne_nil, if_false, and_true, List.append_nil]

theorem readNumber_intText (n : Int) {text : Text} (h : Stops text) :
    readNumber (intText n ++ text) = some (.int n, text) := by
  have hparts := readNumber_parts (decide (n < 0)) n.natAbs [] h (Or.inl rfl)
  simp only [decide_eq_true_eq, List.append_nil, if_true] at hparts
  have hread := readInt_intText n
  unfold intText at hread ⊢
  rw [hparts, hread, Option.map_some]

/-- The floats that are written with as few decimals as they have. -/
def FloatPrintable : JsonFloat → Prop
  | .finite q => ∃ d ∈ List.range' 1 17, roundDigits d q = q
  | _ => True

theorem decimals_spec {q : Rat} (h : ∃ d ∈ List.range' 1 17, roundDigits d q = q) :
    0 < decimals q ∧ roundDigits (decimals q) q = q := by
  unfold decimals
  cases hfind : (List.range' 1 17).find? fun d => roundDigits d q = q with
  | none =>
      obtain ⟨d, hd, hround⟩ := h
      exact absurd hround (by simpa using List.find?_eq_none.mp hfind d hd)
  | some d =>
      have hround := List.find?_some hfind
      have hmem := List.mem_of_find?_eq_some hfind
      rw [List.mem_range'_1] at hmem
      rw [Option.getD_some]
      exact ⟨by omega, by simpa using hround⟩

theorem readNumber_floatText {q : Rat} (hq : FloatPrintable (.finite q)) {text : Text}
    (h : Stops text) :
    readNumber (floatText (.finite q) ++ text) = some (.float (.finite q), text) := by
  obtain ⟨hd, hround⟩ := decimals_spec hq
  have hread := readFloat_fixed hd q
  rw [hround] at hread
  have hne : padded (decimals q) ((roundHalfEven (q * 10 ^ decimals q)).natAbs % 10 ^ decimals q)
      ≠ [] := by
    have hlen := length_padded hd (n := (roundHalfEven (q * 10 ^ decimals q)).natAbs
      % 10 ^ decimals q) (Nat.mod_lt _ (by positivity))
    intro hnil
    rw [hnil, List.length_nil] at hlen
    omega
  have hparts := readNumber_parts (decide (q < 0))
    ((roundHalfEven (q * 10 ^ decimals q)).natAbs / 10 ^ decimals q) _ h
    (Or.inr ⟨_, rfl, isDigits_padded (decimals q) _, hne⟩)
  simp only [decide_eq_true_eq, reduceCtorEq, if_false] at hparts
  have hfixed : floatText (.finite q) = fixed (decimals q) q := rfl
  have hshape := hfixed.trans (fixed_eq (decimals q) q)
  rw [← List.append_assoc] at hshape
  rw [← hshape, hfixed, hread] at hparts
  rw [hfixed, hparts, Option.map_some]

/-! ## Values are read as they were written -/

mutual

/-- A value whose floats are printable. -/
def Printable : Json → Prop
  | .float x => FloatPrintable x
  | .arr items => ItemsPrintable items
  | .obj fields => FieldsPrintable fields
  | _ => True

def ItemsPrintable : List Json → Prop
  | [] => True
  | item :: items => Printable item ∧ ItemsPrintable items

def FieldsPrintable : List (String × Json) → Prop
  | [] => True
  | (_, value) :: fields => Printable value ∧ FieldsPrintable fields

end

mutual

/-- The fuel that a value takes. -/
def weight : Json → Nat
  | .arr (item :: items) => 1 + weight item + itemsWeight items
  | .obj ((_, value) :: fields) => 1 + weight value + fieldsWeight fields
  | _ => 1

def itemsWeight : List Json → Nat
  | [] => 1
  | item :: items => 1 + weight item + itemsWeight items

def fieldsWeight : List (String × Json) → Nat
  | [] => 1
  | (_, value) :: fields => 1 + weight value + fieldsWeight fields

end

/-- **Induction over a value**: into the items of an array and the values of an object. -/
theorem json_induction {P : Json → Prop} (null : P .null) (bool : ∀ b, P (.bool b))
    (int : ∀ n, P (.int n)) (float : ∀ x, P (.float x)) (str : ∀ s, P (.str s))
    (arr : ∀ items, (∀ item ∈ items, P item) → P (.arr items))
    (obj : ∀ fields, (∀ field ∈ fields, P (Prod.snd field)) → P (.obj fields)) (j : Json) :
    P j := by
  refine @Json.rec P (fun items => ∀ item ∈ items, P item)
    (fun fields => ∀ field ∈ fields, P (Prod.snd field)) (fun field => P field.2)
    null bool int float str arr obj ?_ ?_ ?_ ?_ ?_ j
  · intro item hitem
    cases hitem
  · intro item items hfirst hrest item' hitem'
    rcases List.mem_cons.mp hitem' with rfl | hmem
    · exact hfirst
    · exact hrest item' hmem
  · intro field hfield
    cases hfield
  · intro field fields hfirst hrest field' hfield'
    rcases List.mem_cons.mp hfield' with rfl | hmem
    · exact hfirst
    · exact hrest field' hmem
  · intro key value hvalue
    exact hvalue

theorem isBlank_of_mem_lineBreak {indent : Option Nat} {level : Nat} {c : Char}
    (h : c ∈ lineBreak indent level) : isBlank c = true := by
  cases indent with
  | none => cases h
  | some width =>
      rcases List.mem_cons.mp h with rfl | hmem
      · decide
      · rw [List.eq_of_mem_replicate hmem]
        decide

theorem skipBlanks_lineBreak (indent : Option Nat) (level : Nat) (text : Text) :
    skipBlanks (lineBreak indent level ++ text) = skipBlanks text :=
  List.dropWhile_append_of_pos fun _ hc => isBlank_of_mem_lineBreak hc

theorem skipBlanks_cons {c : Char} (h : isBlank c = false) (text : Text) :
    skipBlanks (c :: text) = c :: text := List.dropWhile_cons_of_neg (by simp [h])

/-- How the text of a value starts: with a character that is not blank and ends nothing. -/
theorem valueText_head (indent : Option Nat) (level : Nat) (j : Json) :
    ∃ c t, valueText indent level j = c :: t ∧ isBlank c = false ∧ c ≠ ']' := by
  -- a number begins with a digit or a sign
  have hnumber : ∀ (negative : Bool) (n : Nat) (tail : Text), ∃ c t,
      (if negative then ['-'] else []) ++ natText n ++ tail = c :: t ∧ isBlank c = false
        ∧ c ≠ ']' := by
    intro negative n tail
    cases negative with
    | true => exact ⟨'-', natText n ++ tail, by simp, by decide, by decide⟩
    | false =>
        obtain ⟨c, t, hcons⟩ := List.exists_cons_of_ne_nil (natText_ne_nil n)
        have hc : c.isDigit = true := isDigits_natText n c (by rw [hcons]; exact List.mem_cons_self)
        refine ⟨c, t ++ tail, by simp [hcons], ?_, ?_⟩
        · by_contra hblank
          have hblank : isBlank c = true := by simpa using hblank
          simp only [isBlank, Bool.or_eq_true, decide_eq_true_eq] at hblank
          rcases hblank with ((rfl | rfl) | rfl) | rfl <;> exact absurd hc (by decide)
        · rintro rfl
          exact absurd hc (by decide)
  cases j with
  | null => exact ⟨'n', _, rfl, by decide, by decide⟩
  | bool b =>
      cases b with
      | true => exact ⟨'t', _, rfl, by decide, by decide⟩
      | false => exact ⟨'f', _, rfl, by decide, by decide⟩
  | int n =>
      have h := hnumber (decide (n < 0)) n.natAbs []
      simp only [decide_eq_true_eq, List.append_nil] at h
      exact h
  | float x =>
      cases x with
      | finite q =>
          have h := hnumber (decide (q < 0))
            ((roundHalfEven (q * 10 ^ decimals q)).natAbs / 10 ^ decimals q)
            ('.' :: padded (decimals q)
              ((roundHalfEven (q * 10 ^ decimals q)).natAbs % 10 ^ decimals q))
          simp only [decide_eq_true_eq] at h
          exact h
      | infinity negative =>
          cases negative with
          | true => exact ⟨'-', _, rfl, by decide, by decide⟩
          | false => exact ⟨'I', _, rfl, by decide, by decide⟩
      | nan => exact ⟨'N', _, rfl, by decide, by decide⟩
  | str s => exact ⟨'"', _, rfl, by decide, by decide⟩
  | arr items =>
      cases items with
      | nil => exact ⟨'[', _, rfl, by decide, by decide⟩
      | cons item items => exact ⟨'[', _, rfl, by decide, by decide⟩
  | obj fields =>
      cases fields with
      | nil => exact ⟨'{', _, rfl, by decide, by decide⟩
      | cons field fields => exact ⟨'{', _, rfl, by decide, by decide⟩

theorem skipBlanks_valueText (indent : Option Nat) (level : Nat) (j : Json) (text : Text) :
    skipBlanks (valueText indent level j ++ text) = valueText indent level j ++ text := by
  obtain ⟨c, t, hcons, hblank, -⟩ := valueText_head indent level j
  rw [hcons, List.cons_append, skipBlanks_cons hblank]

/-- `readValue` finds the value that was written, and what follows it. -/
def ReadsBack (indent : Option Nat) (j : Json) : Prop :=
  ∀ level fuel text, weight j ≤ fuel → Stops text →
    readValue fuel (valueText indent level j ++ text) = some (j, text)

theorem readConstant_eq {name : Text} {value : Json} (hmem : (name, value) ∈ constants)
    (text : Text) : readConstant (name ++ text) = some (value, text) := by
  simp only [constants, List.mem_cons, List.not_mem_nil, or_false, Prod.mk.injEq] at hmem
  rcases hmem with ⟨rfl, rfl⟩ | ⟨rfl, rfl⟩ | ⟨rfl, rfl⟩ | ⟨rfl, rfl⟩ | ⟨rfl, rfl⟩ | ⟨rfl, rfl⟩ <;>
    rfl

/-- A number is no constant. -/
theorem readConstant_number {c : Char} (hc : c.isDigit = true) (negative : Bool) (text : Text) :
    readConstant ((if negative then ['-'] else []) ++ c :: text) = none := by
  have hne : ∀ b : Char, b.isDigit = false → (b == c) = false := by
    intro b hb
    refine beq_false_of_ne ?_
    rintro rfl
    rw [hc] at hb
    cases hb
  have hfind : (constants.find? fun p =>
      p.1.isPrefixOf ((if negative then ['-'] else []) ++ c :: text)) = none := by
    refine List.find?_eq_none.mpr fun p hp => ?_
    simp only [constants, List.mem_cons, List.not_mem_nil, or_false] at hp
    cases negative with
    | true => rcases hp with rfl | rfl | rfl | rfl | rfl | rfl <;>
        simp [infinityText, List.isPrefixOf, hne]
    | false => rcases hp with rfl | rfl | rfl | rfl | rfl | rfl <;>
        simp [infinityText, List.isPrefixOf, hne]
  unfold readConstant
  rw [hfind]
  rfl

/-- What starts neither a string nor an array nor an object. -/
theorem readValue_scalar {c : Char} {t : Text} (hquote : c ≠ '"') (hopen : c ≠ '[')
    (hbrace : c ≠ '{') (fuel : Nat) :
    readValue (fuel + 1) (c :: t) = (readConstant (c :: t)).or (readNumber (c :: t)) := by
  rw [readValue, if_neg hquote, if_neg hopen, if_neg hbrace]

theorem readsBack_constant {indent : Option Nat} {j : Json} {name : Text} {c : Char} {t : Text}
    (hmem : (name, j) ∈ constants) (htext : ∀ level, valueText indent level j = name)
    (hcons : name = c :: t) (hquote : c ≠ '"') (hopen : c ≠ '[') (hbrace : c ≠ '{')
    (hweight : weight j = 1) : ReadsBack indent j := by
  intro level fuel text hfuel _
  obtain ⟨fuel, rfl⟩ : ∃ k, fuel = k + 1 := ⟨fuel - 1, by omega⟩
  have hread := readConstant_eq hmem text
  rw [hcons, List.cons_append] at hread
  rw [htext, hcons, List.cons_append, readValue_scalar hquote hopen hbrace, hread]
  rfl

theorem readsBack_number {indent : Option Nat} {j : Json} (negative : Bool) (n : Nat) (tail : Text)
    (htext : ∀ level, valueText indent level j
      = (if negative then ['-'] else []) ++ natText n ++ tail)
    (hread : ∀ text, Stops text →
      readNumber ((if negative then ['-'] else []) ++ natText n ++ tail ++ text) = some (j, text))
    (hweight : weight j = 1) : ReadsBack indent j := by
  intro level fuel text hfuel hstops
  obtain ⟨fuel, rfl⟩ : ∃ k, fuel = k + 1 := ⟨fuel - 1, by omega⟩
  have hread := hread text hstops
  rw [htext]
  obtain ⟨c, t, hcons⟩ := List.exists_cons_of_ne_nil (natText_ne_nil n)
  have hc : c.isDigit = true := isDigits_natText n c (by rw [hcons]; exact List.mem_cons_self)
  have hnone := readConstant_number hc negative (t ++ tail ++ text)
  -- a digit is none of the characters that begin something else
  have hdigit : ∀ b : Char, b.isDigit = false → c ≠ b := by
    intro b hb heq
    rw [heq, hb] at hc
    cases hc
  rw [hcons, List.append_assoc, List.append_assoc, List.cons_append] at hread ⊢
  rw [← List.append_assoc t] at hread ⊢
  cases negative with
  | true =>
      have hscalar := readValue_scalar (c := '-') (t := c :: (t ++ tail ++ text)) (by decide)
        (by decide) (by decide) fuel
      rw [if_pos rfl] at hread hnone ⊢
      rw [List.singleton_append] at hread hnone ⊢
      rw [hscalar, hnone, hread]
      rfl
  | false =>
      have hscalar := readValue_scalar (c := c) (t := t ++ tail ++ text) (hdigit _ (by decide))
        (hdigit _ (by decide)) (hdigit _ (by decide)) fuel
      rw [if_neg (by simp)] at hread hnone ⊢
      rw [List.nil_append] at hread hnone ⊢
      rw [hscalar, hnone, hread]
      rfl

/-! ### Arrays and objects -/

/-- What follows an item or a field stops a number. -/
theorem stops_break {indent : Option Nat} {level : Nat} {c : Char}
    (hc : c.isDigit = false ∧ c ≠ '.' ∧ c ≠ 'e' ∧ c ≠ 'E') (text : Text) :
    Stops (lineBreak indent level ++ c :: text) := by
  intro b hb
  cases indent with
  | none =>
      obtain rfl := Option.some.inj hb
      exact hc
  | some width =>
      obtain rfl := Option.some.inj hb
      decide

theorem stops_separator (indent : Option Nat) (level : Nat) (text : Text) :
    Stops (separator indent level ++ text) := by
  intro b hb
  obtain rfl := Option.some.inj hb
  decide

/-- The blanks after a comma. -/
theorem separator_eq (indent : Option Nat) (level : Nat) (text : Text) :
    ∃ blanks, separator indent level ++ text = ',' :: (blanks ++ text)
      ∧ ∀ rest, skipBlanks (blanks ++ rest) = skipBlanks rest := by
  cases indent with
  | none =>
      exact ⟨[' '], rfl, fun rest => List.dropWhile_cons_of_pos (by decide)⟩
  | some width =>
      exact ⟨lineBreak (some width) level, rfl, skipBlanks_lineBreak _ _⟩

theorem one_le_weight (j : Json) : 1 ≤ weight j := by
  cases j with
  | arr items =>
      cases items with
      | nil => exact le_rfl
      | cons item items =>
          show 1 ≤ 1 + weight item + itemsWeight items
          omega
  | obj fields =>
      cases fields with
      | nil => exact le_rfl
      | cons field fields =>
          show 1 ≤ 1 + weight field.2 + fieldsWeight fields
          omega
  | _ => exact le_rfl

/-- The items of an array, from one of them on. -/
theorem readItems_text {indent : Option Nat} {item : Json} {items : List Json}
    (hitem : ReadsBack indent item) (hitems : ∀ i ∈ items, ReadsBack indent i) (level fuel : Nat)
    (hfuel : weight item + itemsWeight items ≤ fuel) (text : Text) :
    readItems fuel (valueText indent (level + 1) item ++ (itemsText indent level items ++ text))
      = some (item :: items, text) := by
  induction items generalizing item fuel with
  | nil =>
      have hone : itemsWeight [] = 1 := rfl
      obtain ⟨fuel, rfl⟩ : ∃ k, fuel = k + 1 := ⟨fuel - 1, by omega⟩
      -- the last item: the bracket follows
      have hend : itemsText indent level [] ++ text = lineBreak indent level ++ ']' :: text := by
        show lineBreak indent level ++ [']'] ++ text = _
        rw [List.append_assoc, List.singleton_append]
      have hread := hitem (level + 1) fuel (lineBreak indent level ++ ']' :: text) (by omega)
        (stops_break (by decide) text)
      have hskip : skipBlanks (lineBreak indent level ++ ']' :: text) = ']' :: text := by
        rw [skipBlanks_lineBreak, skipBlanks_cons (by decide)]
      rw [hend, readItems, hread, Option.bind_some]
      dsimp only
      rw [hskip]
      rfl
  | cons next items ih =>
      have hsum : itemsWeight (next :: items) = 1 + weight next + itemsWeight items := rfl
      obtain ⟨fuel, rfl⟩ : ∃ k, fuel = k + 1 := ⟨fuel - 1, by omega⟩
      -- another item follows after a comma
      have htail : itemsText indent level (next :: items) ++ text
          = separator indent (level + 1) ++ (valueText indent (level + 1) next
            ++ (itemsText indent level items ++ text)) := by
        show separator indent (level + 1) ++ valueText indent (level + 1) next
          ++ itemsText indent level items ++ text = _
        simp only [List.append_assoc]
      have hone := one_le_weight item
      have hread := hitem (level + 1) fuel (separator indent (level + 1)
        ++ (valueText indent (level + 1) next ++ (itemsText indent level items ++ text)))
        (by omega) (stops_separator _ _ _)
      have hrest := ih (hitems next List.mem_cons_self)
        (fun i hi => hitems i (List.mem_cons_of_mem _ hi)) fuel (by omega)
      obtain ⟨blanks, hsep, hblanks⟩ := separator_eq indent (level + 1)
        (valueText indent (level + 1) next ++ (itemsText indent level items ++ text))
      rw [htail, readItems, hread, Option.bind_some]
      dsimp only
      rw [hsep, skipBlanks_cons (by decide)]
      dsimp only
      rw [if_neg (by decide), if_pos rfl, hblanks, skipBlanks_valueText, hrest]
      rfl

theorem readsBack_arr {indent : Option Nat} {items : List Json}
    (h : ∀ item ∈ items, ReadsBack indent item) : ReadsBack indent (.arr items) := by
  intro level fuel text hfuel _
  cases items with
  | nil =>
      have hone : weight (.arr []) = 1 := rfl
      obtain ⟨fuel, rfl⟩ : ∃ k, fuel = k + 1 := ⟨fuel - 1, by omega⟩
      show readValue (fuel + 1) ('[' :: ']' :: text) = _
      rw [readValue, if_neg (by decide), if_pos rfl, skipBlanks_cons (by decide)]
      rfl
  | cons item items =>
      have hsum : weight (.arr (item :: items)) = 1 + weight item + itemsWeight items := rfl
      obtain ⟨fuel, rfl⟩ : ∃ k, fuel = k + 1 := ⟨fuel - 1, by omega⟩
      have htext : valueText indent level (.arr (item :: items)) ++ text
          = '[' :: (lineBreak indent (level + 1) ++ (valueText indent (level + 1) item
            ++ (itemsText indent level items ++ text))) := by
        show '[' :: lineBreak indent (level + 1) ++ valueText indent (level + 1) item
          ++ itemsText indent level items ++ text = _
        simp only [List.append_assoc, List.cons_append]
      have hread := readItems_text (h item List.mem_cons_self)
        (fun i hi => h i (List.mem_cons_of_mem _ hi)) level fuel (by omega) text
      obtain ⟨c, t, hcons, -, hclose⟩ := valueText_head indent (level + 1) item
      have hhead : (valueText indent (level + 1) item
          ++ (itemsText indent level items ++ text)).head? ≠ some ']' := by
        rw [hcons]
        simpa using hclose
      rw [htext, readValue, if_neg (by decide), if_pos rfl, skipBlanks_lineBreak,
        skipBlanks_valueText, if_neg hhead, hread]
      rfl

/-- A key and the colon after it. -/
theorem keyText_eq (key : String) (rest : Text) :
    ∃ t, stringText key ++ (':' :: ' ' :: rest) = '"' :: t
      ∧ readString .plain [] t = some (key.toList, ':' :: ' ' :: rest) :=
  readString_stringText key _

/-- The fields of an object, from one of them on. -/
theorem readFields_text {indent : Option Nat} (key : String) (value : Json)
    {fields : List (String × Json)} (hvalue : ReadsBack indent value)
    (hfields : ∀ f ∈ fields, ReadsBack indent (Prod.snd f)) (level fuel : Nat)
    (hfuel : weight value + fieldsWeight fields ≤ fuel) (text : Text) :
    readFields fuel (stringText key ++ (':' :: ' ' :: (valueText indent (level + 1) value
        ++ (fieldsText indent level fields ++ text)))) = some ((key, value) :: fields, text) := by
  induction fields generalizing key value fuel with
  | nil =>
      have hone : fieldsWeight [] = 1 := rfl
      obtain ⟨fuel, rfl⟩ : ∃ k, fuel = k + 1 := ⟨fuel - 1, by omega⟩
      -- the last field: the closing brace follows, on a line of its own or not
      have hend : fieldsText indent level [] ++ text
          = lineBreak indent level ++ '}' :: text := by
        show lineBreak indent level ++ ['}'] ++ text = _
        rw [List.append_assoc, List.singleton_append]
      have hread := hvalue (level + 1) fuel (lineBreak indent level ++ '}' :: text) (by omega)
        (stops_break (by decide) text)
      have hskip : skipBlanks (lineBreak indent level ++ '}' :: text) = '}' :: text := by
        rw [skipBlanks_lineBreak, skipBlanks_cons (by decide)]
      have hspace : skipBlanks (' ' :: (valueText indent (level + 1) value
          ++ (lineBreak indent level ++ '}' :: text)))
          = valueText indent (level + 1) value ++ (lineBreak indent level ++ '}' :: text) :=
        (List.dropWhile_cons_of_pos (by decide)).trans (skipBlanks_valueText _ _ _ _)
      obtain ⟨t, hkey, hstring⟩ := keyText_eq key
        (valueText indent (level + 1) value ++ (lineBreak indent level ++ '}' :: text))
      -- the key, the colon, the value and the brace are read in turn
      rw [hend, hkey, readFields, if_pos rfl, hstring, Option.bind_some]
      dsimp only
      rw [skipBlanks_cons (by decide)]
      dsimp only
      rw [if_pos rfl, hspace, hread, Option.bind_some]
      dsimp only
      rw [hskip]
      dsimp only
      rw [if_pos rfl, String.ofList_toList]
  | cons field fields ih =>
      obtain ⟨key', value'⟩ := field
      have hsum : fieldsWeight ((key', value') :: fields)
          = 1 + weight value' + fieldsWeight fields := rfl
      obtain ⟨fuel, rfl⟩ : ∃ k, fuel = k + 1 := ⟨fuel - 1, by omega⟩
      -- another field follows after a comma
      have htail : fieldsText indent level ((key', value') :: fields) ++ text
          = separator indent (level + 1) ++ (stringText key' ++ (':' :: ' '
            :: (valueText indent (level + 1) value'
              ++ (fieldsText indent level fields ++ text)))) := by
        show separator indent (level + 1) ++ stringText key' ++ ':' :: ' '
          :: valueText indent (level + 1) value' ++ fieldsText indent level fields ++ text = _
        simp only [List.append_assoc, List.cons_append]
      have hone := one_le_weight value
      have hread := hvalue (level + 1) fuel (separator indent (level + 1)
        ++ (stringText key' ++ (':' :: ' ' :: (valueText indent (level + 1) value'
          ++ (fieldsText indent level fields ++ text))))) (by omega) (stops_separator _ _ _)
      have hrest := ih key' value' (hfields (key', value') List.mem_cons_self)
        (fun f hf => hfields f (List.mem_cons_of_mem _ hf)) fuel (by omega)
      obtain ⟨blanks, hsep, hblanks⟩ := separator_eq indent (level + 1)
        (stringText key' ++ (':' :: ' ' :: (valueText indent (level + 1) value'
          ++ (fieldsText indent level fields ++ text))))
      have hkeyskip : skipBlanks (stringText key' ++ (':' :: ' '
          :: (valueText indent (level + 1) value' ++ (fieldsText indent level fields ++ text))))
          = stringText key' ++ (':' :: ' ' :: (valueText indent (level + 1) value'
            ++ (fieldsText indent level fields ++ text))) := skipBlanks_cons (by decide) _
      have hspace : ∀ rest, skipBlanks (' ' :: (valueText indent (level + 1) value ++ rest))
          = valueText indent (level + 1) value ++ rest := fun rest =>
        (List.dropWhile_cons_of_pos (by decide)).trans (skipBlanks_valueText _ _ _ _)
      -- what the reader has before it when it comes to the first key
      obtain ⟨t, hkey, hstring⟩ := keyText_eq key (valueText indent (level + 1) value
        ++ (separator indent (level + 1) ++ (stringText key' ++ (':' :: ' '
          :: (valueText indent (level + 1) value'
            ++ (fieldsText indent level fields ++ text))))))
      rw [htail, hkey, readFields, if_pos rfl, hstring, Option.bind_some]
      dsimp only
      rw [skipBlanks_cons (by decide)]
      dsimp only
      rw [if_pos rfl, hspace, hread, Option.bind_some]
      dsimp only
      rw [hsep, skipBlanks_cons (by decide)]
      dsimp only
      rw [if_neg (by decide), if_pos rfl, hblanks, hkeyskip, hrest, String.ofList_toList]
      rfl

theorem readsBack_obj {indent : Option Nat} {fields : List (String × Json)}
    (h : ∀ field ∈ fields, ReadsBack indent (Prod.snd field)) :
    ReadsBack indent (.obj fields) := by
  intro level fuel text hfuel _
  cases fields with
  | nil =>
      have hone : weight (.obj []) = 1 := rfl
      obtain ⟨fuel, rfl⟩ : ∃ k, fuel = k + 1 := ⟨fuel - 1, by omega⟩
      show readValue (fuel + 1) ('{' :: '}' :: text) = _
      rw [readValue, if_neg (by decide), if_neg (by decide), if_pos rfl,
        skipBlanks_cons (by decide)]
      rfl
  | cons field fields =>
      obtain ⟨key, value⟩ := field
      have hsum : weight (.obj ((key, value) :: fields))
          = 1 + weight value + fieldsWeight fields := rfl
      obtain ⟨fuel, rfl⟩ : ∃ k, fuel = k + 1 := ⟨fuel - 1, by omega⟩
      have htext : valueText indent level (.obj ((key, value) :: fields)) ++ text
          = '{' :: (lineBreak indent (level + 1) ++ (stringText key ++ (':' :: ' '
            :: (valueText indent (level + 1) value
              ++ (fieldsText indent level fields ++ text))))) := by
        show '{' :: lineBreak indent (level + 1) ++ stringText key ++ ':' :: ' '
          :: valueText indent (level + 1) value ++ fieldsText indent level fields ++ text = _
        simp only [List.append_assoc, List.cons_append]
      have hread := readFields_text key value (h (key, value) List.mem_cons_self)
        (fun f hf => h f (List.mem_cons_of_mem _ hf)) level fuel (by omega) text
      have hskip : ∀ rest, skipBlanks (stringText key ++ rest) = stringText key ++ rest :=
        fun rest => skipBlanks_cons (by decide) _
      rw [htext, readValue, if_neg (by decide), if_neg (by decide), if_pos rfl,
        skipBlanks_lineBreak, hskip, if_neg (by simp [stringText]), hread]
      rfl

/-! ### The whole -/

theorem printable_of_mem {items : List Json} (h : ItemsPrintable items) {item : Json}
    (hitem : item ∈ items) : Printable item := by
  induction items with
  | nil => cases hitem
  | cons first items ih =>
      rcases List.mem_cons.mp hitem with rfl | hmem
      · exact h.1
      · exact ih h.2 hmem

theorem printable_of_mem_fields {fields : List (String × Json)} (h : FieldsPrintable fields)
    {field : String × Json} (hfield : field ∈ fields) : Printable field.2 := by
  induction fields with
  | nil => cases hfield
  | cons first fields ih =>
      rcases List.mem_cons.mp hfield with rfl | hmem
      · exact h.1
      · exact ih h.2 hmem

/-- **Every value reads back.** -/
theorem readsBack (indent : Option Nat) (j : Json) : Printable j → ReadsBack indent j := by
  induction j using json_induction with
  | null =>
      intro _
      exact readsBack_constant (by simp [constants, infinityText]) (fun _ => rfl) rfl
        (by decide) (by decide) (by decide) rfl
  | bool b =>
      intro _
      cases b with
      | true =>
          exact readsBack_constant (by simp [constants, infinityText]) (fun _ => rfl) rfl
            (by decide) (by decide) (by decide) rfl
      | false =>
          exact readsBack_constant (by simp [constants, infinityText]) (fun _ => rfl) rfl
            (by decide) (by decide) (by decide) rfl
  | int n =>
      intro _
      have htext : intText n
          = (if decide (n < 0) then ['-'] else []) ++ natText n.natAbs ++ [] := by
        rw [List.append_nil]
        simp only [decide_eq_true_eq]
        rfl
      -- the digits, with a sign in front and nothing behind
      refine readsBack_number _ n.natAbs [] (fun _ => htext) (fun text hstops => ?_) rfl
      rw [← htext]
      exact readNumber_intText n hstops
  | float x =>
      intro h
      cases x with
      | finite q =>
          have htext : floatText (.finite q) = (if decide (q < 0) then ['-'] else [])
              ++ natText ((roundHalfEven (q * 10 ^ decimals q)).natAbs / 10 ^ decimals q)
              ++ '.' :: padded (decimals q)
                ((roundHalfEven (q * 10 ^ decimals q)).natAbs % 10 ^ decimals q) := by
            simp only [decide_eq_true_eq]
            rfl
          -- the digits behind the point are the fraction
          refine readsBack_number _ _ _ (fun _ => htext) (fun text hstops => ?_) rfl
          rw [← htext]
          exact readNumber_floatText h hstops
      | infinity negative =>
          cases negative with
          | true =>
              exact readsBack_constant (by simp [constants, infinityText]) (fun _ => rfl) rfl
                (by decide) (by decide) (by decide) rfl
          | false =>
              exact readsBack_constant (by simp [constants, infinityText]) (fun _ => rfl) rfl
                (by decide) (by decide) (by decide) rfl
      | nan =>
          exact readsBack_constant (by simp [constants, infinityText]) (fun _ => rfl) rfl
            (by decide) (by decide) (by decide) rfl
  | str s =>
      intro _ level fuel text hfuel _
      -- a string takes one unit of the fuel, whatever its length
      have hone : weight (.str s) = 1 := rfl
      obtain ⟨fuel, rfl⟩ : ∃ k, fuel = k + 1 := ⟨fuel - 1, by omega⟩
      obtain ⟨rest, htext, hread⟩ := readString_stringText s text
      show readValue (fuel + 1) (stringText s ++ text) = _
      rw [htext, readValue, if_pos rfl, hread, Option.map_some, String.ofList_toList]
  | arr items ih =>
      intro h
      exact readsBack_arr fun item hitem => ih item hitem (printable_of_mem h hitem)
  | obj fields ih =>
      intro h
      exact readsBack_obj fun field hfield => ih field hfield (printable_of_mem_fields h hfield)

theorem one_le_length (indent : Option Nat) (level : Nat) (j : Json) :
    1 ≤ (valueText indent level j).length := by
  obtain ⟨c, t, hcons, -, -⟩ := valueText_head indent level j
  rw [hcons, List.length_cons]
  omega

theorem weight_le_length (indent : Option Nat) (j : Json) :
    ∀ level, weight j ≤ (valueText indent level j).length := by
  induction j using json_induction with
  | arr items ih =>
      intro level
      cases items with
      | nil => exact (by decide : 1 ≤ 2)
      | cons item items =>
          -- every item has a separator or the end in front of its own characters
          have hitems : ∀ items : List Json,
              (∀ item ∈ items, ∀ level, weight item ≤ (valueText indent level item).length) →
              itemsWeight items ≤ (itemsText indent level items).length := by
            intro items h
            induction items with
            | nil =>
                show 1 ≤ (lineBreak indent level ++ [']']).length
                rw [List.length_append, List.length_singleton]
                omega
            | cons item items ih =>
                have hfirst := h item List.mem_cons_self (level + 1)
                have hrest := ih fun i hi => h i (List.mem_cons_of_mem _ hi)
                show 1 + weight item + itemsWeight items
                  ≤ (separator indent (level + 1) ++ valueText indent (level + 1) item
                    ++ itemsText indent level items).length
                rw [List.length_append, List.length_append, separator, List.length_cons]
                omega
          have hfirst := ih item List.mem_cons_self (level + 1)
          have hrest := hitems items fun i hi => ih i (List.mem_cons_of_mem _ hi)
          show 1 + weight item + itemsWeight items
            ≤ ('[' :: lineBreak indent (level + 1) ++ valueText indent (level + 1) item
              ++ itemsText indent level items).length
          rw [List.length_append, List.length_append, List.length_cons]
          omega
  | obj fields ih =>
      intro level
      cases fields with
      | nil => exact (by decide : 1 ≤ 2)
      | cons field fields =>
          obtain ⟨key, value⟩ := field
          -- a field has its key and a colon besides
          have hfields : ∀ fields : List (String × Json),
              (∀ f ∈ fields, ∀ level, weight f.2 ≤ (valueText indent level f.2).length) →
              fieldsWeight fields ≤ (fieldsText indent level fields).length := by
            intro fields h
            induction fields with
            | nil =>
                show 1 ≤ (lineBreak indent level ++ ['\x7d']).length
                rw [List.length_append, List.length_singleton]
                omega
            | cons f fields ih =>
                have hfirst := h f List.mem_cons_self (level + 1)
                have hrest := ih fun i hi => h i (List.mem_cons_of_mem _ hi)
                show 1 + weight f.2 + fieldsWeight fields
                  ≤ (separator indent (level + 1) ++ stringText f.1 ++ ':' :: ' '
                    :: valueText indent (level + 1) f.2 ++ fieldsText indent level fields).length
                simp only [List.length_append, List.length_cons]
                omega
          have hfirst : weight value ≤ (valueText indent (level + 1) value).length :=
            ih (key, value) List.mem_cons_self (level + 1)
          have hrest := hfields fields fun i hi => ih i (List.mem_cons_of_mem _ hi)
          show 1 + weight value + fieldsWeight fields
            ≤ ('\x7b' :: lineBreak indent (level + 1) ++ stringText key ++ ':' :: ' '
              :: valueText indent (level + 1) value ++ fieldsText indent level fields).length
          simp only [List.length_append, List.length_cons]
          omega
  | null => exact fun level => one_le_length indent level _
  | bool b => exact fun level => one_le_length indent level (.bool b)
  | int n => exact fun level => one_le_length indent level (.int n)
  | float x => exact fun level => one_le_length indent level (.float x)
  | str s => exact fun level => one_le_length indent level (.str s)

/-- **What is written is read as the same value**, whatever the indent. -/
theorem loads_dumps (indent : Option Nat) {j : Json} (h : Printable j) :
    loads (dumps indent j) = some j := by
  have hread := readsBack indent j h 0 ((dumps indent j).length + 1) []
    ((weight_le_length indent j 0).trans (Nat.le_succ _)) fun c hc => by cases hc
  have hskip := skipBlanks_valueText indent 0 j []
  rw [List.append_nil] at hread hskip
  unfold loads
  have hskip' : skipBlanks (dumps indent j) = dumps indent j := hskip
  have hread' : readValue ((dumps indent j).length + 1) (dumps indent j) = some (j, []) := hread
  rw [hskip', hread']
  rfl

/-! ## Without an indent, a value is one line -/

theorem isLine_append {a b : Text} (ha : IsLine a) (hb : IsLine b) : IsLine (a ++ b) := by
  unfold IsLine at *
  rw [List.mem_append, List.mem_append, not_or, not_or]
  exact ⟨⟨ha.1, hb.1⟩, ha.2, hb.2⟩

theorem isLine_cons {c : Char} {text : Text} (hc : c ≠ '\n' ∧ c ≠ '\r') (h : IsLine text) :
    IsLine (c :: text) := by
  unfold IsLine at *
  rw [List.mem_cons, List.mem_cons, not_or, not_or]
  exact ⟨⟨hc.1.symm, h.1⟩, hc.2.symm, h.2⟩

theorem isLine_of_isWord {text : Text} (h : IsWord text) : IsLine text :=
  ⟨fun hmem => absurd (h.2 _ hmem) (by decide), fun hmem => absurd (h.2 _ hmem) (by decide)⟩

theorem isLine_unicodeEscape (n : Nat) : IsLine (unicodeEscape n) := by
  have hdigit : ∀ m : Nat, (m % 16).digitChar ≠ '\n' ∧ (m % 16).digitChar ≠ '\r' := by
    intro m
    have hvalue := hexValue_digitChar (Nat.mod_lt m (by decide : 0 < 16))
    constructor
    · intro hc
      rw [hc] at hvalue
      cases hvalue
    · intro hc
      rw [hc] at hvalue
      cases hvalue
  exact isLine_cons (by decide) (isLine_cons (by decide) (isLine_cons (hdigit _)
    (isLine_cons (hdigit _) (isLine_cons (hdigit _) (isLine_cons (hdigit _) ⟨by simp, by simp⟩)))))

theorem isLine_escapeChar (c : Char) : IsLine (escapeChar c) := by
  unfold escapeChar
  cases hshort : shortEscapes.lookup c with
  | some letter =>
      have hall : ∀ p ∈ shortEscapes, p.2 ≠ '\n' ∧ p.2 ≠ '\r' := by decide
      have hletter := hall (c, letter) (mem_of_lookup hshort)
      exact isLine_cons (by decide) (isLine_cons hletter ⟨by simp, by simp⟩)
  | none =>
      dsimp only
      split_ifs with hplain hone
      · refine isLine_cons ⟨?_, ?_⟩ ⟨by simp, by simp⟩
        · rintro rfl
          exact absurd hplain.1 (by decide)
        · rintro rfl
          exact absurd hplain.1 (by decide)
      · exact isLine_unicodeEscape _
      · exact isLine_append (isLine_unicodeEscape _) (isLine_unicodeEscape _)

theorem isLine_stringText (s : String) : IsLine (stringText s) := by
  have hbody : ∀ cs : Text, IsLine (cs.flatMap escapeChar) := by
    intro cs
    induction cs with
    | nil => exact ⟨by simp, by simp⟩
    | cons c cs ih =>
        rw [List.flatMap_cons]
        exact isLine_append (isLine_escapeChar c) ih
  exact isLine_cons (by decide) (isLine_append (hbody _) (by unfold IsLine; decide))

theorem isLine_floatText (x : JsonFloat) : IsLine (floatText x) := by
  cases x with
  | finite q => exact isLine_of_isWord (isWord_fixed _ q)
  | infinity negative => cases negative <;> (unfold IsLine; decide)
  | nan => unfold IsLine; decide

theorem isLine_intText (n : Int) : IsLine (intText n) := by
  refine isLine_append ?_ (isLine_of_isWord (isWord_natText _))
  split_ifs <;> (unfold IsLine; decide)

theorem isLine_separator (level : Nat) : IsLine (separator none level) := by
  unfold IsLine
  exact (by decide : '\n' ∉ [',', ' '] ∧ '\r' ∉ [',', ' '])

theorem isLine_valueText (j : Json) : ∀ level, IsLine (valueText none level j) := by
  have hempty : IsLine [] := ⟨by simp, by simp⟩
  induction j using json_induction with
  | null => intro level; exact (by unfold IsLine; decide : IsLine ['n', 'u', 'l', 'l'])
  | bool b =>
      intro level
      show IsLine (if b then ['t', 'r', 'u', 'e'] else ['f', 'a', 'l', 's', 'e'])
      split_ifs <;> (unfold IsLine; decide)
  | int n => intro level; exact isLine_intText n
  | float x => intro level; exact isLine_floatText x
  | str s => intro level; exact isLine_stringText s
  | arr items ih =>
      intro level
      -- without an indent the separators are commas and blanks
      have hitems : ∀ items : List Json,
          (∀ item ∈ items, ∀ level, IsLine (valueText none level item)) →
          IsLine (itemsText none level items) := by
        intro items h
        induction items with
        | nil => exact (by unfold IsLine; decide : IsLine [']'])
        | cons item items ih =>
            exact isLine_append
              (isLine_append (isLine_separator _) (h item List.mem_cons_self (level + 1)))
              (ih fun i hi => h i (List.mem_cons_of_mem _ hi))
      cases items with
      | nil => exact (by unfold IsLine; decide : IsLine ['[', ']'])
      | cons item items =>
          exact isLine_cons (by decide) (isLine_append (ih item List.mem_cons_self (level + 1))
            (hitems items fun i hi => ih i (List.mem_cons_of_mem _ hi)))
  | obj fields ih =>
      intro level
      -- a key and its value
      have hfield : ∀ (key : String) (value : Json),
          (∀ level, IsLine (valueText none level value)) →
          IsLine (stringText key ++ ':' :: ' ' :: valueText none (level + 1) value) :=
        fun key value h => isLine_append (isLine_stringText key)
          (isLine_cons (by decide) (isLine_cons (by decide) (h (level + 1))))
      have hfields : ∀ fields : List (String × Json),
          (∀ f ∈ fields, ∀ level, IsLine (valueText none level f.2)) →
          IsLine (fieldsText none level fields) := by
        intro fields h
        induction fields with
        | nil => exact (by unfold IsLine; decide : IsLine ['\x7d'])
        | cons f fields ih =>
            have hfirst := hfield f.1 f.2 (h f List.mem_cons_self)
            have hrest := ih fun i hi => h i (List.mem_cons_of_mem _ hi)
            have hwhole := isLine_append (isLine_append (isLine_separator (level + 1)) hfirst) hrest
            rw [← List.append_assoc] at hwhole
            exact hwhole
      cases fields with
      | nil => exact (by unfold IsLine; decide : IsLine ['\x7b', '\x7d'])
      | cons field fields =>
          have hfirst := hfield field.1 field.2 (ih field List.mem_cons_self)
          have hrest := hfields fields fun i hi => ih i (List.mem_cons_of_mem _ hi)
          exact isLine_cons (by decide) (isLine_append hfirst hrest)

/-- **Without an indent, what is written has no line end in it.** -/
theorem isLine_dumps (j : Json) : IsLine (dumps none j) := isLine_valueText j 0

end JsonText

end SmartTraffic.Lib
