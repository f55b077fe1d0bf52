import Tugtainer.Python.Dict
import Tugtainer.Python.Numerals

/-!
# Strings of `json`

A string as `json.dumps` prints it, in ASCII, and as `json.loads` reads it. Both go through
the 16-bit units of the characters, of which an escape holds one (`scanString_quoted`).
-/

namespace Python

namespace Json

/-! ## Printing -/

/-- `\uxxxx`. -/
def unicodeEscape (n : ℕ) : List Char :=
  ['\\', 'u', Nat.digitChar (n / 4096), Nat.digitChar (n / 256 % 16), Nat.digitChar (n / 16 % 16),
    Nat.digitChar (n % 16)]

def units (c : Char) : List ℕ :=
  if c.toNat < 0x10000 then [c.toNat]
  else [0xd800 + (c.toNat - 0x10000) / 1024, 0xdc00 + (c.toNat - 0x10000) % 1024]

def shortEscapes : List (Char × Char) :=
  [('"', '"'), ('\\', '\\'), ('\n', 'n'), ('\r', 'r'), ('\t', 't'), ('\x0c', 'f'), ('\x08', 'b')]

/-- A character as `ensure_ascii` prints it. -/
def escape (c : Char) : List Char :=
  match Dict.get? shortEscapes c with
  | some letter => ['\\', letter]
  | none => if ' ' ≤ c ∧ c ≤ '~' then [c] else (units c).flatMap unicodeEscape

/-- `py_encode_basestring_ascii(s)`. -/
def quoted (s : String) : List Char :=
  '"' :: s.toList.flatMap escape ++ ['"']

/-! ## Reading -/

def backslash : Dict Char Char :=
  [('"', '"'), ('\\', '\\'), ('/', '/'), ('b', '\x08'), ('f', '\x0c'), ('n', '\n'), ('r', '\r'),
    ('t', '\t')]

/-- The 16-bit units of a string up to its closing quote, and the text after it. -/
def scanUnits : List Char → Option (List ℕ × List Char)
  | [] => none
  | c :: s =>
      if c = '"' then some ([], s)
      else if c = '\\' then
        match s with
        | 'u' :: x₃ :: x₂ :: x₁ :: x₀ :: s =>
            if [x₃, x₂, x₁, x₀].all isHexDigit then
              (scanUnits s).map (Prod.map (hexadecimal [x₃, x₂, x₁, x₀] :: ·) id)
            else none
        | letter :: s =>
            (backslash.get? letter).bind fun c => (scanUnits s).map (Prod.map (c.toNat :: ·) id)
        | [] => none
      else if c.toNat < 0x20 then none
      else (scanUnits s).map (Prod.map (units c ++ ·) id)

/-- The characters of 16-bit units. A surrogate on its own is no character of a string here,
and fails. -/
def joinUnits : List ℕ → Option (List Char)
  | [] => some []
  | u :: us =>
      if 0xd800 ≤ u ∧ u < 0xdc00 then
        match us with
        | v :: us =>
            if 0xdc00 ≤ v ∧ v < 0xe000 then
              (joinUnits us).map
                (Char.ofNat (0x10000 + (u - 0xd800) * 1024 + (v - 0xdc00)) :: ·)
            else none
        | [] => none
      else if 0xdc00 ≤ u ∧ u < 0xe000 then none
      else (joinUnits us).map (Char.ofNat u :: ·)

/-- `py_scanstring(s)`, after the opening quote. -/
def scanString (s : List Char) : Option (String × List Char) :=
  (scanUnits s).bind fun (us, rest) => (joinUnits us).map fun cs => (String.ofList cs, rest)

/-! ## Reading what was printed -/

theorem isHexDigit_digitChar : ∀ d < 16, isHexDigit (Nat.digitChar d) = true := by decide

theorem hexDigitValue_digitChar : ∀ d < 16, hexDigitValue (Nat.digitChar d) = d := by decide

theorem scanUnits_unicodeEscape {n : ℕ} (hn : n < 0x10000) (s : List Char) :
    scanUnits (unicodeEscape n ++ s) = (scanUnits s).map (Prod.map (n :: ·) id) := by
  have h₃ : n / 4096 < 16 := by omega
  have h₂ : n / 256 % 16 < 16 := by omega
  have h₁ : n / 16 % 16 < 16 := by omega
  have h₀ : n % 16 < 16 := by omega
  have hvalue : 16 * (16 * (16 * (n / 4096) + n / 256 % 16) + n / 16 % 16) + n % 16 = n := by
    omega
  simp [unicodeEscape, scanUnits, isHexDigit_digitChar, hexDigitValue_digitChar, hexadecimal,
    h₃, h₂, h₁, h₀, hvalue]

@[simp] theorem scanUnits_quote (s : List Char) : scanUnits ('"' :: s) = some ([], s) := by
  rw [scanUnits.eq_def]
  simp

theorem scanUnits_letter {letter c : Char} (hletter : letter ≠ 'u')
    (hc : backslash.get? letter = some c) (s : List Char) :
    scanUnits ('\\' :: letter :: s) = (scanUnits s).map (Prod.map (c.toNat :: ·) id) := by
  rw [scanUnits.eq_def]
  simp [hletter, hc]

theorem scanUnits_plain {c : Char} (hquote : c ≠ '"') (hback : c ≠ '\\') (hc : 0x20 ≤ c.toNat)
    (s : List Char) : scanUnits (c :: s) = (scanUnits s).map (Prod.map (units c ++ ·) id) := by
  rw [scanUnits.eq_def]
  simp [hquote, hback, Nat.not_lt.2 hc]

theorem toNat_lt_or (c : Char) :
    c.toNat < 0xd800 ∨ 0xe000 ≤ c.toNat ∧ c.toNat < 0x110000 := by
  rcases c.valid with h | ⟨h, h'⟩
  · exact .inl h
  · exact .inr ⟨h, h'⟩

theorem backslash_of_shortEscapes : ∀ item ∈ shortEscapes,
    backslash.get? item.2 = some item.1 ∧ item.2 ≠ 'u' ∧ units item.1 = [item.1.toNat] := by
  decide

theorem scanUnits_escape (c : Char) (s : List Char) :
    scanUnits (escape c ++ s) = (scanUnits s).map (Prod.map (units c ++ ·) id) := by
  unfold escape
  split
  · rename_i letter hletter
    obtain ⟨hback, hu, hunits⟩ := backslash_of_shortEscapes _ (Dict.mem_of_get? hletter)
    rw [List.cons_append, List.cons_append, List.nil_append, scanUnits_letter hu hback, hunits]
    rfl
  · rename_i hnone
    have hkeys := Dict.get?_eq_none_iff.1 hnone
    split
    · rename_i hprintable
      have hquote : c ≠ '"' := by
        rintro rfl
        exact hkeys (by decide)
      have hback : c ≠ '\\' := by
        rintro rfl
        exact hkeys (by decide)
      exact scanUnits_plain hquote hback hprintable.1 s
    · have hc := toNat_lt_or c
      rw [units]
      split
      · rename_i hsmall
        simpa using scanUnits_unicodeEscape hsmall s
      · have hhigh : 0xd800 + (c.toNat - 0x10000) / 1024 < 0x10000 := by omega
        have hlow : 0xdc00 + (c.toNat - 0x10000) % 1024 < 0x10000 := by omega
        rw [List.flatMap_cons, List.flatMap_singleton, List.append_assoc,
          scanUnits_unicodeEscape hhigh, scanUnits_unicodeEscape hlow, Option.map_map]
        rfl

theorem joinUnits_units (c : Char) (us : List ℕ) :
    joinUnits (units c ++ us) = (joinUnits us).map (c :: ·) := by
  have hc := toNat_lt_or c
  unfold units
  split
  · have hhigh : ¬(0xd800 ≤ c.toNat ∧ c.toNat < 0xdc00) := by omega
    have hlow : ¬(0xdc00 ≤ c.toNat ∧ c.toNat < 0xe000) := by omega
    rw [List.singleton_append, joinUnits.eq_def]
    simp only [if_neg hhigh, if_neg hlow, Char.ofNat_toNat]
  · set high := 0xd800 + (c.toNat - 0x10000) / 1024 with hh
    set low := 0xdc00 + (c.toNat - 0x10000) % 1024 with hl
    have hhigh : 0xd800 ≤ high ∧ high < 0xdc00 := by omega
    have hlow : 0xdc00 ≤ low ∧ low < 0xe000 := by omega
    have hvalue : 0x10000 + (high - 0xd800) * 1024 + (low - 0xdc00) = c.toNat := by omega
    rw [List.cons_append, List.singleton_append, joinUnits.eq_def]
    simp only [if_pos hhigh, if_pos hlow, hvalue, Char.ofNat_toNat]

theorem scanString_quoted (s : String) (rest : List Char) :
    scanString (s.toList.flatMap escape ++ '"' :: rest) = some (s, rest) := by
  have hscan (cs : List Char) : scanUnits (cs.flatMap escape ++ '"' :: rest) =
      some (cs.flatMap units, rest) := by
    induction cs with
    | nil => simp
    | cons c cs ih => simp [scanUnits_escape, ih]
  have hjoin (cs : List Char) : joinUnits (cs.flatMap units) = some cs := by
    induction cs with
    | nil => simp [joinUnits]
    | cons c cs ih => simp [joinUnits_units, ih]
  simp [scanString, hscan, hjoin]

end Json

end Python
