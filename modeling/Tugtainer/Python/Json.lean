import Tugtainer.Python.JsonString

/-!
# `json`

The values that `json.dumps` prints with a default function, and the values that
`json.loads` reads, on lists of characters. A printed value is read again as the same value,
except that the objects left to the default function come back as strings
(`loads_dumps`).
-/

namespace Python

/-- A value given to `json.dumps`. Tuples are lists, and `leaf` is an object that the encoder
hands to its default function, with its truth value and the string it gets for it. -/
inductive Json (F : Type) where
  | null
  | bool (b : Bool)
  | int (n : ℤ)
  | float (x : F)
  | str (s : String)
  | list (items : List (Json F))
  | dict (items : List (String × Json F))
  | leaf (truthy : Bool) (text : String)

namespace Json

variable {F : Type}

/-! ## Printing -/

/-- The text of a floating point number, whose `repr` is `nan` or `inf` where it is none. -/
def floatstr (N : Numerals F) (x : F) : List Char :=
  match N.floatText x with
  | "nan" => "NaN".toList
  | "inf" => "Infinity".toList
  | "-inf" => "-Infinity".toList
  | text => text.toList

mutual

/-- The characters of `json.dumps(value, default=…)`. -/
def print (N : Numerals F) : Json F → List Char
  | null => "null".toList
  | bool true => "true".toList
  | bool false => "false".toList
  | int n => (toString n).toList
  | float x => floatstr N x
  | str s => quoted s
  | list [] => "[]".toList
  | list (v :: vs) => '[' :: print N v ++ printItems N vs
  | dict [] => "{}".toList
  | dict ((k, v) :: items) => '{' :: quoted k ++ ": ".toList ++ print N v ++ printMembers N items
  | leaf _ text => quoted text

def printItems (N : Numerals F) : List (Json F) → List Char
  | [] => [']']
  | v :: vs => ", ".toList ++ print N v ++ printItems N vs

def printMembers (N : Numerals F) : List (String × Json F) → List Char
  | [] => ['}']
  | (k, v) :: items =>
      ", ".toList ++ quoted k ++ ": ".toList ++ print N v ++ printMembers N items

end

/-- `json.dumps(value, default=…)`. -/
def dumps (N : Numerals F) (v : Json F) : String :=
  String.ofList (print N v)

/-- `bool(value)`. -/
def truthy (N : Numerals F) : Json F → Bool
  | null => false
  | bool b => b
  | int n => n != 0
  | float x => !N.isZero x
  | str s => s != ""
  | list items => !items.isEmpty
  | dict items => !items.isEmpty
  | leaf truthy _ => truthy

mutual

def isPrintable : Json F → Bool
  | int n => Python.isPrintable n
  | list items => isPrintableItems items
  | dict items => isPrintableMembers items
  | _ => true

def isPrintableItems : List (Json F) → Bool
  | [] => true
  | v :: vs => isPrintable v && isPrintableItems vs

def isPrintableMembers : List (String × Json F) → Bool
  | [] => true
  | (_, v) :: items => isPrintable v && isPrintableMembers items

end

/-! ## Reading -/

def isWhitespace (c : Char) : Bool :=
  c = ' ' || c = '\t' || c = '\n' || c = '\r'

def skip (s : List Char) : List Char :=
  s.dropWhile isWhitespace

/-- The groups of `NUMBER_RE`: the sign and the digits, the fraction and the exponent. -/
def numberSign (s : List Char) : List Char :=
  if s.head? = some '-' then ['-'] else []

def numberDigits (s : List Char) : List Char :=
  if s.head? = some '0' then ['0'] else s.takeWhile isDigit

def numberFraction : List Char → List Char
  | '.' :: s => if s.takeWhile isDigit = [] then [] else '.' :: s.takeWhile isDigit
  | _ => []

def numberExponent : List Char → List Char
  | [] => []
  | e :: s =>
      let sign := if s.head? = some '-' ∨ s.head? = some '+' then s.take 1 else []
      let digits := (s.drop sign.length).takeWhile isDigit
      if (e = 'e' ∨ e = 'E') ∧ digits ≠ [] then e :: sign ++ digits else []

/-- `_match_number(s)`. -/
def scanNumber (N : Numerals F) (s : List Char) : Option (Json F × List Char) :=
  let sign := numberSign s
  let s := s.drop sign.length
  let digits := numberDigits s
  let s := s.drop digits.length
  let fraction := numberFraction s
  let s := s.drop fraction.length
  let exponent := numberExponent s
  let s := s.drop exponent.length
  if digits = [] then none
  else if fraction = [] ∧ exponent = [] then
    some (int (if sign = [] then decimal digits else -decimal digits), s)
  else
    (N.floatOf (String.ofList (sign ++ digits ++ fraction ++ exponent))).map fun x => (float x, s)

def constants (N : Numerals F) : List (String × Option (Json F)) :=
  [("null", some null), ("true", some (bool true)), ("false", some (bool false)),
    ("NaN", (N.floatOf "nan").map float), ("Infinity", (N.floatOf "inf").map float),
    ("-Infinity", (N.floatOf "-inf").map float)]

def scanAtom (N : Numerals F) (s : List Char) : Option (Json F × List Char) :=
  match (constants N).find? fun (word, _) => word.toList.isPrefixOf s with
  | some (word, value) => value.map fun v => (v, s.drop word.toList.length)
  | none => scanNumber N s

mutual

/-- `scan_once(s)`: the value that the text starts with, and the text after it. Each call
takes one unit of the fuel. -/
def scanOnce (N : Numerals F) : ℕ → List Char → Option (Json F × List Char)
  | 0, _ => none
  | fuel + 1, s =>
      match s with
      | '"' :: s => (scanString s).map fun (text, rest) => (str text, rest)
      | '[' :: s =>
          match skip s with
          | ']' :: rest => some (list [], rest)
          | s => scanItems N fuel [] s
      | '{' :: s =>
          match skip s with
          | '}' :: rest => some (dict [], rest)
          | s => scanMembers N fuel [] s
      | s => scanAtom N s

/-- The loop of `JSONArray`, with the items read so far. -/
def scanItems (N : Numerals F) : ℕ → List (Json F) → List Char → Option (Json F × List Char)
  | 0, _, _ => none
  | fuel + 1, items, s => do
      let (v, s) ← scanOnce N fuel s
      match skip s with
      | ']' :: rest => some (list (items ++ [v]), rest)
      | ',' :: s => scanItems N fuel (items ++ [v]) (skip s)
      | _ => none

/-- The loop of `JSONObject`, with the items read so far. -/
def scanMembers (N : Numerals F) :
    ℕ → List (String × Json F) → List Char → Option (Json F × List Char)
  | 0, _, _ => none
  | fuel + 1, items, s =>
      match s with
      | '"' :: s => do
          let (key, s) ← scanString s
          match skip s with
          | ':' :: s => do
              let (v, s) ← scanOnce N fuel (skip s)
              match skip s with
              | '}' :: rest => some (dict (Dict.set items key v), rest)
              | ',' :: s => scanMembers N fuel (Dict.set items key v) (skip s)
              | _ => none
          | _ => none
      | _ => none

end

/-- `json.loads(s)`, or `none` where it raises a `JSONDecodeError`. A value takes at most one
call for each of its characters. -/
def loads (N : Numerals F) (s : String) : Option (Json F) := do
  let (v, rest) ← scanOnce N (s.length + 1) (skip s.toList)
  if skip rest = [] then some v else none

/-! ## What the agent gets -/

mutual

/-- The value that comes back: what the default function answered for an object is a string. -/
def erase : Json F → Json F
  | list items => list (eraseItems items)
  | dict items => dict (eraseMembers items)
  | leaf _ text => str text
  | v => v

def eraseItems : List (Json F) → List (Json F)
  | [] => []
  | v :: vs => erase v :: eraseItems vs

def eraseMembers : List (String × Json F) → List (String × Json F)
  | [] => []
  | (k, v) :: items => (k, erase v) :: eraseMembers items

end

/-- A value whose dictionaries have no key twice, with the floating point numbers that
`p` allows. -/
inductive WellFormed (p : F → Prop) : Json F → Prop
  | null : WellFormed p null
  | bool (b : Bool) : WellFormed p (bool b)
  | int (n : ℤ) : WellFormed p (int n)
  | float {x : F} (hx : p x) : WellFormed p (float x)
  | str (s : String) : WellFormed p (str s)
  | list {items : List (Json F)} (h : ∀ v ∈ items, WellFormed p v) : WellFormed p (list items)
  | dict {items : List (String × Json F)} (hkeys : (items.map Prod.fst).Nodup)
      (h : ∀ item ∈ items, WellFormed p item.2) : WellFormed p (dict items)
  | leaf (truthy : Bool) (text : String) : WellFormed p (leaf truthy text)

/-- A value without floating point numbers. -/
abbrev Plain : Json F → Prop := WellFormed fun _ => False

/-- The text of a number with a fraction, with an exponent and its sign, or with both. -/
structure FloatLiteral where
  sign : List Char
  whole : ℕ
  fraction : List Char
  exponent : List Char
  sign_eq : sign = [] ∨ sign = ['-']
  fraction_eq : fraction = [] ∨ ∃ digits, digits ≠ [] ∧ (∀ c ∈ digits, isDigit c = true) ∧
    fraction = '.' :: digits
  exponent_eq : exponent = [] ∨ ∃ e digits, (e = '-' ∨ e = '+') ∧ digits ≠ [] ∧
    (∀ c ∈ digits, isDigit c = true) ∧ exponent = 'e' :: e :: digits
  ne_nil : fraction = [] → exponent ≠ []

def FloatLiteral.chars (l : FloatLiteral) : List Char :=
  l.sign ++ (Nat.toDigits 10 l.whole ++ (l.fraction ++ l.exponent))

/-- What `repr` writes of the floating point numbers that `p` allows, `float` reads as the same
number: `nan`, `inf`, `-inf`, or a literal. -/
structure FloatsReadBack (N : Numerals F) (p : F → Prop) : Prop where
  floatOf_floatText : ∀ x, p x → N.floatOf (N.floatText x) = some x
  floatText : ∀ x, p x → N.floatText x ∈ ["nan", "inf", "-inf"] ∨
    ∃ l : FloatLiteral, N.floatText x = String.ofList l.chars

theorem floatsReadBack_none (N : Numerals F) : FloatsReadBack N fun _ => False where
  floatOf_floatText _ h := h.elim
  floatText _ h := h.elim

/-! ## Reading what was printed -/

section

variable (N : Numerals F)

/-- The text after a value in a list or a dictionary, or at the end. -/
def Delimited (rest : List Char) : Prop :=
  ∀ c ∈ rest.head?, c = ',' ∨ c = ']' ∨ c = '}'

theorem skip_of_not_isWhitespace {c : Char} (hc : isWhitespace c = false) (s : List Char) :
    skip (c :: s) = c :: s := by
  simp [skip, hc]

@[simp] theorem skip_nil : skip [] = [] := rfl

@[simp] theorem skip_space (s : List Char) : skip (' ' :: s) = skip s := by
  simp [skip, isWhitespace]

theorem takeWhile_isDigit_append {digits rest : List Char}
    (hdigits : ∀ c ∈ digits, isDigit c = true) (hrest : ∀ c ∈ rest.head?, isDigit c = false) :
    (digits ++ rest).takeWhile isDigit = digits := by
  rw [List.takeWhile_append_of_pos hdigits]
  cases rest with
  | nil => simp
  | cons c rest => simp [hrest c rfl]

theorem Delimited.isDigit_eq_false {rest : List Char} (h : Delimited rest) :
    ∀ c ∈ rest.head?, isDigit c = false := by
  intro c hc
  rcases h c hc with rfl | rfl | rfl
  all_goals rfl

theorem numberDigits_toDigits (n : ℕ) {rest : List Char}
    (hrest : ∀ c ∈ rest.head?, isDigit c = false) :
    numberDigits (Nat.toDigits 10 n ++ rest) = Nat.toDigits 10 n := by
  have hhead : (Nat.toDigits 10 n ++ rest).head? = (Nat.toDigits 10 n).head? :=
    List.head?_append_of_ne_nil _ Nat.toDigits_ne_nil
  unfold numberDigits
  rcases Nat.eq_zero_or_pos n with rfl | hn
  · rw [hhead]
    rfl
  · rw [hhead, if_neg (head?_toDigits_ne hn),
      takeWhile_isDigit_append (fun c hc => isDigit_of_mem_toDigits hc) hrest]

theorem numberFraction_of_delimited {rest : List Char} (h : Delimited rest) :
    numberFraction rest = [] := by
  cases rest with
  | nil => rfl
  | cons c rest =>
      rcases h c rfl with rfl | rfl | rfl
      all_goals rfl

theorem numberExponent_of_delimited {rest : List Char} (h : Delimited rest) :
    numberExponent rest = [] := by
  cases rest with
  | nil => rfl
  | cons c rest =>
      rcases h c rfl with rfl | rfl | rfl
      all_goals simp [numberExponent]

theorem head?_toDigits_ne_minus (n : ℕ) (rest : List Char) :
    (Nat.toDigits 10 n ++ rest).head? ≠ some '-' := by
  rw [List.head?_append_of_ne_nil _ Nat.toDigits_ne_nil]
  intro h
  exact absurd (isDigit_of_mem_toDigits (List.mem_of_head? h)) (by decide)

theorem scanNumber_toString (n : ℤ) {rest : List Char} (hrest : Delimited rest) :
    scanNumber N ((toString n).toList ++ rest) = some (int n, rest) := by
  rw [toList_toString_int]
  split
  · rename_i hn
    have habs : -((n.natAbs : ℕ) : ℤ) = n := by omega
    simpa [scanNumber, numberSign, numberDigits_toDigits _ hrest.isDigit_eq_false,
      numberFraction_of_delimited, numberExponent_of_delimited, hrest, decimal_toDigits] using habs
  · rename_i hn
    have habs : ((n.natAbs : ℕ) : ℤ) = n := by omega
    simp only [scanNumber, numberSign, if_neg (head?_toDigits_ne_minus _ _)]
    simpa [numberDigits_toDigits _ hrest.isDigit_eq_false, numberFraction_of_delimited,
      numberExponent_of_delimited, hrest, decimal_toDigits] using habs

theorem ne_of_isDigit {d c : Char} (hd : isDigit d = true) (hc : isDigit c = false) : d ≠ c := by
  rintro rfl
  exact absurd hd (by simp [hc])

theorem isWhitespace_of_isDigit {d : Char} (hd : isDigit d = true) : isWhitespace d = false := by
  have hne (c : Char) (hc : isDigit c = false) : d ≠ c := ne_of_isDigit hd hc
  simp [isWhitespace, hne, isDigit]

theorem scanAtom_of_isDigit {sign : List Char} (hsign : sign = [] ∨ sign = ['-']) {d : Char}
    (hd : isDigit d = true) (s : List Char) :
    scanAtom N (sign ++ d :: s) = scanNumber N (sign ++ d :: s) := by
  have hne (c : Char) (hc : isDigit c = false) : ¬c = d := (ne_of_isDigit hd hc).symm
  have hnone : (constants N).find? (fun (word, _) => word.toList.isPrefixOf (sign ++ d :: s)) =
      none := by
    rcases hsign with rfl | rfl
    all_goals simp [constants, hne, isDigit]
  rw [scanAtom, hnone]

theorem scanAtom_toString (n : ℤ) {rest : List Char} (hrest : Delimited rest) :
    scanAtom N ((toString n).toList ++ rest) = some (int n, rest) := by
  obtain ⟨sign, d, s, hsign, hd, hs⟩ := exists_toString_eq_append n
  rw [← scanNumber_toString N n hrest, hs, List.append_assoc, List.cons_append]
  exact scanAtom_of_isDigit N hsign hd (s ++ rest)

theorem exists_fuel_eq_succ {s : List Char} {fuel : ℕ} (hs : s ≠ []) (h : s.length ≤ fuel) :
    ∃ m, fuel = m + 1 := by
  have hpos := List.length_pos_of_ne_nil hs
  exact Nat.exists_eq_succ_of_ne_zero (by omega)

/-! ### Floating point numbers -/

theorem head?_exponent (l : FloatLiteral) {rest : List Char} (hrest : Delimited rest) :
    ∀ c ∈ (l.exponent ++ rest).head?, c = 'e' ∨ c = ',' ∨ c = ']' ∨ c = '}' := by
  intro c hc
  rcases l.exponent_eq with h | ⟨e, digits, -, -, -, h⟩
  · rw [h] at hc
    exact .inr (hrest c hc)
  · rw [h] at hc
    exact .inl (Option.some.inj hc).symm

theorem numberExponent_literal (l : FloatLiteral) {rest : List Char} (hrest : Delimited rest) :
    numberExponent (l.exponent ++ rest) = l.exponent := by
  rcases l.exponent_eq with h | ⟨e, digits, he, hne, hdigits, h⟩
  · rw [h, List.nil_append, numberExponent_of_delimited hrest]
  · have htake := takeWhile_isDigit_append hdigits hrest.isDigit_eq_false
    rw [h]
    rcases he with rfl | rfl
    · simp [numberExponent, htake, hne]
    · simp [numberExponent, htake, hne]

theorem numberFraction_literal (l : FloatLiteral) {rest : List Char} (hrest : Delimited rest) :
    numberFraction (l.fraction ++ (l.exponent ++ rest)) = l.fraction := by
  have hhead := head?_exponent l hrest
  rcases l.fraction_eq with h | ⟨digits, hne, hdigits, h⟩
  · rw [h, List.nil_append]
    unfold numberFraction
    split
    · rename_i s heq
      rw [heq] at hhead
      exact absurd (hhead '.' rfl) (by decide)
    · rfl
  · have hend : ∀ c ∈ (l.exponent ++ rest).head?, isDigit c = false := by
      intro c hc
      rcases hhead c hc with rfl | rfl | rfl | rfl
      all_goals rfl
    have htake := takeWhile_isDigit_append hdigits hend
    rw [h]
    simp [numberFraction, htake, hne]

theorem numberDigits_literal (l : FloatLiteral) {rest : List Char} (hrest : Delimited rest) :
    numberDigits (Nat.toDigits 10 l.whole ++ (l.fraction ++ (l.exponent ++ rest))) =
      Nat.toDigits 10 l.whole := by
  refine numberDigits_toDigits _ fun c hc => ?_
  rcases l.fraction_eq with h | ⟨digits, -, -, h⟩
  · rw [h] at hc
    rcases head?_exponent l hrest c hc with rfl | rfl | rfl | rfl
    all_goals rfl
  · rw [h] at hc
    obtain rfl := Option.some.inj hc
    rfl

theorem numberSign_literal (l : FloatLiteral) (rest : List Char) :
    numberSign (l.sign ++ (Nat.toDigits 10 l.whole ++ rest)) = l.sign := by
  unfold numberSign
  rcases l.sign_eq with h | h
  · rw [h, List.nil_append, if_neg (head?_toDigits_ne_minus _ _)]
  · rw [h]
    rfl

theorem scanNumber_literal (l : FloatLiteral) {rest : List Char} (hrest : Delimited rest) :
    scanNumber N (l.chars ++ rest) =
      (N.floatOf (String.ofList l.chars)).map fun x => (float x, rest) := by
  have hne : ¬(l.fraction = [] ∧ l.exponent = []) := fun h => l.ne_nil h.1 h.2
  simp only [scanNumber, FloatLiteral.chars, List.append_assoc, numberSign_literal,
    List.drop_left, numberDigits_literal l hrest, numberFraction_literal l hrest,
    numberExponent_literal l hrest, if_neg Nat.toDigits_ne_nil, if_neg hne]

theorem FloatLiteral.exists_eq_cons (l : FloatLiteral) :
    ∃ d s, isDigit d = true ∧ l.chars = l.sign ++ d :: s := by
  obtain ⟨d, s, hdigits⟩ :=
    List.exists_cons_of_ne_nil (Nat.toDigits_ne_nil (n := l.whole) (b := 10))
  have hd : isDigit d = true :=
    isDigit_of_mem_toDigits (n := l.whole) (by rw [hdigits]; exact List.mem_cons_self)
  exact ⟨d, s ++ (l.fraction ++ l.exponent), hd, by rw [chars, hdigits, List.cons_append]⟩

theorem floatstr_literal {x : F} {l : FloatLiteral} (h : N.floatText x = String.ofList l.chars) :
    floatstr N x = l.chars := by
  obtain ⟨d, s, hd, hchars⟩ := l.exists_eq_cons
  have hne (text : String) (hfirst : (text.toList.take 2).any isDigit = false) :
      N.floatText x ≠ text := by
    rintro rfl
    rw [h, String.toList_ofList, hchars] at hfirst
    rcases l.sign_eq with hsign | hsign
    · simp [hsign, hd] at hfirst
    · simp [hsign, hd] at hfirst
  unfold floatstr
  split
  · exact absurd ‹_› (hne _ (by decide))
  · exact absurd ‹_› (hne _ (by decide))
  · exact absurd ‹_› (hne _ (by decide))
  · rw [h, String.toList_ofList]

section

variable {p : F → Prop} (hN : FloatsReadBack N p)

include hN

theorem scanAtom_floatstr {x : F} (hx : p x) {rest : List Char} (hrest : Delimited rest) :
    scanAtom N (floatstr N x ++ rest) = some (float x, rest) := by
  have hread := hN.floatOf_floatText x hx
  rcases hN.floatText x hx with h | ⟨l, h⟩
  · rcases List.mem_cons.1 h with h | h
    · rw [h] at hread
      simp [floatstr, h, scanAtom, constants, hread]
    · rcases List.mem_pair.1 h with h | h
      · rw [h] at hread
        simp [floatstr, h, scanAtom, constants, hread]
      · rw [h] at hread
        simp [floatstr, h, scanAtom, constants, hread]
  · obtain ⟨d, s, hd, hchars⟩ := l.exists_eq_cons
    rw [h] at hread
    rw [floatstr_literal N h, hchars, List.append_assoc, List.cons_append,
      scanAtom_of_isDigit N l.sign_eq hd, ← List.cons_append, ← List.append_assoc, ← hchars,
      scanNumber_literal N l hrest, hread]
    rfl

theorem exists_floatstr_eq_cons {x : F} (hx : p x) :
    ∃ c s, floatstr N x = c :: s ∧ isWhitespace c = false ∧ c ∉ ['"', '[', '{', ']'] := by
  rcases hN.floatText x hx with h | ⟨l, h⟩
  · rcases List.mem_cons.1 h with h | h
    · exact ⟨'N', "aN".toList, by rw [floatstr, h]; rfl, rfl, by decide⟩
    · rcases List.mem_pair.1 h with h | h
      · exact ⟨'I', "nfinity".toList, by rw [floatstr, h]; rfl, rfl, by decide⟩
      · exact ⟨'-', "Infinity".toList, by rw [floatstr, h]; rfl, rfl, by decide⟩
  · obtain ⟨d, s, hd, hchars⟩ := l.exists_eq_cons
    rw [floatstr_literal N h, hchars]
    rcases l.sign_eq with hsign | hsign
    · have hne (c : Char) (hc : isDigit c = false) : d ≠ c := ne_of_isDigit hd hc
      exact ⟨d, s, by rw [hsign]; rfl, isWhitespace_of_isDigit hd, by simp [hne, isDigit]⟩
    · exact ⟨'-', d :: s, by rw [hsign]; rfl, rfl, by decide⟩

/-- A printed value starts with a character that neither ends a list nor is white space. -/
theorem exists_print_eq_cons {v : Json F} (hv : WellFormed p v) :
    ∃ c s, print N v = c :: s ∧ isWhitespace c = false ∧ c ≠ ']' := by
  cases hv with
  | null => exact ⟨'n', _, rfl, rfl, by decide⟩
  | bool b => cases b <;> exact ⟨_, _, rfl, rfl, by decide⟩
  | int n =>
      obtain ⟨sign, d, s, hsign, hd, hs⟩ := exists_toString_eq_append n
      rcases hsign with rfl | rfl
      · exact ⟨d, s, hs, isWhitespace_of_isDigit hd, ne_of_isDigit hd rfl⟩
      · exact ⟨'-', d :: s, hs, by decide⟩
  | float hx =>
      obtain ⟨c, s, hs, hspace, hc⟩ := exists_floatstr_eq_cons N hN hx
      exact ⟨c, s, hs, hspace, fun hclose => hc (by simp [hclose])⟩
  | str s => exact ⟨'"', _, rfl, rfl, by decide⟩
  | @list items h =>
      cases items with
      | nil => exact ⟨'[', _, rfl, rfl, by decide⟩
      | cons v vs => exact ⟨'[', _, rfl, rfl, by decide⟩
  | @dict items hkeys h =>
      cases items with
      | nil => exact ⟨'{', _, rfl, rfl, by decide⟩
      | cons item items => exact ⟨'{', _, rfl, rfl, by decide⟩
  | leaf truthy text => exact ⟨'"', _, rfl, rfl, by decide⟩

theorem print_ne_nil {v : Json F} (hv : WellFormed p v) : print N v ≠ [] := by
  obtain ⟨c, s, hs, -⟩ := exists_print_eq_cons N hN hv
  simp [hs]

theorem skip_print {v : Json F} (hv : WellFormed p v) (rest : List Char) :
    skip (print N v ++ rest) = print N v ++ rest := by
  obtain ⟨c, s, hs, hc, -⟩ := exists_print_eq_cons N hN hv
  rw [hs, List.cons_append, skip_of_not_isWhitespace hc]

end

/-! ### One step of the loops -/

theorem scanOnce_eq_scanAtom {c : Char} (hquote : c ≠ '"') (hlist : c ≠ '[') (hdict : c ≠ '{')
    (fuel : ℕ) (s : List Char) : scanOnce N (fuel + 1) (c :: s) = scanAtom N (c :: s) := by
  rw [scanOnce.eq_def]
  simp [hquote, hlist, hdict]

theorem scanOnce_list {c : Char} (hc : isWhitespace c = false) (hclose : c ≠ ']') (fuel : ℕ)
    (s : List Char) : scanOnce N (fuel + 1) ('[' :: c :: s) = scanItems N fuel [] (c :: s) := by
  rw [scanOnce.eq_def]
  simp [skip_of_not_isWhitespace hc, hclose]

theorem scanOnce_dict (fuel : ℕ) (k : String) (s : List Char) :
    scanOnce N (fuel + 1) ('{' :: (quoted k ++ s)) = scanMembers N fuel [] (quoted k ++ s) := by
  rw [scanOnce.eq_def]
  simp [quoted, skip_of_not_isWhitespace, isWhitespace]

theorem scanItems_of_close {fuel : ℕ} {items : List (Json F)} {v : Json F} {s rest : List Char}
    (h : scanOnce N fuel s = some (v, ']' :: rest)) :
    scanItems N (fuel + 1) items s = some (list (items ++ [v]), rest) := by
  simp [scanItems, h, skip_of_not_isWhitespace, isWhitespace]

theorem scanItems_of_comma (items : List (Json F)) {fuel : ℕ} {v : Json F} {s rest : List Char}
    (h : scanOnce N fuel s = some (v, ',' :: rest)) :
    scanItems N (fuel + 1) items s = scanItems N fuel (items ++ [v]) (skip rest) := by
  simp [scanItems, h, skip_of_not_isWhitespace, isWhitespace]

theorem scanMembers_of_close (items : List (String × Json F)) (k : String) {fuel : ℕ} {v : Json F}
    {s rest : List Char} (h : scanOnce N fuel (skip s) = some (v, '}' :: rest)) :
    scanMembers N (fuel + 1) items (quoted k ++ ':' :: s) =
      some (dict (Dict.set items k v), rest) := by
  simp [scanMembers, quoted, scanString_quoted, h, skip_of_not_isWhitespace, isWhitespace]

theorem scanMembers_of_comma (items : List (String × Json F)) (k : String) {fuel : ℕ} {v : Json F}
    {s rest : List Char} (h : scanOnce N fuel (skip s) = some (v, ',' :: rest)) :
    scanMembers N (fuel + 1) items (quoted k ++ ':' :: s) =
      scanMembers N fuel (Dict.set items k v) (skip rest) := by
  simp [scanMembers, quoted, scanString_quoted, h, skip_of_not_isWhitespace, isWhitespace]

/-! ### The values -/

def ReadsBack (v : Json F) : Prop :=
  ∀ fuel rest, (print N v).length ≤ fuel → Delimited rest →
    scanOnce N fuel (print N v ++ rest) = some (erase v, rest)

theorem readsBack_quoted {v : Json F} {s : String} (hprint : print N v = quoted s)
    (herase : erase v = str s) : ReadsBack N v := by
  intro fuel rest hfuel hrest
  rw [hprint] at hfuel ⊢
  obtain ⟨fuel, rfl⟩ := exists_fuel_eq_succ (by simp [quoted]) hfuel
  simp [quoted, scanOnce, scanString_quoted, herase]

theorem readsBack_int (n : ℤ) : ReadsBack N (int n : Json F) := by
  intro fuel rest hfuel hrest
  obtain ⟨fuel, rfl⟩ :=
    exists_fuel_eq_succ (print_ne_nil N (floatsReadBack_none N) (.int n)) hfuel
  obtain ⟨sign, d, s, hsign, hd, hs⟩ := exists_toString_eq_append n
  have hprint : print N (int n) = (toString n).toList := by rw [print]
  have herase : erase (int n : Json F) = int n := by simp [erase]
  rw [herase, hprint, ← scanAtom_toString N n hrest, hs]
  rcases hsign with rfl | rfl
  · exact scanOnce_eq_scanAtom N (ne_of_isDigit hd rfl) (ne_of_isDigit hd rfl)
      (ne_of_isDigit hd rfl) _ _
  · exact scanOnce_eq_scanAtom N (by decide) (by decide) (by decide) _ _

theorem set_of_nodup {items : List (String × Json F)} {k : String} {keys : List String}
    (h : (items.map Prod.fst ++ k :: keys).Nodup) (v : Json F) :
    Dict.set items k v = items ++ [(k, v)] :=
  Dict.set_of_notMem (fun hk => (List.nodup_append.1 h).2.2 k hk k (by simp) rfl) v

theorem skip_quoted (k : String) (rest : List Char) : skip (quoted k ++ rest) = quoted k ++ rest :=
  skip_of_not_isWhitespace rfl _

section

variable {p : F → Prop} (hN : FloatsReadBack N p)

include hN

theorem readsBack_float {x : F} (hx : p x) : ReadsBack N (float x) := by
  intro fuel rest hfuel hrest
  obtain ⟨fuel, rfl⟩ := exists_fuel_eq_succ (print_ne_nil N hN (.float hx)) hfuel
  obtain ⟨c, s, hs, -, hc⟩ := exists_floatstr_eq_cons N hN hx
  have hprint : print N (float x) = floatstr N x := by rw [print]
  have herase : erase (float x : Json F) = float x := by simp [erase]
  rw [herase, hprint, ← scanAtom_floatstr N hN hx hrest, hs]
  exact scanOnce_eq_scanAtom N (fun h => hc (by simp [h])) (fun h => hc (by simp [h]))
    (fun h => hc (by simp [h])) _ _

theorem scanItems_print {v : Json F} (vs : List (Json F)) (hv : ReadsBack N v)
    (hvs : ∀ w ∈ vs, WellFormed p w ∧ ReadsBack N w) (fuel : ℕ) (items : List (Json F))
    (rest : List Char) (hfuel : (print N v ++ printItems N vs).length ≤ fuel) :
    scanItems N fuel items (print N v ++ (printItems N vs ++ rest)) =
      some (list (items ++ erase v :: eraseItems vs), rest) := by
  induction vs generalizing v fuel items with
  | nil =>
      obtain ⟨fuel, rfl⟩ := exists_fuel_eq_succ (by simp [printItems]) hfuel
      have hread := hv fuel (']' :: rest) (by simpa [printItems] using hfuel) (by simp [Delimited])
      exact scanItems_of_close N hread
  | cons w ws ih =>
      obtain ⟨fuel, rfl⟩ := exists_fuel_eq_succ (by simp [printItems]) hfuel
      obtain ⟨hplain, hw⟩ := hvs w (by simp)
      have hread := hv fuel (',' :: ' ' :: (print N w ++ (printItems N ws ++ rest)))
        (by simp [printItems] at hfuel; omega) (by simp [Delimited])
      have hws := ih hw (fun x hx => hvs x (by simp [hx])) fuel (items ++ [erase v])
        (by simp [printItems] at hfuel ⊢; omega)
      have hstep := scanItems_of_comma N items hread
      rw [skip_space, skip_print N hN hplain, hws] at hstep
      simpa [printItems, eraseItems] using hstep

theorem scanMembers_print (k : String) {v : Json F} (members : List (String × Json F))
    (hv : WellFormed p v ∧ ReadsBack N v)
    (hmembers : ∀ item ∈ members, WellFormed p item.2 ∧ ReadsBack N item.2)
    (fuel : ℕ) (items : List (String × Json F)) (rest : List Char)
    (hkeys : (items.map Prod.fst ++ k :: members.map Prod.fst).Nodup)
    (hfuel : (quoted k ++ (": ".toList ++ (print N v ++ printMembers N members))).length ≤ fuel) :
    scanMembers N fuel items
        (quoted k ++ (": ".toList ++ (print N v ++ (printMembers N members ++ rest)))) =
      some (dict (items ++ (k, erase v) :: eraseMembers members), rest) := by
  induction members generalizing k v fuel items with
  | nil =>
      obtain ⟨fuel, rfl⟩ := exists_fuel_eq_succ (by simp [quoted]) hfuel
      have hread := hv.2 fuel ('}' :: rest) (by simp [quoted] at hfuel; omega) (by simp [Delimited])
      have hstep := scanMembers_of_close N items k
        (s := ' ' :: (print N v ++ '}' :: rest)) (by rwa [skip_space, skip_print N hN hv.1])
      rw [set_of_nodup hkeys] at hstep
      simpa [printMembers, eraseMembers] using hstep
  | cons item members ih =>
      obtain ⟨fuel, rfl⟩ := exists_fuel_eq_succ (by simp [quoted]) hfuel
      obtain ⟨k', w⟩ := item
      set next := quoted k' ++ (": ".toList ++ (print N w ++ (printMembers N members ++ rest)))
        with hnext
      have hread := hv.2 fuel (',' :: ' ' :: next) (by simp [quoted] at hfuel; omega)
        (by simp [Delimited])
      have hstep := scanMembers_of_comma N items k
        (s := ' ' :: (print N v ++ ',' :: ' ' :: next)) (by rwa [skip_space, skip_print N hN hv.1])
      have hmore := ih k' (hmembers (k', w) (by simp)) (fun x hx => hmembers x (by simp [hx]))
        fuel (items ++ [(k, erase v)]) (by simpa using hkeys)
        (by simp [printMembers, quoted] at hfuel ⊢; omega)
      rw [set_of_nodup hkeys, skip_space, skip_quoted, hmore] at hstep
      simpa [printMembers, eraseMembers, hnext] using hstep

theorem readsBack_of_wellFormed {v : Json F} (hv : WellFormed p v) : ReadsBack N v := by
  induction hv with
  | null =>
      intro fuel rest hfuel hrest
      obtain ⟨fuel, rfl⟩ := exists_fuel_eq_succ (print_ne_nil N hN .null) hfuel
      simp [print, erase, scanOnce, scanAtom, constants]
  | bool b =>
      intro fuel rest hfuel hrest
      obtain ⟨fuel, rfl⟩ := exists_fuel_eq_succ (print_ne_nil N hN (.bool b)) hfuel
      cases b
      all_goals simp [print, erase, scanOnce, scanAtom, constants]
  | int n => exact readsBack_int N n
  | float hx => exact readsBack_float N hN hx
  | str s => exact readsBack_quoted N (by rw [print]) (by simp [erase])
  | @list items h ih =>
      intro fuel rest hfuel hrest
      obtain ⟨fuel, rfl⟩ := exists_fuel_eq_succ (print_ne_nil N hN (.list h)) hfuel
      cases items with
      | nil => simp [print, scanOnce, erase, eraseItems, skip_of_not_isWhitespace, isWhitespace]
      | cons v vs =>
          obtain ⟨c, s, hc, hspace, hclose⟩ := exists_print_eq_cons N hN (h v (by simp))
          have hread := scanItems_print N hN vs (ih v (by simp))
            (fun w hw => ⟨h w (by simp [hw]), ih w (by simp [hw])⟩) fuel [] rest
            (by simpa [print] using hfuel)
          rw [hc, List.cons_append, ← scanOnce_list N hspace hclose, ← List.cons_append,
            ← hc] at hread
          simpa [print, erase, eraseItems] using hread
  | @dict items hkeys h ih =>
      intro fuel rest hfuel hrest
      obtain ⟨fuel, rfl⟩ := exists_fuel_eq_succ (print_ne_nil N hN (.dict hkeys h)) hfuel
      cases items with
      | nil => simp [print, scanOnce, erase, eraseMembers, skip_of_not_isWhitespace, isWhitespace]
      | cons item members =>
          obtain ⟨k, v⟩ := item
          have hread := scanMembers_print N hN k members
            ⟨h (k, v) (by simp), ih (k, v) (by simp)⟩
            (fun item hitem => ⟨h item (by simp [hitem]), ih item (by simp [hitem])⟩) fuel [] rest
            (by simpa using hkeys) (by simpa [print] using hfuel)
          rw [← scanOnce_dict] at hread
          simpa [print, erase, eraseMembers] using hread
  | leaf truthy text => exact readsBack_quoted N (by rw [print]) (by simp [erase])

theorem loads_dumps {v : Json F} (hv : WellFormed p v) :
    loads N (dumps N v) = some (erase v) := by
  have hread := readsBack_of_wellFormed N hN hv ((print N v).length + 1) [] (by omega)
    (by simp [Delimited])
  rw [List.append_nil] at hread
  have hskip := skip_print N hN hv []
  rw [List.append_nil] at hskip
  simp [loads, dumps, hskip, hread]

end

@[simp] theorem loads_empty : loads N "" = none := by
  simp [loads, scanOnce, scanAtom, constants, scanNumber, numberDigits]

mutual

theorem print_erase : ∀ v : Json F, print N (erase v) = print N v
  | null | bool _ | int _ | float _ | str _ => by simp [erase]
  | list [] => by simp [erase, eraseItems]
  | list (v :: vs) => by simp [erase, eraseItems, print, print_erase v, printItems_eraseItems vs]
  | dict [] => by simp [erase, eraseMembers]
  | dict ((k, v) :: items) => by
      simp [erase, eraseMembers, print, print_erase v, printMembers_eraseMembers items]
  | leaf _ _ => by simp [erase, print]

theorem printItems_eraseItems : ∀ vs : List (Json F),
    printItems N (eraseItems vs) = printItems N vs
  | [] => by simp [eraseItems]
  | v :: vs => by simp [eraseItems, printItems, print_erase v, printItems_eraseItems vs]

theorem printMembers_eraseMembers : ∀ items : List (String × Json F),
    printMembers N (eraseMembers items) = printMembers N items
  | [] => by simp [eraseMembers]
  | (k, v) :: items => by
      simp [eraseMembers, printMembers, print_erase v, printMembers_eraseMembers items]

end

end

end Json

end Python
