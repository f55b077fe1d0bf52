import Tugtainer.Python.Text

/-!
# Numbers

How Python reads numbers and writes them. The floating point numbers and the decimal digits
of Unicode are left open.
-/

namespace Python

def isDigit (c : Char) : Bool :=
  '0' ≤ c && c ≤ '9'

def isHexDigit (c : Char) : Bool :=
  isDigit c || ('a' ≤ c && c ≤ 'f') || ('A' ≤ c && c ≤ 'F')

/-- `int(digits)` of ASCII digits. -/
def decimal (digits : List Char) : ℕ :=
  digits.foldl (fun n c => 10 * n + (c.toNat - '0'.toNat)) 0

def hexDigitValue (c : Char) : ℕ :=
  if isDigit c then c.toNat - '0'.toNat else c.toLower.toNat - 'a'.toNat + 10

/-- `int(digits, 16)`. -/
def hexadecimal (digits : List Char) : ℕ :=
  digits.foldl (fun n c => 16 * n + hexDigitValue c) 0

theorem isDigit_eq (c : Char) : isDigit c = c.isDigit := rfl

theorem isSpace_of_isDigit {c : Char} (h : isDigit c = true) : isSpace c = false := by
  simp only [isDigit, Char.le_def, Bool.and_eq_true, decide_eq_true_eq, UInt32.le_iff_toNat_le] at h
  have h₀ : 48 ≤ c.toNat := h.1
  have h₉ : c.toNat ≤ 57 := h.2
  simp [isSpace]
  omega

theorem isDigit_of_mem_toDigits {n : ℕ} {c : Char} (h : c ∈ Nat.toDigits 10 n) :
    isDigit c = true := by
  rw [isDigit_eq]
  exact Nat.isDigit_of_mem_toDigits (by decide) (by decide) h

theorem decimal_toDigits (n : ℕ) : decimal (Nat.toDigits 10 n) = n := by
  rw [decimal, ← Nat.ofDigitChars_eq_foldl, Nat.ofDigitChars_ten_toDigits]

theorem head?_toDigits_ne {n : ℕ} (hn : 0 < n) : (Nat.toDigits 10 n).head? ≠ some '0' := by
  induction n using Nat.strongRecOn with
  | ind n ih =>
      by_cases hsmall : n < 10
      · rw [Nat.toDigits_of_lt_base hsmall]
        simp
        omega
      · have hdiv : 0 < n / 10 := by omega
        rw [Nat.toDigits_of_base_le (by decide) (by omega),
          List.head?_append_of_ne_nil _ Nat.toDigits_ne_nil]
        exact ih (n / 10) (by omega) hdiv

theorem toList_toString_int (n : ℤ) :
    (toString n).toList = if n < 0 then '-' :: Nat.toDigits 10 n.natAbs
      else Nat.toDigits 10 n.natAbs := by
  rw [Int.toString_eq_repr, Int.repr_eq_if]
  by_cases hn : 0 ≤ n
  · have habs : n.toNat = n.natAbs := by omega
    simp [hn, Int.not_lt.2 hn, habs]
  · have habs : (-n).toNat = n.natAbs := by omega
    simp [hn, Int.not_le.1 hn, habs]

theorem exists_toString_eq_append (n : ℤ) : ∃ sign d s, (sign = [] ∨ sign = ['-']) ∧
    isDigit d = true ∧ (toString n).toList = sign ++ d :: s := by
  obtain ⟨d, s, hdigits⟩ :=
    List.exists_cons_of_ne_nil (Nat.toDigits_ne_nil (n := n.natAbs) (b := 10))
  have hd : isDigit d = true := isDigit_of_mem_toDigits (hdigits ▸ List.mem_cons_self)
  rw [toList_toString_int, hdigits]
  split
  · exact ⟨['-'], d, s, .inr rfl, hd, rfl⟩
  · exact ⟨[], d, s, .inl rfl, hd, rfl⟩

theorem isDigit_or_eq_of_mem_toString {n : ℤ} {c : Char} (h : c ∈ (toString n).toList) :
    isDigit c = true ∨ c = '-' := by
  rw [toList_toString_int] at h
  split at h
  · rcases List.mem_cons.1 h with rfl | h
    · exact Or.inr rfl
    · exact Or.inl (isDigit_of_mem_toDigits h)
  · exact Or.inl (isDigit_of_mem_toDigits h)

/-- What the model leaves open of the numbers of Python: the floating point numbers, and the
decimal digits of Unicode. -/
structure Numerals (F : Type) where
  digit : Char → Option ℕ
  floatOf : String → Option F
  floatText : F → String
  isZero : F → Bool

/-- The digits of a number, which single underscores may separate. -/
def digitsOf (digit : Char → Option ℕ) : Bool → ℕ → List Char → Option ℕ
  | separated, n, [] => if separated then none else some n
  | separated, n, c :: s =>
      if c = '_' then if separated then none else digitsOf digit true n s
      else (digit c).bind fun d => digitsOf digit false (10 * n + d) s

/-- The white space that `int` allows around a number: that of C, and in a text that is not ASCII
everything for which `str.isspace` holds. -/
def isNumberSpace (s : String) : Char → Bool :=
  if s.toList.all (·.toNat < 128) then fun c => c == ' ' || (9 ≤ c.toNat && c.toNat ≤ 13)
  else isSpace

def numberText (s : String) : List Char :=
  (s.toList.dropWhile (isNumberSpace s)).rdropWhile (isNumberSpace s)

/-- `int(s)`, or `none` where it raises a `ValueError`. -/
def intOf (digit : Char → Option ℕ) (s : String) : Option ℤ :=
  match numberText s with
  | '-' :: digits => (digitsOf digit true 0 digits).map fun n : ℕ => -(n : ℤ)
  | '+' :: digits => (digitsOf digit true 0 digits).map fun n : ℕ => (n : ℤ)
  | digits => (digitsOf digit true 0 digits).map fun n : ℕ => (n : ℤ)

def asciiDigit (c : Char) : Option ℕ :=
  if isDigit c then some (c.toNat - '0'.toNat) else none

theorem digitsOf_asciiDigit {s : List Char} (hs : ∀ c ∈ s, isDigit c = true) {separated : Bool}
    (hne : s = [] → separated = false) (n : ℕ) :
    digitsOf asciiDigit separated n s =
      some (s.foldl (fun n c => 10 * n + (c.toNat - '0'.toNat)) n) := by
  induction s generalizing separated n with
  | nil => simp [digitsOf, hne rfl]
  | cons c s ih =>
      have hc : isDigit c = true := hs c (by simp)
      have hsep : c ≠ '_' := by
        rintro rfl
        exact absurd hc (by decide)
      rw [digitsOf, if_neg hsep, asciiDigit, if_pos hc]
      exact ih (fun d hd => hs d (by simp [hd])) (fun _ => rfl) _

theorem digitsOf_toDigits (n : ℕ) :
    digitsOf asciiDigit true 0 (Nat.toDigits 10 n) = some n := by
  rw [digitsOf_asciiDigit (fun c hc => isDigit_of_mem_toDigits hc)
    (fun hnil => absurd hnil Nat.toDigits_ne_nil)]
  exact congrArg some (decimal_toDigits n)

theorem isNumberSpace_eq_false {c : Char} (h : isSpace c = false) (s : String) :
    isNumberSpace s c = false := by
  unfold isNumberSpace
  split
  · simp only [isSpace, Bool.or_eq_false_iff, Bool.and_eq_false_iff, decide_eq_false_iff_not] at h
    simp only [Bool.or_eq_false_iff, Bool.and_eq_false_iff, decide_eq_false_iff_not,
      beq_eq_false_iff_ne]
    refine ⟨?_, by omega⟩
    rintro rfl
    exact absurd h (by decide)
  · exact h

/-- `int(str(n))` is `n`. -/
theorem intOf_toString (n : ℤ) : intOf asciiDigit (toString n) = some n := by
  have htext : numberText (toString n) = (toString n).toList := by
    refine rdropWhile_dropWhile_of_forall_not fun c hc => isNumberSpace_eq_false ?_ _
    rcases isDigit_or_eq_of_mem_toString hc with hdigit | rfl
    · exact isSpace_of_isDigit hdigit
    · decide
  rw [intOf, htext, toList_toString_int]
  by_cases hn : n < 0
  · have habs : -((n.natAbs : ℕ) : ℤ) = n := by omega
    simpa [hn, digitsOf_toDigits] using habs
  · have habs : ((n.natAbs : ℕ) : ℤ) = n := by omega
    have hfirst : ∀ c digits, Nat.toDigits 10 n.natAbs = c :: digits → isDigit c = true :=
      fun c digits h => isDigit_of_mem_toDigits (h ▸ List.mem_cons_self)
    rw [if_neg hn]
    split
    · exact absurd (hfirst _ _ ‹_›) (by decide)
    · exact absurd (hfirst _ _ ‹_›) (by decide)
    · rw [digitsOf_toDigits, Option.map_some, habs]

/-! ## The limit on digits -/

/-- The most digits that an integer may have where it is read from a text or written as one. -/
def maxStrDigits : ℕ := 4300

/-- `int(s)`, or `none` where it raises a `ValueError`, also for too many digits. -/
def limitedIntOf (digit : Char → Option ℕ) (s : String) : Option ℤ :=
  if maxStrDigits < s.toList.countP fun c => (digit c).isSome then none else intOf digit s

/-- Whether `str(n)` returns. -/
def isPrintable (n : ℤ) : Bool :=
  (Nat.toDigits 10 n.natAbs).length ≤ maxStrDigits

theorem limitedIntOf_eq_some {digit : Char → Option ℕ} {s : String} {n : ℤ}
    (h : limitedIntOf digit s = some n) : intOf digit s = some n := by
  unfold limitedIntOf at h
  split at h
  · cases h
  · exact h

theorem digitsOf_congr {digit digit' : Char → Option ℕ} {s : List Char}
    (h : ∀ c ∈ s, digit c = digit' c) (separated : Bool) (n : ℕ) :
    digitsOf digit separated n s = digitsOf digit' separated n s := by
  induction s generalizing separated n with
  | nil => rfl
  | cons c s ih =>
      have hs : ∀ d ∈ s, digit d = digit' d := fun d hd => h d (by simp [hd])
      simp only [digitsOf, h c (by simp), ih hs]

theorem intOf_congr {digit digit' : Char → Option ℕ} {s : String}
    (h : ∀ c ∈ s.toList, digit c = digit' c) : intOf digit s = intOf digit' s := by
  have htext : ∀ c ∈ numberText s, digit c = digit' c := fun c hc =>
    h c (mem_of_mem_rdropWhile_dropWhile hc)
  have htail {sign : Char} {digits : List Char} (heq : numberText s = sign :: digits) :
      ∀ c ∈ digits, digit c = digit' c := fun c hc => htext c (heq ▸ List.mem_cons_of_mem _ hc)
  unfold intOf
  split
  · rw [digitsOf_congr (htail ‹_›)]
  · rw [digitsOf_congr (htail ‹_›)]
  · rw [digitsOf_congr htext]

end Python
