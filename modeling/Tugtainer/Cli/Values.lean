import Mathlib.Algebra.Group.Int.Defs
import Tugtainer.Python.Numerals
import Tugtainer.Python.Dict

/-!
# The values of options

How a command line client reads a value that is one record of comma separated fields, a
count, or a list of keys with values.
-/

namespace Cli

open Python

/-! ## Records -/

/-- Where a record is read: at the start of a field, in one without quotes, in quotes, or
after a quote in them. -/
inductive Place
  | start
  | bare
  | quoted
  | closing
  deriving DecidableEq, Repr

def push (c : Char) (read : List Char × List (List Char)) : List Char × List (List Char) :=
  (c :: read.1, read.2)

/-- The field that is read ends, and the others follow. -/
def next (read : List Char × List (List Char)) : List Char × List (List Char) :=
  ([], read.1 :: read.2)

/-- The rest of the field that is read, and the fields after it. A record ends with its
line. -/
def fieldsFrom : Place → List Char → Option (List Char × List (List Char))
  | .quoted, [] => none
  | _, [] => some ([], [])
  | .quoted, c :: cs =>
      if c = '"' then fieldsFrom .closing cs else (fieldsFrom .quoted cs).map (push c)
  | .closing, c :: cs =>
      -- a quote is doubled to stand for itself
      if c = '"' then (fieldsFrom .quoted cs).map (push c)
      else if c = ',' then (fieldsFrom .start cs).map next
      else if c = '\n' then some ([], [])
      else none
  | place, c :: cs =>
      if c = '"' then if place = .start then fieldsFrom .quoted cs else none
      else if c = ',' then (fieldsFrom .start cs).map next
      else if c = '\n' then some ([], [])
      else (fieldsFrom .bare cs).map (push c)

/-- The fields of the first record; empty lines are skipped. -/
def record (value : String) : Option (List String) :=
  match value.toList.dropWhile (· == '\n') with
  | [] => none
  | c :: cs => (fieldsFrom .start (c :: cs)).map fun read =>
      (read.1 :: read.2).map String.ofList

example : record "a,\"b,\"\"c\"\"\",,d" = some ["a", "b,\"c\"", "", "d"] := by decide

example : record "a\"b" = none := by decide

/-- What stands after a text in quotes: their end, or a comma that belongs to them. -/
def Ends (t : List Char) : Prop :=
  t = ['"'] ∨ ∃ u, t = ',' :: u

theorem ends_append_singleton {t : List Char} (h : t = [] ∨ ∃ u, t = ',' :: u) :
    Ends (t ++ ['"']) := by
  rcases h with rfl | ⟨u, rfl⟩
  · exact .inl rfl
  · exact .inr ⟨u ++ ['"'], rfl⟩

section Quoted

variable {s t : List Char} {read : List Char × List (List Char)}

theorem fieldsFrom_quoted_cons {c : Char} (hc : c ≠ '"') (cs : List Char) :
    fieldsFrom .quoted (c :: cs) = (fieldsFrom .quoted cs).map (push c) := by
  simp [fieldsFrom, hc]

theorem fieldsFrom_quoted_quote_quote (cs : List Char) :
    fieldsFrom .quoted ('"' :: '"' :: cs) = (fieldsFrom .quoted cs).map (push '"') := by
  simp [fieldsFrom]

theorem fieldsFrom_quoted_append (hs : '"' ∉ s) (t : List Char) :
    fieldsFrom .quoted (s ++ t) =
      (fieldsFrom .quoted t).map fun read => (s ++ read.1, read.2) := by
  induction s with
  | nil => simp
  | cons c s ih =>
      obtain ⟨hc, hs⟩ := not_or.1 (mt List.mem_cons.2 hs)
      rw [List.cons_append, fieldsFrom_quoted_cons (Ne.symm hc), ih hs, Option.map_map]
      rfl

theorem exists_of_fieldsFrom_quoted_eq_quote {cs f : List Char} {more : List (List Char)}
    (h : fieldsFrom .quoted cs = some ('"' :: f, more)) :
    ∃ cs', cs = '"' :: '"' :: cs' ∧ fieldsFrom .quoted cs' = some (f, more) := by
  have hpush {c : Char} {o : Option (List Char × List (List Char))}
      (ho : o.map (push c) = some ('"' :: f, more)) : c = '"' ∧ o = some (f, more) := by
    obtain ⟨⟨f', more'⟩, rfl, hread⟩ := Option.map_eq_some_iff.1 ho
    simp only [push, Prod.mk.injEq, List.cons.injEq] at hread
    exact ⟨hread.1.1, by rw [hread.1.2, hread.2]⟩
  cases cs with
  | nil => cases h
  | cons c cs =>
      by_cases hc : c = '"'
      · subst hc
        cases cs with
        | nil => cases h
        | cons d cs =>
            by_cases hd : d = '"'
            · subst hd
              rw [fieldsFrom_quoted_quote_quote] at h
              exact ⟨cs, rfl, (hpush h).2⟩
            · -- the quote is the end of an empty field
              simp only [fieldsFrom, hd, if_true, if_false] at h
              split at h
              · obtain ⟨_, -, hread⟩ := Option.map_eq_some_iff.1 h
                cases hread
              · split at h <;> cases h
      · rw [fieldsFrom_quoted_cons hc] at h
        exact absurd (hpush h).1 hc

theorem fieldsFrom_quoted_singleton_ne (ht : Ends t) (c : Char) (f : List Char)
    (more : List (List Char)) : fieldsFrom .quoted (c :: t) ≠ some ('"' :: f, more) := by
  intro h
  obtain ⟨cs, hcs, hread⟩ := exists_of_fieldsFrom_quoted_eq_quote h
  rcases ht with rfl | ⟨u, rfl⟩
  · obtain rfl : cs = [] := by simpa using (List.cons.inj (List.cons.inj hcs).2).2.symm
    cases hread
  · simp at hcs

theorem fieldsFrom_quoted_ne_replicate (ht : Ends t) (k : ℕ) (more : List (List Char)) :
    fieldsFrom .quoted (s ++ t) ≠ some (List.replicate (k + 1) '"' ++ s, more) := by
  -- each quote in front was a doubled one, so there would be more of them further on
  induction s using List.twoStepInduction generalizing k with
  | nil =>
      intro h
      obtain ⟨cs, hcs, -⟩ := exists_of_fieldsFrom_quoted_eq_quote h
      rcases ht with rfl | ⟨u, rfl⟩ <;> simp at hcs
  | singleton c => exact fieldsFrom_quoted_singleton_ne ht c _ more
  | cons_cons c d s ih _ =>
      intro h
      obtain ⟨cs, hcs, hread⟩ := exists_of_fieldsFrom_quoted_eq_quote h
      simp only [List.cons_append, List.cons.injEq] at hcs
      obtain ⟨rfl, rfl, rfl⟩ := hcs
      refine ih (k + 1) ?_
      rw [hread]
      simp [List.replicate_succ']

/-- A text that is read as it is from quotes is the whole of what stands in them. -/
theorem eq_of_fieldsFrom_quoted (ht : Ends t) {more : List (List Char)}
    (h : fieldsFrom .quoted (s ++ t) = some (s, more)) : t = ['"'] ∧ more = [] := by
  induction s with
  | nil =>
      rcases ht with rfl | ⟨u, rfl⟩
      · obtain ⟨-, rfl⟩ := Prod.mk.inj (Option.some.inj h)
        exact ⟨rfl, rfl⟩
      · rw [List.nil_append, fieldsFrom_quoted_cons (by decide)] at h
        obtain ⟨_, -, hread⟩ := Option.map_eq_some_iff.1 h
        cases hread
  | cons c s ih =>
      by_cases hc : c = '"'
      · subst hc
        cases s with
        | nil => exact absurd h (fieldsFrom_quoted_singleton_ne ht '"' [] more)
        | cons d s =>
            obtain ⟨cs, hcs, hread⟩ := exists_of_fieldsFrom_quoted_eq_quote h
            simp only [List.cons_append, List.cons.injEq, true_and] at hcs
            obtain ⟨rfl, rfl⟩ := hcs
            exact absurd hread (fieldsFrom_quoted_ne_replicate ht 0 more)
      · rw [List.cons_append, fieldsFrom_quoted_cons hc] at h
        obtain ⟨⟨f, more'⟩, hread, heq⟩ := Option.map_eq_some_iff.1 h
        obtain ⟨⟨-, rfl⟩, rfl⟩ : (c = c ∧ f = s) ∧ more' = more := by simpa [push] using heq
        exact ih hread

theorem record_of_toList_eq {value : String} {cs : List Char} (h : value.toList = '"' :: cs) :
    record value = (fieldsFrom .quoted cs).map fun read =>
      (read.1 :: read.2).map String.ofList := by
  simp [record, h, fieldsFrom]

end Quoted

/-! ## Counts -/

def readSign : List Char → Bool × List Char
  | '-' :: digits => (true, digits)
  | '+' :: digits => (false, digits)
  | digits => (false, digits)

/-- A number in decimal digits, with a sign or without, that fits in 64 bits. -/
def atoi (s : String) : Option ℤ :=
  let (negative, digits) := readSign s.toList
  if digits ≠ [] ∧ digits.all isDigit = true then
    let n : ℤ := if negative then -decimal digits else decimal digits
    if -2 ^ 63 ≤ n ∧ n < 2 ^ 63 then some n else none
  else none

example : atoi "-12" = some (-12) := by decide

theorem mem_snd_readSign {c d : Char} {cs : List Char} (h : d ∈ cs) :
    d ∈ (readSign (c :: cs)).2 := by
  unfold readSign
  split
  next heq => exact (List.cons.inj heq).2 ▸ h
  next heq => exact (List.cons.inj heq).2 ▸ h
  next => exact List.mem_cons_of_mem c h

theorem isDigit_of_atoi {s : String} {c d : Char} {cs : List Char} {n : ℤ}
    (hs : s.toList = c :: cs) (hn : atoi s = some n) (hd : d ∈ cs) : isDigit d = true := by
  simp only [atoi, hs] at hn
  split at hn
  next hall => exact List.all_eq_true.1 hall.2 d (mem_snd_readSign hd)
  next => cases hn

/-! ## Keys with values -/

/-- Keys with values; a key without one has the empty text. -/
def keyValues (fields : List String) : Dict String String :=
  fields.foldl (fun d field => d.set (split1 field '=').1 ((split1 field '=').2.getD "")) []

end Cli
