import Mathlib.Algebra.Ring.Nat
import Tugtainer.Python.Text

/-!
# The words of a shell

How a shell splits a text at blanks, with quotes and backslashes. A text that is more than
words, or whose words depend on variables and files, has none here. Texts that are joined
with blanks are split into these again where none of them has anything to quote:
`words_join_iff`.
-/

namespace Cli

open Python

/-! ## Splitting -/

/-- Where a text is read: between words, in a word, after a backslash, in single quotes, in
double quotes, or after a backslash in these. -/
inductive Mode
  | between
  | bare
  | escaped
  | single
  | double
  | doubleEscaped
  deriving DecidableEq, Repr

/-- What a character does outside quotes. -/
inductive Role
  | blank
  | opens (mode : Mode)
  | operator
  | plain
  deriving DecidableEq, Repr

def apostrophe : Char := Char.ofNat 39

def role (c : Char) : Role :=
  if c = ' ' ∨ c = '\t' then .blank
  else if c = '\\' then .opens .escaped
  else if c = apostrophe then .opens .single
  else if c = '"' then .opens .double
  else if c ∈ "|&;<>()\n".toList then .operator
  else .plain

/-- A character of a word, and whether it is kept from being expanded. -/
abbrev Mark := Char × Bool

def pushMark (m : Mark) (read : List Mark × List (List Mark)) : List Mark × List (List Mark) :=
  (m :: read.1, read.2)

def newWord (read : List Mark × List (List Mark)) : List Mark × List (List Mark) :=
  ([], read.1 :: read.2)

def wordsFrom : Mode → List Char → Option (List Mark × List (List Mark))
  | mode, [] => if mode = .between ∨ mode = .bare then some ([], []) else none
  | .between, c :: cs =>
      match role c with
      | .blank => wordsFrom .between cs
      | .opens mode => (wordsFrom mode cs).map newWord
      | .operator => none
      | .plain =>
          -- a comment
          if c = '#' then none
          else ((wordsFrom .bare cs).map (pushMark (c, false))).map newWord
  | .bare, c :: cs =>
      match role c with
      | .blank => wordsFrom .between cs
      | .opens mode => wordsFrom mode cs
      | .operator => none
      | .plain => (wordsFrom .bare cs).map (pushMark (c, false))
  | .escaped, c :: cs =>
      if c = '\n' then none else (wordsFrom .bare cs).map (pushMark (c, true))
  | .single, c :: cs =>
      if c = apostrophe then wordsFrom .bare cs
      else (wordsFrom .single cs).map (pushMark (c, true))
  | .double, c :: cs =>
      if c = '"' then wordsFrom .bare cs
      else if c = '\\' then wordsFrom .doubleEscaped cs
      else (wordsFrom .double cs).map (pushMark (c, c ∉ "$`".toList))
  | .doubleEscaped, c :: cs =>
      if c = '\n' then none
      else if c ∈ "$`\"\\".toList then (wordsFrom .double cs).map (pushMark (c, true))
      else ((wordsFrom .double cs).map (pushMark (c, true))).map (pushMark ('\\', true))

def hasBrackets : List Mark → Bool
  | [] => false
  | m :: word =>
      (m == ('[', false) &&
        ((if word.head? = some ('!', false) then word.drop 2 else word.drop 1).any
          (· == (']', false)))) || hasBrackets word

/-- What the shell makes of the word depends on variables, commands, users or files. -/
def isExpanded (word : List Mark) : Bool :=
  word.head? == some ('~', false) || hasBrackets word ||
    word.any fun m => "$`*?".toList.contains m.1 && !m.2

def literal (word : List Mark) : Option String :=
  if isExpanded word then none else some (String.ofList (word.map Prod.fst))

/-- The words of a text. -/
def words (s : String) : Option (List String) :=
  (wordsFrom .between s.toList).bind fun read => read.2.mapM literal

example : words "a 'b c'  \"d\\\"$\"e" = none := by decide

example : words "a 'b $c'  \"d\\\"\"e [ -f f ]" =
    some ["a", "b $c", "d\"e", "[", "-f", "f", "]"] := by decide

/-! ## Words without quotes -/

def unquoted (s : String) : List Mark :=
  s.toList.map (·, false)

/-- The text has nothing to quote. -/
structure IsPlainWord (s : String) : Prop where
  nonempty : s ≠ ""
  plain : ∀ c ∈ s.toList, role c = .plain
  comment : s.toList.head? ≠ some '#'
  kept : isExpanded (unquoted s) = false

section Plain

variable {s t : List Char} {read : List Mark × List (List Mark)}

theorem wordsFrom_bare_append (hs : ∀ c ∈ s, role c = .plain) (t : List Char) :
    wordsFrom .bare (s ++ t) =
      (wordsFrom .bare t).map fun read => (s.map (·, false) ++ read.1, read.2) := by
  induction s with
  | nil => simp
  | cons c s ih =>
      have hc := hs c List.mem_cons_self
      rw [List.cons_append, wordsFrom, hc]
      simp only [ih fun c hmem => hs c (List.mem_cons_of_mem _ hmem), Option.map_map]
      rfl

theorem wordsFrom_between_append {a : String} (ha : IsPlainWord a) (t : List Char) :
    wordsFrom .between (a.toList ++ t) =
      (wordsFrom .bare t).map fun read => ([], (unquoted a ++ read.1) :: read.2) := by
  have hne : a.toList ≠ [] := by simpa using ha.nonempty
  obtain ⟨c, s, hchars⟩ := List.exists_cons_of_ne_nil hne
  have hplain := ha.plain
  have hcomment := ha.comment
  rw [hchars] at hplain hcomment
  have hhash : c ≠ '#' := by simpa using hcomment
  rw [unquoted, hchars, List.cons_append, wordsFrom, hplain c List.mem_cons_self]
  simp only [if_neg hhash, Option.map_map,
    wordsFrom_bare_append fun c hmem => hplain c (List.mem_cons_of_mem _ hmem)]
  rfl

theorem toList_join_blank (a b : String) (args : List String) :
    (join " " (a :: b :: args)).toList = a.toList ++ ' ' :: (join " " (b :: args)).toList := by
  simp [toList_join]

theorem wordsFrom_join {args : List String} (hargs : ∀ a ∈ args, IsPlainWord a) :
    wordsFrom .between (join " " args).toList = some ([], args.map unquoted) := by
  induction args with
  | nil => rfl
  | cons a args ih =>
      have ha := hargs a List.mem_cons_self
      have hrest := ih fun b hb => hargs b (List.mem_cons_of_mem _ hb)
      cases args with
      | nil =>
          have htext : (join " " [a]).toList = a.toList ++ [] := by simp [join]
          rw [htext, wordsFrom_between_append ha]
          simp [wordsFrom]
      | cons b args =>
          have hblank (cs : List Char) : wordsFrom .bare (' ' :: cs) = wordsFrom .between cs := rfl
          rw [toList_join_blank, wordsFrom_between_append ha, hblank, hrest]
          simp

end Plain

/-! ## The length of the words -/

/-- The length of the words, with one more for each. -/
def size (read : List Mark × List (List Mark)) : ℕ :=
  read.1.length + (read.2.map fun word => word.length + 1).sum

@[simp] theorem size_pushMark (m : Mark) (read : List Mark × List (List Mark)) :
    size (pushMark m read) = size read + 1 := by
  simp only [size, pushMark, List.length_cons]
  omega

@[simp] theorem size_newWord (read : List Mark × List (List Mark)) :
    size (newWord read) = size read + 1 := by
  simp only [size, newWord, List.length_nil, List.map_cons, List.sum_cons]
  omega

/-- What a text must be longer for than its words: the blank before a word, and the quote
that is still to come. -/
def Mode.debt : Mode → ℕ
  | .between => 0
  | .bare => 1
  | .escaped => 1
  | .single => 2
  | .double => 2
  | .doubleEscaped => 1

section Length

variable {mode : Mode} {cs : List Char} {read : List Mark × List (List Mark)}

theorem one_le_debt_of_role {c : Char} (h : role c = .opens mode) : 1 ≤ mode.debt := by
  unfold role at h
  split_ifs at h <;> cases h <;> decide

theorem size_le (h : wordsFrom mode cs = some read) : size read + mode.debt ≤ cs.length + 1 := by
  induction cs generalizing mode read with
  | nil => cases mode <;> cases h <;> decide
  | cons c cs ih =>
      -- a character of a word comes from at least one of the text
      have hpush {mode' : Mode} {m : Mark} {read' : List Mark × List (List Mark)}
          (h : (wordsFrom mode' cs).map (pushMark m) = some read') :
          size read' + mode'.debt ≤ cs.length + 2 := by
        obtain ⟨rest, hrest, rfl⟩ := Option.map_eq_some_iff.1 h
        have hle := ih hrest
        rw [size_pushMark]
        omega
      rw [List.length_cons]
      cases mode with
      | between =>
          rw [wordsFrom] at h
          split at h
          · exact (ih h).trans (Nat.le_succ _)
          next mode' hrole =>
            obtain ⟨rest, hrest, rfl⟩ := Option.map_eq_some_iff.1 h
            have hle := ih hrest
            have hdebt := one_le_debt_of_role hrole
            rw [size_newWord, Mode.debt]
            omega
          · cases h
          · split at h
            · cases h
            · obtain ⟨rest, hrest, rfl⟩ := Option.map_eq_some_iff.1 h
              have hle := hpush hrest
              rw [size_newWord]
              simp only [Mode.debt] at hle ⊢
              omega
      | bare =>
          rw [wordsFrom] at h
          split at h
          · have hle := ih h
            simp only [Mode.debt] at hle ⊢
            omega
          next mode' hrole =>
            have hle := ih h
            have hdebt := one_le_debt_of_role hrole
            simp only [Mode.debt]
            omega
          · cases h
          · exact hpush h
      | escaped =>
          rw [wordsFrom] at h
          split at h
          · cases h
          · have hle := hpush h
            exact hle
      | single =>
          rw [wordsFrom] at h
          split at h
          · have hle := ih h
            simp only [Mode.debt] at hle ⊢
            omega
          · exact hpush h
      | double =>
          rw [wordsFrom] at h
          split at h
          · have hle := ih h
            simp only [Mode.debt] at hle ⊢
            omega
          · split at h
            · have hle := ih h
              simp only [Mode.debt] at hle ⊢
              omega
            · exact hpush h
      | doubleEscaped =>
          rw [wordsFrom] at h
          split at h
          · cases h
          · split at h
            · have hle := hpush h
              simp only [Mode.debt] at hle ⊢
              omega
            · obtain ⟨rest, hrest, rfl⟩ := Option.map_eq_some_iff.1 h
              have hle := hpush hrest
              rw [size_pushMark]
              simp only [Mode.debt] at hle ⊢
              omega

/-- The word was read outside quotes. -/
structure IsBare (word : List Mark) : Prop where
  nonempty : word ≠ []
  bare : ∀ m ∈ word, m.2 = false ∧ role m.1 = .plain
  comment : word.head? ≠ some ('#', false)

theorem bare_of_size_eq (h : wordsFrom mode cs = some read)
    (hsize : size read + mode.debt = cs.length + 1) (hmode : mode = .between ∨ mode = .bare) :
    (∀ m ∈ read.1, m.2 = false ∧ role m.1 = .plain) ∧ ∀ word ∈ read.2, IsBare word := by
  induction cs generalizing mode read with
  | nil =>
      have hread : read = ([], []) := by
        rcases hmode with rfl | rfl <;> exact (Option.some.inj h).symm
      simp [hread]
  | cons c cs ih =>
      rw [List.length_cons] at hsize
      rcases hmode with rfl | rfl
      · rw [wordsFrom] at h
        simp only [Mode.debt] at hsize
        split at h
        · have hle := size_le h
          simp only [Mode.debt] at hle
          omega
        next mode' hrole =>
          obtain ⟨rest, hrest, rfl⟩ := Option.map_eq_some_iff.1 h
          have hle := size_le hrest
          have hdebt := one_le_debt_of_role hrole
          rw [size_newWord] at hsize
          omega
        · cases h
        next hrole =>
          split at h
          · cases h
          next hhash =>
            rw [Option.map_map] at h
            obtain ⟨rest, hrest, rfl⟩ := Option.map_eq_some_iff.1 h
            rw [Function.comp_apply, size_newWord, size_pushMark] at hsize
            obtain ⟨hfirst, hwords⟩ := ih hrest (by simp only [Mode.debt]; omega) (.inr rfl)
            refine ⟨by simp [newWord], List.forall_mem_cons.2 ⟨?_, hwords⟩⟩
            exact
              { nonempty := by simp [pushMark]
                bare := List.forall_mem_cons.2 ⟨⟨rfl, hrole⟩, hfirst⟩
                comment := by simpa [pushMark] using hhash }
      · rw [wordsFrom] at h
        simp only [Mode.debt] at hsize
        split at h
        · exact ih h (by simp only [Mode.debt]; omega) (.inl rfl)
        next mode' hrole =>
          have hle := size_le h
          have hdebt := one_le_debt_of_role hrole
          omega
        · cases h
        next hrole =>
          obtain ⟨rest, hrest, rfl⟩ := Option.map_eq_some_iff.1 h
          rw [size_pushMark] at hsize
          obtain ⟨hfirst, hwords⟩ := ih hrest (by simp only [Mode.debt]; omega) (.inr rfl)
          exact ⟨List.forall_mem_cons.2 ⟨⟨rfl, hrole⟩, hfirst⟩, hwords⟩

end Length

/-! ## Joining and splitting -/

theorem literal_eq_some {word : List Mark} {s : String} :
    literal word = some s ↔ isExpanded word = false ∧ String.ofList (word.map Prod.fst) = s := by
  unfold literal
  split
  next h => simp [h]
  next h => simp [Bool.not_eq_true _ ▸ h]

theorem literal_unquoted {s : String} (h : isExpanded (unquoted s) = false) :
    literal (unquoted s) = some s :=
  literal_eq_some.2 ⟨h, by simp [unquoted, Function.comp_def]⟩

theorem IsBare.isPlainWord {word : List Mark} {s : String} (h : IsBare word)
    (hs : literal word = some s) : IsPlainWord s := by
  obtain ⟨hkept, rfl⟩ := literal_eq_some.1 hs
  have hunquoted : unquoted (String.ofList (word.map Prod.fst)) = word := by
    rw [unquoted, String.toList_ofList, List.map_map]
    have hmap : word.map ((·, false) ∘ Prod.fst) = word.map id :=
      List.map_congr_left fun m hm => Prod.ext rfl (h.bare m hm).1.symm
    rw [hmap, List.map_id]
  refine ⟨?_, ?_, ?_, by rwa [hunquoted]⟩
  · simpa using h.nonempty
  · intro c hc
    obtain ⟨m, hm, rfl⟩ := List.mem_map.1 (String.toList_ofList ▸ hc)
    exact (h.bare m hm).2
  · intro hhash
    have hcomment := h.comment
    rw [← hunquoted, unquoted, List.head?_map, hhash] at hcomment
    exact hcomment rfl

theorem mapM_eq_some_iff {α β : Type} {f : α → Option β} {l : List α} {l' : List β} :
    l.mapM f = some l' ↔ l.map f = l'.map some := by
  induction l generalizing l' with
  | nil =>
      cases l' <;> simp
  | cons a l ih =>
      rw [List.mapM_cons, List.map_cons]
      cases ha : f a with
      | none => cases l' <;> simp
      | some b =>
          cases l' with
          | nil => simp [Option.bind_eq_some_iff]
          | cons b' l' => simp [Option.bind_eq_some_iff, ← ih, and_comm]

theorem length_toList_join {args : List String} (hne : args ≠ []) :
    (join " " args).toList.length + 1 = (args.map fun a => a.toList.length + 1).sum := by
  induction args with
  | nil => exact absurd rfl hne
  | cons a args ih =>
      cases args with
      | nil => simp [join]
      | cons b args =>
          rw [toList_join_blank, List.map_cons, List.sum_cons, ← ih (List.cons_ne_nil b args)]
          simp only [List.length_append, List.length_cons]
          omega

theorem map_length_of_map_literal {ws : List (List Mark)} {args : List String}
    (h : ws.map literal = args.map some) :
    ws.map (fun word => word.length + 1) = args.map fun a => a.toList.length + 1 := by
  induction ws generalizing args with
  | nil => cases args with
    | nil => rfl
    | cons a args => cases h
  | cons word ws ih =>
      cases args with
      | nil => cases h
      | cons a args =>
          obtain ⟨hword, hrest⟩ := List.cons.inj h
          obtain ⟨-, rfl⟩ := literal_eq_some.1 hword
          rw [List.map_cons, List.map_cons, ih hrest]
          simp

theorem words_join_iff (args : List String) :
    words (join " " args) = some args ↔ ∀ a ∈ args, IsPlainWord a := by
  constructor
  · intro h
    by_cases hne : args = []
    · simp [hne]
    · obtain ⟨read, hread, hargs⟩ := Option.bind_eq_some_iff.1 h
      have hliteral := mapM_eq_some_iff.1 hargs
      have hsum : (read.2.map fun word => word.length + 1).sum =
          (join " " args).toList.length + 1 := by
        rw [map_length_of_map_literal hliteral, length_toList_join hne]
      have hle := size_le hread
      have hsize : size read + Mode.debt .between = (join " " args).toList.length + 1 := by
        simp only [size, Mode.debt] at hle ⊢
        omega
      intro a ha
      obtain ⟨word, hword, hwa⟩ := List.mem_map.1
        (hliteral ▸ List.mem_map_of_mem ha : some a ∈ read.2.map literal)
      exact ((bare_of_size_eq hread hsize (.inl rfl)).2 word hword).isPlainWord hwa
  · intro hargs
    rw [words, wordsFrom_join hargs, Option.bind_some, mapM_eq_some_iff, List.map_map]
    exact List.map_congr_left fun a ha => literal_unquoted (hargs a ha).kept

end Cli
