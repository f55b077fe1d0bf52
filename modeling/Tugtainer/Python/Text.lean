import Mathlib.Data.List.DropRight

/-!
# Strings

The string methods of Python that the backend uses, computed on lists of characters
so that they evaluate. `strip` removes the characters for which `str.isspace` holds,
and `lower` is only ever compared with ASCII words, which no other letter maps to.
-/

namespace Python

/-- `str.isspace` of one character. -/
def isSpace (c : Char) : Bool :=
  let n := c.toNat
  (9 ≤ n && n ≤ 13) || (28 ≤ n && n ≤ 32) || n == 0x85 || n == 0xa0 ||
    n == 0x1680 || (0x2000 ≤ n && n ≤ 0x200a) || n == 0x2028 || n == 0x2029 ||
    n == 0x202f || n == 0x205f || n == 0x3000

/-- `s.strip()`. -/
def strip (s : String) : String :=
  String.ofList ((s.toList.dropWhile isSpace).rdropWhile isSpace)

theorem rdropWhile_dropWhile_of_forall_not {p : Char → Bool} {s : List Char}
    (h : ∀ c ∈ s, p c = false) : (s.dropWhile p).rdropWhile p = s := by
  have hdrop : s.dropWhile p = s := by
    cases s with
    | nil => rfl
    | cons c l => exact List.dropWhile_cons_of_neg (by simp [h c (by simp)])
  rw [hdrop]
  exact List.rdropWhile_eq_self_iff.2 fun hne => by simp [h _ (List.getLast_mem hne)]

theorem mem_of_mem_rdropWhile_dropWhile {p : Char → Bool} {s : List Char} {c : Char}
    (h : c ∈ (s.dropWhile p).rdropWhile p) : c ∈ s :=
  (List.dropWhile_sublist _).subset ((List.rdropWhile_prefix _ _).subset h)

/-- `not s.strip()`. -/
def isBlank (s : String) : Bool :=
  s.toList.all isSpace

/-- `s.lower()` on ASCII letters. -/
def lower (s : String) : String :=
  String.ofList (s.toList.map Char.toLower)

/-- `s.upper()` on ASCII letters. -/
def upper (s : String) : String :=
  String.ofList (s.toList.map Char.toUpper)

/-- `s.split(sep)` for a separator of one character. -/
def split (s : String) (sep : Char) : List String :=
  (s.toList.splitOn sep).map String.ofList

/-- `s.split(sep, 1)`: the text before the first separator and the text after
it, if there is one. -/
def split1 (s : String) (sep : Char) : String × Option String :=
  let head := s.toList.takeWhile (· != sep)
  match s.toList.drop head.length with
  | [] => (s, none)
  | _ :: tail => (String.ofList head, some (String.ofList tail))

theorem takeWhile_ne_append_cons {head tail : List Char} {sep : Char} (h : sep ∉ head) :
    (head ++ sep :: tail).takeWhile (· != sep) = head := by
  rw [List.takeWhile_append_of_pos]
  · simp
  · intro c hc
    simpa using fun heq : c = sep => h (heq ▸ hc)

theorem takeWhile_ne_of_notMem {s : List Char} {sep : Char} (h : sep ∉ s) :
    s.takeWhile (· != sep) = s := by
  refine List.takeWhile_eq_self_iff.2 fun c hc => ?_
  simpa using fun heq : c = sep => h (heq ▸ hc)

theorem split1_of_notMem {s : String} {sep : Char} (h : sep ∉ s.toList) :
    split1 s sep = (s, none) := by
  simp [split1, takeWhile_ne_of_notMem h]

theorem split1_of_toList_eq {s head tail : String} {sep : Char}
    (hs : s.toList = head.toList ++ sep :: tail.toList) (h : sep ∉ head.toList) :
    split1 s sep = (head, some tail) := by
  have htake : s.toList.takeWhile (· != sep) = head.toList := by
    rw [hs, takeWhile_ne_append_cons h]
  have hdrop : s.toList.drop head.toList.length = sep :: tail.toList := by
    rw [hs, List.drop_left]
  simp [split1, htake, hdrop]

theorem exists_split1_of_mem {s : String} {sep : Char} (h : sep ∈ s.toList) :
    ∃ head tail, split1 s sep = (head, some tail) ∧ sep ∉ head.toList := by
  obtain ⟨head, tail, hs, hhead⟩ := List.eq_append_cons_of_mem h
  have hsplit : split1 s sep = (String.ofList head, some (String.ofList tail)) :=
    split1_of_toList_eq (by simpa using hs) (by simpa using hhead)
  exact ⟨_, _, hsplit, by simpa using hhead⟩

theorem notMem_fst_split1 (s : String) (sep : Char) : sep ∉ (split1 s sep).1.toList := by
  by_cases h : sep ∈ s.toList
  · obtain ⟨head, tail, hsplit, hhead⟩ := exists_split1_of_mem h
    rwa [hsplit]
  · rwa [split1_of_notMem h]

/-- `s.partition(sep)`: the text before the first separator, whether there is one, and the
text after it. -/
def partition (s : List Char) (sep : Char) : List Char × Bool × List Char :=
  let head := s.takeWhile (· != sep)
  match s.drop head.length with
  | [] => (head, false, [])
  | _ :: tail => (head, true, tail)

/-- `s.rpartition(sep)`. -/
def rpartition (s : List Char) (sep : Char) : List Char × Bool × List Char :=
  match partition s.reverse sep with
  | (tail, true, head) => (head.reverse, true, tail.reverse)
  | (tail, false, _) => ([], false, tail.reverse)

theorem partition_append_cons {head tail : List Char} {sep : Char} (h : sep ∉ head) :
    partition (head ++ sep :: tail) sep = (head, true, tail) := by
  simp [partition, takeWhile_ne_append_cons h]

theorem partition_of_notMem {s : List Char} {sep : Char} (h : sep ∉ s) :
    partition s sep = (s, false, []) := by
  simp [partition, takeWhile_ne_of_notMem h]

theorem rpartition_append_cons {head tail : List Char} {sep : Char} (h : sep ∉ tail) :
    rpartition (head ++ sep :: tail) sep = (head, true, tail) := by
  have hrev : (head ++ sep :: tail).reverse = tail.reverse ++ sep :: head.reverse := by simp
  simp [rpartition, hrev, partition_append_cons (mt List.mem_reverse.1 h)]

theorem rpartition_of_notMem {s : List Char} {sep : Char} (h : sep ∉ s) :
    rpartition s sep = ([], false, s) := by
  simp [rpartition, partition_of_notMem (mt List.mem_reverse.1 h)]

def isLineBreak (c : Char) : Bool :=
  let n := c.toNat
  (10 ≤ n && n ≤ 13) || (28 ≤ n && n ≤ 30) || n == 0x85 || n == 0x2028 || n == 0x2029

/-- The lines of a text, given the reverse of what was read of the first one. A line feed
after a carriage return belongs to it. -/
def linesFrom (afterReturn : Bool) (line : List Char) : List Char → List (List Char)
  | [] => if line = [] then [] else [line.reverse]
  | c :: rest =>
      if afterReturn && c == '\n' then linesFrom false line rest
      else if isLineBreak c then line.reverse :: linesFrom (c == '\r') [] rest
      else linesFrom false (c :: line) rest

/-- `s.splitlines()`. -/
def splitlines (s : String) : List String :=
  (linesFrom false [] s.toList).map String.ofList

example : splitlines "a\r\nb\n\nc\r" = ["a", "b", "", "c"] := by decide

/-- `s.startswith(pre)`. -/
def startsWith (s pre : String) : Bool :=
  pre.toList.isPrefixOf s.toList

/-- `pat in s`. -/
def contains (s pat : String) : Bool :=
  s.toList.tails.any pat.toList.isPrefixOf

/-- `sep.join(l)`. -/
def join (sep : String) (l : List String) : String :=
  String.intercalate sep l

theorem toList_join (sep : String) (l : List String) :
    (join sep l).toList = sep.toList.intercalate (l.map String.toList) :=
  String.toList_intercalate

section Separator

variable {text : String} {sep : Char} (htext : text.toList = [sep])
include htext

theorem split_join {l : List String} (hne : l ≠ []) (h : ∀ s ∈ l, sep ∉ s.toList) :
    split (join text l) sep = l := by
  have hsplit : ([sep].intercalate (l.map String.toList)).splitOn sep = l.map String.toList :=
    List.splitOn_intercalate sep (by simpa using h) (by simpa using hne)
  rw [split, toList_join, htext, hsplit, List.map_map]
  simp [Function.comp_def]

theorem join_split (s : String) : join text (split s sep) = s := by
  have hmap :
      (s.toList.splitOn sep).map (String.toList ∘ String.ofList) = s.toList.splitOn sep := by
    simp [Function.comp_def]
  rw [← String.toList_inj, toList_join, htext, split, List.map_map, hmap,
    List.intercalate_splitOn]

end Separator

end Python
