import Tugtainer.Python.Json

/-!
# The texts of `json.dumps`

A printed value can be told from what follows it: two values with the same text are the same
but for their objects, and the text of a dictionary is no prefix of the text of another one.
-/

namespace Python

namespace Json

variable {F : Type}

/-! ## First characters -/

/-- What the first character of a text tells about the value. -/
inductive Shape where
  | null
  | false
  | true
  | string
  | list
  | dict
  | number
  deriving DecidableEq

def shapeOf : Char → Shape
  | 'n' => .null
  | 'f' => .false
  | 't' => .true
  | '"' => .string
  | '[' => .list
  | '{' => .dict
  | _ => .number

def shape : Json F → Shape
  | null => .null
  | bool false => .false
  | bool true => .true
  | str _ | leaf _ _ => .string
  | list _ => .list
  | dict _ => .dict
  | int _ | float _ => .number

/-- Floating point numbers have texts of their own, as `repr` gives them. -/
structure FloatTexts (N : Numerals F) : Prop where
  injective : Function.Injective (floatstr N)
  shape : ∀ x, (floatstr N x).head?.map shapeOf = some .number
  inner : ∀ x, ∀ c ∈ floatstr N x, c ≠ ',' ∧ c ≠ ']' ∧ c ≠ '}'
  int : ∀ x (n : ℤ), floatstr N x ≠ (toString n).toList

theorem shapeOf_of_isDigit {d : Char} (hd : isDigit d = true) : shapeOf d = .number := by
  unfold shapeOf
  split
  all_goals first | rfl | exact absurd hd (by decide)

section

variable {N : Numerals F} (hN : FloatTexts N)

include hN

theorem head?_print (v : Json F) : (print N v).head?.map shapeOf = some v.shape := by
  cases v with
  | bool b => cases b <;> rfl
  | int n =>
      obtain ⟨sign, d, s, hsign, hd, hs⟩ := exists_toString_eq_append n
      rw [print, hs]
      rcases hsign with rfl | rfl
      · exact congrArg some (shapeOf_of_isDigit hd)
      · rfl
  | float x => exact hN.shape x
  | list items => cases items <;> rfl
  | dict items => cases items <;> rfl
  | null | str | leaf => rfl

theorem exists_print_eq (v : Json F) : ∃ c s, print N v = c :: s ∧ shapeOf c = v.shape := by
  have hhead := head?_print hN v
  cases hprint : print N v with
  | nil => simp [hprint] at hhead
  | cons c s => exact ⟨c, s, rfl, by simpa [hprint] using hhead⟩

theorem shape_eq {v v' : Json F} {rest rest' : List Char}
    (h : print N v ++ rest = print N v' ++ rest') : v.shape = v'.shape := by
  obtain ⟨c, s, hc, hshape⟩ := exists_print_eq hN v
  obtain ⟨c', s', hc', hshape'⟩ := exists_print_eq hN v'
  rw [hc, hc'] at h
  rw [← hshape, ← hshape', (List.cons.inj h).1]

/-! ## Numbers -/

theorem mem_print_number {v : Json F} (hv : v.shape = .number) {c : Char} (hc : c ∈ print N v) :
    c ≠ ',' ∧ c ≠ ']' ∧ c ≠ '}' := by
  cases v with
  | int n =>
      rw [print] at hc
      rcases isDigit_or_eq_of_mem_toString hc with hdigit | rfl
      · exact ⟨ne_of_isDigit hdigit rfl, ne_of_isDigit hdigit rfl, ne_of_isDigit hdigit rfl⟩
      · decide
  | float x => exact hN.inner x c hc
  | bool b => cases b <;> cases hv
  | null | str | list | dict | leaf => cases hv

theorem print_append_ne_close (v : Json F) (rest s : List Char) :
    print N v ++ rest ≠ ']' :: s := by
  obtain ⟨c, t, hc, hshape⟩ := exists_print_eq hN v
  intro h
  rw [hc] at h
  obtain rfl : c = ']' := (List.cons.inj h).1
  exact (mem_print_number hN hshape.symm (hc ▸ List.mem_cons_self)).2.1 rfl

theorem takeWhile_print_number {v : Json F} (hv : v.shape = .number) {rest : List Char}
    (hrest : Delimited rest) :
    (print N v ++ rest).takeWhile (fun c => c ≠ ',' ∧ c ≠ ']' ∧ c ≠ '}') = print N v := by
  have hend : rest.takeWhile (fun c => c ≠ ',' ∧ c ≠ ']' ∧ c ≠ '}') = [] := by
    cases rest with
    | nil => rfl
    | cons c rest =>
        rcases hrest c rfl with rfl | rfl | rfl
        all_goals rfl
  rw [List.takeWhile_append_of_pos, hend, List.append_nil]
  intro c hc
  simpa using mem_print_number hN hv hc

theorem erase_eq_of_print_number {v v' : Json F} (hv : v.shape = .number)
    (hv' : v'.shape = .number) (h : print N v = print N v') : v.erase = v'.erase := by
  cases v with
  | int n =>
      cases v' with
      | int n' =>
          rw [print, print, String.toList_inj] at h
          have hparse := intOf_toString n
          rw [h, intOf_toString] at hparse
          rw [Option.some.inj hparse]
      | float x => exact absurd h.symm (hN.int x n)
      | bool b => cases b <;> cases hv'
      | null | str | list | dict | leaf => cases hv'
  | float x =>
      cases v' with
      | int n => exact absurd h (hN.int x n)
      | float x' => rw [hN.injective h]
      | bool b => cases b <;> cases hv'
      | null | str | list | dict | leaf => cases hv'
  | bool b => cases b <;> cases hv
  | null | str | list | dict | leaf => cases hv

/-! ## Constants and strings -/

omit hN in
theorem eq_of_constant {v v' : Json F} (hv : v.shape = .null ∨ v.shape = .false ∨ v.shape = .true)
    (h : v.shape = v'.shape) : v = v' := by
  cases v with
  | null =>
      cases v' with
      | null => rfl
      | bool b => cases b <;> cases h
      | int | float | str | list | dict | leaf => cases h
  | bool b =>
      cases v' with
      | bool b' =>
          cases b <;> cases b' <;> first | rfl | cases h
      | null | int | float | str | list | dict | leaf => cases b <;> cases h
  | int | float | str | list | dict | leaf => rcases hv with hv | hv | hv <;> cases hv

omit hN in
theorem quoted_append_inj {s s' : String} {rest rest' : List Char}
    (h : quoted s ++ rest = quoted s' ++ rest') : s = s' ∧ rest = rest' := by
  have hscan (s : String) (rest : List Char) :
      scanString ((quoted s ++ rest).drop 1) = some (s, rest) := by
    simpa [quoted] using scanString_quoted s rest
  have hread := hscan s rest
  rw [h, hscan] at hread
  cases hread
  exact ⟨rfl, rfl⟩

omit hN in
theorem print_string {v : Json F} (hv : v.shape = .string) :
    ∃ s, print N v = quoted s ∧ v.erase = .str s := by
  cases v with
  | str s => exact ⟨s, by rw [print], by simp [erase]⟩
  | leaf truthy s => exact ⟨s, by rw [print], by simp [erase]⟩
  | bool b => cases b <;> cases hv
  | null | int | float | list | dict => cases hv

/-! ## Values -/

omit hN in
theorem delimited_printItems (vs : List (Json F)) (rest : List Char) :
    Delimited (printItems N vs ++ rest) := by
  cases vs <;> simp [printItems, Delimited]

omit hN in
theorem delimited_printMembers (items : List (String × Json F)) (rest : List Char) :
    Delimited (printMembers N items ++ rest) := by
  rcases items with _ | ⟨⟨k, v⟩, items⟩ <;> simp [printMembers, Delimited]

theorem atom_append_inj {v v' : Json F} {rest rest' : List Char} (hlist : v.shape ≠ .list)
    (hdict : v.shape ≠ .dict) (hrest : Delimited rest) (hrest' : Delimited rest')
    (h : print N v ++ rest = print N v' ++ rest') : v.erase = v'.erase ∧ rest = rest' := by
  have hshape := shape_eq hN h
  cases hv : v.shape with
  | list => exact absurd hv hlist
  | dict => exact absurd hv hdict
  | string =>
      obtain ⟨s, hprint, herase⟩ := print_string (N := N) hv
      obtain ⟨s', hprint', herase'⟩ := print_string (N := N) (hshape.symm.trans hv)
      rw [hprint, hprint'] at h
      obtain ⟨rfl, hrest⟩ := quoted_append_inj h
      exact ⟨herase.trans herase'.symm, hrest⟩
  | number =>
      have hv' := hshape.symm.trans hv
      have hprint : print N v = print N v' := by
        rw [← takeWhile_print_number hN hv hrest, h, takeWhile_print_number hN hv' hrest']
      rw [hprint] at h
      exact ⟨erase_eq_of_print_number hN hv hv' hprint, List.append_cancel_left h⟩
  | null | false | true =>
      have hsame : v = v' := eq_of_constant (by simp [hv]) hshape
      subst hsame
      exact ⟨rfl, List.append_cancel_left h⟩

end

mutual

/-- Values with one text before what follows them are the same, but for their objects. -/
theorem print_append_inj {N : Numerals F} (hN : FloatTexts N) : ∀ (v v' : Json F)
    {rest rest' : List Char}, Delimited rest → Delimited rest' →
      print N v ++ rest = print N v' ++ rest' → v.erase = v'.erase ∧ rest = rest'
  | list vs, v', rest, rest', _, _, h => by
      have hshape := shape_eq hN h
      cases v' with
      | list vs' => exact list_append_inj hN vs vs' h
      | bool b => cases b <;> cases hshape
      | null | int | float | str | dict | leaf => cases hshape
  | dict items, v', rest, rest', _, _, h => by
      have hshape := shape_eq hN h
      cases v' with
      | dict items' => exact dict_append_inj hN items items' h
      | bool b => cases b <;> cases hshape
      | null | int | float | str | list | leaf => cases hshape
  | bool false, v', rest, rest', hrest, hrest', h
  | bool true, v', rest, rest', hrest, hrest', h
  | null, v', rest, rest', hrest, hrest', h
  | int n, v', rest, rest', hrest, hrest', h
  | float x, v', rest, rest', hrest, hrest', h
  | str s, v', rest, rest', hrest, hrest', h
  | leaf truthy s, v', rest, rest', hrest, hrest', h =>
      atom_append_inj hN nofun nofun hrest hrest' h

theorem list_append_inj {N : Numerals F} (hN : FloatTexts N) : ∀ (vs vs' : List (Json F))
    {rest rest' : List Char}, print N (list vs) ++ rest = print N (list vs') ++ rest' →
      (list vs).erase = (list vs').erase ∧ rest = rest'
  | [], [], rest, rest', h => ⟨rfl, by simpa [print] using h⟩
  | [], v :: vs, rest, rest', h => by
      refine absurd ?_ (print_append_ne_close hN v (printItems N vs ++ rest') rest)
      simpa [print] using h.symm
  | v :: vs, [], rest, rest', h => by
      refine absurd ?_ (print_append_ne_close hN v (printItems N vs ++ rest) rest')
      simpa [print] using h
  | v :: vs, v' :: vs', rest, rest', h => by
      have h' : print N v ++ (printItems N vs ++ rest) =
          print N v' ++ (printItems N vs' ++ rest') := by
        simpa [print] using h
      obtain ⟨hv, hrest⟩ := print_append_inj hN v v' (delimited_printItems vs rest)
        (delimited_printItems vs' rest') h'
      obtain ⟨hvs, hrest⟩ := printItems_append_inj hN vs vs' hrest
      exact ⟨by rw [erase, erase, eraseItems, eraseItems, hv, hvs], hrest⟩

theorem printItems_append_inj {N : Numerals F} (hN : FloatTexts N) : ∀ (vs vs' : List (Json F))
    {rest rest' : List Char}, printItems N vs ++ rest = printItems N vs' ++ rest' →
      eraseItems vs = eraseItems vs' ∧ rest = rest'
  | [], [], rest, rest', h => ⟨rfl, by simpa [printItems] using h⟩
  | [], v :: vs, rest, rest', h => by simp [printItems] at h
  | v :: vs, [], rest, rest', h => by simp [printItems] at h
  | v :: vs, v' :: vs', rest, rest', h => by
      have h' : print N v ++ (printItems N vs ++ rest) =
          print N v' ++ (printItems N vs' ++ rest') := by
        simpa [printItems] using h
      obtain ⟨hv, hrest⟩ := print_append_inj hN v v' (delimited_printItems vs rest)
        (delimited_printItems vs' rest') h'
      obtain ⟨hvs, hrest⟩ := printItems_append_inj hN vs vs' hrest
      exact ⟨by rw [eraseItems, eraseItems, hv, hvs], hrest⟩

theorem dict_append_inj {N : Numerals F} (hN : FloatTexts N) :
    ∀ (items items' : List (String × Json F)) {rest rest' : List Char},
      print N (dict items) ++ rest = print N (dict items') ++ rest' →
      (dict items).erase = (dict items').erase ∧ rest = rest'
  | [], [], rest, rest', h => ⟨rfl, by simpa [print] using h⟩
  | [], (k, v) :: items, rest, rest', h => by simp [print, quoted] at h
  | (k, v) :: items, [], rest, rest', h => by simp [print, quoted] at h
  | (k, v) :: items, (k', v') :: items', rest, rest', h => by
      have h' : quoted k ++ (": ".toList ++ (print N v ++ (printMembers N items ++ rest))) =
          quoted k' ++ (": ".toList ++ (print N v' ++ (printMembers N items' ++ rest'))) := by
        simpa [print] using h
      obtain ⟨rfl, hrest⟩ := quoted_append_inj h'
      obtain ⟨hv, hrest⟩ := print_append_inj hN v v' (delimited_printMembers items rest)
        (delimited_printMembers items' rest') (List.append_cancel_left hrest)
      obtain ⟨hitems, hrest⟩ := printMembers_append_inj hN items items' hrest
      exact ⟨by rw [erase, erase, eraseMembers, eraseMembers, hv, hitems], hrest⟩

theorem printMembers_append_inj {N : Numerals F} (hN : FloatTexts N) :
    ∀ (items items' : List (String × Json F)) {rest rest' : List Char},
      printMembers N items ++ rest = printMembers N items' ++ rest' →
      eraseMembers items = eraseMembers items' ∧ rest = rest'
  | [], [], rest, rest', h => ⟨rfl, by simpa [printMembers] using h⟩
  | [], (k, v) :: items, rest, rest', h => by simp [printMembers] at h
  | (k, v) :: items, [], rest, rest', h => by simp [printMembers] at h
  | (k, v) :: items, (k', v') :: items', rest, rest', h => by
      have h' : quoted k ++ (": ".toList ++ (print N v ++ (printMembers N items ++ rest))) =
          quoted k' ++ (": ".toList ++ (print N v' ++ (printMembers N items' ++ rest'))) := by
        simpa [printMembers] using h
      obtain ⟨rfl, hrest⟩ := quoted_append_inj h'
      obtain ⟨hv, hrest⟩ := print_append_inj hN v v' (delimited_printMembers items rest)
        (delimited_printMembers items' rest') (List.append_cancel_left hrest)
      obtain ⟨hitems, hrest⟩ := printMembers_append_inj hN items items' hrest
      exact ⟨by rw [eraseMembers, eraseMembers, hv, hitems], hrest⟩

end

/-! ## Values that were read -/

section

variable {N : Numerals F}

end

end Json

end Python
