import Tugtainer.Python.Json

/-!
# Documents

What the backend does with a document of unknown shape: it compares values with `==` and
reads keys, which raises where the value has none. Exceptions are given by their text.
-/

namespace Python

/-- How `==` compares floating point numbers with each other and with integers. -/
structure FloatEq (F : Type) where
  float : F → F → Bool
  int : F → ℤ → Bool

namespace Json

variable {F : Type}

def isNone : Json F → Bool
  | null => true
  | _ => false

@[simp] theorem isNone_iff {v : Json F} : isNone v = true ↔ v = null := by
  cases v with
  | null => simp [isNone]
  | bool | int | float | str | list | dict | leaf => simp [isNone]

/-! ## Equality -/

/-- `n == value` of an integer. -/
def eqInt (E : FloatEq F) (n : ℤ) : Json F → Bool
  | bool b => n = if b then 1 else 0
  | int m => n = m
  | float x => E.int x n
  | _ => false

mutual

/-- `value == other`, where no two values are one object. -/
def eq (E : FloatEq F) : Json F → Json F → Bool
  | null, null => true
  | bool b, w => eqInt E (if b then 1 else 0) w
  | int n, w => eqInt E n w
  | float x, float y => E.float x y
  | float x, w => match w with
      | bool b => E.int x (if b then 1 else 0)
      | int n => E.int x n
      | _ => false
  | str s, str t => s = t
  | list vs, list ws => eqItems E vs ws
  | dict vs, dict ws => vs.length = ws.length && eqMembers E vs ws
  | _, _ => false

def eqItems (E : FloatEq F) : List (Json F) → List (Json F) → Bool
  | [], [] => true
  | v :: vs, w :: ws => eq E v w && eqItems E vs ws
  | _, _ => false

/-- Every key of the first dictionary is one of the second, with an equal value. -/
def eqMembers (E : FloatEq F) : List (String × Json F) → List (String × Json F) → Bool
  | [], _ => true
  | (k, v) :: vs, ws =>
      (match Dict.get? ws k with
        | some w => eq E v w
        | none => false) && eqMembers E vs ws

end

theorem eq_str_iff {E : FloatEq F} {v : Json F} {s : String} :
    eq E v (str s) = true ↔ v = str s := by
  cases v with
  | str t => simp [eq]
  | null | bool | int | float | list | dict | leaf => simp [eq, eqInt]

/-! ## Keys -/

/-- `type(value).__name__`. -/
def typeName : Json F → String
  | null => "NoneType"
  | bool _ => "bool"
  | int _ => "int"
  | float _ => "float"
  | str _ => "str"
  | list _ => "list"
  | dict _ => "dict"
  | leaf _ _ => "object"

/-- `value.get(key)`. A key that is not there has the value `None`. -/
def get (v : Json F) (key : String) : Except String (Json F) :=
  match v with
  | dict items => .ok ((Dict.get? items key).getD null)
  | v => .error ("'" ++ typeName v ++ "' object has no attribute 'get'")

/-- `value[key]`. -/
def item (v : Json F) (key : String) : Except String (Json F) :=
  match v with
  | dict items =>
      match Dict.get? items key with
      | some w => .ok w
      | none => .error ("'" ++ key ++ "'")
  | list _ => .error "list indices must be integers or slices, not str"
  | str _ => .error "string indices must be integers, not 'str'"
  | v => .error ("'" ++ typeName v ++ "' object is not subscriptable")

theorem get_dict (items : List (String × Json F)) (key : String) :
    get (dict items) key = .ok ((Dict.get? items key).getD null) := rfl

theorem get_eq_ok_iff {v w : Json F} {key : String} :
    get v key = .ok w ↔ ∃ items, v = dict items ∧ (Dict.get? items key).getD null = w := by
  cases v with
  | dict items => simp [get]
  | null | bool | int | float | str | list | leaf => simp [get]

theorem item_eq_ok_iff {v w : Json F} {key : String} :
    item v key = .ok w ↔ ∃ items, v = dict items ∧ Dict.get? items key = some w := by
  cases v with
  | dict items =>
      cases hkey : Dict.get? items key with
      | none => simp [item, hkey]
      | some w' => simp [item, hkey]
  | null | bool | int | float | str | list | leaf => simp [item]

/-- A string, where the code goes on with nothing else and with no empty one. -/
def nonEmptyStr (error : String) : Json F → Except String String
  | str s => if s = "" then .error error else .ok s
  | _ => .error error

theorem nonEmptyStr_eq_ok_iff {error s : String} {v : Json F} :
    nonEmptyStr error v = .ok s ↔ v = str s ∧ s ≠ "" := by
  cases v with
  | str t =>
      simp only [nonEmptyStr]
      split
      · rename_i ht
        constructor
        · intro h
          cases h
        · rintro ⟨h, hs⟩
          cases h
          exact absurd ht hs
      · rename_i ht
        simp only [Except.ok.injEq, Json.str.injEq]
        constructor
        · rintro rfl
          exact ⟨rfl, ht⟩
        · rintro ⟨h, -⟩
          exact h
  | null | bool | int | float | list | dict | leaf => simp [nonEmptyStr]

end Json

end Python
