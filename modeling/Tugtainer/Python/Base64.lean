import Mathlib.Data.List.Basic

/-!
# `base64`
-/

namespace Python

/-- The characters of the alphabet: capital letters, small letters, digits and two more. -/
def base64Char (n : ℕ) : Char :=
  if n < 26 then Char.ofNat (n + 'A'.toNat)
  else if n < 52 then Char.ofNat (n - 26 + 'a'.toNat)
  else if n < 62 then Char.ofNat (n - 52 + '0'.toNat)
  else if n = 62 then '+'
  else '/'

def base64 : List UInt8 → List Char
  | [] => []
  | [x] =>
      let n := x.toNat * 16
      [base64Char (n / 64), base64Char (n % 64), '=', '=']
  | [x, y] =>
      let n := (x.toNat * 256 + y.toNat) * 4
      [base64Char (n / 4096), base64Char (n / 64 % 64), base64Char (n % 64), '=']
  | x :: y :: z :: bytes =>
      let n := (x.toNat * 256 + y.toNat) * 256 + z.toNat
      base64Char (n / 262144) :: base64Char (n / 4096 % 64) :: base64Char (n / 64 % 64) ::
        base64Char (n % 64) :: base64 bytes

/-- `base64.b64encode(bytes).decode()`. -/
def b64encode (bytes : ByteArray) : String :=
  String.ofList (base64 bytes.data.toList)

theorem base64_ne_nil {bytes : List UInt8} (h : bytes ≠ []) : base64 bytes ≠ [] := by
  rcases bytes with - | ⟨x, - | ⟨y, - | ⟨z, bytes⟩⟩⟩
  · exact absurd rfl h
  all_goals simp [base64]

theorem toNat_base64Char (n : ℕ) : (base64Char n).toNat < 128 := by
  have halphabet : ∀ n < 64, (base64Char n).toNat < 128 := by decide
  by_cases hn : n < 64
  · exact halphabet n hn
  · have hlast : base64Char n = '/' := by
      unfold base64Char
      rw [if_neg, if_neg, if_neg, if_neg]
      all_goals omega
    rw [hlast]
    decide

theorem toNat_of_mem_base64 {bytes : List UInt8} {c : Char} (h : c ∈ base64 bytes) :
    c.toNat < 128 := by
  have hpad : '='.toNat < 128 := by decide
  induction bytes using base64.induct with
  | case1 => simp [base64] at h
  | case2 x =>
      simp only [base64, List.mem_cons, List.not_mem_nil, or_false] at h
      rcases h with rfl | rfl | rfl | rfl
      all_goals first | exact hpad | exact toNat_base64Char _
  | case3 x y =>
      simp only [base64, List.mem_cons, List.not_mem_nil, or_false] at h
      rcases h with rfl | rfl | rfl | rfl
      all_goals first | exact hpad | exact toNat_base64Char _
  | case4 x y z bytes ih =>
      simp only [base64, List.mem_cons] at h
      rcases h with rfl | rfl | rfl | rfl | h
      all_goals first | exact ih h | exact toNat_base64Char _

example : b64encode "any carnal pleas".toUTF8 = "YW55IGNhcm5hbCBwbGVhcw==" := by decide

end Python
