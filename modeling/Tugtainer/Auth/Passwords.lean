import Tugtainer.Auth.Sessions

/-!
# Passwords

The endpoints of the password provider. The hash of the password is in a file, and whoever
finds the file missing or empty may write it. `bcrypt` is a parameter.
-/

namespace Tugtainer

open Python

/-- The exceptions of the endpoints. -/
inductive RequestExn where
  | auth (e : AuthExn)
  /-- `RequestValidationError` -/
  | invalid
  /-- what `bcrypt` raises, and what is raised for a password that is no string -/
  | other
  deriving DecidableEq, Repr

/-- `bcrypt.hashpw` and `bcrypt.checkpw`, on texts. They are `none` where they raise. -/
structure Bcrypt where
  /-- the password and the salt -/
  hashpw : String → String → Option String
  /-- the password and the hash -/
  checkpw : String → String → Option Bool

/-! ## Bodies -/

section

variable (digit : Char → Option ℕ)

def passwordValidator (value : String) : Except String String :=
  if !value.toList.any Char.isUpper then
    .error "The password must contain at least one uppercase letter."
  else if !value.toList.any Char.isLower then
    .error "The password must contain at least one lowercase letter."
  else if !value.toList.any fun c => (digit c).isSome then
    .error "The password must contain at least one number."
  else .ok value

structure PasswordSetRequestBody where
  password : String
  confirmPassword : String
  password_valid : passwordValidator digit password = .ok password
  confirmPassword_valid : passwordValidator digit confirmPassword = .ok confirmPassword

variable {F : Type}

/-- A field of a body that is validated as a password, with what the validation shows. -/
def passwordField (items : Dict String (Json F)) (key : String) :
    Option {s : String // passwordValidator digit s = .ok s} :=
  match items.get? key with
  | some (.str s) =>
      if h : passwordValidator digit s = .ok s then some ⟨s, h⟩ else none
  | _ => none

/-- The body of a request for a new password, where it is valid. -/
def passwordSetRequestBody : Option (Json F) → Option (PasswordSetRequestBody digit)
  | some (.dict items) => do
      let password ← passwordField digit items "password"
      let confirmPassword ← passwordField digit items "confirm_password"
      some ⟨password.1, confirmPassword.1, password.2, confirmPassword.2⟩
  | _ => none

end

/-! ## Endpoints -/

section

variable {F : Type} (bcrypt : Bcrypt) (config : AuthConfig) (codec : TokenCodec F)
  (cookies : Dict String String)

/-- What `login` takes for the password. Of a body that is no JSON object it is empty. -/
def loginPassword : Option (Json F) → Json F
  | some (.dict items) => (Dict.get? items "password").getD (.str "")
  | _ => .str ""

def verifyPassword (plain : Json F) (hashed : String) : Option Bool :=
  match plain with
  | .str plain => bcrypt.checkpw plain hashed
  | _ => none

/-- `login` of the password provider. The file is `none` where there is none. -/
def passwordLogin (file : Option String) (now : ℤ) (body : Option (Json F)) :
    Except RequestExn AuthResponse :=
  match AuthProvider.password.raiseOfDisabled config with
  | .error e => .error (.auth e)
  | .ok () =>
      if file.getD "" = "" then .error (.auth (.http 401 "Password not set"))
      else match verifyPassword bcrypt (loginPassword body) (file.getD "") with
        | none => .error .other
        | some false => .error (.auth (.http 401 "Invalid password"))
        | some true =>
            .ok (tokenResponse config codec now
              [("type", .str "access"), ("auth_provider", .str "password")]
              [("type", .str "refresh"), ("auth_provider", .str "password")])

/-- `set_password`, with the text that is written to the file. -/
def setPassword {digit : Char → Option ℕ} (file : Option String) (salt : String)
    (payload : PasswordSetRequestBody digit) : Except RequestExn (String × AuthResponse) :=
  let writeAndReturn : Except RequestExn (String × AuthResponse) :=
    match bcrypt.hashpw payload.password salt with
    | none => .error .other
    | some passwordHash => .ok (passwordHash, { statusCode := 201, cookies := [] })
  if file.getD "" = "" then writeAndReturn
  else match AuthProvider.password.isAuthorized codec cookies with
    | .error e => .error (.auth e)
    | .ok _ => writeAndReturn

def isPasswordSet (file : Option String) : Bool :=
  !(file = none || file = some "")

def deleteCookies : Dict String SetCookie :=
  [("access_token", { deletedCookie with domain := config.domain }),
    ("refresh_token", { deletedCookie with domain := config.domain })]

def logout : Except AuthExn AuthResponse := do
  let provider ← activeAuthProvider codec cookies
  match provider with
  | some _ => .ok { statusCode := 200, cookies := deleteCookies config }
  | none => .ok { statusCode := 200, cookies := [] }

variable {bcrypt config codec cookies}

/-! ## What they check -/

theorem isPasswordSet_iff {file : Option String} :
    isPasswordSet file = true ↔ file.getD "" ≠ "" := by
  cases file with
  | none => simp [isPasswordSet]
  | some s => simp [isPasswordSet]

/-- A login matches the hash of the file. -/
structure MatchesPassword (bcrypt : Bcrypt) (file : Option String) (body : Option (Json F)) :
    Prop where
  isSet : file.getD "" ≠ ""
  verified : verifyPassword bcrypt (loginPassword body) (file.getD "") = some true

theorem passwordLogin_eq_ok_iff {file : Option String} {now : ℤ} {body : Option (Json F)}
    {response : AuthResponse} :
    passwordLogin bcrypt config codec file now body = .ok response ↔
      AuthProvider.password.isEnabled config = true ∧ MatchesPassword bcrypt file body ∧
        response = tokenResponse config codec now (AuthProvider.tokenData [] "access" .password)
          (AuthProvider.tokenData [] "refresh" .password) := by
  rw [← AuthProvider.raiseOfDisabled_eq_ok_iff]
  unfold passwordLogin
  cases AuthProvider.password.raiseOfDisabled config with
  | error e => simp
  | ok _ =>
      dsimp only
      split
      · rename_i hempty
        simp only [reduceCtorEq, true_and, false_iff, not_and]
        exact fun h => absurd hempty h.isSet
      · rename_i hset
        split
        · rename_i hraise
          simp only [reduceCtorEq, true_and, false_iff, not_and]
          exact fun h => absurd (hraise.symm.trans h.verified) (by simp)
        · rename_i hwrong
          simp only [reduceCtorEq, true_and, false_iff, not_and]
          exact fun h => absurd (hwrong.symm.trans h.verified) (by simp)
        · rename_i hright
          simp only [Except.ok.injEq, true_and]
          constructor
          · rintro rfl
            exact ⟨⟨hset, hright⟩, rfl⟩
          · rintro ⟨-, rfl⟩
            rfl

/-- A password is written by whoever finds none, or has an access token of the password
provider. -/
theorem setPassword_eq_ok_iff {digit : Char → Option ℕ} {file : Option String} {salt : String}
    {payload : PasswordSetRequestBody digit} {passwordHash : String} {response : AuthResponse} :
    setPassword bcrypt codec cookies file salt payload = .ok (passwordHash, response) ↔
      (isPasswordSet file = true →
        ∃ token, cookiePayload codec cookies "access_token" = some token ∧
        IsTokenOf token "access" .password) ∧
      bcrypt.hashpw payload.password salt = some passwordHash ∧
        response = { statusCode := 201, cookies := [] } := by
  have hwrite (r : Option String) :
      (match r with
        | none => .error .other
        | some passwordHash => .ok (passwordHash, { statusCode := 201, cookies := [] }) :
          Except RequestExn (String × AuthResponse)) = .ok (passwordHash, response) ↔
        r = some passwordHash ∧ response = { statusCode := 201, cookies := [] } := by
    cases r with
    | none => simp
    | some s => simp [eq_comm]
  rw [isPasswordSet_iff]
  unfold setPassword
  dsimp only
  split
  · rename_i hempty
    rw [hwrite]
    exact (and_iff_right fun hset => absurd hempty hset).symm
  · rename_i hset
    rw [forall_prop_of_true hset]
    split
    · rename_i e he
      simp only [reduceCtorEq, false_iff, not_and]
      intro htoken
      have hok := AuthProvider.isAuthorized_eq_ok_iff (b := true).2 ⟨htoken, rfl⟩
      rw [he] at hok
      cases hok
    · rename_i b hb
      rw [hwrite]
      exact (and_iff_right (AuthProvider.isAuthorized_eq_ok_iff.1 hb).1).symm

/-- `logout` sets no cookie, it deletes those of the tokens if one of them names a provider. -/
theorem deleted_of_logout {response : AuthResponse} (h : logout config codec cookies = .ok response)
    {kv : String × SetCookie} (hmem : kv ∈ response.cookies) :
    kv.1 ∈ ["access_token", "refresh_token"] ∧ kv.2.value = "" ∧ kv.2.maxAge = 0 := by
  rw [logout, bind_eq_ok_iff] at h
  obtain ⟨provider, -, h⟩ := h
  cases provider with
  | none =>
      cases h
      cases hmem
  | some p =>
      cases h
      rcases List.mem_pair.1 hmem with rfl | rfl
      · exact ⟨List.mem_cons_self, rfl, rfl⟩
      · exact ⟨List.mem_cons_of_mem _ List.mem_cons_self, rfl, rfl⟩

end

end Tugtainer
