import Tugtainer.Agent.Signature

/-!
# Which requests are rejected with 401

The agent means to answer every request that is not signed with its secret with 401. A time
that is no integer, or a signature that is not ASCII, raises another exception before that:
`verifiesOr401_iff`. The numbers have the limit of Python on their digits here.
-/

namespace Tugtainer

open Python

/-- The exception is an `HTTPException` with status 401. -/
def SignatureExn.Is401 : SignatureExn → Prop
  | unauthorized _ | expired _ | invalid => True
  | valueError | typeError => False

section

variable {F : Type} (N : Numerals F) (H : Hmac) (now : ℤ) (secretKey : Option String)
  (signatureTtl : ℤ) (headers : Dict String String) (method path : String) (body params : Json F)

/-- `verify_signature_headers`, where a number with too many digits is neither read nor
written. -/
def limitedVerifySignatureHeaders : Except SignatureExn Bool :=
  -- the body and the parameters are written to the log
  if !(body.isPrintable && params.isPrintable) then .error .valueError
  else if secretKey.getD "" = "" then
    .error (.unauthorized "AGENT_SECRET is not set, cannot verify request signature")
  else if (headers.get? X_TIMESTAMP).getD "" = "" then
    .error (.unauthorized
      "x-tugtainer-timestamp header is missing, cannot verify request signature")
  else if (headers.get? X_SIGNATURE).getD "" = "" then
    .error (.unauthorized
      "x-tugtainer-signature header is missing, cannot verify request signature")
  else
    match limitedIntOf N.digit ((headers.get? X_TIMESTAMP).getD "0") with
    | none => .error .valueError
    | some timestamp =>
        let signature := (headers.get? X_SIGNATURE).getD ""
        -- a time that was read has a text
        let expected :=
          getReqSignature N H (secretKey.getD "") timestamp method path body params
        if signatureTtl < (now - timestamp).natAbs then
          if isPrintable (now - timestamp) && isPrintable now then
            .error (.expired (now - timestamp))
          else .error .valueError
        else if ¬signature.toList.all (·.toNat < 128) then .error .typeError
        else if expected ≠ signature then .error .invalid
        else .ok true

/-- The headers sign the request with the secret, at a time within the TTL of `now`. -/
structure ValidSignature : Prop where
  secret : secretKey.getD "" ≠ ""
  timestamp : (headers.get? X_TIMESTAMP).getD "" ≠ ""
  signature : (headers.get? X_SIGNATURE).getD "" ≠ ""
  signed : ∃ timestamp, intOf N.digit ((headers.get? X_TIMESTAMP).getD "") = some timestamp ∧
    (now - timestamp).natAbs ≤ signatureTtl ∧ (headers.get? X_SIGNATURE).getD "" =
      getReqSignature N H (secretKey.getD "") timestamp method path body params

/-- Exactly the valid signatures are accepted, and every other one is answered with 401. -/
def VerifiesOr401 : Prop :=
  (limitedVerifySignatureHeaders N H now secretKey signatureTtl headers method path body params =
      .ok true ↔
    ValidSignature N H now secretKey signatureTtl headers method path body params) ∧
  (¬ ValidSignature N H now secretKey signatureTtl headers method path body params →
    ∃ e, e.Is401 ∧ limitedVerifySignatureHeaders N H now secretKey signatureTtl headers method
      path body params = .error e)

/-- The time can be read, and either it is too old and has an age that can be written, or the
signature is ASCII. -/
def ReadableHeaders : Prop :=
  ∃ timestamp, limitedIntOf N.digit ((headers.get? X_TIMESTAMP).getD "") = some timestamp ∧
    if signatureTtl < (now - timestamp).natAbs then
      isPrintable (now - timestamp) ∧ isPrintable now
    else ((headers.get? X_SIGNATURE).getD "").toList.all (·.toNat < 128)

/-- The secret or a header is missing, or the headers can be read; the integers of the body
and the parameters have texts. -/
structure Verifiable : Prop where
  printable : body.isPrintable ∧ params.isPrintable
  readable : secretKey.getD "" ≠ "" → (headers.get? X_TIMESTAMP).getD "" ≠ "" →
    (headers.get? X_SIGNATURE).getD "" ≠ "" → ReadableHeaders N now signatureTtl headers

end

section

variable {F : Type} {N : Numerals F} {H : Hmac} {now : ℤ} {secretKey : Option String}
  {signatureTtl : ℤ} {headers : Dict String String} {method path : String}
  {body params : Json F}

theorem getD_timestamp (h : (headers.get? X_TIMESTAMP).getD "" ≠ "") :
    (headers.get? X_TIMESTAMP).getD "0" = (headers.get? X_TIMESTAMP).getD "" := by
  cases hget : headers.get? X_TIMESTAMP with
  | none => exact absurd (by rw [hget]; rfl) h
  | some timestamp => rfl

/-- Headers that can be read are accepted if they are valid, and answered with 401 if not. -/
theorem verify_of_readable (hread : ReadableHeaders N now signatureTtl headers)
    (hsecret : secretKey.getD "" ≠ "") (htime : (headers.get? X_TIMESTAMP).getD "" ≠ "")
    (hsign : (headers.get? X_SIGNATURE).getD "" ≠ "")
    (hprint : body.isPrintable ∧ params.isPrintable) :
    (limitedVerifySignatureHeaders N H now secretKey signatureTtl headers method path body
        params = .ok true ∧
      ValidSignature N H now secretKey signatureTtl headers method path body params) ∨
    (¬ ValidSignature N H now secretKey signatureTtl headers method path body params ∧
      ∃ e, e.Is401 ∧ limitedVerifySignatureHeaders N H now secretKey signatureTtl headers method
        path body params = .error e) := by
  obtain ⟨timestamp, htimestamp, hrest⟩ := hread
  have hint := limitedIntOf_eq_some htimestamp
  unfold limitedVerifySignatureHeaders
  simp only [hprint, Bool.and_self, Bool.not_true, Bool.false_eq_true, if_false, if_neg hsecret,
    if_neg htime, if_neg hsign, getD_timestamp htime, htimestamp]
  by_cases hold : signatureTtl < (now - timestamp).natAbs
  · rw [if_pos hold] at hrest
    rw [if_pos hold, if_pos (by simp [hrest])]
    refine .inr ⟨fun hvalid => ?_, .expired _, trivial, rfl⟩
    obtain ⟨timestamp', hint', hnear, -⟩ := hvalid.signed
    obtain rfl : timestamp = timestamp' := Option.some.inj (hint.symm.trans hint')
    exact absurd hold (Int.not_lt.2 hnear)
  rw [if_neg hold] at hrest
  rw [if_neg hold, if_neg (not_not.2 hrest)]
  by_cases hsame : getReqSignature N H (secretKey.getD "") timestamp method path body params =
      (headers.get? X_SIGNATURE).getD ""
  · rw [if_neg (not_not.2 hsame)]
    exact .inl ⟨rfl, hsecret, htime, hsign, timestamp, hint, Int.not_lt.1 hold, hsame.symm⟩
  · rw [if_pos hsame]
    refine .inr ⟨fun hvalid => ?_, .invalid, trivial, rfl⟩
    obtain ⟨timestamp', hint', -, hsigned⟩ := hvalid.signed
    obtain rfl : timestamp = timestamp' := Option.some.inj (hint.symm.trans hint')
    exact hsame hsigned.symm

theorem verify_of_not_readable (hread : ¬ ReadableHeaders N now signatureTtl headers)
    (hsecret : secretKey.getD "" ≠ "") (htime : (headers.get? X_TIMESTAMP).getD "" ≠ "")
    (hsign : (headers.get? X_SIGNATURE).getD "" ≠ "")
    (hprint : body.isPrintable ∧ params.isPrintable) :
    ∃ e, ¬ e.Is401 ∧ limitedVerifySignatureHeaders N H now secretKey signatureTtl headers method
      path body params = .error e := by
  unfold limitedVerifySignatureHeaders
  simp only [hprint, Bool.and_self, Bool.not_true, Bool.false_eq_true, if_false, if_neg hsecret,
    if_neg htime, if_neg hsign, getD_timestamp htime]
  cases htimestamp : limitedIntOf N.digit ((headers.get? X_TIMESTAMP).getD "") with
  | none => exact ⟨.valueError, id, rfl⟩
  | some timestamp =>
      by_cases hold : signatureTtl < (now - timestamp).natAbs
      · have hage : ¬ (isPrintable (now - timestamp) && isPrintable now) = true := fun hage =>
          hread ⟨timestamp, htimestamp, by rwa [if_pos hold, ← Bool.and_eq_true]⟩
        simp only [if_pos hold, if_neg hage]
        exact ⟨.valueError, id, rfl⟩
      · have hascii : ¬ ((headers.get? X_SIGNATURE).getD "").toList.all (·.toNat < 128) :=
          fun hascii => hread ⟨timestamp, htimestamp, by rwa [if_neg hold]⟩
        simp only [if_neg hold, if_pos hascii]
        exact ⟨.typeError, id, rfl⟩

theorem VerifiesOr401.of_cases
    (h : (limitedVerifySignatureHeaders N H now secretKey signatureTtl headers method path body
        params = .ok true ∧
      ValidSignature N H now secretKey signatureTtl headers method path body params) ∨
    (¬ ValidSignature N H now secretKey signatureTtl headers method path body params ∧
      ∃ e, e.Is401 ∧ limitedVerifySignatureHeaders N H now secretKey signatureTtl headers method
        path body params = .error e)) :
    VerifiesOr401 N H now secretKey signatureTtl headers method path body params := by
  rcases h with ⟨hok, hvalid⟩ | ⟨hvalid, e, he, herror⟩
  · exact ⟨iff_of_true hok hvalid, absurd hvalid⟩
  · exact ⟨iff_of_false (by simp [herror]) hvalid, fun _ => ⟨e, he, herror⟩⟩

theorem not_verifiesOr401 {e : SignatureExn} (he : ¬ e.Is401)
    (herror : limitedVerifySignatureHeaders N H now secretKey signatureTtl headers method path
      body params = .error e) :
    ¬ VerifiesOr401 N H now secretKey signatureTtl headers method path body params := by
  rintro ⟨hok, h401⟩
  have hvalid : ¬ ValidSignature N H now secretKey signatureTtl headers method path body params :=
    fun hvalid => by simpa [herror] using hok.2 hvalid
  obtain ⟨e', he', herror'⟩ := h401 hvalid
  cases herror.symm.trans herror'
  exact he he'

/-- The agent accepts exactly the valid signatures and answers every other one with 401,
exactly where the headers that it compares can be read. -/
theorem verifiesOr401_iff :
    VerifiesOr401 N H now secretKey signatureTtl headers method path body params ↔
      Verifiable N now secretKey signatureTtl headers body params := by
  by_cases hprint : body.isPrintable ∧ params.isPrintable
  swap
  · refine iff_of_false (not_verifiesOr401 (e := .valueError) id ?_) fun h => hprint h.printable
    unfold limitedVerifySignatureHeaders
    rw [if_pos (by grind)]
  by_cases hmissing : secretKey.getD "" = "" ∨ (headers.get? X_TIMESTAMP).getD "" = "" ∨
      (headers.get? X_SIGNATURE).getD "" = ""
  · refine iff_of_true (.of_cases (.inr ⟨fun hvalid => ?_, ?_⟩)) ⟨hprint, fun h₁ h₂ h₃ => ?_⟩
    · exact hmissing.elim hvalid.secret (Or.elim · hvalid.timestamp hvalid.signature)
    · unfold limitedVerifySignatureHeaders
      rw [if_neg (by simp [hprint])]
      split_ifs with h₁ h₂ h₃
      · exact ⟨.unauthorized _, trivial, rfl⟩
      · exact ⟨.unauthorized _, trivial, rfl⟩
      · exact ⟨.unauthorized _, trivial, rfl⟩
      · exact absurd hmissing (by simp [h₁, h₂, h₃])
    · exact absurd hmissing (by simp [h₁, h₂, h₃])
  · obtain ⟨hsecret, htime, hsign⟩ : secretKey.getD "" ≠ "" ∧
        (headers.get? X_TIMESTAMP).getD "" ≠ "" ∧ (headers.get? X_SIGNATURE).getD "" ≠ "" := by
      simpa using hmissing
    by_cases hread : ReadableHeaders N now signatureTtl headers
    · exact iff_of_true (.of_cases (verify_of_readable hread hsecret htime hsign hprint))
        ⟨hprint, fun _ _ _ => hread⟩
    · obtain ⟨e, he, herror⟩ := verify_of_not_readable hread hsecret htime hsign hprint
      exact iff_of_false (not_verifiesOr401 he herror)
        fun h => hread (h.readable hsecret htime hsign)

theorem limitedVerifySignatureHeaders_eq (hprint : body.isPrintable ∧ params.isPrintable)
    (hdigit : ∀ c ∈ ((headers.get? X_TIMESTAMP).getD "").toList, N.digit c = asciiDigit c)
    (hcount : ((headers.get? X_TIMESTAMP).getD "").length ≤ maxStrDigits)
    (hage : ∀ timestamp, intOf asciiDigit ((headers.get? X_TIMESTAMP).getD "") = some timestamp →
      isPrintable (now - timestamp) ∧ isPrintable now) :
    limitedVerifySignatureHeaders N H now secretKey signatureTtl headers method path body params =
      verifySignatureHeaders N H now secretKey signatureTtl headers method path body params := by
  have hread : limitedIntOf N.digit ((headers.get? X_TIMESTAMP).getD "") =
      intOf asciiDigit ((headers.get? X_TIMESTAMP).getD "") := by
    have hle : ((headers.get? X_TIMESTAMP).getD "").toList.countP
        (fun c => (N.digit c).isSome) ≤ maxStrDigits :=
      List.countP_le_length.trans (String.length_toList.trans_le hcount)
    rw [limitedIntOf, if_neg (not_lt.2 hle), intOf_congr hdigit]
  unfold limitedVerifySignatureHeaders verifySignatureHeaders
  rw [if_neg (by simp [hprint])]
  split_ifs with hsecret htime hsign
  · rfl
  · rfl
  · rfl
  · rw [getD_timestamp htime, hread]
    cases htimestamp : intOf asciiDigit ((headers.get? X_TIMESTAMP).getD "") with
    | none => rfl
    | some timestamp =>
        simp only [hage timestamp htimestamp, Bool.and_self, if_true]

end

/-- The request for the last lines of a log is accepted with the limit, too. -/
example :
    let sent := agentRequest noFloats logsHmac 1767323045 (some "agent-secret") "POST"
      "/api/container/logs/web" logsBody none
    limitedVerifySignatureHeaders noFloats logsHmac 1767323048 (some "agent-secret") 5 sent.headers
      "POST" "/api/container/logs/web" logsBody.erase .null = .ok true := by
  intro sent
  have htime : intOf asciiDigit ((sent.headers.get? X_TIMESTAMP).getD "") = some 1767323045 :=
    intOf_toString 1767323045
  have hbytes : sigBytes noFloats 1767323045 "POST" "/api/container/logs/web" logsBody.erase .null =
      sigBytes noFloats 1767323045 "POST" "/api/container/logs/web" logsBody .null := by
    rw [sigBytes, getObjBytes_erase noFloats (fun _ _ h => by cases h), sigBytes]
  rw [limitedVerifySignatureHeaders_eq ⟨by decide, rfl⟩ (fun _ _ => rfl) (by decide)]
  · exact verifySignatureHeaders_of_sigBytes_eq noFloats logsHmac (by decide) (by decide) hbytes
      fun _ _ => rfl
  · intro timestamp hread
    obtain rfl := Option.some.inj (htime.symm.trans hread)
    exact ⟨by decide, by decide⟩

/-- A time that is no integer and a signature that is not ASCII raise something else. -/
theorem malformed_headers_raise :
    ¬ VerifiesOr401 noFloats logsHmac 0 (some "agent-secret") 5
        [(X_TIMESTAMP, "abc"), (X_SIGNATURE, "sig")] "GET" "/api/container/list" .null .null ∧
      ¬ VerifiesOr401 noFloats logsHmac 0 (some "agent-secret") 5
        [(X_TIMESTAMP, "0"), (X_SIGNATURE, "é")] "GET" "/api/container/list" .null .null :=
  ⟨not_verifiesOr401 (e := .valueError) id rfl, not_verifiesOr401 (e := .typeError) id rfl⟩

end Tugtainer
