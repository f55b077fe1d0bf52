import Tugtainer.Auth.Service

/-!
# The state of a login

Any number of browsers log in with OIDC, with requests that overlap in any way. The cookie of a
browser ties the callback to a login of the same browser (`login_of_callback`), and a state opens
two sessions only if both callbacks were under way at once (`sent_of_same_state`).
-/

namespace Tugtainer

open Python Interaction

/-! ## Cookies -/

/-- A cookie in a browser, until the time `expires`. -/
structure StoredCookie where
  value : String
  expires : ℤ
  deriving DecidableEq, Repr

/-- The cookies of a browser, by name and domain. -/
structure Jar where
  cookies : Dict (String × Option String) StoredCookie
  nodup : (cookies.map Prod.fst).Nodup

namespace Jar

def empty : Jar := ⟨[], List.nodup_nil⟩

/-- What a `Set-Cookie` header does. One whose time is over deletes the cookie. -/
def put (jar : Jar) (now : ℤ) (name : String) (cookie : SetCookie) : Jar :=
  if cookie.maxAge ≤ 0 then
    { cookies := jar.cookies.filterKeys (· ≠ (name, cookie.domain))
      nodup := jar.nodup.sublist (List.filter_sublist.map Prod.fst) }
  else
    { cookies := jar.cookies.set (name, cookie.domain) ⟨cookie.value, now + cookie.maxAge⟩
      nodup := Dict.nodup_keys_set jar.nodup _ _ }

def store (jar : Jar) (now : ℤ) (cookies : Dict String SetCookie) : Jar :=
  cookies.foldl (fun jar kv => jar.put now kv.1 kv.2) jar

/-- The cookies that the browser sends with a request. -/
def sent (jar : Jar) (now : ℤ) : Dict String String :=
  (jar.cookies.filter fun kv => now < kv.2.expires).foldl
    (fun cookies kv => cookies.set kv.1.1 kv.2.value) []

variable {jar : Jar} {now : ℤ} {name : String} {cookie : SetCookie}

theorem get?_put (key : String × Option String) :
    (jar.put now name cookie).cookies.get? key =
      if (name, cookie.domain) = key then
        if cookie.maxAge ≤ 0 then none else some ⟨cookie.value, now + cookie.maxAge⟩
      else jar.cookies.get? key := by
  unfold put
  split
  · rw [Dict.get?_filterKeys]
    by_cases hkey : (name, cookie.domain) = key
    · simp [hkey]
    · simp [hkey, Ne.symm hkey]
  · exact Dict.get?_set _ _ _ _

theorem get?_store_of_notMem {cookies : Dict String SetCookie} {domain : Option String}
    (h : name ∉ cookies.map Prod.fst) :
    (jar.store now cookies).cookies.get? (name, domain) = jar.cookies.get? (name, domain) := by
  induction cookies generalizing jar with
  | nil => rfl
  | cons kv cookies ih =>
      rw [List.map_cons, List.mem_cons, not_or] at h
      rw [store, List.foldl_cons, ← store, ih h.2, get?_put,
        if_neg fun heq => h.1 (congrArg Prod.fst heq).symm]

theorem get?_of_sent {value : String} (h : (jar.sent now).get? name = some value) :
    ∃ domain expires, jar.cookies.get? (name, domain) = some ⟨value, expires⟩ ∧ now < expires := by
  rw [sent, Dict.get?_foldl_set, Dict.get?_nil, Option.or_none, Option.map_eq_some_iff] at h
  obtain ⟨⟨⟨name', domain⟩, c⟩, hfind, rfl⟩ := h
  obtain rfl : name' = name := by simpa using List.find?_some hfind
  have hmem := List.mem_reverse.1 (List.mem_of_find?_eq_some hfind)
  obtain ⟨hmem, hlt⟩ := List.mem_filter.1 hmem
  exact ⟨domain, c.expires, (Dict.mem_iff_get? jar.nodup).1 hmem, by simpa using hlt⟩

end Jar

/-! ## Browsers -/

/-- A request that a browser sends, with the cookies that it has then. -/
structure Flight (B F : Type) where
  id : ℕ
  browser : B
  request : AuthRequest F
  cookies : Dict String String
  sentAt : ℤ

inductive BrowserEvent (B F : Type) where
  | send (flight : Flight B F)
  /-- the backend serves a request, and the browser receives the response at the time `now` -/
  | answer (flight : Flight B F) (now : ℤ) (response : Except RequestExn AuthResponse)

section

variable {B F : Type} [DecidableEq B]

/-- What a browser keeps of an event. An exception is answered without cookies. -/
def Jar.receive (b : B) (jar : Jar) : BrowserEvent B F → Jar
  | .answer flight now (.ok response) =>
      if flight.browser = b then jar.store now response.cookies else jar
  | .answer _ _ (.error _) => jar
  | .send _ => jar

def jarOf (b : B) (events : List (BrowserEvent B F)) : Jar :=
  events.foldl (Jar.receive b) .empty

/-- What may happen next: a browser sends a new request with its cookies, or a request that is
under way is served, whatever the configuration and the password of the backend are. -/
def Legal (lib : AuthLibraries F) (past : List (BrowserEvent B F)) : BrowserEvent B F → Prop
  | .send flight => flight.cookies = (jarOf flight.browser past).sent flight.sentAt ∧
      ∀ flight', .send flight' ∈ past → flight'.id ≠ flight.id
  | .answer flight _ response => .send flight ∈ past ∧
      (∀ now' response', .answer flight now' response' ∉ past) ∧
        ∃ s now tr s', AuthServes lib s flight.cookies now flight.request tr s' response

/-- The events from the start, in any order that is legal. -/
def BrowserRun (lib : AuthLibraries F) (events : List (BrowserEvent B F)) : Prop :=
  ∀ j event, events[j]? = some event → Legal lib (events.take j) event

/-- The browser receives a response with the cookie of the state, which sets or deletes it. -/
def BrowserEvent.TouchesState (b : B) : BrowserEvent B F → Prop
  | .answer flight _ (.ok response) =>
      flight.browser = b ∧ "oidc_state" ∈ response.cookies.map Prod.fst
  | .answer _ _ (.error _) => False
  | .send _ => False

/-- At the place `i` the browser `b` receives the answer of a login that generated the state. The
place stands for when the cookie is stored, not for when the backend served the login. -/
def LoginAt (events : List (BrowserEvent B F)) (i : ℕ) (b : B) (state : String) (now : ℤ) : Prop :=
  ∃ flight response, events[i]? = some (.answer flight now (.ok response)) ∧ flight.browser = b ∧
    flight.request = .oidcLogin state

/-- At the place `k` a session is opened by the callback. -/
def SessionAt (events : List (BrowserEvent B F)) (k : ℕ) (flight : Flight B F)
    (query : Dict String String) : Prop :=
  ∃ now response, events[k]? = some (.answer flight now (.ok response)) ∧
    flight.request = .callback query

/-- No two logins generate the same state. -/
def FreshStates (events : List (BrowserEvent B F)) : Prop :=
  ∀ i i' b b' state now now', LoginAt events i b state now → LoginAt events i' b' state now' →
    i = i'

/-! ## Who sets the cookie of the state -/

variable {lib : AuthLibraries F}

/-- A login leaves the cookie of its state, a session deletes it, and nobody else names it. -/
theorem stateCookie_of_serves {s s' : AuthBackend F} {cookies : Dict String String} {now : ℤ}
    {request : AuthRequest F} {tr : Trace (OidcHttp F)} {response : AuthResponse}
    (h : AuthServes lib s cookies now request tr s' (.ok response))
    (hstate : "oidc_state" ∈ response.cookies.map Prod.fst) :
    (∃ state, request = .oidcLogin state ∧
        response.cookies = [("oidc_state", stateCookie s.config state)]) ∨
      ∃ query access refresh, request = .callback query ∧
        response.cookies =
          (setCookies s.config access refresh).set "oidc_state" deletedCookie := by
  generalize hr : (Except.ok response : Except RequestExn AuthResponse) = r at h
  cases h with
  | login body =>
      obtain ⟨-, -, rfl⟩ := passwordLogin_eq_ok_iff.1 hr.symm
      exact absurd hstate (by simp [tokenResponse, setCookies])
  | @oidcLogin state tr r h =>
      obtain ⟨r', rfl, rfl⟩ := redirected_eq_ok_iff.1 hr.symm
      exact .inl ⟨state, rfl, congrArg AuthResponse.cookies (loginStart_of_runs h).answer⟩
  | @callback query tr r h =>
      obtain ⟨r', rfl, rfl⟩ := redirected_eq_ok_iff.1 hr.symm
      obtain ⟨c, -, -, rfl⟩ := exists_of_runs_callback h
      exact .inr ⟨query, _, _, rfl, rfl⟩
  | refresh =>
      obtain ⟨found, -, rfl⟩ : ∃ found, refreshed s.config (lib.codec now) cookies = .ok found ∧
          _ = response := by
        have hok := mapError_eq_ok_iff.1 hr.symm
        rw [refresh_eq_refreshed] at hok
        cases hfound : refreshed s.config (lib.codec now) cookies with
        | error e =>
            rw [hfound] at hok
            cases hok
        | ok found =>
            rw [hfound] at hok
            exact ⟨found, rfl, Except.ok.inj hok⟩
      exact absurd hstate (by simp [tokenResponse, setCookies])
  | logout =>
      obtain ⟨kv, hmem, hname⟩ := List.mem_map.1 hstate
      have htoken := (deleted_of_logout (mapError_eq_ok_iff.1 hr.symm) hmem).1
      exact absurd (hname ▸ htoken) (by decide)
  | setPassword body salt =>
      cases hset : s.setPassword lib cookies now body salt with
      | error e =>
          rw [hset] at hr
          cases hr
      | ok written =>
          obtain ⟨passwordHash, response'⟩ := written
          rw [hset] at hr
          cases hr
          obtain ⟨payload, -, -, -, rfl⟩ := AuthBackend.setPassword_eq_ok_iff.1 hset
          exact absurd hstate (by simp)

/-- The session of a callback is for the state of the cookie that it was sent with. -/
theorem state_of_serves {s s' : AuthBackend F} {cookies query : Dict String String} {now : ℤ}
    {tr : Trace (OidcHttp F)} {response : AuthResponse}
    (h : AuthServes lib s cookies now (.callback query) tr s' (.ok response)) :
    "oidc_state" ∈ response.cookies.map Prod.fst ∧
      ∃ state, query.get? "state" = some state ∧ cookies.get? "oidc_state" = some state := by
  generalize hr : (Except.ok response : Except RequestExn AuthResponse) = r at h
  cases h with
  | @callback query tr r h =>
      obtain ⟨r', rfl, rfl⟩ := redirected_eq_ok_iff.1 hr.symm
      obtain ⟨c, hc, -, rfl⟩ := exists_of_runs_callback h
      exact ⟨by simp [sessionResponse, sessionRedirect, setCookies, Dict.set], c.state, hc.state,
        hc.stored⟩

/-! ## Where the cookie comes from -/

theorem jarOf_append_singleton (b : B) (events : List (BrowserEvent B F))
    (event : BrowserEvent B F) :
    jarOf b (events ++ [event]) = (jarOf b events).receive b event :=
  List.foldl_concat _ _ _ _

theorem get?_receive {past : List (BrowserEvent B F)} {event : BrowserEvent B F}
    (hlegal : Legal lib past event) {b : B} {jar : Jar} {domain : Option String} {c : StoredCookie}
    (h : (jar.receive b event).cookies.get? ("oidc_state", domain) = some c) :
    (∃ flight now response, event = .answer flight now (.ok response) ∧ flight.browser = b ∧
        flight.request = .oidcLogin c.value ∧ c.expires = now + 300 ∧ domain = none) ∨
      jar.cookies.get? ("oidc_state", domain) = some c ∧
        (event.TouchesState b → domain ≠ none) := by
  match event, hlegal with
  | .send flight, _ => exact .inr ⟨h, False.elim⟩
  | .answer flight now (.error e), _ => exact .inr ⟨h, False.elim⟩
  | .answer flight now (.ok response), ⟨_, _, s, now', tr, s', hserves⟩ =>
      unfold Jar.receive at h
      dsimp only at h
      split at h
      · rename_i hb
        by_cases hstate : "oidc_state" ∈ response.cookies.map Prod.fst
        · rcases stateCookie_of_serves hserves hstate with
            ⟨state, hrequest, hcookies⟩ | ⟨query, access, refresh, -, hcookies⟩
          · rw [hcookies, Jar.store, List.foldl_cons, List.foldl_nil, Jar.get?_put] at h
            split at h
            · rename_i hkey
              obtain rfl : none = domain := congrArg Prod.snd hkey
              have hkeep : ¬ (stateCookie s.config state).maxAge ≤ 0 := by simp [stateCookie]
              cases Option.some.inj ((if_neg hkeep).symm.trans h)
              exact .inl ⟨flight, now, response, rfl, hb, hrequest, rfl, rfl⟩
            · rename_i hkey
              exact .inr ⟨h, fun _ hdomain => hkey (by rw [hdomain]; rfl)⟩
          · have hset : Dict.set (setCookies s.config access refresh) "oidc_state" deletedCookie =
                setCookies s.config access refresh ++ [("oidc_state", deletedCookie)] :=
              Dict.set_of_notMem (by simp [setCookies]) _
            rw [hcookies, hset, Jar.store, List.foldl_append, List.foldl_cons, List.foldl_nil,
              Jar.get?_put] at h
            split at h
            · exact absurd h (by simp [deletedCookie])
            · rename_i hkey
              refine .inr ⟨?_, fun _ hdomain => hkey (by rw [hdomain]; rfl)⟩
              exact (Jar.get?_store_of_notMem (by simp [setCookies])).symm.trans h
        · rw [Jar.get?_store_of_notMem hstate] at h
          exact .inr ⟨h, fun htouches => absurd htouches.2 hstate⟩
      · rename_i hb
        exact .inr ⟨h, fun htouches => absurd htouches.1 hb⟩

/-- The cookie of the state is from a login of the browser, and nothing has touched it since. -/
theorem loginAt_of_jarOf {events : List (BrowserEvent B F)} (hrun : BrowserRun lib events) {b : B}
    {domain : Option String} {c : StoredCookie} {j : ℕ}
    (h : (jarOf b (events.take j)).cookies.get? ("oidc_state", domain) = some c) :
    domain = none ∧ ∃ i now, i < j ∧ LoginAt events i b c.value now ∧ c.expires = now + 300 ∧
      ∀ m event, i < m → m < j → events[m]? = some event → ¬ event.TouchesState b := by
  induction j with
  | zero => cases h
  | succ j ih =>
      cases hj : events[j]? with
      | none =>
          rw [List.take_of_length_le (Nat.le_succ_of_le (List.getElem?_eq_none_iff.1 hj)),
            ← List.take_of_length_le (List.getElem?_eq_none_iff.1 hj)] at h
          obtain ⟨hdomain, i, now, hi, hlogin, hexpires, hkept⟩ := ih h
          refine ⟨hdomain, i, now, Nat.lt_succ_of_lt hi, hlogin, hexpires, ?_⟩
          intro m event him hm hevent
          rcases Nat.lt_succ_iff_lt_or_eq.1 hm with hm | rfl
          · exact hkept m event him hm hevent
          · cases hj.symm.trans hevent
      | some event =>
          rw [List.take_add_one, hj, Option.toList_some, jarOf_append_singleton] at h
          rcases get?_receive (hrun j event hj) h with
            ⟨flight, now, response, rfl, hb, hrequest, hexpires, hdomain⟩ | ⟨hjar, htouches⟩
          · refine ⟨hdomain, j, now, Nat.lt_succ_self j, ⟨flight, response, hj, hb, hrequest⟩,
              hexpires, fun m event hjm hm => ?_⟩
            exact absurd hjm (by omega)
          · obtain ⟨hdomain, i, now, hi, hlogin, hexpires, hkept⟩ := ih hjar
            refine ⟨hdomain, i, now, Nat.lt_succ_of_lt hi, hlogin, hexpires, ?_⟩
            intro m event' him hm hevent'
            rcases Nat.lt_succ_iff_lt_or_eq.1 hm with hm | rfl
            · exact hkept m event' him hm hevent'
            · cases hj.symm.trans hevent'
              exact fun h' => htouches h' hdomain

/-! ## Sessions -/

theorem cookie_of_sessionAt {events : List (BrowserEvent B F)} (hrun : BrowserRun lib events)
    {k : ℕ} {flight : Flight B F} {query : Dict String String}
    (h : SessionAt events k flight query) :
    ∃ j state domain expires, j < k ∧ query.get? "state" = some state ∧
      events[j]? = some (.send flight) ∧ flight.sentAt < expires ∧
        (jarOf flight.browser (events.take j)).cookies.get? ("oidc_state", domain) =
          some ⟨state, expires⟩ := by
  obtain ⟨now, response, hanswer, hrequest⟩ := h
  obtain ⟨hsent, -, s, now', tr, s', hserves⟩ := hrun k _ hanswer
  rw [hrequest] at hserves
  obtain ⟨-, state, hquery, hcookie⟩ := state_of_serves hserves
  obtain ⟨j, hj⟩ := List.mem_iff_getElem?.1 hsent
  have hjk : j < k := by
    by_contra hle
    rw [List.getElem?_take, if_neg hle] at hj
    cases hj
  rw [List.getElem?_take, if_pos hjk] at hj
  obtain ⟨hcookies, -⟩ := hrun j _ hj
  rw [hcookies] at hcookie
  obtain ⟨domain, expires, hjar, hlt⟩ := Jar.get?_of_sent hcookie
  exact ⟨j, state, domain, expires, hjk, hquery, hj, hlt, hjar⟩

/-- A session that a callback opens is for a state that a login of the same browser generated less
than five minutes before the callback was sent, and in between the browser has received no later
login and no session. The five minutes count from when the browser receives the login's answer,
as its cookie does. -/
theorem login_of_callback {events : List (BrowserEvent B F)} (hrun : BrowserRun lib events) {k : ℕ}
    {flight : Flight B F} {query : Dict String String} (h : SessionAt events k flight query) :
    ∃ i j state now, i < j ∧ j < k ∧ query.get? "state" = some state ∧
      LoginAt events i flight.browser state now ∧ events[j]? = some (.send flight) ∧
        flight.sentAt < now + 300 ∧ ∀ m event, i < m → m < j → events[m]? = some event →
          ¬ event.TouchesState flight.browser := by
  obtain ⟨j, state, domain, expires, hjk, hquery, hj, hlt, hjar⟩ := cookie_of_sessionAt hrun h
  obtain ⟨-, i, t, hi, hlogin, hexpires, hkept⟩ := loginAt_of_jarOf hrun hjar
  exact ⟨i, j, state, t, hi, hjk, hquery, hlogin, hj, hexpires ▸ hlt, hkept⟩

/-- Two callbacks open sessions for one state only if the browser sent each of them before the
other one was answered. -/
theorem sent_of_same_state {events : List (BrowserEvent B F)} (hrun : BrowserRun lib events)
    (hfresh : FreshStates events) {k k' : ℕ} {flight flight' : Flight B F}
    {query query' : Dict String String} (h : SessionAt events k flight query)
    (h' : SessionAt events k' flight' query')
    (hsame : query.get? "state" = query'.get? "state") :
    flight.browser = flight'.browser ∧ ∃ j < k, events[j]? = some (.send flight') := by
  obtain ⟨j, state, _, _, hjk, hstate, hj, -, hjar⟩ := cookie_of_sessionAt hrun h
  obtain ⟨j', state', _, _, hjk', hstate', hj', -, hjar'⟩ := cookie_of_sessionAt hrun h'
  obtain ⟨-, i, now, hij, hlogin, -, -⟩ := loginAt_of_jarOf hrun hjar
  obtain ⟨-, i', now', hij', hlogin', -, hkept⟩ := loginAt_of_jarOf hrun hjar'
  obtain rfl : state = state' := Option.some.inj (hstate.symm.trans (hsame.trans hstate'))
  obtain rfl := hfresh _ _ _ _ _ _ _ hlogin hlogin'
  obtain ⟨f, r, hevent, hb, -⟩ := hlogin
  obtain ⟨f', r', hevent', hb', -⟩ := hlogin'
  cases hevent.symm.trans hevent'
  have hbrowser : flight.browser = flight'.browser := hb.symm.trans hb'
  refine ⟨hbrowser, j', ?_, hj'⟩
  obtain ⟨t, response, hanswer, hrequest⟩ := h
  by_contra hle
  have hne : k ≠ j' := by
    rintro rfl
    cases hanswer.symm.trans hj'
  obtain ⟨-, -, s, now, tr, s', hserves⟩ := hrun k _ hanswer
  rw [hrequest] at hserves
  exact hkept k _ (by omega) (by omega) hanswer ⟨hbrowser, (state_of_serves hserves).1⟩

end

/-! ## An example -/

def userLoginConfig : OidcLoginConfig Empty :=
  { userVars.load lower with scopes := "openid profile email", str := fun _ => "" }

def userLibraries : AuthLibraries Empty :=
  { loginLibraries with codec := fun _ => userCodec }

def oidcBackend : AuthBackend Empty where
  config := oidcOnlyConfig
  oidc := userLoginConfig
  passwordFile := none

/-- The only browser logs in, and sends the callback twice before it is answered. -/
def loginFlight : Flight Unit Empty where
  id := 1
  browser := ()
  request := .oidcLogin "state-1"
  cookies := []
  sentAt := 1749999990

def callbackFlight (id : ℕ) : Flight Unit Empty where
  id := id
  browser := ()
  request := .callback userQuery
  cookies := [("oidc_state", "state-1")]
  sentAt := 1750000000

def loginResponse : AuthResponse where
  statusCode := 302
  cookies := [("oidc_state", stateCookie oidcOnlyConfig "state-1")]

def userResponse : AuthResponse :=
  (sessionResponse userEnv 1750000000 userCodec oidcOnlyConfig userClaims).toAuthResponse

def browserEvents : List (BrowserEvent Unit Empty) :=
  [.send loginFlight, .answer loginFlight 1749999991 (.ok loginResponse),
    .send (callbackFlight 2), .send (callbackFlight 3),
    .answer (callbackFlight 2) 1750000001 (.ok userResponse),
    .answer (callbackFlight 3) 1750000002 (.ok userResponse)]

theorem serves_login :
    ∃ tr s', AuthServes userLibraries oidcBackend [] 1749999991 (.oidcLogin "state-1") tr s'
      (.ok loginResponse) := by
  obtain ⟨tr, response, hrun⟩ : ∃ tr response,
      Runs (oidcLogin userLoginConfig oidcOnlyConfig "state-1") tr (.ok response) :=
    ⟨[⟨.get userVars.wellKnownUrl, .ok (jsonReply
      [("authorization_endpoint", .str "https://idp.example.com/authorize")]).reply⟩], _,
      .call (.ret _)⟩
  have hresponse : redirected (.ok response) = .ok loginResponse :=
    redirected_eq_ok_iff.2 ⟨response, rfl, (loginStart_of_runs hrun).answer⟩
  have h : AuthServes userLibraries oidcBackend [] 1749999991 (.oidcLogin "state-1") tr
      oidcBackend (redirected (.ok response)) := .oidcLogin hrun
  exact ⟨tr, _, hresponse ▸ h⟩

theorem serves_callback :
    ∃ tr s', AuthServes userLibraries oidcBackend [("oidc_state", "state-1")] 1750000000
      (.callback userQuery) tr s' (.ok userResponse) := by
  have h : AuthServes userLibraries oidcBackend [("oidc_state", "state-1")] 1750000000
      (.callback userQuery) _ oidcBackend
      (redirected (.ok (sessionResponse userEnv 1750000000 userCodec oidcOnlyConfig userClaims))) :=
    .callback runs_callback_user
  exact ⟨_, _, h⟩

/-- Every event is legal, with the cookies that the browser has when it sends a request. -/
theorem browserRun_user : BrowserRun userLibraries browserEvents := by
  intro j event h
  match j with
  | 0 =>
      cases h
      exact ⟨rfl, fun _ hmem => absurd hmem List.not_mem_nil⟩
  | 1 =>
      cases h
      exact ⟨by simp [browserEvents], by simp [browserEvents], _, _, serves_login⟩
  | 2 =>
      cases h
      exact ⟨by decide, by simp [browserEvents, loginFlight, callbackFlight]⟩
  | 3 =>
      cases h
      exact ⟨by decide, by simp [browserEvents, loginFlight, callbackFlight]⟩
  | 4 =>
      cases h
      exact ⟨by simp [browserEvents], by simp [browserEvents, loginFlight, callbackFlight],
        _, _, serves_callback⟩
  | 5 =>
      cases h
      exact ⟨by simp [browserEvents], by simp [browserEvents, loginFlight, callbackFlight],
        _, _, serves_callback⟩
  | j + 6 => cases h

theorem sessionAt_user : SessionAt browserEvents 4 (callbackFlight 2) userQuery ∧
    SessionAt browserEvents 5 (callbackFlight 3) userQuery :=
  ⟨⟨_, _, rfl, rfl⟩, ⟨_, _, rfl, rfl⟩⟩

theorem freshStates_user : FreshStates browserEvents := by
  have hone {i : ℕ} {b : Unit} {state : String} {now : ℤ}
      (h : LoginAt browserEvents i b state now) : i = 1 := by
    obtain ⟨flight, response, hevent, -, hrequest⟩ := h
    match i with
    | 0 | 2 | 3 => cases hevent
    | 1 => rfl
    | 4 | 5 =>
        cases hevent
        cases hrequest
    | i + 6 => cases hevent
  intro i i' b b' state now now' h h'
  rw [hone h, hone h']

theorem login_of_callback_user :
    ∃ i j state now, i < j ∧ j < 4 ∧ userQuery.get? "state" = some state ∧
      LoginAt browserEvents i () state now ∧
      browserEvents[j]? = some (.send (callbackFlight 2)) ∧ (1750000000 : ℤ) < now + 300 ∧
      ∀ m event, i < m → m < j → browserEvents[m]? = some event → ¬ event.TouchesState () :=
  login_of_callback browserRun_user sessionAt_user.1

/-- Two sessions for one state, with callbacks that overlap. -/
theorem sent_of_same_state_user :
    (callbackFlight 2).browser = (callbackFlight 3).browser ∧
      ∃ j < 4, browserEvents[j]? = some (.send (callbackFlight 3)) :=
  sent_of_same_state browserRun_user freshStates_user sessionAt_user.1 sessionAt_user.2 rfl

end Tugtainer
