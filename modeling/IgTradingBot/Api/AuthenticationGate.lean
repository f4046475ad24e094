import IgTradingBot.Api.Auth
import IgTradingBot.Library.Machines

/-!
# The authentication gate

Runs of the service, which issues tokens at logins and refreshes, and the requests that its gate
passes to the application. Nobody but the service makes tokens with its key. The gate passes what
begins like a public path or asks for a web socket, and it reads a refresh token like an access token.
-/

namespace IgTradingBot

/-- A call that may issue tokens. -/
inductive TokenCall where
  | login (attempt : LoginAttempt)
  | refresh (token : String) (now accessIssuedAt refreshIssuedAt : ℚ)

/-- The lockout, and every token that was issued, with its claims. -/
structure TokenRun where
  lockout : LockoutState := {}
  issued : List (Claims × String) := []

namespace Jose.Lawful

variable {jose : Jose} {key : String}

/-- Tokens of different claims are different. -/
theorem encode_injective (lawful : jose.Lawful) {first second : Claims}
    (same : jose.encode first key = jose.encode second key) : first = second := by
  -- at an early time, neither has expired
  obtain ⟨now, firstValid, secondValid⟩ :
      ∃ now, ¬first.Expired now ∧ ¬second.Expired now := by
    refine ⟨min (first.exp.getD 0) (second.exp.getD 0), ?_, ?_⟩
    · rintro ⟨exp, isExp, expired⟩
      rw [Option.mem_def.mp isExp] at expired
      exact absurd (min_le_left _ _) (not_le.mpr expired)
    · rintro ⟨exp, isExp, expired⟩
      rw [Option.mem_def.mp isExp] at expired
      exact absurd (min_le_right _ _) (not_le.mpr expired)
  have read := lawful.undoes key firstValid
  rw [same, lawful.undoes key secondValid] at read
  exact (Option.some.inj read).symm

end Jose.Lawful

namespace TokenRun

open Auth AuthenticationMiddleware

/-- The claims and tokens that are issued with an answer. -/
def issuedTokens (settings : AuthSettings) (username : String) (accessIssuedAt refreshIssuedAt : ℚ) :
    Except HttpException LoginResponse → List (Claims × String)
  | .ok response =>
    [(accessClaims settings username accessIssuedAt, response.accessToken),
      (refreshClaims settings username refreshIssuedAt, response.refreshToken)]
  | .error _ => []

/-- One call. The tokens of a refresh are for the name in the token that is refreshed. -/
def step (jose : Jose) (settings : AuthSettings) (run : TokenRun) : TokenCall → TokenRun
  | .login attempt =>
    let answered := Auth.login jose settings run.lockout attempt
    { lockout := answered.1
      issued := run.issued ++ issuedTokens settings attempt.username attempt.accessIssuedAt
        attempt.refreshIssuedAt answered.2 }
  | .refresh token now accessIssuedAt refreshIssuedAt =>
    let username := ((jose.decode ⌊now⌋ token settings.jwtSecretKey).bind (·.get "sub")).getD ""
    { run with
      issued := run.issued ++ issuedTokens settings username accessIssuedAt refreshIssuedAt
        (refreshToken jose settings token now accessIssuedAt refreshIssuedAt) }

/-- A text is a token of the service's key only if the service issued it. -/
def KeyIsSecret (jose : Jose) (settings : AuthSettings) (run : TokenRun) (text : String) : Prop :=
  ∀ claims, text = jose.encode claims settings.jwtSecretKey → (claims, text) ∈ run.issued

/-- A request carries an issued token of a kind that has not expired. -/
def Carries (run : TokenRun) (request : Request) (kind : String) (now : ℚ) : Prop :=
  ∃ token ∈ bearerToken request, ∃ claims, (claims, token) ∈ run.issued ∧
    claims.get "type" = some kind ∧ ¬claims.Expired ⌊now⌋

/-- The gate passes a request to the application. -/
def Passes (jose : Jose) (settings : AuthSettings) (request : Request) (now : ℚ) : Prop :=
  ∃ payload, dispatch jose settings.jwtSecretKey now request = .passed payload

/-- Every issued token is one of its claims and the service's key, for access or for a refresh. -/
def Genuine (jose : Jose) (settings : AuthSettings) (run : TokenRun) : Prop :=
  ∀ entry ∈ run.issued, entry.2 = jose.encode entry.1 settings.jwtSecretKey ∧
    (entry.1.get "type" = some "access" ∨ entry.1.get "type" = some "refresh")

section Runs

variable {jose : Jose} {settings : AuthSettings} {run : TokenRun}

/-- Tokens that are issued for a username are genuine. -/
theorem issued_tokens_genuine {username : String} {accessIssuedAt refreshIssuedAt : ℚ}
    {answered : Except HttpException LoginResponse}
    (issues : ∀ response, answered = .ok response →
      response = issueTokens jose settings username accessIssuedAt refreshIssuedAt) :
    Genuine jose settings
      { issued := issuedTokens settings username accessIssuedAt refreshIssuedAt answered } := by
  intro entry member
  cases answered with
  | error reason => exact absurd member List.not_mem_nil
  | ok response =>
    obtain rfl := issues response rfl
    obtain rfl | last := List.mem_cons.mp member
    · exact ⟨rfl, .inl rfl⟩
    · obtain rfl := List.mem_singleton.mp last
      exact ⟨rfl, .inr rfl⟩

/-- Genuine tokens stay so, with further ones. -/
theorem Genuine.append (genuine : Genuine jose settings run) {more : List (Claims × String)}
    (moreGenuine : Genuine jose settings { issued := more }) (lockout : LockoutState) :
    Genuine jose settings { lockout, issued := run.issued ++ more } := by
  intro entry member
  obtain earlier | new := List.mem_append.mp member
  · exact genuine entry earlier
  · exact moreGenuine entry new

/-- A login answers with tokens for its username. -/
theorem login_eq_ok {state : LockoutState} {attempt : LoginAttempt} {response : LoginResponse}
    (answered : (Auth.login jose settings state attempt).2 = .ok response) :
    response = issueTokens jose settings attempt.username attempt.accessIssuedAt
      attempt.refreshIssuedAt := by
  simp only [Auth.login] at answered
  split_ifs at answered
  cases answered
  rfl

/-- A refresh answers with tokens for the name in its token. -/
theorem refresh_token_eq_ok {token : String} {now accessIssuedAt refreshIssuedAt : ℚ}
    {response : LoginResponse}
    (answered : refreshToken jose settings token now accessIssuedAt refreshIssuedAt =
      .ok response) :
    response = issueTokens jose settings
      (((jose.decode ⌊now⌋ token settings.jwtSecretKey).bind (·.get "sub")).getD "") accessIssuedAt
        refreshIssuedAt := by
  unfold refreshToken at answered
  cases read : jose.decode ⌊now⌋ token settings.jwtSecretKey with
  | none => simp [read] at answered
  | some payload =>
    simp only [read] at answered
    split_ifs at answered
    cases answered
    rfl

/-- Every call issues genuine tokens. -/
theorem Genuine.step (genuine : Genuine jose settings run) (call : TokenCall) :
    Genuine jose settings (run.step jose settings call) := by
  cases call with
  | login attempt =>
    exact genuine.append (issued_tokens_genuine fun _ answered => login_eq_ok answered) _
  | refresh token now accessIssuedAt refreshIssuedAt =>
    exact genuine.append (issued_tokens_genuine fun _ answered => refresh_token_eq_ok answered) _

/-- The gate passes what begins like a public path, asks for a web socket, or has a token that can be
read. -/
theorem passes_iff (jose : Jose) (settings : AuthSettings) (request : Request) (now : ℚ) :
    Passes jose settings request now ↔ isPublicPath request.path = true ∨
      isUpgrade request = true ∨ ∃ token ∈ bearerToken request,
        ∃ claims, jose.decode ⌊now⌋ token settings.jwtSecretKey = some claims := by
  simp only [Passes, dispatch, decodeJwtToken]
  rw [← or_assoc, ← Bool.or_eq_true]
  by_cases skipped : (isPublicPath request.path || isUpgrade request) = true
  · rw [if_pos skipped]
    exact iff_of_true ⟨none, rfl⟩ (.inl skipped)
  · rw [if_neg skipped, or_iff_right skipped]
    cases bearer : bearerToken request with
    | none => simp
    | some token => cases read : jose.decode ⌊now⌋ token settings.jwtSecretKey <;> simp [read]

/-- The gate reads a token exactly when the service issued it, for access or for a refresh, and it has
not expired. -/
theorem read_iff_carries (lawful : jose.Lawful) (genuine : Genuine jose settings run)
    (request : Request) (now : ℚ)
    (secret : ∀ token ∈ bearerToken request, KeyIsSecret jose settings run token) :
    (∃ token ∈ bearerToken request,
        ∃ claims, jose.decode ⌊now⌋ token settings.jwtSecretKey = some claims) ↔
      run.Carries request "access" now ∨ run.Carries request "refresh" now := by
  constructor
  · rintro ⟨token, isBearer, claims, read⟩
    obtain ⟨made, valid⟩ := lawful.rejects read
    have issued := secret token isBearer claims made
    obtain access | refresh := (genuine _ issued).2
    · exact .inl ⟨token, isBearer, claims, issued, access, valid⟩
    · exact .inr ⟨token, isBearer, claims, issued, refresh, valid⟩
  · have reads : ∀ kind, run.Carries request kind now → ∃ token ∈ bearerToken request,
        ∃ claims, jose.decode ⌊now⌋ token settings.jwtSecretKey = some claims := by
      rintro kind ⟨token, isBearer, claims, issued, -, valid⟩
      refine ⟨token, isBearer, claims, ?_⟩
      rw [show token = _ from (genuine _ issued).1]
      exact lawful.undoes _ valid
    rintro (access | refresh)
    · exact reads _ access
    · exact reads _ refresh

end Runs

/-- The gate passes a request with a token of the key that has not expired. -/
theorem passes_of_bearer {jose : Jose} (lawful : jose.Lawful) {settings : AuthSettings}
    {request : Request} {now : ℚ} {claims : Claims}
    (isBearer : bearerToken request = some (jose.encode claims settings.jwtSecretKey))
    (valid : ¬claims.Expired ⌊now⌋) : Passes jose settings request now :=
  (passes_iff jose settings request now).mpr
    (.inr (.inr ⟨_, isBearer, claims, lawful.undoes settings.jwtSecretKey valid⟩))

/-- For every run of logins and refreshes, and every request: that the gate passes it, where its path
is not public, only with an access token of the service that has not expired, holds exactly when its
path is public, it carries such a token, or its path does not begin like a public one, it does not ask
for a web socket, and it carries no refresh token. -/
theorem passes_with_access_token_iff (jose : Jose) (lawful : jose.Lawful) (settings : AuthSettings)
    (calls : List TokenCall) (request : Request) (now : ℚ)
    (secret : ∀ token ∈ bearerToken request,
      KeyIsSecret jose settings (Machines.after (step jose settings) {} calls) token) :
    let run := Machines.after (step jose settings) {} calls
    (request.path ∉ publicPaths → Passes jose settings request now →
        run.Carries request "access" now) ↔
      request.path ∈ publicPaths ∨ run.Carries request "access" now ∨
        ¬isPublicPath request.path = true ∧ ¬isUpgrade request = true ∧
          ¬run.Carries request "refresh" now := by
  intro run
  have genuine : Genuine jose settings run :=
    Machines.after_keeps_always (fun _ call genuine => genuine.step call) calls
      fun _ member => absurd member List.not_mem_nil
  rw [passes_iff, read_iff_carries lawful genuine request now secret]
  tauto

section Samples

/-- A text with a mark before each of its characters, and one at its end. -/
def writeText (text : String) : List Char := text.toList.flatMap (fun char => ['+', char]) ++ ['.']

/-- Texts, from their characters with marks. -/
def readTexts : List Char → Option (List (List Char))
  | [] => some []
  | '.' :: rest => (readTexts rest).map ([] :: ·)
  | '+' :: char :: rest =>
    match readTexts rest with
    | some (text :: texts) => some ((char :: text) :: texts)
    | _ => none
  | _ => none

/-- A time, as a number of strokes. -/
def writeExp : Option ℤ → String
  | none => ""
  | some (.ofNat number) => String.ofList ('p' :: List.replicate number '1')
  | some (.negSucc number) => String.ofList ('m' :: List.replicate number '1')

/-- A time from its strokes. -/
def readExp : List Char → Option ℤ
  | 'p' :: strokes => some (.ofNat strokes.length)
  | 'm' :: strokes => some (.negSucc strokes.length)
  | _ => none

/-- Texts, two by two. -/
def pairUp : List String → List (String × String)
  | key :: value :: rest => (key, value) :: pairUp rest
  | _ => []

/-- Tokens that are made of the key and the claims as they are. -/
def plainToken (claims : Claims) (key : String) : String :=
  String.ofList ((key :: writeExp claims.exp ::
    claims.texts.flatMap fun entry => [entry.1, entry.2]).flatMap writeText)

/-- A library that writes the key into its tokens. -/
def plainJose : Jose where
  encode := plainToken
  decode now token key :=
    match readTexts token.toList with
    | some (_ :: exp :: texts) =>
      let claims : Claims := ⟨pairUp (texts.map String.ofList), readExp exp⟩
      if token = plainToken claims key ∧ ¬claims.Expired now then some claims else none
    | _ => none

/-- What was written is read. -/
theorem read_texts_write (texts : List String) :
    readTexts (texts.flatMap writeText) = some (texts.map String.toList) := by
  have first : ∀ (chars rest : List Char) (others : List (List Char)),
      readTexts rest = some others →
        readTexts (chars.flatMap (fun char => ['+', char]) ++ '.' :: rest) =
          some (chars :: others) := by
    intro chars rest others read
    induction chars with
    | nil => simp [readTexts, read]
    | cons char more inductionHypothesis => simp [readTexts, inductionHypothesis]
  induction texts with
  | nil => rfl
  | cons text rest inductionHypothesis =>
    have read := first text.toList _ _ inductionHypothesis
    simpa [writeText] using read

/-- The entries of claims come back two by two. -/
theorem pair_up_entries (entries : List (String × String)) :
    pairUp (entries.flatMap fun entry => [entry.1, entry.2]) = entries := by
  induction entries with
  | nil => rfl
  | cons entry rest inductionHypothesis => simp [pairUp, inductionHypothesis]

/-- A time comes back. -/
theorem read_exp_write (exp : Option ℤ) : readExp (writeExp exp).toList = exp := by
  match exp with
  | none => rfl
  | some (.ofNat number) => simp [writeExp, readExp]
  | some (.negSucc number) => simp [writeExp, readExp]

/-- The library that writes the key into its tokens is lawful. -/
theorem plain_jose_lawful : plainJose.Lawful := by
  constructor
  · intro claims now key valid
    have texts : (claims.texts.flatMap fun entry => [entry.1, entry.2]).map
        (String.ofList ∘ String.toList) = claims.texts.flatMap fun entry => [entry.1, entry.2] := by
      simp [Function.comp_def]
    simp only [plainJose]
    rw [show (plainToken claims key).toList = _ from String.toList_ofList, read_texts_write]
    simp only [List.map_cons, List.map_map, texts, pair_up_entries, read_exp_write]
    exact if_pos ⟨trivial, valid⟩
  · intro now token key claims read
    simp only [plainJose] at read
    split at read
    · split_ifs at read with isToken
      cases read
      exact isToken
    · cases read

/-- A request with a token. -/
def tokenRequest (path token : String) : Request :=
  { path, headers := [("authorization", "Bearer " ++ token)] }

/-- The token of a request comes after the name of its scheme. -/
theorem bearer_token_request (path token : String) :
    bearerToken (tokenRequest path token) = some token := by
  simp [bearerToken, tokenRequest, startsWith, afterBlank]

/-- Settings of a service with one user. -/
def traderSettings : AuthSettings :=
  { igUsername := "trader", igPassword := "right", jwtSecretKey := "key" }

/-- The user logs in. -/
def traderLogin : TokenCall := .login ⟨"trader", "right", 0, 0, 0, 0, 0, 0⟩

/-- The user's token of some claims. -/
def traderToken (claims : Claims) : String := plainJose.encode claims traderSettings.jwtSecretKey

/-- The tokens of the user. -/
theorem trader_login_issues :
    (Machines.after (step plainJose traderSettings) {} [traderLogin]).issued =
      [(accessClaims traderSettings "trader" 0, traderToken (accessClaims traderSettings "trader" 0)),
        (refreshClaims traderSettings "trader" 0,
          traderToken (refreshClaims traderSettings "trader" 0))] :=
  rfl

/-- Both tokens are known only from the service. -/
theorem trader_tokens_secret (claims : Claims)
    (issued : claims = accessClaims traderSettings "trader" 0 ∨
      claims = refreshClaims traderSettings "trader" 0) :
    KeyIsSecret plainJose traderSettings
      (Machines.after (step plainJose traderSettings) {} [traderLogin]) (traderToken claims) := by
  intro other same
  obtain rfl : claims = other := plain_jose_lawful.encode_injective same
  rw [trader_login_issues]
  obtain rfl | rfl := issued
  · exact List.mem_cons_self
  · exact List.mem_cons_of_mem _ List.mem_cons_self

/-- The user's access token opens a protected endpoint. -/
theorem access_token_opens_endpoint :
    let run := Machines.after (step plainJose traderSettings) {} [traderLogin]
    let request := tokenRequest "/api/trading/positions"
      (traderToken (accessClaims traderSettings "trader" 0))
    request.path ∉ publicPaths → Passes plainJose traderSettings request 60 →
      run.Carries request "access" 60 := by
  refine (passes_with_access_token_iff plainJose plain_jose_lawful traderSettings [traderLogin]
    (tokenRequest "/api/trading/positions"
      (traderToken (accessClaims traderSettings "trader" 0))) 60 ?_).mpr (.inr (.inl ?_))
  · intro token isBearer
    obtain rfl := Option.some.inj ((bearer_token_request _ _).symm.trans isBearer)
    exact trader_tokens_secret _ (.inl rfl)
  · refine ⟨_, bearer_token_request _ _, accessClaims traderSettings "trader" 0, ?_, rfl, ?_⟩
    · rw [trader_login_issues]
      exact List.mem_cons_self
    · decide +kernel

/-- The user's refresh token, which is no access token, opens a protected endpoint. -/
theorem refresh_token_opens_endpoint :
    ¬∀ (jose : Jose) (settings : AuthSettings) (calls : List TokenCall) (request : Request) (now : ℚ),
      jose.Lawful →
      (∀ token ∈ bearerToken request,
        KeyIsSecret jose settings (Machines.after (step jose settings) {} calls) token) →
      request.path ∉ publicPaths → Passes jose settings request now →
        (Machines.after (step jose settings) {} calls).Carries request "access" now := by
  intro claim
  have bearer := bearer_token_request "/api/trading/positions"
    (traderToken (refreshClaims traderSettings "trader" 0))
  have valid : ¬(refreshClaims traderSettings "trader" 0).Expired ⌊(60 : ℚ)⌋ := by decide +kernel
  obtain ⟨token, isBearer, claims, issued, access, -⟩ := claim plainJose traderSettings [traderLogin]
    (tokenRequest "/api/trading/positions"
      (traderToken (refreshClaims traderSettings "trader" 0))) 60 plain_jose_lawful
    (fun token isBearer => by
      obtain rfl := Option.some.inj (bearer.symm.trans isBearer)
      exact trader_tokens_secret _ (.inr rfl))
    (by decide +kernel) (passes_of_bearer plain_jose_lawful bearer valid)
  obtain rfl := Option.some.inj (bearer.symm.trans isBearer)
  rw [trader_login_issues] at issued
  -- the token is not the access token, as it is made of other claims
  obtain first | second := List.mem_cons.mp issued
  · have same := plain_jose_lawful.encode_injective (congrArg Prod.snd first)
    revert same
    decide +kernel
  · obtain rfl := (Prod.ext_iff.mp (List.mem_singleton.mp second)).1
    revert access
    decide +kernel

end Samples

end TokenRun

end IgTradingBot
