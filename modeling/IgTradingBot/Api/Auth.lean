import IgTradingBot.Api.Middleware
import IgTradingBot.Library.Windows
import Mathlib.Algebra.Order.Ring.Rat
import Mathlib.Data.List.AList

/-!
# Authentication routes

Login, refresh and the lockout of `src/api/routes/auth.py`. Times are seconds. Every reading of the
clock is an argument, as a login takes several.
-/

namespace IgTradingBot

open SlidingWindows

/-- The settings that authentication reads. -/
structure AuthSettings where
  igUsername : String := ""
  igPassword : String := ""
  jwtSecretKey : String
  jwtAccessTokenExpireMinutes : ℤ := 15
  jwtRefreshTokenExpireDays : ℤ := 7
  deriving DecidableEq, Repr

/-- A login response with tokens. -/
structure LoginResponse where
  accessToken : String
  refreshToken : String
  tokenType : String := "bearer"
  expiresIn : ℤ
  deriving DecidableEq, Repr

/-- An error that a route answers. -/
structure HttpException where
  statusCode : ℕ
  detail : String
  deriving DecidableEq, Repr

/-- The recent failed attempts and the times at which locks end, by username. -/
structure LockoutState where
  failedAttempts : AList (fun _ : String => List ℚ) := ∅
  lockedAccounts : AList (fun _ : String => ℚ) := ∅

/-- An attempt to log in, with the clock's readings: at the check of the lock, at the check of the
credentials, at the count of failures, at a lock, and at the creation of the tokens. -/
structure LoginAttempt where
  username : String
  password : String
  checkedAt : ℚ
  validatedAt : ℚ
  countedAt : ℚ
  lockedAt : ℚ
  accessIssuedAt : ℚ
  refreshIssuedAt : ℚ
  deriving DecidableEq, Repr

namespace Auth

/-- Failed attempts that lock an account. -/
def maxFailedAttempts : ℕ := 5

/-- Minutes for which an account is locked. -/
def lockoutDurationMinutes : ℚ := 15

/-- Seconds for which an account is locked. -/
def lockoutDuration : ℚ := lockoutDurationMinutes * 60

/-- The detail of an answer that an account is locked. -/
def lockedDetail : String :=
  "Account locked due to too many failed attempts. Try again in 15 minutes."

section Lockout

variable (state : LockoutState) (username : String) (now : ℚ)

/-- Clear failed attempts for a user. -/
def clearFailedAttempts : LockoutState :=
  { state with failedAttempts := state.failedAttempts.erase username }

/-- Check if an account is locked. A lock that has run out is removed. -/
def isAccountLocked : LockoutState × Bool :=
  match state.lockedAccounts.lookup username with
  | none => (state, false)
  | some lockExpiry =>
    if lockExpiry ≤ now then
      (clearFailedAttempts
        { state with lockedAccounts := state.lockedAccounts.erase username } username, false)
    else (state, true)

/-- Lock an account. -/
def lockAccount : LockoutState :=
  { state with lockedAccounts := state.lockedAccounts.insert username (now + lockoutDuration) }

/-- Record a failed login attempt, and keep only those of the lockout window. -/
def recordFailedAttempt : LockoutState :=
  let attempts := (state.failedAttempts.lookup username).getD []
  { state with
    failedAttempts :=
      state.failedAttempts.insert username (recent id lockoutDuration now (attempts ++ [now])) }

/-- Get the number of recent failed attempts. -/
def getFailedAttemptCount : LockoutState × ℕ :=
  match state.failedAttempts.lookup username with
  | none => (state, 0)
  | some attempts =>
    let kept := recent id lockoutDuration now attempts
    ({ state with failedAttempts := state.failedAttempts.insert username kept }, kept.length)

end Lockout

/-- Validate user credentials. -/
def validateCredentials (settings : AuthSettings) (username password : String) : Bool :=
  username = settings.igUsername && password = settings.igPassword

/-- The data of a token. -/
def tokenData (username kind : String) : List (String × String) :=
  [("sub", username), ("type", kind)]

/-- The claims of a new access token. -/
def accessClaims (settings : AuthSettings) (username : String) (now : ℚ) : Claims :=
  createdClaims (tokenData username "access") settings.jwtAccessTokenExpireMinutes now

/-- The claims of a new refresh token. -/
def refreshClaims (settings : AuthSettings) (username : String) (now : ℚ) : Claims :=
  createdClaims (tokenData username "refresh") (settings.jwtRefreshTokenExpireDays * 24 * 60) now

/-- A response with two new tokens. -/
def issueTokens (jose : Jose) (settings : AuthSettings) (username : String)
    (accessIssuedAt refreshIssuedAt : ℚ) : LoginResponse where
  accessToken := createJwtToken jose (tokenData username "access") settings.jwtSecretKey
    settings.jwtAccessTokenExpireMinutes accessIssuedAt
  refreshToken := createJwtToken jose (tokenData username "refresh") settings.jwtSecretKey
    (settings.jwtRefreshTokenExpireDays * 24 * 60) refreshIssuedAt
  expiresIn := settings.jwtAccessTokenExpireMinutes * 60

/-- What follows a check of credentials that failed. -/
def failLogin (state : LockoutState) (attempt : LoginAttempt) : LockoutState × HttpException :=
  let recorded := recordFailedAttempt state attempt.username attempt.validatedAt
  let counted := getFailedAttemptCount recorded attempt.username attempt.countedAt
  let remaining : ℤ := maxFailedAttempts - counted.2
  if remaining ≤ 0 then (lockAccount counted.1 attempt.username attempt.lockedAt, ⟨423, lockedDetail⟩)
  else (counted.1, ⟨401, s!"Invalid credentials. {remaining} attempts remaining."⟩)

/-- Authenticate a user and return tokens. -/
def login (jose : Jose) (settings : AuthSettings) (state : LockoutState) (attempt : LoginAttempt) :
    LockoutState × Except HttpException LoginResponse :=
  let checked := isAccountLocked state attempt.username attempt.checkedAt
  if checked.2 then (checked.1, .error ⟨423, lockedDetail⟩)
  else if validateCredentials settings attempt.username attempt.password then
    (clearFailedAttempts checked.1 attempt.username,
      .ok (issueTokens jose settings attempt.username attempt.accessIssuedAt
        attempt.refreshIssuedAt))
  else
    let failed := failLogin checked.1 attempt
    (failed.1, .error failed.2)

/-- Refresh an access token using a valid refresh token. -/
def refreshToken (jose : Jose) (settings : AuthSettings) (token : String)
    (now accessIssuedAt refreshIssuedAt : ℚ) : Except HttpException LoginResponse :=
  match jose.decode ⌊now⌋ token settings.jwtSecretKey with
  | none => .error ⟨401, "Invalid or expired refresh token"⟩
  | some payload =>
    if payload.get "type" = some "refresh" then
      .ok (issueTokens jose settings ((payload.get "sub").getD "") accessIssuedAt refreshIssuedAt)
    else .error ⟨401, "Invalid token type"⟩

end Auth

end IgTradingBot
