import Mathlib.Algebra.Order.Floor.Ring
import Mathlib.Data.Rat.Floor
import Mathlib.Data.List.Basic

/-!
# Authentication middleware

The authentication of `src/api/middleware.py`: which requests are passed to the application. The
library that signs tokens is a parameter. It keeps times as whole seconds.
-/

namespace IgTradingBot

/-- The claims of a token: texts, and the second in which it expires. -/
structure Claims where
  texts : List (String × String)
  exp : Option ℤ := none
  deriving DecidableEq, Repr

namespace Claims

/-- The text of a claim. -/
def get (claims : Claims) (key : String) : Option String := claims.texts.lookup key

/-- The claims have run out. -/
def Expired (claims : Claims) (now : ℤ) : Prop := ∃ exp ∈ claims.exp, exp < now

instance (claims : Claims) (now : ℤ) : Decidable (claims.Expired now) :=
  inferInstanceAs (Decidable (∃ exp ∈ claims.exp, exp < now))

end Claims

/-- The library that makes tokens of claims and a key, and reads them. -/
structure Jose where
  encode : Claims → String → String
  decode : ℤ → String → String → Option Claims

/-- A token is read as the claims that it was made of, with the same key, until they expire, and
everything else is rejected. -/
structure Jose.Lawful (jose : Jose) : Prop where
  undoes : ∀ {claims now} key, ¬claims.Expired now →
    jose.decode now (jose.encode claims key) key = some claims
  rejects : ∀ {now token key claims}, jose.decode now token key = some claims →
    token = jose.encode claims key ∧ ¬claims.Expired now

/-- A request, with the names of its headers in lower case. -/
structure Request where
  path : String
  headers : List (String × String) := []
  deriving DecidableEq, Repr

/-- What becomes of a request: it is passed on, with the claims of its token if it was read, or
answered. -/
inductive Dispatched where
  | passed (payload : Option Claims)
  | unauthorized (detail : String)
  deriving DecidableEq, Repr

/-- Paths that don't require authentication. -/
def publicPaths : List String :=
  ["/health", "/api/auth/login", "/api/auth/refresh", "/api/trading/loop/status", "/docs",
    "/openapi.json", "/redoc"]

/-- Whether a text begins with another one. -/
def startsWith (text start : String) : Bool := start.toList.isPrefixOf text.toList

/-- What stands after the first blank of a text. -/
def afterBlank (text : String) : String :=
  String.ofList ((text.toList.dropWhile (· ≠ ' ')).drop 1)

/-- Decode and validate a token. -/
def decodeJwtToken (jose : Jose) (token secret : String) (now : ℚ) : Option Claims :=
  jose.decode ⌊now⌋ token secret

/-- The claims of a new token. -/
def createdClaims (data : List (String × String)) (expiresMinutes : ℤ) (now : ℚ) : Claims where
  texts := data
  exp := some (⌊now⌋ + expiresMinutes * 60)

/-- Create a new token. -/
def createJwtToken (jose : Jose) (data : List (String × String)) (secret : String)
    (expiresMinutes : ℤ) (now : ℚ) : String :=
  jose.encode (createdClaims data expiresMinutes now) secret

namespace AuthenticationMiddleware

/-- Whether a path needs no authentication. -/
def isPublicPath (path : String) : Bool := publicPaths.any fun start => startsWith path start

/-- Whether a request asks for a change to the protocol of web sockets. -/
def isUpgrade (request : Request) : Bool := request.headers.lookup "upgrade" = some "websocket"

/-- The token in the header of a request, if it has one. -/
def bearerToken (request : Request) : Option String :=
  match request.headers.lookup "authorization" with
  | none => none
  | some header => if startsWith header "Bearer " then some (afterBlank header) else none

/-- Validate the token of a request for a protected endpoint. -/
def dispatch (jose : Jose) (jwtSecret : String) (now : ℚ) (request : Request) : Dispatched :=
  if isPublicPath request.path || isUpgrade request then .passed none
  else
    match bearerToken request with
    | none => .unauthorized "Missing or invalid authorization header"
    | some token =>
      match decodeJwtToken jose token jwtSecret now with
      | some payload => .passed (some payload)
      | none => .unauthorized "Invalid or expired token"

end AuthenticationMiddleware

end IgTradingBot
