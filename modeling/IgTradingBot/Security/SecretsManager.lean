import Mathlib.Algebra.Order.Ring.Rat
import Mathlib.Data.List.AList

/-!
# Secrets manager

Rate-limited access to secrets with a cache, after `src/security/secrets_manager.py`. Every backend
type falls back to the local backend, which reads its own store first and then the environment. Times
are seconds. Every reading of the clock is an argument, as a call takes several.
-/

namespace IgTradingBot

/-- Why a call of the secrets manager fails. -/
inductive SecretError where
  | rateLimitExceeded (message : String)
  | secretNotFound (message : String)
  deriving DecidableEq, Repr

/-- Rate limiter for secret access. The timestamps are those of the sliding window. -/
structure SecretRateLimiter where
  maxRequests : ℤ := 60
  windowSeconds : ℤ := 60
  timestamps : List ℚ := []
  deriving DecidableEq, Repr

namespace SecretRateLimiter

variable (limiter : SecretRateLimiter) (now : ℚ)

/-- Remove expired timestamps. -/
def removeExpired : SecretRateLimiter :=
  { limiter with
    timestamps := limiter.timestamps.dropWhile fun timestamp => timestamp < now - limiter.windowSeconds }

/-- Check if a request is allowed under the rate limit. -/
def check : SecretRateLimiter × Except SecretError Unit :=
  let current := limiter.removeExpired now
  if limiter.maxRequests ≤ current.timestamps.length then
    (current, .error (.rateLimitExceeded
      s!"Rate limit exceeded: {limiter.maxRequests} requests per {limiter.windowSeconds} seconds"))
  else ({ current with timestamps := current.timestamps ++ [now] }, .ok ())

/-- The number of remaining requests in the current window. -/
def remaining : SecretRateLimiter × ℤ :=
  let current := limiter.removeExpired now
  (current, max 0 (limiter.maxRequests - current.timestamps.length))

end SecretRateLimiter

/-- A cached secret value, with the time at which it expires. -/
structure CachedSecret where
  value : String
  expiresAt : ℚ
  deriving DecidableEq, Repr

/-- A secret is cached for a number of seconds. -/
def CachedSecret.create (value : String) (ttlSeconds : ℤ) (now : ℚ) : CachedSecret :=
  ⟨value, now + ttlSeconds⟩

/-- Check if the cached value has expired. -/
def CachedSecret.isExpired (cached : CachedSecret) (now : ℚ) : Bool := cached.expiresAt ≤ now

/-- Local secrets backend, with its override store. -/
structure LocalSecretsBackend where
  overrides : AList (fun _ : String => String) := ∅

namespace LocalSecretsBackend

variable (environ : String → Option String) (backend : LocalSecretsBackend) (key value : String)

/-- Get secret from overrides first, then environment. -/
def getSecret : Option String :=
  match backend.overrides.lookup key with
  | some stored => some stored
  | none => environ key

/-- Store secret in the override dict. -/
def setSecret : LocalSecretsBackend := { overrides := backend.overrides.insert key value }

/-- Remove secret from overrides. -/
def deleteSecret : LocalSecretsBackend × Bool :=
  if key ∈ backend.overrides then ({ overrides := backend.overrides.erase key }, true)
  else (backend, false)

end LocalSecretsBackend

/-- Unified secrets manager with rate limiting and caching. -/
structure SecretsManager where
  backend : LocalSecretsBackend := {}
  rateLimiter : SecretRateLimiter
  cache : AList (fun _ : String => CachedSecret) := ∅
  cacheTtl : ℤ := 300
  accessCounts : AList (fun _ : String => ℕ) := ∅

namespace SecretsManager

/-- A new manager. -/
def create (rateLimit rateWindowSeconds cacheTtlSeconds : ℤ) : SecretsManager where
  rateLimiter := { maxRequests := rateLimit, windowSeconds := rateWindowSeconds }
  cacheTtl := cacheTtlSeconds

variable (environ : String → Option String) (manager : SecretsManager) (key : String)

/-- One access more is counted for a key. -/
def countAccess : SecretsManager :=
  { manager with
    accessCounts := manager.accessCounts.insert key ((manager.accessCounts.lookup key).getD 0 + 1) }

/-- The cached value of a key is dropped. -/
def popCache : SecretsManager := { manager with cache := manager.cache.erase key }

/-- Fetch from the backend, and cache the value. -/
def fetch (cachedAt : ℚ) : SecretsManager × Except SecretError String :=
  match manager.backend.getSecret environ key with
  | none => (manager, .error (.secretNotFound s!"Secret not found: {key}"))
  | some value =>
    let cached : SecretsManager :=
      { manager with cache := manager.cache.insert key (.create value manager.cacheTtl cachedAt) }
    (cached.countAccess key, .ok value)

/-- What follows a check of the rate limit in `get`: the cache, then the backend. -/
def read (useCache : Bool) (readAt cachedAt : ℚ) : SecretsManager × Except SecretError String :=
  match if useCache then manager.cache.lookup key else none with
  | some cached =>
    if cached.isExpired readAt then (manager.popCache key).fetch environ key cachedAt
    else (manager.countAccess key, .ok cached.value)
  | none => manager.fetch environ key cachedAt

/-- What a call does once the rate limiter lets it through. A call that is not let through only
updates the rate limiter. -/
def limited {α : Type} (checkedAt : ℚ)
    (admitted : SecretsManager → SecretsManager × Except SecretError α) :
    SecretsManager × Except SecretError α :=
  let checked := manager.rateLimiter.check checkedAt
  match checked.2 with
  | .error reason => ({ manager with rateLimiter := checked.1 }, .error reason)
  | .ok () => admitted { manager with rateLimiter := checked.1 }

/-- Retrieve a secret by key with rate limiting and caching. -/
def get (useCache : Bool) (checkedAt readAt cachedAt : ℚ) :
    SecretsManager × Except SecretError String :=
  manager.limited checkedAt fun admitted => admitted.read environ key useCache readAt cachedAt

/-- Store a secret. -/
def set (value : String) (checkedAt : ℚ) : SecretsManager × Except SecretError Unit :=
  manager.limited checkedAt fun admitted =>
    let stored := { admitted with backend := admitted.backend.setSecret key value }
    (stored.popCache key, .ok ())

/-- Delete a secret. -/
def delete (checkedAt : ℚ) : SecretsManager × Except SecretError Bool :=
  manager.limited checkedAt fun admitted =>
    let result := admitted.backend.deleteSecret key
    let deleted := { admitted with backend := result.1 }
    (deleted.popCache key, .ok result.2)

/-- Invalidate the cached secret of a key, or all of them without a key. -/
def invalidateCache (key : Option String) : SecretsManager :=
  match key with
  | some name => if name = "" then { manager with cache := ∅ } else manager.popCache name
  | none => { manager with cache := ∅ }

/-- The number of remaining rate-limited requests. -/
def rateLimitRemaining (now : ℚ) : SecretsManager × ℤ :=
  let counted := manager.rateLimiter.remaining now
  ({ manager with rateLimiter := counted.1 }, counted.2)

end SecretsManager

end IgTradingBot
