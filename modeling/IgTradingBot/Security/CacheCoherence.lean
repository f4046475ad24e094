import IgTradingBot.Library.Machines
import IgTradingBot.Library.Windows
import IgTradingBot.Security.SecretsManager

/-!
# Coherence of the secrets cache

Runs of calls to the secrets manager. A cached value is always the one that the backend has, as
whoever changes the backend drops the cached value; whether it has expired does not matter for that.
The calls that the rate limiter lets through are noted with their times.
-/

namespace IgTradingBot

open SlidingWindows

/-- A call to the secrets manager. -/
inductive SecretCall where
  | get (key : String) (useCache : Bool) (checkedAt readAt cachedAt : ℚ)
  | set (key value : String) (checkedAt : ℚ)
  | delete (key : String) (checkedAt : ℚ)
  | invalidateCache (key : Option String)
  | rateLimitRemaining (now : ℚ)
  deriving DecidableEq, Repr

/-- What a call answers. -/
inductive SecretReply where
  | value (text : String)
  | stored
  | deleted (found : Bool)
  | invalidated
  | remaining (requests : ℤ)
  deriving DecidableEq, Repr

namespace SecretCall

/-- When the rate limiter reads the clock. -/
def checkedAt : SecretCall → Option ℚ
  | get _ _ checkedAt _ _ => some checkedAt
  | set _ _ checkedAt => some checkedAt
  | delete _ checkedAt => some checkedAt
  | invalidateCache _ => none
  | rateLimitRemaining now => some now

/-- The rate limiter has to let the call through. -/
def limited : SecretCall → Bool
  | get .. => true
  | set .. => true
  | delete .. => true
  | invalidateCache _ => false
  | rateLimitRemaining _ => false

end SecretCall

/-- The call was rejected by the rate limiter. -/
def RejectedSecret {α : Type} : Except SecretError α → Prop
  | .error (.rateLimitExceeded _) => True
  | _ => False

instance {α : Type} : DecidablePred (RejectedSecret (α := α))
  | .error (.rateLimitExceeded _) => inferInstanceAs (Decidable True)
  | .error (.secretNotFound _) => inferInstanceAs (Decidable False)
  | .ok _ => inferInstanceAs (Decidable False)

/-- The manager, the rate limiter's last reading of the clock, and the times of the calls that it let
through. -/
structure SecretRun where
  manager : SecretsManager
  clock : ℚ
  passed : List ℚ := []

namespace SecretRateLimiter

/-- A request is allowed while the window has room, and is then the window's last one. -/
theorem check_cases (limiter : SecretRateLimiter) (now : ℚ) :
    (((limiter.removeExpired now).timestamps.length : ℤ) < limiter.maxRequests ∧
        limiter.check now =
          ({ limiter.removeExpired now with
              timestamps := (limiter.removeExpired now).timestamps ++ [now] }, .ok ())) ∨
      ∃ message, limiter.check now =
        (limiter.removeExpired now, .error (.rateLimitExceeded message)) := by
  by_cases full : limiter.maxRequests ≤ (limiter.removeExpired now).timestamps.length
  · exact .inr ⟨_, if_pos full⟩
  · exact .inl ⟨not_le.mp full, if_neg full⟩

end SecretRateLimiter

namespace SecretsManager

/-- Every cached value is the one that the backend has. -/
def Coherent (environ : String → Option String) (manager : SecretsManager) : Prop :=
  ∀ key, ∀ cached ∈ manager.cache.lookup key,
    manager.backend.getSecret environ key = some cached.value

/-- What a call may do once it is let through: it leaves the rate limiter, is not rejected any more,
and keeps the cache coherent. -/
structure Proper {α : Type} (environ : String → Option String)
    (admitted : SecretsManager → SecretsManager × Except SecretError α) : Prop where
  rateLimiter : ∀ manager, (admitted manager).1.rateLimiter = manager.rateLimiter
  accepted : ∀ manager, ¬RejectedSecret (admitted manager).2
  coherent : ∀ manager, Coherent environ manager → Coherent environ (admitted manager).1

/-- Any call. -/
def call (environ : String → Option String) (manager : SecretsManager) :
    SecretCall → SecretsManager × Except SecretError SecretReply
  | .get key useCache checkedAt readAt cachedAt =>
    let answered := manager.get environ key useCache checkedAt readAt cachedAt
    (answered.1, answered.2.map .value)
  | .set key value checkedAt =>
    let answered := manager.set key value checkedAt
    (answered.1, answered.2.map fun _ => .stored)
  | .delete key checkedAt =>
    let answered := manager.delete key checkedAt
    (answered.1, answered.2.map .deleted)
  | .invalidateCache key => (manager.invalidateCache key, .ok .invalidated)
  | .rateLimitRemaining now =>
    let counted := manager.rateLimitRemaining now
    (counted.1, .ok (.remaining counted.2))

section Operations

variable {environ : String → Option String} {manager : SecretsManager}

/-- A dropped value does not have to agree with anything. -/
theorem Coherent.pop_cache {key : String}
    (others : ∀ other, other ≠ key → ∀ cached ∈ manager.cache.lookup other,
      manager.backend.getSecret environ other = some cached.value) :
    Coherent environ (manager.popCache key) := by
  intro other cached found
  by_cases same : other = key
  · subst same
    exact absurd found (by simp [popCache])
  · refine others other same cached ?_
    rwa [popCache, AList.lookup_erase_ne same] at found

/-- A value that was fetched is cached as the backend has it. -/
theorem Coherent.fetch (coherent : Coherent environ manager) (key : String) (cachedAt : ℚ) :
    Coherent environ (manager.fetch environ key cachedAt).1 := by
  unfold SecretsManager.fetch
  cases stored : manager.backend.getSecret environ key with
  | none => exact coherent
  | some value =>
    intro other cached found
    by_cases same : other = key
    · subst same
      simp only [countAccess, AList.lookup_insert, Option.mem_def, Option.some.injEq] at found
      subst found
      exact stored
    · simp only [countAccess, AList.lookup_insert_ne same] at found
      exact coherent other cached found

/-- Only a missing secret keeps a fetch from succeeding. -/
theorem fetch_accepted (manager : SecretsManager) (key : String) (cachedAt : ℚ) :
    ¬RejectedSecret (manager.fetch environ key cachedAt).2 := by
  unfold fetch
  split <;> exact id

/-- A fetch leaves the rate limiter and the backend. -/
theorem fetch_leaves (manager : SecretsManager) (key : String) (cachedAt : ℚ) :
    (manager.fetch environ key cachedAt).1.rateLimiter = manager.rateLimiter ∧
      (manager.fetch environ key cachedAt).1.backend = manager.backend := by
  unfold fetch
  split <;> exact ⟨rfl, rfl⟩

/-- A fetch that succeeds answers with the backend's value. -/
theorem fetch_eq_ok {key value : String} {cachedAt : ℚ}
    (fetched : (manager.fetch environ key cachedAt).2 = .ok value) :
    manager.backend.getSecret environ key = some value := by
  unfold fetch at fetched
  split at fetched
  · cases fetched
  · next stored =>
    cases fetched
    exact stored

/-- A read answers from the cache, or it fetches, with or without what was cached. -/
theorem read_cases (environ : String → Option String) (manager : SecretsManager) (key : String)
    (useCache : Bool) (readAt cachedAt : ℚ) :
    (∃ cached ∈ manager.cache.lookup key, manager.read environ key useCache readAt cachedAt =
        (manager.countAccess key, .ok cached.value)) ∨
      manager.read environ key useCache readAt cachedAt =
        (manager.popCache key).fetch environ key cachedAt ∨
      manager.read environ key useCache readAt cachedAt = manager.fetch environ key cachedAt := by
  unfold read
  split
  · next cached found =>
    split_ifs at found ⊢
    · exact .inr (.inl rfl)
    · exact .inl ⟨cached, found, rfl⟩
  · exact .inr (.inr rfl)

/-- A read is proper. -/
theorem read_proper (key : String) (useCache : Bool) (readAt cachedAt : ℚ) :
    Proper environ fun manager => manager.read environ key useCache readAt cachedAt := by
  constructor <;> intro manager
  · obtain ⟨cached, -, read⟩ | read | read :=
      read_cases environ manager key useCache readAt cachedAt <;> rw [read]
    · rfl
    · exact (fetch_leaves _ key cachedAt).1
    · exact (fetch_leaves _ key cachedAt).1
  · obtain ⟨cached, -, read⟩ | read | read :=
      read_cases environ manager key useCache readAt cachedAt <;> rw [read]
    · exact id
    · exact fetch_accepted _ key cachedAt
    · exact fetch_accepted _ key cachedAt
  · intro coherent
    obtain ⟨cached, -, read⟩ | read | read :=
      read_cases environ manager key useCache readAt cachedAt <;> rw [read]
    · exact coherent
    · exact (Coherent.pop_cache fun other _ => coherent other).fetch key cachedAt
    · exact coherent.fetch key cachedAt

/-- A read that succeeds answers with the backend's value, which it leaves. -/
theorem read_eq_ok {key value : String} {useCache : Bool} {readAt cachedAt : ℚ}
    (coherent : Coherent environ manager)
    (answered : (manager.read environ key useCache readAt cachedAt).2 = .ok value) :
    manager.backend.getSecret environ key = some value := by
  obtain ⟨cached, found, read⟩ | read | read :=
    read_cases environ manager key useCache readAt cachedAt <;> rw [read] at answered
  · cases answered
    exact coherent key cached found
  · have fetched : (manager.popCache key).backend.getSecret environ key = some value :=
      fetch_eq_ok answered
    exact fetched
  · exact fetch_eq_ok answered

/-- A read leaves the backend. -/
theorem read_leaves (manager : SecretsManager) (key : String) (useCache : Bool) (readAt cachedAt : ℚ) :
    (manager.read environ key useCache readAt cachedAt).1.backend = manager.backend := by
  obtain ⟨cached, -, read⟩ | read | read :=
    read_cases environ manager key useCache readAt cachedAt <;> rw [read]
  · rfl
  · exact (fetch_leaves _ key cachedAt).2
  · exact (fetch_leaves _ key cachedAt).2

/-- A backend that was written at one key only keeps the cache coherent once that key is dropped. -/
theorem Coherent.write (coherent : Coherent environ manager) {key : String}
    {written : LocalSecretsBackend}
    (others : ∀ other, other ≠ key →
      written.getSecret environ other = manager.backend.getSecret environ other) :
    Coherent environ (popCache { manager with backend := written } key) :=
  Coherent.pop_cache fun other different cached found =>
    (others other different).trans (coherent other cached found)

/-- What `set` does once it is let through is proper. -/
theorem set_proper (key value : String) :
    Proper environ fun manager =>
      (popCache { manager with backend := manager.backend.setSecret key value } key,
        (.ok () : Except SecretError Unit)) := by
  refine ⟨fun _ => rfl, fun _ => id, fun manager coherent => coherent.write fun other different => ?_⟩
  simp [LocalSecretsBackend.getSecret, LocalSecretsBackend.setSecret,
    AList.lookup_insert_ne different]

/-- What `delete` does once it is let through is proper. -/
theorem delete_proper (key : String) :
    Proper environ fun manager =>
      (popCache { manager with backend := (manager.backend.deleteSecret key).1 } key,
        (.ok (manager.backend.deleteSecret key).2 : Except SecretError Bool)) := by
  refine ⟨fun _ => rfl, fun _ => id, fun manager coherent => coherent.write fun other different => ?_⟩
  unfold LocalSecretsBackend.deleteSecret
  split_ifs
  · simp [LocalSecretsBackend.getSecret, AList.lookup_erase_ne different]
  · rfl

/-- Values may be dropped at any time. -/
theorem Coherent.invalidate_cache (coherent : Coherent environ manager) (key : Option String) :
    Coherent environ (manager.invalidateCache key) := by
  have cleared : Coherent environ { manager with cache := ∅ } := by
    intro other cached found
    exact absurd found (by simp)
  unfold invalidateCache
  split
  · split_ifs
    · exact cleared
    · exact Coherent.pop_cache fun other _ => coherent other
  · exact cleared

/-- A call under the rate limit is let through while there is room, and only updates the rate limiter
otherwise. -/
theorem limited_cases {α : Type} {admitted : SecretsManager → SecretsManager × Except SecretError α}
    (proper : Proper environ admitted) (manager : SecretsManager) (checkedAt : ℚ) :
    let answered := manager.limited checkedAt admitted
    let trimmed := manager.rateLimiter.removeExpired checkedAt
    ((trimmed.timestamps.length : ℤ) < manager.rateLimiter.maxRequests ∧
        answered.1.rateLimiter = { trimmed with timestamps := trimmed.timestamps ++ [checkedAt] } ∧
        ¬RejectedSecret answered.2 ∧ (Coherent environ manager → Coherent environ answered.1)) ∨
      ∃ message, answered = ({ manager with rateLimiter := trimmed },
        .error (.rateLimitExceeded message)) := by
  intro answered trimmed
  obtain ⟨room, checked⟩ | ⟨message, checked⟩ := manager.rateLimiter.check_cases checkedAt
  · have passed : answered = admitted
        { manager with
          rateLimiter := { trimmed with timestamps := trimmed.timestamps ++ [checkedAt] } } := by
      simp only [answered, limited, checked, trimmed]
    rw [passed]
    exact .inl ⟨room, proper.rateLimiter _, proper.accepted _,
      fun coherent => proper.coherent _ coherent⟩
  · refine .inr ⟨message, ?_⟩
    simp only [answered, limited, checked, trimmed]

/-- Another answer of the same kind is as proper. -/
theorem Proper.map {α β : Type} {admitted : SecretsManager → SecretsManager × Except SecretError α}
    (proper : Proper environ admitted) (reply : α → β) :
    Proper environ fun manager => ((admitted manager).1, (admitted manager).2.map reply) := by
  refine ⟨proper.rateLimiter, fun manager => ?_, proper.coherent⟩
  have accepted := proper.accepted manager
  dsimp only
  cases answered : (admitted manager).2 with
  | ok _ => exact id
  | error reason =>
    rw [answered] at accepted
    cases reason with
    | rateLimitExceeded _ => exact accepted
    | secretNotFound _ => exact id

/-- The answer of a call under the rate limit is turned into another one once it is let through. -/
theorem limited_map {α β : Type} (manager : SecretsManager) (checkedAt : ℚ)
    (admitted : SecretsManager → SecretsManager × Except SecretError α) (reply : α → β) :
    ((manager.limited checkedAt admitted).1, (manager.limited checkedAt admitted).2.map reply) =
      manager.limited checkedAt
        fun manager => ((admitted manager).1, (admitted manager).2.map reply) := by
  cases checked : (manager.rateLimiter.check checkedAt).2 with
  | error _ => simp only [limited, checked, Except.map]
  | ok _ => simp only [limited, checked]

/-- What any call is: one under the rate limit with a proper effect, or one that leaves the backend
and at most drops cached values and old timestamps. -/
theorem call_cases (environ : String → Option String) (manager : SecretsManager) (call : SecretCall) :
    (call.limited = true ∧ ∃ checkedAt admitted, call.checkedAt = some checkedAt ∧
        Proper environ admitted ∧
        manager.call environ call = manager.limited checkedAt admitted) ∨
      (call.limited = false ∧ ¬RejectedSecret (manager.call environ call).2 ∧
        (Coherent environ manager → Coherent environ (manager.call environ call).1) ∧
        ((manager.call environ call).1.rateLimiter = manager.rateLimiter ∨
          ∃ now ∈ call.checkedAt,
            (manager.call environ call).1.rateLimiter = manager.rateLimiter.removeExpired now)) := by
  cases call with
  | get key useCache checkedAt readAt cachedAt =>
    exact .inl ⟨rfl, checkedAt, _, rfl, (read_proper key useCache readAt cachedAt).map .value,
      limited_map _ _ _ _⟩
  | set key value checkedAt =>
    exact .inl ⟨rfl, checkedAt, _, rfl, (set_proper key value).map fun _ => .stored,
      limited_map _ _ _ _⟩
  | delete key checkedAt =>
    exact .inl ⟨rfl, checkedAt, _, rfl, (delete_proper key).map .deleted, limited_map _ _ _ _⟩
  | invalidateCache key =>
    refine .inr ⟨rfl, id, fun coherent => coherent.invalidate_cache key, .inl ?_⟩
    simp only [SecretsManager.call, invalidateCache]
    split
    · split_ifs <;> rfl
    · rfl
  | rateLimitRemaining now => exact .inr ⟨rfl, id, id, .inr ⟨now, rfl, rfl⟩⟩

/-- A `get` that succeeds answers with the backend's value, and leaves the backend. -/
theorem get_eq_ok {key value : String} {useCache : Bool} {checkedAt readAt cachedAt : ℚ}
    (coherent : Coherent environ manager)
    (answered : (manager.get environ key useCache checkedAt readAt cachedAt).2 = .ok value) :
    manager.backend.getSecret environ key = some value ∧
      (manager.get environ key useCache checkedAt readAt cachedAt).1.backend = manager.backend := by
  unfold get limited at answered ⊢
  cases checked : (manager.rateLimiter.check checkedAt).2 with
  | error reason =>
    simp only [checked] at answered
    cases answered
  | ok _ =>
    simp only [checked] at answered ⊢
    have admitted : Coherent environ
        { manager with rateLimiter := (manager.rateLimiter.check checkedAt).1 } := coherent
    have stored := read_eq_ok admitted answered
    exact ⟨stored, read_leaves _ _ _ _ _⟩

end Operations

end SecretsManager

namespace SecretRun

open SecretsManager

/-- A new manager with its settings. -/
def start (rateLimit window cacheTtl : ℤ) (clock : ℚ) : SecretRun where
  manager := .create rateLimit window cacheTtl
  clock

/-- One call. -/
def step (environ : String → Option String) (run : SecretRun) (call : SecretCall) : SecretRun :=
  let answered := run.manager.call environ call
  { manager := answered.1
    clock := call.checkedAt.getD run.clock
    passed :=
      if call.limited = true ∧ ¬RejectedSecret answered.2 then run.passed ++ call.checkedAt.toList
      else run.passed }

/-- The clock has not gone back. -/
def InOrder (run : SecretRun) (call : SecretCall) : Prop := ∀ time ∈ call.checkedAt, run.clock ≤ time

instance (run : SecretRun) (call : SecretCall) : Decidable (run.InOrder call) :=
  inferInstanceAs (Decidable (∀ time ∈ call.checkedAt, run.clock ≤ time))

/-- The cache is coherent, and the timestamps of the rate limiter are the last times of the calls that
it let through, of which no window has more than it may. -/
structure Sound (environ : String → Option String) (rateLimit window : ℤ) (run : SecretRun) :
    Prop where
  coherent : Coherent environ run.manager
  maxRequests : run.manager.rateLimiter.maxRequests = rateLimit
  windowSeconds : run.manager.rateLimiter.windowSeconds = window
  trimmed : Trimmed id (window : ℚ) run.clock rateLimit.toNat
    run.manager.rateLimiter.timestamps run.passed

section Runs

variable {environ : String → Option String} {rateLimit window : ℤ} {run : SecretRun}

/-- A new manager is sound. -/
theorem start_sound (environ : String → Option String) (rateLimit window cacheTtl : ℤ) (clock : ℚ) :
    (start rateLimit window cacheTtl clock).Sound environ rateLimit window := by
  refine ⟨?_, rfl, rfl, trimmed_nil clock _⟩
  intro key cached found
  exact absurd found (by simp [start, create])

/-- Expired timestamps may be removed. -/
theorem Sound.remove_expired (sound : run.Sound environ rateLimit window) {now : ℚ}
    (later : run.clock ≤ now) :
    Trimmed id (window : ℚ) now rateLimit.toNat
      (run.manager.rateLimiter.removeExpired now).timestamps run.passed := by
  have trimmed := (sound.trimmed.wait later).trim
  rw [← sound.windowSeconds] at trimmed ⊢
  exact trimmed

/-- A call under the rate limit keeps a run sound, whether it is let through or not. -/
theorem Sound.step_limited (sound : run.Sound environ rateLimit window) {call : SecretCall}
    (limited : call.limited = true) {checkedAt : ℚ} (isChecked : call.checkedAt = some checkedAt)
    (later : run.clock ≤ checkedAt)
    {admitted : SecretsManager → SecretsManager × Except SecretError SecretReply}
    (proper : Proper environ admitted)
    (called : run.manager.call environ call = run.manager.limited checkedAt admitted) :
    (run.step environ call).Sound environ rateLimit window := by
  have trimmed := sound.remove_expired later
  have clock : (run.step environ call).clock = checkedAt := by
    simp only [SecretRun.step, isChecked, Option.getD_some]
  obtain ⟨room, rateLimiter, accepted, coherent⟩ | ⟨message, rejected⟩ :=
    limited_cases proper run.manager checkedAt
  · rw [← called] at rateLimiter accepted coherent
    have free : (run.manager.rateLimiter.removeExpired checkedAt).timestamps.length <
        rateLimit.toNat := by
      rw [sound.maxRequests] at room
      omega
    have joins : Trimmed id (window : ℚ) checkedAt rateLimit.toNat
        ((run.manager.rateLimiter.removeExpired checkedAt).timestamps ++ [checkedAt])
        (run.passed ++ [checkedAt]) := trimmed.append free
    have noted : (run.step environ call).passed = run.passed ++ [checkedAt] := by
      simp only [SecretRun.step, limited, accepted, isChecked, not_false_eq_true, and_self, if_true,
        Option.toList_some]
    have kept : (run.step environ call).manager.rateLimiter.timestamps =
        (run.manager.rateLimiter.removeExpired checkedAt).timestamps ++ [checkedAt] :=
      congrArg SecretRateLimiter.timestamps rateLimiter
    refine ⟨coherent sound.coherent, ?_, ?_, ?_⟩
    · exact (congrArg SecretRateLimiter.maxRequests rateLimiter).trans sound.maxRequests
    · exact (congrArg SecretRateLimiter.windowSeconds rateLimiter).trans sound.windowSeconds
    · rw [clock, noted, kept]
      exact joins
  · rw [← called] at rejected
    have unnoted : (run.step environ call).passed = run.passed :=
      if_neg fun accepted => accepted.2 (by rw [rejected]; trivial)
    have manager : (run.step environ call).manager =
        { run.manager with rateLimiter := run.manager.rateLimiter.removeExpired checkedAt } :=
      congrArg Prod.fst rejected
    constructor <;> rw [manager]
    · exact sound.coherent
    · exact sound.maxRequests
    · exact sound.windowSeconds
    · rw [clock, unnoted]
      exact trimmed

/-- Every call of a clock that does not go back keeps a run sound. -/
theorem Sound.step (sound : run.Sound environ rateLimit window) (call : SecretCall)
    (inOrder : run.InOrder call) : (run.step environ call).Sound environ rateLimit window := by
  obtain ⟨limited, checkedAt, admitted, isChecked, proper, called⟩ |
    ⟨unlimited, accepted, coherent, leaves⟩ := call_cases environ run.manager call
  · exact sound.step_limited limited isChecked (inOrder checkedAt isChecked) proper called
  · have unnoted : (run.step environ call).passed = run.passed := if_neg (by simp [unlimited])
    obtain same | ⟨now, isNow, removed⟩ := leaves
    · have later : run.clock ≤ (run.step environ call).clock := by
        cases isChecked : call.checkedAt with
        | none => simp [SecretRun.step, isChecked]
        | some time => simpa [SecretRun.step, isChecked] using inOrder time isChecked
      refine ⟨coherent sound.coherent, ?_, ?_, ?_⟩
      · exact (congrArg SecretRateLimiter.maxRequests same).trans sound.maxRequests
      · exact (congrArg SecretRateLimiter.windowSeconds same).trans sound.windowSeconds
      · rw [unnoted]
        exact (congrArg SecretRateLimiter.timestamps same).symm ▸ sound.trimmed.wait later
    · have clock : (run.step environ call).clock = now := by
        simp only [SecretRun.step, Option.mem_def.mp isNow, Option.getD_some]
      refine ⟨coherent sound.coherent, ?_, ?_, ?_⟩
      · exact (congrArg SecretRateLimiter.maxRequests removed).trans sound.maxRequests
      · exact (congrArg SecretRateLimiter.windowSeconds removed).trans sound.windowSeconds
      · rw [unnoted, clock]
        exact (congrArg SecretRateLimiter.timestamps removed).symm ▸
          sound.remove_expired (inOrder now isNow)

/-- A rejected call leaves all but the rate limiter. -/
theorem rejected_leaves {manager : SecretsManager} {call : SecretCall}
    (rejected : RejectedSecret (manager.call environ call).2) :
    (manager.call environ call).1.cache = manager.cache ∧
      (manager.call environ call).1.backend = manager.backend ∧
      (manager.call environ call).1.accessCounts = manager.accessCounts := by
  obtain ⟨-, checkedAt, admitted, -, proper, called⟩ | ⟨-, accepted, -⟩ :=
    call_cases environ manager call
  · rw [called] at rejected ⊢
    obtain ⟨-, -, accepted, -⟩ | ⟨message, same⟩ := limited_cases proper manager checkedAt
    · exact absurd rejected accepted
    · rw [same]
      exact ⟨rfl, rfl, rfl⟩
  · exact absurd rejected accepted

end Runs

/-- For every environment, all settings of the manager, and every run of calls on a clock that does
not go back: a `get` that succeeds answers with the backend's value for the key, which it leaves; a
rejected call leaves the cache and the backend; and no window of the rate limiter, with both of its
edges, has more calls that were let through than the rate limit. -/
theorem cache_is_coherent (environ : String → Option String) (rateLimit window cacheTtl : ℤ)
    (clock : ℚ) (calls : List SecretCall)
    (inOrder : Machines.Conforms (step environ) InOrder
      (start rateLimit window cacheTtl clock) calls) :
    let run := Machines.after (step environ) (start rateLimit window cacheTtl clock) calls
    (∀ key useCache checkedAt readAt cachedAt value,
        (run.manager.get environ key useCache checkedAt readAt cachedAt).2 = .ok value →
          run.manager.backend.getSecret environ key = some value ∧
            (run.manager.get environ key useCache checkedAt readAt cachedAt).1.backend =
              run.manager.backend) ∧
      (∀ call, RejectedSecret (run.manager.call environ call).2 →
        (run.manager.call environ call).1.cache = run.manager.cache ∧
          (run.manager.call environ call).1.backend = run.manager.backend) ∧
      ∀ windowStart : ℚ, ((run.passed.filter fun time =>
        windowStart ≤ time ∧ time ≤ windowStart + window).length : ℤ) ≤ max 0 rateLimit := by
  intro run
  have keeps : ∀ (current : SecretRun) (call : SecretCall),
      current.Sound environ rateLimit window → current.InOrder call →
        (current.step environ call).Sound environ rateLimit window :=
    fun _ call sound inOrder => sound.step call inOrder
  have sound : run.Sound environ rateLimit window :=
    Machines.after_keeps keeps (start_sound environ rateLimit window cacheTtl clock) inOrder
  refine ⟨fun key useCache checkedAt readAt cachedAt value => get_eq_ok sound.coherent, ?_, ?_⟩
  · intro call rejected
    obtain ⟨cache, backend, -⟩ := rejected_leaves rejected
    exact ⟨cache, backend⟩
  · intro windowStart
    have bound := sound.trimmed.windows windowStart
    simp only [spanning, id_eq] at bound
    omega

section Samples

/-- A secret is stored, read and deleted. -/
def sampleCalls : List SecretCall :=
  [.set "API_KEY" "stored" 0, .get "API_KEY" true 1 1 1, .delete "API_KEY" 2]

/-- Once a stored secret is deleted, the next `get` answers what the environment has, and not what was
cached. -/
theorem environment_after_delete :
    let run := Machines.after (step fun _ => some "environment") (start 60 60 300 0) sampleCalls
    (run.manager.get (fun _ => some "environment") "API_KEY" true 3 3 3).2 = .ok "environment" ∧
      run.manager.backend.getSecret (fun _ => some "environment") "API_KEY" = some "environment" := by
  have answered : ((Machines.after (step fun _ => some "environment") (start 60 60 300 0)
      sampleCalls).manager.get (fun _ => some "environment") "API_KEY" true 3 3 3).2 =
        .ok "environment" := by
    decide +kernel
  have coherent := cache_is_coherent (fun _ => some "environment") 60 60 300 0 sampleCalls
    ⟨by decide +kernel, by decide +kernel, by decide +kernel, trivial⟩
  exact ⟨answered, (coherent.1 "API_KEY" true 3 3 3 "environment" answered).1⟩

end Samples

end SecretRun

end IgTradingBot
