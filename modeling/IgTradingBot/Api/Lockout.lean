import IgTradingBot.Api.Auth
import IgTradingBot.Library.Machines
import Mathlib.Tactic.Linarith

/-!
# Account lockout

What a login does to one account, and what every run of login attempts does to all of them. The two
tables hold one account for each username; an attempt reads and writes only that of its own. An
account that is not locked has had fewer failures in the lockout window than it takes to lock it.
-/

namespace IgTradingBot

open SlidingWindows

/-- What the two tables hold for one username. -/
structure Account where
  failedAttempts : List ℚ := []
  lockedUntil : Option ℚ := none
  deriving DecidableEq, Repr

/-- How an attempt to log in ends. -/
inductive LoginVerdict where
  | blocked
  | failed (remaining : ℤ)
  | locked
  | granted
  deriving DecidableEq, Repr

/-- A check of the credentials of a username. -/
structure CredentialCheck where
  username : String
  time : ℚ
  succeeded : Bool
  deriving DecidableEq, Repr

/-- The last reading of the clock, the tables, and every check of credentials that was made. -/
structure LoginRun where
  clock : ℚ
  state : LockoutState := {}
  checks : List CredentialCheck := []

namespace Account

open Auth

/-- The account of a username. -/
def ofState (state : LockoutState) (username : String) : Account where
  failedAttempts := (state.failedAttempts.lookup username).getD []
  lockedUntil := state.lockedAccounts.lookup username

/-- A lock is in force. -/
def Locked (account : Account) (now : ℚ) : Prop := ∃ expiry ∈ account.lockedUntil, now < expiry

instance (account : Account) (now : ℚ) : Decidable (account.Locked now) :=
  inferInstanceAs (Decidable (∃ expiry ∈ account.lockedUntil, now < expiry))

/-- The failures of an account once a lock that has run out is removed. -/
def openAttempts (account : Account) : List ℚ :=
  if account.lockedUntil = none then account.failedAttempts else []

/-- The failures that are kept when a further one is recorded and counted. -/
def keptAttempts (account : Account) (attempt : LoginAttempt) : List ℚ :=
  recent id lockoutDuration attempt.countedAt
    (recent id lockoutDuration attempt.validatedAt (account.openAttempts ++ [attempt.validatedAt]))

/-- What an attempt to log in does to the account. -/
def login (settings : AuthSettings) (account : Account) (attempt : LoginAttempt) :
    Account × LoginVerdict :=
  if account.Locked attempt.checkedAt then (account, .blocked)
  else if validateCredentials settings attempt.username attempt.password then ({}, .granted)
  else
    let kept := account.keptAttempts attempt
    if maxFailedAttempts ≤ kept.length then
      ({ failedAttempts := kept, lockedUntil := some (attempt.lockedAt + lockoutDuration) }, .locked)
    else ({ failedAttempts := kept }, .failed (maxFailedAttempts - kept.length))

/-- What a verdict is answered with. -/
def answer (jose : Jose) (settings : AuthSettings) (attempt : LoginAttempt) :
    LoginVerdict → Except HttpException LoginResponse
  | .blocked => .error ⟨423, lockedDetail⟩
  | .locked => .error ⟨423, lockedDetail⟩
  | .failed remaining => .error ⟨401, s!"Invalid credentials. {remaining} attempts remaining."⟩
  | .granted => .ok (issueTokens jose settings attempt.username attempt.accessIssuedAt
      attempt.refreshIssuedAt)

section Tables

variable {state : LockoutState} {username other : String} {now : ℚ}

/-- The check of a lock removes it, and the failures, if it has run out. -/
theorem is_account_locked_spec (state : LockoutState) (username : String) (now : ℚ) :
    let account := ofState state username
    let checked := isAccountLocked state username now
    (checked.2 = true ↔ account.Locked now) ∧ (checked.2 = true → checked.1 = state) ∧
      (checked.2 = false →
        ofState checked.1 username = { failedAttempts := account.openAttempts }) := by
  cases lock : state.lockedAccounts.lookup username with
  | none => simp [isAccountLocked, Locked, openAttempts, ofState, lock]
  | some expiry =>
    by_cases ended : expiry ≤ now
    · simp [isAccountLocked, Locked, openAttempts, ofState, lock, ended, clearFailedAttempts]
    · simp [isAccountLocked, Locked, ofState, lock, ended, not_le.mp ended]

/-- The check of a lock leaves other accounts as they are. -/
theorem is_account_locked_other (different : other ≠ username) :
    ofState (isAccountLocked state username now).1 other = ofState state other := by
  unfold isAccountLocked
  split
  · rfl
  · split_ifs
    · simp [ofState, clearFailedAttempts, AList.lookup_erase_ne different]
    · rfl

/-- A failure is recorded in its account. -/
theorem record_failed_attempt_spec (state : LockoutState) (username : String) (now : ℚ) :
    ofState (recordFailedAttempt state username now) username =
      { ofState state username with
        failedAttempts := recent id lockoutDuration now
          ((ofState state username).failedAttempts ++ [now]) } := by
  simp [ofState, recordFailedAttempt]

/-- A failure is recorded in no other account. -/
theorem record_failed_attempt_other (different : other ≠ username) :
    ofState (recordFailedAttempt state username now) other = ofState state other := by
  simp [ofState, recordFailedAttempt, AList.lookup_insert_ne different]

/-- The count of failures drops the old ones. -/
theorem get_failed_attempt_count_spec (state : LockoutState) (username : String) (now : ℚ) :
    let kept := recent id lockoutDuration now (ofState state username).failedAttempts
    ofState (getFailedAttemptCount state username now).1 username =
        { ofState state username with failedAttempts := kept } ∧
      (getFailedAttemptCount state username now).2 = kept.length := by
  unfold getFailedAttemptCount
  cases found : state.failedAttempts.lookup username with
  | none => simp [ofState, found, recent]
  | some attempts => simp [ofState, found]

/-- The count of failures leaves other accounts as they are. -/
theorem get_failed_attempt_count_other (different : other ≠ username) :
    ofState (getFailedAttemptCount state username now).1 other = ofState state other := by
  unfold getFailedAttemptCount
  split
  · rfl
  · simp [ofState, AList.lookup_insert_ne different]

/-- A lock is entered into its account, and into no other. -/
theorem lock_account_spec (state : LockoutState) (username other : String) (now : ℚ) :
    ofState (lockAccount state username now) other =
      if other = username then
        { ofState state other with lockedUntil := some (now + lockoutDuration) }
      else ofState state other := by
  split_ifs with same
  · subst same
    simp [ofState, lockAccount]
  · simp [ofState, lockAccount, AList.lookup_insert_ne same]

/-- A success clears the failures of its account, and of no other. -/
theorem clear_failed_attempts_spec (state : LockoutState) (username other : String) :
    ofState (clearFailedAttempts state username) other =
      if other = username then { ofState state other with failedAttempts := [] }
      else ofState state other := by
  split_ifs with same
  · subst same
    simp [ofState, clearFailedAttempts]
  · simp [ofState, clearFailedAttempts, AList.lookup_erase_ne same]

end Tables

section Logins

variable {jose : Jose} {settings : AuthSettings} {state : LockoutState} {attempt : LoginAttempt}

/-- A login does to the tables what it does to the account of its username. -/
theorem login_refines (jose : Jose) (settings : AuthSettings) (state : LockoutState)
    (attempt : LoginAttempt) :
    let account := login settings (ofState state attempt.username) attempt
    ofState (Auth.login jose settings state attempt).1 attempt.username = account.1 ∧
      (Auth.login jose settings state attempt).2 = answer jose settings attempt account.2 := by
  obtain ⟨locked, same, unlocked⟩ :=
    is_account_locked_spec state attempt.username attempt.checkedAt
  simp only [login, Auth.login]
  by_cases blocked : (ofState state attempt.username).Locked attempt.checkedAt
  · have isLocked := locked.mpr blocked
    rw [if_pos blocked, if_pos isLocked]
    exact ⟨congrArg (ofState · attempt.username) (same isLocked), rfl⟩
  · have isOpen : (isAccountLocked state attempt.username attempt.checkedAt).2 = false := by
      rw [← Bool.not_eq_true]
      exact fun isLocked => blocked (locked.mp isLocked)
    have opened := unlocked isOpen
    rw [if_neg blocked, if_neg (Bool.eq_false_iff.mp isOpen)]
    by_cases valid : validateCredentials settings attempt.username attempt.password = true
    · rw [if_pos valid, if_pos valid]
      refine ⟨?_, rfl⟩
      rw [clear_failed_attempts_spec, if_pos rfl, opened]
    · rw [if_neg valid, if_neg valid]
      have recorded := record_failed_attempt_spec
        (isAccountLocked state attempt.username attempt.checkedAt).1 attempt.username
        attempt.validatedAt
      rw [opened] at recorded
      have counted := get_failed_attempt_count_spec
        (recordFailedAttempt (isAccountLocked state attempt.username attempt.checkedAt).1
          attempt.username attempt.validatedAt) attempt.username attempt.countedAt
      rw [recorded] at counted
      obtain ⟨account, number⟩ := counted
      simp only [failLogin, number]
      by_cases enough : maxFailedAttempts ≤
          ((ofState state attempt.username).keptAttempts attempt).length
      · have none : (maxFailedAttempts : ℤ) -
            ((ofState state attempt.username).keptAttempts attempt).length ≤ 0 := by omega
        rw [keptAttempts] at none enough
        rw [if_pos none, keptAttempts, if_pos enough, lock_account_spec, if_pos rfl, account]
        exact ⟨rfl, rfl⟩
      · have some : ¬(maxFailedAttempts : ℤ) -
            ((ofState state attempt.username).keptAttempts attempt).length ≤ 0 := by omega
        rw [keptAttempts] at some enough
        rw [if_neg some, keptAttempts, if_neg enough, account]
        exact ⟨rfl, rfl⟩

/-- A login leaves the accounts of other usernames as they are. -/
theorem login_other (jose : Jose) (settings : AuthSettings) (state : LockoutState)
    {other : String} (different : other ≠ attempt.username) :
    ofState (Auth.login jose settings state attempt).1 other = ofState state other := by
  have checked : ofState (isAccountLocked state attempt.username attempt.checkedAt).1 other =
      ofState state other := is_account_locked_other different
  simp only [Auth.login]
  split_ifs
  · exact checked
  · rw [clear_failed_attempts_spec, if_neg different]
    exact checked
  · have counted : ofState (getFailedAttemptCount (recordFailedAttempt
        (isAccountLocked state attempt.username attempt.checkedAt).1 attempt.username
        attempt.validatedAt) attempt.username attempt.countedAt).1 other = ofState state other :=
      (get_failed_attempt_count_other different).trans
        ((record_failed_attempt_other different).trans checked)
    simp only [failLogin]
    split_ifs
    · rw [lock_account_spec, if_neg different]
      exact counted
    · exact counted

end Logins

end Account

namespace LoginRun

open Auth Account

/-- The check of credentials that an attempt makes, if the account is not locked. -/
def checkOf (settings : AuthSettings) (run : LoginRun) (attempt : LoginAttempt) :
    Option CredentialCheck :=
  if (isAccountLocked run.state attempt.username attempt.checkedAt).2 then none
  else some {
    username := attempt.username
    time := attempt.validatedAt
    succeeded := validateCredentials settings attempt.username attempt.password }

/-- What an attempt is answered. -/
def answered (jose : Jose) (settings : AuthSettings) (run : LoginRun) (attempt : LoginAttempt) :
    Except HttpException LoginResponse :=
  (Auth.login jose settings run.state attempt).2

/-- One attempt. -/
def step (jose : Jose) (settings : AuthSettings) (run : LoginRun) (attempt : LoginAttempt) :
    LoginRun where
  clock := attempt.lockedAt
  state := (Auth.login jose settings run.state attempt).1
  checks := run.checks ++ (checkOf settings run attempt).toList

/-- The clock does not go backwards. -/
def Forward (run : LoginRun) (attempt : LoginAttempt) : Prop :=
  run.clock ≤ attempt.checkedAt ∧ attempt.checkedAt ≤ attempt.validatedAt ∧
    attempt.validatedAt ≤ attempt.countedAt ∧ attempt.countedAt ≤ attempt.lockedAt

instance (run : LoginRun) (attempt : LoginAttempt) : Decidable (run.Forward attempt) :=
  inferInstanceAs (Decidable (_ ∧ _ ∧ _ ∧ _))

/-- The account of a username. -/
def account (run : LoginRun) (username : String) : Account := ofState run.state username

/-- The times of the failures of a username since its last success. -/
def failuresSince (username : String) : List CredentialCheck → List ℚ → List ℚ
  | [], earlier => earlier
  | check :: rest, earlier =>
    failuresSince username rest
      (if check.username = username then
        if check.succeeded then [] else earlier ++ [check.time]
      else earlier)

/-- The failing checks of a username at times of a kind. -/
def failing (username : String) (inside : ℚ → Prop) [DecidablePred inside]
    (checks : List CredentialCheck) : List CredentialCheck :=
  checks.filter fun check =>
    check.username = username ∧ check.succeeded = false ∧ inside check.time

/-- Times lie within less than the length of a lockout, and so do those between them. -/
structure Narrow (inside : ℚ → Prop) : Prop where
  short : ∀ first last, inside first → inside last → last < first + lockoutDuration
  convex : ∀ first middle last, inside first → inside last → first ≤ middle → middle ≤ last →
    inside middle

/-- Of an account that is not locked, the failures that are kept are the recent ones since the last
success, and too few to lock it. All failures of a locked account come before the lock. -/
structure AccountSound (run : LoginRun) (username : String) : Prop where
  opened : (run.account username).lockedUntil = none →
    Mirrors id lockoutDuration run.clock (run.account username).failedAttempts
        (failuresSince username run.checks []) ∧
      (recent id lockoutDuration run.clock (failuresSince username run.checks [])).length <
        maxFailedAttempts
  locked : ∀ expiry ∈ (run.account username).lockedUntil,
    ∀ time ∈ failuresSince username run.checks [], time + lockoutDuration ≤ expiry

/-- The checks are ordered by time, and every account is sound. -/
structure Sound (run : LoginRun) : Prop where
  past : ∀ check ∈ run.checks, check.time ≤ run.clock
  ordered : run.checks.Pairwise fun earlier later => earlier.time ≤ later.time
  accounts : ∀ username, run.AccountSound username

section Steps

variable {jose : Jose} {settings : AuthSettings} {run : LoginRun} {attempt : LoginAttempt}
  {username : String}

/-- It takes failures to lock an account. -/
theorem max_failed_attempts_pos : 0 < maxFailedAttempts := by decide

/-- The failures after some checks and one more. -/
theorem failures_since_concat (username : String) (checks : List CredentialCheck)
    (check : CredentialCheck) (earlier : List ℚ) :
    failuresSince username (checks ++ [check]) earlier =
      if check.username = username then
        if check.succeeded then [] else failuresSince username checks earlier ++ [check.time]
      else failuresSince username checks earlier := by
  induction checks generalizing earlier with
  | nil => rfl
  | cons first rest inductionHypothesis => exact inductionHypothesis _

/-- What an attempt does to the account of its username, and which check it makes. -/
theorem step_account (jose : Jose) (settings : AuthSettings) (run : LoginRun)
    (attempt : LoginAttempt) :
    (run.step jose settings attempt).account attempt.username =
      (Account.login settings (run.account attempt.username) attempt).1 :=
  (login_refines jose settings run.state attempt).1

/-- An attempt leaves the accounts of other usernames as they are. -/
theorem step_other (jose : Jose) (settings : AuthSettings) (run : LoginRun)
    (different : username ≠ attempt.username) :
    (run.step jose settings attempt).account username = run.account username :=
  login_other jose settings run.state different

/-- An attempt is answered as its account answers it. -/
theorem answered_account (jose : Jose) (settings : AuthSettings) (run : LoginRun)
    (attempt : LoginAttempt) :
    run.answered jose settings attempt = answer jose settings attempt
      (Account.login settings (run.account attempt.username) attempt).2 :=
  (login_refines jose settings run.state attempt).2

/-- Credentials are checked exactly when no lock is in force. -/
theorem check_of_eq (settings : AuthSettings) (run : LoginRun) (attempt : LoginAttempt) :
    run.checkOf settings attempt =
      if (run.account attempt.username).Locked attempt.checkedAt then none
      else some ⟨attempt.username, attempt.validatedAt,
        validateCredentials settings attempt.username attempt.password⟩ := by
  have locked :=
    (is_account_locked_spec run.state attempt.username attempt.checkedAt).1
  unfold checkOf
  by_cases blocked : (run.account attempt.username).Locked attempt.checkedAt
  · rw [if_pos blocked, if_pos (locked.mpr blocked)]
  · rw [if_neg blocked, if_neg fun isLocked => blocked (locked.mp isLocked)]

/-- A failure since the last success is a check. -/
theorem mem_failures_since {time : ℚ} {checks : List CredentialCheck}
    (member : time ∈ failuresSince username checks []) : ∃ check ∈ checks, check.time = time := by
  induction checks using List.reverseRecOn with
  | nil => exact absurd member List.not_mem_nil
  | append_singleton rest last inductionHypothesis =>
    rw [failures_since_concat] at member
    have earlier : time ∈ failuresSince username rest [] →
        ∃ check ∈ rest ++ [last], check.time = time := by
      intro inRest
      obtain ⟨check, isCheck, same⟩ := inductionHypothesis inRest
      exact ⟨check, List.mem_append_left _ isCheck, same⟩
    split_ifs at member
    · exact absurd member List.not_mem_nil
    · obtain inRest | isLast := List.mem_append.mp member
      · exact earlier inRest
      · exact ⟨last, List.mem_append_right _ List.mem_cons_self, (List.mem_singleton.mp isLast).symm⟩
    · exact earlier member

/-- Time that passes keeps an account sound, where its checks and tables stay the same. -/
theorem AccountSound.wait {later : LoginRun} (sound : run.AccountSound username)
    (clock : run.clock ≤ later.clock) (account : later.account username = run.account username)
    (failures : failuresSince username later.checks [] = failuresSince username run.checks []) :
    later.AccountSound username := by
  constructor
  · intro unlocked
    rw [account] at unlocked
    obtain ⟨mirrors, few⟩ := sound.opened unlocked
    rw [account, failures]
    exact ⟨mirrors.wait clock, (recent_length_le id _ clock _).trans_lt few⟩
  · rw [account, failures]
    exact sound.locked

/-- What an account holds when no lock is in force: the recent failures, and fewer than lock it. -/
theorem AccountSound.opens (sound : run.AccountSound username) {now : ℚ} (later : run.clock ≤ now)
    (unblocked : ¬(run.account username).Locked now) :
    Mirrors id lockoutDuration now (run.account username).openAttempts
        (failuresSince username run.checks []) ∧
      (recent id lockoutDuration now (failuresSince username run.checks [])).length <
        maxFailedAttempts := by
  unfold openAttempts
  cases lock : (run.account username).lockedUntil with
  | none =>
    obtain ⟨mirrors, few⟩ := sound.opened lock
    rw [if_pos rfl]
    exact ⟨mirrors.wait later, (recent_length_le id _ later _).trans_lt few⟩
  | some expiry =>
    have ended : expiry ≤ now := not_lt.mp fun before => unblocked ⟨expiry, lock, before⟩
    have old : ∀ reading, now ≤ reading →
        recent id lockoutDuration reading (failuresSince username run.checks []) = [] := by
      intro reading after
      refine List.filter_eq_nil_iff.mpr fun time member => ?_
      have before := sound.locked expiry lock time member
      simp only [id_eq, decide_eq_true_eq, not_lt]
      linarith
    rw [if_neg (Option.some_ne_none expiry)]
    refine ⟨fun reading after => (old reading after).symm, ?_⟩
    rw [old now le_rfl]
    exact max_failed_attempts_pos

/-- An attempt does not turn the clock back. -/
theorem Forward.clock_le (forward : run.Forward attempt) :
    run.clock ≤ (run.step jose settings attempt).clock := by
  obtain ⟨checked, validated, counted, locked⟩ := forward
  exact checked.trans (validated.trans (counted.trans locked))

/-- The failures since the last success, after an attempt whose credentials were checked. -/
theorem failures_after (jose : Jose) (settings : AuthSettings)
    (unblocked : ¬(run.account attempt.username).Locked attempt.checkedAt) :
    failuresSince attempt.username (run.step jose settings attempt).checks [] =
      if validateCredentials settings attempt.username attempt.password then []
      else failuresSince attempt.username run.checks [] ++ [attempt.validatedAt] := by
  have check := check_of_eq settings run attempt
  rw [if_neg unblocked] at check
  simp only [LoginRun.step, check, Option.toList_some]
  rw [failures_since_concat, if_pos rfl]

/-- What is kept after a failing check shows the failures since the last success, with the new one. -/
theorem AccountSound.keeps (sound : run.AccountSound attempt.username)
    (forward : run.Forward attempt)
    (unblocked : ¬(run.account attempt.username).Locked attempt.checkedAt) :
    Mirrors id lockoutDuration attempt.countedAt
        ((run.account attempt.username).keptAttempts attempt)
        (failuresSince attempt.username run.checks [] ++ [attempt.validatedAt]) ∧
      (run.account attempt.username).keptAttempts attempt =
        recent id lockoutDuration attempt.countedAt
          (failuresSince attempt.username run.checks [] ++ [attempt.validatedAt]) := by
  obtain ⟨checked, validated, counted, locked⟩ := forward
  have mirrors := (((sound.opens checked unblocked).1.append attempt.validatedAt).prune
    validated).prune counted
  have same := mirrors attempt.countedAt le_rfl
  rw [recent_recent le_rfl] at same
  exact ⟨mirrors, same⟩

/-- A failing check keeps its account sound, whether it locks the account or not. -/
theorem AccountSound.failed (sound : run.AccountSound attempt.username)
    (past : ∀ check ∈ run.checks, check.time ≤ run.clock) (forward : run.Forward attempt)
    (unblocked : ¬(run.account attempt.username).Locked attempt.checkedAt)
    (invalid : ¬validateCredentials settings attempt.username attempt.password = true) :
    (run.step jose settings attempt).AccountSound attempt.username := by
  have clock : run.clock ≤ (run.step jose settings attempt).clock := forward.clock_le
  have account := step_account jose settings run attempt
  have failures := failures_after jose settings unblocked
  obtain ⟨mirrors, kept⟩ := sound.keeps forward unblocked
  obtain ⟨checked, validated, counted, locked⟩ := forward
  rw [if_neg invalid] at failures
  rw [Account.login, if_neg unblocked, if_neg invalid] at account
  by_cases enough :
      maxFailedAttempts ≤ ((run.account attempt.username).keptAttempts attempt).length
  · simp only [if_pos enough] at account
    constructor
    · intro unlocked
      rw [account] at unlocked
      exact nomatch unlocked
    · intro expiry isExpiry time member
      rw [account] at isExpiry
      obtain rfl := Option.some.inj isExpiry
      rw [failures] at member
      have before : time ≤ attempt.lockedAt := by
        obtain earlier | last := List.mem_append.mp member
        · obtain ⟨check, isCheck, rfl⟩ := mem_failures_since earlier
          exact (past check isCheck).trans clock
        · rw [List.mem_singleton.mp last]
          exact counted.trans locked
      exact add_le_add_left before _
  · simp only [if_neg enough] at account
    constructor
    · intro _
      rw [account, failures]
      refine ⟨mirrors.wait locked, ?_⟩
      have fewer : (recent id lockoutDuration attempt.lockedAt
          (failuresSince attempt.username run.checks [] ++ [attempt.validatedAt])).length ≤ _ :=
        recent_length_le id lockoutDuration locked _
      rw [← kept] at fewer
      exact fewer.trans_lt (not_le.mp enough)
    · intro expiry
      rw [account]
      exact fun none => nomatch none

/-- An attempt keeps its account sound. -/
theorem AccountSound.attempted (sound : run.AccountSound attempt.username)
    (past : ∀ check ∈ run.checks, check.time ≤ run.clock) (forward : run.Forward attempt) :
    (run.step jose settings attempt).AccountSound attempt.username := by
  have account := step_account jose settings run attempt
  by_cases blocked : (run.account attempt.username).Locked attempt.checkedAt
  · have check := check_of_eq settings run attempt
    rw [if_pos blocked] at check
    refine sound.wait forward.clock_le ?_ ?_
    · rw [account, Account.login, if_pos blocked]
    · simp only [LoginRun.step, check, Option.toList_none, List.append_nil]
  · by_cases valid : validateCredentials settings attempt.username attempt.password = true
    · have failures := failures_after jose settings blocked
      rw [if_pos valid] at failures
      rw [Account.login, if_neg blocked, if_pos valid] at account
      constructor
      · intro _
        rw [account, failures]
        exact ⟨mirrors_nil _, max_failed_attempts_pos⟩
      · intro expiry
        rw [account]
        exact fun none => nomatch none
    · exact sound.failed past forward blocked valid

/-- Every attempt keeps a run sound. -/
theorem Sound.step (sound : run.Sound) (forward : run.Forward attempt) :
    (run.step jose settings attempt).Sound := by
  have clock : run.clock ≤ (run.step jose settings attempt).clock := forward.clock_le
  obtain ⟨checked, validated, counted, locked⟩ := forward
  have time : ∀ check ∈ run.checkOf settings attempt,
      check.username = attempt.username ∧ check.time = attempt.validatedAt := by
    intro check isCheck
    rw [check_of_eq] at isCheck
    split_ifs at isCheck
    · exact nomatch isCheck
    · obtain rfl := Option.some.inj isCheck
      exact ⟨rfl, rfl⟩
  refine ⟨?_, ?_, fun username => ?_⟩
  · intro check member
    obtain earlier | new := List.mem_append.mp member
    · exact (sound.past check earlier).trans clock
    · rw [(time check (Option.mem_toList.mp new)).2]
      exact counted.trans locked
  · refine List.pairwise_append.mpr ⟨sound.ordered, ?_, ?_⟩
    · cases run.checkOf settings attempt with
      | none => exact List.Pairwise.nil
      | some check => exact List.pairwise_singleton _ _
    · intro earlier isEarlier last isLast
      rw [(time last (Option.mem_toList.mp isLast)).2]
      exact (sound.past earlier isEarlier).trans (checked.trans validated)
  · by_cases same : username = attempt.username
    · subst same
      exact (sound.accounts _).attempted sound.past ⟨checked, validated, counted, locked⟩
    · refine (sound.accounts username).wait clock (step_other jose settings run same) ?_
      simp only [LoginRun.step]
      cases isCheck : run.checkOf settings attempt with
      | none => rw [Option.toList_none, List.append_nil]
      | some check =>
        have different : check.username ≠ username := fun named =>
          same (named.symm.trans (time check isCheck).1)
        rw [Option.toList_some, failures_since_concat, if_neg different]

/-- Where a narrow window ends with a time after all checks and has no success, its failures are
recent ones since the last success. -/
theorem failing_length_le {inside : ℚ → Prop} [DecidablePred inside] (narrow : Narrow inside)
    {last : ℚ} (ends : inside last) {checks : List CredentialCheck}
    (past : ∀ check ∈ checks, check.time ≤ last)
    (ordered : checks.Pairwise fun earlier later => earlier.time ≤ later.time)
    (unsuccessful : ∀ check ∈ checks, check.username = username → check.succeeded = true →
      ¬inside check.time) :
    (failing username inside checks).length ≤
      (recent id lockoutDuration last (failuresSince username checks [])).length := by
  induction checks using List.reverseRecOn with
  | nil => exact Nat.zero_le _
  | append_singleton rest final inductionHypothesis =>
    obtain ⟨orderedRest, -, before⟩ := List.pairwise_append.mp ordered
    have earlier := inductionHypothesis
      (fun check member => past check (List.mem_append_left _ member)) orderedRest
      (fun check member => unsuccessful check (List.mem_append_left _ member))
    have finalPast := past final (List.mem_append_right _ List.mem_cons_self)
    rw [failures_since_concat, failing, List.filter_append]
    by_cases named : final.username = username
    · rw [if_pos named]
      cases success : final.succeeded with
      | true =>
        have outside := unsuccessful final (List.mem_append_right _ List.mem_cons_self) named success
        have noneBefore : failing username inside rest = [] := by
          refine List.filter_eq_nil_iff.mpr fun check member isFailing => outside ?_
          have isInside := (of_decide_eq_true isFailing).2.2
          exact narrow.convex _ _ _ isInside ends (before check member final List.mem_cons_self)
            finalPast
        rw [failing] at noneBefore
        rw [noneBefore]
        simp [success]
      | false =>
        rw [if_neg Bool.false_ne_true, List.length_append, recent, List.filter_append,
          List.length_append]
        refine Nat.add_le_add earlier ?_
        by_cases isInside : inside final.time
        · have isRecent : last - lockoutDuration < final.time :=
            sub_lt_iff_lt_add.mpr (narrow.short _ _ isInside ends)
          simp [named, success, isInside, isRecent]
        · simp [isInside]
    · rw [if_neg named]
      simpa [named, failing] using earlier

/-- A narrow window without a success of a username has no more of its failures than lock it. -/
def Bounded (run : LoginRun) : Prop :=
  ∀ (username : String) (inside : ℚ → Prop) [DecidablePred inside], Narrow inside →
    (∀ check ∈ run.checks, check.username = username → check.succeeded = true →
      ¬inside check.time) →
    (failing username inside run.checks).length ≤ maxFailedAttempts

/-- Every attempt keeps the windows bounded. -/
theorem Bounded.step (bounded : run.Bounded) (sound : run.Sound) (forward : run.Forward attempt) :
    (run.step jose settings attempt).Bounded := by
  intro username inside _ narrow unsuccessful
  have earlier := bounded username inside narrow fun check member =>
    unsuccessful check (List.mem_append_left _ member)
  simp only [LoginRun.step] at unsuccessful ⊢
  rw [check_of_eq] at unsuccessful ⊢
  split_ifs at unsuccessful ⊢ with blocked
  · simpa using earlier
  · rw [Option.toList_some] at unsuccessful ⊢
    rw [failing, List.filter_append]
    by_cases counts : attempt.username = username ∧
        validateCredentials settings attempt.username attempt.password = false ∧
          inside attempt.validatedAt
    · obtain ⟨rfl, invalid, isInside⟩ := counts
      have clock : run.clock ≤ attempt.validatedAt := forward.1.trans forward.2.1
      have few := ((sound.accounts attempt.username).opens forward.1 blocked).2
      have length := failing_length_le narrow isInside
        (fun check member => (sound.past check member).trans clock) sound.ordered
        fun check member => unsuccessful check (List.mem_append_left _ member)
      have fewer := recent_length_le id lockoutDuration forward.2.1
        (failuresSince attempt.username run.checks [])
      have single : ([(⟨attempt.username, attempt.validatedAt, validateCredentials settings
          attempt.username attempt.password⟩ : CredentialCheck)].filter fun check =>
            check.username = attempt.username ∧ check.succeeded = false ∧
              inside check.time).length ≤ 1 := List.length_filter_le _ _
      rw [List.length_append]
      rw [failing] at length
      omega
    · have none : [(⟨attempt.username, attempt.validatedAt, validateCredentials settings
          attempt.username attempt.password⟩ : CredentialCheck)].filter (fun check =>
            check.username = username ∧ check.succeeded = false ∧ inside check.time) = [] := by
        simp [counts]
      rw [none, List.append_nil]
      exact earlier

/-- An attempt that fails locks the account. -/
def LocksAt (jose : Jose) (settings : AuthSettings) (run : LoginRun) (attempt : LoginAttempt) :
    Prop :=
  (∃ check ∈ run.checkOf settings attempt, check.succeeded = false) ∧
    run.answered jose settings attempt = .error ⟨423, lockedDetail⟩

/-- The lock of an attempt lasts for the length of a lockout. -/
theorem LocksAt.lockedUntil (locks : run.LocksAt jose settings attempt) :
    ((run.step jose settings attempt).account attempt.username).lockedUntil =
      some (attempt.lockedAt + lockoutDuration) := by
  obtain ⟨⟨check, isCheck, failed⟩, answered⟩ := locks
  rw [check_of_eq] at isCheck
  split_ifs at isCheck with blocked
  · exact nomatch isCheck
  · obtain rfl := Option.some.inj isCheck
    rw [answered_account] at answered
    rw [step_account]
    have invalid : ¬validateCredentials settings attempt.username attempt.password = true := by
      rw [Bool.not_eq_true]
      exact failed
    rw [Account.login, if_neg blocked, if_neg invalid] at answered ⊢
    by_cases enough :
        maxFailedAttempts ≤ ((run.account attempt.username).keptAttempts attempt).length
    · simp only [if_pos enough]
    · simp [if_neg enough, answer] at answered

/-- Attempts before the end of a lock leave the account as it is. -/
theorem locked_account_kept {expiry : ℚ} {attempts : List LoginAttempt}
    (locked : (run.account username).lockedUntil = some expiry)
    (before : ∀ attempt ∈ attempts, attempt.username = username → attempt.checkedAt < expiry) :
    (Machines.after (step jose settings) run attempts).account username = run.account username := by
  induction attempts generalizing run with
  | nil => rfl
  | cons attempt rest inductionHypothesis =>
    have kept : (run.step jose settings attempt).account username = run.account username := by
      by_cases same : username = attempt.username
      · subst same
        have blocked : (run.account attempt.username).Locked attempt.checkedAt :=
          ⟨expiry, locked, before attempt List.mem_cons_self rfl⟩
        rw [step_account, Account.login, if_pos blocked]
      · exact step_other jose settings run same
    rw [Machines.after_cons, inductionHypothesis (kept.symm ▸ locked) fun later member =>
      before later (List.mem_cons_of_mem _ member)]
    exact kept

/-- In a run whose clock does not go backwards, no attempt begins after its end. -/
theorem checked_le_clock {attempts : List LoginAttempt}
    (forward : Machines.Conforms (step jose settings) Forward run attempts) :
    run.clock ≤ (Machines.after (step jose settings) run attempts).clock ∧
      ∀ attempt ∈ attempts,
        attempt.checkedAt ≤ (Machines.after (step jose settings) run attempts).clock := by
  induction attempts generalizing run with
  | nil => exact ⟨le_rfl, fun _ member => absurd member List.not_mem_nil⟩
  | cons attempt rest inductionHypothesis =>
    obtain ⟨⟨checked, validated, counted, locked⟩, later⟩ := forward
    obtain ⟨clock, past⟩ := inductionHypothesis later
    have reached : attempt.checkedAt ≤
        (Machines.after (step jose settings) run (attempt :: rest)).clock :=
      (validated.trans (counted.trans locked)).trans clock
    refine ⟨checked.trans reached, fun other member => ?_⟩
    obtain rfl | inRest := List.mem_cons.mp member
    · exact reached
    · exact past other inRest

/-- How a lock answers: an attempt before its end that the account is locked, without a check, and one
after it with the right credentials with success. -/
theorem locked_account_answers {expiry : ℚ} {next : LoginAttempt}
    (locked : (run.account next.username).lockedUntil = some expiry) :
    (next.checkedAt < expiry → run.answered jose settings next = .error ⟨423, lockedDetail⟩ ∧
        run.checkOf settings next = none) ∧
      (expiry ≤ next.checkedAt → validateCredentials settings next.username next.password = true →
        ∃ response, run.answered jose settings next = .ok response) := by
  constructor
  · intro early
    have blocked : (run.account next.username).Locked next.checkedAt := ⟨expiry, locked, early⟩
    rw [answered_account, check_of_eq, Account.login, if_pos blocked, if_pos blocked]
    exact ⟨rfl, rfl⟩
  · intro late valid
    have unblocked : ¬(run.account next.username).Locked next.checkedAt := by
      rintro ⟨other, isExpiry, ahead⟩
      obtain rfl := Option.some.inj (locked.symm.trans isExpiry)
      exact absurd late (not_le.mpr ahead)
    rw [answered_account, Account.login, if_neg unblocked, if_pos valid]
    exact ⟨_, rfl⟩

/-- The account of a username is what its own attempts make of it. -/
theorem account_own_attempts (username : String) {first second : LoginRun}
    (same : first.account username = second.account username) (attempts : List LoginAttempt) :
    (Machines.after (step jose settings) first attempts).account username =
      (Machines.after (step jose settings) second
        (attempts.filter fun attempt => attempt.username = username)).account username := by
  induction attempts generalizing first second with
  | nil => exact same
  | cons attempt rest inductionHypothesis =>
    by_cases own : attempt.username = username
    · subst own
      rw [List.filter_cons_of_pos (by simp), Machines.after_cons, Machines.after_cons]
      refine inductionHypothesis ?_
      rw [step_account, step_account, same]
    · rw [List.filter_cons_of_neg (by simpa using own), Machines.after_cons]
      refine inductionHypothesis ?_
      rw [step_other jose settings first (Ne.symm own)]
      exact same

end Steps

section Runs

variable (jose : Jose) (settings : AuthSettings)

/-- A new service at a reading of the clock. -/
def started (clock : ℚ) : LoginRun := { clock := clock }

/-- A new service is sound, and has no checks. -/
theorem started_sound (clock : ℚ) : (started clock).Sound ∧ (started clock).Bounded := by
  refine ⟨⟨fun _ member => absurd member List.not_mem_nil, List.Pairwise.nil, fun username => ?_⟩,
    fun _ _ _ _ _ => Nat.zero_le _⟩
  exact ⟨fun _ => ⟨mirrors_nil _, max_failed_attempts_pos⟩, fun _ none => nomatch none⟩

/-- Half-open windows of the length of a lockout are narrow. -/
theorem half_open_narrow (start : ℚ) :
    Narrow (fun time => start ≤ time ∧ time < start + lockoutDuration) ∧
      Narrow (fun time => start < time ∧ time ≤ start + lockoutDuration) := by
  refine ⟨⟨fun first last inside ends => ?_, fun first middle last inside ends after before =>
    ⟨inside.1.trans after, before.trans_lt ends.2⟩⟩, ⟨fun first last inside ends => ?_,
    fun first middle last inside ends after before =>
      ⟨inside.1.trans_le after, before.trans ends.2⟩⟩⟩
  · exact ends.2.trans_le (add_le_add_left inside.1 _)
  · exact ends.2.trans_lt (add_lt_add_left inside.1 _)

/-- In every run of login attempts whose clock does not go backwards, a window of fifteen minutes,
open at one end, without a success of a username has at most five failing checks for it. After a
failing check that locks a username, each of its attempts before the end of the lock is answered
that it is locked, without a check, and the first one after that succeeds with the right
credentials. Answers to a username do not depend on the attempts for others. -/
theorem lockout_holds (clock : ℚ) (attempts : List LoginAttempt)
    (forward : Machines.Conforms (step jose settings) Forward (started clock) attempts) :
    (∀ username start,
      ((∀ check ∈ (Machines.after (step jose settings) (started clock) attempts).checks,
          check.username = username → check.succeeded = true →
            ¬(start ≤ check.time ∧ check.time < start + lockoutDuration)) →
        (failing username (fun time => start ≤ time ∧ time < start + lockoutDuration)
          (Machines.after (step jose settings) (started clock) attempts).checks).length ≤ 5) ∧
      ((∀ check ∈ (Machines.after (step jose settings) (started clock) attempts).checks,
          check.username = username → check.succeeded = true →
            ¬(start < check.time ∧ check.time ≤ start + lockoutDuration)) →
        (failing username (fun time => start < time ∧ time ≤ start + lockoutDuration)
          (Machines.after (step jose settings) (started clock) attempts).checks).length ≤ 5)) ∧
    (∀ before locking later next, attempts = before ++ locking :: (later ++ [next]) →
      next.username = locking.username →
      (Machines.after (step jose settings) (started clock) before).LocksAt jose settings locking →
      let run := Machines.after (step jose settings) (started clock) (before ++ locking :: later)
      (next.checkedAt < locking.lockedAt + lockoutDuration →
        run.answered jose settings next = .error ⟨423, lockedDetail⟩ ∧
          run.checkOf settings next = none) ∧
      (locking.lockedAt + lockoutDuration ≤ next.checkedAt →
        (∀ attempt ∈ later, attempt.username = locking.username →
          attempt.checkedAt < locking.lockedAt + lockoutDuration) →
        validateCredentials settings next.username next.password = true →
          ∃ response, run.answered jose settings next = .ok response)) ∧
    ∀ next : LoginAttempt,
      (Machines.after (step jose settings) (started clock) attempts).answered jose settings next =
        (Machines.after (step jose settings) (started clock)
          (attempts.filter fun attempt => attempt.username = next.username)).answered jose settings
            next := by
  obtain ⟨sound, bounded⟩ := started_sound clock
  have keeps : ∀ (current : LoginRun) (attempt : LoginAttempt),
      current.Sound ∧ current.Bounded → current.Forward attempt →
        (current.step jose settings attempt).Sound ∧
          (current.step jose settings attempt).Bounded :=
    fun _ _ holds forward => ⟨holds.1.step forward, holds.2.step holds.1 forward⟩
  have kept : (Machines.after (step jose settings) (started clock) attempts).Sound ∧
      (Machines.after (step jose settings) (started clock) attempts).Bounded :=
    Machines.after_keeps keeps ⟨sound, bounded⟩ forward
  refine ⟨fun username start => ?_, ?_, fun next => ?_⟩
  · obtain ⟨first, second⟩ := half_open_narrow start
    exact ⟨kept.2 username _ first, kept.2 username _ second⟩
  · rintro before locking later next rfl named locks run
    have locked := locks.lockedUntil
    obtain ⟨-, -, rest⟩ := (Machines.conforms_append _ _ _).mp forward
    obtain ⟨afterLock, nextForward, -⟩ := (Machines.conforms_append _ _ _).mp rest
    obtain ⟨-, past⟩ := checked_le_clock afterLock
    have reached : run = Machines.after (step jose settings) ((Machines.after (step jose settings)
        (started clock) before).step jose settings locking) later := by
      rw [← Machines.after_cons, ← Machines.after_append]
    have during : (∀ attempt ∈ later, attempt.username = locking.username →
        attempt.checkedAt < locking.lockedAt + lockoutDuration) →
        (run.account next.username).lockedUntil = some (locking.lockedAt + lockoutDuration) := by
      intro early
      rw [reached, named, locked_account_kept locked early, locked]
    constructor
    · intro early
      have stays := during fun attempt member _ =>
        (past attempt member).trans_lt (nextForward.1.trans_lt early)
      exact (locked_account_answers stays).1 early
    · intro late early valid
      exact (locked_account_answers (during early)).2 late valid
  · rw [answered_account, answered_account, account_own_attempts next.username rfl]

end Runs

/-- A service whose tokens do not matter. -/
def withoutTokens : Jose := ⟨fun _ _ => "", fun _ _ _ => none⟩

/-- Settings with a password. -/
def traderSettings : AuthSettings :=
  { igUsername := "trader", igPassword := "right", jwtSecretKey := "" }

/-- An attempt with a wrong password. -/
def wrongAt (time : ℚ) : LoginAttempt := ⟨"trader", "wrong", time, time, time, time, time, time⟩

/-- The fifth wrong password locks the account. -/
theorem fifth_attempt_locks :
    (Machines.after (step withoutTokens traderSettings) (started 0)
      ([0, 1, 2, 3].map wrongAt)).LocksAt withoutTokens traderSettings (wrongAt 4) := by
  refine ⟨⟨⟨"trader", 4, false⟩, ?_, rfl⟩, ?_⟩
  · decide +kernel
  · decide +kernel

/-- After five wrong passwords, the sixth attempt is answered that the account is locked. -/
theorem sixth_attempt_is_blocked :
    (Machines.after (step withoutTokens traderSettings) (started 0)
      ([0, 1, 2, 3].map wrongAt ++ [wrongAt 4])).answered withoutTokens traderSettings
        (wrongAt 5) = .error ⟨423, lockedDetail⟩ := by
  have forward : Machines.Conforms (step withoutTokens traderSettings) Forward (started 0)
      ([0, 1, 2, 3].map wrongAt ++ wrongAt 4 :: ([] ++ [wrongAt 5])) := by decide +kernel
  obtain ⟨-, holds, -⟩ := lockout_holds withoutTokens traderSettings 0 _ forward
  have early : (wrongAt 5).checkedAt < (wrongAt 4).lockedAt + lockoutDuration := by decide +kernel
  exact ((holds _ _ _ _ rfl rfl fifth_attempt_locks).1 early).1

end LoginRun

end IgTradingBot
