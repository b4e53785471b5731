import Arthome.Core.Vocabulary
import Mathlib.Data.Rat.Floor

/-!
# Schedules of a failing call

A call that must outlast an incident is made again after delays that double up to
a cap, each lengthened by a jitter so that what failed together does not retry
together. A message its handler could not apply goes to the service's retry topic with
the instant its next attempt is due, or, when none is left or none would help, to the
service's dead-letter topic.
-/

namespace Arthome.Messaging

open Arthome.Core

def JITTER_RATIO : ℚ := 1 / 5

/-- The delays from `delay` on, `elapsed` spent before it. A delay that is not positive ends the
schedule, where the source would not. -/
def doublingDelaysFrom (capMs totalMs delay elapsed : ℕ) : List ℕ :=
  if elapsed < totalMs ∧ 0 < delay then
    delay :: doublingDelaysFrom capMs totalMs (min (delay * 2) capMs) (elapsed + delay)
  else []
termination_by totalMs - elapsed

/-- From `firstMs`, doubled up to `capMs`, until they add up to `totalMs`. -/
def doublingDelays (firstMs capMs totalMs : ℕ) : List ℕ :=
  doublingDelaysFrom capMs totalMs firstMs 0

/-- The jittered wait before the attempt after `attempts` failed ones; `random` is drawn from
`[0, 1)`. -/
def retryDelayAfter (attempts : ℕ) (delaysMs : List ℕ) (random : ℚ) : Option ℕ :=
  if attempts = 0 then none
  else delaysMs[attempts - 1]?.map fun (delay : ℕ) =>
    delay + ⌊(delay : ℚ) * JITTER_RATIO * random⌋₊

/-- When the attempt after `attempts` failed ones is due; none once the last one has failed. -/
def nextAttemptAt (attempts : ℕ) (now : Instant) (delaysMs : List ℕ) (random : ℚ) :
    Option Instant :=
  (retryDelayAfter attempts delaysMs random).map fun delay => now + (delay : ℤ)

def attemptsAllowedBy (delaysMs : List ℕ) : ℕ := delaysMs.length + 1

/-- What a handler threw: a permanent error, which a retry cannot fix, or any other, with the text
the error's header carries. -/
structure HandlerError where
  permanent : Bool
  text : String
  deriving Repr, DecidableEq

inductive DeadLetterReason where
  | permanent
  | exhausted
  deriving Repr, DecidableEq

inductive FailureRoute where
  | retry (attempt : ℕ) (notBefore : Instant)
  | dlq (reason : DeadLetterReason)
  deriving Repr, DecidableEq

def RETRY_DELAYS_MS : List ℕ := [5000, 30000, 300000]

def routeFailure (error : HandlerError) (attemptsSoFar : ℕ) (now : Instant) (random : ℚ) :
    FailureRoute :=
  if error.permanent then .dlq .permanent
  else
    match nextAttemptAt (attemptsSoFar + 1) now RETRY_DELAYS_MS random with
    | none => .dlq .exhausted
    | some notBefore => .retry (attemptsSoFar + 1) notBefore

def retryTopic (service : String) : String := "arthome." ++ service ++ ".retry"

def deadLetterTopic (service : String) : String := "arthome." ++ service ++ ".dlq"

theorem retryTopic_ne_deadLetterTopic (service : String) :
    retryTopic service ≠ deadLetterTopic service := by
  intro h
  have hlength := congrArg String.length h
  simp only [retryTopic, deadLetterTopic, String.length_append, Nat.add_left_cancel_iff] at hlength
  exact absurd hlength (by decide)

/-- No delay is shorter than the first one, or than the cap. -/
theorem le_of_mem_doublingDelaysFrom {bound capMs totalMs delay elapsed wait : ℕ}
    (hdelay : bound ≤ delay) (hcap : bound ≤ capMs)
    (hwait : wait ∈ doublingDelaysFrom capMs totalMs delay elapsed) : bound ≤ wait := by
  induction delay, elapsed using doublingDelaysFrom.induct capMs totalMs with
  | case1 delay elapsed hmore ih =>
      rw [doublingDelaysFrom, if_pos hmore, List.mem_cons] at hwait
      obtain rfl | hlater := hwait
      · exact hdelay
      · apply ih ?_ hlater
        omega
  | case2 delay elapsed hdone =>
      rw [doublingDelaysFrom, if_neg hdone] at hwait
      cases hwait

theorem le_of_mem_doublingDelays {firstMs capMs totalMs wait : ℕ} (hcap : firstMs ≤ capMs)
    (hwait : wait ∈ doublingDelays firstMs capMs totalMs) : firstMs ≤ wait :=
  le_of_mem_doublingDelaysFrom le_rfl hcap hwait

/-- A wait is no shorter than the delay it jitters. -/
theorem le_of_retryDelayAfter {bound attempts wait : ℕ} {delaysMs : List ℕ} {random : ℚ}
    (hdelays : ∀ delay ∈ delaysMs, bound ≤ delay)
    (hwait : retryDelayAfter attempts delaysMs random = some wait) : bound ≤ wait := by
  unfold retryDelayAfter at hwait
  split_ifs at hwait
  obtain ⟨delay, hdelay, rfl⟩ := Option.map_eq_some_iff.mp hwait
  have hbound := hdelays delay (List.mem_of_getElem? hdelay)
  omega

/-- An attempt follows only while a delay is left for it. -/
theorem attempt_of_routeFailure {error : HandlerError} {attemptsSoFar attempt : ℕ}
    {now notBefore : Instant} {random : ℚ}
    (h : routeFailure error attemptsSoFar now random = .retry attempt notBefore) :
    attempt = attemptsSoFar + 1 ∧ attempt ≤ RETRY_DELAYS_MS.length := by
  unfold routeFailure at h
  split_ifs at h
  cases hnext : nextAttemptAt (attemptsSoFar + 1) now RETRY_DELAYS_MS random with
  | none =>
      rw [hnext] at h
      cases h
  | some due =>
      rw [hnext] at h
      cases h
      refine ⟨rfl, ?_⟩
      obtain ⟨wait, hwait, -⟩ := Option.map_eq_some_iff.mp hnext
      obtain ⟨jittered, hjittered, -⟩ := Option.bind_eq_some_iff.mp hwait
      unfold retryDelayAfter at hjittered
      rw [if_neg (by omega)] at hjittered
      obtain ⟨delay, hdelay, -⟩ := Option.map_eq_some_iff.mp hjittered
      have hlt := (List.getElem?_eq_some_iff.mp hdelay).1
      omega

end Arthome.Messaging
