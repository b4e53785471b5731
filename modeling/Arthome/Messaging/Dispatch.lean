import Arthome.Messaging.Claims
import Arthome.Messaging.Failure

/-!
# A message and its copies

A service consumes the topics it is given and a retry topic of its own, where a message
its handler could not apply is published again with what it carried: the topic it first
came from, which still decides its handler, and the attempts made so far. Every claim is
made on the message's id.
-/

namespace Arthome.Messaging

open Arthome.Core

/-- A record's headers: those it was first published with, and those a service adds when it
re-publishes it. The attempt and the not-before instant are kept as what their texts write. -/
structure Headers where
  published : String → Option String
  attempt : Option ℕ
  notBefore : Option Instant
  origin : Option String
  error : Option String
  dlqReason : Option DeadLetterReason

/-- A record as the broker delivers it. -/
structure Payload where
  topic : String
  key : Option String
  value : Option String
  headers : Headers

/-- A NULL column is rendered as the four characters `null`. -/
def ofNullable (value : Option String) : Option String := value.filter fun text => text ≠ "null"

def header (payload : Payload) (name : String) : Option String :=
  ofNullable (payload.headers.published name)

def attemptsSoFar (headers : Headers) : ℕ := headers.attempt.getD 0

/-- The topic that decides the handler. -/
def originOf (payload : Payload) : String := (ofNullable payload.headers.origin).getD payload.topic

/-- The copy of a message whose handler threw: on the retry topic, or on the dead-letter topic. -/
def republishedAs (service : String) (payload : Payload) (error : HandlerError) (now : Instant)
    (random : ℚ) : Payload :=
  match routeFailure error (attemptsSoFar payload.headers) now random with
  | .retry attempt notBefore =>
    { payload with
      topic := retryTopic service
      headers :=
        { payload.headers with
          origin := some (payload.headers.origin.getD payload.topic)
          error := some error.text
          attempt := some attempt
          notBefore := some notBefore } }
  | .dlq reason =>
    { payload with
      topic := deadLetterTopic service
      headers :=
        { payload.headers with
          origin := some (payload.headers.origin.getD payload.topic)
          error := some error.text
          attempt := some (attemptsSoFar payload.headers)
          dlqReason := some reason } }

def hexDigit (c : Char) : Option ℕ :=
  if '0' ≤ c ∧ c ≤ '9' then some (c.toNat - 48)
  else if 'a' ≤ c ∧ c ≤ 'f' then some (c.toNat - 87)
  else if 'A' ≤ c ∧ c ≤ 'F' then some (c.toNat - 55)
  else none

/-- The canonical text of a UUID, any version, in either case. -/
def isUuid (text : String) : Bool :=
  decide (text.toList.length = 36) && text.toList.zipIdx.all fun (c, i) =>
    if i ∈ [8, 13, 18, 23] then decide (c = '-') else (hexDigit c).isSome

/-- The number the digits spell, which is what a `uuid` column compares. -/
def uuidOf (text : String) : Uuid :=
  (text.toList.filterMap hexDigit).foldl (fun n digit => 16 * n + digit) 0

/-- The character as a JSON text spells it. -/
def jsonChar (c : Char) : List Char :=
  if c = '"' then ['\\', '"']
  else if c = '\\' then ['\\', '\\']
  else if c = '\n' then ['\\', 'n']
  else if c = '\r' then ['\\', 'r']
  else if c = '\t' then ['\\', 't']
  else if c.toNat = 8 then ['\\', 'b']
  else if c.toNat = 12 then ['\\', 'f']
  else if c.toNat < 32 then
    ['\\', 'u', '0', '0', Nat.digitChar (c.toNat / 16), Nat.digitChar (c.toNat % 16)]
  else [c]

def jsonText (text : String) : String :=
  "\"" ++ String.ofList (text.toList.flatMap jsonChar) ++ "\""

/-- The key every claim is made on; absent or not a UUID it is permanent. -/
def messageIdOf (payload : Payload) : Except HandlerError Uuid :=
  match header payload "message-id" with
  | none =>
    .error ⟨true, "PermanentError: message on " ++ payload.topic ++ " has no message-id header"⟩
  | some messageId =>
    if isUuid messageId then .ok (uuidOf messageId)
    else
      .error ⟨true, "PermanentError: message on " ++ payload.topic ++
        " has a message-id that is not a UUID: " ++
        jsonText (String.ofList (messageId.toList.take 64))⟩

section Copies

variable (service : String) (payload : Payload) (error : HandlerError) (now : Instant) (random : ℚ)

/-- What a copy keeps of the record it copies. -/
theorem republishedAs_keeps :
    (republishedAs service payload error now random).key = payload.key ∧
      (republishedAs service payload error now random).value = payload.value ∧
      (republishedAs service payload error now random).headers.published =
        payload.headers.published ∧
      (republishedAs service payload error now random).headers.origin =
        some (payload.headers.origin.getD payload.topic) := by
  unfold republishedAs
  split
  · exact ⟨rfl, rfl, rfl, rfl⟩
  · exact ⟨rfl, rfl, rfl, rfl⟩

theorem republishedAs_topic :
    (republishedAs service payload error now random).topic = retryTopic service ∨
      (republishedAs service payload error now random).topic = deadLetterTopic service := by
  unfold republishedAs
  split
  · exact .inl rfl
  · exact .inr rfl

/-- Each copy on the retry topic is one attempt further, and the attempts are counted. -/
theorem republishedAs_attempt
    (h : (republishedAs service payload error now random).topic = retryTopic service) :
    attemptsSoFar (republishedAs service payload error now random).headers =
        attemptsSoFar payload.headers + 1 ∧
      attemptsSoFar payload.headers + 1 ≤ RETRY_DELAYS_MS.length := by
  unfold republishedAs at h ⊢
  split at h
  next attempt notBefore hroute =>
    obtain ⟨rfl, hbound⟩ := attempt_of_routeFailure hroute
    exact ⟨rfl, hbound⟩
  next => exact absurd h.symm (retryTopic_ne_deadLetterTopic service)

/-- No copy counts fewer attempts than what it copies. -/
theorem le_republishedAs_attempt :
    attemptsSoFar payload.headers ≤
      attemptsSoFar (republishedAs service payload error now random).headers := by
  unfold republishedAs
  split
  next attempt notBefore hroute =>
    obtain ⟨rfl, -⟩ := attempt_of_routeFailure hroute
    exact Nat.le_succ _
  next => exact Nat.le_refl _

end Copies

/-- The id is read from what a copy keeps, its error text apart. -/
theorem messageIdOf_congr {payload copy : Payload}
    (h : copy.headers.published = payload.headers.published) {messageId : Uuid}
    (hid : messageIdOf payload = .ok messageId) : messageIdOf copy = .ok messageId := by
  have hheader : header copy "message-id" = header payload "message-id" := by
    unfold header
    rw [h]
  unfold messageIdOf at hid ⊢
  rw [hheader]
  cases hread : header payload "message-id" with
  | none =>
      rw [hread] at hid
      cases hid
  | some text =>
      rw [hread] at hid
      simp only at hid ⊢
      split_ifs at hid ⊢
      exact hid

/-- A record that came from a topic is handled as what came from it. -/
theorem originOf_eq {payload : Payload} {topic : String}
    (h : payload.headers.origin.getD payload.topic = topic) (htopic : topic ≠ "null") :
    originOf payload = topic := by
  unfold originOf
  cases horigin : payload.headers.origin with
  | none =>
      rw [horigin] at h
      exact h
  | some origin =>
      rw [horigin] at h
      have hsame : origin = topic := h
      rw [hsame, ofNullable, Option.filter_some_pos (by simpa using htopic)]
      rfl

end Arthome.Messaging
