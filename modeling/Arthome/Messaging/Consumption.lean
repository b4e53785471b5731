import Arthome.Library.Machine
import Arthome.Library.Rows
import Arthome.Messaging.Dispatch
import Mathlib.Data.List.Basic

/-!
# A service's consumers

Two consumers, one for the service's topics and one for its retry topic, hand records to
the handler of the topic they first came from. A handler claims the message's id in the
transaction that commits its effect. What a handler throws is republished, and only what
returns has its offset committed: a record not committed is delivered again, to any
process and at any time.
-/

namespace Arthome.Messaging

open Arthome.Core Arthome.Library

/-- A record on the broker. -/
structure Copy where
  payload : Payload
  /-- The record it was republished from. -/
  parent : Option ℕ
  /-- The offset past it is committed. -/
  committed : Bool

/-- What a handler's transaction, or its answer, has settled of a message. -/
structure Verdict where
  messageId : Uuid
  outcome : Outcome
  deriving Repr, DecidableEq

/-- Where the handling of one delivered record stands. -/
inductive DeliveryPhase where
  | notBegun
  /-- Until its attempt is due. -/
  | waiting (copy : ℕ)
  | received (copy : ℕ)
  /-- The id inserted, the transaction open. -/
  | claimed (copy : ℕ)
  /-- The transaction committed. -/
  | decided (copy : ℕ)
  | failed (copy : ℕ) (error : HandlerError)
  /-- The offset may be committed. -/
  | returned (copy : ℕ)
  | over
  deriving Repr, DecidableEq

/-- The broker's records by their index, the deliveries by theirs, and the consumer's ledger. -/
structure Consumption where
  copies : List Copy
  phase : ℕ → DeliveryPhase
  processed : Rows ℕ Uuid (Option String)
  verdicts : List Verdict

inductive ConsumerKind where
  | main
  | retry
  deriving Repr, DecidableEq

inductive ConsumerAction where
  /-- The outbox's connector publishes a record. -/
  | publish (payload : Payload)
  | deliver (delivery : ℕ) (consumer : ConsumerKind) (copy : ℕ) (now : Instant)
  | due (delivery : ℕ) (now : Instant)
  | claim (delivery : ℕ)
  /-- The handler's transaction commits with this outcome. -/
  | decide (delivery : ℕ) (outcome : Outcome)
  /-- The handler answers without a claim. -/
  | answer (delivery : ℕ) (outcome : Outcome)
  | finish (delivery : ℕ)
  | fail (delivery : ℕ) (error : HandlerError)
  | republish (delivery : ℕ) (now : Instant) (random : ℚ)
  | commitOffset (delivery : ℕ)
  /-- The process crashed, or a shutdown or a failed republication threw. -/
  | escape (delivery : ℕ)

namespace Consumption

def initial : Consumption := ⟨[], fun _ => .notBegun, .ofCommitted fun _ => none, []⟩

def enter (s : Consumption) (delivery : ℕ) (phase : DeliveryPhase) : Consumption :=
  { s with phase := Function.update s.phase delivery phase }

variable (service : String) (sources : List String)

/-- The handler is the origin's; without one the record is ignored. -/
def handling (payload : Payload) (copy : ℕ) : DeliveryPhase :=
  if originOf payload ∈ sources then .received copy else .returned copy

/-- Only the retry consumer honours the delay. -/
def deliver (s : Consumption) (delivery : ℕ) (consumer : ConsumerKind) (copy : ℕ) (now : Instant) :
    Option Consumption := do
  let record ← s.copies[copy]?
  match consumer with
  | .main =>
    if record.payload.topic ∈ sources then
      some (s.enter delivery (handling sources record.payload copy))
    else none
  | .retry =>
    if record.payload.topic = retryTopic service then
      match record.payload.headers.notBefore with
      | some notBefore =>
        if now < notBefore then some (s.enter delivery (.waiting copy))
        else some (s.enter delivery (handling sources record.payload copy))
      | none => some (s.enter delivery (handling sources record.payload copy))
    else none

def due (s : Consumption) (delivery copy : ℕ) (now : Instant) : Option Consumption := do
  let record ← s.copies[copy]?
  if ∀ notBefore ∈ record.payload.headers.notBefore, notBefore ≤ now then
    some (s.enter delivery (handling sources record.payload copy))
  else none

/-- The insertion waits on another delivery's uncommitted claim of the id. -/
def claim (s : Consumption) (delivery copy : ℕ) : Option Consumption := do
  let record ← s.copies[copy]?
  match messageIdOf record.payload with
  | .error error => some (s.enter delivery (.failed copy error))
  | .ok messageId =>
    if s.processed.Free delivery messageId then
      match s.processed.view delivery messageId with
      | some _ => some (s.enter delivery (.decided copy))
      | none =>
        some
          { s.enter delivery (.claimed copy) with
            processed := s.processed.put delivery messageId (some record.payload.topic) }
    else none

/-- The effect is committed with the claim, or only the claim is. -/
def decide (s : Consumption) (delivery copy : ℕ) (outcome : Outcome) : Option Consumption := do
  let record ← s.copies[copy]?
  let messageId ← (messageIdOf record.payload).toOption
  if outcome = .duplicate then none
  else
    some
      { s.enter delivery (.decided copy) with
        processed := s.processed.commit delivery
        verdicts := s.verdicts ++ [⟨messageId, outcome⟩] }

def answer (s : Consumption) (delivery copy : ℕ) (outcome : Outcome) : Option Consumption := do
  let record ← s.copies[copy]?
  let messageId ← (messageIdOf record.payload).toOption
  if outcome = .ignored ∨ outcome = .superseded then
    some
      { s.enter delivery (.returned copy) with verdicts := s.verdicts ++ [⟨messageId, outcome⟩] }
  else none

/-- The transaction, if one is open, rolled back. -/
def rolledBack (s : Consumption) (delivery : ℕ) (phase : DeliveryPhase) : Consumption :=
  { s.enter delivery phase with processed := s.processed.rollback delivery }

def republish (s : Consumption) (delivery copy : ℕ) (error : HandlerError) (now : Instant)
    (random : ℚ) : Option Consumption := do
  let record ← s.copies[copy]?
  some
    { s.enter delivery (.returned copy) with
      copies := s.copies ++
        [⟨republishedAs service record.payload error now random, some copy, false⟩] }

def commitOffset (s : Consumption) (delivery copy : ℕ) : Consumption :=
  { s.enter delivery .over with
    copies := s.copies.modify copy fun record => { record with committed := true } }

/-- One step of one delivery; a step that does not apply, or has to wait, is not made. -/
def step (s : Consumption) (action : ConsumerAction) : Option Consumption :=
  match action with
  | .publish payload => some { s with copies := s.copies ++ [⟨payload, none, false⟩] }
  | .deliver delivery consumer copy now =>
    if s.phase delivery = .notBegun then s.deliver service sources delivery consumer copy now
    else none
  | .due delivery now =>
    match s.phase delivery with
    | .waiting copy => s.due sources delivery copy now
    | _ => none
  | .claim delivery =>
    match s.phase delivery with
    | .received copy => s.claim delivery copy
    | _ => none
  | .decide delivery outcome =>
    match s.phase delivery with
    | .claimed copy => s.decide delivery copy outcome
    | _ => none
  | .answer delivery outcome =>
    match s.phase delivery with
    | .received copy => s.answer delivery copy outcome
    | _ => none
  | .finish delivery =>
    match s.phase delivery with
    | .decided copy => some (s.enter delivery (.returned copy))
    | _ => none
  | .fail delivery error =>
    match s.phase delivery with
    | .received copy | .claimed copy | .decided copy =>
      some (s.rolledBack delivery (.failed copy error))
    | _ => none
  | .republish delivery now random =>
    match s.phase delivery with
    | .failed copy error => s.republish service delivery copy error now random
    | _ => none
  | .commitOffset delivery =>
    match s.phase delivery with
    | .returned copy => some (s.commitOffset delivery copy)
    | _ => none
  | .escape delivery => some (s.rolledBack delivery .over)

/-- A record first published to a consumed topic: it carries a message-id and nothing of what a
service adds. Topics are named after what they carry, none of them `null`. -/
def FirstPublication (payload : Payload) : Prop :=
  payload.topic ∈ sources ∧ payload.topic ≠ "null" ∧ (messageIdOf payload).toOption.isSome ∧
    payload.headers.origin = none

instance (payload : Payload) : Decidable (FirstPublication sources payload) :=
  inferInstanceAs (Decidable (_ ∧ _ ∧ _ ∧ _))

/-- Only messages are published; what the consumers do is left free. -/
def Published (_ : Consumption) : ConsumerAction → Prop
  | .publish payload => FirstPublication sources payload
  | _ => True

instance (s : Consumption) : ∀ action, Decidable (Published sources s action)
  | .publish payload => inferInstanceAs (Decidable (FirstPublication sources payload))
  | .deliver _ _ _ _ | .due _ _ | .claim _ | .decide _ _ | .answer _ _ | .finish _ | .fail _ _
  | .republish _ _ _ | .commitOffset _ | .escape _ => inferInstanceAs (Decidable True)

/-- What a step does, for each step that is made. -/
inductive ConsumerMove (s : Consumption) : Consumption → Prop
  | published (payload : Payload) : FirstPublication sources payload →
      ConsumerMove s { s with copies := s.copies ++ [⟨payload, none, false⟩] }
  | waits (delivery copy : ℕ) : s.phase delivery = .notBegun →
      ConsumerMove s (s.enter delivery (.waiting copy))
  | handed (delivery copy : ℕ) (record : Copy) : s.copies[copy]? = some record →
      s.phase delivery = .notBegun ∨ s.phase delivery = .waiting copy →
      ConsumerMove s (s.enter delivery (handling sources record.payload copy))
  | unclaimable (delivery copy : ℕ) (error : HandlerError) : s.phase delivery = .received copy →
      ConsumerMove s (s.enter delivery (.failed copy error))
  | duplicated (delivery copy : ℕ) (record : Copy) (messageId : Uuid) :
      s.phase delivery = .received copy → s.copies[copy]? = some record →
      messageIdOf record.payload = .ok messageId → s.processed.view delivery messageId ≠ none →
      ConsumerMove s (s.enter delivery (.decided copy))
  | inserted (delivery copy : ℕ) (record : Copy) (messageId : Uuid) :
      s.phase delivery = .received copy → s.copies[copy]? = some record →
      messageIdOf record.payload = .ok messageId → s.processed.Free delivery messageId →
      s.processed.view delivery messageId = none →
      ConsumerMove s
        { s.enter delivery (.claimed copy) with
          processed := s.processed.put delivery messageId (some record.payload.topic) }
  | decided (delivery copy : ℕ) (record : Copy) (messageId : Uuid) (outcome : Outcome) :
      s.phase delivery = .claimed copy → s.copies[copy]? = some record →
      messageIdOf record.payload = .ok messageId → outcome ≠ .duplicate →
      ConsumerMove s
        { s.enter delivery (.decided copy) with
          processed := s.processed.commit delivery
          verdicts := s.verdicts ++ [⟨messageId, outcome⟩] }
  | answered (delivery copy : ℕ) (record : Copy) (messageId : Uuid) (outcome : Outcome) :
      s.phase delivery = .received copy → s.copies[copy]? = some record →
      messageIdOf record.payload = .ok messageId → outcome = .ignored ∨ outcome = .superseded →
      ConsumerMove s
        { s.enter delivery (.returned copy) with
          verdicts := s.verdicts ++ [⟨messageId, outcome⟩] }
  | finished (delivery copy : ℕ) : s.phase delivery = .decided copy →
      ConsumerMove s (s.enter delivery (.returned copy))
  | failed (delivery copy : ℕ) (error : HandlerError) :
      ConsumerMove s (s.rolledBack delivery (.failed copy error))
  | republished (delivery copy : ℕ) (record : Copy) (error : HandlerError) (now : Instant)
      (random : ℚ) : s.phase delivery = .failed copy error → s.copies[copy]? = some record →
      ConsumerMove s
        { s.enter delivery (.returned copy) with
          copies := s.copies ++
            [⟨republishedAs service record.payload error now random, some copy, false⟩] }
  | committedOffset (delivery copy : ℕ) : s.phase delivery = .returned copy →
      ConsumerMove s (s.commitOffset delivery copy)
  | escaped (delivery : ℕ) : ConsumerMove s (s.rolledBack delivery .over)

section Steps

variable {service : String} {sources : List String} {s s' : Consumption}

theorem deliver_move {delivery copy : ℕ} {consumer : ConsumerKind} {now : Instant}
    (hphase : s.phase delivery = .notBegun)
    (h : s.deliver service sources delivery consumer copy now = some s') :
    ConsumerMove service sources s s' := by
  obtain ⟨record, hrecord, h⟩ := Option.bind_eq_some_iff.mp h
  cases consumer with
  | main =>
      simp only at h
      split_ifs at h
      cases h
      exact .handed delivery copy record hrecord (.inl hphase)
  | retry =>
      simp only at h
      split_ifs at h
      split at h
      · split_ifs at h
        · cases h
          exact .waits delivery copy hphase
        · cases h
          exact .handed delivery copy record hrecord (.inl hphase)
      · cases h
        exact .handed delivery copy record hrecord (.inl hphase)

theorem claim_move {delivery copy : ℕ} (hphase : s.phase delivery = .received copy)
    (h : s.claim delivery copy = some s') : ConsumerMove service sources s s' := by
  obtain ⟨record, hrecord, h⟩ := Option.bind_eq_some_iff.mp h
  cases hid : messageIdOf record.payload with
  | error error =>
      simp only [hid] at h
      cases h
      exact .unclaimable delivery copy error hphase
  | ok messageId =>
      simp only [hid] at h
      split_ifs at h with hfree
      cases hview : s.processed.view delivery messageId with
      | some topic =>
          simp only [hview] at h
          cases h
          apply ConsumerMove.duplicated delivery copy record messageId hphase hrecord hid
          rw [hview]
          exact Option.some_ne_none topic
      | none =>
          simp only [hview] at h
          cases h
          exact .inserted delivery copy record messageId hphase hrecord hid hfree hview

theorem toOption_ok {payload : Payload} {messageId : Uuid}
    (h : (messageIdOf payload).toOption = some messageId) : messageIdOf payload = .ok messageId := by
  cases hid : messageIdOf payload with
  | error error =>
      rw [hid] at h
      cases h
  | ok found =>
      rw [hid] at h
      cases h
      rfl

theorem decide_move {delivery copy : ℕ} {outcome : Outcome}
    (hphase : s.phase delivery = .claimed copy) (h : s.decide delivery copy outcome = some s') :
    ConsumerMove service sources s s' := by
  obtain ⟨record, hrecord, h⟩ := Option.bind_eq_some_iff.mp h
  obtain ⟨messageId, hid, h⟩ := Option.bind_eq_some_iff.mp h
  split_ifs at h with hduplicate
  cases h
  exact .decided delivery copy record messageId outcome hphase hrecord (toOption_ok hid) hduplicate

theorem answer_move {delivery copy : ℕ} {outcome : Outcome}
    (hphase : s.phase delivery = .received copy) (h : s.answer delivery copy outcome = some s') :
    ConsumerMove service sources s s' := by
  obtain ⟨record, hrecord, h⟩ := Option.bind_eq_some_iff.mp h
  obtain ⟨messageId, hid, h⟩ := Option.bind_eq_some_iff.mp h
  split_ifs at h with hanswers
  cases h
  exact .answered delivery copy record messageId outcome hphase hrecord (toOption_ok hid) hanswers

/-- Every step made is one of these moves. -/
theorem step_move {action : ConsumerAction} (hpublished : Published sources s action)
    (h : s.step service sources action = some s') : ConsumerMove service sources s s' := by
  cases action with
  | publish payload =>
      cases h
      exact .published payload hpublished
  | deliver delivery consumer copy now =>
      simp only [step] at h
      split_ifs at h with hphase
      exact deliver_move hphase h
  | due delivery now =>
      simp only [step] at h
      split at h
      next copy hphase =>
        obtain ⟨record, hrecord, h⟩ := Option.bind_eq_some_iff.mp h
        split_ifs at h
        cases h
        exact .handed delivery copy record hrecord (.inr hphase)
      next => cases h
  | claim delivery =>
      simp only [step] at h
      split at h
      next copy hphase => exact claim_move hphase h
      next => cases h
  | decide delivery outcome =>
      simp only [step] at h
      split at h
      next copy hphase => exact decide_move hphase h
      next => cases h
  | answer delivery outcome =>
      simp only [step] at h
      split at h
      next copy hphase => exact answer_move hphase h
      next => cases h
  | finish delivery =>
      simp only [step] at h
      split at h
      next copy hphase =>
        cases h
        exact .finished delivery copy hphase
      next => cases h
  | fail delivery error =>
      simp only [step] at h
      split at h
      · cases h
        exact .failed delivery _ error
      · cases h
        exact .failed delivery _ error
      · cases h
        exact .failed delivery _ error
      · cases h
  | republish delivery now random =>
      simp only [step] at h
      split at h
      next copy error hphase =>
        obtain ⟨record, hrecord, h⟩ := Option.bind_eq_some_iff.mp h
        cases h
        exact .republished delivery copy record error now random hphase hrecord
      next => cases h
  | commitOffset delivery =>
      simp only [step] at h
      split at h
      next copy hphase =>
        cases h
        exact .committedOffset delivery copy hphase
      next => cases h
  | escape delivery =>
      cases h
      exact .escaped delivery

end Steps

/-! ## The copies -/

/-- The records that are there stay, as they are but for their offset, and so does what is
settled. -/
structure Extends (s s' : Consumption) : Prop where
  copies : ∀ (c : ℕ) (copy : Copy), s.copies[c]? = some copy → ∃ kept : Copy,
    s'.copies[c]? = some kept ∧ kept.payload = copy.payload ∧ kept.parent = copy.parent
  verdicts : ∀ verdict ∈ s.verdicts, verdict ∈ s'.verdicts

/-- Every record was first published, or republished from one before it. -/
structure Lineage (s : Consumption) : Prop where
  first : ∀ (c : ℕ) (copy : Copy), s.copies[c]? = some copy → copy.parent = none →
    FirstPublication sources copy.payload
  copied : ∀ (c : ℕ) (copy : Copy) (p : ℕ), s.copies[c]? = some copy → copy.parent = some p →
    p < c ∧ ∃ (parent : Copy) (error : HandlerError) (now : Instant) (random : ℚ),
      s.copies[p]? = some parent ∧ copy.payload = republishedAs service parent.payload error now random

/-- The record `c` was republished, any number of times over, from the record `first`. -/
def CopyOf (s : Consumption) : ℕ → ℕ → Prop :=
  Relation.ReflTransGen fun p c => ∃ copy : Copy, s.copies[c]? = some copy ∧ copy.parent = some p

section Copies

variable {service : String} {sources : List String} {s s' : Consumption}

theorem getElem?_snoc {α : Type*} {l : List α} {a x : α} {i : ℕ} :
    (l ++ [a])[i]? = some x ↔ l[i]? = some x ∨ i = l.length ∧ a = x := by
  by_cases hi : i < l.length
  · rw [List.getElem?_append_left hi]
    constructor
    · exact .inl
    · rintro (h | ⟨rfl, -⟩)
      · exact h
      · omega
  · have hnone : l[i]? = none := List.getElem?_eq_none (by omega)
    rw [List.getElem?_append_right (by omega), hnone]
    by_cases hend : i = l.length
    · simp [hend]
    · have hpast : 0 < i - l.length := by omega
      simp [hend, hpast.ne']

theorem extends_snoc (copy : Copy) (hverdicts : s'.verdicts = s.verdicts)
    (hcopies : s'.copies = s.copies ++ [copy]) : Extends s s' where
  copies c kept h := ⟨kept, by rw [hcopies]; exact getElem?_snoc.mpr (.inl h), rfl, rfl⟩
  verdicts verdict h := by
    rw [hverdicts]
    exact h

theorem extends_same (hcopies : s'.copies = s.copies)
    (hverdicts : ∀ verdict ∈ s.verdicts, verdict ∈ s'.verdicts) : Extends s s' where
  copies c kept h := ⟨kept, by rw [hcopies]; exact h, rfl, rfl⟩
  verdicts := hverdicts

theorem getElem?_commitOffset (delivery copy c : ℕ) :
    (s.commitOffset delivery copy).copies[c]? =
      (s.copies[c]?).map fun record =>
        if copy = c then { record with committed := true } else record := by
  unfold commitOffset
  rw [List.getElem?_modify]
  rfl

theorem ConsumerMove.extends (h : ConsumerMove service sources s s') : Extends s s' := by
  cases h with
  | published payload _ => exact extends_snoc _ rfl rfl
  | republished delivery copy record error now random _ _ => exact extends_snoc _ rfl rfl
  | committedOffset delivery copy _ =>
      constructor
      · intro c record hrecord
        rw [getElem?_commitOffset, hrecord]
        refine ⟨_, rfl, ?_⟩
        split_ifs
        · exact ⟨rfl, rfl⟩
        · exact ⟨rfl, rfl⟩
      · exact fun _ h => h
  | decided => exact extends_same rfl fun _ h => List.mem_append_left _ h
  | answered => exact extends_same rfl fun _ h => List.mem_append_left _ h
  | waits => exact extends_same rfl fun _ h => h
  | handed => exact extends_same rfl fun _ h => h
  | unclaimable => exact extends_same rfl fun _ h => h
  | duplicated => exact extends_same rfl fun _ h => h
  | inserted => exact extends_same rfl fun _ h => h
  | finished => exact extends_same rfl fun _ h => h
  | failed => exact extends_same rfl fun _ h => h
  | escaped => exact extends_same rfl fun _ h => h

/-- A record of the state a step leads to was there before it, or was published by it. -/
theorem ConsumerMove.copy_cases (h : ConsumerMove service sources s s') {c : ℕ} {copy : Copy}
    (hcopy : s'.copies[c]? = some copy) :
    (∃ old : Copy, s.copies[c]? = some old ∧ copy.payload = old.payload ∧ copy.parent = old.parent ∧
      (copy.committed = true →
        old.committed = true ∨ ∃ delivery, s.phase delivery = .returned c)) ∨
    c = s.copies.length ∧ copy.committed = false ∧
      (copy.parent = none ∧ FirstPublication sources copy.payload ∨
        ∃ (p : ℕ) (parent : Copy) (error : HandlerError) (now : Instant) (random : ℚ),
          copy.parent = some p ∧ s.copies[p]? = some parent ∧
            copy.payload = republishedAs service parent.payload error now random) := by
  cases h with
  | published payload hfirst =>
      rcases getElem?_snoc.mp hcopy with hold | ⟨hlast, rfl⟩
      · exact .inl ⟨copy, hold, rfl, rfl, .inl⟩
      · exact .inr ⟨hlast, rfl, .inl ⟨rfl, hfirst⟩⟩
  | republished delivery p record error now random _ hrecord =>
      rcases getElem?_snoc.mp hcopy with hold | ⟨hlast, rfl⟩
      · exact .inl ⟨copy, hold, rfl, rfl, .inl⟩
      · exact .inr ⟨hlast, rfl, .inr ⟨p, record, error, now, random, rfl, hrecord, rfl⟩⟩
  | committedOffset delivery returned hphase =>
      rw [getElem?_commitOffset] at hcopy
      obtain ⟨old, hold, rfl⟩ := Option.map_eq_some_iff.mp hcopy
      refine .inl ⟨old, hold, ?_⟩
      by_cases hsame : returned = c
      · rw [if_pos hsame]
        exact ⟨rfl, rfl, fun _ => .inr ⟨delivery, hsame ▸ hphase⟩⟩
      · rw [if_neg hsame]
        exact ⟨rfl, rfl, .inl⟩
  | decided => exact .inl ⟨copy, hcopy, rfl, rfl, .inl⟩
  | answered => exact .inl ⟨copy, hcopy, rfl, rfl, .inl⟩
  | waits => exact .inl ⟨copy, hcopy, rfl, rfl, .inl⟩
  | handed => exact .inl ⟨copy, hcopy, rfl, rfl, .inl⟩
  | unclaimable => exact .inl ⟨copy, hcopy, rfl, rfl, .inl⟩
  | duplicated => exact .inl ⟨copy, hcopy, rfl, rfl, .inl⟩
  | inserted => exact .inl ⟨copy, hcopy, rfl, rfl, .inl⟩
  | finished => exact .inl ⟨copy, hcopy, rfl, rfl, .inl⟩
  | failed => exact .inl ⟨copy, hcopy, rfl, rfl, .inl⟩
  | escaped => exact .inl ⟨copy, hcopy, rfl, rfl, .inl⟩

theorem lineage_initial : Lineage service sources initial where
  first c copy h := by cases h
  copied c copy p h := by cases h

theorem Lineage.step (h : Lineage service sources s) (hmove : ConsumerMove service sources s s') :
    Lineage service sources s' := by
  constructor
  · intro c copy hcopy hparent
    rcases hmove.copy_cases hcopy with ⟨old, hold, hpayload, hsame, -⟩ |
      ⟨-, -, ⟨-, hfirst⟩ | ⟨p, parent, error, now, random, hcopied, -⟩⟩
    · rw [hpayload]
      exact h.first c old hold (hsame ▸ hparent)
    · exact hfirst
    · rw [hparent] at hcopied
      cases hcopied
  · intro c copy p hcopy hparent
    rcases hmove.copy_cases hcopy with ⟨old, hold, hpayload, hsame, -⟩ |
      ⟨rfl, -, ⟨hnone, -⟩ | ⟨q, parent, error, now, random, hcopied, hq, hpayload⟩⟩
    · obtain ⟨hlt, parent, error, now, random, hp, hrepublished⟩ :=
        h.copied c old p hold (hsame ▸ hparent)
      obtain ⟨kept, hkept, hkeptPayload, -⟩ := hmove.extends.copies p parent hp
      refine ⟨hlt, kept, error, now, random, hkept, ?_⟩
      rw [hpayload, hkeptPayload, hrepublished]
    · rw [hparent] at hnone
      cases hnone
    · rw [hparent] at hcopied
      cases hcopied
      obtain ⟨kept, hkept, hkeptPayload, -⟩ := hmove.extends.copies p parent hq
      refine ⟨(List.getElem?_eq_some_iff.mp hq).1, kept, error, now, random, hkept, ?_⟩
      rw [hkeptPayload, hpayload]

/-- What every copy keeps of the record first published. -/
structure KeepsOf (first copy : Payload) : Prop where
  key : copy.key = first.key
  value : copy.value = first.value
  published : copy.headers.published = first.headers.published
  origin : copy.headers.origin.getD copy.topic = first.headers.origin.getD first.topic

theorem keepsOf_republishedAs (payload : Payload) (error : HandlerError) (now : Instant)
    (random : ℚ) : KeepsOf payload (republishedAs service payload error now random) := by
  obtain ⟨hkey, hvalue, hpublished, horigin⟩ :=
    republishedAs_keeps service payload error now random
  exact ⟨hkey, hvalue, hpublished, by rw [horigin]; rfl⟩

theorem KeepsOf.trans {first copy next : Payload} (h : KeepsOf first copy)
    (h' : KeepsOf copy next) : KeepsOf first next where
  key := h'.key.trans h.key
  value := h'.value.trans h.value
  published := h'.published.trans h.published
  origin := h'.origin.trans h.origin

theorem Lineage.keepsOf (h : Lineage service sources s) {c c' : ℕ} {first copy : Copy}
    (hcopyOf : CopyOf s c c') (hfirst : s.copies[c]? = some first)
    (hcopy : s.copies[c']? = some copy) : KeepsOf first.payload copy.payload := by
  induction hcopyOf generalizing copy with
  | refl =>
      rw [hfirst] at hcopy
      cases hcopy
      exact ⟨rfl, rfl, rfl, rfl⟩
  | tail _ hstep ih =>
      obtain ⟨found, hfound, hparent⟩ := hstep
      rw [hcopy] at hfound
      cases hfound
      obtain ⟨-, parent, error, now, random, hp, hpayload⟩ := h.copied _ copy _ hcopy hparent
      rw [hpayload]
      exact (ih hp).trans (keepsOf_republishedAs parent.payload error now random)

end Copies

/-! ## The ledger -/

/-- The transactions that committed the message's effect. -/
def effectsOf (s : Consumption) (messageId : Uuid) : List Verdict :=
  s.verdicts.filter fun verdict => verdict.messageId = messageId ∧ verdict.outcome = .applied

/-- What the claims of the ids stand for. -/
structure LedgerInv (s : Consumption) : Prop where
  owner : ∀ delivery messageId, s.processed.owner messageId = some delivery →
    ∃ (c : ℕ) (copy : Copy), s.phase delivery = .claimed c ∧ s.copies[c]? = some copy ∧
      messageIdOf copy.payload = .ok messageId
  claimed : ∀ delivery c, s.phase delivery = .claimed c →
    ∃ (copy : Copy) (messageId : Uuid) (topic : String), s.copies[c]? = some copy ∧
      messageIdOf copy.payload = .ok messageId ∧
      s.processed.held messageId = some (delivery, some topic) ∧
      s.processed.committed messageId = none
  recorded : ∀ messageId, s.processed.committed messageId ≠ none →
    ∃ verdict ∈ s.verdicts, verdict.messageId = messageId
  once : ∀ messageId, (s.effectsOf messageId).length ≤ 1
  unclaimed : ∀ messageId, s.processed.committed messageId = none → s.effectsOf messageId = []
  outcomes : ∀ verdict ∈ s.verdicts, verdict.outcome ≠ .duplicate

section Ledger

variable {service : String} {sources : List String} {s s' : Consumption} {delivery : ℕ}

@[simp] theorem phase_enter_self (phase : DeliveryPhase) :
    (s.enter delivery phase).phase delivery = phase := by simp [enter]

@[simp] theorem phase_enter_of_ne {d : ℕ} (h : d ≠ delivery) (phase : DeliveryPhase) :
    (s.enter delivery phase).phase d = s.phase d := by simp [enter, h]

theorem ledgerInv_initial : LedgerInv initial where
  owner delivery messageId h := by cases h
  claimed delivery c h := by cases h
  recorded messageId h := absurd rfl h
  once messageId := Nat.zero_le 1
  unclaimed messageId _ := rfl
  outcomes verdict h := by cases h

/-- A claim is open only while its transaction is. -/
theorem LedgerInv.not_owner (h : LedgerInv s) (hphase : ∀ c, s.phase delivery ≠ .claimed c)
    (messageId : Uuid) : s.processed.owner messageId ≠ some delivery := by
  intro howner
  obtain ⟨c, -, hclaimed, -⟩ := h.owner delivery messageId howner
  exact hphase c hclaimed

/-- A step that neither opens nor ends a claiming transaction, nor commits an effect. -/
theorem LedgerInv.moved (h : LedgerInv s) (hextends : Extends s s')
    (hphase : ∀ d c, s'.phase d = .claimed c ↔ s.phase d = .claimed c)
    (hprocessed : s'.processed = s.processed)
    (heffects : ∀ messageId, s'.effectsOf messageId = s.effectsOf messageId)
    (houtcomes : ∀ verdict ∈ s'.verdicts, verdict.outcome ≠ .duplicate) : LedgerInv s' := by
  constructor
  · intro d messageId howner
    rw [hprocessed] at howner
    obtain ⟨c, copy, hclaimed, hcopy, hid⟩ := h.owner d messageId howner
    obtain ⟨kept, hkept, hpayload, -⟩ := hextends.copies c copy hcopy
    exact ⟨c, kept, (hphase d c).mpr hclaimed, hkept, by rw [hpayload]; exact hid⟩
  · intro d c hclaimed
    obtain ⟨copy, messageId, topic, hcopy, hid, hheld⟩ := h.claimed d c ((hphase d c).mp hclaimed)
    obtain ⟨kept, hkept, hpayload, -⟩ := hextends.copies c copy hcopy
    rw [hprocessed]
    exact ⟨kept, messageId, topic, hkept, by rw [hpayload]; exact hid, hheld⟩
  · intro messageId hcommitted
    rw [hprocessed] at hcommitted
    obtain ⟨verdict, hverdict, hid⟩ := h.recorded messageId hcommitted
    exact ⟨verdict, hextends.verdicts verdict hverdict, hid⟩
  · intro messageId
    rw [heffects]
    exact h.once messageId
  · intro messageId hnone
    rw [heffects]
    rw [hprocessed] at hnone
    exact h.unclaimed messageId hnone
  · exact houtcomes

/-- A delivery whose transaction is not open goes on without opening one. -/
theorem claimed_enter_iff {phase : DeliveryPhase} (hbefore : ∀ c, s.phase delivery ≠ .claimed c)
    (hafter : ∀ c, phase ≠ .claimed c) (d c : ℕ) :
    (s.enter delivery phase).phase d = .claimed c ↔ s.phase d = .claimed c := by
  by_cases hd : d = delivery
  · subst hd
    rw [phase_enter_self]
    constructor
    · exact fun h => absurd h (hafter c)
    · exact fun h => absurd h (hbefore c)
  · rw [phase_enter_of_ne hd]

/-- The id inserted by a delivery that found it free. -/
theorem LedgerInv.inserted (h : LedgerInv s) {copy : ℕ} {record : Copy} {messageId : Uuid}
    (hphase : s.phase delivery = .received copy) (hrecord : s.copies[copy]? = some record)
    (hid : messageIdOf record.payload = .ok messageId)
    (hfree : s.processed.Free delivery messageId)
    (hview : s.processed.view delivery messageId = none) (topic : String) :
    LedgerInv { s.enter delivery (.claimed copy) with
      processed := s.processed.put delivery messageId (some topic) } := by
  have hunowned : ∀ other, s.processed.owner other ≠ some delivery :=
    h.not_owner (by simp [hphase])
  have hnone : s.processed.owner messageId = none :=
    hfree.resolve_right (hunowned messageId)
  have hcommitted : s.processed.committed messageId = none := by
    rw [← Rows.view_of_owner_ne (hunowned messageId)]
    exact hview
  refine ⟨?_, ?_, h.recorded, h.once, h.unclaimed, h.outcomes⟩
  · intro d other howner
    by_cases hother : other = messageId
    · subst hother
      have hd : delivery = d := by simpa using howner
      subst hd
      exact ⟨copy, record, phase_enter_self _, hrecord, hid⟩
    · rw [Rows.owner_put_of_ne hother] at howner
      have hd : d ≠ delivery := by
        rintro rfl
        exact hunowned other howner
      obtain ⟨c, found, hclaimed, hfound⟩ := h.owner d other howner
      exact ⟨c, found, (phase_enter_of_ne hd _).trans hclaimed, hfound⟩
  · intro d c hclaimed
    by_cases hd : d = delivery
    · subst hd
      have hself : (s.enter d (.claimed copy)).phase d = .claimed copy := phase_enter_self _
      have hc : copy = c := by simpa using hself.symm.trans hclaimed
      subst hc
      exact ⟨record, messageId, topic, hrecord, hid, Rows.held_put_self, hcommitted⟩
    · obtain ⟨found, other, held, hfound, hother, hheld, hstill⟩ :=
        h.claimed d c ((phase_enter_of_ne hd _).symm.trans hclaimed)
      have hne : other ≠ messageId := by
        rintro rfl
        rw [Rows.owner_of_held hheld] at hnone
        cases hnone
      exact ⟨found, other, held, hfound, hother, (Rows.held_put_of_ne hne).trans hheld, hstill⟩

/-- A transaction ended, its claim forgotten: the others stay as they are. -/
theorem LedgerInv.rolledBack (h : LedgerInv s) {phase : DeliveryPhase}
    (hafter : ∀ c, phase ≠ .claimed c) : LedgerInv (s.rolledBack delivery phase) := by
  have hself : (s.rolledBack delivery phase).phase delivery = phase := phase_enter_self phase
  have hothers : ∀ d, d ≠ delivery → (s.rolledBack delivery phase).phase d = s.phase d :=
    fun d hd => phase_enter_of_ne hd phase
  refine ⟨?_, ?_, h.recorded, h.once, h.unclaimed, h.outcomes⟩
  · intro d messageId howner
    rw [show (s.rolledBack delivery phase).processed = s.processed.rollback delivery from rfl,
      Rows.owner_rollback] at howner
    split_ifs at howner with hmine
    have hd : d ≠ delivery := by
      rintro rfl
      exact hmine howner
    obtain ⟨c, copy, hclaimed, hcopy⟩ := h.owner d messageId howner
    exact ⟨c, copy, (hothers d hd).trans hclaimed, hcopy⟩
  · intro d c hclaimed
    have hd : d ≠ delivery := by
      rintro rfl
      rw [hself] at hclaimed
      exact hafter c hclaimed
    rw [hothers d hd] at hclaimed
    obtain ⟨copy, messageId, topic, hcopy, hid, hheld, hnone⟩ := h.claimed d c hclaimed
    have hmine : s.processed.owner messageId ≠ some delivery := by
      rw [Rows.owner_of_held hheld]
      simpa using hd
    exact ⟨copy, messageId, topic, hcopy, hid, (Rows.held_rollback_of_ne hmine).trans hheld, hnone⟩

/-- The effect, if there is one, committed with the claim of its id. -/
theorem LedgerInv.decided (h : LedgerInv s) {copy : ℕ} {record : Copy} {messageId : Uuid}
    {outcome : Outcome} (hphase : s.phase delivery = .claimed copy)
    (hrecord : s.copies[copy]? = some record) (hid : messageIdOf record.payload = .ok messageId)
    (houtcome : outcome ≠ .duplicate) :
    LedgerInv { s.enter delivery (.decided copy) with
      processed := s.processed.commit delivery
      verdicts := s.verdicts ++ [⟨messageId, outcome⟩] } := by
  obtain ⟨found, claimedId, topic, hfound, hclaimedId, hheld, hnone⟩ :=
    h.claimed delivery copy hphase
  rw [hrecord] at hfound
  cases hfound
  rw [hid] at hclaimedId
  cases hclaimedId
  have honly : ∀ other, other ≠ messageId → s.processed.owner other ≠ some delivery := by
    intro other hother howner
    obtain ⟨c, foundCopy, hc, hcopy, hotherId⟩ := h.owner delivery other howner
    rw [hphase] at hc
    cases hc
    rw [hrecord] at hcopy
    cases hcopy
    rw [hid] at hotherId
    cases hotherId
    exact hother rfl
  have heffects : ∀ other, other ≠ messageId →
      (s.verdicts ++ [(⟨messageId, outcome⟩ : Verdict)]).filter
        (fun verdict : Verdict => verdict.messageId = other ∧ verdict.outcome = .applied) =
      s.effectsOf other := by
    intro other hother
    simp [effectsOf, List.filter_append, hother.symm]
  constructor
  · intro d other howner
    have howned : (s.processed.commit delivery).owner other = some d := howner
    rw [Rows.owner_commit] at howned
    split_ifs at howned with hmine
    have hd : d ≠ delivery := by
      rintro rfl
      exact hmine howned
    obtain ⟨c, foundCopy, hclaimed, hcopy⟩ := h.owner d other howned
    exact ⟨c, foundCopy, (phase_enter_of_ne hd _).trans hclaimed, hcopy⟩
  · intro d c hclaimed
    have hd : d ≠ delivery := by
      rintro rfl
      have hself : (s.enter d (.decided copy)).phase d = .decided copy := phase_enter_self _
      cases hself.symm.trans hclaimed
    obtain ⟨foundCopy, other, held, hcopy, hother, hotherHeld, hstill⟩ :=
      h.claimed d c ((phase_enter_of_ne hd _).symm.trans hclaimed)
    have hmine : s.processed.owner other ≠ some delivery := by
      rw [Rows.owner_of_held hotherHeld]
      simpa using hd
    exact ⟨foundCopy, other, held, hcopy, hother, (Rows.held_commit_of_ne hmine).trans hotherHeld,
      (Rows.committed_commit_of_ne hmine).trans hstill⟩
  · intro other hcommitted
    by_cases hother : other = messageId
    · exact ⟨⟨messageId, outcome⟩, List.mem_append_right _ (List.mem_singleton_self _), hother.symm⟩
    · have hkept : s.processed.committed other ≠ none := by
        rw [← Rows.committed_commit_of_ne (honly other hother)]
        exact hcommitted
      obtain ⟨verdict, hverdict, hverdictId⟩ := h.recorded other hkept
      exact ⟨verdict, List.mem_append_left _ hverdict, hverdictId⟩
  · intro other
    by_cases hother : other = messageId
    · subst hother
      have hempty := h.unclaimed other hnone
      unfold effectsOf at hempty ⊢
      rw [List.filter_append, hempty, List.nil_append]
      exact List.length_filter_le _ _
    · unfold effectsOf
      rw [heffects other hother]
      exact h.once other
  · intro other hnoneAfter
    by_cases hother : other = messageId
    · subst hother
      have hview : (s.processed.commit delivery).committed other = some topic :=
        Rows.view_of_held hheld
      rw [hview] at hnoneAfter
      cases hnoneAfter
    · unfold effectsOf
      rw [heffects other hother]
      apply h.unclaimed
      rw [← Rows.committed_commit_of_ne (honly other hother)]
      exact hnoneAfter
  · intro verdict hverdict
    rcases List.mem_append.mp hverdict with hold | hnew
    · exact h.outcomes verdict hold
    · rw [List.mem_singleton.mp hnew]
      exact houtcome

theorem LedgerInv.step (h : LedgerInv s) (hmove : ConsumerMove service sources s s') :
    LedgerInv s' := by
  have hextends := hmove.extends
  cases hmove with
  | published payload _ => exact h.moved hextends (fun _ _ => Iff.rfl) rfl (fun _ => rfl) h.outcomes
  | waits delivery copy hphase =>
      apply h.moved hextends _ rfl (fun _ => rfl) h.outcomes
      exact claimed_enter_iff (by simp [hphase]) (by simp)
  | handed delivery copy record _ hphase =>
      apply h.moved hextends _ rfl (fun _ => rfl) h.outcomes
      apply claimed_enter_iff
      · intro c hclaimed
        rw [hclaimed] at hphase
        simp at hphase
      · intro c
        unfold handling
        split_ifs
        · simp
        · simp
  | unclaimable delivery copy error hphase =>
      apply h.moved hextends _ rfl (fun _ => rfl) h.outcomes
      exact claimed_enter_iff (by simp [hphase]) (by simp)
  | duplicated delivery copy record messageId hphase _ _ _ =>
      apply h.moved hextends _ rfl (fun _ => rfl) h.outcomes
      exact claimed_enter_iff (by simp [hphase]) (by simp)
  | inserted delivery copy record messageId hphase hrecord hid hfree hview =>
      exact h.inserted hphase hrecord hid hfree hview record.payload.topic
  | decided delivery copy record messageId outcome hphase hrecord hid houtcome =>
      exact h.decided hphase hrecord hid houtcome
  | answered delivery copy record messageId outcome hphase _ _ houtcome =>
      have hnot : outcome ≠ .applied ∧ outcome ≠ .duplicate := by
        rcases houtcome with rfl | rfl
        · decide
        · decide
      apply h.moved hextends _ rfl
      · intro other
        simp [effectsOf, List.filter_append, hnot.1]
      · intro verdict hverdict
        rcases List.mem_append.mp hverdict with hold | hnew
        · exact h.outcomes verdict hold
        · rw [List.mem_singleton.mp hnew]
          exact hnot.2
      · exact claimed_enter_iff (by simp [hphase]) (by simp)
  | finished delivery copy hphase =>
      apply h.moved hextends _ rfl (fun _ => rfl) h.outcomes
      exact claimed_enter_iff (by simp [hphase]) (by simp)
  | failed delivery copy error => exact h.rolledBack (by simp)
  | republished delivery copy record error now random hphase _ =>
      apply h.moved hextends _ rfl (fun _ => rfl) h.outcomes
      exact claimed_enter_iff (by simp [hphase]) (by simp)
  | committedOffset delivery copy hphase =>
      apply h.moved hextends _ rfl (fun _ => rfl) h.outcomes
      exact claimed_enter_iff (by simp [hphase]) (by simp)
  | escaped delivery => exact h.rolledBack (by simp)

end Ledger

/-! ## What becomes of a record -/

def Settled (s : Consumption) (payload : Payload) : Prop :=
  ∃ verdict ∈ s.verdicts, messageIdOf payload = .ok verdict.messageId

/-- What the record asked for is settled, or a copy of it asks for it. -/
def Resolved (s : Consumption) (c : ℕ) (payload : Payload) : Prop :=
  s.Settled payload ∨ ∃ (c' : ℕ) (copy : Copy), s.copies[c']? = some copy ∧ copy.parent = some c

/-- No record is passed before it is resolved. -/
structure HandledInv (s : Consumption) : Prop where
  committed : ∀ (c : ℕ) (copy : Copy), s.copies[c]? = some copy → copy.committed = true →
    s.Resolved c copy.payload
  returned : ∀ delivery c, s.phase delivery = .returned c →
    ∃ copy : Copy, s.copies[c]? = some copy ∧ s.Resolved c copy.payload
  decided : ∀ delivery c, s.phase delivery = .decided c →
    ∃ copy : Copy, s.copies[c]? = some copy ∧ s.Settled copy.payload

section Handling

variable {service : String} {sources : List String} {s s' : Consumption}

theorem Extends.settled (h : Extends s s') {payload : Payload} (hsettled : s.Settled payload) :
    s'.Settled payload := by
  obtain ⟨verdict, hverdict, hid⟩ := hsettled
  exact ⟨verdict, h.verdicts verdict hverdict, hid⟩

theorem Extends.resolved (h : Extends s s') {c : ℕ} {payload : Payload}
    (hresolved : s.Resolved c payload) : s'.Resolved c payload := by
  rcases hresolved with hsettled | ⟨c', copy, hcopy, hparent⟩
  · exact .inl (h.settled hsettled)
  · obtain ⟨kept, hkept, -, hkeptParent⟩ := h.copies c' copy hcopy
    exact .inr ⟨c', kept, hkept, hkeptParent.trans hparent⟩

/-- Every record descends from one first published. -/
theorem Lineage.root (h : Lineage service sources s) (c : ℕ) :
    ∀ copy : Copy, s.copies[c]? = some copy → ∃ (f : ℕ) (first : Copy),
      s.copies[f]? = some first ∧ first.parent = none ∧ CopyOf s f c := by
  induction c using Nat.strong_induction_on with
  | _ c ih =>
      intro copy hcopy
      cases hparent : copy.parent with
      | none => exact ⟨c, copy, hcopy, hparent, .refl⟩
      | some p =>
          obtain ⟨hlt, parent, -, -, -, hp, -⟩ := h.copied c copy p hcopy hparent
          obtain ⟨f, first, hfirst, hnone, hchain⟩ := ih p hlt parent hp
          exact ⟨f, first, hfirst, hnone, hchain.tail ⟨copy, hcopy, hparent⟩⟩

/-- A record is handled by the handler of the topic it was first published to. -/
theorem Lineage.originOf (h : Lineage service sources s) {f c : ℕ} {first copy : Copy}
    (hfirst : s.copies[f]? = some first) (hnone : first.parent = none) (hchain : CopyOf s f c)
    (hcopy : s.copies[c]? = some copy) :
    originOf copy.payload = first.payload.topic ∧ first.payload.topic ∈ sources := by
  obtain ⟨hsource, hnull, -, horigin⟩ := h.first f first hfirst hnone
  have hkeeps := (h.keepsOf hchain hfirst hcopy).origin
  rw [horigin] at hkeeps
  exact ⟨originOf_eq hkeeps hnull, hsource⟩

theorem Lineage.handling (h : Lineage service sources s) {c : ℕ} {copy : Copy}
    (hcopy : s.copies[c]? = some copy) : handling sources copy.payload c = .received c := by
  obtain ⟨f, first, hfirst, hnone, hchain⟩ := h.root c copy hcopy
  obtain ⟨horigin, hsource⟩ := h.originOf hfirst hnone hchain hcopy
  exact if_pos (horigin ▸ hsource)

theorem handledInv_initial : HandledInv initial where
  committed c copy h := by cases h
  returned delivery c h := by cases h
  decided delivery c h := by cases h

/-- The phases a step leaves alone, or moves to one that answers for nothing. -/
theorem HandledInv.moved (h : HandledInv s) (hmove : ConsumerMove service sources s s')
    (hreturned : ∀ d c, s'.phase d = .returned c → s.phase d = .returned c ∨
      ∃ copy : Copy, s'.copies[c]? = some copy ∧ s'.Resolved c copy.payload)
    (hdecided : ∀ d c, s'.phase d = .decided c → s.phase d = .decided c ∨
      ∃ copy : Copy, s'.copies[c]? = some copy ∧ s'.Settled copy.payload) : HandledInv s' := by
  have hextends := hmove.extends
  constructor
  · intro c copy hcopy hcommitted
    rcases hmove.copy_cases hcopy with ⟨old, hold, hpayload, -, hcases⟩ | ⟨-, hnot, -⟩
    · rw [hpayload]
      rcases hcases hcommitted with hold' | ⟨delivery, hphase⟩
      · exact hextends.resolved (h.committed c old hold hold')
      · obtain ⟨found, hfound, hresolved⟩ := h.returned delivery c hphase
        rw [hold] at hfound
        cases hfound
        exact hextends.resolved hresolved
    · rw [hcommitted] at hnot
      cases hnot
  · intro d c hphase
    rcases hreturned d c hphase with hbefore | hnow
    · obtain ⟨copy, hcopy, hresolved⟩ := h.returned d c hbefore
      obtain ⟨kept, hkept, hpayload, -⟩ := hextends.copies c copy hcopy
      exact ⟨kept, hkept, hpayload ▸ hextends.resolved hresolved⟩
    · exact hnow
  · intro d c hphase
    rcases hdecided d c hphase with hbefore | hnow
    · obtain ⟨copy, hcopy, hsettled⟩ := h.decided d c hbefore
      obtain ⟨kept, hkept, hpayload, -⟩ := hextends.copies c copy hcopy
      exact ⟨kept, hkept, hpayload ▸ hextends.settled hsettled⟩
    · exact hnow

/-- The delivery's own phase apart, a step moves none. -/
theorem phase_enter_cases {delivery d : ℕ} {phase found : DeliveryPhase}
    (h : (s.enter delivery phase).phase d = found) : phase = found ∨ s.phase d = found := by
  by_cases hd : d = delivery
  · rw [hd, phase_enter_self] at h
    exact .inl h
  · rw [phase_enter_of_ne hd] at h
    exact .inr h

/-- A delivery that goes on without having returned or decided. -/
theorem HandledInv.silent (h : HandledInv s) (hmove : ConsumerMove service sources s s')
    {delivery : ℕ} {phase : DeliveryPhase}
    (hphase : ∀ d, s'.phase d = (s.enter delivery phase).phase d)
    (hreturned : ∀ c, phase ≠ .returned c) (hdecided : ∀ c, phase ≠ .decided c) :
    HandledInv s' := by
  apply h.moved hmove
  · intro d c hafter
    rw [hphase] at hafter
    rcases phase_enter_cases hafter with hnew | hold
    · exact absurd hnew (hreturned c)
    · exact .inl hold
  · intro d c hafter
    rw [hphase] at hafter
    rcases phase_enter_cases hafter with hnew | hold
    · exact absurd hnew (hdecided c)
    · exact .inl hold

/-- A delivery that returns, its record resolved. -/
theorem HandledInv.returns (h : HandledInv s) (hmove : ConsumerMove service sources s s')
    {delivery c : ℕ} {copy : Copy}
    (hphase : ∀ d, s'.phase d = (s.enter delivery (.returned c)).phase d)
    (hcopy : s'.copies[c]? = some copy) (hresolved : s'.Resolved c copy.payload) :
    HandledInv s' := by
  apply h.moved hmove
  · intro d found hafter
    rw [hphase] at hafter
    rcases phase_enter_cases hafter with hnew | hold
    · cases hnew
      exact .inr ⟨copy, hcopy, hresolved⟩
    · exact .inl hold
  · intro d found hafter
    rw [hphase] at hafter
    rcases phase_enter_cases hafter with hnew | hold
    · cases hnew
    · exact .inl hold

/-- A delivery whose message is settled. -/
theorem HandledInv.decides (h : HandledInv s) (hmove : ConsumerMove service sources s s')
    {delivery c : ℕ} {copy : Copy}
    (hphase : ∀ d, s'.phase d = (s.enter delivery (.decided c)).phase d)
    (hcopy : s'.copies[c]? = some copy) (hsettled : s'.Settled copy.payload) : HandledInv s' := by
  apply h.moved hmove
  · intro d found hafter
    rw [hphase] at hafter
    rcases phase_enter_cases hafter with hnew | hold
    · cases hnew
    · exact .inl hold
  · intro d found hafter
    rw [hphase] at hafter
    rcases phase_enter_cases hafter with hnew | hold
    · cases hnew
      exact .inr ⟨copy, hcopy, hsettled⟩
    · exact .inl hold

theorem HandledInv.step (h : HandledInv s) (hlineage : Lineage service sources s)
    (hledger : LedgerInv s) (hmove : ConsumerMove service sources s s') : HandledInv s' := by
  have hall := hmove
  cases hmove with
  | published payload _ => exact h.moved hall (fun _ _ => .inl) fun _ _ => .inl
  | waits delivery copy _ => exact h.silent hall (fun _ => rfl) (by simp) (by simp)
  | handed delivery copy record hrecord _ =>
      rw [hlineage.handling hrecord] at hall ⊢
      exact h.silent hall (fun _ => rfl) (by simp) (by simp)
  | unclaimable delivery copy error _ => exact h.silent hall (fun _ => rfl) (by simp) (by simp)
  | duplicated delivery copy record messageId hphase hrecord hid hview =>
      have hcommitted : s.processed.committed messageId ≠ none := by
        have hidle : ∀ c, s.phase delivery ≠ .claimed c := by simp [hphase]
        rw [← Rows.view_of_owner_ne (hledger.not_owner hidle messageId)]
        exact hview
      obtain ⟨verdict, hverdict, hsame⟩ := hledger.recorded messageId hcommitted
      exact h.decides hall (fun _ => rfl) hrecord ⟨verdict, hverdict, hsame ▸ hid⟩
  | inserted delivery copy record messageId _ _ _ _ _ =>
      exact h.silent hall (fun _ => rfl) (by simp) (by simp)
  | decided delivery copy record messageId outcome _ hrecord hid _ =>
      apply h.decides hall (fun _ => rfl) hrecord
      exact ⟨⟨messageId, outcome⟩, List.mem_append_right _ (List.mem_singleton_self _), hid⟩
  | answered delivery copy record messageId outcome _ hrecord hid _ =>
      apply h.returns hall (fun _ => rfl) hrecord
      exact .inl ⟨⟨messageId, outcome⟩, List.mem_append_right _ (List.mem_singleton_self _), hid⟩
  | finished delivery copy hphase =>
      obtain ⟨record, hrecord, hsettled⟩ := h.decided delivery copy hphase
      exact h.returns hall (fun _ => rfl) hrecord (.inl hsettled)
  | failed delivery copy error => exact h.silent hall (fun _ => rfl) (by simp) (by simp)
  | republished delivery copy record error now random _ hrecord =>
      apply h.returns hall (fun _ => rfl) (getElem?_snoc.mpr (.inl hrecord))
      exact .inr ⟨s.copies.length, _, getElem?_snoc.mpr (.inr ⟨rfl, rfl⟩), rfl⟩
  | committedOffset delivery copy _ => exact h.silent hall (fun _ => rfl) (by simp) (by simp)
  | escaped delivery => exact h.silent hall (fun _ => rfl) (by simp) (by simp)

/-- A record, or a copy of it, is still to be passed, unless what it asks for is settled. -/
theorem HandledInv.kept (h : HandledInv s) (hlineage : Lineage service sources s) (n : ℕ) :
    ∀ (c : ℕ) (copy : Copy), s.copies[c]? = some copy → s.copies.length - c ≤ n →
      ∃ (c' : ℕ) (last : Copy), CopyOf s c c' ∧ s.copies[c']? = some last ∧
        (last.committed = false ∨ s.Settled last.payload) := by
  induction n with
  | zero =>
      intro c copy hcopy hn
      have hlt := (List.getElem?_eq_some_iff.mp hcopy).1
      omega
  | succ n ih =>
      intro c copy hcopy hn
      cases hcommitted : copy.committed with
      | false => exact ⟨c, copy, .refl, hcopy, .inl hcommitted⟩
      | true =>
          rcases h.committed c copy hcopy hcommitted with hsettled | ⟨c', next, hnext, hparent⟩
          · exact ⟨c, copy, .refl, hcopy, .inr hsettled⟩
          · have hlt := (hlineage.copied c' next c hnext hparent).1
            have hlast := (List.getElem?_eq_some_iff.mp hnext).1
            obtain ⟨last, found, hchain, hfound⟩ := ih c' next hnext (by omega)
            exact ⟨last, found, .head ⟨next, hnext, hparent⟩ hchain, hfound⟩

end Handling

/-! ## Every message -/

/-- The record, or a copy of it, stands uncommitted on a topic the service consumes. -/
def ToBeDelivered (s : Consumption) (c : ℕ) : Prop :=
  ∃ (c' : ℕ) (copy : Copy), CopyOf s c c' ∧ s.copies[c']? = some copy ∧ copy.committed = false ∧
    (copy.payload.topic ∈ sources ∨ copy.payload.topic = retryTopic service)

def DeadLettered (s : Consumption) (c : ℕ) : Prop :=
  ∃ (c' : ℕ) (copy : Copy), CopyOf s c c' ∧ s.copies[c']? = some copy ∧
    copy.payload.topic = deadLetterTopic service

/-- A handler found that the message changes nothing. -/
def Answered (s : Consumption) (messageId : Uuid) : Prop :=
  ∃ verdict ∈ s.verdicts, verdict.messageId = messageId ∧
    (verdict.outcome = .ignored ∨ verdict.outcome = .superseded)

/-- What a republished record keeps of the record it descends from, and whose handler it has. -/
structure Faithful (sources : List String) (first copy : Payload) (c : ℕ) : Prop where
  key : copy.key = first.key
  value : copy.value = first.value
  messageId : messageIdOf copy = messageIdOf first
  origin : copy.headers.origin = some first.topic
  handler : originOf copy = first.topic ∧ handling sources copy c = .received c

/-- What the consumers promise of every message published to them. -/
structure Delivered (s : Consumption) : Prop where
  kept : ∀ (c : ℕ) (first : Copy) (messageId : Uuid), s.copies[c]? = some first →
    first.parent = none → messageIdOf first.payload = .ok messageId →
    ToBeDelivered service sources s c ∨ s.effectsOf messageId ≠ [] ∨ s.Answered messageId ∨
      DeadLettered service s c
  once : ∀ messageId, (s.effectsOf messageId).length ≤ 1
  faithful : ∀ (c c' : ℕ) (first copy : Copy), s.copies[c]? = some first → first.parent = none →
    s.copies[c']? = some copy → CopyOf s c c' → c ≠ c' →
    Faithful sources first.payload copy.payload c'
  attempts : ∀ (c c' : ℕ) (earlier later : Copy), s.copies[c]? = some earlier →
    s.copies[c']? = some later → CopyOf s c c' → c ≠ c' →
    later.payload.topic = retryTopic service →
    attemptsSoFar earlier.payload.headers < attemptsSoFar later.payload.headers ∧
      attemptsSoFar later.payload.headers ≤ RETRY_DELAYS_MS.length

section Messages

variable {service : String} {sources : List String} {s : Consumption}

/-- The last step of a chain of copies. -/
theorem copyOf_last {c c' : ℕ} {copy : Copy} (hchain : CopyOf s c c') (hne : c ≠ c')
    (hcopy : s.copies[c']? = some copy) : ∃ p, CopyOf s c p ∧ copy.parent = some p := by
  rcases Relation.ReflTransGen.cases_tail hchain with rfl | ⟨p, hp, found, hfound, hparent⟩
  · exact absurd rfl hne
  · rw [hcopy] at hfound
    cases hfound
    exact ⟨p, hp, hparent⟩

theorem Lineage.attempts_le (h : Lineage service sources s) {c c' : ℕ} {earlier later : Copy}
    (hchain : CopyOf s c c') (hearlier : s.copies[c]? = some earlier)
    (hlater : s.copies[c']? = some later) :
    attemptsSoFar earlier.payload.headers ≤ attemptsSoFar later.payload.headers := by
  induction hchain generalizing later with
  | refl =>
      rw [hearlier] at hlater
      cases hlater
      exact Nat.le_refl _
  | tail _ hstep ih =>
      obtain ⟨found, hfound, hparent⟩ := hstep
      rw [hlater] at hfound
      cases hfound
      obtain ⟨-, parent, error, now, random, hp, hpayload⟩ := h.copied _ later _ hlater hparent
      rw [hpayload]
      exact (ih hp).trans (le_republishedAs_attempt service parent.payload error now random)

theorem Lineage.attempts_lt (h : Lineage service sources s) {c c' : ℕ} {earlier later : Copy}
    (hearlier : s.copies[c]? = some earlier) (hlater : s.copies[c']? = some later)
    (hchain : CopyOf s c c') (hne : c ≠ c') (htopic : later.payload.topic = retryTopic service) :
    attemptsSoFar earlier.payload.headers < attemptsSoFar later.payload.headers ∧
      attemptsSoFar later.payload.headers ≤ RETRY_DELAYS_MS.length := by
  obtain ⟨p, hp, hparent⟩ := copyOf_last hchain hne hlater
  obtain ⟨-, parent, error, now, random, hfound, hpayload⟩ := h.copied c' later p hlater hparent
  have hle := h.attempts_le hp hearlier hfound
  rw [hpayload] at htopic ⊢
  obtain ⟨hattempt, hbound⟩ := republishedAs_attempt service parent.payload error now random htopic
  omega

theorem Lineage.faithful (h : Lineage service sources s) {c c' : ℕ} {first copy : Copy}
    (hfirst : s.copies[c]? = some first) (hnone : first.parent = none)
    (hcopy : s.copies[c']? = some copy) (hchain : CopyOf s c c') (hne : c ≠ c') :
    Faithful sources first.payload copy.payload c' := by
  obtain ⟨-, -, hid, horigin⟩ := h.first c first hfirst hnone
  have hkeeps := h.keepsOf hchain hfirst hcopy
  obtain ⟨messageId, hmessageId⟩ := Option.isSome_iff_exists.mp hid
  refine ⟨hkeeps.key, hkeeps.value, ?_, ?_, (h.originOf hfirst hnone hchain hcopy).1,
    h.handling hcopy⟩
  · rw [toOption_ok hmessageId]
    exact messageIdOf_congr hkeeps.published (toOption_ok hmessageId)
  · obtain ⟨p, -, hparent⟩ := copyOf_last hchain hne hcopy
    obtain ⟨-, parent, error, now, random, -, hpayload⟩ := h.copied c' copy p hcopy hparent
    have hsame := hkeeps.origin
    obtain ⟨-, -, -, hwritten⟩ := republishedAs_keeps service parent.payload error now random
    rw [hpayload, hwritten] at hsame ⊢
    rw [horigin] at hsame
    exact congrArg some hsame

/-- The topics a record can stand on. -/
theorem Lineage.topic (h : Lineage service sources s) {c : ℕ} {copy : Copy}
    (hcopy : s.copies[c]? = some copy) : copy.payload.topic ∈ sources ∨
      copy.payload.topic = retryTopic service ∨ copy.payload.topic = deadLetterTopic service := by
  cases hparent : copy.parent with
  | none => exact .inl (h.first c copy hcopy hparent).1
  | some p =>
      obtain ⟨-, parent, error, now, random, -, hpayload⟩ := h.copied c copy p hcopy hparent
      rw [hpayload]
      exact .inr (republishedAs_topic service parent.payload error now random)

theorem delivered_of_invariants (hlineage : Lineage service sources s) (hledger : LedgerInv s)
    (hhandled : HandledInv s) : Delivered service sources s := by
  refine ⟨?_, hledger.once, fun _ _ _ _ => hlineage.faithful, fun _ _ _ _ => hlineage.attempts_lt⟩
  intro c first messageId hfirst hnone hid
  obtain ⟨c', last, hchain, hlast, hopen | ⟨verdict, hverdict, hsettled⟩⟩ :=
    hhandled.kept hlineage _ c first hfirst (Nat.le_refl _)
  · rcases hlineage.topic hlast with hsource | hretry | hdead
    · exact .inl ⟨c', last, hchain, hlast, hopen, .inl hsource⟩
    · exact .inl ⟨c', last, hchain, hlast, hopen, .inr hretry⟩
    · exact .inr (.inr (.inr ⟨c', last, hchain, hlast, hdead⟩))
  · have hsame : messageId = verdict.messageId := by
      have hlastId := messageIdOf_congr (hlineage.keepsOf hchain hfirst hlast).published hid
      rw [hsettled] at hlastId
      exact (Except.ok.inj hlastId).symm
    have houtcome := hledger.outcomes verdict hverdict
    cases hfound : verdict.outcome with
    | applied =>
        refine .inr (.inl (List.ne_nil_of_mem (a := verdict) ?_))
        exact List.mem_filter.mpr ⟨hverdict, by simp [hsame, hfound]⟩
    | duplicate => exact absurd hfound houtcome
    | ignored => exact .inr (.inr (.inl ⟨verdict, hverdict, hsame.symm, .inl hfound⟩))
    | superseded => exact .inr (.inr (.inl ⟨verdict, hverdict, hsame.symm, .inr hfound⟩))

/-- No consumed message is lost and none is applied twice, whatever the handlers answer, whichever
republication fails and wherever a process stops. -/
theorem messages_kept_and_applied_once (service : String) (sources : List String) (s : Consumption)
    (hrun : Reaches (Published sources) (step service sources) initial s) :
    Delivered service sources s := by
  obtain ⟨hlineage, hledger, hhandled⟩ :
      Lineage service sources s ∧ LedgerInv s ∧ HandledInv s := by
    apply hrun.invariant ⟨lineage_initial, ledgerInv_initial, handledInv_initial⟩
    rintro v action w ⟨hlineage, hledger, hhandled⟩ hpublished hstep
    have hmove := step_move hpublished hstep
    exact ⟨hlineage.step hmove, hledger.step hmove, hhandled.step hlineage hledger hmove⟩
  exact delivered_of_invariants hlineage hledger hhandled

end Messages

section Sample

def samplePayload : Payload where
  topic := "arthome.streaming.run"
  key := some "date-1"
  value := none
  headers :=
    { published := fun name =>
        if name = "message-id" then some "0190b4e2-7c1a-7d30-8f00-00000000002a" else none
      attempt := none
      notBefore := none
      origin := none
      error := none
      dlqReason := none }

/-- The effect committed and its answer lost, its copy found a duplicate. -/
def sampleActions : List ConsumerAction :=
  [.publish samplePayload, .deliver 0 .main 0 0, .deliver 1 .main 0 0, .claim 0,
    .decide 0 .applied, .fail 0 ⟨false, "Error: connection reset"⟩, .republish 0 0 0,
    .commitOffset 0, .escape 1, .deliver 2 .retry 1 4999, .due 2 5000, .claim 2, .finish 2]

theorem messages_kept_and_applied_once_sample :
    ∃ s, Delivered "catalog" ["arthome.streaming.run"] s ∧
      s.verdicts.map Verdict.outcome = [.applied] ∧
      s.copies.map (fun copy => (copy.parent, copy.committed, copy.payload.headers.attempt)) =
        [(none, true, none), (some 0, false, some 1)] := by
  have hrun : (sampleActions.foldlM (fun s a =>
        if Published ["arthome.streaming.run"] s a then
          step "catalog" ["arthome.streaming.run"] s a
        else none) initial).map
      (fun s => (s.verdicts.map Verdict.outcome, s.copies.map fun copy =>
        (copy.parent, copy.committed, copy.payload.headers.attempt))) =
      some ([.applied], [(none, true, none), (some 0, false, some 1)]) := by
    decide +kernel
  obtain ⟨s, hs, hends⟩ := Option.map_eq_some_iff.mp hrun
  exact ⟨s, messages_kept_and_applied_once _ _ s (Reaches.of_guarded hs), congrArg Prod.fst hends,
    congrArg Prod.snd hends⟩

end Sample

end Consumption

end Arthome.Messaging
