import Arthome.Edge.Idempotency

/-!
# Email verification links

A link at sign-up and on request, spent by its first use, expired after a day, and good
only for the address it was sent to. Each command runs in its own transaction under the
record of its key, statement by statement: a statement reads the rows committed last and
the transaction's own, and waits on a row another transaction owns. A bulk update finds
its rows first, then takes them one by one, each read again once it is free.
-/

namespace Arthome.Identity

open Arthome.Core Arthome.Edge Arthome.Library

/-- What the links rest on: core's lifetime, the digest of a token, and the folding under which
`citext` compares two addresses. -/
class VerificationRules where
  linkLifetimeHours : ℤ
  hashOf : String → String
  foldCase : String → String

structure Account where
  email : String
  locale : String
  emailVerifiedAt : Option Instant
  deriving Repr, DecidableEq

structure EmailVerification where
  accountId : Uuid
  email : String
  expiresAt : Instant
  usedAt : Option Instant
  deriving Repr, DecidableEq

structure VerificationRecipient where
  accountId : Uuid
  email : String
  locale : String
  deriving Repr, DecidableEq

/-- What a transaction does to an account's verification: the outbox row that carries a link's
token, or the account's address verified. -/
inductive LinkAct where
  | requested (accountId : Uuid) (tokenHash : String) (email locale token : String)
      (occurredAt expiresAt : Instant)
  | verified (accountId : Uuid) (tokenHash : String) (verifiedAt : Instant)
  deriving Repr, DecidableEq

def LinkAct.accountId : LinkAct → Uuid
  | .requested accountId _ _ _ _ _ _ => accountId
  | .verified accountId _ _ => accountId

def LinkAct.tokenHash : LinkAct → String
  | .requested _ tokenHash _ _ _ _ _ => tokenHash
  | .verified _ tokenHash _ => tokenHash

def LinkAct.isRequest : LinkAct → Bool
  | .requested .. => true
  | .verified .. => false

inductive LinkAnswer where
  | signedUp (accountId : Uuid)
  | queued (queued : Bool)
  | verified
  deriving Repr, DecidableEq

structure LinkEnvelope where
  servedAt : Instant
  data : LinkAnswer
  deriving Repr, DecidableEq

inductive LinkRefusal where
  | unauthenticated
  | verificationLinkInvalid
  deriving Repr, DecidableEq

inductive LinkOperation where
  | signUp (recipient : VerificationRecipient)
  | resend (accountId : Uuid)
  | confirm (token : String)
  deriving Repr, DecidableEq

/-- Where an attempt's command stands. -/
inductive LinkStage where
  | start
  /-- The account's row is inserted or locked, and a link is to be issued. -/
  | issuing (recipient : VerificationRecipient)
  /-- The earlier links found, those still to spend. -/
  | clearing (recipient : VerificationRecipient) (issuedAt expiresAt : Instant)
      (outstanding : List String)
  | read (accountId : Uuid) (tokenHash : String) (now : Instant)
  | locked (accountId : Uuid) (tokenHash : String) (now : Instant)
  | spent (accountId : Uuid) (tokenHash : String) (now : Instant)
  | done (accountId : Uuid) (acts : List LinkAct) (answer : LinkAnswer)
  | refused (refusal : LinkRefusal)
  deriving Repr, DecidableEq

/-- The tables, the keys' records, and the open transactions, named by their attempts. -/
structure Verifications where
  attempts : Attempts (List LinkAct) LinkEnvelope
  accounts : Rows ℕ Uuid (Option Account)
  links : Rows ℕ String (Option EmailVerification)
  /-- The hashes of the tokens ever inserted. -/
  hashes : List String
  stage : ℕ → LinkStage

/-- A statement of a command. -/
inductive LinkStep where
  | register
  | lockForResend
  | issue (issuedAt now : Instant)
  | clear
  | insertLink (token : String)
  | readLink (now : Instant)
  | lockLinkAccount
  | spend
  | verify
  deriving Repr, DecidableEq

inductive LinkAction where
  | command (id : ℕ) (step : LinkStep)
  /-- The command returns its answer. -/
  | answer (id : ℕ) (servedAt : Instant)
  /-- A statement of the key's record, or the transaction's end. -/
  | key (id : ℕ) (step : AttemptStep (List LinkAct) LinkEnvelope)
  /-- The retention job. -/
  | purge (now : Instant)
  deriving Repr, DecidableEq

namespace Verifications

def initial : Verifications :=
  ⟨.initial, .ofCommitted fun _ => none, .ofCommitted fun _ => none, [], fun _ => .start⟩

def enter (s : Verifications) (id : ℕ) (stage : LinkStage) : Verifications :=
  { s with stage := Function.update s.stage id stage }

def putAccount (s : Verifications) (id : ℕ) (accountId : Uuid) (account : Account) :
    Verifications := { s with accounts := s.accounts.put id accountId (some account) }

def putLink (s : Verifications) (id : ℕ) (tokenHash : String) (link : EmailVerification) :
    Verifications := { s with links := s.links.put id tokenHash (some link) }

/-- The transaction rolled back, its key's record with it. -/
def rolledBack (s : Verifications) (id : ℕ) : Verifications :=
  { s with
    attempts := s.attempts.rolledBack id .aborted
    accounts := s.accounts.rollback id
    links := s.links.rollback id }

/-- The refusal is thrown. -/
def refuse (s : Verifications) (id : ℕ) (refusal : LinkRefusal) : Verifications :=
  (s.rolledBack id).enter id (.refused refusal)

/-- `WHERE account_id = $1 AND used_at IS NULL`. -/
def outstandingLink (accountId : Uuid) (link : Option EmailVerification) : Bool :=
  match link with
  | some link => link.accountId = accountId ∧ link.usedAt = none
  | none => false

/-- The account's row inserted, the insertion waiting on one of the same id. -/
def register (s : Verifications) (id : ℕ) (recipient : VerificationRecipient) :
    Option Verifications :=
  if s.accounts.Free id recipient.accountId ∧ s.accounts.view id recipient.accountId = none then
    some ((s.putAccount id recipient.accountId
      { email := recipient.email, locale := recipient.locale, emailVerifiedAt := none }).enter id
        (.issuing recipient))
  else none

def lockForResend (s : Verifications) (id : ℕ) (accountId : Uuid) : Option Verifications :=
  match s.accounts.view id accountId with
  | none => some (s.refuse id .unauthenticated)
  | some account =>
    if s.accounts.Free id accountId then
      let locked := s.putAccount id accountId account
      if account.emailVerifiedAt ≠ none then
        some (locked.enter id (.done accountId [] (.queued false)))
      else some (locked.enter id (.issuing ⟨accountId, account.email, account.locale⟩))
    else none

/-- One of the links found spent, unless it was spent while it was waited on. -/
def clear (s : Verifications) (id : ℕ) (recipient : VerificationRecipient)
    (issuedAt expiresAt : Instant) (tokenHash : String) (outstanding : List String) :
    Option Verifications :=
  if s.links.Free id tokenHash then
    let next := LinkStage.clearing recipient issuedAt expiresAt outstanding
    match s.links.view id tokenHash with
    | some link =>
      if outstandingLink recipient.accountId (some link) then
        some ((s.putLink id tokenHash { link with usedAt := some issuedAt }).enter id next)
      else some (s.enter id next)
    | none => some (s.enter id next)
  else none

/-- What the command that issued a link answers. -/
def issuedAnswer (recipient : VerificationRecipient) : LinkOperation → LinkAnswer
  | .signUp _ => .signedUp recipient.accountId
  | _ => .queued true

/-- The address verified, unless it is already. -/
def verify (s : Verifications) (id : ℕ) (accountId : Uuid) (tokenHash : String) (now : Instant) :
    Option Verifications :=
  let next := LinkStage.done accountId [.verified accountId tokenHash now] .verified
  match s.accounts.view id accountId with
  | some account =>
    if account.emailVerifiedAt = none then
      if s.accounts.Free id accountId then
        some ((s.putAccount id accountId { account with emailVerifiedAt := some now }).enter id
          next)
      else none
    else some (s.enter id next)
  | none => some (s.enter id next)

variable (request : ℕ → IdempotentRequest)

/-- The command's answer, handed to the key's record. -/
def answer (s : Verifications) (id : ℕ) (servedAt : Instant) : Option Verifications :=
  match s.stage id with
  | .done _ acts data =>
    (s.attempts.attemptStep request id (.run acts ⟨servedAt, data⟩)).map fun attempts =>
      { s with attempts }
  | _ => none

/-- The tables' rows end with the transaction. -/
def key (s : Verifications) (id : ℕ) (step : AttemptStep (List LinkAct) LinkEnvelope) :
    Option Verifications :=
  match step with
  | .run _ _ => none
  | .commit | .commitUnheard =>
    (s.attempts.attemptStep request id step).map fun attempts =>
      { s with
        attempts
        accounts := s.accounts.commit id
        links := s.links.commit id }
  | .abort =>
    (s.attempts.attemptStep request id step).map fun attempts =>
      { s with
        attempts
        accounts := s.accounts.rollback id
        links := s.links.rollback id }
  | _ => (s.attempts.attemptStep request id step).map fun attempts => { s with attempts }

variable [VerificationRules]

/-- The link's row inserted with the outbox row; a hash already there fails the statement. -/
def insertLink (s : Verifications) (id : ℕ) (operation : LinkOperation)
    (recipient : VerificationRecipient) (issuedAt expiresAt : Instant) (token : String) :
    Option Verifications :=
  let tokenHash := VerificationRules.hashOf token
  if s.links.Free id tokenHash ∧ s.links.view id tokenHash = none then
    some
      { (s.putLink id tokenHash
          { accountId := recipient.accountId
            email := recipient.email
            expiresAt := expiresAt
            usedAt := none }).enter id (.done recipient.accountId
        [.requested recipient.accountId tokenHash recipient.email recipient.locale token issuedAt
          expiresAt] (issuedAnswer recipient operation)) with
        hashes := tokenHash :: s.hashes }
  else none

def readLink (s : Verifications) (id : ℕ) (token : String) (now : Instant) : Verifications :=
  match s.links.view id (VerificationRules.hashOf token) with
  | none => s.refuse id .verificationLinkInvalid
  | some link => s.enter id (.read link.accountId (VerificationRules.hashOf token) now)

/-- Without the account's row there is nothing to lock, and the update below joins nothing. -/
def lockLinkAccount (s : Verifications) (id : ℕ) (accountId : Uuid) (tokenHash : String)
    (now : Instant) : Option Verifications :=
  match s.accounts.view id accountId with
  | none => some (s.refuse id .verificationLinkInvalid)
  | some account =>
    if s.accounts.Free id accountId then
      some ((s.putAccount id accountId account).enter id (.locked accountId tokenHash now))
    else none

/-- The link is unused, unexpired, and was sent to the address its account has. -/
def Spendable (account : Option Account) (link : EmailVerification) (now : Instant) : Prop :=
  link.usedAt = none ∧ now < link.expiresAt ∧ ∃ a ∈ account,
    VerificationRules.foldCase a.email = VerificationRules.foldCase link.email

instance (account : Option Account) (link : EmailVerification) (now : Instant) :
    Decidable (Spendable account link now) :=
  inferInstanceAs (Decidable (_ ∧ _ ∧ _))

def spend (s : Verifications) (id : ℕ) (tokenHash : String) (now : Instant) :
    Option Verifications :=
  match s.links.view id tokenHash with
  | none => some (s.refuse id .verificationLinkInvalid)
  | some link =>
    if Spendable (s.accounts.view id link.accountId) link now then
      if s.links.Free id tokenHash then
        some ((s.putLink id tokenHash { link with usedAt := some now }).enter id
          (.spent link.accountId tokenHash now))
      else none
    else some (s.refuse id .verificationLinkInvalid)

variable (operation : ℕ → LinkOperation)

/-- One statement of a command, made under the key's record. -/
def command (s : Verifications) (id : ℕ) (step : LinkStep) : Option Verifications :=
  match step, operation id, s.stage id with
  | .register, .signUp recipient, .start => s.register id recipient
  | .lockForResend, .resend accountId, .start => s.lockForResend id accountId
  | .issue issuedAt now, _, .issuing recipient =>
    some (s.enter id (.clearing recipient issuedAt
      (now + VerificationRules.linkLifetimeHours * 60 * 60 * 1000)
      (s.hashes.filter fun tokenHash =>
        outstandingLink recipient.accountId (s.links.view id tokenHash))))
  | .clear, _, .clearing recipient issuedAt expiresAt (tokenHash :: outstanding) =>
    s.clear id recipient issuedAt expiresAt tokenHash outstanding
  | .insertLink token, operation, .clearing recipient issuedAt expiresAt [] =>
    s.insertLink id operation recipient issuedAt expiresAt token
  | .readLink now, .confirm token, .start => some (s.readLink id token now)
  | .lockLinkAccount, _, .read accountId tokenHash now =>
    s.lockLinkAccount id accountId tokenHash now
  | .spend, _, .locked _ tokenHash now => s.spend id tokenHash now
  | .verify, _, .spent accountId tokenHash now => s.verify id accountId tokenHash now
  | _, _, _ => none

def step (s : Verifications) : LinkAction → Option Verifications
  | .command id step =>
    if s.attempts.phase id = .claimed then s.command operation id step else none
  | .answer id servedAt => s.answer request id servedAt
  | .key id step => s.key request id step
  | .purge now => some { s with attempts := s.attempts.purge now }

end Verifications

end Arthome.Identity
