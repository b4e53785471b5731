import Arthome.Identity.VerificationFacts

/-!
# What a statement of a verification does

The statements of the commands, of the keys' records and the transactions' ends, each
with what it found and what it left.
-/

namespace Arthome.Identity

open Arthome.Core Arthome.Edge Arthome.Library

/-- The attempt's transaction has not claimed its key. -/
def Unclaimed {Effect Envelope : Type} : AttemptPhase Effect Envelope → Bool
  | .notBegun | .begun | .taken | .replaying _ => true
  | _ => false

/-- The attempt's transaction has ended. -/
def Over {Effect Envelope : Type} : AttemptPhase Effect Envelope → Bool
  | .answered _ _ | .refused _ | .aborted => true
  | _ => false

section Phases

variable {Effect Envelope : Type} {phase : AttemptPhase Effect Envelope}

theorem not_holding_of_over (h : Over phase = true) : Attempts.Holding phase = false := by
  cases phase with
  | answered envelope replayed => rfl
  | refused refusal => rfl
  | aborted => rfl
  | _ => cases h

theorem not_unclaimed_of_over (h : Over phase = true) : Unclaimed phase = false := by
  cases phase with
  | answered envelope replayed => rfl
  | refused refusal => rfl
  | aborted => rfl
  | _ => cases h

theorem not_over_of_unclaimed (h : Unclaimed phase = true) : Over phase = false := by
  by_contra hover
  rw [not_unclaimed_of_over (Bool.not_eq_false _ ▸ hover)] at h
  cases h

theorem not_holding_of_unclaimed (h : Unclaimed phase = true) : Attempts.Holding phase = false := by
  cases phase with
  | notBegun => rfl
  | begun => rfl
  | taken => rfl
  | replaying envelope => rfl
  | _ => cases h

theorem not_over_of_running (h : Attempts.Running phase = true) : Over phase = false := by
  cases phase with
  | answered envelope replayed => cases h
  | refused refusal => cases h
  | aborted => cases h
  | _ => rfl

end Phases

namespace Verifications

/-- What a statement of a command does, for each it can make. -/
inductive CommandMove [VerificationRules] (s : Verifications) (id : ℕ) : Verifications → Prop
  | registered (recipient : VerificationRecipient) (account : Account) : s.stage id = .start →
      s.accounts.Free id recipient.accountId → s.accounts.view id recipient.accountId = none →
      account.emailVerifiedAt = none →
      CommandMove s id
        ((s.putAccount id recipient.accountId account).enter id (.issuing recipient))
  | refused (refusal : LinkRefusal) : CommandMove s id (s.refuse id refusal)
  | foundVerified (a : Uuid) (account : Account) : s.stage id = .start → s.accounts.Free id a →
      s.accounts.view id a = some account →
      CommandMove s id ((s.putAccount id a account).enter id (.done a [] (.queued false)))
  | resending (recipient : VerificationRecipient) (account : Account) : s.stage id = .start →
      s.accounts.Free id recipient.accountId →
      s.accounts.view id recipient.accountId = some account → account.emailVerifiedAt = none →
      CommandMove s id
        ((s.putAccount id recipient.accountId account).enter id (.issuing recipient))
  | issueBegun (recipient : VerificationRecipient) (issuedAt expiresAt : Instant) :
      s.stage id = .issuing recipient →
      CommandMove s id (s.enter id (.clearing recipient issuedAt expiresAt
        (s.hashes.filter fun tokenHash =>
          outstandingLink recipient.accountId (s.links.view id tokenHash))))
  | cleared (recipient : VerificationRecipient) (issuedAt expiresAt : Instant) (tokenHash : String)
      (outstanding : List String) (link : EmailVerification) :
      s.stage id = .clearing recipient issuedAt expiresAt (tokenHash :: outstanding) →
      s.links.Free id tokenHash → s.links.view id tokenHash = some link →
      link.accountId = recipient.accountId →
      CommandMove s id ((s.putLink id tokenHash { link with usedAt := some issuedAt }).enter id
        (.clearing recipient issuedAt expiresAt outstanding))
  | skipped (recipient : VerificationRecipient) (issuedAt expiresAt : Instant) (tokenHash : String)
      (outstanding : List String) :
      s.stage id = .clearing recipient issuedAt expiresAt (tokenHash :: outstanding) →
      outstandingLink recipient.accountId (s.links.view id tokenHash) = false →
      CommandMove s id (s.enter id (.clearing recipient issuedAt expiresAt outstanding))
  | issued (recipient : VerificationRecipient) (issuedAt expiresAt : Instant) (token : String)
      (tokenHash : String) (answer : LinkAnswer) :
      s.stage id = .clearing recipient issuedAt expiresAt [] → s.links.Free id tokenHash →
      s.links.view id tokenHash = none →
      CommandMove s id
        { (s.putLink id tokenHash ⟨recipient.accountId, recipient.email, expiresAt, none⟩).enter id
            (.done recipient.accountId [.requested recipient.accountId tokenHash recipient.email
              recipient.locale token issuedAt expiresAt] answer) with
          hashes := tokenHash :: s.hashes }
  | linkRead (tokenHash : String) (now : Instant) (link : EmailVerification) :
      s.stage id = .start → s.links.view id tokenHash = some link →
      CommandMove s id (s.enter id (.read link.accountId tokenHash now))
  | accountLocked (a : Uuid) (tokenHash : String) (now : Instant) (account : Account) :
      s.stage id = .read a tokenHash now → s.accounts.Free id a →
      s.accounts.view id a = some account →
      CommandMove s id ((s.putAccount id a account).enter id (.locked a tokenHash now))
  | spent (a : Uuid) (tokenHash : String) (now : Instant) (link : EmailVerification) :
      s.stage id = .locked a tokenHash now → s.links.Free id tokenHash →
      s.links.view id tokenHash = some link →
      Spendable (s.accounts.view id link.accountId) link now →
      CommandMove s id ((s.putLink id tokenHash { link with usedAt := some now }).enter id
        (.spent link.accountId tokenHash now))
  | verified (a : Uuid) (tokenHash : String) (now : Instant) (account : Account) :
      s.stage id = .spent a tokenHash now → s.accounts.Free id a →
      s.accounts.view id a = some account →
      CommandMove s id ((s.putAccount id a { account with emailVerifiedAt := some now }).enter id
        (.done a [.verified a tokenHash now] .verified))
  | verifiedAlready (a : Uuid) (tokenHash : String) (now : Instant) :
      s.stage id = .spent a tokenHash now → ¬ Unverified (s.accounts.view id a) →
      CommandMove s id (s.enter id (.done a [.verified a tokenHash now] .verified))

section Commands

variable [VerificationRules] {s s' : Verifications} {id : ℕ} {operation : ℕ → LinkOperation}

theorem register_move {recipient : VerificationRecipient} (hstage : s.stage id = .start)
    (h : s.register id recipient = some s') : CommandMove s id s' := by
  unfold register at h
  split_ifs at h with hfree
  cases h
  exact .registered recipient _ hstage hfree.1 hfree.2 rfl

theorem lockForResend_move {a : Uuid} (hstage : s.stage id = .start)
    (h : s.lockForResend id a = some s') : CommandMove s id s' := by
  simp only [lockForResend] at h
  cases hview : s.accounts.view id a with
  | none =>
      rw [hview] at h
      cases h
      exact .refused _
  | some account =>
      rw [hview] at h
      simp only at h
      split_ifs at h with hfree hverified
      · cases h
        exact .foundVerified a account hstage hfree hview
      · cases h
        exact .resending ⟨a, account.email, account.locale⟩ account hstage hfree hview
          (not_not.mp hverified)

theorem clear_move {recipient : VerificationRecipient} {issuedAt expiresAt : Instant}
    {tokenHash : String} {outstanding : List String}
    (hstage : s.stage id = .clearing recipient issuedAt expiresAt (tokenHash :: outstanding))
    (h : s.clear id recipient issuedAt expiresAt tokenHash outstanding = some s') :
    CommandMove s id s' := by
  simp only [clear] at h
  split_ifs at h with hfree
  cases hview : s.links.view id tokenHash with
  | none =>
      rw [hview] at h
      cases h
      exact .skipped recipient issuedAt expiresAt tokenHash outstanding hstage (by rw [hview]; rfl)
  | some link =>
      rw [hview] at h
      simp only at h
      split_ifs at h with hmatch
      · cases h
        have hof : link.accountId = recipient.accountId := by
          simp only [outstandingLink, decide_eq_true_eq] at hmatch
          exact hmatch.1
        exact .cleared recipient issuedAt expiresAt tokenHash outstanding link hstage hfree hview hof
      · cases h
        refine .skipped recipient issuedAt expiresAt tokenHash outstanding hstage ?_
        rw [hview]
        exact Bool.eq_false_iff.mpr hmatch

theorem insertLink_move {recipient : VerificationRecipient} {issuedAt expiresAt : Instant}
    {token : String} (op : LinkOperation)
    (hstage : s.stage id = .clearing recipient issuedAt expiresAt [])
    (h : s.insertLink id op recipient issuedAt expiresAt token = some s') :
    CommandMove s id s' := by
  simp only [insertLink] at h
  split_ifs at h with hfree
  cases h
  exact .issued recipient issuedAt expiresAt token _ _ hstage hfree.1 hfree.2

theorem readLink_move {token : String} {now : Instant} (hstage : s.stage id = .start) :
    CommandMove s id (s.readLink id token now) := by
  unfold readLink
  cases hview : s.links.view id (VerificationRules.hashOf token) with
  | none => exact .refused _
  | some link => exact .linkRead _ now link hstage hview

theorem lockLinkAccount_move {a : Uuid} {tokenHash : String} {now : Instant}
    (hstage : s.stage id = .read a tokenHash now)
    (h : s.lockLinkAccount id a tokenHash now = some s') : CommandMove s id s' := by
  simp only [lockLinkAccount] at h
  cases hview : s.accounts.view id a with
  | none =>
      rw [hview] at h
      cases h
      exact .refused _
  | some account =>
      rw [hview] at h
      simp only at h
      split_ifs at h with hfree
      cases h
      exact .accountLocked a tokenHash now account hstage hfree hview

theorem spend_move {a : Uuid} {tokenHash : String} {now : Instant}
    (hstage : s.stage id = .locked a tokenHash now) (h : s.spend id tokenHash now = some s') :
    CommandMove s id s' := by
  simp only [spend] at h
  cases hview : s.links.view id tokenHash with
  | none =>
      rw [hview] at h
      cases h
      exact .refused _
  | some link =>
      rw [hview] at h
      simp only at h
      split_ifs at h with hspendable hfree
      · cases h
        exact .spent a tokenHash now link hstage hfree hview hspendable
      · cases h
        exact .refused _

theorem verify_move {a : Uuid} {tokenHash : String} {now : Instant}
    (hstage : s.stage id = .spent a tokenHash now) (h : s.verify id a tokenHash now = some s') :
    CommandMove s id s' := by
  simp only [verify] at h
  cases hview : s.accounts.view id a with
  | none =>
      rw [hview] at h
      cases h
      refine .verifiedAlready a tokenHash now hstage ?_
      rw [hview]
      rintro ⟨account, haccount, -⟩
      cases haccount
  | some account =>
      rw [hview] at h
      simp only at h
      split_ifs at h with hnull hfree
      · cases h
        exact .verified a tokenHash now account hstage hfree hview
      · cases h
        refine .verifiedAlready a tokenHash now hstage ?_
        rw [hview]
        rintro ⟨other, hother, hunverified⟩
        cases hother
        exact hnull hunverified

theorem command_move {step : LinkStep} (h : s.command operation id step = some s') :
    CommandMove s id s' := by
  unfold command at h
  split at h
  · exact register_move ‹_› h
  · exact lockForResend_move ‹_› h
  · cases h
    exact .issueBegun _ _ _ ‹_›
  · exact clear_move ‹_› h
  · exact insertLink_move _ ‹_› h
  · cases h
    exact readLink_move ‹_›
  · exact lockLinkAccount_move ‹_› h
  · exact spend_move ‹_› h
  · exact verify_move ‹_› h
  · cases h

end Commands

/-- What a statement of the key's record, the command's answer or the transaction's end does. -/
inductive KeyMove (request : IdempotentRequest) (s : Verifications) (id : ℕ) : Verifications → Prop
  /-- Before the key is claimed, or where it was found taken. -/
  | unclaimed (attempts : Attempts (List LinkAct) LinkEnvelope)
      (phase : AttemptPhase (List LinkAct) LinkEnvelope) :
      Unclaimed (s.attempts.phase id) = true →
      (Unclaimed phase = true ∨ ∃ refusal, phase = .refused refusal) →
      attempts.phase = Function.update s.attempts.phase id phase →
      (attempts.rows = s.attempts.rows ∨ attempts.rows = s.attempts.rows.rollback id) →
      attempts.effects = s.attempts.effects → KeyMove request s id { s with attempts }
  | claimed (stored : StoredRecord LinkEnvelope) : s.attempts.phase id = .begun →
      s.attempts.rows.Free id request.scope →
      KeyMove request s id
        { s with
          attempts :=
            { s.attempts.enter id .claimed with
              rows := s.attempts.rows.put id request.scope (some stored) } }
  | answered (a : Uuid) (acts : List LinkAct) (envelope : LinkEnvelope) :
      s.attempts.phase id = .claimed → s.stage id = .done a acts envelope.data →
      KeyMove request s id { s with attempts := s.attempts.enter id (.ran acts envelope) }
  | recorded (acts : List LinkAct) (envelope : LinkEnvelope) :
      s.attempts.phase id = .ran acts envelope →
      KeyMove request s id { s with attempts := s.attempts.complete request id acts envelope }
  | committed (acts : List LinkAct) (envelope : LinkEnvelope)
      (phase : AttemptPhase (List LinkAct) LinkEnvelope) :
      s.attempts.phase id = .completed acts envelope → Over phase = true →
      KeyMove request s id
        { s with
          attempts := s.attempts.committed id phase
          accounts := s.accounts.commit id
          links := s.links.commit id }
  | replayed (envelope : LinkEnvelope) (phase : AttemptPhase (List LinkAct) LinkEnvelope) :
      s.attempts.phase id = .replaying envelope → Over phase = true →
      KeyMove request s id
        { s with
          attempts := s.attempts.committed id phase
          accounts := s.accounts.commit id
          links := s.links.commit id }
  | aborted : Attempts.Running (s.attempts.phase id) = true →
      KeyMove request s id (s.rolledBack id)

section KeyMoves

variable {s s' : Verifications} {id : ℕ} {request : ℕ → IdempotentRequest}

theorem claim_move {now : Instant} {attempts : Attempts (List LinkAct) LinkEnvelope}
    (hphase : s.attempts.phase id = .begun)
    (h : s.attempts.claim (request id) id now = some attempts) :
    KeyMove (request id) s id { s with attempts } := by
  simp only [Attempts.claim] at h
  split_ifs at h with hfree
  cases hview : s.attempts.rows.view id (request id).scope with
  | none =>
      rw [hview] at h
      cases h
      exact .claimed _ hphase hfree
  | some stored =>
      rw [hview] at h
      cases h
      exact .unclaimed _ .taken (by rw [hphase]; rfl) (.inl rfl) rfl (.inl rfl) rfl

theorem replay_move (hphase : s.attempts.phase id = .taken) :
    KeyMove (request id) s id { s with attempts := s.attempts.replay (request id) id } := by
  unfold Attempts.replay
  cases Attempts.replayOf (request id) (s.attempts.rows.view id (request id).scope) with
  | error refusal =>
      exact .unclaimed _ (.refused refusal) (by rw [hphase]; rfl) (.inr ⟨refusal, rfl⟩) rfl
        (.inr rfl) rfl
  | ok envelope =>
      exact .unclaimed _ (.replaying envelope) (by rw [hphase]; rfl) (.inl rfl) rfl (.inl rfl) rfl

theorem answer_move {servedAt : Instant} (h : s.answer request id servedAt = some s') :
    KeyMove (request id) s id s' := by
  unfold answer at h
  split at h
  · rename_i a acts data hstage
    obtain ⟨attempts, hattempts, rfl⟩ := Option.map_eq_some_iff.mp h
    unfold Attempts.attemptStep at hattempts
    cases hphase : s.attempts.phase id
    case claimed =>
      rw [hphase] at hattempts
      cases hattempts
      exact .answered a acts ⟨servedAt, data⟩ hphase hstage
    all_goals
      rw [hphase] at hattempts
      cases hattempts
  · cases h

theorem key_move {step : AttemptStep (List LinkAct) LinkEnvelope}
    (h : s.key request id step = some s') : KeyMove (request id) s id s' := by
  cases step with
  | run effect envelope => cases h
  | begin =>
      obtain ⟨attempts, hattempts, rfl⟩ := Option.map_eq_some_iff.mp h
      unfold Attempts.attemptStep at hattempts
      cases hphase : s.attempts.phase id
      case notBegun =>
        rw [hphase] at hattempts
        cases hattempts
        exact .unclaimed _ .begun (by rw [hphase]; rfl) (.inl rfl) rfl (.inl rfl) rfl
      all_goals
        rw [hphase] at hattempts
        cases hattempts
  | claim now =>
      obtain ⟨attempts, hattempts, rfl⟩ := Option.map_eq_some_iff.mp h
      unfold Attempts.attemptStep at hattempts
      cases hphase : s.attempts.phase id
      case begun =>
        rw [hphase] at hattempts
        exact claim_move hphase hattempts
      all_goals
        rw [hphase] at hattempts
        cases hattempts
  | claimTimedOut =>
      obtain ⟨attempts, hattempts, rfl⟩ := Option.map_eq_some_iff.mp h
      unfold Attempts.attemptStep at hattempts
      cases hphase : s.attempts.phase id
      case begun =>
        rw [hphase] at hattempts
        simp only at hattempts
        split_ifs at hattempts
        cases hattempts
        exact .unclaimed _ _ (by rw [hphase]; rfl) (.inr ⟨_, rfl⟩) rfl (.inr rfl) rfl
      all_goals
        rw [hphase] at hattempts
        cases hattempts
  | complete =>
      obtain ⟨attempts, hattempts, rfl⟩ := Option.map_eq_some_iff.mp h
      unfold Attempts.attemptStep at hattempts
      cases hphase : s.attempts.phase id
      case ran acts envelope =>
        rw [hphase] at hattempts
        cases hattempts
        exact .recorded acts envelope hphase
      all_goals
        rw [hphase] at hattempts
        cases hattempts
  | replay =>
      obtain ⟨attempts, hattempts, rfl⟩ := Option.map_eq_some_iff.mp h
      unfold Attempts.attemptStep at hattempts
      cases hphase : s.attempts.phase id
      case taken =>
        rw [hphase] at hattempts
        cases hattempts
        exact replay_move hphase
      all_goals
        rw [hphase] at hattempts
        cases hattempts
  | commit =>
      obtain ⟨attempts, hattempts, rfl⟩ := Option.map_eq_some_iff.mp h
      unfold Attempts.attemptStep at hattempts
      cases hphase : s.attempts.phase id
      case completed acts envelope =>
        rw [hphase] at hattempts
        cases hattempts
        exact .committed acts envelope _ hphase rfl
      case replaying envelope =>
        rw [hphase] at hattempts
        cases hattempts
        exact .replayed envelope _ hphase rfl
      all_goals
        rw [hphase] at hattempts
        cases hattempts
  | commitUnheard =>
      obtain ⟨attempts, hattempts, rfl⟩ := Option.map_eq_some_iff.mp h
      unfold Attempts.attemptStep at hattempts
      cases hphase : s.attempts.phase id
      case completed acts envelope =>
        rw [hphase] at hattempts
        cases hattempts
        exact .committed acts envelope _ hphase rfl
      case replaying envelope =>
        rw [hphase] at hattempts
        cases hattempts
        exact .replayed envelope _ hphase rfl
      all_goals
        rw [hphase] at hattempts
        cases hattempts
  | abort =>
      obtain ⟨attempts, hattempts, rfl⟩ := Option.map_eq_some_iff.mp h
      have hrun : Attempts.Running (s.attempts.phase id) = true ∧
          attempts = s.attempts.rolledBack id .aborted := by
        unfold Attempts.attemptStep at hattempts
        cases hphase : s.attempts.phase id
        all_goals
          rw [hphase] at hattempts
          simp [Attempts.Running] at hattempts ⊢
          try exact hattempts.symm
      obtain ⟨hrunning, rfl⟩ := hrun
      exact .aborted hrunning

end KeyMoves

end Verifications

end Arthome.Identity
