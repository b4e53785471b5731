import Arthome.Identity.VerificationMoves
import Mathlib.Data.List.Basic

/-!
# An account's links over every run

Whoever issues, spends or verifies owns the account's row from before its first read of
the account's links to its end, so that what is known of one account holds of the rows
committed and, meanwhile, of the rows its owner sees. A step of one transaction leaves
every other account as it stands.
-/

namespace Arthome.Identity

open Arthome.Core Arthome.Edge Arthome.Library

/-- The account whose row the command owns. -/
def LinkStage.account : LinkStage → Option Uuid
  | .issuing recipient => some recipient.accountId
  | .clearing recipient _ _ _ => some recipient.accountId
  | .locked accountId _ _ => some accountId
  | .spent accountId _ _ => some accountId
  | .done accountId _ _ => some accountId
  | .start | .read _ _ _ | .refused _ => none

/-- What a command has established of the account it owns. -/
def WorkingOn [VerificationRules] (a : Uuid) (account : Option Account)
    (links : String → Option EmailVerification) (acts : List LinkAct) : LinkStage → Prop
  | .issuing _ => Unverified account ∧ LinkFacts a account links acts
  | .clearing _ _ _ outstanding => Unverified account ∧ LinkFacts a account links acts ∧
      ∀ h link, links h = some link → link.usedAt = none → h ∈ outstanding
  | .locked _ h _ => LinkFacts a account links acts ∧ links h ≠ none
  | .spent _ h now => SpentFacts a account links acts h now
  | .done _ pending _ =>
      LinkFacts a account links (acts ++ pending) ∧ ∀ act ∈ pending, act.accountId = a
  | .start | .read _ _ _ | .refused _ => True

namespace Verifications

/-- What was committed, first to last. -/
def acts (s : Verifications) : List LinkAct := s.attempts.effects.flatMap fun effect => effect.effect

def actsOf (s : Verifications) (a : Uuid) : List LinkAct := s.acts.filter fun act => act.accountId = a

/-- What one transaction owns, and what its command has established. -/
structure Own [VerificationRules] (s : Verifications) (id : ℕ) : Prop where
  account : ∀ a, s.accounts.owner a = some id ↔
    Attempts.Holding (s.attempts.phase id) = true ∧ (s.stage id).account = some a
  link : ∀ h, s.links.owner h = some id → ∃ a, s.accounts.owner a = some id ∧
    (∃ link, s.links.view id h = some link ∧ link.accountId = a) ∧
    ∀ link ∈ s.links.committed h, link.accountId = a
  record : ∀ k, s.attempts.rows.owner k = some id →
    Attempts.Holding (s.attempts.phase id) = true
  working : ∀ a, s.accounts.owner a = some id →
    WorkingOn a (s.accounts.view id a) (linksOf (s.links.view id) a) (s.actsOf a) (s.stage id)
  pending : ∀ acts envelope, (s.attempts.phase id = .ran acts envelope ∨
    s.attempts.phase id = .completed acts envelope) →
    ∃ a, s.stage id = .done a acts envelope.data
  unclaimed : Unclaimed (s.attempts.phase id) = true → s.stage id = .start
  read : ∀ a h now, s.stage id = .read a h now → linksOf s.links.committed a h ≠ none
  refused : ∀ refusal, s.stage id = .refused refusal → Over (s.attempts.phase id) = true
  effect : ∀ effect ∈ s.attempts.effects, effect.attempt = id →
    Over (s.attempts.phase id) = true ∧ ∃ a acts answer, s.stage id = .done a acts answer

structure LinkInv [VerificationRules] (s : Verifications) : Prop where
  own : ∀ id, s.Own id
  committed : ∀ a, LinkFacts a (s.accounts.committed a) (linksOf s.links.committed a) (s.actsOf a)
  known : ∀ h, (s.links.committed h ≠ none ∨ ∃ id link, s.links.held h = some (id, some link)) →
    h ∈ s.hashes

/-- What a step of one transaction leaves of the others. -/
structure StepBy (id : ℕ) (s s' : Verifications) : Prop where
  stage : ∀ j, j ≠ id → s'.stage j = s.stage j
  phase : ∀ j, j ≠ id → s'.attempts.phase j = s.attempts.phase j
  accounts : Rows.StepOf id s.accounts s'.accounts
  links : Rows.StepOf id s.links s'.links
  records : ∀ k j, j ≠ id → s'.attempts.rows.owner k = some j → s.attempts.rows.owner k = some j
  effects : ∀ effect ∈ s'.attempts.effects, effect.attempt ≠ id → effect ∈ s.attempts.effects
  others : ∀ a, s.accounts.owner a ≠ some id → s'.accounts.committed a = s.accounts.committed a ∧
    linksOf s'.links.committed a = linksOf s.links.committed a ∧ s'.actsOf a = s.actsOf a
  persists : ∀ a h, linksOf s.links.committed a h ≠ none → linksOf s'.links.committed a h ≠ none

section Steps

variable [VerificationRules] {s s' : Verifications} {id : ℕ}

omit [VerificationRules] in
theorem linksOf_view_of_not_owner {links : Rows ℕ String (Option EmailVerification)} {j : ℕ}
    {h : String} (howner : links.owner h ≠ some j) (a : Uuid) :
    linksOf (links.view j) a h = linksOf links.committed a h := by
  unfold linksOf
  rw [Rows.view_of_owner_ne howner]

/-- What another transaction owns, and has established, is left to it. -/
theorem Own.kept {j : ℕ} (hown : s.Own j) (h : StepBy id s s') (hj : j ≠ id) : s'.Own j := by
  have haccount : ∀ a, s'.accounts.owner a = some j ↔ s.accounts.owner a = some j :=
    fun a => h.accounts.owner_iff hj
  constructor
  · intro a
    rw [haccount, h.phase j hj, h.stage j hj]
    exact hown.account a
  · intro hash howner
    rw [h.links.owner_iff hj] at howner
    obtain ⟨a, ha, ⟨link, hview, hof⟩, hcommitted⟩ := hown.link hash howner
    refine ⟨a, (haccount a).mpr ha, ⟨link, ?_, hof⟩, ?_⟩
    · rw [h.links.view_of_owner hj howner]
      exact hview
    · rw [(h.links.kept hj howner).2]
      exact hcommitted
  · intro k howner
    rw [h.phase j hj]
    exact hown.record k (h.records k j hj howner)
  · intro a howner
    rw [haccount] at howner
    have hnot : s.accounts.owner a ≠ some id := by
      rw [howner]
      exact fun hsame => hj (Option.some.inj hsame)
    obtain ⟨-, hlinks, hacts⟩ := h.others a hnot
    have hview : linksOf (s'.links.view j) a = linksOf (s.links.view j) a := by
      funext hash
      by_cases hlink : s.links.owner hash = some j
      · unfold linksOf
        rw [h.links.view_of_owner hj hlink]
      · rw [linksOf_view_of_not_owner hlink,
          linksOf_view_of_not_owner (mt (h.links.owner_iff hj).mp hlink), hlinks]
    rw [h.accounts.view_of_owner hj howner, hview, hacts, h.stage j hj]
    exact hown.working a howner
  · rw [h.phase j hj, h.stage j hj]
    exact hown.pending
  · rw [h.phase j hj, h.stage j hj]
    exact hown.unclaimed
  · intro a hash now hread
    rw [h.stage j hj] at hread
    exact h.persists a hash (hown.read a hash now hread)
  · rw [h.phase j hj, h.stage j hj]
    exact hown.refused
  · intro effect heffect hby
    rw [h.phase j hj, h.stage j hj]
    exact hown.effect effect (h.effects effect heffect (by rw [hby]; exact hj)) hby

theorem LinkInv.step (h : s.LinkInv) (hstep : StepBy id s s') (hown : s'.Own id)
    (hcommitted : ∀ a, s.accounts.owner a = some id →
      LinkFacts a (s'.accounts.committed a) (linksOf s'.links.committed a) (s'.actsOf a))
    (hknown : ∀ hash, (s'.links.committed hash ≠ none ∨
      ∃ id link, s'.links.held hash = some (id, some link)) → hash ∈ s'.hashes) : s'.LinkInv := by
  refine ⟨fun j => ?_, fun a => ?_, hknown⟩
  · by_cases hj : j = id
    · rw [hj]
      exact hown
    · exact (h.own j).kept hstep hj
  · by_cases howner : s.accounts.owner a = some id
    · exact hcommitted a howner
    · obtain ⟨haccount, hlinks, hacts⟩ := hstep.others a howner
      rw [haccount, hlinks, hacts]
      exact h.committed a

/-- A step that commits nothing. -/
structure Quiet (id : ℕ) (s s' : Verifications) : Prop where
  stage : ∀ j, j ≠ id → s'.stage j = s.stage j
  phase : ∀ j, j ≠ id → s'.attempts.phase j = s.attempts.phase j
  accounts : Rows.StepOf id s.accounts s'.accounts
  links : Rows.StepOf id s.links s'.links
  records : ∀ k j, j ≠ id → s'.attempts.rows.owner k = some j → s.attempts.rows.owner k = some j
  effects : s'.attempts.effects = s.attempts.effects
  accountsCommitted : s'.accounts.committed = s.accounts.committed
  linksCommitted : s'.links.committed = s.links.committed
  recordsCommitted : s'.attempts.rows.committed = s.attempts.rows.committed

omit [VerificationRules] in
theorem Quiet.actsOf (h : Quiet id s s') (a : Uuid) : s'.actsOf a = s.actsOf a := by
  unfold Verifications.actsOf acts
  rw [h.effects]

omit [VerificationRules] in
theorem Quiet.stepBy (h : Quiet id s s') : StepBy id s s' := by
  refine ⟨h.stage, h.phase, h.accounts, h.links, h.records, ?_, ?_, ?_⟩
  · intro effect heffect _
    rw [h.effects] at heffect
    exact heffect
  · intro a _
    exact ⟨congrFun h.accountsCommitted a, by rw [h.linksCommitted], h.actsOf a⟩
  · intro a hash
    rw [h.linksCommitted]
    exact fun hsome => hsome

theorem LinkInv.quiet (h : s.LinkInv) (hstep : Quiet id s s') (hown : s'.Own id)
    (hknown : ∀ hash j link, s'.links.held hash = some (j, some link) → hash ∈ s'.hashes)
    (hhashes : ∀ hash ∈ s.hashes, hash ∈ s'.hashes) : s'.LinkInv := by
  apply h.step hstep.stepBy hown
  · intro a _
    rw [hstep.accountsCommitted, hstep.linksCommitted, hstep.actsOf]
    exact h.committed a
  · intro hash hin
    rcases hin with hin | ⟨j, link, hin⟩
    · rw [hstep.linksCommitted] at hin
      exact hhashes hash (h.known hash (.inl hin))
    · exact hknown hash j link hin

end Steps

section Commands

variable [VerificationRules] {s s' : Verifications} {id : ℕ}

theorem LinkInv.known_of_view (h : s.LinkInv) {tokenHash : String} {link : EmailVerification}
    (hview : s.links.view id tokenHash = some link) : tokenHash ∈ s.hashes := by
  apply h.known
  by_cases howner : s.links.owner tokenHash = some id
  · obtain ⟨⟨j, row⟩, hheld, hj⟩ := Option.map_eq_some_iff.mp howner
    have hrow := Rows.view_of_held hheld
    have hsame : j = id := hj
    rw [hsame, hview] at hrow
    exact .inr ⟨j, link, by rw [hheld, hrow]⟩
  · rw [Rows.view_of_owner_ne howner] at hview
    rw [hview]
    exact .inl (by simp)

/-- The account a claimed transaction owns is its command's. -/
theorem LinkInv.owner_iff (h : s.LinkInv) (hclaimed : s.attempts.phase id = .claimed) {a : Uuid} :
    s.accounts.owner a = some id ↔ (s.stage id).account = some a := by
  rw [(h.own id).account, hclaimed]
  exact and_iff_right rfl

/-- A transaction that owns no account's row owns no link. -/
theorem LinkInv.links_not_owned (h : s.LinkInv) (hnone : ∀ a, s.accounts.owner a ≠ some id)
    (tokenHash : String) : s.links.owner tokenHash ≠ some id := by
  intro howner
  obtain ⟨a, ha, -⟩ := (h.own id).link tokenHash howner
  exact hnone a ha

/-- The rows of one account as its owner sees them and as they are committed are of that account. -/
theorem LinkInv.committed_of (h : s.LinkInv) (hclaimed : s.attempts.phase id = .claimed) {a : Uuid}
    (haccount : (s.stage id).account = some a) {tokenHash : String}
    (hview : ∀ link ∈ s.links.view id tokenHash, link.accountId = a) :
    ∀ link ∈ s.links.committed tokenHash, link.accountId = a := by
  by_cases howner : s.links.owner tokenHash = some id
  · obtain ⟨b, hb, -, hcommitted⟩ := (h.own id).link tokenHash howner
    rw [h.owner_iff hclaimed, haccount] at hb
    rw [Option.some.inj hb]
    exact hcommitted
  · rw [← Rows.view_of_owner_ne howner]
    exact hview

/-- A statement of a command keeps what is known, if what it owns and has established is accounted
for. -/
theorem LinkInv.commanded (h : s.LinkInv) (hclaimed : s.attempts.phase id = .claimed)
    {stage : LinkStage} (hattempts : s'.attempts = s.attempts)
    (hstage : s'.stage = Function.update s.stage id stage)
    (haccounts : Rows.StepOf id s.accounts s'.accounts) (hlinks : Rows.StepOf id s.links s'.links)
    (haccountsCommitted : s'.accounts.committed = s.accounts.committed)
    (hlinksCommitted : s'.links.committed = s.links.committed)
    (haccount : ∀ a, s'.accounts.owner a = some id ↔ stage.account = some a)
    (hlink : ∀ hash, s'.links.owner hash = some id → ∃ a, s'.accounts.owner a = some id ∧
      (∃ link, s'.links.view id hash = some link ∧ link.accountId = a) ∧
      ∀ link ∈ s.links.committed hash, link.accountId = a)
    (hworking : ∀ a, stage.account = some a → WorkingOn a (s'.accounts.view id a)
      (linksOf (s'.links.view id) a) (s.actsOf a) stage)
    (hread : ∀ a hash now, stage = .read a hash now → linksOf s.links.committed a hash ≠ none)
    (hrefused : ∀ refusal, stage ≠ .refused refusal)
    (hknown : ∀ hash j link, s'.links.held hash = some (j, some link) → hash ∈ s'.hashes)
    (hhashes : ∀ hash ∈ s.hashes, hash ∈ s'.hashes) : s'.LinkInv := by
  have hat : s'.stage id = stage := by rw [hstage, Function.update_self]
  have hphase : s'.attempts.phase id = .claimed := by rw [hattempts, hclaimed]
  have hquiet : Quiet id s s' := by
    refine ⟨?_, ?_, haccounts, hlinks, ?_, ?_, haccountsCommitted, hlinksCommitted, ?_⟩
    · intro j hj
      rw [hstage, Function.update_of_ne hj]
    · intro j _
      rw [hattempts]
    · rw [hattempts]
      exact fun _ _ _ howner => howner
    · rw [hattempts]
    · rw [hattempts]
  apply h.quiet hquiet _ hknown hhashes
  constructor
  · intro a
    rw [haccount, hat, hphase]
    exact (and_iff_right rfl).symm
  · intro hash howner
    rw [hlinksCommitted]
    exact hlink hash howner
  · intro k howner
    rw [hattempts] at howner
    rw [hattempts]
    exact (h.own id).record k howner
  · intro a howner
    rw [hat, hquiet.actsOf]
    exact hworking a ((haccount a).mp howner)
  · intro acts envelope hran
    rw [hphase] at hran
    simp at hran
  · intro hunclaimed
    rw [hphase] at hunclaimed
    cases hunclaimed
  · intro a hash now hstaged
    rw [hat] at hstaged
    rw [hlinksCommitted]
    exact hread a hash now hstaged
  · intro refusal hstaged
    rw [hat] at hstaged
    exact absurd hstaged (hrefused refusal)
  · intro effect heffect hby
    rw [hattempts] at heffect
    have hover := ((h.own id).effect effect heffect hby).1
    rw [hclaimed] at hover
    cases hover

/-- The command moves on, its rows as they are. -/
theorem LinkInv.entered (h : s.LinkInv) (hclaimed : s.attempts.phase id = .claimed)
    {stage : LinkStage} (hsame : stage.account = (s.stage id).account)
    (hworking : ∀ a, stage.account = some a → s.accounts.owner a = some id →
      WorkingOn a (s.accounts.view id a) (linksOf (s.links.view id) a) (s.actsOf a) stage)
    (hread : ∀ a hash now, stage = .read a hash now → linksOf s.links.committed a hash ≠ none)
    (hrefused : ∀ refusal, stage ≠ .refused refusal) : (s.enter id stage).LinkInv := by
  apply h.commanded hclaimed (rfl : (s.enter id stage).attempts = s.attempts) rfl .refl .refl rfl
    rfl
  · intro a
    rw [hsame]
    exact h.owner_iff hclaimed
  · exact (h.own id).link
  · intro a haccount
    exact hworking a haccount ((h.owner_iff hclaimed).mpr (hsame ▸ haccount))
  · exact hread
  · exact hrefused
  · exact fun hash j link hheld => h.known hash (.inr ⟨j, link, hheld⟩)
  · exact fun _ hin => hin

/-- The account's row written or locked. -/
theorem LinkInv.accountPut (h : s.LinkInv) (hclaimed : s.attempts.phase id = .claimed) {a : Uuid}
    {stage : LinkStage} {account : Account} (hfree : s.accounts.Free id a)
    (hbefore : ∀ b, (s.stage id).account = some b → b = a) (hafter : stage.account = some a)
    (hworking : WorkingOn a (some account) (linksOf (s.links.view id) a) (s.actsOf a) stage) :
    ((s.putAccount id a account).enter id stage).LinkInv := by
  have howner : ∀ b, (s.putAccount id a account).accounts.owner b = some id ↔ b = a := by
    intro b
    by_cases hb : b = a
    · rw [hb]
      exact iff_of_true Rows.owner_put_self rfl
    · show (s.accounts.put id a (some account)).owner b = some id ↔ b = a
      rw [Rows.owner_put_of_ne hb, h.owner_iff hclaimed]
      exact iff_of_false (fun hown => hb (hbefore b hown)) hb
  apply h.commanded hclaimed
    (rfl : ((s.putAccount id a account).enter id stage).attempts = s.attempts) rfl (.put hfree)
    .refl rfl rfl
  · intro b
    rw [hafter]
    exact (howner b).trans ⟨fun hb => hb ▸ rfl, fun hb => (Option.some.inj hb).symm⟩
  · intro hash hlink
    obtain ⟨b, hb, hrest⟩ := (h.own id).link hash hlink
    have hba := hbefore b ((h.owner_iff hclaimed).mp hb)
    exact ⟨b, (howner b).mpr hba, hrest⟩
  · intro b hb
    rw [hafter] at hb
    cases hb
    show WorkingOn a ((s.accounts.put id a (some account)).view id a) _ _ _
    rw [Rows.view_put_self]
    exact hworking
  · rintro b hash now rfl
    cases hafter
  · rintro refusal rfl
    cases hafter
  · exact fun hash j link hheld => h.known hash (.inr ⟨j, link, hheld⟩)
  · exact fun _ hin => hin

/-- A link of the account written. -/
theorem LinkInv.linkPut (h : s.LinkInv) (hclaimed : s.attempts.phase id = .claimed) {a : Uuid}
    {stage : LinkStage} {tokenHash : String} {link : EmailVerification}
    (hattempts : s'.attempts = s.attempts) (haccounts : s'.accounts = s.accounts)
    (hlinks : s'.links = s.links.put id tokenHash (some link))
    (hstage : s'.stage = Function.update s.stage id stage)
    (hknown : tokenHash ∈ s'.hashes) (hhashes : ∀ hash ∈ s.hashes, hash ∈ s'.hashes)
    (hfree : s.links.Free id tokenHash) (hbefore : (s.stage id).account = some a)
    (hafter : stage.account = some a) (hof : link.accountId = a)
    (hviewed : ∀ link ∈ s.links.view id tokenHash, link.accountId = a)
    (hworking : WorkingOn a (s.accounts.view id a)
      (Function.update (linksOf (s.links.view id) a) tokenHash (some link)) (s.actsOf a) stage) :
    s'.LinkInv := by
  apply h.commanded hclaimed hattempts hstage
  · rw [haccounts]
    exact .refl
  · rw [hlinks]
    exact .put hfree
  · rw [haccounts]
  · rw [hlinks]
    rfl
  · intro b
    rw [haccounts, h.owner_iff hclaimed, hbefore, hafter]
  · intro hash howner
    rw [hlinks] at howner ⊢
    rw [haccounts]
    by_cases hhash : hash = tokenHash
    · rw [hhash]
      exact ⟨a, (h.owner_iff hclaimed).mpr hbefore, ⟨link, Rows.view_put_self, hof⟩,
        h.committed_of hclaimed hbefore hviewed⟩
    · rw [Rows.owner_put_of_ne hhash] at howner
      rw [Rows.view_put_of_ne hhash]
      exact (h.own id).link hash howner
  · intro b hb
    rw [hafter] at hb
    cases hb
    have hupdated : linksOf ((s.links.put id tokenHash (some link)).view id) a =
        Function.update (linksOf (s.links.view id) a) tokenHash (some link) := by
      funext hash
      by_cases hhash : hash = tokenHash
      · rw [hhash, Function.update_self, linksOf_eq_some_iff]
        exact ⟨Rows.view_put_self, hof⟩
      · rw [Function.update_of_ne hhash]
        unfold linksOf
        rw [Rows.view_put_of_ne hhash]
    rw [haccounts, hlinks, hupdated]
    exact hworking
  · rintro b hash now rfl
    cases hafter
  · rintro refusal rfl
    cases hafter
  · intro hash j other hheld
    rw [hlinks] at hheld
    by_cases hhash : hash = tokenHash
    · rw [hhash]
      exact hknown
    · rw [Rows.held_put_of_ne hhash] at hheld
      exact hhashes hash (h.known hash (.inr ⟨j, other, hheld⟩))
  · exact hhashes

theorem Over.not_effect (h : s.LinkInv) (hopen : Over (s.attempts.phase id) = false) :
    ∀ effect ∈ s.attempts.effects, effect.attempt ≠ id := by
  intro effect heffect hby
  rw [((h.own id).effect effect heffect hby).1] at hopen
  cases hopen

/-- A transaction rolled back owns nothing. -/
theorem LinkInv.rolledBack (h : s.LinkInv) (hopen : Over (s.attempts.phase id) = false)
    {stage : LinkStage} (hstage : stage = s.stage id ∨ ∃ refusal, stage = .refused refusal) :
    ((s.rolledBack id).enter id stage).LinkInv := by
  have hquiet : Quiet id s ((s.rolledBack id).enter id stage) := by
    refine ⟨?_, ?_, .rollback, .rollback, ?_, rfl, rfl, rfl, rfl⟩
    · exact fun j hj => Function.update_of_ne hj _ _
    · exact fun j hj => Attempts.phase_enter_of_ne hj _
    · exact fun k j hj => (Rows.StepOf.rollback.owner_iff hj).mp
  have hphase : ((s.rolledBack id).enter id stage).attempts.phase id = .aborted :=
    Attempts.phase_enter_self _
  have hat : ((s.rolledBack id).enter id stage).stage id = stage := Function.update_self _ _ _
  apply h.quiet hquiet
  · constructor
    · intro a
      rw [hphase]
      exact iff_of_false Rows.owner_rollback_ne (fun hholds => by cases hholds.1)
    · exact fun hash howner => absurd howner Rows.owner_rollback_ne
    · exact fun k howner => absurd howner Rows.owner_rollback_ne
    · exact fun a howner => absurd howner Rows.owner_rollback_ne
    · intro acts envelope hran
      rw [hphase] at hran
      simp at hran
    · intro hunclaimed
      rw [hphase] at hunclaimed
      cases hunclaimed
    · intro a hash now hread
      rw [hat] at hread
      rcases hstage with rfl | ⟨refusal, rfl⟩
      · exact (h.own id).read a hash now hread
      · cases hread
    · intro refusal _
      rw [hphase]
      rfl
    · exact fun effect heffect hby => absurd hby (Over.not_effect h hopen effect heffect)
  · intro hash j link hheld
    have hsame : (s.links.rollback id).held hash = some (j, some link) := hheld
    by_cases howner : s.links.owner hash = some id
    · have hnone : (s.links.rollback id).held hash = none := if_pos howner
      rw [hnone] at hsame
      cases hsame
    · rw [Rows.held_rollback_of_ne howner] at hsame
      exact h.known hash (.inr ⟨j, link, hsame⟩)
  · exact fun _ hin => hin

/-- A new transaction's account is seen as it is committed. -/
theorem LinkInv.facts_of_start (h : s.LinkInv) (hclaimed : s.attempts.phase id = .claimed)
    (hnone : (s.stage id).account = none) (a : Uuid) :
    LinkFacts a (s.accounts.view id a) (linksOf (s.links.view id) a) (s.actsOf a) := by
  have hfree : ∀ b, s.accounts.owner b ≠ some id := by
    intro b howner
    rw [h.owner_iff hclaimed, hnone] at howner
    cases howner
  have hlinks : linksOf (s.links.view id) a = linksOf s.links.committed a := by
    funext hash
    exact linksOf_view_of_not_owner (h.links_not_owned hfree hash) a
  rw [Rows.view_of_owner_ne (hfree a), hlinks]
  exact h.committed a

theorem LinkInv.working (h : s.LinkInv) (hclaimed : s.attempts.phase id = .claimed) {a : Uuid}
    (haccount : (s.stage id).account = some a) :
    WorkingOn a (s.accounts.view id a) (linksOf (s.links.view id) a) (s.actsOf a) (s.stage id) :=
  (h.own id).working a ((h.owner_iff hclaimed).mpr haccount)

theorem command_inv (h : s.LinkInv) (hclaimed : s.attempts.phase id = .claimed)
    (hmove : CommandMove s id s') : s'.LinkInv := by
  cases hmove with
  | registered recipient account hstage hfree hview hnew =>
      have hfacts := h.facts_of_start hclaimed (by rw [hstage]; rfl) recipient.accountId
      rw [hview] at hfacts
      apply h.accountPut hclaimed hfree _ rfl
      · exact ⟨⟨account, rfl, hnew⟩, hfacts.registered hnew⟩
      · rw [hstage]
        intro b hb
        cases hb
  | refused refusal => exact h.rolledBack (by rw [hclaimed]; rfl) (.inr ⟨refusal, rfl⟩)
  | foundVerified a account hstage hfree hview =>
      have hfacts := h.facts_of_start hclaimed (by rw [hstage]; rfl) a
      rw [hview] at hfacts
      apply h.accountPut hclaimed hfree _ rfl
      · refine ⟨?_, by simp⟩
        rw [List.append_nil]
        exact hfacts
      · rw [hstage]
        intro b hb
        cases hb
  | resending recipient account hstage hfree hview hnull =>
      have hfacts := h.facts_of_start hclaimed (by rw [hstage]; rfl) recipient.accountId
      rw [hview] at hfacts
      apply h.accountPut hclaimed hfree _ rfl
      · exact ⟨⟨account, rfl, hnull⟩, hfacts⟩
      · rw [hstage]
        intro b hb
        cases hb
  | issueBegun recipient issuedAt expiresAt hstage =>
      have hworking := h.working hclaimed (a := recipient.accountId) (by rw [hstage]; rfl)
      rw [hstage] at hworking
      obtain ⟨hopen, hfacts⟩ := hworking
      apply h.entered hclaimed
      · rw [hstage]
        rfl
      · intro a ha _
        cases ha
        refine ⟨hopen, hfacts, ?_⟩
        intro hash link hlink hunused
        obtain ⟨hview, hof⟩ := linksOf_eq_some_iff.mp hlink
        rw [List.mem_filter]
        refine ⟨h.known_of_view hview, ?_⟩
        rw [hview]
        simp [outstandingLink, hof, hunused]
      · intro a hash now hread
        cases hread
      · exact fun refusal hrefused => by cases hrefused
  | cleared recipient issuedAt expiresAt tokenHash outstanding link hstage hfree hview hof =>
      have haccount : (s.stage id).account = some recipient.accountId := by
        rw [hstage]
        rfl
      have hworking := h.working hclaimed haccount
      rw [hstage] at hworking
      obtain ⟨hopen, hfacts, hremaining⟩ := hworking
      refine h.linkPut hclaimed rfl rfl rfl rfl (h.known_of_view hview) (fun _ hin => hin) hfree
        haccount rfl hof ?_ ?_
      · rw [hview]
        rintro other hother
        cases hother
        exact hof
      · refine ⟨hopen, hfacts.cleared (linksOf_eq_some_iff.mpr ⟨hview, hof⟩) (by simp), ?_⟩
        intro hash other hother hunused
        by_cases hhash : hash = tokenHash
        · rw [hhash, Function.update_self] at hother
          cases hother
          cases hunused
        · rw [Function.update_of_ne hhash] at hother
          exact (List.mem_cons.mp (hremaining hash other hother hunused)).resolve_left hhash
  | skipped recipient issuedAt expiresAt tokenHash outstanding hstage hspent =>
      have hworking := h.working hclaimed (a := recipient.accountId) (by rw [hstage]; rfl)
      rw [hstage] at hworking
      obtain ⟨hopen, hfacts, hremaining⟩ := hworking
      apply h.entered hclaimed
      · rw [hstage]
        rfl
      · intro a ha _
        cases ha
        refine ⟨hopen, hfacts, ?_⟩
        intro hash link hlink hunused
        apply (List.mem_cons.mp (hremaining hash link hlink hunused)).resolve_left
        rintro rfl
        obtain ⟨hview, hof⟩ := linksOf_eq_some_iff.mp hlink
        rw [hview] at hspent
        simp [outstandingLink, hof, hunused] at hspent
      · intro a hash now hread
        cases hread
      · exact fun refusal hrefused => by cases hrefused
  | issued recipient issuedAt expiresAt token tokenHash answer hstage hfree hview =>
      have haccount : (s.stage id).account = some recipient.accountId := by
        rw [hstage]
        rfl
      have hworking := h.working hclaimed haccount
      rw [hstage] at hworking
      obtain ⟨hopen, hfacts, hremaining⟩ := hworking
      have hspent : ∀ hash link, linksOf (s.links.view id) recipient.accountId hash = some link →
          link.usedAt ≠ none := by
        intro hash link hlink hunused
        exact List.not_mem_nil (hremaining hash link hlink hunused)
      refine h.linkPut hclaimed rfl rfl rfl rfl List.mem_cons_self
        (fun _ hin => List.mem_cons_of_mem _ hin) hfree haccount rfl rfl ?_ ?_
      · rw [hview]
        intro other hother
        cases hother
      · refine ⟨hfacts.issued hopen hspent ⟨recipient.locale, token, issuedAt, rfl⟩, ?_⟩
        intro act hact
        rw [List.mem_singleton.mp hact]
        rfl
  | linkRead tokenHash now link hstage hview =>
      have hnone : (s.stage id).account = none := by
        rw [hstage]
        rfl
      apply h.entered hclaimed
      · rw [hnone]
        rfl
      · intro a ha _
        cases ha
      · intro a hash now' hread
        cases hread
        have hfree : ∀ b, s.accounts.owner b ≠ some id := by
          intro b howner
          rw [h.owner_iff hclaimed, hnone] at howner
          cases howner
        rw [Rows.view_of_owner_ne (h.links_not_owned hfree tokenHash)] at hview
        rw [linksOf_eq_some_iff.mpr ⟨hview, rfl⟩]
        simp
      · exact fun refusal hrefused => by cases hrefused
  | accountLocked a tokenHash now account hstage hfree hview =>
      have hnone : (s.stage id).account = none := by
        rw [hstage]
        rfl
      have hfacts := h.facts_of_start hclaimed hnone a
      rw [hview] at hfacts
      apply h.accountPut hclaimed hfree _ rfl
      · refine ⟨hfacts, ?_⟩
        have hread := (h.own id).read a tokenHash now hstage
        have hnot : ∀ b, s.accounts.owner b ≠ some id := by
          intro b howner
          rw [h.owner_iff hclaimed, hnone] at howner
          cases howner
        rw [linksOf_view_of_not_owner (h.links_not_owned hnot tokenHash)]
        exact hread
      · rw [hnone]
        intro b hb
        cases hb
  | spent a tokenHash now link hstage hfree hview hspendable =>
      have haccount : (s.stage id).account = some a := by
        rw [hstage]
        rfl
      have hworking := h.working hclaimed haccount
      rw [hstage] at hworking
      obtain ⟨hfacts, hlinked⟩ := hworking
      have hof : link.accountId = a := by
        by_contra hother
        apply hlinked
        apply linksOf_eq_none
        rw [hview]
        intro other hsame
        cases hsame
        exact hother
      rw [hof] at hspendable ⊢
      refine h.linkPut hclaimed rfl rfl rfl rfl (h.known_of_view hview) (fun _ hin => hin) hfree
        haccount rfl rfl ?_ ?_
      · rw [hview]
        intro other hother
        cases hother
        exact hof
      · exact hfacts.spent (linksOf_eq_some_iff.mpr ⟨hview, hof⟩) hof hspendable (by simp)
  | verified a tokenHash now account hstage hfree hview =>
      have haccount : (s.stage id).account = some a := by
        rw [hstage]
        rfl
      have hworking := h.working hclaimed haccount
      rw [hstage, hview] at hworking
      apply h.accountPut hclaimed hfree _ rfl
      · refine ⟨SpentFacts.verified hworking, ?_⟩
        intro act hact
        rw [List.mem_singleton.mp hact]
        rfl
      · rw [haccount]
        exact fun b hb => (Option.some.inj hb).symm
  | verifiedAlready a tokenHash now hstage hverified =>
      have hworking := h.working hclaimed (a := a) (by rw [hstage]; rfl)
      rw [hstage] at hworking
      exact absurd hworking.unverified hverified

end Commands

section Keys

variable [VerificationRules] {s s' : Verifications} {id : ℕ} {request : IdempotentRequest}

/-- A step of the key's record alone. -/
theorem LinkInv.attempted (h : s.LinkInv) {attempts : Attempts (List LinkAct) LinkEnvelope}
    {phase : AttemptPhase (List LinkAct) LinkEnvelope} (hopen : Over (s.attempts.phase id) = false)
    (hphase : attempts.phase = Function.update s.attempts.phase id phase)
    (hrows : ∀ k j, j ≠ id → attempts.rows.owner k = some j → s.attempts.rows.owner k = some j)
    (hcommitted : attempts.rows.committed = s.attempts.rows.committed)
    (heffects : attempts.effects = s.attempts.effects)
    (hholding : Attempts.Holding phase = Attempts.Holding (s.attempts.phase id) ∨
      s.stage id = .start)
    (hrecord : ∀ k, attempts.rows.owner k = some id → Attempts.Holding phase = true)
    (hpending : ∀ acts envelope, (phase = .ran acts envelope ∨ phase = .completed acts envelope) →
      ∃ a, s.stage id = .done a acts envelope.data)
    (hunclaimed : Unclaimed phase = true → s.stage id = .start) :
    ({ s with attempts } : Verifications).LinkInv := by
  have hat : attempts.phase id = phase := by rw [hphase, Function.update_self]
  have hquiet : Quiet id s { s with attempts } := by
    refine ⟨fun _ _ => rfl, ?_, .refl, .refl, hrows, heffects, rfl, rfl, hcommitted⟩
    intro j hj
    show attempts.phase j = _
    rw [hphase, Function.update_of_ne hj]
  apply h.quiet hquiet
  · constructor
    · intro a
      show s.accounts.owner a = some id ↔ Attempts.Holding (attempts.phase id) = true ∧ _
      rw [hat, (h.own id).account]
      rcases hholding with hsame | hstart
      · rw [hsame]
      · rw [hstart]
        exact iff_of_false (fun hs => by cases hs.2) (fun hs => by cases hs.2)
    · exact (h.own id).link
    · intro k howner
      show Attempts.Holding (attempts.phase id) = true
      rw [hat]
      exact hrecord k howner
    · intro a howner
      rw [hquiet.actsOf]
      exact (h.own id).working a howner
    · intro acts envelope hran
      have hran' : phase = .ran acts envelope ∨ phase = .completed acts envelope := hat ▸ hran
      exact hpending acts envelope hran'
    · intro hfree
      have hfree' : Unclaimed phase = true := hat ▸ hfree
      exact hunclaimed hfree'
    · exact (h.own id).read
    · intro refusal hstaged
      have hover := (h.own id).refused refusal hstaged
      rw [hopen] at hover
      cases hover
    · intro effect heffect hby
      have hin : effect ∈ s.attempts.effects := heffects ▸ heffect
      exact absurd hby (Over.not_effect h hopen effect hin)
  · exact fun hash j link hheld => h.known hash (.inr ⟨j, link, hheld⟩)
  · exact fun _ hin => hin

/-- The rows of a transaction that ends after its command, committed with the effect. -/
theorem LinkInv.committing (h : s.LinkInv) {acts : List LinkAct} {envelope : LinkEnvelope}
    {phase : AttemptPhase (List LinkAct) LinkEnvelope}
    (hphase : s.attempts.phase id = .completed acts envelope) (hover : Over phase = true) :
    ({ s with
      attempts := s.attempts.committed id phase
      accounts := s.accounts.commit id
      links := s.links.commit id } : Verifications).LinkInv := by
  obtain ⟨a, hstage⟩ := (h.own id).pending acts envelope (.inr hphase)
  have howner : ∀ b, s.accounts.owner b = some id ↔ b = a := by
    intro b
    rw [(h.own id).account, hphase, hstage]
    exact ⟨fun hs => (Option.some.inj hs.2).symm, fun hb => ⟨rfl, by rw [hb]; rfl⟩⟩
  have hworking := (h.own id).working a ((howner a).mpr rfl)
  rw [hstage] at hworking
  obtain ⟨hfacts, hof⟩ := hworking
  have hlinked : ∀ hash, s.links.owner hash = some id →
      (∃ link, s.links.view id hash = some link ∧ link.accountId = a) ∧
        ∀ link ∈ s.links.committed hash, link.accountId = a := by
    intro hash hlink
    obtain ⟨b, hb, hrest⟩ := (h.own id).link hash hlink
    rw [← (howner b).mp hb]
    exact hrest
  have heffects : (s.attempts.committed id phase).effects =
      s.attempts.effects ++ [⟨id, acts, envelope⟩] := by
    unfold Attempts.committed
    rw [hphase]
  have hacts : ∀ b, Verifications.actsOf
      { s with
        attempts := s.attempts.committed id phase
        accounts := s.accounts.commit id
        links := s.links.commit id } b =
      s.actsOf b ++ acts.filter fun act => act.accountId = b := by
    intro b
    unfold Verifications.actsOf Verifications.acts
    rw [heffects]
    simp
  have hafter : (s.attempts.committed id phase).phase id = phase := Attempts.phase_enter_self _
  have hstep : StepBy id s
      { s with
        attempts := s.attempts.committed id phase
        accounts := s.accounts.commit id
        links := s.links.commit id } := by
    refine ⟨fun _ _ => rfl, ?_, .commit, .commit, ?_, ?_, ?_, ?_⟩
    · exact fun j hj => Attempts.phase_enter_of_ne hj _
    · exact fun k j hj => (Rows.StepOf.commit.owner_iff hj).mp
    · intro effect heffect hby
      rw [heffects] at heffect
      rcases List.mem_append.mp heffect with heffect | heffect
      · exact heffect
      · rw [List.mem_singleton.mp heffect] at hby
        exact absurd rfl hby
    · intro b hb
      have hba : b ≠ a := fun hsame => hb ((howner b).mpr hsame)
      refine ⟨Rows.committed_commit_of_ne hb, ?_, ?_⟩
      · funext hash
        show linksOf (s.links.view id) b hash = linksOf s.links.committed b hash
        by_cases hlink : s.links.owner hash = some id
        · obtain ⟨⟨link, hview, hlinkOf⟩, hcommitted⟩ := hlinked hash hlink
          have hnone : linksOf (s.links.view id) b hash = none := by
            apply linksOf_eq_none
            rw [hview]
            intro other hother
            cases hother
            rw [hlinkOf]
            exact hba.symm
          rw [hnone]
          apply (linksOf_eq_none _).symm
          intro other hother
          rw [hcommitted other hother]
          exact hba.symm
        · exact linksOf_view_of_not_owner hlink b
      · rw [hacts]
        have hnil : acts.filter (fun act => act.accountId = b) = [] := by
          rw [List.filter_eq_nil_iff]
          intro act hact
          rw [hof act hact]
          simpa using hba.symm
        rw [hnil, List.append_nil]
    · intro b hash hsome
      show linksOf (s.links.view id) b hash ≠ none
      by_cases hlink : s.links.owner hash = some id
      · obtain ⟨⟨link, hview, hlinkOf⟩, hcommitted⟩ := hlinked hash hlink
        have hba : b = a := by
          by_contra hba
          apply hsome
          apply linksOf_eq_none
          intro other hother
          rw [hcommitted other hother]
          exact fun hsame => hba hsame.symm
        rw [linksOf_eq_some_iff.mpr ⟨hview, hlinkOf.trans hba.symm⟩]
        simp
      · rw [linksOf_view_of_not_owner hlink]
        exact hsome
  apply h.step hstep
  · constructor
    · intro b
      show (s.accounts.commit id).owner b = some id ↔
        Attempts.Holding ((s.attempts.committed id phase).phase id) = true ∧ _
      rw [hafter]
      refine iff_of_false Rows.owner_commit_ne ?_
      rintro ⟨hholds, -⟩
      rw [not_holding_of_over hover] at hholds
      cases hholds
    · exact fun hash howns => absurd howns Rows.owner_commit_ne
    · exact fun k howns => absurd howns Rows.owner_commit_ne
    · exact fun b howns => absurd howns Rows.owner_commit_ne
    · intro acts' envelope' hran
      have hran' : phase = .ran acts' envelope' ∨ phase = .completed acts' envelope' :=
        hafter ▸ hran
      rcases hran' with rfl | rfl
      · cases hover
      · cases hover
    · intro hunclaimed
      have hfree : Unclaimed phase = true := hafter ▸ hunclaimed
      rw [not_unclaimed_of_over hover] at hfree
      cases hfree
    · intro b hash now hread
      have hstaged : s.stage id = .read b hash now := hread
      rw [hstage] at hstaged
      cases hstaged
    · exact fun _ _ => hafter.symm ▸ hover
    · intro effect _ _
      exact ⟨hafter.symm ▸ hover, a, acts, envelope.data, hstage⟩
  · intro b hb
    rw [(howner b).mp hb, hacts, List.filter_eq_self.mpr fun act hact => by simpa using hof act hact]
    exact hfacts
  · intro hash hin
    rcases hin with hin | ⟨j, link, hin⟩
    · obtain ⟨link, hlink⟩ := Option.ne_none_iff_exists'.mp hin
      exact h.known_of_view hlink
    · have hheld : (s.links.commit id).held hash = some (j, some link) := hin
      by_cases hlink : s.links.owner hash = some id
      · have hnone : (s.links.commit id).held hash = none := if_pos hlink
        rw [hnone] at hheld
        cases hheld
      · rw [Rows.held_commit_of_ne hlink] at hheld
        exact h.known hash (.inr ⟨j, link, hheld⟩)

/-- A transaction that only read the key's record owns nothing. -/
theorem LinkInv.replaying (h : s.LinkInv) {envelope : LinkEnvelope}
    (hphase : s.attempts.phase id = .replaying envelope) :
    s.stage id = .start ∧ (∀ a, s.accounts.owner a ≠ some id) ∧
      (∀ hash, s.links.owner hash ≠ some id) ∧ ∀ k, s.attempts.rows.owner k ≠ some id := by
  have hstage := (h.own id).unclaimed (by rw [hphase]; rfl)
  have haccounts : ∀ a, s.accounts.owner a ≠ some id := by
    intro a howner
    rw [(h.own id).account, hstage] at howner
    cases howner.2
  refine ⟨hstage, haccounts, h.links_not_owned haccounts, ?_⟩
  intro k howner
  have hholds := (h.own id).record k howner
  rw [hphase] at hholds
  cases hholds

theorem LinkInv.replayed_quiet (h : s.LinkInv) {envelope : LinkEnvelope}
    (phase : AttemptPhase (List LinkAct) LinkEnvelope)
    (hphase : s.attempts.phase id = .replaying envelope) :
    Quiet id s
      { s with
        attempts := s.attempts.committed id phase
        accounts := s.accounts.commit id
        links := s.links.commit id } := by
  obtain ⟨-, haccounts, hlinks, hrecords⟩ := h.replaying hphase
  refine ⟨fun _ _ => rfl, ?_, .commit, .commit, ?_, ?_, ?_, ?_, ?_⟩
  · exact fun j hj => Attempts.phase_enter_of_ne hj _
  · exact fun k j hj => (Rows.StepOf.commit.owner_iff hj).mp
  · show (s.attempts.committed id phase).effects = _
    unfold Attempts.committed
    rw [hphase]
  · exact funext fun a => Rows.committed_commit_of_ne (haccounts a)
  · exact funext fun hash => Rows.committed_commit_of_ne (hlinks hash)
  · exact funext fun k => Rows.committed_commit_of_ne (hrecords k)

theorem LinkInv.replayed (h : s.LinkInv) {envelope : LinkEnvelope}
    {phase : AttemptPhase (List LinkAct) LinkEnvelope}
    (hphase : s.attempts.phase id = .replaying envelope) (hover : Over phase = true) :
    ({ s with
      attempts := s.attempts.committed id phase
      accounts := s.accounts.commit id
      links := s.links.commit id } : Verifications).LinkInv := by
  obtain ⟨hstage, -, hlinks, -⟩ := h.replaying hphase
  have hquiet := h.replayed_quiet phase hphase
  have hafter : (s.attempts.committed id phase).phase id = phase := Attempts.phase_enter_self _
  apply h.quiet hquiet
  · constructor
    · intro a
      refine iff_of_false Rows.owner_commit_ne ?_
      rintro ⟨-, hnone⟩
      have hstaged : (s.stage id).account = some a := hnone
      rw [hstage] at hstaged
      cases hstaged
    · exact fun hash howns => absurd howns Rows.owner_commit_ne
    · exact fun k howns => absurd howns Rows.owner_commit_ne
    · exact fun a howns => absurd howns Rows.owner_commit_ne
    · intro acts envelope' hran
      have hran' : phase = .ran acts envelope' ∨ phase = .completed acts envelope' := hafter ▸ hran
      rcases hran' with rfl | rfl
      · cases hover
      · cases hover
    · exact fun _ => hstage
    · intro a hash now hread
      have hstaged : s.stage id = .read a hash now := hread
      rw [hstage] at hstaged
      cases hstaged
    · exact fun _ _ => hafter.symm ▸ hover
    · intro effect heffect hby
      rw [hquiet.effects] at heffect
      exact absurd hby (Over.not_effect h (by rw [hphase]; rfl) effect heffect)
  · intro hash j link hheld
    have hsame : (s.links.commit id).held hash = some (j, some link) := hheld
    rw [Rows.held_commit_of_ne (hlinks hash)] at hsame
    exact h.known hash (.inr ⟨j, link, hsame⟩)
  · exact fun _ hin => hin

theorem key_inv (h : s.LinkInv) (hmove : KeyMove request s id s') : s'.LinkInv := by
  cases hmove with
  | unclaimed attempts phase hfree hphase hset hrows heffects =>
      have hstage := (h.own id).unclaimed hfree
      have hrecords : ∀ k, s.attempts.rows.owner k ≠ some id := by
        intro k howner
        have hholds := (h.own id).record k howner
        rw [not_holding_of_unclaimed hfree] at hholds
        cases hholds
      apply h.attempted (not_over_of_unclaimed hfree) hset
      · intro k j hj howner
        rcases hrows with hrows | hrows
        · rw [hrows] at howner
          exact howner
        · rw [hrows] at howner
          exact (Rows.StepOf.rollback.owner_iff hj).mp howner
      · rcases hrows with hrows | hrows
        · rw [hrows]
        · rw [hrows]
          rfl
      · exact heffects
      · exact .inr hstage
      · intro k howner
        rcases hrows with hrows | hrows
        · rw [hrows] at howner
          exact absurd howner (hrecords k)
        · rw [hrows] at howner
          exact absurd howner Rows.owner_rollback_ne
      · intro acts envelope hran
        rcases hphase with hphase | ⟨refusal, rfl⟩
        · rcases hran with rfl | rfl
          · cases hphase
          · cases hphase
        · rcases hran with hran | hran
          · cases hran
          · cases hran
      · exact fun _ => hstage
  | claimed stored hbegun hfree =>
      have hstage := (h.own id).unclaimed (by rw [hbegun]; rfl)
      apply h.attempted (by rw [hbegun]; rfl) rfl
      · exact fun k j hj => ((Rows.StepOf.put hfree).owner_iff hj).mp
      · rfl
      · rfl
      · exact .inr hstage
      · exact fun _ _ => rfl
      · simp
      · exact fun hunclaimed => by cases hunclaimed
  | answered a acts envelope hclaimed hstage =>
      apply h.attempted (by rw [hclaimed]; rfl) rfl
      · exact fun _ _ _ howner => howner
      · rfl
      · rfl
      · rw [hclaimed]
        exact .inl rfl
      · exact fun _ _ => rfl
      · intro acts' envelope' hran
        rcases hran with hran | hran
        · cases hran
          exact ⟨a, hstage⟩
        · cases hran
      · exact fun hunclaimed => by cases hunclaimed
  | recorded acts envelope hran =>
      obtain ⟨a, hstage⟩ := (h.own id).pending acts envelope (.inl hran)
      apply h.attempted (by rw [hran]; rfl) rfl
      · intro k j hj howner
        by_cases hk : k = request.scope
        · have hself : (s.attempts.complete request id acts envelope).rows.owner k = some id := by
            rw [hk]
            exact Rows.owner_put_self
          rw [hself] at howner
          exact absurd (Option.some.inj howner).symm hj
        · exact (Rows.owner_put_of_ne hk).symm.trans howner
      · rfl
      · rfl
      · rw [hran]
        exact .inl rfl
      · exact fun _ _ => rfl
      · intro acts' envelope' hran'
        rcases hran' with hran' | hran'
        · cases hran'
        · cases hran'
          exact ⟨a, hstage⟩
      · exact fun hunclaimed => by cases hunclaimed
  | committed acts envelope phase hphase hover => exact h.committing hphase hover
  | replayed envelope phase hphase hover => exact h.replayed hphase hover
  | aborted hrunning =>
      have hsame : (s.rolledBack id).enter id (s.stage id) = s.rolledBack id := by
        unfold enter
        rw [show (s.rolledBack id).stage = s.stage from rfl, Function.update_eq_self]
        rfl
      rw [← hsame]
      exact h.rolledBack (not_over_of_running hrunning) (.inl rfl)

end Keys

/-- Nothing committed has moved. -/
structure Unmoved (s s' : Verifications) : Prop where
  accounts : s'.accounts.committed = s.accounts.committed
  links : s'.links.committed = s.links.committed
  records : s'.attempts.rows.committed = s.attempts.rows.committed
  effects : s'.attempts.effects = s.attempts.effects

/-- The attempt an action is made by. -/
def actor : LinkAction → Option ℕ
  | .command id _ | .answer id _ | .key id _ => some id
  | .purge _ => none

section Run

variable [VerificationRules] {s s' : Verifications} {id : ℕ} {operation : ℕ → LinkOperation}
  {request : ℕ → IdempotentRequest}

theorem linkInv_initial : initial.LinkInv := by
  refine ⟨fun id => ?_, fun a => linkFacts_unknown a, ?_⟩
  · constructor
    · intro a
      exact iff_of_false (fun howner => by cases howner) (fun hs => by cases hs.1)
    · exact fun hash howner => by cases howner
    · exact fun k howner => by cases howner
    · exact fun a howner => by cases howner
    · intro acts envelope hran
      rcases hran with hran | hran
      · cases hran
      · cases hran
    · exact fun _ => rfl
    · exact fun a hash now hread => by cases hread
    · exact fun refusal hrefused => by cases hrefused
    · exact fun effect heffect => by cases heffect
  · intro hash hin
    rcases hin with hin | ⟨id, link, hin⟩
    · exact absurd rfl hin
    · cases hin

theorem step_linkInv (h : s.LinkInv) {action : LinkAction}
    (hstep : s.step request operation action = some s') : s'.LinkInv := by
  cases action with
  | command id step =>
      simp only [Verifications.step] at hstep
      split_ifs at hstep with hclaimed
      exact command_inv h hclaimed (command_move hstep)
  | answer id servedAt => exact key_inv h (answer_move hstep)
  | key id step => exact key_inv h (key_move hstep)
  | purge now =>
      cases hstep
      refine ⟨fun id => ?_, h.committed, h.known⟩
      have hown := h.own id
      exact ⟨hown.account, hown.link, hown.record, hown.working, hown.pending, hown.unclaimed,
        hown.read, hown.refused, hown.effect⟩

theorem run_linkInv (hrun : Reaches (fun _ _ => True) (step request operation) initial s) :
    s.LinkInv :=
  hrun.invariant linkInv_initial fun _ _ _ h _ hstep => step_linkInv h hstep

theorem CommandMove.unmoved (h : CommandMove s id s') : Unmoved s s' := by
  cases h with
  | refused refusal => exact ⟨rfl, rfl, rfl, rfl⟩
  | _ => exact ⟨rfl, rfl, rfl, rfl⟩

/-- A statement of the key's record or the transaction's end moves what is committed with the
effect it commits, and not otherwise. -/
theorem KeyMove.unmoved_or (h : s.LinkInv) {req : IdempotentRequest} (hmove : KeyMove req s id s') :
    Unmoved s s' ∨ Over (s'.attempts.phase id) = true ∧ ∃ acts envelope,
      s'.attempts.effects = s.attempts.effects ++ [⟨id, acts, envelope⟩] := by
  cases hmove with
  | unclaimed attempts phase hfree hphase hset hrows heffects =>
      refine .inl ⟨rfl, rfl, ?_, heffects⟩
      rcases hrows with hrows | hrows
      · exact congrArg Rows.committed hrows
      · exact (congrArg Rows.committed hrows).trans Rows.committed_rollback
  | claimed stored hbegun hfree => exact .inl ⟨rfl, rfl, rfl, rfl⟩
  | answered a acts envelope hclaimed hstage => exact .inl ⟨rfl, rfl, rfl, rfl⟩
  | recorded acts envelope hran => exact .inl ⟨rfl, rfl, rfl, rfl⟩
  | committed acts envelope phase hphase hover =>
      refine .inr ⟨?_, acts, envelope, ?_⟩
      · rw [← hover]
        exact congrArg Over (Attempts.phase_enter_self phase)
      · show (s.attempts.committed id phase).effects = _
        unfold Attempts.committed
        rw [hphase]
  | replayed envelope phase hphase hover =>
      have hquiet := h.replayed_quiet phase hphase
      exact .inl ⟨hquiet.accountsCommitted, hquiet.linksCommitted, hquiet.recordsCommitted,
        hquiet.effects⟩
  | aborted hrunning => exact .inl ⟨rfl, rfl, rfl, rfl⟩

/-- A step of an attempt moves what is committed with an effect of the attempt, and not
otherwise. -/
theorem step_unmoved_or (h : s.LinkInv) {action : LinkAction}
    (hstep : s.step request operation action = some s') (hactor : actor action = some id) :
    Unmoved s s' ∨ ∃ acts envelope,
      s'.attempts.effects = s.attempts.effects ++ [⟨id, acts, envelope⟩] := by
  cases action with
  | command j step =>
      cases hactor
      simp only [Verifications.step] at hstep
      split_ifs at hstep with hclaimed
      exact .inl (command_move hstep).unmoved
  | answer j servedAt =>
      cases hactor
      exact (KeyMove.unmoved_or h (answer_move hstep)).imp_right And.right
  | key j step =>
      cases hactor
      exact (KeyMove.unmoved_or h (key_move hstep)).imp_right And.right
  | purge now => cases hactor

theorem step_effects (h : s.LinkInv) {action : LinkAction}
    (hstep : s.step request operation action = some s') :
    s.attempts.effects <+: s'.attempts.effects := by
  cases hactor : actor action with
  | none =>
      cases action with
      | purge now =>
          cases hstep
          exact List.prefix_refl _
      | _ => cases hactor
  | some id =>
      rcases step_unmoved_or h hstep hactor with hunmoved | ⟨acts, envelope, heffects⟩
      · exact hunmoved.effects ▸ List.prefix_refl _
      · rw [heffects]
        exact List.prefix_append _ _

theorem run_effects (h : s.LinkInv)
    (hrun : Reaches (fun _ _ => True) (step request operation) s s') :
    s.attempts.effects <+: s'.attempts.effects := by
  have hboth : s'.LinkInv ∧ s.attempts.effects <+: s'.attempts.effects := by
    apply hrun.invariant (P := fun t => t.LinkInv ∧ s.attempts.effects <+: t.attempts.effects)
    · exact ⟨h, List.prefix_refl _⟩
    · intro v action w hv _ hstep
      exact ⟨step_linkInv hv.1 hstep, hv.2.trans (step_effects hv.1 hstep)⟩
  exact hboth.2

end Run

/-- The link asked for last. -/
def lastRequested (acts : List LinkAct) : Option String :=
  (acts.filter LinkAct.isRequest).getLast?.map LinkAct.tokenHash

/-- What is committed of every account's verification. -/
structure LinksSound [VerificationRules] (s : Verifications) : Prop where
  outstanding : ∀ h link, s.links.committed h = some link → link.usedAt = none →
    lastRequested (s.actsOf link.accountId) = some h
  oneOutstanding : ∀ h h' link link', s.links.committed h = some link →
    s.links.committed h' = some link' → link.accountId = link'.accountId → link.usedAt = none →
    link'.usedAt = none → h = h'
  verifiesOnce : ∀ h, (s.acts.filter fun act => !act.isRequest && act.tokenHash = h).length ≤ 1
  verified : ∀ a account t, s.accounts.committed a = some account →
    account.emailVerifiedAt = some t → VerifiedBy a account.email t (s.actsOf a)
  unverified : ∀ a, (∀ account ∈ s.accounts.committed a, account.emailVerifiedAt = none) →
    ∀ act ∈ s.actsOf a, act.isRequest = true
  refused : ∀ id refusal, s.stage id = .refused refusal →
    (∀ effect ∈ s.attempts.effects, effect.attempt ≠ id) ∧
      (∀ a, s.accounts.owner a ≠ some id) ∧ (∀ h, s.links.owner h ≠ some id) ∧
      ∀ k, s.attempts.rows.owner k ≠ some id

section Sound

variable [VerificationRules] {s s' : Verifications} {id : ℕ} {operation : ℕ → LinkOperation}
  {request : ℕ → IdempotentRequest}

omit [VerificationRules] in
theorem mem_actsOf {a : Uuid} {act : LinkAct} :
    act ∈ s.actsOf a ↔ act ∈ s.acts ∧ act.accountId = a := by
  simp [actsOf]

/-- The acts that verified an account: one at most. -/
theorem LinkInv.verifications (h : s.LinkInv) (a : Uuid) :
    ((s.actsOf a).filter fun act => !act.isRequest).length ≤ 1 := by
  have hnone : (∀ act ∈ s.actsOf a, act.isRequest = true) →
      ((s.actsOf a).filter fun act => !act.isRequest) = [] := by
    intro hrequests
    rw [List.filter_eq_nil_iff]
    intro act hact
    rw [hrequests act hact]
    simp
  cases haccount : s.accounts.committed a with
  | none =>
      rw [((h.committed a).unknown haccount).1]
      exact Nat.zero_le 1
  | some account =>
      cases hverified : account.emailVerifiedAt with
      | none =>
          rw [hnone ((h.committed a).unverified account haccount hverified)]
          exact Nat.zero_le 1
      | some t =>
          obtain ⟨requests, hash, sentTo, locale, token, occurredAt, expiresAt, hacts, hall, -⟩ :=
            (h.committed a).verified account haccount t hverified
          have hrest : requests.filter (fun act => !act.isRequest) = [] := by
            rw [List.filter_eq_nil_iff]
            intro act hact
            rw [hall act hact]
            simp
          rw [hacts, List.filter_append, hrest]
          exact Nat.le_refl 1

/-- The links of two accounts have different hashes. -/
theorem LinkInv.account_of_hash (h : s.LinkInv) {act act' : LinkAct} (hact : act ∈ s.acts)
    (hact' : act' ∈ s.acts) (hsame : act.tokenHash = act'.tokenHash) :
    act.accountId = act'.accountId := by
  have hlinked := (h.committed act.accountId).linked act (mem_actsOf.mpr ⟨hact, rfl⟩)
  have hlinked' := (h.committed act'.accountId).linked act' (mem_actsOf.mpr ⟨hact', rfl⟩)
  obtain ⟨link, hlink⟩ := Option.ne_none_iff_exists'.mp hlinked
  obtain ⟨link', hlink'⟩ := Option.ne_none_iff_exists'.mp hlinked'
  obtain ⟨hcommitted, hof⟩ := linksOf_eq_some_iff.mp hlink
  obtain ⟨hcommitted', hof'⟩ := linksOf_eq_some_iff.mp hlink'
  rw [← hsame, hcommitted] at hcommitted'
  rw [← hof, ← hof', Option.some.inj hcommitted']

theorem LinkInv.verifiesOnce (h : s.LinkInv) (hash : String) :
    (s.acts.filter fun act => !act.isRequest && act.tokenHash = hash).length ≤ 1 := by
  cases hverifying : s.acts.filter fun act => !act.isRequest && act.tokenHash = hash with
  | nil => exact Nat.zero_le 1
  | cons first rest =>
      have hfirst : first ∈ s.acts ∧ first.tokenHash = hash := by
        have hin : first ∈ s.acts.filter fun act => !act.isRequest && act.tokenHash = hash := by
          rw [hverifying]
          exact List.mem_cons_self
        simp only [List.mem_filter, Bool.and_eq_true, decide_eq_true_eq] at hin
        exact ⟨hin.1, hin.2.2⟩
      have hsame : (s.acts.filter fun act => !act.isRequest && act.tokenHash = hash) =
          (s.actsOf first.accountId).filter fun act => !act.isRequest && act.tokenHash = hash := by
        unfold actsOf
        rw [List.filter_filter]
        apply List.filter_congr
        intro act hact
        by_cases hhash : act.tokenHash = hash
        · rw [h.account_of_hash hact hfirst.1 (hhash.trans hfirst.2.symm)]
          simp
        · simp [hhash]
      rw [← hverifying, hsame]
      have hsub := List.monotone_filter_right (s.actsOf first.accountId)
        (p := fun act => !act.isRequest && act.tokenHash = hash) (q := fun act => !act.isRequest)
        fun act hact => (Bool.and_eq_true_iff.mp hact).1
      exact Nat.le_trans hsub.length_le (h.verifications first.accountId)

theorem LinkInv.sound (h : s.LinkInv) : LinksSound s := by
  have houtstanding : ∀ hash link, s.links.committed hash = some link → link.usedAt = none →
      lastRequested (s.actsOf link.accountId) = some hash := by
    intro hash link hlink hunused
    have hfacts := h.committed link.accountId
    obtain ⟨⟨account, haccount, hnull⟩, act, hlast, locale, token, occurredAt, rfl⟩ :=
      hfacts.latest hash link (linksOf_eq_some_iff.mpr ⟨hlink, rfl⟩) hunused
    have hrequests := hfacts.unverified account haccount hnull
    unfold lastRequested
    rw [List.filter_eq_self.mpr hrequests, hlast]
    rfl
  constructor
  · exact houtstanding
  · intro hash hash' link link' hlink hlink' hsame hunused hunused'
    have hlast := houtstanding hash link hlink hunused
    rw [hsame, houtstanding hash' link' hlink' hunused'] at hlast
    exact (Option.some.inj hlast).symm
  · exact h.verifiesOnce
  · intro a account t haccount ht
    exact (h.committed a).verified account haccount t ht
  · intro a hnull act hact
    cases haccount : s.accounts.committed a with
    | none =>
        rw [((h.committed a).unknown haccount).1] at hact
        cases hact
    | some account =>
        exact (h.committed a).unverified account haccount (hnull account haccount) act hact
  · intro id refusal hstage
    have hown := h.own id
    have haccounts : ∀ a, s.accounts.owner a ≠ some id := by
      intro a howner
      rw [hown.account, hstage] at howner
      cases howner.2
    refine ⟨?_, haccounts, h.links_not_owned haccounts, ?_⟩
    · intro effect heffect hby
      obtain ⟨-, a, acts, answer, hdone⟩ := hown.effect effect heffect hby
      rw [hstage] at hdone
      cases hdone
    · intro k howner
      have hholds := hown.record k howner
      rw [not_holding_of_over (hown.refused refusal hstage)] at hholds
      cases hholds

/-- Once verified, an account's address stays verified, at the same instant. -/
theorem LinkInv.stays_verified (h : s.LinkInv) (h' : s'.LinkInv)
    (heffects : s.attempts.effects <+: s'.attempts.effects) {a : Uuid} {account : Account}
    {t : Instant} (haccount : s.accounts.committed a = some account)
    (ht : account.emailVerifiedAt = some t) :
    ∃ account', s'.accounts.committed a = some account' ∧ account'.emailVerifiedAt = some t := by
  obtain ⟨requests, hash, sentTo, locale, token, occurredAt, expiresAt, hacts, -⟩ :=
    (h.committed a).verified account haccount t ht
  have hin : LinkAct.verified a hash t ∈ s'.actsOf a := by
    obtain ⟨more, hmore⟩ := heffects
    rw [mem_actsOf]
    refine ⟨?_, rfl⟩
    unfold acts
    rw [← hmore, List.flatMap_append]
    apply List.mem_append_left
    have hin : LinkAct.verified a hash t ∈ s.actsOf a := by
      rw [hacts]
      simp
    exact (mem_actsOf.mp hin).1
  cases haccount' : s'.accounts.committed a with
  | none =>
      rw [((h'.committed a).unknown haccount').1] at hin
      cases hin
  | some account' =>
      refine ⟨account', rfl, ?_⟩
      cases hverified : account'.emailVerifiedAt with
      | none => cases (h'.committed a).unverified account' haccount' hverified _ hin
      | some t' =>
          obtain ⟨requests', hash', sentTo', locale', token', occurredAt', expiresAt', hacts',
            hall, -⟩ := (h'.committed a).verified account' haccount' t' hverified
          rw [hacts'] at hin
          rcases List.mem_append.mp hin with hin | hin
          · cases hall _ hin
          · simp only [List.mem_cons, LinkAct.verified.injEq, List.not_mem_nil, or_false] at hin
            rcases hin with hin | ⟨-, -, hin⟩
            · cases hin
            · rw [hin]

/-- Whatever sign-ups, resends and confirmations do, in whatever order and wherever they fail: at
most one link of an account is unspent and it is the one asked for last; a link verifies once at
most; an address is verified by the link asked for last, in time and sent to that address, stays
verified at that instant, and no link is asked for afterwards; and what a refused confirmation did
left nothing of what is committed moved. -/
theorem verification_links_sound (operation : ℕ → LinkOperation) (request : ℕ → IdempotentRequest)
    (s : Verifications)
    (hrun : Reaches (fun _ _ => True) (step request operation) initial s) :
    LinksSound s ∧ ∀ s', Reaches (fun _ _ => True) (step request operation) s s' →
      (∀ a account t, s.accounts.committed a = some account → account.emailVerifiedAt = some t →
        ∃ account', s'.accounts.committed a = some account' ∧
          account'.emailVerifiedAt = some t) ∧
      ∀ action id refusal t, actor action = some id → s.step request operation action = some t →
        Reaches (fun _ _ => True) (step request operation) t s' →
        s'.stage id = .refused refusal → Unmoved s t := by
  have h := run_linkInv hrun
  refine ⟨h.sound, fun s' hlater => ?_⟩
  have h' := run_linkInv (hrun.trans hlater)
  refine ⟨?_, ?_⟩
  · intro a account t haccount ht
    exact h.stays_verified h' (run_effects h hlater) haccount ht
  · intro action id refusal t hactor hstep hrest hrefused
    rcases step_unmoved_or h hstep hactor with hunmoved | ⟨acts, envelope, heffects⟩
    · exact hunmoved
    · have hkept := run_effects (step_linkInv h hstep) hrest
      have hin : ⟨id, acts, envelope⟩ ∈ s'.attempts.effects := by
        apply hkept.subset
        rw [heffects]
        exact List.mem_append_right _ (List.mem_singleton_self _)
      exact absurd rfl ((h'.sound.refused id refusal hrefused).1 _ hin)

end Sound

end Verifications

namespace Sample

scoped instance : VerificationRules where
  linkLifetimeHours := 24
  hashOf token :=
    if token = "first" then "a7937b64b8caa58f03721bb6bacf5c78cb235febe0e70b1b84cd99541461a08e"
    else "16367aacb67a4a017c8da8ab95682ccb390863780f7114dda0a0e0c55644c7c4"
  foldCase := String.toLower

def linkOperation : ℕ → LinkOperation
  | 0 => .signUp ⟨7, "ada@example.org", "fr"⟩
  | 1 => .resend 7
  | 2 => .confirm "first"
  | _ => .confirm "second"

def linkRequest (id : ℕ) : IdempotentRequest :=
  if id = 1 then ⟨"resend", some 7, "resend", 200⟩
  else ⟨if id = 0 then "sign-up" else if id = 2 then "confirm-1" else "confirm-2", none,
    if id = 0 then "sign-up" else if id = 2 then "first" else "second", if id = 0 then 201 else 200⟩

/-- The key claimed, the command's statements, its answer and the commit. -/
def wholeAttempt (id : ℕ) (now : Instant) (statements : List LinkStep) : List LinkAction :=
  [.key id .begin, .key id (.claim now)] ++ statements.map (.command id) ++
    [.answer id now, .key id .complete, .key id .commit]

/-- A sign-up, a resend that spends the first link while it is being confirmed, and the second
link confirmed. -/
def linkActions : List LinkAction :=
  wholeAttempt 0 100 [.register, .issue 100 100, .insertLink "first"] ++
    [.key 2 .begin, .key 2 (.claim 200), .command 2 (.readLink 200)] ++
    wholeAttempt 1 201 [.lockForResend, .issue 201 201, .clear, .insertLink "second"] ++
    [.command 2 .lockLinkAccount, .command 2 .spend] ++
    wholeAttempt 3 300 [.readLink 300, .lockLinkAccount, .spend, .verify]

end Sample

open Sample in
theorem verification_links_sound_sample :
    ∃ s : Verifications, Verifications.LinksSound s ∧
      s.stage 2 = .refused .verificationLinkInvalid ∧
      s.accounts.committed 7 = some ⟨"ada@example.org", "fr", some 300⟩ := by
  have hrun : (linkActions.foldlM (Verifications.step linkRequest linkOperation)
        Verifications.initial).map (fun s => (s.stage 2, s.accounts.committed 7)) =
      some (.refused .verificationLinkInvalid, some ⟨"ada@example.org", "fr", some 300⟩) := by
    decide +kernel
  obtain ⟨s, hs, hends⟩ := Option.map_eq_some_iff.mp hrun
  have hreached := Reaches.of_foldlM (fun _ _ => trivial) hs
  exact ⟨s, (Verifications.verification_links_sound linkOperation linkRequest s hreached).1,
    congrArg Prod.fst hends, congrArg Prod.snd hends⟩

end Arthome.Identity
