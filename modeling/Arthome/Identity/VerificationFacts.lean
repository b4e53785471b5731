import Arthome.Identity.EmailVerifications

/-!
# What is known of one account's links

An account's address is unverified and its transactions only asked for links, the last of
them perhaps unspent; or the link asked for last verified it, and nothing was asked for
since. Each statement of a command keeps that of the account's rows.
-/

namespace Arthome.Identity

open Arthome.Core Arthome.Edge Arthome.Library

/-- The links of one account. -/
def linksOf (links : String → Option EmailVerification) (accountId : Uuid) (tokenHash : String) :
    Option EmailVerification :=
  (links tokenHash).filter fun link => link.accountId = accountId

theorem linksOf_eq_some_iff {links : String → Option EmailVerification} {a : Uuid} {h : String}
    {link : EmailVerification} :
    linksOf links a h = some link ↔ links h = some link ∧ link.accountId = a := by
  simp [linksOf, Option.filter_eq_some_iff]

theorem linksOf_eq_none {links : String → Option EmailVerification} {a : Uuid} {h : String}
    (hother : ∀ link ∈ links h, link.accountId ≠ a) : linksOf links a h = none := by
  unfold linksOf
  rw [Option.filter_eq_none_iff]
  intro link hlink
  simpa using hother link hlink

/-- The act asked for the link. -/
def LinkAct.Requests (act : LinkAct) (tokenHash : String) (link : EmailVerification) : Prop :=
  ∃ locale token occurredAt,
    act = .requested link.accountId tokenHash link.email locale token occurredAt link.expiresAt

section Facts

variable [VerificationRules]

/-- Only links were asked for, and then the last one, unexpired and sent to the address, verified
it. -/
def VerifiedBy (a : Uuid) (email : String) (verifiedAt : Instant) (acts : List LinkAct) : Prop :=
  ∃ requests tokenHash sentTo locale token occurredAt expiresAt,
    acts = requests ++ [.requested a tokenHash sentTo locale token occurredAt expiresAt,
      .verified a tokenHash verifiedAt] ∧
    (∀ act ∈ requests, act.isRequest = true) ∧ verifiedAt < expiresAt ∧
    VerificationRules.foldCase email = VerificationRules.foldCase sentTo

/-- An account's row and its links after what its transactions did. -/
structure LinkFacts (a : Uuid) (account : Option Account)
    (links : String → Option EmailVerification) (acts : List LinkAct) : Prop where
  unknown : account = none → acts = [] ∧ ∀ h, links h = none
  linked : ∀ act ∈ acts, links act.tokenHash ≠ none
  latest : ∀ h link, links h = some link → link.usedAt = none →
    (∃ acc ∈ account, acc.emailVerifiedAt = none) ∧
      ∃ act, acts.getLast? = some act ∧ act.Requests h link
  unverified : ∀ acc ∈ account, acc.emailVerifiedAt = none → ∀ act ∈ acts, act.isRequest = true
  verified : ∀ acc ∈ account, ∀ t, acc.emailVerifiedAt = some t → VerifiedBy a acc.email t acts

variable {a : Uuid} {account : Option Account} {links links' : String → Option EmailVerification}
  {acts : List LinkAct} {acc : Account} {h : String} {link : EmailVerification}

theorem linkFacts_unknown (a : Uuid) : LinkFacts a none (fun _ => none) [] := by
  constructor
  · exact fun _ => ⟨rfl, fun _ => rfl⟩
  · simp
  · simp
  · simp
  · simp

/-- The account inserted. -/
theorem LinkFacts.registered (hf : LinkFacts a none links acts) (hnew : acc.emailVerifiedAt = none) :
    LinkFacts a (some acc) links acts := by
  obtain ⟨hacts, hlinks⟩ := hf.unknown rfl
  subst hacts
  constructor
  · simp
  · simp
  · intro h link hlink
    rw [hlinks h] at hlink
    cases hlink
  · simp
  · intro other hother t ht
    cases hother
    rw [hnew] at ht
    cases ht

/-- One of the links spent, nothing verified yet. -/
theorem LinkFacts.cleared (hf : LinkFacts a account links acts) (hlink : links h = some link)
    {used : EmailVerification} (hused : used.usedAt ≠ none) :
    LinkFacts a account (Function.update links h (some used)) acts := by
  refine ⟨?_, ?_, ?_, hf.unverified, hf.verified⟩
  · intro hnone
    rw [(hf.unknown hnone).2 h] at hlink
    cases hlink
  · intro act hact
    by_cases hat : act.tokenHash = h
    · rw [hat]
      simp
    · rw [Function.update_of_ne hat]
      exact hf.linked act hact
  · intro other otherLink hother hunused
    by_cases hat : other = h
    · rw [hat, Function.update_self] at hother
      cases hother
      exact absurd hunused hused
    · rw [Function.update_of_ne hat] at hother
      exact hf.latest other otherLink hother hunused

/-- The account's address is not verified. -/
def Unverified (account : Option Account) : Prop := ∃ acc ∈ account, acc.emailVerifiedAt = none

/-- A new link, every earlier one spent. -/
theorem LinkFacts.issued (hf : LinkFacts a account links acts) (hopen : Unverified account)
    (hspent : ∀ h link, links h = some link → link.usedAt ≠ none)
    {act : LinkAct} (hact : act.Requests h link) :
    LinkFacts a account (Function.update links h (some link)) (acts ++ [act]) := by
  obtain ⟨locale, token, occurredAt, rfl⟩ := hact
  obtain ⟨acc, hacc, hnull⟩ := hopen
  rw [Option.mem_def] at hacc
  subst hacc
  have hrequests := hf.unverified acc rfl hnull
  constructor
  · intro hnone
    cases hnone
  · intro act hact
    by_cases hat : act.tokenHash = h
    · rw [hat]
      simp
    · rw [Function.update_of_ne hat]
      rcases List.mem_append.mp hact with hact | hact
      · exact hf.linked act hact
      · rw [List.mem_singleton.mp hact] at hat
        exact absurd rfl hat
  · intro other otherLink hother hunused
    refine ⟨⟨acc, rfl, hnull⟩, ?_⟩
    by_cases hat : other = h
    · rw [hat, Function.update_self] at hother
      cases hother
      rw [hat]
      exact ⟨_, List.getLast?_concat, locale, token, occurredAt, rfl⟩
    · rw [Function.update_of_ne hat] at hother
      exact absurd hunused (hspent other otherLink hother)
  · intro other hother _ act hact
    rcases List.mem_append.mp hact with hact | hact
    · exact hrequests act hact
    · rw [List.mem_singleton.mp hact]
      rfl
  · intro other hother t ht
    cases hother
    rw [hnull] at ht
    cases ht

/-- The link asked for last is spent, in time and for the account's address, and the address not
verified yet. -/
structure SpentFacts (a : Uuid) (account : Option Account)
    (links : String → Option EmailVerification) (acts : List LinkAct) (h : String)
    (now : Instant) : Prop where
  unverified : Unverified account
  requested : ∀ acc ∈ account, VerifiedBy a acc.email now (acts ++ [.verified a h now])
  spent : ∀ h link, links h = some link → link.usedAt ≠ none
  linked : links h ≠ none ∧ ∀ act ∈ acts, links act.tokenHash ≠ none

/-- A link that may be spent is the one asked for last, and the only one. -/
theorem LinkFacts.spent (hf : LinkFacts a account links acts) (hlink : links h = some link)
    (haccount : link.accountId = a) {now : Instant} (hspendable : Verifications.Spendable account link now)
    {used : EmailVerification} (hused : used.usedAt ≠ none) :
    SpentFacts a account (Function.update links h (some used)) acts h now := by
  obtain ⟨hunused, hlive, acc, hacc, haddress⟩ := hspendable
  obtain ⟨⟨acc', hacc', hnull⟩, act, hlast, locale, token, occurredAt, rfl⟩ :=
    hf.latest h link hlink hunused
  rw [Option.mem_def] at hacc hacc'
  subst hacc
  cases hacc'
  obtain ⟨requests, rfl⟩ := List.getLast?_eq_some_iff.mp hlast
  have hrequests := hf.unverified acc rfl hnull
  constructor
  · exact ⟨acc, rfl, hnull⟩
  · intro other hother
    cases hother
    refine ⟨requests, h, link.email, locale, token, occurredAt, link.expiresAt, ?_, ?_, hlive,
      haddress⟩
    · rw [haccount]
      simp
    · exact fun act hact => hrequests act (List.mem_append_left _ hact)
  · intro other otherLink hother
    by_cases hat : other = h
    · rw [hat, Function.update_self] at hother
      cases hother
      exact hused
    · rw [Function.update_of_ne hat] at hother
      intro hfree
      obtain ⟨-, act, hact, locale', token', occurredAt', rfl⟩ :=
        hf.latest other otherLink hother hfree
      rw [List.getLast?_concat] at hact
      have hsame := Option.some.inj hact
      simp only [LinkAct.requested.injEq] at hsame
      exact hat hsame.2.1.symm
  · refine ⟨by simp, fun act hact => ?_⟩
    by_cases hat : act.tokenHash = h
    · rw [hat]
      simp
    · rw [Function.update_of_ne hat]
      exact hf.linked act hact

/-- The address verified with the link just spent. -/
theorem SpentFacts.verified {now : Instant} (hf : SpentFacts a (some acc) links acts h now) :
    LinkFacts a (some { acc with emailVerifiedAt := some now }) links
      (acts ++ [.verified a h now]) := by
  constructor
  · intro hnone
    cases hnone
  · intro act hact
    rcases List.mem_append.mp hact with hact | hact
    · exact hf.linked.2 act hact
    · rw [List.mem_singleton.mp hact]
      exact hf.linked.1
  · intro other link hlink hunused
    exact absurd hunused (hf.spent other link hlink)
  · intro other hother hnull
    cases hother
    cases hnull
  · intro other hother t ht
    cases hother
    cases ht
    exact hf.requested acc rfl

end Facts

end Arthome.Identity
