import Mathlib

/-!
# Parts of a state that settle

Facts are fed to a state one after the other, in any order and some of them more
than once. A part of the state settles on one value when every fact leaves the part
alone or writes what the fact states there, the fact stating that value writes it
over whatever the others wrote, and none of the others writes over it. What the part
ends on is then decided by which facts were fed, never by how.

A part guarded against older statements settles on the statement that beats all
others; a part written with one value only settles on that value.
-/

namespace Arthome.Library

variable {σ φ γ : Type}

/-- The facts fed one after the other, each from the state the ones before it left. -/
inductive Feeds (move : σ → φ → σ → Prop) : σ → List φ → σ → Prop
  | nil (s : σ) : Feeds move s [] s
  | cons {s t u : σ} {fact : φ} {facts : List φ} :
      move s fact t → Feeds move t facts u → Feeds move s (fact :: facts) u

/-- The part holds nothing yet, or what one of the facts that may come states there. -/
def StatedOr (blank : γ) (states : φ → Option γ) (may : φ → Prop) (part : γ) : Prop :=
  part = blank ∨ ∃ fact, may fact ∧ states fact = some part

/-- The part ends on `best`, whatever order the facts that may come are fed in. -/
structure Settles (move : σ → φ → σ → Prop) (inv : σ → Prop) (part : σ → γ) (blank : γ)
    (states : φ → Option γ) (may : φ → Prop) (best : γ) : Prop where
  chooses : ∀ {s fact t}, inv s → StatedOr blank states may (part s) → may fact → move s fact t →
    part t = part s ∨ states fact = some (part t)
  takes : ∀ {s fact t}, inv s → StatedOr blank states may (part s) → may fact → move s fact t →
    states fact = some best → part t = best
  keeps : ∀ {s fact t}, inv s → may fact → move s fact t → part s = best → part t = best

section Settles

variable {move : σ → φ → σ → Prop} {inv : σ → Prop} {part : σ → γ} {blank : γ}
  {states : φ → Option γ} {may : φ → Prop} {best : γ} {s s' t t' : σ} {facts facts' : List φ}

variable (inv) in
theorem Feeds.invariant (h : Feeds move s facts t) (hs : inv s) (hmay : ∀ fact ∈ facts, may fact)
    (hmove : ∀ {v fact w}, inv v → may fact → move v fact w → inv w) : inv t := by
  induction h with
  | nil s => exact hs
  | cons hfirst _ ih =>
      rw [List.forall_mem_cons] at hmay
      apply ih
      · exact hmove hs hmay.1 hfirst
      · exact hmay.2

namespace Settles

theorem statedOr_move (h : Settles move inv part blank states may best) {fact : φ} (hs : inv s)
    (hpart : StatedOr blank states may (part s)) (hmay : may fact) (hmove : move s fact t) :
    StatedOr blank states may (part t) := by
  rcases h.chooses hs hpart hmay hmove with hsame | hwritten
  · rw [hsame]
    exact hpart
  · exact .inr ⟨fact, hmay, hwritten⟩

theorem kept (h : Settles move inv part blank states may best)
    (hinv : ∀ {v fact w}, inv v → may fact → move v fact w → inv w)
    (hfeeds : Feeds move s facts t) (hmay : ∀ fact ∈ facts, may fact) (hs : inv s)
    (hbest : part s = best) : part t = best := by
  induction hfeeds with
  | nil s => exact hbest
  | cons hfirst _ ih =>
      rw [List.forall_mem_cons] at hmay
      apply ih
      · exact hmay.2
      · exact hinv hs hmay.1 hfirst
      · exact h.keeps hs hmay.1 hfirst hbest

/-- Once the fact that states `best` is fed, the part holds it to the end. -/
theorem settled (h : Settles move inv part blank states may best)
    (hinv : ∀ {v fact w}, inv v → may fact → move v fact w → inv w)
    (hfeeds : Feeds move s facts t) (hmay : ∀ fact ∈ facts, may fact) (hs : inv s)
    (hpart : StatedOr blank states may (part s))
    (hmem : ∃ fact ∈ facts, states fact = some best) : part t = best := by
  induction hfeeds with
  | nil s =>
      obtain ⟨fact, hfact, -⟩ := hmem
      cases hfact
  | @cons s v t fact facts hfirst hrest ih =>
      rw [List.forall_mem_cons] at hmay
      have hv : inv v := hinv hs hmay.1 hfirst
      obtain ⟨chosen, hchosen, hstates⟩ := hmem
      rcases List.mem_cons.mp hchosen with rfl | hlater
      · apply h.kept hinv hrest hmay.2 hv
        exact h.takes hs hpart hmay.1 hfirst hstates
      · apply ih hmay.2 hv
        · exact h.statedOr_move hs hpart hmay.1 hfirst
        · exact ⟨chosen, hlater, hstates⟩

end Settles

variable (inv states) in
/-- Two feedings that leave out no fact stating the part leave the same there, if the part
settles as soon as one fact states it and is left alone by the facts that do not. -/
theorem part_eq_of_feeds
    (hinv : ∀ {v fact w}, inv v → may fact → move v fact w → inv w)
    (hsettles : (∃ fact, may fact ∧ (states fact).isSome) →
      ∃ best, (∃ fact, may fact ∧ states fact = some best) ∧
        Settles move inv part blank states may best)
    (halone : ∀ {v fact w}, inv v → may fact → move v fact w → states fact = none →
      part w = part v)
    (hs : inv s) (hs' : inv s') (hpart : part s = blank) (hpart' : part s' = blank)
    (hfeeds : Feeds move s facts t) (hfeeds' : Feeds move s' facts' t')
    (hmay : ∀ fact ∈ facts, may fact) (hmay' : ∀ fact ∈ facts', may fact)
    (hall : ∀ fact, may fact → (states fact).isSome → fact ∈ facts ∧ fact ∈ facts') :
    part t = part t' := by
  by_cases hsome : ∃ fact, may fact ∧ (states fact).isSome
  · obtain ⟨best, ⟨fact, hfact, hstates⟩, hbest⟩ := hsettles hsome
    obtain ⟨hmem, hmem'⟩ := hall fact hfact (by rw [hstates]; rfl)
    rw [hbest.settled hinv hfeeds hmay hs (.inl hpart) ⟨fact, hmem, hstates⟩,
      hbest.settled hinv hfeeds' hmay' hs' (.inl hpart') ⟨fact, hmem', hstates⟩]
  · have hblank : ∀ {v w : σ} {fed : List φ}, inv v → part v = blank → Feeds move v fed w →
        (∀ fact ∈ fed, may fact) → part w = blank := by
      intro v w fed hv hblank hfed hfedMay
      apply (hfed.invariant (fun v => inv v ∧ part v = blank) ⟨hv, hblank⟩ hfedMay _).2
      rintro v fact w ⟨hv, hv'⟩ hfact hmove
      have hnone : states fact = none := by
        rw [← Option.not_isSome_iff_eq_none]
        exact fun h => hsome ⟨fact, hfact, h⟩
      exact ⟨hinv hv hfact hmove, (halone hv hfact hmove hnone).trans hv'⟩
    rw [hblank hs hpart hfeeds hmay, hblank hs' hpart' hfeeds' hmay']

end Settles

section Guarded

variable {move : σ → φ → σ → Prop} {inv : σ → Prop} {part : σ → γ} {blank : γ}
  {states : φ → Option γ} {may : φ → Prop} {takes : γ → γ → Bool}

/-- A part as a guarded write leaves it: the new value where the guard takes it over the old. -/
def feed (takes : γ → γ → Bool) (kept : γ) : Option γ → γ
  | some stated => if takes kept stated then stated else kept
  | none => kept

/-- The guard takes `best` over whatever else is stated and over nothing, never the reverse. -/
structure Beats (takes : γ → γ → Bool) (blank : γ) (states : φ → Option γ) (may : φ → Prop)
    (best : γ) : Prop where
  stated : ∃ fact, may fact ∧ states fact = some best
  first : takes blank best = true
  others : ∀ {fact other}, may fact → states fact = some other → other ≠ best →
    takes other best = true ∧ takes best other = false

theorem Beats.settles {best : γ} (h : Beats takes blank states may best)
    (hfeed : ∀ {s fact t}, inv s → may fact → move s fact t →
      part t = feed takes (part s) (states fact)) :
    Settles move inv part blank states may best where
  chooses := by
    intro s fact t hs _ hmay hmove
    rw [hfeed hs hmay hmove]
    cases hstates : states fact with
    | none => exact .inl rfl
    | some stated =>
        unfold feed
        dsimp only
        split_ifs
        · exact .inr rfl
        · exact .inl rfl
  takes := by
    intro s fact t hs hpart hmay hmove hstates
    rw [hfeed hs hmay hmove, hstates]
    unfold feed
    dsimp only
    split_ifs with htakes
    · rfl
    · rcases hpart with hblank | ⟨other, hother, hkept⟩
      · rw [hblank] at htakes
        exact absurd h.first htakes
      · by_contra hne
        exact htakes (h.others hother hkept hne).1
  keeps := by
    intro s fact t hs hmay hmove hbest
    rw [hfeed hs hmay hmove, hbest]
    cases hstates : states fact with
    | none => rfl
    | some other =>
        unfold feed
        dsimp only
        split_ifs with htakes
        · by_contra hne
          rw [(h.others hmay hstates hne).2] at htakes
          cases htakes
        · rfl

/-- Values under distinct ranks, the higher taken over the lower: the highest beats the rest. -/
theorem exists_beats {τ : Type} [LinearOrder τ] {facts : List φ} (rank : γ → τ)
    (hfacts : ∀ fact, may fact → (states fact).isSome → fact ∈ facts)
    (hsome : ∃ fact, may fact ∧ (states fact).isSome)
    (hdistinct : ∀ {fact fact' v w}, may fact → may fact' → states fact = some v →
      states fact' = some w → rank v = rank w → v = w)
    (hfirst : ∀ {fact v}, may fact → states fact = some v → takes blank v = true)
    (htakes : ∀ {fact fact' v w}, may fact → may fact' → states fact = some v →
      states fact' = some w → rank v < rank w → takes v w = true ∧ takes w v = false) :
    ∃ best, Beats takes blank states may best := by
  classical
  obtain ⟨fact, hfact, hstates⟩ := hsome
  obtain ⟨v, hv⟩ := Option.isSome_iff_exists.mp hstates
  have hmem : v ∈ (facts.filter fun fact => may fact).filterMap states := by
    rw [List.mem_filterMap]
    refine ⟨fact, List.mem_filter.mpr ⟨hfacts fact hfact hstates, ?_⟩, hv⟩
    exact decide_eq_true hfact
  cases hbest : List.argmax rank ((facts.filter fun fact => may fact).filterMap states) with
  | none =>
      rw [List.argmax_eq_none] at hbest
      rw [hbest] at hmem
      cases hmem
  | some best =>
      have hstated := List.argmax_mem hbest
      rw [List.mem_filterMap] at hstated
      obtain ⟨chosen, hchosen, hbestStates⟩ := hstated
      have hchosenMay : may chosen := of_decide_eq_true (List.mem_filter.mp hchosen).2
      refine ⟨best, ⟨chosen, hchosenMay, hbestStates⟩, hfirst hchosenMay hbestStates, ?_⟩
      intro other w hother hw hne
      have hotherMem : w ∈ (facts.filter fun fact => may fact).filterMap states := by
        rw [List.mem_filterMap]
        refine ⟨other, List.mem_filter.mpr ⟨hfacts other hother ?_, decide_eq_true hother⟩, hw⟩
        rw [hw]
        rfl
      have hle : rank w ≤ rank best := List.le_of_mem_argmax hotherMem hbest
      have hlt : rank w < rank best := by
        apply lt_of_le_of_ne hle
        exact fun h => hne (hdistinct hother hchosenMay hw hbestStates h)
      exact htakes hother hchosenMay hw hbestStates hlt

/-- A part every fact states alike settles once it is written. -/
theorem Settles.of_constant {value : γ}
    (hvalue : ∀ {fact stated}, may fact → states fact = some stated → stated = value)
    (hchooses : ∀ {s fact t}, inv s → may fact → move s fact t →
      part t = part s ∨ states fact = some (part t))
    (hfirst : ∀ {s fact t}, inv s → may fact → move s fact t → states fact = some value →
      part s = blank → part t = value) :
    Settles move inv part blank states may value where
  chooses := fun hs _ hmay hmove => hchooses hs hmay hmove
  takes := by
    intro s fact t hs hpart hmay hmove hstates
    rcases hpart with hblank | ⟨other, hother, hkept⟩
    · exact hfirst hs hmay hmove hstates hblank
    · rcases hchooses hs hmay hmove with hsame | hwritten
      · rw [hsame]
        exact hvalue hother hkept
      · exact hvalue hmay hwritten
  keeps := by
    intro s fact t hs hmay hmove hkept
    rcases hchooses hs hmay hmove with hsame | hwritten
    · rw [hsame, hkept]
    · exact hvalue hmay hwritten

end Guarded

end Arthome.Library
