import Arthome.Ticketing.OrderRuns

/-!
# One order and one answer for a key

A key is bound to one order for ever: a purchase under it commits nothing more, and
none under another fingerprint succeeds. Every success an order's attempts are
answered with is the first one its order kept.
-/

namespace Arthome.Ticketing

open Arthome.Core Library

section Placing

variable [OrderRules] [SalesRules] {db : Db}

omit [OrderRules] in
/-- A purchase placed under a key already bound changes nothing. -/
theorem placeIn_bound {origin : String} {seen : Unlocked} {command : PurchaseSeat} {now : Instant}
    {draw : PlacementDraw} {r : Db × Placement} {bound : OrderRecord}
    (h : placeIn origin db seen command now draw = .ok r)
    (hbound : db.findBound command.idempotency.accountId command.idempotency.key = some bound) :
    r.1 = db ∧ ∃ found, seen.keys.findBound command.idempotency.accountId
      command.idempotency.key = some found ∧
        found.binding.fingerprint = command.idempotency.fingerprint := by
  obtain ⟨body, buyer, idempotency, acknowledged⟩ := command
  unfold placeIn at h
  simp only at h
  split at h
  · rename_i found hfound
    simp only [bind_ok_iff, refusing_ok_iff, require_ok_iff, pure_ok_iff] at h
    obtain ⟨-, hfingerprint, rfl⟩ := h
    exact ⟨rfl, found, hfound, hfingerprint⟩
  · simp only [bind_ok_iff, refusing_ok_iff, orRefuse_ok_iff] at h
    obtain ⟨sales, -, -, -, h⟩ := h
    split at h
    · cases h
    · simp only [bind_ok_iff, refusing_ok_iff, orRefuse_ok_iff, require_ok_iff, pure_ok_iff] at h
      obtain ⟨quoted, -, quote, -, -, -, hold, hplace, -, -, db₁, ⟨placed, horder, hplaced⟩, -⟩ := h
      subst hplaced
      unfold Db.placeOrder at horder
      simp only [bind_ok_iff] at horder
      obtain ⟨-, -, horder⟩ := horder
      simp only at hbound
      rw [hbound, Option.isSome_some, Bool.true_or, if_pos rfl] at horder
      cases pure_ok_iff.mp horder

end Placing

/-- The order and the success a transaction answers its attempt with. -/
def Transaction.answer [OrderRules] [SalesRules] (publicWebOrigin : String) (w : World) :
    Transaction → Option (Uuid × StoredAnswer)
  | .resume orderId lateEntryAcknowledged reads now servedAt holdId =>
      match resumeIn publicWebOrigin w.db (w.seen reads) orderId lateEntryAcknowledged now servedAt
        holdId with
      | .ok (_, .answered answer _) => some (orderId, answer)
      | _ => none
  | .failSoldOut orderId staleHoldId reads now servedAt =>
      if w.soldOut.contains (orderId, staleHoldId) then
        match failSoldOutIn publicWebOrigin w.db (w.seen reads) orderId staleHoldId now servedAt with
        | .ok (_, .answered answer _) => some (orderId, answer)
        | _ => none
      else none
  | .recordIntent orderId intent reads now servedAt draw =>
      match recordIntentIn publicWebOrigin w.db (w.seen reads) orderId intent now servedAt draw with
      | .ok (_, .answered answer _) => some (orderId, answer)
      | _ => none
  | _ => none

section Runs

variable [OrderRules] [LawfulOrderRules] [SalesRules] [LawfulSalesRules] {publicWebOrigin : String}
  {w : World}

/-- Every order of an earlier state is found in the committed one, moved onward. -/
def World.Remembers (w : World) : Prop :=
  ∀ old ∈ w.past, ∀ orderId record, old.orders.find? orderId = some record →
    ∃ record', w.db.orders.find? orderId = some record' ∧ Onward record record'

omit [OrderRules] [SalesRules] [LawfulOrderRules] [LawfulSalesRules] in
theorem World.before_cases (w : World) (commits : ℕ) :
    w.before commits = w.db ∨ w.before commits ∈ w.past := by
  unfold World.before
  rw [List.getD_eq_getElem?_getD]
  cases hget : (w.db :: w.past)[commits]? with
  | none => exact .inl rfl
  | some old => exact List.mem_cons.mp (List.mem_of_getElem? hget)

omit [OrderRules] [SalesRules] [LawfulOrderRules] [LawfulSalesRules] in
/-- An order read in any state committed before is the committed one's, moved onward. -/
theorem World.Remembers.read (h : w.Remembers) {commits : ℕ} {orderId : Uuid} {record : OrderRecord}
    (hrecord : (w.before commits).orders.find? orderId = some record) :
    ∃ record', w.db.orders.find? orderId = some record' ∧ Onward record record' := by
  rcases w.before_cases commits with hnow | hpast
  · rw [hnow] at hrecord
    exact ⟨record, hrecord, .refl record⟩
  · exact h _ hpast orderId record hrecord

theorem World.Remembers.advance (h : w.Remembers) (hs : w.Sound) (hone : w.db.OneOfEach)
    (transaction : Transaction) : (w.advance publicWebOrigin transaction).Remembers := by
  intro old hold orderId record hrecord
  have honward : ∀ {found : OrderRecord}, w.db.orders.find? orderId = some found →
      ∃ record', (w.advance publicWebOrigin transaction).db.orders.find? orderId = some record' ∧
        Onward found record' := fun hfound => hs.onward hone [transaction] hfound
  have hpast : old = w.db ∨ old ∈ w.past := by
    unfold World.advance at hold
    split at hold
    · exact List.mem_cons.mp hold
    · exact .inr hold
    · exact .inr hold
  rcases hpast with rfl | hpast
  · exact honward hrecord
  · obtain ⟨found, hfound, hfirst⟩ := h old hpast orderId record hrecord
    obtain ⟨record', hrecord', hthen⟩ := honward hfound
    exact ⟨record', hrecord', hfirst.trans hthen⟩

variable (publicWebOrigin)

theorem World.remembers_reached (transactions : List Transaction) :
    (World.reached publicWebOrigin transactions).Remembers := by
  induction transactions using List.reverseRecOn with
  | nil => exact fun old hold => by cases hold
  | append_singleton transactions transaction ih =>
      rw [World.reached_append]
      exact ih.advance (World.sound_reached publicWebOrigin transactions)
        (World.oneOfEach_reached publicWebOrigin transactions) transaction

omit [OrderRules] [SalesRules] [LawfulOrderRules] [LawfulSalesRules] in
theorem mem_of_findBound {db : Db} {accountId : Option Uuid} {key : Uuid} {bound : OrderRecord}
    (h : db.findBound accountId key = some bound) : bound ∈ db.orders.rows ∧
      bound.binding.accountId = accountId ∧ bound.binding.key = key := by
  have hfound := List.find?_some h
  simp only [Bool.and_eq_true, decide_eq_true_eq] at hfound
  exact ⟨List.mem_of_find?_eq_some h, hfound⟩

omit [OrderRules] [SalesRules] [LawfulOrderRules] [LawfulSalesRules] in
theorem findBound_of_mem {db : Db} {bound : OrderRecord} (h : bound ∈ db.orders.rows) :
    ∃ found, db.findBound bound.binding.accountId bound.binding.key = some found := by
  cases hfound : db.findBound bound.binding.accountId bound.binding.key with
  | some found => exact ⟨found, rfl⟩
  | none => exact absurd rfl (findBound_none hfound h rfl)

/-- A key an order was placed under is that order's alone in every later state; a purchase under it
changes nothing, and succeeds under the order's own fingerprint alone. -/
theorem keys_bind_one_order (earlier later : List Transaction) (record : OrderRecord)
    (hrecord : record ∈ (World.reached publicWebOrigin earlier).db.orders.rows) :
    (∀ other ∈ (World.reached publicWebOrigin (earlier ++ later)).db.orders.rows,
      other.binding.accountId = record.binding.accountId →
      other.binding.key = record.binding.key → Onward record other) ∧
    ∀ (command : PurchaseSeat) (reads : Reads) (now : Instant) (draw : PlacementDraw) (committed : Db),
      command.idempotency.accountId = record.binding.accountId →
      command.idempotency.key = record.binding.key →
      Transaction.perform publicWebOrigin (World.reached publicWebOrigin (earlier ++ later))
        (.place command reads now draw) = .ok committed →
      committed = (World.reached publicWebOrigin (earlier ++ later)).db ∧
        command.idempotency.fingerprint = record.binding.fingerprint := by
  have hs := World.sound_reached publicWebOrigin earlier
  have hone := World.oneOfEach_reached publicWebOrigin earlier
  obtain ⟨record', hfind', honward⟩ := hs.onward hone later (Table.find?_of_mem hrecord)
  rw [← World.reached_append] at hfind'
  have hmem' := Table.mem_of_find? hfind'
  have hkeys := (World.oneOfEach_reached publicWebOrigin (earlier ++ later)).keys
  have hbinding : record'.binding = record.binding := honward.same.binding
  refine ⟨fun other hother haccount hkey => ?_, fun command reads now draw committed haccount hkey h => ?_⟩
  · have hid : other.id = record'.id := hkeys other hother record' hmem'
      (haccount.trans (congrArg (fun b => b.accountId) hbinding.symm))
      (hkey.trans (congrArg (fun b => b.key) hbinding.symm))
    exact Table.eq_of_mem hother hmem' hid ▸ honward
  · obtain ⟨bound, hbound⟩ := findBound_of_mem hmem'
    rw [hbinding, ← haccount, ← hkey] at hbound
    obtain ⟨placement, hplace⟩ := map_fst_ok h
    obtain ⟨hsame, found, hfound, hfingerprint⟩ := placeIn_bound hplace hbound
    obtain ⟨hmem, hfoundAccount, hfoundKey⟩ := mem_of_findBound hfound
    obtain ⟨found', hfind, hfoundOnward⟩ :=
      (World.remembers_reached publicWebOrigin (earlier ++ later)).read (Table.find?_of_mem hmem)
    have hfoundBinding := hfoundOnward.same.binding
    have hid : found'.id = record'.id := by
      refine hkeys found' (Table.mem_of_find? hfind) record' hmem' ?_ ?_
      · rw [hfoundBinding, hbinding, hfoundAccount, haccount]
      · rw [hfoundBinding, hbinding, hfoundKey, hkey]
    have heq : found' = record' := Table.eq_of_mem (Table.mem_of_find? hfind) hmem' hid
    refine ⟨hsame, ?_⟩
    rw [← hfingerprint, ← hfoundBinding, heq, hbinding]

omit [OrderRules] [SalesRules] [LawfulOrderRules] [LawfulSalesRules] in
theorem storedAnswerOf_of_find {db : Db} {orderId : Uuid} {answer : StoredAnswer}
    (h : ∃ record, db.orders.find? orderId = some record ∧ record.answer = some answer) :
    db.storedAnswerOf orderId = some answer :=
  Option.bind_eq_some_iff.mpr h

variable {publicWebOrigin}

omit [LawfulOrderRules] in
/-- The answer a transaction gives is the one its order keeps. -/
theorem Transaction.answer_kept {transaction : Transaction} {orderId : Uuid} {answer : StoredAnswer}
    (hs : w.Sound) (hremembers : w.Remembers)
    (h : transaction.answer publicWebOrigin w = some (orderId, answer)) :
    (w.advance publicWebOrigin transaction).db.storedAnswerOf orderId = some answer := by
  unfold Transaction.answer at h
  split at h
  · rename_i resumedId acknowledged reads now servedAt holdId
    split at h
    · rename_i after given replayed hresume
      cases h
      have hperform : Transaction.perform publicWebOrigin w
          (.resume orderId acknowledged reads now servedAt holdId) = .ok after := by
        show (resumeIn publicWebOrigin w.db (w.seen reads) orderId acknowledged now servedAt
          holdId).map Prod.fst = .ok after
        rw [hresume]
        rfl
      rw [World.advance_ok hperform]
      rcases (resumeIn_ok hresume).2 with ⟨stored, hstored, hsame⟩ | hof
      · cases hsame
        obtain ⟨record, hrecord, hanswer⟩ := storedAnswerOf_some hstored
        obtain ⟨record', hrecord', honward⟩ := hremembers.read hrecord
        exact storedAnswerOf_of_find ⟨record', hrecord', honward.answer _ hanswer⟩
      · exact hof
    · cases h
  · rename_i failedId staleHoldId reads now servedAt
    split_ifs at h with hnamed
    have hnoted : (failedId, staleHoldId) ∈ w.soldOut := List.contains_iff_mem.mp hnamed
    split at h
    · rename_i after given replayed hfail
      cases h
      have hperform : Transaction.perform publicWebOrigin w
          (.failSoldOut orderId staleHoldId reads now servedAt) = .ok after := by
        simp only [Transaction.perform, hfail, require, if_pos hnoted]
        rfl
      rw [World.advance_ok hperform]
      exact (failSoldOutIn_ok (hs.holdsLeft _ hnoted) hfail).2.1
    · cases h
  · rename_i recordedId intent reads now servedAt draw
    split at h
    · rename_i after given replayed hrecord
      cases h
      have hperform : Transaction.perform publicWebOrigin w
          (.recordIntent orderId intent reads now servedAt draw) = .ok after := by
        simp only [Transaction.perform, hrecord]
        rfl
      rw [World.advance_ok hperform]
      exact (recordIntentIn_moved hs.consistent hrecord).2.1
    · cases h
  · cases h

/-- Whatever transactions come between, two attempts of one order answered with success are given
the same answer. -/
theorem answers_agree (publicWebOrigin : String) (earlier middle : List Transaction)
    (first second : Transaction) (orderId : Uuid) (answer again : StoredAnswer)
    (hfirst : first.answer publicWebOrigin (World.reached publicWebOrigin earlier) =
      some (orderId, answer))
    (hsecond : second.answer publicWebOrigin
      (World.reached publicWebOrigin (earlier ++ first :: middle)) = some (orderId, again)) :
    again = answer := by
  have hkept := Transaction.answer_kept (World.sound_reached publicWebOrigin earlier)
    (World.remembers_reached publicWebOrigin earlier) hfirst
  have hlast := Transaction.answer_kept (World.sound_reached publicWebOrigin _)
    (World.remembers_reached publicWebOrigin _) hsecond
  have hafter : (World.reached publicWebOrigin earlier).advance publicWebOrigin first =
      World.reached publicWebOrigin (earlier ++ [first]) := by
    rw [World.reached_append]
    rfl
  rw [hafter] at hkept
  obtain ⟨record, hrecord, hanswer⟩ := storedAnswerOf_some hkept
  obtain ⟨record', hrecord', honward⟩ := (World.sound_reached publicWebOrigin (earlier ++ [first])).onward
    (World.oneOfEach_reached publicWebOrigin (earlier ++ [first])) (middle ++ [second]) hrecord
  rw [← World.reached_append] at hrecord'
  have hrun : World.reached publicWebOrigin ((earlier ++ [first]) ++ (middle ++ [second])) =
      (World.reached publicWebOrigin (earlier ++ first :: middle)).advance publicWebOrigin second := by
    simp only [World.reached, List.foldl_append, List.foldl_cons, List.foldl_nil]
  rw [hrun] at hrecord'
  have hstored := storedAnswerOf_of_find ⟨record', hrecord', honward.answer _ hanswer⟩
  exact Option.some.inj (hlast.symm.trans hstored)

end Runs

section Sample

open Sample

/-- The purchase made again under its key, once its order was paid. -/
theorem keys_bind_one_order_sample : ∃ record committed,
    (World.reached "https://arthome.example" samplePlaced).db.orders.find? 51 = some record ∧
      Transaction.perform "https://arthome.example" (World.reached "https://arthome.example"
        (samplePlaced ++ [sampleSucceeded])) (.place samplePurchase .latest 300
          ⟨53, 43, "ORDER-53", false⟩) = .ok committed ∧
      committed = (World.reached "https://arthome.example" (samplePlaced ++ [sampleSucceeded])).db := by
  have hplaced : ((World.reached "https://arthome.example" samplePlaced).db.orders.find? 51).map
      (fun record => (record.binding.accountId, record.binding.key)) = some (some 11, 61) := by
    decide +kernel
  have hagain : (Transaction.perform "https://arthome.example" (World.reached "https://arthome.example"
      (samplePlaced ++ [sampleSucceeded])) (.place samplePurchase .latest 300
        ⟨53, 43, "ORDER-53", false⟩)).toOption.isSome = true := by
    decide +kernel
  obtain ⟨record, hrecord, hkey⟩ := Option.map_eq_some_iff.mp hplaced
  obtain ⟨haccount, hkey⟩ := Prod.mk.inj hkey
  obtain ⟨committed, hcommitted⟩ := Option.isSome_iff_exists.mp hagain
  have hperform := toOption_eq_some_iff.mp hcommitted
  have hsame := ((keys_bind_one_order "https://arthome.example" samplePlaced [sampleSucceeded] record
    (Table.mem_of_find? hrecord)).2 samplePurchase .latest 300 ⟨53, 43, "ORDER-53", false⟩ committed
    haccount.symm hkey.symm hperform).1
  exact ⟨record, committed, hrecord, hperform, hsame⟩

/-- Two attempts resumed once the order is paid. -/
theorem answers_agree_sample : ∃ answer,
    Transaction.answer "https://arthome.example" (World.reached "https://arthome.example"
      (samplePlaced ++ [sampleSucceeded])) (.resume 51 false .latest 300 301 44) = some (51, answer) ∧
    Transaction.answer "https://arthome.example" (World.reached "https://arthome.example"
      ((samplePlaced ++ [sampleSucceeded]) ++ .resume 51 false .latest 300 301 44 :: []))
        (.resume 51 false .latest 400 401 45) = some (51, answer) := by
  have hfirst : ((Transaction.answer "https://arthome.example" (World.reached
      "https://arthome.example" (samplePlaced ++ [sampleSucceeded]))
        (.resume 51 false .latest 300 301 44)).map Prod.fst) = some 51 := by decide +kernel
  have hsecond : ((Transaction.answer "https://arthome.example" (World.reached
      "https://arthome.example" ((samplePlaced ++ [sampleSucceeded]) ++
        .resume 51 false .latest 300 301 44 :: []))
          (.resume 51 false .latest 400 401 45)).map Prod.fst) = some 51 := by decide +kernel
  obtain ⟨⟨orderId, answer⟩, hanswer, horder⟩ := Option.map_eq_some_iff.mp hfirst
  obtain ⟨⟨orderId', again⟩, hagain, horder'⟩ := Option.map_eq_some_iff.mp hsecond
  obtain rfl : orderId = 51 := horder
  obtain rfl : orderId' = 51 := horder'
  have hsame := answers_agree "https://arthome.example" (samplePlaced ++ [sampleSucceeded]) []
    (.resume 51 false .latest 300 301 44) (.resume 51 false .latest 400 401 45) 51 answer again
    hanswer hagain
  exact ⟨answer, hanswer, hsame ▸ hagain⟩

end Sample

end Arthome.Ticketing
