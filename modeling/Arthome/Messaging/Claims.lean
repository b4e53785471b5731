import Arthome.Core.Vocabulary

/-!
# Messages applied once

Every consumer keeps the ids of the messages whose effect committed. The claim of a
message is made inside the transaction that applies it, so a message that was refused
leaves no claim behind, and one claimed before is not applied again.
-/

namespace Arthome.Messaging

open Arthome.Core

/-- What a message's handling came to. -/
inductive Outcome where
  | applied
  | duplicate
  | ignored
  | superseded
  deriving Repr, DecidableEq

/-- The ledger with the message in it, the first time its id is seen. -/
def claimMessage (processed : List Uuid) (messageId : Uuid) : Option (List Uuid) :=
  if messageId ∈ processed then none else some (messageId :: processed)

theorem claimMessage_eq_some {processed claimed : List Uuid} {messageId : Uuid} :
    claimMessage processed messageId = some claimed ↔
      messageId ∉ processed ∧ claimed = messageId :: processed := by
  unfold claimMessage
  split_ifs with h
  · simp [h]
  · simp [h, eq_comm]

theorem claimMessage_eq_none {processed : List Uuid} {messageId : Uuid} :
    claimMessage processed messageId = none ↔ messageId ∈ processed := by
  unfold claimMessage
  split_ifs with h
  · simp [h]
  · simp [h]

end Arthome.Messaging
