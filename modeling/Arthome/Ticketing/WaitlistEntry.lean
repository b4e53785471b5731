import Arthome.Core.SalesRules
import Arthome.Library.Checked

/-!
# An entry of a waiting list

One account's registration on one date's waiting list: no rank, one row per
account, registered again on the same row. A tier opening, the window's end and
the date's outcome move entries set-based, in `Arthome.Ticketing.Database`.
-/

namespace Arthome.Ticketing

open Arthome.Core Library

structure WaitlistEntrySnapshot where
  id : Uuid
  dateId : Uuid
  accountId : Uuid
  state : WaitlistEntryState
  joinedAt : Instant
  /-- When the account was told of the window it is in. -/
  notifiedAt : Option Instant
  endedAt : Option Instant
  version : ℕ
  deriving Repr, DecidableEq

def isOnWaitlist (state : Option WaitlistEntryState) : Bool :=
  state = some .waiting || state = some .notified

namespace WaitlistEntry

def isOnList (entry : WaitlistEntrySnapshot) : Bool := isOnWaitlist (some entry.state)

variable [SalesRules]

/-- Notified at once into a window open at `now`. -/
def join (id dateId accountId : Uuid) (priorityUntil : Option Instant) (now : Instant) :
    WaitlistEntrySnapshot :=
  let windowOpen := SalesRules.isPriorityWindowOpen priorityUntil now
  { id, dateId, accountId
    state := SalesRules.waitlistStateOnJoin windowOpen
    joinedAt := now
    notifiedAt := if windowOpen then some now else none
    endedAt := none
    version := 1 }

def moveTo (entry : WaitlistEntrySnapshot) (state : WaitlistEntryState) :
    Except Refusal WaitlistEntrySnapshot := do
  require (SalesRules.waitlistEntryMayMove entry.state state = true)
    (.error s!"waitlist entry {entry.id} cannot move")
  return { entry with state, version := entry.version + 1 }

/-- From `left`, `lapsed` or `converted`, as a new registration would be. -/
def rejoin (entry : WaitlistEntrySnapshot) (priorityUntil : Option Instant) (now : Instant) :
    Except Refusal WaitlistEntrySnapshot := do
  let windowOpen := SalesRules.isPriorityWindowOpen priorityUntil now
  let moved ← moveTo entry (SalesRules.waitlistStateOnJoin windowOpen)
  return { moved with
    joinedAt := now
    notifiedAt := if windowOpen then some now else none
    endedAt := none }

/-- Nothing moved when the entry is not on the list; a notified one gives up its window. -/
def leave (entry : WaitlistEntrySnapshot) (now : Instant) :
    Except Refusal (Option WaitlistEntrySnapshot) :=
  if isOnList entry then do
    let moved ← moveTo entry .left
    return some { moved with endedAt := some now }
  else return none

end WaitlistEntry

end Arthome.Ticketing
