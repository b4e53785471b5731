import Arthome.Streaming.Run

/-!
# The provider's reports of a feed

Presence moves by conditional statements that leave the run's version alone, a
report being late at times: an onset older than the recorded loss is refused, a
loss ends only the onset it names. Each report is one transaction on the run's
row; a refusal rolls it back. Only lifting the hold screen when the feed returns
is a change of state.
-/

namespace Arthome.Streaming

open Arthome.Core Library

/-- The monitor path served is the true one: WHEP only on a WHIP ingest that offers it. -/
def monitorPathOf (protocol : IngestProtocol) (monitorPaths : List MonitorPath) : MonitorPath :=
  if protocol = .whip ∧ .whep ∈ monitorPaths then .whep else .llHls

namespace Run

/-- The row an onset is recorded on: not ended, its recorded loss not after the onset. -/
def AcceptsOnset (s : RunSnapshot) (onset : Instant) : Prop :=
  s.state ≠ .ended ∧ ∀ lostAt ∈ s.publisherLostAt, lostAt ≤ onset

instance (s : RunSnapshot) (onset : Instant) : Decidable (AcceptsOnset s onset) :=
  inferInstanceAs (Decidable (_ ∧ _))

/-- The row once the onset is recorded. -/
def recordOnset (run : Run) (protocol : IngestProtocol) (monitorPath : MonitorPath)
    (onset : Instant) : Run :=
  { run with
    current :=
      { run.current with
        publisherOnlineSince := some onset
        ingestProtocol := protocol
        monitorPath
        afterGracePeriod := false } }

/-- False for an onset already reported, reported late, or on no live run. -/
def publisherOnline [RunRules] (run : Run) (monitorPaths : List MonitorPath)
    (protocol : IngestProtocol) (onset : Instant) : Reply Run RunRefusal Bool :=
  if run.current.publisherOnlineSince = some onset then .answer run false
  else if AcceptsOnset run.current onset then
    let back := run.recordOnset protocol (monitorPathOf protocol monitorPaths) onset
    let lifted := back.restored.publisherBack run.current.afterGracePeriod onset
    match lifted.result with
    | .error e => .refuse run e
    | .ok _ => .answer lifted.state true
  else .answer run false

/-- False for a loss of no onset it names: already ended, or a later one. -/
def publisherOffline (run : Run) (onlineSince lostAt : Instant) : Reply Run RunRefusal Bool :=
  if run.current.publisherOnlineSince = some onlineSince then
    .answer
      { run with
        current :=
          { run.current with publisherOnlineSince := none, publisherLostAt := some lostAt } } true
  else .answer run false

/-- A worker the provider stopped restarting; `incidentId` is drawn by the transaction. -/
def workerFailed [RunRules] (run : Run) (final : Bool) (incidentId : Uuid) (failedAt : Instant) :
    Reply Run RunRefusal Bool :=
  if !final then .answer run false
  else
    let raised := run.restored.raiseWorkerFailure incidentId failedAt
    match raised.result with
    | .error e => .refuse run e
    | .ok false => .answer run false
    | .ok true => .answer raised.state true

end Run

end Arthome.Streaming
