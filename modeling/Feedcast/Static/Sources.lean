/-
  Feedcast.Static.Sources — the health of a feed, as the pages show it
  (`static/js/sources.js`, and `isHealthy` of `static/js/api.js`).

  The label of a row and the count in the header of its city are read off one
  function, `healthState`; how either looks is left out.
-/
import Feedcast.Db.Models
import Feedcast.Static.Selection

namespace Feedcast

/-- `isHealthy`.  An empty error is none to JavaScript. -/
def isHealthy (source : Source) : Bool :=
  source.enabled && source.archivedAt.isNone && (truthy source.lastError).isNone
    && source.consecutiveFailures == 0

inductive HealthState where
  | archived
  | paused
  | failing
  | unchecked
  | ok
  | stale
  deriving Repr, DecidableEq

/-- `healthState`.  "unchecked" is tested before `isHealthy`: a source nobody has
fetched has no error either. -/
def healthState (source : Source) : HealthState :=
  if source.archivedAt.isSome then .archived
  else if !source.enabled then .paused
  else if 0 < source.consecutiveFailures then .failing
  else if source.lastFetchedAt.isNone then .unchecked
  else if isHealthy source then .ok
  else .stale

/-- `stamps` of `lastCheckedAt`, in milliseconds. -/
def checkStamps (source : Source) : List Int :=
  ([source.lastFetchedAt, source.lastSuccessAt, source.lastErrorAt].filterMap id).map dateParse

/-- `lastCheckedAt`. -/
def lastCheckedAt (source : Source) : Option Int := (checkStamps source).max?

end Feedcast
