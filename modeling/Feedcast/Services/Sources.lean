/-
  Feedcast.Services.Sources — feed validation (`check_source` of
  `services/sources.py`).

  A check fetches the feed as it is stored, with no conditional headers, and
  writes its verdict to the row.  What escapes the `except FetchError` leaves
  the row alone and reaches the caller.
-/
import Feedcast.Core.Net
import Feedcast.Db.Models

namespace Feedcast

structure SourceCheckResult where
  ok : Bool
  statusCode : Option Nat := none
  entryCount : Option Nat := none
  error : Option Str := none
  deriving Repr, DecidableEq

/-- What `check_source` raises. -/
inductive CheckRaise where
  | sourceNotFound (sourceId : Nat)
  | uncaught (e : Exc)
  deriving Repr, DecidableEq

/-- The row after a check that found fault. -/
def Source.checkFailed (source : Source) (error : Str) (now : Time) : Source :=
  { source with lastError := some error, lastErrorAt := some now }

/-- The row after a check that found none. -/
def Source.checkPassed (source : Source) (now : Time) : Source :=
  { source with lastSuccessAt := some now, lastError := none, lastErrorAt := none }

/-- `check_source`, once the feed is fetched. -/
def checkResponse (P : Platform) (source : Source) (result : FetchResult) (now : Time) :
    Raises (Source × SourceCheckResult) := do
  let parsed ← P.feedparse result.content
  if parsed.bozo ∧ parsed.entries = [] then
    let error := "response did not parse as a feed: ".toList ++ parsed.bozoException
    return (source.checkFailed error now,
      { ok := false, statusCode := some result.statusCode, error := some error })
  else
    return (source.checkPassed now,
      { ok := true, statusCode := some result.statusCode
        entryCount := some parsed.entries.length })

/-- `check_source`. -/
def checkSource (P : Platform) (net : Internet) (settings : Settings) (db : Db) (sourceId : Nat)
    (now : Time) : Except CheckRaise (Db × SourceCheckResult) :=
  match db.getSource sourceId with
  | none => .error (.sourceNotFound sourceId)
  | some source =>
      match (fetchUrl P net settings source.feedUrl).2 with
      | .error (.fetchError e) =>
          .ok (db.putSource (source.checkFailed e.text now), { ok := false, error := some e.text })
      | .error (.uncaught e) => .error (.uncaught e)
      | .ok result =>
          match checkResponse P source result now with
          | .error e => .error (.uncaught (.other e))
          | .ok (checked, answer) => .ok (db.putSource checked, answer)

section Response

variable {P : Platform} {source : Source} {result : FetchResult} {now : Time} {parsed : Parsed}

theorem checkResponse_passed (hparse : P.feedparse result.content = .ok parsed)
    (h : ¬ (parsed.bozo ∧ parsed.entries = [])) :
    checkResponse P source result now
      = .ok (source.checkPassed now,
          { ok := true, statusCode := some result.statusCode
            entryCount := some parsed.entries.length }) := by
  unfold checkResponse
  rw [hparse]
  show (if _ then _ else _) = _
  rw [if_neg h]
  rfl

theorem checkResponse_failed (hparse : P.feedparse result.content = .ok parsed)
    (h : parsed.bozo ∧ parsed.entries = []) :
    checkResponse P source result now
      = .ok (source.checkFailed
            ("response did not parse as a feed: ".toList ++ parsed.bozoException) now,
          { ok := false, statusCode := some result.statusCode
            error := some
              ("response did not parse as a feed: ".toList ++ parsed.bozoException) }) := by
  unfold checkResponse
  rw [hparse]
  show (if _ then _ else _) = _
  rw [if_pos h]
  rfl

end Response

section Check

variable {P : Platform} {net : Internet} {settings : Settings} {db : Db} {sourceId : Nat}
  {source : Source} {now : Time}

theorem checkSource_refused (hsource : db.getSource sourceId = some source) {e : FetchError}
    (hfetch : (fetchUrl P net settings source.feedUrl).2 = .error (.fetchError e)) :
    checkSource P net settings db sourceId now
      = .ok (db.putSource (source.checkFailed e.text now),
          { ok := false, error := some e.text }) := by
  simp only [checkSource, hsource, hfetch]

theorem checkSource_escaped (hsource : db.getSource sourceId = some source) {e : Exc}
    (hfetch : (fetchUrl P net settings source.feedUrl).2 = .error (.uncaught e)) :
    checkSource P net settings db sourceId now = .error (.uncaught e) := by
  simp only [checkSource, hsource, hfetch]

theorem checkSource_fetched (hsource : db.getSource sourceId = some source)
    {result : FetchResult} (hfetch : (fetchUrl P net settings source.feedUrl).2 = .ok result)
    {checked : Source} {answer : SourceCheckResult}
    (hcheck : checkResponse P source result now = .ok (checked, answer)) :
    checkSource P net settings db sourceId now = .ok (db.putSource checked, answer) := by
  simp only [checkSource, hsource, hfetch, hcheck]

end Check

end Feedcast
