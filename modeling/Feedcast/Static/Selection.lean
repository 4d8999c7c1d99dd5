/-
  Feedcast.Static.Selection — the stories the editor has picked
  (`static/js/selection.js`).

  A `Map` of snapshots, in the order they were clicked; `ordered` hands them out
  in the order the carousel is meant to use.

  Left out: `sessionStorage`, which `persist()` writes and `hydrate()` reads once,
  at module load (up to `MAX_SELECTED` of its items, each through `snapshot`), so
  the selection here begins empty and a reload is no step of it; the listeners.
-/
import Feedcast.Static.Slides
import Feedcast.Services.Stories

namespace Feedcast

open Feedcast.Lib

/-! ## §1. Snapshots. -/

/-- `TITLE_CAP`. -/
def titleCap : Nat := 180

/-- `MAX_SELECTED`. -/
def maxSelected : Nat := 8

structure Snapshot where
  id : Str
  title : JsStr
  sourceName : Str
  publishedAt : Time
  score : ℚ
  deriving Repr, DecidableEq

/-- `snapshot`, of a story the server has served: neither date nor score is
missing. -/
def snapshot (story : StoryRead) : Snapshot where
  id := story.id
  title := (Utf16.encode story.title).take titleCap
  sourceName := story.sourceName
  publishedAt := story.publishedAt
  score := story.score

/-- `Date.parse` of an instant as the server prints it, in milliseconds; the
further digits of the fraction are dropped. -/
def dateParse (instant : Time) : Int := instant / 1000

/-! ## §2. The order. -/

/-- The comparator of `ordered`: the first difference that is not zero. -/
def compareSnapshots (a b : Snapshot) : ℚ :=
  if b.score - a.score ≠ 0 then b.score - a.score
  else dateParse b.publishedAt - dateParse a.publishedAt

/-- `ordered`.  `sort` is stable, so a tie stays in click order. -/
def ordered (picked : List Snapshot) : List Snapshot :=
  picked.insertionSort fun a b => compareSnapshots a b ≤ 0

/-- `ids`. -/
def selectionIds (picked : List Snapshot) : List Str := (ordered picked).map (·.id)

/-! ## §3. Picking. -/

inductive PickAction where
  /-- A click on the card of a story. -/
  | toggle (storyId : Str)
  | remove (storyId : Str)
  | clear
  deriving Repr, DecidableEq

/-- `toggle`. -/
def toggle (picked : List Snapshot) (story : StoryRead) : List Snapshot :=
  if story.id ∈ picked.map (·.id) then picked.filter fun s => s.id ≠ story.id
  else if maxSelected ≤ picked.length then picked
  else picked ++ [snapshot story]

/-- The clicks on a feed that does not change: a card shows what the server
serves of its row. -/
def pickStep (P : Platform) (settings : Settings) (db : Db) (picked : List Snapshot) :
    PickAction → Option (List Snapshot)
  | .toggle storyId =>
      (storyRow db storyId).map fun row => toggle picked (projectStory P settings row)
  | .remove storyId => some (picked.filter fun s => s.id ≠ storyId)
  | .clear => some []

end Feedcast
