/-
  Feedcast.Services.Rank — the rank (`services/rank.py`).

  Nothing here is persisted.  The score is computed in doubles: every weight, every
  level and every result is the nearest double, and the sum is compensated, as
  `sum` is in the Python the project asks for (3.13).  `articleScoreIn` leaves the
  arithmetic open, since the rating is also looked at in exact rationals.
-/
import Feedcast.Core.Config
import Feedcast.Db.Models
import Feedcast.Lib.Binary64
import Mathlib.Data.Char
import Mathlib.Data.List.Lex
import Mathlib.Data.Prod.Lex
import Mathlib.Data.List.Sort
import Mathlib.Data.Rat.Floor

namespace Feedcast

open Feedcast.Lib

/-! ## §1. Levels. -/

/-- `LEVEL_VALUES`: what each level is worth. -/
def levelValue : EngagementLevel → ℚ
  | .veryLow => 0
  | .low => 33 / 100
  | .high => 67 / 100
  | .veryHigh => 1

/-- `getattr(article, name)`. -/
def Article.dimension (article : Article) : EngagementDimension → Option Str
  | .emotionalSalience => article.emotionalSalience
  | .audienceBreadth => article.audienceBreadth
  | .impact => article.impact
  | .novelty => article.novelty
  | .humanInterest => article.humanInterest
  | .timeliness => article.timeliness
  | .visualPotential => article.visualPotential

/-- The seven levels, in weight order. -/
abbrev EngagementRead := List (EngagementDimension × EngagementLevel)

/-- `engagement_levels`: all seven, present and inside the enum, or nothing. -/
def engagementLevels (article : Article) : Option EngagementRead :=
  engagementDimensions.mapM fun name => do
    let stored ← article.dimension name
    let level ← EngagementLevel.ofValue stored
    return (name, level)

/-! ## §2. The score. -/

structure RankInputs where
  publishedAt : Time
  /-- `none` when the article is not rated. -/
  levels : Option EngagementRead
  articleId : Str

/-- `round(_, 1)`, before its result is a double. -/
def roundTenths (x : ℚ) : ℚ := (roundHalfEven (10 * x) : ℚ) / 10

def scoreMin : ℚ := 1

def scoreMax : ℚ := 10

/-- `article_score`, where `fl` is what becomes of a number: an unrated article
scores the floor. -/
def articleScoreIn (fl : ℚ → ℚ) (settings : Settings) (inputs : RankInputs) : ℚ :=
  match inputs.levels with
  | none => scoreMin
  | some levels =>
      let unit := sumFloats fl (levels.map fun rated =>
        fl (fl (settings.rankWeight rated.1) * fl (levelValue rated.2)))
      fl (roundTenths (fl (scoreMin + fl (unit * (scoreMax - scoreMin)))))

/-- `article_score`. -/
def articleScore (settings : Settings) (inputs : RankInputs) : ℚ :=
  articleScoreIn nearestDouble settings inputs

/-- The score in exact rationals. -/
def exactScore (settings : Settings) (inputs : RankInputs) : ℚ :=
  articleScoreIn id settings inputs

/-! ## §3. The orders. -/

/-- `sort_key`. -/
def sortKey (settings : Settings) (inputs : RankInputs) : Time ×ₗ ℚ ×ₗ Str :=
  toLex (inputs.publishedAt, toLex (articleScore settings inputs, inputs.articleId))

/-- `engagement_sort_key`. -/
def engagementSortKey (settings : Settings) (inputs : RankInputs) : ℚ ×ₗ Time ×ₗ Str :=
  toLex (articleScore settings inputs, toLex (inputs.publishedAt, inputs.articleId))

/-- `sorted(_, key=…, reverse=True)`: descending, equal keys in their old order. -/
def sortedDesc {α κ : Type} [LinearOrder κ] (key : α → κ) (xs : List α) : List α :=
  xs.insertionSort fun a b => key b ≤ key a

theorem sortedDesc_perm {α κ : Type} [LinearOrder κ] (key : α → κ) (xs : List α) :
    (sortedDesc key xs).Perm xs :=
  List.perm_insertionSort _ xs

theorem sortedDesc_pairwise {α κ : Type} [LinearOrder κ] (key : α → κ) (xs : List α) :
    (sortedDesc key xs).Pairwise fun a b => key b ≤ key a := by
  have : Std.Total fun a b : α => key b ≤ key a := ⟨fun a b => le_total (key b) (key a)⟩
  have : IsTrans α fun a b => key b ≤ key a := ⟨fun a b c hab hbc => le_trans hbc hab⟩
  exact List.pairwise_insertionSort _ xs

/-- Elements with distinct keys come in strictly descending order. -/
theorem sortedDesc_strict {α κ : Type} [LinearOrder κ] {key : α → κ} {xs : List α}
    (h : (xs.map key).Nodup) : (sortedDesc key xs).Pairwise fun a b => key b < key a := by
  have hdistinct : ((sortedDesc key xs).map key).Nodup :=
    ((sortedDesc_perm key xs).map key).nodup_iff.mpr h
  rw [List.Nodup, List.pairwise_map] at hdistinct
  exact (sortedDesc_pairwise key xs).imp₂ (fun a b hle hne => lt_of_le_of_ne hle (Ne.symm hne))
    hdistinct

/-- **Elements with distinct keys are sorted alike, whatever order they come in.** -/
theorem sortedDesc_congr {α κ : Type} [LinearOrder κ] {key : α → κ} {xs ys : List α}
    (h : (xs.map key).Nodup) (hperm : xs.Perm ys) : sortedDesc key xs = sortedDesc key ys := by
  have hys : (ys.map key).Nodup := (hperm.map key).nodup_iff.mp h
  have hsorted : (sortedDesc key xs).Perm (sortedDesc key ys) :=
    (sortedDesc_perm key xs).trans (hperm.trans (sortedDesc_perm key ys).symm)
  refine List.Perm.eq_of_pairwise ?_ (sortedDesc_strict h) (sortedDesc_strict hys) hsorted
  intro a b _ _ hab hba
  exact absurd hab (lt_asymm hba)

end Feedcast
