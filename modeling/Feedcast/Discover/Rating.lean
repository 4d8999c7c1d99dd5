/-
  Feedcast.Discover.Rating — the rating, over every set of weights that starts
  the application.

  The check at startup looks at the sum of the weights and at nothing else.  It
  fixes both ends of the scale; what lies between them depends on the signs.

    • `lt_roundHalfEven` — where rounding goes up,
    • `exactScore_floor`, `exactScore_ceiling` — the ends,
    • `exactScore_raise` — what raising one level does to the score,
    • `noInversion_of_nonneg`, `not_noInversion_of_lt` — what the signs say,
    • `properRating_iff` — when the rating is proper.
-/
import Feedcast.Services.Rank
import Feedcast.Lib.Traverse
import Mathlib.Tactic.Linarith
import Mathlib.Tactic.Ring

namespace Feedcast

open Feedcast.Lib

/-! ## §1. Rounding to the nearest, a tie to the even one. -/

/-- `x` lies past the middle between `k` and the next integer; the middle itself
belongs to the even one of the two. -/
def PastMiddle (k : Int) (x : ℚ) : Prop :=
  (k : ℚ) + 1 / 2 < x ∨ (x = (k : ℚ) + 1 / 2 ∧ k % 2 = 1)

theorem PastMiddle.mono {k : Int} {x y : ℚ} (hxy : x ≤ y) (h : PastMiddle k x) :
    PastMiddle k y := by
  rcases h with hlt | ⟨heq, hodd⟩
  · exact Or.inl (lt_of_lt_of_le hlt hxy)
  · rcases lt_or_eq_of_le hxy with hlt | hxy
    · exact Or.inl (heq ▸ hlt)
    · exact Or.inr ⟨hxy ▸ heq, hodd⟩

/-- **Rounding goes past `k` exactly if the number is past the middle.** -/
theorem lt_roundHalfEven {k : Int} {x : ℚ} : k < roundHalfEven x ↔ PastMiddle k x := by
  have hfloor : ((⌊x⌋ : Int) : ℚ) ≤ x := Int.floor_le x
  have hceil : x < (⌊x⌋ : ℚ) + 1 := Int.lt_floor_add_one x
  unfold roundHalfEven PastMiddle
  generalize ⌊x⌋ = n at hfloor hceil
  -- where `k` lies against the integer below
  rcases lt_trichotomy k n with hk | hk | hk
  · have hkn : (k : ℚ) + 1 ≤ n := by exact_mod_cast hk
    have hpast : (k : ℚ) + 1 / 2 < x := by linarith
    simp only [hpast, true_or, iff_true]
    split_ifs
    all_goals omega
  · subst hk
    simp only
    split_ifs with hlow hhigh heven
    · simp only [lt_self_iff_false, false_iff, not_or, not_and]
      exact ⟨by linarith, fun h => absurd h (by linarith)⟩
    · simp only [Int.lt_succ, true_iff]
      exact Or.inl (by linarith)
    · simp only [lt_self_iff_false, false_iff, not_or, not_and]
      exact ⟨by linarith, fun _ => by omega⟩
    · simp only [Int.lt_succ, true_iff]
      exact Or.inr ⟨by linarith, by omega⟩
  · have hnk : (n : ℚ) + 1 ≤ k := by exact_mod_cast hk
    have hno : ¬ ((k : ℚ) + 1 / 2 < x ∨ x = (k : ℚ) + 1 / 2 ∧ k % 2 = 1) := by
      intro h
      rcases h with h | ⟨h, -⟩
      · linarith
      · linarith
    simp only [hno, iff_false, not_lt]
    split_ifs
    all_goals omega

theorem roundHalfEven_mono {x y : ℚ} (h : x ≤ y) : roundHalfEven x ≤ roundHalfEven y := by
  by_contra hlt
  have hpast := lt_roundHalfEven.mp (not_le.mp hlt)
  exact absurd (lt_roundHalfEven.mpr (hpast.mono h)) (lt_irrefl _)

/-- A number within half a step of an integer rounds to it. -/
theorem roundHalfEven_near {k : Int} {x : ℚ} (hlow : (k : ℚ) - 1 / 2 < x)
    (hhigh : x < (k : ℚ) + 1 / 2) : roundHalfEven x = k := by
  refine le_antisymm ?_ ?_
  · refine not_lt.mp fun h => ?_
    rcases lt_roundHalfEven.mp h with h | ⟨h, -⟩
    · linarith
    · linarith
  · have hpast : PastMiddle (k - 1) x := Or.inl (by push_cast; linarith)
    have := lt_roundHalfEven.mpr hpast
    omega

/-! ## §2. The property. -/

/-- The levels in order, from the lowest. -/
def EngagementLevel.rank : EngagementLevel → Nat
  | .veryLow => 0
  | .low => 1
  | .high => 2
  | .veryHigh => 3

/-- The seven levels of an assignment, in weight order. -/
def rated (levels : EngagementDimension → EngagementLevel) : EngagementRead :=
  engagementDimensions.map fun name => (name, levels name)

/-- **A proper rating**: from 1 to 10, with both ends in reach; a level raised
never lowers it; and an article without levels rates no higher than one with. -/
structure ProperRating (settings : Settings) : Prop where
  range : ∀ inputs levels, inputs.levels = some (rated levels) →
    1 ≤ exactScore settings inputs ∧ exactScore settings inputs ≤ 10
  floor : ∀ inputs, inputs.levels = some (rated fun _ => .veryLow) →
    exactScore settings inputs = 1
  ceiling : ∀ inputs, inputs.levels = some (rated fun _ => .veryHigh) →
    exactScore settings inputs = 10
  monotone : ∀ inputs raised levels name level, inputs.levels = some (rated levels) →
    raised.levels = some (rated (Function.update levels name level)) →
    (levels name).rank ≤ level.rank →
    exactScore settings inputs ≤ exactScore settings raised
  unrated : ∀ inputs other levels, inputs.levels = none → other.levels = some (rated levels) →
    exactScore settings inputs ≤ exactScore settings other

/-- What the other six dimensions add up to. -/
def othersSum (settings : Settings) (name : EngagementDimension)
    (levels : EngagementDimension → EngagementLevel) : ℚ :=
  ((engagementDimensions.filter (· ≠ name)).map fun other =>
    settings.rankWeight other * levelValue (levels other)).sum

/-- **No weight inverts its dimension**: a negative one is so small that,
whatever the other six add up to, ten times the score is past the same middles
without it and with it. -/
def NoInversion (settings : Settings) : Prop :=
  ∀ name, settings.rankWeight name < 0 → ∀ levels k,
    PastMiddle k (10 + 90 * othersSum settings name levels) →
    PastMiddle k (10 + 90 * (othersSum settings name levels + settings.rankWeight name))

/-- The levels an article is rated with are those of an assignment. -/
theorem engagementLevels_rated {article : Article} {levels : EngagementRead}
    (h : engagementLevels article = some levels) : ∃ assigned, levels = rated assigned := by
  -- the level of a dimension, when the article has one
  let assigned name := ((article.dimension name).bind EngagementLevel.ofValue).getD .veryLow
  refine ⟨assigned, ?_⟩
  rw [← List.map_id levels]
  refine map_of_mapM (fun name pair hpair => ?_) h
  simp only [Option.bind_eq_bind, Option.bind_eq_some_iff, Option.pure_def,
    Option.some.injEq] at hpair
  obtain ⟨stored, hstored, level, hlevel, rfl⟩ := hpair
  show (name, level) = (name, assigned name)
  simp [assigned, hstored, hlevel]

/-! ## §3. The score of seven levels. -/

/-- The weighted sum. -/
def unitSum (settings : Settings) (levels : EngagementDimension → EngagementLevel) : ℚ :=
  ((rated levels).map fun rated => settings.rankWeight rated.1 * levelValue rated.2).sum

theorem exactScore_rated {settings : Settings} {inputs : RankInputs}
    {levels : EngagementDimension → EngagementLevel} (h : inputs.levels = some (rated levels)) :
    exactScore settings inputs
      = (roundHalfEven (10 + 90 * unitSum settings levels) : ℚ) / 10 := by
  unfold exactScore articleScoreIn roundTenths
  rw [h]
  dsimp only [id_eq]
  rw [sumFloats_exact]
  show (roundHalfEven (10 * (scoreMin + unitSum settings levels * (scoreMax - scoreMin))) : ℚ)
    / 10 = _
  -- the stretch to the scale, in tenths
  have hstretch : 10 * (scoreMin + unitSum settings levels * (scoreMax - scoreMin))
      = 10 + 90 * unitSum settings levels := by
    unfold scoreMin scoreMax
    ring
  rw [hstretch]

/-- One dimension against the other six. -/
theorem unitSum_update (settings : Settings) (levels : EngagementDimension → EngagementLevel)
    (name : EngagementDimension) (level : EngagementLevel) :
    unitSum settings (Function.update levels name level)
      = othersSum settings name levels + settings.rankWeight name * levelValue level := by
  cases name
  all_goals
    simp [unitSum, othersSum, rated, engagementDimensions, Function.update]
    ring

theorem unitSum_eq (settings : Settings) (levels : EngagementDimension → EngagementLevel)
    (name : EngagementDimension) :
    unitSum settings levels
      = othersSum settings name levels + settings.rankWeight name * levelValue (levels name) := by
  rw [← unitSum_update, Function.update_eq_self]

theorem levelValue_mono {a b : EngagementLevel} (h : a.rank ≤ b.rank) :
    levelValue a ≤ levelValue b := by
  cases a <;> cases b <;> simp_all [EngagementLevel.rank, levelValue] <;> norm_num

theorem levelValue_range (a : EngagementLevel) : 0 ≤ levelValue a ∧ levelValue a ≤ 1 := by
  cases a <;> norm_num [levelValue]

/-- Scores compare as the rounded sums do. -/
theorem exactScore_le_iff {settings : Settings} {inputs raised : RankInputs}
    {levels higher : EngagementDimension → EngagementLevel}
    (h : inputs.levels = some (rated levels)) (h' : raised.levels = some (rated higher)) :
    exactScore settings inputs ≤ exactScore settings raised
      ↔ roundHalfEven (10 + 90 * unitSum settings levels)
        ≤ roundHalfEven (10 + 90 * unitSum settings higher) := by
  rw [exactScore_rated h, exactScore_rated h', div_le_div_iff_of_pos_right (by norm_num)]
  exact Int.cast_le

/-- **The floor of the scale is 1**, whatever the weights. -/
theorem exactScore_floor {settings : Settings} {inputs : RankInputs}
    (h : inputs.levels = some (rated fun _ => .veryLow)) : exactScore settings inputs = 1 := by
  have hsum : unitSum settings (fun _ => .veryLow) = 0 := by
    simp [unitSum, rated, engagementDimensions, levelValue]
  have hround : roundHalfEven (10 + 90 * 0) = 10 :=
    roundHalfEven_near (by norm_num) (by norm_num)
  rw [exactScore_rated h, hsum, hround]
  norm_num

/-- **Its ceiling is 10**: that is what the check at startup is for. -/
theorem exactScore_ceiling {settings : Settings} {inputs : RankInputs}
    (h : inputs.levels = some (rated fun _ => .veryHigh)) : exactScore settings inputs = 10 := by
  have hsum : unitSum settings (fun _ => .veryHigh)
      = (engagementDimensions.map settings.rankWeight).sum := by
    simp [unitSum, rated, engagementDimensions, levelValue]
  obtain ⟨hlow, hhigh⟩ := abs_le.mp settings.weights_sum_to_one
  -- the weights may miss one by the tolerance, which the rounding absorbs
  have hround : roundHalfEven (10 + 90 * unitSum settings fun _ => .veryHigh) = 100 := by
    rw [hsum]
    refine roundHalfEven_near ?_ ?_
    · push_cast
      linarith
    · push_cast
      linarith
  rw [exactScore_rated h, hround]
  norm_num

/-! ## §4. One level raised. -/

/-- A weight that is not negative never lowers the sum. -/
theorem unitSum_raise {settings : Settings} {name : EngagementDimension}
    (hweight : 0 ≤ settings.rankWeight name) {levels : EngagementDimension → EngagementLevel}
    {level : EngagementLevel} (hrank : (levels name).rank ≤ level.rank) :
    unitSum settings levels ≤ unitSum settings (Function.update levels name level) := by
  rw [unitSum_update, unitSum_eq settings levels name]
  have hmul := mul_le_mul_of_nonneg_left (levelValue_mono hrank) hweight
  linarith

/-- **No score is lowered when no weight inverts its dimension**: the sum may
be, but not past a middle. -/
theorem exactScore_raise {settings : Settings} (hweights : NoInversion settings)
    {inputs raised : RankInputs} {levels : EngagementDimension → EngagementLevel}
    {name : EngagementDimension} {level : EngagementLevel}
    (h : inputs.levels = some (rated levels))
    (h' : raised.levels = some (rated (Function.update levels name level)))
    (hrank : (levels name).rank ≤ level.rank) :
    exactScore settings inputs ≤ exactScore settings raised := by
  -- order of the scores is order of the rounded sums
  rw [exactScore_le_iff h h']
  by_cases hneg : settings.rankWeight name < 0
  · -- at its lowest the dimension adds nothing, at its highest the whole weight
    refine le_of_forall_lt fun k hk => ?_
    have hlow := lt_roundHalfEven.mp hk
    rw [unitSum_eq settings levels name] at hlow
    rw [lt_roundHalfEven, unitSum_update]
    have hzero : PastMiddle k (10 + 90 * othersSum settings name levels) := by
      refine hlow.mono ?_
      have := mul_nonpos_of_nonpos_of_nonneg hneg.le (levelValue_range (levels name)).1
      linarith
    refine (hweights name hneg levels k hzero).mono ?_
    have := mul_le_mul_of_nonpos_left (levelValue_range level).2 hneg.le
    linarith
  · have hsum := unitSum_raise (not_lt.mp hneg) hrank
    exact roundHalfEven_mono (by linarith)

/-- **Levels raised one by one**: what no single step lowers, none of them
together do. -/
theorem raise_all {score : (EngagementDimension → EngagementLevel) → ℚ}
    (hstep : ∀ levels name level, (levels name).rank ≤ level.rank →
      score levels ≤ score (Function.update levels name level))
    {levels higher : EngagementDimension → EngagementLevel}
    (h : ∀ name, (levels name).rank ≤ (higher name).rank) : score levels ≤ score higher := by
  -- one dimension after another
  have hlist : ∀ names : List EngagementDimension,
      score levels ≤ score fun name => if name ∈ names then higher name else levels name := by
    intro names
    induction names with
    | nil => simp
    | cons name names ih =>
        refine le_trans ih ?_
        have hnext : (fun other => if other ∈ name :: names then higher other else levels other)
            = Function.update (fun other => if other ∈ names then higher other else levels other)
                name (higher name) := by
          funext other
          by_cases hother : other = name
          · simp [hother]
          · simp [hother, List.mem_cons]
        rw [hnext]
        refine hstep _ name (higher name) ?_
        split
        · exact le_refl _
        · exact h name
  have hall : (fun name => if name ∈ engagementDimensions then higher name else levels name)
      = higher := by
    funext name
    exact if_pos (by cases name <;> decide)
  exact hall ▸ hlist engagementDimensions

/-! ## §5. When the rating is proper. -/

/-- Weights that are not negative invert nothing. -/
theorem noInversion_of_nonneg {settings : Settings} (h : ∀ name, 0 ≤ settings.rankWeight name) :
    NoInversion settings := by
  intro name hneg
  exact absurd (h name) (not_le.mpr hneg)

/-- A weight that moves the score by more than a tenth inverts its dimension. -/
theorem not_noInversion_of_lt {settings : Settings} {name : EngagementDimension}
    (h : settings.rankWeight name < -1 / 90) : ¬ NoInversion settings := by
  intro hweights
  let low := 10 + 90 * (othersSum settings name (fun _ => .veryLow) + settings.rankWeight name)
  have hnear : PastMiddle (roundHalfEven low - 1) low :=
    lt_roundHalfEven.mp (by omega)
  have hlow : (roundHalfEven low : ℚ) - 1 / 2 ≤ low := by
    rcases hnear with hlt | ⟨heq, -⟩
    · push_cast at hlt
      linarith
    · push_cast at heq
      linarith
  -- a weight this negative moves the sum past a whole step
  have hpast : PastMiddle (roundHalfEven low)
      (10 + 90 * othersSum settings name (fun _ => .veryLow)) := by
    refine Or.inl ?_
    simp only [low] at hlow ⊢
    linarith
  have hsame := hweights name (by linarith) _ _ hpast
  exact absurd (lt_roundHalfEven.mpr hsame) (lt_irrefl _)

/-- **THE RATING IS PROPER EXACTLY IF NO WEIGHT INVERTS ITS DIMENSION.** -/
theorem properRating_iff (settings : Settings) : ProperRating settings ↔ NoInversion settings := by
  constructor
  · intro h name _ levels k hpast
    -- the dimension goes from its lowest level to its highest
    have hmono := h.monotone ⟨0, some (rated (Function.update levels name .veryLow)), []⟩
      ⟨0, some (rated (Function.update (Function.update levels name .veryLow) name .veryHigh)), []⟩
      _ name .veryHigh rfl rfl (by rw [Function.update_self]; decide)
    rw [exactScore_le_iff rfl rfl, Function.update_idem, unitSum_update, unitSum_update] at hmono
    have hlow : k < roundHalfEven
        (10 + 90 * (othersSum settings name levels
          + settings.rankWeight name * levelValue .veryLow)) := by
      rw [lt_roundHalfEven]
      simpa [levelValue] using hpast
    simpa [levelValue] using lt_roundHalfEven.mp (lt_of_lt_of_le hlow hmono)
  · intro h
    have hone : ∀ inputs : RankInputs, inputs.levels = none → exactScore settings inputs = 1 := by
      intro inputs hnone
      unfold exactScore articleScoreIn
      rw [hnone]
      rfl
    -- between the assignment at the floor and the one at the ceiling
    have hrange : ∀ inputs levels, inputs.levels = some (rated levels) →
        1 ≤ exactScore settings inputs ∧ exactScore settings inputs ≤ 10 := by
      intro inputs levels hlevels
      let score (assigned : EngagementDimension → EngagementLevel) :=
        exactScore settings ⟨0, some (rated assigned), []⟩
      have hstep : ∀ levels name level, (levels name).rank ≤ level.rank →
          score levels ≤ score (Function.update levels name level) :=
        fun _ _ _ hrank => exactScore_raise h rfl rfl hrank
      have hsame : exactScore settings inputs = score levels :=
        (exactScore_rated hlevels).trans (exactScore_rated rfl).symm
      rw [hsame]
      constructor
      · calc 1 = score fun _ => .veryLow := (exactScore_floor rfl).symm
          _ ≤ score levels := raise_all hstep fun name => Nat.zero_le _
      · calc score levels ≤ score fun _ => .veryHigh :=
              raise_all hstep fun name => by cases levels name <;> decide
          _ = 10 := exactScore_ceiling rfl
    exact
      { range := hrange
        floor := fun inputs => exactScore_floor
        ceiling := fun inputs => exactScore_ceiling
        monotone := fun inputs raised levels name level hlow hhigh hrank =>
          exactScore_raise h hlow hhigh hrank
        unrated := fun inputs other levels hnone hlevels =>
          hone inputs hnone ▸ (hrange other levels hlevels).1 }

/-- Weights that pass the check, one of them negative. -/
def invertedSettings : Settings where
  rankWeight
    | .emotionalSalience => 1 / 5
    | .audienceBreadth => 1 / 5
    | .impact => 9 / 20
    | .novelty => -1 / 10
    | .humanInterest => 1 / 10
    | .timeliness => 1 / 10
    | .visualPotential => 1 / 20
  weights_sum_to_one := by norm_num [engagementDimensions]

/-- A striking story, dull in every other way, rates below the floor. -/
theorem inverted_below_floor :
    exactScore invertedSettings
        ⟨0, some (rated (Function.update (fun _ => .veryLow) .novelty .veryHigh)), []⟩ = 1 / 10
      ∧ ¬ ProperRating invertedSettings := by
  have hscore : exactScore invertedSettings
      ⟨0, some (rated (Function.update (fun _ => .veryLow) .novelty .veryHigh)), []⟩ = 1 / 10 := by
    have hsum : unitSum invertedSettings (Function.update (fun _ => .veryLow) .novelty .veryHigh)
        = -1 / 10 := by
      rw [unitSum_update]
      norm_num [othersSum, engagementDimensions, levelValue, invertedSettings]
    -- the sum is a whole number: nothing to round
    have hround : roundHalfEven (10 + 90 * (-1 / 10)) = 1 :=
      roundHalfEven_near (by norm_num) (by norm_num)
    rw [exactScore_rated rfl, hsum, hround]
    norm_num
  refine ⟨hscore, fun h => ?_⟩
  have hrange := (h.range _ _ rfl).1.trans_eq hscore
  norm_num at hrange

end Feedcast
