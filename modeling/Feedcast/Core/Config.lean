/-
  Feedcast.Core.Config — `core/config.py` and the rated vocabulary of
  `core/enums.py`.

  The settings the modelled functions read, with the defaults of the class.
  The weights are exact rationals.
-/
import Feedcast.Core.Platform
import Mathlib.Algebra.Order.Ring.Abs
import Mathlib.Algebra.Order.Field.Rat
import Mathlib.Tactic.NormNum

namespace Feedcast

/-- One level on one engagement dimension; there is no middle value. -/
inductive EngagementLevel where
  | veryLow
  | low
  | high
  | veryHigh
  deriving Repr, DecidableEq

def EngagementLevel.value : EngagementLevel → Str
  | .veryLow => "very_low".toList
  | .low => "low".toList
  | .high => "high".toList
  | .veryHigh => "very_high".toList

/-- `EngagementLevel(stored)`; `none` is its `ValueError`. -/
def EngagementLevel.ofValue (stored : Str) : Option EngagementLevel :=
  [.veryLow, .low, .high, .veryHigh].find? fun level => level.value == stored

/-- `ENGAGEMENT_DIMENSIONS`. -/
inductive EngagementDimension where
  | emotionalSalience
  | audienceBreadth
  | impact
  | novelty
  | humanInterest
  | timeliness
  | visualPotential
  deriving Repr, DecidableEq

def engagementDimensions : List EngagementDimension :=
  [.emotionalSalience, .audienceBreadth, .impact, .novelty, .humanInterest, .timeliness,
    .visualPotential]

/-- What kind of article a story is. -/
inductive ContentType where
  | news
  | oddity
  | opinion
  | adviceTips
  | promotional
  | celebrityEntertainment
  | explainer
  | other
  deriving Repr, DecidableEq

def ContentType.value : ContentType → Str
  | .news => "news".toList
  | .oddity => "oddity".toList
  | .opinion => "opinion".toList
  | .adviceTips => "advice_tips".toList
  | .promotional => "promotional".toList
  | .celebrityEntertainment => "celebrity_entertainment".toList
  | .explainer => "explainer".toList
  | .other => "other".toList

/-- `ContentType(stored)`; `none` is its `ValueError`. -/
def ContentType.ofValue (stored : Str) : Option ContentType :=
  [.news, .oddity, .opinion, .adviceTips, .promotional, .celebrityEntertainment, .explainer,
    .other].find? fun kind => kind.value == stored

/-- What a story is about. -/
inductive Category where
  | crime
  | accident
  | civic
  | transport
  | politics
  | business
  | education
  | health
  | sport
  | weather
  | environment
  | agriculture
  | culture
  | religion
  | technology
  | other
  deriving Repr, DecidableEq

def Category.value : Category → Str
  | .crime => "crime".toList
  | .accident => "accident".toList
  | .civic => "civic".toList
  | .transport => "transport".toList
  | .politics => "politics".toList
  | .business => "business".toList
  | .education => "education".toList
  | .health => "health".toList
  | .sport => "sport".toList
  | .weather => "weather".toList
  | .environment => "environment".toList
  | .agriculture => "agriculture".toList
  | .culture => "culture".toList
  | .religion => "religion".toList
  | .technology => "technology".toList
  | .other => "other".toList

structure Settings where
  fetchMaxResponseBytes : Int := 5000000
  fetchMaxRedirects : Int := 3
  schedulerMaxBackoffSeconds : Int := 21600
  classifyBatchSize : Nat := 20
  classifyMaxAttempts : Int := 3
  classifyTitleMaxChars : Nat := 200
  classifySummaryMaxChars : Nat := 400
  classifyConfidenceFloor : ℚ := 1 / 2
  discoverableContentTypes : List ContentType := [.news, .oddity]
  storyWindowHours : Int := 24
  storySummaryMaxChars : Nat := 220
  storyDefaultLimit : Int := 50
  storyMaxLimit : Int := 200
  maxSourcesPerCity : Int := 5
  /-- `carousel_timezone`, as its offset from UTC in seconds. -/
  carouselTimezone : Time → Int := fun _ => 19800
  carouselMaxStories : Int := 8
  slideTextMaxChars : Nat := 120
  zipMaxBytesPerImage : Nat := 2000000
  zipMaxTotalBytes : Nat := 20000000
  llmModel : Str := "gpt-5-nano".toList
  llmMaxAttempts : Int := 3
  /-- `rank_weight_*`. -/
  rankWeight : EngagementDimension → ℚ := fun
    | .emotionalSalience => 1 / 5
    | .audienceBreadth => 1 / 5
    | .impact => 1 / 5
    | .novelty => 3 / 20
    | .humanInterest => 1 / 10
    | .timeliness => 1 / 10
    | .visualPotential => 1 / 20
  /-- `_engagement_weights_sum_to_one`. -/
  weights_sum_to_one :
    |(engagementDimensions.map rankWeight).sum - 1| ≤ 1 / 10 ^ 9 := by
      norm_num [engagementDimensions]

/-- The settings with every default. -/
def defaultSettings : Settings := {}

end Feedcast
