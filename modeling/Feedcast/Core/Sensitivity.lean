/-
  Feedcast.Core.Sensitivity — the deterministic sensitivity flags
  (`services/sensitivity.py`), with the patterns of that module over
  `Feedcast.Lib.Pattern`.
-/
import Feedcast.Lib.Pattern
import Feedcast.Core.Text

namespace Feedcast

open Feedcast.Lib

inductive SensitivityFlag where
  | minorNamed
  | sexualOffenceDetail
  | subJudice
  | communalFraming
  | unverifiedCasualtyCount
  | namedUnconvictedAccused
  deriving Repr, DecidableEq

def SensitivityFlag.value : SensitivityFlag → Str
  | .minorNamed => "minor_named".toList
  | .sexualOffenceDetail => "sexual_offence_detail".toList
  | .subJudice => "sub_judice".toList
  | .communalFraming => "communal_framing".toList
  | .unverifiedCasualtyCount => "unverified_casualty_count".toList
  | .namedUnconvictedAccused => "named_unconvicted_accused".toList

/-! ## §1. Pattern building blocks. -/

/-- A lower-case letter under `re.IGNORECASE`: its upper case, and the Unicode
variants Python folds onto it. -/
def ignoreCase (c x : Char) : Bool :=
  x == c || x == c.toUpper
    || (c == 'k' && x == '\u212A')
    || (c == 's' && x == '\u017F')
    || (c == 'i' && (x == '\u0130' || x == '\u0131'))

/-- A literal, compared ignoring case. -/
def lit (s : String) : Pattern Char :=
  Pattern.all (s.toList.map fun c => .sym (ignoreCase c))

/-- One of several literals. -/
def oneOf (s : String) (ss : List String) : Pattern Char :=
  Pattern.any (lit s) (ss.map lit)

/-- `( … )?`, preferring the match. -/
def maybe (p : Pattern Char) : Pattern Char := .alt p .eps

/-- `\b`. -/
def wordB (P : Platform) : Pattern Char :=
  .boundary fun a b => a.any P.isWord != b.any P.isWord

/-- `[\s\S]{0,n}`. -/
def gap (n : Nat) : Pattern Char := .upTo n fun _ => true

/-- `\b p \b`. -/
def word (P : Platform) (p : Pattern Char) : Pattern Char :=
  .seq (wordB P) (.seq p (wordB P))

/-! ## §2. The patterns. -/

def sensitivityPatterns (P : Platform) : SensitivityFlag → List (Pattern Char)
  | .minorNamed =>
      [.seq (word P (oneOf "minor" ["juvenile"]))
          (.seq (gap 40) (word P (oneOf "named" ["identified as"]))),
        .seq (word P (oneOf "named" ["identified as"]))
          (.seq (gap 40) (word P (oneOf "minor" ["juvenile"])))]
  | .sexualOffenceDetail =>
      [word P (.alt (oneOf "rape" ["sexual assault"])
        (.seq (lit "molest") (maybe (oneOf "ed" ["ation"]))))]
  | .subJudice =>
      [word P (.seq (lit "sub")
          (.seq (.sym fun c => c == '-' || c == ' ') (lit "judice"))),
        word P (.seq (oneOf "matter" ["case"]) (.seq (lit " is ")
          (.seq (maybe (lit "currently ")) (oneOf "pending" ["before the court"]))))]
  | .communalFraming =>
      [.seq (word P (.seq (oneOf "hindu" ["muslim", "christian", "sikh", "community"])
            (maybe (lit "s"))))
        (.seq (gap 60) (word P (.alt (lit "mob")
          (.alt (.seq (lit "clash") (maybe (lit "ed"))) (.seq (lit "riot") (maybe (lit "ed")))))))]
  | .unverifiedCasualtyCount =>
      [.seq (word P (oneOf "unconfirmed" ["unverified", "reportedly"]))
        (.seq (gap 40) (word P (.alt (oneOf "dead" ["died", "killed"])
          (.seq (lit "casualt") (oneOf "y" ["ies"])))))]
  | .namedUnconvictedAccused =>
      [.seq (word P (lit "accused")) (.seq (gap 40) (word P (oneOf "named as" ["identified as"])))]

/-- The flags in the order of the enum; the source builds a set. -/
def allFlags : List SensitivityFlag :=
  [.minorNamed, .sexualOffenceDetail, .subJudice, .communalFraming, .unverifiedCasualtyCount,
    .namedUnconvictedAccused]

def ruleBasedFlags (P : Platform) (text : Str) : List SensitivityFlag :=
  allFlags.filter fun flag => (sensitivityPatterns P flag).any fun p => p.search text

end Feedcast
