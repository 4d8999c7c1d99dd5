/-
  Feedcast.Core.Platform — what the interpreter and its libraries supply.

  Feed text is `Str`, the list of a Python string's code points.  Everything
  the application reads from outside its own source (the Unicode database of
  the interpreter, `hashlib`, `html`, `feedparser`, the local time zone) is a
  field of `Platform`; the model is generic in it, and a result that relies on
  documented behaviour of one of these says so in a hypothesis.
-/
import Mathlib.Data.List.Basic
import Mathlib.Order.Basic

namespace Feedcast

/-- Python text, as its code points. -/
abbrev Str := List Char

/-- Membership in a list of texts is decided through this instance. -/
instance : LawfulBEq Str := inferInstance

/-- An instant, in microseconds since the epoch. -/
abbrev Time := Int

/-- `timedelta(seconds=n)`. -/
def seconds (n : Int) : Time := n * 1000000

/-- `timedelta(hours=n)`. -/
def hours (n : Int) : Time := seconds (n * 3600)

/-- A call that may raise; the exception is carried as `str(exc)`. -/
abbrev Raises (α : Type) := Except Str α

/-! ## §1. What `feedparser` hands back. -/

/-- `struct_time` as feedparser produces it: the first six fields, in UTC. -/
structure TimeTuple where
  year : Nat
  month : Nat
  day : Nat
  hour : Nat
  minute : Nat
  second : Nat
  deriving Repr, DecidableEq

/-- One member of an entry's `media_content`. -/
structure MediaContent where
  url : Option Str
  width : Option Str
  height : Option Str
  deriving Repr, DecidableEq

/-- One member of an entry's `links`. -/
structure FeedLink where
  rel : Option Str
  type : Option Str
  href : Option Str
  deriving Repr, DecidableEq

/-- The keys of a feed entry that ingest reads; `none` is an absent key. -/
structure Entry where
  link : Option Str
  title : Option Str
  summary : Option Str := none
  /-- The `term` of each tag, in order. -/
  tags : List (Option Str) := []
  publishedParsed : Option TimeTuple := none
  mediaContent : List MediaContent := []
  links : List FeedLink := []
  deriving Repr, DecidableEq

/-- A `FeedParserDict`: `version` is `""` when the format was not recognised. -/
structure Parsed where
  version : Str
  bozo : Bool
  /-- `str(parsed.bozo_exception)`, read only when `bozo` is set. -/
  bozoException : Str
  entries : List Entry
  deriving Repr, DecidableEq

/-! ## §2. The platform. -/

structure Platform where
  /-- `unicodedata.category(ch)[0] == "C"`. -/
  isControl : Char → Bool
  /-- `\w` of a `str` pattern. -/
  isWord : Char → Bool
  /-- `str.isprintable`, of the characters outside ASCII. -/
  isPrintable : Char → Bool
  /-- `unicodedata.decimal(ch)`, the digits `\d` matches. -/
  decimal : Char → Option Nat
  /-- `str.lower`. -/
  lower : Str → Str
  /-- `str.casefold`. -/
  casefold : Str → Str
  /-- `html.unescape`, which raises on a decimal reference of too many digits. -/
  htmlUnescape : Str → Raises Str
  /-- `hashlib.sha256(_).hexdigest()`. -/
  sha256hex : List UInt8 → Str
  /-- What `urlsplit` has against a balanced authority: a bracketed host that
  is no IPv6 address, or a character NFKC turns into a delimiter. -/
  netlocError : Str → Option Str
  /-- `time.mktime`, which reads the tuple in the process's local zone, in seconds. -/
  mktime : TimeTuple → Raises Int
  /-- `datetime.fromtimestamp(_, tz=UTC)`, which raises outside the years 1 to 9999. -/
  fromTimestamp : Int → Raises Time
  /-- `int(_)` on text; `none` is a `ValueError`. -/
  int : Str → Option Int
  /-- `feedparser.parse`. -/
  feedparse : List UInt8 → Raises Parsed

end Feedcast
