/-
  Feedcast.Core.Hashing — `core/hashing.py`: the Article primary key.
-/
import Feedcast.Core.Text
import Feedcast.Core.Url

namespace Feedcast

def contentHash (P : Platform) (text : Str) : Str := P.sha256hex (utf8 text)

def normalizeTitle (P : Platform) (title : Str) : Str :=
  P.casefold (strip (collapseSpace title))

def articleKey (P : Platform) (canonicalUrl title : Str) : Str :=
  contentHash P (canonicalUrl ++ '\n' :: normalizeTitle P title)

/-- **The joined pre-image splits**: a key over a URL without a newline
determines that URL and the normalised title. -/
theorem articleKey_inj {P : Platform} (hsha : Function.Injective P.sha256hex)
    {u v t s : Str} (hu : '\n' ∉ u) (hv : '\n' ∉ v) :
    articleKey P u t = articleKey P v s ↔ u = v ∧ normalizeTitle P t = normalizeTitle P s := by
  constructor
  · intro h
    have hpre := utf8_injective (hsha h)
    obtain ⟨huv, htail⟩ := Lib.block_inj '\n' hu hv (by simp) (by simp) hpre
    exact ⟨huv, by simpa using htail⟩
  · intro h
    obtain ⟨rfl, ht⟩ := h
    unfold articleKey
    rw [ht]

/-! ## §2. A platform for ASCII text.

What the interpreter does on text and feeds that stay within ASCII, in a
process whose zone is UTC.  The digest is the hexadecimal print of its input:
collision-free, as the key scheme takes SHA-256 to be. -/

/-- Hexadecimal print of a byte string. -/
def hexPrint (bytes : List UInt8) : Str :=
  bytes.flatMap fun b => [hexDigit (b.toNat / 16), hexDigit (b.toNat % 16)]

theorem hexPrint_injective : Function.Injective hexPrint := by
  have hcode : Lib.PrefixFree
      (fun b : UInt8 => [hexDigit (b.toNat / 16), hexDigit (b.toNat % 16)]) := by
    intro a b s t h
    have ha : a.toNat < 256 := UInt8.toNat_lt a
    have hb : b.toNat < 256 := UInt8.toNat_lt b
    simp only [List.cons_append, List.nil_append, List.cons.injEq] at h
    have hdiv := hexDigit_inj (by omega) (by omega) h.1
    have hmod := hexDigit_inj (by omega) (by omega) h.2.1
    exact ⟨UInt8.toNat_inj.mp (by omega), h.2.2⟩
  intro a b h
  exact hcode.flatMap_injective (by simp) h

/-- Days from the epoch to a civil date. -/
def daysFromCivil (year month day : Nat) : Int :=
  let y : Int := if month ≤ 2 then (year : Int) - 1 else year
  let era := y / 400
  let yoe := y - era * 400
  let mp : Int := (month + 9) % 12
  let doy := (153 * mp + 2) / 5 + day - 1
  era * 146097 + yoe * 365 + yoe / 4 - yoe / 100 + doy - 719468

def asciiPlatform (feedparse : List UInt8 → Raises Parsed) : Platform where
  isControl c := c.toNat < 32 || c.toNat == 127
  isWord c := c.isAlphanum || c == '_'
  isPrintable _ := false
  decimal c := if c.isDigit then some (c.toNat - 48) else none
  lower s := s.map Char.toLower
  casefold s := s.map Char.toLower
  htmlUnescape s := .ok s
  sha256hex := hexPrint
  netlocError _ := none
  mktime t := .ok (daysFromCivil t.year t.month t.day * 86400 + t.hour * 3600 + t.minute * 60
    + t.second)
  fromTimestamp t :=
    if -62135596800 ≤ t ∧ t ≤ 253402300799 then .ok (seconds t)
    else .error "year is out of range".toList
  int s :=
    if s ≠ [] ∧ s.all Char.isDigit then
      some (s.foldl (fun n c => n * 10 + (c.toNat - 48)) 0 : Nat)
    else none
  feedparse := feedparse

/-- What the parser makes of a page that is no feed. -/
def plainPage : Parsed where
  version := []
  bozo := false
  bozoException := []
  entries := []

/-- The ASCII platform on which every body is such a page. -/
def plainPages : Platform := asciiPlatform fun _ => .ok plainPage

/-- The ASCII platform of a process that parses no feed. -/
def feedless : Platform := asciiPlatform fun _ => .error []

end Feedcast
