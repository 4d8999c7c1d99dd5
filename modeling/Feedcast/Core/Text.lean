/-
  Feedcast.Core.Text — feed text on its way out of the database
  (`core/text.py`), and the whitespace rules it shares with `core/hashing.py`.
-/
import Feedcast.Core.Platform
import Mathlib.Data.List.DropRight

namespace Feedcast

/-! ## §1. Truth of a text. -/

/-- `a or b` on optional text: `None` and `""` are false. -/
def orElse (a b : Option Str) : Option Str :=
  match a with
  | some (c :: s) => some (c :: s)
  | _ => b

/-- The value, when it is true in the sense of `if value:`. -/
def truthy (a : Option Str) : Option Str := orElse a none

theorem orElse_cases (a b : Option Str) :
    (∃ v, truthy a = some v ∧ orElse a b = some v) ∨ (truthy a = none ∧ orElse a b = b) := by
  unfold truthy orElse
  cases a with
  | none => exact Or.inr ⟨rfl, rfl⟩
  | some s =>
      cases s with
      | nil => exact Or.inr ⟨rfl, rfl⟩
      | cons c s => exact Or.inl ⟨c :: s, rfl, rfl⟩

theorem truthy_some {a : Option Str} {v : Str} (h : truthy a = some v) : a = some v := by
  unfold truthy orElse at h
  cases a with
  | none => cases h
  | some s =>
      cases s with
      | nil => cases h
      | cons c s => exact h

/-! ## §2. Whitespace. -/

/-- The characters `str.isspace` accepts, which are also those of `\s`. -/
def isSpace (c : Char) : Bool :=
  let n := c.toNat
  (9 ≤ n && n ≤ 13) || (28 ≤ n && n ≤ 32) || n == 0x85 || n == 0xA0 || n == 0x1680
    || (0x2000 ≤ n && n ≤ 0x200A) || n == 0x2028 || n == 0x2029 || n == 0x202F
    || n == 0x205F || n == 0x3000

/-- `re.sub(r"\s+", " ", s)`; the flag says the previous character was
whitespace, already printed as one space. -/
def collapseSpaceFrom : Bool → Str → Str
  | _, [] => []
  | inRun, c :: rest =>
      if isSpace c then
        if inRun then collapseSpaceFrom true rest else ' ' :: collapseSpaceFrom true rest
      else c :: collapseSpaceFrom false rest

def collapseSpace (s : Str) : Str := collapseSpaceFrom false s

/-- `s.rstrip(chars)` for a set of characters. -/
def rstrip (p : Char → Bool) (s : Str) : Str := s.rdropWhile p

/-- `s.strip()`. -/
def strip (s : Str) : Str := rstrip isSpace (s.dropWhile isSpace)

/-! ## §3. `repr`. -/

/-- `f"{n:0{width}x}"`. -/
def hexPadded (width n : Nat) : Str :=
  let digits := Nat.toDigits 16 n
  List.replicate (width - digits.length) '0' ++ digits

/-- One character of a `repr`, between quotes of the given kind. -/
def reprChar (P : Platform) (quote c : Char) : Str :=
  let n := c.toNat
  if c = quote ∨ c = '\\' then ['\\', c]
  else if c = '\t' then "\\t".toList
  else if c = '\n' then "\\n".toList
  else if c = '\r' then "\\r".toList
  else if (0x20 ≤ n ∧ n < 0x7F) ∨ (0x7F < n ∧ P.isPrintable c) then [c]
  else if n ≤ 0xFF then "\\x".toList ++ hexPadded 2 n
  else if n ≤ 0xFFFF then "\\u".toList ++ hexPadded 4 n
  else "\\U".toList ++ hexPadded 8 n

/-- `repr(s)`: in double quotes when there is a single one inside and no
double one. -/
def reprStr (P : Platform) (s : Str) : Str :=
  let quote := if '\'' ∈ s ∧ '"' ∉ s then '"' else '\''
  quote :: s.flatMap (reprChar P quote) ++ [quote]

/-! ## §4. Markup. -/

/-- `re.sub(r"<[^>]*>", " ", s)`; the flag says we are inside a tag whose `>`
lies ahead. -/
def dropTagsFrom : Bool → Str → Str
  | _, [] => []
  | true, c :: rest => if c = '>' then dropTagsFrom false rest else dropTagsFrom true rest
  | false, c :: rest =>
      if c = '<' ∧ '>' ∈ rest then ' ' :: dropTagsFrom true rest
      else c :: dropTagsFrom false rest

/-- `strip_markup`. -/
def stripMarkup (P : Platform) (value : Option Str) : Str :=
  match value with
  | none => []
  | some value =>
      if value = [] then []
      else strip (collapseSpace ((dropTagsFrom false value).filter fun ch => !P.isControl ch))

/-- `sanitize`: the angle brackets left over become their lookalikes, then the
text is cut to `maxChars`. -/
def sanitize (P : Platform) (value : Option Str) (maxChars : Option Nat := none) : Str :=
  let text := (stripMarkup P value).map fun ch =>
    if ch = '<' then '‹' else if ch = '>' then '›' else ch
  match maxChars with
  | none => text
  | some n =>
      -- `text[: n - 1]`; a cap of zero counts from the end, as in Python
      let kept := if n = 0 then text.dropLast else text.take (n - 1)
      if text.length > n then rstrip isSpace kept ++ ['…'] else text

/-- `text.rsplit(" ", 1)[0]`: everything before the last space, or all of it. -/
def beforeLastSpace (text : Str) : Str :=
  if ' ' ∈ text then (text.rdropWhile (· ≠ ' ')).dropLast else text

/-- `clip`: the headline, and whether it lost words. -/
def clip (P : Platform) (value : Option Str) (maxChars : Nat) : Str × Bool :=
  let text := sanitize P value
  if text.length ≤ maxChars then (text, false)
  else
    let cut := rstrip (fun c => c ∈ [' ', ',', ';', ':', '-'])
      (beforeLastSpace (text.take maxChars))
    (if cut ≠ [] then cut else text.take maxChars, true)

end Feedcast
