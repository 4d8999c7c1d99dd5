/-
  Feedcast.Lib.Pattern — a small backtracking pattern language over lists.

  `Pattern.run` lists every way a pattern can match a prefix of the input, as
  the symbol before the remaining input and that remaining input; `search`
  asks whether some suffix of the input has a match.  Patterns are generic in
  the alphabet; `boundary` is a zero-width test between two neighbours.
-/
import Mathlib.Data.List.Basic

namespace Feedcast.Lib

variable {α : Type*}

inductive Pattern (α : Type*) where
  | eps
  /-- One symbol of a class. -/
  | sym (p : α → Bool)
  /-- A zero-width test on the neighbours of the current position. -/
  | boundary (t : Option α → Option α → Bool)
  | seq (a b : Pattern α)
  | alt (a b : Pattern α)
  /-- At most `n` symbols of a class. -/
  | upTo (n : Nat) (p : α → Bool)
  /-- Any number of symbols of a class. -/
  | star (p : α → Bool)

/-- Every way to skip at most `n` symbols of a class. -/
def skipUpTo (p : α → Bool) : Nat → Option α → List α → List (Option α × List α)
  | 0, prev, s => [(prev, s)]
  | _ + 1, prev, [] => [(prev, [])]
  | n + 1, prev, c :: rest =>
      (prev, c :: rest) :: if p c then skipUpTo p n (some c) rest else []

namespace Pattern

def run : Pattern α → Option α → List α → List (Option α × List α)
  | .eps, prev, s => [(prev, s)]
  | .sym p, _, s =>
      match s with
      | [] => []
      | c :: rest => if p c then [(some c, rest)] else []
  | .boundary t, prev, s => if t prev s.head? then [(prev, s)] else []
  | .seq a b, prev, s => (a.run prev s).flatMap fun at' => b.run at'.1 at'.2
  | .alt a b, prev, s => a.run prev s ++ b.run prev s
  | .upTo n p, prev, s => skipUpTo p n prev s
  | .star p, prev, s => skipUpTo p s.length prev s

/-- The matches of the first suffix of the input that has any. -/
def find (a : Pattern α) : Option α → List α → List (Option α × List α)
  | prev, [] => a.run prev []
  | prev, c :: rest =>
      match a.run prev (c :: rest) with
      | [] => find a (some c) rest
      | hits => hits

/-- `re.search` as a truth value. -/
def search (a : Pattern α) (s : List α) : Bool := !(a.find none s).isEmpty

/-- A sequence of patterns. -/
def all (ps : List (Pattern α)) : Pattern α := ps.foldr .seq .eps

/-- A choice of patterns, the last one included. -/
def any (p : Pattern α) (ps : List (Pattern α)) : Pattern α := ps.foldl .alt p

end Pattern

end Feedcast.Lib
