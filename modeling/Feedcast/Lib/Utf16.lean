/-
  Feedcast.Lib.Utf16 — text as UTF-16 code units.

  A character outside the first plane takes two units, the surrogates.  A list
  of units need not be text: a unit of a pair can stand alone.  `decode` is
  partial for that, and what it reads is what `encode` wrote (`encode_of_decode`).
-/
import Mathlib.Data.List.Basic
import Mathlib.Data.Char
import Mathlib.Tactic.Common

namespace Feedcast.Lib.Utf16

/-! ## §1. Units. -/

/-- The units of one character. -/
def encodeChar (c : Char) : List UInt16 :=
  let n := c.toNat
  if n < 0x10000 then [UInt16.ofNat n]
  else
    [UInt16.ofNat (0xD800 + (n - 0x10000) / 0x400),
      UInt16.ofNat (0xDC00 + (n - 0x10000) % 0x400)]

def encode (text : List Char) : List UInt16 := text.flatMap encodeChar

/-- The first half of a pair. -/
def isHigh (u : UInt16) : Bool := 0xD800 ≤ u.toNat && u.toNat < 0xDC00

/-- The second half of a pair. -/
def isLow (u : UInt16) : Bool := 0xDC00 ≤ u.toNat && u.toNat < 0xE000

/-- The character of a pair. -/
def pair (high low : UInt16) : Char :=
  Char.ofNat (0x10000 + (high.toNat - 0xD800) * 0x400 + (low.toNat - 0xDC00))

/-- The text of the units, unless half a pair stands alone. -/
def decode : List UInt16 → Option (List Char)
  | [] => some []
  | [u] => if isHigh u || isLow u then none else some [Char.ofNat u.toNat]
  | u :: v :: rest =>
      if isHigh u then
        if isLow v then (decode rest).map (pair u v :: ·) else none
      else if isLow u then none
      else (decode (v :: rest)).map (Char.ofNat u.toNat :: ·)

/-! ## §2. Lengths. -/

@[simp] theorem encode_nil : encode [] = [] := rfl

@[simp] theorem encode_append (a b : List Char) : encode (a ++ b) = encode a ++ encode b :=
  List.flatMap_append

theorem encodeChar_length_pos (c : Char) : 1 ≤ (encodeChar c).length := by
  unfold encodeChar
  by_cases h : c.toNat < 0x10000
  · simp [h]
  · simp [h]

/-- A text has at least as many units as characters. -/
theorem length_le_encode (text : List Char) : text.length ≤ (encode text).length := by
  induction text with
  | nil => exact le_refl 0
  | cons c text ih =>
      have hc := encodeChar_length_pos c
      show text.length + 1 ≤ (encodeChar c ++ encode text).length
      rw [List.length_append]
      omega

theorem encode_length_mono {a b : List Char} (h : a <+: b) :
    (encode a).length ≤ (encode b).length := by
  obtain ⟨rest, rfl⟩ := h
  rw [encode_append, List.length_append]
  exact Nat.le_add_right _ _

/-! ## §3. Reading back. -/

theorem toNat_ofNat {n : Nat} (h : n.isValidChar) : (Char.ofNat n).toNat = n := by
  rw [Char.ofNat, dif_pos h]
  rfl

theorem encodeChar_pair {high low : UInt16} (hh : isHigh high) (hl : isLow low) :
    encodeChar (pair high low) = [high, low] := by
  simp only [isHigh, isLow, Bool.and_eq_true, decide_eq_true_eq] at hh hl
  have hn : (pair high low).toNat
      = 0x10000 + (high.toNat - 0xD800) * 0x400 + (low.toNat - 0xDC00) := by
    exact toNat_ofNat (Or.inr ⟨by omega, by omega⟩)
  unfold encodeChar
  rw [hn, if_neg (by omega)]
  have hhigh : 0xD800 + (0x10000 + (high.toNat - 0xD800) * 0x400 + (low.toNat - 0xDC00) - 0x10000)
      / 0x400 = high.toNat := by omega
  have hlow : 0xDC00 + (0x10000 + (high.toNat - 0xD800) * 0x400 + (low.toNat - 0xDC00) - 0x10000)
      % 0x400 = low.toNat := by omega
  rw [hhigh, hlow, UInt16.ofNat_toNat, UInt16.ofNat_toNat]

theorem encodeChar_single {u : UInt16} (hh : isHigh u = false) (hl : isLow u = false) :
    encodeChar (Char.ofNat u.toNat) = [u] := by
  simp only [isHigh, isLow, Bool.and_eq_false_iff, decide_eq_false_iff_not] at hh hl
  have hlt := u.toNat_lt
  have hn : (Char.ofNat u.toNat).toNat = u.toNat := by
    refine toNat_ofNat ?_
    -- below the surrogates, or above them
    rcases Nat.lt_or_ge u.toNat 0xD800 with h | h
    · exact Or.inl h
    · exact Or.inr ⟨by omega, by omega⟩
  unfold encodeChar
  rw [hn, if_pos (by omega), UInt16.ofNat_toNat]

/-- **What decodes is what the text encodes to.** -/
theorem encode_of_decode {units : List UInt16} {text : List Char}
    (h : decode units = some text) : encode text = units := by
  induction units using decode.induct generalizing text with
  | case1 =>
      cases h
      rfl
  | case2 u hu => simp [decode, hu] at h
  | case3 u hu =>
      simp only [decode, hu, if_neg, Bool.false_eq_true, not_false_eq_true, Option.some.injEq] at h
      rw [← h]
      simp only [Bool.not_eq_true, Bool.or_eq_false_iff] at hu
      simp [encode, encodeChar_single hu.1 hu.2]
  -- a pair of surrogates is one character, which encodes back to the pair
  | case4 u v rest hu hv ih =>
      simp only [decode, hu, hv, if_true, Option.map_eq_some_iff] at h
      obtain ⟨text', h', rfl⟩ := h
      have hrest := ih h'
      unfold encode at hrest ⊢
      rw [List.flatMap_cons, hrest, encodeChar_pair hu hv]
      rfl
  | case5 u v rest hu hv => simp [decode, hu, hv] at h
  | case6 u v rest hu hl => simp [decode, hu, hl] at h
  -- a unit that is no surrogate is a character by itself
  | case7 u v rest hu hl ih =>
      simp only [decode, hu, hl, if_false, Bool.false_eq_true, Option.map_eq_some_iff] at h
      obtain ⟨text', h', rfl⟩ := h
      have hrest := ih h'
      simp only [Bool.not_eq_true] at hu hl
      unfold encode at hrest ⊢
      rw [List.flatMap_cons, hrest, encodeChar_single hu hl]
      rfl

end Feedcast.Lib.Utf16
