/-
  Feedcast.Core.Percent — a text as one segment of a path, and its case folded.

  In a path every byte that is no letter, digit or one of `_.-~` is written as
  `%XX`.  Folding the case of that form does not undo it:

    • `percentEncode_of_unreserved` — a text of such characters is its own form,
    • `casefold_percentEncode_iff` — no other folds to what its form folds to,
    • `urlsplit_path` — a rooted path of such forms is a URL that splits into
      itself.
-/
import Feedcast.Core.Url

namespace Feedcast

open Feedcast.Lib

/-! ## §1. The form of a text. -/

/-- One byte of a path segment. -/
def percentByte (b : UInt8) : Str :=
  if alwaysSafe b then [Char.ofNat b.toNat]
  else ['%', hexDigit (b.toNat / 16), hexDigit (b.toNat % 16)]

/-- The percent-encoded form of a text. -/
def percentEncode (text : Str) : Str := (utf8 text).flatMap percentByte

/-- The characters that stand for themselves. -/
def unreserved (c : Char) : Bool := decide (c.toNat < 128) && alwaysSafe (UInt8.ofNat c.toNat)

theorem percentEncode_cons (c : Char) (text : Str) :
    percentEncode (c :: text) = percentEncode [c] ++ percentEncode text := by
  simp [percentEncode, utf8]

theorem utf8_ascii {c : Char} (hc : c.toNat < 128) : utf8 [c] = [UInt8.ofNat c.toNat] := by
  have hsize : c.utf8Size = 1 := by
    rw [Char.utf8Size_eq_one_iff, UInt32.le_iff_toNat_le]
    exact Nat.le_of_lt_succ hc
  rw [utf8, List.flatMap_singleton, String.utf8EncodeChar_eq_singleton hsize]
  rfl

/-- The bytes of a wider character, and there are at least two of them, all lie
beyond ASCII. -/
theorem utf8_wide {c : Char} (hc : ¬ c.toNat < 128) :
    2 ≤ (utf8 [c]).length ∧ ∀ b ∈ utf8 [c], 128 ≤ b.toNat := by
  -- the marker bits of such a byte
  have hmark : ∀ x y : Nat, 128 ≤ y → 128 ≤ x ||| y := fun _ _ hy => le_trans hy Nat.right_le_or
  rw [utf8, List.flatMap_singleton]
  rcases Char.utf8Size_eq c with hone | htwo | hthree | hfour
  · -- one byte is ASCII
    rw [Char.utf8Size_eq_one_iff, UInt32.le_iff_toNat_le] at hone
    exact absurd (Nat.lt_succ_of_le hone) hc
  · rw [String.utf8EncodeChar_eq_cons_cons htwo]
    simp [hmark]
  · rw [String.utf8EncodeChar_eq_cons_cons_cons hthree]
    simp [hmark]
  · rw [String.utf8EncodeChar_eq_cons_cons_cons_cons hfour]
    simp [hmark]

theorem percentEncode_unreserved {c : Char} (hc : unreserved c = true) :
    percentEncode [c] = [c] := by
  obtain ⟨hascii, hsafe⟩ : c.toNat < 128 ∧ alwaysSafe (UInt8.ofNat c.toNat) = true := by
    simpa [unreserved] using hc
  rw [percentEncode, utf8_ascii hascii, List.flatMap_singleton, percentByte, if_pos hsafe,
    UInt8.toNat_ofNat_of_lt' (lt_trans hascii (by decide)), Char.ofNat_toNat]

/-- A text of such characters is its own form. -/
theorem percentEncode_of_unreserved {text : Str} (h : ∀ c ∈ text, unreserved c = true) :
    percentEncode text = text := by
  induction text with
  | nil => rfl
  | cons c text ih =>
      rw [percentEncode_cons, percentEncode_unreserved (h c List.mem_cons_self),
        ih fun d hd => h d (List.mem_cons_of_mem c hd), List.singleton_append]

theorem percentByte_length {b : UInt8} (hb : alwaysSafe b = false) :
    (percentByte b).length = 3 := by
  simp [percentByte, hb]

/-- Any other character takes up three characters, and six if it is wide. -/
theorem percentEncode_reserved {c : Char} (hc : unreserved c = false) :
    (c.toNat < 128 ∧ (percentEncode [c]).length = 3) ∨ 6 ≤ (percentEncode [c]).length := by
  by_cases hascii : c.toNat < 128
  · have hsafe : alwaysSafe (UInt8.ofNat c.toNat) = false := by simpa [unreserved, hascii] using hc
    refine Or.inl ⟨hascii, ?_⟩
    rw [percentEncode, utf8_ascii hascii, List.flatMap_singleton, percentByte_length hsafe]
  -- beyond ASCII there are at least two bytes, each of them escaped
  · obtain ⟨htwo, hwide⟩ := utf8_wide hascii
    refine Or.inr ?_
    have hthree : ∀ b ∈ utf8 [c], (percentByte b).length = 3 := by
      intro b hb
      refine percentByte_length ?_
      have := hwide b hb
      simp only [alwaysSafe, Bool.or_eq_false_iff, Bool.and_eq_false_iff, decide_eq_false_iff_not,
        beq_eq_false_iff_ne]
      omega
    rw [percentEncode, List.length_flatMap, List.map_congr_left hthree]
    simp
    omega

theorem percentEncode_ne_nil {text : Str} (h : text ≠ []) : percentEncode text ≠ [] := by
  cases text with
  | nil => exact absurd rfl h
  | cons c text =>
      intro hnil
      rw [percentEncode_cons, List.append_eq_nil_iff] at hnil
      -- a character gives itself, or at least three
      cases hc : unreserved c with
      | true =>
          rw [percentEncode_unreserved hc] at hnil
          exact absurd hnil.1 (List.cons_ne_nil _ _)
      | false =>
          have hlength := congrArg List.length hnil.1
          rw [List.length_nil] at hlength
          rcases percentEncode_reserved hc with ⟨-, hthree⟩ | hsix
          · omega
          · omega

theorem alwaysSafe_lt {b : UInt8} (hb : alwaysSafe b = true) : b.toNat < 128 := by
  simp only [alwaysSafe, Bool.or_eq_true, Bool.and_eq_true, decide_eq_true_eq,
    beq_iff_eq] at hb
  omega

theorem unreserved_hexDigit (n : Nat) : unreserved (hexDigit n) = true := by
  have table : ∀ i < 16, unreserved (hexDigit i) = true := by decide
  exact hexDigit_forall (p := fun c => unreserved c = true) table n

/-- Every character of a form stands for itself, or is the percent sign. -/
theorem mem_percentEncode {text : Str} {c : Char} (h : c ∈ percentEncode text) :
    unreserved c = true ∨ c = '%' := by
  obtain ⟨b, -, hb⟩ := List.mem_flatMap.mp h
  unfold percentByte at hb
  by_cases hsafe : alwaysSafe b = true
  · rw [if_pos hsafe, List.mem_singleton] at hb
    have hlt := alwaysSafe_lt hsafe
    -- a safe byte is an ASCII character
    have hvalid : b.toNat.isValidChar := by left; omega
    have hnat : c.toNat = b.toNat := by
      rw [hb, Char.ofNat, dif_pos hvalid]
      rfl
    refine Or.inl ?_
    simp [unreserved, hnat, hlt, hsafe]
  · rw [if_neg hsafe] at hb
    simp only [List.mem_cons, List.not_mem_nil, or_false] at hb
    rcases hb with rfl | rfl | rfl
    · exact Or.inr rfl
    · exact Or.inl (unreserved_hexDigit _)
    · exact Or.inl (unreserved_hexDigit _)

/-! ## §2. Case folding. -/

/-- **`str.casefold` folds one character at a time**: those of ASCII to lower
case, and none to more than three. -/
structure Platform.Casefolds (P : Platform) : Prop where
  each : ∀ text, P.casefold text = text.flatMap fun c => P.casefold [c]
  ascii : ∀ c, c.toNat < 128 → P.casefold [c] = [c.toLower]
  short : ∀ c, (P.casefold [c]).length ≤ 3

section Casefold

variable {P : Platform}

/-- ASCII text folds to its lower case. -/
theorem Platform.Casefolds.of_ascii (h : P.Casefolds) {text : Str}
    (hascii : ∀ c ∈ text, c.toNat < 128) : P.casefold text = text.map Char.toLower := by
  rw [h.each]
  induction text with
  | nil => rfl
  | cons c text ih =>
      rw [List.flatMap_cons, h.ascii c (hascii c List.mem_cons_self),
        ih fun d hd => hascii d (List.mem_cons_of_mem c hd)]
      rfl

theorem mem_percentEncode_ascii {text : Str} {c : Char} (h : c ∈ percentEncode text) :
    c.toNat < 128 := by
  rcases mem_percentEncode h with hc | rfl
  · simp only [unreserved, Bool.and_eq_true, decide_eq_true_eq] at hc
    exact hc.1
  · decide

/-- The form of a character folds to no fewer characters than the character
does, and to more if it does not stand for itself. -/
theorem Platform.Casefolds.length_le (h : P.Casefolds) (c : Char) :
    (P.casefold [c]).length ≤ (percentEncode [c]).length
      ∧ (unreserved c = false → (P.casefold [c]).length < (percentEncode [c]).length) := by
  -- a plain character is one either way; any other takes three or more
  by_cases hc : unreserved c = true
  · have hascii : c.toNat < 128 := by
      simp only [unreserved, Bool.and_eq_true, decide_eq_true_eq] at hc
      exact hc.1
    rw [percentEncode_unreserved hc, h.ascii c hascii]
    exact ⟨le_refl _, fun hnot => absurd hc (by simp [hnot])⟩
  · have hlt : (P.casefold [c]).length < (percentEncode [c]).length := by
      rcases percentEncode_reserved (Bool.not_eq_true _ ▸ hc) with ⟨hascii, hthree⟩ | hsix
      · rw [h.ascii c hascii, hthree]
        simp
      · exact lt_of_le_of_lt (h.short c) (by omega)
    exact ⟨hlt.le, fun _ => hlt⟩

/-- **The form of a text folds to what the text folds to exactly if all its
characters stand for themselves.** -/
theorem casefold_percentEncode_iff (h : P.Casefolds) (text : Str) :
    P.casefold (percentEncode text) = P.casefold text ↔ ∀ c ∈ text, unreserved c = true := by
  constructor
  · intro hfold c hc
    -- were one of them encoded, the form would fold to a longer text
    have hlength : ∀ text : Str, (P.casefold text).length ≤ (percentEncode text).length
        ∧ ((∃ c ∈ text, unreserved c = false) →
          (P.casefold text).length < (percentEncode text).length) := by
      intro text
      induction text with
      | nil =>
          have hnil : P.casefold [] = [] := h.each []
          simp [hnil]
      | cons d text ih =>
          have hcons : (P.casefold (d :: text)).length
              = (P.casefold [d]).length + (P.casefold text).length := by
            rw [h.each (d :: text), List.flatMap_cons, List.length_append, ← h.each text]
          obtain ⟨hle, hlt⟩ := h.length_le d
          rw [percentEncode_cons, List.length_append, hcons]
          refine ⟨by omega, fun hex => ?_⟩
          obtain ⟨c, hc, hreserved⟩ := hex
          rcases List.mem_cons.mp hc with hcd | hc
          · have := hlt (hcd ▸ hreserved)
            omega
          · have := ih.2 ⟨c, hc, hreserved⟩
            omega
    have hsame := congrArg List.length hfold
    rw [h.of_ascii fun c hc => mem_percentEncode_ascii hc, List.length_map] at hsame
    cases hreserved : unreserved c with
    | true => rfl
    | false =>
        have := (hlength text).2 ⟨c, hc, hreserved⟩
        omega
  · intro hall
    rw [percentEncode_of_unreserved hall]

end Casefold

/-! ## §3. A path of such segments. -/

/-- What may stand in a path that needs no more escaping. -/
def pathChar (c : Char) : Bool := unreserved c || c == '%' || c == '/'

theorem pathChar_plain {c : Char} (hc : pathChar c = true) :
    0x20 < c.toNat ∧ c ≠ ':' ∧ c ≠ '?' ∧ c ≠ '#' := by
  -- all of them are ASCII, so the rest is a table
  have hascii : c.toNat < 128 := by
    simp only [pathChar, unreserved, Bool.or_eq_true, Bool.and_eq_true, decide_eq_true_eq,
      beq_iff_eq] at hc
    rcases hc with (hc | rfl) | rfl
    · exact hc.1
    · decide
    · decide
  have table : ∀ n < 128, pathChar (Char.ofNat n) = true →
      0x20 < n ∧ Char.ofNat n ≠ ':' ∧ Char.ofNat n ≠ '?' ∧ Char.ofNat n ≠ '#' := by decide
  have := table c.toNat hascii
  rw [Char.ofNat_toNat] at this
  exact this hc

/-- A text without the separator is cut into itself and nothing. -/
theorem cut_of_not_mem {c : Char} {s : Str} (h : c ∉ s) : cut c s = (s, []) := by
  have hall : ∀ d ∈ s, decide (d ≠ c) = true := by
    intro d hd
    simp only [ne_eq, decide_eq_true_eq]
    intro hdc
    exact h (hdc ▸ hd)
  unfold cut
  rw [List.takeWhile_eq_self_iff.mpr hall, List.dropWhile_eq_nil_iff.mpr hall]
  rfl

/-- **A rooted path without host is a URL that splits into itself.** -/
theorem urlsplit_path (P : Platform) {c : Char} {rest : Str} (hc : c ≠ '/')
    (hplain : ∀ d ∈ '/' :: c :: rest, pathChar d = true) :
    urlsplit P ('/' :: c :: rest) = .ok ⟨[], [], '/' :: c :: rest, [], []⟩ := by
  -- none of the characters that `urlsplit` strips
  have hclean : cleanUrl ('/' :: c :: rest) = '/' :: c :: rest := by
    unfold cleanUrl
    rw [List.dropWhile_cons_of_neg (by decide), List.filter_eq_self]
    intro d hd
    have hd' := (pathChar_plain (hplain d hd)).1
    simp only [List.mem_cons, List.not_mem_nil, or_false, decide_eq_true_eq, not_or]
    refine ⟨?_, ?_, ?_⟩
    all_goals
      intro heq
      rw [heq] at hd'
      exact absurd hd' (by decide)
  have hscheme : splitScheme ('/' :: c :: rest) = ([], '/' :: c :: rest) := by
    have hcolon : ('/' :: c :: rest).dropWhile (· ≠ ':') = [] := by
      rw [List.dropWhile_eq_nil_iff]
      intro d hd
      simpa using (pathChar_plain (hplain d hd)).2.1
    unfold splitScheme
    rw [hcolon]
  -- a second slash would begin a netloc
  have hnetloc : splitNetloc ('/' :: c :: rest) = ([], '/' :: c :: rest) := by
    unfold splitNetloc
    split
    · rename_i heq
      exact absurd (List.cons.inj (List.cons.inj heq).2).1 hc
    · rfl
  have hhash : '#' ∉ '/' :: c :: rest := fun hmem => (pathChar_plain (hplain _ hmem)).2.2.2 rfl
  have hquery : '?' ∉ '/' :: c :: rest := fun hmem => (pathChar_plain (hplain _ hmem)).2.2.1 rfl
  unfold urlsplit
  rw [hclean, hscheme]
  simp only [hnetloc, cut_of_not_mem hhash, cut_of_not_mem hquery]
  rfl

end Feedcast
