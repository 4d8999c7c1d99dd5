/-
  Feedcast.Core.Words — the words that `strip_markup` leaves.

  Control characters go before whitespace is collapsed, and the newline and the
  tab are both: where one of them is all that stands between two words, the
  words run into one another.

    • `stripMarkup_words` — what is returned are the words of what is kept,
    • `control_joins` — whitespace that is dropped joins its neighbours,
    • `stripMarkup_iff` — when the words of what is kept are what is kept of the
      words.
-/
import Feedcast.Core.Hashing
import Feedcast.Lib.Codes
import Feedcast.Lib.Words

namespace Feedcast

open Feedcast.Lib

/-! ## §1. The property. -/

/-- The characters that `strip_markup` keeps: those outside category `C`. -/
def keeps (P : Platform) (c : Char) : Bool := !P.isControl c

/-- The words of a text, without the characters of category `C`. -/
def cleanWords (P : Platform) (value : Str) : List Str :=
  ((words isSpace value).map (List.filter (keeps P))).filter (· ≠ [])

/-- **Cleaning joins no words**: the words come out one by one, with single
spaces between them. -/
def JoinsNoWords (P : Platform) (value : Str) : Prop :=
  stripMarkup P (some value) = [' '].intercalate (cleanWords P value)

instance (P : Platform) (value : Str) : Decidable (JoinsNoWords P value) :=
  inferInstanceAs (Decidable (_ = _))

/-- **Whitespace between words is kept**: if there is any between a character
that stays in its word and the next such character, some of it lies outside
category `C`. -/
def WhitespaceKept (P : Platform) (value : Str) : Prop :=
  CutsKept (staysIn isSpace (keeps P)) (fun c => isSpace c && keeps P c) isSpace value

/-! ## §2. Whitespace, collapsed and stripped. -/

theorem rstrip_cons (p : Char → Bool) (c : Char) (s : Str) :
    rstrip p (c :: s) = if rstrip p s = [] ∧ p c = true then [] else c :: rstrip p s := by
  unfold rstrip List.rdropWhile
  rw [List.reverse_cons, List.dropWhile_append]
  by_cases hs : s.reverse.dropWhile p = []
  · by_cases hc : p c = true
    · simp [hs, hc]
    · simp [hs, hc]
  · simp [hs]

/-- Inside a run, whitespace in front is never printed. -/
theorem collapse_dropWhile (t : Str) :
    (collapseSpaceFrom true t).dropWhile isSpace = collapseSpaceFrom true t := by
  induction t with
  | nil => rfl
  | cons c t ih =>
      by_cases hc : isSpace c = true
      · simpa [collapseSpaceFrom, hc] using ih
      · simp [collapseSpaceFrom, hc]

theorem collapseSpace_dropWhile (t : Str) :
    (collapseSpace t).dropWhile isSpace = collapseSpaceFrom true t := by
  cases t with
  | nil => rfl
  | cons c t =>
      by_cases hc : isSpace c = true
      · have hspace : isSpace ' ' = true := by decide
        simp [collapseSpace, collapseSpaceFrom, hc, hspace, collapse_dropWhile]
      · simp [collapseSpace, collapseSpaceFrom, hc]

/-- Words are not empty, and neither is a text joined of some. -/
theorem joined_eq_nil {sep : Char → Bool} {t : Str} :
    [' '].intercalate (words sep t) = [] ↔ words sep t = [] := by
  constructor
  · intro h
    cases hw : words sep t with
    | nil => rfl
    | cons w ws =>
        rw [hw, intercalate_cons_tail] at h
        -- no word is empty
        have hne := (mem_words (hw ▸ List.mem_cons_self : w ∈ words sep t)).1
        exact absurd (List.append_eq_nil_iff.mp h).1 hne
  · intro h
    rw [h]
    rfl

/-- **Collapsing and stripping leaves the words**, joined by single spaces. -/
theorem strip_collapseSpace (t : Str) :
    strip (collapseSpace t) = [' '].intercalate (words isSpace t) := by
  unfold strip
  rw [collapseSpace_dropWhile]
  induction t with
  | nil => rfl
  | cons c t ih =>
      by_cases hc : isSpace c = true
      · rw [words_cons_sep hc, ← ih]
        simp [collapseSpaceFrom, hc]
      · have hcf : isSpace c = false := by simpa using hc
        -- the character stays, whatever the right strip takes off behind it
        have hstep : rstrip isSpace (collapseSpaceFrom true (c :: t))
            = c :: rstrip isSpace (collapseSpaceFrom false t) := by
          simp [collapseSpaceFrom, hcf, rstrip_cons]
        rw [hstep]
        cases t with
        | nil =>
            rw [words_of_noSep (by simp) (by simpa using hcf)]
            rfl
        | cons d t =>
            by_cases hd : isSpace d = true
            · -- the word `c` ends here, and a space follows if more words do
              have hrest : collapseSpaceFrom false (d :: t)
                  = ' ' :: collapseSpaceFrom true (d :: t) := by
                simp [collapseSpaceFrom, hd]
              rw [hrest, rstrip_cons, ih, words_alone hcf hd]
              simp only [joined_eq_nil]
              cases words isSpace (d :: t) with
              | nil => simp [show isSpace ' ' = true by decide, List.intercalate]
              | cons w ws => simp [intercalate_cons_tail]
            · have hdf : isSpace d = false := by simpa using hd
              -- the word goes on: `c` is put in front of it
              obtain ⟨w, ws, hwords, hgrow⟩ := words_grow hcf hdf t
              have hrest : collapseSpaceFrom false (d :: t) = collapseSpaceFrom true (d :: t) := by
                simp [collapseSpaceFrom, hdf]
              rw [hrest, ih, hwords, hgrow, intercalate_cons_tail, intercalate_cons_tail]
              rfl

/-! ## §3. The words of a text without markup. -/

theorem dropTagsFrom_of_noTag {value : Str} (h : '<' ∉ value) :
    dropTagsFrom false value = value := by
  induction value with
  | nil => rfl
  | cons c value ih =>
      rw [List.mem_cons, not_or] at h
      have hc : ¬ (c = '<' ∧ '>' ∈ value) := fun hopen => h.1 hopen.1.symm
      rw [dropTagsFrom, if_neg hc, ih h.2]

/-- **What is returned are the words of what is kept.** -/
theorem stripMarkup_words (P : Platform) (value : Str) :
    stripMarkup P (some value)
      = [' '].intercalate (words isSpace ((dropTagsFrom false value).filter (keeps P))) := by
  rw [← strip_collapseSpace]
  cases value with
  | nil => rfl
  | cons c value => rfl

/-- A list of words can be read back from the text they are joined to. -/
theorem joined_inj {xs ys : List Str} (hx : ∀ x ∈ xs, x ≠ [] ∧ ∀ c ∈ x, isSpace c = false)
    (hy : ∀ y ∈ ys, y ≠ [] ∧ ∀ c ∈ y, isSpace c = false) :
    [' '].intercalate xs = [' '].intercalate ys ↔ xs = ys := by
  -- a word has no space in it, so the spaces are where the words end
  have avoid : ∀ w : Str, (∀ c ∈ w, isSpace c = false) → ' ' ∉ w := by
    intro w hw hmem
    exact absurd (hw ' ' hmem) (by decide)
  constructor
  · intro h
    exact intercalate_injective ' ' xs ys (fun x hmem => ⟨avoid x (hx x hmem).2, (hx x hmem).1⟩)
      (fun y hmem => ⟨avoid y (hy y hmem).2, (hy y hmem).1⟩) h
  · intro h
    rw [h]

theorem mem_cleanWords {P : Platform} {value w : Str} (h : w ∈ cleanWords P value) :
    w ≠ [] ∧ ∀ c ∈ w, isSpace c = false := by
  obtain ⟨hw, hne⟩ := List.mem_filter.mp h
  obtain ⟨whole, hwhole, rfl⟩ := List.mem_map.mp hw
  refine ⟨by simpa using hne, fun c hc => (mem_words hwhole).2 c (List.mem_filter.mp hc).1⟩

/-! ## §4. When whitespace is kept. -/

/-- Whitespace outside category `C` is kept. -/
theorem whitespaceKept_of_keeps {P : Platform} {value : Str}
    (h : ∀ c ∈ value, isSpace c = true → keeps P c = true) : WhitespaceKept P value := by
  intro front x rest hvalue _ _ hgap
  obtain ⟨g, hg, hspace⟩ := hgap
  have hmem : g ∈ value := by
    rw [hvalue]
    have hrest : g ∈ rest := (List.takeWhile_prefix _).subset hg
    simp [hrest]
  exact ⟨g, hg, by simp [hspace, h g hmem hspace]⟩

/-- **Whitespace that is dropped joins its neighbours.** -/
theorem control_joins {P : Platform} {front between rest : Str} {x y : Char}
    (hx : staysIn isSpace (keeps P) x = true) (hy : staysIn isSpace (keeps P) y = true)
    (hne : between ≠ []) (hdrop : ∀ c ∈ between, isSpace c = true ∧ P.isControl c = true) :
    ¬ WhitespaceKept P (front ++ x :: (between ++ y :: rest)) := by
  intro h
  -- the gap is all of what stands between, and none of it is kept
  have hgap : gapBefore (staysIn isSpace (keeps P)) (between ++ y :: rest) = between := by
    refine takeWhile_append_of_stop (fun c hc => ?_) ((stops_cons _ _ _).mpr (by simp [hy]))
    simp [staysIn, (hdrop c hc).1]
  obtain ⟨c, hc⟩ := List.exists_mem_of_ne_nil between hne
  obtain ⟨g, hg, hkept⟩ := h front x _ rfl hx ⟨y, by simp, hy⟩
    ⟨c, hgap.symm ▸ hc, (hdrop c hc).1⟩
  rw [hgap] at hg
  simp [keeps, (hdrop g hg).2] at hkept

/-! ## §5. Words, one by one. -/

/-- **CLEANING JOINS NO WORDS EXACTLY IF WHITESPACE BETWEEN THEM IS KEPT**, in a
text without `<`. -/
theorem stripMarkup_iff (P : Platform) (value : Str) (h : '<' ∉ value) :
    JoinsNoWords P value ↔ WhitespaceKept P value := by
  unfold JoinsNoWords WhitespaceKept
  rw [stripMarkup_words, dropTagsFrom_of_noTag h,
    joined_inj (fun x hx => mem_words hx) (fun x hx => mem_cleanWords hx)]
  exact words_filter_eq_iff isSpace (keeps P) value

theorem stripMarkup_iff_oneLine : JoinsNoWords feedless "one two".toList := by
  refine (stripMarkup_iff feedless _ (by decide)).mpr (whitespaceKept_of_keeps ?_)
  have hall : "one two".toList.all (fun c => !isSpace c || keeps feedless c) = true := by decide
  intro c hc hspace
  simpa [hspace] using List.all_eq_true.mp hall c hc

/-- Two words, and nothing but a line break between them. -/
def twoLines : Str := "one\ntwo".toList

/-- The word at the end of a line and the one at the start of the next are one. -/
theorem twoLines_joined :
    feedless.isControl '\n' = true ∧ '<' ∉ twoLines ∧ ¬ JoinsNoWords feedless twoLines
      ∧ stripMarkup feedless (some twoLines) = "onetwo".toList := by
  decide

end Feedcast
