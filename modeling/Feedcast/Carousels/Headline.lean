/-
  Feedcast.Carousels.Headline — where `clip` cuts a headline.

  What is wanted is the last whole word that fits: the longest prefix, within so
  many characters, that a space follows, without the punctuation behind it.
  `clip` looks for a space among the characters of the window alone.  A window
  that ends with a word, right before a space, loses that word.

    • `ClipsAtWord` — the property of a result,
    • `DropsWord` — the texts whose last whole word is dropped,
    • `clip_iff` — the property holds of all other texts, and of no such text.
-/
import Feedcast.Carousels.SlideText

namespace Feedcast

/-! ## §1. The property. -/

/-- The longest prefix of at most `n` characters that ends at a word end, with a
space behind it, has `k` of them. -/
def LastWordEnd (text : Str) (n k : Nat) : Prop :=
  k ≤ n ∧ text[k]? = some ' ' ∧ ∀ j, k < j → j ≤ n → text[j]? ≠ some ' '

/-- **Cut at the last whole word that fits.** -/
structure ClipsAtWord (text : Str) (n : Nat) (result : Str × Bool) : Prop where
  kept : result.1 <+: text
  short : result.1.length ≤ n
  flag : result.2 = false ↔ result.1 = text
  word : result.2 = true → ∀ k, LastWordEnd text n k → rstrip trimmed (text.take k) ≠ [] →
    result.1 = rstrip trimmed (text.take k)
  hard : result.2 = true → (∀ k, LastWordEnd text n k → rstrip trimmed (text.take k) = []) →
    ∃ rest, text.take n = result.1 ++ rest ∧ ∀ c ∈ rest, trimmed c = true
  some : result.2 = true → result.1 ≠ []

/-- The window ends with a word that is not all punctuation, right before a space,
and is not all there is: something else stands before the word, or punctuation
at its end. -/
def DropsWord (text : Str) (n : Nat) : Prop :=
  text[n]? = some ' ' ∧ ∃ before word, text.take n = before ++ ' ' :: word ∧ ' ' ∉ word ∧
    (∃ c ∈ word, trimmed c = false) ∧
    ((∃ c ∈ before, trimmed c = false) ∨ ∃ front c, word = front ++ [c] ∧ trimmed c = true)

/-! ## §2. The window. -/

section Window

variable {text before word : Str} {n k : Nat}

theorem rstrip_eq_nil {t : Str} : rstrip trimmed t = [] ↔ ∀ c ∈ t, trimmed c = true :=
  List.rdropWhile_eq_nil_iff

theorem rstrip_ne_nil {t : Str} : rstrip trimmed t ≠ [] ↔ ∃ c ∈ t, trimmed c = false := by
  rw [Ne, rstrip_eq_nil]
  push Not
  simp

/-- The last space is the one with no space behind it. -/
theorem beforeLastSpace_split (before : Str) (hword : ' ' ∉ word) :
    beforeLastSpace (before ++ ' ' :: word) = before := by
  rcases beforeLastSpace_cases (before ++ ' ' :: word) with ⟨hnone, -⟩ | ⟨after, hafter, hsplit⟩
  · exact absurd (by simp) hnone
  · generalize beforeLastSpace (before ++ ' ' :: word) = found at hsplit ⊢
    -- two splits at a space with no space behind: they are the same
    rcases List.append_eq_append_iff.mp hsplit with ⟨more, rfl, hrest⟩ | ⟨more, rfl, hrest⟩
    · cases more with
      | nil => exact List.append_nil _
      | cons d more =>
          obtain ⟨-, hrest⟩ := List.cons.inj hrest
          exact absurd (hrest ▸ by simp) hword
    · cases more with
      | nil => exact (List.append_nil _).symm
      | cons d more =>
          obtain ⟨-, hrest⟩ := List.cons.inj hrest
          exact absurd (hrest ▸ by simp) hafter

/-- What is stripped is punctuation. -/
theorem rstrip_rest (t : Str) :
    ∃ rest, t = rstrip trimmed t ++ rest ∧ ∀ c ∈ rest, trimmed c = true :=
  ⟨t.rtakeWhile trimmed, List.rdropWhile_append_rtakeWhile.symm,
    fun _ hc => List.mem_rtakeWhile_imp hc⟩

/-- Punctuation at the end is stripped. -/
theorem rstrip_append {rest : Str} (t : Str) (hrest : ∀ c ∈ rest, trimmed c = true) :
    rstrip trimmed (t ++ rest) = rstrip trimmed t := by
  induction rest using List.reverseRecOn with
  | nil => rw [List.append_nil]
  | append_singleton rest d ih =>
      have hd : trimmed d = true := hrest d (by simp)
      rw [← List.append_assoc]
      refine (List.rdropWhile_concat_pos _ _ _ hd).trans (ih fun c hc => hrest c ?_)
      exact List.mem_append_left _ hc

/-- **A window in the middle of a word** ends at the last space in it. -/
theorem window_inside (hlong : n < text.length) (hn : text[n]? ≠ some ' ')
    (hsplit : text.take n = before ++ ' ' :: word) (hword : ' ' ∉ word) :
    LastWordEnd text n before.length ∧ text.take before.length = before := by
  have hlen : before.length < n := by
    have h := congrArg List.length hsplit
    rw [List.length_take_of_le (le_of_lt hlong), List.length_append, List.length_cons] at h
    omega
  -- inside the window the text is the window
  have hget {j : Nat} (hj : j < n) : text[j]? = (before ++ ' ' :: word)[j]? := by
    rw [← hsplit, List.getElem?_take_of_lt hj]
  refine ⟨⟨le_of_lt hlen, ?_, ?_⟩, ?_⟩
  · rw [hget hlen]
    simp
  · intro j hbefore hj hspace
    rcases lt_or_eq_of_le hj with hlt | rfl
    · -- behind the last space of the window there is none
      rw [hget hlt, List.getElem?_append_right (le_of_lt hbefore)] at hspace
      obtain ⟨d, hd⟩ : ∃ d, j - before.length = d + 1 := ⟨j - before.length - 1, by omega⟩
      rw [hd, List.getElem?_cons_succ] at hspace
      exact hword (List.mem_of_getElem? hspace)
    · exact hn hspace
  · calc text.take before.length = (text.take n).take before.length := by
          rw [List.take_take, Nat.min_eq_left (le_of_lt hlen)]
      _ = before := by rw [hsplit, List.take_left]

/-- A window has one last word end. -/
theorem LastWordEnd.unique {k' : Nat} (h : LastWordEnd text n k) (h' : LastWordEnd text n k') :
    k' = k := by
  rcases lt_trichotomy k' k with hlt | heq | hgt
  · exact absurd h.2.1 (h'.2.2 _ hlt h.1)
  · exact heq
  · exact absurd h'.2.1 (h.2.2 _ hgt h'.1)

/-- A window with a space right behind it ends at a word end. -/
theorem window_end (hn : text[n]? = some ' ') : LastWordEnd text n k ↔ k = n := by
  constructor
  · intro h
    obtain ⟨hle, -, hlast⟩ := h
    by_contra hne
    exact hlast n (by omega) (le_refl n) hn
  · intro h
    subst h
    exact ⟨le_refl _, hn, fun j hj hle => absurd hle (not_le_of_gt hj)⟩

/-- The word a window ends with is what stripping the window leaves, behind all
that comes before it. -/
theorem rstrip_word (before : Str) (hword : ∃ c ∈ word, trimmed c = false) :
    rstrip trimmed (before ++ ' ' :: word) = before ++ ' ' :: rstrip trimmed word := by
  obtain ⟨rest, hrest, htrimmed⟩ := rstrip_rest word
  -- the stripped word ends in a character that stays
  obtain ⟨front, c, hend, hc⟩ := rdropWhile_end (rstrip_ne_nil.mpr hword)
  have hend : rstrip trimmed word = front ++ [c] := hend
  have hstop : rstrip trimmed (before ++ ' ' :: rstrip trimmed word)
      = before ++ ' ' :: rstrip trimmed word := by
    rw [hend]
    show List.rdropWhile trimmed (before ++ ' ' :: (front ++ [c])) = _
    rw [← List.cons_append, ← List.append_assoc, List.rdropWhile_concat_neg _ _ _ (by simp [hc])]
  calc rstrip trimmed (before ++ ' ' :: word)
      = rstrip trimmed (before ++ ' ' :: rstrip trimmed word ++ rest) := by
        conv_lhs => rw [hrest]
        simp
    _ = rstrip trimmed (before ++ ' ' :: rstrip trimmed word) :=
        rstrip_append _ htrimmed
    _ = before ++ ' ' :: rstrip trimmed word := hstop

end Window

/-! ## §3. The result. -/

section Result

variable {text : Str} {n : Nat}

/-- What `clip` makes of the sanitised text. -/
def clipText (text : Str) (n : Nat) : Str × Bool :=
  if text.length ≤ n then (text, false)
  else (if headlineCut (text.take n) ≠ [] then headlineCut (text.take n) else text.take n, true)

theorem clip_eq (P : Platform) (value : Option Str) (n : Nat) :
    clip P value n = clipText (sanitize P value) n := by
  unfold clip clipText
  rfl

theorem clipText_fits (h : text.length ≤ n) : clipText text n = (text, false) := if_pos h

theorem clipText_long (h : n < text.length) : clipText text n
    = (if headlineCut (text.take n) ≠ [] then headlineCut (text.take n) else text.take n, true) :=
  if_neg (not_le_of_gt h)

theorem headlineCut_front (t : Str) : headlineCut t <+: t := by
  have hpre : headlineCut t <+: beforeLastSpace t := List.rdropWhile_prefix _ _
  rcases beforeLastSpace_cases t with ⟨-, hall⟩ | ⟨after, -, hsplit⟩
  · rwa [hall] at hpre
  · refine hpre.trans ?_
    conv_rhs => rw [hsplit]
    exact List.prefix_append _ _

/-- What holds of every result, wherever the window ends. -/
theorem clipText_kept (hn : 1 ≤ n) (hlong : n < text.length) :
    (clipText text n).1 <+: text.take n ∧ (clipText text n).1 ≠ [] := by
  rw [clipText_long hlong]
  by_cases hcut : headlineCut (text.take n) ≠ []
  · rw [if_pos hcut]
    exact ⟨headlineCut_front _, hcut⟩
  · rw [if_neg hcut]
    refine ⟨List.prefix_rfl, ?_⟩
    intro hnil
    have hlen := congrArg List.length hnil
    rw [List.length_take_of_le (le_of_lt hlong), List.length_nil] at hlen
    omega

/-- So the property is about the cut alone. -/
theorem clipsAtWord_iff (hn : 1 ≤ n) (hlong : n < text.length) :
    ClipsAtWord text n (clipText text n) ↔
      (∀ k, LastWordEnd text n k → rstrip trimmed (text.take k) ≠ [] →
        (clipText text n).1 = rstrip trimmed (text.take k)) ∧
      ((∀ k, LastWordEnd text n k → rstrip trimmed (text.take k) = []) →
        ∃ rest, text.take n = (clipText text n).1 ++ rest ∧ ∀ c ∈ rest, trimmed c = true) := by
  obtain ⟨hpre, hne⟩ := clipText_kept hn hlong
  have hflag : (clipText text n).2 = true := by rw [clipText_long hlong]
  constructor
  · intro h
    exact ⟨h.word hflag, h.hard hflag⟩
  · intro h
    -- what was cut is shorter than the text
    have hshort : (clipText text n).1.length ≤ n :=
      hpre.length_le.trans (List.length_take_le _ _)
    refine { kept := hpre.trans (List.take_prefix _ _), short := hshort, flag := ?_,
             word := fun _ => h.1, hard := fun _ => h.2, some := fun _ => hne }
    rw [hflag]
    refine iff_of_false Bool.true_eq_false.mp ?_
    intro hall
    rw [hall] at hshort
    exact absurd hlong (not_lt_of_ge hshort)

/-- No space in the window: it is kept, less the punctuation at its end. -/
theorem clipText_noSpace (hlong : n < text.length) (hnone : ' ' ∉ text.take n) :
    (clipText text n).1 = (if rstrip trimmed (text.take n) ≠ [] then rstrip trimmed (text.take n)
      else text.take n) := by
  have hcut : headlineCut (text.take n) = rstrip trimmed (text.take n) := by
    rw [headlineCut, beforeLastSpace, if_neg hnone]
  rw [clipText_long hlong, hcut]

/-- A space in the window: what stands before the last one is kept. -/
theorem clipText_space {before word : Str} (hlong : n < text.length)
    (hsplit : text.take n = before ++ ' ' :: word) (hword : ' ' ∉ word) :
    (clipText text n).1 = (if rstrip trimmed before ≠ [] then rstrip trimmed before
      else text.take n) := by
  have hcut : headlineCut (text.take n) = rstrip trimmed before := by
    rw [headlineCut, hsplit, beforeLastSpace_split before hword]
  rw [clipText_long hlong, hcut]

/-- Stripping leaves a word as it is exactly if no punctuation ends it. -/
theorem rstrip_eq_self {word : Str} (hword : ∃ c ∈ word, trimmed c = false) :
    rstrip trimmed word = word ↔ ¬ ∃ front c, word = front ++ [c] ∧ trimmed c = true := by
  rcases List.eq_nil_or_concat word with rfl | ⟨front, d, rfl⟩
  · obtain ⟨c, hc, -⟩ := hword
    exact absurd hc List.not_mem_nil
  · rw [List.concat_eq_append]
    constructor
    · intro h hends
      obtain ⟨front', c, heq, hc⟩ := hends
      rw [heq] at h
      -- a last character that is trimmed makes the text shorter
      have hshort : (rstrip trimmed (front' ++ [c])).length ≤ front'.length := by
        rw [rstrip, List.rdropWhile_concat_pos _ _ _ hc]
        exact List.IsPrefix.length_le (List.rdropWhile_prefix _ _)
      rw [h, List.length_append, List.length_singleton] at hshort
      omega
    · intro h
      refine List.rdropWhile_concat_neg _ _ _ ?_
      intro hd
      exact h ⟨front, d, rfl, hd⟩

/-- Of a window without a space, less than the punctuation at its end is not
taken off. -/
theorem noSpace_hard (t : Str) : ∃ rest,
    t = (if rstrip trimmed t ≠ [] then rstrip trimmed t else t) ++ rest ∧
      ∀ c ∈ rest, trimmed c = true := by
  by_cases h : rstrip trimmed t ≠ []
  · rw [if_pos h]
    exact rstrip_rest t
  · rw [if_neg h]
    refine ⟨[], (List.append_nil t).symm, ?_⟩
    intro c hc
    exact absurd hc List.not_mem_nil

/-- **A window is cut where it should be** if what stands before its last space,
less the punctuation at the end, is the headline up to the last word end. -/
theorem clipsAtWord_of_space {before word : Str} {k : Nat} (hn : 1 ≤ n) (hlong : n < text.length)
    (hsplit : text.take n = before ++ ' ' :: word) (hword : ' ' ∉ word)
    (hlast : LastWordEnd text n k)
    (htake : rstrip trimmed (text.take k) = rstrip trimmed before) :
    ClipsAtWord text n (clipText text n) := by
  rw [clipsAtWord_iff hn hlong, clipText_space hlong hsplit hword]
  constructor
  · intro k' hk' hne
    rw [hlast.unique hk', htake] at hne ⊢
    exact if_pos hne
  · intro hnone
    have hnil := hnone k hlast
    rw [htake] at hnil
    rw [if_neg (not_not_intro hnil)]
    exact ⟨[], (List.append_nil _).symm, fun c hc => absurd hc List.not_mem_nil⟩

/-- A window that ends inside a word is cut where it should be. -/
theorem clipsAtWord_inside (hn : 1 ≤ n) (hlong : n < text.length) (hnext : text[n]? ≠ some ' ') :
    ClipsAtWord text n (clipText text n) := by
  by_cases hspace : ' ' ∈ text.take n
  · rcases beforeLastSpace_cases (text.take n) with ⟨hnone, -⟩ | ⟨word, hword, hsplit⟩
    · exact absurd hspace hnone
    · obtain ⟨hlast, htake⟩ := window_inside hlong hnext hsplit hword
      exact clipsAtWord_of_space hn hlong hsplit hword hlast (congrArg (rstrip trimmed) htake)
  · rw [clipsAtWord_iff hn hlong, clipText_noSpace hlong hspace]
    refine ⟨?_, fun _ => noSpace_hard _⟩
    intro k hk _
    -- a word end within the window is a space in it
    have hlt : k < n := lt_of_le_of_ne hk.1 fun heq => hnext (heq ▸ hk.2.1)
    have hmem : ' ' ∈ text.take n := by
      refine List.mem_of_getElem? (i := k) ?_
      rw [List.getElem?_take_of_lt hlt]
      exact hk.2.1
    exact absurd hmem hspace

/-- A headline that fits is not cut. -/
theorem clipsAtWord_fits (hfits : text.length ≤ n) : ClipsAtWord text n (clipText text n) := by
  rw [clipText_fits hfits]
  exact { kept := List.prefix_rfl, short := hfits, flag := iff_of_true rfl rfl,
          word := fun h => absurd h Bool.false_ne_true,
          hard := fun h => absurd h Bool.false_ne_true,
          some := fun h => absurd h Bool.false_ne_true }

/-- A window of one word is cut where it should be as well. -/
theorem clipsAtWord_oneWord (hn : 1 ≤ n) (hlong : n < text.length) (hnext : text[n]? = some ' ')
    (hnone : ' ' ∉ text.take n) : ClipsAtWord text n (clipText text n) := by
  rw [clipsAtWord_iff hn hlong, clipText_noSpace hlong hnone]
  refine ⟨?_, fun _ => noSpace_hard _⟩
  intro k hk hne
  rw [(window_end hnext).mp hk] at hne ⊢
  exact if_pos hne

/-- **A window that ends with a word** is cut where it should be if that word is
punctuation alone, or is all there is and ends in none. -/
theorem clipsAtWord_end {before word : Str} (hn : 1 ≤ n) (hlong : n < text.length)
    (hnext : text[n]? = some ' ') (hsplit : text.take n = before ++ ' ' :: word)
    (hword : ' ' ∉ word) : ClipsAtWord text n (clipText text n) ↔
      ((∃ c ∈ word, trimmed c = false) → (∀ c ∈ before, trimmed c = true) ∧
        ¬ ∃ front c, word = front ++ [c] ∧ trimmed c = true) := by
  have hend : LastWordEnd text n n := (window_end hnext).mpr rfl
  have hstripped : ∀ k, LastWordEnd text n k →
      rstrip trimmed (text.take k) = rstrip trimmed (before ++ ' ' :: word) := by
    intro k hk
    rw [(window_end hnext).mp hk, hsplit]
  by_cases hplain : ∃ c ∈ word, trimmed c = false
  · rw [clipsAtWord_iff hn hlong, clipText_space hlong hsplit hword]
    have hlonger := rstrip_word before hplain
    have hne : rstrip trimmed (before ++ ' ' :: word) ≠ [] := by
      rw [hlonger]
      simp
    -- the window has a word end, so the cut has to be there
    have hcut : (∀ k, LastWordEnd text n k → rstrip trimmed (text.take k) ≠ [] →
          (if rstrip trimmed before ≠ [] then rstrip trimmed before else text.take n)
            = rstrip trimmed (text.take k)) ↔
        (if rstrip trimmed before ≠ [] then rstrip trimmed before else text.take n)
          = before ++ ' ' :: rstrip trimmed word := by
      rw [← hlonger]
      constructor
      · intro h
        rw [← hstripped n hend] at hne ⊢
        exact h n hend hne
      · intro h k hk _
        rw [hstripped k hk]
        exact h
    have hhard : ¬ ∀ k, LastWordEnd text n k → rstrip trimmed (text.take k) = [] := by
      intro hnone
      exact hne ((hstripped n hend).symm.trans (hnone n hend))
    rw [hcut, forall_prop_of_true hplain, and_iff_left fun h => absurd h hhard]
    by_cases hbefore : rstrip trimmed before ≠ []
    · rw [if_pos hbefore]
      refine iff_of_false ?_ ?_
      · intro heq
        have hshort := List.IsPrefix.length_le (List.rdropWhile_prefix trimmed before)
        have hlen := congrArg List.length heq
        rw [List.length_append, List.length_cons] at hlen
        have hle : (rstrip trimmed before).length ≤ before.length := hshort
        omega
      · intro h
        exact hbefore (rstrip_eq_nil.mpr h.1)
    · rw [if_neg hbefore, hsplit]
      have hall : ∀ c ∈ before, trimmed c = true := rstrip_eq_nil.mp (not_not.mp hbefore)
      rw [and_iff_right hall, ← rstrip_eq_self hplain]
      simp [eq_comm]
  · have htrimmed : ∀ c ∈ ' ' :: word, trimmed c = true := by
      intro c hc
      rcases List.mem_cons.mp hc with rfl | hc
      · rfl
      · by_contra hfalse
        exact hplain ⟨c, hc, eq_false_of_ne_true hfalse⟩
    have hsame := (hstripped n hend).trans (rstrip_append before htrimmed)
    exact iff_of_true (clipsAtWord_of_space hn hlong hsplit hword hend hsame)
      fun h => absurd h hplain

/-- What is dropped is read off the one way to split the window at its last
space. -/
theorem dropsWord_iff {before word : Str} (hnext : text[n]? = some ' ')
    (hsplit : text.take n = before ++ ' ' :: word) (hword : ' ' ∉ word) :
    DropsWord text n ↔ (∃ c ∈ word, trimmed c = false) ∧
      ((∃ c ∈ before, trimmed c = false) ∨
        ∃ front c, word = front ++ [c] ∧ trimmed c = true) := by
  constructor
  · intro h
    obtain ⟨-, before', word', hsplit', hword', h⟩ := h
    -- the window has one split at its last space
    have hbefore : before' = before := by
      rw [← beforeLastSpace_split before' hword', ← hsplit', hsplit,
        beforeLastSpace_split before hword]
    subst hbefore
    have hwords : word' = word := by
      rw [hsplit', List.append_cancel_left_eq, List.cons.injEq] at hsplit
      exact hsplit.2
    subst hwords
    exact h
  · intro h
    exact ⟨hnext, before, word, hsplit, hword, h⟩

end Result

/-! ## §4. Every headline. -/

/-- **WHEN A HEADLINE IS CUT AT THE LAST WORD THAT FITS.**  Every headline is, with
every limit, but those whose window ends with a word right before a space, behind
another word or with punctuation at its end. -/
theorem clip_iff (P : Platform) (value : Option Str) {n : Nat} (hn : 1 ≤ n) :
    ClipsAtWord (sanitize P value) n (clip P value n) ↔ ¬ DropsWord (sanitize P value) n := by
  rw [clip_eq]
  generalize sanitize P value = text
  rcases le_or_gt text.length n with hfits | hlong
  · refine iff_of_true (clipsAtWord_fits hfits) ?_
    intro h
    have hnone : text[n]? = none := List.getElem?_eq_none hfits
    cases hnone.symm.trans h.1
  -- the window ends at a word just when a space follows it
  · by_cases hnext : text[n]? = some ' '
    · rcases beforeLastSpace_cases (text.take n) with ⟨hnone, -⟩ | ⟨word, hword, hsplit⟩
      · refine iff_of_true (clipsAtWord_oneWord hn hlong hnext hnone) ?_
        intro h
        obtain ⟨-, before, word, hsplit, -⟩ := h
        exact hnone (hsplit ▸ by simp)
      · rw [clipsAtWord_end hn hlong hnext hsplit hword]
        generalize beforeLastSpace (text.take n) = before at hsplit
        rw [dropsWord_iff hnext hsplit hword]
        constructor
        · intro h hd
          obtain ⟨hplain, hrest⟩ := hd
          obtain ⟨hall, hends⟩ := h hplain
          rcases hrest with ⟨c, hc, hfalse⟩ | hrest
          · rw [hall c hc] at hfalse
            cases hfalse
          · exact hends hrest
        · intro h hplain
          refine ⟨?_, fun hends => h ⟨hplain, Or.inr hends⟩⟩
          intro c hc
          by_contra hfalse
          exact h ⟨hplain, Or.inl ⟨c, hc, eq_false_of_ne_true hfalse⟩⟩
    · refine iff_of_true (clipsAtWord_inside hn hlong hnext) ?_
      intro h
      exact hnext h.1

/-- Three words, and windows inside and behind the second. -/
def threeWords : Str := "aaa bbb ccc".toList

theorem clip_iff_threeWords :
    ClipsAtWord (sanitize feedless (some threeWords)) 6 (clip feedless (some threeWords) 6) := by
  refine (clip_iff feedless (some threeWords) (by decide)).mpr ?_
  intro h
  exact absurd h.1 (by decide)

theorem threeWords_dropped :
    clip feedless (some threeWords) 7 = ("aaa".toList, true) ∧
      ¬ ClipsAtWord (sanitize feedless (some threeWords)) 7
        (clip feedless (some threeWords) 7) := by
  have hclip : clip feedless (some threeWords) 7 = ("aaa".toList, true) := by decide
  refine ⟨hclip, ?_⟩
  intro h
  rw [hclip] at h
  exact absurd (h.word rfl 7 ((window_end (by decide)).mpr rfl) (by decide)) (by decide)

end Feedcast
