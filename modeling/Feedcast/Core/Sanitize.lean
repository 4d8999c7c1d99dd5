/-
  Feedcast.Core.Sanitize — what comes out of `strip_markup` and `sanitize`
  (`core/text.py`).

  The passes run one after the other, and none brings back what an earlier one
  took out.  `Inert` is what holds of a text at the end of them, and a text that
  is inert is left alone by all of them:

    • `stripMarkup_inert` — what comes out is inert,
    • `stripMarkup_of_inert` — what is inert comes out as it went in,
    • `Inert.cut` — a cut with its ellipsis is inert again,
    • `sanitize_inert_bounded_stable` — hence every text, under every cap.
-/
import Feedcast.Core.Hashing
import Mathlib.Data.List.Chain

namespace Feedcast

/-! ## §1. The property. -/

/-- No `<` has a `>` anywhere behind it. -/
def NoTag (s : Str) : Prop := s.Pairwise fun a b => ¬ (a = '<' ∧ b = '>')

/-- No two neighbours are whitespace. -/
def SingleSpaced (s : Str) : Prop :=
  s.IsChain fun a b => ¬ (isSpace a = true ∧ isSpace b = true)

/-- **A text with nothing left to take out.** -/
structure Inert (P : Platform) (s : Str) : Prop where
  noTag : NoTag s
  clean : ∀ c ∈ s, P.isControl c = false
  spaced : SingleSpaced s
  plain : ∀ c ∈ s, isSpace c = true → c = ' '
  first : ∀ c ∈ s.head?, isSpace c = false
  last : ∀ c ∈ s.getLast?, isSpace c = false

/-- The characters the passes put in are outside category `C`: a space and three
punctuation marks. -/
def PunctuationKept (P : Platform) : Prop :=
  ∀ c, c = ' ' ∨ c = '‹' ∨ c = '›' ∨ c = '…' → P.isControl c = false

/-! ## §2. Tags. -/

theorem mem_dropTagsFrom {inTag : Bool} {s : Str} {c : Char} (h : c ∈ dropTagsFrom inTag s) :
    c = ' ' ∨ c ∈ s := by
  induction s generalizing inTag with
  | nil =>
      unfold dropTagsFrom at h
      exact Or.inr h
  | cons d rest ih =>
      have hrest : ∀ {inTag}, c ∈ dropTagsFrom inTag rest → c = ' ' ∨ c ∈ d :: rest :=
        fun h => (ih h).imp_right (List.mem_cons_of_mem d)
      -- inside a tag characters go; outside, a tag that opens leaves a space
      cases inTag with
      | true =>
          unfold dropTagsFrom at h
          split_ifs at h
          · exact hrest h
          · exact hrest h
      | false =>
          unfold dropTagsFrom at h
          split_ifs at h
          · rcases List.mem_cons.mp h with rfl | h
            · exact Or.inl rfl
            · exact hrest h
          · rcases List.mem_cons.mp h with rfl | h
            · exact Or.inr List.mem_cons_self
            · exact hrest h

/-- **No tag is left**: a `<` that stays has no `>` behind it. -/
theorem dropTagsFrom_noTag (inTag : Bool) (s : Str) : NoTag (dropTagsFrom inTag s) := by
  unfold NoTag
  induction s generalizing inTag with
  | nil =>
      unfold dropTagsFrom
      exact List.Pairwise.nil
  | cons c rest ih =>
      cases inTag with
      | true =>
          unfold dropTagsFrom
          split_ifs
          · exact ih false
          · exact ih true
      | false =>
          unfold dropTagsFrom
          split_ifs with hopen
          · refine List.pairwise_cons.mpr ⟨fun d _ hpair => ?_, ih true⟩
            exact absurd hpair.1 (by decide)
          · refine List.pairwise_cons.mpr ⟨fun d hd hpair => ?_, ih false⟩
            obtain ⟨rfl, rfl⟩ := hpair
            -- a `<` was kept because no `>` follows it
            rcases mem_dropTagsFrom hd with hspace | hmem
            · exact absurd hspace (by decide)
            · exact hopen ⟨rfl, hmem⟩

theorem dropTagsFrom_of_inert {s : Str} (h : NoTag s) : dropTagsFrom false s = s := by
  induction s with
  | nil => rfl
  | cons c rest ih =>
      obtain ⟨hhead, hrest⟩ := List.pairwise_cons.mp h
      have hshut : ¬ (c = '<' ∧ '>' ∈ rest) := fun hopen => hhead '>' hopen.2 ⟨hopen.1, rfl⟩
      unfold dropTagsFrom
      rw [if_neg hshut, ih hrest]

/-! ## §3. Whitespace. -/

theorem mem_collapseSpaceFrom {inRun : Bool} {s : Str} {c : Char}
    (h : c ∈ collapseSpaceFrom inRun s) : c = ' ' ∨ (c ∈ s ∧ isSpace c = false) := by
  induction s generalizing inRun with
  | nil =>
      unfold collapseSpaceFrom at h
      cases h
  | cons d rest ih =>
      have hrest : ∀ {inRun}, c ∈ collapseSpaceFrom inRun rest →
          c = ' ' ∨ (c ∈ d :: rest ∧ isSpace c = false) :=
        fun h => (ih h).imp_right fun hmem => ⟨List.mem_cons_of_mem d hmem.1, hmem.2⟩
      unfold collapseSpaceFrom at h
      -- a run of whitespace becomes one space, which is its first
      split_ifs at h with hspace
      · exact hrest h
      · rcases List.mem_cons.mp h with rfl | h
        · exact Or.inl rfl
        · exact hrest h
      · rcases List.mem_cons.mp h with rfl | h
        · exact Or.inr ⟨List.mem_cons_self, by simpa using hspace⟩
        · exact hrest h

theorem collapseSpaceFrom_noTag {s : Str} (h : NoTag s) (inRun : Bool) :
    NoTag (collapseSpaceFrom inRun s) := by
  unfold NoTag at h ⊢
  induction s generalizing inRun with
  | nil =>
      unfold collapseSpaceFrom
      exact List.Pairwise.nil
  | cons c rest ih =>
      obtain ⟨hhead, hrest⟩ := List.pairwise_cons.mp h
      unfold collapseSpaceFrom
      -- neither bracket is whitespace, so no pair is brought together
      split_ifs
      · exact ih hrest true
      · refine List.pairwise_cons.mpr ⟨fun d _ hpair => ?_, ih hrest true⟩
        exact absurd hpair.1 (by decide)
      · refine List.pairwise_cons.mpr ⟨fun d hd hpair => ?_, ih hrest false⟩
        rcases mem_collapseSpaceFrom hd with rfl | hmem
        · exact absurd hpair.2 (by decide)
        · exact hhead d hmem.1 hpair

/-- **One space for a run**, and none at the start of a text that goes on a run. -/
theorem collapseSpaceFrom_spaced (inRun : Bool) (s : Str) :
    SingleSpaced (collapseSpaceFrom inRun s)
      ∧ (inRun = true → ∀ c ∈ (collapseSpaceFrom inRun s).head?, isSpace c = false) := by
  unfold SingleSpaced
  induction s generalizing inRun with
  | nil =>
      unfold collapseSpaceFrom
      exact ⟨List.isChain_nil, fun _ c hc => by cases hc⟩
  | cons c rest ih =>
      unfold collapseSpaceFrom
      split_ifs with hspace hrun
      · exact ⟨(ih true).1, fun _ => (ih true).2 rfl⟩
      · refine ⟨List.isChain_cons.mpr ⟨fun d hd hpair => ?_, (ih true).1⟩,
          fun h => absurd h hrun⟩
        -- behind a space the rest of the run is left out
        rw [(ih true).2 rfl d hd] at hpair
        exact absurd hpair.2 (by decide)
      · have hsolid : isSpace c = false := by simpa using hspace
        refine ⟨List.isChain_cons.mpr ⟨fun d _ hpair => hspace hpair.1, (ih false).1⟩, ?_⟩
        intro _ d hd
        cases hd
        exact hsolid

/-- Whitespace that stands alone, and is a space, stays as it is. -/
theorem collapseSpaceFrom_of_inert {s : Str} (hspaced : SingleSpaced s)
    (hplain : ∀ c ∈ s, isSpace c = true → c = ' ') (inRun : Bool)
    (hfirst : inRun = true → ∀ c ∈ s.head?, isSpace c = false) :
    collapseSpaceFrom inRun s = s := by
  unfold SingleSpaced at hspaced
  induction s generalizing inRun with
  | nil => rfl
  | cons c rest ih =>
      obtain ⟨hnext, hrest⟩ := List.isChain_cons.mp hspaced
      have hplain' := fun d hd => hplain d (List.mem_cons_of_mem c hd)
      unfold collapseSpaceFrom
      -- in a run already: the text would have two spaces in a row
      split_ifs with hspace hrun
      · have hsolid := hfirst hrun c rfl
        rw [hspace] at hsolid
        cases hsolid
      · have hafter : ∀ d ∈ rest.head?, isSpace d = false := by
          intro d hd
          have hpair := hnext d hd
          simpa [hspace] using hpair
        rw [ih hrest hplain' true fun _ => hafter, ← hplain c List.mem_cons_self hspace]
      · rw [ih hrest hplain' false fun h => by cases h]

/-- The whitespace at the two ends is what goes. -/
theorem strip_part (s : Str) : strip s <:+: s := by
  have hfront : strip s <+: s.dropWhile isSpace := List.rdropWhile_prefix _ _
  exact hfront.isInfix.trans (List.dropWhile_suffix _).isInfix

theorem strip_first (s : Str) : ∀ c ∈ (strip s).head?, isSpace c = false := by
  intro c hc
  obtain ⟨t, ht⟩ := List.rdropWhile_prefix isSpace (s.dropWhile isSpace)
  have hstart : (s.dropWhile isSpace).head? = some c := by
    rw [← ht, List.head?_append]
    exact Option.or_eq_some_iff.mpr (Or.inl hc)
  have hsolid := List.head?_dropWhile_not isSpace s
  rw [hstart] at hsolid
  simpa using hsolid

theorem rstrip_last (s : Str) : ∀ c ∈ (rstrip isSpace s).getLast?, isSpace c = false := by
  intro c hc
  have hne : s.rdropWhile isSpace ≠ [] := by
    intro hnil
    unfold rstrip at hc
    rw [hnil] at hc
    cases hc
  have hsolid := List.rdropWhile_last_not isSpace s hne
  obtain rfl : (s.rdropWhile isSpace).getLast hne = c :=
    Option.some.inj ((List.getLast?_eq_some_getLast hne).symm.trans hc)
  simpa using hsolid

/-- A text that is solid at both ends is left alone. -/
theorem strip_of_inert {s : Str} (hfirst : ∀ c ∈ s.head?, isSpace c = false)
    (hlast : ∀ c ∈ s.getLast?, isSpace c = false) : strip s = s := by
  have hfront : s.dropWhile isSpace = s := by
    cases s with
    | nil => rfl
    | cons c rest => exact List.dropWhile_cons_of_neg (by simp [hfirst c rfl])
  unfold strip rstrip
  rw [hfront]
  refine List.rdropWhile_eq_self_iff.mpr fun hne => ?_
  rw [hlast _ (List.getLast?_eq_some_getLast hne)]
  exact Bool.false_ne_true

/-! ## §4. All passes. -/

theorem stripMarkup_some (P : Platform) (value : Str) :
    stripMarkup P (some value)
      = strip (collapseSpace ((dropTagsFrom false value).filter fun ch => !P.isControl ch)) := by
  cases value with
  | nil => rfl
  | cons c value => rfl

section Inert

variable {P : Platform}

/-- **What comes out of `strip_markup` is inert.** -/
theorem stripMarkup_inert (hkept : PunctuationKept P) (value : Option Str) :
    Inert P (stripMarkup P value) := by
  cases value with
  | none => exact ⟨List.Pairwise.nil, by simp [stripMarkup], List.isChain_nil,
      by simp [stripMarkup], by simp [stripMarkup], by simp [stripMarkup]⟩
  | some value =>
      rw [stripMarkup_some]
      set kept := (dropTagsFrom false value).filter fun ch => !P.isControl ch with hdef
      have hpart := strip_part (collapseSpace kept)
      -- a character at the end was kept, or it is a space that stands for a run
      have hmem : ∀ c ∈ strip (collapseSpace kept), c = ' ' ∨ (c ∈ kept ∧ isSpace c = false) :=
        fun c hc => mem_collapseSpaceFrom (hpart.subset hc)
      have hnoTag : NoTag (collapseSpace kept) :=
        collapseSpaceFrom_noTag ((dropTagsFrom_noTag false value).sublist List.filter_sublist) false
      exact {
        noTag := hnoTag.sublist hpart.sublist
        clean := by
          intro c hc
          rcases hmem c hc with rfl | hkeep
          · exact hkept ' ' (Or.inl rfl)
          · simpa using (List.mem_filter.mp hkeep.1).2
        spaced := List.IsChain.infix (collapseSpaceFrom_spaced false kept).1 hpart
        plain := by
          intro c hc hspace
          rcases hmem c hc with hblank | hkeep
          · exact hblank
          · rw [hkeep.2] at hspace
            cases hspace
        first := strip_first _
        last := rstrip_last _ }

/-- **What is inert comes out as it went in.** -/
theorem stripMarkup_of_inert {s : Str} (h : Inert P s) : stripMarkup P (some s) = s := by
  have hclean : s.filter (fun c => !P.isControl c) = s := by
    refine List.filter_eq_self.mpr fun c hc => ?_
    rw [h.clean c hc]
    rfl
  have hcollapse : collapseSpace s = s :=
    collapseSpaceFrom_of_inert h.spaced h.plain false fun h => by cases h
  rw [stripMarkup_some, dropTagsFrom_of_inert h.noTag, hclean, hcollapse,
    strip_of_inert h.first h.last]

/-! ## §5. The lookalikes and the cut. -/

/-- The lookalike of an angle bracket. -/
def lookalike (ch : Char) : Char := if ch = '<' then '‹' else if ch = '>' then '›' else ch

/-- A text without angle brackets. -/
def NoAngle (s : Str) : Prop := '<' ∉ s ∧ '>' ∉ s

theorem lookalike_cases (c : Char) :
    lookalike c = '‹' ∨ lookalike c = '›' ∨ (lookalike c = c ∧ c ≠ '<' ∧ c ≠ '>') := by
  unfold lookalike
  split_ifs with hopen hclose
  · exact Or.inl rfl
  · exact Or.inr (Or.inl rfl)
  · exact Or.inr (Or.inr ⟨rfl, hopen, hclose⟩)

theorem isSpace_lookalike (c : Char) : isSpace (lookalike c) = isSpace c := by
  unfold lookalike
  split_ifs with hopen hclose
  · rw [hopen]
    decide
  · rw [hclose]
    decide
  · rfl

theorem NoAngle.noTag {s : Str} (h : NoAngle s) : NoTag s :=
  List.pairwise_of_forall_mem_list fun _ ha _ _ hpair => h.1 (hpair.1 ▸ ha)

theorem map_lookalike_noAngle (s : Str) : NoAngle (s.map lookalike) := by
  have hne : ∀ c, lookalike c ≠ '<' ∧ lookalike c ≠ '>' := by
    intro c
    -- the two angle brackets are replaced, and nothing becomes one
    rcases lookalike_cases c with h | h | ⟨h, hopen, hclose⟩
    · rw [h]
      decide
    · rw [h]
      decide
    · rw [h]
      exact ⟨hopen, hclose⟩
  constructor
  · intro h
    obtain ⟨c, -, hc⟩ := List.mem_map.mp h
    exact (hne c).1 hc
  · intro h
    obtain ⟨c, -, hc⟩ := List.mem_map.mp h
    exact (hne c).2 hc

theorem map_lookalike_of_noAngle {s : Str} (h : NoAngle s) : s.map lookalike = s := by
  refine (List.map_congr_left fun c hc => ?_).trans (List.map_id s)
  have hopen : c ≠ '<' := fun heq => h.1 (heq ▸ hc)
  have hclose : c ≠ '>' := fun heq => h.2 (heq ▸ hc)
  unfold lookalike
  rw [if_neg hopen, if_neg hclose]
  rfl

/-- The lookalikes are no whitespace, and stand where the brackets stood. -/
theorem Inert.map_lookalike (hkept : PunctuationKept P) {s : Str} (h : Inert P s) :
    Inert P (s.map lookalike) where
  noTag := (map_lookalike_noAngle s).noTag
  -- the category is what `PunctuationKept` is assumed for
  clean := by
    intro c hc
    obtain ⟨d, hd, rfl⟩ := List.mem_map.mp hc
    rcases lookalike_cases d with heq | heq | ⟨heq, -, -⟩
    · rw [heq]
      exact hkept '‹' (by decide)
    · rw [heq]
      exact hkept '›' (by decide)
    · rw [heq]
      exact h.clean d hd
  spaced := by
    refine (List.isChain_map lookalike).mpr (h.spaced.imp fun a b hpair => ?_)
    rw [isSpace_lookalike, isSpace_lookalike]
    exact hpair
  plain := by
    intro c hc hspace
    obtain ⟨d, hd, rfl⟩ := List.mem_map.mp hc
    rw [isSpace_lookalike] at hspace
    rw [h.plain d hd hspace]
    rfl
  first := by
    intro c hc
    rw [List.head?_map] at hc
    obtain ⟨d, hd, rfl⟩ := Option.map_eq_some_iff.mp hc
    rw [isSpace_lookalike]
    exact h.first d hd
  last := by
    intro c hc
    rw [List.getLast?_map] at hc
    obtain ⟨d, hd, rfl⟩ := Option.map_eq_some_iff.mp hc
    rw [isSpace_lookalike]
    exact h.last d hd

theorem cut_noAngle {s : Str} (h : NoAngle s) (m : Nat) :
    NoAngle (rstrip isSpace (s.take m) ++ ['…']) := by
  have hcut : rstrip isSpace (s.take m) <+: s.take m := List.rdropWhile_prefix _ _
  -- what is left of the cut comes from the text, and the ellipsis is no bracket
  have hsub : ∀ c ∈ rstrip isSpace (s.take m), c ∈ s :=
    fun c hc => List.mem_of_mem_take (hcut.subset hc)
  constructor
  · intro hc
    rcases List.mem_append.mp hc with hin | heq
    · exact h.1 (hsub _ hin)
    · exact absurd (List.mem_singleton.mp heq) (by decide)
  · intro hc
    rcases List.mem_append.mp hc with hin | heq
    · exact h.2 (hsub _ hin)
    · exact absurd (List.mem_singleton.mp heq) (by decide)

/-- **A cut is inert again**: the whitespace it ends in goes, and the ellipsis is
none. -/
theorem Inert.cut (hkept : PunctuationKept P) {s : Str} (h : Inert P s) (hangle : NoAngle s)
    (m : Nat) : Inert P (rstrip isSpace (s.take m) ++ ['…']) := by
  have hfront : rstrip isSpace (s.take m) <+: s := by
    have hcut : rstrip isSpace (s.take m) <+: s.take m := List.rdropWhile_prefix _ _
    exact hcut.trans (List.take_prefix m s)
  obtain ⟨rest, hsplit⟩ := hfront
  have hmem : ∀ c ∈ rstrip isSpace (s.take m) ++ ['…'], c ∈ s ∨ c = '…' := by
    intro c hc
    rcases List.mem_append.mp hc with hc | hc
    · exact Or.inl (hsplit ▸ List.mem_append_left rest hc)
    · exact Or.inr (List.mem_singleton.mp hc)
  have hspaced : SingleSpaced (rstrip isSpace (s.take m)) := by
    have hwhole := h.spaced
    rw [← hsplit] at hwhole
    exact List.IsChain.left_of_append hwhole
  have hdots : isSpace '…' = false := by decide
  exact {
    noTag := (cut_noAngle hangle m).noTag
    clean := by
      intro c hc
      rcases hmem c hc with hin | rfl
      · exact h.clean c hin
      · exact hkept '…' (by decide)
    spaced := by
      refine List.IsChain.append hspaced (List.isChain_singleton _) fun a _ b hb hpair => ?_
      cases hb
      rw [hdots] at hpair
      exact absurd hpair.2 Bool.false_ne_true
    plain := by
      intro c hc hspace
      rcases hmem c hc with hin | rfl
      · exact h.plain c hin hspace
      · rw [hdots] at hspace
        cases hspace
    first := by
      intro c hc
      cases hcut : rstrip isSpace (s.take m) with
      | nil =>
          rw [hcut] at hc
          cases hc
          exact hdots
      | cons d kept =>
          -- the cut starts where the text starts
          rw [hcut] at hc hsplit
          cases hc
          exact h.first c (by rw [← hsplit]; rfl)
    last := by
      intro c hc
      rw [List.getLast?_concat] at hc
      cases hc
      exact hdots }

/-- A cut is no longer than its cap. -/
theorem cut_length {s : Str} {n : Nat} (hcap : 1 ≤ n) :
    (rstrip isSpace (s.take (n - 1)) ++ ['…']).length ≤ n := by
  have hcut : rstrip isSpace (s.take (n - 1)) <+: s.take (n - 1) := List.rdropWhile_prefix _ _
  have hlength := hcut.length_le
  rw [List.length_take] at hlength
  rw [List.length_append, List.length_singleton]
  omega

end Inert

/-! ## §6. Every text, every cap. -/

/-- **A text that may go to a reader**: inert, without brackets, no longer than
the cap. -/
structure Sanitized (P : Platform) (n : Nat) (s : Str) : Prop where
  inert : Inert P s
  noAngle : NoAngle s
  bounded : s.length ≤ n

theorem sanitize_cap {P : Platform} {value : Option Str} {n : Nat} (hcap : 1 ≤ n) :
    sanitize P value (some n)
      = if ((stripMarkup P value).map lookalike).length > n then
          rstrip isSpace (((stripMarkup P value).map lookalike).take (n - 1)) ++ ['…']
        else (stripMarkup P value).map lookalike := by
  have hzero : ¬ n = 0 := by omega
  unfold sanitize
  dsimp only
  rw [if_neg hzero]
  rfl

/-- **What comes out is sanitised.** -/
theorem sanitize_sanitized {P : Platform} (hkept : PunctuationKept P) (value : Option Str)
    {n : Nat} (hcap : 1 ≤ n) : Sanitized P n (sanitize P value (some n)) := by
  have hinert := (stripMarkup_inert hkept value).map_lookalike hkept
  have hangle := map_lookalike_noAngle (stripMarkup P value)
  rw [sanitize_cap hcap]
  by_cases hlong : ((stripMarkup P value).map lookalike).length > n
  · rw [if_pos hlong]
    exact ⟨hinert.cut hkept hangle (n - 1), cut_noAngle hangle (n - 1), cut_length hcap⟩
  · rw [if_neg hlong]
    exact ⟨hinert, hangle, not_lt.mp hlong⟩

/-- **What is sanitised comes out as it went in.** -/
theorem sanitize_of_sanitized {P : Platform} {n : Nat} (hcap : 1 ≤ n) {s : Str}
    (h : Sanitized P n s) : sanitize P (some s) (some n) = s := by
  rw [sanitize_cap hcap, stripMarkup_of_inert h.inert, map_lookalike_of_noAngle h.noAngle]
  exact if_neg (not_lt.mpr h.bounded)

/-- **SANITISED TEXT IS INERT, BOUNDED AND STABLE**, for every text and every
cap. -/
theorem sanitize_inert_bounded_stable (P : Platform) (hkept : PunctuationKept P)
    (value : Option Str) :
    Inert P (stripMarkup P value)
      ∧ stripMarkup P (some (stripMarkup P value)) = stripMarkup P value
      ∧ ∀ n, 1 ≤ n →
          '<' ∉ sanitize P value (some n) ∧ '>' ∉ sanitize P value (some n)
            ∧ (sanitize P value (some n)).length ≤ n
            ∧ sanitize P (some (sanitize P value (some n))) (some n)
              = sanitize P value (some n) := by
  have hinert := stripMarkup_inert hkept value
  refine ⟨hinert, stripMarkup_of_inert hinert, ?_⟩
  intro n hcap
  -- the capped text is again of the kind the passes leave alone
  have hout := sanitize_sanitized hkept value hcap
  exact ⟨hout.noAngle.1, hout.noAngle.2, hout.bounded, sanitize_of_sanitized hcap hout⟩

theorem feedless_punctuation : PunctuationKept feedless := by
  intro c hc
  rcases hc with rfl | rfl | rfl | rfl
  · decide
  · decide
  · decide
  · decide

/-- A bracket that is left, a run of spaces, and a cut in the middle of it. -/
theorem sanitize_inert_bounded_stable_brackets :
    sanitize feedless (some "<b>a</b>  <5   b".toList) (some 4) = "a ‹…".toList
      ∧ sanitize feedless (some "a ‹…".toList) (some 4) = "a ‹…".toList := by
  obtain ⟨-, -, hcaps⟩ := sanitize_inert_bounded_stable feedless feedless_punctuation
    (some "<b>a</b>  <5   b".toList)
  obtain ⟨-, -, -, hstable⟩ := hcaps 4 (by decide)
  have hout : sanitize feedless (some "<b>a</b>  <5   b".toList) (some 4) = "a ‹…".toList := by
    decide
  rw [hout] at hstable
  exact ⟨hout, hstable⟩

end Feedcast
