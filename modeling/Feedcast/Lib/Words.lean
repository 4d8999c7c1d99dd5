/-
  Feedcast.Lib.Words — the words of a text, over an arbitrary alphabet.

  A word is a maximal run of symbols that are no separators.  A text may also
  be cut at some places only and lose symbols on the way; what is left between
  two cuts is a block.  Words with symbols taken out are blocks, and so are the
  words of a text with symbols taken out, but the cuts differ:

    • `words_filter`, `words_map_filter` — both as blocks,
    • `blocks_eq_iff` — when fewer cuts make the same blocks: wherever there was
      a cut between two symbols that stay, there still is one.
-/
import Mathlib.Data.List.Basic

namespace Feedcast.Lib

variable {α : Type*}

/-! ## §1. Words and blocks. -/

/-- The maximal runs of symbols that are no separators, in order. -/
def words (sep : α → Bool) (s : List α) : List (List α) :=
  (s.splitOnP sep).filter (· ≠ [])

/-- What stays of each piece between two cuts; it may be nothing. -/
def pieces (solid cut : α → Bool) (s : List α) : List (List α) :=
  (s.splitOnP cut).map (List.filter solid)

/-- The pieces of which something stays. -/
def blocks (solid cut : α → Bool) (s : List α) : List (List α) :=
  (pieces solid cut s).filter (· ≠ [])

/-- The symbols before the first one that stays. -/
def gapBefore (solid : α → Bool) (s : List α) : List α := s.takeWhile fun c => !solid c

@[simp] theorem words_nil (sep : α → Bool) : words sep [] = [] := by
  simp [words]

theorem words_cons_sep {sep : α → Bool} {c : α} (hc : sep c = true) (s : List α) :
    words sep (c :: s) = words sep s := by
  simp [words, List.splitOnP_cons_eq_if_modifyHead, hc]

/-- A text falls apart at a separator. -/
theorem words_append_sep {sep : α → Bool} {c : α} (hc : sep c = true) (s t : List α) :
    words sep (s ++ c :: t) = words sep s ++ words sep t := by
  rw [words, List.splitOnP_append_cons s t hc, List.filter_append]
  rfl

/-- A text without separators is one word. -/
theorem words_of_noSep {sep : α → Bool} {s : List α} (hne : s ≠ [])
    (h : ∀ c ∈ s, sep c = false) : words sep s = [s] := by
  rw [words, List.splitOnP_eq_singleton h]
  simp [hne]

/-- No symbol of a piece of a split is a separator. -/
theorem splitOnP_not_sep {sep : α → Bool} (s : List α) :
    ∀ w ∈ s.splitOnP sep, ∀ c ∈ w, sep c = false := by
  induction s with
  | nil => simp
  | cons d s ih =>
      intro w hw c hc
      rw [List.splitOnP_cons_eq_if_modifyHead] at hw
      obtain ⟨head, tail, hsplit⟩ := List.exists_cons_of_ne_nil (List.splitOnP_ne_nil sep s)
      -- a separator begins a word anew, and is in none
      by_cases hd : sep d = true
      · rw [if_pos hd] at hw
        rcases List.mem_cons.mp hw with hnil | hw
        · rw [hnil] at hc
          exact absurd hc List.not_mem_nil
        · exact ih w hw c hc
      · rw [if_neg hd, hsplit, List.modifyHead_cons] at hw
        rcases List.mem_cons.mp hw with hhead | hw
        · rw [hhead] at hc
          rcases List.mem_cons.mp hc with hcd | hc
          · rw [hcd]
            exact Bool.not_eq_true _ ▸ hd
          · exact ih head (hsplit ▸ List.mem_cons_self) c hc
        · exact ih w (hsplit ▸ List.mem_cons_of_mem _ hw) c hc

/-- A word is not empty, and holds no separator. -/
theorem mem_words {sep : α → Bool} {s w : List α} (h : w ∈ words sep s) :
    w ≠ [] ∧ ∀ c ∈ w, sep c = false := by
  obtain ⟨hw, hne⟩ := List.mem_filter.mp h
  exact ⟨by simpa using hne, splitOnP_not_sep s w hw⟩

/-! ## §2. Pieces, symbol by symbol. -/

section Pieces

variable {solid cut : α → Bool}

@[simp] theorem pieces_nil : pieces solid cut [] = [[]] := by
  simp [pieces]

theorem pieces_ne_nil (s : List α) : pieces solid cut s ≠ [] := by
  simp [pieces]

theorem pieces_cut {c : α} (hc : cut c = true) (s : List α) :
    pieces solid cut (c :: s) = [] :: pieces solid cut s := by
  simp [pieces, List.splitOnP_cons_eq_if_modifyHead, hc]

theorem pieces_solid {c : α} (hcut : cut c = false) (hc : solid c = true) (s : List α) :
    pieces solid cut (c :: s) = (pieces solid cut s).modifyHead (c :: ·) := by
  obtain ⟨head, tail, hsplit⟩ := List.exists_cons_of_ne_nil (List.splitOnP_ne_nil cut s)
  simp [pieces, List.splitOnP_cons_eq_if_modifyHead, hcut, hsplit, hc]

/-- A symbol that neither cuts nor stays leaves no trace. -/
theorem pieces_inert {c : α} (hcut : cut c = false) (hc : solid c = false) (s : List α) :
    pieces solid cut (c :: s) = pieces solid cut s := by
  obtain ⟨head, tail, hsplit⟩ := List.exists_cons_of_ne_nil (List.splitOnP_ne_nil cut s)
  simp [pieces, List.splitOnP_cons_eq_if_modifyHead, hcut, hsplit, hc]

/-- **A symbol that does not stay leaves the blocks as they are**, in front. -/
theorem blocks_hollow {c : α} (hc : solid c = false) (s : List α) :
    blocks solid cut (c :: s) = blocks solid cut s := by
  unfold blocks
  cases hcut : cut c with
  | true => simp [pieces_cut hcut]
  | false => rw [pieces_inert hcut hc]

/-- **A symbol stands alone** when a cut comes before the next symbol that
stays, or when no such symbol comes. -/
theorem blocks_alone {c : α} (hcut : cut c = false) (hc : solid c = true) {s : List α}
    (h : (∃ g ∈ gapBefore solid s, cut g = true) ∨ ∀ y ∈ s, solid y = false) :
    blocks solid cut (c :: s) = [c] :: blocks solid cut s := by
  -- the piece that `c` joins is empty: a cut comes first, or nothing at all
  have hhead : ∃ rest, pieces solid cut s = [] :: rest := by
    induction s with
    | nil => exact ⟨[], pieces_nil⟩
    | cons d s ih =>
        cases hcutd : cut d with
        | true => exact ⟨pieces solid cut s, pieces_cut hcutd s⟩
        | false =>
            have hd : solid d = false := by
              rcases h with ⟨g, hg, -⟩ | hnone
              · cases hd : solid d with
                | true => simp [gapBefore, hd] at hg
                | false => rfl
              · exact hnone d List.mem_cons_self
            rw [pieces_inert hcutd hd]
            refine ih ?_
            rcases h with ⟨g, hg, hgcut⟩ | hnone
            · -- the cut is not `d`, so it lies behind
              have hmem : g = d ∨ g ∈ gapBefore solid s := by simpa [gapBefore, hd] using hg
              rcases hmem with hgd | hmem
              · rw [hgd, hcutd] at hgcut
                exact absurd hgcut Bool.false_ne_true
              · exact Or.inl ⟨g, hmem, hgcut⟩
            · exact Or.inr fun y hy => hnone y (List.mem_cons_of_mem d hy)
  obtain ⟨rest, hrest⟩ := hhead
  simp [blocks, pieces_solid hcut hc, hrest]

/-- **A symbol joins the next block** when no cut comes before it. -/
theorem blocks_join {c : α} (hdisj : ∀ d, solid d = true → cut d = false) (hc : solid c = true)
    {s : List α} (hgap : ∀ g ∈ gapBefore solid s, cut g = false) (hs : ∃ y ∈ s, solid y = true) :
    ∃ d w ws, blocks solid cut s = (d :: w) :: ws
      ∧ blocks solid cut (c :: s) = (c :: d :: w) :: ws := by
  -- the piece that `c` joins begins with the next element that stays
  have hhead : ∃ d w rest, pieces solid cut s = (d :: w) :: rest := by
    induction s with
    | nil =>
        obtain ⟨y, hy, -⟩ := hs
        exact absurd hy List.not_mem_nil
    | cons d s ih =>
        cases hd : solid d with
        | true =>
            have hne : pieces solid cut s ≠ [] := pieces_ne_nil s
            obtain ⟨head, tail, hsplit⟩ := List.exists_cons_of_ne_nil hne
            refine ⟨d, head, tail, ?_⟩
            rw [pieces_solid (hdisj d hd) hd, hsplit, List.modifyHead_cons]
        | false =>
            have hgap' : ∀ g ∈ d :: gapBefore solid s, cut g = false := by
              simpa [gapBefore, hd] using hgap
            rw [pieces_inert (hgap' d List.mem_cons_self) hd]
            refine ih (fun g hg => hgap' g (List.mem_cons_of_mem d hg)) ?_
            obtain ⟨y, hy, hys⟩ := hs
            rcases List.mem_cons.mp hy with hyd | hy
            · rw [hyd, hd] at hys
              exact absurd hys Bool.false_ne_true
            · exact ⟨y, hy, hys⟩
  obtain ⟨d, w, rest, hrest⟩ := hhead
  refine ⟨d, w, rest.filter (· ≠ []), ?_, ?_⟩
  · simp [blocks, hrest]
  · simp [blocks, pieces_solid (hdisj c hc) hc, hrest]

end Pieces

/-! ## §3. Taking cuts away. -/

/-- **Every cut of `cut'` between two symbols that stay is one of `cut`**: if
there is one on the way to the next such symbol, there is one of those. -/
def CutsKept (solid cut cut' : α → Bool) (s : List α) : Prop :=
  ∀ front x rest, s = front ++ x :: rest → solid x = true → (∃ y ∈ rest, solid y = true) →
    (∃ g ∈ gapBefore solid rest, cut' g = true) → ∃ g ∈ gapBefore solid rest, cut g = true

theorem cutsKept_cons {solid cut cut' : α → Bool} (c : α) (s : List α) :
    CutsKept solid cut cut' (c :: s)
      ↔ (solid c = true → (∃ y ∈ s, solid y = true) → (∃ g ∈ gapBefore solid s, cut' g = true) →
          ∃ g ∈ gapBefore solid s, cut g = true) ∧ CutsKept solid cut cut' s := by
  constructor
  · intro h
    exact ⟨h [] c s rfl, fun front x rest hs => h (c :: front) x rest (by rw [hs]; rfl)⟩
  · intro h front x rest hs
    cases front with
    | nil =>
        obtain ⟨hcx, hrest⟩ := List.cons.inj hs
        rw [← hcx, ← hrest]
        exact h.1
    | cons d front => exact h.2 front x rest (List.cons.inj hs).2

/-- **Fewer cuts make the same blocks exactly if they are kept.** -/
theorem blocks_eq_iff {solid cut cut' : α → Bool} (hsub : ∀ c, cut c = true → cut' c = true)
    (hdisj : ∀ c, solid c = true → cut' c = false) (s : List α) :
    blocks solid cut s = blocks solid cut' s ↔ CutsKept solid cut cut' s := by
  -- what is kept is cut by neither
  have hdisj' : ∀ c, solid c = true → cut c = false := by
    intro c hc
    cases h : cut c with
    | true => exact absurd (hsub c h) (by simp [hdisj c hc])
    | false => rfl
  induction s with
  | nil =>
      refine iff_of_true (by simp [blocks]) ?_
      intro front x rest hs
      simp at hs
  | cons c s ih =>
      rw [cutsKept_cons]
      cases hc : solid c with
      | false =>
          rw [blocks_hollow hc, blocks_hollow hc]
          simpa using ih
      | true =>
          by_cases hs : ∃ y ∈ s, solid y = true
          · by_cases hcuts : ∃ g ∈ gapBefore solid s, cut g = true
            · -- `c` stands alone either way
              have hcuts' : ∃ g ∈ gapBefore solid s, cut' g = true := by
                obtain ⟨g, hg, hcut⟩ := hcuts
                exact ⟨g, hg, hsub g hcut⟩
              rw [blocks_alone (hdisj' c hc) hc (Or.inl hcuts),
                blocks_alone (hdisj c hc) hc (Or.inl hcuts'), List.cons_inj_right]
              simpa [hcuts] using ih
            · have hgap : ∀ g ∈ gapBefore solid s, cut g = false := by simpa using hcuts
              obtain ⟨d, w, ws, hblocks, hjoin⟩ := blocks_join hdisj' hc hgap hs
              by_cases hcuts' : ∃ g ∈ gapBefore solid s, cut' g = true
              · -- a cut was lost, and `c` has run into the next block
                rw [hjoin, blocks_alone (hdisj c hc) hc (Or.inl hcuts')]
                refine iff_of_false ?_ ?_
                · intro h
                  simp at h
                · intro h
                  exact hcuts (h.1 rfl hs hcuts')
              · have hgap' : ∀ g ∈ gapBefore solid s, cut' g = false := by simpa using hcuts'
                obtain ⟨d', w', ws', hblocks', hjoin'⟩ := blocks_join hdisj hc hgap' hs
                rw [hjoin, hjoin']
                rw [hblocks, hblocks'] at ih
                simp only [List.cons.injEq, true_and] at ih ⊢
                simp [ih, hcuts']
          · -- nothing that stays comes behind `c`
            have hnone : ∀ y ∈ s, solid y = false := by simpa using hs
            rw [blocks_alone (hdisj' c hc) hc (Or.inr hnone),
              blocks_alone (hdisj c hc) hc (Or.inr hnone), List.cons_inj_right]
            simpa [hs] using ih

/-! ## §4. Words as blocks. -/

section Filtered

variable (sep keep : α → Bool)

/-- A symbol stays in a word if it is kept and no separator. -/
def staysIn (c : α) : Bool := keep c && !sep c

theorem words_eq_blocks (s : List α) : words sep s = blocks (fun c => !sep c) sep s := by
  unfold words blocks pieces
  congr 1
  symm
  conv_rhs => rw [← List.map_id (s.splitOnP sep)]
  refine List.map_congr_left fun w hw => List.filter_eq_self.mpr fun c hc => ?_
  rw [splitOnP_not_sep s w hw c hc]
  rfl

/-- **The words of what is kept**: the cuts are the separators that are kept. -/
theorem words_filter (s : List α) :
    words sep (s.filter keep) = blocks (staysIn sep keep) (fun c => sep c && keep c) s := by
  rw [words_eq_blocks]
  show (pieces _ _ _).filter _ = (pieces _ _ _).filter _
  congr 1
  induction s with
  | nil => simp
  | cons c s ih =>
      -- a separator that was dropped separates nothing
      cases hkeep : keep c with
      | false =>
          rw [List.filter_cons_of_neg (by simp [hkeep]), ih,
            pieces_inert (by simp [hkeep]) (by simp [staysIn, hkeep])]
      | true =>
          rw [List.filter_cons_of_pos hkeep]
          cases hsep : sep c with
          | true => rw [pieces_cut hsep, pieces_cut (by simp [hsep, hkeep]), ih]
          | false =>
              rw [pieces_solid hsep (by simp [hsep]), ih,
                pieces_solid (by simp [hsep]) (by simp [staysIn, hsep, hkeep])]

/-- **What is kept of the words**: the cuts are all the separators. -/
theorem words_map_filter (s : List α) :
    ((words sep s).map (List.filter keep)).filter (· ≠ []) = blocks (staysIn sep keep) sep s := by
  have hpieces : (s.splitOnP sep).map (List.filter keep) = pieces (staysIn sep keep) sep s := by
    refine List.map_congr_left fun w hw => List.filter_congr fun c hc => ?_
    simp [staysIn, splitOnP_not_sep s w hw c hc]
  -- an empty piece stays empty, so it may be dropped before or after
  have hdrop : ∀ l : List (List α), ((l.filter (· ≠ [])).map (List.filter keep)).filter (· ≠ [])
      = (l.map (List.filter keep)).filter (· ≠ []) := by
    intro l
    rw [List.filter_map, List.filter_map, List.filter_filter]
    refine congrArg _ (List.filter_congr fun w _ => ?_)
    cases w with
    | nil => rfl
    | cons c w => simp
  unfold words blocks
  rw [hdrop, hpieces]

/-- **When the words of what is kept are what is kept of the words.** -/
theorem words_filter_eq_iff (s : List α) :
    words sep (s.filter keep) = ((words sep s).map (List.filter keep)).filter (· ≠ [])
      ↔ CutsKept (staysIn sep keep) (fun c => sep c && keep c) sep s := by
  rw [words_filter, words_map_filter]
  refine blocks_eq_iff ?_ ?_ s
  · intro c hc
    exact (Bool.and_eq_true _ _ ▸ hc).1
  · intro c hc
    simpa using (Bool.and_eq_true _ _ ▸ hc : keep c = true ∧ (!sep c) = true).2

end Filtered

/-! ## §5. Words joined by single separators. -/

variable {sep : α → Bool}

/-- A symbol before a separator is a word. -/
theorem words_alone {c d : α} (hc : sep c = false) (hd : sep d = true) (s : List α) :
    words sep (c :: d :: s) = [c] :: words sep (d :: s) := by
  simp [words, List.splitOnP_cons_eq_if_modifyHead, hc, hd]

/-- A symbol before one that is no separator begins its word. -/
theorem words_grow {c d : α} (hc : sep c = false) (hd : sep d = false) (s : List α) :
    ∃ w ws, words sep (d :: s) = w :: ws ∧ words sep (c :: d :: s) = (c :: w) :: ws := by
  obtain ⟨head, tail, hsplit⟩ := List.exists_cons_of_ne_nil (List.splitOnP_ne_nil sep s)
  refine ⟨d :: head, tail.filter (· ≠ []), ?_, ?_⟩
  · simp [words, List.splitOnP_cons_eq_if_modifyHead, hd, hsplit]
  · simp [words, List.splitOnP_cons_eq_if_modifyHead, hc, hd, hsplit]

/-! ## §6. Words put together. -/

/-- The words of texts put together with a separator are those of each. -/
theorem words_intercalate {sep : α → Bool} {c : α} (hc : sep c = true) (parts : List (List α)) :
    words sep ([c].intercalate parts) = (parts.map (words sep)).flatten := by
  induction parts with
  | nil => exact words_nil sep
  | cons part parts ih =>
      -- the last part has no separator behind it
      cases parts with
      | nil =>
          rw [List.intercalate_singleton, List.map_singleton, List.flatten_singleton]
      | cons next parts =>
          rw [List.intercalate_cons_cons, List.append_assoc, List.singleton_append,
            words_append_sep hc, ih]
          rfl

/-- Words put together are themselves again. -/
theorem words_join {sep : α → Bool} {c : α} (hc : sep c = true) {ws : List (List α)}
    (h : ∀ w ∈ ws, w ≠ [] ∧ ∀ d ∈ w, sep d = false) : words sep ([c].intercalate ws) = ws := by
  rw [words_intercalate hc]
  induction ws with
  | nil => rfl
  | cons w ws ih =>
      obtain ⟨hne, hsolid⟩ := h w List.mem_cons_self
      rw [List.map_cons, List.flatten_cons, words_of_noSep hne hsolid,
        ih fun w hw => h w (List.mem_cons_of_mem _ hw)]
      rfl

end Feedcast.Lib
