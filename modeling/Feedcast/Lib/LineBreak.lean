/-
  Feedcast.Lib.LineBreak — filling lines with words, the greedy way.

  A line takes the next word as long as the two fit together; the first word of
  a line is there in any case.

    • `breakLines_flatten` — no word is lost, none is moved,
    • `breakLines_admissible` — a line fits, or is a single word,
    • `breakLines_line` — a line that came out stays one line when it is broken
      again,
    • `breakLines_minimal` — where what fits still fits without its last or its
      first word, no other breaking has fewer lines.
-/
import Mathlib.Data.List.Infix

namespace Feedcast.Lib

variable {α : Type*} {fits : List α → Bool} {line front back : List α} {ws : List α} {w : α}

/-! ## §1. The loop. -/

/-- The lines from the one that is being filled on. -/
def fillLine (fits : List α → Bool) (line : List α) : List α → List (List α)
  | [] => [line]
  | w :: ws =>
      if fits (line ++ [w]) then fillLine fits (line ++ [w]) ws
      else line :: fillLine fits [w] ws

/-- The lines of some words; none for none. -/
def breakLines (fits : List α → Bool) : List α → List (List α)
  | [] => []
  | w :: ws => fillLine fits [w] ws

/-- A line as it may be: within the measure, or a word by itself. -/
def Admissible (fits : List α → Bool) (line : List α) : Prop :=
  line ≠ [] ∧ (line.length = 1 ∨ fits line = true)

/-! ## §2. What the lines hold. -/

theorem fillLine_flatten (fits : List α → Bool) (line ws : List α) :
    (fillLine fits line ws).flatten = line ++ ws := by
  induction ws generalizing line with
  | nil => simp [fillLine]
  | cons w ws ih =>
      unfold fillLine
      split
      · rw [ih, List.append_assoc]
        rfl
      · rw [List.flatten_cons, ih]
        rfl

/-- **No word is lost, none is moved.** -/
theorem breakLines_flatten (fits : List α → Bool) (ws : List α) :
    (breakLines fits ws).flatten = ws := by
  cases ws with
  | nil => rfl
  | cons w ws => exact fillLine_flatten fits [w] ws

theorem fillLine_admissible (hline : Admissible fits line) :
    ∀ l ∈ fillLine fits line ws, Admissible fits l := by
  induction ws generalizing line with
  | nil =>
      intro l hl
      rw [List.mem_singleton.mp hl]
      exact hline
  | cons w ws ih =>
      unfold fillLine
      split
      -- the word joins the line only where the whole still fits
      · next hfits => exact ih ⟨by simp, Or.inr hfits⟩
      -- otherwise the line is closed and the word opens one, however long it is
      · intro l hl
        rcases List.mem_cons.mp hl with heq | hl
        · rw [heq]
          exact hline
        · exact ih ⟨by simp, Or.inl rfl⟩ l hl

/-- **A line fits, or is a single word.** -/
theorem breakLines_admissible : ∀ l ∈ breakLines fits ws, Admissible fits l := by
  cases ws with
  | nil =>
      intro l hl
      cases hl
  | cons w ws => exact fillLine_admissible ⟨by simp, Or.inl rfl⟩

/-! ## §3. Lines that stay. -/

/-- The line can be filled up to here, word by word. -/
def Fills (fits : List α → Bool) (line more : List α) : Prop :=
  ∀ front, front <+: more → front ≠ [] → fits (line ++ front) = true

theorem fillLine_of_fills (h : Fills fits line front) :
    fillLine fits line (front ++ back) = fillLine fits (line ++ front) back := by
  induction front generalizing line with
  | nil => rw [List.nil_append, List.append_nil]
  | cons w front ih =>
      have hw : fits (line ++ [w]) = true := h [w] (by simp) (by simp)
      rw [List.cons_append, fillLine, if_pos hw, ih]
      · rw [List.append_assoc]
        rfl
      · intro more hmore hne
        rw [List.append_assoc]
        exact h (w :: more) ((List.prefix_cons_inj w).mpr hmore) (by simp)

/-- The line that is being filled takes some of the words; the others are broken
on their own. -/
theorem fillLine_head (fits : List α → Bool) (line ws : List α) :
    ∃ front back, ws = front ++ back ∧ Fills fits line front ∧
      fillLine fits line ws = (line ++ front) :: breakLines fits back := by
  induction ws generalizing line with
  | nil =>
      refine ⟨[], [], rfl, ?_, by simp [fillLine, breakLines]⟩
      intro front hfront hne
      exact absurd (List.prefix_nil.mp hfront) hne
  | cons w ws ih =>
      unfold fillLine
      split
      -- the word goes on this line: what the recursion fills starts after it
      · next hfits =>
          obtain ⟨front, back, hws, hfills, hlines⟩ := ih (line ++ [w])
          refine ⟨w :: front, back, by rw [hws]; rfl, ?_, by simp [hlines]⟩
          intro more hmore hne
          -- a longer start of the front begins with the same word
          cases more with
          | nil => exact absurd rfl hne
          | cons v more =>
              obtain ⟨rfl, hrest⟩ := List.cons_prefix_cons.mp hmore
              by_cases hnil : more = []
              · rw [hnil]
                exact hfits
              · have hlong := hfills more hrest hnil
                rwa [List.append_assoc] at hlong
      -- the word does not fit, so this line takes nothing more
      · refine ⟨[], w :: ws, rfl, ?_, ?_⟩
        · intro front hfront hne
          exact absurd (List.prefix_nil.mp hfront) hne
        · rw [List.append_nil]
          rfl

/-- **A line that came out stays one line.** -/
theorem breakLines_line : ∀ l ∈ breakLines fits ws, breakLines fits l = [l] := by
  induction hn : ws.length using Nat.strong_induction_on generalizing ws with
  | _ n ih =>
      cases ws with
      | nil =>
          intro l hl
          cases hl
      | cons w ws =>
          obtain ⟨front, back, hws, hfills, hlines⟩ := fillLine_head fits [w] ws
          show ∀ l ∈ fillLine fits [w] ws, _
          rw [hlines]
          intro l hl
          -- the first line breaks into itself; the others by induction on what is left
          rcases List.mem_cons.mp hl with heq | hl
          · rw [heq]
            show fillLine fits [w] front = _
            rw [← List.append_nil front, fillLine_of_fills hfills]
            simp [fillLine]
          · refine ih back.length ?_ rfl l hl
            rw [← hn, hws, List.length_cons, List.length_append]
            omega

/-! ## §4. As few lines as possible. -/

/-- What fits still fits without its last or its first words. -/
structure Shrinks (fits : List α → Bool) : Prop where
  front : ∀ front back : List α, front ≠ [] → fits (front ++ back) = true → fits front = true
  back : ∀ front back : List α, back ≠ [] → fits (front ++ back) = true → fits back = true

/-- What is left of a line is a line. -/
theorem Admissible.rest (hfits : Shrinks fits) (h : Admissible fits (front ++ back))
    (hne : back ≠ []) : Admissible fits back := by
  refine ⟨hne, ?_⟩
  rcases h.2 with hone | hall
  · left
    have hpos := List.length_pos_iff.mpr hne
    rw [List.length_append] at hone
    omega
  · exact Or.inr (hfits.back front back hne hall)

/-- A line that may be is filled from its first word on. -/
theorem Admissible.fills (hfits : Shrinks fits) (h : Admissible fits (w :: front)) :
    Fills fits [w] front := by
  intro more hmore hne
  obtain ⟨rest, rfl⟩ := hmore
  rcases h.2 with hone | hall
  · have hpos := List.length_pos_iff.mpr hne
    rw [List.length_cons, List.length_append] at hone
    omega
  · exact hfits.front (w :: more) rest (by simp) hall

/-- **Greedy stays ahead**: the words from somewhere in the first line on take no
more lines than there are. -/
theorem breakLines_ahead (hfits : Shrinks fits) (lines : List (List α))
    (hlines : ∀ l ∈ lines, Admissible fits l) (hws : ws <:+ lines.flatten) :
    (breakLines fits ws).length ≤ lines.length := by
  induction lines generalizing ws with
  | nil =>
      rw [List.suffix_nil.mp hws]
      exact Nat.le_refl _
  | cons l lines ih =>
      have hrest {ws : List α} (hws : ws <:+ lines.flatten) :
          (breakLines fits ws).length ≤ lines.length :=
        ih (fun l hl => hlines l (List.mem_cons_of_mem _ hl)) hws
      obtain ⟨gone, hgone⟩ := hws
      rw [List.flatten_cons] at hgone
      rcases List.append_eq_append_iff.mp hgone with ⟨part, hl, hpart⟩ | ⟨part, -, hpart⟩
      · -- they begin in this line
        by_cases hnil : part = []
        · rw [hnil, List.nil_append] at hpart
          rw [hpart, List.length_cons]
          exact Nat.le_succ_of_le (hrest List.suffix_rfl)
        · have hadmissible : Admissible fits part := by
            have hline := hlines l List.mem_cons_self
            rw [hl] at hline
            exact hline.rest hfits hnil
          cases part with
          | nil => exact absurd rfl hnil
          | cons w front =>
              -- the greedy line takes all that is left of this one
              rw [hpart, List.cons_append]
              show (fillLine fits [w] (front ++ lines.flatten)).length ≤ _
              rw [fillLine_of_fills (hadmissible.fills hfits)]
              obtain ⟨more, back, hws, -, hhead⟩ :=
                fillLine_head fits ([w] ++ front) lines.flatten
              rw [hhead, List.length_cons, List.length_cons]
              exact Nat.succ_le_succ (hrest ⟨more, hws.symm⟩)
      · rw [List.length_cons]
        exact Nat.le_succ_of_le (hrest ⟨part, hpart.symm⟩)

/-- **No other breaking has fewer lines.** -/
theorem breakLines_minimal (hfits : Shrinks fits) (lines : List (List α))
    (hlines : ∀ l ∈ lines, Admissible fits l) :
    (breakLines fits lines.flatten).length ≤ lines.length :=
  breakLines_ahead hfits lines hlines List.suffix_rfl

end Feedcast.Lib
