/-
  Feedcast.Carousels.Wrapping — what is drawn of a slide's text.

    • `wrapWords_eq` — the loop of `wrap` is greedy line breaking on words,
    • `words_wrap` — the words of the lines are those of the text,
    • `wrap_wrap` — a text that was wrapped is wrapped as it is,
    • `wrap_minimal` — no breaking of the paragraphs has fewer lines,
    • `slide_drawn` — the calls of `drawSlide`, for every slide.
-/
import Feedcast.Lib.LineBreak
import Feedcast.Static.SlideCanvas
import Mathlib.Tactic.Linarith
import Mathlib.Tactic.Ring

namespace Feedcast

open Feedcast.Lib

/-! ## §1. Lines of words. -/

/-- A line as it is printed. -/
def printLine (line : List JsStr) : JsStr := [spaceUnit].intercalate line

/-- The width of a line, asked of its words. -/
def wordsFit (fits : JsStr → Bool) (line : List JsStr) : Bool := fits (printLine line)

theorem jsSpace_space : jsSpace spaceUnit = true := by decide

theorem jsSpace_newline : jsSpace newlineUnit = true := by decide

section Lines

variable {fits : JsStr → Bool} {line : List JsStr} {text paragraph : JsStr}

@[simp] theorem printLine_singleton (word : JsStr) : printLine [word] = word :=
  List.intercalate_singleton

theorem printLine_append (h : line ≠ []) (word : JsStr) :
    printLine (line ++ [word]) = printLine line ++ spaceUnit :: word := by
  induction line with
  | nil => exact absurd rfl h
  | cons first line ih =>
      -- the space comes before the word, unless it is the first
      cases line with
      | nil =>
          show [spaceUnit].intercalate [first, word] = printLine [first] ++ spaceUnit :: word
          rw [List.intercalate_cons_cons, List.intercalate_singleton, printLine_singleton,
            List.append_assoc]
          rfl
      | cons second line =>
          have hrest := ih (by simp)
          unfold printLine at hrest ⊢
          rw [List.cons_append, List.cons_append, List.intercalate_cons_cons,
            List.intercalate_cons_cons, ← List.cons_append, hrest, List.append_assoc,
            List.append_assoc, List.append_assoc]

/-- **The loop is greedy line breaking.** -/
theorem wrapWords_eq (h : line ≠ []) (words : List JsStr) :
    wrapWords fits (printLine line) words
      = (fillLine (wordsFit fits) line words).map printLine := by
  induction words generalizing line with
  | nil => rfl
  | cons word words ih =>
      have hcandidate := printLine_append h word
      unfold wrapWords fillLine
      -- the candidate of the loop is the line with one word more
      by_cases hfits : fits (printLine line ++ spaceUnit :: word) = true
      · have hwords : wordsFit fits (line ++ [word]) = true := by
          unfold wordsFit
          rw [hcandidate, hfits]
        simp only [if_pos hfits, if_pos hwords]
        rw [← hcandidate]
        exact ih (by simp)
      · have hwords : ¬ wordsFit fits (line ++ [word]) = true := by
          unfold wordsFit
          rwa [hcandidate]
        simp only [if_neg hfits, if_neg hwords]
        have hrest : wrapWords fits (printLine [word]) words = _ := ih (by simp)
        rw [printLine_singleton] at hrest
        rw [List.map_cons, hrest]

theorem wrapParagraph_eq (fits : JsStr → Bool) (h : words jsSpace paragraph ≠ []) :
    wrapParagraph fits paragraph
      = (breakLines (wordsFit fits) (words jsSpace paragraph)).map printLine := by
  unfold wrapParagraph
  cases hwords : words jsSpace paragraph with
  | nil => exact absurd hwords h
  | cons word rest =>
      have hlines : wrapWords fits (printLine [word]) rest = _ := wrapWords_eq (by simp) rest
      rw [printLine_singleton] at hlines
      exact hlines

theorem wrapParagraph_blank (fits : JsStr → Bool) (h : words jsSpace paragraph = []) :
    wrapParagraph fits paragraph = [[]] := by
  unfold wrapParagraph
  rw [h]

/-- The words of a printed line. -/
theorem words_printLine (h : ∀ w ∈ line, w ≠ [] ∧ ∀ unit ∈ w, jsSpace unit = false) :
    words jsSpace (printLine line) = line :=
  words_join jsSpace_space h

/-- A line of a paragraph holds words of it. -/
theorem mem_of_breakLines {ws : List JsStr} (hline : line ∈ breakLines (wordsFit fits) ws)
    {w : JsStr} (hw : w ∈ line) : w ∈ ws := by
  rw [← breakLines_flatten (wordsFit fits) ws]
  exact List.mem_flatten.mpr ⟨line, hline, hw⟩

/-! ## §2. A text and its lines. -/

/-- The words of a line that came out of a paragraph are the words it was made of. -/
theorem words_of_line (hline : line ∈ breakLines (wordsFit fits) (words jsSpace paragraph)) :
    words jsSpace (printLine line) = line := by
  refine words_printLine ?_
  intro w hw
  exact mem_words (mem_of_breakLines hline hw)

theorem words_wrapParagraph (fits : JsStr → Bool) (paragraph : JsStr) :
    ((wrapParagraph fits paragraph).map (words jsSpace)).flatten = words jsSpace paragraph := by
  by_cases h : words jsSpace paragraph = []
  · rw [wrapParagraph_blank fits h, h]
    simp
  · rw [wrapParagraph_eq fits h, List.map_map]
    have hlines : (breakLines (wordsFit fits) (words jsSpace paragraph)).map
        (words jsSpace ∘ printLine) = breakLines (wordsFit fits) (words jsSpace paragraph) :=
      (List.map_congr_left fun _ hline => words_of_line hline).trans (List.map_id _)
    rw [hlines, breakLines_flatten]

/-- **No word is lost, none is moved.** -/
theorem words_wrap (fits : JsStr → Bool) (text : JsStr) :
    ((wrap fits text).map (words jsSpace)).flatten = words jsSpace text := by
  have htext := words_intercalate jsSpace_newline (text.splitOn newlineUnit)
  rw [List.intercalate_splitOn] at htext
  rw [htext]
  unfold wrap
  induction text.splitOn newlineUnit with
  | nil => rfl
  | cons paragraph paragraphs ih =>
      rw [List.flatMap_cons, List.map_append, List.flatten_append, words_wrapParagraph, ih,
        List.map_cons, List.flatten_cons]

/-- A line is blank, or made of words of its paragraph. -/
theorem mem_wrap (h : text ∈ wrapParagraph fits paragraph) :
    (words jsSpace paragraph = [] ∧ text = []) ∨
    ∃ line ∈ breakLines (wordsFit fits) (words jsSpace paragraph), text = printLine line := by
  by_cases hblank : words jsSpace paragraph = []
  · rw [wrapParagraph_blank fits hblank] at h
    exact Or.inl ⟨hblank, List.mem_singleton.mp h⟩
  · rw [wrapParagraph_eq fits hblank] at h
    obtain ⟨line, hline, rfl⟩ := List.mem_map.mp h
    exact Or.inr ⟨line, hline, rfl⟩

/-- **Where a line is wider than the box, it is a single word.** -/
theorem wrap_width {l : JsStr} (h : l ∈ wrap fits text) :
    l = [] ∨ fits l = true ∨ ∀ unit ∈ l, jsSpace unit = false := by
  obtain ⟨paragraph, -, hl⟩ := List.mem_flatMap.mp h
  rcases mem_wrap hl with ⟨-, rfl⟩ | ⟨line, hline, rfl⟩
  · exact Or.inl rfl
  · rcases (breakLines_admissible line hline).2 with hone | hfits
    · obtain ⟨word, rfl⟩ := List.length_eq_one_iff.mp hone
      rw [printLine_singleton]
      refine Or.inr (Or.inr ?_)
      exact (mem_words (mem_of_breakLines hline List.mem_cons_self)).2
    · exact Or.inr (Or.inl hfits)

theorem mem_printLine {unit : UInt16} (h : unit ∈ printLine line) :
    unit = spaceUnit ∨ ∃ w ∈ line, unit ∈ w := by
  induction line with
  | nil => cases h
  | cons first line ih =>
      cases line with
      | nil =>
          rw [printLine_singleton] at h
          exact Or.inr ⟨first, List.mem_cons_self, h⟩
      | cons second line =>
          unfold printLine at h ih
          -- a word, a space, and the rest of the line
          rw [List.intercalate_cons_cons] at h
          rcases List.mem_append.mp h with h | h
          · rcases List.mem_append.mp h with h | h
            · exact Or.inr ⟨first, List.mem_cons_self, h⟩
            · exact Or.inl (List.mem_singleton.mp h)
          · rcases ih h with hspace | ⟨w, hw, hunit⟩
            · exact Or.inl hspace
            · exact Or.inr ⟨w, List.mem_cons_of_mem _ hw, hunit⟩

/-- No line holds a newline. -/
theorem newline_not_mem {l : JsStr} (h : l ∈ wrap fits text) : newlineUnit ∉ l := by
  obtain ⟨paragraph, -, hl⟩ := List.mem_flatMap.mp h
  intro hnewline
  rcases mem_wrap hl with ⟨-, rfl⟩ | ⟨line, hline, rfl⟩
  · cases hnewline
  · rcases mem_printLine hnewline with hspace | ⟨w, hw, hunit⟩
    · cases hspace
    · have hsolid := (mem_words (mem_of_breakLines hline hw)).2 _ hunit
      rw [jsSpace_newline] at hsolid
      cases hsolid

/-- A line that came out is wrapped as it is. -/
theorem wrapParagraph_line {l : JsStr} (h : l ∈ wrap fits text) :
    wrapParagraph fits l = [l] := by
  obtain ⟨paragraph, -, hl⟩ := List.mem_flatMap.mp h
  rcases mem_wrap hl with ⟨-, rfl⟩ | ⟨line, hline, rfl⟩
  · exact wrapParagraph_blank fits (words_nil jsSpace)
  · have hwords := words_of_line hline
    have hne := (breakLines_admissible line hline).1
    rw [wrapParagraph_eq fits (by rwa [hwords]), hwords, breakLines_line line hline]
    rfl

theorem wrapParagraph_ne_nil (fits : JsStr → Bool) (paragraph : JsStr) :
    wrapParagraph fits paragraph ≠ [] := by
  by_cases h : words jsSpace paragraph = []
  · rw [wrapParagraph_blank fits h]
    simp
  · rw [wrapParagraph_eq fits h]
    intro hnil
    have hlines := breakLines_flatten (wordsFit fits) (words jsSpace paragraph)
    rw [List.map_eq_nil_iff.mp hnil] at hlines
    exact h hlines.symm

theorem wrap_ne_nil (fits : JsStr → Bool) (text : JsStr) : wrap fits text ≠ [] := by
  unfold wrap
  cases hsplit : text.splitOn newlineUnit with
  | nil => exact absurd hsplit (List.splitOn_ne_nil _ _)
  | cons paragraph paragraphs =>
      rw [List.flatMap_cons]
      intro hnil
      exact wrapParagraph_ne_nil fits paragraph (List.append_eq_nil_iff.mp hnil).1

/-- **A text that was wrapped is wrapped as it is.** -/
theorem wrap_wrap (fits : JsStr → Bool) (text : JsStr) :
    wrap fits ([newlineUnit].intercalate (wrap fits text)) = wrap fits text := by
  have hsplit := List.splitOn_intercalate newlineUnit
    (fun l hl => newline_not_mem hl) (wrap_ne_nil fits text)
  have hagain : wrap fits ([newlineUnit].intercalate (wrap fits text))
      = (([newlineUnit].intercalate (wrap fits text)).splitOn newlineUnit).flatMap
          (wrapParagraph fits) := rfl
  rw [hagain, hsplit]
  -- each line stays one line, so joining and splitting gives them back
  have hlines : ∀ lines : List JsStr, (∀ l ∈ lines, wrapParagraph fits l = [l]) →
      lines.flatMap (wrapParagraph fits) = lines := by
    intro lines hlines
    induction lines with
    | nil => rfl
    | cons l lines ih =>
        rw [List.flatMap_cons, hlines l List.mem_cons_self,
          ih fun l hl => hlines l (List.mem_cons_of_mem _ hl)]
        rfl
  exact hlines _ fun l hl => wrapParagraph_line hl

/-- **No breaking of a paragraph has fewer lines**, where a line without its first
or its last words fits if it did with them. -/
theorem wrapParagraph_minimal (hfits : Shrinks (wordsFit fits)) (lines : List (List JsStr))
    (hlines : ∀ l ∈ lines, Admissible (wordsFit fits) l)
    (hwords : lines.flatten = words jsSpace paragraph) (hsome : words jsSpace paragraph ≠ []) :
    (wrapParagraph fits paragraph).length ≤ lines.length := by
  rw [wrapParagraph_eq fits hsome, List.length_map, ← hwords]
  exact breakLines_minimal hfits lines hlines

end Lines

/-! ## §3. The slide. -/

/-- The headline texts among the calls, with where they stand. -/
def Draw.headline : Draw → Option (JsStr × ℚ × ℚ)
  | .fillText .ink _ _ text x y => some (text, x, y)
  | _ => none

/-- Where the last line of every slide of a kind stands. -/
def lastBaseline (kind : SlideKind) : ℚ := ruleTop kind - ruleGap

def lineHeight (kind : SlideKind) : ℚ := (fontOf kind).size * (fontOf kind).line

/-- The most lines of which the first still stands on the slide. -/
def lineRoom : SlideKind → Nat
  | .story => 15
  | .intro => 12
  | .cta => 13

/-- What is right about the calls that draw a slide. -/
structure SlideDrawn (measure : Measure) (slide : JsSlide) : Prop where
  /-- The words of the slide are drawn, each once and in order. -/
  text : (((drawSlide measure slide).filterMap Draw.headline).map
    fun call => words jsSpace call.1).flatten = words jsSpace slide.content.text
  /-- Every line is within the margins, or is a single word. -/
  width : ∀ call ∈ (drawSlide measure slide).filterMap Draw.headline,
    call.2.1 = marginX ∧ (call.1 = [] ∨
      marginX + measure (fontOf slide.content.kind) call.1 ≤ canvasWidth - marginX ∨
      ∀ unit ∈ call.1, jsSpace unit = false)
  /-- Where a line without its first or its last words is not wider, no breaking of
  a paragraph has fewer lines. -/
  minimal : Shrinks (wordsFit (textFits measure slide.content.kind)) →
    ∀ paragraph ∈ slide.content.text.splitOn newlineUnit, words jsSpace paragraph ≠ [] →
    ∀ lines : List (List JsStr), lines.flatten = words jsSpace paragraph →
      (∀ l ∈ lines, Admissible (wordsFit (textFits measure slide.content.kind)) l) →
      (wrapParagraph (textFits measure slide.content.kind) paragraph).length ≤ lines.length
  /-- The lines are evenly spaced up from one baseline, wherever the text ends. -/
  baseline : ∀ (i : Nat) call,
    ((drawSlide measure slide).filterMap Draw.headline)[i]? = some call →
    call.2.2 = lastBaseline slide.content.kind
      - ((slide.lines measure).length - 1 - i) * lineHeight slide.content.kind
  /-- None of them comes near the rule, and all of them stand on the slide exactly
  if there is room for that many. -/
  inside : (∀ call ∈ (drawSlide measure slide).filterMap Draw.headline,
      0 ≤ call.2.2 ∧ call.2.2 + ruleGap ≤ ruleTop slide.content.kind)
    ↔ (slide.lines measure).length ≤ lineRoom slide.content.kind
  /-- The text as it is laid out draws the same slide. -/
  stable : drawSlide measure { slide with content := { slide.content with
      text := [newlineUnit].intercalate (slide.lines measure) } } = drawSlide measure slide

section Drawing

variable {measure : Measure} {slide : JsSlide}

theorem drawLines_eq (font : Font) (height y : ℚ) (lines : List JsStr) :
    (drawLines font height y lines).filterMap Draw.headline
      = lines.mapIdx fun i line => (line, marginX, y + i * height) := by
  induction lines generalizing y with
  | nil => rfl
  | cons line lines ih =>
      rw [List.mapIdx_cons]
      show (line, marginX, y) :: (drawLines font height (y + height) lines).filterMap _ = _
      rw [ih]
      congr 1
      · simp
      · congr 1
        funext i line
        -- one line further down, with the index one lower
        have hy : y + height + i * height = y + ((i : ℚ) + 1) * height := by ring
        rw [Nat.cast_succ, hy]

/-- The headline of a slide, line by line. -/
theorem headline_drawSlide (measure : Measure) (slide : JsSlide) :
    (drawSlide measure slide).filterMap Draw.headline
      = (slide.lines measure).mapIdx fun i line => (line, marginX,
          lastBaseline slide.content.kind
            - ((slide.lines measure).length - 1) * lineHeight slide.content.kind
            + i * lineHeight slide.content.kind) := by
  have hlines := drawLines_eq (fontOf slide.content.kind) (lineHeight slide.content.kind)
    (lastBaseline slide.content.kind
      - ((slide.lines measure).length - 1) * lineHeight slide.content.kind) (slide.lines measure)
  rw [← hlines]
  unfold drawSlide
  rw [List.cons_append, List.filterMap_cons_none rfl, List.filterMap_append,
    List.filterMap_cons_none rfl]
  -- the credit is no headline
  refine (congrArg (_ ++ ·) (List.filterMap_eq_nil_iff.mpr ?_)).trans (List.append_nil _)
  intro call hcall
  split at hcall
  · split at hcall
    · rw [List.mem_singleton.mp hcall]
      rfl
    · cases hcall
  · cases hcall

/-- The headline is the lines of the text. -/
theorem headline_texts (measure : Measure) (slide : JsSlide) :
    ((drawSlide measure slide).filterMap Draw.headline).map (·.1) = slide.lines measure := by
  rw [headline_drawSlide]
  refine List.ext_getElem? ?_
  intro i
  rw [List.getElem?_map, List.getElem?_mapIdx, Option.map_map]
  exact congrFun Option.map_id _

theorem mem_headline {call : JsStr × ℚ × ℚ}
    (h : call ∈ (drawSlide measure slide).filterMap Draw.headline) :
    ∃ i < (slide.lines measure).length, call.1 ∈ slide.lines measure ∧ call.2.1 = marginX ∧
      call.2.2 = lastBaseline slide.content.kind
        - ((slide.lines measure).length - 1 - i) * lineHeight slide.content.kind := by
  rw [headline_drawSlide] at h
  obtain ⟨i, hi, rfl⟩ := List.mem_mapIdx.mp h
  refine ⟨i, hi, List.getElem_mem hi, rfl, ?_⟩
  ring

/-- The lines of the text as it is laid out. -/
theorem lines_stable (measure : Measure) (slide : JsSlide) :
    JsSlide.lines measure { slide with content := { slide.content with
      text := [newlineUnit].intercalate (slide.lines measure) } } = slide.lines measure :=
  wrap_wrap _ _

theorem lastBaseline_eq (kind : SlideKind) :
    lastBaseline kind = if kind = .story then 1137 else 1185 := by
  cases kind <;> simp only [lastBaseline, ruleTop, ruleGap, canvasHeight, bottom, creditGap, ruleH,
    reduceCtorEq, if_true, if_false] <;> norm_num

theorem lineHeight_eq (kind : SlideKind) :
    lineHeight kind = match kind with
      | .story => 2013 / 25
      | .intro => 2494 / 25
      | .cta => 2301 / 25 := by
  cases kind <;> simp only [lineHeight, fontOf] <;> norm_num

theorem lineHeight_pos (kind : SlideKind) : 0 < lineHeight kind := by
  rw [lineHeight_eq]
  cases kind <;> norm_num

/-- There is room for so many lines, and no more. -/
theorem lineRoom_spec (kind : SlideKind) (n : Nat) :
    0 ≤ lastBaseline kind - ((n : ℚ) - 1) * lineHeight kind ↔ n ≤ lineRoom kind := by
  rw [lastBaseline_eq, lineHeight_eq]
  -- linear in the number of lines, for each kind of slide
  by_cases hle : n ≤ lineRoom kind
  · refine iff_of_true ?_ hle
    have h : (n : ℚ) ≤ lineRoom kind := Nat.cast_le.mpr hle
    cases kind <;> simp only [lineRoom, Nat.cast_ofNat, reduceCtorEq, if_true, if_false] at h ⊢ <;>
      linarith
  · refine iff_of_false ?_ hle
    have h : ((lineRoom kind + 1 : Nat) : ℚ) ≤ n := Nat.cast_le.mpr (Nat.lt_of_not_le hle)
    cases kind <;>
      simp only [lineRoom, Nat.reduceAdd, Nat.cast_ofNat, reduceCtorEq, if_true,
        if_false] at h ⊢ <;>
      linarith

end Drawing

/-- **WHAT IS DRAWN IS THE SLIDE'S TEXT**, for every slide and every font: all its
words in order, within the margins but for single words that are wider, up from
one baseline for the whole deck; and the text as it is laid out draws the same
slide. -/
theorem slide_drawn (measure : Measure) (slide : JsSlide) : SlideDrawn measure slide := by
  have hpos := lineHeight_pos slide.content.kind
  refine ⟨?_, ?_, ?_, ?_, ?_, ?_⟩
  · have htexts := congrArg (fun texts => (texts.map (words jsSpace)).flatten)
      (headline_texts measure slide)
    simp only [List.map_map] at htexts
    exact htexts.trans (words_wrap _ _)
  · intro call hcall
    obtain ⟨-, -, hline, hx, -⟩ := mem_headline hcall
    refine ⟨hx, ?_⟩
    rcases wrap_width hline with hblank | hfits | hword
    · exact Or.inl hblank
    · refine Or.inr (Or.inl ?_)
      have hwidth := of_decide_eq_true hfits
      linarith
    · exact Or.inr (Or.inr hword)
  · intro hfits paragraph _ hsome lines hwords hlines
    exact wrapParagraph_minimal hfits lines hlines hwords hsome
  · intro i call hget
    rw [headline_drawSlide, List.getElem?_mapIdx] at hget
    obtain ⟨line, -, rfl⟩ := Option.map_eq_some_iff.mp hget
    ring
  · rw [← lineRoom_spec]
    constructor
    · intro h
      -- the first line
      have hne : slide.lines measure ≠ [] := wrap_ne_nil _ _
      have hlt := List.length_pos_iff.mpr hne
      have hfirst := List.getElem?_eq_getElem hlt
      have hcall : ((drawSlide measure slide).filterMap Draw.headline)[0]?
          = some ((slide.lines measure)[0], marginX, lastBaseline slide.content.kind
              - ((slide.lines measure).length - 1) * lineHeight slide.content.kind
              + (0 : Nat) * lineHeight slide.content.kind) := by
        rw [headline_drawSlide, List.getElem?_mapIdx, hfirst]
        rfl
      have hinside := (h _ (List.mem_of_getElem? hcall)).1
      simpa using hinside
    · intro hroom call hcall
      obtain ⟨i, hi, -, -, hy⟩ := mem_headline hcall
      have hcast : (i : ℚ) + 1 ≤ (slide.lines measure).length := by exact_mod_cast hi
      have hnonneg : (0 : ℚ) ≤ i := Nat.cast_nonneg i
      have hbelow := mul_nonneg hnonneg hpos.le
      have habove : (0 : ℚ) ≤ ((slide.lines measure).length - 1 - i) *
          lineHeight slide.content.kind := mul_nonneg (by linarith) hpos.le
      rw [hy]
      constructor
      · linarith
      · unfold lastBaseline at hroom ⊢
        linarith
  · unfold drawSlide
    simp only [lines_stable]

end Feedcast
