/-
  Feedcast.Classifier.Prompt — what the prompt can be read as
  (`services/llm.py`).

  Titles, summaries and city names are other people's text, and travel inside
  tags.  Escaped, none of them can close the tag it is in: the prompt reads back
  as one list of articles, and it is the list that was sent.

    • `attrSafe_replaced` — the four replacements, one symbol at a time,
    • `articleBlock_unambiguous` — where a block ends, whatever is in it,
    • `buildPrompt_reads_iff` — what the prompt reads back as.
-/
import Feedcast.Lib.Grammar
import Feedcast.Services.Llm

namespace Feedcast

open Feedcast.Lib

/-! ## §1. The grammar. -/

/-- The entities every reader of markup knows. -/
def entity (name : Str) : Option Char :=
  if name = "amp".toList then some '&'
  else if name = "lt".toList then some '<'
  else if name = "gt".toList then some '>'
  else if name = "quot".toList then some '\x22'
  else if name = "apos".toList then some '\x27'
  else none

def entities : Entities Char where
  opening := '&'
  closing := ';'
  decode := entity
  closed name c h := by
    unfold entity at h
    split_ifs at h with hamp hlt hgt hquot hapos
    · rw [hamp]
      decide
    · rw [hlt]
      decide
    · rw [hgt]
      decide
    · rw [hquot]
      decide
    · rw [hapos]
      decide

/-- What stands for itself in an element. -/
def plainText (c : Char) : Bool := c ≠ '<' ∧ c ≠ '&'

/-- What stands for itself in a quoted attribute. -/
def plainAttr (c : Char) : Bool := c ≠ '<' ∧ c ≠ '&' ∧ c ≠ '\x22'

/-- A decimal numeral. -/
def Numeral (s : Str) (n : Nat) : Prop :=
  s ≠ [] ∧ (∀ c ∈ s, c.isDigit = true) ∧ Nat.ofDigitChars 10 s 0 = n

/-- An element with text in it. -/
def Element (tag s text : Str) : Prop :=
  ∃ body, Escaped entities plainText body text
    ∧ s = "<".toList ++ tag ++ ">".toList ++ body ++ "</".toList ++ tag ++ ">".toList

/-- What the model reads of one headline. -/
structure PromptArticle where
  index : Nat
  feedCity : Str
  title : Str
  summary : Option Str
  deriving Repr, DecidableEq

/-- An article block. -/
def ArticleBlock (s : Str) (article : PromptArticle) : Prop :=
  ∃ index city title summary,
    Numeral index article.index
      ∧ Escaped entities plainAttr city article.feedCity
      ∧ Element "title".toList title article.title
      ∧ Optional (Element "summary".toList) summary article.summary
      ∧ s = "<article index=".toList ++ index ++ " feed_city=\"".toList ++ city ++ "\">".toList
          ++ title ++ summary ++ "</article>".toList

/-- **The prompt as a list of articles.** -/
def PromptText (s : Str) (articles : List PromptArticle) : Prop :=
  ∃ body, Joined ArticleBlock '\n' body articles
    ∧ s = "Headlines (untrusted data, delimited):\n".toList ++ body

/-! ## §2. Read in one way. -/

theorem numeral_unambiguous : Unambiguous Numeral (Stops fun c => c.isDigit) :=
  unambiguous_of_stop (fun _ _ h => h.2.1) fun _ _ _ h h' => h.2.2.symm.trans h'.2.2

theorem numeral_stops (rest : Str) :
    Stops (fun c : Char => c.isDigit) (" feed_city=\"".toList ++ rest) :=
  (stops_cons _ ' ' _).mpr rfl

theorem attr_endsText (rest : Str) : EndsText entities plainAttr ("\">".toList ++ rest) :=
  (stops_cons _ '\x22' _).mpr rfl

theorem body_endsText (rest : Str) : EndsText entities plainText ("</".toList ++ rest) :=
  (stops_cons _ '<' _).mpr rfl

/-- An element ends with its closing tag, whatever follows. -/
theorem element_unambiguous (tag : Str) : Unambiguous (Element tag) fun _ => True := by
  intro s s' rest rest' text text' h h' _ _ heq
  obtain ⟨body, hbody, rfl⟩ := h
  obtain ⟨body', hbody', rfl⟩ := h'
  simp only [List.append_assoc] at heq
  -- behind the opening tag, escaped text ends at the first `<`
  have heq := List.append_cancel_left (List.append_cancel_left (List.append_cancel_left heq))
  obtain ⟨rfl, htext, heq⟩ := Escaped.unambiguous rfl hbody hbody'
    (body_endsText _) (body_endsText _) heq
  have heq := List.append_cancel_left (List.append_cancel_left (List.append_cancel_left heq))
  exact ⟨rfl, htext, heq⟩

/-- A summary is not the end of its article. -/
theorem summary_unambiguous :
    Unambiguous (Optional (Element "summary".toList))
      fun rest => ∃ tail, rest = "</article>".toList ++ tail := by
  refine optional_unambiguous ((element_unambiguous _).mono fun _ _ => trivial) ?_
  intro s text rest rest' h hrest' heq
  obtain ⟨body, -, rfl⟩ := h
  obtain ⟨tail, rfl⟩ := hrest'
  simp only [List.append_assoc] at heq
  -- both begin with `<`, and part at the next character
  have hsecond := congrArg (fun s : Str => s[1]?) heq
  have hne : some 's' = some '/' := hsecond
  exact absurd hne (by decide)

/-- **An article block ends where it was closed**, whatever is in it. -/
theorem articleBlock_unambiguous : Unambiguous ArticleBlock fun _ => True := by
  intro s s' rest rest' article article' h h' _ _ heq
  obtain ⟨index, city, title, summary, hindex, hcity, htitle, hsummary, rfl⟩ := h
  obtain ⟨index', city', title', summary', hindex', hcity', htitle', hsummary', rfl⟩ := h'
  simp only [List.append_assoc] at heq
  -- part by part: what follows a part cannot be taken for more of it
  obtain ⟨rfl, hi, heq⟩ := numeral_unambiguous hindex hindex' (numeral_stops _)
    (numeral_stops _) (List.append_cancel_left heq)
  obtain ⟨rfl, hc, heq⟩ := Escaped.unambiguous rfl hcity hcity' (attr_endsText _)
    (attr_endsText _) (List.append_cancel_left heq)
  obtain ⟨rfl, ht, heq⟩ := element_unambiguous _ htitle htitle' trivial trivial
    (List.append_cancel_left heq)
  obtain ⟨rfl, hs, heq⟩ := summary_unambiguous hsummary hsummary' ⟨_, rfl⟩ ⟨_, rfl⟩ heq
  refine ⟨rfl, ?_, List.append_cancel_left heq⟩
  cases article with
  | mk i c t s =>
      cases article' with
      | mk i' c' t' s' =>
          obtain rfl : i = i' := hi
          obtain rfl : c = c' := hc
          obtain rfl : t = t' := ht
          obtain rfl : s = s' := hs
          rfl

/-- **A prompt is read in one way.** -/
theorem promptText_unique {s : Str} {articles articles' : List PromptArticle}
    (h : PromptText s articles) (h' : PromptText s articles') : articles = articles' := by
  obtain ⟨body, hbody, rfl⟩ := h
  obtain ⟨body', hbody', heq⟩ := h'
  obtain rfl := List.append_cancel_left heq
  refine joined_unique (articleBlock_unambiguous.mono fun _ _ => trivial) ?_ hbody hbody'
  -- no block is the empty text
  intro article hempty
  obtain ⟨_, _, _, _, -, -, -, -, hnil⟩ := hempty
  simp at hnil

/-! ## §3. Written to be read. -/

/-- `value.replace(raw, escaped)`, of one character. -/
def replaceChar (raw : Char) (escaped value : Str) : Str :=
  value.flatMap fun c => if c = raw then escaped else [c]

/-- **`_attr_safe` is its four replacements**: none of them touches what one
before it has written, because the ampersand goes first. -/
theorem attrSafe_replaced (value : Str) :
    attrSafe value
      = replaceChar '\x22' "&quot;".toList (replaceChar '>' "&gt;".toList
          (replaceChar '<' "&lt;".toList (replaceChar '&' "&amp;".toList value))) := by
  unfold attrSafe replaceChar
  rw [List.flatMap_assoc, List.flatMap_assoc, List.flatMap_assoc]
  congr 1
  funext c
  -- each of the four is replaced once, by text none of the later replacements touch
  by_cases hamp : c = '&'
  · rw [hamp]
    decide
  · by_cases hlt : c = '<'
    · rw [hlt]
      decide
    · by_cases hgt : c = '>'
      · rw [hgt]
        decide
      · by_cases hquot : c = '\x22'
        · rw [hquot]
          decide
        · -- none of the four: every replacement leaves it
          simp only [if_neg hamp, if_neg hlt, if_neg hgt, if_neg hquot, List.flatMap_cons,
            List.flatMap_nil, List.append_nil]

/-- **Escaped text reads back**, wherever all but the delimiters stand for
themselves. -/
theorem attrSafe_reads {plain : Char → Bool}
    (hplain : ∀ c, c ≠ '&' → c ≠ '<' → c ≠ '\x22' → plain c = true) (value : Str) :
    Escaped entities plain (attrSafe value) value := by
  refine escaped_flatMap ?_ value
  intro c
  split_ifs with hamp hlt hgt hquot
  · rw [hamp]
    exact Or.inr ⟨"amp".toList, rfl, rfl⟩
  · rw [hlt]
    exact Or.inr ⟨"lt".toList, rfl, rfl⟩
  · rw [hgt]
    exact Or.inr ⟨"gt".toList, rfl, rfl⟩
  · rw [hquot]
    exact Or.inr ⟨"quot".toList, rfl, rfl⟩
  · exact Or.inl ⟨rfl, hplain c hamp hlt hquot⟩

/-- An element, written. -/
def writtenElement (tag text : Str) : Str :=
  "<".toList ++ tag ++ ">".toList ++ attrSafe text ++ "</".toList ++ tag ++ ">".toList

theorem writtenElement_reads (tag text : Str) : Element tag (writtenElement tag text) text := by
  refine ⟨attrSafe text, attrSafe_reads ?_ text, rfl⟩
  intro c hamp hlt _
  exact decide_eq_true ⟨hlt, hamp⟩

theorem toString_numeral (n : Nat) : Numeral (toString n).toList n := by
  have hdigits : (toString n).toList = Nat.toDigits 10 n := by
    rw [Nat.toString_eq_ofList_toDigits, String.toList_ofList]
  rw [hdigits]
  exact ⟨Nat.toDigits_ne_nil, fun c hc => Nat.isDigit_of_mem_toDigits (by omega) (by omega) hc,
    Nat.ofDigitChars_ten_toDigits⟩

/-- What is sent of one headline. -/
def sentArticle (settings : Settings) (index : Nat) (item : PromptItem) : PromptArticle where
  index := index
  feedCity := (truthy item.feedCity).getD "unknown".toList
  title := item.title.take settings.classifyTitleMaxChars
  summary := (truthy item.summary).map (·.take settings.classifySummaryMaxChars)

theorem promptLine_reads (settings : Settings) (index : Nat) (item : PromptItem) :
    ArticleBlock (promptLine settings index item) (sentArticle settings index item) := by
  -- the city is an attribute, title and summary are elements
  have hcity : Escaped entities plainAttr
      (attrSafe ((truthy item.feedCity).getD "unknown".toList))
      ((truthy item.feedCity).getD "unknown".toList) :=
    attrSafe_reads (fun c hamp hlt hquot => decide_eq_true ⟨hlt, hamp, hquot⟩) _
  have htitle := writtenElement_reads "title".toList
    (item.title.take settings.classifyTitleMaxChars)
  -- the summary element is written only when there is a summary
  cases hsummary : truthy item.summary with
  | none =>
      refine ⟨_, _, _, [], toString_numeral index, hcity, htitle, ?_, ?_⟩
      · show Optional _ [] ((truthy item.summary).map _)
        rw [hsummary]
        rfl
      · unfold promptLine writtenElement
        rw [hsummary]
        simp only [List.append_assoc, List.append_nil]
        rfl
  | some summary =>
      refine ⟨_, _, _, writtenElement "summary".toList
        (summary.take settings.classifySummaryMaxChars), toString_numeral index, hcity, htitle,
        ?_, ?_⟩
      · show Optional _ _ ((truthy item.summary).map _)
        rw [hsummary]
        exact writtenElement_reads "summary".toList _
      · unfold promptLine writtenElement
        rw [hsummary]
        simp only [List.append_assoc]
        rfl

/-- **THE PROMPT READS BACK AS WHAT WAS SENT, AND AS NOTHING ELSE.** -/
theorem buildPrompt_reads_iff (settings : Settings) (items : List PromptItem)
    (articles : List PromptArticle) :
    PromptText (buildPrompt settings items) articles ↔
      articles = items.mapIdx (sentArticle settings) := by
  have hsent : PromptText (buildPrompt settings items) (items.mapIdx (sentArticle settings)) :=
    ⟨_, ⟨_, forall₂_mapIdx (promptLine_reads settings) items, rfl⟩, rfl⟩
  constructor
  · intro h
    exact promptText_unique h hsent
  · intro h
    rw [h]
    exact hsent

end Feedcast
