/-
  Feedcast.Carousels.SlideText — the texts the server builds, and the two limits
  they meet.

  A slide of the server passes through `SlideWrite`, which counts characters,
  and through the store's `clean`, which cuts at so many UTF-16 units.  The
  first never minds a headline; the second minds every character outside the
  first plane, and every city name that is long enough.

    • `cut_longest` — where `clip` cuts a headline,
    • `storySlide_kept_iff`, `bracketSlides_kept_iff` — when a slide survives,
    • `built_slides_kept_iff` — both together,
    • `asWrite_buildDeck` — when the server accepts its own deck.
-/
import Feedcast.Api.Carousels
import Feedcast.Carousels.OneCity
import Feedcast.Static.Slides

namespace Feedcast

open Feedcast.Lib

/-! ## §1. The property. -/

/-- **A slide the server built is kept**: `SlideWrite` accepts it, and `clean`
leaves it as it is. -/
structure SlideKept (slide : Slide) : Prop where
  writable : slide.Writable
  clean : slide.toJs.clean = slide.toJs

/-- The length of a text in the browser. -/
def jsLength (text : Str) : Nat := (Utf16.encode text).length

/-- The characters `clip` takes off the end of what it keeps. -/
def trimmed (c : Char) : Bool := c ∈ [' ', ',', ';', ':', '-']

/-- `p` could be all that is kept of the window `t`: it ends in a character that
is not trimmed, before the last space (anywhere, if there is none). -/
def MayEnd (t p : Str) : Prop :=
  ∃ front c rest, p = front ++ [c] ∧ trimmed c = false ∧ t = p ++ rest
    ∧ (' ' ∈ rest ∨ ' ' ∉ t)

/-- **A headline fits**: every place where it may end, within so many
characters, lies within so many units; the whole of it, if it is not that long;
and if it may end nowhere, all these characters. -/
def HeadlineFits (chars units : Nat) (text : Str) : Prop :=
  if text.length ≤ chars then jsLength text ≤ units
  else (∀ p, MayEnd (text.take chars) p → jsLength p ≤ units)
    ∧ ((∀ p, ¬ MayEnd (text.take chars) p) → jsLength (text.take chars) ≤ units)

/-- **A city name fits** beside the date on the intro, and on the CTA. -/
def NameFits (units : Nat) (cityName date : Str) : Prop :=
  jsLength cityName + jsLength date + 10 ≤ units ∧ jsLength cityName + 22 ≤ units

/-! ## §2. Where a headline is cut. -/

/-- What is left of a text after `rstrip` ends in a character that stays. -/
theorem rdropWhile_end {p : Char → Bool} {t : Str} (h : t.rdropWhile p ≠ []) :
    ∃ front c, t.rdropWhile p = front ++ [c] ∧ p c = false :=
  ⟨(t.rdropWhile p).dropLast, (t.rdropWhile p).getLast h, (List.dropLast_append_getLast h).symm,
    by simpa using List.rdropWhile_last_not p t h⟩

/-- Everything before the last space, or all of it. -/
theorem beforeLastSpace_cases (t : Str) :
    (' ' ∉ t ∧ beforeLastSpace t = t)
      ∨ ∃ after, ' ' ∉ after ∧ t = beforeLastSpace t ++ ' ' :: after := by
  unfold beforeLastSpace
  by_cases h : ' ' ∈ t
  · refine Or.inr ⟨t.rtakeWhile (· ≠ ' '), ?_, ?_⟩
    · intro hmem
      simpa using List.mem_rtakeWhile_imp hmem
    · have hne : t.rdropWhile (· ≠ ' ') ≠ [] := by
        intro hnil
        simpa using List.rdropWhile_eq_nil_iff.mp hnil ' ' h
      obtain ⟨front, c, hfront, hc⟩ := rdropWhile_end hne
      -- the part before ends with the last space
      have hspace : c = ' ' := by simpa using hc
      subst hspace
      rw [if_pos h, hfront, List.dropLast_concat]
      calc t = t.rdropWhile (· ≠ ' ') ++ t.rtakeWhile (· ≠ ' ') :=
            List.rdropWhile_append_rtakeWhile.symm
        _ = front ++ ' ' :: t.rtakeWhile (· ≠ ' ') := by
            rw [hfront, List.append_assoc, List.singleton_append]
  · exact Or.inl ⟨h, if_neg h⟩

/-- A prefix that ends in a character that stays is not trimmed. -/
theorem prefix_rdropWhile {p : Char → Bool} (front : Str) {c : Char} (hc : p c = false)
    (rest : Str) : front ++ [c] <+: (front ++ [c] ++ rest).rdropWhile p := by
  induction rest using List.reverseRecOn with
  | nil =>
      rw [List.append_nil, List.rdropWhile_concat_neg _ _ _ (by simp [hc])]
  | append_singleton rest d ih =>
      rw [← List.append_assoc, List.rdropWhile_concat]
      split
      · exact ih
      · rw [List.append_assoc]
        exact List.prefix_append _ _

/-- What `clip` keeps of a window, before it falls back on all of it. -/
def headlineCut (t : Str) : Str := rstrip trimmed (beforeLastSpace t)

/-- A prefix that a space follows, in a text that has one, ends before the last. -/
theorem beforeLastSpace_extends {t p rest : Str} (ht : t = p ++ rest)
    (hspace : ' ' ∈ rest ∨ ' ' ∉ t) : ∃ more, beforeLastSpace t = p ++ more := by
  rcases beforeLastSpace_cases t with ⟨-, hall⟩ | ⟨after, hafter, hsplit⟩
  · -- no space at all: nothing is cut
    refine ⟨rest, ?_⟩
    rw [hall]
    exact ht
  · have hmem : ' ' ∈ rest := by
      refine hspace.resolve_right fun hnot => hnot ?_
      rw [hsplit]
      simp
    rw [hsplit] at ht
    rcases List.append_eq_append_iff.mp ht with ⟨more, hmore, hrest⟩ | ⟨more, hmore, hrest⟩
    · cases more with
      | nil =>
          refine ⟨[], ?_⟩
          rw [List.append_nil]
          exact (List.append_nil _ ▸ hmore).symm
      | cons d more =>
          -- the space of `rest` would stand behind the last one
          rw [List.cons_append, List.cons.injEq] at hrest
          obtain ⟨-, hrest⟩ := hrest
          exact absurd (hrest ▸ List.mem_append_right more hmem) hafter
    · exact ⟨more, hmore⟩

/-- **The cut is the last place where the headline may end.** -/
theorem cut_longest (t : Str) :
    (headlineCut t ≠ [] → MayEnd t (headlineCut t)) ∧ ∀ p, MayEnd t p → p <+: headlineCut t := by
  have htrim := List.rdropWhile_append_rtakeWhile (p := trimmed) (l := beforeLastSpace t)
  constructor
  · intro hne
    obtain ⟨front, c, hfront, hc⟩ := rdropWhile_end hne
    rcases beforeLastSpace_cases t with ⟨hnone, hall⟩ | ⟨after, -, ht⟩
    -- with or without a space, what is trimmed off comes behind the cut
    · refine ⟨front, c, (beforeLastSpace t).rtakeWhile trimmed, hfront, hc, ?_, Or.inr hnone⟩
      calc t = beforeLastSpace t := hall.symm
        _ = _ := htrim.symm
    · refine ⟨front, c, (beforeLastSpace t).rtakeWhile trimmed ++ ' ' :: after, hfront, hc, ?_,
        Or.inl (by simp)⟩
      calc t = beforeLastSpace t ++ ' ' :: after := ht
        _ = headlineCut t ++ (beforeLastSpace t).rtakeWhile trimmed ++ ' ' :: after := by
            rw [headlineCut, rstrip, htrim]
        _ = _ := List.append_assoc _ _ _
  · intro p hp
    obtain ⟨front, c, rest, rfl, hc, ht, hspace⟩ := hp
    obtain ⟨more, hmore⟩ := beforeLastSpace_extends ht hspace
    unfold headlineCut rstrip
    rw [hmore]
    exact prefix_rdropWhile front hc more

theorem jsLength_append (a b : Str) : jsLength (a ++ b) = jsLength a + jsLength b := by
  unfold jsLength
  rw [Utf16.encode_append, List.length_append]

/-- The text of a slide, from the sanitised headline. -/
theorem clip_text (P : Platform) (title : Str) (n : Nat) :
    (clip P (some title) n).1
      = if (sanitize P (some title)).length ≤ n then sanitize P (some title)
        else if headlineCut ((sanitize P (some title)).take n) ≠ [] then
          headlineCut ((sanitize P (some title)).take n)
        else (sanitize P (some title)).take n := by
  unfold clip
  by_cases h : (sanitize P (some title)).length ≤ n
  · simp only [if_pos h]
  · simp only [if_neg h]
    rfl

/-- `clip` keeps at most so many characters. -/
theorem clip_length_le (P : Platform) (title : Str) (n : Nat) :
    (clip P (some title) n).1.length ≤ n := by
  rw [clip_text]
  split
  · assumption
  · split
    -- cut at a word, then stripped: both only shorten it
    · have hpre : headlineCut ((sanitize P (some title)).take n)
          <+: beforeLastSpace ((sanitize P (some title)).take n) := List.rdropWhile_prefix _ _
      have hbefore : (beforeLastSpace ((sanitize P (some title)).take n)).length
          ≤ ((sanitize P (some title)).take n).length := by
        rcases beforeLastSpace_cases ((sanitize P (some title)).take n) with
          ⟨-, hall⟩ | ⟨after, -, hsplit⟩
        · rw [hall]
        · conv_rhs => rw [hsplit, List.length_append]
          exact Nat.le_add_right _ _
      exact le_trans hpre.length_le (le_trans hbefore (List.length_take_le _ _))
    · exact List.length_take_le _ _

/-- **When the text of a headline fits.** -/
theorem headlineFits_iff (P : Platform) (title : Str) (chars units : Nat) :
    jsLength (clip P (some title) chars).1 ≤ units
      ↔ HeadlineFits chars units (sanitize P (some title)) := by
  rw [clip_text]
  unfold HeadlineFits
  by_cases hlen : (sanitize P (some title)).length ≤ chars
  · rw [if_pos hlen, if_pos hlen]
  · rw [if_neg hlen, if_neg hlen]
    -- the headline is the longest of the cuts that end a word
    obtain ⟨hends, hlongest⟩ := cut_longest ((sanitize P (some title)).take chars)
    by_cases hne : headlineCut ((sanitize P (some title)).take chars) ≠ []
    · rw [if_pos hne]
      constructor
      · intro h
        refine ⟨fun p hp => ?_, fun hnone => absurd (hends hne) (hnone _)⟩
        exact le_trans (Utf16.encode_length_mono (hlongest p hp)) h
      · intro h
        exact h.1 _ (hends hne)
    · -- nothing is left of the headline, and all the characters are kept
      rw [if_neg hne]
      have hnone : ∀ p, ¬ MayEnd ((sanitize P (some title)).take chars) p := by
        intro p hp
        have hpre := hlongest p hp
        rw [not_not.mp hne, List.prefix_nil] at hpre
        obtain ⟨front, c, rest, hp', -⟩ := hp
        rw [hpre] at hp'
        simp at hp'
      constructor
      · intro h
        exact ⟨fun p hp => absurd hp (hnone p), fun _ => h⟩
      · intro h
        exact h.2 hnone

/-! ## §3. When a slide survives. -/

/-- **A slide is kept exactly if the browser has room for its text**: that is
the shorter limit. -/
theorem slideKept_iff {slide : Slide} (hid : ∀ id ∈ slide.storyId, IsStoryId id) :
    SlideKept slide ↔ jsLength slide.text ≤ textMax := by
  constructor
  · intro h
    have htext := congrArg (fun s : JsSlide => s.content.text) h.clean
    exact List.take_eq_self_iff _ |>.mp htext
  · intro h
    -- counted in characters the text is no longer than in units
    have hlength : slide.text.length ≤ slideTextCap :=
      le_trans (Utf16.length_le_encode slide.text) (le_trans h (by decide))
    refine { writable := ⟨hid, hlength⟩, clean := ?_ }
    have hclean : slide.toJs.content.clean = slide.toJs.content := JsContent.clean_of_fits h
    unfold JsSlide.clean
    rw [hclean]

theorem storySlide_kept_iff (P : Platform) (settings : Settings) {story : StoryRead}
    (hid : IsStoryId story.id) :
    SlideKept (storySlide P settings story)
      ↔ HeadlineFits settings.slideTextMaxChars textMax (sanitize P (some story.title)) := by
  rw [← headlineFits_iff]
  refine slideKept_iff ?_
  intro id hsome
  cases hsome
  exact hid

/-- What a bracket says where the city name goes. -/
theorem bracketPlace {cityName : Str} (hname : cityName ≠ []) :
    (truthy (some cityName)).getD "your city".toList = cityName := by
  cases cityName with
  | nil => exact absurd rfl hname
  | cons c cityName => rfl

theorem bracketSlides_text {cityName : Str} (hname : cityName ≠ []) (date : Str) :
    (bracketSlides (some cityName) date).1.text
        = "Top news\n".toList ++ cityName ++ (['\n'] ++ date)
      ∧ (bracketSlides (some cityName) date).2.text
        = "Follow for daily\n".toList ++ cityName ++ " news".toList := by
  unfold bracketSlides
  rw [bracketPlace hname]
  exact ⟨rfl, rfl⟩

theorem bracketSlides_kept_iff {cityName : Str} (hname : cityName ≠ []) (date : Str) :
    (SlideKept (bracketSlides (some cityName) date).1
        ∧ SlideKept (bracketSlides (some cityName) date).2)
      ↔ NameFits textMax cityName date := by
  obtain ⟨hintro, hcta⟩ := bracketSlides_text hname date
  unfold NameFits
  -- a bracket names no story, so only its length is asked
  have hnone : ∀ id ∈ (none : Option Str), IsStoryId id := fun id hsome => by cases hsome
  rw [slideKept_iff hnone, slideKept_iff hnone, hintro, hcta]
  simp only [jsLength_append]
  show 9 + jsLength cityName + (1 + jsLength date) ≤ textMax ∧ 17 + jsLength cityName + 5 ≤ textMax
    ↔ _
  omega

/-! ## §4. The result. -/

/-- **THE SLIDES OF THE SERVER ARE KEPT AS THEY ARE**, both brackets and every
story slide, exactly if the city name and the headlines fit the browser's box,
in its own units. -/
theorem built_slides_kept_iff (P : Platform) (settings : Settings) {cityName : Str}
    (hname : cityName ≠ []) (date : Str) {stories : List StoryRead}
    (hids : ∀ story ∈ stories, IsStoryId story.id) :
    (SlideKept (bracketSlides (some cityName) date).1
        ∧ SlideKept (bracketSlides (some cityName) date).2
        ∧ ∀ story ∈ stories, SlideKept (storySlide P settings story))
      ↔ NameFits textMax cityName date
        ∧ ∀ story ∈ stories,
          HeadlineFits settings.slideTextMaxChars textMax (sanitize P (some story.title)) := by
  rw [← and_assoc, bracketSlides_kept_iff hname]
  refine and_congr_right fun _ => ?_
  -- story by story; the brackets have no title
  constructor
  · intro h story hstory
    exact (storySlide_kept_iff P settings (hids story hstory)).mp (h story hstory)
  · intro h story hstory
    exact (storySlide_kept_iff P settings (hids story hstory)).mpr (h story hstory)

/-- The slide of a headline is never too long for `SlideWrite`. -/
theorem storySlide_writable (P : Platform) {settings : Settings}
    (hcap : settings.slideTextMaxChars ≤ slideTextCap) {story : StoryRead}
    (hid : IsStoryId story.id) : (storySlide P settings story).Writable := by
  refine ⟨?_, le_trans (clip_length_le P story.title _) hcap⟩
  intro id hsome
  cases hsome
  exact hid

/-- **When `create_carousel` accepts its own deck**: a long city name is a 500. -/
theorem asWrite_buildDeck (P : Platform) {settings : Settings}
    (hcap : settings.slideTextMaxChars ≤ slideTextCap) {city : City} (hname : city.name ≠ [])
    {stories : List StoryRead} (hids : ∀ story ∈ stories, IsStoryId story.id) (now : Time) :
    (∃ writes, asWrite (buildDeck P settings city stories now) = .ok writes)
      ↔ city.name.length + (dateLabel stories settings now).length + 10 ≤ slideTextCap
        ∧ city.name.length + 22 ≤ slideTextCap := by
  obtain ⟨hintro, hcta⟩ := bracketSlides_text hname (dateLabel stories settings now)
  -- the slides of stories are within the cap as they come
  have hslides : (∀ slide ∈ buildDeck P settings city stories now, slide.Writable)
      ↔ (bracketSlides (some city.name) (dateLabel stories settings now)).1.Writable
        ∧ (bracketSlides (some city.name) (dateLabel stories settings now)).2.Writable := by
    show (∀ slide ∈ (bracketSlides (some city.name) (dateLabel stories settings now)).1
      :: stories.map (storySlide P settings)
        ++ [(bracketSlides (some city.name) (dateLabel stories settings now)).2], _) ↔ _
    constructor
    · intro h
      exact ⟨h _ (by simp), h _ (by simp)⟩
    · intro h slide hslide
      rcases List.mem_append.mp hslide with hslide | hslide
      · rcases List.mem_cons.mp hslide with rfl | hslide
        · exact h.1
        · obtain ⟨story, hstory, rfl⟩ := List.mem_map.mp hslide
          exact storySlide_writable P hcap (hids story hstory)
      · rw [List.mem_singleton.mp hslide]
        exact h.2
  rw [asWrite_isOk, hslides]
  unfold Slide.Writable
  rw [hintro, hcta]
  simp only [List.length_append]
  -- the lengths of the words around the name
  show (_ ∧ 9 + city.name.length + (1 + (dateLabel stories settings now).length) ≤ slideTextCap)
    ∧ (_ ∧ 17 + city.name.length + 5 ≤ slideTextCap) ↔ _
  have hnone : ∀ id ∈ (none : Option Str), IsStoryId id := fun id hsome => by cases hsome
  constructor
  · intro h
    obtain ⟨⟨-, h₁⟩, -, h₂⟩ := h
    omega
  · intro h
    exact ⟨⟨hnone, by omega⟩, hnone, by omega⟩

/-! ## §5. A headline of emoji, and a long name. -/

/-- A headline of sixty-one emoji, two units each. -/
def emojiStory : StoryRead :=
  projectStory feedless defaultSettings
    { article := articleOf 1 drainageId (List.replicate 61 '😀')
      source := testTimes.row 1 1
      city := { id := 1, name := "Nagpur".toList, slug := "nagpur".toList, state := none
                archivedAt := none } }

/-- A name the endpoints accept: they ask for one character at least. -/
def longName : Str := List.replicate 2000 'x'

theorem longName_length : longName.length = 2000 := List.length_replicate

/-- The browser cuts the headline, and the server refuses its own intro slide. -/
theorem emojiStory_cut :
    ¬ SlideKept (storySlide feedless defaultSettings emojiStory)
      ∧ ∀ date, ¬ SlideKept (bracketSlides (some longName) date).1 := by
  constructor
  · intro h
    have hclean := congrArg (fun s : JsSlide => s.content.text.length) h.clean
    revert hclean
    decide +kernel
  · intro date h
    have hlength := h.writable.2
    have hname : longName ≠ [] := List.ne_nil_of_length_pos (by rw [longName_length]; decide)
    rw [(bracketSlides_text hname date).1, List.length_append, List.length_append,
      longName_length] at hlength
    -- the name alone fills the cap, and the intro has more around it
    have hcap : 9 + 2000 + (['\n'] ++ date).length ≤ 2000 := hlength
    omega

/-- The headlines of the two cities are kept, and so are their brackets. -/
theorem built_slides_kept_iff_nagpur :
    SlideKept (bracketSlides (some "Nagpur".toList) "21 September 2026".toList).1
      ∧ SlideKept (bracketSlides (some "Nagpur".toList) "21 September 2026".toList).2
      ∧ ∀ story ∈ [{ emojiStory with title := "Drainage works begin".toList }],
        SlideKept (storySlide feedless defaultSettings story) := by
  refine (built_slides_kept_iff feedless defaultSettings (by decide) "21 September 2026".toList
    ?_).mpr ⟨?_, ?_⟩
  · intro story hstory
    rw [List.mem_singleton.mp hstory]
    decide +kernel
  · show _ ∧ _
    decide +kernel
  · intro story hstory
    rw [List.mem_singleton.mp hstory]
    unfold HeadlineFits
    -- the headline is within the cap, so nothing of it is cut
    rw [if_pos (by decide +kernel)]
    decide +kernel

end Feedcast
