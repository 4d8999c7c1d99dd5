/-
  Feedcast.Carousels.Resolution — what a selection resolves to, whatever order
  its ids and the rows come in (`resolve_stories`).

  The rows of an `IN` query come in any order.  The order of the stories is that
  of their keys, the city is read off all of them, and so neither depends on it:

    • `dedupe_firstSeen` — the ids that are wanted, in first-seen order,
    • `resolveRows_congr` — the order of the rows is of no account,
    • `singleCity_iff` — the city is the one the stories share,
    • `resolution_partition` — all of it, for every request and every answer.
-/
import Feedcast.Carousels.OneCity
import Feedcast.Services.Carousel
import Mathlib.Data.Finset.Card
import Mathlib.Data.Finset.Dedup

namespace Feedcast

/-! ## §1. The property. -/

/-- `resolve_stories`, with the rows that the query returned. -/
def resolveStoriesFrom (P : Platform) (settings : Settings) (storyIds : List Str)
    (rows : List StoryRow) : Raises Resolved :=
  let wanted := dedupe storyIds
  if (wanted.length : Int) > settings.carouselMaxStories then
    .error (tooManyStoriesMessage settings.carouselMaxStories)
  else .ok (resolveRows P settings wanted rows)

theorem resolveStories_eq (P : Platform) (settings : Settings) (db : Db) (storyIds : List Str) :
    resolveStories P settings db storyIds
      = resolveStoriesFrom P settings storyIds (matchingRows db (dedupe storyIds)) := rfl

/-- The rows of the wanted ids, in some order. -/
def Answers (db : Db) (storyIds : List Str) (rows : List StoryRow) : Prop :=
  rows.Perm (matchingRows db (dedupe storyIds))

/-- What stories are ranked by. -/
def storyKey (story : StoryRead) : ℚ ×ₗ Time ×ₗ Str :=
  toLex (story.score, toLex (story.publishedAt, story.id))

/-- **A ranked partition of the ids**: each is a story or missing, and once; the
missing ones as they were first seen, the stories by rank, and the city the one
that their sources share. -/
structure RankedPartition (db : Db) (storyIds : List Str) (resolved : Resolved) : Prop where
  once : ∀ id, (resolved.stories.map (·.id) ++ resolved.missing).count id
    = if id ∈ storyIds then 1 else 0
  known : ∀ id ∈ storyIds, id ∈ resolved.missing ↔ storyRow db id = none
  firstSeen : resolved.missing.Pairwise fun a b => storyIds.idxOf a < storyIds.idxOf b
  ranked : resolved.stories.Pairwise fun a b => storyKey b < storyKey a
  city : ∀ city, resolved.city = some city ↔
    resolved.stories ≠ [] ∧ ∀ story ∈ resolved.stories, ∃ row,
      storyRow db story.id = some row ∧ row.city = city

/-! ## §2. The wanted ids. -/

theorem mem_dedupe {ids : List Str} {id : Str} : id ∈ dedupe ids ↔ id ∈ ids :=
  List.mem_eraseDups

/-- What is left of a list keeps its order. -/
theorem idxOf_lt_of_filter {α : Type} [BEq α] [LawfulBEq α] {p : α → Bool} {xs : List α} {a b : α}
    (hb : p b = true) (h : (xs.filter p).idxOf a < (xs.filter p).idxOf b) :
    xs.idxOf a < xs.idxOf b := by
  induction xs with
  | nil => simp at h
  | cons x xs ih =>
      by_cases hxb : x = b
      · -- nothing stands before `b`
        rw [hxb, List.filter_cons_of_pos hb, List.idxOf_cons_self] at h
        exact absurd h (Nat.not_lt_zero _)
      · by_cases hxa : x = a
        -- `a` is at the head, and `b` is not
        · rw [hxa, List.idxOf_cons_self, List.idxOf_cons_ne _ (hxa ▸ hxb)]
          exact Nat.succ_pos _
        -- neither of the two: both positions go down by one
        · rw [List.idxOf_cons_ne _ hxa, List.idxOf_cons_ne _ hxb]
          refine Nat.succ_lt_succ (ih ?_)
          by_cases hx : p x = true
          · rw [List.filter_cons_of_pos hx, List.idxOf_cons_ne _ hxa, List.idxOf_cons_ne _ hxb] at h
            exact Nat.lt_of_succ_lt_succ h
          · rwa [List.filter_cons_of_neg hx] at h

/-- **The wanted ids stand in first-seen order.** -/
theorem dedupe_firstSeen (ids : List Str) :
    (dedupe ids).Pairwise fun a b => ids.idxOf a < ids.idxOf b := by
  unfold dedupe
  -- an id is seen before all that follow it, and these are another list's
  induction hn : ids.length using Nat.strong_induction_on generalizing ids with
  | _ n ih =>
      cases ids with
      | nil => simp
      | cons id rest =>
          have hshort : (rest.filter fun x => !x == id).length < n := by
            rw [← hn, List.length_cons]
            exact Nat.lt_succ_of_le (List.length_filter_le _ _)
          have hother : ∀ x ∈ (rest.filter fun x => !x == id).eraseDups, id ≠ x := by
            intro x hx heq
            rw [List.mem_eraseDups, List.mem_filter, heq] at hx
            simp at hx
          rw [List.eraseDups_cons, List.pairwise_cons]
          constructor
          · intro x hx
            rw [List.idxOf_cons_self, List.idxOf_cons_ne _ (hother x hx)]
            exact Nat.succ_pos _
          · refine (ih _ hshort _ rfl).imp_of_mem fun {a b} ha hb hlt => ?_
            rw [List.idxOf_cons_ne _ (hother a ha), List.idxOf_cons_ne _ (hother b hb)]
            refine Nat.succ_lt_succ (idxOf_lt_of_filter ?_ hlt)
            simpa using Ne.symm (hother b hb)

/-- There are as many as there are distinct ids. -/
theorem dedupe_length (ids : List Str) : (dedupe ids).length = ids.toFinset.card := by
  have hsame : (dedupe ids).toFinset = ids.toFinset := by
    ext id
    rw [List.mem_toFinset, List.mem_toFinset, mem_dedupe]
  rw [← hsame, List.toFinset_card_of_nodup (dedupe_nodup ids)]

/-- Requests for the same ids want the same, in some order. -/
theorem dedupe_perm {ids ids' : List Str} (h : ∀ id, id ∈ ids ↔ id ∈ ids') :
    (dedupe ids).Perm (dedupe ids') := by
  rw [List.perm_ext_iff_of_nodup (dedupe_nodup ids) (dedupe_nodup ids')]
  intro id
  rw [mem_dedupe, mem_dedupe]
  exact h id

/-! ## §3. The rows, in any order. -/

section Rows

variable {P : Platform} {settings : Settings} {db : Db} {storyIds : List Str}
  {rows rows' : List StoryRow}

theorem Answers.mem (h : Answers db storyIds rows) {row : StoryRow} :
    row ∈ rows ↔ ∃ id ∈ storyIds, storyRow db id = some row := by
  rw [h.mem_iff, mem_matchingRows]
  simp [mem_dedupe]

theorem Answers.get (h : Answers db storyIds rows) {row : StoryRow} (hrow : row ∈ rows) :
    storyRow db row.article.id = some row := by
  obtain ⟨id, -, hget⟩ := h.mem.mp hrow
  rw [storyRow_id hget]
  exact hget

/-- Their ids are those wanted that have a row. -/
theorem Answers.ids (h : Answers db storyIds rows) :
    (rows.map (·.article.id)).Perm
      ((dedupe storyIds).filter fun id => (storyRow db id).isSome) :=
  matchingRows_ids db (dedupe storyIds) ▸ h.map _

/-- No two of them have one key. -/
theorem Answers.keys_nodup (h : Answers db storyIds rows) :
    (rows.map fun row => engagementSortKey settings row.rankInputs).Nodup := by
  have hids : (rows.map (·.article.id)).Nodup :=
    h.ids.nodup_iff.mpr ((dedupe_nodup storyIds).filter _)
  rw [List.Nodup, List.pairwise_map] at hids ⊢
  refine hids.imp fun hne hkey => hne ?_
  -- a key ends in the id
  exact congrArg (fun key : ℚ ×ₗ Time ×ₗ Str => (ofLex (ofLex key).2).2) hkey

/-- **The city is the one that all the rows share.** -/
theorem singleCity_iff (h : Answers db storyIds rows) {city : City} :
    singleCity rows = some city ↔ rows ≠ [] ∧ ∀ row ∈ rows, row.city = city := by
  -- rows of one city id carry the same city
  have hsame : ∀ row ∈ rows, ∀ row' ∈ rows, row.city.id = row'.city.id → row.city = row'.city := by
    intro row hrow row' hrow' hid
    have hcity := storyRow_getCity (h.get hrow)
    rw [hid, storyRow_getCity (h.get hrow')] at hcity
    exact (Option.some.inj hcity).symm
  constructor
  · intro hcity
    refine ⟨fun hnil => by simp [hnil, singleCity] at hcity, fun row hrow => ?_⟩
    have hid := singleCity_some hcity row hrow
    unfold singleCity at hcity
    split at hcity
    · cases hcity
    · next first rest =>
        split at hcity
        · cases hcity
          exact hsame row hrow first List.mem_cons_self hid
        · cases hcity
  · intro hall
    obtain ⟨hne, hall⟩ := hall
    cases rows with
    | nil => exact absurd rfl hne
    | cons first rest =>
        have hfirst := hall first List.mem_cons_self
        have hrest : (rest.all fun r => r.city.id = first.city.id) = true := by
          rw [List.all_eq_true]
          intro row hrow
          simp [hall row (List.mem_cons_of_mem first hrow), hfirst]
        rw [singleCity, if_pos hrest, hfirst]

/-- **The order of the rows is of no account**, and for what is found neither
is that of the ids. -/
theorem resolveRows_congr (h : Answers db storyIds rows) (hperm : rows.Perm rows')
    (wanted wanted' : List Str) :
    (resolveRows P settings wanted rows).stories = (resolveRows P settings wanted' rows').stories
      ∧ (resolveRows P settings wanted rows).city
        = (resolveRows P settings wanted' rows').city := by
  have h' : Answers db storyIds rows' := hperm.symm.trans h
  constructor
  · show (sortedDesc _ rows).map _ = (sortedDesc _ rows').map _
    rw [sortedDesc_congr h.keys_nodup hperm]
  · refine Option.ext fun city => ?_
    show singleCity rows = some city ↔ singleCity rows' = some city
    rw [singleCity_iff h, singleCity_iff h']
    refine and_congr (not_congr ?_) ?_
    · rw [← List.length_eq_zero_iff, ← List.length_eq_zero_iff, hperm.length_eq]
    · simp only [hperm.mem_iff]

/-- The ids of the stories: those wanted that have a row. -/
theorem Answers.story_ids (h : Answers db storyIds rows) (wanted : List Str) :
    ((resolveRows P settings wanted rows).stories.map (·.id)).Perm
      ((dedupe storyIds).filter fun id => (storyRow db id).isSome) := by
  unfold resolveRows
  rw [List.map_map]
  exact ((sortedDesc_perm _ rows).map _).trans h.ids

/-- The ids that are missing: those wanted that have none. -/
theorem Answers.missing_eq (h : Answers db storyIds rows) :
    (resolveRows P settings (dedupe storyIds) rows).missing
      = (dedupe storyIds).filter fun id => !(storyRow db id).isSome := by
  show (dedupe storyIds).filter (fun id =>
    decide (id ∉ (resolveRows P settings (dedupe storyIds) rows).stories.map (·.id))) = _
  refine List.filter_congr fun id hid => ?_
  simp only [(h.story_ids (dedupe storyIds)).mem_iff, List.mem_filter, hid, true_and]
  cases (storyRow db id).isSome with
  | true => rfl
  | false => rfl

/-- **Every answer to a request makes a ranked partition of its ids.** -/
theorem Answers.rankedPartition (h : Answers db storyIds rows) :
    RankedPartition db storyIds (resolveRows P settings (dedupe storyIds) rows) where
  once := by
    intro id
    -- the ids with a row, in another order, and then those without
    have hperm : ((resolveRows P settings (dedupe storyIds) rows).stories.map (·.id)
        ++ (resolveRows P settings (dedupe storyIds) rows).missing).Perm (dedupe storyIds) := by
      rw [h.missing_eq]
      exact ((h.story_ids _).append_right _).trans (List.filter_append_perm _ _)
    rw [hperm.count_eq, (dedupe_nodup storyIds).count]
    simp only [mem_dedupe]
  known := by
    intro id hid
    rw [h.missing_eq, List.mem_filter]
    simp [mem_dedupe, hid]
  firstSeen := by
    rw [h.missing_eq]
    exact (dedupe_firstSeen storyIds).sublist List.filter_sublist
  ranked := List.pairwise_map.mpr (sortedDesc_strict h.keys_nodup)
  city := by
    intro city
    show singleCity rows = some city ↔ _
    rw [singleCity_iff h]
    refine and_congr (not_congr ?_) ⟨fun hall => ?_, fun hall => ?_⟩
    · rw [← List.length_eq_zero_iff, ← List.length_eq_zero_iff]
      unfold resolveRows
      rw [List.length_map, (sortedDesc_perm _ rows).length_eq]
    · intro story hstory
      obtain ⟨row, hrow, rfl⟩ := mem_resolveRows.mp hstory
      exact ⟨row, h.get hrow, hall row hrow⟩
    · intro row hrow
      obtain ⟨row', hget, hcity⟩ := hall _ (mem_resolveRows.mpr ⟨row, hrow, rfl⟩)
      have hsame : row' = row := Option.some.inj (hget.symm.trans (h.get hrow))
      exact hsame ▸ hcity

end Rows

/-! ## §4. The partition. -/

/-- **A SELECTION RESOLVES TO A RANKED PARTITION**, and the stories and the city
depend on nothing but which ids it has. -/
theorem resolution_partition (P : Platform) (settings : Settings) (db : Db) (storyIds : List Str)
    (hcap : (storyIds.toFinset.card : Int) ≤ settings.carouselMaxStories) (rows : List StoryRow)
    (hrows : Answers db storyIds rows) :
    ∃ resolved, resolveStoriesFrom P settings storyIds rows = .ok resolved
      ∧ RankedPartition db storyIds resolved
      ∧ ∀ storyIds' rows', (∀ id, id ∈ storyIds' ↔ id ∈ storyIds) → Answers db storyIds' rows' →
          ∃ resolved', resolveStoriesFrom P settings storyIds' rows' = .ok resolved'
            ∧ resolved'.stories = resolved.stories ∧ resolved'.city = resolved.city := by
  have hfrom : ∀ ids rows, (ids.toFinset.card : Int) ≤ settings.carouselMaxStories →
      resolveStoriesFrom P settings ids rows
        = .ok (resolveRows P settings (dedupe ids) rows) := by
    intro ids rows hcap
    rw [← dedupe_length] at hcap
    exact if_neg (not_lt.mpr hcap)
  refine ⟨_, hfrom storyIds rows hcap, hrows.rankedPartition, ?_⟩
  intro storyIds' rows' hsame hrows'
  have hset : storyIds'.toFinset = storyIds.toFinset := by
    ext id
    rw [List.mem_toFinset, List.mem_toFinset]
    exact hsame id
  -- both answers are answers to either request
  have hperm : rows'.Perm rows := hrows'.trans (((dedupe_perm hsame).filterMap _).trans hrows.symm)
  exact ⟨_, hfrom storyIds' rows' (by rw [hset]; exact hcap), resolveRows_congr hrows' hperm _ _⟩

/-- A story picked twice, one of another city, and one that is gone. -/
def pickedTwice : List Str := [metroId, drainageId, metroId, "gone".toList]

/-- The database may return the rows the other way round. -/
theorem resolution_partition_twoCities :
    ∃ resolved, resolveStoriesFrom feedless defaultSettings pickedTwice
        (matchingRows twoCities (dedupe pickedTwice)).reverse = .ok resolved
      ∧ RankedPartition twoCities pickedTwice resolved := by
  have hcap : (pickedTwice.toFinset.card : Int) ≤ defaultSettings.carouselMaxStories := by
    have hle : pickedTwice.toFinset.card ≤ 4 := List.toFinset_card_le pickedTwice
    show (pickedTwice.toFinset.card : Int) ≤ 8
    omega
  obtain ⟨resolved, hresolved, hpartition, -⟩ := resolution_partition feedless defaultSettings
    twoCities pickedTwice hcap _ (List.reverse_perm _)
  exact ⟨resolved, hresolved, hpartition⟩

end Feedcast
