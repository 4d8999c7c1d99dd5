/-
  Feedcast.Carousels.SlideOrder — the numbers on the cards and the slides of the
  deck.

  The browser sorts its snapshots by score and millisecond, and leaves a tie in
  click order; the server sorts the rows by score, instant and id.  The two
  agree exactly where the ties were clicked in the server's order:

    • `ordered_eq` — the browser's comparator as a sort key,
    • `resolved_eq` — the server's order, read off the snapshots,
    • `slide_numbers_agree_iff` — when the numbers are those of the slides.
-/
import Feedcast.Api.Carousels
import Feedcast.Carousels.OneCity
import Feedcast.Lib.StableSort
import Feedcast.Static.Selection

namespace Feedcast

open Feedcast.Lib

/-! ## §1. The property. -/

/-- **The numbers on the cards are the slides of the deck**: `resolve_stories`,
from the rows in the order the database returned them, places the stories as
`ids` lists them, and so does every deck that is built of them. -/
structure NumbersAgree (P : Platform) (settings : Settings) (picked : List Snapshot)
    (rows : List StoryRow) : Prop where
  resolved : (resolveRows P settings (dedupe (selectionIds picked)) rows).stories.map (·.id)
    = selectionIds picked
  deck : ∀ city now, (buildDeck P settings city
        (resolveRows P settings (dedupe (selectionIds picked)) rows).stories now).filterMap
          (·.storyId)
    = selectionIds picked

/-- **Ties were clicked in the server's order**: of two stories with the same
score, published in the same millisecond, the one clicked first is the later
one, or at the same instant the one with the greater id. -/
def TiesInOrder (picked : List Snapshot) : Prop :=
  picked.Pairwise fun a b => a.score = b.score →
    dateParse a.publishedAt = dateParse b.publishedAt →
    b.publishedAt < a.publishedAt ∨ (b.publishedAt = a.publishedAt ∧ b.id < a.id)

instance (picked : List Snapshot) : Decidable (TiesInOrder picked) :=
  inferInstanceAs (Decidable (List.Pairwise _ _))

/-! ## §2. The two keys. -/

/-- What the browser sorts by. -/
def clientKey (s : Snapshot) : ℚ ×ₗ Int := toLex (s.score, dateParse s.publishedAt)

/-- What the server sorts by. -/
def serverKey (s : Snapshot) : ℚ ×ₗ Time ×ₗ Str := toLex (s.score, toLex (s.publishedAt, s.id))

theorem serverKey_snapshot (P : Platform) (settings : Settings) (row : StoryRow) :
    serverKey (snapshot (projectStory P settings row))
      = engagementSortKey settings row.rankInputs := rfl

theorem compareSnapshots_iff (a b : Snapshot) :
    compareSnapshots a b ≤ 0 ↔ clientKey b ≤ clientKey a := by
  unfold compareSnapshots clientKey
  rw [Prod.Lex.toLex_le_toLex]
  by_cases h : b.score - a.score = 0
  · -- `||` goes on to the dates just when the scores are equal
    have heq : b.score = a.score := sub_eq_zero.mp h
    rw [if_neg (not_not.mpr h), sub_nonpos, Int.cast_le]
    constructor
    · intro hle
      exact Or.inr ⟨heq, hle⟩
    · intro hle
      rcases hle with hlt | ⟨-, hle⟩
      · exact absurd heq (ne_of_lt hlt)
      · exact hle
  · have hne : b.score ≠ a.score := fun heq => h (sub_eq_zero.mpr heq)
    rw [if_pos h, sub_nonpos]
    constructor
    · intro hle
      exact Or.inl (lt_of_le_of_ne hle hne)
    · intro hle
      rcases hle with hlt | ⟨heq, -⟩
      · exact le_of_lt hlt
      · exact absurd heq hne

/-- **The comparator is a sort key.** -/
theorem ordered_eq (picked : List Snapshot) : ordered picked = sortedDesc clientKey picked := by
  unfold ordered sortedDesc
  have h := List.map_insertionSort (r := fun a b => compareSnapshots a b ≤ 0)
    (s := fun a b => clientKey b ≤ clientKey a) id picked fun a _ b _ => compareSnapshots_iff a b
  rwa [List.map_id, List.map_id] at h

theorem dateParse_mono {a b : Time} (h : a ≤ b) : dateParse a ≤ dateParse b :=
  Int.ediv_le_ediv (by decide) h

/-- The server's order is the finer one. -/
theorem clientKey_mono {a b : Snapshot} (h : serverKey a ≤ serverKey b) :
    clientKey a ≤ clientKey b := by
  unfold serverKey at h
  unfold clientKey
  rw [Prod.Lex.toLex_le_toLex] at h ⊢
  -- the scores decide first on both sides
  rcases h with hlt | ⟨heq, hle⟩
  · exact Or.inl hlt
  · refine Or.inr ⟨heq, ?_⟩
    rw [Prod.Lex.toLex_le_toLex] at hle
    rcases hle with hlt | ⟨hsame, -⟩
    · -- a later instant is in the same millisecond or in a later one
      exact dateParse_mono (le_of_lt hlt)
    · exact le_of_eq (congrArg dateParse hsame)

/-- Two distinct stories that the browser ties, in the server's order. -/
theorem serverKey_le_iff {a b : Snapshot} (hid : a.id ≠ b.id) (hscore : a.score = b.score) :
    serverKey b ≤ serverKey a ↔
      b.publishedAt < a.publishedAt ∨ (b.publishedAt = a.publishedAt ∧ b.id < a.id) := by
  unfold serverKey
  rw [Prod.Lex.toLex_le_toLex, Prod.Lex.toLex_le_toLex]
  have hne : b.score < a.score ↔ False := iff_false_intro (by rw [hscore]; exact lt_irrefl _)
  rw [hne, false_or, and_iff_right hscore.symm]
  have hid' : b.id ≤ a.id ↔ b.id < a.id :=
    ⟨fun h => lt_of_le_of_ne h (Ne.symm hid), le_of_lt⟩
  rw [hid']

/-! ## §3. Picking. -/

/-- **What every sequence of clicks leaves**: snapshots of distinct stories, each
as the server serves it. -/
structure PickedFrom (P : Platform) (settings : Settings) (db : Db) (picked : List Snapshot) :
    Prop where
  distinct : (picked.map (·.id)).Nodup
  served : ∀ s ∈ picked, ∃ row, storyRow db s.id = some row
    ∧ snapshot (projectStory P settings row) = s

section Picking

variable {P : Platform} {settings : Settings} {db : Db} {picked : List Snapshot}

theorem PickedFrom.filter (h : PickedFrom P settings db picked) (p : Snapshot → Bool) :
    PickedFrom P settings db (picked.filter p) where
  distinct := h.distinct.sublist (List.filter_sublist.map _)
  served s hs := h.served s (List.mem_of_mem_filter hs)

theorem PickedFrom.toggle (h : PickedFrom P settings db picked) {storyId : Str} {row : StoryRow}
    (hrow : storyRow db storyId = some row) :
    PickedFrom P settings db (toggle picked (projectStory P settings row)) := by
  unfold Feedcast.toggle
  split
  · exact h.filter _
  · next hnew =>
      split
      · exact h
      · -- a new key goes to the end of the map
        refine { distinct := ?_, served := ?_ }
        · rw [List.map_append, List.map_singleton, ← List.concat_eq_append]
          exact List.Nodup.concat hnew h.distinct
        · intro s hs
          rcases List.mem_append.mp hs with hold | hs
          · exact h.served s hold
          · rw [List.mem_singleton.mp hs]
            exact ⟨row, by rw [← storyRow_id hrow] at hrow; exact hrow, rfl⟩

theorem pickStep_pickedFrom {action : PickAction} {picked' : List Snapshot}
    (h : PickedFrom P settings db picked) (hstep : pickStep P settings db picked action
      = some picked') : PickedFrom P settings db picked' := by
  -- one case for each way of changing the selection
  cases action with
  | toggle storyId =>
      obtain ⟨row, hrow, rfl⟩ := Option.map_eq_some_iff.mp hstep
      exact h.toggle hrow
  | remove storyId =>
      cases hstep
      exact h.filter _
  | clear =>
      cases hstep
      exact { distinct := List.nodup_nil, served := fun s hs => by cases hs }

/-- The rows of the ids are the rows of the snapshots. -/
theorem PickedFrom.rows (h : PickedFrom P settings db picked) :
    (matchingRows db (picked.map (·.id))).map (fun row => snapshot (projectStory P settings row))
      = picked := by
  unfold matchingRows
  obtain ⟨-, hserved⟩ := h
  induction picked with
  | nil => rfl
  | cons s picked ih =>
      obtain ⟨row, hrow, hs⟩ := hserved s List.mem_cons_self
      rw [List.map_cons, List.filterMap_cons_some hrow, List.map_cons, hs,
        ih fun s' hs' => hserved s' (List.mem_cons_of_mem _ hs')]

theorem PickedFrom.serverKey_nodup (h : PickedFrom P settings db picked) :
    (picked.map serverKey).Nodup := by
  refine List.Nodup.of_map (fun k => (ofLex (ofLex k).2).2) ?_
  rw [List.map_map]
  exact h.distinct

theorem ordered_perm (picked : List Snapshot) : (ordered picked).Perm picked :=
  List.perm_insertionSort _ picked

theorem PickedFrom.ids_nodup (h : PickedFrom P settings db picked) :
    (selectionIds picked).Nodup :=
  ((ordered_perm picked).map _).nodup_iff.mpr h.distinct

/-- **The server's order**: whatever order the rows come in, the stories are
those of the snapshots, sorted by the server's key. -/
theorem resolved_eq (h : PickedFrom P settings db picked) {rows : List StoryRow}
    (hrows : rows.Perm (matchingRows db (dedupe (selectionIds picked)))) (wanted : List Str) :
    (resolveRows P settings wanted rows).stories.map (·.id)
      = (sortedDesc serverKey picked).map (·.id) := by
  -- the request sends the ids as the browser has ordered them
  have hordered : PickedFrom P settings db (ordered picked) :=
    { distinct := h.ids_nodup
      served := fun s hs => h.served s ((ordered_perm picked).mem_iff.mp hs) }
  have hperm : (rows.map fun row => snapshot (projectStory P settings row)).Perm picked := by
    rw [dedupe_of_nodup h.ids_nodup] at hrows
    have hmap := hrows.map fun row => snapshot (projectStory P settings row)
    rw [selectionIds, hordered.rows] at hmap
    exact hmap.trans (ordered_perm picked)
  -- keys are distinct, so the order the rows came in is of no account
  have hsnap : (sortedDesc (fun row => engagementSortKey settings row.rankInputs) rows).map
        (fun row => snapshot (projectStory P settings row))
      = sortedDesc serverKey picked := by
    rw [← sortedDesc_congr ((hperm.map serverKey).nodup_iff.mpr h.serverKey_nodup) hperm]
    exact List.map_insertionSort (r := fun a b => engagementSortKey settings b.rankInputs
      ≤ engagementSortKey settings a.rankInputs) (s := fun a b => serverKey b ≤ serverKey a)
      (fun row => snapshot (projectStory P settings row)) rows fun _ _ _ _ => Iff.rfl
  rw [← hsnap, List.map_map]
  unfold resolveRows
  rw [List.map_map]
  rfl

/-- The story slides of a deck are its stories, in their order. -/
theorem buildDeck_storyIds (city : City) (stories : List StoryRead) (now : Time) :
    (buildDeck P settings city stories now).filterMap (·.storyId) = stories.map (·.id) := by
  have hstories : (stories.map (storySlide P settings)).filterMap (·.storyId)
      = stories.map (·.id) := by
    rw [List.filterMap_map, ← List.filterMap_eq_map]
    rfl
  show (_ :: (stories.map (storySlide P settings) ++ [_])).filterMap Slide.storyId = _
  rw [List.filterMap_cons_none rfl, List.filterMap_append, hstories]
  exact List.append_nil _

/-- Lists of picked stories with the same ids are the same. -/
theorem PickedFrom.ids_inj (h : PickedFrom P settings db picked) {xs ys : List Snapshot}
    (hxs : ∀ s ∈ xs, s ∈ picked) (hys : ∀ s ∈ ys, s ∈ picked)
    (hids : xs.map (·.id) = ys.map (·.id)) : xs = ys := by
  have hinj := List.inj_on_of_nodup_map h.distinct
  have hlength : xs.length = ys.length := by simpa using congrArg List.length hids
  refine List.ext_getElem hlength ?_
  intro i hi hj
  refine hinj (hxs _ (List.getElem_mem hi)) (hys _ (List.getElem_mem hj)) ?_
  have hat := List.getElem_of_eq hids (by simpa using hi)
  simpa using hat

/-- **When the two sorts agree.** -/
theorem PickedFrom.ordered_iff (h : PickedFrom P settings db picked) :
    ordered picked = sortedDesc serverKey picked ↔ TiesInOrder picked := by
  have htotal : ∀ {κ : Type} [LinearOrder κ] (key : Snapshot → κ),
      Std.Total fun a b : Snapshot => key b ≤ key a := fun key =>
    ⟨fun a b => le_total (key b) (key a)⟩
  have htrans : ∀ {κ : Type} [LinearOrder κ] (key : Snapshot → κ),
      IsTrans Snapshot fun a b => key b ≤ key a := fun key =>
    ⟨fun a b c hab hbc => le_trans hbc hab⟩
  have := htotal clientKey
  have := htrans clientKey
  have := htotal serverKey
  have := htrans serverKey
  have hinj := List.inj_on_of_nodup_map h.serverKey_nodup
  rw [ordered_eq]
  unfold sortedDesc
  rw [insertionSort_eq_iff (fun a b hab => clientKey_mono hab)
    (fun a ha b hb hab hba => hinj ha hb (le_antisymm hba hab)) (List.Nodup.of_map _ h.distinct)]
  unfold TiesInOrder
  have hids : picked.Pairwise fun a b => a.id ≠ b.id := List.pairwise_map.mp h.distinct
  -- what the browser ties has one score and one millisecond
  constructor
  · intro hties
    refine (hids.and hties).imp ?_
    intro a b hab hscore hdate
    obtain ⟨hid, hab⟩ := hab
    have hkey : clientKey a = clientKey b := by
      unfold clientKey
      rw [hscore, hdate]
    exact (serverKey_le_iff hid hscore).mp (hab (le_of_eq hkey.symm) (le_of_eq hkey))
  · intro hties
    refine (hids.and hties).imp ?_
    intro a b hab hba hle
    obtain ⟨hid, hab⟩ := hab
    have hkey := toLex.injective (le_antisymm hle hba)
    obtain ⟨hscore, hdate⟩ := Prod.mk.injEq _ _ _ _ ▸ hkey
    exact (serverKey_le_iff hid hscore).mpr (hab hscore hdate)

end Picking

/-! ## §4. The result. -/

/-- **THE NUMBERS ON THE CARDS ARE THE SLIDES OF THE DECK**, for the stories
picked by any sequence of clicks and the rows in any order, exactly if the ties
were clicked in the server's order. -/
theorem slide_numbers_agree_iff (P : Platform) (settings : Settings) (db : Db)
    {actions : List PickAction} {picked : List Snapshot} {rows : List StoryRow}
    (hrun : Run (pickStep P settings db) [] actions picked)
    (hrows : rows.Perm (matchingRows db (dedupe (selectionIds picked)))) :
    NumbersAgree P settings picked rows ↔ TiesInOrder picked := by
  -- the invariant of the selection: served stories, each once
  have h : PickedFrom P settings db picked :=
    hrun.invariant (fun _ _ _ hs hstep => pickStep_pickedFrom hs hstep)
      { distinct := List.nodup_nil, served := fun s hs => by cases hs }
  have hmem : ∀ s ∈ sortedDesc serverKey picked, s ∈ picked := fun s hs =>
    (sortedDesc_perm serverKey picked).mem_iff.mp hs
  have hmem' : ∀ s ∈ ordered picked, s ∈ picked := fun s hs =>
    (ordered_perm picked).mem_iff.mp hs
  rw [← h.ordered_iff]
  constructor
  · intro hagree
    -- ids are distinct, so equal id lists are equal orders
    have hids := hagree.resolved
    rw [resolved_eq h hrows] at hids
    exact (h.ids_inj hmem hmem' hids).symm
  · intro heq
    have hids : (resolveRows P settings (dedupe (selectionIds picked)) rows).stories.map (·.id)
        = selectionIds picked := by
      rw [resolved_eq h hrows, ← heq]
      rfl
    refine { resolved := hids, deck := ?_ }
    intro city now
    rw [buildDeck_storyIds, hids]

/-! ## §5. Two stories of one second. -/

/-- Both stories in Nagpur, unrated and published in the same second. -/
def nagpurStories : Db :=
  { twoCities with sources := [testTimes.row 1 1, testTimes.row 2 1] }

/-- The story with the smaller id is clicked first. -/
def drainageThenMetro : List PickAction := [.toggle drainageId, .toggle metroId]

/-- The cards say drainage, metro; the deck is metro, drainage. -/
theorem drainageThenMetro_disagree :
    ∃ picked, Run (pickStep feedless defaultSettings nagpurStories) [] drainageThenMetro picked
      ∧ ¬ NumbersAgree feedless defaultSettings picked
        (matchingRows nagpurStories (dedupe (selectionIds picked))) := by
  have hok : ∃ picked ∈ exec (pickStep feedless defaultSettings nagpurStories) []
      drainageThenMetro,
      (resolveRows feedless defaultSettings (dedupe (selectionIds picked))
        (matchingRows nagpurStories (dedupe (selectionIds picked)))).stories.map (·.id)
          ≠ selectionIds picked := by
    decide +kernel
  obtain ⟨picked, hexec, hne⟩ := hok
  exact ⟨picked, run_iff_exec.mpr hexec, fun h => hne h.resolved⟩

/-- Clicked the other way round, they agree. -/
theorem slide_numbers_agree_iff_metroFirst :
    ∃ picked, Run (pickStep feedless defaultSettings nagpurStories) []
        [.toggle metroId, .toggle drainageId] picked
      ∧ NumbersAgree feedless defaultSettings picked
        (matchingRows nagpurStories (dedupe (selectionIds picked))) := by
  have hok : ∃ picked ∈ exec (pickStep feedless defaultSettings nagpurStories) []
      [.toggle metroId, .toggle drainageId], TiesInOrder picked := by
    decide +kernel
  obtain ⟨picked, hexec, hties⟩ := hok
  have hrun := run_iff_exec.mpr hexec
  exact ⟨picked, hrun, (slide_numbers_agree_iff feedless defaultSettings nagpurStories hrun
    (List.Perm.refl _)).mpr hties⟩

end Feedcast
