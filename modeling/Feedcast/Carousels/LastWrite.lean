/-
  Feedcast.Carousels.LastWrite — what overlapping writers leave of a deck.

  A replaced collection deletes the rows its own session had loaded.  So rows
  that another session inserted after that load survive, and the last writer
  does not win: what is stored are the decks of all the requests that commit
  after the last load.  The deck of one carousel is a `Lib.Replace`
  (`DeckWorld.collection`), and the sessions are its sessions:

    • `DeckWorld.step_inv` — every step keeps the account of `Since`,
    • `last_write_wins_iff` — when all have committed, the stored deck is that
      of one request exactly if at most one that leaves slides commits after
      the last load,
    • `overlappingSaves_doubled` — two saves, and every position twice.
-/
import Feedcast.Carousels.OneCity
import Feedcast.Carousels.Sessions
import Feedcast.Lib.Replace

namespace Feedcast

open Feedcast.Lib

/-! ## §1. The deck as a replaced collection. -/

/-- What a row of a deck stores: its position and its content. -/
def CarouselSlide.stored (row : CarouselSlide) : Nat × SlideContent := (row.position, row.content)

/-- **The stored rows are exactly this deck**: positions 0 to n-1, each once. -/
def Stores (db : Db) (carouselId : Nat) (slides : List SlideWrite) : Prop :=
  ((deckRows db carouselId).map (·.stored)).Perm (positioned (slides.map (·.content)))

/-- The keys a session still has in hand. -/
def DeckSession.view {settings : Settings} (s : DeckSession settings) : Option (List Nat) :=
  match s.written with
  | some _ => none
  | none => some (s.loaded.slides.map (·.id))

def DeckWorld.collection {settings : Settings} (carouselId : Nat) (w : DeckWorld settings) :
    Replace (Nat × SlideContent) where
  rows := (deckRows w.db carouselId).map fun row => (row.id, row.stored)
  next := w.db.nextSlide
  views := w.sessions.map (·.view)

/-- The deck session `i` has written. -/
def DeckWorld.deckOf {settings : Settings} (w : DeckWorld settings) (i : Nat) :
    Option (List SlideWrite) :=
  (w.sessions[i]?).bind (·.written)

/-- The decks written since a session last loaded the carousel. -/
def DeckWorld.lateDecks {settings : Settings} (w : DeckWorld settings) : List (List SlideWrite) :=
  w.late.filterMap w.deckOf

/-- The requests that leave slides and have committed since one last loaded the
carousel. -/
def DeckWorld.lateWriters {settings : Settings} (w : DeckWorld settings) : List Nat :=
  w.late.filter fun i => (w.sessions[i]?).any (·.request.writes)

/-- What a write inserts, as a numbered batch. -/
theorem number_positioned (carouselId next : Nat) (slides : List SlideWrite) :
    (slideRows carouselId next slides).map (fun row => (row.id, row.stored))
      = number next (positioned (slides.map (·.content))) := by
  refine List.ext_getElem (by simp [slideRows, number, positioned]) ?_
  intro i _ _
  simp [slideRows, number, positioned, CarouselSlide.stored, CarouselSlide.content,
    SlideWrite.content]

/-- The rows of the carousel after one of its requests has written. -/
theorem deckRows_write {settings : Settings} {db : Db} {loaded : LoadedCarousel}
    {edit : DeckEdit} {now : Time} (request : DeckRequest settings) :
    deckRows (request.write db loaded edit now) loaded.carousel.id
      = (deckRows db loaded.carousel.id).filter (fun row => row.id ∉ loaded.slides.map (·.id))
        ++ slideRows loaded.carousel.id db.nextSlide edit.slides := by
  -- both write the deck with `save_deck`
  have hslides : (request.write db loaded edit now).slides
      = (saveDeck db loaded edit.slides now).slides := by
    cases request <;> rfl
  rw [← deckRows_saveDeck db loaded edit.slides now]
  unfold deckRows
  rw [hslides]

/-! ## §2. The invariant. -/

/-- What holds of the requests on a carousel in every run. -/
structure DeckWorld.Inv {settings : Settings} (P : Platform) (carouselId : Nat)
    (w : DeckWorld settings) : Prop where
  carousel : ∃ carousel, w.db.getCarousel carouselId = some carousel
  bounded : (w.collection carouselId).Bounded
  loaded_id : ∀ s ∈ w.sessions, s.loaded.carousel.id = carouselId
  /-- What a session is about to write, or has written, its request decided on. -/
  decided : ∀ s ∈ w.sessions, ∀ edit, s.phase = .decided edit ∨ s.phase = .committed edit →
    ∃ db, s.request.decide P db carouselId = .ok edit
  late_written : ∀ i ∈ w.late, w.deckOf i ≠ none
  /-- The account since the last load, by session `k`. -/
  since : w.sessions = [] ∨ ∃ n k keys,
    Since n k keys (w.lateDecks.flatMap fun d => positioned (d.map (·.content)))
        (w.collection carouselId)
      ∧ k < w.sessions.length ∧ (w.deckOf k ≠ none → k ∈ w.late)

section Inv

variable {settings : Settings} {P : Platform} {carouselId : Nat} {w w' : DeckWorld settings}

theorem DeckWorld.start_inv {db : Db} (hc : (db.getCarousel carouselId).isSome)
    (hkeys : ∀ row ∈ db.slides, row.id < db.nextSlide) :
    (DeckWorld.start db : DeckWorld settings).Inv P carouselId where
  carousel := Option.isSome_iff_exists.mp hc
  -- no session is open yet, so only the stored rows have keys
  bounded := by
    refine ⟨?_, ?_⟩
    · intro row hrow
      obtain ⟨r, hr, rfl⟩ := List.mem_map.mp hrow
      exact hkeys r (List.mem_of_mem_filter hr)
    · intro keys hkeys'
      cases hkeys'
  loaded_id s hs := by cases hs
  decided s hs := by cases hs
  late_written i hi := by cases hi
  since := Or.inl rfl

/-- An entry replaced by one of the same image. -/
theorem map_set_of_eq {α β : Type} {f : α → β} {xs : List α} {i : Nat} {x y : α}
    (hi : xs[i]? = some x) (hf : f y = f x) : (xs.set i y).map f = xs.map f := by
  refine List.ext_getElem? ?_
  intro j
  rw [List.map_set, hf, List.getElem?_set]
  split
  · next hij =>
      subst hij
      rw [List.getElem?_map, hi]
      split
      · rfl
      · next hlt =>
          rw [List.length_map] at hlt
          exact absurd (List.getElem?_eq_some_iff.mp hi).1 hlt
  · rfl

theorem deckOf_eq (w : DeckWorld settings) (i : Nat) :
    w.deckOf i = ((w.sessions.map (·.written))[i]?).join := by
  unfold DeckWorld.deckOf
  rw [List.getElem?_map]
  cases w.sessions[i]? <;> rfl

theorem DeckWorld.step_load_inv {request : DeckRequest settings} (h : w.Inv P carouselId)
    (hstep : w.step P carouselId (.load request) = some w') : w'.Inv P carouselId := by
  obtain ⟨carousel, hc⟩ := h.carousel
  rw [DeckWorld.step_load hc] at hstep
  cases hstep
  -- in the abstract collection a load is a load
  have hload : DeckWorld.collection carouselId { w with
      sessions := w.sessions ++ [{
        request := request
        loaded := { carousel := carousel, slides := deckRows w.db carouselId }
        phase := .loaded }]
      late := [] } = (w.collection carouselId).load := by
    simp [DeckWorld.collection, Replace.load, DeckSession.view, DeckSession.written]
  refine ⟨⟨carousel, hc⟩, ?_, ?_, ?_, ?_, Or.inr ?_⟩
  · rw [hload]
    exact h.bounded.load
  · intro s hs
    rcases List.mem_append.mp hs with hold | hnew
    · exact h.loaded_id s hold
    · rw [List.mem_singleton.mp hnew]
      exact (getCarousel_id hc).2
  · intro s hs edit hphase
    rcases List.mem_append.mp hs with hold | hnew
    · exact h.decided s hold edit hphase
    · rw [List.mem_singleton.mp hnew] at hphase
      rcases hphase with hphase | hphase <;> cases hphase
  · intro i hi
    cases hi
  · -- a new account begins: the session just opened sees every row there is
    have hsince := Since.load h.bounded
    refine ⟨_, _, _, hload ▸ hsince, ?_, ?_⟩
    · simp [DeckWorld.collection]
    · intro hwritten
      simp [DeckWorld.deckOf, DeckWorld.collection, DeckSession.written] at hwritten

theorem DeckWorld.step_decide_inv {i : Nat} (h : w.Inv P carouselId)
    (hstep : w.step P carouselId (.decide i) = some w') : w'.Inv P carouselId := by
  obtain ⟨request, loaded, phase, hi, hphase, rfl⟩ := DeckWorld.step_decide hstep
  -- nothing is written, so the accounts do not move
  have hunwritten : ∀ p : DeckPhase, (p = .loaded ∨ p = phase) →
      (DeckSession.mk request loaded p).written = none := by
    intro p h
    rcases h with rfl | rfl
    · rfl
    · rcases hphase with ⟨e, rfl⟩ | ⟨edit, -, rfl⟩ <;> rfl
  have hwritten : (w.sessions.set i ⟨request, loaded, phase⟩).map (·.written)
      = w.sessions.map (·.written) :=
    map_set_of_eq hi (by rw [hunwritten _ (Or.inr rfl), hunwritten _ (Or.inl rfl)])
  have hview : (w.sessions.set i ⟨request, loaded, phase⟩).map (·.view)
      = w.sessions.map (·.view) := by
    refine map_set_of_eq hi ?_
    simp only [DeckSession.view, hunwritten _ (Or.inr rfl), hunwritten _ (Or.inl rfl)]
  have hdeck : ∀ j, DeckWorld.deckOf
      { w with sessions := w.sessions.set i ⟨request, loaded, phase⟩ } j = w.deckOf j := by
    intro j
    rw [deckOf_eq, deckOf_eq]
    simp only [hwritten]
  have hcoll : DeckWorld.collection carouselId
      { w with sessions := w.sessions.set i ⟨request, loaded, phase⟩ }
        = w.collection carouselId := by
    simp only [DeckWorld.collection, hview]
  have hmem : (⟨request, loaded, .loaded⟩ : DeckSession settings) ∈ w.sessions :=
    List.mem_of_getElem? hi
  refine ⟨h.carousel, ?_, ?_, ?_, ?_, ?_⟩
  · rw [hcoll]
    exact h.bounded
  · intro s hs
    rcases List.mem_or_eq_of_mem_set hs with hold | rfl
    · exact h.loaded_id s hold
    · show loaded.carousel.id = carouselId
      exact h.loaded_id _ hmem
  · intro s hs edit hedit
    rcases List.mem_or_eq_of_mem_set hs with hold | rfl
    · exact h.decided s hold edit hedit
    · rcases hphase with ⟨e, rfl⟩ | ⟨edit', hdecide, rfl⟩
      · rcases hedit with hedit | hedit <;> cases hedit
      · rcases hedit with hedit | hedit
        · cases hedit
          exact ⟨w.db, hdecide⟩
        · cases hedit
  · intro j hj
    rw [hdeck]
    exact h.late_written j hj
  · rcases h.since with hnil | ⟨n, k, keys, hsince, hk, hlate⟩
    · rw [hnil] at hmem
      cases hmem
    · refine Or.inr ⟨n, k, keys, ?_, by simpa using hk, ?_⟩
      · rw [hcoll]
        have hlateDecks : DeckWorld.lateDecks
            { w with sessions := w.sessions.set i ⟨request, loaded, phase⟩ } = w.lateDecks :=
          List.filterMap_congr fun j _ => hdeck j
        rw [hlateDecks]
        exact hsince
      · rw [hdeck]
        exact hlate

/-- A carousel outlives the writes to its deck. -/
theorem write_getCarousel {db : Db} {loaded : LoadedCarousel} {edit : DeckEdit} {now : Time}
    (request : DeckRequest settings) {carousel : Carousel}
    (hc : db.getCarousel carouselId = some carousel) :
    ∃ carousel', (request.write db loaded edit now).getCarousel carouselId = some carousel' := by
  obtain ⟨hmem, hid⟩ := getCarousel_id hc
  -- a write stamps its carousel, and leaves the keys
  have hcars : (request.write db loaded edit now).carousels
      = (db.stampEdited loaded.carousel.id now).carousels := by
    cases request <;> rfl
  refine Option.ne_none_iff_exists'.mp ?_
  intro hnone
  unfold Db.getCarousel at hnone
  rw [hcars] at hnone
  refine (getRow_none _).mp hnone _ (List.mem_map_of_mem hmem) ?_
  split
  · exact hid
  · exact hid

/-- The world once session `i` has committed. -/
def DeckWorld.committed (w : DeckWorld settings) (i : Nat) (request : DeckRequest settings)
    (loaded : LoadedCarousel) (edit : DeckEdit) (now : Time) : DeckWorld settings where
  db := request.write w.db loaded edit now
  sessions := w.sessions.set i ⟨request, loaded, .committed edit⟩
  late := w.late ++ [i]

section Committed

variable {i : Nat} {request : DeckRequest settings} {loaded : LoadedCarousel} {edit : DeckEdit}
  {now : Time}

theorem deckOf_committed (hi : i < w.sessions.length) (j : Nat) :
    (w.committed i request loaded edit now).deckOf j
      = if i = j then some edit.slides else w.deckOf j := by
  unfold DeckWorld.deckOf DeckWorld.committed
  rw [List.getElem?_set]
  split
  · rfl
  · rfl

/-- A commit replaces the rows its session had in hand. -/
theorem collection_committed :
    (w.committed i request loaded edit now).collection loaded.carousel.id
      = (w.collection loaded.carousel.id).commit i (loaded.slides.map (·.id))
          (positioned (edit.slides.map (·.content))) := by
  unfold DeckWorld.collection DeckWorld.committed Replace.commit
  -- the ids handed out are as many as the slides written
  have hnext : (request.write w.db loaded edit now).nextSlide
      = w.db.nextSlide + (positioned (edit.slides.map (·.content))).length := by
    have hlength : (positioned (edit.slides.map (·.content))).length = edit.slides.length := by
      simp [positioned]
    rw [hlength]
    cases request <;> rfl
  simp only [hnext, deckRows_write, List.map_append, number_positioned, List.map_set,
    List.filter_map]
  rfl

/-- The deck of the commit comes behind those that were written before. -/
theorem lateDecks_committed (hi : i < w.sessions.length) (hopen : w.deckOf i = none)
    (hwritten : ∀ j ∈ w.late, w.deckOf j ≠ none) :
    (w.committed i request loaded edit now).lateDecks = w.lateDecks ++ [edit.slides] := by
  show (w.late ++ [i]).filterMap _ = _
  rw [List.filterMap_append]
  congr 1
  · -- the earlier ones were written by sessions that are closed
    refine List.filterMap_congr ?_
    intro j hj
    rw [deckOf_committed hi, if_neg]
    intro h
    subst h
    exact hwritten i hj hopen
  · simp [deckOf_committed hi]

end Committed

theorem DeckWorld.step_commit_inv {i : Nat} {now : Time} (h : w.Inv P carouselId)
    (hstep : w.step P carouselId (.commit i now) = some w') : w'.Inv P carouselId := by
  obtain ⟨request, loaded, edit, hi, rfl⟩ := DeckWorld.step_commit hstep
  show (w.committed i request loaded edit now).Inv P carouselId
  have hmem : (⟨request, loaded, .decided edit⟩ : DeckSession settings) ∈ w.sessions :=
    List.mem_of_getElem? hi
  have hlen : i < w.sessions.length := (List.getElem?_eq_some_iff.mp hi).1
  obtain rfl : loaded.carousel.id = carouselId := h.loaded_id _ hmem
  obtain ⟨carousel, hc⟩ := h.carousel
  -- the session is still open
  have hopen : w.deckOf i = none := by
    unfold DeckWorld.deckOf
    rw [hi]
    rfl
  refine ⟨write_getCarousel request hc, ?_, ?_, ?_, ?_, Or.inr ?_⟩
  · rw [collection_committed]
    exact h.bounded.commit _ _ _
  · intro s hs
    rcases List.mem_or_eq_of_mem_set hs with hold | rfl
    · exact h.loaded_id s hold
    · rfl
  · intro s hs edit' hphase
    rcases List.mem_or_eq_of_mem_set hs with hold | rfl
    · exact h.decided s hold edit' hphase
    · rcases hphase with hphase | hphase
      · cases hphase
      · cases hphase
        exact h.decided _ hmem edit (Or.inl rfl)
  · intro j hj
    rw [deckOf_committed hlen]
    split
    · exact Option.some_ne_none _
    · next hij =>
        rcases List.mem_append.mp hj with hold | hnew
        · exact h.late_written j hold
        · exact absurd (List.mem_singleton.mp hnew).symm hij
  · rcases h.since with hnil | ⟨n, k, keys, hsince, hk, hlate⟩
    · rw [hnil] at hmem
      cases hmem
    · have hview : (w.collection loaded.carousel.id).views[i]?
          = some (some (loaded.slides.map (·.id))) := by
        unfold DeckWorld.collection
        rw [List.getElem?_map, hi]
        rfl
      refine ⟨n, k, keys, ?_, by simpa [DeckWorld.committed] using hk, ?_⟩
      · rw [collection_committed, lateDecks_committed hlen hopen h.late_written,
            List.flatMap_append, List.flatMap_cons, List.flatMap_nil, List.append_nil]
        exact hsince.commit hview _
      · intro hwritten
        rw [deckOf_committed hlen] at hwritten
        by_cases hik : i = k
        · exact List.mem_append_right _ (List.mem_singleton.mpr hik.symm)
        · rw [if_neg hik] at hwritten
          exact List.mem_append_left _ (hlate hwritten)

/-- **Every step keeps the invariant.** -/
theorem DeckWorld.step_inv {action : DeckAction settings} (h : w.Inv P carouselId)
    (hstep : w.step P carouselId action = some w') : w'.Inv P carouselId := by
  cases action with
  | load request => exact DeckWorld.step_load_inv h hstep
  | decide i => exact DeckWorld.step_decide_inv h hstep
  | commit i now => exact DeckWorld.step_commit_inv h hstep

end Inv

/-! ## §3. Runs. -/

section Runs

variable {settings : Settings} {P : Platform} {carouselId : Nat} {w : DeckWorld settings}

/-- A request that has committed since the last load wrote what it decided on. -/
theorem DeckWorld.Inv.late_session (h : w.Inv P carouselId) {i : Nat} (hi : i ∈ w.late) :
    ∃ s edit db, w.sessions[i]? = some s ∧ s.phase = .committed edit
      ∧ s.request.decide P db carouselId = .ok edit := by
  have hwritten := h.late_written i hi
  unfold DeckWorld.deckOf at hwritten
  cases hs : w.sessions[i]? with
  | none => simp [hs] at hwritten
  | some s =>
      rw [hs, Option.bind_some] at hwritten
      -- a session that wrote has decided and committed
      cases hp : s.phase with
      | committed edit =>
          obtain ⟨db, hdecide⟩ := h.decided s (List.mem_of_getElem? hs) edit (Or.inr hp)
          exact ⟨s, edit, db, rfl, hp, hdecide⟩
      | _ => simp [DeckSession.written, hp] at hwritten

/-- A request leaves slides exactly if the deck it has written has some. -/
theorem lateWriters_length (h : w.Inv P carouselId) :
    w.lateWriters.length = (w.lateDecks.filter fun d => !d.isEmpty).length := by
  unfold DeckWorld.lateWriters DeckWorld.lateDecks
  rw [← List.countP_eq_length_filter, ← List.countP_eq_length_filter, List.countP_filterMap]
  refine List.countP_congr ?_
  intro i hi
  obtain ⟨s, edit, db, hs, hphase, hdecide⟩ := h.late_session hi
  unfold DeckWorld.deckOf
  simp only [hs, Option.bind_some, Option.any_some, DeckSession.written, hphase, Option.map_some,
    Option.getD_some, DeckRequest.decide_writes hdecide]
  cases edit.slides <;> simp

/-- **Once all have committed, the decks written since the last load are stored.** -/
theorem stored_of_done (h : w.Inv P carouselId) (hsome : w.sessions ≠ [])
    (hdone : ∀ s ∈ w.sessions, s.written.isSome) :
    (deckRows w.db carouselId).map (·.stored)
        = (w.lateDecks.map fun d => d.map (·.content)).flatMap positioned
      ∧ w.lateDecks ≠ [] := by
  -- what was stored before the last load does not matter
  rcases h.since with hnil | ⟨n, k, keys, hsince, hk, hlate⟩
  · exact absurd hnil hsome
  · constructor
    · -- with every session closed, only what was written since is left
      have hclosed : ∀ view ∈ (w.collection carouselId).views, view = none := by
        intro view hview
        obtain ⟨s, hs, rfl⟩ := List.mem_map.mp hview
        obtain ⟨slides, hwritten⟩ := Option.isSome_iff_exists.mp (hdone s hs)
        simp only [DeckSession.view, hwritten]
      have hrows := hsince.rows_of_closed hclosed
      unfold DeckWorld.collection at hrows
      rw [List.map_map] at hrows
      rw [List.flatMap_map]
      exact hrows
    · -- the session that loaded last has committed since
      obtain ⟨slides, hwritten⟩ := Option.isSome_iff_exists.mp (hdone _ (List.getElem_mem hk))
      have hdeck : w.deckOf k = some slides := by
        unfold DeckWorld.deckOf
        rw [List.getElem?_eq_getElem hk]
        exact hwritten
      have hmem : slides ∈ w.lateDecks :=
        List.mem_filterMap.mpr ⟨k, hlate (by simp [hdeck]), hdeck⟩
      exact List.ne_nil_of_mem hmem

/-- A deck written since the last load is one of a session. -/
theorem mem_lateDecks {slides : List SlideWrite} (h : slides ∈ w.lateDecks) :
    ∃ s ∈ w.sessions, s.written = some slides := by
  obtain ⟨i, -, hi⟩ := List.mem_filterMap.mp h
  obtain ⟨s, hs, hwritten⟩ := Option.bind_eq_some_iff.mp hi
  exact ⟨s, List.mem_of_getElem? hs, hwritten⟩

theorem DeckWorld.run_inv {db : Db} {actions : List (DeckAction settings)}
    (hcarousel : (db.getCarousel carouselId).isSome)
    (hkeys : ∀ row ∈ db.slides, row.id < db.nextSlide)
    (hrun : Run (DeckWorld.step P carouselId) (DeckWorld.start db) actions w) :
    w.Inv P carouselId := by
  refine hrun.invariant (I := DeckWorld.Inv P carouselId) ?_ (DeckWorld.start_inv hcarousel hkeys)
  intro s action t hs hstep
  exact DeckWorld.step_inv hs hstep

end Runs

/-- **THE LAST WRITE WINS EXACTLY IF** no two requests that leave slides commit
after the last load. -/
theorem last_write_wins_iff (P : Platform) (settings : Settings) (db : Db) (carouselId : Nat)
    (hcarousel : (db.getCarousel carouselId).isSome)
    (hkeys : ∀ row ∈ db.slides, row.id < db.nextSlide) (actions : List (DeckAction settings))
    (w : DeckWorld settings)
    (hrun : Run (DeckWorld.step P carouselId) (DeckWorld.start db) actions w)
    (hsome : w.sessions ≠ []) (hdone : ∀ s ∈ w.sessions, s.written.isSome) :
    (∃ s ∈ w.sessions, ∃ slides, s.written = some slides ∧ Stores w.db carouselId slides)
      ↔ w.lateWriters.length ≤ 1 := by
  have hinv : w.Inv P carouselId := DeckWorld.run_inv hcarousel hkeys hrun
  obtain ⟨hstored, hne⟩ := stored_of_done hinv hsome hdone
  -- a deck without slides writes no row, so it cannot double anything
  have hcount : w.lateWriters.length
      = ((w.lateDecks.map fun d => d.map (·.content)).filter fun d => !d.isEmpty).length := by
    rw [lateWriters_length hinv, List.filter_map, List.length_map]
    congr 2
    funext d
    cases d <;> rfl
  rw [hcount]
  unfold Stores
  rw [hstored]
  constructor
  · -- each batch with rows has one at position 0, and a deck has one in all
    intro h
    obtain ⟨s, -, slides, -, hperm⟩ := h
    exact atMostOne_of_perm hperm
  · intro hone
    obtain ⟨contents, hmem, hperm⟩ := perm_of_atMostOne (by simpa using hne) hone
    obtain ⟨slides, hslides, rfl⟩ := List.mem_map.mp hmem
    obtain ⟨s, hs, hwritten⟩ := mem_lateDecks hslides
    exact ⟨s, hs, slides, hwritten, hperm⟩

/-! ## §4. Two saves. -/

/-- A Nagpur deck of one slide. -/
def oneDeck : Db :=
  { twoCities with
    carousels := [{ id := 1, cityId := 1, createdAt := seconds 1790000000
                    lastEditedAt := some (seconds 1790000000), lastDownloadedAt := none }]
    nextCarousel := 2
    slides := slideRows 1 1 [{ kind := .story, storyId := some drainageId
                               text := "Drainage works begin".toList }]
    nextSlide := 2 }

/-- The autosave after one keystroke, and after the next. -/
def firstSave : DeckWrite defaultSettings where
  slides := [{ kind := .story, storyId := some drainageId, text := "Drainage work".toList }]

def secondSave : DeckWrite defaultSettings where
  slides := [{ kind := .story, storyId := some drainageId, text := "Drainage works".toList }]

/-- The first save has not committed when the second loads. -/
def overlappingSaves : List (DeckAction defaultSettings) :=
  [.load (.save firstSave), .load (.save secondSave), .decide 0, .commit 0 (seconds 1790000001),
    .decide 1, .commit 1 (seconds 1790000002)]

/-- Both decks are stored, at the same positions. -/
theorem overlappingSaves_doubled :
    ∃ w, Run (DeckWorld.step feedless 1) (DeckWorld.start oneDeck) overlappingSaves w
      ∧ w.sessions ≠ [] ∧ (∀ s ∈ w.sessions, s.written.isSome)
      ∧ ¬ ∃ s ∈ w.sessions, ∃ slides, s.written = some slides ∧ Stores w.db 1 slides := by
  have hok : ∃ w ∈ exec (DeckWorld.step feedless 1) (DeckWorld.start oneDeck) overlappingSaves,
      w.sessions.length = 2 ∧ (∀ s ∈ w.sessions, s.written.isSome)
        ∧ (∀ s ∈ w.sessions, ∀ slides ∈ s.written, slides.length = 1)
        ∧ (deckRows w.db 1).length = 2 := by
    decide +kernel
  obtain ⟨w, hrun, hlen, hdone, hone, htwo⟩ := hok
  refine ⟨w, run_iff_exec.mpr hrun, ?_, hdone, ?_⟩
  · intro hnil
    rw [hnil] at hlen
    cases hlen
  · intro h
    obtain ⟨s, hs, slides, hwritten, hperm⟩ := h
    -- each writer wrote one slide, and two are stored
    have hcount := hperm.length_eq
    rw [List.length_map, htwo, positioned, List.length_mapIdx, List.length_map,
      hone s hs slides hwritten] at hcount
    cases hcount

/-- One after the other, the second save wins. -/
def savesInTurn : List (DeckAction defaultSettings) :=
  [.load (.save firstSave), .decide 0, .commit 0 (seconds 1790000001), .load (.save secondSave),
    .decide 1, .commit 1 (seconds 1790000002)]

theorem last_write_wins_iff_savesInTurn :
    ∃ w, Run (DeckWorld.step feedless 1) (DeckWorld.start oneDeck) savesInTurn w
      ∧ ((∃ s ∈ w.sessions, ∃ slides, s.written = some slides ∧ Stores w.db 1 slides)
        ↔ w.lateWriters.length ≤ 1) := by
  -- evaluated once: both sessions end with their write
  have hok : ∃ w ∈ exec (DeckWorld.step feedless 1) (DeckWorld.start oneDeck) savesInTurn,
      w.sessions.length = 2 ∧ ∀ s ∈ w.sessions, s.written.isSome := by
    decide +kernel
  obtain ⟨w, hrun, hlen, hdone⟩ := hok
  refine ⟨w, run_iff_exec.mpr hrun, ?_⟩
  refine last_write_wins_iff feedless defaultSettings oneDeck 1 (by decide) (by decide)
    savesInTurn w (run_iff_exec.mpr hrun) ?_ hdone
  intro hnil
  rw [hnil] at hlen
  cases hlen

end Feedcast
