/-
  Feedcast.Carousels.Sessions — overlapping writers of one deck, step by step.

  A save and an add are the same three steps: load the carousel with its slides,
  read and decide, then replace the collection and commit.  The handlers await
  the database between them, so requests on one carousel interleave there.

  Assumed of the ORM and the database, as the source does: a replaced
  collection deletes by primary key the rows its session had loaded and inserts
  the new ones; a row that is gone already is no error; a commit is atomic and
  a statement sees what was committed when it ran.

    • `save_alone`, `add_alone` — undisturbed, the three steps are the handler.
-/
import Feedcast.Api.Carousels

namespace Feedcast

open Feedcast.Lib

/-! ## §1. Requests. -/

inductive DeckRequest (settings : Settings) where
  | save (data : DeckWrite settings)
  | add (data : CarouselRequest settings)

/-- The request leaves slides behind: every add, and a save of a deck that has some. -/
def DeckRequest.writes {settings : Settings} : DeckRequest settings → Bool
  | .save data => !data.slides.isEmpty
  | .add _ => true

/-- The reads and checks of the handler. -/
def DeckRequest.decide {settings : Settings} (P : Platform) (db : Db) (carouselId : Nat) :
    DeckRequest settings → Handler DeckEdit
  | .save data => do
      checkKnown db data.slides
      return { slides := data.slides, fresh := [], missing := [] }
  | .add data => addDeck P settings db carouselId data

/-- The write of the handler. -/
def DeckRequest.write {settings : Settings} (db : Db) (loaded : LoadedCarousel) (edit : DeckEdit)
    (now : Time) : DeckRequest settings → Db
  | .save _ => saveDeck db loaded edit.slides now
  | .add data => commitAdd db loaded edit data.sort now

/-- What an accepted request writes is empty exactly if it clears the deck. -/
theorem DeckRequest.decide_writes {settings : Settings} {P : Platform} {db : Db}
    {carouselId : Nat} {request : DeckRequest settings} {edit : DeckEdit}
    (h : request.decide P db carouselId = .ok edit) :
    request.writes = true ↔ edit.slides ≠ [] := by
  cases request with
  | save data =>
      obtain ⟨_, -, hret⟩ := except_bind_ok.mp h
      cases hret
      simp [DeckRequest.writes]
  | add data =>
      refine iff_of_true rfl ?_
      obtain ⟨resolved, hresolved, hfresh, -, hslides, -⟩ := addDeck_ok h
      have hstories : resolved.stories ≠ [] := by
        intro hnil
        unfold resolveSelection at hresolved
        split at hresolved
        · cases hresolved
        · split at hresolved
          · cases hresolved
          · next hne =>
              cases hresolved
              exact hne hnil
      intro hnil
      have hlen := congrArg List.length (asWrite_content hslides)
      rw [hnil, List.length_map, List.length_map, List.length_nil] at hlen
      have hdeck := List.length_eq_zero_iff.mp hlen.symm
      unfold insertBeforeCta at hdeck
      simp only [List.append_eq_nil_iff, List.map_eq_nil_iff] at hdeck
      -- with no slide there before, every resolved story is new
      have hempty : loadDeck P settings db carouselId = [] := by
        rw [← List.take_append_drop (List.findIdx (fun slide : Slide => slide.kind = .cta)
          (loadDeck P settings db carouselId)) (loadDeck P settings db carouselId), hdeck.1.1,
          hdeck.2, List.append_nil]
      rw [hfresh, hempty] at hdeck
      exact hstories (by simpa [freshStories] using hdeck.1.2)

/-! ## §2. Sessions. -/

inductive DeckPhase where
  /-- `_get` has returned. -/
  | loaded
  /-- About to write. -/
  | decided (edit : DeckEdit)
  | committed (edit : DeckEdit)
  | refused (e : HttpError)

structure DeckSession (settings : Settings) where
  request : DeckRequest settings
  loaded : LoadedCarousel
  phase : DeckPhase

/-- The deck a session has written. -/
def DeckSession.written {settings : Settings} (s : DeckSession settings) :
    Option (List SlideWrite) :=
  match s.phase with
  | .committed edit => some edit.slides
  | _ => none

/-- The requests on one carousel. -/
structure DeckWorld (settings : Settings) where
  db : Db
  sessions : List (DeckSession settings) := []
  /-- The sessions that have committed since one last loaded the carousel. -/
  late : List Nat := []

inductive DeckAction (settings : Settings) where
  | load (request : DeckRequest settings)
  | decide (session : Nat)
  | commit (session : Nat) (now : Time)

def DeckWorld.step {settings : Settings} (P : Platform) (carouselId : Nat)
    (w : DeckWorld settings) : DeckAction settings → Option (DeckWorld settings)
  | .load request =>
      match loadCarousel w.db carouselId with
      -- a 404
      | .error _ => some w
      | .ok loaded =>
          some { w with
            sessions := w.sessions ++ [{ request := request, loaded := loaded, phase := .loaded }]
            late := [] }
  | .decide i =>
      match w.sessions[i]? with
      | some { request, loaded, phase := .loaded } =>
          let phase : DeckPhase :=
            match request.decide P w.db carouselId with
            | .ok edit => .decided edit
            | .error e => .refused e
          -- the rows in hand stay those of the load
          some { w with
            sessions := w.sessions.set i { request := request, loaded := loaded, phase := phase } }
      | _ => none
  | .commit i now =>
      match w.sessions[i]? with
      | some { request, loaded, phase := .decided edit } =>
          some {
            db := request.write w.db loaded edit now
            sessions := w.sessions.set i
              { request := request, loaded := loaded, phase := .committed edit }
            late := w.late ++ [i] }
      | _ => none

/-- No request yet. -/
def DeckWorld.start {settings : Settings} (db : Db) : DeckWorld settings := { db := db }

/-! ## §3. What a step does. -/

section Steps

variable {settings : Settings} {P : Platform} {carouselId : Nat} {w w' : DeckWorld settings}

theorem DeckWorld.step_load {request : DeckRequest settings} {carousel : Carousel}
    (hc : w.db.getCarousel carouselId = some carousel) :
    w.step P carouselId (.load request) = some { w with
      sessions := w.sessions ++ [{
        request := request
        loaded := { carousel := carousel, slides := deckRows w.db carouselId }
        phase := .loaded }]
      late := [] } := by
  simp only [DeckWorld.step, loadCarousel, hc]

theorem DeckWorld.step_decide {i : Nat} (h : w.step P carouselId (.decide i) = some w') :
    ∃ request loaded phase,
      w.sessions[i]? = some { request := request, loaded := loaded, phase := .loaded }
        ∧ ((∃ e, phase = .refused e)
          ∨ ∃ edit, request.decide P w.db carouselId = .ok edit ∧ phase = .decided edit)
        ∧ w' = { w with
            sessions := w.sessions.set i
              { request := request, loaded := loaded, phase := phase } } := by
  simp only [DeckWorld.step] at h
  split at h
  · next request loaded hi =>
      cases h
      refine ⟨request, loaded, _, hi, ?_, rfl⟩
      -- the session moves on either way; only what it will do differs
      cases hd : request.decide P w.db carouselId with
      | error e => exact Or.inl ⟨e, rfl⟩
      | ok edit => exact Or.inr ⟨edit, rfl, rfl⟩
  · cases h

theorem DeckWorld.step_commit {i : Nat} {now : Time}
    (h : w.step P carouselId (.commit i now) = some w') :
    ∃ request loaded edit,
      w.sessions[i]? = some { request := request, loaded := loaded, phase := .decided edit }
        ∧ w' = {
            db := request.write w.db loaded edit now
            sessions := w.sessions.set i
              { request := request, loaded := loaded, phase := .committed edit }
            late := w.late ++ [i] } := by
  simp only [DeckWorld.step] at h
  split at h
  · next request loaded edit hi =>
      cases h
      exact ⟨request, loaded, edit, hi, rfl⟩
  · cases h

/-- A request that no other disturbs. -/
theorem DeckWorld.run_alone {db : Db} {request : DeckRequest settings} {carousel : Carousel}
    {edit : DeckEdit} (hc : db.getCarousel carouselId = some carousel)
    (hdecide : request.decide P db carouselId = .ok edit) (now : Time) :
    ∃ w, Run (DeckWorld.step P carouselId) (DeckWorld.start db)
      [.load request, .decide 0, .commit 0 now] w
        ∧ w.db = request.write db { carousel := carousel, slides := deckRows db carouselId } edit
          now := by
  let loaded : LoadedCarousel := { carousel := carousel, slides := deckRows db carouselId }
  let written := request.write db loaded edit now
  have hload : DeckWorld.step P carouselId (DeckWorld.start db) (.load request)
      = some { db := db
               sessions := [{ request := request, loaded := loaded, phase := .loaded }] } :=
    DeckWorld.step_load hc
  have hdecided : DeckWorld.step P carouselId
      { db := db, sessions := [{ request := request, loaded := loaded, phase := .loaded }] }
      (.decide 0)
      = some {
          db := db
          sessions := [{ request := request, loaded := loaded, phase := .decided edit }] } := by
    simp [DeckWorld.step, hdecide]
  have hcommit : DeckWorld.step P carouselId
      { db := db, sessions := [{ request := request, loaded := loaded, phase := .decided edit }] }
      (.commit 0 now)
      = some { db := written, late := [0]
               sessions := [{ request := request, loaded := loaded
                              phase := .committed edit }] } := by
    simp [DeckWorld.step, written]
  -- the three steps one after the other, nothing in between
  exact ⟨_, Run.cons hload (Run.cons hdecided (Run.cons hcommit (Run.nil _))), rfl⟩

/-- **Alone, a save is the handler.** -/
theorem save_alone {db db' : Db} {data : DeckWrite settings} {now : Time} {r : CarouselResponse}
    (h : saveCarousel P settings db carouselId data now = .ok (db', r)) :
    ∃ w, Run (DeckWorld.step P carouselId) (DeckWorld.start db)
      [.load (.save data), .decide 0, .commit 0 now] w ∧ w.db = db' := by
  obtain ⟨carousel, hc, hknown, rfl⟩ := saveCarousel_ok h
  have hdecide : (DeckRequest.save data).decide P db carouselId
      = .ok { slides := data.slides, fresh := [], missing := [] } :=
    except_bind_ok.mpr ⟨(), checkKnown_ok.mpr hknown, rfl⟩
  exact DeckWorld.run_alone hc hdecide now

/-- **Alone, an add is the handler.** -/
theorem add_alone {db db' : Db} {data : CarouselRequest settings} {now : Time}
    {r : CarouselResponse} (h : addStories P settings db carouselId data now = .ok (db', r)) :
    ∃ w, Run (DeckWorld.step P carouselId) (DeckWorld.start db)
      [.load (.add data), .decide 0, .commit 0 now] w ∧ w.db = db' := by
  obtain ⟨carousel, edit, hc, hedit, rfl⟩ := addStories_ok h
  have hdecide : (DeckRequest.add data).decide P db carouselId = .ok edit := hedit
  exact DeckWorld.run_alone hc hdecide now

end Steps

end Feedcast
