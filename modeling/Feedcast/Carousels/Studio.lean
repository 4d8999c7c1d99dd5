/-
  Feedcast.Carousels.Studio — everything that loads a deck onto the canvas
  (`static/js/studio.js`, `gallery.js`, `feed.js`).

  Three flows end in `slides.load`: the Gallery opens a carousel, Discover builds
  one, the canvas adds stories to the open one.  Each awaits the server, and the
  editor and the autosave go on while it does.  The load then replaces the deck
  and drops the save that is pending:

    • `StudioWorld.step_inv` — between edits and PUTs, what every step keeps,
    • `load_keeps_edits_iff` — a load discards no edit exactly if there is none,
      or no save is pending and the PUT sent last is accepted, or the deck that
      is loaded is the one on the canvas,
    • `typingWhileAdding_discards` — a keystroke while a story is being added.
-/
import Feedcast.Carousels.Autosave

namespace Feedcast

open Feedcast.Lib

/-! ## §1. The flows. -/

/-- What a flow asks the server for, once its schema has accepted the body. -/
inductive DeckAsk (settings : Settings) where
  /-- `addStory`, for the carousel that is open. -/
  | addStory (carouselId : Nat) (data : CarouselRequest settings)
  | openCarousel (carouselId : Nat)
  | buildCarousel (data : CarouselRequest settings)

/-- The stories that join the deck of the canvas. -/
def DeckAsk.picked {settings : Settings} : DeckAsk settings → List Str
  | .addStory _ data => data.storyIds
  | _ => []

inductive AskPhase where
  | travelling
  /-- An add, in its session on the server. -/
  | session (i : Nat)
  | replied (result : CarouselResponse)
  /-- Loaded, refused or lost. -/
  | done

/-- The result on its way back. -/
def AskPhase.result : AskPhase → Option CarouselResponse
  | .replied result => some result
  | _ => none

theorem AskPhase.result_some {phase : AskPhase} {result : CarouselResponse}
    (h : phase.result = some result) : phase = .replied result := by
  cases phase with
  | replied result' => exact congrArg AskPhase.replied (Option.some.inj h)
  | _ => cases h

structure Ask (settings : Settings) where
  request : DeckAsk settings
  phase : AskPhase := .travelling

/-- What a PUT was sent for, and what is in it. -/
structure Sent where
  carouselId : Nat
  /-- The number of decks loaded before it. -/
  load : Nat
  /-- The number of edits made since the last of them. -/
  edits : Nat
  deriving DecidableEq

/-- The autosave, over all carousels, and the flows under way. -/
structure StudioWorld (settings : Settings) where
  autosave : AutosaveWorld settings
  /-- One entry for each PUT. -/
  sent : List Sent := []
  asks : List (Ask settings) := []
  /-- The decks on the canvas since it was loaded, one after each edit. -/
  history : List (List JsContent) := []
  /-- How many decks have been loaded. -/
  loads : Nat := 0

def StudioWorld.start {settings : Settings} (db : Db) : StudioWorld settings where
  autosave := { store := {}, server := DeckWorld.start db }

/-! ## §2. Steps. -/

inductive StudioAction (settings : Settings) where
  | autosave (action : AutosaveAction)
  | ask (request : DeckAsk settings)
  /-- The server takes the request in, and answers it unless it is an add. -/
  | arrive (ask : Nat) (now : Time)
  | decide (ask : Nat)
  | commit (ask : Nat) (now : Time)
  /-- An add that has committed reads its answer. -/
  | respond (ask : Nat)
  | lose (ask : Nat)
  /-- The answer is in: `slides.load`. -/
  | load (ask : Nat)

/-- The PUT an action is about. -/
def AutosaveAction.put : AutosaveAction → Option Nat
  | .edit _ => none
  | .fire => none
  | .deliver k => some k
  | .decide k => some k
  | .commit k _ => some k
  | .answer k _ => some k
  | .lose k => some k

/-- A step of the autosave.  A PUT goes to the carousel it was sent for. -/
def StudioWorld.autosaveStep {settings : Settings} (P : Platform) (w : StudioWorld settings)
    (action : AutosaveAction) : Option (StudioWorld settings) :=
  match action with
  | .edit edit =>
      let store := w.autosave.store.edit edit
      some { w with
        autosave := { w.autosave with store := store }
        history :=
          match w.autosave.store.mutated edit with
          | none => w.history
          | some _ => w.history ++ [store.contents] }
  | .fire => do
      let id ← w.autosave.store.carouselId
      let autosave ← w.autosave.step P id .fire
      return { w with
        autosave := autosave
        sent := w.sent ++ [{ carouselId := id, load := w.loads, edits := w.history.length }] }
  | action => do
      let k ← action.put
      let sent ← w.sent[k]?
      let autosave ← w.autosave.step P sent.carouselId action
      return { w with autosave := autosave }

def StudioWorld.setPhase {settings : Settings} (w : StudioWorld settings) (j : Nat)
    (request : DeckAsk settings) (phase : AskPhase) : StudioWorld settings :=
  { w with asks := w.asks.set j { request := request, phase := phase } }

def StudioWorld.setServer {settings : Settings} (w : StudioWorld settings)
    (server : DeckWorld settings) : StudioWorld settings :=
  { w with autosave := { w.autosave with server := server } }

/-- The server takes a request in. -/
def StudioWorld.takeIn {settings : Settings} (P : Platform) (w : StudioWorld settings)
    (now : Time) : DeckAsk settings → Option (DeckWorld settings × AskPhase)
  | .addStory id data =>
      let server := w.autosave.server
      match loadCarousel server.db id with
      | .error _ => some (server, .done)
      | .ok _ => do
          let server' ← server.step P id (.load (.add data))
          return (server', .session server.sessions.length)
  | .openCarousel id =>
      let server := w.autosave.server
      match readCarousel P settings server.db id with
      | .error _ => some (server, .done)
      | .ok result => some (server, .replied result)
  | .buildCarousel data =>
      let server := w.autosave.server
      match createCarousel P settings server.db data now with
      | .error _ => some (server, .done)
      | .ok (db, result) => some ({ server with db := db }, .replied result)

/-- What an add answers once its session is over. -/
def StudioWorld.answerAdd {settings : Settings} (P : Platform) (w : StudioWorld settings)
    (id i : Nat) : Option AskPhase :=
  let server := w.autosave.server
  match (server.sessions[i]?).map DeckSession.phase, server.db.getCarousel id with
  -- `refresh` and `load_deck` read what is stored by now
  | some (.committed edit), some carousel =>
      some (.replied (response P settings server.db carousel edit.missing))
  | some (.refused _), _ => some .done
  | _, _ => none

/-- The store of the browser once a result is loaded. -/
def CarouselResponse.toStore (result : CarouselResponse) : SlideStore :=
  SlideStore.load result.id (result.slides.map (·.toJs))

def StudioWorld.step {settings : Settings} (P : Platform) (w : StudioWorld settings) :
    StudioAction settings → Option (StudioWorld settings)
  | .autosave action => w.autosaveStep P action
  | .ask request =>
      match request with
      | .addStory id _ =>
          if w.autosave.store.carouselId = some id then
            some { w with asks := w.asks ++ [{ request := request }] }
          else none
      | _ => some { w with asks := w.asks ++ [{ request := request }] }
  | .arrive j now =>
      match w.asks[j]? with
      | some { request, phase := .travelling } => do
          let (server, phase) ← w.takeIn P now request
          return (w.setServer server).setPhase j request phase
      | _ => none
  | .decide j =>
      match w.asks[j]? with
      | some { request := .addStory id _, phase := .session i } =>
          (w.autosave.server.step P id (.decide i)).map w.setServer
      | _ => none
  | .commit j now =>
      match w.asks[j]? with
      | some { request := .addStory id _, phase := .session i } =>
          (w.autosave.server.step P id (.commit i now)).map w.setServer
      | _ => none
  | .respond j =>
      match w.asks[j]? with
      | some { request := .addStory id data, phase := .session i } =>
          (w.answerAdd P id i).map (w.setPhase j (.addStory id data))
      | _ => none
  | .lose j =>
      match w.asks[j]? with
      -- an error is shown as a note, and the deck stays as it is
      | some { request, phase := _ } => some (w.setPhase j request .done)
      | none => none
  | .load j =>
      match w.asks[j]? with
      | some { request, phase := .replied result } =>
          -- the timer is cleared with the rest of the old store
          some {
            autosave := { w.autosave with store := result.toStore }
            sent := w.sent
            asks := w.asks.set j { request := request, phase := .done }
            history := []
            loads := w.loads + 1 }
      | _ => none

/-! ## §3. What a load must keep. -/

/-- A deck with slides of the picked stories put into it. -/
def ShowsDeck (picked : List Str) (deck loaded : List JsContent) : Prop :=
  ∃ before new after, deck = before ++ after ∧ loaded = before ++ new ++ after
    ∧ ∀ slide ∈ new, ∃ id ∈ picked, slide.storyId = some id

/-- The server has accepted a PUT of the open deck that carries the edit. -/
def StudioWorld.Accepted {settings : Settings} (w : StudioWorld settings) (edit : Nat) : Prop :=
  ∃ (k : Nat) (sent : Sent) (put : Put),
    w.sent[k]? = some sent ∧ w.autosave.puts[k]? = some put
      ∧ w.autosave.store.carouselId = some sent.carouselId
      ∧ sent.load = w.loads ∧ edit < sent.edits
      ∧ put.reach.outcome w.autosave.server = some true

/-- The deck in a result is the open one as it was after the edit, or later. -/
def StudioWorld.Present {settings : Settings} (w : StudioWorld settings) (picked : List Str)
    (result : CarouselResponse) (edit : Nat) : Prop :=
  w.autosave.store.carouselId = some result.id
    ∧ ∃ later deck, edit ≤ later ∧ w.history[later]? = some deck
      ∧ ShowsDeck picked deck result.toStore.contents

/-- **Loading the result discards no edit.** -/
def StudioWorld.KeepsEdits {settings : Settings} (w : StudioWorld settings) (picked : List Str)
    (result : CarouselResponse) : Prop :=
  ∀ edit < w.history.length, w.Accepted edit ∨ w.Present picked result edit

/-- What holds of every result that an action loads over an open deck. -/
def StudioWorld.AtLoad {settings : Settings}
    (C : StudioWorld settings → List Str → CarouselResponse → Prop) (w : StudioWorld settings)
    (action : StudioAction settings) : Prop :=
  ∀ (j : Nat) (request : DeckAsk settings) (result : CarouselResponse) (id : Nat),
    action = .load j → w.asks[j]? = some { request := request, phase := .replied result }
      → w.autosave.store.carouselId = some id → C w request.picked result

/-- The server has accepted the PUT sent last. -/
def StudioWorld.LastAccepted {settings : Settings} (w : StudioWorld settings) : Prop :=
  ∃ put, w.autosave.puts.getLast? = some put
    ∧ put.reach.outcome w.autosave.server = some true

/-- There is no edit since the deck was loaded, or none of them is pending or
travelling, or the result is what the canvas shows. -/
def StudioWorld.Settled {settings : Settings} (w : StudioWorld settings) (picked : List Str)
    (result : CarouselResponse) : Prop :=
  w.history = []
    ∨ (w.autosave.store.saveTimer = false ∧ w.LastAccepted)
    ∨ (w.autosave.store.carouselId = some result.id
        ∧ ShowsDeck picked w.autosave.store.contents result.toStore.contents)

/-! ## §4. The invariant. -/

section Frame

variable {settings : Settings} {P : Platform} {id : Nat} {a a' : AutosaveWorld settings}

theorem AutosaveWorld.serve_frame {k : Nat} {action : Nat → DeckAction settings}
    (h : a.serve P id k action = some a') : a'.store = a.store ∧ a'.puts = a.puts := by
  unfold AutosaveWorld.serve at h
  split at h
  · obtain ⟨server, -, rfl⟩ := Option.map_eq_some_iff.mp h
    exact ⟨rfl, rfl⟩
  · cases h

theorem AutosaveWorld.receive_frame {k : Nat} {put : Put}
    (h : a.receive P id k put = some a') :
    a'.store = a.store ∧ a'.puts.length = a.puts.length := by
  unfold AutosaveWorld.receive at h
  split at h
  · obtain ⟨server, -, rfl⟩ := Option.map_eq_some_iff.mp h
    exact ⟨rfl, List.length_set⟩
  · cases h
    exact ⟨rfl, List.length_set⟩

/-- **What becomes of a PUT concerns neither the deck nor the timer.** -/
theorem AutosaveWorld.step_frame {action : AutosaveAction} {k : Nat} (hput : action.put = some k)
    (h : a.step P id action = some a') :
    (∃ savedAt, a'.store = { a.store with savedAt := savedAt })
      ∧ a'.puts.length = a.puts.length := by
  have hsame : a'.store = a.store → ∃ savedAt, a'.store = { a.store with savedAt := savedAt } :=
    fun hstore => ⟨a.store.savedAt, hstore⟩
  -- the steps of a PUT that is out: the deck in the store is not theirs to change
  cases action with
  | edit edit => cases hput
  | fire => cases hput
  | deliver j =>
      simp only [AutosaveWorld.step] at h
      split at h
      · cases h
      · split at h
        · obtain ⟨hstore, hlen⟩ := AutosaveWorld.receive_frame h
          exact ⟨hsame hstore, hlen⟩
        · cases h
  | decide j =>
      obtain ⟨hstore, hputs⟩ := AutosaveWorld.serve_frame h
      exact ⟨hsame hstore, congrArg List.length hputs⟩
  | commit j now =>
      obtain ⟨hstore, hputs⟩ := AutosaveWorld.serve_frame h
      exact ⟨hsame hstore, congrArg List.length hputs⟩
  | answer j now =>
      simp only [AutosaveWorld.step] at h
      split at h
      · cases h
      · split at h
        · cases h
          exact ⟨a.store.answered_eq id _ now, List.length_set⟩
        · cases h
  | lose j =>
      simp only [AutosaveWorld.step] at h
      split at h
      · cases h
      · split at h
        · cases h
          exact ⟨hsame rfl, List.length_set⟩
        · cases h

end Frame

/-- Between the edits of the open deck and the PUTs: a pending save is for an
edit that no PUT carries, and with none pending the last PUT carries them all. -/
structure StudioWorld.Inv {settings : Settings} (w : StudioWorld settings) : Prop where
  aligned : w.sent.length = w.autosave.puts.length
  shown : ∀ deck ∈ w.history.getLast?, deck = w.autosave.store.contents
  past : ∀ sent ∈ w.sent, sent.load ≤ w.loads
  behind : ∀ sent ∈ w.sent, sent.load = w.loads → sent.edits ≤ w.history.length
  pending : w.autosave.store.saveTimer = true →
    ∀ sent ∈ w.sent, sent.load = w.loads → sent.edits < w.history.length
  flushed : ∀ id, w.autosave.store.carouselId = some id → w.autosave.store.saveTimer = false →
    w.history ≠ [] → ∃ before,
      w.sent = before ++ [{ carouselId := id, load := w.loads, edits := w.history.length }]
        ∧ ∀ sent ∈ before, sent.load = w.loads → sent.edits < w.history.length

section Inv

variable {settings : Settings} {P : Platform} {w w' : StudioWorld settings}

theorem StudioWorld.start_inv (settings : Settings) (db : Db) :
    StudioWorld.Inv (StudioWorld.start db : StudioWorld settings) where
  aligned := rfl
  shown deck h := by cases h
  past sent h := by cases h
  behind sent h := by cases h
  pending h := by cases h
  flushed id h := by cases h

/-- The invariant is about the deck, the timer, the edits and what was sent. -/
theorem StudioWorld.Inv.frame (h : w.Inv) (savedAt : Option Time)
    (hstore : w'.autosave.store = { w.autosave.store with savedAt := savedAt })
    (hputs : w'.autosave.puts.length = w.autosave.puts.length) (hsent : w'.sent = w.sent)
    (hhistory : w'.history = w.history) (hloads : w'.loads = w.loads) : w'.Inv := by
  obtain ⟨⟨store, puts, server⟩, sent, asks, history, loads⟩ := w'
  subst hstore hsent hhistory hloads
  exact ⟨h.aligned.trans hputs.symm, h.shown, h.past, h.behind, h.pending, h.flushed⟩

theorem StudioWorld.edit_inv (h : w.Inv) {edit : DeckEditAction}
    (hstep : w.autosaveStep P (.edit edit) = some w') : w'.Inv := by
  cases hstep
  cases hm : w.autosave.store.mutated edit with
  | none =>
      have hsame : w.autosave.store.edit edit = w.autosave.store := by
        unfold SlideStore.edit
        rw [hm]
      refine h.frame w.autosave.store.savedAt hsame rfl rfl ?_ rfl
      simp only
  | some deck =>
      -- the new edit is in none of the PUTs
      have hmore : ∀ sent ∈ w.sent, sent.load = w.loads →
          sent.edits < w.history.length + 1 := by
        intro sent hsent hload
        exact Nat.lt_succ_of_le (h.behind sent hsent hload)
      refine ⟨h.aligned, ?_, h.past, ?_, ?_, ?_⟩
      · intro deck' hdeck'
        simpa [hm, eq_comm] using hdeck'
      · intro sent hsent hload
        simpa [hm] using (hmore sent hsent hload).le
      · intro _ sent hsent hload
        simpa [hm] using hmore sent hsent hload
      · intro id hid htimer _
        -- an open deck is never left without a timer
        have hopen : w.autosave.store.carouselId = some id := by
          simp only [SlideStore.edit, hm, SlideStore.scheduleSave] at hid
          split at hid
          · exact hid
          · exact hid
        rw [SlideStore.edit_eq hopen, hm] at htimer
        cases htimer

theorem StudioWorld.fire_inv (h : w.Inv) (hstep : w.autosaveStep P .fire = some w') : w'.Inv := by
  obtain ⟨id, hid, hstep⟩ := Option.bind_eq_some_iff.mp hstep
  obtain ⟨autosave, hfire, hw⟩ := Option.bind_eq_some_iff.mp hstep
  cases hw
  simp only [AutosaveWorld.step] at hfire
  split at hfire
  · next htimer =>
      cases hfire
      refine ⟨?_, h.shown, ?_, ?_, ?_, ?_⟩
      · simp [h.aligned]
      · intro sent hsent
        rcases List.mem_append.mp hsent with hold | hnew
        · exact h.past sent hold
        · rw [List.mem_singleton.mp hnew]
      · intro sent hsent hload
        rcases List.mem_append.mp hsent with hold | hnew
        · exact h.behind sent hold hload
        · rw [List.mem_singleton.mp hnew]
      · intro hfalse
        cases hfalse
      -- what is sent now is the history up to now
      · intro id' hid' _ _
        have heq : id' = id := Option.some.inj (hid'.symm.trans hid)
        subst heq
        exact ⟨w.sent, rfl, h.pending htimer⟩
  · cases hfire

theorem StudioWorld.autosave_inv (h : w.Inv) {action : AutosaveAction}
    (hstep : w.autosaveStep P action = some w') : w'.Inv := by
  -- only an edit and a timer that fires concern the open deck
  cases hput : action.put with
  | none =>
      cases action with
      | edit edit => exact StudioWorld.edit_inv h hstep
      | fire => exact StudioWorld.fire_inv h hstep
      | _ => cases hput
  | some k =>
      have hbind : ∃ id autosave, w.autosave.step P id action = some autosave
          ∧ w' = { w with autosave := autosave } := by
        cases action with
        | edit edit => cases hput
        | fire => cases hput
        | _ =>
            obtain ⟨sent, -, hstep⟩ := Option.bind_eq_some_iff.mp hstep
            obtain ⟨autosave, hautosave, hw⟩ := Option.bind_eq_some_iff.mp hstep
            cases hw
            exact ⟨sent.carouselId, autosave, hautosave, rfl⟩
      obtain ⟨id, autosave, hautosave, rfl⟩ := hbind
      obtain ⟨⟨savedAt, hstore⟩, hputs⟩ := AutosaveWorld.step_frame hput hautosave
      exact h.frame savedAt hstore hputs rfl rfl rfl

/-- A load opens a deck that has not been edited. -/
theorem StudioWorld.load_inv (h : w.Inv) (result : CarouselResponse) (asks : List (Ask settings)) :
    StudioWorld.Inv {
      autosave := { w.autosave with store := result.toStore }
      sent := w.sent, asks := asks, history := [], loads := w.loads + 1 } where
  aligned := h.aligned
  shown deck hdeck := by cases hdeck
  past sent hsent := (h.past sent hsent).trans (Nat.le_succ _)
  -- what was sent belongs to an earlier load
  behind sent hsent hload := by
    have hpast := h.past sent hsent
    have hnext : sent.load = w.loads + 1 := hload
    omega
  pending htimer := by cases htimer
  flushed id _ _ hne := absurd rfl hne

/-- **Every step keeps the invariant.** -/
theorem StudioWorld.step_inv {action : StudioAction settings} (h : w.Inv)
    (hstep : w.step P action = some w') : w'.Inv := by
  -- most steps touch the server and the flows only
  have hframe : ∀ (server : DeckWorld settings) (asks : List (Ask settings)),
      StudioWorld.Inv
        { w with autosave := { w.autosave with server := server }, asks := asks } := by
    intro server asks
    exact h.frame w.autosave.store.savedAt rfl rfl rfl rfl rfl
  cases action with
  | autosave action => exact StudioWorld.autosave_inv h hstep
  | ask request =>
      simp only [StudioWorld.step] at hstep
      split at hstep
      · split at hstep
        · cases hstep
          exact hframe _ _
        · cases hstep
      · cases hstep
        exact hframe _ _
  | arrive j now =>
      simp only [StudioWorld.step] at hstep
      split at hstep
      · obtain ⟨⟨server, phase⟩, -, hw⟩ := Option.bind_eq_some_iff.mp hstep
        cases hw
        exact hframe _ _
      · cases hstep
  | decide j =>
      simp only [StudioWorld.step] at hstep
      split at hstep
      · obtain ⟨server, -, rfl⟩ := Option.map_eq_some_iff.mp hstep
        exact hframe _ _
      · cases hstep
  | commit j now =>
      simp only [StudioWorld.step] at hstep
      split at hstep
      · obtain ⟨server, -, rfl⟩ := Option.map_eq_some_iff.mp hstep
        exact hframe _ _
      · cases hstep
  | respond j =>
      simp only [StudioWorld.step] at hstep
      split at hstep
      · obtain ⟨phase, -, rfl⟩ := Option.map_eq_some_iff.mp hstep
        exact hframe _ _
      · cases hstep
  | lose j =>
      simp only [StudioWorld.step] at hstep
      split at hstep
      · cases hstep
        exact hframe _ _
      · cases hstep
  | load j =>
      simp only [StudioWorld.step] at hstep
      split at hstep
      · cases hstep
        exact StudioWorld.load_inv h _ _
      · cases hstep

theorem StudioWorld.run_inv {db : Db} {actions : List (StudioAction settings)}
    (hrun : Run (StudioWorld.step P) (StudioWorld.start db) actions w) : w.Inv := by
  refine hrun.invariant (I := StudioWorld.Inv) ?_ (StudioWorld.start_inv settings db)
  intro s action t hs hstep
  exact StudioWorld.step_inv hs hstep

end Inv

/-! ## §5. When a load keeps every edit. -/

section Load

variable {settings : Settings} {w : StudioWorld settings} {picked : List Str}
  {result : CarouselResponse}

/-- The edit made last is in no PUT but the last one. -/
theorem StudioWorld.Inv.accepted_last (h : w.Inv) {edit : Nat}
    (hlast : edit + 1 = w.history.length) (haccepted : w.Accepted edit) :
    w.autosave.store.saveTimer = false ∧ w.LastAccepted := by
  obtain ⟨k, sent, put, hsent, hput, hopen, hload, hedit, hok⟩ := haccepted
  have hmem := List.mem_of_getElem? hsent
  have htimer : w.autosave.store.saveTimer = false := by
    cases ht : w.autosave.store.saveTimer with
    | false => rfl
    | true =>
        have hbehind := h.pending ht sent hmem hload
        omega
  have hne : w.history ≠ [] := by
    intro hnil
    rw [hnil] at hlast
    cases hlast
  obtain ⟨before, hall, hbefore⟩ := h.flushed _ hopen htimer hne
  -- the PUT that carries it stands last
  have hk : k = before.length := by
    have hlt := (List.getElem?_eq_some_iff.mp hsent).1
    rw [hall, List.length_append, List.length_singleton] at hlt
    by_contra hk
    rw [hall, List.getElem?_append_left (by omega)] at hsent
    have hbehind := hbefore sent (List.mem_of_getElem? hsent) hload
    omega
  have hlen : w.autosave.puts.length = before.length + 1 := by
    rw [← h.aligned, hall, List.length_append, List.length_singleton]
  refine ⟨htimer, put, ?_, hok⟩
  rw [List.getLast?_eq_getElem?, hlen, Nat.add_sub_cancel, ← hk]
  exact hput

/-- With no save pending, the last PUT carries every edit. -/
theorem StudioWorld.Inv.last_accepted (h : w.Inv) {id : Nat}
    (hopen : w.autosave.store.carouselId = some id)
    (htimer : w.autosave.store.saveTimer = false) (hlast : w.LastAccepted) {edit : Nat}
    (hedit : edit < w.history.length) : w.Accepted edit := by
  obtain ⟨put, hput, hok⟩ := hlast
  have hne : w.history ≠ [] := List.ne_nil_of_length_pos (by omega)
  -- no timer is running, so the last PUT carried every edit
  obtain ⟨before, hall, -⟩ := h.flushed _ hopen htimer hne
  have hlen : w.autosave.puts.length = before.length + 1 := by
    rw [← h.aligned, hall, List.length_append, List.length_singleton]
  let sent : Sent := { carouselId := id, load := w.loads, edits := w.history.length }
  refine ⟨before.length, sent, put, ?_, ?_, hopen, rfl, hedit, hok⟩
  · rw [hall, List.getElem?_concat_length]
  · rw [List.getLast?_eq_getElem?, hlen, Nat.add_sub_cancel] at hput
    exact hput

theorem StudioWorld.Inv.keepsEdits_iff (h : w.Inv) {id : Nat}
    (hopen : w.autosave.store.carouselId = some id) :
    w.KeepsEdits picked result ↔ w.Settled picked result := by
  rcases List.eq_nil_or_concat w.history with hnil | ⟨before, deck, hhistory⟩
  · -- nothing to keep
    refine iff_of_true ?_ (Or.inl hnil)
    intro edit hedit
    simp [hnil] at hedit
  · rw [List.concat_eq_append] at hhistory
    have hlen : w.history.length = before.length + 1 := by
      rw [hhistory, List.length_append, List.length_singleton]
    have hdeck : w.history[before.length]? = some deck := by
      rw [hhistory, List.getElem?_concat_length]
    have hcanvas : deck = w.autosave.store.contents := by
      refine h.shown deck ?_
      rw [hhistory, List.getLast?_concat]
      rfl
    constructor
    · intro hkeeps
      -- it is the edit made last that decides
      rcases hkeeps before.length (by omega) with
        haccepted | ⟨hsame, later, deck', hle, hget, hshows⟩
      · exact Or.inr (Or.inl (h.accepted_last hlen.symm haccepted))
      · -- no deck on the canvas is later than the last
        have hlt := (List.getElem?_eq_some_iff.mp hget).1
        have hlater : later = before.length := by omega
        rw [hlater, hdeck] at hget
        cases hget
        rw [hcanvas] at hshows
        exact Or.inr (Or.inr ⟨hsame, hshows⟩)
    · intro h edit hedit
      rcases h with hnil | ⟨htimer, hlast⟩ | ⟨hsame, hshows⟩
      · simp [hnil] at hedit
      · exact Or.inl (h.last_accepted hopen htimer hlast hedit)
      · refine Or.inr ⟨hsame, before.length, deck, by omega, hdeck, ?_⟩
        rw [hcanvas]
        exact hshows

end Load

/-- **NO LOAD DISCARDS AN EDIT EXACTLY IF** each finds none since the deck was
loaded, or none pending or on its way, or brings the deck of the canvas. -/
theorem load_keeps_edits_iff (P : Platform) (settings : Settings) (db : Db)
    (actions : List (StudioAction settings)) :
    Along (StudioWorld.step P) (StudioWorld.AtLoad StudioWorld.KeepsEdits)
        (StudioWorld.start db) actions
      ↔ Along (StudioWorld.step P) (StudioWorld.AtLoad StudioWorld.Settled)
        (StudioWorld.start db) actions := by
  constructor
  -- state by state: at a load the two say the same under the invariant
  · intro hkeeps pre action hpre w hrun j request result id hload hreply hopen
    have h := hkeeps pre action hpre w hrun j request result id hload hreply hopen
    exact ((StudioWorld.run_inv hrun).keepsEdits_iff hopen).mp h
  · intro hsettled pre action hpre w hrun j request result id hload hreply hopen
    have h := hsettled pre action hpre w hrun j request result id hload hreply hopen
    exact ((StudioWorld.run_inv hrun).keepsEdits_iff hopen).mpr h

/-! ## §6. A keystroke and a story. -/

def flyoverId : Str := List.replicate 64 'f'

/-- The Nagpur deck, and a second Nagpur story. -/
def secondStory : Db :=
  { oneDeck with articles := oneDeck.articles ++ [articleOf 1 flyoverId "Flyover opens".toList] }

/-- A headline is typed while a story is being added; the answer is back before
the save goes out. -/
def typingWhileAdding : List (StudioAction defaultSettings) :=
  [.ask (.openCarousel 1), .arrive 0 (seconds 1790000000), .load 0,
    .ask (.addStory 1 { storyIds := [flyoverId] }),
    .autosave (.edit (.setText 0 (Utf16.encode "Drainage works".toList))),
    .arrive 1 (seconds 1790000001), .decide 1, .commit 1 (seconds 1790000001), .respond 1]

theorem ShowsDeck.subset {picked : List Str} {deck loaded : List JsContent}
    (h : ShowsDeck picked deck loaded) : ∀ slide ∈ deck, slide ∈ loaded := by
  obtain ⟨before, new, after, rfl, rfl, -⟩ := h
  intro slide hslide
  rcases List.mem_append.mp hslide with hbefore | hafter
  · exact List.mem_append_left _ (List.mem_append_left _ hbefore)
  · exact List.mem_append_right _ hafter

/-- No PUT has been sent, and the headline is not in the deck that comes back. -/
theorem typingWhileAdding_discards :
    ¬ Along (StudioWorld.step feedless) (StudioWorld.AtLoad StudioWorld.KeepsEdits)
      (StudioWorld.start secondStory) (typingWhileAdding ++ [.load 1]) := by
  have hok : ∃ w ∈ exec (StudioWorld.step feedless) (StudioWorld.start secondStory)
      typingWhileAdding,
      w.sent = [] ∧ w.autosave.store.carouselId = some 1 ∧ w.history.length = 1
        ∧ ∃ ask ∈ w.asks[1]?, ∃ result ∈ ask.phase.result,
          ∀ deck ∈ w.history, ∃ slide ∈ deck, slide ∉ result.toStore.contents := by
    decide +kernel
  obtain ⟨w, hrun, hsent, hopen, hlen, ⟨request, phase⟩, hask, result, hresult, hgone⟩ := hok
  intro h
  have hphase : phase = .replied result := AskPhase.result_some hresult
  rw [hphase] at hask
  have hkeeps := h typingWhileAdding (.load 1) List.prefix_rfl w (run_iff_exec.mpr hrun) 1 request
    result 1 rfl hask hopen
  -- no PUT is out, and the reply has no slide that shows what was typed
  rcases hkeeps 0 (by omega) with ⟨k, sent, put, hk, -⟩ | ⟨-, later, deck, -, hdeck, hshows⟩
  · rw [hsent] at hk
    cases hk
  · obtain ⟨slide, hslide, habsent⟩ := hgone deck (List.mem_of_getElem? hdeck)
    exact habsent (hshows.subset slide hslide)

end Feedcast
