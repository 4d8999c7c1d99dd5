/-
  Feedcast.Carousels.Autosave — the browser and the server share a deck.

  An edit starts the debounce timer; when it fires, the whole deck goes out in a
  PUT.  Nothing waits for the PUT before it, so any number travel at once; each
  is handled as a session of `DeckWorld`, and its answer comes back whenever it
  does.  When all is quiet, the browser has what it sent last, and the server
  has what it handled last:

    • `AutosaveWorld.step_inv` — what every step keeps of the two sides,
    • `autosave_converges_iff` — they agree exactly if the PUTs that commit after
      the server last loaded the deck come down to the one sent last,
    • `overtaken_diverges` — two PUTs, handled in the other order.
-/
import Feedcast.Carousels.LastWrite
import Feedcast.Static.Slides

namespace Feedcast

open Feedcast.Lib

/-! ## §1. The two parties. -/

/-- Where a PUT is on the server. -/
inductive PutReach where
  | travelling
  /-- A 404, or a body the schema refuses. -/
  | refused
  | session (i : Nat)
  deriving DecidableEq

/-- A PUT the browser has sent. -/
structure Put where
  body : List JsContent
  reach : PutReach := .travelling
  /-- Whether it succeeded, once it is answered. -/
  answer : Option Bool := none
  deriving DecidableEq

/-- The store of the browser, the PUTs in the order sent, and the server. -/
structure AutosaveWorld (settings : Settings) where
  store : SlideStore
  puts : List Put := []
  server : DeckWorld settings

inductive AutosaveAction where
  | edit (action : DeckEditAction)
  /-- The debounce timer fires: `save`. -/
  | fire
  /-- The PUT reaches the server, which loads the carousel. -/
  | deliver (put : Nat)
  | decide (put : Nat)
  | commit (put : Nat) (now : Time)
  | answer (put : Nat) (now : Time)
  /-- The request or its answer is lost. -/
  | lose (put : Nat)

/-- How a session ended. -/
def DeckPhase.outcome : DeckPhase → Option Bool
  | .committed _ => some true
  | .refused _ => some false
  | _ => none

/-- The answer the server has for a PUT. -/
def PutReach.outcome {settings : Settings} (server : DeckWorld settings) :
    PutReach → Option Bool
  | .travelling => none
  | .refused => some false
  | .session i => (server.sessions[i]?).bind (·.phase.outcome)

/-- The server handles a PUT one step further. -/
def AutosaveWorld.serve {settings : Settings} (P : Platform) (carouselId : Nat)
    (w : AutosaveWorld settings) (k : Nat) (action : Nat → DeckAction settings) :
    Option (AutosaveWorld settings) :=
  match (w.puts[k]?).map Put.reach with
  | some (.session i) =>
      (w.server.step P carouselId (action i)).map fun server => { w with server := server }
  | _ => none

/-- The server takes a PUT in. -/
def AutosaveWorld.receive {settings : Settings} (P : Platform) (carouselId : Nat)
    (w : AutosaveWorld settings) (k : Nat) (put : Put) : Option (AutosaveWorld settings) :=
  match parseDeck settings put.body, loadCarousel w.server.db carouselId with
  | some data, .ok _ =>
      (w.server.step P carouselId (.load (.save data))).map fun server =>
        { w with
          puts := w.puts.set k { put with reach := .session w.server.sessions.length }
          server := server }
  | _, _ => some { w with puts := w.puts.set k { put with reach := .refused } }

def AutosaveWorld.step {settings : Settings} (P : Platform) (carouselId : Nat)
    (w : AutosaveWorld settings) : AutosaveAction → Option (AutosaveWorld settings)
  | .edit action => some { w with store := w.store.edit action }
  | .fire =>
      if w.store.saveTimer then
        some { w with
          store := { w.store with saveTimer := false }
          puts := w.puts ++ [{ body := w.store.contents }] }
      else none
  | .deliver k =>
      match w.puts[k]? with
      | none => none
      | some put => if put.reach = .travelling then w.receive P carouselId k put else none
  | .decide k => w.serve P carouselId k fun i => .decide i
  | .commit k now => w.serve P carouselId k fun i => .commit i now
  | .answer k now =>
      match w.puts[k]? with
      | none => none
      | some put =>
          match put.answer, put.reach.outcome w.server with
          | none, some ok =>
              some { w with
                store := w.store.answered carouselId ok now
                puts := w.puts.set k { put with answer := some ok } }
          | _, _ => none
  | .lose k =>
      match w.puts[k]? with
      | none => none
      | some put =>
          if put.answer = none then
            some { w with puts := w.puts.set k { put with answer := some false } }
          else none

/-- `GET /carousels/{id}`, as the store keeps it. -/
def openedStore (P : Platform) (settings : Settings) (db : Db) (carouselId : Nat) : SlideStore :=
  SlideStore.load carouselId ((loadDeck P settings db carouselId).map (·.toJs))

/-- The carousel has just been opened. -/
def AutosaveWorld.opened (P : Platform) (settings : Settings) (db : Db) (carouselId : Nat) :
    AutosaveWorld settings where
  store := openedStore P settings db carouselId
  server := DeckWorld.start db

/-- No save timer is pending, no PUT is in flight and every PUT sent was answered
with success. -/
def AutosaveWorld.Quiet {settings : Settings} (w : AutosaveWorld settings) : Prop :=
  w.store.saveTimer = false ∧ ∀ put ∈ w.puts, put.answer = some true

/-- **The stored rows are exactly the deck of the browser.** -/
def StoredAs (db : Db) (carouselId : Nat) (deck : List JsContent) : Prop :=
  ((deckRows db carouselId).map fun row => (row.position, row.content.toJs)).Perm (positioned deck)

/-! ## §2. The condition. -/

/-- The deck a save carries, as the browser sent it. -/
def DeckRequest.sent {settings : Settings} : DeckRequest settings → Option (List JsContent)
  | .save data => some data.contents
  | .add _ => none

/-- The decks of the saves that have committed since one last loaded the carousel. -/
def DeckWorld.lateSaves {settings : Settings} (w : DeckWorld settings) : List (List JsContent) :=
  w.late.filterMap fun i => (w.sessions[i]?).bind (·.request.sent)

/-- The deck as it was opened is dense, and `clean` cuts nothing off it. -/
def OpensWhole (db : Db) (carouselId : Nat) : Prop :=
  ((deckRows db carouselId).map (·.position)).Perm (List.range (deckRows db carouselId).length)
    ∧ ∀ row ∈ deckRows db carouselId, row.content.toJs.text.length ≤ textMax

/-- The deck sent last. -/
def AutosaveWorld.sentLast {settings : Settings} (w : AutosaveWorld settings) :
    Option (List JsContent) :=
  (w.puts.map (·.body)).getLast?

/-- Of the PUTs that commit after the server last loaded the deck, those with
slides are the one sent last; with none sent, the deck was opened whole. -/
def AutosaveWorld.LastSentLast {settings : Settings} (db : Db) (carouselId : Nat)
    (w : AutosaveWorld settings) : Prop :=
  match w.sentLast with
  | none => OpensWhole db carouselId
  | some deck =>
      w.server.lateSaves.filter (fun d => !d.isEmpty) = [deck].filter fun d => !d.isEmpty

/-! ## §3. The server's steps. -/

section Server

variable {settings : Settings} {P : Platform} {carouselId : Nat} {w w' : DeckWorld settings}

/-- The request an action brings in. -/
def DeckAction.loads {settings : Settings} :
    DeckAction settings → Option (DeckRequest settings)
  | .load request => some request
  | _ => none

/-- A step adds the request it loads for, and changes none. -/
theorem DeckWorld.step_requests {action : DeckAction settings} {carousel : Carousel}
    (hc : w.db.getCarousel carouselId = some carousel)
    (hstep : w.step P carouselId action = some w') :
    w'.sessions.map (·.request) = w.sessions.map (·.request) ++ action.loads.toList := by
  -- sessions are added by a load, and keep their request ever after
  cases action with
  | load request =>
      rw [DeckWorld.step_load hc] at hstep
      cases hstep
      simp [DeckAction.loads]
  | decide i =>
      obtain ⟨request, loaded, phase, hi, -, rfl⟩ := DeckWorld.step_decide hstep
      have hmap := map_set_of_eq (f := DeckSession.request) hi
        (y := { request := request, loaded := loaded, phase := phase }) rfl
      exact hmap.trans (List.append_nil _).symm
  | commit i now =>
      obtain ⟨request, loaded, edit, hi, rfl⟩ := DeckWorld.step_commit hstep
      have hmap := map_set_of_eq (f := DeckSession.request) hi
        (y := { request := request, loaded := loaded, phase := .committed edit }) rfl
      exact hmap.trans (List.append_nil _).symm

/-- A deck written stays written. -/
theorem DeckWorld.step_deckOf {action : DeckAction settings} {carousel : Carousel}
    (hc : w.db.getCarousel carouselId = some carousel)
    (hstep : w.step P carouselId action = some w') {i : Nat} (hi : w.deckOf i ≠ none) :
    w'.deckOf i ≠ none := by
  unfold DeckWorld.deckOf at hi ⊢
  cases hs : w.sessions[i]? with
  | none => simp [hs] at hi
  | some s =>
      rw [hs, Option.bind_some] at hi
      have hlt := (List.getElem?_eq_some_iff.mp hs).1
      cases action with
      | load request =>
          rw [DeckWorld.step_load hc] at hstep
          cases hstep
          simpa [List.getElem?_append_left hlt, hs] using hi
      | decide j =>
          obtain ⟨request, loaded, phase, hj, -, rfl⟩ := DeckWorld.step_decide hstep
          -- a session that has written has nothing to decide any more
          have hne : j ≠ i := by
            intro h
            subst h
            rw [hs] at hj
            cases hj
            exact hi rfl
          simpa [List.getElem?_set_ne hne, hs] using hi
      | commit j now =>
          obtain ⟨request, loaded, edit, hj, rfl⟩ := DeckWorld.step_commit hstep
          by_cases hij : j = i
          · subst hij
            simp [hlt, DeckSession.written]
          · simpa [List.getElem?_set_ne hij, hs] using hi

/-- **What a save has written is what it carried.** -/
theorem lateSaves_eq (h : w.Inv P carouselId)
    (hsaves : ∀ request ∈ w.sessions.map (·.request), ∃ data, request = .save data) :
    w.lateSaves = w.lateDecks.map fun d => d.map fun slide => slide.content.toJs := by
  unfold DeckWorld.lateSaves DeckWorld.lateDecks
  rw [List.map_filterMap]
  refine List.filterMap_congr ?_
  intro i hi
  obtain ⟨s, edit, db, hs, hphase, hdecide⟩ := h.late_session hi
  obtain ⟨data, hdata⟩ := hsaves _ (List.mem_map_of_mem (List.mem_of_getElem? hs))
  -- the edit of a save is the deck of its body
  rw [hdata] at hdecide
  obtain ⟨_, -, hret⟩ := except_bind_ok.mp hdecide
  cases hret
  unfold DeckWorld.deckOf
  simp only [hs, Option.bind_some, hdata, DeckRequest.sent, DeckSession.written, hphase,
    Option.map_some]
  rfl

end Server

/-! ## §4. The invariant. -/

/-- What holds of the browser and the server in every run. -/
structure AutosaveWorld.Inv (P : Platform) {settings : Settings} (db : Db) (carouselId : Nat)
    (w : AutosaveWorld settings) : Prop where
  server : w.server.Inv P carouselId
  opened : w.store.carouselId = some carouselId
  /-- With no timer pending, the browser has the deck it sent last. -/
  synced : w.store.saveTimer = true ∨ w.store.contents
    = w.sentLast.getD (openedStore P settings db carouselId).contents
  idle : w.puts = [] → w.server = DeckWorld.start db
  /-- A session of the server is for a PUT, and carries its body. -/
  arrived : ∀ i request, (w.server.sessions.map (·.request))[i]? = some request →
    ∃ put ∈ w.puts, put.reach = .session i
      ∧ ∃ data, request = .save data ∧ data.contents = put.body
  /-- A success was answered for a deck that was written. -/
  answered : ∀ put ∈ w.puts, put.answer = some true →
    ∃ i, put.reach = .session i ∧ w.server.deckOf i ≠ none

section Inv

variable {settings : Settings} {P : Platform} {db : Db} {carouselId : Nat}
  {w w' : AutosaveWorld settings}

theorem AutosaveWorld.opened_inv (hc : (db.getCarousel carouselId).isSome)
    (hkeys : ∀ row ∈ db.slides, row.id < db.nextSlide) :
    (AutosaveWorld.opened P settings db carouselId).Inv P db carouselId where
  server := DeckWorld.start_inv hc hkeys
  opened := rfl
  synced := Or.inr rfl
  idle _ := rfl
  arrived i request hi := by simp [AutosaveWorld.opened, DeckWorld.start] at hi
  answered put hput := by cases hput

/-- A PUT taken up by the server is found again once an entry is rewritten. -/
theorem arrived_set {puts : List Put} {k i : Nat} {put q : Put} (put' : Put)
    (hk : puts[k]? = some put)
    (hreach : put.reach = .travelling ∨ put'.reach = put.reach) (hbody : put'.body = put.body)
    (hq : q ∈ puts) (hqi : q.reach = .session i) :
    ∃ q' ∈ puts.set k put', q'.reach = .session i ∧ q'.body = q.body := by
  obtain ⟨j, hj⟩ := List.mem_iff_getElem?.mp hq
  -- the PUT that is written to, or another one
  by_cases hjk : k = j
  · subst hjk
    rw [hk] at hj
    cases hj
    rcases hreach with hreach | hreach
    · -- a PUT that travels is in no session
      rw [hreach] at hqi
      cases hqi
    · refine ⟨put', ?_, hreach.trans hqi, hbody⟩
      exact List.mem_set (List.getElem?_eq_some_iff.mp hk).1 _
  · refine ⟨q, ?_, hqi, rfl⟩
    refine List.mem_of_getElem? (i := j) ?_
    rw [List.getElem?_set_ne hjk, hj]

/-- Rewriting an entry keeps the bodies. -/
theorem sentLast_set {k : Nat} {put : Put} (put' : Put) (hk : w.puts[k]? = some put)
    (hbody : put'.body = put.body) :
    ((w.puts.set k put').map (·.body)).getLast? = w.sentLast := by
  unfold AutosaveWorld.sentLast
  rw [map_set_of_eq hk hbody]

theorem AutosaveWorld.serve_inv {k : Nat} {action : Nat → DeckAction settings}
    (haction : ∀ i, (action i).loads = none) (h : w.Inv P db carouselId)
    (hstep : w.serve P carouselId k action = some w') : w'.Inv P db carouselId := by
  unfold AutosaveWorld.serve at hstep
  split at hstep
  · next i hi =>
      obtain ⟨server, hserver, rfl⟩ := Option.map_eq_some_iff.mp hstep
      obtain ⟨carousel, hc⟩ := h.server.carousel
      -- serving a session adds no request
      have hsame := DeckWorld.step_requests hc hserver
      rw [haction, Option.toList_none, List.append_nil] at hsame
      refine ⟨DeckWorld.step_inv h.server hserver, h.opened, h.synced, ?_, ?_, ?_⟩
      · intro hnil
        have hnil' : w.puts = [] := hnil
        simp [hnil'] at hi
      · intro j request hj
        rw [hsame] at hj
        exact h.arrived j request hj
      · intro put hput hok
        obtain ⟨j, hj, hwritten⟩ := h.answered put hput hok
        exact ⟨j, hj, DeckWorld.step_deckOf hc hserver hwritten⟩
  · cases hstep

/-- A PUT on its way has not been answered with success. -/
theorem answered_set {k : Nat} {put : Put} {reach : PutReach} (h : w.Inv P db carouselId)
    (hk : w.puts[k]? = some put) (htravel : put.reach = .travelling) {q : Put}
    (hq : q ∈ w.puts.set k { put with reach := reach }) (hok : q.answer = some true) :
    q ∈ w.puts := by
  rcases List.mem_or_eq_of_mem_set hq with hold | rfl
  · exact hold
  · obtain ⟨i, hi, -⟩ := h.answered put (List.mem_of_getElem? hk) hok
    rw [htravel] at hi
    cases hi

theorem AutosaveWorld.receive_inv {k : Nat} {put : Put} (hk : w.puts[k]? = some put)
    (htravel : put.reach = .travelling) (h : w.Inv P db carouselId)
    (hstep : w.receive P carouselId k put = some w') : w'.Inv P db carouselId := by
  have hlt := (List.getElem?_eq_some_iff.mp hk).1
  have hne : ∀ put', w.puts.set k put' ≠ [] := by
    intro put' hnil
    rw [List.set_eq_nil_iff] at hnil
    simp [hnil] at hlt
  -- the last PUT sent is the last one, wherever it has got to
  have hsynced : ∀ reach : PutReach, w.store.saveTimer = true ∨ w.store.contents
      = (((w.puts.set k { put with reach := reach }).map (·.body)).getLast?).getD
          (openedStore P settings db carouselId).contents := by
    intro reach
    rw [sentLast_set { put with reach := reach } hk rfl]
    exact h.synced
  unfold AutosaveWorld.receive at hstep
  split at hstep
  · next data loaded hparse hload =>
      obtain ⟨server, hserver, rfl⟩ := Option.map_eq_some_iff.mp hstep
      obtain ⟨carousel, hc⟩ := h.server.carousel
      have hrequests := DeckWorld.step_requests hc hserver
      refine ⟨DeckWorld.step_inv h.server hserver, h.opened, hsynced _, ?_, ?_, ?_⟩
      · intro hnil
        exact absurd hnil (hne _)
      · intro i request hi
        rw [hrequests] at hi
        rcases Nat.lt_or_ge i (w.server.sessions.map (·.request)).length with hold | hnew
        · -- a session that was there
          rw [List.getElem?_append_left hold] at hi
          obtain ⟨q, hq, hqi, hdata⟩ := h.arrived i request hi
          obtain ⟨q', hq', hqi', hbody⟩ :=
            arrived_set { put with reach := .session w.server.sessions.length } hk
              (Or.inl htravel) rfl hq hqi
          exact ⟨q', hq', hqi', hbody ▸ hdata⟩
        · -- the session of this PUT
          rw [List.getElem?_append_right hnew] at hi
          obtain ⟨hi0, hreq⟩ := List.getElem?_eq_some_iff.mp hi
          simp only [DeckAction.loads, Option.toList_some, List.length_singleton,
            Nat.lt_one_iff] at hi0
          have hlen : i = w.server.sessions.length := by
            rw [List.length_map] at hnew hi0
            omega
          refine ⟨_, List.mem_set hlt _, by rw [hlen], data, ?_, parseDeck_contents hparse⟩
          simpa [DeckAction.loads] using hreq.symm
      · intro q hq hok
        obtain ⟨i, hi, hwritten⟩ := h.answered q (answered_set h hk htravel hq hok) hok
        exact ⟨i, hi, DeckWorld.step_deckOf hc hserver hwritten⟩
  -- the body was refused, or the carousel is gone: no session
  · cases hstep
    refine ⟨h.server, h.opened, hsynced _, ?_, ?_, ?_⟩
    · intro hnil
      exact absurd hnil (hne _)
    · intro i request hi
      obtain ⟨q, hq, hqi, hdata⟩ := h.arrived i request hi
      obtain ⟨q', hq', hqi', hbody⟩ :=
        arrived_set { put with reach := .refused } hk (Or.inl htravel) rfl hq hqi
      exact ⟨q', hq', hqi', hbody ▸ hdata⟩
    · intro q hq hok
      exact h.answered q (answered_set h hk htravel hq hok) hok

/-- An answer, or the loss of one, changes no body and no session. -/
theorem AutosaveWorld.answer_inv {k : Nat} {put : Put} {ok : Bool} {savedAt : Option Time}
    (hk : w.puts[k]? = some put) (h : w.Inv P db carouselId)
    (hok : ok = true → ∃ i, put.reach = .session i ∧ w.server.deckOf i ≠ none) :
    AutosaveWorld.Inv P db carouselId { w with
      store := { w.store with savedAt := savedAt }
      puts := w.puts.set k { put with answer := some ok } } where
  server := h.server
  opened := h.opened
  synced := by
    show w.store.saveTimer = true ∨ w.store.contents
      = ((((w.puts.set k { put with answer := some ok }).map (·.body)).getLast?).getD
          (openedStore P settings db carouselId).contents)
    rw [sentLast_set { put with answer := some ok } hk rfl]
    exact h.synced
  idle hnil := by
    have hlt := (List.getElem?_eq_some_iff.mp hk).1
    rw [List.set_eq_nil_iff] at hnil
    simp [hnil] at hlt
  arrived i request hi := by
    obtain ⟨q, hq, hqi, hdata⟩ := h.arrived i request hi
    obtain ⟨q', hq', hqi', hbody⟩ :=
      arrived_set { put with answer := some ok } hk (Or.inr rfl) rfl hq hqi
    exact ⟨q', hq', hqi', hbody ▸ hdata⟩
  answered q hq hq' := by
    rcases List.mem_or_eq_of_mem_set hq with hold | rfl
    · exact h.answered q hold hq'
    -- a `true` reaches the page only after the commit
    · exact hok (Option.some.inj hq')

/-- A success is answered for a committed session. -/
theorem outcome_true {server : DeckWorld settings} {reach : PutReach}
    (h : reach.outcome server = some true) : ∃ i, reach = .session i ∧ server.deckOf i ≠ none := by
  -- only a PUT that came to a session is ever answered with a success
  cases reach with
  | travelling => cases h
  | refused => cases h
  | session i =>
      refine ⟨i, rfl, ?_⟩
      obtain ⟨s, hs, hphase⟩ := Option.bind_eq_some_iff.mp h
      unfold DeckWorld.deckOf
      rw [hs, Option.bind_some]
      unfold DeckSession.written
      cases hp : s.phase with
      | committed edit => simp
      | _ => simp [hp, DeckPhase.outcome] at hphase

/-- **Every step keeps the invariant.** -/
theorem AutosaveWorld.step_inv {action : AutosaveAction} (h : w.Inv P db carouselId)
    (hstep : w.step P carouselId action = some w') : w'.Inv P db carouselId := by
  cases action with
  | edit action =>
      cases hstep
      -- a mutation starts the timer, and then nothing is said of the canvas
      rw [SlideStore.edit_eq h.opened]
      cases w.store.mutated action with
      | none => exact h
      | some deck =>
          exact ⟨h.server, h.opened, Or.inl rfl, h.idle, h.arrived, h.answered⟩
  | fire =>
      simp only [AutosaveWorld.step] at hstep
      split at hstep
      · cases hstep
        refine ⟨h.server, h.opened, Or.inr ?_, ?_, ?_, ?_⟩
        · -- what was sent last is what the canvas shows
          simp [AutosaveWorld.sentLast, SlideStore.contents]
        · intro hnil
          simp at hnil
        · intro i request hi
          obtain ⟨q, hq, hqi, hdata⟩ := h.arrived i request hi
          exact ⟨q, List.mem_append_left _ hq, hqi, hdata⟩
        · intro q hq hok
          rcases List.mem_append.mp hq with hold | hnew
          · exact h.answered q hold hok
          · rw [List.mem_singleton.mp hnew] at hok
            cases hok
      · cases hstep
  | deliver k =>
      simp only [AutosaveWorld.step] at hstep
      split at hstep
      · cases hstep
      · next put hk =>
          split at hstep
          · next htravel => exact AutosaveWorld.receive_inv hk htravel h hstep
          · cases hstep
  | decide k => exact AutosaveWorld.serve_inv (fun _ => rfl) h hstep
  | commit k now => exact AutosaveWorld.serve_inv (fun _ => rfl) h hstep
  | answer k now =>
      simp only [AutosaveWorld.step] at hstep
      split at hstep
      · cases hstep
      · next put hk =>
          split at hstep
          · next ok _ houtcome =>
              cases hstep
              obtain ⟨savedAt, hstore⟩ := w.store.answered_eq carouselId ok now
              rw [hstore]
              refine AutosaveWorld.answer_inv hk h ?_
              intro hok
              rw [hok] at houtcome
              exact outcome_true houtcome
          · cases hstep
  | lose k =>
      simp only [AutosaveWorld.step] at hstep
      split at hstep
      · cases hstep
      · next put hk =>
          split at hstep
          · cases hstep
            exact AutosaveWorld.answer_inv hk h fun hfalse => by cases hfalse
          · cases hstep

end Inv

/-! ## §5. When all is quiet. -/

section Quiet

variable {settings : Settings} {P : Platform} {db : Db} {carouselId : Nat}
  {w : AutosaveWorld settings}

/-- What `load_deck` serves of a deck stored as the browser has it. -/
theorem StoredAs.loadDeck {deck : List JsContent} (h : StoredAs db carouselId deck) :
    (Feedcast.loadDeck P settings db carouselId).map (fun slide => slide.content.toJs) = deck := by
  unfold Feedcast.loadDeck
  rw [List.map_map]
  exact (sorted_of_perm_positioned h).2

theorem openedStore_contents :
    (openedStore P settings db carouselId).contents
      = ((deckRows db carouselId).insertionSort fun a b => a.position ≤ b.position).map
          fun row => row.content.toJs.clean := by
  unfold openedStore SlideStore.load SlideStore.contents Feedcast.loadDeck
  rw [List.map_map, List.map_map, List.map_map]
  rfl

/-- **A deck just opened is the stored one exactly if it was opened whole.** -/
theorem storedAs_opened :
    StoredAs db carouselId (openedStore P settings db carouselId).contents
      ↔ OpensWhole db carouselId := by
  rw [openedStore_contents]
  constructor
  · intro h
    refine ⟨(sorted_of_perm_positioned h).1, ?_⟩
    -- a row shows on the canvas as it is stored, so `clean` has cut nothing
    intro row hrow
    have hmem := h.mem_iff.mp (List.mem_map_of_mem hrow)
    obtain ⟨hlt, hget⟩ := List.getElem?_eq_some_iff.mp (mem_positioned.mp hmem)
    rw [List.getElem_map] at hget
    rw [← hget]
    exact JsContent.clean_fits _
  · intro h
    obtain ⟨hdense, hfits⟩ := h
    have hclean : (((deckRows db carouselId).insertionSort
          fun a b => a.position ≤ b.position).map fun row => row.content.toJs.clean)
        = ((deckRows db carouselId).insertionSort
          fun a b => a.position ≤ b.position).map fun row => row.content.toJs := by
      refine List.map_congr_left ?_
      intro row hrow
      exact JsContent.clean_of_fits (hfits row ((List.perm_insertionSort _ _).mem_iff.mp hrow))
    rw [hclean]
    exact perm_positioned_sorted _ hdense

/-- With every PUT answered with success, every session has written. -/
theorem sessions_written (h : w.Inv P db carouselId)
    (hsuccess : ∀ put ∈ w.puts, put.answer = some true) :
    ∀ s ∈ w.server.sessions, s.written.isSome := by
  intro s hs
  obtain ⟨i, hi⟩ := List.mem_iff_getElem?.mp hs
  have hreq : (w.server.sessions.map (·.request))[i]? = some s.request := by
    rw [List.getElem?_map, hi]
    rfl
  -- the PUT that opened the session was answered
  obtain ⟨put, hput, hreach, -⟩ := h.arrived i s.request hreq
  obtain ⟨j, hj, hwritten⟩ := h.answered put hput (hsuccess put hput)
  rw [hreach] at hj
  cases hj
  unfold DeckWorld.deckOf at hwritten
  rw [hi, Option.bind_some] at hwritten
  exact Option.isSome_iff_ne_none.mpr hwritten

/-- **The stored deck, once PUTs were sent and all succeeded.** -/
theorem stored_of_success (h : w.Inv P db carouselId) (hputs : w.puts ≠ [])
    (hsuccess : ∀ put ∈ w.puts, put.answer = some true) :
    (deckRows w.server.db carouselId).map (fun row => (row.position, row.content.toJs))
      = w.server.lateSaves.flatMap positioned := by
  have hdone := sessions_written h hsuccess
  -- some PUT was answered well, so some session committed
  have hsome : w.server.sessions ≠ [] := by
    obtain ⟨put, hput⟩ := List.exists_mem_of_ne_nil _ hputs
    obtain ⟨i, -, hwritten⟩ := h.answered put hput (hsuccess put hput)
    intro hnil
    simp [DeckWorld.deckOf, hnil] at hwritten
  have hsaves : ∀ request ∈ w.server.sessions.map (·.request), ∃ data, request = .save data := by
    intro request hrequest
    obtain ⟨i, hi⟩ := List.mem_iff_getElem?.mp hrequest
    obtain ⟨put, -, -, data, hdata, -⟩ := h.arrived i request hi
    exact ⟨data, hdata⟩
  -- last writer wins; every writer here is a save
  have hstored := congrArg (List.map fun row => (row.1, SlideContent.toJs row.2))
    (stored_of_done h.server hsome hdone).1
  rw [flatMap_positioned_map, List.map_map, List.map_map] at hstored
  rw [lateSaves_eq h.server hsaves]
  simp only [Function.comp_def, List.map_map] at hstored
  exact hstored

theorem AutosaveWorld.run_inv {actions : List AutosaveAction}
    (hc : (db.getCarousel carouselId).isSome) (hkeys : ∀ row ∈ db.slides, row.id < db.nextSlide)
    (hrun : Run (AutosaveWorld.step P carouselId) (AutosaveWorld.opened P settings db carouselId)
      actions w) : w.Inv P db carouselId := by
  refine hrun.invariant (I := AutosaveWorld.Inv P db carouselId) ?_
    (AutosaveWorld.opened_inv hc hkeys)
  intro s action t hs hstep
  exact AutosaveWorld.step_inv hs hstep

end Quiet

/-- **THE AUTOSAVE CONVERGES EXACTLY IF** the PUTs that commit after the server
last loaded the deck come down to the one sent last. -/
theorem autosave_converges_iff (P : Platform) (settings : Settings) (db : Db) (carouselId : Nat)
    (hc : (db.getCarousel carouselId).isSome) (hkeys : ∀ row ∈ db.slides, row.id < db.nextSlide)
    (actions : List AutosaveAction) (w : AutosaveWorld settings)
    (hrun : Run (AutosaveWorld.step P carouselId) (AutosaveWorld.opened P settings db carouselId)
      actions w) (hquiet : w.Quiet) :
    (StoredAs w.server.db carouselId w.store.contents ↔ w.LastSentLast db carouselId)
      ∧ (w.LastSentLast db carouselId →
        (loadDeck P settings w.server.db carouselId).map (fun slide => slide.content.toJs)
          = w.store.contents) := by
  have h : w.Inv P db carouselId := AutosaveWorld.run_inv hc hkeys hrun
  obtain ⟨htimer, hsuccess⟩ := hquiet
  have hsynced : w.store.contents
      = w.sentLast.getD (openedStore P settings db carouselId).contents := by
    rcases h.synced with htrue | hsynced
    · rw [htimer] at htrue
      cases htrue
    · exact hsynced
  have hiff : StoredAs w.server.db carouselId w.store.contents ↔ w.LastSentLast db carouselId := by
    unfold AutosaveWorld.LastSentLast
    rw [hsynced]
    cases hlast : w.sentLast with
    | none =>
        -- nothing was sent: the two sides are as they were when the deck was opened
        have hnil : w.puts = [] := by
          simpa [AutosaveWorld.sentLast] using hlast
        rw [h.idle hnil]
        exact storedAs_opened
    | some deck =>
        -- the stored rows are those of the late saves, side by side
        have hputs : w.puts ≠ [] := by
          intro hnil
          simp [AutosaveWorld.sentLast, hnil] at hlast
        unfold StoredAs
        rw [stored_of_success h hputs hsuccess]
        exact flatMap_positioned_perm_iff
  exact ⟨hiff, fun hlast => (hiff.mpr hlast).loadDeck⟩

/-! ## §6. Two keystrokes. -/

/-- The deck is open, on both sides. -/
def oneDeckOpened : AutosaveWorld defaultSettings :=
  AutosaveWorld.opened feedless defaultSettings oneDeck 1

/-- One keystroke and its save. -/
def typed (text : String) : List AutosaveAction :=
  [.edit (.setText 0 (Utf16.encode text.toList)), .fire]

/-- A PUT goes all the way. -/
def handled (put : Nat) : List AutosaveAction :=
  [.deliver put, .decide put, .commit put (seconds 1790000001), .answer put (seconds 1790000001)]

/-- The second save overtakes the first. -/
def overtaken : List AutosaveAction :=
  typed "Drainage work" ++ typed "Drainage works" ++ handled 1 ++ handled 0

/-- The server is left with the text of the first keystroke. -/
theorem overtaken_diverges :
    ∃ w, Run (AutosaveWorld.step feedless 1) oneDeckOpened overtaken w
      ∧ w.Quiet
      ∧ (loadDeck feedless defaultSettings w.server.db 1).map (fun slide => slide.content.toJs)
        ≠ w.store.contents := by
  -- evaluated once: both PUTs succeed, and the older one commits last
  have hok : ∃ w ∈ exec (AutosaveWorld.step feedless 1) oneDeckOpened overtaken,
      (w.store.saveTimer = false ∧ ∀ put ∈ w.puts, put.answer = some true)
        ∧ (loadDeck feedless defaultSettings w.server.db 1).map (fun slide => slide.content.toJs)
          ≠ w.store.contents := by
    decide +kernel
  obtain ⟨w, hrun, hquiet, hne⟩ := hok
  exact ⟨w, run_iff_exec.mpr hrun, hquiet, hne⟩

/-- Each save is answered before the next is sent. -/
def inTurn : List AutosaveAction :=
  typed "Drainage work" ++ handled 0 ++ typed "Drainage works" ++ handled 1

theorem autosave_converges_iff_inTurn :
    ∃ w, Run (AutosaveWorld.step feedless 1) oneDeckOpened inTurn w
      ∧ ((StoredAs w.server.db 1 w.store.contents ↔ w.LastSentLast oneDeck 1)
        ∧ (w.LastSentLast oneDeck 1 →
          (loadDeck feedless defaultSettings w.server.db 1).map (fun slide => slide.content.toJs)
            = w.store.contents)) := by
  have hok : ∃ w ∈ exec (AutosaveWorld.step feedless 1) oneDeckOpened inTurn,
      w.store.saveTimer = false ∧ ∀ put ∈ w.puts, put.answer = some true := by
    decide +kernel
  obtain ⟨w, hrun, hquiet⟩ := hok
  exact ⟨w, run_iff_exec.mpr hrun,
    autosave_converges_iff feedless defaultSettings oneDeck 1 (by decide) (by decide) inTurn w
      (run_iff_exec.mpr hrun) hquiet⟩

end Feedcast
