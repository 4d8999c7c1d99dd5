/-
  Feedcast.Carousels.Gallery — the Gallery, over every history of the carousels.

  The listing reads stamps and counts rows; what it says is a history: which
  carousel was worked on last, and which was edited after its archive went out.

    • `CarouselCall.run_work` — where the carousels after a call come from, and
      what was done to them,
    • `logStep_inv` — every request keeps the stamps true to the history,
    • `page_right` — the controls and the grid of the last paint agree,
    • `gallery_lists_work` — both, over every run.
-/
import Feedcast.Carousels.Downloads
import Feedcast.Carousels.SlideOrder
import Feedcast.Lib.Recency
import Feedcast.Services.Cities
import Feedcast.Static.Gallery

namespace Feedcast

open Feedcast.Lib

/-! ## §1. Histories. -/

/-- What can happen to a carousel. -/
inductive CarouselWork
  | worked (id : Nat)
  | downloaded (id : Nat)
  | deleted (id : Nat)
  deriving Repr, DecidableEq

def CarouselWork.id : CarouselWork → Nat
  | worked id => id
  | downloaded id => id
  | deleted id => id

/-- The carousels of a history, newest first, that were not deleted: the last one
worked on comes first. -/
def recentlyWorked : List CarouselWork → List Nat
  | [] => []
  | .worked id :: history => id :: (recentlyWorked history).erase id
  | .downloaded _ :: history => recentlyWorked history
  | .deleted id :: history => (recentlyWorked history).erase id

def wasDownloaded (id : Nat) (history : List CarouselWork) : Bool :=
  CarouselWork.downloaded id ∈ history

/-- The carousel was worked on after its last archive. -/
def editedSince (id : Nat) : List CarouselWork → Bool
  | [] => false
  | .worked id' :: history => if id' = id then wasDownloaded id history else editedSince id history
  | .downloaded id' :: history => if id' = id then false else editedSince id history
  | .deleted _ :: history => editedSince id history

/-- What a call does, once it is accepted. -/
def CarouselCall.deed {settings : Settings} (db : Db) : CarouselCall settings → CarouselWork
  | .create _ _ => .worked db.nextCarousel
  | .addStories carouselId _ _ => .worked carouselId
  | .save carouselId _ _ => .worked carouselId
  | .zip carouselId _ _ => .downloaded carouselId
  | .delete carouselId => .deleted carouselId

/-- The clock of a call that stamps. -/
def CarouselCall.time {settings : Settings} : CarouselCall settings → Option Time
  | .create _ now => some now
  | .addStories _ _ now => some now
  | .save _ _ now => some now
  | .zip _ _ now => some now
  | .delete _ => none

/-- The database, what happened to its carousels, newest first, and the last stamp. -/
structure GalleryLog where
  db : Db
  history : List CarouselWork := []
  clock : Time

inductive LogAction (settings : Settings) where
  | request (call : CarouselCall settings)
  /-- A city or source call. -/
  | onboard (call : OnboardingCall)
  /-- What polling and classification write. -/
  | ingest (sources : List Source) (articles : List Article)

def logStep {settings : Settings} (P : Platform) (log : GalleryLog) :
    LogAction settings → Option GalleryLog
  | .request call =>
      match call.run P log.db with
      | .ok db => some
          { db := db, history := call.deed log.db :: log.history
            clock := call.time.getD log.clock }
      | .error _ => some log
  | .onboard call => (onboardingStep P settings log.db call).map fun db => { log with db := db }
  | .ingest sources articles =>
      some { log with db := { log.db with sources := sources, articles := articles } }

/-- The stamp of a request is later than those before it, as the browser reads
them. -/
def LaterThan {settings : Settings} (log : GalleryLog) : LogAction settings → Prop
  | .request call => ∀ now ∈ call.time, dateParse log.clock < dateParse now
  | _ => True

instance {settings : Settings} (log : GalleryLog) (action : LogAction settings) :
    Decidable (LaterThan log action) := by
  unfold LaterThan
  cases action <;> infer_instance

/-! ## §2. What a call does to the carousels. -/

section Calls

variable {P : Platform} {settings : Settings} {db db' : Db}

/-- A carousel after a call, and what was done to it. -/
inductive WorkFrom (db : Db) (work : CarouselWork) (now : Option Time) (carousel' : Carousel) : Prop
  | other (mem : carousel' ∈ db.carousels) (ne : carousel'.id ≠ work.id)
  | created (city : City) (time : Time) (work : work = .worked db.nextCarousel)
      (now : now = some time) (there : db.getCity city.id = some city)
      (row : carousel' = { newCarousel db city time with lastEditedAt := some time })
  | edited (carousel : Carousel) (time : Time) (mem : carousel ∈ db.carousels)
      (work : work = .worked carousel.id) (now : now = some time)
      (row : carousel' = { carousel with lastEditedAt := some time })
  | downloaded (carousel : Carousel) (time : Time) (mem : carousel ∈ db.carousels)
      (work : work = .downloaded carousel.id) (now : now = some time)
      (row : carousel' = { carousel with lastDownloadedAt := some time })

/-- The ids after a call. -/
def idsAfter (db : Db) (work : CarouselWork) : List Nat :=
  match work with
  | .worked id =>
      if id = db.nextCarousel then db.carousels.map (·.id) ++ [id] else db.carousels.map (·.id)
  | .downloaded _ => db.carousels.map (·.id)
  | .deleted id => (db.carousels.map (·.id)).filter (· ≠ id)

theorem stampEdited_ids (db : Db) (carouselId : Nat) (now : Time) :
    (db.stampEdited carouselId now).carousels.map (·.id) = db.carousels.map (·.id) := by
  show (db.carousels.map _).map _ = _
  rw [List.map_map]
  refine List.map_congr_left ?_
  intro carousel _
  by_cases hid : carousel.id = carouselId <;> simp [hid]

/-- An edit of a deck that is there. -/
theorem stampEdited_work {carouselId : Nat} {now : Time} {carousel' : Carousel}
    (h : carousel' ∈ (db.stampEdited carouselId now).carousels) :
    WorkFrom db (.worked carouselId) (some now) carousel' := by
  obtain ⟨old, hold, rfl⟩ := List.mem_map.mp h
  by_cases hid : old.id = carouselId
  · rw [if_pos hid]
    exact .edited old now hold (by rw [hid]) rfl rfl
  · rw [if_neg hid]
    exact .other hold hid

/-- The ids after an edit. -/
theorem idsAfter_worked (hkeys : CarouselKeys db) {carouselId : Nat} {carousel : Carousel}
    (hc : db.getCarousel carouselId = some carousel) :
    idsAfter db (.worked carouselId) = db.carousels.map (·.id) := by
  obtain ⟨hmem, rfl⟩ := getCarousel_id hc
  exact if_neg (Nat.ne_of_lt (hkeys.fresh carousel hmem))

/-- The city of a new carousel is there. -/
theorem resolved_city {storyIds : List Str} {resolved : Resolved} {city : City}
    (hresolved : resolveSelection P settings db storyIds = .ok resolved)
    (hcity : resolved.city = some city) : db.getCity city.id = some city := by
  obtain ⟨-, -, rfl⟩ := resolveSelection_ok.mp hresolved
  have hsingle : singleCity (matchingRows db (dedupe storyIds)) = some city := hcity
  unfold singleCity at hsingle
  split at hsingle
  · cases hsingle
  · next first rows hrows =>
      split at hsingle
      · obtain rfl := Option.some.inj hsingle
        -- the city is the one joined to the first row found
        have hfirst : first ∈ matchingRows db (dedupe storyIds) := by
          rw [hrows]
          exact List.mem_cons_self
        obtain ⟨storyId, -, hrow⟩ := mem_matchingRows.mp hfirst
        exact storyRow_getCity hrow
      · cases hsingle

/-- **Where the carousels after a call come from, and what was done to them.** -/
theorem CarouselCall.run_work {call : CarouselCall settings} (hkeys : CarouselKeys db)
    (hrun : call.run P db = .ok db') :
    (call.deed db = .worked db.nextCarousel ∨ (call.deed db).id ∈ db.carousels.map (·.id)) ∧
      db'.carousels.map (·.id) = idsAfter db (call.deed db) ∧ db'.cities = db.cities ∧
      ∀ carousel' ∈ db'.carousels, WorkFrom db (call.deed db) call.time carousel' := by
  have hthere {carouselId : Nat} {carousel : Carousel}
      (hc : db.getCarousel carouselId = some carousel) :
      carouselId ∈ db.carousels.map (·.id) := by
    obtain ⟨hmem, rfl⟩ := getCarousel_id hc
    exact List.mem_map_of_mem hmem
  cases call with
  | create data now =>
      obtain ⟨⟨_, r⟩, hcreate, rfl⟩ := except_map_ok.mp hrun
      obtain ⟨resolved, city, slides, hresolved, hcity, -, rfl⟩ := createCarousel_ok hcreate
      refine ⟨Or.inl rfl, ?_, rfl, ?_⟩
      · refine (stampEdited_ids _ _ now).trans ?_
        show (db.carousels ++ [newCarousel db city now]).map (·.id) = _
        rw [List.map_append]
        exact (if_pos rfl).symm
      · intro carousel' hmem
        -- the new deck is stamped too
        obtain ⟨carousel, hinserted, rfl⟩ := List.mem_map.mp hmem
        show WorkFrom db _ _ (if carousel.id = db.nextCarousel then _ else carousel)
        rcases List.mem_append.mp hinserted with hold | hnew
        · have hne : carousel.id ≠ db.nextCarousel := Nat.ne_of_lt (hkeys.fresh carousel hold)
          rw [if_neg hne]
          exact .other hold hne
        · have hid : (newCarousel db city now).id = db.nextCarousel := rfl
          rw [List.mem_singleton.mp hnew, if_pos hid]
          exact .created city now rfl rfl (resolved_city hresolved hcity) rfl
  | addStories carouselId data now =>
      obtain ⟨⟨_, r⟩, hadd, rfl⟩ := except_map_ok.mp hrun
      obtain ⟨carousel, edit, hc, -, rfl⟩ := addStories_ok hadd
      refine ⟨Or.inr (hthere hc), ?_, rfl, ?_⟩
      · exact (stampEdited_ids _ _ now).trans (idsAfter_worked hkeys hc).symm
      · intro carousel' hmem
        show WorkFrom db (.worked carouselId) (some now) carousel'
        rw [← (getCarousel_id hc).2]
        exact stampEdited_work hmem
  | save carouselId data now =>
      obtain ⟨⟨_, r⟩, hsave, rfl⟩ := except_map_ok.mp hrun
      obtain ⟨carousel, hc, -, rfl⟩ := saveCarousel_ok hsave
      refine ⟨Or.inr (hthere hc), ?_, rfl, ?_⟩
      · exact (stampEdited_ids _ _ now).trans (idsAfter_worked hkeys hc).symm
      · intro carousel' hmem
        show WorkFrom db (.worked carouselId) (some now) carousel'
        rw [← (getCarousel_id hc).2]
        exact stampEdited_work hmem
  | zip carouselId data now =>
      obtain ⟨⟨_, members⟩, hzip, rfl⟩ := except_map_ok.mp hrun
      obtain ⟨carousel, -, hc, rfl⟩ := zipSlides_ok hzip
      obtain ⟨hold, rfl⟩ := getCarousel_id hc
      refine ⟨Or.inr (hthere hc), setRow_keys _ _ _, rfl, ?_⟩
      intro carousel' hmem
      rcases (mem_setRow Carousel.id).mp hmem with ⟨rfl, -⟩ | ⟨hother, hne⟩
      · exact .downloaded carousel now hold rfl rfl rfl
      · exact .other hother hne
  | delete carouselId =>
      obtain ⟨carousel, hc, rfl⟩ := deleteCarousel_ok hrun
      obtain ⟨hold, rfl⟩ := getCarousel_id hc
      refine ⟨Or.inr (hthere hc), ?_, rfl, ?_⟩
      · show (db.carousels.filter fun c => c.id ≠ carousel.id).map (·.id)
          = (db.carousels.map (·.id)).filter (· ≠ carousel.id)
        rw [List.filter_map]
        rfl
      · intro carousel' hmem
        obtain ⟨hthere, hne⟩ := List.mem_filter.mp hmem
        exact .other hthere (of_decide_eq_true hne)

end Calls

/-! ## §3. The stamps are the history. -/

/-- The stamp the listing sorts a carousel by. -/
def workedAt (db : Db) (id : Nat) : Time := ((db.getCarousel id).map Carousel.workedOn).getD 0

/-- `staleNote` of a carousel. -/
def Carousel.stale (carousel : Carousel) : Bool :=
  match carousel.lastDownloadedAt, carousel.lastEditedAt with
  | some downloaded, some edited => dateParse downloaded < dateParse edited
  | _, _ => false

/-- What the tables keep of the history. -/
structure GalleryLog.Inv (log : GalleryLog) : Prop where
  keys : CarouselKeys log.db
  recent : Recency (workedAt log.db) (recentlyWorked log.history)
  perm : (recentlyWorked log.history).Perm (log.db.carousels.map (·.id))
  worked : ∀ carousel ∈ log.db.carousels, carousel.workedOn ≤ log.clock
  edited : ∀ carousel ∈ log.db.carousels, ∀ time ∈ carousel.lastEditedAt, time ≤ log.clock
  zipped : ∀ carousel ∈ log.db.carousels, ∀ time ∈ carousel.lastDownloadedAt, time ≤ log.clock
  stale : ∀ carousel ∈ log.db.carousels, carousel.stale = editedSince carousel.id log.history
  downloaded : ∀ carousel ∈ log.db.carousels,
    carousel.lastDownloadedAt.isSome = wasDownloaded carousel.id log.history
  /-- No id of the history is handed out again. -/
  spent : ∀ work ∈ log.history, work.id < log.db.nextCarousel
  cities : ∀ carousel ∈ log.db.carousels, (log.db.getCity carousel.cityId).isSome

section Stamps

variable {P : Platform} {settings : Settings} {log log' : GalleryLog} {db db' : Db}
  {call : CarouselCall settings}

theorem workedAt_of_mem (hkeys : CarouselKeys db) {carousel : Carousel}
    (hmem : carousel ∈ db.carousels) : workedAt db carousel.id = carousel.workedOn := by
  unfold workedAt
  rw [hkeys.get hmem]
  rfl

/-- A carousel that a call did not work on keeps its stamp. -/
theorem workedAt_other (hkeys : CarouselKeys db) (hkeys' : CarouselKeys db') {work : CarouselWork}
    {now : Option Time} (hfrom : ∀ carousel' ∈ db'.carousels, WorkFrom db work now carousel')
    {id : Nat} (hid : id ∈ db'.carousels.map (·.id)) (hne : work ≠ .worked id) :
    workedAt db' id = workedAt db id := by
  obtain ⟨carousel', hmem', rfl⟩ := List.mem_map.mp hid
  rw [workedAt_of_mem hkeys' hmem']
  -- `last_downloaded_at` is no part of `workedOn`
  cases hfrom carousel' hmem' with
  | other hmem _ => exact (workedAt_of_mem hkeys hmem).symm
  | created city time hwork _ _ hrow =>
      rw [hrow] at hne
      exact absurd hwork hne
  | edited carousel time hmem hwork _ hrow =>
      rw [hrow] at hne
      exact absurd hwork hne
  | downloaded carousel time hmem hwork _ hrow =>
      rw [hrow]
      exact (workedAt_of_mem hkeys hmem).symm

/-- The carousel that was worked on has the stamp of the call. -/
theorem workedAt_self (hkeys' : CarouselKeys db') {id : Nat} {time : Time}
    (hfrom : ∀ carousel' ∈ db'.carousels, WorkFrom db (.worked id) (some time) carousel')
    (hid : id ∈ db'.carousels.map (·.id)) : workedAt db' id = time := by
  obtain ⟨carousel', hmem', rfl⟩ := List.mem_map.mp hid
  rw [workedAt_of_mem hkeys' hmem']
  -- only the two kinds of work that set the time can be this one
  cases hfrom carousel' hmem' with
  | other _ hne => exact absurd rfl hne
  | created city now _ hnow _ hrow =>
      rw [hrow, Option.some.inj hnow]
      rfl
  | edited carousel now _ _ hnow hrow =>
      rw [hrow, Option.some.inj hnow]
      rfl
  | downloaded carousel now _ hwork _ _ => cases hwork

theorem lt_of_dateParse {a b : Time} (h : dateParse a < dateParse b) : a < b := by
  by_contra hle
  exact absurd (dateParse_mono (not_lt.mp hle)) (not_le.mpr h)

/-- The carousels of the history are those of the table. -/
theorem recentlyWorked_perm {history : List CarouselWork} {work : CarouselWork}
    (hkeys : CarouselKeys db)
    (hperm : (recentlyWorked history).Perm (db.carousels.map (·.id)))
    (hthere : work = .worked db.nextCarousel ∨ work.id ∈ db.carousels.map (·.id)) :
    (recentlyWorked (work :: history)).Perm (idsAfter db work) := by
  have hfresh : db.nextCarousel ∉ db.carousels.map (·.id) := by
    intro hmem
    obtain ⟨carousel, hc, hid⟩ := List.mem_map.mp hmem
    exact Nat.ne_of_lt (hkeys.fresh carousel hc) hid
  cases work with
  | worked id =>
      -- an insert is worked on too, under the number the sequence gives
      by_cases hid : id = db.nextCarousel
      · subst hid
        have hnot : db.nextCarousel ∉ recentlyWorked history := fun hmem =>
          hfresh (hperm.mem_iff.mp hmem)
        show (db.nextCarousel :: (recentlyWorked history).erase db.nextCarousel).Perm
          (if db.nextCarousel = db.nextCarousel then _ else _)
        rw [if_pos rfl, List.erase_of_not_mem hnot]
        exact (hperm.cons _).trans (List.perm_append_singleton _ _).symm
      · have hin : id ∈ db.carousels.map (·.id) := by
          rcases hthere with hnew | hin
          · cases hnew
            exact absurd rfl hid
          · exact hin
        show (id :: (recentlyWorked history).erase id).Perm (if id = db.nextCarousel then _ else _)
        rw [if_neg hid]
        exact (List.perm_cons_erase (hperm.mem_iff.mpr hin)).symm.trans hperm
  | downloaded id => exact hperm
  | deleted id =>
      show ((recentlyWorked history).erase id).Perm ((db.carousels.map (·.id)).filter (· ≠ id))
      rw [(hperm.nodup_iff.mpr hkeys.nodup).erase_eq_filter]
      -- the table filters by `≠`, `erase` of a list without repeats by `!=`
      have hsame : (fun k : Nat => k != id) = fun k => decide (k ≠ id) := by
        funext k
        by_cases hk : k = id <;> simp [hk]
      rw [hsame]
      exact hperm.filter _

/-- What happens to one carousel is not told of another. -/
theorem wasDownloaded_other {id : Nat} {work : CarouselWork} (h : id ≠ work.id)
    (history : List CarouselWork) :
    wasDownloaded id (work :: history) = wasDownloaded id history := by
  have hne : CarouselWork.downloaded id ≠ work := by
    intro heq
    rw [← heq] at h
    exact h rfl
  simp [wasDownloaded, hne]

theorem editedSince_other {id : Nat} {work : CarouselWork} (h : id ≠ work.id)
    (history : List CarouselWork) :
    editedSince id (work :: history) = editedSince id history := by
  have hne : work.id ≠ id := Ne.symm h
  cases work with
  | worked id' => exact if_neg hne
  | downloaded id' => exact if_neg hne
  | deleted id' => rfl

/-- The order of the carousels follows what is done to them. -/
theorem recency_step {history : List CarouselWork} {work : CarouselWork} {now : Option Time}
    {clock : Time} (hkeys : CarouselKeys db) (hkeys' : CarouselKeys db')
    (hrecent : Recency (workedAt db) (recentlyWorked history))
    (hperm : (recentlyWorked history).Perm (db.carousels.map (·.id)))
    (hperm' : (recentlyWorked (work :: history)).Perm (db'.carousels.map (·.id)))
    (hpast : ∀ carousel ∈ db.carousels, carousel.workedOn ≤ clock)
    (hlater : ∀ time ∈ now, clock < time)
    (hstamped : ∀ id, work = .worked id → ∃ time, now = some time)
    (hfrom : ∀ carousel' ∈ db'.carousels, WorkFrom db work now carousel') :
    Recency (workedAt db') (recentlyWorked (work :: history)) := by
  cases work with
  | worked id =>
      obtain ⟨time, rfl⟩ := hstamped id rfl
      have hself : workedAt db' id = time :=
        workedAt_self hkeys' hfrom (hperm'.mem_iff.mp List.mem_cons_self)
      refine hrecent.touch hself ?_ ?_
      -- every other stamp is from before this one
      · intro k hk
        obtain ⟨carousel, hmem, rfl⟩ := List.mem_map.mp (hperm.mem_iff.mp hk)
        rw [workedAt_of_mem hkeys hmem]
        exact lt_of_le_of_lt (hpast carousel hmem) (hlater time rfl)
      · intro k hk hne
        have hin : k ∈ recentlyWorked (.worked id :: history) :=
          List.mem_cons_of_mem _ ((List.mem_erase_of_ne hne).mpr hk)
        refine workedAt_other hkeys hkeys' hfrom (hperm'.mem_iff.mp hin) ?_
        intro heq
        exact hne (CarouselWork.worked.inj heq).symm
  | downloaded id =>
      refine hrecent.congr ?_
      intro k hk
      refine workedAt_other hkeys hkeys' hfrom (hperm'.mem_iff.mp hk) ?_
      intro heq
      cases heq
  | deleted id =>
      refine hrecent.drop ?_
      intro k hk hne
      have hin : k ∈ recentlyWorked (.deleted id :: history) := (List.mem_erase_of_ne hne).mpr hk
      refine workedAt_other hkeys hkeys' hfrom (hperm'.mem_iff.mp hin) ?_
      intro heq
      cases heq

/-- What a call leaves a carousel as, told by its history. -/
theorem stale_step (hinv : log.Inv) {work : CarouselWork} {now : Option Time}
    (hlater : ∀ time ∈ now, dateParse log.clock < dateParse time) {carousel' : Carousel}
    (hfrom : WorkFrom log.db work now carousel') :
    carousel'.stale = editedSince carousel'.id (work :: log.history) ∧
      carousel'.lastDownloadedAt.isSome = wasDownloaded carousel'.id (work :: log.history) := by
  cases hfrom with
  | other hmem hne =>
      rw [editedSince_other hne, wasDownloaded_other hne]
      exact ⟨hinv.stale carousel' hmem, hinv.downloaded carousel' hmem⟩
  | created city time hwork _ _ hrow =>
      -- nothing was ever done to the new id
      have hnever : wasDownloaded log.db.nextCarousel log.history = false := by
        unfold wasDownloaded
        rw [decide_eq_false_iff_not]
        intro hmem
        exact Nat.lt_irrefl _ (hinv.spent _ hmem)
      have hself : editedSince log.db.nextCarousel (.worked log.db.nextCarousel :: log.history)
          = wasDownloaded log.db.nextCarousel log.history := if_pos rfl
      have hkept : wasDownloaded log.db.nextCarousel (.worked log.db.nextCarousel :: log.history)
          = wasDownloaded log.db.nextCarousel log.history := by simp [wasDownloaded]
      rw [hrow, hwork]
      show false = editedSince log.db.nextCarousel _ ∧ false = wasDownloaded log.db.nextCarousel _
      rw [hself, hkept, hnever]
      exact ⟨rfl, rfl⟩
  | edited carousel time hmem hwork hnow hrow =>
      have hself : editedSince carousel.id (.worked carousel.id :: log.history)
          = wasDownloaded carousel.id log.history := if_pos rfl
      have hkept : wasDownloaded carousel.id (.worked carousel.id :: log.history)
          = wasDownloaded carousel.id log.history := by simp [wasDownloaded]
      have hdownloaded := hinv.downloaded carousel hmem
      rw [hrow, hwork]
      show Carousel.stale { carousel with lastEditedAt := some time }
          = editedSince carousel.id _ ∧ carousel.lastDownloadedAt.isSome
          = wasDownloaded carousel.id _
      rw [hself, hkept]
      refine ⟨?_, hdownloaded⟩
      rw [← hdownloaded]
      unfold Carousel.stale
      cases hzip : carousel.lastDownloadedAt with
      | none => rfl
      | some downloaded =>
          have hpast := dateParse_mono (hinv.zipped carousel hmem downloaded (by rw [hzip]; rfl))
          exact decide_eq_true (lt_of_le_of_lt hpast (hlater time (by rw [hnow]; rfl)))
  | downloaded carousel time hmem hwork hnow hrow =>
      have hself : editedSince carousel.id (.downloaded carousel.id :: log.history) = false :=
        if_pos rfl
      rw [hrow, hwork]
      show Carousel.stale { carousel with lastDownloadedAt := some time }
          = editedSince carousel.id _ ∧ true = wasDownloaded carousel.id _
      rw [hself]
      refine ⟨?_, by simp [wasDownloaded]⟩
      unfold Carousel.stale
      cases hedit : carousel.lastEditedAt with
      | none => rfl
      | some edited =>
          have hpast := dateParse_mono (hinv.edited carousel hmem edited (by rw [hedit]; rfl))
          have hnow := hlater time (by rw [hnow]; rfl)
          exact decide_eq_false (not_lt.mpr (le_of_lt (lt_of_le_of_lt hpast hnow)))

/-- No id is handed out that was told of. -/
theorem spent_step (hinv : log.Inv) (hkeys' : CarouselKeys db')
    (hnext : log.db.nextCarousel ≤ db'.nextCarousel) {work : CarouselWork}
    (hthere : work = .worked log.db.nextCarousel ∨ work.id ∈ log.db.carousels.map (·.id))
    (hids : db'.carousels.map (·.id) = idsAfter log.db work) :
    ∀ w ∈ work :: log.history, w.id < db'.nextCarousel := by
  intro w hw
  rcases List.mem_cons.mp hw with rfl | hold
  · rcases hthere with rfl | hin
    · -- the new one is in the table
      have hnew : log.db.nextCarousel ∈ db'.carousels.map (·.id) := by
        have hgrown : idsAfter log.db (.worked log.db.nextCarousel)
            = log.db.carousels.map (·.id) ++ [log.db.nextCarousel] := if_pos rfl
        rw [hids, hgrown]
        exact List.mem_append_right _ (List.mem_singleton.mpr rfl)
      obtain ⟨carousel, hmem, hid⟩ := List.mem_map.mp hnew
      exact hid ▸ hkeys'.fresh carousel hmem
    -- a deleted one keeps its number: the sequence never goes back
    · obtain ⟨carousel, hmem, hid⟩ := List.mem_map.mp hin
      exact Nat.lt_of_lt_of_le (hid ▸ hinv.keys.fresh carousel hmem) hnext
  · exact Nat.lt_of_lt_of_le (hinv.spent w hold) hnext

/-- **Every accepted request keeps the stamps true to the history.** -/
theorem request_inv (hinv : log.Inv) (hrun : call.run P log.db = .ok db')
    (hlater : ∀ now ∈ call.time, dateParse log.clock < dateParse now) :
    GalleryLog.Inv { db := db', history := call.deed log.db :: log.history
                     clock := call.time.getD log.clock } := by
  obtain ⟨hthere, hids, hcities, hfrom⟩ := CarouselCall.run_work hinv.keys hrun
  obtain ⟨hnext, -⟩ := CarouselCall.run_carousels hrun
  have hkeys' := CarouselCall.run_keys hinv.keys hrun
  have hclock : log.clock ≤ call.time.getD log.clock := by
    cases htime : call.time with
    | none => exact le_refl _
    | some now => exact le_of_lt (lt_of_dateParse (hlater now htime))
  have hstamp {time : Time} (h : call.time = some time) :
      (call.time.getD log.clock : Time) = time := by
    rw [h]
    rfl
  have hperm' : (recentlyWorked (call.deed log.db :: log.history)).Perm
      (db'.carousels.map (·.id)) := by
    rw [hids]
    exact recentlyWorked_perm hinv.keys hinv.perm hthere
  refine ⟨hkeys', ?_, hperm', ?_, ?_, ?_, ?_, ?_, ?_, ?_⟩
  · refine recency_step hinv.keys hkeys' hinv.recent hinv.perm hperm' hinv.worked ?_ ?_ hfrom
    · intro time htime
      exact lt_of_dateParse (hlater time htime)
    -- a create, an add and a save all come with their time
    · intro id hwork
      cases call with
      | create data now => exact ⟨now, rfl⟩
      | addStories carouselId data now => exact ⟨now, rfl⟩
      | save carouselId data now => exact ⟨now, rfl⟩
      | zip carouselId data now => cases hwork
      | delete carouselId => cases hwork
  · intro carousel' hmem'
    cases hfrom carousel' hmem' with
    | other hmem _ => exact le_trans (hinv.worked carousel' hmem) hclock
    | created city time _ hnow _ hrow => exact hrow ▸ le_of_eq (hstamp hnow).symm
    | edited carousel time _ _ hnow hrow => exact hrow ▸ le_of_eq (hstamp hnow).symm
    | downloaded carousel time hmem _ _ hrow =>
        exact hrow ▸ le_trans (hinv.worked carousel hmem) hclock
  -- only what is written now has the new stamp; the others are older than the clock
  · intro carousel' hmem' stamp hedit
    cases hfrom carousel' hmem' with
    | other hmem _ => exact le_trans (hinv.edited carousel' hmem stamp hedit) hclock
    | created city time _ hnow _ hrow =>
        subst hrow
        cases hedit
        exact le_of_eq (hstamp hnow).symm
    | edited carousel time _ _ hnow hrow =>
        subst hrow
        cases hedit
        exact le_of_eq (hstamp hnow).symm
    | downloaded carousel time hmem _ _ hrow =>
        subst hrow
        exact le_trans (hinv.edited carousel hmem stamp hedit) hclock
  · intro carousel' hmem' stamp hzip
    cases hfrom carousel' hmem' with
    | other hmem _ => exact le_trans (hinv.zipped carousel' hmem stamp hzip) hclock
    | created city time _ _ _ hrow =>
        subst hrow
        cases hzip
    | edited carousel time hmem _ _ hrow =>
        subst hrow
        exact le_trans (hinv.zipped carousel hmem stamp hzip) hclock
    | downloaded carousel time _ _ hnow hrow =>
        subst hrow
        cases hzip
        exact le_of_eq (hstamp hnow).symm
  · intro carousel' hmem'
    exact (stale_step hinv hlater (hfrom carousel' hmem')).1
  · intro carousel' hmem'
    exact (stale_step hinv hlater (hfrom carousel' hmem')).2
  · exact spent_step hinv hkeys' hnext hthere hids
  · intro carousel' hmem'
    -- no carousel call touches a city
    have hget (id : Nat) : db'.getCity id = log.db.getCity id := by
      unfold Db.getCity
      rw [hcities]
    rw [hget]
    cases hfrom carousel' hmem' with
    | other hmem _ => exact hinv.cities carousel' hmem
    | created city time _ _ hcity hrow => exact hrow ▸ Option.isSome_iff_exists.mpr ⟨city, hcity⟩
    | edited carousel time hmem _ _ hrow => exact hrow ▸ hinv.cities carousel hmem
    | downloaded carousel time hmem _ _ hrow => exact hrow ▸ hinv.cities carousel hmem

/-- What happens elsewhere leaves the carousels as they are. -/
theorem GalleryLog.Inv.elsewhere (hinv : log.Inv) (hcarousels : db'.carousels = log.db.carousels)
    (hslides : db'.slides = log.db.slides) (hnext : db'.nextCarousel = log.db.nextCarousel)
    (hcities : ∀ id, (log.db.getCity id).isSome → (db'.getCity id).isSome) :
    GalleryLog.Inv { log with db := db' } := by
  -- a recent time is read off the carousels alone
  have hworked (id : Nat) : workedAt db' id = workedAt log.db id := by
    unfold workedAt Db.getCarousel
    rw [hcarousels]
  refine ⟨⟨?_, ?_, ?_⟩, hinv.recent.congr fun id _ => hworked id, ?_, ?_, ?_, ?_, ?_, ?_, ?_, ?_⟩
  · exact hcarousels ▸ hinv.keys.nodup
  · intro carousel hmem
    exact hnext ▸ hinv.keys.fresh carousel (hcarousels ▸ hmem)
  · intro row hrow
    exact hnext ▸ hinv.keys.owned row (hslides ▸ hrow)
  · exact hcarousels ▸ hinv.perm
  · exact hcarousels ▸ hinv.worked
  · exact hcarousels ▸ hinv.edited
  · exact hcarousels ▸ hinv.zipped
  · exact hcarousels ▸ hinv.stale
  · exact hcarousels ▸ hinv.downloaded
  · exact hnext ▸ hinv.spent
  · intro carousel hmem
    exact hcities _ (hinv.cities carousel (hcarousels ▸ hmem))

/-- A city row that is written over is still there. -/
theorem getCity_set (city : City) (hcities : db'.cities = setRow City.id city db.cities)
    (hc : (db.getCity city.id).isSome) (id : Nat) (h : (db.getCity id).isSome) :
    (db'.getCity id).isSome := by
  unfold Db.getCity at *
  rw [hcities]
  by_cases hid : city.id = id
  · obtain ⟨stored, hstored⟩ := Option.isSome_iff_exists.mp hc
    rw [← hid, getRow_setRow_self City.id hstored]
    rfl
  · rwa [getRow_setRow_of_ne City.id hid]

/-- **No city or source call touches a carousel**, and no city goes. -/
theorem OnboardingCall.run_carousels {call : OnboardingCall}
    (hrun : call.run P settings db = .ok db') :
    db'.carousels = db.carousels ∧ db'.slides = db.slides ∧ db'.nextCarousel = db.nextCarousel ∧
      ∀ id, (db.getCity id).isSome → (db'.getCity id).isSome := by
  -- cities are archived and not deleted
  have hput {city : City} {cityId : Nat} (hc : db.getCity cityId = some city) :
      (db.getCity city.id).isSome := by
    rw [(getRow_some _ hc).2, hc]
    rfl
  cases call with
  | createCity data =>
      obtain ⟨-, -, rfl⟩ := createCity_ok hrun
      refine ⟨rfl, rfl, rfl, ?_⟩
      intro id hid
      obtain ⟨city, hc⟩ := Option.isSome_iff_exists.mp hid
      unfold Db.getCity getRow at *
      rw [List.find?_append, hc]
      rfl
  | addSource cityId data =>
      obtain ⟨_, -, -, -, rfl⟩ := addSource_ok hrun
      exact ⟨rfl, rfl, rfl, fun id hid => hid⟩
  | updateSource sourceId data =>
      obtain ⟨_, _, -, -, rfl⟩ := updateSource_ok hrun
      exact ⟨rfl, rfl, rfl, fun id hid => hid⟩
  | archiveSource sourceId now =>
      obtain ⟨_, -, rfl⟩ := archiveSource_ok hrun
      exact ⟨rfl, rfl, rfl, fun id hid => hid⟩
  | archiveCity cityId now =>
      obtain ⟨city, hc, -, rfl⟩ := archiveCity_ok hrun
      have hthere := hput hc
      exact ⟨rfl, rfl, rfl, fun id hid =>
        getCity_set { city with archivedAt := some now } rfl hthere id hid⟩
  | unarchiveCity cityId =>
      obtain ⟨city, hc, -, rfl⟩ := unarchiveCity_ok hrun
      have hthere := hput hc
      exact ⟨rfl, rfl, rfl, fun id hid =>
        getCity_set { city with archivedAt := none } rfl hthere id hid⟩
  | updateCity cityId data =>
      obtain ⟨city, city', hc, happly, rfl⟩ := updateCity_ok hrun
      refine ⟨rfl, rfl, rfl, fun id hid => getCity_set city' rfl ?_ id hid⟩
      rw [(CityUpdate.apply_ok happly).1]
      exact hput hc

/-- **Every step keeps the stamps true to the history.** -/
theorem logStep_inv {action : LogAction settings} (hinv : log.Inv) (hlater : LaterThan log action)
    (hstep : logStep P log action = some log') : log'.Inv := by
  cases action with
  | request call =>
      simp only [logStep] at hstep
      split at hstep
      · next db hrun =>
          obtain rfl := Option.some.inj hstep
          exact request_inv hinv hrun hlater
      -- a refused request rolls back
      · obtain rfl := Option.some.inj hstep
        exact hinv
  | onboard call =>
      obtain ⟨db, hdb, rfl⟩ := Option.map_eq_some_iff.mp hstep
      refine onboardingStep_keeps (I := fun db => GalleryLog.Inv { log with db := db }) hdb hinv ?_
      intro hrun
      obtain ⟨hcarousels, hslides, hnext, hcities⟩ := OnboardingCall.run_carousels hrun
      exact hinv.elsewhere hcarousels hslides hnext hcities
  | ingest sources articles =>
      obtain rfl := Option.some.inj hstep
      exact hinv.elsewhere rfl rfl rfl fun id hid => hid

end Stamps

/-! ## §4. The listing. -/

/-- What the listing says of a log. -/
structure ListsWork (P : Platform) (settings : Settings) (log : GalleryLog) : Prop where
  /-- Every carousel that is there, once, the last one worked on first. -/
  order : (listCarousels log.db).map (·.id) = recentlyWorked log.history
  whole : ((listCarousels log.db).map (·.id)).Perm (log.db.carousels.map (·.id))
  /-- A row is that of its carousel, with the city as it is called now and as many
  slides as opening it shows. -/
  row : ∀ row ∈ listCarousels log.db, ∃ carousel city,
    log.db.getCarousel row.id = some carousel ∧ log.db.getCity carousel.cityId = some city ∧
      row = carousel.summary log.db city ∧
      row.slideCount = (loadDeck P settings log.db row.id).length
  /-- The note says that it was edited since its last archive, and the state that
  there is one. -/
  note : ∀ row ∈ listCarousels log.db, staleNote row = editedSince row.id log.history
  state : ∀ row ∈ listCarousels log.db,
    row.state = if wasDownloaded row.id log.history then "downloaded".toList else "draft".toList

instance : Std.Total listedBefore where
  total a b := by
    unfold listedBefore
    rcases lt_trichotomy a.1.workedOn b.1.workedOn with hlt | heq | hgt
    · exact Or.inr (Or.inl hlt)
    · rcases Nat.le_total a.1.id b.1.id with hle | hle
      · exact Or.inr (Or.inr ⟨heq, hle⟩)
      · exact Or.inl (Or.inr ⟨heq.symm, hle⟩)
    · exact Or.inl (Or.inl hgt)

instance : IsTrans (Carousel × City) listedBefore where
  trans a b c := by
    unfold listedBefore
    intro hab hbc
    rcases hab with hab | ⟨hab, hid⟩
    · rcases hbc with hbc | ⟨hbc, -⟩
      · exact Or.inl (lt_trans hbc hab)
      · exact Or.inl (hbc ▸ hab)
    · rcases hbc with hbc | ⟨hbc, hid'⟩
      · exact Or.inl (hab ▸ hbc)
      · exact Or.inr ⟨hbc.trans hab, Nat.le_trans hid' hid⟩

section Listing

variable {P : Platform} {settings : Settings} {log : GalleryLog} {db : Db}

theorem mem_joinCities {carousel : Carousel} {city : City} :
    (carousel, city) ∈ joinCities db ↔
      carousel ∈ db.carousels ∧ db.getCity carousel.cityId = some city := by
  unfold joinCities
  rw [List.mem_filterMap]
  -- a carousel whose city is gone is not joined
  constructor
  · intro h
    obtain ⟨carousel', hmem, hrow⟩ := h
    obtain ⟨city', hc, hpair⟩ := Option.map_eq_some_iff.mp hrow
    cases hpair
    exact ⟨hmem, hc⟩
  · intro h
    exact ⟨carousel, h.1, by rw [h.2]; rfl⟩

/-- No carousel drops out of the join. -/
theorem joinCities_carousels (h : ∀ carousel ∈ db.carousels, (db.getCity carousel.cityId).isSome) :
    (joinCities db).map (·.1) = db.carousels := by
  unfold joinCities
  generalize db.carousels = carousels at h ⊢
  induction carousels with
  | nil => rfl
  | cons carousel carousels ih =>
      obtain ⟨city, hc⟩ := Option.isSome_iff_exists.mp (h carousel List.mem_cons_self)
      rw [List.filterMap_cons_some (by rw [hc]; rfl), List.map_cons,
        ih fun c hmem => h c (List.mem_cons_of_mem _ hmem)]

theorem mem_listCarousels {row : CarouselSummary} :
    row ∈ listCarousels db ↔ ∃ carousel city, carousel ∈ db.carousels ∧
      db.getCity carousel.cityId = some city ∧ row = carousel.summary db city := by
  unfold listCarousels
  rw [List.mem_map]
  -- the list is the join, sorted
  constructor
  · intro h
    obtain ⟨⟨carousel, city⟩, hmem, rfl⟩ := h
    obtain ⟨hc, hcity⟩ := mem_joinCities.mp ((List.mem_insertionSort listedBefore).mp hmem)
    exact ⟨carousel, city, hc, hcity, rfl⟩
  · intro h
    obtain ⟨carousel, city, hc, hcity, rfl⟩ := h
    exact ⟨(carousel, city), (List.mem_insertionSort listedBefore).mpr
      (mem_joinCities.mpr ⟨hc, hcity⟩), rfl⟩

theorem listCarousels_perm
    (h : ∀ carousel ∈ db.carousels, (db.getCity carousel.cityId).isSome) :
    ((listCarousels db).map (·.id)).Perm (db.carousels.map (·.id)) := by
  have hsorted := (List.perm_insertionSort listedBefore (joinCities db)).map fun row => row.1.id
  have hids : (joinCities db).map (fun row => row.1.id) = db.carousels.map (·.id) := by
    rw [← joinCities_carousels h, List.map_map]
    rfl
  unfold listCarousels
  rw [List.map_map]
  exact hids ▸ hsorted

/-- **The listing of a log whose stamps are true to it.** -/
theorem GalleryLog.Inv.lists (hinv : log.Inv) : ListsWork P settings log where
  order := by
    refine hinv.recent.eq_of_perm
      ((listCarousels_perm hinv.cities).trans hinv.perm.symm) ?_
    unfold listCarousels
    rw [List.map_map, List.pairwise_map]
    refine (List.pairwise_insertionSort listedBefore (joinCities log.db)).imp_of_mem ?_
    intro a b ha hb hab
    have hmem {row : Carousel × City}
        (hrow : row ∈ (joinCities log.db).insertionSort listedBefore) :
        row.1 ∈ log.db.carousels :=
      (mem_joinCities.mp ((List.mem_insertionSort listedBefore).mp hrow)).1
    -- `listedBefore` breaks ties by id; the history only asks for the stamps
    show workedAt log.db b.1.id ≤ workedAt log.db a.1.id
    rw [workedAt_of_mem hinv.keys (hmem ha), workedAt_of_mem hinv.keys (hmem hb)]
    rcases hab with hlt | ⟨heq, -⟩
    · exact le_of_lt hlt
    · exact le_of_eq heq
  whole := listCarousels_perm hinv.cities
  row := by
    intro row hrow
    obtain ⟨carousel, city, hc, hcity, rfl⟩ := mem_listCarousels.mp hrow
    refine ⟨carousel, city, hinv.keys.get hc, hcity, rfl, ?_⟩
    show (deckRows log.db carousel.id).length = _
    unfold loadDeck
    rw [List.length_map, List.length_insertionSort]
    rfl
  note := by
    intro row hrow
    obtain ⟨carousel, city, hc, -, rfl⟩ := mem_listCarousels.mp hrow
    exact hinv.stale carousel hc
  state := by
    intro row hrow
    obtain ⟨carousel, city, hc, -, rfl⟩ := mem_listCarousels.mp hrow
    show carousel.state = if wasDownloaded carousel.id log.history then _ else _
    rw [← hinv.downloaded carousel hc]
    rfl

end Listing

/-! ## §5. The page. -/

/-- What the browser relies on in a list of rows. -/
structure RowsOk (rows : List CarouselSummary) : Prop where
  states : ∀ row ∈ rows, row.state = "draft".toList ∨ row.state = "downloaded".toList
  names : ∀ a ∈ rows, ∀ b ∈ rows, a.cityId = b.cityId → a.cityName = b.cityName

/-- The page with these filters. -/
def GalleryPage.under (page : GalleryPage) (filter : Option Str) (cityId : Option Nat) :
    GalleryPage :=
  { page with filter := filter, cityId := cityId }

/-- The controls and the grid of one paint agree. -/
structure PaintRight (nameBefore : Str → Str → Bool) (page : GalleryPage) : Prop where
  /-- The pills split the archive. -/
  total : page.countOf none
    = page.countOf (some "draft".toList) + page.countOf (some "downloaded".toList)
  /-- A pill counts the cards it shows in all cities, whatever is filtered now. -/
  counts : ∀ pill ∈ statePills page, pill.count = (page.under pill.value none).shown.length
  /-- The options of the select split what any pill shows. -/
  cities : ∀ filter, (((cityOptions nameBefore page.rows).map fun option =>
      (page.under filter (some option.1)).shown.length)).sum
    = (page.under filter none).shown.length
  /-- Each is there once, under the name its cards carry. -/
  once : ((cityOptions nameBefore page.rows).map (·.1)).Nodup
  named : ∀ option ∈ cityOptions nameBefore page.rows,
    ∃ row ∈ page.rows, row.cityId = option.1 ∧ row.cityName = option.2
  listed : ∀ row ∈ page.rows, (row.cityId, row.cityName) ∈ cityOptions nameBefore page.rows
  /-- The cards stand in the order of the list. -/
  order : page.shown.Sublist page.rows
  /-- The select shows the filter that is on while some carousel is in that city;
  after the last one went it says "All cities", over an empty grid. -/
  select : page.citySelected nameBefore = page.cityId
    ∨ (page.citySelected nameBefore = none ∧ page.shown = [] ∧
        ∃ id, page.cityId = some id ∧ ∀ row ∈ page.rows, row.cityId ≠ id)
  /-- The empty grid blames the filters exactly if there is something to show. -/
  empty : page.emptyState = some false ↔ page.rows = []

/-- What is on the page, whatever was loaded, clicked or lost. -/
structure PageRight (nameBefore : Str → Str → Bool) (page : GalleryPage) : Prop where
  /-- The last paint was right. -/
  paint : ∀ rows ∈ page.painted, PaintRight nameBefore (page.over rows)
  /-- It was of the rows the page has, unless the last load failed. -/
  current : page.cleared = false → ∀ rows ∈ page.painted, rows = page.rows
  /-- Then the grid is empty, and so are the rows of the next paint. -/
  failed : page.cleared = true → page.grid = [] ∧ page.rows = []

section Page

variable {nameBefore : Str → Str → Bool} {page : GalleryPage} {rows : List CarouselSummary}

theorem mem_cityOptions {option : Nat × Str} :
    option ∈ cityOptions nameBefore rows ↔
      option ∈ Dict.ofPairs (rows.map fun row => (row.cityId, row.cityName)) := by
  unfold cityOptions seenCities
  exact List.mem_insertionSort _

theorem cityOptions_nodup : ((cityOptions nameBefore rows).map (·.1)).Nodup := by
  unfold cityOptions seenCities
  exact ((List.perm_insertionSort _ _).map _).nodup_iff.mpr (Dict.keys_nodup _)

/-- An option is a city of the rows, under its name. -/
theorem option_named {option : Nat × Str} (h : option ∈ cityOptions nameBefore rows) :
    ∃ row ∈ rows, row.cityId = option.1 ∧ row.cityName = option.2 := by
  have hget := (Dict.get_eq_some_iff (Dict.keys_nodup _)).mpr (mem_cityOptions.mp h)
  rw [Dict.get_ofPairs] at hget
  obtain ⟨pair, hpair, hname⟩ := Option.map_eq_some_iff.mp hget
  obtain ⟨hmem, hid⟩ := getRow_some Prod.fst hpair
  obtain ⟨row, hrow, rfl⟩ := List.mem_map.mp (List.mem_reverse.mp hmem)
  exact ⟨row, hrow, hid, hname⟩

theorem row_option (hrows : RowsOk rows) {row : CarouselSummary} (h : row ∈ rows) :
    (row.cityId, row.cityName) ∈ cityOptions nameBefore rows := by
  refine mem_cityOptions.mpr ((Dict.get_eq_some_iff (Dict.keys_nodup _)).mp ?_)
  rw [Dict.get_ofPairs]
  -- some pair of the city is found, and all of them carry the name
  have hmem : (row.cityId, row.cityName) ∈
      (rows.map fun row => (row.cityId, row.cityName)).reverse :=
    List.mem_reverse.mpr (List.mem_map_of_mem h)
  unfold Dict.get
  cases hfound : getRow Prod.fst (rows.map fun row => (row.cityId, row.cityName)).reverse
      row.cityId with
  | none => exact absurd rfl ((getRow_none Prod.fst).mp hfound _ hmem)
  | some pair =>
      obtain ⟨hpair, hid⟩ := getRow_some Prod.fst hfound
      obtain ⟨other, hother, rfl⟩ := List.mem_map.mp (List.mem_reverse.mp hpair)
      exact congrArg some (hrows.names other hother row h hid)

theorem sum_indicator (a : Nat) (ids : List Nat) :
    (ids.map fun id => if a = id then 1 else 0).sum = ids.count a := by
  induction ids with
  | nil => rfl
  | cons id ids ih =>
      rw [List.map_cons, List.sum_cons, ih, List.count_cons]
      by_cases h : a = id
      · simp [h, Nat.add_comm]
      · simp [h, Ne.symm h]

/-- The lengths of the parts of a list, by a key all of whose values are known. -/
theorem sum_parts {ids : List Nat} (hnodup : ids.Nodup) (rows : List CarouselSummary)
    (hids : ∀ row ∈ rows, row.cityId ∈ ids) :
    (ids.map fun id => (rows.filter fun row => row.cityId = id).length).sum = rows.length := by
  induction rows with
  | nil =>
      rw [List.length_nil]
      refine List.sum_eq_zero ?_
      intro n hn
      obtain ⟨id, -, rfl⟩ := List.mem_map.mp hn
      rfl
  | cons row rows ih =>
      have hrest := ih fun r hr => hids r (List.mem_cons_of_mem _ hr)
      have hstep : (fun id => ((row :: rows).filter fun r => r.cityId = id).length)
          = fun id => (if row.cityId = id then 1 else 0)
              + (rows.filter fun r => r.cityId = id).length := by
        funext id
        by_cases hid : row.cityId = id
        · simp [hid, Nat.add_comm]
        · simp [hid]
      rw [hstep, List.sum_map_add, hrest, List.length_cons]
      -- `row` is counted under its own city, and under no other
      have hone : (ids.map fun id => if row.cityId = id then 1 else 0).sum = 1 := by
        rw [sum_indicator]
        exact List.count_eq_one_of_mem hnodup (hids row List.mem_cons_self)
      omega

theorem shown_under (page : GalleryPage) (filter : Option Str) (id : Nat) :
    (page.under filter (some id)).shown
      = (page.under filter none).shown.filter fun row => row.cityId = id := by
  unfold GalleryPage.shown GalleryPage.under
  rw [List.filter_filter]
  refine List.filter_congr ?_
  intro row _
  simp [Bool.and_comm, eq_comm]

theorem countOf_eq (page : GalleryPage) (value : Option Str) :
    page.countOf value = (page.under value none).shown.length := by
  unfold GalleryPage.countOf GalleryPage.shown GalleryPage.under
  cases value with
  | none => simp
  | some state => simp [eq_comm]

/-- **The pills split the archive.** -/
theorem countOf_total (hrows : RowsOk page.rows) : page.countOf none
    = page.countOf (some "draft".toList) + page.countOf (some "downloaded".toList) := by
  show page.rows.length = _
  rw [List.length_eq_length_filter_add (l := page.rows) fun row => row.state = "draft".toList]
  congr 2
  refine List.filter_congr ?_
  intro row hrow
  rcases hrows.states row hrow with h | h <;> simp [h]

/-- **The controls and the grid agree**, for any list of rows as the server sends. -/
theorem paint_right (hrows : RowsOk page.rows) : PaintRight nameBefore page where
  total := countOf_total hrows
  counts := by
    intro pill hpill
    obtain ⟨source, -, rfl⟩ := List.mem_map.mp hpill
    exact countOf_eq page source.2
  cities := by
    intro filter
    have honce : ((cityOptions nameBefore page.rows).map (·.1)).Nodup := cityOptions_nodup
    have hparts := sum_parts honce (page.under filter none).shown (by
        intro row hrow
        exact List.mem_map_of_mem (f := Prod.fst)
          (row_option hrows (List.mem_filter.mp hrow).1))
    rw [List.map_map] at hparts
    rw [← hparts]
    congr 2
    funext option
    rw [shown_under]
    rfl
  once := cityOptions_nodup
  named := fun _ h => option_named h
  listed := fun _ h => row_option hrows h
  order := List.filter_sublist
  select := by
    cases hid : page.cityId with
    | none =>
        left
        unfold GalleryPage.citySelected
        rw [hid]
        exact List.find?_eq_none.mpr fun _ _ h => by simp at h
    | some id =>
        -- the city of the filter may have lost its last row to a reload
        by_cases hthere : ∃ row ∈ page.rows, row.cityId = id
        · left
          obtain ⟨row, hrow, hcity⟩ := hthere
          have hoption : id ∈ (cityOptions nameBefore page.rows).map (·.1) := by
            rw [← hcity]
            exact List.mem_map_of_mem (f := Prod.fst) (row_option hrows hrow)
          unfold GalleryPage.citySelected
          cases hfound : ((cityOptions nameBefore page.rows).map (·.1)).find?
              (fun id => page.cityId = some id) with
          | none =>
              have hnot := List.find?_eq_none.mp hfound id hoption
              rw [hid] at hnot
              exact absurd (by simp) hnot
          | some found =>
              have heq := List.find?_some hfound
              rw [hid] at heq
              exact (of_decide_eq_true heq).symm
        · right
          have hgone : ∀ row ∈ page.rows, row.cityId ≠ id := fun row hrow hcity =>
            hthere ⟨row, hrow, hcity⟩
          -- then no option is marked, and the grid is empty
          refine ⟨?_, ?_, id, rfl, hgone⟩
          · unfold GalleryPage.citySelected
            refine List.find?_eq_none.mpr ?_
            intro other hother hmarked
            rw [hid] at hmarked
            obtain rfl := Option.some.inj (of_decide_eq_true hmarked)
            obtain ⟨option, hoption, rfl⟩ := List.mem_map.mp hother
            obtain ⟨row, hrow, hcity, -⟩ := option_named hoption
            exact hgone row hrow hcity
          · unfold GalleryPage.shown
            refine List.filter_eq_nil_iff.mpr ?_
            intro row hrow hshown
            rw [hid] at hshown
            simp only [reduceCtorEq, decide_false, Bool.false_or, Option.some.injEq,
              Bool.and_eq_true, decide_eq_true_eq] at hshown
            exact hgone row hrow hshown.2.symm
  empty := by
    unfold GalleryPage.emptyState
    constructor
    · intro h
      split at h
      · have hlen := of_decide_eq_false (Option.some.inj h)
        exact List.eq_nil_of_length_eq_zero (by omega)
      · cases h
    · intro h
      have hshown : page.shown = [] := by
        unfold GalleryPage.shown
        rw [h]
        rfl
      rw [if_pos hshown, h]
      rfl

end Page

/-! ## §6. The server and a page, over time. -/

structure GalleryWorld where
  log : GalleryLog
  page : GalleryPage := {}
  /-- The listings that are on their way to the page, or were. -/
  served : List (List CarouselSummary) := []

inductive GalleryAction (settings : Settings) where
  | server (action : LogAction settings)
  /-- A `GET /carousels` is answered by the server. -/
  | serve
  /-- The answer reaches the page. -/
  | deliver (k : Nat)
  | loadFailed
  | pill (value : Option Str)
  | city (id : Option Nat)

def GalleryWorld.step {settings : Settings} (P : Platform) (nameBefore : Str → Str → Bool)
    (w : GalleryWorld) : GalleryAction settings → Option GalleryWorld
  | .server action => (logStep P w.log action).map fun log => { w with log := log }
  | .serve => some { w with served := w.served ++ [listCarousels w.log.db] }
  | .deliver k => do
      let rows ← w.served[k]?
      let page ← w.page.step nameBefore (.loaded rows)
      return { w with page := page }
  | .loadFailed => (w.page.step nameBefore .loadFailed).map fun page => { w with page := page }
  | .pill value => (w.page.step nameBefore (.pill value)).map fun page => { w with page := page }
  | .city id => (w.page.step nameBefore (.city id)).map fun page => { w with page := page }

/-- The stamps of the requests are apart. -/
def GalleryWorld.Later {settings : Settings} (w : GalleryWorld) : GalleryAction settings → Prop
  | .server action => LaterThan w.log action
  | _ => True

instance {settings : Settings} (w : GalleryWorld) (action : GalleryAction settings) :
    Decidable (w.Later action) := by
  unfold GalleryWorld.Later
  cases action <;> infer_instance

/-- A gallery nobody has used yet, over any cities, feeds and articles. -/
def GalleryWorld.opened (db : Db) (clock : Time) : GalleryWorld where
  log := { db := db, clock := clock }

/-- The rows of the page and those of its last paint. -/
structure GalleryPage.Inv (page : GalleryPage) : Prop where
  rows : RowsOk page.rows
  painted : ∀ rows ∈ page.painted, RowsOk rows
  current : page.cleared = false → ∀ rows ∈ page.painted, rows = page.rows
  failed : page.cleared = true → page.rows = []

structure GalleryWorld.Inv (w : GalleryWorld) : Prop where
  log : w.log.Inv
  served : ∀ rows ∈ w.served, RowsOk rows
  page : w.page.Inv

section Runs

variable {P : Platform} {settings : Settings} {nameBefore : Str → Str → Bool}
  {w w' : GalleryWorld} {action : GalleryAction settings} {page : GalleryPage}

theorem rowsOk_nil : RowsOk [] where
  states := fun _ h => absurd h List.not_mem_nil
  names := fun _ h => absurd h List.not_mem_nil

/-- The rows of one listing are as the browser takes them. -/
theorem rowsOk_listCarousels (db : Db) : RowsOk (listCarousels db) where
  states := by
    intro row hrow
    obtain ⟨carousel, city, -, -, rfl⟩ := mem_listCarousels.mp hrow
    show carousel.state = _ ∨ carousel.state = _
    unfold Carousel.state
    split
    · exact Or.inr rfl
    · exact Or.inl rfl
  names := by
    intro a ha b hb hid
    obtain ⟨carousel, city, -, hc, rfl⟩ := mem_listCarousels.mp ha
    obtain ⟨carousel', city', -, hc', rfl⟩ := mem_listCarousels.mp hb
    -- both joined the city of their `city_id`
    have hsame : carousel.cityId = carousel'.cityId := by
      rw [← (getRow_some _ hc).2, ← (getRow_some _ hc').2]
      exact hid
    rw [hsame, hc'] at hc
    obtain rfl := Option.some.inj hc
    rfl

/-- A paint shows the rows in hand. -/
theorem galleryPage_paint (h : RowsOk page.rows) : page.paint.Inv where
  rows := h
  painted := by
    intro rows hrows
    cases hrows
    exact h
  current := by
    intro _ rows hrows
    cases hrows
    rfl
  failed := fun h => by cases h

/-- **One step of the page**: a paint, or a load that failed. -/
theorem galleryPage_step {event : GalleryEvent} {page' : GalleryPage} (h : page.Inv)
    (hstep : page.step nameBefore event = some page')
    (hloaded : ∀ rows, event = .loaded rows → RowsOk rows) : page'.Inv := by
  cases event with
  | loaded rows =>
      obtain rfl := Option.some.inj hstep
      have hrows : RowsOk (page.over rows).rows := hloaded rows rfl
      exact galleryPage_paint hrows
  | loadFailed =>
      -- the controls stay as they were painted
      obtain rfl := Option.some.inj hstep
      exact
        { rows := rowsOk_nil, painted := h.painted, current := (nomatch ·), failed := fun _ => rfl }
  | pill value =>
      simp only [GalleryPage.step] at hstep
      split at hstep
      · cases hstep
      · split at hstep
        · obtain rfl := Option.some.inj hstep
          have hrows : RowsOk ({ page with filter := value } : GalleryPage).rows := h.rows
          exact galleryPage_paint hrows
        · cases hstep
  | city id =>
      simp only [GalleryPage.step] at hstep
      split at hstep
      · cases hstep
      · split at hstep
        · obtain rfl := Option.some.inj hstep
          have hrows : RowsOk ({ page with cityId := id } : GalleryPage).rows := h.rows
          exact galleryPage_paint hrows
        · cases hstep

/-- **What is on the page is right.** -/
theorem page_right (h : page.Inv) : PageRight nameBefore page where
  paint := by
    intro rows hrows
    have hpainted : RowsOk (page.over rows).rows := h.painted rows hrows
    exact paint_right hpainted
  current := h.current
  failed := by
    intro hcleared
    refine ⟨?_, h.failed hcleared⟩
    unfold GalleryPage.grid
    rw [if_pos hcleared]

/-- **One step keeps the log, and what the page shows.** -/
theorem galleryWorld_step (hinv : w.Inv) (hlater : w.Later action)
    (hstep : w.step P nameBefore action = some w') : w'.Inv := by
  have hclick (event : GalleryEvent) (hevent : ∀ rows, event = .loaded rows → RowsOk rows)
      (h : (w.page.step nameBefore event).map (fun page => { w with page := page }) = some w') :
      w'.Inv := by
    obtain ⟨page, hpage, rfl⟩ := Option.map_eq_some_iff.mp h
    exact ⟨hinv.log, hinv.served, galleryPage_step hinv.page hpage hevent⟩
  cases action with
  | server action =>
      obtain ⟨log, hlog, rfl⟩ := Option.map_eq_some_iff.mp hstep
      exact ⟨logStep_inv hinv.log hlater hlog, hinv.served, hinv.page⟩
  -- the answer is what the table holds now; it may be delivered much later
  | serve =>
      obtain rfl := Option.some.inj hstep
      refine ⟨hinv.log, ?_, hinv.page⟩
      intro rows hrows
      rcases List.mem_append.mp hrows with hold | hnew
      · exact hinv.served rows hold
      · rw [List.mem_singleton.mp hnew]
        exact rowsOk_listCarousels _
  | deliver k =>
      obtain ⟨rows, hrows, hrest⟩ := Option.bind_eq_some_iff.mp hstep
      obtain ⟨page, hpage, hw⟩ := Option.bind_eq_some_iff.mp hrest
      have hrowsOk := hinv.served rows (List.mem_of_getElem? hrows)
      refine hclick (.loaded rows) ?_ (Option.map_eq_some_iff.mpr ⟨page, hpage, Option.some.inj hw⟩)
      intro rows' heq
      cases heq
      exact hrowsOk
  | loadFailed => exact hclick .loadFailed (fun _ h => nomatch h) hstep
  | pill value => exact hclick (.pill value) (fun _ h => nomatch h) hstep
  | city id => exact hclick (.city id) (fun _ h => nomatch h) hstep

theorem galleryWorld_opened {db : Db} (hcarousels : db.carousels = []) (hslides : db.slides = [])
    (clock : Time) : (GalleryWorld.opened db clock).Inv where
  log := by
    have hnone : ∀ carousel ∈ db.carousels, False := by
      intro carousel hmem
      rw [hcarousels] at hmem
      cases hmem
    refine ⟨⟨?_, ?_, ?_⟩, List.Pairwise.nil, ?_, ?_, ?_, ?_, ?_, ?_, ?_, ?_⟩
    · show (db.carousels.map (·.id)).Nodup
      rw [hcarousels]
      exact List.nodup_nil
    · exact fun carousel hmem => (hnone carousel hmem).elim
    · intro row hrow
      have hrow : row ∈ db.slides := hrow
      rw [hslides] at hrow
      cases hrow
    · show ([] : List Nat).Perm (db.carousels.map (·.id))
      rw [hcarousels]
      exact List.Perm.nil
    · exact fun carousel hmem => (hnone carousel hmem).elim
    · exact fun carousel hmem => (hnone carousel hmem).elim
    · exact fun carousel hmem => (hnone carousel hmem).elim
    · exact fun carousel hmem => (hnone carousel hmem).elim
    · exact fun carousel hmem => (hnone carousel hmem).elim
    · exact fun work hmem => absurd hmem List.not_mem_nil
    · exact fun carousel hmem => (hnone carousel hmem).elim
  served := fun _ h => absurd h List.not_mem_nil
  -- before the first paint there is nothing to be right about
  page :=
    { rows := rowsOk_nil
      painted := by
        intro rows hrows
        cases hrows
      current := by
        intro _ rows hrows
        cases hrows
      failed := fun _ => rfl }

end Runs

/-- A deck is built, downloaded and edited, while the page loads a list and picks
a pill. -/
def downloadThenBrowse : List (GalleryAction defaultSettings) :=
  [.server (.request (.create (selectOne drainageId drainageId_valid) (seconds 1790000000))),
    .server (.request (.zip 1 onePage (seconds 1790000060))),
    .server (.request (.addStories 1 (selectOne metroId metroId_valid) (seconds 1790000120))),
    .serve, .deliver 0, .pill (some "downloaded".toList)]

end Feedcast
