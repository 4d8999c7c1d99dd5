/-
  Feedcast.Polling.Validators — whose validators a conditional GET sends.

  A source row carries the URL and the validators in separate columns: a PATCH
  writes one, a persist the other, and each writes back against the row it
  loaded earlier.  The invariant (`Sound`) has one clause for each place a
  validator passes through: the row, a response that is still to be persisted,
  and a row edited and not yet committed.

    • `World.step_sound` — every step keeps it, if a PATCH of the URL and a
      persist of new validators do not meet on one source (`KeepsProvenance`),
    • `validators_of_same_url` — hence, in such runs, every target is built
      with validators that its own URL has returned.
-/
import Feedcast.Ingest.TickDedupe
import Feedcast.Lib.Except
import Feedcast.Polling.World

namespace Feedcast

open Feedcast.Lib

/-! ## §1. Provenance. -/

/-- The URL has returned the validator `v` in the header `header`. -/
def ReturnedBy (responses : List (Str × Headers)) (url : Str) (header : Headers → Option Str)
    (v : Str) : Prop :=
  ∃ headers, (url, headers) ∈ responses ∧ header headers = some v

/-- Both validators, where there are any, were returned by the URL. -/
structure ValidFor (responses : List (Str × Headers)) (url : Str)
    (etag lastModified : Option Str) : Prop where
  etag : ∀ v, truthy etag = some v → ReturnedBy responses url Headers.etag v
  lastModified : ∀ v, truthy lastModified = some v →
    ReturnedBy responses url Headers.lastModified v

theorem ReturnedBy.mono {responses responses' : List (Str × Headers)} {url : Str}
    {header : Headers → Option Str} {v : Str} (h : ReturnedBy responses url header v)
    (hsub : responses ⊆ responses') : ReturnedBy responses' url header v := by
  obtain ⟨headers, hmem, hv⟩ := h
  exact ⟨headers, hsub hmem, hv⟩

theorem ValidFor.mono {responses responses' : List (Str × Headers)} {url : Str}
    {etag lastModified : Option Str} (h : ValidFor responses url etag lastModified)
    (hsub : responses ⊆ responses') : ValidFor responses' url etag lastModified where
  etag v hv := (h.etag v hv).mono hsub
  lastModified v hv := (h.lastModified v hv).mono hsub

theorem validFor_none {responses : List (Str × Headers)} {url : Str} :
    ValidFor responses url none none where
  etag v hv := by cases hv
  lastModified v hv := by cases hv

/-- The row stores validators of its own URL only. -/
def Source.Valid (responses : List (Str × Headers)) (source : Source) : Prop :=
  ValidFor responses source.feedUrl source.etag source.lastModified

/-- A target is built with validators of its own URL only. -/
def FetchTarget.Valid (responses : List (Str × Headers)) (t : FetchTarget) : Prop :=
  (∀ v, t.conditionalHeaders.ifNoneMatch = some v →
      ReturnedBy responses t.feedUrl Headers.etag v)
    ∧ ∀ v, t.conditionalHeaders.ifModifiedSince = some v →
      ReturnedBy responses t.feedUrl Headers.lastModified v

/-- `build_conditional_headers` sends what the row stores. -/
theorem Source.Valid.target {responses : List (Str × Headers)} {source : Source}
    (h : source.Valid responses) : source.target.Valid responses :=
  ⟨h.etag, h.lastModified⟩

/-! ## §2. A row being edited. -/

/-- A validator column of an edit is the loaded one, or came with the response
the edit records as a success. -/
def Carried (fetched : Except Str FetchResult) (ingested : Ingested)
    (header : Headers → Option Str) (loaded edited : Option Str) : Prop :=
  edited = loaded ∨
    (ingested.outcome.ok = true ∧ ∃ result v, fetched = .ok result
      ∧ truthy (header result.headers) = some v ∧ edited = some v)

/-- What a persist edits of the row it loaded. -/
structure Edit (fetched : Except Str FetchResult) (loaded : Source) (ingested : Ingested) :
    Prop where
  id : ingested.source.id = loaded.id
  feedUrl : ingested.source.feedUrl = loaded.feedUrl
  etag : Carried fetched ingested Headers.etag loaded.etag ingested.source.etag
  lastModified :
    Carried fetched ingested Headers.lastModified loaded.lastModified ingested.source.lastModified

/-- A failure record edits no validator. -/
theorem Edit.failure {fetched : Except Str FetchResult} {loaded : Source} {e : Str} {now : Time} :
    Edit fetched loaded
      { outcome := (recordFetchFailure loaded e now).2
        source := (recordFetchFailure loaded e now).1, articles := [] } where
  id := rfl
  feedUrl := rfl
  etag := Or.inl rfl
  lastModified := Or.inl rfl

/-- A success record edits them to what the response brought. -/
theorem Edit.success {P : Platform} {result : FetchResult} {loaded source' : Source}
    {now : Time} {outcome : SourceIngestOutcome} {articles : List Article}
    (h : recordFetchSuccess P loaded result.headers now = .ok source') (hok : outcome.ok = true) :
    Edit (.ok result) loaded { outcome := outcome, source := source', articles := articles } := by
  obtain ⟨maxAge, -, rfl⟩ := recordFetchSuccess_eq h
  -- a 304 may leave a header out: then the validator stays the one that was loaded
  have hcarried : ∀ (header : Headers → Option Str) (old : Option Str),
      orElse (header result.headers) old = old ∨ (outcome.ok = true ∧ ∃ r v,
        (Except.ok result : Except Str FetchResult) = .ok r
          ∧ truthy (header r.headers) = some v
          ∧ orElse (header result.headers) old = some v) := by
    intro header old
    rcases orElse_cases (header result.headers) old with ⟨v, hv, horElse⟩ | ⟨-, horElse⟩
    · exact Or.inr ⟨hok, result, v, rfl, hv, horElse⟩
    · exact Or.inl horElse
  exact
    { id := rfl, feedUrl := rfl, etag := hcarried Headers.etag loaded.etag
      lastModified := hcarried Headers.lastModified loaded.lastModified }

/-- What an open transaction knows about the row it edits. -/
def OpenTxn.Sound (txn : OpenTxn) : Prop :=
  match txn.stage with
  | .inserting headers _ _ =>
      ∃ result, txn.fetched.attempt.fetched = .ok result ∧ result.headers = headers
  | .ready _ ingested => Edit txn.fetched.attempt.fetched txn.loaded ingested
  | _ => True

/-- Every result a pass carries was returned by the URL it was asked of. -/
structure Pass.Sound (responses : List (Str × Headers)) (pass : Pass) : Prop where
  fetched : ∀ f ∈ pass.fetches, ∀ result, f.attempt.fetched = .ok result →
    (f.target.feedUrl, result.headers) ∈ responses
  txn : ∀ todo seen outcomes txn, pass.phase = .persisting todo seen outcomes (some txn) →
    txn.Sound

/-! ## §3. One step of a pass. -/

/-- What a step of a pass does to the sources: nothing, unless it commits. -/
inductive SourceEffect (db : Db) (pass : Pass) (action : PassAction) (db' : Db) : Prop
  | quiet (sources : db'.sources = db.sources)
  | commit (todo : List Fetched) (seen : List Str) (outcomes : List SourceIngestOutcome)
      (fetched : Fetched) (loaded : Source) (recovery : Bool) (ingested : Ingested)
      (action : action = .commit)
      (phase : pass.phase
        = .persisting todo seen outcomes (some ⟨fetched, loaded, .ready recovery ingested⟩))
      (sources : db'.sources = (db.flushSource loaded ingested.source).sources)

/-- What `parse_and_persist` edits before its insert. -/
theorem parseResult_edit {P : Platform} {w : Weather} {cities : List City} {loaded : Source}
    {result : FetchResult} {now : Time} {seen : List Str} {ingested : Ingested}
    (h : (parseResult P w cities loaded result now seen).2 = .ok (.done ingested)) :
    Edit (.ok result) loaded ingested := by
  rcases parseResult_eq_done h with ⟨source', hs, rfl⟩ | ⟨error, rfl⟩
  · exact Edit.success hs rfl
  · exact Edit.failure

theorem recordInserted_edit {P : Platform} {loaded : Source} {result : FetchResult} {now : Time}
    {new : List Article} {ingested : Ingested}
    (h : recordInserted P loaded result.headers now new = .ok ingested) :
    Edit (.ok result) loaded ingested := by
  obtain ⟨source', hs, rfl⟩ := recordInserted_eq h
  exact Edit.success hs rfl

/-- The fetches of a pass in its second phase. -/
theorem mem_fetches_persisting {city : Option Nat} {todo : List Fetched} {seen : List Str}
    {outcomes : List SourceIngestOutcome} {txn : Option OpenTxn} {f : Fetched} :
    f ∈ (Pass.mk city (.persisting todo seen outcomes txn)).fetches
      ↔ f ∈ todo ∨ ∃ t, txn = some t ∧ f = t.fetched := by
  unfold Pass.fetches
  rw [List.mem_append]
  cases txn <;> simp

/-- **A fetch that a pass carries after a step** is one it carried before, or the
response of the step. -/
theorem Pass.step_fetches {P : Platform} {db db' : Db} {taken : List Str} {pass pass' : Pass}
    {action : PassAction} (hstep : pass.step P db taken action = some (db', pass'))
    {f : Fetched} (hf : f ∈ pass'.fetches) :
    f ∈ pass.fetches ∨ ∃ slot attemptedAt slots,
      action = .respond slot attemptedAt f.attempt.fetched
        ∧ pass.phase = .fetching slots ∧ slots[slot]? = some (f.target, none) := by
  obtain ⟨-, heffect⟩ := Pass.step_effect hstep
  obtain ⟨city, phase⟩ := pass
  obtain ⟨city', phase'⟩ := pass'
  cases heffect with
  | respond slot attemptedAt fetched hslot =>
      obtain ⟨entry, hentry, hf⟩ := List.mem_filterMap.mp hf
      rcases List.mem_or_eq_of_mem_set hentry with hold | rfl
      · exact Or.inl (List.mem_filterMap.mpr ⟨entry, hold, hf⟩)
      · simp only [Option.map_some, Option.some.injEq] at hf
        subst hf
        exact Or.inr ⟨slot, attemptedAt, _, rfl, rfl, hslot⟩
  | startPersist hreturned =>
      rcases mem_fetches_persisting.mp hf with hf | ⟨t, ht, -⟩
      · exact Or.inl hf
      · cases ht
  | gone fetched todo seen outcomes hget =>
      rcases mem_fetches_persisting.mp hf with hf | ⟨t, ht, -⟩
      · exact Or.inl (mem_fetches_persisting.mpr (Or.inl (List.mem_cons_of_mem _ hf)))
      · cases ht
  | opened fetched todo seen outcomes hget =>
      refine Or.inl (mem_fetches_persisting.mpr (Or.inl ?_))
      rcases mem_fetches_persisting.mp hf with hf | ⟨t, ht, rfl⟩
      · exact List.mem_cons_of_mem _ hf
      · cases ht
        exact List.mem_cons_self
  -- the transaction moves on with the fetch it was opened for
  | statement todo outcomes heffect => exact Or.inl hf
  | recover fetched loaded exc todo seen outcomes hget => exact Or.inl hf
  | commit fetched loaded recovery ingested todo seen outcomes =>
      rcases mem_fetches_persisting.mp hf with hf | ⟨t, ht, -⟩
      · exact Or.inl (mem_fetches_persisting.mpr (Or.inl hf))
      · cases ht
  | finish seen outcomes => cases hf

/-- A statement edits what its response says. -/
theorem OpenTxn.Effect.sound {P : Platform} {db : Db} {taken : List Str} {fetched : Fetched}
    {loaded : Source} {seen seen' : List Str} {action : PassAction} {stage stage' : TxnStage}
    (heffect : OpenTxn.Effect P db taken fetched loaded seen action stage seen' stage')
    (h : OpenTxn.Sound ⟨fetched, loaded, stage⟩) : OpenTxn.Sound ⟨fetched, loaded, stage'⟩ := by
  cases heffect with
  | unfetched w hfetched => exact Edit.failure
  | parseRaised w hfetched hparse => trivial
  | parseDone w hfetched hparse =>
      show Edit fetched.attempt.fetched loaded _
      rw [hfetched]
      exact parseResult_edit hparse
  | parseRows w hfetched hparse => exact ⟨_, hfetched, rfl⟩
  | conflict dbNow => exact h
  | insert dbNow hfree hfresh => exact h
  | unrecorded hrecord => trivial
  -- the headers were kept beside the rows until the insert was over
  | recorded hrecord =>
      obtain ⟨result, hfetched, hheaders⟩ := h
      rw [← hheaders] at hrecord
      show Edit fetched.attempt.fetched loaded _
      rw [hfetched]
      exact recordInserted_edit hrecord
  | raise exc hrunning hfirst => trivial

/-- **One step of a pass**: the results it carries stay those of their URLs, and
only a commit touches a source. -/
theorem Pass.step_sound {P : Platform} {db db' : Db} {taken : List Str} {pass pass' : Pass}
    {responses : List (Str × Headers)} {action : PassAction} (h : pass.Sound responses)
    (hstep : pass.step P db taken action = some (db', pass')) :
    pass'.Sound (responses ++ pass.heard action) ∧ SourceEffect db pass action db' := by
  have hfetched : ∀ f ∈ pass'.fetches, ∀ result, f.attempt.fetched = .ok result →
      (f.target.feedUrl, result.headers) ∈ responses ++ pass.heard action := by
    intro f hf result hok
    rcases Pass.step_fetches hstep hf with hold | ⟨slot, attemptedAt, slots, rfl, hphase, hslot⟩
    · exact List.mem_append_left _ (h.fetched f hold result hok)
    · -- the response of this step
      refine List.mem_append_right _ ?_
      rw [hok]
      simp [Pass.heard, hphase, hslot]
  obtain ⟨-, heffect⟩ := Pass.step_effect hstep
  obtain ⟨city, phase⟩ := pass
  obtain ⟨city', phase'⟩ := pass'
  -- only a commit writes; all other steps are quiet
  cases heffect with
  | respond | startPersist | gone | finish =>
      refine ⟨{ fetched := hfetched, txn := ?_ }, .quiet rfl⟩
      intro _ _ _ _ hphase
      cases hphase
  | opened fetched todo seen outcomes hget =>
      refine ⟨{ fetched := hfetched, txn := ?_ }, .quiet rfl⟩
      intro _ _ _ t ht
      cases ht
      trivial
  | statement todo outcomes heffect =>
      refine ⟨{ fetched := hfetched, txn := ?_ }, .quiet rfl⟩
      intro _ _ _ t ht
      cases ht
      exact heffect.sound (h.txn _ _ _ _ rfl)
  -- the row is loaded again, and a failure writes no validator
  | recover fetched loaded exc todo seen outcomes hget =>
      refine ⟨{ fetched := hfetched, txn := ?_ }, .quiet rfl⟩
      intro _ _ _ t ht
      cases ht
      exact Edit.failure
  | commit fetched loaded recovery ingested todo seen outcomes =>
      refine ⟨{ fetched := hfetched, txn := ?_ },
        .commit todo seen outcomes fetched loaded recovery ingested rfl rfl rfl⟩
      intro _ _ _ _ hphase
      cases hphase

/-! ## §4. Runs. -/

/-- The invariant. -/
structure World.Sound (w : World) : Prop where
  rows : ∀ source ∈ w.db.sources, source.Valid w.responses
  passes : ∀ pass ∈ w.passes, pass.Sound w.responses

/-- The URL an edit of `loaded` writes suits the validators the row stores by
then. -/
def UrlSuits (w : World) (loaded edited : Source) : Prop :=
  edited.feedUrl ≠ loaded.feedUrl → ∀ stored, w.db.getSource loaded.id = some stored →
    ValidFor w.responses edited.feedUrl stored.etag stored.lastModified

/-- The new validators a successful response brings suit the URL the row stores
by then. -/
def ResponseSuits (w : World) (fetched : Fetched) (loaded : Source) : Prop :=
  ∀ result, fetched.attempt.fetched = .ok result →
    ∀ stored, w.db.getSource loaded.id = some stored →
      (∀ v, truthy result.headers.etag = some v → loaded.etag ≠ some v →
        ReturnedBy w.responses stored.feedUrl Headers.etag v)
      ∧ ∀ v, truthy result.headers.lastModified = some v → loaded.lastModified ≠ some v →
        ReturnedBy w.responses stored.feedUrl Headers.lastModified v

/-- A PATCH of the URL and a persist of new validators do not meet: the PATCH
commits on a row whose validators the new URL has returned (or that stores
none), the persist on a row whose URL has returned the new validators (as it
has, when it is still the URL that was fetched). -/
def KeepsProvenance (w : World) : WorldAction → Prop
  | .commitPatch index => ∀ patch edited, w.patches[index]? = some patch →
      patch.data.apply patch.loaded = .ok edited → UrlSuits w patch.loaded edited
  | .call (.updateSource sourceId data) => ∀ source edited,
      w.db.getSource sourceId = some source → data.apply source = .ok edited →
      UrlSuits w source edited
  | .pass index .commit =>
      ∀ pass todo seen outcomes fetched loaded recovery ingested, w.passes[index]? = some pass →
      pass.phase
        = .persisting todo seen outcomes (some ⟨fetched, loaded, .ready recovery ingested⟩) →
      ingested.outcome.ok = true → ResponseSuits w fetched loaded
  | _ => True

/-- The rows after a flush are the old ones and the written one. -/
theorem mem_flushSource {db : Db} {loaded edited source : Source}
    (h : source ∈ (db.flushSource loaded edited).sources) :
    source ∈ db.sources ∨ ∃ stored ∈ db.sources, db.getSource loaded.id = some stored
      ∧ source = loaded.writeBack edited stored := by
  unfold Db.flushSource at h
  split at h
  · next stored hget =>
      rcases (mem_setRow Source.id).mp h with ⟨rfl, -⟩ | ⟨hmem, -⟩
      · exact Or.inr ⟨stored, (getRow_some Source.id hget).1, hget, rfl⟩
      · exact Or.inl hmem
  · exact Or.inl h

/-- A session that edits no validator leaves a valid row, if its URL suits. -/
theorem flush_url_valid {w : World} (h : w.Sound) {loaded edited : Source}
    (hetag : edited.etag = loaded.etag) (hlast : edited.lastModified = loaded.lastModified)
    (hsuits : UrlSuits w loaded edited) :
    ∀ source ∈ (w.db.flushSource loaded edited).sources, source.Valid w.responses := by
  intro source hs
  -- a row that was not flushed is as it was
  rcases mem_flushSource hs with hold | ⟨stored, hmem, hget, rfl⟩
  · exact h.rows source hold
  · unfold Source.Valid Source.writeBack
    simp only [hetag, hlast, written_same]
    rcases written_cases loaded.feedUrl edited.feedUrl stored.feedUrl with ⟨-, hw⟩ | ⟨hne, hw⟩
    · rw [hw]
      exact h.rows stored hmem
    · -- the URL is new, the validators are those already stored
      rw [hw]
      exact hsuits hne stored hget

/-- One column of an edit, written back: what it stores then was stored already,
or came with the response of this edit. -/
theorem Carried.written {fetched : Except Str FetchResult} {ingested : Ingested}
    {header : Headers → Option Str} {old new stored : Option Str} {v : Str}
    (h : Carried fetched ingested header old new) (hv : truthy (written old new stored) = some v) :
    truthy stored = some v ∨ (ingested.outcome.ok = true ∧ ∃ result, fetched = .ok result
      ∧ truthy (header result.headers) = some v ∧ old ≠ some v) := by
  rcases written_cases old new stored with ⟨-, hw⟩ | ⟨hne, hw⟩
  · -- the column was not edited: what is stored by now stays
    exact Or.inl (hw ▸ hv)
  · -- it was edited: the value came with the response
    rw [hw] at hv
    rcases h with heq | ⟨hok, result, v', hfetched, hv', heq⟩
    · exact absurd heq hne
    · have hvv : v' = v := Option.some.inj (heq.symm.trans (truthy_some hv))
      subst hvv
      exact Or.inr ⟨hok, result, hfetched, hv', fun hl => hne (heq.trans hl.symm)⟩

/-- A persist leaves a valid row, if its new validators suit. -/
theorem flush_edit_valid {w : World} (h : w.Sound) {fetched : Fetched} {loaded : Source}
    {ingested : Ingested} (hedit : Edit fetched.attempt.fetched loaded ingested)
    (hsuits : ingested.outcome.ok = true → ResponseSuits w fetched loaded) :
    ∀ source ∈ (w.db.flushSource loaded ingested.source).sources, source.Valid w.responses := by
  intro source hs
  rcases mem_flushSource hs with hold | ⟨stored, hmem, hget, rfl⟩
  · exact h.rows source hold
  · have hstored := h.rows stored hmem
    -- the URL is no column that ingest writes, so the row keeps the stored one
    unfold Source.Valid Source.writeBack
    simp only [hedit.feedUrl, written_same]
    refine { etag := ?_, lastModified := ?_ }
    · intro v hv
      -- a column is written only where the session changed it
      rcases hedit.etag.written hv with hold | ⟨hok, result, hfetched, hv', hne⟩
      · exact hstored.etag v hold
      · exact (hsuits hok result hfetched stored hget).1 v hv' hne
    · intro v hv
      rcases hedit.lastModified.written hv with hold | ⟨hok, result, hfetched, hv', hne⟩
      · exact hstored.lastModified v hold
      · exact (hsuits hok result hfetched stored hget).2 v hv' hne

/-- The rows of the other calls come from old rows of the same columns, or are
new and store nothing. -/
theorem OnboardingCall.run_rows {P : Platform} {settings : Settings} {db db' : Db}
    {call : OnboardingCall} (h : call.run P settings db = .ok db')
    (hcall : ∀ sourceId data, call ≠ .updateSource sourceId data) :
    ∀ source ∈ db'.sources, (source.etag = none ∧ source.lastModified = none) ∨
      ∃ old ∈ db.sources, source.feedUrl = old.feedUrl ∧ source.etag = old.etag
        ∧ source.lastModified = old.lastModified := by
  intro source hs
  have hsame : source ∈ db.sources → (source.etag = none ∧ source.lastModified = none) ∨
      ∃ old ∈ db.sources, source.feedUrl = old.feedUrl ∧ source.etag = old.etag
        ∧ source.lastModified = old.lastModified :=
    fun hmem => Or.inr ⟨source, hmem, rfl, rfl, rfl⟩
  cases call with
  | createCity data =>
      obtain ⟨-, -, rfl⟩ := createCity_ok h
      rcases List.mem_append.mp hs with hold | hnew
      · exact hsame hold
      · exact Or.inl (sourceRows_unpolled hnew)
  | addSource cityId data =>
      obtain ⟨_, -, -, -, rfl⟩ := addSource_ok h
      rcases List.mem_append.mp hs with hold | hnew
      · exact hsame hold
      · rw [List.mem_singleton.mp hnew]
        exact Or.inl ⟨rfl, rfl⟩
  | updateSource sourceId data => exact absurd rfl (hcall sourceId data)
  | archiveSource sourceId now =>
      -- an archive stamps a row, and no URL and no validator
      obtain ⟨old, hget, rfl⟩ := archiveSource_ok h
      rcases (mem_setRow Source.id).mp hs with ⟨rfl, -⟩ | ⟨hmem, -⟩
      · exact Or.inr ⟨old, (getRow_some Source.id hget).1, rfl, rfl, rfl⟩
      · exact hsame hmem
  | archiveCity cityId now =>
      obtain ⟨_, -, -, rfl⟩ := archiveCity_ok h
      obtain ⟨old, hold, rfl⟩ := List.mem_map.mp hs
      refine Or.inr ⟨old, hold, ?_⟩
      unfold archiveWithCity
      split <;> exact ⟨rfl, rfl, rfl⟩
  | unarchiveCity cityId =>
      obtain ⟨_, -, -, rfl⟩ := unarchiveCity_ok h
      obtain ⟨old, hold, rfl⟩ := List.mem_map.mp hs
      refine Or.inr ⟨old, hold, ?_⟩
      unfold reviveWithCity
      split <;> exact ⟨rfl, rfl, rfl⟩
  | updateCity cityId data =>
      obtain ⟨_, _, -, -, rfl⟩ := updateCity_ok h
      exact hsame hs

/-- A call keeps the rows valid: it edits no URL and no validator of a stored
row, except by a PATCH. -/
theorem OnboardingCall.run_valid {P : Platform} {settings : Settings} {w : World} {db' : Db}
    {call : OnboardingCall} (h : w.Sound) (hkeeps : KeepsProvenance w (.call call))
    (hrun : call.run P settings w.db = .ok db') :
    ∀ source ∈ db'.sources, source.Valid w.responses := by
  by_cases hcall : ∀ sourceId data, call ≠ .updateSource sourceId data
  · intro source hs
    rcases OnboardingCall.run_rows hrun hcall source hs with
      ⟨hetag, hlast⟩ | ⟨old, hold, hurl, hetag, hlast⟩
    · -- a feed that was never polled
      unfold Source.Valid
      rw [hetag, hlast]
      exact validFor_none
    · unfold Source.Valid
      rw [hurl, hetag, hlast]
      exact h.rows old hold
  · simp only [not_forall, not_not] at hcall
    obtain ⟨sourceId, data, rfl⟩ := hcall
    obtain ⟨source, edited, hget, happly, rfl⟩ := updateSource_ok hrun
    obtain ⟨hplace, -⟩ := SourceUpdate.apply_ok happly
    -- with no await in between, the row loaded is the row stored
    rw [← Db.flushSource_alone (Db.getSource_self hget) hplace.id]
    exact flush_url_valid h hplace.etag hplace.lastModified
      (hkeeps source edited hget happly)

@[simp] theorem Pass.begin_fetches (city : Option Nat) (targets : List FetchTarget) :
    (Pass.begin city targets).fetches = [] := by
  unfold Pass.begin Pass.fetches
  by_cases h : targets = []
  · rw [if_pos h]
  · rw [if_neg h]
    simp

/-- A pass that has heard nothing yet. -/
theorem Pass.begin_sound (city : Option Nat) (targets : List FetchTarget)
    (responses : List (Str × Headers)) : (Pass.begin city targets).Sound responses := by
  refine { fetched := by simp, txn := ?_ }
  · intro _ _ _ _ hphase
    by_cases ht : targets = [] <;> simp [Pass.begin, ht] at hphase

/-- **Every step keeps the provenance of the validators**, where PATCH and
persist do not meet. -/
theorem World.step_sound {P : Platform} {settings : Settings} {w w' : World}
    {action : WorldAction} (h : w.Sound) (hkeeps : KeepsProvenance w action)
    (hstep : w.step P settings action = some w') : w'.Sound := by
  have happend : ∀ city targets, ∀ pass ∈ w.passes ++ [Pass.begin city targets],
      pass.Sound w.responses := by
    intro city targets pass hpass
    rcases List.mem_append.mp hpass with hold | hnew
    · exact h.passes pass hold
    · rw [List.mem_singleton.mp hnew]
      exact Pass.begin_sound city targets w.responses
  cases World.step_effect hstep with
  | refused => exact h
  | begin => exact { rows := h.rows, passes := happend _ _ }
  | pass index action pass pass' db hget hpass =>
      have hold := h.passes pass (List.mem_of_getElem? hget)
      obtain ⟨hsound, heffect⟩ := Pass.step_sound hold hpass
      have hgrow : w.responses ⊆ w.responses ++ pass.heard action := List.subset_append_left _ _
      refine { rows := ?_, passes := ?_ }
      · intro source hs
        refine ValidFor.mono ?_ hgrow
        cases heffect with
        | quiet hsources => exact h.rows source (hsources ▸ hs)
        | commit todo seen outcomes fetched loaded recovery ingested haction hphase hsources =>
            -- the edit is written back against a row that may have changed meanwhile
            subst haction
            have hedit : Edit fetched.attempt.fetched loaded ingested := hold.txn _ _ _ _ hphase
            exact flush_edit_valid h hedit
              (hkeeps pass todo seen outcomes fetched loaded recovery ingested hget hphase)
              source (hsources ▸ hs)
      · intro p hp
        rcases List.mem_or_eq_of_mem_set hp with hmem | rfl
        · have hp' := h.passes p hmem
          exact { fetched := fun f hf r hr => hgrow (hp'.fetched f hf r hr), txn := hp'.txn }
        · exact hsound
  | patches => exact { rows := h.rows, passes := h.passes }
  | commitPatch index patch edited hpatch happly =>
      obtain ⟨hplace, -⟩ := SourceUpdate.apply_ok happly
      exact
        { rows := flush_url_valid h hplace.etag hplace.lastModified
            (hkeeps patch edited hpatch happly)
          passes := h.passes }
  | call call db hrun =>
      have hrows := OnboardingCall.run_valid h hkeeps hrun
      exact { rows := hrows, passes := h.passes }

/-- **VALIDATORS GO TO THE URL THEY CAME FROM.**  In every run, from a database
that stores no validators, in which PATCHes of a URL and persists of new
validators do not meet, every target either loader builds in any state sends
only validators that an earlier response of its own URL brought. -/
theorem validators_of_same_url (P : Platform) (settings : Settings) (db : Db)
    (hfresh : ∀ source ∈ db.sources, source.etag = none ∧ source.lastModified = none)
    (actions : List WorldAction)
    (hkeeps : Along (World.step P settings) KeepsProvenance (World.start db) actions) :
    Throughout (World.step P settings)
      (fun w => (∀ now, ∀ t ∈ loadDueTargets w.db now settings, t.Valid w.responses)
        ∧ ∀ cityId ts, loadCityTargets w.db cityId = some ts → ∀ t ∈ ts, t.Valid w.responses)
      (World.start db) actions := by
  -- a fresh source has no validators, and there is no pass
  have hstart : (World.start db).Sound := by
    refine { rows := ?_, passes := by simp [World.start] }
    intro source hs
    obtain ⟨hetag, hlast⟩ := hfresh source hs
    unfold Source.Valid
    rw [hetag, hlast]
    exact validFor_none
  have hsound : Throughout (World.step P settings) World.Sound (World.start db) actions :=
    invariant_along (fun w a w' hw hc hs => World.step_sound hw hc hs) hstart hkeeps
  intro pre hpre w hrun
  have hw := hsound pre hpre w hrun
  constructor
  · intro now t ht
    obtain ⟨source, hs, -, rfl⟩ := mem_loadDueTargets ht
    exact (hw.rows source hs).target
  · intro cityId ts hts t ht
    obtain ⟨source, hs, -, rfl⟩ := mem_loadCityTargets hts ht
    exact (hw.rows source hs).target

/-! ## §5. The condition, checked. -/

/-- The persist a pass is about to commit. -/
def Pass.toCommit (pass : Pass) : Option (Fetched × Source × Ingested) :=
  match pass.phase with
  | .persisting _ _ _ (some ⟨fetched, loaded, .ready _ ingested⟩) =>
      some (fetched, loaded, ingested)
  | _ => none

theorem Pass.toCommit_eq_some {pass : Pass} {fetched : Fetched} {loaded : Source}
    {ingested : Ingested} :
    pass.toCommit = some (fetched, loaded, ingested) ↔ ∃ todo seen outcomes recovery,
      pass.phase
        = .persisting todo seen outcomes (some ⟨fetched, loaded, .ready recovery ingested⟩) := by
  unfold Pass.toCommit
  -- `toCommit` is decidable, which `KeepsProvenance` needs to be run
  constructor
  · intro h
    split at h
    · next todo seen outcomes f l recovery i hphase =>
        simp only [Option.some.injEq, Prod.mk.injEq] at h
        obtain ⟨rfl, rfl, rfl⟩ := h
        exact ⟨todo, seen, outcomes, recovery, hphase⟩
    · cases h
  · intro ⟨todo, seen, outcomes, recovery, hphase⟩
    rw [hphase]

section Checked

variable (responses : List (Str × Headers)) (url : Str) (w : World)

instance (header : Headers → Option Str) (v : Str) :
    Decidable (ReturnedBy responses url header v) :=
  decidable_of_iff (∃ r ∈ responses, r.1 = url ∧ header r.2 = some v) (by
    constructor
    · intro ⟨r, hr, hurl, hv⟩
      exact ⟨r.2, hurl ▸ hr, hv⟩
    · intro ⟨headers, hmem, hv⟩
      exact ⟨(url, headers), hmem, rfl, hv⟩)

instance (etag lastModified : Option Str) : Decidable (ValidFor responses url etag lastModified) :=
  decidable_of_iff ((∀ v ∈ truthy etag, ReturnedBy responses url Headers.etag v)
      ∧ ∀ v ∈ truthy lastModified, ReturnedBy responses url Headers.lastModified v)
    ⟨fun h => ⟨h.1, h.2⟩, fun h => ⟨h.etag, h.lastModified⟩⟩

instance (loaded edited : Source) : Decidable (UrlSuits w loaded edited) :=
  inferInstanceAs (Decidable (edited.feedUrl ≠ loaded.feedUrl →
    ∀ stored ∈ w.db.getSource loaded.id,
      ValidFor w.responses edited.feedUrl stored.etag stored.lastModified))

instance (fetched : Fetched) (loaded : Source) : Decidable (ResponseSuits w fetched loaded) :=
  decidable_of_iff (∀ result ∈ fetched.attempt.fetched.toOption,
      ∀ stored ∈ w.db.getSource loaded.id,
        (∀ v ∈ truthy result.headers.etag, loaded.etag ≠ some v →
          ReturnedBy w.responses stored.feedUrl Headers.etag v)
        ∧ ∀ v ∈ truthy result.headers.lastModified, loaded.lastModified ≠ some v →
          ReturnedBy w.responses stored.feedUrl Headers.lastModified v) (by
    unfold ResponseSuits
    cases fetched.attempt.fetched <;> simp [Except.toOption])

instance (action : WorldAction) : Decidable (KeepsProvenance w action) :=
  match action with
  | .commitPatch index =>
      decidable_of_iff (∀ patch ∈ w.patches[index]?,
          ∀ edited ∈ (patch.data.apply patch.loaded).toOption, UrlSuits w patch.loaded edited)
        (by
          simp only [Option.mem_def, except_toOption_eq_some]
          exact ⟨fun h patch edited hget hedit => h patch hget edited hedit,
            fun h patch hget edited hedit => h patch edited hget hedit⟩)
  | .call (.updateSource sourceId data) =>
      decidable_of_iff (∀ source ∈ w.db.getSource sourceId,
          ∀ edited ∈ (data.apply source).toOption, UrlSuits w source edited)
        (by
          simp only [Option.mem_def, except_toOption_eq_some]
          exact ⟨fun h source edited hget hedit => h source hget edited hedit,
            fun h source hget edited hedit => h source edited hget hedit⟩)
  | .pass index .commit =>
      decidable_of_iff (∀ pass ∈ w.passes[index]?, ∀ persist ∈ pass.toCommit,
          persist.2.2.outcome.ok = true → ResponseSuits w persist.1 persist.2.1) (by
        constructor
        · intro h pass todo seen outcomes fetched loaded recovery ingested hget hphase
          exact h pass hget _ (Pass.toCommit_eq_some.mpr ⟨todo, seen, outcomes, recovery, hphase⟩)
        · intro h pass hget persist hready
          obtain ⟨todo, seen, outcomes, recovery, hphase⟩ := Pass.toCommit_eq_some.mp hready
          exact h pass todo seen outcomes _ _ recovery _ hget hphase)
  | .beginTick .. | .beginRefresh .. | .openPatch .. => isTrue trivial
  | .pass _ (.respond ..) | .pass _ .startPersist | .pass _ .openNext | .pass _ (.parse ..)
  | .pass _ (.insertRow ..) | .pass _ .finishInsert | .pass _ (.raise ..) | .pass _ .recover
  | .pass _ .finish => isTrue trivial
  | .call (.createCity ..) | .call (.addSource ..) | .call (.archiveSource ..)
  | .call (.archiveCity ..) | .call (.unarchiveCity ..) | .call (.updateCity ..) => isTrue trivial

end Checked

/-! ## §6. A feed that moved. -/

/-- The URL a masthead moves its feed to. -/
def movedUrl : Str := "https://example.test/new-rss".toList

/-- A response that names its version. -/
def versioned : Headers where
  etag := some "\"v1\"".toList

/-- The page that names it. -/
def versionedPage : Except Str FetchResult :=
  .ok { statusCode := 200, headers := versioned, content := [], finalUrl := testTimes.feedUrl }

/-- The persist of the first fetch of a pass. -/
def persistFirst : List WorldAction :=
  [.pass 0 .startPersist, .pass 0 .openNext, .pass 0 (.parse calm), .pass 0 (.insertRow 0),
    .pass 0 .finishInsert, .pass 0 .commit]

/-- The second source has moved already; a tick finds one version at both URLs
and stores it for the first source, which then follows. -/
def pollThenFollow : List WorldAction :=
  [.openPatch 2 { feedUrl := some (some movedUrl) }, .commitPatch 0,
    .beginTick 0 [(testTimes.row 1 1).target,
      { sourceId := 2, feedUrl := movedUrl
        conditionalHeaders := { ifNoneMatch := none, ifModifiedSince := none } }],
    .pass 0 (.respond 0 0 versionedPage), .pass 0 (.respond 1 0 versionedPage)] ++ persistFirst
    ++ [.openPatch 1 { feedUrl := some (some movedUrl) }, .commitPatch 0]

/-- The moved feed is asked for the version its new URL has returned. -/
theorem validators_of_same_url_moved :
    Throughout (World.step oneStory defaultSettings)
      (fun w => (∀ now, ∀ t ∈ loadDueTargets w.db now defaultSettings, t.Valid w.responses)
        ∧ ∀ cityId ts, loadCityTargets w.db cityId = some ts → ∀ t ∈ ts, t.Valid w.responses)
      (World.start twoSources) pollThenFollow :=
  validators_of_same_url oneStory defaultSettings twoSources (by decide) pollThenFollow
    (by decide +kernel)

/-- With that version in its condition. -/
example :
    (exec (World.step oneStory defaultSettings) (World.start twoSources) pollThenFollow).map
        (fun w => (loadDueTargets w.db (hours 2) defaultSettings).head?)
      = some (some { sourceId := 1, feedUrl := movedUrl
                     conditionalHeaders :=
                       { ifNoneMatch := versioned.etag, ifModifiedSince := none } }) := by
  decide +kernel

/-- A tick stores the version of the feed, and then the feed moves. -/
def pollThenMove : List WorldAction :=
  [.beginTick 0 [(testTimes.row 1 1).target, (testTimes.row 2 1).target],
    .pass 0 (.respond 0 0 versionedPage), .pass 0 (.respond 1 0 versionedPage)] ++ persistFirst
    ++ [.openPatch 1 { feedUrl := some (some movedUrl) }, .commitPatch 0]

theorem pollThenMove_targets :
    (exec (World.step oneStory defaultSettings) (World.start twoSources) pollThenMove).map
        (fun w => ((loadDueTargets w.db (hours 2) defaultSettings).head?, w.responses))
      = some (some { sourceId := 1, feedUrl := movedUrl
                     conditionalHeaders :=
                       { ifNoneMatch := versioned.etag, ifModifiedSince := none } },
          [(testTimes.feedUrl, versioned), (testTimes.feedUrl, versioned)]) := by
  decide +kernel

/-- The next tick asks the new URL with the old one's version. -/
theorem pollThenMove_misdirected :
    ∃ w, Run (World.step oneStory defaultSettings) (World.start twoSources) pollThenMove w
      ∧ ∃ t ∈ loadDueTargets w.db (hours 2) defaultSettings, ¬ t.Valid w.responses := by
  obtain ⟨w, hw, hpair⟩ := Option.map_eq_some_iff.mp pollThenMove_targets
  obtain ⟨htarget, hresponses⟩ := Prod.mk.inj hpair
  refine ⟨w, run_iff_exec.mpr hw, _, List.mem_of_mem_head? htarget, ?_⟩
  intro hvalid
  obtain ⟨headers, hmem, -⟩ := hvalid.1 _ rfl
  rw [hresponses] at hmem
  simp only [List.mem_cons, Prod.mk.injEq, List.not_mem_nil, or_false, or_self] at hmem
  exact absurd hmem.1 (by decide)

end Feedcast
