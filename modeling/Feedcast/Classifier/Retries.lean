/-
  Feedcast.Classifier.Retries — the attempts of one call, and the pass around it
  (`services/llm.py`, `services/classify.py`).

  The client is asked until a reply passes or the attempts are used up.  Every
  attempt adds a row in the session of the call, and `run_classify_pass`
  commits that session in a `finally`:

    • `completeLoggedFrom_answered` — the attempts up to the first reply that
      passes,
    • `completeLoggedFrom_exhausted` — the attempts when none does,
    • `completeInFrom_eq` — the same call as a program in a session,
    • `runClassifyPass_llmCalls` — the rows a pass leaves, raised or not,
    • `retries_logged_and_committed` — all of it, for every client.
-/
import Feedcast.Classifier.Usage
import Feedcast.Services.Classify
import Feedcast.Carousels.OneCity
import Feedcast.Lib.Session

namespace Feedcast

open Feedcast.Lib

/-! ## §1. The property. -/

section Property

variable {α : Type} (settings : Settings) (purpose : Str) (validate : Str → Raises α)
  (client : Nat → Str → ClientReply) (prompt : Str)

/-- The reply to this attempt is valid, and comes to `parsed`. -/
def ValidAt (attempt : Nat) (parsed : α) : Prop :=
  ∃ response, client attempt prompt = .returned response ∧ validate response.text = .ok parsed

/-- The first valid reply is the one to attempt `k`. -/
def FirstValid (k : Nat) (parsed : α) : Prop :=
  1 ≤ k ∧ ValidAt validate client prompt k parsed
    ∧ ∀ attempt, 1 ≤ attempt → attempt < k → ∀ other, ¬ ValidAt validate client prompt attempt other

/-- So many calls, each with its row; the last row says `last`. -/
structure CallsLogged (completion : Completion α) (k : Nat) (last : CallOutcome) : Prop where
  calls : completion.replies = (List.range' 1 k).map fun attempt => client attempt prompt
  attempts : completion.rows.map (·.attempt) = List.range' 1 k
  outcomes : completion.rows.map (·.outcome) = List.replicate (k - 1) .retried ++ [last]

/-- **The loop makes the right calls, logs each, and comes to the right answer.** -/
structure RetriesRight (completion : Completion α) : Prop where
  answered : ∀ k parsed, FirstValid validate client prompt k parsed →
    (k : Int) ≤ settings.llmMaxAttempts →
      CallsLogged client prompt completion k .ok ∧ completion.result = .ok parsed
  exhausted : (∀ k parsed, FirstValid validate client prompt k parsed →
      settings.llmMaxAttempts < k) →
    CallsLogged client prompt completion settings.llmMaxAttempts.toNat .failed
      ∧ ∃ lastError, completion.result = .error (completeFailed settings purpose lastError)

end Property

/-! ## §2. One attempt. -/

theorem logCall_retried {settings : Settings} {attempt : Nat}
    (h : (attempt : Int) < settings.llmMaxAttempts) (purpose error : Str) :
    (logCall settings purpose attempt (some error) none none).outcome = .retried :=
  if_neg (not_le.mpr h)

theorem logCall_failed {settings : Settings} {attempt : Nat}
    (h : settings.llmMaxAttempts ≤ (attempt : Int)) (purpose error : Str) :
    (logCall settings purpose attempt (some error) none none).outcome = .failed :=
  if_pos h

section Loop

variable {α : Type} (settings : Settings) (purpose : Str) {validate : Str → Raises α}
  {client : Nat → Str → ClientReply} {prompt : Str}

/-- A reply that does not pass is logged, and the loop goes on. -/
theorem completeLoggedFrom_rejected {attempt : Nat}
    (h : ∀ parsed, ¬ ValidAt validate client prompt attempt parsed) (left : Nat)
    (lastError : Str) :
    ∃ error, completeLoggedFrom settings purpose validate client prompt (left + 1) attempt
        lastError
      = Completion.after (client attempt prompt)
          (logCall settings purpose attempt (some error) none none)
          (completeLoggedFrom settings purpose validate client prompt left (attempt + 1)
            error) := by
  cases hreply : client attempt prompt with
  | raised error => exact ⟨error, completeFrom_raised hreply left lastError⟩
  | returned response =>
      cases hvalidate : validate response.text with
      | error error => exact ⟨error, completeFrom_rejected hreply hvalidate left lastError⟩
      | ok parsed => exact absurd ⟨response, hreply, hvalidate⟩ (h parsed)

/-- A reply that passes is logged and returned. -/
theorem completeLoggedFrom_valid {attempt : Nat} {response : LlmResponse} {parsed : α}
    (hreply : client attempt prompt = .returned response)
    (hvalid : validate response.text = .ok parsed) (left : Nat) (lastError : Str) :
    completeLoggedFrom settings purpose validate client prompt (left + 1) attempt lastError
      = { replies := [client attempt prompt]
          rows := [logCall settings purpose attempt none response.promptTokens
            response.completionTokens]
          result := .ok parsed } := by
  rw [hreply]
  exact completeFrom_passed hreply hvalid left lastError

/-! ## §3. The loop. -/

/-- **The attempts up to the first valid reply.** -/
theorem completeLoggedFrom_answered (d more attempt : Nat) (lastError : Str) {parsed : α}
    (hbound : ((attempt + d : Nat) : Int) ≤ settings.llmMaxAttempts)
    (hvalid : ValidAt validate client prompt (attempt + d) parsed)
    (hbefore : ∀ n, attempt ≤ n → n < attempt + d →
      ∀ other, ¬ ValidAt validate client prompt n other) :
    (completeLoggedFrom settings purpose validate client prompt (d + 1 + more) attempt
        lastError).replies = (List.range' attempt (d + 1)).map (fun n => client n prompt)
    ∧ (completeLoggedFrom settings purpose validate client prompt (d + 1 + more) attempt
        lastError).rows.map (·.outcome) = List.replicate d .retried ++ [.ok]
    ∧ (completeLoggedFrom settings purpose validate client prompt (d + 1 + more) attempt
        lastError).result = .ok parsed := by
  induction d generalizing attempt lastError with
  | zero =>
      rw [add_zero] at hvalid
      obtain ⟨response, hreply, hparsed⟩ := hvalid
      rw [show 0 + 1 + more = more + 1 by omega,
        completeLoggedFrom_valid settings purpose hreply hparsed more lastError]
      exact ⟨rfl, rfl, rfl⟩
  | succ d ih =>
      obtain ⟨error, hstep⟩ := completeLoggedFrom_rejected settings purpose
        (hbefore attempt (le_refl attempt) (by omega)) (d + 1 + more) lastError
      have hshift : attempt + (d + 1) = attempt + 1 + d := by omega
      rw [hshift] at hbound hvalid
      have hrest := ih (attempt + 1) error hbound hvalid
        fun n hle hlt => hbefore n (by omega) (by omega)
      rw [show d + 1 + 1 + more = d + 1 + more + 1 by omega, hstep]
      -- the attempt in front is not the last one there is
      have hretried : (attempt : Int) < settings.llmMaxAttempts := by omega
      refine ⟨congrArg (client attempt prompt :: ·) hrest.1, ?_, hrest.2.2⟩
      show (logCall settings purpose attempt (some error) none none).outcome :: _ = _
      rw [logCall_retried hretried, hrest.2.1]
      rfl

/-- **The attempts when no reply is valid.** -/
theorem completeLoggedFrom_exhausted (left attempt : Nat) (lastError : Str)
    (hbound : settings.llmMaxAttempts = ((attempt + left : Nat) : Int))
    (hnone : ∀ n, attempt ≤ n → n ≤ attempt + left →
      ∀ other, ¬ ValidAt validate client prompt n other) :
    (completeLoggedFrom settings purpose validate client prompt (left + 1) attempt
        lastError).replies = (List.range' attempt (left + 1)).map (fun n => client n prompt)
    ∧ (completeLoggedFrom settings purpose validate client prompt (left + 1) attempt
        lastError).rows.map (·.outcome) = List.replicate left .retried ++ [.failed]
    ∧ ∃ error, (completeLoggedFrom settings purpose validate client prompt (left + 1) attempt
        lastError).result = .error (completeFailed settings purpose error) := by
  induction left generalizing attempt lastError with
  | zero =>
      obtain ⟨error, hstep⟩ := completeLoggedFrom_rejected settings purpose
        (hnone attempt (le_refl attempt) (by omega)) 0 lastError
      rw [hstep]
      -- the attempt number has reached the limit, so the row says failed
      have hfailed : settings.llmMaxAttempts ≤ (attempt : Int) := by omega
      refine ⟨rfl, ?_, error, rfl⟩
      show [(logCall settings purpose attempt (some error) none none).outcome] = _
      rw [logCall_failed hfailed]
      rfl
  | succ left ih =>
      obtain ⟨error, hstep⟩ := completeLoggedFrom_rejected settings purpose
        (hnone attempt (le_refl attempt) (by omega)) (left + 1) lastError
      have hrest := ih (attempt + 1) error (by omega)
        fun n hle hlt => hnone n (by omega) (by omega)
      rw [hstep]
      -- attempts are left, so the row says retried
      have hretried : (attempt : Int) < settings.llmMaxAttempts := by omega
      refine ⟨congrArg (client attempt prompt :: ·) hrest.1, ?_, hrest.2.2⟩
      show (logCall settings purpose attempt (some error) none none).outcome :: _ = _
      rw [logCall_retried hretried, hrest.2.1]
      rfl

/-- A call with the calls and the outcomes of a loop has its attempts numbered. -/
theorem callsLogged_of {left k : Nat} {last : CallOutcome} {lastError : Str}
    (hcalls : (completeLoggedFrom settings purpose validate client prompt left 1
      lastError).replies = (List.range' 1 k).map fun n => client n prompt)
    (houtcomes : (completeLoggedFrom settings purpose validate client prompt left 1
      lastError).rows.map (·.outcome) = List.replicate (k - 1) .retried ++ [last]) :
    CallsLogged client prompt
      (completeLoggedFrom settings purpose validate client prompt left 1 lastError) k last where
  calls := hcalls
  attempts := by
    rw [completeLoggedFrom_rows, hcalls, List.length_map, List.length_range']
  outcomes := houtcomes

/-- **A call with at least one attempt does what it should.** -/
theorem completeLogged_right (hattempts : 1 ≤ settings.llmMaxAttempts) :
    RetriesRight settings purpose validate client prompt
      (completeLogged settings purpose validate client prompt) where
  answered := by
    intro k parsed hfirst hbound
    obtain ⟨hone, hvalid, hbefore⟩ := hfirst
    have hk : 1 + (k - 1) = k := by omega
    have hleft : settings.llmMaxAttempts.toNat
        = k - 1 + 1 + (settings.llmMaxAttempts.toNat - k) := by omega
    have hrun := completeLoggedFrom_answered settings purpose (k - 1)
      (settings.llmMaxAttempts.toNat - k) 1 "None".toList (by rw [hk]; exact hbound)
      (by rw [hk]; exact hvalid) fun n hle hlt => hbefore n hle (by omega)
    rw [← hleft, Nat.sub_add_cancel hone] at hrun
    exact ⟨callsLogged_of settings purpose hrun.1 hrun.2.1, hrun.2.2⟩
  exhausted := by
    intro hlate
    -- of the valid replies within the bound one would be the first
    have hnone : ∀ n : Nat, 1 ≤ n → (n : Int) ≤ settings.llmMaxAttempts →
        ∀ other, ¬ ValidAt validate client prompt n other := by
      intro n
      induction n using Nat.strongRecOn with
      | ind n ih =>
          intro hone hbound other hvalid
          have hfirst : FirstValid validate client prompt n other :=
            ⟨hone, hvalid, fun m hm hlt => ih m hlt hm (by omega)⟩
          have hbeyond := hlate n other hfirst
          omega
    have hleft : settings.llmMaxAttempts.toNat = settings.llmMaxAttempts.toNat - 1 + 1 := by
      omega
    have hrun := completeLoggedFrom_exhausted settings purpose
      (settings.llmMaxAttempts.toNat - 1) 1 "None".toList (by omega)
      fun n hle hlt => hnone n hle (by omega)
    rw [← hleft] at hrun
    exact ⟨callsLogged_of settings purpose hrun.1 hrun.2.1, hrun.2.2⟩

end Loop

/-! ## §4. The call in its session. -/

/-- The tables a pass works on: those of the stories, and `llm_calls`. -/
structure UsageDb where
  db : Db
  llmCalls : List LlmCall

/-- `db.add(LlmCall(…))` and the flush. -/
def UsageDb.add (usage : UsageDb) (row : LlmCall) : UsageDb :=
  { usage with llmCalls := usage.llmCalls ++ [row] }

section Sessions

variable {α : Type} (settings : Settings) (purpose : Str) (validate : Str → Raises α)
  (client : Nat → Str → ClientReply) (prompt : Str)

/-- `_complete`, on the session it is given: each row is added and flushed. -/
def completeIn : Session UsageDb Str α :=
  completeFrom (fun _ row => Session.write fun usage => usage.add row) Session.raise settings
    purpose validate client prompt settings.llmMaxAttempts.toNat 1 "None".toList

/-- **The session holds the rows of the call**, whatever the call comes to. -/
theorem completeInFrom_eq (left attempt : Nat) (lastError : Str) (txn : Txn UsageDb) :
    completeFrom (fun _ row => Session.write fun usage => usage.add row) Session.raise settings
        purpose validate client prompt left attempt lastError txn
      = ((completeLoggedFrom settings purpose validate client prompt left attempt
            lastError).result,
          { committed := txn.committed
            view := { txn.view with
              llmCalls := txn.view.llmCalls ++ (completeLoggedFrom settings purpose validate
                client prompt left attempt lastError).rows } }) := by
  induction left generalizing attempt lastError txn with
  | zero =>
      show (_, txn) = (_, { committed := _, view := { txn.view with llmCalls := _ ++ [] } })
      rw [List.append_nil]
      rfl
  | succ left ih =>
      -- the row is added to the view, and what follows adds behind it
      have hadd : ∀ (reply : ClientReply) (row : LlmCall) (error : Str),
          completeFrom (fun _ row => Session.write fun usage => usage.add row) Session.raise
              settings purpose validate client prompt left (attempt + 1) error
              { txn with view := txn.view.add row }
            = ((Completion.after reply row (completeLoggedFrom settings purpose validate client
                prompt left (attempt + 1) error)).result,
              { committed := txn.committed
                view := { txn.view with
                  llmCalls := txn.view.llmCalls ++ (Completion.after reply row
                    (completeLoggedFrom settings purpose validate client prompt left
                      (attempt + 1) error)).rows } }) := by
        intro reply row error
        rw [ih]
        simp only [UsageDb.add, Completion.after, List.append_assoc, List.singleton_append]
      unfold completeLoggedFrom
      cases hreply : client attempt prompt with
      | raised error =>
          rw [completeFrom_raised hreply, completeFrom_raised hreply]
          exact hadd _ _ error
      | returned response =>
          cases hvalidate : validate response.text with
          | error error =>
              rw [completeFrom_rejected hreply hvalidate, completeFrom_rejected hreply hvalidate]
              exact hadd _ _ error
          | ok parsed =>
              rw [completeFrom_passed hreply hvalidate, completeFrom_passed hreply hvalidate]
              rfl

end Sessions

/-! ## §5. The pass. -/

section Pass

variable (settings : Settings) (validate : Str → Raises (List TitleClassification))
  (client : Nat → Str → ClientReply)

/-- `classify_titles`, on the session it is given. -/
def classifyTitlesIn (items : List PromptItem) :
    Session UsageDb Str (List (Int × TitleClassification)) :=
  classifyTitlesBy (completeIn settings "classify".toList validate client) settings items

/-- The results by article id. -/
def assignedFrom (batch : List Candidate) (byIndex : List (Int × TitleClassification)) :
    List (Str × TitleClassification) :=
  Dict.ofPairs (byIndex.filterMap fun entry =>
    (candidateAt batch entry.1).map fun candidate => (candidate.articleId, entry.2))

/-- `persist_categories`, on the session it is given. -/
def persistCategoriesIn (assigned : List (Str × TitleClassification)) (attemptedIds : List Str) :
    Session UsageDb Str Nat := do
  Session.write fun usage =>
    { usage with db := persistCategories usage.db assigned attemptedIds }
  Session.commit
  return assigned.length

/-- `run_classify_pass`, one session after the other.  The rows of the query are
given in the order the database has them. -/
def runClassifyPass (rows : List StoryRow) (usage : UsageDb) : Raises Nat × UsageDb :=
  let batch := loadUnclassified settings rows
  if batch = [] then (.ok 0, usage)
  else
    -- the session of the call, committed in the `finally`
    let (answer, called) := Session.run
      ((classifyTitlesIn settings validate client (batch.map (·.item))).andFinally Session.commit)
      usage
    let assigned := match answer with
      | .error _ => []
      | .ok byIndex => assignedFrom batch byIndex
    Session.run (persistCategoriesIn assigned (batch.map (·.articleId))) called

/-- The rows of the call for this batch. -/
def callRows (batch : List Candidate) : List LlmCall :=
  (completeLogged settings "classify".toList validate client
    (buildPrompt settings (batch.map (·.item)))).rows

/-- The session of the call adds the rows of the call, whether it raises or not. -/
theorem classifyTitlesIn_eq {items : List PromptItem} (hitems : items ≠ []) (usage : UsageDb) :
    classifyTitlesIn settings validate client items { committed := usage, view := usage }
      = (classifyTitles settings validate client items,
          { committed := usage
            view := { usage with llmCalls := usage.llmCalls ++ (completeLogged settings
              "classify".toList validate client (buildPrompt settings items)).rows } }) := by
  -- the session keeps what the loop logged, whichever way it ends
  have hcall := completeInFrom_eq settings "classify".toList validate client
    (buildPrompt settings items) settings.llmMaxAttempts.toNat 1 "None".toList
    { committed := usage, view := usage }
  unfold classifyTitlesIn classifyTitles classifyTitlesBy complete completeLogged
  rw [if_neg hitems, if_neg hitems]
  cases hresult : (completeLoggedFrom settings "classify".toList validate client
      (buildPrompt settings items) settings.llmMaxAttempts.toNat 1 "None".toList).result with
  | error error =>
      rw [hresult] at hcall
      exact Session.bind_error hcall
  | ok results =>
      rw [hresult] at hcall
      exact Session.bind_ok hcall

/-- **What a pass leaves**: the rows of its call, and its articles judged. -/
theorem runClassifyPass_eq (rows : List StoryRow) (usage : UsageDb)
    (hbatch : loadUnclassified settings rows ≠ []) :
    (runClassifyPass settings validate client rows usage).2
      = { db := finishPass settings validate client usage.db
            (loadUnclassified settings rows)
          llmCalls := usage.llmCalls
            ++ callRows settings validate client (loadUnclassified settings rows) } := by
  have hitems : (loadUnclassified settings rows).map (·.item) ≠ [] :=
    fun h => hbatch (List.map_eq_nil_iff.mp h)
  -- the commit stands in a finally: the rows of a failed call are kept too
  have hsession := Session.run_andFinally_commit
    (classifyTitlesIn_eq settings validate client hitems usage)
  unfold runClassifyPass
  dsimp only
  rw [if_neg hbatch, hsession]
  unfold finishPass assignedResults
  cases classifyTitles settings validate client
      ((loadUnclassified settings rows).map (·.item)) with
  | error error => rfl
  | ok byIndex => rfl

end Pass

/-! ## §6. Every client. -/

/-- **EVERY ATTEMPT IS MADE ONCE, LOGGED ONCE, AND ITS ROW IS COMMITTED**, for
every client and every number of attempts from one up. -/
theorem retries_logged_and_committed (settings : Settings)
    (hattempts : 1 ≤ settings.llmMaxAttempts) :
    (∀ (α : Type) (purpose : Str) (validate : Str → Raises α)
      (client : Nat → Str → ClientReply) (prompt : Str),
        RetriesRight settings purpose validate client prompt
          (completeLogged settings purpose validate client prompt))
    ∧ ∀ (validate : Str → Raises (List TitleClassification)) (client : Nat → Str → ClientReply)
        (rows : List StoryRow) (usage : UsageDb), loadUnclassified settings rows ≠ [] →
        (runClassifyPass settings validate client rows usage).2.llmCalls
          = usage.llmCalls
            ++ callRows settings validate client (loadUnclassified settings rows) := by
  refine ⟨fun α purpose validate client prompt =>
    completeLogged_right settings purpose hattempts, ?_⟩
  intro validate client rows usage hbatch
  rw [runClassifyPass_eq settings validate client rows usage hbatch]

/-- The second reply is the first that is valid. -/
theorem stammer_firstValid : FirstValid emptyOnly stammer [] 2 [] := by
  refine ⟨by omega, ⟨_, rfl, rfl⟩, ?_⟩
  intro attempt hone htwo other hvalid
  obtain rfl : attempt = 1 := by omega
  obtain ⟨response, hreply, hparsed⟩ := hvalid
  cases hreply
  cases hparsed

/-- A call that stammers, and a pass over two stories with it. -/
theorem retries_logged_stammer :
    (completeLogged defaultSettings "classify".toList emptyOnly stammer []).rows.map (·.outcome)
        = [.retried, .ok]
    ∧ (runClassifyPass defaultSettings emptyOnly stammer
          (unclassifiedRows defaultSettings twoCities (seconds 1790000000))
          { db := twoCities, llmCalls := [] }).2.llmCalls
        = callRows defaultSettings emptyOnly stammer (loadUnclassified defaultSettings
            (unclassifiedRows defaultSettings twoCities (seconds 1790000000))) := by
  obtain ⟨hcalls, hcommits⟩ := retries_logged_and_committed defaultSettings (by decide)
  have hright := hcalls _ "classify".toList emptyOnly stammer []
  exact ⟨(hright.answered 2 [] stammer_firstValid (by decide)).1.outcomes,
    hcommits emptyOnly stammer _ { db := twoCities, llmCalls := [] } (by decide +kernel)⟩

end Feedcast
