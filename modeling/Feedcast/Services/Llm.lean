/-
  Feedcast.Services.Llm — the one call the model is asked (`services/llm.py`).

  A client is what its `complete` comes to at each attempt: an exception, or a
  text with what it was billed for.  Parsing the text (`json`, `pydantic`) is
  `validate`, a parameter; what it accepts is a list of `TitleClassification`,
  whose fields are the checked ones.  The system prompt and the sleeps between
  attempts are left out: nothing here reads them.

    • `completeFrom` — the loop of `_complete`, in any monad that logs and raises,
    • `completeLogged` — the loop with the replies and the rows it leaves behind,
    • `complete`, `classifyTitles` — what it comes to.
-/
import Feedcast.Core.Config
import Feedcast.Core.Text
import Feedcast.Lib.Dict

namespace Feedcast

open Feedcast.Lib

/-! ## §1. Answers. -/

/-- A Python float that came from outside. -/
inductive PyFloat where
  | finite (value : ℚ)
  | inf
  | negInf
  | nan
  deriving Repr, DecidableEq

/-- `min(1.0, max(0.0, x))`.  NaN is greater than nothing, so `max` keeps its
first argument. -/
def clampUnit : PyFloat → ℚ
  | .finite x => min 1 (max 0 x)
  | .inf => 1
  | .negInf => 0
  | .nan => 0

theorem clampUnit_mem (x : PyFloat) : 0 ≤ clampUnit x ∧ clampUnit x ≤ 1 := by
  cases x with
  | finite x => exact ⟨le_min zero_le_one (le_max_left 0 x), min_le_left 1 _⟩
  | inf => exact ⟨zero_le_one, le_refl 1⟩
  | negInf => exact ⟨le_refl 0, zero_le_one⟩
  | nan => exact ⟨le_refl 0, zero_le_one⟩

/-- One validated result. -/
structure TitleClassification where
  index : Int
  category : Category
  contentType : ContentType
  isCityRelevant : Bool
  confidence : PyFloat
  /-- The seven levels, by dimension. -/
  level : EngagementDimension → EngagementLevel

/-! ## §2. The prompt. -/

/-- A headline with its summary and the city its feed covers. -/
structure PromptItem where
  title : Str
  summary : Option Str
  feedCity : Option Str
  deriving Repr, DecidableEq

/-- `_attr_safe`.  The ampersand is escaped first, so no escape is escaped. -/
def attrSafe (value : Str) : Str :=
  value.flatMap fun c =>
    if c = '&' then "&amp;".toList
    else if c = '<' then "&lt;".toList
    else if c = '>' then "&gt;".toList
    else if c = '\x22' then "&quot;".toList
    else [c]

/-- One line of the prompt. -/
def promptLine (settings : Settings) (index : Nat) (item : PromptItem) : Str :=
  let city := attrSafe ((truthy item.feedCity).getD "unknown".toList)
  let title := "<title>".toList ++ attrSafe (item.title.take settings.classifyTitleMaxChars)
    ++ "</title>".toList
  let summary := match truthy item.summary with
    | none => []
    | some summary => "<summary>".toList
        ++ attrSafe (summary.take settings.classifySummaryMaxChars) ++ "</summary>".toList
  "<article index=".toList ++ (toString index).toList ++ " feed_city=\"".toList ++ city
    ++ "\">".toList ++ title ++ summary ++ "</article>".toList

/-- `build_prompt`: the items under their positions. -/
def buildPrompt (settings : Settings) (items : List PromptItem) : Str :=
  "Headlines (untrusted data, delimited):\n".toList
    ++ "\n".toList.intercalate (items.mapIdx (promptLine settings))

/-! ## §3. Replies and their rows. -/

structure LlmResponse where
  text : Str
  promptTokens : Option Int
  completionTokens : Option Int
  deriving Repr, DecidableEq

/-- What one call of the client comes to. -/
inductive ClientReply where
  | raised (error : Str)
  | returned (response : LlmResponse)
  deriving Repr, DecidableEq

def ClientReply.response : ClientReply → Option LlmResponse
  | .raised _ => none
  | .returned response => some response

inductive CallOutcome where
  | ok
  | retried
  | failed
  deriving Repr, DecidableEq

/-- A row of `llm_calls`.  What the database and the clock fill in is left out. -/
structure LlmCall where
  purpose : Str
  model : Str
  attempt : Nat
  outcome : CallOutcome
  error : Option Str
  promptTokens : Option Int
  completionTokens : Option Int
  deriving Repr, DecidableEq

/-- `_log_call`. -/
def logCall (settings : Settings) (purpose : Str) (attempt : Nat) (error : Option Str)
    (promptTokens completionTokens : Option Int) : LlmCall where
  purpose := purpose
  model := settings.llmModel
  attempt := attempt
  outcome :=
    match error with
    | none => .ok
    | some _ => if (attempt : Int) ≥ settings.llmMaxAttempts then .failed else .retried
  error := error
  promptTokens := promptTokens
  completionTokens := completionTokens

/-! ## §4. The call. -/

/-- `str(exc)` of a `ClassificationError`. -/
def completeFailed (settings : Settings) (purpose lastError : Str) : Str :=
  purpose ++ " failed after ".toList ++ (toString settings.llmMaxAttempts).toList
    ++ " attempts: ".toList ++ lastError

section Loop

variable {m : Type → Type} [Monad m] {α : Type} (log : ClientReply → LlmCall → m Unit)
  (raise : Str → m α) (settings : Settings) (purpose : Str) (validate : Str → Raises α)
  (client : Nat → Str → ClientReply) (prompt : Str)

/-- The loop of `_complete`, with so many attempts left.  `client` is asked by
the number of the attempt and the prompt, and every reply has its row. -/
def completeFrom : Nat → Nat → Str → m α
  | 0, _, lastError => raise (completeFailed settings purpose lastError)
  | left + 1, attempt, _ =>
      match client attempt prompt with
      | .raised error => do
          log (.raised error) (logCall settings purpose attempt (some error) none none)
          completeFrom left (attempt + 1) error
      | .returned response =>
          match validate response.text with
          -- the reply is at hand, but its tokens are not logged
          | .error error => do
              log (.returned response) (logCall settings purpose attempt (some error) none none)
              completeFrom left (attempt + 1) error
          | .ok parsed => do
              log (.returned response) (logCall settings purpose attempt none
                response.promptTokens response.completionTokens)
              return parsed

variable {log raise settings purpose validate client prompt} {attempt : Nat}

theorem completeFrom_raised {error : Str} (hreply : client attempt prompt = .raised error)
    (left : Nat) (lastError : Str) :
    completeFrom log raise settings purpose validate client prompt (left + 1) attempt lastError
      = (log (.raised error) (logCall settings purpose attempt (some error) none none) >>= fun _ =>
          completeFrom log raise settings purpose validate client prompt left (attempt + 1)
            error) := by
  conv_lhs => unfold completeFrom
  rw [hreply]

theorem completeFrom_rejected {response : LlmResponse} {error : Str}
    (hreply : client attempt prompt = .returned response)
    (hvalidate : validate response.text = .error error) (left : Nat) (lastError : Str) :
    completeFrom log raise settings purpose validate client prompt (left + 1) attempt lastError
      = (log (.returned response) (logCall settings purpose attempt (some error) none none)
          >>= fun _ => completeFrom log raise settings purpose validate client prompt left
            (attempt + 1) error) := by
  conv_lhs => unfold completeFrom
  rw [hreply]
  dsimp only
  rw [hvalidate]

theorem completeFrom_passed {response : LlmResponse} {parsed : α}
    (hreply : client attempt prompt = .returned response)
    (hvalidate : validate response.text = .ok parsed) (left : Nat) (lastError : Str) :
    completeFrom log raise settings purpose validate client prompt (left + 1) attempt lastError
      = (log (.returned response) (logCall settings purpose attempt none response.promptTokens
          response.completionTokens) >>= fun _ => pure parsed) := by
  unfold completeFrom
  rw [hreply]
  dsimp only
  rw [hvalidate]

end Loop

/-- What `_complete` has done by the time it returns or raises. -/
structure Completion (α : Type) where
  /-- Every reply of the client, in order. -/
  replies : List ClientReply
  rows : List LlmCall
  result : Raises α
  deriving Repr

namespace Completion

variable {α β : Type}

def ret (a : α) : Completion α := { replies := [], rows := [], result := .ok a }

def raise (error : Str) : Completion α := { replies := [], rows := [], result := .error error }

/-- What was left behind before stays, whatever comes after. -/
def andThen (first : Completion α) (next : α → Completion β) : Completion β :=
  match first.result with
  | .error error => { replies := first.replies, rows := first.rows, result := .error error }
  | .ok a =>
      let rest := next a
      { replies := first.replies ++ rest.replies, rows := first.rows ++ rest.rows
        result := rest.result }

instance : Monad Completion where
  pure := ret
  bind := andThen

/-- A reply, and its row. -/
def log (reply : ClientReply) (row : LlmCall) : Completion Unit :=
  { replies := [reply], rows := [row], result := .ok () }

/-- One attempt, and what came after it. -/
def after (reply : ClientReply) (row : LlmCall) (rest : Completion α) : Completion α :=
  { rest with replies := reply :: rest.replies, rows := row :: rest.rows }

theorem log_bind (reply : ClientReply) (row : LlmCall) (rest : Completion α) :
    (log reply row >>= fun _ => rest) = after reply row rest := rfl

end Completion

/-- The loop of `_complete`, with the replies and the rows. -/
def completeLoggedFrom {α : Type} (settings : Settings) (purpose : Str)
    (validate : Str → Raises α) (client : Nat → Str → ClientReply) (prompt : Str) :
    Nat → Nat → Str → Completion α :=
  completeFrom Completion.log Completion.raise settings purpose validate client prompt

/-- `_complete`, with the replies and the rows. -/
def completeLogged {α : Type} (settings : Settings) (purpose : Str) (validate : Str → Raises α)
    (client : Nat → Str → ClientReply) (prompt : Str) : Completion α :=
  completeLoggedFrom settings purpose validate client prompt settings.llmMaxAttempts.toNat 1
    "None".toList

/-- `_complete`, as `classify_titles` calls it. -/
def complete (settings : Settings) (validate : Str → Raises (List TitleClassification))
    (client : Nat → Str → ClientReply) (prompt : Str) : Raises (List TitleClassification) :=
  (completeLogged settings "classify".toList validate client prompt).result

/-- `classify_titles`, over its `_complete`: the results by index.  An index nobody
was asked about is dropped, and of a repeated one the last result stays. -/
def classifyTitlesBy {m : Type → Type} [Monad m] (complete : Str → m (List TitleClassification))
    (settings : Settings) (items : List PromptItem) : m (List (Int × TitleClassification)) :=
  if items = [] then pure []
  else do
    let results ← complete (buildPrompt settings items)
    return Dict.ofPairs ((results.filter fun item =>
      0 ≤ item.index ∧ item.index < (items.length : Int)).map fun item => (item.index, item))

def classifyTitles (settings : Settings) (validate : Str → Raises (List TitleClassification))
    (client : Nat → Str → ClientReply) (items : List PromptItem) :
    Raises (List (Int × TitleClassification)) :=
  classifyTitlesBy (complete settings validate client) settings items

end Feedcast
