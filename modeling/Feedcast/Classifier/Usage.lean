/-
  Feedcast.Classifier.Usage — what the usage rows add up to
  (`services/llm.py`, `db/models/llm.py`).

  Every attempt leaves a row, and only the row of a reply that passes carries
  its tokens.  A reply that fails the schema has been billed all the same, and
  its row says nothing of it:

    • `completeLoggedFrom_rows` — one row for each reply,
    • `completeLoggedFrom_billed` — the rows, and the replies that were thrown
      away, add up to what was billed,
    • `usage_accounted_iff` — hence when the rows alone do.
-/
import Feedcast.Services.Llm

namespace Feedcast

open Feedcast.Lib

/-! ## §1. The property. -/

inductive TokenColumn where
  | prompt
  | completion
  deriving Repr, DecidableEq

def LlmResponse.tokens (response : LlmResponse) : TokenColumn → Option Int
  | .prompt => response.promptTokens
  | .completion => response.completionTokens

def LlmCall.tokens (row : LlmCall) : TokenColumn → Option Int
  | .prompt => row.promptTokens
  | .completion => row.completionTokens

/-- `SUM` of a column: a null counts for nothing. -/
def total (counts : List (Option Int)) : Int := (counts.map (·.getD 0)).sum

/-- The responses the client returned. -/
def Completion.responses {α : Type} (completion : Completion α) : List LlmResponse :=
  completion.replies.filterMap (·.response)

/-- **The rows add up to what was billed.** -/
def UsageAccounted {α : Type} (completion : Completion α) : Prop :=
  ∀ column, total (completion.rows.map (·.tokens column))
    = total (completion.responses.map (·.tokens column))

/-! ## §2. Replies that were thrown away. -/

/-- A reply whose text passes. -/
def ClientReply.passes {α : Type} (validate : Str → Raises α) : ClientReply → Bool
  | .raised _ => false
  | .returned response => (validate response.text).isOk

/-- The replies the client has for the attempts that remain. -/
def repliesFrom (client : Nat → Str → ClientReply) (prompt : Str) (left attempt : Nat) :
    List ClientReply :=
  (List.range' attempt left).map fun n => client n prompt

/-- The responses before the first that passes. -/
def wasted {α : Type} (validate : Str → Raises α) (replies : List ClientReply) :
    List LlmResponse :=
  (replies.takeWhile fun reply => !reply.passes validate).filterMap (·.response)

/-- What `_complete` throws away. -/
def wastedResponses {α : Type} (settings : Settings) (validate : Str → Raises α)
    (client : Nat → Str → ClientReply) (prompt : Str) : List LlmResponse :=
  wasted validate (repliesFrom client prompt settings.llmMaxAttempts.toNat 1)

@[simp] theorem total_cons (count : Option Int) (counts : List (Option Int)) :
    total (count :: counts) = count.getD 0 + total counts := rfl

section Wasted

variable {α : Type} {validate : Str → Raises α}

theorem wasted_raised (error : Str) (replies : List ClientReply) :
    wasted validate (.raised error :: replies) = wasted validate replies := rfl

theorem wasted_rejected {response : LlmResponse} {error : Str}
    (h : validate response.text = .error error) (replies : List ClientReply) :
    wasted validate (.returned response :: replies) = response :: wasted validate replies := by
  have hfails : ClientReply.passes validate (.returned response) = false := by
    show (validate response.text).isOk = false
    rw [h]
    rfl
  unfold wasted
  rw [List.takeWhile_cons, hfails]
  rfl

theorem wasted_passed {response : LlmResponse} {parsed : α}
    (h : validate response.text = .ok parsed) (replies : List ClientReply) :
    wasted validate (.returned response :: replies) = [] := by
  have hpasses : ClientReply.passes validate (.returned response) = true := by
    show (validate response.text).isOk = true
    rw [h]
    rfl
  unfold wasted
  rw [List.takeWhile_cons, hpasses]
  rfl

theorem after_raised (error : Str) (row : LlmCall) (rest : Completion α) :
    (Completion.after (.raised error) row rest).responses = rest.responses := rfl

theorem after_returned (response : LlmResponse) (row : LlmCall) (rest : Completion α) :
    (Completion.after (.returned response) row rest).responses = response :: rest.responses := rfl

theorem after_rows (reply : ClientReply) (row : LlmCall) (rest : Completion α) :
    (Completion.after reply row rest).rows = row :: rest.rows := rfl

end Wasted

theorem logCall_tokens (settings : Settings) (purpose : Str) (attempt : Nat) (error : Option Str)
    (response : LlmResponse) (column : TokenColumn) :
    (logCall settings purpose attempt error response.promptTokens
      response.completionTokens).tokens column = response.tokens column := by
  cases column with
  | prompt => rfl
  | completion => rfl

theorem logCall_noTokens (settings : Settings) (purpose : Str) (attempt : Nat)
    (error : Option Str) (column : TokenColumn) :
    (logCall settings purpose attempt error none none).tokens column = none := by
  cases column with
  | prompt => rfl
  | completion => rfl

/-! ## §3. The loop. -/

section Loop

variable {α : Type} (settings : Settings) (purpose : Str) (validate : Str → Raises α)
  (client : Nat → Str → ClientReply) (prompt : Str)

/-- **One row for each reply**, numbered by its attempt. -/
theorem completeLoggedFrom_rows (left attempt : Nat) (lastError : Str) :
    (completeLoggedFrom settings purpose validate client prompt left attempt lastError).rows.map
        (·.attempt)
      = List.range' attempt (completeLoggedFrom settings purpose validate client prompt left
          attempt lastError).replies.length := by
  induction left generalizing attempt lastError with
  | zero => rfl
  | succ left ih =>
      unfold completeLoggedFrom
      -- a row, and the loop goes on with the next attempt or ends here
      cases hreply : client attempt prompt with
      | raised error =>
          rw [completeFrom_raised hreply]
          exact congrArg (attempt :: ·) (ih (attempt + 1) error)
      | returned response =>
          cases hvalidate : validate response.text with
          | error error =>
              rw [completeFrom_rejected hreply hvalidate]
              exact congrArg (attempt :: ·) (ih (attempt + 1) error)
          | ok parsed =>
              rw [completeFrom_passed hreply hvalidate]
              rfl

/-- **What was billed is what the rows say, and what was thrown away.** -/
theorem completeLoggedFrom_billed (column : TokenColumn) (left attempt : Nat) (lastError : Str) :
    total ((completeLoggedFrom settings purpose validate client prompt left attempt
          lastError).responses.map (·.tokens column))
      = total ((completeLoggedFrom settings purpose validate client prompt left attempt
          lastError).rows.map (·.tokens column))
        + total ((wasted validate (repliesFrom client prompt left attempt)).map
          (·.tokens column)) := by
  induction left generalizing attempt lastError with
  | zero => rfl
  | succ left ih =>
      have hreplies : repliesFrom client prompt (left + 1) attempt
          = client attempt prompt :: repliesFrom client prompt left (attempt + 1) := rfl
      rw [hreplies]
      unfold completeLoggedFrom at ih ⊢
      cases hreply : client attempt prompt with
      | raised error =>
          -- nothing came back, and nothing was billed
          rw [completeFrom_raised hreply, Completion.log_bind, after_raised, after_rows,
            wasted_raised, List.map_cons, total_cons, logCall_noTokens, ih (attempt + 1) error]
          exact (congrArg (· + _) (zero_add _)).symm
      | returned response =>
          cases hvalidate : validate response.text with
          | error error =>
              -- billed, and the row has no tokens: the reply counts as wasted
              rw [completeFrom_rejected hreply hvalidate, Completion.log_bind, after_returned,
                after_rows, wasted_rejected hvalidate, List.map_cons, List.map_cons,
                List.map_cons, total_cons, total_cons, total_cons, logCall_noTokens,
                ih (attempt + 1) error]
              show _ = 0 + _ + _
              omega
          | ok parsed =>
              -- the one row that carries its tokens
              rw [completeFrom_passed hreply hvalidate, wasted_passed hvalidate]
              show total [response.tokens column] = total [LlmCall.tokens _ column] + 0
              rw [logCall_tokens, add_zero]

end Loop

/-! ## §4. The call. -/

/-- **THE USAGE ROWS ARE COMPLETE EXACTLY IF WHAT WAS THROWN AWAY WAS FREE.** -/
theorem usage_accounted_iff {α : Type} (settings : Settings) (purpose : Str)
    (validate : Str → Raises α) (client : Nat → Str → ClientReply) (prompt : Str) :
    UsageAccounted (completeLogged settings purpose validate client prompt) ↔
      ∀ column, total ((wastedResponses settings validate client prompt).map (·.tokens column))
        = 0 := by
  unfold UsageAccounted completeLogged wastedResponses
  refine forall_congr' fun column => ?_
  -- billed is what the rows say and what was wasted
  rw [completeLoggedFrom_billed]
  constructor
  · intro h
    omega
  · intro h
    omega

/-- A client that answers with text that is no JSON first, and with an empty
batch then. -/
def stammer (attempt : Nat) (_ : Str) : ClientReply :=
  .returned { text := if attempt = 1 then "not json".toList else "{}".toList
              promptTokens := some 50, completionTokens := some 10 }

/-- A schema that takes the empty batch only. -/
def emptyOnly (text : Str) : Raises (List TitleClassification) :=
  if text = "{}".toList then .ok [] else .error "Expecting value: line 1 column 1 (char 0)".toList

/-- Two replies of sixty tokens, and rows for one. -/
theorem stammer_unaccounted :
    ¬ UsageAccounted (completeLogged defaultSettings "classify".toList emptyOnly stammer []) := by
  intro h
  have hprompt : (50 : Int) = 100 := h .prompt
  omega

end Feedcast
