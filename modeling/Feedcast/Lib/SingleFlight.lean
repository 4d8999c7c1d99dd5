/-
  Feedcast.Lib.SingleFlight — one operation at a time, shared by all who ask.

  Whoever asks while an operation is on its way joins it, and otherwise a new
  one is started.  An operation is answered first and lands after that; landing
  makes room for the next one, and those who joined go on with its result.

    • `Flight.join`, `Flight.answer`, `Flight.land` — the three steps,
    • `Flight.Sound` — what has not landed is the one that can be joined,
    • `Sound.join`, `Sound.answer`, `Sound.land` — each step keeps it,
    • `Sound.unique` — at most one operation is on its way,
    • `outcome_join`, `outcome_answer`, `outcome_land` — a result stays what it was.
-/
import Mathlib.Data.List.Basic

namespace Feedcast.Lib

/-! ## §1. The steps. -/

/-- How far one operation has come. -/
inductive Leg (β : Type)
  | sent
  | answered (result : β)
  | landed (result : β)
  deriving Repr, DecidableEq

structure Flight (β : Type) where
  /-- The operation whose result is shared. -/
  current : Option Nat := none
  /-- Every operation started, in order. -/
  legs : List (Leg β) := []
  deriving Repr, DecidableEq

namespace Flight

variable {β : Type} {flight flight' : Flight β} {m n : Nat} {result result' : β}

/-- Ask for a result; the answer is the number of the operation that will bring it. -/
def join (flight : Flight β) : Flight β × Nat :=
  match flight.current with
  | some n => (flight, n)
  | none =>
      ({ current := some flight.legs.length, legs := flight.legs ++ [.sent] }, flight.legs.length)

def answer (flight : Flight β) (n : Nat) (result : β) : Option (Flight β) :=
  match flight.legs[n]? with
  | some .sent => some { flight with legs := flight.legs.set n (.answered result) }
  | _ => none

def land (flight : Flight β) (n : Nat) : Option (Flight β) :=
  match flight.legs[n]? with
  | some (.answered result) => some { current := none, legs := flight.legs.set n (.landed result) }
  | _ => none

/-- What those who joined the operation go on with, once it has landed. -/
def outcome (flight : Flight β) (n : Nat) : Option β :=
  match flight.legs[n]? with
  | some (.landed result) => some result
  | _ => none

/-! ## §2. Reading the steps back. -/

theorem outcome_eq_some :
    flight.outcome n = some result ↔ flight.legs[n]? = some (.landed result) := by
  unfold Flight.outcome
  split
  · next result' h => simp [h]
  · next h =>
      constructor
      · intro hnone
        cases hnone
      · intro hlanded
        exact absurd hlanded (h result)

theorem lt_of_outcome (h : flight.outcome n = some result) : n < flight.legs.length :=
  (List.getElem?_eq_some_iff.mp (outcome_eq_some.mp h)).1

/-- An operation that is on its way is joined, and nothing is started. -/
theorem join_current (h : flight.current = some n) : flight.join = (flight, n) := by
  unfold join
  rw [h]

/-- With none on its way, the next one starts. -/
theorem join_idle (h : flight.current = none) :
    flight.join = ({ current := some flight.legs.length, legs := flight.legs ++ [.sent] },
      flight.legs.length) := by
  unfold join
  rw [h]

theorem answer_some (h : flight.answer n result = some flight') :
    flight.legs[n]? = some .sent ∧
      flight' = { flight with legs := flight.legs.set n (.answered result) } := by
  unfold answer at h
  split at h
  · next hleg => exact ⟨hleg, (Option.some.inj h).symm⟩
  · cases h

theorem land_some (h : flight.land n = some flight') :
    ∃ result, flight.legs[n]? = some (.answered result) ∧
      flight' = { current := none, legs := flight.legs.set n (.landed result) } := by
  unfold land at h
  split at h
  · next result hleg => exact ⟨result, hleg, (Option.some.inj h).symm⟩
  · cases h

/-! ## §3. A result stays what it was. -/

theorem outcome_join (h : flight.outcome n = some result) :
    flight.join.1.outcome n = some result := by
  cases hcurrent : flight.current with
  | some m => rwa [join_current hcurrent]
  | none =>
      rw [join_idle hcurrent, outcome_eq_some]
      rw [List.getElem?_append_left (lt_of_outcome h)]
      exact outcome_eq_some.mp h

/-- What a change of one leg leaves alone: the results of the others. -/
theorem outcome_set_ne {leg : Leg β} {current : Option Nat} (hne : m ≠ n) :
    ({ current := current, legs := flight.legs.set n leg } : Flight β).outcome m
      = flight.outcome m := by
  unfold Flight.outcome
  rw [List.getElem?_set_ne (Ne.symm hne)]

theorem outcome_answer (h : flight.answer n result' = some flight') (m : Nat) :
    flight'.outcome m = flight.outcome m := by
  obtain ⟨hsent, rfl⟩ := answer_some h
  by_cases hm : m = n
  · subst hm
    obtain ⟨hlt, -⟩ := List.getElem?_eq_some_iff.mp hsent
    unfold Flight.outcome
    rw [hsent, List.getElem?_set_self hlt]
  · exact outcome_set_ne hm

theorem outcome_land (h : flight.land n = some flight') (hm : flight.outcome m = some result) :
    flight'.outcome m = some result := by
  obtain ⟨answered, hleg, rfl⟩ := land_some h
  have hne : m ≠ n := by
    intro heq
    subst heq
    rw [outcome_eq_some.mp hm] at hleg
    cases hleg
  rw [outcome_set_ne hne]
  exact hm

/-! ## §4. One at a time. -/

/-- **What has not landed is the one that can be joined**, and it is the last. -/
structure Sound (flight : Flight β) : Prop where
  waiting : ∀ n, flight.current = some n ↔ n < flight.legs.length ∧ flight.outcome n = none
  last : ∀ n, flight.current = some n → n + 1 = flight.legs.length

theorem sound_idle : Sound ({} : Flight β) where
  waiting := by
    intro n
    simp
  last := by
    intro n h
    cases h

/-- **At most one operation is on its way.** -/
theorem Sound.unique (hsound : flight.Sound) (hm : m < flight.legs.length)
    (hn : n < flight.legs.length) (hm' : flight.outcome m = none) (hn' : flight.outcome n = none) :
    m = n := by
  have hcurrent := (hsound.waiting m).mpr ⟨hm, hm'⟩
  rw [(hsound.waiting n).mpr ⟨hn, hn'⟩] at hcurrent
  exact (Option.some.inj hcurrent).symm

/-- An operation starts only when all before it have landed. -/
theorem Sound.earlier (hsound : flight.Sound) (hn : n < flight.legs.length) (hm : m < n) :
    ∃ result, flight.outcome m = some result := by
  cases h : flight.outcome m with
  | some result => exact ⟨result, rfl⟩
  | none =>
      have hlast := hsound.last m ((hsound.waiting m).mpr ⟨Nat.lt_trans hm hn, h⟩)
      omega

theorem Sound.join (hsound : flight.Sound) : flight.join.1.Sound := by
  cases hcurrent : flight.current with
  | some n => rwa [join_current hcurrent]
  | none =>
      rw [join_idle hcurrent]
      -- nothing is in flight, so every leg so far has landed
      have hlanded : ∀ n < flight.legs.length, flight.outcome n ≠ none := by
        intro n hn hnone
        rw [(hsound.waiting n).mpr ⟨hn, hnone⟩] at hcurrent
        cases hcurrent
      refine ⟨?_, ?_⟩
      · intro n
        unfold Flight.outcome at hlanded ⊢
        simp only [Option.some.injEq, List.length_append, List.length_singleton]
        -- an older leg has landed, the new one has not, and there is none after it
        rcases Nat.lt_trichotomy n flight.legs.length with hlt | heq | hgt
        · rw [List.getElem?_append_left hlt]
          have hn := hlanded n hlt
          constructor
          · intro h
            omega
          · intro h
            exact absurd h.2 hn
        · subst heq
          rw [List.getElem?_concat_length]
          simp
        · constructor
          · intro h
            omega
          · intro h
            omega
      · intro n h
        obtain rfl := Option.some.inj h
        simp

theorem Sound.answer (hsound : flight.Sound) (h : flight.answer n result = some flight') :
    flight'.Sound := by
  have houtcome := outcome_answer h
  obtain ⟨-, rfl⟩ := answer_some h
  refine ⟨?_, ?_⟩
  · intro m
    rw [houtcome m, List.length_set]
    exact hsound.waiting m
  · intro m hm
    rw [List.length_set]
    exact hsound.last m hm

theorem Sound.land (hsound : flight.Sound) (h : flight.land n = some flight') :
    flight'.Sound := by
  obtain ⟨result, hleg, rfl⟩ := land_some h
  obtain ⟨hn, -⟩ := List.getElem?_eq_some_iff.mp hleg
  have hunlanded : flight.outcome n = none := by
    unfold Flight.outcome
    rw [hleg]
  refine ⟨?_, ?_⟩
  · intro m
    rw [List.length_set]
    constructor
    · intro hm
      cases hm
    · intro hm
      -- only `n` had not landed, and now it has
      obtain ⟨hm, hnone⟩ := hm
      by_cases hmn : m = n
      · subst hmn
        unfold Flight.outcome at hnone
        rw [List.getElem?_set_self hn] at hnone
        cases hnone
      · rw [outcome_set_ne hmn] at hnone
        exact absurd (hsound.unique hm hn hnone hunlanded) hmn
  · intro m hm
    cases hm

end Flight

end Feedcast.Lib
