/-
  Feedcast.Lib.Runs — finite runs of a system that takes named steps.

  `step s a` is the state after action `a`, or `none` when `a` is not enabled
  in `s`.  A property of runs is stated over the states a run passes through
  (`Throughout`) or over the steps it takes (`Along`).  The rules used
  downstream:

    • `Run.invariant` — what every step keeps, every run keeps,
    • `invariant_along` — the same for runs whose steps all meet a condition,
    • `Run.along_back` — a condition on the steps, read off the end of a run,
    • `throughout_strengthen` — a stronger property from a weaker one, step by step,
    • `throughout_iff_along` — when a step keeps the property exactly if it
      meets the condition, so does the run,
    • `Run.congr` — two systems whose steps agree run alike.
-/
import Mathlib.Data.List.Basic

namespace Feedcast.Lib

variable {σ α : Type*} {step : σ → α → Option σ} {s t u : σ} {a : α} {as bs : List α}

/-! ## §1. Runs. -/

/-- `Run step s as t`: the actions `as`, all enabled, take `s` to `t`. -/
inductive Run (step : σ → α → Option σ) : σ → List α → σ → Prop
  | nil (s : σ) : Run step s [] s
  | cons {s t u : σ} {a : α} {as : List α} :
      step s a = some t → Run step t as u → Run step s (a :: as) u

/-- The run of a list of actions, computed. -/
def exec (step : σ → α → Option σ) : σ → List α → Option σ
  | s, [] => some s
  | s, a :: as => (step s a).bind fun t => exec step t as

theorem run_iff_exec : Run step s as t ↔ exec step s as = some t := by
  induction as generalizing s with
  | nil =>
      constructor
      · intro h
        cases h
        rfl
      · intro h
        cases h
        exact Run.nil _
  | cons a as ih =>
      constructor
      · intro h
        cases h with
        | cons hs hr => simpa only [exec, hs, Option.bind_some] using ih.mp hr
      · intro h
        -- a run cannot start with a step that is refused
        cases hs : step s a with
        | none => simp [exec, hs] at h
        | some s' => exact Run.cons hs (ih.mpr (by simpa [exec, hs] using h))

/-- A system whose actions are always enabled runs any list of them. -/
theorem run_total (h : ∀ s a, (step s a).isSome) (s : σ) (as : List α) : ∃ t, Run step s as t := by
  induction as generalizing s with
  | nil => exact ⟨s, Run.nil s⟩
  | cons a as ih =>
      obtain ⟨t, ht⟩ := Option.isSome_iff_exists.mp (h s a)
      obtain ⟨u, hu⟩ := ih t
      exact ⟨u, Run.cons ht hu⟩

theorem Run.append (h : Run step s as t) (h' : Run step t bs u) : Run step s (as ++ bs) u := by
  induction h with
  | nil s => exact h'
  | cons hs _ ih => exact Run.cons hs (ih h')

/-- A run of two lists of actions passes through the end of the first. -/
theorem Run.split (h : Run step s (as ++ bs) u) : ∃ t, Run step s as t ∧ Run step t bs u := by
  induction as generalizing s with
  | nil => exact ⟨s, Run.nil s, h⟩
  | cons a as ih =>
      cases h with
      | cons ha hr =>
          obtain ⟨t, ht, hu⟩ := ih hr
          exact ⟨t, Run.cons ha ht, hu⟩

/-- **What every step keeps, every run keeps.** -/
theorem Run.invariant {I : σ → Prop} (hstep : ∀ s a t, I s → step s a = some t → I t)
    (h : Run step s as t) (hs : I s) : I t := by
  induction h with
  | nil s => exact hs
  | cons ha _ ih => exact ih (hstep _ _ _ hs ha)

/-- A relation every step keeps relates the ends of every run. -/
theorem Run.relates {R : σ → σ → Prop} (hrefl : ∀ s, R s s)
    (htrans : ∀ s t u, R s t → R t u → R s u)
    (hstep : ∀ s a t, step s a = some t → R s t) (h : Run step s as t) : R s t := by
  induction h with
  | nil s => exact hrefl s
  | cons ha _ ih => exact htrans _ _ _ (hstep _ _ _ ha) ih

/-- **Two systems whose steps agree run alike**: where `I` holds and the actions
meet `C`. -/
theorem Run.congr {step' : σ → α → Option σ} {I : σ → Prop} {C : α → Prop}
    (hI : ∀ s a t, I s → C a → step s a = some t → I t)
    (hstep : ∀ s a, I s → C a → step s a = step' s a)
    (hs : I s) (hC : ∀ a ∈ as, C a) (h : Run step s as t) : Run step' s as t := by
  induction h with
  | nil s => exact Run.nil s
  | cons ha _ ih =>
      obtain ⟨hhead, htail⟩ := List.forall_mem_cons.mp hC
      exact Run.cons (hstep _ _ hs hhead ▸ ha) (ih (hI _ _ _ hs hhead ha) htail)

/-! ## §2. Properties along a run. -/

/-- `I` holds in every state the run of `as` from `s` passes through. -/
def Throughout (step : σ → α → Option σ) (I : σ → Prop) (s : σ) (as : List α) : Prop :=
  ∀ pre, pre <+: as → ∀ t, Run step s pre t → I t

/-- Every step of the run of `as` from `s` meets `C`. -/
def Along (step : σ → α → Option σ) (C : σ → α → Prop) (s : σ) (as : List α) : Prop :=
  ∀ pre a, pre ++ [a] <+: as → ∀ t, Run step s pre t → C t a

theorem throughout_nil {I : σ → Prop} : Throughout step I s [] ↔ I s := by
  constructor
  · intro h
    exact h [] List.prefix_rfl s (Run.nil s)
  · intro h pre hpre t ht
    rw [List.prefix_nil] at hpre
    subst hpre
    cases ht
    exact h

theorem throughout_cons {I : σ → Prop} :
    Throughout step I s (a :: as) ↔ I s ∧ ∀ t, step s a = some t → Throughout step I t as := by
  constructor
  · intro h
    refine ⟨h [] List.nil_prefix s (Run.nil s), ?_⟩
    intro t ha pre hpre u hu
    exact h (a :: pre) ((List.prefix_cons_inj a).mpr hpre) u (Run.cons ha hu)
  · intro h pre hpre u hu
    obtain ⟨hs, hrest⟩ := h
    -- the run is still at its start, or has taken its first step
    cases hu with
    | nil => exact hs
    | cons ha hr =>
        obtain ⟨rfl, htail⟩ := List.cons_prefix_cons.mp hpre
        exact hrest _ ha _ htail _ hr

/-- A stronger property follows along a run where, from a state that has it, a
step to a state with the weaker one keeps it. -/
theorem throughout_strengthen {I J K : σ → Prop}
    (hK : ∀ s a t, K s → step s a = some t → K t)
    (hstep : ∀ s a t, K s → I s → J t → step s a = some t → I t)
    (hks : K s) (his : I s) (h : Throughout step J s as) : Throughout step I s as := by
  induction as generalizing s with
  | nil => exact throughout_nil.mpr his
  | cons a as ih =>
      obtain ⟨-, hrest⟩ := throughout_cons.mp h
      refine throughout_cons.mpr ⟨his, ?_⟩
      intro t ht
      have hjt : J t := hrest t ht [] List.nil_prefix t (Run.nil t)
      exact ih (hK s a t hks ht) (hstep s a t hks his hjt ht) (hrest t ht)

theorem along_nil {C : σ → α → Prop} : Along step C s [] := by
  intro pre a hpre
  simp at hpre

theorem along_cons {C : σ → α → Prop} :
    Along step C s (a :: as) ↔ C s a ∧ ∀ t, step s a = some t → Along step C t as := by
  constructor
  -- the condition at the head is the one of the empty prefix
  · intro h
    refine ⟨h [] a (by simp) s (Run.nil s), ?_⟩
    intro t ha pre b hpre u hu
    exact h (a :: pre) b ((List.prefix_cons_inj a).mpr hpre) u (Run.cons ha hu)
  · intro h pre b hpre u hu
    obtain ⟨hs, hrest⟩ := h
    -- the prefix is empty, or it starts with the same action
    cases hu with
    | nil =>
        obtain ⟨rfl, -⟩ := List.cons_prefix_cons.mp hpre
        exact hs
    | cons ha hr =>
        obtain ⟨rfl, htail⟩ := List.cons_prefix_cons.mp hpre
        exact hrest _ ha _ _ htail _ hr

/-- A condition that can be checked can be checked along a run. -/
instance decidableAlong {C : σ → α → Prop} [∀ s a, Decidable (C s a)] :
    ∀ (s : σ) (as : List α), Decidable (Along step C s as)
  | _, [] => isTrue along_nil
  | s, a :: as =>
      match h : step s a with
      | none => decidable_of_iff (C s a) (by simp [along_cons, h])
      | some t =>
          have : Decidable (Along step C t as) := decidableAlong t as
          decidable_of_iff (C s a ∧ Along step C t as) (by simp [along_cons, h])

/-- **A step rule for conditional invariants.** -/
theorem invariant_along {I : σ → Prop} {C : σ → α → Prop}
    (hstep : ∀ s a t, I s → C s a → step s a = some t → I t)
    (hs : I s) (hC : Along step C s as) : Throughout step I s as := by
  induction as generalizing s with
  | nil => exact throughout_nil.mpr hs
  | cons a as ih =>
      obtain ⟨ha, hrest⟩ := along_cons.mp hC
      refine throughout_cons.mpr ⟨hs, ?_⟩
      intro t ht
      exact ih (hstep _ _ _ hs ha ht) (hrest t ht)

/-- **The same rule read backwards**: where the state after a step shows that the
step met a condition, the end of a run shows it of all of them. -/
theorem Run.along_back {I : σ → Prop} {C : σ → α → Prop}
    (hstep : ∀ s a t, I t → step s a = some t → I s ∧ C s a)
    (h : Run step s as t) (ht : I t) : I s ∧ Along step C s as := by
  induction h with
  | nil s => exact ⟨ht, along_nil⟩
  | cons ha _ ih =>
      obtain ⟨hmid, hrest⟩ := ih ht
      obtain ⟨hs, hC⟩ := hstep _ _ _ hmid ha
      refine ⟨hs, along_cons.mpr ⟨hC, ?_⟩⟩
      intro t' ht'
      obtain rfl := Option.some.inj (ha.symm.trans ht')
      exact hrest

/-- **The exact condition of an invariant.**  `J` holds in any case; under it,
a step keeps `I` exactly if it meets `C`, and a step that is not enabled meets
it for nothing. -/
theorem throughout_iff_along {I J : σ → Prop} {C : σ → α → Prop}
    (hJ : ∀ s a t, J s → step s a = some t → J t)
    (hstep : ∀ s a t, J s → I s → step s a = some t → (I t ↔ C s a))
    (hstuck : ∀ s a, step s a = none → C s a)
    (hjs : J s) (his : I s) : Throughout step I s as ↔ Along step C s as := by
  induction as generalizing s with
  | nil =>
      constructor
      · intro _
        exact along_nil
      · intro _
        exact throughout_nil.mpr his
  | cons a as ih =>
      rw [throughout_cons, along_cons]
      cases ha : step s a with
      -- the run ends here
      | none => simp [his, hstuck s a ha]
      | some t =>
          have hkeep := hstep s a t hjs his ha
          have hjt := hJ s a t hjs ha
          constructor
          · intro h
            obtain ⟨-, h⟩ := h
            have hrest := h t rfl
            -- the property in the next state gives the condition on this step
            have hit : I t := hrest [] List.nil_prefix t (Run.nil t)
            refine ⟨hkeep.mp hit, ?_⟩
            intro t' ht'
            cases ht'
            exact (ih hjt hit).mp hrest
          · intro h
            obtain ⟨hC, h⟩ := h
            refine ⟨his, ?_⟩
            intro t' ht'
            cases ht'
            exact (ih hjt (hkeep.mpr hC)).mpr (h t rfl)

end Feedcast.Lib
