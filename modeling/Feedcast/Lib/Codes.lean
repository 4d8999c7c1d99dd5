/-
  Feedcast.Lib.Codes — text that can be read back: delimited fields and
  prefix-free codes over an arbitrary alphabet.

  A printer that joins fields is injective for one of two reasons: a field
  stops at the first symbol outside its own alphabet, or its code is
  prefix-free.  Both are stated once here:

    • `append_inj_of_stop` — split `xs ++ ys` at the first symbol that fails
      a predicate,
    • `PrefixFree.flatMap_injective` — a prefix-free code extends injectively
      to words,
    • `intercalate_injective` — joining non-empty blocks that avoid the
      separator.
-/
import Mathlib.Data.List.Basic
import Mathlib.Data.List.Infix
import Mathlib.Logic.Function.Basic

namespace Feedcast.Lib

variable {α β : Type*}

/-! ## §1. A field ends where its alphabet ends. -/

/-- The word is empty, or its first symbol lies outside `p`. -/
def Stops (p : α → Bool) (ys : List α) : Prop := ∀ y ∈ ys.head?, p y = false

@[simp] theorem stops_nil (p : α → Bool) : Stops p [] := by
  intro y hy
  simp at hy

@[simp] theorem stops_cons (p : α → Bool) (y : α) (ys : List α) :
    Stops p (y :: ys) ↔ p y = false := by
  simp [Stops]

theorem takeWhile_append_of_stop {p : α → Bool} {xs ys : List α}
    (hx : ∀ x ∈ xs, p x = true) (hy : Stops p ys) :
    (xs ++ ys).takeWhile p = xs := by
  induction xs with
  | nil =>
      cases ys with
      | nil => rfl
      | cons y ys => simp [(stops_cons p y ys).mp hy]
  | cons x xs ih =>
      have hpx : p x = true := hx x List.mem_cons_self
      rw [List.cons_append, List.takeWhile_cons_of_pos hpx,
          ih (fun z hz => hx z (List.mem_cons_of_mem _ hz))]

/-- **Delimited concatenation splits uniquely.** -/
theorem append_inj_of_stop {p : α → Bool} {xs xs' ys ys' : List α}
    (hx : ∀ x ∈ xs, p x = true) (hx' : ∀ x ∈ xs', p x = true)
    (hy : Stops p ys) (hy' : Stops p ys') (h : xs ++ ys = xs' ++ ys') :
    xs = xs' ∧ ys = ys' := by
  have htake : xs = xs' := by
    rw [← takeWhile_append_of_stop hx hy, h, takeWhile_append_of_stop hx' hy']
  subst htake
  exact ⟨rfl, List.append_cancel_left h⟩

/-! ## §2. Prefix-free codes. -/

/-- A code whose words can be split off the front of any longer word. -/
def PrefixFree (f : α → List β) : Prop :=
  ∀ (a b : α) (s t : List β), f a ++ s = f b ++ t → a = b ∧ s = t

/-- **A prefix-free code with no empty word is injective on words.** -/
theorem PrefixFree.flatMap_injective {f : α → List β} (hf : PrefixFree f)
    (hne : ∀ a, f a ≠ []) : Function.Injective (fun l : List α => l.flatMap f) := by
  intro l
  induction l with
  | nil =>
      intro l' h
      cases l' with
      | nil => rfl
      | cons b l' =>
          have hb : f b ++ l'.flatMap f = [] := by simpa using h.symm
          exact absurd (List.append_eq_nil_iff.mp hb).1 (hne b)
  | cons a l ih =>
      intro l' h
      cases l' with
      | nil =>
          have ha : f a ++ l.flatMap f = [] := by simpa using h
          exact absurd (List.append_eq_nil_iff.mp ha).1 (hne a)
      | cons b l' =>
          -- the first code word splits off both sides
          obtain ⟨hab, htail⟩ := hf a b (l.flatMap f) (l'.flatMap f) (by simpa using h)
          rw [hab, ih htail]

/-! ## §3. Joining blocks with a separator. -/

/-- Two blocks that avoid the separator, each followed by nothing or by a
separator, agree when the wholes do. -/
theorem block_inj [DecidableEq α] (sep : α) {x y s t : List α}
    (hx : sep ∉ x) (hy : sep ∉ y) (hs : ∀ c ∈ s.head?, c = sep)
    (ht : ∀ c ∈ t.head?, c = sep) (h : x ++ s = y ++ t) : x = y ∧ s = t := by
  have stop : ∀ w : List α, (∀ c ∈ w.head?, c = sep) →
      Stops (fun c => decide (c ≠ sep)) w := by
    intro w hw c hc
    simp [hw c hc]
  have avoid : ∀ w : List α, sep ∉ w → ∀ c ∈ w, decide (c ≠ sep) = true := by
    intro w hw c hc
    simp only [ne_eq, decide_eq_true_eq]
    intro hcs
    exact hw (hcs ▸ hc)
  exact append_inj_of_stop (avoid x hx) (avoid y hy) (stop s hs) (stop t ht) h

theorem intercalate_cons_tail (sep : α) (x : List α) (xs : List (List α)) :
    List.intercalate [sep] (x :: xs)
      = x ++ xs.flatMap (fun b => sep :: b) := by
  induction xs generalizing x with
  | nil => simp [List.intercalate]
  | cons b xs ih =>
      have hstep : List.intercalate [sep] (x :: b :: xs)
          = x ++ sep :: List.intercalate [sep] (b :: xs) := by
        simp [List.intercalate, List.intersperse_cons_cons]
      rw [hstep, ih b, List.flatMap_cons]
      rfl

theorem head_flatMap_sep (sep : α) (xs : List (List α)) :
    ∀ c ∈ (xs.flatMap (fun b => sep :: b)).head?, c = sep := by
  intro c hc
  cases xs with
  | nil => simp at hc
  | cons b xs => simpa using hc.symm

theorem flatMap_sep_injective [DecidableEq α] (sep : α) :
    ∀ (xs ys : List (List α)), (∀ x ∈ xs, sep ∉ x) → (∀ y ∈ ys, sep ∉ y) →
      xs.flatMap (fun b => sep :: b) = ys.flatMap (fun b => sep :: b) → xs = ys
  | [], [], _, _, _ => rfl
  | [], y :: ys, _, _, h => by simp at h
  | x :: xs, [], _, _, h => by simp at h
  | x :: xs, y :: ys, hx, hy, h => by
      -- a block ends at the next separator
      have h' : x ++ xs.flatMap (fun b => sep :: b)
          = y ++ ys.flatMap (fun b => sep :: b) := by simpa using h
      obtain ⟨hxy, htail⟩ := block_inj sep (hx x List.mem_cons_self)
        (hy y List.mem_cons_self) (head_flatMap_sep sep xs) (head_flatMap_sep sep ys) h'
      rw [hxy, flatMap_sep_injective sep xs ys
            (fun z hz => hx z (List.mem_cons_of_mem _ hz))
            (fun z hz => hy z (List.mem_cons_of_mem _ hz)) htail]

/-- **Joining non-empty blocks that avoid the separator is injective.** -/
theorem intercalate_injective [DecidableEq α] (sep : α) :
    ∀ (xs ys : List (List α)),
      (∀ x ∈ xs, sep ∉ x ∧ x ≠ []) → (∀ y ∈ ys, sep ∉ y ∧ y ≠ []) →
      List.intercalate [sep] xs = List.intercalate [sep] ys → xs = ys
  | [], [], _, _, _ => rfl
  | [], y :: ys, _, hy, h => by
      rw [intercalate_cons_tail] at h
      have hnil : y ++ ys.flatMap (fun b => sep :: b) = [] := h.symm
      exact absurd (List.append_eq_nil_iff.mp hnil).1 (hy y List.mem_cons_self).2
  | x :: xs, [], hx, _, h => by
      rw [intercalate_cons_tail] at h
      exact absurd (List.append_eq_nil_iff.mp h).1 (hx x List.mem_cons_self).2
  | x :: xs, y :: ys, hx, hy, h => by
      rw [intercalate_cons_tail, intercalate_cons_tail] at h
      -- the first part ends at the first separator
      obtain ⟨hxy, htail⟩ := block_inj sep (hx x List.mem_cons_self).1
        (hy y List.mem_cons_self).1 (head_flatMap_sep sep xs) (head_flatMap_sep sep ys) h
      rw [hxy, flatMap_sep_injective sep xs ys
            (fun z hz => (hx z (List.mem_cons_of_mem _ hz)).1)
            (fun z hz => (hy z (List.mem_cons_of_mem _ hz)).1) htail]

end Feedcast.Lib
