/-
  Feedcast.Lib.Grammar — texts that are read in one way only.

  A grammar says which texts mean which values.  It is unambiguous before some
  continuations if a text of it can be split off the front of a longer one, and
  its value with it; grammars put together from such parts are read in one way:

    • `unambiguous_of_stop` — a field that ends where its alphabet ends,
    • `Escaped.unambiguous` — text with entity references,
    • `optional_unambiguous`, `joined_unique` — an optional part, and a list.
-/
import Feedcast.Lib.Codes

namespace Feedcast.Lib

variable {α β : Type*}

/-! ## §1. Reading off the front. -/

/-- **A text of the grammar is split off the front in one way**, before what
may follow it. -/
def Unambiguous (g : List α → β → Prop) (follow : List α → Prop) : Prop :=
  ∀ ⦃s s' rest rest' : List α⦄ ⦃b b' : β⦄, g s b → g s' b' → follow rest → follow rest' →
    s ++ rest = s' ++ rest' → s = s' ∧ b = b' ∧ rest = rest'

theorem Unambiguous.mono {g : List α → β → Prop} {follow follow' : List α → Prop}
    (h : Unambiguous g follow) (hsub : ∀ rest, follow' rest → follow rest) :
    Unambiguous g follow' :=
  fun _ _ _ _ _ _ hb hb' hrest hrest' => h hb hb' (hsub _ hrest) (hsub _ hrest')

/-- **A field ends where its alphabet ends.** -/
theorem unambiguous_of_stop {g : List α → β → Prop} {p : α → Bool}
    (halphabet : ∀ s b, g s b → ∀ x ∈ s, p x = true)
    (hvalue : ∀ s b b', g s b → g s b' → b = b') : Unambiguous g (Stops p) := by
  intro s s' rest rest' b b' hb hb' hrest hrest' heq
  obtain ⟨rfl, htail⟩ :=
    append_inj_of_stop (halphabet s b hb) (halphabet s' b' hb') hrest hrest' heq
  exact ⟨rfl, hvalue s b b' hb hb', htail⟩

/-! ## §2. Entity references. -/

/-- Names of symbols, between an opening and a closing mark. -/
structure Entities (α : Type*) where
  opening : α
  closing : α
  decode : List α → Option α
  closed : ∀ name c, decode name = some c → closing ∉ name

/-- Text in which a symbol stands for itself, if it is a plain one, or is
referred to by name. -/
inductive Escaped (E : Entities α) (plain : α → Bool) : List α → List α → Prop
  | nil : Escaped E plain [] []
  | plain {c : α} {s t : List α} (hc : plain c = true) (h : Escaped E plain s t) :
      Escaped E plain (c :: s) (c :: t)
  | entity {name : List α} {c : α} {s t : List α} (hc : E.decode name = some c)
      (h : Escaped E plain s t) :
      Escaped E plain (E.opening :: (name ++ E.closing :: s)) (c :: t)

/-- What may follow text: something that is no text. -/
def EndsText [DecidableEq α] (E : Entities α) (plain : α → Bool) : List α → Prop :=
  Stops fun c => plain c || decide (c = E.opening)

section Escaped

variable [DecidableEq α] {E : Entities α} {plain : α → Bool}

/-- Text is not what may follow text. -/
theorem EndsText.not_plain {c : α} {rest : List α} (h : EndsText E plain (c :: rest)) :
    plain c = false := by
  have hc := (stops_cons _ c rest).mp h
  exact (Bool.or_eq_false_iff.mp hc).1

theorem EndsText.not_opening {rest : List α} (h : EndsText E plain (E.opening :: rest)) :
    False := by
  have hc := (stops_cons _ E.opening rest).mp h
  simp at hc

/-- **Text with references is read in one way**, if the opening mark is no plain
symbol. -/
theorem Escaped.unambiguous (hopening : plain E.opening = false) :
    Unambiguous (Escaped E plain) (EndsText E plain) := by
  intro s s' rest rest' t t' h h' hrest hrest' heq
  induction h generalizing s' t' with
  | nil =>
      cases h' with
      | nil => exact ⟨rfl, rfl, heq⟩
      -- what may follow the text is not more of it
      | plain hc' _ =>
          rw [List.nil_append, List.cons_append] at heq
          rw [heq] at hrest
          rw [hrest.not_plain] at hc'
          cases hc'
      | entity _ _ =>
          rw [List.nil_append, List.cons_append] at heq
          rw [heq] at hrest
          exact hrest.not_opening.elim
  | @plain c s t hc _ ih =>
      cases h' with
      | nil =>
          rw [List.nil_append, List.cons_append] at heq
          rw [← heq] at hrest'
          rw [hrest'.not_plain] at hc
          cases hc
      | plain _ htail =>
          rw [List.cons_append, List.cons_append] at heq
          obtain ⟨rfl, hrests⟩ := List.cons.inj heq
          obtain ⟨rfl, rfl, rfl⟩ := ih htail hrests
          exact ⟨rfl, rfl, rfl⟩
      | entity _ _ =>
          -- no plain character opens a reference
          rw [(List.cons.inj heq).1, hopening] at hc
          cases hc
  | @entity name c s t hc _ ih =>
      cases h' with
      | nil =>
          rw [List.nil_append, List.cons_append] at heq
          rw [← heq] at hrest'
          exact hrest'.not_opening.elim
      | plain hc' _ =>
          rw [← (List.cons.inj heq).1, hopening] at hc'
          cases hc'
      | @entity name' c' s' t' hc' htail =>
          -- a name ends at the closing mark
          rw [List.cons_append, List.cons_append] at heq
          have hnames := (List.cons.inj heq).2
          rw [List.append_assoc, List.append_assoc] at hnames
          obtain ⟨rfl, hrests⟩ := block_inj E.closing (E.closed _ _ hc) (E.closed _ _ hc')
            (by simp) (by simp) hnames
          obtain ⟨rfl, rfl, rfl⟩ := ih htail (List.cons.inj hrests).2
          obtain rfl := Option.some.inj (hc.symm.trans hc')
          exact ⟨rfl, rfl, rfl⟩

omit [DecidableEq α] in
/-- **Escaped symbol by symbol, a word is read back.** -/
theorem escaped_flatMap {escape : α → List α}
    (hescape : ∀ c, (escape c = [c] ∧ plain c = true)
      ∨ ∃ name, escape c = E.opening :: (name ++ [E.closing]) ∧ E.decode name = some c)
    (word : List α) : Escaped E plain (word.flatMap escape) word := by
  induction word with
  | nil => exact .nil
  | cons c word ih =>
      rw [List.flatMap_cons]
      rcases hescape c with ⟨hself, hc⟩ | ⟨name, hname, hc⟩
      · rw [hself]
        exact .plain hc ih
      · rw [hname, List.cons_append, List.append_assoc]
        exact .entity hc ih

end Escaped

/-! ## §3. Optional parts and lists. -/

/-- A part that may be missing. -/
def Optional (g : List α → β → Prop) (s : List α) : Option β → Prop
  | none => s = []
  | some b => g s b

/-- An optional part is read in one way, if it does not look like what follows. -/
theorem optional_unambiguous {g : List α → β → Prop} {follow : List α → Prop}
    (h : Unambiguous g follow)
    (hapart : ∀ s b rest rest', g s b → follow rest' → s ++ rest ≠ rest') :
    Unambiguous (Optional g) follow := by
  intro s s' rest rest' o o' ho ho' hrest hrest' heq
  -- a part that is there and one that is not cannot read the same text
  cases o with
  | none =>
      obtain rfl : s = [] := ho
      cases o' with
      | none =>
          obtain rfl : s' = [] := ho'
          exact ⟨rfl, rfl, heq⟩
      | some b' => exact absurd heq.symm (hapart s' b' rest' rest ho' hrest)
  | some b =>
      cases o' with
      | none =>
          obtain rfl : s' = [] := ho'
          exact absurd heq (hapart s b rest rest' ho hrest')
      | some b' =>
          obtain ⟨hs, hb, htail⟩ := h ho ho' hrest hrest' heq
          exact ⟨hs, congrArg some hb, htail⟩

/-- A list of parts, with a separator between them. -/
def Joined (g : List α → β → Prop) (sep : α) (s : List α) (bs : List β) : Prop :=
  ∃ parts, List.Forall₂ g parts bs ∧ s = List.intercalate [sep] parts

/-- Numbered values, each written by a text of its own. -/
theorem forall₂_mapIdx {γ : Type*} {g : List α → β → Prop} {write : Nat → γ → List α}
    {value : Nat → γ → β} (h : ∀ i x, g (write i x) (value i x)) (xs : List γ) :
    List.Forall₂ g (xs.mapIdx write) (xs.mapIdx value) := by
  induction xs generalizing write value with
  | nil => exact .nil
  | cons x xs ih =>
      rw [List.mapIdx_cons, List.mapIdx_cons]
      exact .cons (h 0 x) (ih fun i x => h (i + 1) x)

/-- What may follow a part of a list: nothing, or the separator. -/
def EndsPart (sep : α) (rest : List α) : Prop := ∀ c ∈ rest.head?, c = sep

theorem joinedTail_unique {g : List α → β → Prop} {sep : α} (h : Unambiguous g (EndsPart sep))
    {parts parts' : List (List α)} {bs bs' : List β} (hparts : List.Forall₂ g parts bs)
    (hparts' : List.Forall₂ g parts' bs')
    (heq : parts.flatMap (fun part => sep :: part) = parts'.flatMap fun part => sep :: part) :
    bs = bs' := by
  induction hparts generalizing parts' bs' with
  | nil =>
      cases hparts' with
      | nil => rfl
      | cons _ _ => cases heq
  | cons hb hrest ih =>
      cases hparts' with
      | nil => cases heq
      | cons hb' hrest' =>
          rw [List.flatMap_cons, List.flatMap_cons, List.cons_append, List.cons_append] at heq
          -- each part ends at the next separator, so the first parts agree
          obtain ⟨-, rfl, htail⟩ := h hb hb' (head_flatMap_sep sep _) (head_flatMap_sep sep _)
            (List.cons.inj heq).2
          rw [ih hrest' htail]

/-- **A list is read in one way**, if its parts are, and none is empty. -/
theorem joined_unique {g : List α → β → Prop} {sep : α} (h : Unambiguous g (EndsPart sep))
    (hne : ∀ b, ¬ g [] b) {s : List α} {bs bs' : List β} (hbs : Joined g sep s bs)
    (hbs' : Joined g sep s bs') : bs = bs' := by
  obtain ⟨parts, hparts, rfl⟩ := hbs
  obtain ⟨parts', hparts', heq⟩ := hbs'
  cases hparts with
  -- no part is empty, so an empty text joins nothing
  | nil =>
      cases hparts' with
      | nil => rfl
      | cons hb' _ =>
          rw [intercalate_cons_tail] at heq
          rw [(List.append_eq_nil_iff.mp heq.symm).1] at hb'
          exact absurd hb' (hne _)
  | cons hb hrest =>
      rw [intercalate_cons_tail] at heq
      cases hparts' with
      | nil =>
          rw [(List.append_eq_nil_iff.mp heq).1] at hb
          exact absurd hb (hne _)
      | cons hb' hrest' =>
          rw [intercalate_cons_tail] at heq
          -- the first part ends at the first separator on both sides
          obtain ⟨-, rfl, htail⟩ := h hb hb' (head_flatMap_sep sep _) (head_flatMap_sep sep _) heq
          rw [joinedTail_unique h hrest hrest' htail]

end Feedcast.Lib
