/-
  Feedcast.Static.City — the store behind the city picker (`static/js/city.js`).

  `load` is split where it awaits `apiFetch("/cities")`: what it does when it is
  called, and what the response does.  The promise of a request is its number.
  `localStorage` mirrors the selection, is read once when the page loads, and is
  left out.
-/
import Feedcast.Db.Models

namespace Feedcast

/-- The module's variables, for listeners named by `L`. -/
structure CityStore (L : Type) where
  cities : List City := []
  selectedId : Option Nat
  loaded : Bool := false
  /-- The request whose promise callers share. -/
  inFlight : Option Nat := none
  hadStoredSelection : Bool
  /-- In the order they subscribed. -/
  listeners : List L := []
  deriving DecidableEq

/-- The page has loaded, with the stored selection. -/
def CityStore.opened (L : Type) (stored : Option Nat) : CityStore L where
  selectedId := stored
  hadStoredSelection := stored.isSome

/-- What `load` returns: the list itself, or the promise of a request. -/
inductive Loading
  | now (cities : List City)
  | request (n : Nat)
  deriving DecidableEq

namespace CityStore

variable {L : Type}

/-- `load({ force })`; `next` is the number a request it issues would get. -/
def load (store : CityStore L) (force : Bool) (next : Nat) : CityStore L × Loading :=
  if store.loaded && !force then (store, .now store.cities)
  else
    match store.inFlight, force with
    | some n, false => (store, .request n)
    | _, _ => ({ store with inFlight := some next }, .request next)

/-- The selection, against a list that has arrived. -/
def settleSelection (selectedId : Option Nat) (cities : List City) : Option Nat :=
  if cities.any fun city => some city.id = selectedId then selectedId
  else cities.head?.map (·.id)

/-- The response to a request; the listeners it wakes are those there are. -/
def fulfilled (store : CityStore L) (cities : List City) : CityStore L :=
  { store with
    cities := cities
    loaded := true
    selectedId := settleSelection store.selectedId cities
    inFlight := none }

/-- The request fails, and `finally` runs. -/
def rejected (store : CityStore L) : CityStore L := { store with inFlight := none }

def invalidate (store : CityStore L) : CityStore L := { store with loaded := false }

/-- `set(id)`, which announces unless the city is the one that was selected. -/
def set (store : CityStore L) (id : Nat) : CityStore L :=
  { store with hadStoredSelection := true, selectedId := some id }

/-- The three ways a call of `load` goes: the cached list, the promise others wait
for, or a request of its own. -/
theorem load_cases (store : CityStore L) (force : Bool) (next : Nat) :
    (store.loaded = true ∧ store.load force next = (store, .now store.cities)) ∨
    (∃ n, store.inFlight = some n ∧ store.load force next = (store, .request n)) ∨
    store.load force next = ({ store with inFlight := some next }, .request next) := by
  unfold load
  -- the cache first, unless the load is forced
  by_cases hcached : (store.loaded && !force) = true
  · rw [if_pos hcached]
    exact Or.inl ⟨(Bool.and_eq_true_iff.mp hcached).1, rfl⟩
  · rw [if_neg hcached]
    cases hflight : store.inFlight with
    | none => exact Or.inr (Or.inr rfl)
    | some n =>
        cases force with
        | true => exact Or.inr (Or.inr rfl)
        | false => exact Or.inr (Or.inl ⟨n, rfl, rfl⟩)

variable [DecidableEq L]

/-- `listeners.add(listener)`. -/
def subscribe (store : CityStore L) (listener : L) : CityStore L :=
  { store with listeners :=
      if listener ∈ store.listeners then store.listeners else store.listeners ++ [listener] }

/-- What `subscribe` returns: `listeners.delete(listener)`. -/
def unsubscribe (store : CityStore L) (listener : L) : CityStore L :=
  { store with listeners := store.listeners.filter (· ≠ listener) }

end CityStore

end Feedcast
