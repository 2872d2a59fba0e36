import Mathlib.Data.List.Basic
import Mathlib.Logic.Function.Basic

/-!
# Single flights

Callers that ask for one key at the same time share one call: the first leads a
flight, the others follow it and take its result. A flight is known by its number in
the order of starts.

## Main definitions

- `Flights` — the flights under way, those that have landed, and the keys of all
- `Flights.join`, `Flights.land` — a caller arrives, a leader leaves
- `Flights.Holds` — every result is one for the key of its flight
-/

namespace Golib

variable {K V : Type}

/-- `current` are the flights under way by key, `started` the keys of all flights, and
`landed` the results of those that are over. -/
structure Flights (K V : Type) where
  current : K → Option ℕ
  started : List K
  landed : ℕ → Option V

/-- How a caller takes part in a flight. -/
inductive Ticket where
  | lead (flight : ℕ)
  | follow (flight : ℕ)

namespace Flights

def empty : Flights K V := ⟨fun _ => none, [], fun _ => none⟩

section

variable [DecidableEq K]

/-- A new flight. -/
def start (g : Flights K V) (key : K) : Flights K V :=
  { g with
    current := Function.update g.current key (some g.started.length)
    started := g.started ++ [key] }

/-- A caller for `key` follows the flight under way, or leads a new one. -/
def join (g : Flights K V) (key : K) : Ticket × Flights K V :=
  match g.current key with
  | some n => (.follow n, g)
  | none => (.lead g.started.length, g.start key)

/-- The leader of flight `n` leaves its result and makes room for the next flight. -/
def land (g : Flights K V) (key : K) (n : ℕ) (v : V) : Flights K V :=
  { g with
    current := if g.current key = some n then Function.update g.current key none else g.current
    landed := Function.update g.landed n (some v) }

end

/-- Flights are filed under their own keys, and `Good key v` for every result `v` of a
flight for `key`. -/
structure Holds (Good : K → V → Prop) (g : Flights K V) : Prop where
  current : ∀ key n, g.current key = some n → g.started[n]? = some key
  landed : ∀ n v, g.landed n = some v → ∃ key, g.started[n]? = some key ∧ Good key v

variable {Good : K → V → Prop} {g : Flights K V} {key : K} {n : ℕ} {v : V}

theorem Holds.empty : (empty : Flights K V).Holds Good :=
  ⟨fun key n h => (by cases h), fun n v h => (by cases h)⟩

theorem Holds.mono {Good' : K → V → Prop} (h : g.Holds Good)
    (hgood : ∀ key v, Good key v → Good' key v) : g.Holds Good' where
  current := h.current
  landed n v hv := by
    obtain ⟨key, hkey, hg⟩ := h.landed n v hv
    exact ⟨key, hkey, hgood key v hg⟩

/-- The keys of flights do not change. -/
theorem started_of_prefix {keys keys' : List K} (hp : keys <+: keys') (h : keys[n]? = some key) :
    keys'[n]? = some key := by
  obtain ⟨more, rfl⟩ := hp
  obtain ⟨hlt, -⟩ := List.getElem?_eq_some_iff.mp h
  rw [List.getElem?_append_left hlt, h]

/-- What a follower takes is a result for its own key. -/
theorem Holds.result (h : g.Holds Good) (hn : g.started[n]? = some key) (hv : g.landed n = some v) :
    Good key v := by
  obtain ⟨key', hkey', hgood⟩ := h.landed n v hv
  obtain rfl := Option.some.inj (hn.symm.trans hkey')
  exact hgood

variable [DecidableEq K]

theorem join_of_some (hn : g.current key = some n) : g.join key = (.follow n, g) := by
  simp only [join, hn]

theorem join_of_none (hn : g.current key = none) :
    g.join key = (.lead g.started.length, g.start key) := by
  simp only [join, hn]

theorem Holds.start (h : g.Holds Good) : (g.start key).Holds Good where
  current key' n hcur := by
    by_cases hk : key' = key
    · subst hk
      simp only [Flights.start, Function.update_self, Option.some.injEq] at hcur
      subst hcur
      exact List.getElem?_concat_length
    · simp only [Flights.start, Function.update_of_ne hk] at hcur
      exact started_of_prefix (List.prefix_append _ _) (h.current key' n hcur)
  landed n v hv := by
    obtain ⟨key', hkey', hgood⟩ := h.landed n v hv
    exact ⟨key', started_of_prefix (List.prefix_append _ _) hkey', hgood⟩

theorem Holds.land (h : g.Holds Good) (hn : g.started[n]? = some key) (hv : Good key v) :
    (g.land key n v).Holds Good where
  current key' m hcur := by
    refine h.current key' m ?_
    simp only [Flights.land] at hcur
    split at hcur
    · by_cases hk : key' = key
      · simp [hk] at hcur
      · rwa [Function.update_of_ne hk] at hcur
    · exact hcur
  landed m w hw := by
    by_cases hm : m = n
    · subst hm
      simp only [Flights.land, Function.update_self, Option.some.injEq] at hw
      exact ⟨key, hn, hw ▸ hv⟩
    · simp only [Flights.land, Function.update_of_ne hm] at hw
      exact h.landed m w hw

end Flights

end Golib
