import Mathlib.Data.List.Sort
import Mathlib.Data.String.Basic

/-!
# Unspecified orders

Two operations whose result order the language leaves open: ranging over a map
and sorting a slice with an unstable sort. Each is a function that carries what
is guaranteed about it, so that a theorem about a caller holds for every order.
-/

namespace Golib

/-- An iteration order: the entries of a map in some order, each once. -/
structure RangeOrder (α : Type) where
  range : List α → List α
  perm : ∀ l, (range l).Perm l

/-- `sort.Slice` with the comparison `less`: some arrangement in which no
element is less than one before it. -/
structure SliceSort (α : Type) (less : α → α → Bool) where
  sort : List α → List α
  perm : ∀ l, (sort l).Perm l
  sorted : ∀ l, (sort l).Pairwise fun a b => less b a = false

namespace RangeOrder

variable {α : Type}

/-- The order of insertion. -/
def insertion : RangeOrder α := ⟨id, fun _ => .rfl⟩

/-- The reverse order of insertion. -/
def reversed : RangeOrder α := ⟨List.reverse, List.reverse_perm⟩

theorem mem_range (o : RangeOrder α) {a : α} {l : List α} : a ∈ o.range l ↔ a ∈ l :=
  (o.perm l).mem_iff

end RangeOrder

namespace SliceSort

variable {α : Type} {less : α → α → Bool}

theorem sort_eq_nil (o : SliceSort α less) {l : List α} : o.sort l = [] ↔ l = [] := by
  constructor
  · intro h
    have := (o.perm l).length_eq
    rw [h] at this
    exact List.length_eq_zero_iff.mp this.symm
  · rintro rfl
    exact (o.perm []).eq_nil

/-- Insertion sort by a key, one of the arrangements. -/
def byKey {β : Type} [LinearOrder β] (key : α → β) :
    SliceSort α (fun a b => decide (key a < key b)) where
  sort := List.insertionSort fun a b => key a ≤ key b
  perm := List.perm_insertionSort _
  sorted l := by
    have : IsTrans α fun a b => key a ≤ key b := ⟨fun _ _ _ => le_trans⟩
    have : Std.Total fun a b => key a ≤ key b := ⟨fun _ _ => le_total _ _⟩
    exact (List.pairwise_insertionSort _ l).imp fun h => by simpa using h

end SliceSort

end Golib
