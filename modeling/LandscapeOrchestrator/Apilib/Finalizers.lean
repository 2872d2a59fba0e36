import Mathlib.Data.List.Basic

/-!
# Edits of a finalizer list

`controllerutil.AddFinalizer` appends a finalizer that is not there, and
`controllerutil.RemoveFinalizer` drops every occurrence of one.
-/

namespace Apilib

def AddsFinalizer (own : String) (before after : List String) : Prop :=
  own ∉ before ∧ after = before ++ [own]

def RemovesFinalizer (own : String) (before after : List String) : Prop :=
  own ∈ before ∧ after = before.filter (· ≠ own)

/-- As sets, the two lists differ at most in `own`, which was added or removed. -/
def EditsOnly (own : String) (before after : List String) : Prop :=
  (∀ f, f ∈ after ↔ f ∈ before ∨ f = own) ∨ ∀ f, f ∈ after ↔ f ∈ before ∧ f ≠ own

variable {own : String} {before after : List String}

theorem AddsFinalizer.editsOnly (h : AddsFinalizer own before after) :
    EditsOnly own before after := by
  obtain ⟨-, rfl⟩ := h
  exact .inl fun f => by simp

theorem RemovesFinalizer.editsOnly (h : RemovesFinalizer own before after) :
    EditsOnly own before after := by
  obtain ⟨-, rfl⟩ := h
  exact .inr fun f => by simp

/-- The finalizers of others stay. -/
theorem EditsOnly.keeps {f : String} (h : EditsOnly own before after) (hf : f ∈ before)
    (hne : f ≠ own) : f ∈ after := by
  obtain hadd | hremove := h
  · exact (hadd f).mpr (.inl hf)
  · exact (hremove f).mpr ⟨hf, hne⟩

end Apilib
