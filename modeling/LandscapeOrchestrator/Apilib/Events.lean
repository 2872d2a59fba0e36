import LandscapeOrchestrator.Apilib.WorkQueue

/-!
# Event filters

An object that is created, updated or deleted gives an event, and the predicates of a
controller let it pass or drop it.

## Main definitions

- `Predicate` — which events about objects of a type pass
- `Predicate.notices` — whether a change of an object gives an event that passes
-/

namespace Apilib

structure Predicate (Obj : Type) where
  create : Obj → Bool
  update : Obj → Obj → Bool
  delete : Obj → Bool

namespace Predicate

variable {Obj : Type}

/-- An update is judged by the new object. -/
def ofFilter (f : Obj → Bool) : Predicate Obj := ⟨f, fun _ new => f new, f⟩

def ofUpdate (f : Obj → Obj → Bool) : Predicate Obj := ⟨fun _ => true, f, fun _ => true⟩

def generationChanged (generation : Obj → ℕ) : Predicate Obj :=
  ofUpdate fun old new => generation old ≠ generation new

def and (p q : Predicate Obj) : Predicate Obj where
  create o := p.create o && q.create o
  update old new := p.update old new && q.update old new
  delete o := p.delete o && q.delete o

def or (p q : Predicate Obj) : Predicate Obj where
  create o := p.create o || q.create o
  update old new := p.update old new || q.update old new
  delete o := p.delete o || q.delete o

variable [DecidableEq Obj] {p : Predicate Obj}

def notices (p : Predicate Obj) : Option Obj → Option Obj → Bool
  | none, none => false
  | none, some new => p.create new
  | some old, none => p.delete old
  | some old, some new => old ≠ new && p.update old new

@[simp] theorem notices_self (o : Option Obj) : p.notices o o = false := by
  cases o <;> simp [notices]

@[simp] theorem notices_ofFilter_none (f : Obj → Bool) (o : Option Obj) :
    (ofFilter f).notices none o = o.any f := by
  cases o <;> rfl

/-- An object that is created by its filter's standards was not noticed only if it is none. -/
@[simp] theorem notices_generationChanged_and_none (generation : Obj → ℕ) (f : Obj → Bool)
    (o : Option Obj) :
    ((generationChanged generation).and (ofFilter f)).notices none o = o.any f := by
  cases o <;> rfl

end Predicate

end Apilib
