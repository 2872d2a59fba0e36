import Mathlib.Data.List.Basic

/-!
# Status conditions

The condition list of an object's status, over an arbitrary type `τ` of
condition types. A list is searched from the front; setting a condition changes
the first entry of its type or appends a new one.
-/

namespace Apilib

inductive ConditionStatus where
  | isTrue
  | isFalse
  | unknown
  deriving DecidableEq, Repr

/-- A reason is a text, or the name of a condition type used as one. -/
inductive Reason (τ : Type) where
  | text (s : String)
  | name (t : τ)
  deriving DecidableEq, Repr

/-- `lastTransitionTime = none` is the unset time. -/
structure Condition (τ : Type) where
  type : τ
  status : ConditionStatus
  reason : Reason τ
  message : String
  observedGeneration : ℕ
  lastTransitionTime : Option ℕ
  deriving DecidableEq, Repr

variable {τ : Type} [DecidableEq τ]

def findStatusCondition (cs : List (Condition τ)) (t : τ) : Option (Condition τ) :=
  cs.find? fun c => c.type = t

def isStatusConditionTrue (cs : List (Condition τ)) (t : τ) : Bool :=
  match findStatusCondition cs t with
  | some c => c.status = .isTrue
  | none => false

/-- An existing condition keeps its transition time unless its status changes;
an unset time of the new condition is filled with `now`. -/
def setStatusCondition (now : ℕ) : List (Condition τ) → Condition τ → List (Condition τ)
  | [], new => [{ new with lastTransitionTime := some (new.lastTransitionTime.getD now) }]
  | c :: cs, new =>
    if c.type = new.type then
      { new with
        lastTransitionTime :=
          if c.status = new.status then c.lastTransitionTime
          else some (new.lastTransitionTime.getD now) } :: cs
    else c :: setStatusCondition now cs new

def removeStatusCondition (cs : List (Condition τ)) (t : τ) : List (Condition τ) :=
  cs.filter fun c => c.type ≠ t

variable {now : ℕ} {cs : List (Condition τ)} {new : Condition τ} {t : τ}

/-- Setting a condition is read back, up to its transition time. -/
theorem findStatusCondition_set_self : ∃ time,
    findStatusCondition (setStatusCondition now cs new) new.type =
      some { new with lastTransitionTime := time } := by
  induction cs with
  | nil => exact ⟨_, by simp [setStatusCondition, findStatusCondition]; rfl⟩
  | cons c cs ih =>
    by_cases h : c.type = new.type
    · exact ⟨_, by simp [setStatusCondition, findStatusCondition, h]; rfl⟩
    · simpa [setStatusCondition, findStatusCondition, h] using ih

theorem findStatusCondition_set_of_ne (h : new.type ≠ t) :
    findStatusCondition (setStatusCondition now cs new) t = findStatusCondition cs t := by
  induction cs with
  | nil => simp [setStatusCondition, findStatusCondition, h]
  | cons c cs ih =>
    by_cases hc : c.type = new.type
    · simp [setStatusCondition, findStatusCondition, hc, h]
    · simp only [findStatusCondition] at ih
      simp [setStatusCondition, findStatusCondition, hc, List.find?_cons, ih]

@[simp] theorem findStatusCondition_remove_self :
    findStatusCondition (removeStatusCondition cs t) t = none := by
  simp [findStatusCondition, removeStatusCondition]

theorem findStatusCondition_remove_of_ne {u : τ} (h : u ≠ t) :
    findStatusCondition (removeStatusCondition cs u) t = findStatusCondition cs t := by
  simp only [findStatusCondition, removeStatusCondition, List.find?_filter]
  congr 1
  funext c
  by_cases hc : c.type = t <;> simp [hc, h.symm]

theorem isStatusConditionTrue_set (h : new.type = t) :
    isStatusConditionTrue (setStatusCondition now cs new) t = decide (new.status = .isTrue) := by
  obtain ⟨time, hfind⟩ := @findStatusCondition_set_self _ _ now cs new
  subst h
  simp [isStatusConditionTrue, hfind]

theorem isStatusConditionTrue_set_of_ne (h : new.type ≠ t) :
    isStatusConditionTrue (setStatusCondition now cs new) t = isStatusConditionTrue cs t := by
  simp [isStatusConditionTrue, findStatusCondition_set_of_ne h]

theorem isStatusConditionTrue_remove_of_ne {u : τ} (h : u ≠ t) :
    isStatusConditionTrue (removeStatusCondition cs u) t = isStatusConditionTrue cs t := by
  simp [isStatusConditionTrue, findStatusCondition_remove_of_ne h]

/-- The condition is on record, whenever it was set. -/
def Says (cs : List (Condition τ)) (c : Condition τ) : Prop :=
  ∃ time, findStatusCondition cs c.type = some { c with lastTransitionTime := time }

theorem says_set : Says (setStatusCondition now cs new) new := findStatusCondition_set_self

theorem Says.congr {cs' : List (Condition τ)} {c : Condition τ} (h : Says cs c)
    (hfind : findStatusCondition cs' c.type = findStatusCondition cs c.type) : Says cs' c := by
  obtain ⟨time, h⟩ := h
  exact ⟨time, hfind.trans h⟩

/-- Setting what is on record changes nothing. -/
theorem Says.set_eq (h : Says cs new) : setStatusCondition now cs new = cs := by
  obtain ⟨time, hfind⟩ := h
  induction cs with
  | nil => cases hfind
  | cons c cs ih =>
    by_cases hc : c.type = new.type
    · obtain rfl : c = { new with lastTransitionTime := time } := by
        simpa [findStatusCondition, hc] using hfind
      simp [setStatusCondition]
    · have hrest : findStatusCondition cs new.type = some { new with lastTransitionTime := time } := by
        simpa [findStatusCondition, hc] using hfind
      simp [setStatusCondition, hc, ih hrest]

theorem findStatusCondition_setAll_of_ne {news : List (Condition τ)} (h : ∀ c ∈ news, c.type ≠ t) :
    findStatusCondition (news.foldl (setStatusCondition now) cs) t = findStatusCondition cs t := by
  induction news generalizing cs with
  | nil => rfl
  | cons c news ih =>
    rw [List.foldl_cons, ih fun c' hc' => h c' (List.mem_cons_of_mem _ hc')]
    exact findStatusCondition_set_of_ne (h c List.mem_cons_self)

/-- Conditions of different types are all on record once they are set. -/
theorem says_setAll (now : ℕ) (cs : List (Condition τ)) {news : List (Condition τ)}
    (h : (news.map Condition.type).Nodup) : ∀ c ∈ news, Says (news.foldl (setStatusCondition now) cs) c := by
  induction news generalizing cs with
  | nil => simp
  | cons c news ih =>
    obtain ⟨hfresh, hrest⟩ := List.nodup_cons.mp h
    intro c' hc'
    obtain rfl | hc' := List.mem_cons.mp hc'
    · refine (@says_set _ _ now cs c').congr ?_
      rw [List.foldl_cons]
      refine findStatusCondition_setAll_of_ne fun c hc heq => ?_
      exact hfresh (List.mem_map.mpr ⟨c, hc, heq⟩)
    · exact ih _ hrest c' hc'

theorem setAll_eq_of_said {news : List (Condition τ)} (h : ∀ c ∈ news, Says cs c) :
    news.foldl (setStatusCondition now) cs = cs := by
  induction news with
  | nil => rfl
  | cons c news ih =>
    rw [List.foldl_cons, (h c List.mem_cons_self).set_eq]
    exact ih fun c' hc' => h c' (List.mem_cons_of_mem _ hc')

end Apilib
