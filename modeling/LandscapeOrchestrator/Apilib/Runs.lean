import Mathlib.Init

/-!
# Runs of a labelled system

A system is given by its initial states and by what each label does; a label that
is not enabled does nothing. Runs may be restricted by a condition on each step,
so that one rule serves statements about all runs and about orderly ones.

## Main definitions

- `System` — initial states and labelled moves
- `System.Reaches` — the states reached by runs whose steps all meet a condition
- `System.follow` — the run along a list of labels, for concrete runs
- `System.after` — the runs that go on from a state
- `System.recording` — the system beside a history of its run
-/

namespace Apilib

structure System (S L : Type) where
  init : S → Prop
  next : S → L → Option S

namespace System

variable {S L : Type} {sys : System S L} {ok : S → L → Prop}

inductive Reaches (sys : System S L) (ok : S → L → Prop) : S → Prop
  | init {s : S} (h : sys.init s) : Reaches sys ok s
  | step {s t : S} {l : L} (hs : Reaches sys ok s) (hok : ok s l) (hn : sys.next s l = some t) :
      Reaches sys ok t

/-- Reached by some run, with no condition on its steps. -/
abbrev Reachable (sys : System S L) : S → Prop := Reaches sys fun _ _ => True

theorem Reaches.invariant {Inv : S → Prop} (h0 : ∀ s, sys.init s → Inv s)
    (hstep : ∀ s l t, Inv s → ok s l → sys.next s l = some t → Inv t)
    {s : S} (h : Reaches sys ok s) : Inv s := by
  induction h with
  | init h => exact h0 _ h
  | step hs hok hn ih => exact hstep _ _ _ ih hok hn

theorem Reaches.mono {ok' : S → L → Prop} (hok : ∀ s l, ok s l → ok' s l) {s : S}
    (h : Reaches sys ok s) : Reaches sys ok' s := by
  induction h with
  | init h => exact .init h
  | step hs ho hn ih => exact ih.step (hok _ _ ho) hn

/-- A condition that follows from another one in the states that one allows. -/
theorem Reaches.strengthen {ok' : S → L → Prop} (Inv : S → Prop) (h0 : ∀ s, sys.init s → Inv s)
    (hstep : ∀ s l t, Inv s → ok s l → sys.next s l = some t → Inv t)
    (hok : ∀ s l, Inv s → ok s l → ok' s l) {s : S} (h : Reaches sys ok s) : Reaches sys ok' s := by
  induction h with
  | init h => exact .init h
  | step hs ho hn ih => exact ih.step (hok _ _ (hs.invariant h0 hstep) ho) hn

/-- The run along `ls`, given up at a step that fails the check. -/
def follow (sys : System S L) (check : S → L → Bool) : S → List L → Option S
  | s, [] => some s
  | s, l :: ls => if check s l then (sys.next s l).bind fun t => sys.follow check t ls else none

variable {check : S → L → Bool}

theorem Reaches.follow (hcheck : ∀ s l, check s l = true → ok s l) {s t : S} {ls : List L}
    (h : Reaches sys ok s) (hf : sys.follow check s ls = some t) : Reaches sys ok t := by
  induction ls generalizing s with
  | nil => exact Option.some.inj hf ▸ h
  | cons l ls ih =>
    simp only [System.follow] at hf
    split at hf
    · next hl =>
      obtain ⟨u, hu, hf⟩ := Option.bind_eq_some_iff.mp hf
      exact ih (h.step (hcheck s l hl) hu) hf
    · cases hf

/-- A concrete run that ends in a state with a decidable property. -/
theorem reaches_of_follow (sys : System S L) (ls : List L) (p : S → Bool) {s : S}
    (hcheck : ∀ s l, check s l = true → ok s l) (h0 : sys.init s)
    (h : (sys.follow check s ls).map p = some true) : ∃ t, Reaches sys ok t ∧ p t = true := by
  obtain ⟨t, ht, hp⟩ := Option.map_eq_some_iff.mp h
  exact ⟨t, (Reaches.init h0).follow hcheck ht, hp⟩

theorem reachable_of_follow (sys : System S L) (ls : List L) (p : S → Bool) {s : S}
    (h0 : sys.init s) (h : (sys.follow (fun _ _ => true) s ls).map p = some true) :
    ∃ t, Reachable sys t ∧ p t = true :=
  reaches_of_follow sys ls p (fun _ _ _ => trivial) h0 h

/-- The runs that go on from `t`. -/
def after (sys : System S L) (t : S) : System S L := { sys with init := fun s => s = t }

/-- The system beside a history, which each step extends by what it saw before and
after. The history decides nothing. -/
def recording {H : Type} (sys : System S L) (note : S → L → S → H → H) (start : H) :
    System (S × H) L where
  init x := sys.init x.1 ∧ x.2 = start
  next x l := (sys.next x.1 l).map fun t => (t, note x.1 l t x.2)

theorem recording_next {H : Type} {note : S → L → S → H → H} {start : H} {x y : S × H} {l : L} :
    (sys.recording note start).next x l = some y ↔
      ∃ t, sys.next x.1 l = some t ∧ (t, note x.1 l t x.2) = y := by
  simp [recording]

end System

end Apilib
