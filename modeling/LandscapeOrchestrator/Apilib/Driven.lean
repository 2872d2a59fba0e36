import LandscapeOrchestrator.Apilib.Runs

/-!
# A system that another one drives

Two systems look at one thing, each through a state of its own. Every step of the first
is accompanied by the moves of the second that bring its state up to date; the second
also moves on its own.

## Main definitions

- `System.drive` — both systems, as one
- `System.Reaches.driver`, `System.Reaches.driven` — what each of them takes for a run of
  its own
- `System.Reaches.related` — the rule for a relation between the two states
-/

namespace Apilib.System

variable {S L T M : Type}

/-- `effect s l s' t` are the moves of `B` at `t` that go with the step of `A` from `s` to
`s'`. -/
def drive (A : System S L) (B : System T M) (effect : S → L → S → T → List M)
    (R : S → T → Prop) : System (S × T) (L ⊕ M) where
  init x := A.init x.1 ∧ B.init x.2 ∧ R x.1 x.2
  next x
    | .inl l => (A.next x.1 l).bind fun s =>
      (B.follow (fun _ _ => true) x.2 (effect x.1 l s x.2)).map fun t => (s, t)
    | .inr m => (B.next x.2 m).map fun t => (x.1, t)

section

variable {A : System S L} {B : System T M} {effect : S → L → S → T → List M} {R : S → T → Prop}
  {ok : S × T → L ⊕ M → Prop} {x : S × T}

/-- The moves of a run all meet a condition that holds of them. -/
theorem Reaches.moves {okB : T → M → Prop} {t t' : T} {ms : List M}
    (hok : ∀ m ∈ ms, ∀ t, okB t m) (h : B.Reaches okB t)
    (hf : B.follow (fun _ _ => true) t ms = some t') : B.Reaches okB t' := by
  induction ms generalizing t with
  | nil => exact Option.some.inj hf ▸ h
  | cons m ms ih =>
    obtain ⟨hm, hms⟩ := List.forall_mem_cons.mp hok
    simp only [System.follow, if_true] at hf
    obtain ⟨u, hu, hf⟩ := Option.bind_eq_some_iff.mp hf
    exact ih hms (h.step (hm t) hu) hf

/-- What a step of both systems is. -/
theorem drive_next {l : L ⊕ M} {y : S × T} (hn : (A.drive B effect R).next x l = some y) :
    (∃ m, l = .inl m ∧ A.next x.1 m = some y.1 ∧
      B.follow (fun _ _ => true) x.2 (effect x.1 m y.1 x.2) = some y.2) ∨
    ∃ m, l = .inr m ∧ B.next x.2 m = some y.2 ∧ y.1 = x.1 := by
  cases l with
  | inl m =>
    obtain ⟨s, hs, hf⟩ := Option.bind_eq_some_iff.mp hn
    obtain ⟨t, ht, rfl⟩ := Option.map_eq_some_iff.mp hf
    exact .inl ⟨m, rfl, hs, ht⟩
  | inr m =>
    obtain ⟨t, ht, rfl⟩ := Option.map_eq_some_iff.mp hn
    exact .inr ⟨m, rfl, ht, rfl⟩

theorem Reaches.driver (h : (A.drive B effect R).Reaches ok x) : A.Reachable x.1 := by
  induction h with
  | init hx => exact .init hx.1
  | step _ _ hn ih =>
    obtain ⟨m, -, hA, -⟩ | ⟨m, -, -, heq⟩ := drive_next hn
    · exact ih.step trivial hA
    · rwa [heq]

theorem Reaches.driven {okB : T → M → Prop}
    (heffect : ∀ s l s' t, ∀ m ∈ effect s l s' t, ∀ t', okB t' m)
    (hown : ∀ x m, ok x (.inr m) → okB x.2 m)
    (h : (A.drive B effect R).Reaches ok x) : B.Reaches okB x.2 := by
  induction h with
  | init hx => exact .init hx.2.1
  | @step x y l _ hok hn ih =>
    obtain ⟨m, rfl, -, hf⟩ | ⟨m, rfl, hB, -⟩ := drive_next hn
    · exact ih.moves (heffect _ _ _ _) hf
    · exact ih.step (hown x m hok) hB

/-- The two states agree when each step of the first brings the second up to date, and no
move that the second makes on its own spoils that. -/
theorem Reaches.related
    (hdrive : ∀ s l s' t t', A.next s l = some s' →
      B.follow (fun _ _ => true) t (effect s l s' t) = some t' → R s t → R s' t')
    (hown : ∀ x m t', ok x (.inr m) → B.next x.2 m = some t' → R x.1 x.2 → R x.1 t')
    (h : (A.drive B effect R).Reaches ok x) : R x.1 x.2 := by
  induction h with
  | init hx => exact hx.2.2
  | @step x y l _ hok hn ih =>
    obtain ⟨m, rfl, hA, hf⟩ | ⟨m, rfl, hB, heq⟩ := drive_next hn
    · exact hdrive _ _ _ _ _ hA hf ih
    · rw [heq]
      exact hown x m _ hok hB ih

end

end Apilib.System
