import LandscapeOrchestrator.Apilib.Program

/-!
# The calls that went through

What a program returns depends on the answers it gets. `Prog.Paths` speaks about all
answers at once: the result is related to the calls that were answered on the way,
and nothing is said about the state. A server that keeps a log makes such a statement
one about runs, also when the state changes between two calls of the program.

## Main definitions

- `Prog.Paths` — a relation between the result and the answered calls, for all answers
- `Exec.logged` — a server beside the log of the calls it answered
- `Exec.amid` — a server whose state changes after each call
- `Prog.Attains` — a postcondition of the run on which no call fails
- `Prog.Along`, `Prog.AttainsIf` — a condition on the calls of that run, and a postcondition
  under it
- `Prog.embed` — a program as one over a larger signature
-/

namespace Apilib

variable {Op : Type} {Res : Op → Type} {S α β : Type}

/-- A call that was answered, and its answer. -/
structure Done (Op : Type) (Res : Op → Type) where
  op : Op
  answer : Res op

namespace Exec

def logged (exec : Exec Op Res S) : Exec Op Res (S × List (Done Op Res)) := fun op x =>
  ((exec op x.1).1, (exec op x.1).2, match (exec op x.1).1 with
    | .ok a => x.2 ++ [⟨op, a⟩]
    | .error _ => x.2)

/-- `change n` is what happens to the state after the `n`-th answered call. -/
def amid (exec : Exec Op Res S) (change : ℕ → S → S) : Exec Op Res (S × ℕ) := fun op x =>
  ((exec op x.1).1, change x.2 (exec op x.1).2, x.2 + 1)

end Exec

namespace Prog

/-- Only calls in `calls` are made, and `Q` holds of the result and of the log, which
each answered call extends. -/
def Paths (calls : Op → Prop) (Q : α → List (Done Op Res) → Prop) :
    Prog Op Res α → List (Done Op Res) → Prop
  | ret a, log => Q a log
  | call op k, log => calls op ∧ (∀ a, (k (.ok a)).Paths calls Q (log ++ [⟨op, a⟩])) ∧
      ∀ e, (k (.error e)).Paths calls Q log

variable {calls calls' : Op → Prop} {log : List (Done Op Res)}

@[simp] theorem paths_ret {Q : α → List (Done Op Res) → Prop} {a : α} :
    (ret a : Prog Op Res α).Paths calls Q log ↔ Q a log := Iff.rfl

theorem paths_perform_bind {Q : β → List (Done Op Res) → Prop} {op : Op}
    {f : Except ApiError (Res op) → Prog Op Res β} :
    (perform op >>= f).Paths calls Q log ↔ calls op ∧
      (∀ a, (f (.ok a)).Paths calls Q (log ++ [⟨op, a⟩])) ∧
      ∀ e, (f (.error e)).Paths calls Q log := Iff.rfl

theorem Paths.mono {p : Prog Op Res α} {Q Q' : α → List (Done Op Res) → Prop}
    (h : p.Paths calls Q log) (hcalls : ∀ op, calls op → calls' op)
    (hQ : ∀ a log, Q a log → Q' a log) : p.Paths calls' Q' log := by
  induction p generalizing log with
  | ret a => exact hQ a log h
  | call op k ih =>
    exact ⟨hcalls op h.1, fun a => ih _ (h.2.1 a), fun e => ih _ (h.2.2 e)⟩

theorem Paths.bind {p : Prog Op Res α} {f : α → Prog Op Res β}
    {R : α → List (Done Op Res) → Prop} {Q : β → List (Done Op Res) → Prop}
    (h : p.Paths calls R log) (hf : ∀ a log, R a log → (f a).Paths calls Q log) :
    (p >>= f).Paths calls Q log := by
  induction p generalizing log with
  | ret a => exact hf a log h
  | call op k ih => exact ⟨h.1, fun a => ih _ (h.2.1 a), fun e => ih _ (h.2.2 e)⟩

/-- The log grows by calls of the program. -/
theorem Paths.grows {p : Prog Op Res α} {Q : α → List (Done Op Res) → Prop}
    (h : p.Paths calls Q log) : p.Paths calls
      (fun a log' => Q a log' ∧ ∃ more, log' = log ++ more ∧ ∀ e ∈ more, calls e.op) log := by
  induction p generalizing log with
  | ret a => exact ⟨h, [], by simp⟩
  | call op k ih =>
    refine ⟨h.1, fun a => ?_, fun e => ih _ (h.2.2 e)⟩
    refine (ih _ (h.2.1 a)).mono (fun _ hop => hop) ?_
    rintro b log' ⟨hQ, more, rfl, hmore⟩
    refine ⟨hQ, ⟨op, a⟩ :: more, by simp, ?_⟩
    rw [List.forall_mem_cons]
    exact ⟨h.1, hmore⟩

variable {exec : Exec Op Res S}

/-- Against a server that keeps a log, with an invariant of the state that the calls
of the program keep. -/
theorem Paths.ensures {p : Prog Op Res α} {Q : α → List (Done Op Res) → Prop} {inv : S → Prop}
    (h : p.Paths calls Q log) (hinv : ∀ op s, calls op → inv s → inv (exec op s).2) {s : S}
    (hs : inv s) : p.Ensures exec.logged (fun a t => Q a t.2 ∧ inv t.1) (s, log) := by
  induction p generalizing log s with
  | ret a => exact ⟨h, hs⟩
  | call op k ih =>
    refine ⟨?_, fun msg => ih _ (h.2.2 _) hs⟩
    have hs' := hinv op s h.1 hs
    cases hr : (exec op s).1 with
    | ok a =>
      simp only [Exec.logged, hr]
      exact ih _ (h.2.1 a) hs'
    | error e =>
      simp only [Exec.logged, hr]
      exact ih _ (h.2.2 e) hs'

/-- Every answer in the log was given in a state with the invariant. -/
theorem ensures_logged {inv : S → Prop} {admits : (op : Op) → Res op → Prop}
    (hinv : ∀ op s, inv s → inv (exec op s).2)
    (hanswer : ∀ op s a, inv s → (exec op s).1 = .ok a → admits op a) (p : Prog Op Res α) {s : S}
    (hs : inv s) (hlog : ∀ e ∈ log, admits e.op e.answer) :
    p.Ensures exec.logged (fun _ t => ∀ e ∈ t.2, admits e.op e.answer) (s, log) := by
  induction p generalizing log s with
  | ret a => exact hlog
  | call op k ih =>
    refine ⟨?_, fun msg => ih _ hs hlog⟩
    have hs' := hinv op s hs
    cases hr : (exec op s).1 with
    | ok a =>
      simp only [Exec.logged, hr]
      refine ih _ hs' fun e he => ?_
      obtain he | he := List.mem_append.mp he
      · exact hlog e he
      · obtain rfl := List.mem_singleton.mp he
        exact hanswer op s a hs hr
    | error e =>
      simp only [Exec.logged, hr]
      exact ih _ hs' hlog

/-- The log only grows. -/
theorem ensures_log_grows (p : Prog Op Res α) (s : S) (log : List (Done Op Res)) :
    p.Ensures exec.logged (fun _ t => ∃ more, t.2 = log ++ more) (s, log) := by
  induction p generalizing s log with
  | ret a => exact ⟨[], by simp⟩
  | call op k ih =>
    refine ⟨?_, fun msg => ih _ s log⟩
    cases hr : (exec op s).1 with
    | ok a =>
      simp only [Exec.logged, hr]
      refine (ih _ _ _).mono ?_
      rintro b t ⟨more, hmore⟩
      exact ⟨⟨op, a⟩ :: more, by simpa using hmore⟩
    | error e =>
      simp only [Exec.logged, hr]
      exact ih _ _ log

/-- `Q` holds at the end of the run on which no call fails. -/
def Attains (exec : Exec Op Res S) (Q : α → S → Prop) (p : Prog Op Res α) (s : S) : Prop :=
  Q (p.run exec (fun _ => none) s).1 (p.run exec (fun _ => none) s).2

@[simp] theorem attains_ret {Q : α → S → Prop} {a : α} {s : S} :
    (ret a : Prog Op Res α).Attains exec Q s ↔ Q a s := Iff.rfl

theorem attains_perform_bind {Q : β → S → Prop} {op : Op}
    {f : Except ApiError (Res op) → Prog Op Res β} {s : S} :
    (perform op >>= f).Attains exec Q s ↔ (f (exec op s).1).Attains exec Q (exec op s).2 := Iff.rfl

theorem Attains.bind {p : Prog Op Res α} {f : α → Prog Op Res β} {R : α → S → Prop}
    {Q : β → S → Prop} {s : S} (h : p.Attains exec R s)
    (hf : ∀ a t, R a t → (f a).Attains exec Q t) : (p >>= f).Attains exec Q s := by
  induction p generalizing s with
  | ret a => exact hf a s h
  | call op k ih => exact ih _ h

/-- What holds of all runs holds of this one. -/
theorem Ensures.attains {p : Prog Op Res α} {Q : α → S → Prop} {s : S} (h : p.Ensures exec Q s) :
    p.Attains exec Q s :=
  ensures_iff_run.mp h fun _ => none

theorem Attains.and {p : Prog Op Res α} {Q Q' : α → S → Prop} {s : S} (h : p.Attains exec Q s)
    (h' : p.Attains exec Q' s) : p.Attains exec (fun a t => Q a t ∧ Q' a t) s := ⟨h, h'⟩

/-- Every call of the run on which no call fails meets `ok`. -/
def Along (exec : Exec Op Res S) (ok : Op → S → Prop) : Prog Op Res α → S → Prop
  | ret _, _ => True
  | call op k, s => ok op s ∧ (k (exec op s).1).Along exec ok (exec op s).2

/-- `Q` holds at the end of the run on which no call fails, provided that its calls
meet `ok`. -/
def AttainsIf (exec : Exec Op Res S) (ok : Op → S → Prop) (Q : α → S → Prop) :
    Prog Op Res α → S → Prop
  | ret a, s => Q a s
  | call op k, s => ok op s → (k (exec op s).1).AttainsIf exec ok Q (exec op s).2

section AttainsIf

variable {ok : Op → S → Prop} {p : Prog Op Res α} {Q Q' : α → S → Prop} {s : S}

theorem AttainsIf.bind {f : α → Prog Op Res β} {R : α → S → Prop} {Q : β → S → Prop}
    (h : p.AttainsIf exec ok R s) (hf : ∀ a t, R a t → (f a).AttainsIf exec ok Q t) :
    (p >>= f).AttainsIf exec ok Q s := by
  induction p generalizing s with
  | ret a => exact hf a s h
  | call op k ih => exact fun hok => ih _ (h hok)

theorem AttainsIf.and (h : p.AttainsIf exec ok Q s) (h' : p.AttainsIf exec ok Q' s) :
    p.AttainsIf exec ok (fun a t => Q a t ∧ Q' a t) s := by
  induction p generalizing s with
  | ret a => exact ⟨h, h'⟩
  | call op k ih => exact fun hok => ih _ (h hok) (h' hok)

theorem Ensures.attainsIf (h : p.Ensures exec Q s) : p.AttainsIf exec ok Q s := by
  induction p generalizing s with
  | ret a => exact h
  | call op k ih => exact fun _ => ih _ h.1

theorem attainsIf_invariant (inv : S → Prop) (hinv : ∀ op s, ok op s → inv s → inv (exec op s).2)
    (p : Prog Op Res α) {s : S} (hs : inv s) : p.AttainsIf exec ok (fun _ t => inv t) s := by
  induction p generalizing s with
  | ret a => exact hs
  | call op k ih => exact fun hok => ih _ (hinv op s hok hs)

theorem AttainsIf.attains (h : p.AttainsIf exec ok Q s) (hp : p.Along exec ok s) :
    p.Attains exec Q s := by
  induction p generalizing s with
  | ret a => exact h
  | call op k ih => exact ih _ (h hp.1) hp.2

theorem along_of_forall (h : ∀ op s, ok op s) (p : Prog Op Res α) (s : S) : p.Along exec ok s := by
  induction p generalizing s with
  | ret a => trivial
  | call op k ih => exact ⟨h op s, ih _ _⟩

end AttainsIf

variable {Op' : Type} {Res' : Op' → Type}

/-- The same program, with each of its calls made as a call of the other signature. -/
def embed (f : Op → Op') (back : (op : Op) → Res' (f op) → Res op) :
    Prog Op Res α → Prog Op' Res' α
  | ret a => ret a
  | call op k => call (f op) fun r => (k (r.map (back op))).embed f back

theorem embed_bind {f : Op → Op'} {back : (op : Op) → Res' (f op) → Res op} {p : Prog Op Res α}
    {g : α → Prog Op Res β} :
    (p >>= g).embed f back = p.embed f back >>= fun a => (g a).embed f back := by
  induction p with
  | ret a => rfl
  | call op k ih =>
    simp only [call_bind, embed, ih]

/-- An embedded program runs as it does on the part of the state that its calls concern. -/
theorem run_embed {S' : Type} {exec' : Exec Op' Res' S'} (part : S' → S) {f : Op → Op'}
    {back : (op : Op) → Res' (f op) → Res op}
    (h : ∀ op s, (exec' (f op) s).1.map (back op) = (exec op (part s)).1 ∧
      part (exec' (f op) s).2 = (exec op (part s)).2)
    (p : Prog Op Res α) (faults : ℕ → Option String) (s : S') :
    ((p.embed f back).run exec' faults s).1 = (p.run exec faults (part s)).1 ∧
      part ((p.embed f back).run exec' faults s).2 = (p.run exec faults (part s)).2 := by
  induction p generalizing faults s with
  | ret a => exact ⟨rfl, rfl⟩
  | call op k ih =>
    simp only [embed, run]
    cases faults 0 with
    | some msg => exact ih (.error (.fault msg)) _ s
    | none =>
      obtain ⟨hanswer, hpart⟩ := h op s
      simp only [← hanswer, ← hpart]
      exact ih _ _ _

end Prog

end Apilib
