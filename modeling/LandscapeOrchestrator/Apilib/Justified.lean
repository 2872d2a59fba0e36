import LandscapeOrchestrator.Apilib.Paths

/-!
# Calls that rest on earlier answers

A call may be made only with what earlier calls have returned. `Prog.Justified` relates
every call of a program to the log of the calls before it, for all answers at once, so the
relation also holds where the state changes between two calls.

## Main definitions

- `Prog.Justified` — every call is related to the log before it, and the result to the
  whole log
-/

namespace Apilib.Prog

variable {Op : Type} {Res : Op → Type} {S α β : Type}

def Justified (P : List (Done Op Res) → Op → Prop) (Q : α → List (Done Op Res) → Prop) :
    Prog Op Res α → List (Done Op Res) → Prop
  | ret a, log => Q a log
  | call op k, log => P log op ∧ (∀ a, (k (.ok a)).Justified P Q (log ++ [⟨op, a⟩])) ∧
      ∀ e, (k (.error e)).Justified P Q log

variable {P : List (Done Op Res) → Op → Prop} {log : List (Done Op Res)}

@[simp] theorem justified_ret {Q : α → List (Done Op Res) → Prop} {a : α} :
    (ret a : Prog Op Res α).Justified P Q log ↔ Q a log := Iff.rfl

theorem justified_perform_bind {Q : β → List (Done Op Res) → Prop} {op : Op}
    {f : Except ApiError (Res op) → Prog Op Res β} :
    (perform op >>= f).Justified P Q log ↔ P log op ∧
      (∀ a, (f (.ok a)).Justified P Q (log ++ [⟨op, a⟩])) ∧
      ∀ e, (f (.error e)).Justified P Q log := Iff.rfl

theorem Justified.bind {p : Prog Op Res α} {f : α → Prog Op Res β}
    {R : α → List (Done Op Res) → Prop} {Q : β → List (Done Op Res) → Prop}
    (h : p.Justified P R log) (hf : ∀ a log, R a log → (f a).Justified P Q log) :
    (p >>= f).Justified P Q log := by
  induction p generalizing log with
  | ret a => exact hf a log h
  | call op k ih => exact ⟨h.1, fun a => ih _ (h.2.1 a), fun e => ih _ (h.2.2 e)⟩

theorem Justified.mono {p : Prog Op Res α} {Q Q' : α → List (Done Op Res) → Prop}
    (h : p.Justified P Q log) (hQ : ∀ a log, Q a log → Q' a log) : p.Justified P Q' log := by
  induction p generalizing log with
  | ret a => exact hQ a log h
  | call op k ih => exact ⟨h.1, fun a => ih _ (h.2.1 a), fun e => ih _ (h.2.2 e)⟩

/-- A relation that follows from another one, given what is already on the log. -/
theorem Justified.along {P' : List (Done Op Res) → Op → Prop} {Q : α → List (Done Op Res) → Prop}
    {p : Prog Op Res α} (h : p.Justified P Q log)
    (hP : ∀ more op, P (log ++ more) op → P' (log ++ more) op) : p.Justified P' Q log := by
  induction p generalizing log with
  | ret a => exact h
  | call op k ih =>
    have hop : P' log op := by simpa using hP [] op (by simpa using h.1)
    refine ⟨hop, fun a => ih _ (h.2.1 a) fun more op' h' => ?_, fun e => ih _ (h.2.2 e) hP⟩
    rw [List.append_assoc] at h' ⊢
    exact hP _ op' h'

/-- Calls that what is already on the log justifies. -/
theorem Within.justified {P' : Op → Prop} {Q : α → Prop} {p : Prog Op Res α} (h : p.Within P' Q)
    (hP : ∀ more op, P' op → P (log ++ more) op) :
    p.Justified P (fun a log' => Q a ∧ ∃ more, log' = log ++ more) log := by
  have hrest (more : List (Done Op Res)) :
      p.Justified P (fun a log' => Q a ∧ ∃ more, log' = log ++ more) (log ++ more) := by
    induction p generalizing more with
    | ret a => exact ⟨h, more, rfl⟩
    | call op k ih =>
      refine ⟨hP more op h.1, fun a => ?_, fun e => ih _ (h.2 _) more⟩
      rw [List.append_assoc]
      exact ih _ (h.2 _) _
  simpa using hrest []

/-- Against a server that keeps a log: an invariant of state and log that every justified
call keeps holds at the end. -/
theorem Justified.ensures {p : Prog Op Res α} {Q : α → List (Done Op Res) → Prop}
    (h : p.Justified P Q log) (exec : Exec Op Res S) (inv : S → List (Done Op Res) → Prop)
    (hok : ∀ op s log a, P log op → inv s log → (exec op s).1 = .ok a →
      inv (exec op s).2 (log ++ [⟨op, a⟩]))
    (herror : ∀ op s log e, P log op → inv s log → (exec op s).1 = .error e → inv (exec op s).2 log)
    {s : S} (hs : inv s log) : p.Ensures exec.logged (fun a t => Q a t.2 ∧ inv t.1 t.2) (s, log) := by
  induction p generalizing log s with
  | ret a => exact ⟨h, hs⟩
  | call op k ih =>
    refine ⟨?_, fun msg => ih _ (h.2.2 _) hs⟩
    cases hr : (exec op s).1 with
    | ok a =>
      simp only [Exec.logged, hr]
      exact ih _ (h.2.1 a) (hok op s log a h.1 hs hr)
    | error e =>
      simp only [Exec.logged, hr]
      exact ih _ (h.2.2 e) (herror op s log e h.1 hs hr)

end Apilib.Prog
