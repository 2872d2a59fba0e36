import Mathlib.Data.Nat.Notation

/-!
# Programs of API calls

A client program is a tree: it returns, or it makes one API call and continues
with the answer. The tree is the whole program, so one definition can be run to
its end, or be advanced one call at a time beside other programs.

## Main definitions

- `Prog` — programs over a signature of operations `Op` with results `Res`
- `Prog.run` — a whole run against a server, with a pattern of failed calls
- `Prog.Ensures` — a postcondition that holds for every pattern of failed calls
- `Prog.Allows` — a postcondition that some pattern of failed calls brings about
- `Prog.Uses` — every call the program can ever make satisfies a predicate
- `Prog.Ends` — the result of the program, when the answers to its calls are restricted
- `Prog.Within` — its calls and its result, whatever the answers
-/

namespace Apilib

/-- The answers a client tells apart. `fault` is every error that is neither
`notFound` nor `alreadyExists`: a timeout, a conflict, a refused request. -/
inductive ApiError where
  | notFound (message : String)
  | alreadyExists (message : String)
  | fault (message : String)
  deriving DecidableEq, Repr

namespace ApiError

def isNotFound : ApiError → Bool
  | notFound _ => true
  | _ => false

def isAlreadyExists : ApiError → Bool
  | alreadyExists _ => true
  | _ => false

def message : ApiError → String
  | notFound m => m
  | alreadyExists m => m
  | fault m => m

end ApiError

inductive Prog (Op : Type) (Res : Op → Type) (α : Type) : Type where
  | ret (a : α)
  | call (op : Op) (k : Except ApiError (Res op) → Prog Op Res α)

/-- A server answers one operation and moves to its next state. -/
abbrev Exec (Op : Type) (Res : Op → Type) (S : Type) :=
  (op : Op) → S → Except ApiError (Res op) × S

variable {Op : Type} {Res : Op → Type} {S α β : Type}

namespace Prog

def bind : Prog Op Res α → (α → Prog Op Res β) → Prog Op Res β
  | ret a, f => f a
  | call op k, f => call op (fun r => (k r).bind f)

instance : Monad (Prog Op Res) where
  pure := ret
  bind := bind

/-- Make one call and return its answer. -/
def perform (op : Op) : Prog Op Res (Except ApiError (Res op)) := call op ret

@[simp] theorem pure_eq (a : α) : (pure a : Prog Op Res α) = ret a := rfl

@[simp] theorem call_bind (op : Op) (k : Except ApiError (Res op) → Prog Op Res α)
    (f : α → Prog Op Res β) : (call op k >>= f) = call op (fun r => k r >>= f) := rfl

@[simp] theorem perform_bind (op : Op) (f : Except ApiError (Res op) → Prog Op Res β) :
    (perform op >>= f) = call op f := rfl

/-- Run to the end. `faults n` is the error of the `n`-th call from here when
that call fails; a failed call does not reach the state. -/
def run (exec : Exec Op Res S) : Prog Op Res α → (ℕ → Option String) → S → α × S
  | ret a, _, s => (a, s)
  | call op k, faults, s =>
    match faults 0 with
    | some msg => (k (.error (.fault msg))).run exec (fun n => faults (n+1)) s
    | none => (k (exec op s).1).run exec (fun n => faults (n+1)) (exec op s).2

/-- The pattern `faults` behind a call whose fate is `first`. -/
def prepend (first : Option String) (faults : ℕ → Option String) : ℕ → Option String
  | 0 => first
  | n+1 => faults n

/-- `Q` holds of the result and the final state, whichever calls fail. -/
def Ensures (exec : Exec Op Res S) (Q : α → S → Prop) : Prog Op Res α → S → Prop
  | ret a, s => Q a s
  | call op k, s =>
    (k (exec op s).1).Ensures exec Q (exec op s).2 ∧
      ∀ msg, (k (.error (.fault msg))).Ensures exec Q s

variable {exec : Exec Op Res S}

@[simp] theorem ensures_ret {Q : α → S → Prop} {a : α} {s : S} :
    (ret a : Prog Op Res α).Ensures exec Q s ↔ Q a s := Iff.rfl

@[simp] theorem ensures_call {Q : α → S → Prop} {op : Op}
    {k : Except ApiError (Res op) → Prog Op Res α} {s : S} :
    (call op k).Ensures exec Q s ↔
      (k (exec op s).1).Ensures exec Q (exec op s).2 ∧
        ∀ msg, (k (.error (.fault msg))).Ensures exec Q s := Iff.rfl

/-- The rule for one call: it takes effect, or it fails and has none. -/
theorem ensures_perform_bind {Q : β → S → Prop} {op : Op}
    {f : Except ApiError (Res op) → Prog Op Res β} {s : S} :
    (perform op >>= f).Ensures exec Q s ↔
      (f (exec op s).1).Ensures exec Q (exec op s).2 ∧
        ∀ msg, (f (.error (.fault msg))).Ensures exec Q s := Iff.rfl

theorem ensures_bind {p : Prog Op Res α} {f : α → Prog Op Res β} {Q : β → S → Prop} {s : S} :
    (p >>= f).Ensures exec Q s ↔ p.Ensures exec (fun a t => (f a).Ensures exec Q t) s := by
  induction p generalizing s with
  | ret a => rfl
  | call op k ih =>
    simp only [call_bind, ensures_call, ih]

theorem Ensures.mono {p : Prog Op Res α} {Q Q' : α → S → Prop} {s : S}
    (h : p.Ensures exec Q s) (hQ : ∀ a t, Q a t → Q' a t) : p.Ensures exec Q' s := by
  induction p generalizing s with
  | ret a => exact hQ a s h
  | call op k ih => exact ⟨ih _ h.1, fun msg => ih _ (h.2 msg)⟩

/-- The rule for a call of a function whose specification is known: what the
specification says of its result is all the rest of the program may use. -/
theorem Ensures.bind {p : Prog Op Res α} {f : α → Prog Op Res β} {R : α → S → Prop}
    {Q : β → S → Prop} {s : S} (h : p.Ensures exec R s)
    (hf : ∀ a t, R a t → (f a).Ensures exec Q t) : (p >>= f).Ensures exec Q s :=
  ensures_bind.mpr (h.mono hf)

/-- `Ensures` is exactly a statement about all runs. -/
theorem ensures_iff_run {p : Prog Op Res α} {Q : α → S → Prop} {s : S} :
    p.Ensures exec Q s ↔ ∀ faults, Q (p.run exec faults s).1 (p.run exec faults s).2 := by
  induction p generalizing s with
  | ret a => exact ⟨fun h _ => h, fun h => h (fun _ => none)⟩
  | call op k ih =>
    rw [ensures_call, ih]
    constructor
    · rintro ⟨hok, hfault⟩ faults
      simp only [run]
      cases hf : faults 0 with
      | none => exact hok _
      | some msg => exact (ih _).mp (hfault msg) _
    · intro h
      refine ⟨fun faults => ?_, fun msg => (ih _).mpr fun faults => ?_⟩
      · have := h (prepend none faults)
        simpa only [run, prepend] using this
      · have := h (prepend (some msg) faults)
        simpa only [run, prepend] using this

/-- Some run ends in `Q`. -/
def Allows (exec : Exec Op Res S) (Q : α → S → Prop) (p : Prog Op Res α) (s : S) : Prop :=
  ∃ faults, Q (p.run exec faults s).1 (p.run exec faults s).2

theorem allows_ret {Q : α → S → Prop} {a : α} {s : S} (h : Q a s) :
    (ret a : Prog Op Res α).Allows exec Q s := ⟨fun _ => none, h⟩

/-- A run on which the next call takes effect. -/
theorem allows_ok {Q : β → S → Prop} {op : Op} {f : Except ApiError (Res op) → Prog Op Res β} {s : S}
    (h : (f (exec op s).1).Allows exec Q (exec op s).2) : (perform op >>= f).Allows exec Q s := by
  obtain ⟨faults, hq⟩ := h
  exact ⟨prepend none faults, hq⟩

/-- A run on which the next call fails. -/
theorem allows_fault {Q : β → S → Prop} {op : Op} {f : Except ApiError (Res op) → Prog Op Res β}
    {s : S} (msg : String) (h : (f (.error (.fault msg))).Allows exec Q s) :
    (perform op >>= f).Allows exec Q s := by
  obtain ⟨faults, hq⟩ := h
  exact ⟨prepend (some msg) faults, hq⟩

theorem Allows.bind {p : Prog Op Res α} {f : α → Prog Op Res β} {R : α → S → Prop}
    {Q : β → S → Prop} {s : S} (h : p.Allows exec R s)
    (hf : ∀ a t, R a t → (f a).Allows exec Q t) : (p >>= f).Allows exec Q s := by
  induction p generalizing s with
  | ret a =>
    obtain ⟨faults, hr⟩ := h
    exact hf a s hr
  | call op k ih =>
    obtain ⟨faults, hr⟩ := h
    simp only [run] at hr
    cases h0 : faults 0 with
    | none =>
      simp only [h0] at hr
      exact allows_ok (ih _ ⟨_, hr⟩)
    | some msg =>
      simp only [h0] at hr
      exact allows_fault msg (ih _ ⟨_, hr⟩)

def Uses (P : Op → Prop) : Prog Op Res α → Prop
  | ret _ => True
  | call op k => P op ∧ ∀ r, (k r).Uses P

theorem Uses.bind {P : Op → Prop} {p : Prog Op Res α} {f : α → Prog Op Res β}
    (hp : p.Uses P) (hf : ∀ a, (f a).Uses P) : (p >>= f).Uses P := by
  induction p with
  | ret a => exact hf a
  | call op k ih => exact ⟨hp.1, fun r => ih r (hp.2 r)⟩

theorem Uses.perform_bind {P : Op → Prop} {op : Op} {f : Except ApiError (Res op) → Prog Op Res β}
    (hop : P op) (hf : ∀ r, (f r).Uses P) : (perform op >>= f).Uses P := ⟨hop, hf⟩

/-- As long as every answer satisfies `A`, the result satisfies `Q`. -/
def Ends (A : (op : Op) → Except ApiError (Res op) → Prop) (Q : α → Prop) : Prog Op Res α → Prop
  | ret a => Q a
  | call op k => ∀ r, A op r → (k r).Ends A Q

theorem ends_perform_bind {A : (op : Op) → Except ApiError (Res op) → Prop} {Q : β → Prop} {op : Op}
    {f : Except ApiError (Res op) → Prog Op Res β} :
    (perform op >>= f).Ends A Q ↔ ∀ r, A op r → (f r).Ends A Q := Iff.rfl

theorem Ends.bind {A : (op : Op) → Except ApiError (Res op) → Prop} {R : α → Prop} {Q : β → Prop}
    {p : Prog Op Res α} {f : α → Prog Op Res β} (h : p.Ends A R)
    (hf : ∀ a, R a → (f a).Ends A Q) : (p >>= f).Ends A Q := by
  induction p with
  | ret a => exact hf a h
  | call op k ih => exact fun r hr => ih r (h r hr)

/-- Every call satisfies `P` and the result satisfies `Q`, whatever the answers. -/
def Within (P : Op → Prop) (Q : α → Prop) : Prog Op Res α → Prop
  | ret a => Q a
  | call op k => P op ∧ ∀ r, (k r).Within P Q

theorem Within.perform_bind {P : Op → Prop} {Q : β → Prop} {op : Op}
    {f : Except ApiError (Res op) → Prog Op Res β} (hop : P op) (hf : ∀ r, (f r).Within P Q) :
    (perform op >>= f).Within P Q := ⟨hop, hf⟩

theorem Within.bind {P : Op → Prop} {R : α → Prop} {Q : β → Prop} {p : Prog Op Res α}
    {f : α → Prog Op Res β} (hp : p.Within P R) (hf : ∀ a, R a → (f a).Within P Q) :
    (p >>= f).Within P Q := by
  induction p with
  | ret a => exact hf a hp
  | call op k ih => exact ⟨hp.1, fun r => ih r (hp.2 r)⟩

theorem Within.uses {P P' : Op → Prop} {Q : α → Prop} {p : Prog Op Res α} (h : p.Within P Q)
    (hP : ∀ op, P op → P' op) : p.Uses P' := by
  induction p with
  | ret a => trivial
  | call op k ih => exact ⟨hP op h.1, fun r => ih r (h.2 r)⟩

end Prog

end Apilib
