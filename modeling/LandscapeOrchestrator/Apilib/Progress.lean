import LandscapeOrchestrator.Apilib.Calm
import LandscapeOrchestrator.Apilib.WorkQueue

/-!
# Progress of a work queue

Whatever has happened before, a key for which something is left to do has a job that
runs, is queued or is reported. So the process can do it, by moves for this key alone, as
long as calls do not fail and the job then does not ask to be retried.

## Main definitions

- `Watched.Own` — the moves of the process for one key

## Main results

- `Watched.finish` — a job that runs can be run to its end
- `Watched.Drains.progress_of_stopped`, `Watched.Drains.progress` — from every state that is
  reached, nothing is left to do after some moves for the key
-/

namespace Apilib

namespace System

variable {S L : Type} {sys : System S L} {ok : S → L → Prop}

/-- A run that goes on where another one ends. -/
theorem Reaches.trans {s t u : S} (hst : (sys.after s).Reaches ok t)
    (htu : (sys.after t).Reaches ok u) : (sys.after s).Reaches ok u := by
  induction htu with
  | init h =>
    obtain rfl := h
    exact hst
  | step _ hok hn ih => exact ih.step hok hn

theorem Reaches.after {ok' : S → L → Prop} {s t : S} (hs : sys.Reaches ok s)
    (hok : ∀ s l, sys.Reaches ok s → ok' s l → ok s l) (hst : (sys.after s).Reaches ok' t) : sys.Reaches ok t := by
  induction hst with
  | init h =>
    obtain rfl := h
    exact hs
  | step _ hl hn ih => exact ih.step (hok _ _ ih hl) hn

end System

namespace Prog

variable {Op : Type} {Res : Op → Type} {S α : Type} {exec : Exec Op Res S}

theorem calm_kept {good : S → Prop} (hgood : ∀ op s, good s → good (exec op s).2)
    (p : Prog Op Res α) {s : S} (hs : good s) : good (p.calm exec s).2 := by
  induction p generalizing s with
  | ret a => exact hs
  | call op f ih => exact ih _ (hgood op s hs)

/-- The run on which nothing fails is one of those that are accounted for. -/
theorem Keeps.calm {rely : S → S → Prop} (hrefl : ∀ s, rely s s) {Q : α → S → Prop}
    {p : Prog Op Res α} {s : S}
    (h : p.Keeps exec ⟨rely, fun _ _ => True, fun _ _ => True⟩ Q s) :
    Q (p.calm exec s).1 (p.calm exec s).2 := by
  induction p generalizing s with
  | ret a => exact h
  | call op f ih => exact ih _ ((h s (hrefl s)).2.1 trivial)

end Prog

namespace Watched

variable {E K X Op : Type} {Res : Op → Type} {α S : Type} [DecidableEq K]
  {w : Watched E K X Op Res α S} {k : K}

/-- The moves of the process for the key `k`, without failures. -/
inductive Own (k : K) : StationMove E K X → Prop
  | deliver : Own k (.deliver k)
  | start (x : X) : Own k (.pool (.start k x))
  | call : Own k (.pool (.call k))
  | stop : Own k (.pool (.stop k))

/-- Reached from `st` by moves for the key `k`. -/
abbrev Does (w : Watched E K X Op Res α S) (k : K) (st st' : Station K Op Res α S) : Prop :=
  (w.system.after st).Reaches (fun _ m => Own k m) st'

/-- A job that runs can be run to its end. -/
theorem finish (st : Station K Op Res α S) {p : Prog Op Res α} (hrun : st.running k = some p) :
    ∃ st', w.Does k st st' ∧ st'.running k = some (.ret (p.calm w.exec st.state).1) ∧
      st'.state = (p.calm w.exec st.state).2 := by
  induction p generalizing st with
  | ret a => exact ⟨st, .init rfl, hrun, rfl⟩
  | call op f ih =>
    have hnext : w.system.next st (.pool (.call k)) = some
        ⟨st.toPool.advance k (some (f (w.exec op st.state).1)) (w.exec op st.state).2,
          fun j => st.reported j || w.reports st.state (w.exec op st.state).2 j, st.queued⟩ := by
      simp [system, Station.admits, Workload.system, hrun, Pool.advance]
      rfl
    obtain ⟨st', hst', hdone, hstate⟩ := @ih (w.exec op st.state).1
      ⟨st.toPool.advance k (some (f (w.exec op st.state).1)) (w.exec op st.state).2,
        fun j => st.reported j || w.reports st.state (w.exec op st.state).2 j, st.queued⟩
      (Function.update_self ..)
    have hfirst : w.Does k st _ := (System.Reaches.init rfl).step .call hnext
    exact ⟨st', hfirst.trans hst', hdone, hstate⟩

/-- A job that is queued can be started and run to its end. -/
theorem finish_queued {st : Station K Op Res α S} (x : X) (hqueued : st.queued k = true)
    (hrun : st.running k = none) :
    ∃ st', w.Does k st st' ∧
      st'.running k = some (.ret ((w.prog k x).calm w.exec st.state).1) ∧
      st'.state = ((w.prog k x).calm w.exec st.state).2 := by
  have hnext : w.system.next st (.pool (.start k x)) = some
      ⟨st.toPool.advance k (some (w.prog k x)) st.state,
        fun j => st.reported j || w.reports st.state st.state j, w.queuedAfter st (.start k x)⟩ := by
    simp [system, Station.admits, Workload.system, hrun, hqueued, Pool.advance]
  have hfirst : w.Does k st _ := (System.Reaches.init rfl).step (.start x) hnext
  obtain ⟨st', hst', hdone⟩ := finish (w := w) (k := k)
    ⟨st.toPool.advance k (some (w.prog k x)) st.state,
      fun j => st.reported j || w.reports st.state st.state j, w.queuedAfter st (.start k x)⟩
    (Function.update_self ..)
  exact ⟨st', hfirst.trans hst', hdone⟩

/-- A job that has run to its end is taken off. -/
theorem stopped {st : Station K Op Res α S} {a : α} (hrun : st.running k = some (.ret a)) :
    ∃ st', w.Does k st st' ∧ st'.running k = none ∧ st'.state = st.state := by
  have hnext : w.system.next st (.pool (.stop k)) = some
      ⟨st.toPool.advance k none st.state,
        fun j => st.reported j || w.reports st.state st.state j, w.queuedAfter st (.stop k)⟩ := by
    simp [system, Station.admits, Workload.system, hrun, Pool.advance]
  exact ⟨_, (System.Reaches.init rfl).step .stop hnext, Function.update_self .., rfl⟩

namespace Drains

variable {ok : Station K Op Res α S → StationMove E K X → Prop} {inv : S → Prop}
  {guar : K → Op → S → Prop} {rely : S → S → Prop} {due : S → Prop}

/-- When no job of the key runs, one run of it leaves nothing to do, unless that run asks
to be retried. -/
theorem progress_of_stopped (h : w.Drains ok inv guar k rely due) (hrefl : ∀ s, rely s s)
    {st : Station K Op Res α S} (hr : w.system.Reaches ok st) (hrun : st.running k = none)
    (x : X) (hcalm : w.retries ((w.prog k x).calm w.exec st.state).1 = false) :
    ¬ due st.state ∨ ∃ st', w.Does k st st' ∧
      st'.state = ((w.prog k x).calm w.exec st.state).2 ∧ ¬ due st'.state := by
  have hinv := (h.safe _ hr).1
  have hpost : ¬ due ((w.prog k x).calm w.exec st.state).2 := by
    obtain hretry | hdone := (h.prog x st.state hinv).calm hrefl
    · rw [hcalm] at hretry
      cases hretry
    · exact hdone
  have hqueued {st₁ : Station K Op Res α S} (hst₁ : w.Does k st st₁)
      (hstate : st₁.state = st.state) (hq : st₁.queued k = true) (hnone : st₁.running k = none) :
      ∃ st', w.Does k st st' ∧ st'.state = ((w.prog k x).calm w.exec st.state).2 ∧
        ¬ due st'.state := by
    obtain ⟨st', hst', -, hstate'⟩ := finish_queued (w := w) x hq hnone
    rw [hstate] at hstate'
    exact ⟨st', hst₁.trans hst', hstate', hstate' ▸ hpost⟩
  cases h.attended hr with
  | idle _ hd => exact .inl hd
  | running hrun' _ => simp [hrun] at hrun'
  | queued hq => exact .inr (hqueued (.init rfl) rfl hq hrun)
  | reported hrep =>
    have hnext : w.system.next st (.deliver k) = some { st with
        reported := Function.update st.reported k false
        queued := Function.update st.queued k true } := if_pos hrep
    exact .inr (hqueued ((System.Reaches.init rfl).step .deliver hnext) rfl
      (Function.update_self ..) hrun)

/-- `good` is what the calls keep and the job needs to end without a retry. A job that
still runs is run to its end first: it may have begun when `good` did not hold. -/
theorem progress (h : w.Drains ok inv guar k rely due) (hrefl : ∀ s, rely s s)
    (hown : ∀ st m, w.system.Reaches ok st → Own k m → ok st m) {good : S → Prop}
    (hgood : ∀ op s, good s → good (w.exec op s).2) (x : X)
    (hcalm : ∀ s, inv s → good s → w.retries ((w.prog k x).calm w.exec s).1 = false)
    {st : Station K Op Res α S} (hr : w.system.Reaches ok st) (hg : good st.state) :
    ∃ st', w.Does k st st' ∧ good st'.state ∧ ¬ due st'.state := by
  have hstopped : ∃ st₁, w.Does k st st₁ ∧ st₁.running k = none ∧ good st₁.state := by
    cases hrun : st.running k with
    | none => exact ⟨st, .init rfl, hrun, hg⟩
    | some p =>
      obtain ⟨st₁, hst₁, hdone, hstate₁⟩ := finish (w := w) st hrun
      obtain ⟨st₂, hst₂, hnone, hstate₂⟩ := stopped (w := w) hdone
      refine ⟨st₂, hst₁.trans hst₂, hnone, ?_⟩
      rw [hstate₂, hstate₁]
      exact Prog.calm_kept hgood p hg
  obtain ⟨st₁, hst₁, hnone, hg₁⟩ := hstopped
  have hr₁ := hr.after hown hst₁
  obtain hdone | ⟨st', hst', hstate, hdone⟩ :=
    h.progress_of_stopped hrefl hr₁ hnone x (hcalm _ (h.safe _ hr₁).1 hg₁)
  · exact ⟨st₁, hst₁, hg₁, hdone⟩
  · exact ⟨st', hst₁.trans hst', hstate ▸ Prog.calm_kept hgood _ hg₁, hdone⟩

end Drains

end Watched

end Apilib
