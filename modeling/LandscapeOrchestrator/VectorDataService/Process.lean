import LandscapeOrchestrator.Apilib.Runs
import Mathlib.Algebra.Order.Group.Nat

/-!
# The process of the service

`main` starts two goroutines, one that waits for the informer's first listing and one
that serves, and then waits for a signal or for an error from either of them. The error
that it receives is no longer in the channel when the exit status is decided.

## Main definitions

- `Goroutine`, `Process` — the goroutines, the channel and `main`
- `process` — every interleaving of them with signals
- `readyz` — the readiness probe
-/

namespace LandscapeOrchestrator.VectorDataService
open Apilib

/-- `sending e` waits for room in the channel. A goroutine that has returned may have
reported an error before. -/
inductive Goroutine where
  | running
  | sending (e : String)
  | returned (reported : Bool)
  deriving DecidableEq

/-- After the `select`, `cause` is the error that was received, if any. -/
inductive Main where
  | waiting
  | stopping (cause : Option String)
  | exited (cause : Option String) (status : ℕ)
  deriving DecidableEq

structure Process where
  interrupted : Bool
  synced : Bool
  sync : Goroutine
  server : Goroutine
  shutdown : Bool
  errChan : List String
  main : Main
  deriving DecidableEq

def errChanCapacity : ℕ := 2

def syncTimeoutError : String := "kubernetes informer cache failed to sync within timeout"

inductive ProcessMove where
  | interrupt
  | informerSyncs
  | syncReturns
  | syncGivesUp
  | syncSends
  | serverFails (e : String)
  | serverCloses
  | serverSends
  | receiveSignal
  | receiveError
  | shutDown
  | exit
  deriving DecidableEq

/-- The server reports every error but the one that `Shutdown` causes. -/
def listenAndServe (p : Process) (e : String) : Option Process :=
  if p.server = .running ∧ p.shutdown = false then
    some { p with server := .sending ("http server failed to start: " ++ e) }
  else none

/-- The wait for the informer ends without a listing: at the timeout, or because the
process is interrupted, which is not reported. -/
def waitForCacheSync (p : Process) : Option Process :=
  if p.sync = .running then
    some { p with sync := if p.interrupted then .returned false else .sending syncTimeoutError }
  else none

/-- `main` after the server is shut down. -/
def exitStatus (errChan : List String) : ℕ := if errChan.length > 0 then 1 else 0

/-- What a goroutine, `main` or the outside does, as long as the process lives. -/
def Process.next (p : Process) : ProcessMove → Option Process
  | .interrupt => some { p with interrupted := true }
  | .informerSyncs => some { p with synced := true }
  | .syncReturns =>
    if p.sync = .running ∧ p.synced then some { p with sync := .returned false } else none
  | .syncGivesUp => waitForCacheSync p
  | .syncSends => match p.sync with
    | .sending e =>
      if p.errChan.length < errChanCapacity then
        some { p with sync := .returned true, errChan := p.errChan ++ [e] }
      else none
    | _ => none
  | .serverFails e => listenAndServe p e
  | .serverCloses =>
    if p.server = .running ∧ p.shutdown then some { p with server := .returned false } else none
  | .serverSends => match p.server with
    | .sending e =>
      if p.errChan.length < errChanCapacity then
        some { p with server := .returned true, errChan := p.errChan ++ [e] }
      else none
    | _ => none
  | .receiveSignal =>
    if p.main = .waiting ∧ p.interrupted then some { p with main := .stopping none } else none
  | .receiveError => match p.main, p.errChan with
    | .waiting, e :: errs => some { p with main := .stopping (some e), errChan := errs }
    | _, _ => none
  | .shutDown => match p.main with
    | .stopping _ => some { p with shutdown := true }
    | _ => none
  | .exit => match p.main with
    | .stopping cause =>
      if p.shutdown then some { p with main := .exited cause (exitStatus p.errChan) } else none
    | _ => none

def Main.isExited : Main → Bool
  | exited _ _ => true
  | _ => false

/-- With `main` everything else ends. -/
def process : System Process ProcessMove where
  init p := p = ⟨false, false, .running, .running, false, [], .waiting⟩
  next p m := if p.main.isExited then none else p.next m

/-- The readiness probe. -/
def readyz (p : Process) : ℕ := if p.synced then 200 else 503

def Goroutine.reports : Goroutine → ℕ
  | returned true => 1
  | _ => 0

theorem Goroutine.reports_eq_one (g : Goroutine) : g.reports = 1 ↔ g = .returned true := by
  cases g with
  | running => simp [reports]
  | sending e => simp [reports]
  | returned reported => cases reported <;> simp [reports]

theorem Goroutine.reports_le (g : Goroutine) : g.reports ≤ 1 := by
  unfold reports
  split <;> omega

theorem exitStatus_eq_one (errChan : List String) : exitStatus errChan = 1 ↔ 0 < errChan.length := by
  unfold exitStatus
  split <;> omega

/-- How many errors `main` has received. -/
def Main.received : Main → ℕ
  | waiting => 0
  | stopping cause => if cause.isSome then 1 else 0
  | exited cause _ => if cause.isSome then 1 else 0

/-- Every error that was sent is in the channel or was received; the exit status tells what
is in the channel; the wait for the informer ends silently only with a listing or an
interrupt. -/
structure Process.Accounts (p : Process) : Prop where
  count : p.errChan.length + p.main.received = p.sync.reports + p.server.reports
  status : ∀ cause status, p.main = .exited cause status → status = exitStatus p.errChan
  silent : p.sync = .returned false → p.synced = true ∨ p.interrupted = true

namespace Process.Accounts

variable {p q : Process}

/-- Sending moves an error from the goroutine to the channel. -/
theorem syncSends (h : p.Accounts) (hlive : p.main.isExited = false)
    (hn : p.next .syncSends = some q) : q.Accounts := by
  simp only [Process.next] at hn
  split at hn
  · next e hsync =>
    split at hn
    · obtain rfl := Option.some.inj hn
      have hcount := h.count
      simp only [hsync, Goroutine.reports] at hcount
      refine ⟨?_, fun cause status hmain => ?_, fun hr => by cases hr⟩
      · simp only [List.length_append, List.length_singleton, Goroutine.reports]
        omega
      · simp [show p.main = _ from hmain, Main.isExited] at hlive
    · cases hn
  · cases hn

theorem serverSends (h : p.Accounts) (hlive : p.main.isExited = false)
    (hn : p.next .serverSends = some q) : q.Accounts := by
  simp only [Process.next] at hn
  split at hn
  · next e hserver =>
    split at hn
    · obtain rfl := Option.some.inj hn
      have hcount := h.count
      simp only [hserver, Goroutine.reports] at hcount
      refine ⟨?_, fun cause status hmain => ?_, h.silent⟩
      · simp only [List.length_append, List.length_singleton, Goroutine.reports]
        omega
      · simp [show p.main = _ from hmain, Main.isExited] at hlive
    · cases hn
  · cases hn

/-- Receiving takes it out of the channel. -/
theorem receiveError (h : p.Accounts) (hn : p.next .receiveError = some q) : q.Accounts := by
  simp only [Process.next] at hn
  split at hn
  · next e errs hmain herrs =>
    obtain rfl := Option.some.inj hn
    have hcount := h.count
    simp only [hmain, herrs, Main.received, List.length_cons] at hcount
    refine ⟨?_, fun cause status hm => by simp at hm, h.silent⟩
    simp only [Main.received, Option.isSome_some, if_true]
    omega
  · cases hn

theorem receiveSignal (h : p.Accounts) (hn : p.next .receiveSignal = some q) : q.Accounts := by
  simp only [Process.next] at hn
  split at hn
  · next hw =>
    obtain rfl := Option.some.inj hn
    have hcount := h.count
    rw [hw.1] at hcount
    exact ⟨hcount, fun cause status hm => by simp at hm, h.silent⟩
  · cases hn

theorem exit (h : p.Accounts) (hn : p.next .exit = some q) : q.Accounts := by
  simp only [Process.next] at hn
  split at hn
  · next cause hmain =>
    split at hn
    · obtain rfl := Option.some.inj hn
      have hcount := h.count
      rw [hmain] at hcount
      refine ⟨hcount, fun cause' status hm => ?_, h.silent⟩
      exact (Main.exited.inj hm).2.symm
    · cases hn
  · cases hn

/-- The wait for the informer ends, or has an error to report. -/
theorem syncEnds (h : p.Accounts) {g : Goroutine} (hrunning : p.sync = .running)
    (hg : g.reports = 0) (hsilent : g = .returned false → p.synced = true ∨ p.interrupted = true) :
    ({ p with sync := g } : Process).Accounts := by
  have hcount := h.count
  rw [hrunning] at hcount
  refine ⟨?_, h.status, hsilent⟩
  show _ = g.reports + p.server.reports
  rw [hg]
  exact hcount

theorem serverEnds (h : p.Accounts) {g : Goroutine} (hrunning : p.server = .running)
    (hg : g.reports = 0) : ({ p with server := g } : Process).Accounts := by
  have hcount := h.count
  rw [hrunning] at hcount
  refine ⟨?_, h.status, h.silent⟩
  show _ = p.sync.reports + g.reports
  rw [hg]
  exact hcount

end Process.Accounts

theorem process_step {p q : Process} {m : ProcessMove} (h : p.Accounts)
    (hn : process.next p m = some q) : q.Accounts := by
  simp only [process] at hn
  split at hn
  · cases hn
  · next hlive =>
    have hlive : p.main.isExited = false := by simpa using hlive
    cases m with
    | interrupt =>
      obtain rfl := Option.some.inj hn
      exact ⟨h.count, h.status, fun _ => .inr rfl⟩
    | informerSyncs =>
      obtain rfl := Option.some.inj hn
      exact ⟨h.count, h.status, fun _ => .inl rfl⟩
    | syncReturns =>
      simp only [Process.next] at hn
      split at hn
      · next hs => exact Option.some.inj hn ▸ h.syncEnds hs.1 rfl fun _ => .inl hs.2
      · cases hn
    | syncGivesUp =>
      simp only [Process.next, waitForCacheSync] at hn
      split at hn
      · next hs =>
        obtain rfl := Option.some.inj hn
        refine h.syncEnds hs ?_ fun hr => .inr ?_
        · split <;> rfl
        · by_contra hi
          simp [hi] at hr
      · cases hn
    | syncSends => exact h.syncSends hlive hn
    | serverFails e =>
      simp only [Process.next, listenAndServe] at hn
      split at hn
      · next hs => exact Option.some.inj hn ▸ h.serverEnds hs.1 rfl
      · cases hn
    | serverCloses =>
      simp only [Process.next] at hn
      split at hn
      · next hs => exact Option.some.inj hn ▸ h.serverEnds hs.1 rfl
      · cases hn
    | serverSends => exact h.serverSends hlive hn
    | receiveSignal => exact h.receiveSignal hn
    | receiveError => exact h.receiveError hn
    | shutDown =>
      simp only [Process.next] at hn
      split at hn
      · obtain rfl := Option.some.inj hn
        exact ⟨h.count, h.status, h.silent⟩
      · cases hn
    | exit => exact h.exit hn

theorem process_accounts {p : Process} (h : process.Reachable p) : p.Accounts := by
  refine h.invariant (fun p hp => ?_) fun p m q hp _ hn => process_step hp hn
  obtain rfl := hp
  exact ⟨rfl, fun cause status hm => (by cases hm), fun hr => by cases hr⟩

/-- Both goroutines can always report at once. A process that goes on after the wait for
the informer is ready. It exits with 1 after a signal if some error was reported, but after
an error only if the other goroutine has reported one, too. -/
theorem exit_status_of_reports (p : Process) (h : process.Reachable p) :
    (∀ e, p.sync = .sending e ∨ p.server = .sending e → p.errChan.length < errChanCapacity) ∧
    (p.interrupted = false → p.sync = .returned false → readyz p = 200) ∧
    (∀ status, p.main = .exited none status →
      (status = 1 ↔ p.sync = .returned true ∨ p.server = .returned true)) ∧
    ∀ e status, p.main = .exited (some e) status →
      (status = 1 ↔ p.sync = .returned true ∧ p.server = .returned true) := by
  have hacc := process_accounts h
  have hcount := hacc.count
  rw [← p.sync.reports_eq_one, ← p.server.reports_eq_one]
  have hsync := p.sync.reports_le
  have hserver := p.server.reports_le
  refine ⟨fun e he => ?_, fun hi hs => ?_, fun status hmain => ?_, fun e status hmain => ?_⟩
  · have hzero : p.sync.reports = 0 ∨ p.server.reports = 0 :=
      he.imp (fun he => by rw [he]; rfl) fun he => by rw [he]; rfl
    unfold errChanCapacity
    omega
  · simp [readyz, (hacc.silent hs).resolve_right (by simp [hi])]
  · have hstatus := hacc.status _ _ hmain
    simp only [hmain, Main.received, Option.isSome_none, Bool.false_eq_true, if_false] at hcount
    rw [hstatus, exitStatus_eq_one]
    omega
  · have hstatus := hacc.status _ _ hmain
    simp only [hmain, Main.received, Option.isSome_some, if_true] at hcount
    rw [hstatus, exitStatus_eq_one]
    omega

/-- The listing takes too long: the error ends the process with status 0. -/
theorem exit_status_of_timeout : ∃ p, process.Reachable p ∧
    p.main = .exited (some syncTimeoutError) 0 ∧ p.server ≠ .returned true := by
  obtain ⟨p, hp, hend⟩ := System.reachable_of_follow process
    [.syncGivesUp, .syncSends, .receiveError, .shutDown, .serverCloses, .exit]
    (fun p => p.main = .exited (some syncTimeoutError) 0 ∧ p.sync = .returned true)
    rfl (by decide)
  obtain ⟨hmain, hsync⟩ := of_decide_eq_true hend
  refine ⟨p, hp, hmain, fun hserver => ?_⟩
  have hstatus := ((exit_status_of_reports p hp).2.2.2 syncTimeoutError 0 hmain).mpr ⟨hsync, hserver⟩
  cases hstatus

end LandscapeOrchestrator.VectorDataService
