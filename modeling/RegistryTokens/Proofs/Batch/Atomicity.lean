import RegistryTokens.Proofs.Batch.Plan
import RegistryTokens.Proofs.Update.Breakdown

/-!
# A batch happens as a whole or not at all

Everything is judged before anything is written, and what a transaction wrote is forgotten when it
fails, also when the store itself fails as the work is flushed or committed. So a batch that fails
leaves the store alone, and it fails as its first target that cannot be changed.
-/

set_option autoImplicit false

namespace RegistryTokens

open RegistryTokens.Time RegistryTokens.Store

namespace Batch

/-- The work of a batch under a store that may fail when the work is flushed and committed. -/
def runWithinFaulting (fault : Option Failure) (request : Request) : Job (List Delta) := do
  let deltas ← runWithin request
  Job.ofAnswer (fault.elim (.ok deltas) .error)

def runFaulting (fault : Option Failure) (identifier : String) (request : Request) : Job Result :=
  conduct (runWithinFaulting fault request) identifier request

def plannedFaulting (fault : Option Failure) (request : Request) (s : Option Store) (c : Clock) :
    Answer (List Delta × Option Store) := do
  let plan ← planned request s c
  fault.elim (.ok plan) .error

@[simp] theorem runFaulting_none (identifier : String) (request : Request) :
    runFaulting none identifier request = run identifier request := by
  have same : runWithinFaulting none request = runWithin request := bind_pure _
  rw [runFaulting, same, run]

end Batch

namespace Job

open Batch

theorem does_runFaulting (fault : Option Failure) (identifier : String) (request : Request) :
    Does (runFaulting fault identifier request) fun s c =>
      kept (((plannedFaulting fault request s c).mapError told).map fun plan =>
        (report request plan.1, plan.2)) s := by
  have work : Does (runWithinFaulting fault request) fun s c =>
      followed (kept (planned request s c) s) fun deltas s =>
        (fault.elim (.ok deltas) .error, s) :=
    Does.bind (does_runWithin request) fun _ => reads_ofAnswer _
  apply (work.conduct identifier request).congr
  intro s c
  have faulted : whole (followed (kept (planned request s c) s) fun deltas s =>
      (fault.elim (.ok deltas) .error, s)) = plannedFaulting fault request s c := by
    unfold plannedFaulting
    cases planned request s c with
    | error _ => rfl
    | ok plan => cases fault <;> rfl
  rw [faulted]

end Job

namespace Batch

open Job

open Answer in
theorem fails_bound (token name : String) (s : Option Store) (c : Clock) :
    Fails (Failure.Concerns token fun b =>
      (∃ fault, b = .store fault) ∨ ∃ fault, c.now = .error fault) (bound name s c) := by
  refine .bind (.bind ?_ fun stamp _ => ?_) fun _ _ => .bind ?_ fun _ _ => fails_ok _
  · cases c.now with
    | ok stamp => exact fails_ok stamp
    | error fault => cases fault <;> exact fails_broke (.inr ⟨_, rfl⟩)
  · unfold Column.writeStamp
    split
    · exact fails_ok _
    · exact fails_broke (.inl ⟨_, rfl⟩)
  · cases s with
    | none => exact fails_broke (.inl ⟨_, rfl⟩)
    | some before => exact fails_ok before

/-- A batch ends in vain if it fails, is a dry run or finds nothing to change. -/
def InVain (request : Request) : Answer Result → Prop
  | .error _ => True
  | .ok r => request.dryRun = true ∨ r.changedTokens = []

theorem clean_tellFault {α : Type} {job : Job α} (h : Clean job) : Clean (tellFault job) := by
  intro w failure failed
  change (job.run w).1.mapError told = .error failure at failed
  cases answered : (job.run w).1 with
  | error cause => exact h w cause answered
  | ok a =>
    rw [answered] at failed
    cases failed

theorem clean_conduct (work : Job (List Delta)) (identifier : String) (request : Request) :
    Clean (conduct work identifier request) := by
  unfold conduct
  apply Clean.within
  apply (reads_log _ _ _ _).bindClean
  intro _
  apply (clean_tellFault (clean_transact work)).bindReads (f := report request)
  intro deltas
  exact (reads_log _ _ _ _).bind fun _ => reads_pure (report request deltas)

theorem changed_eq_false_of_report {request : Request} {deltas : List Delta}
    (h : (report request deltas).changedTokens = []) : ∀ d ∈ deltas, d.changed = false := by
  intro d hd
  apply Bool.eq_false_iff.2
  intro hc
  have changed : Outcome.ofDelta d ∈ (report request deltas).outcomes.filter (·.changed) :=
    List.mem_filter.2 ⟨List.mem_map_of_mem hd, hc⟩
  rw [List.map_eq_nil_iff.1 h] at changed
  cases changed

theorem store_runFaulting (fault : Option Failure) (identifier : String) (request : Request)
    (w : World) (vain : InVain request ((runFaulting fault identifier request).run w).1) :
    ((runFaulting fault identifier request).run w).2.store = w.store := by
  have does := does_runFaulting fault identifier request
  rw [does.answer] at vain
  rw [does.store]
  cases hp : plannedFaulting fault request w.store w.clock with
  | error failure => rfl
  | ok plan =>
    obtain ⟨deltas, after⟩ := plan
    rw [hp] at vain
    obtain ⟨plan, planning, faultless⟩ := Answer.bind_eq_ok.1 hp
    have same : plan = (deltas, after) := by
      cases fault with
      | some failure => cases faultless
      | none => cases faultless; rfl
    subst same
    exact store_planned planning (vain.imp id changed_eq_false_of_report)

/-- The first target that cannot be changed decides how the batch fails. -/
theorem planned_of_first {request : Request} {s : Option Store} {c : Clock}
    {before after : List Token} {t : Token} {deltas : List Delta} {failure : Failure}
    (found : targets request.selection s = .ok (before ++ t :: after))
    (passed : before.map (fun x => change request.updates x s c) = deltas.map .ok)
    (failed : change request.updates t s c = .error failure) :
    planned request s c = .error failure := by
  have changed : changes request s c = .error failure := by
    rw [changes, found]
    exact Answer.mapM_eq_error_of_first passed failed
  rw [planned, changed]
  rfl

/-- A batch ends in vain without a trace in the store, whether the store failed in the end, broke off
the work anywhere or never failed; and the first target that is rejected names the failure. -/
theorem runFaulting_atomic (fault : Option Failure) (identifier : String) (request : Request)
    (w : World) :
    runFaulting none identifier request = run identifier request ∧
    (InVain request ((runFaulting fault identifier request).run w).1 →
      ((runFaulting fault identifier request).run w).2.store = w.store) ∧
    (∀ work failure, ((conduct work identifier request).run w).1 = .error failure →
      ((conduct work identifier request).run w).2.store = w.store) ∧
    ∀ ts, ((resolve request.selection).run w).1 = .ok ts →
      (∃ t ∈ ts, ∃ failure, answerFor request.updates t w = .error failure) →
      ∃ before t after failure, ts = before ++ t :: after ∧
        (∀ x ∈ before, ∃ d, answerFor request.updates x w = .ok d) ∧
        answerFor request.updates t w = .error failure ∧
        ((runFaulting fault identifier request).run w).1 = .error (told failure) ∧
        ∀ r, failure = .refused r →
          told failure = failure ∧ r.token = some (.text t.identifier) := by
  refine ⟨runFaulting_none identifier request, store_runFaulting fault identifier request w,
    fun work => clean_conduct work identifier request w, fun ts found failing => ?_⟩
  obtain ⟨before, t, after, deltas, failure, rfl, passed, failed⟩ :=
    Answer.exists_first_error failing
  refine ⟨before, t, after, failure, rfl, fun x hx => ?_, failed, ?_, ?_⟩
  · have : answerFor request.updates x w ∈ deltas.map .ok :=
      passed ▸ List.mem_map_of_mem (f := fun t => answerFor request.updates t w) hx
    obtain ⟨d, -, hd⟩ := List.mem_map.1 this
    exact ⟨d, hd.symm⟩
  · rw [(reads_resolve request.selection).answer] at found
    simp only [answerFor_eq] at passed failed
    rw [(does_runFaulting fault identifier request).answer, plannedFaulting,
      planned_of_first found passed failed]
    rfl
  · rintro r rfl
    rw [answerFor_eq] at failed
    exact ⟨rfl, Token.token_of_applied_refused (fails_bound _ _ _ _) failed⟩

end Batch

end RegistryTokens
