import RegistryTokens.Job.Session
import RegistryTokens.Proofs.Batch.Commit
import RegistryTokens.Proofs.Job.Creation

/-!
# Reachable stores

A store is reached from the empty one by creations and batches, whether they succeed, fail or are
given up, in worlds with any clock; domains come and go in between. Each operation comes down to
calls, and of every row that a call leaves it is known where it comes from.
-/

set_option autoImplicit false

namespace RegistryTokens

open RegistryTokens.Time RegistryTokens.Store

inductive Call where
  | createToken (identifier : String) (kind : Value) (given : Keyed String Value)
  | createPackage (p : Package)
  | update (request : Batch.Request)

def Call.job : Call → Job Unit
  | .createToken identifier kind given => do let _ ← Job.createToken identifier kind given
  | .createPackage p => do let _ ← Job.createPackage p
  | .update request => do let _ ← Batch.runWithin request

/-- A call stands for itself where its failure is no failure of the transaction. -/
inductive Operation where
  | call (c : Call)
  | session (calls : List Call) (abandon : Bool)
  | batch (identifier : String) (request : Batch.Request)

def Operation.run : Operation → World → World
  | .call c, w => (c.job.run w).2
  | .session calls abandon, w => (Session.run (calls.map fun c => .of c.job) abandon w).2
  | .batch identifier request, w => ((Batch.run identifier request).run w).2

inductive Reachable : Store → Prop where
  | empty : Reachable .empty
  | step {s after : Store} {o : Operation} {w : World} (before : Reachable s)
      (there : w.store = some s) (left : (o.run w).store = some after) : Reachable after
  | domains {s : Store} (before : Reachable s) (domains : Table DomainRow) :
      Reachable { s with domains }

namespace Session

variable {α : Type} {good : Option Store → Prop}

theorem run_act_of (job : Job α) (w : World) :
    ((Step.of job).act.run w).2 = (job.run w).2 ∧
      ∀ answer pending, ((Step.of job).act.run w).1 = .ok (answer, pending) →
        pending = pure () := by
  have act : (Step.of job).act = job >>= fun a => pure (a, pure ()) := rfl
  rw [act, Job.run_bind]
  generalize job.run w = r
  obtain ⟨result, after⟩ := r
  cases result with
  | error _ => exact ⟨rfl, nofun⟩
  | ok a =>
    refine ⟨rfl, fun answer pending answered => ?_⟩
    cases answered
    rfl

theorem store_runSteps {steps : List (Step α)} {w : World}
    (each : ∀ step ∈ steps, ∀ w, good w.store → good (step.act.run w).2.store ∧
      ∀ answer pending, (step.act.run w).1 = .ok (answer, pending) → ∀ w, good w.store →
        good (pending.run w).2.store)
    (h : good w.store) : good (runSteps steps w).2.2.store := by
  induction steps generalizing w with
  | nil => exact h
  | cons step rest ih =>
    obtain ⟨acted, wrote⟩ := each step List.mem_cons_self w h
    unfold runSteps
    generalize step.act.run w = r at acted wrote ⊢
    obtain ⟨result, after⟩ := r
    cases result with
    | error _ => exact acted
    | ok answered =>
      obtain ⟨answer, pending⟩ := answered
      have written := wrote answer pending rfl after acted
      dsimp only
      generalize pending.run after = r at written ⊢
      obtain ⟨result, later⟩ := r
      cases result with
      | error _ => exact written
      | ok _ => exact ih (fun step hs => each step (List.mem_cons_of_mem _ hs)) written

theorem store_run {steps : List (Step α)} {w : World} (abandon : Bool)
    (each : ∀ step ∈ steps, ∀ w, good w.store → good (step.act.run w).2.store ∧
      ∀ answer pending, (step.act.run w).1 = .ok (answer, pending) → ∀ w, good w.store →
        good (pending.run w).2.store)
    (h : good w.store) : good (run steps abandon w).2.store := by
  have stepped := store_runSteps each (w := w.log .debug Job.engineLogger "transaction_started" []
    none) h
  unfold run
  dsimp only
  split
  · rename_i done
    rw [done] at stepped
    cases abandon
    · exact stepped
    · exact h
  · exact h

end Session

/-- A property of the store that every call keeps is kept by every operation. -/
theorem Operation.store_run (good : Option Store → Prop)
    (each : ∀ (c : Call) w, good w.store → good (c.job.run w).2.store) (o : Operation) {w : World}
    (h : good w.store) : good (o.run w).store := by
  cases o with
  | call c => exact each c w h
  | session calls abandon =>
    refine Session.store_run abandon (fun step hs w hw => ?_) h
    obtain ⟨c, -, rfl⟩ := List.mem_map.1 hs
    obtain ⟨same, pending⟩ := Session.run_act_of c.job w
    rw [same]
    refine ⟨each c w hw, fun answer later answered w hw => ?_⟩
    rw [pending answer later answered]
    exact hw
  | batch identifier request =>
    have same : ((Batch.run identifier request).run w).2.store =
        ((Call.update request).job.run w).2.store := by
      rw [(Job.does_run identifier request).store, Call.job,
        Job.store_discarded (Job.does_runWithin request)]
      cases Batch.planned request w.store w.clock <;> rfl
    exact same ▸ each (.update request) w h

/-- What a call gives a token for one of its fields: a creation what it answers, and an update that
is carried out what it reports as changed. -/
inductive Call.Gives (w : World) (name : String) (f : TokenField) : Call → f.Content → Prop where
  | created {kind : Value} {given : Keyed String Value} {new : NewToken}
      (answered : ((Job.createToken name kind given).run w).1 = .ok new) :
      Gives w name f (.createToken name kind given) (new.token.content f)
  | updated {request : Batch.Request} {deltas : List Delta} {d : Delta}
      (live : request.dryRun = false)
      (answered : ((Batch.runWithin request).run w).1 = .ok deltas) (listed : d ∈ deltas)
      (named : d.before.identifier = name) (changed : f ∈ d.fields) :
      Gives w name f (.update request) (d.after.content f)

/-- A row that a call leaves under a name: one that was there, the update of one, or a new one. -/
inductive Call.Leaves (c : Call) (w : World) (before : Store) (name : String) : TokenRow → Prop where
  | kept {row : TokenRow} (found : before.tokens.get? name = some row)
      (silent : ∀ f content, ¬c.Gives w name f content) : Leaves c w before name row
  | updated {old : TokenRow} {t : Token} {updates : Updates} {count : Answer Int} {d : Delta}
      {instant : Instant} (found : before.tokens.get? name = some old)
      (shown : old.toToken name = .ok t) (applied : t.applied count updates = .ok d)
      (gives : ∀ f content, c.Gives w name f content ↔
        f ∈ d.fields ∧ content = d.after.content f) :
      Leaves c w before name (old.update d.after d.fields instant)
  | created {kind : Value} {given : Keyed String Value} {new : NewToken} {row : TokenRow}
      (free : name ∉ before.tokens.keys) (creates : c = .createToken name kind given)
      (answered : ((Job.createToken name kind given).run w).1 = .ok new)
      (stored : Creation.Stored name kind given w.clock new row) : Leaves c w before name row

namespace Call

theorem leaves_same {c : Call} {w : World} {before after : Store}
    (same : after.tokens = before.tokens)
    (silent : ∀ name f content, ¬c.Gives w name f content) :
    (∀ name ∈ before.tokens.keys, name ∈ after.tokens.keys) ∧
      ∀ name row, after.tokens.get? name = some row → c.Leaves w before name row := by
  rw [same]
  exact ⟨fun _ stored => stored, fun name _ found => .kept found (silent name)⟩

theorem leaves_createToken {name : String} {kind : Value} {given : Keyed String Value}
    {new : NewToken} {w : World} {before stored : Store} {row : TokenRow}
    (answered : ((Job.createToken name kind given).run w).1 = .ok new)
    (made : Creation.Stored name kind given w.clock new row)
    (inserted : before.insertToken name row = .ok stored) :
    (∀ other ∈ before.tokens.keys, other ∈ stored.tokens.keys) ∧
      ∀ other found, stored.tokens.get? other = some found →
        (Call.createToken name kind given).Leaves w before other found := by
  obtain ⟨free, rows, -⟩ := Creation.get?_insertToken inserted
  constructor
  · intro other there
    have apart : other ≠ name := fun same => free (same ▸ there)
    rw [Table.mem_keys_iff, rows, if_neg apart]
    exact Table.mem_keys_iff.1 there
  · intro other found at_other
    rw [rows] at at_other
    by_cases same : other = name
    · subst same
      rw [if_pos rfl] at at_other
      cases at_other
      exact .created free rfl answered made
    · rw [if_neg same] at at_other
      refine .kept at_other fun f content gives => ?_
      cases gives
      exact same rfl

theorem leaves_update {request : Batch.Request} {w : World} {before stored : Store}
    {deltas : List Delta}
    (answered : ((Batch.runWithin request).run w).1 = .ok deltas)
    (planned : Batch.planned request (some before) w.clock = .ok (deltas, some stored))
    {name : String} {row : TokenRow} (found : stored.tokens.get? name = some row) :
    (Call.update request).Leaves w before name row := by
  cases Batch.row_of_planned planned found with
  | kept there still =>
    refine .kept there fun f content gives => ?_
    cases gives with
    | updated live again listed named changed =>
      cases answered.symm.trans again
      rw [still live _ listed named] at changed
      cases changed
  | @updated old d instant live listed named alone there shown change =>
    refine .updated there shown change fun f content => ⟨fun gives => ?_, ?_⟩
    · cases gives with
      | updated _ again among same changed =>
        cases answered.symm.trans again
        cases alone _ among same
        exact ⟨changed, rfl⟩
    · rintro ⟨changed, rfl⟩
      exact .updated live answered listed named changed

/-- Whatever a call does, the store stays, no name is lost, and every row is accounted for. -/
theorem store_left (c : Call) {w : World} {before : Store} (there : w.store = some before) :
    ∃ after, (c.job.run w).2.store = some after ∧
      (∀ name ∈ before.tokens.keys, name ∈ after.tokens.keys) ∧
      ∀ name row, after.tokens.get? name = some row → c.Leaves w before name row := by
  cases c with
  | createToken name kind given =>
    have does := Job.does_createToken name kind given
    have answered := does.answer w
    rw [job, Job.store_discarded does]
    rw [there] at answered ⊢
    cases hp : Creation.createdToken name kind given (some before) w.clock with
    | error _ =>
      rw [hp] at answered
      refine ⟨before, rfl, leaves_same rfl fun _ f content gives => ?_⟩
      cases gives with
      | created again => cases answered.symm.trans again
    | ok plan =>
      rw [hp] at answered
      obtain ⟨new, left⟩ := plan
      obtain ⟨_, stored, row, ⟨⟩, rfl, made, inserted⟩ := Creation.stored_of_createdToken hp
      exact ⟨stored, rfl, leaves_createToken answered made inserted⟩
  | createPackage p =>
    rw [job, Job.store_discarded (Job.does_createPackage p), there]
    cases hp : Creation.createdPackage p (some before) with
    | error _ => exact ⟨before, rfl, leaves_same rfl nofun⟩
    | ok plan =>
      obtain ⟨new, left⟩ := plan
      obtain ⟨_, _, stored, ⟨⟩, rfl, -, packed⟩ := Creation.packed_of_createdPackage hp
      exact ⟨stored, rfl, leaves_same (Creation.get?_insertPackage packed.inserted).1 nofun⟩
  | update request =>
    have does := Job.does_runWithin request
    have answered := does.answer w
    rw [job, Job.store_discarded does]
    rw [there] at answered ⊢
    cases hp : Batch.planned request (some before) w.clock with
    | error _ =>
      rw [hp] at answered
      refine ⟨before, rfl, leaves_same rfl fun _ f content gives => ?_⟩
      cases gives with
      | updated _ again => cases answered.symm.trans again
    | ok plan =>
      rw [hp] at answered
      obtain ⟨stored, left, keys, -⟩ := Batch.keys_of_planned hp
      obtain ⟨deltas, after⟩ := plan
      subst left
      exact ⟨stored, rfl, fun name there => keys ▸ there, fun name row => leaves_update answered hp⟩

theorem accounted {c : Call} {w : World} {before after : Store} (there : w.store = some before)
    (left : (c.job.run w).2.store = some after) :
    (∀ name ∈ before.tokens.keys, name ∈ after.tokens.keys) ∧
      ∀ name row, after.tokens.get? name = some row → c.Leaves w before name row := by
  obtain ⟨_, stays, keys, rows⟩ := c.store_left there
  cases left.symm.trans stays
  exact ⟨keys, rows⟩

end Call

end RegistryTokens
