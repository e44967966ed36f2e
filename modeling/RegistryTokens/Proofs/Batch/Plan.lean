import RegistryTokens.Job.Batch
import RegistryTokens.Proofs.Update.Apply

/-!
# What a batch does

The selection, the counts and the changes of a batch are functions of the store and the clock, and
so is the store it leaves. The main statement puts them together: a batch answers and writes as it
is planned, or fails and writes nothing.
-/

set_option autoImplicit false

namespace RegistryTokens

open RegistryTokens.Time RegistryTokens.Store

namespace Batch

def standing (s : Option Store) : Answer Store := Answer.ofOption (.broke (.store .operational)) s

def tokenIn (s : Option Store) (identifier : String) : Answer Token := do
  match ← (← standing s).token? identifier with
  | some t => pure t
  | none => Answer.refuse (Refusal.unknownToken identifier)

def targets (selection : Selection) (s : Option Store) : Answer (List Token) :=
  match selection.identifiers, selection.start with
  | some identifiers, none => (distinct identifiers).mapM (tokenIn s)
  | none, some start =>
    if Text.blank start then Answer.refuse (Refusal.blankPrefix start)
    else do (← standing s).tokensFrom start
  | _, _ => Answer.refuse Refusal.ambiguousSelector

def bound (token : String) (s : Option Store) (c : Clock) : Answer Int := do
  let instant ← c.now.mapError Failure.ofClock >>= Column.writeStamp
  pure ((← standing s).countBound token instant)

def change (updates : Updates) (t : Token) (s : Option Store) (c : Clock) : Answer Delta :=
  t.applied (bound t.identifier s c) updates

def answerFor (updates : Updates) (t : Token) (w : World) : Answer Delta :=
  ((t.apply (Job.countBound t.identifier) updates).run w).1

def changes (request : Request) (s : Option Store) (c : Clock) : Answer (List Delta) := do
  (← targets request.selection s).mapM fun t => change request.updates t s c

def writtenAt (stamp : Stamp) (deltas : List Delta) (s : Option Store) : Answer (Option Store) :=
  if (deltas.filter (·.changed)).isEmpty then .ok s
  else do
    let instant ← Column.writeStamp stamp
    let before ← standing s
    some <$> (deltas.filter (·.changed)).foldlM (writeDelta instant) before

def written (deltas : List Delta) (s : Option Store) (c : Clock) : Answer (Option Store) := do
  writtenAt (← c.now.mapError Failure.ofClock) deltas s

/-- The changes of a batch and the store it leaves; a dry run leaves the one it found. -/
def planned (request : Request) (s : Option Store) (c : Clock) :
    Answer (List Delta × Option Store) := do
  let deltas ← changes request s c
  if request.dryRun then pure (deltas, s)
  else do pure (deltas, ← written deltas s c)

def report (request : Request) (deltas : List Delta) : Result :=
  let outcomes := deltas.map Outcome.ofDelta
  ⟨outcomes, !request.dryRun && 0 < (outcomes.filter (·.changed)).length, request.dryRun⟩

theorem standing_eq_ok {s : Option Store} {before : Store} (h : standing s = .ok before) :
    s = some before := by
  cases s with
  | none => cases h
  | some _ =>
    cases h
    rfl

theorem now_eq_ok {c : Clock} {stamp : Stamp} (h : c.now.mapError Failure.ofClock = .ok stamp) :
    c.now = .ok stamp := by
  cases hc : c.now with
  | error fault =>
    rw [hc] at h
    cases h
  | ok _ =>
    rw [hc] at h
    cases h
    rfl

theorem bound_of_domains {before after : Store} (domains : after.domains = before.domains)
    (token : String) (c : Clock) : bound token (some after) c = bound token (some before) c := by
  have counts (instant : Instant) : after.countBound token instant =
      before.countBound token instant := by
    rw [Store.countBound, Store.countBound, domains]
  unfold bound
  cases c.now.mapError Failure.ofClock >>= Column.writeStamp with
  | error _ => rfl
  | ok instant => exact congrArg (fun n : Nat => (.ok (n : Int) : Answer Int)) (counts instant)

theorem change_of_domains {before after : Store} (domains : after.domains = before.domains)
    (updates : Updates) (t : Token) (c : Clock) :
    change updates t (some after) c = change updates t (some before) c := by
  rw [change, change, bound_of_domains domains]

theorem tokenIn_eq_ok {s : Store} {name : String} {t : Token}
    (shown : s.token? name = .ok (some t)) : tokenIn (some s) name = .ok t := by
  change (s.token? name >>= _) = _
  rw [shown]
  rfl

theorem tokenIn_of_row {before after : Store} {name : String}
    (same : after.tokens.get? name = before.tokens.get? name) :
    tokenIn (some after) name = tokenIn (some before) name := by
  have shown : after.token? name = before.token? name := by
    rw [Store.token?, Store.token?, same]
  change (after.token? name >>= _) = (before.token? name >>= _)
  rw [shown]

theorem written_of_now {c : Clock} {stamp : Stamp} (now : c.now = .ok stamp)
    (deltas : List Delta) (s : Option Store) : written deltas s c = writtenAt stamp deltas s := by
  unfold written
  rw [now]
  rfl

theorem planned_eq_ok {request : Request} {s after : Option Store} {c : Clock}
    {deltas : List Delta} (h : planned request s c = .ok (deltas, after)) :
    ∃ ts, targets request.selection s = .ok ts ∧
      (ts.mapM fun t => change request.updates t s c) = .ok deltas ∧
      (request.dryRun = true ∧ after = s ∨
        request.dryRun = false ∧ written deltas s c = .ok after) := by
  obtain ⟨_, changing, h⟩ := Answer.bind_eq_ok.1 h
  obtain ⟨ts, found, changing⟩ := Answer.bind_eq_ok.1 changing
  split at h
  · rename_i dry
    cases h
    exact ⟨ts, found, changing, .inl ⟨dry, rfl⟩⟩
  · rename_i live
    obtain ⟨_, written, h⟩ := Answer.bind_eq_ok.1 h
    cases h
    exact ⟨ts, found, changing, .inr ⟨Bool.eq_false_iff.2 live, written⟩⟩

theorem written_eq_ok {deltas : List Delta} {s after : Option Store} {c : Clock}
    (h : written deltas s c = .ok after) :
    (∀ d ∈ deltas, d.changed = false) ∧ after = s ∨
      ∃ stamp instant before stored, c.now = .ok stamp ∧ Column.writeStamp stamp = .ok instant ∧
        s = some before ∧ after = some stored ∧
        (deltas.filter (·.changed)).foldlM (writeDelta instant) before = .ok stored := by
  obtain ⟨stamp, clock, h⟩ := Answer.bind_eq_ok.1 h
  unfold writtenAt at h
  split at h
  · rename_i nothing
    cases h
    exact .inl ⟨by simpa using nothing, rfl⟩
  · obtain ⟨instant, stamped, h⟩ := Answer.bind_eq_ok.1 h
    obtain ⟨before, there, h⟩ := Answer.bind_eq_ok.1 h
    obtain ⟨stored, folded, rfl⟩ := Answer.map_eq_ok.1 h
    exact .inr ⟨stamp, instant, before, stored, now_eq_ok clock, stamped, standing_eq_ok there,
      rfl, folded⟩

theorem store_planned {request : Request} {s after : Option Store} {c : Clock}
    {deltas : List Delta} (h : planned request s c = .ok (deltas, after))
    (still : request.dryRun = true ∨ ∀ d ∈ deltas, d.changed = false) : after = s := by
  obtain ⟨_, -, -, ⟨-, same⟩ | ⟨live, writing⟩⟩ := planned_eq_ok h
  · exact same
  · have nothing : deltas.filter (·.changed) = [] := by
      rcases still with dry | still
      · rw [live] at dry
        cases dry
      · simpa using still
    rcases written_eq_ok writing with ⟨-, same⟩ | ⟨_, _, _, _, -, -, rfl, rfl, folded⟩
    · exact same
    · rw [nothing] at folded
      cases folded
      rfl

end Batch

namespace Job

open Batch

theorem reads_token (identifier : String) : Reads (token identifier) fun s _ =>
    tokenIn s identifier := by
  refine reads_tables.bind fun s => (reads_ofAnswer (s.token? identifier)).bind fun found => ?_
  cases found with
  | none => exact reads_ofAnswer _
  | some t => exact reads_pure t

theorem reads_byStart (start : String) : Reads (byStart start) fun s _ =>
    targets ⟨none, some start⟩ s := by
  have refused : Reads (refuse (Refusal.blankPrefix start) : Job Unit) fun _ _ =>
      Answer.refuse (Refusal.blankPrefix start) := reads_ofAnswer _
  have read : Reads (do ofAnswer ((← tables).tokensFrom start)) fun s _ => (do
      (← standing s).tokensFrom start : Answer (List Token)) :=
    reads_tables.bind fun s => reads_ofAnswer _
  apply ((refused.bind fun _ => read).ite _ read).congr
  intro s c
  simp only [targets]
  split <;> rfl

theorem reads_resolve (selection : Selection) : Reads (resolve selection) fun s _ =>
    targets selection s := by
  obtain ⟨identifiers, start⟩ := selection
  have logged (chosen : String × List Token) : Reads (do
      let x ← pure chosen
      log .info "selectors.token" "tokens_selected"
        [("mode", .text x.1), ("prefix", .optional start), ("count", .int x.2.length)]
      pure x.2) fun _ _ => .ok chosen.2 :=
    (reads_pure chosen).bind fun x => (reads_log _ _ _ _).bind fun _ => reads_pure x.2
  cases identifiers with
  | some identifiers =>
    cases start with
    | some start => exact reads_ofAnswer _
    | none =>
      refine ((Reads.mapM (distinct identifiers) reads_token).bind fun tokens =>
        logged ("identifiers", tokens)).congr fun s c => ?_
      simp only [targets]
      cases (distinct identifiers).mapM (tokenIn s) <;> rfl
  | none =>
    cases start with
    | none => exact reads_ofAnswer _
    | some start =>
      refine ((reads_byStart start).bind fun tokens => logged ("prefix", tokens)).congr
        fun s c => ?_
      cases targets ⟨none, some start⟩ s <;> rfl

theorem reads_countBound (token : String) : Reads (countBound token) (bound token) :=
  (reads_now.bind fun _ => reads_ofAnswer _).bind fun _ => reads_tables.bind fun _ => reads_pure _

theorem answerFor_eq (updates : Updates) (t : Token) (w : World) :
    answerFor updates t w = change updates t w.store w.clock :=
  ((reads_countBound t.identifier).apply t updates).answer w

theorem noteRejection_keeps (failure : Failure) (w : World) :
    (noteRejection failure w).store = w.store ∧ (noteRejection failure w).clock = w.clock := by
  cases failure <;> exact ⟨rfl, rfl⟩

theorem reads_delta (updates : Updates) (t : Token) :
    Reads (delta updates t) (change updates t) :=
  (Does.onFailure ((reads_countBound t.identifier).apply t updates) noteRejection_keeps).within _

theorem does_write (deltas : List Delta) : Does (write deltas) fun s c =>
    kept ((written deltas s c).map fun after => ((), after)) s := by
  have at_stamp (stamp : Stamp) : Does (if (deltas.filter (·.changed)).isEmpty then pure ()
      else do
        let instant ← ofAnswer (Column.writeStamp stamp)
        let s ← tables
        setTables (← ofAnswer ((deltas.filter (·.changed)).foldlM (writeDelta instant) s)))
      fun s _ => kept ((writtenAt stamp deltas s).map fun after => ((), after)) s := by
    unfold writtenAt
    split
    · exact reads_pure ()
    · have stored (after : Store) : Does (setTables after) fun s _ =>
          kept (.ok ((), some after)) s := does_setTables after
      refine ((reads_ofAnswer _).bindKept fun instant => reads_tables.bindKept fun before =>
        (reads_ofAnswer _).bindKept stored).congr fun s _ => ?_
      cases Column.writeStamp stamp with
      | error _ => rfl
      | ok instant => cases s with
        | none => rfl
        | some s =>
          change kept ((deltas.filter (·.changed)).foldlM (writeDelta instant) s >>= _) _ = kept
            (Except.map _ (some <$> (deltas.filter (·.changed)).foldlM (writeDelta instant) s)) _
          cases (deltas.filter (·.changed)).foldlM (writeDelta instant) s <;> rfl
  apply (reads_now.bindKept at_stamp).congr
  intro s c
  unfold written
  cases c.now.mapError Failure.ofClock <;> rfl

theorem does_runWithin (request : Request) : Does (runWithin request) fun s c =>
    kept (planned request s c) s := by
  have ending (deltas : List Delta) : Does
      (if request.dryRun then pure deltas else do write deltas; pure deltas) fun s c =>
      kept (if request.dryRun then .ok (deltas, s)
        else (written deltas s c).map fun after => (deltas, after)) s := by
    split
    · exact reads_pure deltas
    · apply ((does_write deltas).bindReads fun _ => reads_pure deltas).congr
      intro s c
      cases written deltas s c <;> rfl
  refine ((reads_resolve request.selection).bindKept fun targets =>
    (Reads.mapM targets (reads_delta request.updates)).bindKept ending).congr fun s c => ?_
  unfold planned changes
  cases targets request.selection s with
  | error _ => rfl
  | ok targets =>
    change kept ((targets.mapM fun t => change request.updates t s c) >>= _) _ = kept
      ((targets.mapM fun t => change request.updates t s c) >>= _) _
    cases targets.mapM fun t => change request.updates t s c with
    | error _ => rfl
    | ok deltas =>
      change kept (if _ then _ else _) _ = kept (if _ then _ else _) _
      split
      · rfl
      · cases written deltas s c <;> rfl

theorem Does.tellFault {α : Type} {job : Job α}
    {plan : Option Store → Clock → Answer (α × Option Store)}
    (h : Does job fun s c => kept (plan s c) s) :
    Does (tellFault job) fun s c => kept ((plan s c).mapError told) s := by
  intro w
  obtain ⟨same, clock⟩ := h w
  dsimp only at same ⊢
  generalize plan w.store w.clock = planned at same
  obtain ⟨answered, stored⟩ := Prod.mk.inj same
  refine ⟨Prod.ext ?_ ?_, clock⟩
  · change (job.run w).1.mapError told = _
    rw [answered]
    cases planned <;> rfl
  · change (job.run w).2.store = _
    rw [stored]
    cases planned <;> rfl

theorem Does.conduct {work : Job (List Delta)}
    {effect : Option Store → Clock → Answer (List Delta) × Option Store} (h : Does work effect)
    (identifier : String) (request : Request) : Does (conduct work identifier request) fun s c =>
      kept (((whole (effect s c)).mapError told).map fun plan =>
        (report request plan.1, plan.2)) s := by
  have noted (level : Log.Level) (message : String) (extras : List (String × Value))
      (result : Result) : Reads (do log level logger message extras; pure result)
      fun _ _ => .ok result :=
    (reads_log level logger message extras).bind fun _ => reads_pure result
  have reported (message : String) (extras : List Delta → List (String × Value)) :=
    h.transact.tellFault.bindReads (f := report request) fun deltas =>
      noted .info message (extras deltas) (report request deltas)
  exact Does.within ((reads_log _ _ _ _).bindKept fun _ => reported _ _) _

theorem does_run (identifier : String) (request : Request) : Does (run identifier request)
    fun s c => kept (((planned request s c).mapError told).map fun plan =>
      (report request plan.1, plan.2)) s :=
  ((does_runWithin request).conduct identifier request).congr fun s c => by rw [whole_kept]

theorem answer_run (identifier : String) (request : Request) (w : World) :
    ((run identifier request).run w).1 =
      ((planned request w.store w.clock).mapError told).map fun plan =>
        report request plan.1 := by
  rw [(does_run identifier request).answer]
  cases planned request w.store w.clock <;> rfl

theorem run_of_planned {identifier : String} {request : Request} {w : World}
    {deltas : List Delta} {after : Option Store}
    (h : planned request w.store w.clock = .ok (deltas, after)) :
    ((run identifier request).run w).1 = .ok (report request deltas) ∧
      ((run identifier request).run w).2.store = after := by
  have does := does_run identifier request
  rw [does.answer, does.store, h]
  exact ⟨rfl, rfl⟩

theorem store_run_of_failed {identifier : String} {request : Request} {w : World}
    (h : ¬∃ r, ((run identifier request).run w).1 = .ok r) :
    ((run identifier request).run w).2.store = w.store := by
  have does := does_run identifier request
  rw [does.answer] at h
  rw [does.store]
  cases hp : planned request w.store w.clock with
  | error _ => rfl
  | ok plan =>
    rw [hp] at h
    exact absurd ⟨_, rfl⟩ h

theorem clock_run (identifier : String) (request : Request) (w : World) :
    ((run identifier request).run w).2.clock = w.clock :=
  (does_run identifier request w).2

end Job

end RegistryTokens
