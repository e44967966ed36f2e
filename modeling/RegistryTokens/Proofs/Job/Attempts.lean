import RegistryTokens.Proofs.Package

/-!
# Attempted creations

A caller may catch a refusal and go on with its session. A creation that fails has written and logged
nothing, so a session in which it is refused is the session without it. One that succeeds adds one
row under a free name, and a session of creations adds as many rows as succeeded.
-/

set_option autoImplicit false

namespace RegistryTokens

open RegistryTokens.Time RegistryTokens.Store

namespace Job

variable {α β : Type}

def Quiet (job : Job α) : Prop := ∀ w, (job.run w).2 = w

def Harmless (job : Job α) : Prop :=
  ∀ w failure, (job.run w).1 = .error failure → (job.run w).2 = w

def Sure (job : Job α) : Prop := ∀ w, ∃ a, (job.run w).1 = .ok a

theorem Sure.harmless {job : Job α} (h : Sure job) : Harmless job := by
  intro w failure failed
  obtain ⟨a, answered⟩ := h w
  cases answered.symm.trans failed

theorem Quiet.bind {job : Job α} {next : α → Job β} (h : Quiet job) (hn : ∀ a, Harmless (next a)) :
    Harmless (job >>= next) := by
  intro w failure
  have same := h w
  rw [run_bind]
  generalize job.run w = r at same ⊢
  obtain ⟨result, after⟩ := r
  subst same
  cases result with
  | error _ => exact fun _ => rfl
  | ok a => exact hn a after failure

theorem Harmless.bind {job : Job α} {next : α → Job β} (h : Harmless job) (hn : ∀ a, Sure (next a)) :
    Harmless (job >>= next) := by
  intro w failure
  have same := h w
  rw [run_bind]
  generalize job.run w = r at same ⊢
  obtain ⟨result, after⟩ := r
  cases result with
  | error _ => exact fun _ => same _ rfl
  | ok a =>
    intro failed
    obtain ⟨b, answered⟩ := hn a after
    cases answered.symm.trans failed

theorem Sure.bind {job : Job α} {next : α → Job β} (h : Sure job) (hn : ∀ a, Sure (next a)) :
    Sure (job >>= next) := by
  intro w
  obtain ⟨a, answered⟩ := h w
  rw [run_bind]
  generalize job.run w = r at answered ⊢
  obtain ⟨result, after⟩ := r
  subst answered
  exact hn a after

theorem Quiet.guard {p : Prop} [Decidable p] {violation : Job Unit} {next : Unit → Job β}
    (hv : Quiet violation) (hn : Harmless (next ())) :
    Harmless (if p then violation >>= next else next ()) := by
  split
  · exact hv.bind fun _ => hn
  · exact hn

theorem quiet_ofAnswer (answer : Answer α) : Quiet (ofAnswer answer) := fun _ => rfl

theorem quiet_tables : Quiet tables := fun _ => rfl

theorem quiet_now : Quiet now := fun _ => rfl

theorem sure_pure (a : α) : Sure (pure a) := fun _ => ⟨a, rfl⟩

theorem sure_setTables (s : Store) : Sure (setTables s) := fun _ => ⟨(), rfl⟩

theorem sure_log (level : Log.Level) (logger message : String) (extras : List (String × Value)) :
    Sure (log level logger message extras) := fun _ => ⟨(), rfl⟩

theorem harmless_storeToken (t : Token) (domain : Value) (stamp : Stamp) :
    Harmless (storeToken t domain stamp) := by
  refine (quiet_ofAnswer _).bind fun _ => (quiet_ofAnswer _).guard ?_
  refine quiet_tables.bind fun _ => (quiet_ofAnswer _).bind fun _ => (quiet_ofAnswer _).bind fun _ => ?_
  exact (quiet_ofAnswer _).guard <| (quiet_ofAnswer _).bind fun _ => (sure_setTables _).harmless

theorem harmless_createToken (identifier : String) (kind : Value) (given : Keyed String Value) :
    Harmless (createToken identifier kind given) := by
  refine (quiet_ofAnswer _).guard <| (quiet_ofAnswer _).guard <| quiet_tables.bind fun _ => ?_
  refine (quiet_ofAnswer _).guard <| (quiet_ofAnswer _).bind fun t => quiet_now.bind fun stamp => ?_
  exact (harmless_storeToken _ _ _).bind fun _ => (sure_log _ _ _ _).bind fun _ => sure_pure _

theorem harmless_storePackage (p : Package) : Harmless (storePackage p) := by
  have noticed : Quiet (p.lastNotice.mapM fun s => ofAnswer (Column.writeStamp s)) := by
    intro w
    cases p.lastNotice with
    | none => rfl
    | some notice =>
      change ((ofAnswer (Column.writeStamp notice) >>= fun i => pure (some i)).run w).2 = w
      rw [run_bind]
      cases Column.writeStamp notice <;> rfl
  refine (quiet_ofAnswer _).bind fun _ => noticed.bind fun _ => quiet_tables.bind fun _ => ?_
  refine (quiet_ofAnswer _).bind fun _ => (quiet_ofAnswer _).bind fun _ => ?_
  exact (quiet_ofAnswer _).bind fun _ => (sure_setTables _).harmless

theorem quiet_refuseNegative (name token : String) (n : Int) :
    Quiet (refuseNegative name token n) := by
  unfold refuseNegative
  split
  · exact quiet_ofAnswer _
  · exact fun _ => rfl

theorem harmless_createPackage (p : Package) : Harmless (createPackage p) := by
  have written : Harmless (do
      storePackage p
      log .info "services.bulk_pricing" "bulk_pricing_package_created"
        [("token", .text p.token), ("max_domains", .int p.maxDomains),
          ("max_creates", .int p.maxCreates), ("bulk_price", .text p.price.display)]
      pure p) :=
    (harmless_storePackage p).bind fun _ => (sure_log _ _ _ _).bind fun _ => sure_pure p
  refine quiet_tables.bind fun before => (quiet_ofAnswer _).bind fun found => ?_
  cases found with
  | none => exact (quiet_ofAnswer _).bind fun _ => quiet_tables.bind fun _ =>
      (quiet_ofAnswer _).guard <| (quiet_refuseNegative _ _ _).bind fun _ =>
        (quiet_refuseNegative _ _ _).bind fun _ => written
  | some owner =>
    refine (quiet_ofAnswer _).guard <| quiet_tables.bind fun _ => (quiet_ofAnswer _).guard ?_
    exact (quiet_refuseNegative _ _ _).bind fun _ => (quiet_refuseNegative _ _ _).bind fun _ => written

/-- Lets the caller catch a refusal and go on. A breakdown is not caught. -/
def attempt (job : Job α) : Job (Except Refusal α) := ExceptT.mk fun w =>
  match job.run w with
  | (.ok a, after) => (.ok (.ok a), after)
  | (.error (.refused refusal), after) => (.ok (.error refusal), after)
  | (.error (.broke breakdown), after) => (.error (.broke breakdown), after)

theorem run_attempt {job : Job α} {w : World} {answer : Answer α} :
    (job.run w).1 = answer → (attempt job).run w = (match answer with
      | .ok a => .ok (.ok a)
      | .error (.refused refusal) => .ok (.error refusal)
      | .error (.broke breakdown) => .error (.broke breakdown), (job.run w).2) := by
  rintro rfl
  simp only [attempt, ExceptT.run, ExceptT.mk]
  generalize job w = r
  obtain ⟨result, after⟩ := r
  cases result with
  | ok _ => rfl
  | error failure => cases failure <;> rfl

theorem planned_of_discarded {job : Job α} {plan : Option Store → Clock → Answer (α × Option Store)}
    (h : Does job fun s c => kept (plan s c) s) {w : World}
    (succeeds : ((do let _ ← job : Job Unit).run w).1 = .ok ()) :
    ∃ a after, plan w.store w.clock = .ok (a, after) ∧
      ((do let _ ← job : Job Unit).run w).2.store = after := by
  have does := h.bindReads (f := fun _ => ()) fun _ => reads_pure ()
  rw [does.answer] at succeeds
  rw [does.store]
  cases planned : plan w.store w.clock with
  | error _ =>
    rw [planned] at succeeds
    cases succeeds
  | ok made => exact ⟨made.1, made.2, rfl, rfl⟩

end Job

namespace Store

theorem Table.rows_of_insert? {α : Type} {t u : Table α} {key : String} {row : α}
    (h : t.insert? key row = some u) : key ∉ t.keys ∧ u.rows = t.rows ++ [(key, row)] := by
  unfold insert? at h
  split at h
  · cases h
  · rename_i free
    cases h
    exact ⟨free, rfl⟩

end Store

inductive Call.Creates : Call → Prop where
  | token (identifier : String) (kind : Value) (given : Keyed String Value) :
      Creates (.createToken identifier kind given)
  | package (p : Package) : Creates (.createPackage p)

/-- What a creation adds to the store: one row, under an identifier that had none. The row of a token
is stamped with the clock's time. -/
inductive Call.Adds (clock : Clock) : Call → Store → Store → Prop where
  | token {identifier : String} {kind : Value} {given : Keyed String Value} {before after : Store}
      {row : TokenRow} {stamp : Stamp} {instant : Instant} (free : identifier ∉ before.tokens.keys)
      (now : clock.now = .ok stamp) (written : Column.writeStamp stamp = .ok instant)
      (created : row.created = instant) (updated : row.updated = instant)
      (added : after.tokens.rows = before.tokens.rows ++ [(identifier, row)])
      (packages : after.packages = before.packages) (domains : after.domains = before.domains) :
      Adds clock (.createToken identifier kind given) before after
  | package {p : Package} {before after : Store} {row : PackageRow}
      (free : p.token ∉ before.packages.keys)
      (added : after.packages.rows = before.packages.rows ++ [(p.token, row)])
      (tokens : after.tokens = before.tokens) (domains : after.domains = before.domains) :
      Adds clock (.createPackage p) before after

namespace Call

variable {c : Call} {w : World} {before : Store}

theorem Creates.harmless (h : c.Creates) : Job.Harmless c.job := by
  cases h with
  | token identifier kind given =>
    exact (Job.harmless_createToken identifier kind given).bind fun _ => Job.sure_pure ()
  | package p => exact (Job.harmless_createPackage p).bind fun _ => Job.sure_pure ()

theorem Creates.clock (h : c.Creates) : (c.job.run w).2.clock = w.clock := by
  cases h with
  | token identifier kind given =>
    exact ((Job.does_createToken identifier kind given).bindReads (f := fun _ => ()) fun _ =>
      Job.reads_pure ()) w |>.2
  | package p =>
    exact ((Job.does_createPackage p).bindReads (f := fun _ => ()) fun _ => Job.reads_pure ()) w |>.2

theorem adds_of_insertToken {identifier : String} {kind : Value} {given : Keyed String Value}
    {new : NewToken} {row : TokenRow} {after : Store} {clock : Clock}
    (stored : Creation.Stored identifier kind given clock new row)
    (inserted : before.insertToken identifier row = .ok after) :
    Adds clock (.createToken identifier kind given) before after := by
  obtain ⟨cell, stamp, instant, -, now, -, written, rfl⟩ := stored.stored
  unfold Store.insertToken at inserted
  split at inserted
  · rename_i placed
    cases inserted
    obtain ⟨free, rows⟩ := Table.rows_of_insert? placed
    exact .token free now written rfl rfl rows rfl rfl
  · cases inserted

theorem adds_of_insertPackage {p : Package} {row : PackageRow} {after : Store} {clock : Clock}
    (inserted : before.insertPackage p.token row = .ok after) :
    Adds clock (.createPackage p) before after := by
  unfold Store.insertPackage at inserted
  split at inserted
  · rename_i placed
    cases inserted
    obtain ⟨free, rows⟩ := Table.rows_of_insert? placed
    exact .package free rows rfl rfl
  · cases inserted

theorem Creates.adds (h : c.Creates) (there : w.store = some before)
    (succeeds : (c.job.run w).1 = .ok ()) :
    ∃ after, (c.job.run w).2.store = some after ∧ c.Adds w.clock before after := by
  cases h with
  | token identifier kind given =>
    obtain ⟨new, left, planned, stays⟩ :=
      Job.planned_of_discarded (Job.does_createToken identifier kind given) succeeds
    rw [there] at planned
    obtain ⟨_, after, row, ⟨⟩, rfl, stored, inserted⟩ := Creation.stored_of_createdToken planned
    exact ⟨after, stays, adds_of_insertToken stored inserted⟩
  | package p =>
    obtain ⟨new, left, planned, stays⟩ :=
      Job.planned_of_discarded (Job.does_createPackage p) succeeds
    rw [there] at planned
    obtain ⟨_, _, after, ⟨⟩, rfl, -, packed⟩ := Creation.packed_of_createdPackage planned
    exact ⟨after, stays, adds_of_insertPackage packed.inserted⟩

end Call

namespace Session

variable {α : Type}

def begun (w : World) : World := w.log .debug Job.engineLogger "transaction_started" [] none

def Reaches (steps : List (Step α)) (w after : World) : Prop :=
  ∃ answers, runSteps steps w = (answers, none, after)

def attempts (calls : List Call) : List (Step (Except Refusal Unit)) :=
  calls.map fun c => .of (Job.attempt c.job)

theorem runSteps_cons_of_ok {job : Job α} {w after : World} {a : α} {rest : List (Step α)}
    (h : job.run w = (.ok a, after)) : runSteps (.of job :: rest) w =
      (.ok a :: (runSteps rest after).1, (runSteps rest after).2) := by
  have act : (Step.of job).act.run w = (.ok (a, pure ()), after) := by
    change (job >>= fun a => pure (a, pure ())).run w = _
    rw [Job.run_bind, h]
    rfl
  rw [runSteps, act]
  rfl

theorem runSteps_cons_of_error {job : Job α} {w after : World} {failure : Failure}
    {rest : List (Step α)} (h : job.run w = (.error failure, after)) :
    runSteps (.of job :: rest) w = ([.error failure], some failure, after) := by
  have act : (Step.of job).act.run w = (.error failure, after) := by
    change (job >>= fun a => pure (a, pure ())).run w = _
    rw [Job.run_bind, h]
  rw [runSteps, act]

/-- A creation that is refused where it is reached makes no difference to the steps around it. -/
theorem runSteps_of_refused {c : Call} (creates : c.Creates)
    {front back : List (Step (Except Refusal Unit))} {w : World}
    (refused : ∀ reached, Reaches front w reached →
      ∃ refusal, (c.job.run reached).1 = .error (.refused refusal)) :
    (runSteps (front ++ .of (Job.attempt c.job) :: back) w).2 = (runSteps (front ++ back) w).2 := by
  induction front generalizing w with
  | nil =>
    obtain ⟨refusal, failed⟩ := refused w ⟨[], rfl⟩
    have caught := Job.run_attempt failed
    rw [creates.harmless w _ failed] at caught
    rw [List.nil_append, runSteps_cons_of_ok caught]
    rfl
  | cons step rest ih =>
    rw [List.cons_append, List.cons_append, runSteps, runSteps]
    cases acted : step.act.run w with
    | mk result mid =>
      cases result with
      | error _ => rfl
      | ok answered =>
        cases wrote : answered.2.run mid with
        | mk result later =>
          cases result with
          | error _ =>
            dsimp only
            rw [wrote]
          | ok _ =>
            dsimp only
            rw [wrote]
            refine ih fun reached there => refused reached ?_
            obtain ⟨answers, ran⟩ := there
            refine ⟨.ok answered.1 :: answers, ?_⟩
            rw [runSteps, acted]
            dsimp only
            rw [wrote]
            dsimp only
            rw [ran]

theorem run_of_runSteps {steps others : List (Step α)} {w : World} (abandon : Bool)
    (same : (runSteps steps (begun w)).2 = (runSteps others (begun w)).2) :
    (run steps abandon w).1.kept = (run others abandon w).1.kept ∧
      (run steps abandon w).2 = (run others abandon w).2 := by
  unfold begun at same
  unfold run
  dsimp only
  generalize runSteps steps _ = ended at same ⊢
  generalize runSteps others _ = other at same ⊢
  obtain ⟨answers, failure, after⟩ := ended
  obtain ⟨otherAnswers, _, _⟩ := other
  cases same
  cases failure with
  | none => cases abandon <;> exact ⟨rfl, rfl⟩
  | some _ => exact ⟨rfl, rfl⟩

inductive Makes (clock : Clock) :
    List Call → List (Answer (Except Refusal Unit)) → Store → Store → Prop where
  | none {s : Store} : Makes clock [] [] s s
  | refused {c : Call} {calls : List Call} {refusal : Refusal}
      {answers : List (Answer (Except Refusal Unit))} {s t : Store}
      (rest : Makes clock calls answers s t) :
      Makes clock (c :: calls) (.ok (.error refusal) :: answers) s t
  | added {c : Call} {calls : List Call} {answers : List (Answer (Except Refusal Unit))}
      {s t u : Store} (adds : c.Adds clock s t) (rest : Makes clock calls answers t u) :
      Makes clock (c :: calls) (.ok (.ok ()) :: answers) s u

theorem makes_of_runSteps {calls : List Call} (creates : ∀ c ∈ calls, c.Creates) {w after : World}
    {s : Store} (there : w.store = some s) {answers : List (Answer (Except Refusal Unit))}
    (ran : runSteps (attempts calls) w = (answers, none, after)) :
    ∃ t, after.store = some t ∧ Makes w.clock calls answers s t := by
  induction calls generalizing w s answers with
  | nil =>
    cases ran
    exact ⟨s, there, .none⟩
  | cons c rest ih =>
    obtain ⟨first, later⟩ := List.forall_mem_cons.1 creates
    rw [attempts, List.map_cons, ← attempts] at ran
    cases answered : (c.job.run w).1 with
    | ok _ =>
      obtain ⟨middle, stays, adds⟩ := first.adds there answered
      rw [runSteps_cons_of_ok (Job.run_attempt answered)] at ran
      obtain ⟨rfl, ended⟩ := Prod.mk.inj ran
      obtain ⟨t, left, makes⟩ := ih later stays (Prod.ext rfl ended)
      rw [first.clock] at makes
      exact ⟨t, left, .added adds makes⟩
    | error failure =>
      cases failure with
      | refused refusal =>
        rw [runSteps_cons_of_ok (Job.run_attempt answered),
          first.harmless w _ answered] at ran
        obtain ⟨rfl, ended⟩ := Prod.mk.inj ran
        obtain ⟨t, left, makes⟩ := ih later there (Prod.ext rfl ended)
        exact ⟨t, left, .refused makes⟩
      | broke breakdown =>
        rw [runSteps_cons_of_error (Job.run_attempt answered)] at ran
        cases ran

def succeeded : Answer (Except Refusal Unit) → Bool
  | .ok (.ok ()) => true
  | _ => false

structure Grown (successes : Nat) (before after : Store) : Prop where
  tokens : before.tokens.rows <+: after.tokens.rows
  packages : before.packages.rows <+: after.packages.rows
  domains : after.domains = before.domains
  count : after.tokens.rows.length + after.packages.rows.length =
    before.tokens.rows.length + before.packages.rows.length + successes

theorem Grown.after_adds {c : Call} {clock : Clock} {s t u : Store} {n : Nat}
    (adds : c.Adds clock s t) (h : Grown n t u) : Grown (n + 1) s u := by
  obtain ⟨tokens, packages, domains, count⟩ := h
  cases adds with
  | token _ _ _ _ _ added samePackages sameDomains =>
    rw [added] at tokens count
    rw [samePackages] at packages count
    refine ⟨(List.prefix_append _ _).trans tokens, packages, domains.trans sameDomains, ?_⟩
    rw [count, List.length_append, List.length_singleton]
    omega
  | package _ added sameTokens sameDomains =>
    rw [added] at packages count
    rw [sameTokens] at tokens count
    refine ⟨tokens, (List.prefix_append _ _).trans packages, domains.trans sameDomains, ?_⟩
    rw [count, List.length_append, List.length_singleton]
    omega

theorem Makes.grown {clock : Clock} {calls : List Call}
    {answers : List (Answer (Except Refusal Unit))} {s t : Store}
    (h : Makes clock calls answers s t) : Grown (answers.countP succeeded) s t := by
  induction h with
  | none => exact ⟨List.prefix_rfl, List.prefix_rfl, rfl, rfl⟩
  | refused _ ih => exact ih
  | added adds _ ih =>
    rw [List.countP_cons_of_pos rfl]
    exact ih.after_adds adds

theorem makes_of_run {calls : List Call} (creates : ∀ c ∈ calls, c.Creates) {w : World}
    {before : Store} (there : w.store = some before)
    (kept : (run (attempts calls) false w).1.kept = true) :
    ∃ after, (run (attempts calls) false w).2.store = some after ∧
      Makes w.clock calls (run (attempts calls) false w).1.answers before after := by
  have made (answers : List (Answer (Except Refusal Unit))) (ended : World)
      (ran : runSteps (attempts calls) (begun w) = (answers, none, ended)) :=
    makes_of_runSteps creates (w := begun w) there ran
  unfold begun at made
  unfold run at kept ⊢
  dsimp only at kept ⊢
  generalize runSteps (attempts calls) _ = ended at kept made ⊢
  obtain ⟨answers, failure, after⟩ := ended
  cases failure with
  | none => exact made answers after rfl
  | some _ => cases kept

end Session

/-- What a caller may rely on who catches the refusals of a creation. -/
structure Call.Atomic (c : Call) : Prop where
  refused : ∀ w refusal, (c.job.run w).1 = .error (.refused refusal) → (c.job.run w).2 = w
  dropped : ∀ (front back : List (Session.Step (Except Refusal Unit))) abandon w,
    (∀ reached, Session.Reaches front (Session.begun w) reached →
      ∃ refusal, (c.job.run reached).1 = .error (.refused refusal)) →
    (Session.run (front ++ .of (Job.attempt c.job) :: back) abandon w).1.kept =
        (Session.run (front ++ back) abandon w).1.kept ∧
      (Session.run (front ++ .of (Job.attempt c.job) :: back) abandon w).2 =
        (Session.run (front ++ back) abandon w).2
  added : ∀ w before, w.store = some before → (c.job.run w).1 = .ok () →
    ∃ after, (c.job.run w).2.store = some after ∧ c.Adds w.clock before after

/-- Creations are atomic, alone and among others, and a session of them that is committed has made
those that succeeded in it, each with one row, and left every other row. -/
theorem Session.creations_are_atomic {calls : List Call} (creates : ∀ c ∈ calls, c.Creates) :
    (∀ c ∈ calls, c.Atomic) ∧
    ∀ w before, w.store = some before → (run (attempts calls) false w).1.kept = true →
      ∃ after, (run (attempts calls) false w).2.store = some after ∧
        Makes w.clock calls (run (attempts calls) false w).1.answers before after ∧
        Grown ((run (attempts calls) false w).1.answers.countP succeeded) before after := by
  refine ⟨fun c member => ?_, fun w before there kept => ?_⟩
  · have created := creates c member
    exact ⟨fun w refusal => created.harmless w _,
      fun front back abandon w refused =>
        run_of_runSteps abandon (runSteps_of_refused created refused),
      fun w before there succeeds => created.adds there succeeds⟩
  · obtain ⟨after, left, makes⟩ := makes_of_run creates there kept
    exact ⟨after, left, makes, makes.grown⟩

def askedTwice : List Call :=
  [createBulkToken, createBulkToken, .createPackage (packageAt tenDollars),
    .createPackage (packageAt tenDollars)]

theorem Session.creations_are_atomic_of_askedTwice :
    ∃ after, (run (attempts askedTwice) false freshWorld).2.store = some after ∧
      after.tokens.rows.length + after.packages.rows.length = 2 ∧
      (run (attempts askedTwice) false freshWorld).2 =
        (run (attempts (createBulkToken :: askedTwice.drop 2)) false freshWorld).2 := by
  have creates : ∀ c ∈ askedTwice, c.Creates := by
    simp only [askedTwice, createBulkToken, List.forall_mem_cons, List.not_mem_nil, false_implies,
      implies_true, and_true]
    exact ⟨.token _ _ _, .token _ _ _, .package _, .package _⟩
  obtain ⟨each, mixed⟩ := creations_are_atomic creates
  have committed : (run (attempts askedTwice) false freshWorld).1.kept = true := by decide +kernel
  have successes : (run (attempts askedTwice) false freshWorld).1.answers.countP succeeded = 2 := by
    decide +kernel
  obtain ⟨after, left, -, grown⟩ := mixed freshWorld .empty rfl committed
  rw [successes] at grown
  refine ⟨after, left, grown.count, ?_⟩
  refine ((each createBulkToken (by simp [askedTwice])).dropped (attempts [createBulkToken])
    (attempts (askedTwice.drop 2)) false freshWorld ?_).2
  rintro reached ⟨answers, ran⟩
  have there : reached = (runSteps (attempts [createBulkToken]) (begun freshWorld)).2.2 := by rw [ran]
  have second : (match (createBulkToken.job.run reached).1 with
      | .error (.refused _) => true
      | _ => false) = true := by
    rw [there]
    decide +kernel
  split at second
  · exact ⟨_, ‹_›⟩
  · cases second

end RegistryTokens
