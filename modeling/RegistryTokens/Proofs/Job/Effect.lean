import RegistryTokens.Job.Basic

/-!
# What a job does to the store

The log and its context never decide an answer. A job that reads answers by the store and the
clock and leaves both alone; a job that writes also leaves a new store. Each way to put jobs
together has one rule, so what a job does is found by following its text.
-/

set_option autoImplicit false

namespace RegistryTokens.Job

open RegistryTokens.Time

variable {α β : Type}

theorem run_bind (job : Job α) (next : α → Job β) (w : World) :
    (job >>= next).run w = match job.run w with
      | (.ok a, after) => (next a).run after
      | (.error failure, after) => (.error failure, after) := by
  change (ExceptT.bindCont next (job.run w).1) (job.run w).2 = _
  rcases job.run w with ⟨result, after⟩
  cases result <;> rfl

/-- The answer and the store afterwards follow from the store and the clock. -/
def Does (job : Job α) (effect : Option Store → Clock → Answer α × Option Store) : Prop :=
  ∀ w : World, ((job.run w).1, (job.run w).2.store) = effect w.store w.clock ∧
    (job.run w).2.clock = w.clock

/-- The answer follows from the store and the clock, and both stay as they are. -/
def Reads (job : Job α) (answer : Option Store → Clock → Answer α) : Prop :=
  Does job fun s c => (answer s c, s)

def followed (first : Answer α × Option Store) (next : α → Option Store → Answer β × Option Store) :
    Answer β × Option Store :=
  match first with
  | (.ok a, s) => next a s
  | (.error failure, s) => (.error failure, s)

theorem Does.answer {job : Job α} {effect : Option Store → Clock → Answer α × Option Store}
    (h : Does job effect) (w : World) : (job.run w).1 = (effect w.store w.clock).1 :=
  congrArg Prod.fst (h w).1

theorem Does.store {job : Job α} {effect : Option Store → Clock → Answer α × Option Store}
    (h : Does job effect) (w : World) : (job.run w).2.store = (effect w.store w.clock).2 :=
  congrArg Prod.snd (h w).1

theorem Does.bind {job : Job α} {next : α → Job β}
    {effect : Option Store → Clock → Answer α × Option Store}
    {rest : α → Option Store → Clock → Answer β × Option Store}
    (h : Does job effect) (hn : ∀ a, Does (next a) (rest a)) :
    Does (job >>= next) fun s c => followed (effect s c) fun a s => rest a s c := by
  intro w
  obtain ⟨same, clock⟩ := h w
  dsimp only
  rw [run_bind, ← same]
  generalize job.run w = r at clock ⊢
  obtain ⟨result, after⟩ := r
  cases result with
  | error failure => exact ⟨rfl, clock⟩
  | ok a =>
    obtain ⟨sameRest, clockRest⟩ := hn a after
    exact ⟨by simpa [followed, ← clock] using sameRest, clockRest.trans clock⟩

theorem Does.congr {job : Job α} {effect other : Option Store → Clock → Answer α × Option Store}
    (h : Does job effect) (same : ∀ s c, effect s c = other s c) : Does job other := by
  intro w
  rw [← same]
  exact h w

theorem Reads.congr {job : Job α} {answer other : Option Store → Clock → Answer α}
    (h : Reads job answer) (same : ∀ s c, answer s c = other s c) : Reads job other :=
  Does.congr h fun s c => by rw [same]

theorem Reads.bind {job : Job α} {next : α → Job β} {answer : Option Store → Clock → Answer α}
    {rest : α → Option Store → Clock → Answer β}
    (h : Reads job answer) (hn : ∀ a, Reads (next a) (rest a)) :
    Reads (job >>= next) fun s c => answer s c >>= fun a => rest a s c :=
  (Does.bind h hn).congr fun s c => by
    dsimp only
    cases answer s c <;> rfl

theorem reads_ofAnswer (answer : Answer α) : Reads (ofAnswer answer) fun _ _ => answer :=
  fun _ => ⟨rfl, rfl⟩

theorem reads_pure (a : α) : Reads (pure a) fun _ _ => .ok a := fun _ => ⟨rfl, rfl⟩

theorem reads_log (level : Log.Level) (logger message : String) (extras : List (String × Value)) :
    Reads (log level logger message extras) fun _ _ => .ok () :=
  fun _ => ⟨rfl, rfl⟩

theorem reads_tables :
    Reads tables fun s _ => Answer.ofOption (.broke (.store .operational)) s :=
  fun _ => ⟨rfl, rfl⟩

theorem reads_now : Reads now fun _ c => c.now.mapError Failure.ofClock := fun _ => ⟨rfl, rfl⟩

theorem does_setTables (t : Store) : Does (setTables t) fun _ _ => (.ok (), some t) :=
  fun _ => ⟨rfl, rfl⟩

theorem reads_lift (answer : Answer α) : Reads (Answer.lift answer) fun _ _ => answer :=
  fun _ => ⟨rfl, rfl⟩

theorem reads_throw (failure : Failure) : Reads (throw failure : Job α) fun _ _ => .error failure :=
  fun _ => ⟨rfl, rfl⟩

theorem Reads.ite {job other : Job α} {answer otherAnswer : Option Store → Clock → Answer α}
    (p : Prop) [Decidable p] (h : Reads job answer) (ho : Reads other otherAnswer) :
    Reads (if p then job else other) fun s c => if p then answer s c else otherAnswer s c := by
  split
  · exact h
  · exact ho

theorem Reads.concluded {job : Job α} {answer : Option Store → Clock → Answer α}
    (h : Reads job answer) (finish : Answer α → Answer β) :
    Reads (ExceptT.mk do return finish (← job.run)) fun s c => finish (answer s c) := by
  intro w
  obtain ⟨same, clock⟩ := h w
  obtain ⟨answered, kept⟩ := Prod.mk.inj same
  exact ⟨Prod.ext (congrArg finish answered) kept, clock⟩

theorem Reads.mapM {f : α → Job β} {g : α → Option Store → Clock → Answer β} (items : List α)
    (h : ∀ a, Reads (f a) (g a)) : Reads (items.mapM f) fun s c => items.mapM fun a => g a s c := by
  induction items with
  | nil => exact reads_pure []
  | cons a rest ih =>
    simp only [List.mapM_cons]
    exact (h a).bind fun b => ih.bind fun bs => reads_pure (b :: bs)

theorem Reads.foldlM {f : β → α → Job β} {g : β → α → Option Store → Clock → Answer β}
    (items : List α) (h : ∀ b a, Reads (f b a) (g b a)) (b : β) :
    Reads (items.foldlM f b) fun s c => items.foldlM (fun b a => g b a s c) b := by
  induction items generalizing b with
  | nil => exact reads_pure b
  | cons a rest ih =>
    simp only [List.foldlM_cons]
    exact (h b a).bind fun b => ih b

theorem Does.within {job : Job α} {effect : Option Store → Clock → Answer α × Option Store}
    (h : Does job effect) (bindings : List (Log.ContextField × String)) :
    Does (within bindings job) effect :=
  fun w => h { w with context := w.context.assign bindings }

theorem Does.onFailure {job : Job α} {effect : Option Store → Clock → Answer α × Option Store}
    (h : Does job effect) {react : Failure → World → World}
    (keeps : ∀ failure w, (react failure w).store = w.store ∧ (react failure w).clock = w.clock) :
    Does (onFailure job react) effect := by
  intro w
  obtain ⟨same, clock⟩ := h w
  rw [← same]
  simp only [Job.onFailure, ExceptT.run, ExceptT.mk] at clock ⊢
  generalize job w = r at clock ⊢
  obtain ⟨result, after⟩ := r
  cases result with
  | ok a => exact ⟨rfl, clock⟩
  | error failure =>
    exact ⟨by simp [(keeps failure after).1], (keeps failure after).2.trans clock⟩

/-- What is kept of a plan: all that it writes if it succeeds, and nothing otherwise. -/
def kept (plan : Answer (α × Option Store)) (before : Option Store) : Answer α × Option Store :=
  match plan with
  | .ok (a, after) => (.ok a, after)
  | .error failure => (.error failure, before)

def whole (effect : Answer α × Option Store) : Answer (α × Option Store) :=
  effect.1.map fun a => (a, effect.2)

@[simp] theorem whole_kept (plan : Answer (α × Option Store)) (before : Option Store) :
    whole (kept plan before) = plan := by
  cases plan <;> rfl

theorem Reads.bindKept {job : Job α} {next : α → Job β} {answer : Option Store → Clock → Answer α}
    {rest : α → Option Store → Clock → Answer (β × Option Store)} (h : Reads job answer)
    (hn : ∀ a, Does (next a) fun s c => kept (rest a s c) s) :
    Does (job >>= next) fun s c => kept (answer s c >>= fun a => rest a s c) s :=
  (Does.bind h hn).congr fun s c => by cases answer s c <;> rfl

theorem Does.halt {violation : Job α} {failure : Failure}
    (hv : Reads violation fun _ _ => .error failure) (next : α → Job β) :
    Does (violation >>= next) fun s _ => kept (.error failure) s := by
  intro w
  obtain ⟨same, clock⟩ := hv w
  obtain ⟨answered, stored⟩ := Prod.mk.inj same
  rw [run_bind]
  generalize violation.run w = r at answered stored clock ⊢
  obtain ⟨result, after⟩ := r
  subst answered
  exact ⟨Prod.ext rfl stored, clock⟩

theorem Does.guard {p : Prop} [Decidable p] {violation : Job Unit} {next : Unit → Job β}
    {failure : Failure} {rest : Option Store → Clock → Answer (β × Option Store)}
    (hv : Reads violation fun _ _ => .error failure)
    (hn : Does (next ()) fun s c => kept (rest s c) s) :
    Does (if p then violation >>= next else next ()) fun s c =>
      kept (if p then .error failure else rest s c) s := by
  split
  · exact .halt hv next
  · exact hn

theorem Does.bindReads {job : Job α} {next : α → Job β}
    {plan : Option Store → Clock → Answer (α × Option Store)} {f : α → β}
    (h : Does job fun s c => kept (plan s c) s)
    (hn : ∀ a, Reads (next a) fun _ _ => .ok (f a)) :
    Does (job >>= next) fun s c => kept ((plan s c).map fun p => (f p.1, p.2)) s :=
  (Does.bind h hn).congr fun s c => by cases plan s c <;> rfl

theorem store_discarded {job : Job α} {plan : Option Store → Clock → Answer (α × Option Store)}
    (h : Does job fun s c => kept (plan s c) s) (w : World) :
    ((do let _ ← job : Job Unit).run w).2.store = (kept (plan w.store w.clock) w.store).2 := by
  rw [(h.bindReads (f := fun _ => ()) fun _ => reads_pure ()).store]
  cases plan w.store w.clock <;> rfl

/-- A transaction keeps what it wrote only if it succeeds. -/
theorem Does.transact {job : Job α} {effect : Option Store → Clock → Answer α × Option Store}
    (h : Does job effect) : Does (transact job) fun s c => kept (whole (effect s c)) s := by
  intro w
  obtain ⟨same, clock⟩ := h (w.log .debug engineLogger "transaction_started" [] none)
  have start : effect w.store w.clock = _ := same.symm
  dsimp only
  rw [start]
  simp only [Job.transact, ExceptT.run, ExceptT.mk] at clock ⊢
  generalize job (w.log .debug engineLogger "transaction_started" [] none) = r at clock ⊢
  obtain ⟨result, after⟩ := r
  cases result with
  | ok a => exact ⟨rfl, clock⟩
  | error failure => exact ⟨rfl, clock⟩

def Clean (job : Job α) : Prop :=
  ∀ w failure, (job.run w).1 = .error failure → (job.run w).2.store = w.store

theorem clean_transact (job : Job α) : Clean (transact job) :=
  fun w _ => store_transact_of_error job w

theorem Clean.within {job : Job α} (h : Clean job) (bindings : List (Log.ContextField × String)) :
    Clean (within bindings job) :=
  fun w => h { w with context := w.context.assign bindings }

theorem Reads.bindClean {job : Job α} {next : α → Job β} {answer : Option Store → Clock → Answer α}
    (h : Reads job answer) (hn : ∀ a, Clean (next a)) : Clean (job >>= next) := by
  intro w failure
  have kept := h.store w
  rw [run_bind]
  generalize job.run w = r at kept ⊢
  obtain ⟨result, after⟩ := r
  cases result with
  | error _ => exact fun _ => kept
  | ok a =>
    intro failed
    rw [hn a after failure failed]
    exact kept

theorem Clean.bindReads {job : Job α} {next : α → Job β} {f : α → β} (h : Clean job)
    (hn : ∀ a, Reads (next a) fun _ _ => .ok (f a)) : Clean (job >>= next) := by
  intro w failure
  have kept := h w failure
  rw [run_bind]
  generalize job.run w = r at kept ⊢
  obtain ⟨result, after⟩ := r
  cases result with
  | error _ =>
    intro failed
    cases failed
    exact kept rfl
  | ok a =>
    intro failed
    rw [(hn a).answer] at failed
    cases failed

end RegistryTokens.Job
