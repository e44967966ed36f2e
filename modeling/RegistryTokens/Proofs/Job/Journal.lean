import RegistryTokens.Proofs.Job.Effect

/-!
# What a job writes into the journal

A journal only grows, and a scope of the log context gives back what it found. So every job adds
some records to those that were there. What is true of each step of a job and passes on from step to
step is true of the job, and a job that is done for one item after the other adds what it adds for
each of those that it comes to.
-/

set_option autoImplicit false

namespace RegistryTokens

variable {α β : Type}

class Passing (R : World → World → Prop) : Prop where
  refl : ∀ w, R w w
  trans : ∀ {w next after}, R w next → R next after → R w after

def Unmoved (w after : World) : Prop := after = w

def Silent (w after : World) : Prop := after.journal = w.journal ∧ after.context = w.context

def Recorded (w after : World) : Prop := w.journal <+: after.journal ∧ after.context = w.context

instance : Passing Unmoved := ⟨fun _ => rfl, fun h k => k.trans h⟩

instance : Passing Silent := ⟨fun _ => ⟨rfl, rfl⟩, fun h k => ⟨k.1.trans h.1, k.2.trans h.2⟩⟩

instance : Passing Recorded :=
  ⟨fun _ => ⟨List.prefix_rfl, rfl⟩, fun h k => ⟨h.1.trans k.1, k.2.trans h.2⟩⟩

theorem Silent.recorded {w after : World} (h : Silent w after) : Recorded w after :=
  ⟨h.1 ▸ List.prefix_rfl, h.2⟩

theorem World.recorded_log (w : World) (level : Log.Level) (logger message : String)
    (extras : List (String × Value)) (incident : Option Log.Incident) :
    Recorded w (w.log level logger message extras incident) :=
  ⟨List.prefix_append _ _, rfl⟩

theorem Log.Context.put_put_get (c : Log.Context) (f : Log.ContextField) (v : Option String) :
    (c.put f v).put f (c.get f) = c := by
  cases f <;> rfl

namespace Job

/-- A job leads from every world to one that is related to it. -/
def Moves (R : World → World → Prop) (job : Job α) : Prop := ∀ w, R w (job.run w).2

def added (job : Job α) (w : World) : List Log.Record := (job.run w).2.journal.drop w.journal.length

section
variable {R : World → World → Prop} [Passing R]

theorem Moves.still {job : Job α} (same : ∀ w, (job.run w).2 = w) : Moves R job := by
  intro w
  rw [same]
  exact Passing.refl w

theorem Moves.bind {job : Job α} {next : α → Job β} (h : Moves R job)
    (hn : ∀ a, Moves R (next a)) : Moves R (job >>= next) := by
  intro w
  have first := h w
  rw [run_bind]
  generalize job.run w = r at first ⊢
  obtain ⟨result, after⟩ := r
  cases result with
  | ok a => exact Passing.trans first (hn a after)
  | error _ => exact first

theorem Moves.mapM {f : α → Job β} (items : List α) (h : ∀ a, Moves R (f a)) :
    Moves R (items.mapM f) := by
  induction items with
  | nil => exact .still fun _ => rfl
  | cons a rest ih =>
    rw [List.mapM_cons]
    exact (h a).bind fun b => ih.bind fun bs => .still fun _ => rfl

theorem Moves.foldlM {f : β → α → Job β} (items : List α) (h : ∀ b a, Moves R (f b a)) (b : β) :
    Moves R (items.foldlM f b) := by
  induction items generalizing b with
  | nil => exact .still fun _ => rfl
  | cons a rest ih =>
    rw [List.foldlM_cons]
    exact (h b a).bind ih

end

theorem Moves.imp {R R' : World → World → Prop} {job : Job α} (h : Moves R job)
    (weaker : ∀ {w after}, R w after → R' w after) : Moves R' job :=
  fun w => weaker (h w)

def note (c : Log.Context) (level : Log.Level) (logger message : String)
    (extras : List (String × Value)) : Log.Record :=
  { level, logger := Log.loggerName logger, message, context := c, extras, incident := none }

theorem run_within (f : Log.ContextField) (v : String) (job : Job α) (w : World) :
    (within [(f, v)] job).run w =
      ((job.run { w with context := w.context.put f (some v) }).1,
        { (job.run { w with context := w.context.put f (some v) }).2 with
          context := (job.run { w with context := w.context.put f (some v) }).2.context.put f
            (w.context.get f) }) :=
  rfl

theorem run_onFailure (job : Job α) (react : Failure → World → World) (w : World) :
    (onFailure job react).run w = match job.run w with
      | (.ok a, after) => (.ok a, after)
      | (.error failure, after) => (.error failure, react failure after) :=
  rfl

theorem Moves.within {job : Job α} (h : Moves Recorded job) (f : Log.ContextField) (v : String) :
    Moves Recorded (within [(f, v)] job) := by
  intro w
  obtain ⟨grown, context⟩ := h { w with context := w.context.put f (some v) }
  rw [run_within]
  refine ⟨grown, ?_⟩
  dsimp only
  rw [context, Log.Context.put_put_get]

theorem Moves.onFailure {job : Job α} {react : Failure → World → World} (h : Moves Recorded job)
    (reacts : ∀ failure w, Recorded w (react failure w)) :
    Moves Recorded (onFailure job react) := by
  intro w
  have first := h w
  rw [run_onFailure]
  generalize job.run w = r at first ⊢
  obtain ⟨result, after⟩ := r
  cases result with
  | ok a => exact first
  | error failure => exact Passing.trans first (reacts failure after)

theorem journal_of_recorded {job : Job α} (h : Moves Recorded job) (w : World) :
    (job.run w).2.journal = w.journal ++ added job w :=
  List.prefix_iff_eq_append.1 (h w).1 |>.symm

/-- The items that a job is done for one after the other, each with the world it finds; a failure
ends it. -/
def visits (f : α → Job β) : List α → World → List (α × World)
  | [], _ => []
  | a :: rest, w => (a, w) :: match (f a).run w with
    | (.ok _, after) => visits f rest after
    | (.error _, _) => []

def addedFor (f : α → Job β) (visited : List (α × World)) : List Log.Record :=
  visited.flatMap fun v => added (f v.1) v.2

theorem run_mapM_cons (f : α → Job β) (a : α) (rest : List α) (w : World) :
    ((a :: rest).mapM f).run w = match (f a).run w with
      | (.ok b, after) => (((rest.mapM f).run after).1.map (b :: ·), ((rest.mapM f).run after).2)
      | (.error failure, after) => (.error failure, after) := by
  rw [List.mapM_cons, run_bind]
  rcases (f a).run w with ⟨result, after⟩
  cases result with
  | error _ => rfl
  | ok b =>
    dsimp only
    rw [run_bind]
    rcases (rest.mapM f).run after with ⟨others, last⟩
    cases others <;> rfl

theorem mem_of_visit {f : α → Job β} {items : List α} {w : World} {v : α × World}
    (visited : v ∈ visits f items w) : v.1 ∈ items := by
  induction items generalizing w with
  | nil => cases visited
  | cons a rest ih =>
    rcases List.mem_cons.1 visited with rfl | later
    · exact List.mem_cons_self
    · split at later
      · exact List.mem_cons_of_mem a (ih later)
      · cases later

theorem context_of_visit {f : α → Job β} (h : ∀ a, Moves Recorded (f a)) {items : List α}
    {w : World} {v : α × World} (visited : v ∈ visits f items w) : v.2.context = w.context := by
  induction items generalizing w with
  | nil => cases visited
  | cons a rest ih =>
    rcases List.mem_cons.1 visited with rfl | later
    · rfl
    · have kept := (h a w).2
      generalize (f a).run w = r at kept later
      obtain ⟨result, after⟩ := r
      cases result with
      | ok _ => exact (ih later).trans kept
      | error _ => cases later

theorem journal_mapM {f : α → Job β} (h : ∀ a, Moves Recorded (f a)) (items : List α) (w : World) :
    ((items.mapM f).run w).2.journal = w.journal ++ addedFor f (visits f items w) := by
  induction items generalizing w with
  | nil => exact (List.append_nil _).symm
  | cons a rest ih =>
    have first := journal_of_recorded (h a) w
    rw [run_mapM_cons, visits, addedFor, List.flatMap_cons, ← List.append_assoc, ← first]
    generalize (f a).run w = r
    obtain ⟨result, after⟩ := r
    cases result with
    | ok _ => exact ih after
    | error _ => exact (List.append_nil _).symm

theorem answer_mapM (f : α → Job β) (items : List α) (w : World) :
    (∃ bs, ((items.mapM f).run w).1 = .ok bs ∧ bs.length = items.length ∧
      ∀ v ∈ visits f items w, ∃ b, ((f v.1).run v.2).1 = .ok b) ∨
    ∃ front v failure, visits f items w = front ++ [v] ∧
      (∀ x ∈ front, ∃ b, ((f x.1).run x.2).1 = .ok b) ∧
      ((f v.1).run v.2).1 = .error failure ∧ ((items.mapM f).run w).1 = .error failure := by
  induction items generalizing w with
  | nil => exact .inl ⟨[], rfl, rfl, nofun⟩
  | cons a rest ih =>
    rw [run_mapM_cons, visits]
    cases result : (f a).run w with
    | mk answer after =>
      cases answer with
      | error failure =>
        have failed : ((f a).run w).1 = .error failure := congrArg Prod.fst result
        exact .inr ⟨[], (a, w), failure, rfl, nofun, failed, rfl⟩
      | ok b =>
        have passed : ∃ b, ((f a).run w).1 = .ok b := ⟨b, congrArg Prod.fst result⟩
        dsimp only
        rcases ih after with ⟨bs, answered, length, all⟩ | ⟨front, v, failure, last, before, failed,
          answered⟩
        · rw [answered]
          refine .inl ⟨b :: bs, rfl, congrArg Nat.succ length, ?_⟩
          exact List.forall_mem_cons.2 ⟨passed, all⟩
        · rw [answered, last]
          exact .inr ⟨(a, w) :: front, v, failure, rfl, List.forall_mem_cons.2 ⟨passed, before⟩,
            failed, rfl⟩

end Job

end RegistryTokens
