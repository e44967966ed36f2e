import RegistryTokens.Log.Context

/-!
# Scopes of the log context

Leaving a scope gives the fields that it bound what they held when it was entered, whatever was set,
cleared and bound in between, and leaves all other fields as they are. The stack of open scopes
carries this: steps in which every scope is left again end with the stack that they found.
-/

set_option autoImplicit false

namespace RegistryTokens.Log

theorem ContextField.ofName?_eq_some_iff {name : String} {f : ContextField} :
    ofName? name = some f ↔ name = f.name := by
  constructor
  · intro found
    have named := List.find?_some found
    exact (eq_of_beq named).symm
  · rintro rfl
    cases f <;> rfl

def Gives (given : List (String × Option String)) (f : ContextField) : Prop :=
  ∃ v, (f.name, some v) ∈ given

def isGift (g : String × Option String) : Bool := (ContextField.ofName? g.1).isSome && g.2.isSome

/-- Fields for which something is given take it, and the others stay as they are. -/
def Takes (given : List (String × Option String)) (before after : Context) : Prop :=
  ∀ f, (Gives given f → ∃ v, (f.name, some v) ∈ given ∧ after.get f = some v) ∧
    (¬Gives given f → after.get f = before.get f)

def Returns (given : List (String × Option String)) (once before after : Context) : Prop :=
  ∀ f, (Gives given f → after.get f = once.get f) ∧ (¬Gives given f → after.get f = before.get f)

namespace Context

variable {c : Context} {f : ContextField} {given : List (String × Option String)}

theorem mem_bindable_iff {v : String} : (f, v) ∈ bindable given ↔ (f.name, some v) ∈ given := by
  unfold bindable
  rw [List.mem_filterMap]
  constructor
  · rintro ⟨⟨name, value⟩, there, bound⟩
    obtain ⟨g, known, bound⟩ := Option.bind_eq_some_iff.1 bound
    obtain ⟨w, some, bound⟩ := Option.bind_eq_some_iff.1 bound
    cases bound
    rw [← ContextField.ofName?_eq_some_iff.1 known, ← some]
    exact there
  · intro there
    have known : ContextField.ofName? f.name = some f := ContextField.ofName?_eq_some_iff.2 rfl
    refine ⟨_, there, ?_⟩
    dsimp only
    rw [known]
    rfl

theorem mem_fields_bindable_iff : f ∈ (bindable given).map (·.1) ↔ Gives given f := by
  rw [List.mem_map]
  constructor
  · rintro ⟨⟨_, v⟩, bound, rfl⟩
    exact ⟨v, mem_bindable_iff.1 bound⟩
  · rintro ⟨v, there⟩
    exact ⟨(f, v), mem_bindable_iff.2 there, rfl⟩

theorem bindable_filter {p : String × Option String → Bool}
    (keeps : ∀ g, isGift g = true → p g = true) : bindable (given.filter p) = bindable given := by
  unfold bindable
  rw [List.filterMap_filter]
  refine congrArg (List.filterMap · given) (funext fun g => ?_)
  by_cases kept : p g = true
  · exact if_pos kept
  · have idle : ¬isGift g = true := fun gift => kept (keeps g gift)
    obtain ⟨name, value⟩ := g
    rw [if_neg kept]
    cases known : ContextField.ofName? name <;> cases value <;> simp_all [isGift]

theorem get_assign_of_not_mem {bindings : List (ContextField × String)}
    (free : f ∉ bindings.map (·.1)) : (c.assign bindings).get f = c.get f := by
  induction bindings generalizing c with
  | nil => rfl
  | cons b rest ih =>
    rw [List.map_cons, List.mem_cons, not_or] at free
    exact (ih (c := c.put b.1 (some b.2)) free.2).trans (get_put_of_ne c _ free.1)

theorem get_assign_of_mem {bindings : List (ContextField × String)}
    (bound : f ∈ bindings.map (·.1)) : ∃ v, (f, v) ∈ bindings ∧ (c.assign bindings).get f = some v := by
  induction bindings generalizing c with
  | nil => cases bound
  | cons b rest ih =>
    by_cases later : f ∈ rest.map (·.1)
    · obtain ⟨v, there, held⟩ := ih (c := c.put b.1 (some b.2)) later
      exact ⟨v, List.mem_cons_of_mem b there, held⟩
    · rcases List.mem_cons.1 bound with rfl | there
      · refine ⟨b.2, List.mem_cons_self, ?_⟩
        exact (get_assign_of_not_mem later).trans (get_put_self c b.1 _)
      · exact absurd there later

theorem get_restore_saved (c entered : Context) (bindings : List (ContextField × String)) :
    (c.restore (entered.saved bindings)).get f =
      if f ∈ bindings.map (·.1) then entered.get f else c.get f := by
  induction bindings generalizing c with
  | nil => rfl
  | cons b rest ih =>
    have later := ih (c.put b.1 (entered.get b.1))
    change ((c.put b.1 (entered.get b.1)).restore (entered.saved rest)).get f = _
    by_cases own : f = b.1
    · rw [later, own, get_put_self, ite_self, if_pos (by simp)]
    · have same : f ∈ (b :: rest).map (·.1) ↔ f ∈ rest.map (·.1) := by simp [own]
      rw [later, get_put_of_ne c _ own]
      simp only [same]

theorem mem_fields_iff {name v : String} :
    (name, v) ∈ c.fields ↔ ∃ f : ContextField, f.name = name ∧ c.get f = some v := by
  unfold fields
  rw [List.mem_filterMap]
  constructor
  · rintro ⟨f, -, shown⟩
    obtain ⟨w, held, shown⟩ := Option.map_eq_some_iff.1 shown
    cases shown
    exact ⟨f, rfl, held⟩
  · rintro ⟨f, rfl, held⟩
    refine ⟨f, ?_, by rw [held]; rfl⟩
    cases f <;> decide

theorem nodup_fields (c : Context) : (c.fields.map (·.1)).Nodup := by
  obtain ⟨batch, token⟩ := c
  cases batch <;> cases token <;> simp [fields, ContextField.all, ContextField.name, get]

theorem takes_assign (c : Context) (given : List (String × Option String)) :
    Takes given c (c.assign (bindable given)) := by
  intro f
  rw [← mem_fields_bindable_iff]
  constructor
  · intro bound
    obtain ⟨v, there, held⟩ := get_assign_of_mem (c := c) bound
    exact ⟨v, mem_bindable_iff.1 there, held⟩
  · exact get_assign_of_not_mem

theorem returns_restore (c entered : Context) (given : List (String × Option String)) :
    Returns given entered c (c.restore (entered.saved (bindable given))) := by
  intro f
  rw [← mem_fields_bindable_iff, get_restore_saved]
  exact ⟨fun bound => if_pos bound, fun free => if_neg free⟩

theorem setFields_of_known (known : ∀ g ∈ given, ∃ f : ContextField, g.1 = f.name) :
    c.setFields given = c.assign (bindable given) := by
  refine if_pos (List.all_eq_true.2 fun g there => ?_)
  obtain ⟨f, named⟩ := known g there
  rw [ContextField.ofName?_eq_some_iff.2 named]
  rfl

end Context

namespace Scoped

/-- Steps in which every scope that is entered is left again. -/
inductive Balanced : List Step → Prop where
  | nil : Balanced []
  | set {rest : List Step} (given : List (String × Option String)) (h : Balanced rest) :
    Balanced (.set given :: rest)
  | clear {rest : List Step} (h : Balanced rest) : Balanced (.clear :: rest)
  | scope {inner rest : List Step} (given : List (String × Option String)) (within : Balanced inner)
    (h : Balanced rest) : Balanced (.enter given :: inner ++ .leave :: rest)

/-- Properly nested steps, with the count of the scopes that are still open after them: a scope is
left only while one is open. -/
inductive Nested : Nat → List Step → Prop where
  | nil : Nested 0 []
  | set {n : Nat} {steps : List Step} (h : Nested n steps) (given : List (String × Option String)) :
    Nested n (steps ++ [.set given])
  | clear {n : Nat} {steps : List Step} (h : Nested n steps) : Nested n (steps ++ [.clear])
  | enter {n : Nat} {steps : List Step} (h : Nested n steps) (given : List (String × Option String)) :
    Nested (n + 1) (steps ++ [.enter given])
  | leave {n : Nat} {steps : List Step} (h : Nested (n + 1) steps) : Nested n (steps ++ [.leave])

inductive Opens : Nat → List Step → Prop where
  | closed {steps : List Step} (h : Balanced steps) : Opens 0 steps
  | under {n : Nat} {outer inner : List Step} (h : Opens n outer)
    (given : List (String × Option String)) (within : Balanced inner) :
    Opens (n + 1) (outer ++ .enter given :: inner)

theorem Balanced.append {front back : List Step} (h : Balanced front) (hb : Balanced back) :
    Balanced (front ++ back) := by
  induction h with
  | nil => exact hb
  | set given _ ih => exact .set given ih
  | clear _ ih => exact .clear ih
  | @scope inner rest given within _ _ ih =>
    have joined := Balanced.scope given within ih
    simpa using joined

theorem Opens.append {n : Nat} {front back : List Step} (h : Opens n front) (hb : Balanced back) :
    Opens n (front ++ back) := by
  cases h with
  | closed h => exact .closed (h.append hb)
  | under h given within =>
    rw [List.append_assoc, List.cons_append]
    exact .under h given (within.append hb)

theorem Opens.leave {n : Nat} {steps : List Step} (h : Opens (n + 1) steps) :
    Opens n (steps ++ [.leave]) := by
  cases h with
  | @under _ outer inner h given within =>
    have whole := h.append (.scope given within .nil)
    simpa using whole

theorem Nested.opens {n : Nat} {steps : List Step} (h : Nested n steps) : Opens n steps := by
  induction h with
  | nil => exact .closed .nil
  | set _ given ih => exact ih.append (.set given .nil)
  | clear _ ih => exact ih.append (.clear .nil)
  | enter _ given ih => exact .under ih given .nil
  | leave _ ih => exact ih.leave

theorem Nested.entered {n : Nat} {steps : List Step} (h : Nested (n + 1) steps) :
    ∃ outer given inner, steps = outer ++ .enter given :: inner ∧ Balanced inner := by
  cases h.opens with
  | under _ given within => exact ⟨_, given, _, rfl, within⟩

theorem run_append (s : Scoped) (front back : List Step) :
    s.run (front ++ back) = (s.run front).run back :=
  List.foldl_append

theorem Balanced.scopes_run {steps : List Step} (h : Balanced steps) (s : Scoped) :
    (s.run steps).scopes = s.scopes := by
  induction h generalizing s with
  | nil => rfl
  | set given _ ih => exact ih (s.step (.set given))
  | clear _ ih => exact ih (s.step .clear)
  | @scope inner rest given _ _ inside ih =>
    have entered := inside (s.step (.enter given))
    change ((s.step (.enter given)).run (inner ++ .leave :: rest)).scopes = s.scopes
    rw [run_append]
    generalize (s.step (.enter given)).run inner = left at entered ⊢
    obtain ⟨context, scopes⟩ := left
    cases entered
    exact ih _

theorem Balanced.context_leave {inner : List Step} (h : Balanced inner) (s : Scoped)
    (given : List (String × Option String)) :
    (s.run (.enter given :: inner ++ [.leave])).context =
      (s.run (.enter given :: inner)).context.restore (s.context.saved (Context.bindable given)) := by
  have entered := h.scopes_run (s.step (.enter given))
  rw [run_append]
  change (((s.step (.enter given)).run inner).step .leave).context =
    ((s.step (.enter given)).run inner).context.restore _
  generalize (s.step (.enter given)).run inner = left at entered ⊢
  obtain ⟨context, scopes⟩ := left
  cases entered
  rfl

theorem step_enter_filter (s : Scoped) (given : List (String × Option String)) :
    s.step (.enter (given.filter isGift)) = s.step (.enter given) := by
  simp only [step, Context.bindable_filter fun _ gift => gift]

theorem step_set_filter (s : Scoped) {given : List (String × Option String)}
    (known : ∀ g ∈ given, ∃ f : ContextField, g.1 = f.name) :
    s.step (.set (given.filter fun g => g.2.isSome)) = s.step (.set given) := by
  have still : ∀ g ∈ given.filter fun g => g.2.isSome, ∃ f : ContextField, g.1 = f.name :=
    fun g there => known g (List.mem_filter.1 there).1
  have kept : ∀ g : String × Option String, isGift g = true → g.2.isSome = true :=
    fun g gift => (Bool.and_eq_true_iff.1 gift).2
  simp only [step, Context.setFields_of_known known, Context.setFields_of_known still,
    Context.bindable_filter kept]

/-- Whenever a scope is left, each field that it bound holds again what it held when the scope was
entered, and every other field what it was left with inside. Entering binds what is given under the
name of a field, and setting sets it; other names and missing values might as well not be given. What
is shown are the fields that hold something. -/
theorem leaves_as_entered {n : Nat} {steps : List Step} (nested : Nested (n + 1) steps)
    (s : Scoped) :
    (∃ outer given inner, steps = outer ++ .enter given :: inner ∧ Balanced inner) ∧
    (∀ outer given inner, steps = outer ++ .enter given :: inner → Balanced inner →
      Returns given (s.run outer).context (s.run steps).context
        (s.run (steps ++ [.leave])).context) ∧
    (∀ given, Takes given s.context (s.step (.enter given)).context ∧
      s.step (.enter (given.filter isGift)) = s.step (.enter given)) ∧
    (∀ given, (∀ g ∈ given, ∃ f : ContextField, g.1 = f.name) →
      Takes given s.context (s.step (.set given)).context ∧
      s.step (.set (given.filter fun g => g.2.isSome)) = s.step (.set given)) ∧
    (s.context.fields.map (·.1)).Nodup ∧ ∀ name v, (name, v) ∈ s.context.fields ↔
      ∃ f : ContextField, f.name = name ∧ s.context.get f = some v := by
  refine ⟨nested.entered, ?_, fun given => ⟨?_, step_enter_filter s given⟩, fun given known => ⟨?_,
    step_set_filter s known⟩, s.context.nodup_fields, fun _ _ => Context.mem_fields_iff⟩
  · rintro outer given inner rfl within
    have returned := Context.returns_restore (((s.run outer).run (.enter given :: inner)).context)
      (s.run outer).context given
    rw [List.append_assoc, run_append, run_append, List.cons_append]
    exact (within.context_leave (s.run outer) given) ▸ returned
  · exact s.context.takes_assign given
  · have assigned := s.context.takes_assign given
    rw [← Context.setFields_of_known known] at assigned
    exact assigned

def batchGiven : List (String × Option String) :=
  [("batch_id", some "b2"), ("token_identifier", none), ("level", some "high")]

def busySteps : List Step := [.clear, .enter [("token_identifier", some "T1")],
  .set [("batch_id", some "b3")], .leave, .set [("token_identifier", some "T2")]]

def batchSteps : List Step := [.set [("batch_id", some "b1")]] ++ .enter batchGiven :: busySteps

theorem leaves_as_entered_of_batchSteps : Nested 1 batchSteps ∧ Balanced busySteps ∧
    (start.run (batchSteps ++ [.leave])).context.get .batch = some "b1" ∧
    (start.run (batchSteps ++ [.leave])).context.get .token = some "T2" := by
  have nested : Nested 1 batchSteps :=
    .set (.leave (.set (.enter (.clear (.enter (.set .nil _) _)) _) _)) _
  have balanced : Balanced busySteps :=
    .clear (@Balanced.scope [_] [_] _ (.set _ .nil) (.set _ .nil))
  have returned := (leaves_as_entered nested start).2.1 _ _ _ rfl balanced
  have bound : Gives batchGiven .batch := ⟨"b2", by decide⟩
  have free : ¬Gives batchGiven .token := by
    rintro ⟨v, there⟩
    simp [batchGiven, ContextField.name] at there
  exact ⟨nested, balanced, (returned .batch).1 bound, (returned .token).2 free⟩

end Scoped

end RegistryTokens.Log
