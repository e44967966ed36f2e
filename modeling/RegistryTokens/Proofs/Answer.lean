import RegistryTokens.Failure

/-!
# Answers step by step

A chain of steps answers if each of them does, and otherwise fails as the first that fails. A list
of steps is taken apart in the same way: what was answered before, and the item that failed.
-/

set_option autoImplicit false

namespace RegistryTokens.Answer

variable {ε α β : Type}

theorem bind_eq_ok {answer : Except ε α} {next : α → Except ε β} {b : β} :
    (answer >>= next) = .ok b ↔ ∃ a, answer = .ok a ∧ next a = .ok b := by
  cases answer with
  | error failure => exact ⟨nofun, nofun⟩
  | ok a =>
    constructor
    · intro h
      exact ⟨a, rfl, h⟩
    · rintro ⟨_, ha, h⟩
      cases ha
      exact h

theorem bind_eq_error {answer : Except ε α} {next : α → Except ε β} {failure : ε} :
    (answer >>= next) = .error failure ↔
      answer = .error failure ∨ ∃ a, answer = .ok a ∧ next a = .error failure := by
  cases answer with
  | error other =>
    constructor
    · intro h
      cases h
      exact .inl rfl
    · rintro (h | ⟨_, h, _⟩)
      · cases h
        rfl
      · cases h
  | ok a =>
    constructor
    · intro h
      exact .inr ⟨a, rfl, h⟩
    · rintro (h | ⟨_, ha, h⟩)
      · cases h
      · cases ha
        exact h

theorem map_eq_ok {answer : Answer α} {f : α → β} {b : β} :
    answer.map f = .ok b ↔ ∃ a, answer = .ok a ∧ f a = b := by
  cases answer <;> simp [Except.map]

theorem map_eq_error {answer : Answer α} {f : α → β} {failure : Failure} :
    answer.map f = .error failure ↔ answer = .error failure := by
  cases answer <;> simp [Except.map]

theorem mapError_eq_ok {ε' : Type} {answer : Except ε α} {f : ε → ε'} {a : α} :
    answer.mapError f = .ok a ↔ answer = .ok a := by
  cases answer with
  | error _ => exact ⟨nofun, nofun⟩
  | ok _ =>
    constructor <;> intro same <;> cases same <;> rfl

theorem eq_ok_of_toOption {answer : Except ε α} {a : α}
    (h : answer.toOption = some a) : answer = .ok a := by
  cases answer with
  | error _ => cases h
  | ok _ =>
    cases h
    rfl

theorem mapM_eq_ok {f : α → Answer β} {items : List α} {results : List β} :
    items.mapM f = .ok results ↔ items.map f = results.map .ok := by
  induction items generalizing results with
  | nil =>
    rw [List.mapM_nil]
    exact ⟨fun h => by cases h; rfl, fun h => by cases results <;> simp_all; rfl⟩
  | cons a rest ih =>
    rw [List.mapM_cons, bind_eq_ok]
    constructor
    · rintro ⟨b, hb, h⟩
      obtain ⟨bs, hbs, h⟩ := bind_eq_ok.1 h
      cases h
      simp [hb, ih.1 hbs]
    · intro h
      cases results with
      | nil => simp at h
      | cons b bs =>
        obtain ⟨hb, hbs⟩ := List.cons.inj h
        exact ⟨b, hb, bind_eq_ok.2 ⟨bs, ih.2 hbs, rfl⟩⟩

theorem mapM_congr {f g : α → Except ε β} {items : List α} (same : ∀ a ∈ items, f a = g a) :
    items.mapM f = items.mapM g := by
  induction items with
  | nil => rfl
  | cons a rest ih =>
    obtain ⟨first, same⟩ := List.forall_mem_cons.1 same
    rw [List.mapM_cons, List.mapM_cons, first, ih same]

theorem exists_of_mem_mapM {f : α → Answer β} {items : List α} {results : List β} {b : β}
    (h : items.mapM f = .ok results) (hb : b ∈ results) : ∃ a ∈ items, f a = .ok b := by
  have : .ok b ∈ items.map f := mapM_eq_ok.1 h ▸ List.mem_map_of_mem hb
  exact List.mem_map.1 this

theorem map_of_mapM {γ : Type} {f : α → Answer β} {g : β → γ} {k : α → γ} {items : List α}
    {results : List β} (h : items.mapM f = .ok results)
    (same : ∀ a ∈ items, ∀ b, f a = .ok b → g b = k a) : results.map g = items.map k := by
  induction items generalizing results with
  | nil =>
    cases h
    rfl
  | cons a rest ih =>
    rw [List.mapM_cons] at h
    obtain ⟨b, hb, h⟩ := bind_eq_ok.1 h
    obtain ⟨bs, hbs, h⟩ := bind_eq_ok.1 h
    cases h
    rw [List.map_cons, List.map_cons, same a List.mem_cons_self b hb,
      ih hbs fun x hx => same x (List.mem_cons_of_mem _ hx)]

theorem mapM_eq_error_of_first {f : α → Answer β} {before after : List α} {a : α}
    {results : List β} {failure : Failure} (hb : before.map f = results.map .ok)
    (ha : f a = .error failure) : (before ++ a :: after).mapM f = .error failure := by
  have step : (a :: after).mapM f = .error failure := by
    rw [List.mapM_cons, ha]
    rfl
  rw [List.mapM_append, mapM_eq_ok.2 hb, step]
  rfl

theorem first_of_mapM {f : α → Answer β} {items : List α} {failure : Failure}
    (h : items.mapM f = .error failure) : ∃ before a after, ∃ results : List β,
      items = before ++ a :: after ∧ before.map f = results.map .ok ∧ f a = .error failure := by
  induction items with
  | nil => cases h
  | cons a rest ih =>
    rw [List.mapM_cons] at h
    rcases bind_eq_error.1 h with h | ⟨b, ha, h⟩
    · exact ⟨[], a, rest, [], rfl, rfl, h⟩
    · rcases bind_eq_error.1 h with h | ⟨_, -, h⟩
      · obtain ⟨before, x, after, results, rfl, hb, hf⟩ := ih h
        exact ⟨a :: before, x, after, b :: results, rfl, by simp [ha, hb], hf⟩
      · cases h

theorem exists_mapM_eq_ok {f : α → Answer β} {items : List α} (h : ∀ a ∈ items, ∃ b, f a = .ok b) :
    ∃ results, items.mapM f = .ok results := by
  cases all : items.mapM f with
  | ok results => exact ⟨results, rfl⟩
  | error failure =>
    obtain ⟨before, a, after, _, rfl, -, failed⟩ := first_of_mapM all
    obtain ⟨b, passed⟩ := h a (by simp)
    cases passed.symm.trans failed

theorem exists_of_mem_items {f : α → Answer β} {items : List α} {results : List β} {a : α}
    (h : items.mapM f = .ok results) (ha : a ∈ items) : ∃ b ∈ results, f a = .ok b := by
  have passed : f a ∈ results.map .ok := mapM_eq_ok.1 h ▸ List.mem_map_of_mem ha
  obtain ⟨b, within, same⟩ := List.mem_map.1 passed
  exact ⟨b, within, same.symm⟩

theorem exists_first_error {f : α → Answer β} {items : List α}
    (h : ∃ a ∈ items, ∃ failure, f a = .error failure) :
    ∃ before a after, ∃ results : List β, ∃ failure, items = before ++ a :: after ∧
      before.map f = results.map .ok ∧ f a = .error failure := by
  cases all : items.mapM f with
  | error failure =>
    obtain ⟨before, a, after, results, first⟩ := first_of_mapM all
    exact ⟨before, a, after, results, failure, first⟩
  | ok results =>
    obtain ⟨a, ha, failure, failed⟩ := h
    obtain ⟨b, -, passed⟩ := exists_of_mem_items all ha
    cases passed.symm.trans failed

theorem mapM_bind_eq_ok {γ : Type} {f : α → Answer β} {g : β → Answer γ} {items : List α}
    {results : List γ} : (items.mapM fun a => f a >>= g) = .ok results ↔
      ∃ between, items.mapM f = .ok between ∧ between.mapM g = .ok results := by
  induction items generalizing results with
  | nil =>
    constructor
    · intro h
      exact ⟨[], rfl, h⟩
    · rintro ⟨between, ⟨⟩, h⟩
      exact h
  | cons a rest ih =>
    simp only [List.mapM_cons, bind_eq_ok, ih]
    constructor
    · rintro ⟨c, ⟨b, ha, hb⟩, cs, ⟨bs, hbs, hcs⟩, h⟩
      cases h
      refine ⟨b :: bs, ⟨b, ha, bs, hbs, rfl⟩, ?_⟩
      rw [List.mapM_cons]
      exact bind_eq_ok.2 ⟨c, hb, bind_eq_ok.2 ⟨cs, hcs, rfl⟩⟩
    · rintro ⟨_, ⟨b, ha, bs, hbs, ⟨⟩⟩, h⟩
      rw [List.mapM_cons] at h
      obtain ⟨c, hb, h⟩ := bind_eq_ok.1 h
      obtain ⟨cs, hcs, h⟩ := bind_eq_ok.1 h
      exact ⟨c, ⟨b, ha, hb⟩, cs, ⟨bs, hbs, hcs⟩, h⟩

theorem mapM_append_eq_ok {f : α → Answer β} {front back : List α} {results : List β} :
    (front ++ back).mapM f = .ok results ↔
      ∃ first second, front.mapM f = .ok first ∧ back.mapM f = .ok second ∧
        results = first ++ second := by
  rw [List.mapM_append]
  constructor
  · intro h
    obtain ⟨first, hf, h⟩ := bind_eq_ok.1 h
    obtain ⟨second, hb, h⟩ := bind_eq_ok.1 h
    cases h
    exact ⟨first, second, hf, hb, rfl⟩
  · rintro ⟨first, second, hf, hb, rfl⟩
    exact bind_eq_ok.2 ⟨first, hf, bind_eq_ok.2 ⟨second, hb, rfl⟩⟩

theorem mapM_perm {f : α → Answer β} {items others : List α} {results : List β}
    (same : items.Perm others) (h : items.mapM f = .ok results) :
    ∃ answers, others.mapM f = .ok answers ∧ results.Perm answers := by
  obtain ⟨answers, ha⟩ := exists_mapM_eq_ok fun a hm =>
    (exists_of_mem_items h (same.mem_iff.2 hm)).imp fun _ found => found.2
  have answered : (results.map Except.ok).Perm (answers.map (Except.ok : β → Answer β)) := by
    rw [← mapM_eq_ok.1 h, ← mapM_eq_ok.1 ha]
    exact same.map f
  have back (bs : List β) : (bs.map (Except.ok : β → Answer β)).filterMap Except.toOption = bs := by
    simp [List.filterMap_map, Function.comp_def, Except.toOption]
  have stripped := answered.filterMap Except.toOption
  rw [back, back] at stripped
  exact ⟨answers, ha, stripped⟩

theorem foldlM_eq_error_iff {f : β → α → Except ε β} {items : List α} {b : β} {failure : ε} :
    items.foldlM f b = .error failure ↔ ∃ before a after c, items = before ++ a :: after ∧
      before.foldlM f b = .ok c ∧ f c a = .error failure := by
  constructor
  · intro failed
    induction items generalizing b with
    | nil => cases failed
    | cons a rest ih =>
      rw [List.foldlM_cons] at failed
      rcases bind_eq_error.1 failed with failed | ⟨next, first, failed⟩
      · exact ⟨[], a, rest, b, rfl, rfl, failed⟩
      · obtain ⟨before, x, after, c, rfl, passed, failed⟩ := ih failed
        refine ⟨a :: before, x, after, c, rfl, ?_, failed⟩
        rw [List.foldlM_cons]
        exact bind_eq_ok.2 ⟨next, first, passed⟩
  · rintro ⟨before, a, after, c, rfl, passed, failed⟩
    rw [List.foldlM_append]
    refine bind_eq_error.2 (.inr ⟨c, passed, ?_⟩)
    rw [List.foldlM_cons]
    exact bind_eq_error.2 (.inl failed)

theorem foldlM_eq_self {f : β → α → Except ε β} {items : List α} {b : β}
    (still : ∀ a ∈ items, f b a = .ok b) : items.foldlM f b = .ok b := by
  induction items with
  | nil => rfl
  | cons a rest ih =>
    obtain ⟨first, still⟩ := List.forall_mem_cons.1 still
    rw [List.foldlM_cons, first]
    exact ih still

/-- Without effects, a step that may fail is an answer. -/
def ofStep (step : ExceptT Failure Id α) : Answer α := step.run

@[simp] theorem ofStep_bind (step : ExceptT Failure Id α) (next : α → ExceptT Failure Id β) :
    ofStep (step >>= next) = ofStep step >>= fun a => ofStep (next a) := by
  change (ExceptT.bindCont next step.run : Id (Except Failure β)) = ofStep step >>= _
  cases h : step.run with
  | error failure =>
    simp only [ofStep, h]
    rfl
  | ok a =>
    simp only [ofStep, h]
    rfl

@[simp] theorem ofStep_pure (a : α) : ofStep (pure a) = .ok a := rfl

@[simp] theorem ofStep_throw (failure : Failure) :
    ofStep (throw failure : ExceptT Failure Id α) = .error failure := rfl

@[simp] theorem ofStep_lift (answer : Answer α) : ofStep (lift answer) = answer := rfl

@[simp] theorem ofStep_ite (p : Prop) [Decidable p] (a b : ExceptT Failure Id α) :
    ofStep (if p then a else b) = if p then ofStep a else ofStep b := by
  split <;> rfl

theorem ofStep_foldlM (items : List β) (f : α → β → ExceptT Failure Id α) (a : α) :
    ofStep (items.foldlM f a) = items.foldlM (fun a b => ofStep (f a b)) a := by
  induction items generalizing a with
  | nil => rfl
  | cons b rest ih => simp [ih]

end RegistryTokens.Answer
