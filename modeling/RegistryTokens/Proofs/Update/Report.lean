import RegistryTokens.Proofs.Update.Breakdown

/-!
# What an update reports

An update touches what was supplied and nothing else, and tells which fields differ. It is refused
for the first supplied value that is rejected, in the order of the fields; and where all of them are
taken, for the first rule that is broken by the token they make.
-/

set_option autoImplicit false

namespace RegistryTokens

namespace Token

open Answer

structure FirstRejected (count : Answer Int) (u : Updates) (t : Token) (f : TokenField) (v : Value)
    (failure : Failure) : Prop where
  earlier : ∃ before after, TokenField.all = before ++ f :: after ∧ ∀ g ∈ before, ∀ w,
    u.supplied? g = some w → ∃ c, t.taking count g w = .ok c
  supplied : u.supplied? f = some v
  rejected : t.taking count f v = .error failure

inductive Refused (count : Answer Int) (u : Updates) (t : Token) : Refusal → Prop where
  | field {f : TokenField} {v : Value} {r : Refusal}
      (first : FirstRejected count u t f v (.refused r)) : Refused count u t r
  | rule {after : Token} {rule : Rule} (given : ∃ f v, u.supplied? f = some v)
      (made : Made count u t after) (first : after.FirstBroken rule) :
      Refused count u t (rule.refusal t.identifier)

def Differs (a b : Token) (f : TokenField) : Prop :=
  a.content f ≠ b.content f ∧ (f = .fraction → a.fraction.sameNumber b.fraction = false)

/-- What an update that succeeds tells. An old fraction that signals cannot be compared. -/
structure Reported (count : Answer Int) (u : Updates) (t : Token) (d : Delta) : Prop where
  before : d.before = t
  made : Made count u t d.after
  ordered : d.fields.Sublist TokenField.all
  truthful : ∀ f, f ∈ d.fields ↔ t.Differs d.after f
  checked : (∃ f v, u.supplied? f = some v) → d.after.check = .ok ()
  comparable : (∃ f v, u.supplied? f = some v) → t.fraction.isSignal = false

section
variable {count : Answer Int} {u : Updates} {t : Token} {failure : Failure}

theorem step_eq_error_iff {f : TokenField} : step count u t f = .error failure ↔
    ∃ v, u.supplied? f = some v ∧ t.taking count f v = .error failure := by
  rw [step]
  cases u.supplied? f with
  | none => simp
  | some v => simp [ofStep_setField_eq_taking, map_eq_error]

theorem steps_eq_error_iff : TokenField.all.foldlM (step count u) t = .error failure ↔
    ∃ f v, FirstRejected count u t f v failure := by
  have down {before after : List TokenField} {f : TokenField} {next : Token}
      (order : TokenField.all = before ++ f :: after)
      (passed : before.foldlM (step count u) t = .ok next) : PutDown count u before t next := by
    have distinct : (before ++ f :: after).Nodup := order ▸ by decide
    exact putDown_of_steps (List.nodup_append.1 distinct).1 passed
  rw [foldlM_eq_error_iff]
  constructor
  · rintro ⟨before, f, after, next, order, passed, failed⟩
    have put := down order passed
    obtain ⟨v, supplied, rejected⟩ := step_eq_error_iff.1 failed
    rw [taking_of_identity put.identity] at rejected
    exact ⟨f, v, ⟨before, after, order, fun g hg w hw => ⟨_, put.taking hg hw⟩⟩, supplied, rejected⟩
  · rintro ⟨f, v, ⟨before, after, order, taken⟩, supplied, rejected⟩
    obtain ⟨next, passed⟩ := exists_steps taken
    refine ⟨before, f, after, next, order, passed, step_eq_error_iff.2 ⟨v, supplied, ?_⟩⟩
    rw [taking_of_identity (down order passed).identity, rejected]

theorem attempted_eq_error_iff : t.attempted count u = .error failure ↔
    (∃ f v, FirstRejected count u t f v failure) ∨
      ∃ after, Made count u t after ∧ after.check = .error failure := by
  simp only [attempted, attempt, ofStep_bind, ofStep_lift, ofStep_pure, ofStep_setFields]
  rw [bind_eq_error, steps_eq_error_iff]
  simp [steps_eq_ok_iff, bind_eq_error]

theorem attempted_eq_refused_iff {r : Refusal} (given : ∃ f v, u.supplied? f = some v) :
    t.attempted count u = .error (.refused r) ↔ Refused count u t r := by
  rw [attempted_eq_error_iff]
  constructor
  · rintro (⟨f, v, first⟩ | ⟨after, made, failed⟩)
    · exact .field first
    · obtain ⟨rule, first, rfl⟩ := check_eq_refused_iff.1 failed
      rw [identifier_of_identity made.identity]
      exact .rule given made first
  · rintro (first | ⟨-, made, first⟩)
    · exact .inl ⟨_, _, first⟩
    · rw [← identifier_of_identity made.identity]
      exact .inr ⟨_, made, check_eq_refused_iff.2 ⟨_, first, rfl⟩⟩

theorem Refused.supplied {r : Refusal} (h : Refused count u t r) :
    ∃ f v, u.supplied? f = some v := by
  cases h with
  | field first => exact ⟨_, _, first.supplied⟩
  | rule given => exact given

theorem concluded_eq_ok_iff {attempt : Answer Token} {d : Delta} :
    t.concluded attempt = .ok d ↔ ∃ after, attempt = .ok after ∧
      (t.fraction.isSignal || after.fraction.isSignal) = false ∧ d = ⟨t, after, t.diff after⟩ := by
  cases attempt with
  | error _ => simp [concluded]
  | ok after =>
    simp only [concluded, Delta.between, compare, Except.ok.injEq, exists_eq_left']
    by_cases signal : (t.fraction.isSignal || after.fraction.isSignal) = true
    · simp [signal, bind, Except.bind]
    · simp [signal, bind, Except.bind, pure, Except.pure, eq_comm]

theorem concluded_eq_refused_iff {attempt : Answer Token} {r : Refusal} :
    t.concluded attempt = .error (.refused r) ↔
      ∃ q, attempt = .error (.refused q) ∧ q.about t.identifier = r := by
  cases attempt with
  | error failure => cases failure <;> simp [concluded, Failure.about]
  | ok after =>
    simp only [concluded, Delta.between, compare]
    split <;> simp [bind, Except.bind, pure, Except.pure]

/-- A field agrees just if it does not differ, once the rules have passed the new fraction. -/
theorem agree_eq_false_iff {a b : Token} {f : TokenField} (number : b.fraction.isNaN = false) :
    a.agree b f = false ↔ a.Differs b f := by
  cases f with
  | fraction =>
    refine ⟨fun apart => ⟨fun same => ?_, fun _ => apart⟩, fun differs => differs.2 rfl⟩
    rw [agree_of_content (f := .fraction) same.symm number] at apart
    cases apart
  | _ =>
    simp only [agree, Differs, content, beq_eq_false_iff_ne, reduceCtorEq, false_implies, and_true]
    rfl

theorem fields_eq_of_mem_iff {a b : List TokenField} (ha : a.Sublist TokenField.all)
    (hb : b.Sublist TokenField.all) (same : ∀ f, f ∈ a ↔ f ∈ b) : a = b := by
  have ordered : TokenField.all.Pairwise fun f g => f.ctorIdx < g.ctorIdx := by decide
  have distinct : TokenField.all.Nodup := by decide
  refine List.Perm.eq_of_pairwise (fun f g _ _ fg gf => by omega) (ordered.sublist ha)
    (ordered.sublist hb) ?_
  exact (List.perm_ext_iff_of_nodup (distinct.sublist ha) (distinct.sublist hb)).2 same

end

section
variable {t : Token} {u : Updates} {d : Delta}

theorem reported_still (count : Answer Int) (none : u.isEmpty = true) :
    Reported count u t (Delta.still t) := by
  have unsupplied := Updates.isEmpty_iff.1 none
  exact ⟨rfl, ⟨rfl, fun _ _ => rfl, fun f v h => absurd ⟨f, v, h⟩ unsupplied⟩, List.nil_sublist _,
    by simp [Delta.still, Differs], fun h => absurd h unsupplied, fun h => absurd h unsupplied⟩

theorem Made.still {count : Answer Int} {after : Token} (h : Made count u t after)
    (none : u.isEmpty = true) : after = t :=
  h.unique (reported_still count none).made

theorem applied_eq_ok_iff {count : Answer Int} : t.applied count u = .ok d ↔ Reported count u t d := by
  cases none : u.isEmpty with
  | true =>
    rw [applied_of_isEmpty _ _ none]
    constructor
    · rintro ⟨⟩
      exact reported_still count none
    · rintro ⟨before, made, ordered, truthful, -, -⟩
      have same := made.still none
      have fields : d.fields = [] :=
        fields_eq_of_mem_iff ordered (List.nil_sublist _) (by simp [truthful, same, Differs])
      cases d
      simp_all [Delta.still]
  | false =>
    have given := Updates.isEmpty_eq_false_iff.1 none
    constructor
    · intro applied
      rw [applied_of_supplied _ _ none] at applied
      obtain ⟨after, put, signal, rfl⟩ := concluded_eq_ok_iff.1 applied
      obtain ⟨made, checked⟩ := updated_iff_made.1 (updated_of_attempted put)
      refine ⟨rfl, made, List.filter_sublist, fun f => ?_, fun _ => checked, fun _ => ?_⟩
      · rw [mem_diff_iff, agree_eq_false_iff (isNaN_of_check checked)]
      · exact (Bool.or_eq_false_iff.1 signal).1
    · rintro ⟨before, made, ordered, truthful, checked, comparable⟩
      have fields : d.fields = t.diff d.after := by
        refine fields_eq_of_mem_iff ordered List.filter_sublist fun f => ?_
        rw [truthful, mem_diff_iff, agree_eq_false_iff (isNaN_of_check (checked given))]
      have updated := updated_iff_made.2 ⟨made, checked given⟩
      rw [applied_of_updated none updated (comparable given), ← fields, ← before]

/-- An update is refused just for the first value that is not taken or the first rule that is broken,
and the refusal is put down to the token. -/
theorem applied_eq_refused_iff {count : Except Breakdown Int} {r : Refusal} :
    t.applied (count.mapError .broke) u = .error (.refused r) ↔
      ∃ q, Refused (count.mapError .broke) u t q ∧ r = ⟨q.cause, some (.text t.identifier)⟩ := by
  have concerns : Fails (Failure.Concerns t.identifier fun _ => True)
      (count.mapError Failure.broke) := by
    intro failure failed
    cases count with
    | error b => cases failed; trivial
    | ok n => cases failed
  have ended (r : Refusal) (given : ∃ f v, u.supplied? f = some v) :
      t.applied (count.mapError .broke) u = .error (.refused r) ↔
        ∃ q, Refused (count.mapError .broke) u t q ∧ q.about t.identifier = r := by
    rw [applied_of_supplied _ _ (Updates.isEmpty_eq_false_iff.2 given), concluded_eq_refused_iff]
    exact exists_congr fun q => and_congr_left' (attempted_eq_refused_iff given)
  have named {q : Refusal} (h : Refused (count.mapError .broke) u t q) :
      q.about t.identifier = ⟨q.cause, some (.text t.identifier)⟩ := by
    have token := token_of_applied_refused concerns ((ended _ h.supplied).2 ⟨q, h, rfl⟩)
    rw [← token, ← q.cause_about t.identifier]
  constructor
  · intro applied
    have given : ∃ f v, u.supplied? f = some v := by
      refine Classical.byContradiction fun unsupplied => ?_
      rw [applied_of_isEmpty _ _ (Updates.isEmpty_iff.2 unsupplied)] at applied
      cases applied
    obtain ⟨q, refused, rfl⟩ := (ended r given).1 applied
    exact ⟨q, refused, named refused⟩
  · rintro ⟨q, refused, rfl⟩
    exact (ended _ refused.supplied).2 ⟨q, refused, named refused⟩

/-- An update that succeeds touches what was supplied and nothing else, and reports what differs; one
that is refused is refused for the first value or rule. The bound domains may be counted in any way
that does not refuse. -/
theorem applied_iff_reported (count : Except Breakdown Int) (t : Token) (u : Updates) :
    (∀ d, t.applied (count.mapError .broke) u = .ok d ↔
      Reported (count.mapError .broke) u t d) ∧
    ∀ r, t.applied (count.mapError .broke) u = .error (.refused r) ↔
      ∃ q, Refused (count.mapError .broke) u t q ∧ r = ⟨q.cause, some (.text t.identifier)⟩ :=
  ⟨fun _ => applied_eq_ok_iff, fun _ => applied_eq_refused_iff⟩

end

end Token

end RegistryTokens
