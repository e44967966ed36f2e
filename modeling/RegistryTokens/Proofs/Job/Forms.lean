import RegistryTokens.Proofs.Field.Forms
import RegistryTokens.Proofs.Job.Creation
import RegistryTokens.Proofs.Lifecycle
import RegistryTokens.Proofs.Update.Success

/-!
# Jobs that are given a list or its text

Two values that a field reads alike are alike to every batch and every creation: these answer the
same and leave the same store, up to how a failure is worded. So a caller may give a set as the list
of its items or as the text that joins them, but for actions among which there are blank items.
-/

set_option autoImplicit false

namespace RegistryTokens

open RegistryTokens.Time RegistryTokens.Store

def TokenField.HoldsSet (f : TokenField) : Prop := f = .tlds ∨ f = .registrars ∨ f = .actions

namespace Token

open Answer

variable {R : Failure → Failure → Prop} [Failure.Likeness R] {f : TokenField} {v w : Value}

theorem taking_upTo (alike : ∀ t : Token, UpTo R (t.reading f v) (t.reading f w))
    (count : Answer Int) (t : Token) : UpTo R (t.taking count f v) (t.taking count f w) := by
  by_cases plain : f = .transitions
  · subst plain
    exact (alike t).bind fun timeline => .refl _
  · rw [taking_of_ne plain, taking_of_ne plain]
    exact alike t

theorem step_upTo (alike : ∀ t : Token, UpTo R (t.reading f v) (t.reading f w))
    (count : Answer Int) (u : Updates) (t : Token) (g : TokenField) :
    UpTo R (step count (u.give f (.assigned v)) t g) (step count (u.give f (.assigned w)) t g) := by
  by_cases here : g = f
  · subst here
    simp only [step, Updates.supplied?_give_self, ofStep_setField_eq_taking]
    exact (taking_upTo alike count t).map _
  · simp only [step, Updates.supplied?_give_of_ne _ _ here]
    exact .refl _

theorem attempted_upTo (alike : ∀ t : Token, UpTo R (t.reading f v) (t.reading f w))
    (count : Answer Int) (u : Updates) (t : Token) :
    UpTo R (t.attempted count (u.give f (.assigned v)))
      (t.attempted count (u.give f (.assigned w))) := by
  simp only [attempted, attempt, ofStep_bind, ofStep_lift, ofStep_pure, ofStep_setFields]
  exact (UpTo.foldlM (step_upTo alike count u) _ t).bind fun after => .refl _

theorem concluded_upTo {x y : Answer Token} (t : Token) (alike : UpTo R x y) :
    UpTo R (t.concluded x) (t.concluded y) := by
  cases alike with
  | ok after => exact .refl _
  | error alike => exact .error (Failure.Likeness.about t.identifier alike)

theorem applied_upTo (alike : ∀ t : Token, UpTo R (t.reading f v) (t.reading f w))
    (count : Answer Int) (u : Updates) (t : Token) :
    UpTo R (t.applied count (u.give f (.assigned v)))
      (t.applied count (u.give f (.assigned w))) := by
  have supplied (x : Value) : (u.give f (.assigned x)).isEmpty = false :=
    Updates.isEmpty_eq_false_iff.2 ⟨f, x, Updates.supplied?_give_self u f x⟩
  rw [applied_of_supplied _ _ (supplied v), applied_of_supplied _ _ (supplied w)]
  exact concluded_upTo t (attempted_upTo alike count u t)

end Token

namespace Job

open Answer Batch

variable {R : Failure → Failure → Prop} {α : Type}

/-- Two jobs that answer alike and leave the same store. -/
structure UpTo (R : Failure → Failure → Prop) (job other : Job α) : Prop where
  answer : ∀ w, Answer.UpTo R (job.run w).1 (other.run w).1
  store : ∀ w, (job.run w).2.store = (other.run w).2.store

theorem kept_upTo {plan other : Answer (α × Option Store)} (alike : Answer.UpTo R plan other)
    (before : Option Store) : Answer.UpTo R (kept plan before).1 (kept other before).1 ∧
      (kept plan before).2 = (kept other before).2 := by
  cases alike with
  | ok a => exact ⟨.ok a.1, rfl⟩
  | error alike => exact ⟨.error alike, rfl⟩

theorem upTo_of_plans {job other : Job α}
    {plan otherPlan : Option Store → Clock → Answer (α × Option Store)}
    (h : Does job fun s c => kept (plan s c) s) (h' : Does other fun s c => kept (otherPlan s c) s)
    (alike : ∀ s c, Answer.UpTo R (plan s c) (otherPlan s c)) : UpTo R job other := by
  constructor
  · intro w
    rw [h.answer, h'.answer]
    exact (kept_upTo (alike w.store w.clock) w.store).1
  · intro w
    rw [h.store, h'.store]
    exact (kept_upTo (alike w.store w.clock) w.store).2

variable [Failure.Likeness R] {f : TokenField} {v w : Value}

theorem planned_upTo (alike : ∀ t : Token, Answer.UpTo R (t.reading f v) (t.reading f w))
    (selection : Selection) (u : Updates) (dryRun : Bool) (s : Option Store) (c : Clock) :
    Answer.UpTo R (planned ⟨selection, u.give f (.assigned v), dryRun⟩ s c)
      (planned ⟨selection, u.give f (.assigned w), dryRun⟩ s c) := by
  have changes := (Answer.UpTo.refl (R := R) (targets selection s)).bind fun ts =>
    Answer.UpTo.mapM (fun t => t.applied_upTo alike (bound t.identifier s c) u) ts
  exact changes.bind fun deltas => .refl _

theorem run_upTo (alike : ∀ t : Token, Answer.UpTo R (t.reading f v) (t.reading f w))
    (name : String) (selection : Selection) (u : Updates) (dryRun : Bool) :
    UpTo R (run name ⟨selection, u.give f (.assigned v), dryRun⟩)
      (run name ⟨selection, u.give f (.assigned w), dryRun⟩) :=
  upTo_of_plans (does_run _ _) (does_run _ _) fun s c =>
    ((planned_upTo alike selection u dryRun s c).mapError Failure.Likeness.told).map _

end Job

namespace Token

open Answer

section
variable {α : Type} {f g : TokenField} {v w : Value} {given : Keyed String Value}

theorem orDefault_put_self (fallback : α) (read : Value → Answer α) :
    orDefault (Keyed.put f.name v given) f fallback read = read v := by
  rw [orDefault, Keyed.get?_put_self]

theorem orDefault_put_of_ne (other : g ≠ f) (fallback : α) (read : Value → Answer α) :
    orDefault (Keyed.put f.name v given) g fallback read = orDefault given g fallback read := by
  have names : f.name ≠ g.name := by
    intro same
    have found := TokenField.ofName?_name g
    rw [← same, TokenField.ofName?_name] at found
    exact other (Option.some.inj found).symm
  rw [orDefault, orDefault, Keyed.get?_put_of_ne _ _ names]

theorem createTransitions_put (set : f.HoldsSet) (identifier : String) (kind : TokenKind) :
    createTransitions identifier kind (Keyed.put f.name v given) =
      createTransitions identifier kind given := by
  have names : f.name ≠ TokenField.transitions.name := by
    rcases set with rfl | rfl | rfl <;> decide
  rw [createTransitions, createTransitions, Keyed.get?_put_of_ne _ _ names]

theorem givenDomain_put (set : f.HoldsSet) :
    givenDomain (Keyed.put f.name v given) = givenDomain given := by
  have names : f.name ≠ "domain_name" := by
    rcases set with rfl | rfl | rfl <;> decide
  rw [givenDomain, givenDomain, Keyed.get?_put_of_ne _ _ names]

end

variable {R : Failure → Failure → Prop} [Failure.Likeness R] {f : TokenField} {v w : Value}

theorem create_upTo (set : f.HoldsSet)
    (alike : ∀ t : Token, UpTo R (t.reading f v) (t.reading f w)) (identifier : String)
    (kind : Value) (given : Keyed String Value) :
    UpTo R (create identifier kind (Keyed.put f.name v given))
      (create identifier kind (Keyed.put f.name w given)) := by
  unfold create
  refine (UpTo.refl _).bind fun k => ?_
  rw [createTransitions_put set, createTransitions_put set, givenDomain_put set, givenDomain_put set]
  refine (UpTo.refl _).bind fun transitions => ?_
  have read := alike { identifier, kind := k, transitions }
  rcases set with rfl | rfl | rfl
  all_goals
    simp (disch := decide) only [orDefault_put_self, orDefault_put_of_ne]
  · exact read.bind fun _ => .refl _
  · exact (UpTo.refl _).bind fun _ => read.bind fun _ => .refl _
  · exact (UpTo.refl _).bind fun _ => (UpTo.refl _).bind fun _ => read.bind fun _ => .refl _

end Token

namespace Job

open Batch Creation

variable {R : Failure → Failure → Prop} [Failure.Likeness R] {f : TokenField} {v w : Value}

theorem unknown_put (name : String) (v w : Value) (given : Keyed String Value) :
    ((Keyed.put name v given).any fun entry => !Token.creationFields.contains entry.1) =
      (Keyed.put name w given).any fun entry => !Token.creationFields.contains entry.1 := by
  induction given with
  | nil => rfl
  | cons entry rest ih =>
    rw [Keyed.put, Keyed.put]
    split
    · rfl
    · rw [List.any_cons, List.any_cons, ih]

theorem createdToken_upTo (set : f.HoldsSet)
    (alike : ∀ t : Token, Answer.UpTo R (t.reading f v) (t.reading f w)) (identifier : String)
    (kind : Value) (given : Keyed String Value) (s : Option Store) (c : Clock) :
    Answer.UpTo R (createdToken identifier kind (Keyed.put f.name v given) s c)
      (createdToken identifier kind (Keyed.put f.name w given) s c) := by
  unfold createdToken
  rw [unknown_put f.name v w, Token.givenDomain_put set, Token.givenDomain_put set]
  split
  · exact .refl _
  split
  · exact .refl _
  refine (Answer.UpTo.refl _).bind fun before => ?_
  split
  · exact .refl _
  exact (Token.create_upTo set alike identifier kind given).bind fun t => .refl _

theorem createToken_upTo (set : f.HoldsSet)
    (alike : ∀ t : Token, Answer.UpTo R (t.reading f v) (t.reading f w)) (identifier : String)
    (kind : Value) (given : Keyed String Value) :
    UpTo R (createToken identifier kind (Keyed.put f.name v given))
      (createToken identifier kind (Keyed.put f.name w given)) :=
  upTo_of_plans (does_createToken _ _ _) (does_createToken _ _ _)
    (createdToken_upTo set alike identifier kind given)

/-- Two values for a field that no batch and no creation tells apart. -/
structure Indifferent (R : Failure → Failure → Prop) (f : TokenField) (v w : Value) : Prop where
  batches : ∀ name selection (u : Updates) dryRun, UpTo R
    (run name ⟨selection, u.give f (.assigned v), dryRun⟩)
    (run name ⟨selection, u.give f (.assigned w), dryRun⟩)
  creations : ∀ identifier kind given, UpTo R
    (createToken identifier kind (Keyed.put f.name v given))
    (createToken identifier kind (Keyed.put f.name w given))

theorem indifferent_of_alike (set : f.HoldsSet)
    (alike : ∀ t : Token, Answer.UpTo R (t.reading f v) (t.reading f w)) : Indifferent R f v w :=
  ⟨run_upTo alike, createToken_upTo set alike⟩

end Job

section
variable {v : Value} {set : ActionSet}

def Token.ofActions (set : ActionSet) : Token where
  identifier := "T1"
  kind := .singleUse
  transitions := Timeline.constant .notStarted
  actions := set

theorem Token.created_ofActions (h : Field.readActions v = .ok set) :
    Created "T1" (.text "SINGLE_USE") (Keyed.put TokenField.actions.name v []) (ofActions set) := by
  constructor
  case ofKind =>
    change _ = Except.ok TokenKind.singleUse
    exact Answer.eq_ok_of_toOption (by decide +kernel)
  case actions =>
    rw [orDefault_put_self]
    exact h
  all_goals rfl

theorem Job.exists_ofActions_iff : (∃ new, ((createToken "T1" (.text "SINGLE_USE")
      (Keyed.put TokenField.actions.name v [])).run freshWorld).1 = .ok new) ↔
    ∃ set, Field.readActions v = .ok set := by
  rw [(does_createToken _ _ _).answer]
  constructor
  · rintro ⟨new, made⟩
    cases planned : Creation.createdToken "T1" (.text "SINGLE_USE")
        (Keyed.put TokenField.actions.name v []) freshWorld.store freshWorld.clock with
    | error failure =>
      rw [planned] at made
      cases made
    | ok plan =>
      obtain ⟨_, _, _, -, -, stored, -⟩ := Creation.stored_of_createdToken planned
      have read := stored.made.actions
      rw [Token.orDefault_put_self] at read
      exact ⟨_, read⟩
  · rintro ⟨set, read⟩
    have created := Token.create_of_created (Token.created_ofActions read)
    unfold Creation.createdToken
    rw [created]
    exact ⟨_, rfl⟩

end

namespace Job

open RegistryTokens.Field RegistryTokens.Text RegistryTokens.Text.CommaList

variable {items : List String} (free : ∀ x ∈ items, ',' ∉ x.toList)
include free

theorem indifferent_actions_iff :
    Indifferent Failure.Reworded .actions (listed items) (joined items) ↔
      (∀ x ∈ items, trim x ≠ "") ∨ ∃ x ∈ items, trim x ≠ "" ∧ ¬NamesAction x := by
  constructor
  · intro alike
    have same := (alike.creations "T1" (.text "SINGLE_USE") []).answer freshWorld
    cases fromText : readActions (joined items) with
    | error failure => exact .inr (readActions_joined_eq_error free fromText).1
    | ok set =>
      obtain ⟨new, made⟩ := exists_ofActions_iff.2 ⟨set, fromText⟩
      obtain ⟨other, fromList⟩ := exists_ofActions_iff.1 ⟨new, same.eq_ok_iff.2 made⟩
      exact .inl ((readActions_listed_iff_joined free).1 fromList).2
  · intro known
    exact indifferent_of_alike (.inr (.inr rfl)) fun _ => readActions_upTo free known

/-- Sets of texts may be given as lists or as the texts that join them, and so may actions unless
some item is blank and every other one names an action: then only the text is taken. -/
theorem forms_of_a_list :
    (∃ set, readTexts (listed items) = .ok set ∧ readTexts (joined items) = .ok set) ∧
    (∀ set, readActions (listed items) = .ok set ↔
      readActions (joined items) = .ok set ∧ ∀ x ∈ items, trim x ≠ "") ∧
    (∀ f, f = .tlds ∨ f = .registrars → Indifferent Eq f (listed items) (joined items)) ∧
    (Indifferent Failure.Reworded .actions (listed items) (joined items) ↔
      (∀ x ∈ items, trim x ≠ "") ∨ ∃ x ∈ items, trim x ≠ "" ∧ ¬NamesAction x) := by
  have texts := readTexts_joined free
  refine ⟨⟨_, readTexts_list items, texts.trans (readTexts_list items)⟩, ?_, ?_, ?_⟩
  · exact fun set => readActions_listed_iff_joined free
  · rintro f (rfl | rfl)
    · exact indifferent_of_alike (.inl rfl) fun _ => Answer.upTo_eq_iff.2 texts.symm
    · exact indifferent_of_alike (.inr (.inl rfl)) fun _ => Answer.upTo_eq_iff.2 texts.symm
  · exact indifferent_actions_iff free

omit free

theorem forms_of_renewals : (∀ x ∈ ["renew ", " Transfer"], ',' ∉ x.toList) ∧
    (∃ set : ActionSet, set.items = [.renew, .transfer] ∧
      readActions (listed ["renew ", " Transfer"]) = .ok set ∧
      readActions (joined ["renew ", " Transfer"]) = .ok set) ∧
    Indifferent Failure.Reworded .actions (listed ["renew ", " Transfer"])
      (joined ["renew ", " Transfer"]) := by
  have free : ∀ x ∈ ["renew ", " Transfer"], ',' ∉ x.toList := by decide
  have some : ∀ x ∈ ["renew ", " Transfer"], trim x ≠ "" := by decide
  have named : ∀ x ∈ ["renew ", " Transfer"], NamesAction x := by decide +kernel
  obtain ⟨-, actions, -, alike⟩ := forms_of_a_list free
  have fromList := readActions_listed_eq_ok_iff.2 ⟨named, rfl⟩
  exact ⟨free, ⟨_, by decide +kernel, fromList, ((actions _).1 fromList).1⟩, alike.2 (.inl some)⟩

/-- A blank item is nothing in a text and refused in a list. -/
theorem blank_action_refused :
    readActions (joined ["RENEW", ""]) = .ok (SortedSet.ofList [.renew]) ∧
    readActions (listed ["RENEW", ""]) = .error (.refused (Refusal.unknownAction "")) ∧
    ¬Indifferent Failure.Reworded .actions (listed ["RENEW", ""]) (joined ["RENEW", ""]) := by
  have free : ∀ x ∈ ["RENEW", ""], ',' ∉ x.toList := by decide
  have blank : ¬∀ x ∈ ["RENEW", ""], trim x ≠ "" := by decide
  have named : ∀ x ∈ ["RENEW", ""], trim x ≠ "" → NamesAction x := by decide +kernel
  refine ⟨?_, ?_, ?_⟩
  · exact (readActions_joined_eq_ok_iff free).2 ⟨named, by decide +kernel⟩
  · exact readActionItems_texts_eq_error_iff.2 ⟨"", by decide +kernel, rfl⟩
  · rw [indifferent_actions_iff free]
    rintro (some | ⟨x, member, some, unknown⟩)
    · exact blank some
    · exact unknown (named x member some)

end Job

end RegistryTokens
