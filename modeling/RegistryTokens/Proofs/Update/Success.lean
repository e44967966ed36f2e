import RegistryTokens.Proofs.Update.Apply

/-!
# When an update succeeds

An update succeeds just if every supplied value is taken by its own field, a new timeline is judged
well and the token that is made of them passes the rules. No field looks at what was put into
another, so nothing hangs on the order in which the fields are gone through.
-/

set_option autoImplicit false

namespace RegistryTokens

theorem Updates.isEmpty_eq_false_iff {u : Updates} :
    u.isEmpty = false ↔ ∃ f v, u.supplied? f = some v := by
  simp [isEmpty, suppliedFields, TokenField.mem_all, Option.isSome_iff_exists]

theorem Updates.isEmpty_iff {u : Updates} :
    u.isEmpty = true ↔ ¬∃ f v, u.supplied? f = some v := by
  rw [← isEmpty_eq_false_iff, Bool.not_eq_false]

namespace Token

open Answer

/-- A field takes a value that stands for this content; of a timeline it is judged too. -/
structure Takes (count : Answer Int) (t : Token) (f : TokenField) (v : Value) (c : f.Content) :
    Prop where
  read : t.reading f v = .ok c
  judged : f = .transitions → ofStep (judgeTransitions t.kind (lift count)
    (t.withContent f c).transitions t.identifier) = .ok ()

def taking (count : Answer Int) (t : Token) : (f : TokenField) → Value → Answer f.Content
  | .transitions, v => do
    let timeline ← Field.readTransitions v
    ofStep (judgeTransitions t.kind (lift count) timeline t.identifier)
    pure timeline
  | f, v => t.reading f v

section
variable {count : Answer Int} {u : Updates} {t after : Token} {f : TokenField} {v : Value}

theorem taking_of_ne (plain : f ≠ .transitions) : t.taking count f v = t.reading f v := by
  cases f <;> first | rfl | exact absurd rfl plain

theorem taking_eq_ok_iff {c : f.Content} : t.taking count f v = .ok c ↔ Takes count t f v c := by
  by_cases plain : f = .transitions
  · subst plain
    simp only [taking, bind_eq_ok]
    constructor
    · rintro ⟨_, read, _, judged, ⟨⟩⟩
      exact ⟨read, fun _ => judged⟩
    · rintro ⟨read, judged⟩
      exact ⟨c, read, (), judged rfl, rfl⟩
  · rw [taking_of_ne plain]
    exact ⟨fun read => ⟨read, fun same => absurd same plain⟩, Takes.read⟩

theorem taking_of_identity {a b : Token} (h : a.identity = b.identity) (f : TokenField) (v : Value) :
    a.taking count f v = b.taking count f v := by
  by_cases plain : f = .transitions
  · subst plain
    simp only [taking, kind_of_identity h, identifier_of_identity h]
  · rw [taking_of_ne plain, taking_of_ne plain, reading_of_identity h]

theorem ofStep_setField_eq_taking : ofStep (setField (lift count) t f v) =
    (t.taking count f v).map (t.withContent f) := by
  simp only [setField, ofStep_bind, ofStep_lift, withField_eq_reading]
  by_cases plain : f = .transitions
  · subst plain
    simp only [taking, reading, if_true, ofStep_bind]
    cases Field.readTransitions v with
    | error _ => rfl
    | ok timeline =>
      change (ofStep (judgeTransitions t.kind (lift count) timeline t.identifier) >>= _) =
        (ofStep (judgeTransitions t.kind (lift count) timeline t.identifier) >>= _).map _
      cases ofStep (judgeTransitions t.kind (lift count) timeline t.identifier) <;> rfl
  · simp only [plain, if_false, taking_of_ne plain]
    cases t.reading f v <;> rfl

theorem PutDown.taking {fields : List TokenField} (h : PutDown count u fields t after)
    (within : f ∈ fields) (supplied : u.supplied? f = some v) :
    t.taking count f v = .ok (after.content f) := by
  refine taking_eq_ok_iff.2 ⟨h.given f within v supplied, ?_⟩
  rintro rfl
  exact h.judged within v supplied

theorem exists_steps {fields : List TokenField}
    (taken : ∀ f ∈ fields, ∀ v, u.supplied? f = some v → ∃ c, t.taking count f v = .ok c) :
    ∃ after, fields.foldlM (step count u) t = .ok after := by
  induction fields generalizing t with
  | nil => exact ⟨t, rfl⟩
  | cons f rest ih =>
    obtain ⟨first, taken⟩ := List.forall_mem_cons.1 taken
    rw [List.foldlM_cons]
    cases supplied : u.supplied? f with
    | none =>
      obtain ⟨after, put⟩ := ih taken
      exact ⟨after, bind_eq_ok.2 ⟨t, by rw [step, supplied], put⟩⟩
    | some v =>
      obtain ⟨c, takes⟩ := first v supplied
      have next : step count u t f = .ok (t.withContent f c) := by
        simp only [step, supplied, ofStep_setField_eq_taking, takes]
        rfl
      obtain ⟨after, put⟩ : ∃ after, rest.foldlM (step count u) (t.withContent f c) = .ok after := by
        apply ih
        simpa only [taking_of_identity (identity_withContent t f c)] using taken
      exact ⟨after, bind_eq_ok.2 ⟨_, next, put⟩⟩

end

structure Made (count : Answer Int) (u : Updates) (t after : Token) : Prop where
  identity : after.identity = t.identity
  kept : ∀ f, u.supplied? f = none → after.content f = t.content f
  taken : ∀ f v, u.supplied? f = some v → t.taking count f v = .ok (after.content f)

section
variable {count : Answer Int} {u : Updates} {t after : Token}

theorem Made.unique {a b : Token} (ha : Made count u t a) (hb : Made count u t b) : a = b := by
  apply ext_content (ha.identity.trans hb.identity.symm)
  intro f
  cases supplied : u.supplied? f with
  | none => rw [ha.kept f supplied, hb.kept f supplied]
  | some v => exact Except.ok.inj ((ha.taken f v supplied).symm.trans (hb.taken f v supplied))

theorem steps_eq_ok_iff :
    TokenField.all.foldlM (step count u) t = .ok after ↔ Made count u t after := by
  have made {last : Token} (put : TokenField.all.foldlM (step count u) t = .ok last) :
      Made count u t last := by
    have down : PutDown count u TokenField.all t last := putDown_of_steps (by decide) put
    exact ⟨down.identity, fun f none => down.kept f (.inr none),
      fun f _ => down.taking (TokenField.mem_all f)⟩
  refine ⟨made, fun wanted => ?_⟩
  obtain ⟨last, put⟩ : ∃ last, TokenField.all.foldlM (step count u) t = .ok last :=
    exists_steps fun f _ v supplied => ⟨_, wanted.taken f v supplied⟩
  rw [put, (made put).unique wanted]

theorem updated_iff_made : Updated count u t after ↔ Made count u t after ∧ after.check = .ok () := by
  constructor
  · rintro ⟨identity, kept, given, judged, checked⟩
    refine ⟨⟨identity, kept, fun f v supplied => ?_⟩, checked⟩
    refine taking_eq_ok_iff.2 ⟨given f v supplied, ?_⟩
    rintro rfl
    exact judged v supplied
  · rintro ⟨⟨identity, kept, taken⟩, checked⟩
    have takes (f : TokenField) (v : Value) (supplied : u.supplied? f = some v) :=
      taking_eq_ok_iff.1 (taken f v supplied)
    exact ⟨identity, kept, fun f v supplied => (takes f v supplied).read,
      fun v supplied => (takes .transitions v supplied).judged rfl, checked⟩

/-- An update succeeds just with the token that holds what was supplied, keeps the rest and passes. -/
theorem attempted_eq_ok_iff : t.attempted count u = .ok after ↔ Updated count u t after := by
  refine ⟨updated_of_attempted, fun updated => ?_⟩
  obtain ⟨made, checked⟩ := updated_iff_made.1 updated
  simp only [attempted, attempt, ofStep_bind, ofStep_lift, ofStep_pure, ofStep_setFields]
  exact bind_eq_ok.2 ⟨after, steps_eq_ok_iff.2 made, bind_eq_ok.2 ⟨(), checked, rfl⟩⟩

theorem isSignal_of_check (h : t.check = .ok ()) : t.fraction.isSignal = false := by
  have number := isNaN_of_check h
  cases hf : t.fraction with
  | nan =>
    rw [hf] at number
    cases number
  | _ => rfl

theorem applied_of_updated (supplied : u.isEmpty = false) (updated : Updated count u t after)
    (number : t.fraction.isSignal = false) :
    t.applied count u = .ok ⟨t, after, t.diff after⟩ := by
  rw [applied_of_supplied _ _ supplied, attempted_eq_ok_iff.2 updated]
  simp only [concluded, Delta.between, compare, number, isSignal_of_check updated.checked]
  rfl

end

end Token

end RegistryTokens
