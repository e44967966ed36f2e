import RegistryTokens.Proofs.Update.Rejection
import RegistryTokens.Proofs.Update.Success

/-!
# How an update fails

However deep a refusal arose, it names the token that was to be changed. An update breaks down with
the count of bound domains, over a value that is no text or over a fraction that is no number; and
it overflows where the new timeline leaves the calendar, though only if everything else is taken,
since the timeline comes last.
-/

set_option autoImplicit false

namespace RegistryTokens

open RegistryTokens.Number

theorem Updates.isEmpty_eq_false_of_supplied {u : Updates} {f : TokenField} {v : Value}
    (h : u.supplied? f = some v) : u.isEmpty = false :=
  isEmpty_eq_false_iff.2 ⟨f, v, h⟩

def Updates.Textual (u : Updates) : Prop := ∀ f v, u.supplied? f = some v → ∃ s, v = .text s

theorem Updates.Textual.give {u : Updates} (h : u.Textual) (f : TokenField) (s : String) :
    (u.give f (assignment (.text s))).Textual := by
  intro g v supplied
  by_cases same : g = f
  · subst same
    exact ⟨s, Option.some.inj (supplied.symm.trans (u.supplied?_give_self g (.text s)))⟩
  · rw [supplied?_give_of_ne _ _ same] at supplied
    exact h g v supplied

theorem Updates.textual_of_ofOptions {options : Keyed String Value} {u : Updates}
    (texts : ∀ option ∈ options, ∃ s, option.2 = .text s) (h : ofOptions options = .ok u) :
    u.Textual := by
  have start : empty.Textual := by
    intro f v supplied
    cases supplied
  unfold ofOptions at h
  generalize empty = before at start h
  induction options generalizing before with
  | nil =>
    cases h
    exact start
  | cons option rest ih =>
    obtain ⟨⟨s, text⟩, texts⟩ := List.forall_mem_cons.1 texts
    rw [List.foldlM_cons] at h
    obtain ⟨next, given, h⟩ := Answer.bind_eq_ok.1 h
    refine ih texts next ?_ h
    rw [giveOption, text] at given
    split at given
    · cases given
      exact start.give _ s
    · cases given

namespace Token

open Answer

variable {breaks : Breakdown → Prop}

theorem identity_of_step {count : Answer Int} {u : Updates} {t next : Token} {f : TokenField}
    (h : step count u t f = .ok next) : next.identity = t.identity := by
  unfold step at h
  split at h
  · obtain ⟨c, -, rfl, -⟩ := ok_of_setField h
    exact identity_withContent t f c
  · cases h
    rfl

theorem PutDown.isFraction {count : Answer Int} {u : Updates} {t after : Token}
    (h : PutDown count u TokenField.all t after) (before : t.fraction.isFraction = true) :
    after.fraction.isFraction = true := by
  cases supplied : u.supplied? .fraction with
  | some v =>
    exact Field.isFraction_of_readFraction (h.given .fraction (TokenField.mem_all _) v supplied)
  | none =>
    have same : after.fraction = t.fraction := h.kept .fraction (.inr supplied)
    rw [same]
    exact before

/-- Every supplied value is taken but a timeline, which is displaced. -/
structure Displaces (t : Token) (u : Updates) : Prop where
  displaced : ∃ v, u.supplied? .transitions = some v ∧ Field.Displaced v
  taken : ∀ f, f ≠ .transitions → ∀ v, u.supplied? f = some v → ∃ c, t.reading f v = .ok c

inductive Breaks (t : Token) (u : Updates) (counting : Breakdown → Prop) (b : Breakdown) : Prop where
  | counting (h : counting b)
  | untold {f : TokenField} {v : Value} (supplied : u.supplied? f = some v) (h : v.asText? = none)
  | displaced (same : b = .overflow) (h : t.Displaces u)
  | unnumbered (h : ¬t.fraction.isFraction = true)

theorem fails_step {count : Answer Int} {u : Updates} {t : Token}
    (hc : Fails (Failure.Concerns t.identifier breaks) count) (f : TokenField) :
    Fails (Failure.Concerns t.identifier fun b => breaks b ∨ ∃ v, u.supplied? f = some v ∧
      (v.asText? = none ∨ b = .overflow ∧ f = .transitions ∧ Field.Displaced v))
      (step count u t f) := by
  unfold step
  cases supplied : u.supplied? f with
  | none => exact fails_ok t
  | some v =>
    simp only [setField, ofStep_bind, ofStep_lift, withField_eq_reading]
    apply Fails.bind
    · exact ((t.fails_reading f v).more fun b h => .inr ⟨v, rfl, h⟩).bind fun c _ => fails_ok _
    · intro after _
      by_cases hf : f = .transitions
      · simp only [hf, if_true, ofStep_bind]
        exact ((fails_judgeTransitions t.kind after.transitions hc).more fun b => .inl).bind
          fun _ _ => fails_ok _
      · simp only [hf, if_false]
        exact fails_ok after

theorem fails_setFields {count : Answer Int} {t : Token}
    (hc : Fails (Failure.Concerns t.identifier breaks) count) (u : Updates) :
    Fails (Failure.Concerns t.identifier (t.Breaks u breaks))
      (ofStep (setFields (lift count) u t)) := by
  rw [ofStep_setFields, TokenField.all_eq, List.foldlM_append]
  apply Fails.bind
  · -- The other fields take text without breaking down.
    refine Fails.foldlM (fun b => b.identity = t.identity) (fun b hb f hf => ⟨?_, ?_⟩) rfl
    · rw [← identifier_of_identity hb] at hc ⊢
      apply (fails_step hc f).more
      intro kind h
      rcases h with h | ⟨v, supplied, h | ⟨-, rfl, -⟩⟩
      · exact .counting h
      · exact .untold supplied h
      · exact absurd rfl (TokenField.mem_dropLast_all.1 hf)
    · intro c hc
      exact (identity_of_step hc).trans hb
  · intro next passed
    have before : PutDown count u TokenField.all.dropLast t next :=
      putDown_of_steps (by decide) passed
    rw [List.foldlM_cons]
    refine Fails.bind ?_ fun last _ => fails_ok last
    rw [← identifier_of_identity before.identity] at hc ⊢
    apply (fails_step hc .transitions).more
    intro kind h
    rcases h with h | ⟨v, supplied, h | ⟨same, -, displaced⟩⟩
    · exact .counting h
    · exact .untold supplied h
    · refine .displaced same ⟨⟨v, supplied, displaced⟩, fun f hf v hv => ?_⟩
      exact ⟨_, before.given f (TokenField.mem_dropLast_all.2 hf) v hv⟩

theorem fails_attempted {count : Answer Int} {t : Token}
    (hc : Fails (Failure.Concerns t.identifier breaks) count) (u : Updates) :
    Fails (Failure.Concerns t.identifier (t.Breaks u breaks)) (t.attempted count u) := by
  simp only [attempted, attempt, ofStep_bind, ofStep_lift, ofStep_pure]
  apply (fails_setFields hc u).bind
  intro after put
  refine Fails.bind ?_ fun _ _ => fails_ok after
  have made := putDown_of_setFields put
  rw [← identifier_of_identity made.identity]
  apply after.fails_check.more
  intro _ missing
  refine .unnumbered fun number => ?_
  have some := Decimal.isSome_nonpositive? (made.isFraction number)
  rw [missing] at some
  cases some

theorem fails_applied {count : Answer Int} {t : Token}
    (hc : Fails (Failure.Concerns t.identifier breaks) count) (u : Updates) :
    Fails (Failure.Names t.identifier (t.Breaks u breaks)) (t.applied count u) := by
  cases hu : u.isEmpty with
  | true =>
    rw [applied_of_isEmpty _ _ hu]
    exact fails_ok _
  | false =>
    rw [applied_of_supplied _ _ hu]
    cases ha : t.attempted count u with
    | error failure => exact fails_error (fails_attempted hc u failure ha)
    | ok after =>
      -- Two fractions can be compared, whichever of them were read.
      refine Fails.bind ?_ fun fields _ => fails_ok _
      rw [compare]
      split
      · rename_i signal
        refine fails_error (.unnumbered fun number => ?_)
        have later := (ok_of_attempted ha).1.isFraction number
        rw [Decimal.isSignal_of_isFraction number, Decimal.isSignal_of_isFraction later] at signal
        cases signal
      · exact fails_ok _

theorem token_of_applied_refused {t : Token} {count : Answer Int} {u : Updates} {r : Refusal}
    (hc : Fails (Failure.Concerns t.identifier breaks) count)
    (h : t.applied count u = .error (.refused r)) : r.token = some (.text t.identifier) :=
  fails_applied hc u _ h

theorem applied_ne_ok_of_displaced {t : Token} {u : Updates} (count : Answer Int)
    (text : u.Textual) {v : Value} (supplied : u.supplied? .transitions = some v)
    (displaced : Field.Displaced v) (d : Delta) : t.applied count u ≠ .ok d := by
  intro applied
  rcases ok_of_applied applied with ⟨-, none⟩ | ⟨-, -, updated⟩
  · rw [Updates.isEmpty_eq_false_of_supplied supplied] at none
    cases none
  · have read : Field.readTransitions v = .ok d.after.transitions := updated.given _ v supplied
    obtain ⟨s, rfl⟩ := text _ v supplied
    rw [Field.readTransitions_of_displaced rfl displaced] at read
    cases read

theorem applied_of_displaces {t : Token} {u : Updates} (count : Answer Int)
    (text : u.Textual) (h : t.Displaces u) :
    t.applied count u = .error .overflow := by
  obtain ⟨⟨v, supplied, displaced⟩, taken⟩ := h
  obtain ⟨next, put⟩ : ∃ next, TokenField.all.dropLast.foldlM (step count u) t = .ok next := by
    refine exists_steps fun f hf v given => ?_
    have plain := TokenField.mem_dropLast_all.1 hf
    rw [taking_of_ne plain]
    exact taken f plain v given
  have overflows : step count u next .transitions = .error .overflow := by
    obtain ⟨s, rfl⟩ := text .transitions v supplied
    have broken : Field.readTransitions (.text s) = .error .overflow :=
      Field.readTransitions_of_displaced rfl displaced
    have read : next.reading .transitions (.text s) = .error .overflow := broken
    simp only [step, supplied, setField, ofStep_bind, ofStep_lift, withField_eq_reading, read]
    rfl
  have attempted : t.attempted count u = .error .overflow := by
    simp only [Token.attempted, attempt, ofStep_bind, ofStep_setFields]
    rw [TokenField.all_eq, List.foldlM_append]
    apply bind_eq_error.2 (.inl (bind_eq_error.2 (.inr ⟨next, put, ?_⟩)))
    rw [List.foldlM_cons]
    exact bind_eq_error.2 (.inl overflows)
  rw [applied_of_supplied _ _ (Updates.isEmpty_eq_false_of_supplied supplied), attempted]
  rfl

end Token

end RegistryTokens
