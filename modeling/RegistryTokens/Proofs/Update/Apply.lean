import RegistryTokens.Proofs.Job.Effect
import RegistryTokens.Proofs.Job.Journal
import RegistryTokens.Proofs.Update.Content
import RegistryTokens.Proofs.Update.Rules

/-!
# What an update makes of a token

An update that succeeds gives every supplied field the content its value stands for, keeps all
others and everything that no update changes, judges a new timeline and passes the rules. The
count of bound domains enters as an answer: an update that reads it from the store does what the
same update does with the count taken beforehand.
-/

set_option autoImplicit false

namespace RegistryTokens

open RegistryTokens.Time

namespace Token

section
variable {m : Type → Type} [Monad m]

def attempt (count : ExceptT Failure m Int) (t : Token) (u : Updates) :
    ExceptT Failure m Token := do
  let after ← setFields count u t
  Answer.lift after.check
  pure after

def concluded (t : Token) (attempt : Answer Token) : Answer Delta :=
  match attempt with
  | .ok after => Delta.between t after
  | .error failure => .error (failure.about t.identifier)

theorem apply_of_isEmpty (count : ExceptT Failure m Int) (t : Token) {u : Updates}
    (h : u.isEmpty = true) : t.apply count u = pure (Delta.still t) := by
  rw [apply, if_pos h]

theorem apply_of_supplied (count : ExceptT Failure m Int) (t : Token) {u : Updates}
    (h : u.isEmpty = false) :
    t.apply count u = ExceptT.mk do return t.concluded (← (t.attempt count u).run) := by
  rw [apply, if_neg (by simp [h])]
  dsimp only
  congr 2
  funext result
  cases result <;> rfl

end

def attempted (count : Answer Int) (t : Token) (u : Updates) : Answer Token :=
  Answer.ofStep (t.attempt (Answer.lift count) u)

/-- What an update makes of a token when the bound domains were counted beforehand. -/
def applied (count : Answer Int) (t : Token) (u : Updates) : Answer Delta :=
  Answer.ofStep (t.apply (Answer.lift count) u)

theorem applied_of_isEmpty (count : Answer Int) (t : Token) {u : Updates} (h : u.isEmpty = true) :
    t.applied count u = .ok (Delta.still t) := by
  rw [applied, apply_of_isEmpty _ _ h, Answer.ofStep_pure]

theorem applied_of_supplied (count : Answer Int) (t : Token) {u : Updates}
    (h : u.isEmpty = false) : t.applied count u = t.concluded (t.attempted count u) := by
  rw [applied, apply_of_supplied _ _ h]
  rfl

end Token

namespace Job

variable {α β : Type} {count : Job Int} {answer : Option Store → Clock → Answer Int}

theorem Reads.judge (h : Reads count answer) (kind : TokenKind) (timeline : Timeline Status)
    (token : Option String) : Reads (Lifecycle.judge kind count timeline token) fun s c =>
      Answer.ofStep (Lifecycle.judge kind (Answer.lift (answer s c)) timeline token) := by
  unfold Lifecycle.judge
  split
  · exact reads_throw _
  · have counted := h.bind fun n => Reads.ite (0 < n)
      (reads_throw (.refused (Refusal.promotionActive token n))) (reads_pure ())
    apply (counted.ite _ (reads_pure ())).congr
    intro s c
    simp

theorem Reads.judgeTransitions (h : Reads count answer) (kind : TokenKind)
    (timeline : Timeline Status) (token : String) :
    Reads (Token.judgeTransitions kind count timeline token) fun s c =>
      Answer.ofStep (Token.judgeTransitions kind (Answer.lift (answer s c)) timeline token) := by
  apply ((h.judge kind timeline (some token)).bind fun _ => reads_lift _).congr
  intro s c
  simp [Token.judgeTransitions]

theorem Reads.setField (h : Reads count answer) (t : Token) (f : TokenField) (v : Value) :
    Reads (Token.setField count t f v) fun s c =>
      Answer.ofStep (Token.setField (Answer.lift (answer s c)) t f v) := by
  unfold Token.setField
  by_cases hf : f = .transitions
  · simp only [hf, if_true]
    refine ((reads_lift _).bind fun after => (h.judgeTransitions _ _ _).bind fun _ =>
      reads_pure after).congr fun s c => ?_
    simp only [Answer.ofStep_bind, Answer.ofStep_lift, Answer.ofStep_pure]
  · simp only [hf, if_false]
    apply ((reads_lift _).bind fun after => reads_pure after).congr
    intro s c
    simp only [Answer.ofStep_bind, Answer.ofStep_lift, Answer.ofStep_pure]

theorem Reads.steps {β γ : Type} {f : β → γ → Job β}
    {g : Option Store → Clock → β → γ → ExceptT Failure Id β} (items : List γ)
    (each : ∀ b a, Reads (f b a) fun s c => Answer.ofStep (g s c b a)) (b : β) :
    Reads (items.foldlM f b) fun s c => Answer.ofStep (items.foldlM (g s c) b) :=
  (Reads.foldlM items each b).congr fun s c => (Answer.ofStep_foldlM items (g s c) b).symm

theorem Reads.setFields (h : Reads count answer) (u : Updates) (t : Token) :
    Reads (Token.setFields count u t) fun s c =>
      Answer.ofStep (Token.setFields (Answer.lift (answer s c)) u t) := by
  refine Reads.steps TokenField.all (fun t f => ?_) t
  cases u.supplied? f with
  | none => exact reads_pure t
  | some v => exact h.setField t f v

theorem Reads.attempt (h : Reads count answer) (t : Token) (u : Updates) :
    Reads (t.attempt count u) fun s c => t.attempted (answer s c) u := by
  refine ((h.setFields u t).bind fun after => (reads_lift after.check).bind fun _ =>
    reads_pure after).congr fun s c => ?_
  simp only [Token.attempted, Token.attempt, Answer.ofStep_bind, Answer.ofStep_lift,
    Answer.ofStep_pure]

theorem Reads.apply (h : Reads count answer) (t : Token) (u : Updates) :
    Reads (t.apply count u) fun s c => t.applied (answer s c) u := by
  cases hu : u.isEmpty with
  | true =>
    simp only [Token.apply_of_isEmpty _ _ hu, Token.applied_of_isEmpty _ _ hu]
    exact reads_pure _
  | false =>
    simp only [Token.apply_of_supplied _ _ hu, Token.applied_of_supplied _ _ hu]
    exact (h.attempt t u).concluded t.concluded

section
variable {R : World → World → Prop} [Passing R]

theorem Moves.judge (h : Moves R count) (kind : TokenKind) (timeline : Timeline Status)
    (token : Option String) : Moves R (Lifecycle.judge kind count timeline token) := by
  unfold Lifecycle.judge
  split
  · exact .still fun _ => rfl
  · split
    · refine h.bind fun n => ?_
      split
      · exact .still fun _ => rfl
      · exact .still fun _ => rfl
    · exact .still fun _ => rfl

theorem Moves.setField (h : Moves R count) (t : Token) (f : TokenField) (v : Value) :
    Moves R (Token.setField count t f v) := by
  unfold Token.setField
  refine .bind (.still fun _ => rfl) fun after => ?_
  by_cases hf : f = .transitions
  · simp only [hf, if_true, Token.judgeTransitions, bind_assoc]
    refine (h.judge _ _ _).bind fun _ => ?_
    exact .bind (.still fun _ => rfl) fun _ => .still fun _ => rfl
  · simp only [hf, if_false]
    exact .still fun _ => rfl

theorem Moves.apply (h : Moves R count) (t : Token) (u : Updates) : Moves R (t.apply count u) := by
  cases hu : u.isEmpty with
  | true =>
    rw [Token.apply_of_isEmpty _ _ hu]
    exact .still fun _ => rfl
  | false =>
    have put : Moves R (Token.setFields count u t) := by
      refine .foldlM TokenField.all (fun t f => ?_) t
      cases u.supplied? f with
      | none => exact .still fun _ => rfl
      | some v => exact h.setField t f v
    have attempted : Moves R (t.attempt count u) := put.bind fun after =>
      .bind (.still fun _ => rfl) fun _ => .still fun _ => rfl
    rw [Token.apply_of_supplied _ _ hu]
    exact fun w => attempted w

end

end Job

namespace Token

structure PutDown (count : Answer Int) (u : Updates) (fields : List TokenField) (t after : Token) :
    Prop where
  identity : after.identity = t.identity
  kept : ∀ f, f ∉ fields ∨ u.supplied? f = none → after.content f = t.content f
  given : ∀ f ∈ fields, ∀ v, u.supplied? f = some v → t.reading f v = .ok (after.content f)
  judged : .transitions ∈ fields → ∀ v, u.supplied? .transitions = some v →
    Answer.ofStep (judgeTransitions t.kind (Answer.lift count) after.transitions t.identifier) =
      .ok ()

theorem ok_of_setField {count : Answer Int} {t after : Token} {f : TokenField} {v : Value}
    (h : Answer.ofStep (setField (Answer.lift count) t f v) = .ok after) :
    ∃ c, t.reading f v = .ok c ∧ after = t.withContent f c ∧ (f = .transitions →
      Answer.ofStep (judgeTransitions t.kind (Answer.lift count) after.transitions
        t.identifier) = .ok ()) := by
  simp only [setField, Answer.ofStep_bind, Answer.ofStep_lift, withField_eq_reading] at h
  obtain ⟨put, hput, h⟩ := Answer.bind_eq_ok.1 h
  obtain ⟨c, hc, hput⟩ := Answer.bind_eq_ok.1 hput
  cases hput
  refine ⟨c, hc, ?_⟩
  by_cases hf : f = .transitions
  · simp only [hf, if_true, Answer.ofStep_bind] at h
    obtain ⟨_, judged, h⟩ := Answer.bind_eq_ok.1 h
    cases h
    exact ⟨rfl, fun _ => judged⟩
  · simp only [hf, if_false] at h
    cases h
    exact ⟨rfl, fun same => absurd same hf⟩

theorem PutDown.skip {count : Answer Int} {u : Updates} {f : TokenField} {rest : List TokenField}
    {t after : Token} (hs : u.supplied? f = none) (hr : PutDown count u rest t after) :
    PutDown count u (f :: rest) t after := by
  have inRest {g : TokenField} {v : Value} (hg : g ∈ f :: rest) (hv : u.supplied? g = some v) :
      g ∈ rest := by
    rcases List.mem_cons.1 hg with rfl | hg
    · rw [hs] at hv
      cases hv
    · exact hg
  constructor
  · exact hr.identity
  · intro g hg
    apply hr.kept g
    rcases hg with hg | hg
    · exact .inl fun within => hg (List.mem_cons_of_mem _ within)
    · exact .inr hg
  · intro g hg v hv
    exact hr.given g (inRest hg hv) v hv
  · intro ht v hv
    exact hr.judged (inRest ht hv) v hv

/-- A field is put down and the rest is gone through afterwards. A later field leaves the timeline
that was judged where it is. -/
theorem PutDown.put {count : Answer Int} {u : Updates} {f : TokenField} {rest : List TokenField}
    {t next after : Token} {given : Value} (hf : f ∉ rest) (hs : u.supplied? f = some given)
    (h : Answer.ofStep (setField (Answer.lift count) t f given) = .ok next)
    (hr : PutDown count u rest next after) : PutDown count u (f :: rest) t after := by
  have stays : after.content f = next.content f := hr.kept f (.inl hf)
  obtain ⟨c, read, rfl, judged⟩ := ok_of_setField h
  have same : (t.withContent f c).identity = t.identity := identity_withContent t f c
  constructor
  · exact hr.identity.trans same
  · intro g hg
    have other : g ≠ f := by
      rintro rfl
      rcases hg with hg | hg
      · exact hg List.mem_cons_self
      · rw [hs] at hg
        cases hg
    rw [hr.kept g, content_withContent_of_ne t c other]
    exact hg.imp_left fun hg inRest => hg (List.mem_cons_of_mem _ inRest)
  · intro g hg v hv
    rcases List.mem_cons.1 hg with rfl | inRest
    · rw [hs] at hv
      cases hv
      rw [stays, content_withContent_self]
      exact read
    · rw [reading_of_identity same.symm]
      exact hr.given g inRest v hv
  · intro ht v hv
    rcases List.mem_cons.1 ht with rfl | inRest
    · have timeline : after.transitions = (t.withContent .transitions c).transitions := stays
      rw [timeline]
      exact judged rfl
    · rw [← kind_of_identity same, ← identifier_of_identity same]
      exact hr.judged inRest v hv

def step (count : Answer Int) (u : Updates) (t : Token) (f : TokenField) : Answer Token :=
  match u.supplied? f with
  | some v => Answer.ofStep (setField (Answer.lift count) t f v)
  | none => .ok t

theorem ofStep_setFields (count : Answer Int) (u : Updates) (t : Token) :
    Answer.ofStep (setFields (Answer.lift count) u t) = TokenField.all.foldlM (step count u) t := by
  rw [setFields, Answer.ofStep_foldlM]
  rfl

theorem putDown_of_steps {count : Answer Int} {u : Updates} {fields : List TokenField}
    (distinct : fields.Nodup) {t after : Token} (h : fields.foldlM (step count u) t = .ok after) :
    PutDown count u fields t after := by
  induction fields generalizing t with
  | nil =>
    cases h
    exact ⟨rfl, fun _ _ => rfl, by simp, by simp⟩
  | cons f rest ih =>
    obtain ⟨hf, hr⟩ := List.nodup_cons.1 distinct
    rw [List.foldlM_cons] at h
    obtain ⟨next, first, h⟩ := Answer.bind_eq_ok.1 h
    have later := ih hr h
    unfold step at first
    cases hs : u.supplied? f with
    | none =>
      rw [hs] at first
      cases first
      exact .skip hs later
    | some given =>
      rw [hs] at first
      exact .put hf hs first later

theorem putDown_of_setFields {count : Answer Int} {u : Updates} {t after : Token}
    (h : Answer.ofStep (setFields (Answer.lift count) u t) = .ok after) :
    PutDown count u TokenField.all t after := by
  rw [ofStep_setFields] at h
  exact putDown_of_steps (by decide) h

theorem isNaN_of_check {t : Token} (h : t.check = .ok ()) : t.fraction.isNaN = false := by
  obtain ⟨undiscounted, number, -⟩ := ((check_eq_ok_iff t).1 h).discounted
  cases hf : t.fraction with
  | nan =>
    rw [hf] at number
    cases number
  | _ => rfl

theorem agree_of_content {a b : Token} {f : TokenField} (same : b.content f = a.content f)
    (number : b.fraction.isNaN = false) : a.agree b f = true := by
  cases f with
  | fraction =>
    have : b.fraction = a.fraction := same
    rw [agree, ← this]
    exact Number.Decimal.sameNumber_self number
  | _ => exact beq_iff_eq.2 same.symm

/-- What a token is made of by an update that succeeds. -/
structure Updated (count : Answer Int) (u : Updates) (t after : Token) : Prop where
  identity : after.identity = t.identity
  kept : ∀ f, u.supplied? f = none → after.content f = t.content f
  given : ∀ f v, u.supplied? f = some v → t.reading f v = .ok (after.content f)
  judged : ∀ v, u.supplied? .transitions = some v →
    Answer.ofStep (judgeTransitions t.kind (Answer.lift count) after.transitions t.identifier) =
      .ok ()
  checked : after.check = .ok ()

theorem Updated.supplied_of_differs {count : Answer Int} {u : Updates} {t after : Token}
    (h : Updated count u t after) {f : TokenField} (differs : f ∈ t.diff after) :
    ∃ v, u.supplied? f = some v := by
  cases hs : u.supplied? f with
  | some v => exact ⟨v, rfl⟩
  | none =>
    have agreeing := agree_of_content (h.kept f hs) (isNaN_of_check h.checked)
    rw [(mem_diff_iff t after f).1 differs] at agreeing
    cases agreeing

theorem ok_of_attempted {count : Answer Int} {u : Updates} {t after : Token}
    (h : t.attempted count u = .ok after) :
    PutDown count u TokenField.all t after ∧ after.check = .ok () := by
  simp only [attempted, attempt, Answer.ofStep_bind, Answer.ofStep_lift, Answer.ofStep_pure] at h
  obtain ⟨put, hput, h⟩ := Answer.bind_eq_ok.1 h
  obtain ⟨_, checked, h⟩ := Answer.bind_eq_ok.1 h
  cases h
  exact ⟨putDown_of_setFields hput, checked⟩

theorem updated_of_attempted {count : Answer Int} {u : Updates} {t after : Token}
    (h : t.attempted count u = .ok after) : Updated count u t after := by
  obtain ⟨⟨identity, kept, given, judged⟩, checked⟩ := ok_of_attempted h
  exact ⟨identity, fun f hf => kept f (.inr hf), fun f => given f (TokenField.mem_all f),
    judged (TokenField.mem_all _), checked⟩

/-- An update that succeeds either supplied nothing and changes nothing, or tells which fields
differ. -/
theorem ok_of_applied {count : Answer Int} {u : Updates} {t : Token} {d : Delta}
    (h : t.applied count u = .ok d) : d = Delta.still t ∧ u.isEmpty = true ∨
      d.before = t ∧ d.fields = t.diff d.after ∧ Updated count u t d.after := by
  cases hu : u.isEmpty with
  | true =>
    rw [applied_of_isEmpty _ _ hu] at h
    cases h
    exact .inl ⟨rfl, rfl⟩
  | false =>
    rw [applied_of_supplied _ _ hu] at h
    cases ha : t.attempted count u with
    | error failure =>
      rw [ha] at h
      cases h
    | ok after =>
      rw [ha] at h
      obtain ⟨fields, hf, h⟩ := Answer.bind_eq_ok.1 h
      cases h
      refine .inr ⟨rfl, ?_, updated_of_attempted ha⟩
      simp only [compare] at hf
      split at hf
      · cases hf
      · cases hf
        rfl

end Token

end RegistryTokens
