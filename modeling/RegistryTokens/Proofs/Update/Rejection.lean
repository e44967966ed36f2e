import RegistryTokens.Proofs.Drafting
import RegistryTokens.Proofs.Update.Apply

/-!
# How readers and rules fail

The readers of fields refuse without naming a token; the rules, the lifecycle and the rule for
registrations name the token at hand. A reader breaks down over a value that is no text, and the one
of timelines also where a timeline leaves the calendar in universal time. The rules break down over a
fraction that is no number.
-/

set_option autoImplicit false

namespace RegistryTokens

open RegistryTokens.Number RegistryTokens.Time

def Failure.Names (token : String) (breaks : Breakdown → Prop) : Failure → Prop
  | .refused r => r.token = some (.text token)
  | .broke b => breaks b

def Failure.Concerns (token : String) (breaks : Breakdown → Prop) (failure : Failure) : Prop :=
  (failure.about token).Names token breaks

namespace Answer

variable {α β : Type}

def Fails (p : Failure → Prop) (answer : Answer α) : Prop :=
  ∀ failure, answer = .error failure → p failure

section

variable {p q : Failure → Prop}

theorem fails_ok (a : α) : Fails p (.ok a) := nofun

theorem fails_error {failure : Failure} (h : p failure) : Fails p (.error failure : Answer α) := by
  rintro _ ⟨⟩
  exact h

theorem Fails.imp {answer : Answer α} (h : Fails p answer) (more : ∀ failure, p failure → q failure) :
    Fails q answer :=
  fun failure failed => more failure (h failure failed)

theorem Fails.bind {answer : Answer α} {next : α → Answer β} (h : Fails p answer)
    (hn : ∀ a, answer = .ok a → Fails p (next a)) : Fails p (answer >>= next) := by
  intro failure failed
  rcases bind_eq_error.1 failed with failed | ⟨a, ha, failed⟩
  · exact h failure failed
  · exact hn a ha failure failed

theorem Fails.map {answer : Answer α} (h : Fails p answer) (f : α → β) : Fails p (answer.map f) :=
  fun failure failed => h failure (map_eq_error.1 failed)

theorem Fails.mapM {f : α → Answer β} {items : List α} (h : ∀ a ∈ items, Fails p (f a)) :
    Fails p (items.mapM f) := by
  induction items with
  | nil => exact fails_ok []
  | cons a rest ih =>
    obtain ⟨first, rest⟩ := List.forall_mem_cons.1 h
    rw [List.mapM_cons]
    exact first.bind fun b _ => (ih rest).bind fun bs _ => fails_ok (b :: bs)

theorem Fails.foldlM {f : β → α → Answer β} (good : β → Prop) {items : List α}
    (h : ∀ b, good b → ∀ a ∈ items, Fails p (f b a) ∧ ∀ c, f b a = .ok c → good c) {b : β}
    (hb : good b) : Fails p (items.foldlM f b) := by
  induction items generalizing b with
  | nil => exact fails_ok b
  | cons a rest ih =>
    rw [List.foldlM_cons]
    obtain ⟨fails, stays⟩ := h b hb a List.mem_cons_self
    exact fails.bind fun c hc =>
      ih (fun b hb a ha => h b hb a (List.mem_cons_of_mem _ ha)) (stays c hc)

end

section

variable {token : String} {breaks : Breakdown → Prop}

theorem fails_unnamed {r : Refusal} (h : r.unnamed = true) :
    Fails (Failure.Concerns token breaks) (refuse r : Answer α) := by
  apply fails_error
  rw [Failure.Concerns, Failure.about, Refusal.about, if_pos h]
  rfl

theorem fails_named {r : Refusal} (h : r.token = some (.text token)) :
    Fails (Failure.Concerns token breaks) (refuse r : Answer α) := by
  apply fails_error
  rw [Failure.Concerns, Failure.about, Refusal.about]
  split
  · rfl
  · exact h

theorem fails_broke {b : Breakdown} (h : breaks b) :
    Fails (Failure.Concerns token breaks) (.error (.broke b) : Answer α) :=
  fails_error h

theorem Fails.more {answer : Answer α} {others : Breakdown → Prop}
    (h : Fails (Failure.Concerns token breaks) answer) (more : ∀ b, breaks b → others b) :
    Fails (Failure.Concerns token others) answer :=
  h.imp fun failure concerns => by
    cases failure with
    | refused r => exact concerns
    | broke b => exact more b concerns

end

end Answer

namespace Field

open Answer

/-- A timeline that can be read to its end, though after moments that increase there is one outside
the calendar in universal time. -/
def Displaced (v : Value) : Prop :=
  ∃ front late back, ∃ d : Timeline.Draft Status, readEntries v = .ok (front ++ late :: back) ∧
    Timeline.Told front d.entries ∧ late.1.toInstant = .error .outsideCalendar

theorem displaced_iff {v : Value} : Displaced v ↔
    ∃ entries, readEntries v = .ok entries ∧ Timeline.build entries = .error .outsideCalendar := by
  constructor
  · rintro ⟨front, late, back, d, read, told⟩
    exact ⟨_, read, Timeline.build_eq_outsideCalendar_iff.2 ⟨front, late, back, d, rfl, told⟩⟩
  · rintro ⟨entries, read, built⟩
    obtain ⟨front, late, back, d, rfl, told⟩ := Timeline.build_eq_outsideCalendar_iff.1 built
    exact ⟨front, late, back, d, read, told⟩

variable {token : String} {breaks : Breakdown → Prop}

theorem fails_readTexts (v : Value) :
    Fails (Failure.Concerns token fun _ => v.asText? = none) (readTexts v) := by
  unfold readTexts
  split
  · exact fails_ok _
  · rename_i other
    split
    · exact fails_ok _
    · exact fails_broke other

theorem fails_readAction (v : Value) : Fails (Failure.Concerns token breaks) (readAction v) := by
  unfold readAction
  split
  · exact fails_ok _
  · split
    · exact fails_ok _
    · exact fails_unnamed rfl

theorem fails_readActions (v : Value) :
    Fails (Failure.Concerns token fun _ => v.asText? = none) (readActions v) := by
  have each (items : List Value) :
      Fails (Failure.Concerns token fun _ => v.asText? = none) (readActionItems items) :=
    (Fails.mapM fun v _ => fails_readAction v).map _
  unfold readActions
  split
  · exact each _
  · rename_i other
    split
    · exact each _
    · exact fails_broke other

theorem fails_readFraction (v : Value) : Fails (Failure.Concerns token breaks) (readFraction v) := by
  have ranged (d : Decimal) : Fails (Failure.Concerns token breaks) (if d.isFraction then pure d
      else refuse (Refusal.outOfRange "discount_fraction" (fractionSource v)
        "Discount fraction must be between 0 and 1 inclusive") : Answer Decimal) := by
    split
    · exact fails_ok _
    · exact fails_unnamed rfl
  unfold readFraction readFractionOf
  dsimp only
  split
  · exact ranged _
  · split
    · exact ranged _
    · exact (fails_unnamed rfl).bind fun d _ => ranged d

theorem fails_readBool (parameter : String) (v : Value) :
    Fails (Failure.Concerns token breaks) (readBool parameter v) := by
  unfold readBool
  split
  · exact fails_ok _
  · dsimp only
    split
    · exact fails_ok _
    · split
      · exact fails_ok _
      · exact fails_unnamed rfl

theorem fails_readYears (v : Value) : Fails (Failure.Concerns token breaks) (readYears v) := by
  have ranged (n : Int) : Fails (Failure.Concerns token breaks) (if n < 1 then
      refuse (Refusal.outOfRange "discount_years" v "Discount years must be at least 1")
      else pure n : Answer Int) := by
    split
    · exact fails_unnamed rfl
    · exact fails_ok _
  unfold readYears
  dsimp only
  split
  · exact (fails_unnamed rfl).bind fun n _ => ranged n
  · exact ranged _
  · split
    · exact ranged _
    · exact (fails_unnamed rfl).bind fun n _ => ranged n

theorem fails_readWord (α : Type) [Titled α] (parameter : String) (v : Value) :
    Fails (Failure.Concerns token breaks) (readWord α parameter v) := by
  unfold readWord
  dsimp only
  split
  · exact fails_unnamed rfl
  · split
    · exact fails_ok _
    · split
      · exact fails_ok _
      · exact fails_unnamed rfl
  · split
    · exact fails_ok _
    · exact fails_unnamed rfl

theorem fails_readStamp (parameter text : String) :
    Fails (Failure.Concerns token breaks) (readStamp parameter text) := by
  unfold readStamp
  dsimp only
  split
  · exact fails_ok _
  · split
    · exact fails_unnamed rfl
    · split
      · exact fails_unnamed rfl
      · exact fails_ok _

theorem fails_readStatus (v : Value) : Fails (Failure.Concerns token breaks) (readStatus v) := by
  unfold readStatus
  split
  · exact fails_ok _
  · split
    · exact fails_ok _
    · exact fails_unnamed rfl

theorem fails_readEntry (pair : Value × Value) :
    Fails (Failure.Concerns token breaks) (readEntry pair) := by
  have paired (stamp : Stamp) : Fails (Failure.Concerns token breaks) (do
      let status ← readStatus pair.2
      pure (stamp, status)) :=
    (fails_readStatus _).bind fun status _ => fails_ok (stamp, status)
  unfold readEntry
  dsimp only
  split
  · exact paired _
  · exact (fails_readStamp _ _).bind fun stamp _ => paired stamp

theorem fails_splitEntries (whole : Value) (s : String) :
    Fails (Failure.Concerns token breaks) (splitEntries whole s) := by
  refine Fails.mapM fun entry _ => ?_
  unfold splitEntry
  dsimp only
  split
  · exact fails_unnamed rfl
  · split
    · exact fails_unnamed rfl
    · exact fails_ok _

theorem fails_readEntries (v : Value) :
    Fails (Failure.Concerns token fun _ => v.asText? = none) (readEntries v) := by
  unfold readEntries
  split
  · exact (fails_splitEntries _ _).bind fun pairs _ =>
      Fails.mapM fun pair _ => fails_readEntry pair
  · exact Fails.mapM fun pair _ => fails_readEntry pair
  · rename_i other
    split
    · exact fails_broke other
    · refine Fails.mapM fun item _ => Fails.bind ?_ fun pair _ => fails_readEntry pair
      unfold splitPair
      split
      · exact fails_broke other
      · exact fails_ok _
      · exact fails_broke other

theorem fails_build (entries : List (Stamp × Status)) : Fails (Failure.Concerns token fun b =>
    b = .overflow ∧ Timeline.build entries = .error .outsideCalendar) (build entries) := by
  unfold build settled
  split
  · exact fails_ok _
  · rename_i fault built
    cases fault with
    | outsideCalendar => exact fails_broke ⟨rfl, built⟩
    | _ => exact fails_unnamed rfl

theorem fails_readTransitions (v : Value) : Fails (Failure.Concerns token fun b =>
    v.asText? = none ∨ b = .overflow ∧ Displaced v) (readTransitions v) := by
  unfold readTransitions
  split
  · exact fails_ok _
  · exact ((fails_readEntries _).more fun _ => .inl).bind fun entries read =>
      (fails_build entries).more fun _ built =>
        .inr ⟨built.1, displaced_iff.2 ⟨entries, read, built.2⟩⟩

theorem readTransitions_of_displaced {v : Value} (text : v.asText?.isSome = true)
    (h : Displaced v) : readTransitions v = .error .overflow := by
  obtain ⟨entries, read, built⟩ := displaced_iff.1 h
  cases v with
  | timeline t => cases text
  | _ =>
    simp only [readTransitions]
    rw [read]
    change build entries = _
    rw [build, built]
    rfl

end Field

namespace Token

open Answer

variable {breaks : Breakdown → Prop}

theorem fails_readRegistration (t : Token) (v : Value) :
    Fails (Failure.Concerns t.identifier breaks) (t.readRegistration v) := by
  unfold readRegistration
  apply Fails.bind (Field.fails_readWord RegistrationRule _ v)
  intro rule _
  split
  · exact (fails_named rfl).bind fun _ _ => fails_ok rule
  · exact fails_ok rule

/-- A field breaks down over what is no text, and a timeline by leaving the calendar. -/
theorem fails_reading (t : Token) (f : TokenField) (v : Value) :
    Fails (Failure.Concerns t.identifier fun b =>
      v.asText? = none ∨ b = .overflow ∧ f = .transitions ∧ Field.Displaced v) (t.reading f v) := by
  cases f with
  | tlds => exact (Field.fails_readTexts v).more fun _ => .inl
  | registrars => exact (Field.fails_readTexts v).more fun _ => .inl
  | actions => exact (Field.fails_readActions v).more fun _ => .inl
  | fraction => exact Field.fails_readFraction v
  | premiums => exact Field.fails_readBool _ v
  | years => exact Field.fails_readYears v
  | renewal => exact Field.fails_readWord RenewalPricing TokenField.renewal.name v
  | registration => exact t.fails_readRegistration v
  | transitions =>
    exact (Field.fails_readTransitions v).more fun _ =>
      Or.imp_right fun displaced => ⟨displaced.1, rfl, displaced.2⟩

theorem fails_judgeTransitions (kind : TokenKind) {count : Answer Int}
    (timeline : Timeline Status) {token : String} (hc : Fails (Failure.Concerns token breaks) count) :
    Fails (Failure.Concerns token breaks)
      (ofStep (judgeTransitions kind (lift count) timeline token)) := by
  simp only [judgeTransitions, ofStep_bind, ofStep_lift]
  refine Fails.bind ?_ fun _ _ => ?_
  · unfold Lifecycle.judge
    split
    · exact fails_named rfl
    · simp only [ofStep_ite, ofStep_bind, ofStep_lift, ofStep_throw, ofStep_pure]
      split
      · apply hc.bind
        intro n _
        split
        · exact fails_named rfl
        · exact fails_ok ()
      · exact fails_ok ()
  · unfold Lifecycle.requireEpoch
    split
    · exact fails_ok ()
    · exact fails_unnamed rfl

theorem fails_check (t : Token) :
    Fails (Failure.Concerns t.identifier fun _ => t.fraction.nonpositive? = none) t.check := by
  rw [check_eq_judged]
  refine Fails.foldlM (fun _ => True) (fun _ _ rule _ => ⟨?_, fun _ _ => trivial⟩) trivial
  unfold Rule.judged verdict
  split
  · exact fails_ok ()
  · exact fails_named (rule.token_refusal t.identifier)
  · rename_i undecided
    exact fails_broke (Rule.unnumbered_of_undecided undecided)

end Token

end RegistryTokens
