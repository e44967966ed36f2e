import Mathlib.Data.List.Nodup
import Mathlib.Data.List.Perm.Subperm
import RegistryTokens.Proofs.Timeline

/-!
# Judging a timeline

A timeline is gone through pair by pair, and the first pair that is no legal step is named. Only a
timeline whose steps are all legal, and that ends the promotion of a bulk token, has the bound domains
counted, and that once: whoever counts leaves exactly one trace of it.
-/

set_option autoImplicit false

namespace RegistryTokens.Lifecycle

def Stepwise (statuses : List Status) : Prop :=
  ∀ front a b back, statuses = front ++ a :: b :: back → Follows a b

def EndsSale (kind : TokenKind) (statuses : List Status) : Prop :=
  kind = .bulkPricing ∧ ∃ front, statuses = front ++ [.valid, .ended]

theorem legal_of_follows {a b : Status} (h : Follows a b) : legal a b = true := by
  cases h <;> rfl

theorem chained_iff_stepwise {statuses : List Status} : Chained statuses ↔ Stepwise statuses := by
  constructor
  · intro chained front a b back pair
    exact follows_of_chained chained pair
  · intro stepwise
    induction statuses with
    | nil => trivial
    | cons a rest ih =>
      cases rest with
      | nil => trivial
      | cons b rest =>
        refine ⟨legal_of_follows (stepwise [] a b rest rfl), ih ?_⟩
        intro front c d back pair
        exact stepwise (a :: front) c d back (congrArg (a :: ·) pair)

theorem first_of_firstIllegal? {statuses : List Status} {a b : Status}
    (h : firstIllegal? statuses = some (a, b)) :
    ∃ front back, statuses = front ++ a :: b :: back ∧ Chained (front ++ [a]) ∧ ¬Follows a b := by
  induction statuses with
  | nil => cases h
  | cons c rest ih =>
    cases rest with
    | nil => cases h
    | cons d rest =>
      rw [firstIllegal?] at h
      split at h
      · rename_i step
        obtain ⟨front, back, pair, chained, illegal⟩ := ih h
        refine ⟨c :: front, back, congrArg (c :: ·) pair, ?_, illegal⟩
        cases front with
        | nil =>
          obtain ⟨rfl, -⟩ := List.cons.inj pair
          exact ⟨step, trivial⟩
        | cons e front =>
          obtain ⟨rfl, -⟩ := List.cons.inj pair
          exact ⟨step, chained⟩
      · rename_i illegal
        cases h
        exact ⟨[], rest, rfl, trivial, fun follows => illegal (legal_of_follows follows)⟩

theorem endsPromotion_iff {statuses : List Status} :
    endsPromotion statuses = true ↔ ∃ front, statuses = front ++ [.valid, .ended] := by
  constructor
  · intro ends
    unfold endsPromotion at ends
    split at ends
    · rename_i front turned
      refine ⟨front.reverse, ?_⟩
      rw [← List.reverse_reverse statuses, turned]
      simp
    · cases ends
  · rintro ⟨front, rfl⟩
    simp [endsPromotion]

def stage : Status → Nat
  | .notStarted => 0
  | .valid => 1
  | .cancelled | .ended => 2

theorem stage_of_follows {a b : Status} (h : Follows a b) : stage a < stage b := by
  cases h <;> decide

theorem stages_increase {statuses : List Status} (h : Chained statuses) :
    (statuses.map stage).Pairwise (· < ·) := by
  have steps : (statuses.map stage).IsChain (· < ·) :=
    (List.isChain_map stage).2 ((isChain_of_chained h).imp fun _ _ => stage_of_follows)
  exact List.isChain_iff_pairwise.1 steps

theorem short_of_chained {statuses : List Status} (h : Chained statuses) :
    statuses.length ≤ 3 ∧ statuses.Nodup := by
  have increasing := stages_increase h
  have distinct : (statuses.map stage).Nodup := increasing.imp Nat.ne_of_lt
  have within : statuses.map stage ⊆ List.range 3 := by
    intro n member
    obtain ⟨a, -, rfl⟩ := List.mem_map.1 member
    cases a <;> decide
  have few : (statuses.map stage).length ≤ (List.range 3).length :=
    (List.subperm_of_subset distinct within).length_le
  exact ⟨by simpa using few, List.Nodup.of_map stage distinct⟩

section
variable {σ : Type} (kind : TokenKind) (count : StateM σ Int) (t : Timeline Status)
  (token : Option String) (s : σ)

/-- Judges a timeline and goes on with it. Asking for the count may leave a trace in a state. -/
def judged : Answer (Timeline Status) × σ :=
  (do judge kind (ExceptT.lift count) t token; pure t :
    ExceptT Failure (StateM σ) (Timeline Status)).run.run s

theorem judged_of_illegal {a b : Status} (h : firstIllegal? t.values = some (a, b)) :
    judged kind count t token s =
      (.error (.refused (Refusal.illegalTransition a b token)), s) := by
  unfold judged judge
  rw [h]
  rfl

theorem judged_of_sale (legal : firstIllegal? t.values = none)
    (ends : kind = .bulkPricing ∧ endsPromotion t.values = true) :
    judged kind count t token s =
      (if 0 < (count.run s).1
        then .error (.refused (Refusal.promotionActive token (count.run s).1)) else .ok t,
        (count.run s).2) := by
  have weighed (n : Int) (after : σ) :
      ((if 0 < n then throw (.refused (Refusal.promotionActive token n)) else pure () :
        ExceptT Failure (StateM σ) Unit) >>= fun _ => pure t).run.run after =
      (if 0 < n then .error (.refused (Refusal.promotionActive token n)) else .ok t, after) := by
    split <;> rfl
  unfold judged judge
  rw [legal]
  dsimp only
  rw [if_pos ends]
  exact weighed (count.run s).1 (count.run s).2

theorem judged_of_other (legal : firstIllegal? t.values = none)
    (other : ¬(kind = .bulkPricing ∧ endsPromotion t.values = true)) :
    judged kind count t token s = (.ok t, s) := by
  unfold judged judge
  rw [legal]
  dsimp only
  rw [if_neg other]
  rfl

/-- A timeline passes and goes on as it is just if all its steps are legal and it does not end the
promotion of a bulk token with bound domains. Otherwise the first step that is not legal is named,
whatever the count, and failing that the count. The count is asked for once where all steps are legal
and the last one ends a promotion, and nowhere else; a number that is given is a count that leaves no
trace. So what passes has at most three entries and no status twice. -/
theorem judged_decides :
    ((judged kind count t token s).1 = .ok t ↔
      Stepwise t.values ∧ ¬(EndsSale kind t.values ∧ 0 < (count.run s).1)) ∧
    (¬Stepwise t.values → ∃ front a b back, t.values = front ++ a :: b :: back ∧
      Stepwise (front ++ [a]) ∧ ¬Follows a b ∧ (judged kind count t token s).1 =
        .error (.refused (Refusal.illegalTransition a b token))) ∧
    (Stepwise t.values → EndsSale kind t.values → 0 < (count.run s).1 →
      (judged kind count t token s).1 =
        .error (.refused (Refusal.promotionActive token (count.run s).1))) ∧
    (Stepwise t.values ∧ EndsSale kind t.values →
      (judged kind count t token s).2 = (count.run s).2) ∧
    (¬(Stepwise t.values ∧ EndsSale kind t.values) → (judged kind count t token s).2 = s) ∧
    ∀ accepted, (judged kind count t token s).1 = .ok accepted →
      accepted = t ∧ accepted.entries.length ≤ 3 ∧ accepted.values.Nodup := by
  rw [← chained_iff_stepwise, EndsSale, ← endsPromotion_iff]
  have refused {fault : Failure} {accepted : Timeline Status} :
      (.error fault : Answer (Timeline Status)) ≠ .ok accepted := by
    intro same
    cases same
  cases illegal : firstIllegal? t.values with
  | some pair =>
    obtain ⟨a, b⟩ := pair
    have broken : ¬Chained t.values := by
      rw [← firstIllegal?_eq_none_iff, illegal]
      exact Option.some_ne_none _
    obtain ⟨front, back, split, before, step⟩ := first_of_firstIllegal? illegal
    rw [judged_of_illegal kind count t token s illegal]
    refine ⟨⟨fun h => absurd h refused, fun h => absurd h.1 broken⟩, fun _ => ?_,
      fun h => absurd h broken, fun h => absurd h.1 broken, fun _ => rfl,
      fun _ h => absurd h refused⟩
    exact ⟨front, a, b, back, split, chained_iff_stepwise.1 before, step, rfl⟩
  | none =>
    have chained : Chained t.values := (firstIllegal?_eq_none_iff _).1 illegal
    have short := short_of_chained chained
    rw [Timeline.values, List.length_map] at short
    by_cases ends : kind = .bulkPricing ∧ endsPromotion t.values = true
    · rw [judged_of_sale kind count t token s illegal ends]
      by_cases bound : 0 < (count.run s).1
      · rw [if_pos bound]
        exact ⟨⟨fun h => absurd h refused, fun h => absurd ⟨ends, bound⟩ h.2⟩,
          fun h => absurd chained h, fun _ _ _ => rfl, fun _ => rfl,
          fun h => absurd ⟨chained, ends⟩ h, fun _ h => absurd h refused⟩
      · rw [if_neg bound]
        refine ⟨⟨fun _ => ⟨chained, fun h => bound h.2⟩, fun _ => rfl⟩, fun h => absurd chained h,
          fun _ _ h => absurd h bound, fun _ => rfl, fun h => absurd ⟨chained, ends⟩ h, ?_⟩
        rintro _ ⟨⟩
        exact ⟨rfl, short⟩
    · rw [judged_of_other kind count t token s illegal ends]
      refine ⟨⟨fun _ => ⟨chained, fun h => ends h.1⟩, fun _ => rfl⟩, fun h => absurd chained h,
        fun _ h => absurd h ends, fun h => absurd h.2 ends, fun _ => rfl, ?_⟩
      rintro _ ⟨⟩
      exact ⟨rfl, short⟩

end

end RegistryTokens.Lifecycle
