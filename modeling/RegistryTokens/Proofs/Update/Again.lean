import RegistryTokens.Proofs.Discount
import RegistryTokens.Proofs.Number.Exactness
import RegistryTokens.Proofs.Update.Breakdown

/-!
# The same update again

A token that was updated and is read back takes the same update again, and finds nothing to change.
The exception is a fraction of more places than its column holds: what is read back of it is another
number, so it is found to differ each time.
-/

set_option autoImplicit false

namespace RegistryTokens

open RegistryTokens.Number RegistryTokens.Store

/-- A fraction is asked for that has more places than its column holds. -/
def Updates.Overfine (u : Updates) : Prop :=
  ∃ v d, u.supplied? .fraction = some v ∧ Field.readFraction v = .ok d ∧
    ¬d.WithinPlaces Column.decimalPlaces

namespace Token

structure Seen (t : Token) (d : Delta) (seen : Token) : Prop where
  identifier : seen.identifier = t.identifier
  alike : seen.Alike d.after
  written : .fraction ∈ d.fields →
    seen.fraction = Column.readDecimal (Column.writeDecimal d.after.fraction)
  kept : .fraction ∉ d.fields → seen.fraction = t.fraction

theorem seen_of_still {count : Answer Int} {u : Updates} {t : Token} {d : Delta}
    (applied : t.applied count u = .ok d) (still : d.fields = []) : Seen t d t := by
  have identity := identity_of_applied applied
  refine ⟨rfl, ⟨(kind_of_identity identity).symm, (domain_of_identity identity).symm,
    fun f plain => content_of_applied applied plain ?_⟩, fun differs => ?_, fun _ => rfl⟩
  · rw [still]
    exact List.not_mem_nil
  · rw [still] at differs
    cases differs

theorem seen_of_update {row : TokenRow} {name : String} {count : Answer Int} {u : Updates}
    {t seen : Token} {d : Delta} {instant : Time.Instant} (before : row.toToken name = .ok t)
    (applied : t.applied count u = .ok d)
    (shown : (row.update d.after d.fields instant).toToken name = .ok seen) : Seen t d seen := by
  have cell := TokenRow.cell_update row d.after d.fields instant .fraction
  have read := (TokenRow.discount_of_toToken shown).1
  refine ⟨?_, TokenRow.alike_update before applied shown, fun differs => ?_, fun same => ?_⟩
  · rw [TokenRow.identifier_toToken shown, TokenRow.identifier_toToken before]
  · rw [if_pos differs] at cell
    exact read.trans (congrArg Column.readDecimal cell)
  · rw [if_neg same] at cell
    exact TokenRow.content_of_cell before shown cell

theorem diff_eq_singleton {a b : Token} {g : TokenField} (h : ∀ f, f ∈ a.diff b ↔ f = g) :
    a.diff b = [g] := by
  have only : a.diff b = TokenField.all.filter (· == g) := by
    refine List.filter_congr fun f _ => ?_
    rw [Bool.eq_iff_iff, Bool.not_eq_true', beq_iff_eq, ← h f, Token.mem_diff_iff]
  rw [only]
  cases g <;> rfl

def again (seen after : Token) : Token :=
  { after with created := seen.created, updated := seen.updated }

theorem content_again (seen after : Token) (f : TokenField) :
    (again seen after).content f = after.content f := by
  cases f <;> rfl

section
variable {count : Answer Int} {u : Updates} {t seen : Token} {d : Delta}

theorem Seen.updated (h : Seen t d seen) (fields : d.fields = t.diff d.after)
    (updated : Updated count u t d.after) : Updated count u seen (again seen d.after) := by
  have identifier : d.after.identifier = seen.identifier :=
    (identifier_of_identity updated.identity).trans h.identifier.symm
  have domain : seen.domain = t.domain := h.alike.domain.trans (domain_of_identity updated.identity)
  have kind : seen.kind = t.kind := h.alike.kind.trans (kind_of_identity updated.identity)
  constructor
  · simp only [identity, again, identifier, h.alike.kind, h.alike.domain]
  · intro f unsupplied
    rw [content_again]
    by_cases plain : f = .fraction
    · subst plain
      have kept : d.after.fraction = t.fraction := updated.kept .fraction unsupplied
      refine kept.trans (h.kept fun differs => ?_).symm
      obtain ⟨v, supplied⟩ := updated.supplied_of_differs (fields ▸ differs)
      cases unsupplied.symm.trans supplied
    · exact (h.alike.content f plain).symm
  · intro f v supplied
    rw [content_again, reading_congr h.identifier domain]
    exact updated.given f v supplied
  · intro v supplied
    rw [kind, h.identifier]
    exact updated.judged v supplied
  · exact updated.checked

theorem Seen.withinPlaces (h : Seen t d seen) (fields : d.fields = t.diff d.after)
    {q : Nat} (billionths : t.fraction = .finite false q (-9)) (same : .fraction ∉ d.fields) :
    seen.fraction.sameNumber d.after.fraction = true ∧
      d.after.fraction.WithinPlaces Column.decimalPlaces := by
  rw [h.kept same]
  rw [fields] at same
  have number : t.fraction.sameNumber d.after.fraction = true := agree_of_not_mem_diff same
  -- The old fraction came out of its column, so it has no more places than the column holds.
  refine ⟨number, q, ?_⟩
  rw [billionths] at number
  exact number

theorem Seen.fraction_differs_iff (h : Seen t d seen) (fields : d.fields = t.diff d.after)
    (updated : Updated count u t d.after) {q : Nat} (billionths : t.fraction = .finite false q (-9)) :
    seen.fraction.sameNumber d.after.fraction = false ↔ u.Overfine := by
  rw [← Bool.not_eq_true]
  cases supplied : u.supplied? .fraction with
  | none =>
    have same : .fraction ∉ d.fields := by
      intro differs
      obtain ⟨v, given⟩ := updated.supplied_of_differs (fields ▸ differs)
      cases supplied.symm.trans given
    refine iff_of_false (fun apart => apart (h.withinPlaces fields billionths same).1) ?_
    rintro ⟨_, _, given, -⟩
    cases supplied.symm.trans given
  | some v =>
    have read : Field.readFraction v = .ok d.after.fraction := updated.given .fraction v supplied
    have asked : u.Overfine ↔ ¬d.after.fraction.WithinPlaces Column.decimalPlaces := by
      constructor
      · rintro ⟨_, _, given, readAgain, fine⟩
        cases supplied.symm.trans given
        cases read.symm.trans readAgain
        exact fine
      · exact fun fine => ⟨v, _, supplied, read, fine⟩
    rw [asked]
    apply not_congr
    by_cases differs : .fraction ∈ d.fields
    · rw [h.written differs]
      exact Column.sameNumber_readDecimal_iff (Field.isFraction_of_readFraction read)
    · obtain ⟨same, within⟩ := h.withinPlaces fields billionths differs
      exact iff_of_true same within

theorem Seen.mem_diff_iff (h : Seen t d seen) (fields : d.fields = t.diff d.after)
    (updated : Updated count u t d.after) {q : Nat} (billionths : t.fraction = .finite false q (-9))
    (f : TokenField) : f ∈ seen.diff (again seen d.after) ↔ f = .fraction ∧ u.Overfine := by
  rw [Token.mem_diff_iff]
  by_cases plain : f = .fraction
  · subst plain
    exact (h.fraction_differs_iff fields updated billionths).trans (and_iff_right rfl).symm
  · refine iff_of_false (fun apart => ?_) fun h => plain h.1
    have same : seen.agree (again seen d.after) f = true := agree_of_content
      ((content_again seen d.after f).trans (h.alike.content f plain).symm)
      (isNaN_of_check updated.checked)
    rw [same] at apart
    cases apart

theorem Seen.isSignal (h : Seen t d seen) (fields : d.fields = t.diff d.after)
    (updated : Updated count u t d.after) {q : Nat} (billionths : t.fraction = .finite false q (-9)) :
    seen.fraction.isSignal = false := by
  by_cases differs : .fraction ∈ d.fields
  · obtain ⟨v, supplied⟩ := updated.supplied_of_differs (fields ▸ differs)
    have read : Field.readFraction v = .ok d.after.fraction := updated.given .fraction v supplied
    obtain ⟨_, -, shown, -⟩ :=
      Column.readDecimal_writeDecimal (Field.isFraction_of_readFraction read)
    rw [h.written differs, shown]
    rfl
  · rw [h.kept differs, billionths]
    rfl

/-- The same update of the token that is seen changes nothing, or the fraction over and over. -/
theorem Seen.applied_again (h : Seen t d seen) (applied : t.applied count u = .ok d) {q : Nat}
    (billionths : t.fraction = .finite false q (-9)) : ∃ e, seen.applied count u = .ok e ∧
      (¬u.Overfine ∧ e.fields = [] ∨ u.Overfine ∧ e.fields = [.fraction] ∧
        .fraction ∈ d.fields ∧ e.after.fraction = d.after.fraction) := by
  cases hu : u.isEmpty with
  | true =>
    refine ⟨Delta.still seen, applied_of_isEmpty _ _ hu, .inl ⟨?_, rfl⟩⟩
    rintro ⟨v, _, supplied, -⟩
    rw [Updates.isEmpty_eq_false_of_supplied supplied] at hu
    cases hu
  | false =>
    rcases ok_of_applied applied with ⟨-, none⟩ | ⟨-, fields, updated⟩
    · rw [hu] at none
      cases none
    refine ⟨_, applied_of_updated hu (h.updated fields updated)
      (h.isSignal fields updated billionths), ?_⟩
    have differing := h.mem_diff_iff fields updated billionths
    by_cases fine : u.Overfine
    · refine .inr ⟨fine, diff_eq_singleton fun f => ?_, ?_, rfl⟩
      · exact (differing f).trans (and_iff_left fine)
      · by_cases differs : .fraction ∈ d.fields
        · exact differs
        · have apart := (h.fraction_differs_iff fields updated billionths).2 fine
          rw [(h.withinPlaces fields billionths differs).1] at apart
          cases apart
    · exact .inl ⟨fine, List.eq_nil_iff_forall_not_mem.2 fun f within =>
        fine ((differing f).1 within).2⟩

end

end Token

end RegistryTokens
