import RegistryTokens.Proofs.Update.Report

/-!
# Updates one after the other

Two updates in a row make what one makes that supplies the values of both, the later ones where
both supply some. What a field takes a value for hangs on nothing that an update changes, and the
rules are passed by the last token in any case; that the token in between passed them is not needed.
-/

set_option autoImplicit false

namespace RegistryTokens

open RegistryTokens.Number

namespace Updates

/-- The values of the second update, and those of the first for the other fields. -/
def overlay (u v : Updates) : Updates :=
  ⟨fun f => if (v.supplied? f).isSome then v.given f else u.given f⟩

def Disjoint (u v : Updates) : Prop := ∀ f, u.supplied? f = none ∨ v.supplied? f = none

theorem supplied?_overlay (u v : Updates) (f : TokenField) :
    (u.overlay v).supplied? f = (v.supplied? f).or (u.supplied? f) := by
  by_cases later : (v.supplied? f).isSome = true
  · have given : (u.overlay v).given f = v.given f := if_pos later
    have same : (u.overlay v).supplied? f = v.supplied? f := by simp only [supplied?, given]
    rw [same, Option.or_of_isSome later]
  · have given : (u.overlay v).given f = u.given f := if_neg later
    have same : (u.overlay v).supplied? f = u.supplied? f := by simp only [supplied?, given]
    rw [same, Option.not_isSome_iff_eq_none.1 later, Option.none_or]

theorem Disjoint.supplied?_overlay_comm {u v : Updates} (h : u.Disjoint v) (f : TokenField) :
    (u.overlay v).supplied? f = (v.overlay u).supplied? f := by
  rw [supplied?_overlay, supplied?_overlay]
  rcases h f with none | none <;> simp [none]

end Updates

namespace Token

variable {count : Answer Int} {u v : Updates} {t between after : Token}

theorem Made.overlay (first : Made count u t between) (second : Made count v between after) :
    Made count (u.overlay v) t after := by
  constructor
  · exact second.identity.trans first.identity
  · intro f none
    rw [Updates.supplied?_overlay, Option.or_eq_none_iff] at none
    rw [second.kept f none.1, first.kept f none.2]
  · intro f w supplied
    rw [Updates.supplied?_overlay, Option.or_eq_some_iff] at supplied
    rcases supplied with later | ⟨none, earlier⟩
    · rw [← second.taken f w later, taking_of_identity first.identity]
    · rw [second.kept f none, first.taken f w earlier]

theorem Made.again (made : Made count u t after) : Made count u after after := by
  refine ⟨rfl, fun _ _ => rfl, fun f v supplied => ?_⟩
  rw [taking_of_identity made.identity, made.taken f v supplied]

theorem Made.congr (made : Made count u t after) (same : ∀ f, u.supplied? f = v.supplied? f) :
    Made count v t after := by
  constructor
  · exact made.identity
  · simpa only [same] using made.kept
  · simpa only [same] using made.taken

theorem Made.exists_applied (made : Made count u t after)
    (checked : (∃ f v, u.supplied? f = some v) → after.check = .ok ())
    (comparable : (∃ f v, u.supplied? f = some v) → t.fraction.isSignal = false) :
    ∃ d, t.applied count u = .ok d ∧ d.after = after := by
  cases none : u.isEmpty with
  | true => exact ⟨_, applied_of_isEmpty count t none, (made.still none).symm⟩
  | false =>
    have given := Updates.isEmpty_eq_false_iff.1 none
    have updated := updated_iff_made.2 ⟨made, checked given⟩
    exact ⟨_, applied_of_updated none updated (comparable given), rfl⟩

variable {d e : Delta}

theorem applied_overlay (first : t.applied count u = .ok d)
    (second : d.after.applied count v = .ok e) :
    ∃ x, t.applied count (u.overlay v) = .ok x ∧ x.after = e.after := by
  have one := applied_eq_ok_iff.1 first
  have two := applied_eq_ok_iff.1 second
  by_cases later : ∃ f w, v.supplied? f = some w
  · apply (one.made.overlay two.made).exists_applied fun _ => two.checked later
    intro _
    by_cases earlier : ∃ f w, u.supplied? f = some w
    · exact one.comparable earlier
    · rw [← one.made.still (Updates.isEmpty_iff.2 earlier)]
      exact two.comparable later
  · have supplies : (∃ f w, (u.overlay v).supplied? f = some w) →
        ∃ f w, u.supplied? f = some w := by
      rintro ⟨f, w, supplied⟩
      rw [Updates.supplied?_overlay, Option.or_eq_some_iff] at supplied
      exact supplied.elim (fun given => absurd ⟨f, w, given⟩ later) fun given => ⟨f, w, given.2⟩
    apply (one.made.overlay two.made).exists_applied
    · intro given
      rw [two.made.still (Updates.isEmpty_iff.2 later)]
      exact one.checked (supplies given)
    · exact fun given => one.comparable (supplies given)

theorem applied_again (first : t.applied count u = .ok d) :
    ∃ x, d.after.applied count u = .ok x ∧ x.after = d.after ∧ x.fields = [] := by
  have one := applied_eq_ok_iff.1 first
  obtain ⟨x, applied, same⟩ := one.made.again.exists_applied one.checked fun given =>
    isSignal_of_check (one.checked given)
  refine ⟨x, applied, same, List.eq_nil_iff_forall_not_mem.2 fun f differs => ?_⟩
  have apart := ((applied_eq_ok_iff.1 applied).truthful f).1 differs
  rw [same] at apart
  exact apart.1 rfl

/-- Updates that succeed one after the other are one update, and the same update again changes
nothing. Two that supply different fields and succeed in both orders come to the same. -/
theorem applied_composes (first : t.applied count u = .ok d)
    (second : d.after.applied count v = .ok e) :
    (∃ x, t.applied count (u.overlay v) = .ok x ∧ x.after = e.after) ∧
    (∃ x, d.after.applied count u = .ok x ∧ x.after = d.after ∧ x.fields = []) ∧
    (u.Disjoint v → ∀ d' e', t.applied count v = .ok d' → d'.after.applied count u = .ok e' →
      e'.after = e.after) := by
  refine ⟨applied_overlay first second, applied_again first, fun disjoint d' e' front back => ?_⟩
  have made {p q : Updates} {d e : Delta} (h : t.applied count p = .ok d)
      (k : d.after.applied count q = .ok e) : Made count (p.overlay q) t e.after :=
    (applied_eq_ok_iff.1 h).made.overlay (applied_eq_ok_iff.1 k).made
  exact ((made front back).congr fun f => (disjoint.supplied?_overlay_comm f).symm).unique
    (made first second)

def quarterOff : Token :=
  { identifier := "T1", kind := .singleUse, transitions := .constant .notStarted,
    fraction := .finite false 25 (-2) }

def halfOff : Updates := Updates.empty.give .fraction (.assigned (.text "0.5"))

def withPremiums : Updates := Updates.empty.give .premiums (.assigned (.text "true"))

def inTurn (t : Token) (u v : Updates) : Option (Delta × Delta) := do
  let d ← (t.applied (.ok 0) u).toOption
  let e ← (d.after.applied (.ok 0) v).toOption
  pure (d, e)

theorem of_inTurn (h : inTurn t u v = some (d, e)) :
    t.applied (.ok 0) u = .ok d ∧ d.after.applied (.ok 0) v = .ok e := by
  obtain ⟨d, first, h⟩ := Option.bind_eq_some_iff.1 h
  obtain ⟨e, second, h⟩ := Option.bind_eq_some_iff.1 h
  cases h
  exact ⟨Answer.eq_ok_of_toOption first, Answer.eq_ok_of_toOption second⟩

theorem composes_of_halfOff : ∃ d e d' e',
    inTurn quarterOff halfOff withPremiums = some (d, e) ∧
    inTurn quarterOff withPremiums halfOff = some (d', e') ∧
    d.fields = [.fraction] ∧ e.fields = [.premiums] ∧ e'.after = e.after ∧
    ∃ x, quarterOff.applied (.ok 0) (halfOff.overlay withPremiums) = .ok x ∧ x.after = e.after := by
  have returns : (inTurn quarterOff halfOff withPremiums).map (fun p => (p.1.fields, p.2.fields)) =
      some ([.fraction], [.premiums]) := by decide +kernel
  have returnsToo : (inTurn quarterOff withPremiums halfOff).isSome = true := by decide +kernel
  obtain ⟨⟨d, e⟩, turn, fields⟩ := Option.map_eq_some_iff.1 returns
  obtain ⟨⟨d', e'⟩, turnToo⟩ := Option.isSome_iff_exists.1 returnsToo
  have disjoint : halfOff.Disjoint withPremiums := fun f => by cases f <;> decide
  obtain ⟨merged, -, either⟩ := applied_composes (of_inTurn turn).1 (of_inTurn turn).2
  obtain ⟨one, two⟩ := Prod.mk.inj fields
  exact ⟨d, e, d', e', turn, turnToo, one, two,
    either disjoint d' e' (of_inTurn turnToo).1 (of_inTurn turnToo).2, merged⟩

end Token

end RegistryTokens
