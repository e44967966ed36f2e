import RegistryTokens.Proofs.Answer
import RegistryTokens.Token

/-!
# The rules of a token

The check of a token goes through its rules one after the other. What passes it obeys them all, what
obeys them all passes it, and a token that is refused is refused for the first rule that it breaks.
-/

set_option autoImplicit false

namespace RegistryTokens

namespace Answer

def verdict (broken : Option Bool) (r : Refusal) : Answer Unit :=
  match broken with
  | some false => .ok ()
  | some true => refuse r
  | none => .error (.broke .incomparable)

theorem guard_eq_verdict {β : Type} (p : Prop) [Decidable p] (r : Refusal)
    (next : Unit → Answer β) : (if p then refuse r >>= next else next ()) =
      verdict (some (decide p)) r >>= next := by
  by_cases hp : p <;> simp only [hp] <;> rfl

theorem last_eq_verdict (p : Prop) [Decidable p] (r : Refusal) :
    (if p then refuse r else pure ()) = verdict (some (decide p)) r := by
  by_cases hp : p <;> simp only [hp] <;> rfl

theorem verdict_eq_ok {broken : Option Bool} {r : Refusal} :
    verdict broken r = .ok () ↔ broken = some false := by
  rcases broken with _ | _ | _ <;> simp [verdict, refuse]

theorem verdict_eq_refused {broken : Option Bool} {r q : Refusal} :
    verdict broken r = .error (.refused q) ↔ broken = some true ∧ q = r := by
  rcases broken with _ | _ | _ <;> simp [verdict, refuse, eq_comm]

theorem foldlM_checks_eq_ok {α : Type} {check : α → Answer Unit} {items : List α} :
    items.foldlM (fun _ a => check a) () = .ok () ↔ ∀ a ∈ items, check a = .ok () := by
  induction items with
  | nil => simp [pure, Except.pure]
  | cons a rest ih =>
    rw [List.foldlM_cons, bind_eq_ok, List.forall_mem_cons, ← ih]
    exact ⟨fun ⟨_, passed⟩ => passed, fun passed => ⟨(), passed⟩⟩

end Answer

inductive Rule where
  | anchor
  | tie
  | premiums
  | years
  | renewal
  | registrars
  | bulkPremiums
  deriving DecidableEq, Repr

namespace Rule

def all : List Rule := [anchor, tie, premiums, years, renewal, registrars, bulkPremiums]

/-- Whether a token breaks a rule. Over what is no number the rules on discounts are undecided. -/
def broken? (t : Token) : Rule → Option Bool
  | anchor => some (t.registration = .anchorTenant ∧ t.isDomainScoped = false)
  | tie => some (t.isDomainScoped = true ∧ t.kind ≠ .singleUse)
  | premiums => t.fraction.nonpositive?.map (t.premiums && ·)
  | years => t.fraction.nonpositive?.map (decide (1 < t.years) && ·)
  | renewal => some (t.kind = .bulkPricing ∧ t.renewal ≠ .specified)
  | registrars => some (t.kind = .bulkPricing ∧ t.registrars.size ≠ 1)
  | bulkPremiums => some (t.kind = .bulkPricing ∧ t.premiums = true)

def refusal (token : String) : Rule → Refusal
  | anchor => Refusal.anchorTenant token
  | tie => Refusal.constraint "Domain name can only be specified for SINGLE_USE tokens" token
  | premiums => Refusal.constraint
      "Discount premiums can only be specified along with a discount fraction" token
  | years => Refusal.constraint
      "Discount years can only be specified along with a discount fraction" token
  | renewal => Refusal.constraint
      "Bulk tokens must have renewalPriceBehavior set to SPECIFIED" token
  | registrars => Refusal.constraint
      "Bulk tokens must have exactly one allowed client registrar" token
  | bulkPremiums => Refusal.constraint "Bulk tokens cannot discount premium names" token

theorem unnumbered_of_undecided {t : Token} {rule : Rule} (h : rule.broken? t = none) :
    t.fraction.nonpositive? = none := by
  cases rule <;> simp_all [broken?]

theorem token_refusal (token : String) (rule : Rule) :
    (rule.refusal token).token = some (.text token) := by
  cases rule <;> rfl

def judged (t : Token) (rule : Rule) : Answer Unit :=
  Answer.verdict (rule.broken? t) (rule.refusal t.identifier)

end Rule

namespace Token

open Answer

theorem check_eq_judged (t : Token) :
    t.check = Rule.all.foldlM (fun _ rule => rule.judged t) () := by
  have thrown {α : Type} (r : Refusal) : (throw (.refused r) : Answer α) = refuse r := rfl
  unfold check
  dsimp only
  simp only [thrown, guard_eq_verdict, last_eq_verdict, Rule.all, List.foldlM_cons,
    List.foldlM_nil, Rule.judged, Rule.broken?, Rule.refusal, bind_pure]
  congr 1
  funext _
  congr 1
  funext _
  cases t.fraction.nonpositive? with
  | none => rfl
  | some undiscounted =>
    simp only [Option.map_some, Bool.decide_eq_true]
    change (verdict _ _ >>= _) = _
    congr 1
    funext _
    congr 1
    funext _
    by_cases bulk : t.kind = .bulkPricing
    · simp only [bulk, if_true, true_and, Bool.decide_eq_true]
    · simp only [bulk, if_false, false_and]
      rfl

def FirstBroken (t : Token) (rule : Rule) : Prop :=
  ∃ before after, Rule.all = before ++ rule :: after ∧
    (∀ earlier ∈ before, earlier.broken? t = some false) ∧ rule.broken? t = some true

theorem check_eq_refused_iff {t : Token} {r : Refusal} : t.check = .error (.refused r) ↔
    ∃ rule, t.FirstBroken rule ∧ r = rule.refusal t.identifier := by
  rw [check_eq_judged, foldlM_eq_error_iff]
  constructor
  · rintro ⟨before, rule, after, _, order, passed, refused⟩
    obtain ⟨broken, rfl⟩ := verdict_eq_refused.1 refused
    have kept := foldlM_checks_eq_ok.1 passed
    exact ⟨rule, ⟨before, after, order, fun q hq => verdict_eq_ok.1 (kept q hq), broken⟩, rfl⟩
  · rintro ⟨rule, ⟨before, after, order, kept, broken⟩, rfl⟩
    refine ⟨before, rule, after, (), order, ?_, verdict_eq_refused.2 ⟨broken, rfl⟩⟩
    exact foldlM_checks_eq_ok.2 fun q hq => verdict_eq_ok.2 (kept q hq)

/-- Whether the rules on discounts hold; what is no number obeys none. -/
def DiscountRule (t : Token) : Prop :=
  ∃ undiscounted, t.fraction.nonpositive? = some undiscounted ∧
    ¬(t.premiums && undiscounted) ∧ ¬(decide (1 < t.years) && undiscounted)

/-- Whether the token promises what only a discount of more than nothing can give. -/
def NeedsDiscount (t : Token) : Prop := t.premiums = true ∨ 1 < t.years

theorem discountRule_iff {t : Token} : t.DiscountRule ↔
    t.fraction.nonpositive?.isSome = true ∧
      (t.NeedsDiscount → t.fraction.nonpositive? = some false) := by
  unfold DiscountRule NeedsDiscount
  cases t.fraction.nonpositive? with
  | none => simp
  | some undiscounted => cases undiscounted <;> simp

structure Lawful (t : Token) : Prop where
  anchored : ¬(t.registration = .anchorTenant ∧ t.isDomainScoped = false)
  tied : ¬(t.isDomainScoped = true ∧ t.kind ≠ .singleUse)
  discounted : t.DiscountRule
  bulk : t.kind = .bulkPricing → ¬t.renewal ≠ .specified ∧ ¬t.registrars.size ≠ 1 ∧ ¬t.premiums

theorem discountRule_iff_broken? {t : Token} : t.DiscountRule ↔
    Rule.premiums.broken? t = some false ∧ Rule.years.broken? t = some false := by
  unfold DiscountRule Rule.broken?
  cases t.fraction.nonpositive? <;> simp

theorem lawful_iff {t : Token} : t.Lawful ↔ ∀ rule ∈ Rule.all, rule.broken? t = some false := by
  have parts : t.Lawful ↔ ¬(t.registration = .anchorTenant ∧ t.isDomainScoped = false) ∧
      ¬(t.isDomainScoped = true ∧ t.kind ≠ .singleUse) ∧ t.DiscountRule ∧ (t.kind = .bulkPricing →
        ¬t.renewal ≠ .specified ∧ ¬t.registrars.size ≠ 1 ∧ ¬t.premiums) :=
    ⟨fun ⟨a, b, c, d⟩ => ⟨a, b, c, d⟩, fun ⟨a, b, c, d⟩ => ⟨a, b, c, d⟩⟩
  rw [parts, discountRule_iff_broken?]
  simp only [Rule.all, List.forall_mem_cons, Rule.broken?, Option.some.injEq, decide_eq_false_iff_not]
  by_cases bulk : t.kind = .bulkPricing <;> simp [bulk, and_assoc]

theorem check_eq_ok_iff (t : Token) : t.check = .ok () ↔ t.Lawful := by
  rw [check_eq_judged, foldlM_checks_eq_ok, lawful_iff]
  exact forall₂_congr fun rule _ => verdict_eq_ok

end Token

end RegistryTokens
