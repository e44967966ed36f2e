import RegistryTokens.Proofs.Lifecycle
import RegistryTokens.Proofs.Number.Places
import RegistryTokens.Proofs.Store.Row

/-!
# Stored discounts

A discount is judged as it is given and read back with nine places. Every stored fraction is that of
a token that passed, and what is read back of it is a fraction. It obeys the rules on discounts too
unless it vanishes on the way, where a discount is needed.
-/

set_option autoImplicit false

namespace RegistryTokens

open RegistryTokens.Number RegistryTokens.Time RegistryTokens.Store

namespace Number.Decimal

theorem nonpositive?_of_not_vanishes {d : Decimal} (h : d.isFraction = true)
    (seen : ¬d.Vanishes) : d.nonpositive? = some false := by
  cases d with
  | nan => cases h
  | infinite => cases h
  | finite negative c e =>
    have some : c ≠ 0 := by
      rintro rfl
      apply seen
      rw [Vanishes, Nat.zero_mul, Nat.zero_mul]
      exact Nat.zero_le _
    obtain ⟨sign, -⟩ := isFraction_finite_iff.1 h
    obtain rfl : negative = false := sign.resolve_left some
    rw [nonpositive?_finite]
    simp [some]

theorem nonpositive?_readDecimal {d : Decimal} (h : d.isFraction = true) :
    (Column.readDecimal (Column.writeDecimal d)).isFraction = true ∧
      ∃ undiscounted, (Column.readDecimal (Column.writeDecimal d)).nonpositive? =
        some undiscounted ∧ (undiscounted = true ↔ d.Vanishes) := by
  obtain ⟨q, within, shown, vanishes⟩ := Column.readDecimal_writeDecimal h
  rw [shown, nonpositive?_finite, isFraction_finite_iff]
  refine ⟨⟨.inr rfl, by simpa using within⟩, _, rfl, ?_⟩
  rw [Bool.false_or, beq_iff_eq]
  exact vanishes

end Number.Decimal

theorem Store.TokenRow.discount_of_toToken {row : TokenRow} {identifier : String} {t : Token}
    (h : row.toToken identifier = .ok t) : t.fraction = Column.readDecimal row.fraction ∧
      t.premiums = row.premiums ∧ t.years = row.years := by
  obtain ⟨actions, -, h⟩ := Answer.bind_eq_ok.1 h
  obtain ⟨transitions, -, h⟩ := Answer.bind_eq_ok.1 h
  cases h
  exact ⟨rfl, rfl, rfl⟩

/-- A row holds the fraction that a token with its other columns could have. -/
structure Discounted (row : TokenRow) (d : Decimal) : Prop where
  written : row.fraction = Column.writeDecimal d
  fraction : d.isFraction = true
  positive : row.premiums = true ∨ 1 < row.years → d.nonpositive? = some false

theorem discounted_of_created {identifier : String} {kind : Value} {given : Keyed String Value}
    {t : Token} (h : Token.Created identifier kind given t) (cell : Option String)
    (instant : Instant) : Discounted (TokenRow.ofToken { t with domain := cell } instant)
      t.fraction := by
  have rule := ((Token.check_eq_ok_iff t).1 h.checked).discounted
  refine ⟨rfl, ?_, (Token.discountRule_iff.1 rule).2⟩
  have read := h.fraction
  unfold Token.orDefault at read
  split at read
  · exact Field.isFraction_of_readFraction read
  · rw [← Except.ok.inj read]
    rfl

theorem positive_of_updated {row : TokenRow} {name : String} {t after : Token}
    {count : Answer Int} {u : Updates} (shown : row.toToken name = .ok t)
    (updated : Token.Updated count u t after) (instant : Instant)
    (needs : (row.update after (t.diff after) instant).premiums = true ∨
      1 < (row.update after (t.diff after) instant).years) :
    after.fraction.nonpositive? = some false := by
  obtain ⟨-, premiums, years⟩ := TokenRow.discount_of_toToken shown
  have premiums : (row.update after (t.diff after) instant).premiums = after.premiums :=
    Token.cell_update_diff (f := .premiums) nofun premiums.symm instant
  have years : (row.update after (t.diff after) instant).years = after.years :=
    Token.cell_update_diff (f := .years) nofun years.symm instant
  rw [premiums, years] at needs
  have rule := ((Token.check_eq_ok_iff after).1 updated.checked).discounted
  exact (Token.discountRule_iff.1 rule).2 needs

theorem discounted_of_given {row : TokenRow} {name : String} {t after : Token}
    {count : Answer Int} {u : Updates} (shown : row.toToken name = .ok t)
    (updated : Token.Updated count u t after) (differs : .fraction ∈ t.diff after)
    (instant : Instant) : Discounted (row.update after (t.diff after) instant) after.fraction := by
  obtain ⟨v, supplied⟩ := updated.supplied_of_differs differs
  have written := TokenRow.cell_update row after (t.diff after) instant .fraction
  rw [if_pos differs] at written
  exact ⟨written, Field.isFraction_of_readFraction (updated.given _ v supplied),
    positive_of_updated shown updated instant⟩

/-- An update that leaves the fraction alone has seen it as its column shows it. Where a discount is
needed, that was more than nothing, and so was the fraction as it was given. -/
theorem discounted_of_kept {row : TokenRow} {fraction : Decimal} (before : Discounted row fraction)
    {name : String} {t after : Token} {count : Answer Int} {u : Updates}
    (shown : row.toToken name = .ok t) (updated : Token.Updated count u t after)
    (same : .fraction ∉ t.diff after) (instant : Instant) :
    Discounted (row.update after (t.diff after) instant) fraction := by
  have written := TokenRow.cell_update row after (t.diff after) instant .fraction
  rw [if_neg same] at written
  refine ⟨written.trans before.written, before.fraction, fun needs => ?_⟩
  have positive := positive_of_updated shown updated instant needs
  have agree : t.fraction.sameNumber after.fraction = true := Token.agree_of_not_mem_diff same
  rw [← Decimal.nonpositive?_of_sameNumber agree, (TokenRow.discount_of_toToken shown).1,
    before.written] at positive
  obtain ⟨-, undiscounted, number, vanishes⟩ := Decimal.nonpositive?_readDecimal before.fraction
  apply Decimal.nonpositive?_of_not_vanishes before.fraction
  intro vanished
  rw [number, vanishes.2 vanished] at positive
  cases positive

theorem discounted_tracks : Tracks .fraction fun fraction row => Discounted row fraction := by
  constructor
  · intro name kind given c new row stored
    obtain ⟨cell, _, instant, -, -, -, -, rfl⟩ := stored.stored
    exact discounted_of_created stored.made cell instant
  · intro name row t updates count d instant shown applied changed
    rcases Token.ok_of_applied applied with ⟨rfl, -⟩ | ⟨-, fields, updated⟩
    · cases changed
    · rw [fields] at changed ⊢
      exact discounted_of_given shown updated changed instant
  · intro name fraction row t updates count d instant before shown applied same
    rcases Token.ok_of_applied applied with ⟨rfl, -⟩ | ⟨-, fields, updated⟩
    · exact ⟨before.written, before.fraction, before.positive⟩
    · rw [fields] at same ⊢
      exact discounted_of_kept before shown updated same instant

theorem Reachable.isFraction {s : Store} (h : Reachable s) {name : String} {row : TokenRow}
    {t : Token} (stored : s.tokens.get? name = some row) (shown : row.toToken name = .ok t) :
    t.fraction.isFraction = true := by
  obtain ⟨d, given⟩ := h.exists_lastGiven stored .fraction
  have discounted := given.holds discounted_tracks stored
  rw [(TokenRow.discount_of_toToken shown).1, discounted.written]
  exact (Decimal.nonpositive?_readDecimal discounted.fraction).1

theorem Reachable.exists_billionths {s : Store} (h : Reachable s) {name : String} {row : TokenRow}
    {t : Token} (stored : s.tokens.get? name = some row) (shown : row.toToken name = .ok t) :
    ∃ q : Nat, t.fraction = .finite false q (-9) := by
  obtain ⟨d, given⟩ := h.exists_lastGiven stored .fraction
  have discounted := given.holds discounted_tracks stored
  obtain ⟨q, -, read, -⟩ := Column.readDecimal_writeDecimal discounted.fraction
  refine ⟨q, ?_⟩
  rw [(TokenRow.discount_of_toToken shown).1, discounted.written]
  exact read

theorem Token.applied_ne_ok_of_not_discountRule {t : Token} {u : Updates} (count : Answer Int)
    (broken : ¬t.DiscountRule) (supplied : u.isEmpty = false)
    (apart : ∀ f ∈ [TokenField.fraction, .premiums, .years], u.supplied? f = none) (d : Delta) :
    t.applied count u ≠ .ok d := by
  intro applied
  rcases Token.ok_of_applied applied with ⟨-, none⟩ | ⟨-, -, updated⟩
  · rw [supplied] at none
    cases none
  · have rule := ((Token.check_eq_ok_iff d.after).1 updated.checked).discounted
    have fraction : d.after.fraction = t.fraction := updated.kept .fraction (apart _ (by simp))
    have premiums : d.after.premiums = t.premiums := updated.kept .premiums (apart _ (by simp))
    have years : d.after.years = t.years := updated.kept .years (apart _ (by simp))
    unfold Token.DiscountRule at rule
    rw [fraction, premiums, years] at rule
    exact broken rule

/-- What a token that is read back shows of the fraction that it was last given: it obeys the rules
on discounts unless it needs one and that fraction vanishes. -/
structure Token.Shows (t : Token) (given : Decimal) : Prop where
  fraction : t.fraction = Column.readDecimal (Column.writeDecimal given)
  ranged : given.isFraction = true
  passed : { t with fraction := given }.DiscountRule
  rule : t.DiscountRule ↔ ¬(t.NeedsDiscount ∧ given.Vanishes)

theorem Discounted.shows {row : TokenRow} {given : Decimal} (h : Discounted row given)
    {name : String} {t : Token} (shown : row.toToken name = .ok t) : t.Shows given := by
  obtain ⟨cell, premiums, years⟩ := TokenRow.discount_of_toToken shown
  have fraction : t.fraction = Column.readDecimal (Column.writeDecimal given) :=
    cell.trans (congrArg _ h.written)
  have positive := h.positive
  rw [← premiums, ← years] at positive
  refine ⟨fraction, h.fraction,
    Token.discountRule_iff.2 ⟨Decimal.isSome_nonpositive? h.fraction, positive⟩, ?_⟩
  obtain ⟨-, undiscounted, number, vanishes⟩ := Decimal.nonpositive?_readDecimal h.fraction
  rw [Token.discountRule_iff, fraction, number, ← vanishes]
  cases undiscounted <;> simp

/-- A token that is read back from a reachable store has a fraction, that of the last creation or
update that gave it one, as the column keeps it. Where it does not obey the rules on discounts, it
takes no update that is not about them. -/
theorem Reachable.discount {s : Store} (h : Reachable s) {name : String}
    (stored : name ∈ s.tokens.keys) : ∃ t, s.token? name = .ok (some t) ∧
      t.fraction.isFraction = true ∧ (∃ d, LastGiven name .fraction s d) ∧
      (∀ d, LastGiven name .fraction s d → t.Shows d) ∧
      (¬t.DiscountRule → ∀ count u d, u.isEmpty = false →
        (∀ f ∈ [TokenField.fraction, .premiums, .years], u.supplied? f = none) →
        t.applied count u ≠ .ok d) := by
  obtain ⟨row, found⟩ := Table.mem_keys_iff.1 stored
  obtain ⟨t, shown, -⟩ := h.toToken found
  refine ⟨t, Store.token?_eq_ok found shown, h.isFraction found shown,
    h.exists_lastGiven found .fraction, fun d given => ?_, fun broken count u d supplied apart => ?_⟩
  · exact (given.holds discounted_tracks found).shows shown
  · exact Token.applied_ne_ok_of_not_discountRule count broken supplied apart d

def discountedToken (fraction : Decimal) : Keyed String Value :=
  [("discount_fraction", .decimal fraction), ("discount_premiums", .bool true)]

def discountedWorld (fraction : Decimal) : World :=
  ((Job.createToken "T1" (.text "SINGLE_USE") (discountedToken fraction)).run freshWorld).2

def discounting (fraction : Decimal) : Batch.Request :=
  ⟨⟨some ["T1"], none⟩, Updates.empty.give .fraction (.assigned (.decimal fraction)), false⟩

def shownDiscount (s : Store) : List String × Option (Bool × Option Bool) :=
  (s.tokens.keys, (s.token? "T1").toOption.join.map fun t => (t.premiums, t.fraction.nonpositive?))

theorem of_shownDiscount {s : Store} {undiscounted : Bool}
    (h : shownDiscount s = (["T1"], some (true, some undiscounted))) :
    "T1" ∈ s.tokens.keys ∧ ∃ t, s.token? "T1" = .ok (some t) ∧ t.NeedsDiscount ∧
      (t.DiscountRule ↔ undiscounted = false) := by
  obtain ⟨keys, shows⟩ := Prod.mk.inj h
  obtain ⟨t, read, same⟩ := Store.exists_of_shown shows
  obtain ⟨premiums, number⟩ := Prod.mk.inj same
  have needs : t.NeedsDiscount := .inl premiums
  refine ⟨?_, t, read, needs, ?_⟩
  · rw [keys]
    exact List.mem_singleton_self _
  · rw [Token.discountRule_iff, number]
    simp [needs]

theorem given_of_discountedWorld {fraction : Decimal} {s : Store}
    (answered : ((Job.createToken "T1" (.text "SINGLE_USE") (discountedToken fraction)).run
      freshWorld).1.toOption.map (·.token.fraction) = some fraction)
    (left : (discountedWorld fraction).store = some s) :
    Reachable s ∧ LastGiven "T1" .fraction s fraction := by
  obtain ⟨new, made, same⟩ := Option.map_eq_some_iff.1 answered
  have made := Answer.eq_ok_of_toOption made
  rw [discountedWorld, ← Call.store_createToken] at left
  have given : LastGiven "T1" .fraction s (new.token.content .fraction) :=
    .given .empty (rfl : freshWorld.store = some .empty) left (.created made)
  have content : new.token.content .fraction = fraction := same
  rw [content] at given
  exact ⟨.of_leads (.call .refl rfl left), given⟩

theorem given_of_discounting {w : World} {before s : Store} {fraction : Decimal}
    (reachable : Reachable before) (there : w.store = some before)
    (answered : ((Batch.runWithin (discounting fraction)).run w).1.toOption.map (·.map fun d =>
      (d.before.identifier, d.fields, d.after.fraction)) = some [("T1", [.fraction], fraction)])
    (left : (((Call.update (discounting fraction)).job).run w).2.store = some s) :
    Reachable s ∧ LastGiven "T1" .fraction s fraction := by
  obtain ⟨deltas, ran, same⟩ := Option.map_eq_some_iff.1 answered
  obtain ⟨d, rest, rfl, facts, -⟩ := List.map_eq_cons_iff.1 same
  obtain ⟨named, facts⟩ := Prod.mk.inj facts
  obtain ⟨fields, content⟩ := Prod.mk.inj facts
  have changed : .fraction ∈ d.fields := by
    rw [fields]
    exact List.mem_singleton_self _
  have given : LastGiven "T1" .fraction s (d.after.content .fraction) :=
    .given reachable there left
      (.updated rfl (Answer.eq_ok_of_toOption ran) List.mem_cons_self named changed)
  have content : d.after.content .fraction = fraction := content
  rw [content] at given
  exact ⟨.of_leads (reachable.leads.trans (.call .refl there left)), given⟩

theorem exists_lost : ∃ s, Reachable s ∧ "T1" ∈ s.tokens.keys ∧
    LastGiven "T1" .fraction s (.finite false 1 (-10)) ∧
    ∃ t, s.token? "T1" = .ok (some t) ∧ t.NeedsDiscount ∧ ¬t.DiscountRule := by
  have least : ((Job.createToken "T1" (.text "SINGLE_USE")
      (discountedToken (.finite false 1 (-10)))).run freshWorld).1.toOption.map
        (·.token.fraction) = some (.finite false 1 (-10)) := by decide +kernel
  have lost : (discountedWorld (.finite false 1 (-10))).store.map shownDiscount =
      some (["T1"], some (true, some true)) := by decide +kernel
  obtain ⟨s, left, shown⟩ := Option.map_eq_some_iff.1 lost
  obtain ⟨keys, t, read, needs, rule⟩ := of_shownDiscount shown
  obtain ⟨reachable, given⟩ := given_of_discountedWorld least left
  refine ⟨s, reachable, keys, given, t, read, needs, ?_⟩
  rw [rule]
  nofun

theorem discount_of_quarter :
    (∃ s t, Reachable s ∧ "T1" ∈ s.tokens.keys ∧ s.token? "T1" = .ok (some t) ∧
      LastGiven "T1" .fraction s (.finite false 25 (-2)) ∧ t.Shows (.finite false 25 (-2)) ∧
      t.NeedsDiscount ∧ t.DiscountRule) ∧
    ∃ s t, Reachable s ∧ "T1" ∈ s.tokens.keys ∧ s.token? "T1" = .ok (some t) ∧
      LastGiven "T1" .fraction s (.finite false 1 (-10)) ∧ t.Shows (.finite false 1 (-10)) ∧
      t.NeedsDiscount ∧ ¬t.DiscountRule ∧
      ∀ count d, t.applied count (Updates.empty.give .tlds (.assigned (.text "dev"))) ≠ .ok d := by
  have half : ((Job.createToken "T1" (.text "SINGLE_USE")
      (discountedToken (.finite false 5 (-1)))).run freshWorld).1.toOption.map
        (·.token.fraction) = some (.finite false 5 (-1)) := by decide +kernel
  have stored : (discountedWorld (.finite false 5 (-1))).store.isSome = true := by decide +kernel
  have quarter : ((Batch.runWithin (discounting (.finite false 25 (-2)))).run
      (discountedWorld (.finite false 5 (-1)))).1.toOption.map (·.map fun d =>
        (d.before.identifier, d.fields, d.after.fraction)) =
          some [("T1", [.fraction], .finite false 25 (-2))] := by decide +kernel
  have discounted : ((Call.update (discounting (.finite false 25 (-2)))).job.run
      (discountedWorld (.finite false 5 (-1)))).2.store.map shownDiscount =
        some (["T1"], some (true, some false)) := by decide +kernel
  constructor
  · obtain ⟨before, there⟩ := Option.isSome_iff_exists.1 stored
    obtain ⟨s, left, shown⟩ := Option.map_eq_some_iff.1 discounted
    obtain ⟨keys, t, read, needs, rule⟩ := of_shownDiscount shown
    obtain ⟨earlier, -⟩ := given_of_discountedWorld half there
    obtain ⟨reachable, given⟩ := given_of_discounting earlier there quarter left
    obtain ⟨t', read', -, -, shows, -⟩ := reachable.discount keys
    cases read.symm.trans read'
    exact ⟨s, t, reachable, keys, read, given, shows _ given, needs, rule.2 rfl⟩
  · obtain ⟨s, reachable, keys, given, t, read, needs, broken⟩ := exists_lost
    obtain ⟨t', read', -, -, shows, refused⟩ := reachable.discount keys
    cases read.symm.trans read'
    exact ⟨s, t, reachable, keys, read, given, shows _ given, needs, broken,
      fun count d => refused broken count _ d rfl (by decide)⟩

/-- A tenth of a billionth is a discount when it is given and none when it is read back. -/
theorem discount_lost : ∃ s t, Reachable s ∧ s.token? "T1" = .ok (some t) ∧ ¬t.DiscountRule := by
  obtain ⟨s, reachable, -, -, t, read, -, broken⟩ := exists_lost
  exact ⟨s, t, reachable, read, broken⟩

end RegistryTokens
