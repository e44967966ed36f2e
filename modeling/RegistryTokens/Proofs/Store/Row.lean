import RegistryTokens.Proofs.Store.Column
import RegistryTokens.Proofs.Update.Apply

/-!
# What a row shows

A row shows what was written into it: the kind and the domain of a token, and of each field what was
put there last. Only a fraction is read back with fewer places than it may have been given with, and
the times are those of the store.
-/

set_option autoImplicit false

namespace RegistryTokens

open RegistryTokens.Time RegistryTokens.Store

namespace Token

/-- Whether two tokens are alike in all that a row keeps as it is. -/
structure Alike (a b : Token) : Prop where
  kind : a.kind = b.kind
  domain : a.domain = b.domain
  content : ∀ f, f ≠ .fraction → a.content f = b.content f

theorem agree_of_not_mem_diff {t after : Token} {f : TokenField} (same : f ∉ t.diff after) :
    t.agree after f = true := by
  by_cases agreed : t.agree after f = true
  · exact agreed
  · exact absurd ((mem_diff_iff t after f).2 (Bool.eq_false_iff.2 agreed)) same

theorem content_of_agree {t after : Token} {f : TokenField} (plain : f ≠ .fraction)
    (agreed : t.agree after f = true) : t.content f = after.content f := by
  cases f with
  | fraction => exact absurd rfl plain
  | _ =>
    simp only [agree, beq_iff_eq] at agreed
    exact agreed

theorem cell_update_diff {row : TokenRow} {t after : Token} {f : TokenField}
    (plain : f ≠ .fraction) (cell : row.cell f = f.encode (t.content f)) (instant : Instant) :
    (row.update after (t.diff after) instant).cell f = f.encode (after.content f) := by
  rw [TokenRow.cell_update]
  by_cases differs : f ∈ t.diff after
  · rw [if_pos differs]
  · rw [if_neg differs, cell, content_of_agree plain (agree_of_not_mem_diff differs)]

theorem identity_of_applied {t : Token} {count : Answer Int} {u : Updates} {d : Delta}
    (h : t.applied count u = .ok d) : d.after.identity = t.identity := by
  rcases ok_of_applied h with ⟨rfl, -⟩ | ⟨-, -, updated⟩
  · rfl
  · exact updated.identity

theorem content_of_applied {t : Token} {count : Answer Int} {u : Updates} {d : Delta}
    (h : t.applied count u = .ok d) {f : TokenField} (plain : f ≠ .fraction)
    (unchanged : f ∉ d.fields) : t.content f = d.after.content f := by
  rcases ok_of_applied h with ⟨rfl, -⟩ | ⟨-, fields, -⟩
  · rfl
  · rw [fields] at unchanged
    exact content_of_agree plain (agree_of_not_mem_diff unchanged)

end Token

namespace TokenField

def decode : (f : TokenField) → f.Cell → Answer f.Content
  | .tlds, cell => .ok (Column.readTexts cell)
  | .registrars, cell => .ok (Column.readTexts cell)
  | .actions, cell => Column.readActions cell
  | .fraction, cell => .ok (Column.readDecimal cell)
  | .premiums, cell => .ok cell
  | .years, cell => .ok cell
  | .renewal, cell => .ok cell
  | .registration, cell => .ok cell
  | .transitions, cell => Column.readTransitions cell

/-- What is written is read back, the fraction apart. -/
theorem decode_encode {f : TokenField} (plain : f ≠ .fraction) (c : f.Content) :
    f.decode (f.encode c) = .ok c := by
  cases f with
  | fraction => exact absurd rfl plain
  | tlds => exact congrArg Except.ok (Column.readTexts_writeTexts c)
  | registrars => exact congrArg Except.ok (Column.readTexts_writeTexts c)
  | actions => exact Column.readActions_writeActions c
  | transitions => exact Column.readTransitions_writeTransitions c
  | premiums => rfl
  | years => rfl
  | renewal => rfl
  | registration => rfl

end TokenField

namespace Store.TokenRow

variable {row : TokenRow} {name : String} {t : Token}

theorem decode_cell (shown : row.toToken name = .ok t) (f : TokenField) :
    f.decode (row.cell f) = .ok (t.content f) := by
  obtain ⟨actions, listed, shown⟩ := Answer.bind_eq_ok.1 shown
  obtain ⟨transitions, read, shown⟩ := Answer.bind_eq_ok.1 shown
  cases shown
  cases f with
  | actions => exact listed
  | transitions => exact read
  | _ => rfl

theorem content_toToken (shown : row.toToken name = .ok t) {f : TokenField} (plain : f ≠ .fraction)
    {c : f.Content} (cell : row.cell f = f.encode c) : t.content f = c := by
  have read := decode_cell shown f
  rw [cell, TokenField.decode_encode plain] at read
  exact (Except.ok.inj read).symm

theorem content_of_cell {other : TokenRow} {otherName : String} {seen : Token}
    (shown : row.toToken name = .ok t) (shownOther : other.toToken otherName = .ok seen)
    {f : TokenField} (same : other.cell f = row.cell f) : seen.content f = t.content f := by
  have read := decode_cell shownOther f
  rw [same, decode_cell shown f] at read
  exact (Except.ok.inj read).symm

theorem fixed_toToken (shown : row.toToken name = .ok t) :
    t.kind = row.kind ∧ t.domain = row.domain ∧ t.created = some (Stamp.ofInstant row.created) := by
  obtain ⟨_, -, shown⟩ := Answer.bind_eq_ok.1 shown
  obtain ⟨_, -, shown⟩ := Answer.bind_eq_ok.1 shown
  cases shown
  exact ⟨rfl, rfl, rfl⟩

theorem kind_update (row : TokenRow) (t : Token) (fields : List TokenField) (now : Instant) :
    (row.update t fields now).kind = row.kind :=
  congrArg (·.1) (row.fixed_update t fields now)

theorem domain_update (row : TokenRow) (t : Token) (fields : List TokenField) (now : Instant) :
    (row.update t fields now).domain = row.domain :=
  congrArg (·.2.1) (row.fixed_update t fields now)

theorem created_update (row : TokenRow) (t : Token) (fields : List TokenField) (now : Instant) :
    (row.update t fields now).created = row.created :=
  congrArg (·.2.2) (row.fixed_update t fields now)

theorem alike_ofToken {now : Instant} {seen : Token}
    (shown : (ofToken t now).toToken name = .ok seen) : seen.Alike t := by
  obtain ⟨kind, domain, -⟩ := fixed_toToken shown
  refine ⟨kind, domain, fun f plain => content_toToken shown plain ?_⟩
  cases f <;> rfl

theorem alike_update {count : Answer Int} {u : Updates} {d : Delta} {instant : Instant}
    {seen : Token} (before : row.toToken name = .ok t) (applied : t.applied count u = .ok d)
    (shown : (row.update d.after d.fields instant).toToken name = .ok seen) :
    seen.Alike d.after := by
  obtain ⟨kindBefore, domainBefore, -⟩ := fixed_toToken before
  obtain ⟨kind, domain, -⟩ := fixed_toToken shown
  have identity := Token.identity_of_applied applied
  constructor
  · rw [kind, kind_update, ← kindBefore, Token.kind_of_identity identity]
  · rw [domain, domain_update, ← domainBefore, Token.domain_of_identity identity]
  · intro f plain
    by_cases changed : f ∈ d.fields
    · apply content_toToken shown plain
      rw [cell_update, if_pos changed]
    · rw [← Token.content_of_applied applied plain changed]
      apply content_of_cell before shown
      rw [cell_update, if_neg changed]

end Store.TokenRow

end RegistryTokens
