import RegistryTokens.Proofs.Lifecycle
import RegistryTokens.Proofs.Store.Domain
import RegistryTokens.Proofs.Update.Breakdown

/-!
# Creations and updates take the same values

A creation reads its values in an order of its own, counts no domains and checks the rules once; an
update of a new token goes field by field and asks for the domain of an anchor tenant twice. Both
come to the same: every value is taken by its field, the timeline is judged, and the token that is
made of them obeys the rules.
-/

set_option autoImplicit false

namespace RegistryTokens

open RegistryTokens.Time RegistryTokens.Store

def Updates.complete (values : TokenField → Value) : Updates := ⟨fun f => .assigned (values f)⟩

def Creation.offer (domain : Option String) (values : TokenField → Value) : Keyed String Value :=
  ("domain_name", .optional domain) :: TokenField.all.map fun f => (f.name, values f)

namespace Job

def accept (identifier : String) (kind : Value) (given : Keyed String Value) : Job Token := do
  if given.any fun entry => !Token.creationFields.contains entry.1 then fail .wrongType
  if Text.blank identifier then
    refuse (Refusal.malformed "token" identifier "token identifier must not be blank")
  if (← tables).tokens.has identifier then refuse (Refusal.alreadyExists identifier)
  ofAnswer (Token.create identifier kind given)

def enter (identifier : String) (domain : Value) (token : Token) : Job NewToken := do
  let stamp ← now
  storeToken token domain stamp
  log .info "services.allocation_token" "token_created"
    [("token", .text identifier), ("token_type", .text (word token.kind)),
      ("initial_status", .ofMember token.transitions.initial)]
  pure ⟨{ token with created := some stamp, updated := some stamp }, domain⟩

theorem ite_bind {α β : Type} (p : Prop) [Decidable p] (a b : Job α) (next : α → Job β) :
    (if p then a else b) >>= next = if p then a >>= next else b >>= next := by
  split <;> rfl

theorem createToken_eq (identifier : String) (kind : Value) (given : Keyed String Value) :
    createToken identifier kind given =
      accept identifier kind given >>= enter identifier (Token.givenDomain given) := by
  unfold createToken accept
  simp only [ite_bind, bind_assoc]
  rfl

theorem exists_of_enter {identifier : String} {domain : Value} {t : Token} {w : World}
    {new : NewToken} (h : ((enter identifier domain t).run w).1 = .ok new) :
    ∃ stamp, new.token = { t with created := some stamp, updated := some stamp } := by
  unfold enter at h
  rw [run_bind] at h
  split at h
  · rename_i stamp _ _
    rw [run_bind] at h
    split at h
    · cases h
      exact ⟨stamp, rfl⟩
    · cases h
  · cases h

theorem exists_of_createToken {identifier : String} {kind : Value} {given : Keyed String Value}
    {w : World} {new : NewToken} (h : ((createToken identifier kind given).run w).1 = .ok new) :
    ∃ t stamp, ((accept identifier kind given).run w).1 = .ok t ∧
      new.token = { t with created := some stamp, updated := some stamp } := by
  rw [createToken_eq, run_bind] at h
  generalize (accept identifier kind given).run w = r at h ⊢
  obtain ⟨result, after⟩ := r
  cases result with
  | error _ => cases h
  | ok t =>
    obtain ⟨stamp, entered⟩ := exists_of_enter h
    exact ⟨t, stamp, rfl, entered⟩

theorem answer_accept {identifier : String} {kind : Value} {given : Keyed String Value} {s : Store}
    {w : World} (there : w.store = some s)
    (known : ∀ entry ∈ given, entry.1 ∈ Token.creationFields)
    (named : Text.blank identifier = false) (free : identifier ∉ s.tokens.keys) :
    ((accept identifier kind given).run w).1 = Token.create identifier kind given := by
  have recognized : ¬(given.any fun entry => !Token.creationFields.contains entry.1) = true := by
    simpa using known
  have untaken : ¬s.tokens.has identifier = true := by simpa [Table.has] using free
  have found : (tables.run w : Answer Store × World) = (.ok s, w) := by
    change (Answer.ofOption _ w.store, w) = _
    rw [there]
    rfl
  unfold accept
  dsimp only
  rw [if_neg recognized, if_neg (by simp [named]), run_bind, found]
  dsimp only
  rw [if_neg untaken]
  rfl

end Job

namespace Token

/-- A new token of which only the name, the kind and the domain are known. -/
def fresh (identifier : String) (kind : TokenKind) (domain : Option String) : Token where
  identifier := identifier
  kind := kind
  transitions := Timeline.constant .notStarted
  domain := domain

theorem get?_offer (domain : Option String) (values : TokenField → Value) (f : TokenField) :
    Keyed.get? (Creation.offer domain values) f.name = some (values f) := by
  cases f <;> rfl

theorem orDefault_offer {α : Type} (domain : Option String) (values : TokenField → Value)
    (f : TokenField) (fallback : α) (read : Value → Answer α) :
    orDefault (Creation.offer domain values) f fallback read = read (values f) := by
  rw [orDefault, get?_offer]

theorem isDomainScoped_offer (domain : Option String) (values : TokenField → Value) {t : Token}
    (read : t.domain = domainText (givenDomain (Creation.offer domain values)))
    (identifier : String) (kind : TokenKind) :
    t.isDomainScoped = (fresh identifier kind domain).isDomainScoped := by
  have given : givenDomain (Creation.offer domain values) =
      if (Value.optional domain).truthy then .optional domain else .null := rfl
  rw [isDomainScoped, read, given]
  cases domain with
  | none => rfl
  | some d =>
    cases hd : d.isEmpty <;>
      simp [Value.optional, Value.truthy, hd, domainText, isDomainScoped, fresh, Value.asText?]

theorem check_of_content {a b : Token} (kind : b.kind = a.kind)
    (tied : b.isDomainScoped = a.isDomainScoped) (content : ∀ f, b.content f = a.content f)
    (h : a.check = .ok ()) : b.check = .ok () := by
  obtain ⟨anchored, single, discounted, bulk⟩ := (check_eq_ok_iff a).1 h
  have registrars : b.registrars = a.registrars := content .registrars
  have fraction : b.fraction = a.fraction := content .fraction
  have premiums : b.premiums = a.premiums := content .premiums
  have years : b.years = a.years := content .years
  have renewal : b.renewal = a.renewal := content .renewal
  have registration : b.registration = a.registration := content .registration
  refine (check_eq_ok_iff b).2 ⟨?_, ?_, ?_, ?_⟩
  · rw [registration, tied]
    exact anchored
  · rw [tied, kind]
    exact single
  · unfold DiscountRule
    rw [fraction, premiums, years]
    exact discounted
  · rw [kind, renewal, registrars, premiums]
    exact bulk

theorem readRegistration_eq_ok_iff {t : Token} {v : Value} {rule : RegistrationRule} :
    t.readRegistration v = .ok rule ↔
      Field.readWord RegistrationRule TokenField.registration.name v = .ok rule ∧
        ¬(rule = .anchorTenant ∧ t.isDomainScoped = false) := by
  unfold readRegistration
  rw [Answer.bind_eq_ok]
  constructor
  · rintro ⟨read, word, h⟩
    split at h
    · cases h
    · rename_i anchored
      cases h
      exact ⟨word, anchored⟩
  · rintro ⟨word, anchored⟩
    exact ⟨rule, word, if_neg anchored⟩

theorem createTransitions_eq_ok_iff {identifier : String} {kind : TokenKind}
    {domain : Option String} {values : TokenField → Value} (given : values .transitions ≠ .null)
    {timeline : Timeline Status} :
    createTransitions identifier kind (Creation.offer domain values) = .ok timeline ↔
      Field.readTransitions (values .transitions) = .ok timeline ∧
        Answer.ofStep (judgeTransitions kind (Answer.lift (.ok 0)) timeline identifier) = .ok () := by
  unfold createTransitions
  rw [get?_offer, Option.getD_some]
  split
  · rename_i null
    exact absurd null given
  · rw [Answer.bind_eq_ok]
    constructor
    · rintro ⟨read, reads, h⟩
      obtain ⟨_, judged, h⟩ := Answer.bind_eq_ok.1 h
      cases h
      exact ⟨reads, judged⟩
    · rintro ⟨reads, judged⟩
      exact ⟨timeline, reads, Answer.bind_eq_ok.2 ⟨(), judged, rfl⟩⟩

section
variable {identifier : String} {kind : Value} {k : TokenKind} {domain : Option String}
  {values : TokenField → Value} {t : Token}

theorem updated_of_created (given : values .transitions ≠ .null)
    (ofKind : Field.readWord TokenKind "token_type" kind = .ok k)
    (h : Created identifier kind (Creation.offer domain values) t) :
    Updated (.ok 0) (Updates.complete values) (fresh identifier k domain)
      { t with domain := domain, created := none, updated := none } := by
  have kinds : k = t.kind := Except.ok.inj (ofKind.symm.trans h.ofKind)
  have tied := isDomainScoped_offer domain values h.domain identifier k
  have content (f : TokenField) :
      ({ t with domain := domain, created := none, updated := none } : Token).content f =
        t.content f := by
    cases f <;> rfl
  have timeline := (createTransitions_eq_ok_iff given).1 h.transitions
  constructor
  · simp only [identity, fresh, h.named, kinds]
  · intro f unsupplied
    cases unsupplied
  · intro f v supplied
    cases supplied
    rw [content]
    cases f with
    | tlds => exact (orDefault_offer domain values .tlds _ _).symm.trans h.tlds
    | registrars => exact (orDefault_offer domain values .registrars _ _).symm.trans h.registrars
    | actions => exact (orDefault_offer domain values .actions _ _).symm.trans h.actions
    | fraction => exact (orDefault_offer domain values .fraction _ _).symm.trans h.fraction
    | premiums => exact (orDefault_offer domain values .premiums _ _).symm.trans h.premiums
    | years => exact (orDefault_offer domain values .years _ _).symm.trans h.years
    | renewal => exact (orDefault_offer domain values .renewal _ _).symm.trans h.renewal
    | transitions => exact timeline.1
    | registration =>
      have word := (orDefault_offer domain values .registration _ _).symm.trans h.registration
      have anchored := ((check_eq_ok_iff t).1 h.checked).anchored
      rw [tied] at anchored
      exact readRegistration_eq_ok_iff.2 ⟨word, anchored⟩
  · intro _ _
    rw [fresh, kinds]
    exact timeline.2
  · exact check_of_content (a := t) rfl tied.symm content h.checked

theorem created_of_updated {after : Token} (given : values .transitions ≠ .null)
    (ofKind : Field.readWord TokenKind "token_type" kind = .ok k)
    (h : Updated (.ok 0) (Updates.complete values) (fresh identifier k domain) after) :
    Created identifier kind (Creation.offer domain values)
      { after with domain := domainText (givenDomain (Creation.offer domain values)) } := by
  have kinds : after.kind = k := kind_of_identity h.identity
  have reads (f : TokenField) :
      (fresh identifier k domain).reading f (values f) = .ok (after.content f) :=
    h.given f (values f) rfl
  have content (f : TokenField) : ({ after with
      domain := domainText (givenDomain (Creation.offer domain values)) } : Token).content f =
        after.content f := by
    cases f <;> rfl
  have tied := isDomainScoped_offer domain values (t := { after with
    domain := domainText (givenDomain (Creation.offer domain values)) }) rfl identifier k
  constructor
  · exact identifier_of_identity h.identity
  · exact ofKind.trans (congrArg Except.ok kinds.symm)
  · rw [createTransitions_eq_ok_iff given]
    refine ⟨reads .transitions, ?_⟩
    rw [kinds]
    exact h.judged _ rfl
  · rfl
  · exact (orDefault_offer domain values .tlds _ _).trans (reads .tlds)
  · exact (orDefault_offer domain values .registrars _ _).trans (reads .registrars)
  · exact (orDefault_offer domain values .actions _ _).trans (reads .actions)
  · exact (orDefault_offer domain values .fraction _ _).trans (reads .fraction)
  · exact (orDefault_offer domain values .premiums _ _).trans (reads .premiums)
  · exact (orDefault_offer domain values .years _ _).trans (reads .years)
  · exact (orDefault_offer domain values .renewal _ _).trans (reads .renewal)
  · exact (orDefault_offer domain values .registration _ _).trans
      (readRegistration_eq_ok_iff.1 (reads .registration)).1
  · exact check_of_content (a := after) rfl
      (tied.trans (isDomainScoped_of_domain (domain_of_identity h.identity)).symm) content h.checked

/-- A creation that reads its token and an update of the fresh one come out alike. -/
theorem applied_of_create (given : values .transitions ≠ .null)
    (ofKind : Field.readWord TokenKind "token_type" kind = .ok k)
    (h : create identifier kind (Creation.offer domain values) = .ok t) :
    ∃ d, (fresh identifier k domain).applied (.ok 0) (Updates.complete values) = .ok d ∧
      ∀ f, d.after.content f = t.content f := by
  have updated := updated_of_created given ofKind (created_of_create h)
  have supplied : (Updates.complete values).isEmpty = false :=
    Updates.isEmpty_eq_false_of_supplied (f := .tlds) rfl
  refine ⟨_, applied_of_updated supplied updated rfl, fun f => ?_⟩
  cases f <;> rfl

theorem create_of_applied {d : Delta} (given : values .transitions ≠ .null)
    (ofKind : Field.readWord TokenKind "token_type" kind = .ok k)
    (h : (fresh identifier k domain).applied (.ok 0) (Updates.complete values) = .ok d) :
    ∃ t, create identifier kind (Creation.offer domain values) = .ok t := by
  rcases ok_of_applied h with ⟨-, none⟩ | ⟨-, -, updated⟩
  · rw [Updates.isEmpty_eq_false_of_supplied (f := .tlds) rfl] at none
    cases none
  · exact ⟨_, create_of_created (created_of_updated given ofKind updated)⟩

end

end Token

namespace Job

theorem mem_creationFields_of_offer (domain : Option String) (values : TokenField → Value) :
    ∀ entry ∈ Creation.offer domain values, entry.1 ∈ Token.creationFields := by
  intro entry within
  rcases List.mem_cons.1 within with rfl | within
  · exact List.mem_cons_self
  · obtain ⟨f, hf, rfl⟩ := List.mem_map.1 within
    exact List.mem_cons_of_mem _ (List.mem_map_of_mem hf)

/-- What an update makes of a new token that gives all of its fields a value. -/
def completed (identifier : String) (kind : TokenKind) (domain : Option String)
    (values : TokenField → Value) : Answer Delta :=
  ((Token.fresh identifier kind domain).apply (pure 0) (Updates.complete values) :
    ExceptT Failure Id Delta).run

/-- A creation is accepted just if the update of the fresh token that gives it the same values is
accepted, and then both give the fields the same content, as does a creation that is completed. -/
theorem accepted_iff_completed {identifier : String} {kind : Value} {k : TokenKind}
    {domain : Option String} {values : TokenField → Value} {s : Store} {w : World}
    (there : w.store = some s) (named : Text.blank identifier = false)
    (free : identifier ∉ s.tokens.keys)
    (ofKind : Field.readWord TokenKind "token_type" kind = .ok k)
    (given : values .transitions ≠ .null) :
    ((∃ t, ((accept identifier kind (Creation.offer domain values)).run w).1 = .ok t) ↔
      ∃ d, completed identifier k domain values = .ok d) ∧
    (∀ t d, ((accept identifier kind (Creation.offer domain values)).run w).1 = .ok t →
      completed identifier k domain values = .ok d → ∀ f, t.content f = d.after.content f) ∧
    ∀ new, ((createToken identifier kind (Creation.offer domain values)).run w).1 = .ok new →
      ∃ d, completed identifier k domain values = .ok d ∧
        ∀ f, new.token.content f = d.after.content f := by
  have accepts : ((accept identifier kind (Creation.offer domain values)).run w).1 =
      Token.create identifier kind (Creation.offer domain values) :=
    answer_accept there (mem_creationFields_of_offer domain values) named free
  have same : completed identifier k domain values =
      (Token.fresh identifier k domain).applied (.ok 0) (Updates.complete values) := rfl
  rw [accepts, same]
  refine ⟨⟨?_, ?_⟩, ?_, ?_⟩
  · rintro ⟨t, created⟩
    obtain ⟨d, applied, -⟩ := Token.applied_of_create given ofKind created
    exact ⟨d, applied⟩
  · rintro ⟨d, applied⟩
    exact Token.create_of_applied given ofKind applied
  · intro t d created applied f
    obtain ⟨e, again, content⟩ := Token.applied_of_create given ofKind created
    cases applied.symm.trans again
    exact (content f).symm
  · intro new answered
    obtain ⟨t, stamp, created, entered⟩ := exists_of_createToken answered
    rw [accepts] at created
    obtain ⟨d, applied, content⟩ := Token.applied_of_create given ofKind created
    refine ⟨d, applied, fun f => ?_⟩
    rw [content, entered]
    cases f <;> rfl

def typedValues : TokenField → Value
  | .tlds => .text "dev, app"
  | .registrars => .text "TheRegistrar"
  | .actions => .text ""
  | .fraction => .text "0.5"
  | .premiums => .text "true"
  | .years => .text "2"
  | .renewal => .text "NONPREMIUM"
  | .registration => .text "DEFAULT"
  | .transitions => .text "START_OF_TIME=NOT_STARTED,2024-05-15T00:00:00Z=VALID"

theorem accepted_of_typed : ∃ t d, ((accept "T1" (.text "SINGLE_USE")
      (Creation.offer none typedValues)).run freshWorld).1 = .ok t ∧
    completed "T1" .singleUse none typedValues = .ok d ∧ ∀ f, t.content f = d.after.content f := by
  have accepted : (completed "T1" .singleUse none typedValues).toOption.isSome = true := by
    decide +kernel
  obtain ⟨d, accepted⟩ := Option.isSome_iff_exists.1 accepted
  have completes := Answer.eq_ok_of_toOption accepted
  obtain ⟨accepted, content, -⟩ := @accepted_iff_completed "T1" (.text "SINGLE_USE") .singleUse
    none typedValues .empty freshWorld rfl (by decide) (by decide) rfl nofun
  obtain ⟨t, accepts⟩ := accepted.2 ⟨d, completes⟩
  exact ⟨t, d, accepts, completes, content t d accepts completes⟩

end Job

end RegistryTokens
