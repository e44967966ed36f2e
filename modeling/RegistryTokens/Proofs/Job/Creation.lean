import RegistryTokens.Job.Creation
import RegistryTokens.Proofs.Batch.Plan
import RegistryTokens.Proofs.Store.Table

/-!
# What a creation does

A creation that succeeds inserts one row, and one that fails writes nothing. The row of a token is
made of a token that was read and checked as a whole.
-/

set_option autoImplicit false

namespace RegistryTokens

open RegistryTokens.Time RegistryTokens.Store

structure Store.PackageRow.Records (row : PackageRow) (p : Package) : Prop where
  maxDomains : row.maxDomains = p.maxDomains
  maxCreates : row.maxCreates = p.maxCreates
  amount : row.amount = Column.writeDecimal p.price.amount
  currency : row.currency = p.price.currency
  nextBilling : Column.writeStamp p.nextBilling = .ok row.nextBilling
  lastNotice : p.lastNotice.mapM Column.writeStamp = .ok row.lastNotice

namespace Creation

open Batch

def storedToken (t : Token) (domain : Value) (stamp : Stamp) (s : Option Store) :
    Answer (Unit × Option Store) := do
  let instant ← Column.writeStamp stamp
  if !Column.writable t.fraction then .error .unwritable
  else do
    let before ← standing s
    let domain ← Column.writeText domain
    let _ ← Column.requireFit t.years
    if t.fraction.isNaN then .error (.broke (.store .integrity))
    else do
      let after ← before.insertToken t.identifier (TokenRow.ofToken { t with domain } instant)
      pure ((), some after)

def createdToken (identifier : String) (kind : Value) (given : Keyed String Value)
    (s : Option Store) (c : Clock) : Answer (NewToken × Option Store) :=
  if given.any fun entry => !Token.creationFields.contains entry.1 then .error .wrongType
  else if Text.blank identifier then
    .error (.refused (Refusal.malformed "token" identifier "token identifier must not be blank"))
  else do
    let before ← standing s
    if before.tokens.has identifier then .error (.refused (Refusal.alreadyExists identifier))
    else do
      let token ← Token.create identifier kind given
      let stamp ← c.now.mapError Failure.ofClock
      let domain := Token.givenDomain given
      let (_, after) ← storedToken token domain stamp s
      pure (⟨{ token with created := some stamp, updated := some stamp }, domain⟩, after)

def storedPackage (p : Package) (s : Option Store) : Answer (Unit × Option Store) := do
  let nextBilling ← Column.writeStamp p.nextBilling
  let lastNotice ← p.lastNotice.mapM Column.writeStamp
  let before ← standing s
  let _ ← Column.requireFit p.maxDomains
  let _ ← Column.requireFit p.maxCreates
  let after ← before.insertPackage p.token {
    maxDomains := p.maxDomains, maxCreates := p.maxCreates
    amount := Column.writeDecimal p.price.amount, currency := p.price.currency
    nextBilling, lastNotice }
  pure ((), some after)

def notNegative (name token : String) (n : Int) : Answer Unit :=
  if n < 0 then
    Answer.refuse { Refusal.outOfRange name (.int n) (name ++ " must not be negative") with
      token := some token }
  else .ok ()

def packageFor (p : Package) (owner : Token) (s : Option Store) :
    Answer (Package × Option Store) :=
  if owner.kind ≠ .bulkPricing then
    .error (.refused
      (Refusal.constraint "BulkPricingPackage must be tied to a BULK_PRICING token" p.token))
  else do
    let before ← standing s
    if before.packages.has p.token then
      .error (.refused (Refusal.constraint
        ("BulkPricingPackage with token " ++ p.token ++ " already exists") p.token))
    else do
      let _ ← notNegative "max_domains" p.token p.maxDomains
      let _ ← notNegative "max_creates" p.token p.maxCreates
      (storedPackage p s).map fun plan => (p, plan.2)

def createdPackage (p : Package) (s : Option Store) : Answer (Package × Option Store) := do
  let before ← standing s
  let found ← before.token? p.token
  found.elim (Answer.refuse (Refusal.unknownToken p.token)) fun owner => packageFor p owner s

theorem storedToken_eq_ok {t : Token} {domain : Value} {stamp : Stamp} {s after : Option Store}
    {u : Unit} (h : storedToken t domain stamp s = .ok (u, after)) :
    ∃ instant before cell stored, Column.writeStamp stamp = .ok instant ∧ s = some before ∧
      Column.writeText domain = .ok cell ∧ Column.requireFit t.years = .ok () ∧
      t.fraction.isNaN = false ∧ after = some stored ∧
      before.insertToken t.identifier (TokenRow.ofToken { t with domain := cell } instant) =
        .ok stored := by
  obtain ⟨instant, stamped, h⟩ := Answer.bind_eq_ok.1 h
  split at h
  · cases h
  obtain ⟨before, there, h⟩ := Answer.bind_eq_ok.1 h
  obtain ⟨cell, written, h⟩ := Answer.bind_eq_ok.1 h
  obtain ⟨_, fits, h⟩ := Answer.bind_eq_ok.1 h
  split at h
  · cases h
  rename_i number
  obtain ⟨stored, inserted, h⟩ := Answer.bind_eq_ok.1 h
  cases h
  exact ⟨instant, before, cell, stored, stamped, standing_eq_ok there, written, fits,
    Bool.eq_false_iff.2 number, rfl, inserted⟩

theorem createdToken_eq_ok {identifier : String} {kind : Value} {given : Keyed String Value}
    {s after : Option Store} {c : Clock} {new : NewToken}
    (h : createdToken identifier kind given s c = .ok (new, after)) :
    ∃ t stamp, Token.create identifier kind given = .ok t ∧ c.now = .ok stamp ∧
      storedToken t (Token.givenDomain given) stamp s = .ok ((), after) ∧
      new = ⟨{ t with created := some stamp, updated := some stamp }, Token.givenDomain given⟩ := by
  unfold createdToken at h
  split at h
  · cases h
  split at h
  · cases h
  obtain ⟨before, -, h⟩ := Answer.bind_eq_ok.1 h
  split at h
  · cases h
  obtain ⟨t, created, h⟩ := Answer.bind_eq_ok.1 h
  obtain ⟨stamp, clock, h⟩ := Answer.bind_eq_ok.1 h
  obtain ⟨⟨_, after⟩, stored, h⟩ := Answer.bind_eq_ok.1 h
  cases h
  exact ⟨t, stamp, created, now_eq_ok clock, stored, rfl⟩

theorem storedPackage_eq_ok {p : Package} {s after : Option Store} {u : Unit}
    (h : storedPackage p s = .ok (u, after)) : ∃ before row stored, s = some before ∧
      after = some stored ∧ row.Records p ∧ before.insertPackage p.token row = .ok stored := by
  obtain ⟨nextBilling, billed, h⟩ := Answer.bind_eq_ok.1 h
  obtain ⟨lastNotice, noticed, h⟩ := Answer.bind_eq_ok.1 h
  obtain ⟨before, there, h⟩ := Answer.bind_eq_ok.1 h
  obtain ⟨_, -, h⟩ := Answer.bind_eq_ok.1 h
  obtain ⟨_, -, h⟩ := Answer.bind_eq_ok.1 h
  obtain ⟨stored, inserted, h⟩ := Answer.bind_eq_ok.1 h
  cases h
  exact ⟨before, _, stored, standing_eq_ok there, rfl, ⟨rfl, rfl, rfl, rfl, billed, noticed⟩,
    inserted⟩

theorem notNegative_eq_ok {name token : String} {n : Int} {u : Unit}
    (h : notNegative name token n = .ok u) : 0 ≤ n := by
  unfold notNegative at h
  split at h
  · cases h
  · omega

structure Packed (p : Package) (row : PackageRow) (before after : Store) : Prop where
  owned : ∃ owner, before.token? p.token = .ok (some owner) ∧ owner.kind = .bulkPricing
  maxDomains : 0 ≤ p.maxDomains
  maxCreates : 0 ≤ p.maxCreates
  records : row.Records p
  inserted : before.insertPackage p.token row = .ok after

theorem packed_of_createdPackage {p new : Package} {s after : Option Store}
    (h : createdPackage p s = .ok (new, after)) : ∃ before row stored, s = some before ∧
      after = some stored ∧ new = p ∧ Packed p row before stored := by
  obtain ⟨before, there, h⟩ := Answer.bind_eq_ok.1 h
  obtain ⟨found, read, h⟩ := Answer.bind_eq_ok.1 h
  cases found with
  | none => cases h
  | some owner =>
    change packageFor p owner s = .ok _ at h
    unfold packageFor at h
    split at h
    · cases h
    rename_i bulk
    obtain ⟨_, -, h⟩ := Answer.bind_eq_ok.1 h
    split at h
    · cases h
    obtain ⟨_, domains, h⟩ := Answer.bind_eq_ok.1 h
    obtain ⟨_, creates, h⟩ := Answer.bind_eq_ok.1 h
    obtain ⟨plan, stored, h⟩ := Answer.map_eq_ok.1 h
    obtain ⟨before', row, after, there', stays, records, inserted⟩ := storedPackage_eq_ok stored
    cases h
    cases (standing_eq_ok there).symm.trans there'
    exact ⟨before, row, after, there', stays, rfl, ⟨owner, read, Decidable.not_not.1 bulk⟩,
      notNegative_eq_ok domains, notNegative_eq_ok creates, records, inserted⟩

theorem get?_insertPackage {before stored : Store} {token : String} {row : PackageRow}
    (h : before.insertPackage token row = .ok stored) : stored.tokens = before.tokens ∧
      before.packages.get? token = none ∧ ∀ other, stored.packages.get? other =
        if other = token then some row else before.packages.get? other := by
  unfold Store.insertPackage at h
  split at h
  · rename_i inserted
    cases h
    exact ⟨rfl, Table.get?_of_insert? inserted, Table.get?_insert? inserted⟩
  · cases h

theorem get?_insertToken {before stored : Store} {identifier : String} {row : TokenRow}
    (h : before.insertToken identifier row = .ok stored) : identifier ∉ before.tokens.keys ∧
      (∀ name, stored.tokens.get? name =
        if name = identifier then some row else before.tokens.get? name) ∧
      stored.packages = before.packages := by
  unfold Store.insertToken at h
  split at h
  · rename_i inserted
    cases h
    refine ⟨fun taken => ?_, Table.get?_insert? inserted, rfl⟩
    obtain ⟨_, found⟩ := Table.mem_keys_iff.1 taken
    cases found.symm.trans (Table.get?_of_insert? inserted)
  · cases h

end Creation

namespace Token

structure Created (identifier : String) (kind : Value) (given : Keyed String Value) (t : Token) :
    Prop where
  named : t.identifier = identifier
  ofKind : Field.readWord TokenKind "token_type" kind = .ok t.kind
  transitions : createTransitions identifier t.kind given = .ok t.transitions
  domain : t.domain = domainText (givenDomain given)
  tlds : orDefault given .tlds SortedSet.empty Field.readTexts = .ok t.tlds
  registrars : orDefault given .registrars SortedSet.empty Field.readTexts = .ok t.registrars
  actions : orDefault given .actions SortedSet.empty Field.readActions = .ok t.actions
  fraction : orDefault given .fraction Number.Decimal.zero Field.readFraction = .ok t.fraction
  premiums : orDefault given .premiums false (Field.readBool TokenField.premiums.name) =
    .ok t.premiums
  years : orDefault given .years 1 Field.readYears = .ok t.years
  renewal : orDefault given .renewal .standard
    (Field.readWord RenewalPricing TokenField.renewal.name) = .ok t.renewal
  registration : orDefault given .registration .standard
    (Field.readWord RegistrationRule TokenField.registration.name) = .ok t.registration
  checked : t.check = .ok ()

theorem created_of_create {identifier : String} {kind : Value} {given : Keyed String Value}
    {t : Token} (h : create identifier kind given = .ok t) : Created identifier kind given t := by
  obtain ⟨k, hk, h⟩ := Answer.bind_eq_ok.1 h
  obtain ⟨transitions, htransitions, h⟩ := Answer.bind_eq_ok.1 h
  obtain ⟨tlds, htlds, h⟩ := Answer.bind_eq_ok.1 h
  obtain ⟨registrars, hregistrars, h⟩ := Answer.bind_eq_ok.1 h
  obtain ⟨actions, hactions, h⟩ := Answer.bind_eq_ok.1 h
  obtain ⟨fraction, hfraction, h⟩ := Answer.bind_eq_ok.1 h
  obtain ⟨premiums, hpremiums, h⟩ := Answer.bind_eq_ok.1 h
  obtain ⟨years, hyears, h⟩ := Answer.bind_eq_ok.1 h
  obtain ⟨renewal, hrenewal, h⟩ := Answer.bind_eq_ok.1 h
  obtain ⟨registration, hregistration, h⟩ := Answer.bind_eq_ok.1 h
  obtain ⟨_, checked, h⟩ := Answer.bind_eq_ok.1 h
  cases h
  exact ⟨rfl, hk, htransitions, rfl, htlds, hregistrars, hactions, hfraction, hpremiums, hyears,
    hrenewal, hregistration, checked⟩

theorem create_of_created {identifier : String} {kind : Value} {given : Keyed String Value}
    {t : Token} (h : Created identifier kind given t) :
    create identifier kind given = .ok { t with created := none, updated := none } := by
  obtain ⟨named, hk, htransitions, domain, htlds, hregistrars, hactions, hfraction, hpremiums,
    hyears, hrenewal, hregistration, checked⟩ := h
  subst named
  unfold create
  refine Answer.bind_eq_ok.2 ⟨_, hk, Answer.bind_eq_ok.2 ⟨_, htransitions, ?_⟩⟩
  refine Answer.bind_eq_ok.2 ⟨_, htlds, Answer.bind_eq_ok.2 ⟨_, hregistrars, ?_⟩⟩
  refine Answer.bind_eq_ok.2 ⟨_, hactions, Answer.bind_eq_ok.2 ⟨_, hfraction, ?_⟩⟩
  refine Answer.bind_eq_ok.2 ⟨_, hpremiums, Answer.bind_eq_ok.2 ⟨_, hyears, ?_⟩⟩
  refine Answer.bind_eq_ok.2 ⟨_, hrenewal, Answer.bind_eq_ok.2 ⟨_, hregistration, ?_⟩⟩
  rw [← domain]
  exact Answer.bind_eq_ok.2 ⟨(), checked, rfl⟩

theorem Created.stamped {identifier : String} {kind : Value} {given : Keyed String Value} {t : Token}
    (h : Created identifier kind given t) (stamp : Stamp) :
    Created identifier kind given { t with created := some stamp, updated := some stamp } :=
  ⟨h.named, h.ofKind, h.transitions, h.domain, h.tlds, h.registrars, h.actions, h.fraction,
    h.premiums, h.years, h.renewal, h.registration, h.checked⟩

end Token

namespace Creation

/-- What a creation answers and the row that it stores. -/
structure Stored (name : String) (kind : Value) (given : Keyed String Value) (c : Clock)
    (new : NewToken) (row : TokenRow) : Prop where
  made : Token.Created name kind given new.token
  number : new.token.fraction.isNaN = false
  domain : new.domain = Token.givenDomain given
  stored : ∃ cell stamp instant, Column.writeText new.domain = .ok cell ∧ c.now = .ok stamp ∧
    new.token.created = some stamp ∧ Column.writeStamp stamp = .ok instant ∧
    row = TokenRow.ofToken { new.token with domain := cell } instant

theorem stored_of_createdToken {name : String} {kind : Value} {given : Keyed String Value}
    {s after : Option Store} {c : Clock} {new : NewToken}
    (h : createdToken name kind given s c = .ok (new, after)) : ∃ before stored row,
      s = some before ∧ after = some stored ∧ Stored name kind given c new row ∧
      before.insertToken name row = .ok stored := by
  obtain ⟨t, stamp, created, now, storing, rfl⟩ := createdToken_eq_ok h
  obtain ⟨instant, before, cell, stored, stamped, rfl, written, -, number, rfl, inserted⟩ :=
    storedToken_eq_ok storing
  have made := Token.created_of_create created
  rw [made.named] at inserted
  exact ⟨before, stored, _, rfl, rfl, ⟨made.stamped stamp, number, rfl, cell, stamp, instant,
    written, now, rfl, stamped, rfl⟩, inserted⟩

end Creation

namespace Job

open Batch Creation

theorem reads_fail {α : Type} (failure : Failure) : Reads (fail failure : Job α) fun _ _ =>
    .error failure :=
  reads_ofAnswer _

theorem does_storeToken (t : Token) (domain : Value) (stamp : Stamp) :
    Does (storeToken t domain stamp) fun s _ => kept (storedToken t domain stamp s) s := by
  have inserted (after : Store) : Does (setTables after) fun s _ =>
      kept (.ok ((), some after)) s := does_setTables after
  exact (reads_ofAnswer _).bindKept fun _ => .guard (reads_fail _) <|
    reads_tables.bindKept fun _ => (reads_ofAnswer _).bindKept fun _ =>
      (reads_ofAnswer _).bindKept fun _ => .guard (reads_ofAnswer _) <|
        (reads_ofAnswer _).bindKept inserted

theorem does_createToken (identifier : String) (kind : Value) (given : Keyed String Value) :
    Does (createToken identifier kind given) fun s c =>
      kept (createdToken identifier kind given s c) s := by
  have written (t : Token) (stamp : Stamp) : Does (do
      storeToken t (Token.givenDomain given) stamp
      log .info "services.allocation_token" "token_created"
        [("token", .text identifier), ("token_type", .text (word t.kind)),
          ("initial_status", .ofMember t.transitions.initial)]
      pure (⟨{ t with created := some stamp, updated := some stamp }, Token.givenDomain given⟩ :
        NewToken)) fun s _ => kept (do
          let (_, after) ← storedToken t (Token.givenDomain given) stamp s
          pure (⟨{ t with created := some stamp, updated := some stamp },
            Token.givenDomain given⟩, after)) s :=
    (does_storeToken t _ stamp).bindReads fun _ => (reads_log _ _ _ _).bind fun _ => reads_pure _
  unfold createToken
  dsimp only
  refine .guard (reads_fail _) ?_
  refine .guard (reads_fail _) (reads_tables.bindKept fun _ => ?_)
  refine .guard (reads_fail _) ((reads_ofAnswer _).bindKept fun t => ?_)
  exact reads_now.bindKept (written t)

theorem does_storePackage (p : Package) :
    Does (storePackage p) fun s _ => kept (storedPackage p s) s := by
  have inserted (after : Store) : Does (setTables after) fun s _ =>
      kept (.ok ((), some after)) s := does_setTables after
  have noticed : Reads (p.lastNotice.mapM fun s => ofAnswer (Column.writeStamp s)) fun _ _ =>
      p.lastNotice.mapM Column.writeStamp := by
    cases p.lastNotice with
    | none => exact reads_pure none
    | some notice =>
      refine ((reads_ofAnswer (Column.writeStamp notice)).bind fun i => reads_pure (some i)).congr
        fun _ _ => ?_
      change _ = some <$> Column.writeStamp notice
      cases Column.writeStamp notice <;> rfl
  exact (reads_ofAnswer _).bindKept fun _ => noticed.bindKept fun _ =>
    reads_tables.bindKept fun _ => (reads_ofAnswer _).bindKept fun _ =>
      (reads_ofAnswer _).bindKept fun _ => (reads_ofAnswer _).bindKept inserted

theorem reads_refuseNegative (name token : String) (n : Int) :
    Reads (refuseNegative name token n) fun _ _ => notNegative name token n :=
  (reads_ofAnswer _).ite (n < 0) (reads_pure ())

theorem does_createPackage (p : Package) :
    Does (createPackage p) fun s _ => kept (createdPackage p s) s := by
  have written := (does_storePackage p).bindReads (f := fun _ => p) fun _ =>
    (reads_log .info "services.bulk_pricing" "bulk_pricing_package_created"
      [("token", .text p.token), ("max_domains", .int p.maxDomains),
        ("max_creates", .int p.maxCreates), ("bulk_price", .text p.price.display)]).bind
      fun _ => reads_pure p
  have limited := (reads_refuseNegative "max_domains" p.token p.maxDomains).bindKept fun _ =>
    (reads_refuseNegative "max_creates" p.token p.maxCreates).bindKept fun _ => written
  unfold createPackage
  dsimp only
  refine reads_tables.bindKept fun before => (reads_ofAnswer _).bindKept fun found => ?_
  cases found with
  | none => exact .halt (reads_fail _) _
  | some owner =>
    exact Does.guard (reads_fail _) <| reads_tables.bindKept fun _ =>
      Does.guard (reads_fail _) limited

end Job

end RegistryTokens
