import RegistryTokens.Proofs.Job.Reachable

/-!
# Where stored tokens come from

A reachable store comes from the empty one call by call, and each of its rows from the one creation
that took its name. What a creation establishes of its row and every update keeps is therefore true
of all rows, and it may speak of the token that the creation answered, whatever way led to the
store. In the same way it may speak of what a token was last given for one of its fields.
-/

set_option autoImplicit false

namespace RegistryTokens

open RegistryTokens.Time RegistryTokens.Store

/-- One store comes of another by calls, in worlds with any clock, while domains come and go. -/
inductive Leads (s : Store) : Store → Prop where
  | refl : Leads s s
  | call {t after : Store} {c : Call} {w : World} (first : Leads s t) (there : w.store = some t)
      (left : (c.job.run w).2.store = some after) : Leads s after
  | domains {t : Store} (first : Leads s t) (domains : Table DomainRow) :
      Leads s { t with domains }

theorem Leads.trans {a b c : Store} (first : Leads a b) (second : Leads b c) : Leads a c := by
  induction second with
  | refl => exact first
  | call _ there left ih => exact .call ih there left
  | domains _ domains ih => exact .domains ih domains

theorem Leads.keys {s t : Store} (h : Leads s t) {name : String} (stored : name ∈ s.tokens.keys) :
    name ∈ t.tokens.keys := by
  induction h with
  | refl => exact stored
  | call _ there left ih =>
    exact (Call.accounted there left).1 name ih
  | domains _ _ ih => exact ih

/-- An operation comes down to calls, those of a session that is given up to none. -/
theorem Operation.leads (o : Operation) {w : World} {s : Store} (there : w.store = some s) :
    ∃ after, (o.run w).store = some after ∧ Leads s after := by
  have each (c : Call) (w : World) (h : ∃ t, w.store = some t ∧ Leads s t) :
      ∃ after, (c.job.run w).2.store = some after ∧ Leads s after := by
    obtain ⟨t, there, first⟩ := h
    obtain ⟨after, left, -⟩ := c.store_left there
    exact ⟨after, left, .call first there left⟩
  exact o.store_run (fun t => ∃ after, t = some after ∧ Leads s after) each ⟨s, there, .refl⟩

theorem Reachable.leads {s : Store} (h : Reachable s) : Leads .empty s := by
  induction h with
  | empty => exact .refl
  | @step _ _ o _ _ there left ih =>
    obtain ⟨_, stays, second⟩ := o.leads there
    cases left.symm.trans stays
    exact ih.trans second
  | domains _ domains ih => exact .domains ih domains

theorem Reachable.of_leads {s : Store} (h : Leads .empty s) : Reachable s := by
  induction h with
  | refl => exact .empty
  | @call _ _ c _ _ there left ih => exact .step (o := .call c) ih there left
  | domains _ domains ih => exact .domains ih domains

/-- A creation took a name that was free and answered a token, and the store came of that. -/
inductive Born (s : Store) (name : String) (new : NewToken) : Prop where
  | created {before after : Store} {w : World} {kind : Value} {given : Keyed String Value}
      (reachable : Reachable before) (there : w.store = some before)
      (free : name ∉ before.tokens.keys)
      (answered : ((Job.createToken name kind given).run w).1 = .ok new)
      (left : ((Job.createToken name kind given).run w).2.store = some after)
      (leads : Leads after s) : Born s name new

theorem Born.leads {s t : Store} {name : String} {new : NewToken} (h : Born s name new)
    (later : Leads s t) : Born t name new := by
  cases h with
  | created reachable there free answered left first =>
    exact .created reachable there free answered left (first.trans later)

/-- A property of a row and of the token as which it was created: a creation establishes it and
every update keeps it. -/
structure Lasting (P : String → NewToken → TokenRow → Prop) : Prop where
  created : ∀ {name : String} {kind : Value} {given : Keyed String Value} {c : Clock}
    {new : NewToken} {row : TokenRow}, Creation.Stored name kind given c new row → P name new row
  updated : ∀ {name : String} {new : NewToken} {row : TokenRow} {t : Token} {updates : Updates}
    {count : Answer Int} {d : Delta} {instant : Instant}, P name new row →
    row.toToken name = .ok t → t.applied count updates = .ok d →
    P name new (row.update d.after d.fields instant)

theorem Call.store_createToken (name : String) (kind : Value) (given : Keyed String Value)
    (w : World) : ((Call.createToken name kind given).job.run w).2.store =
      ((Job.createToken name kind given).run w).2.store := by
  rw [Call.job, Job.store_discarded (Job.does_createToken name kind given),
    (Job.does_createToken name kind given).store]

theorem Creation.exists_stored {w : World} {before after : Store} {name : String} {kind : Value}
    {given : Keyed String Value} {new : NewToken} (there : w.store = some before)
    (answered : ((Job.createToken name kind given).run w).1 = .ok new)
    (left : ((Job.createToken name kind given).run w).2.store = some after) :
    ∃ row, after.tokens.get? name = some row ∧ Stored name kind given w.clock new row := by
  have does := Job.does_createToken name kind given
  rw [does.answer, there] at answered
  rw [does.store, there] at left
  cases planned : createdToken name kind given (some before) w.clock with
  | error _ =>
    rw [planned] at answered
    cases answered
  | ok plan =>
    rw [planned] at answered left
    obtain ⟨_, _, row, ⟨⟩, same, made, inserted⟩ := stored_of_createdToken planned
    cases answered
    cases left.symm.trans same
    obtain ⟨-, rows, -⟩ := get?_insertToken inserted
    exact ⟨row, (rows name).trans (if_pos rfl), made⟩

/-- What lasts holds of a row and of any token as which it may have been created. -/
theorem Born.holds {P : String → NewToken → TokenRow → Prop} (lasting : Lasting P) {s : Store}
    {name : String} {new : NewToken} (born : Born s name new) {row : TokenRow}
    (stored : s.tokens.get? name = some row) : P name new row := by
  cases born with
  | created _ there _ answered left leads =>
    obtain ⟨first, found, made⟩ := Creation.exists_stored there answered left
    induction leads generalizing row with
    | refl =>
      cases found.symm.trans stored
      exact lasting.created made
    | call earlier there left ih =>
      obtain ⟨-, rows⟩ := Call.accounted there left
      cases rows name row stored with
      | kept was => exact ih was
      | updated was shown applied => exact lasting.updated (ih was) shown applied
      | created free => exact absurd (earlier.keys (Table.mem_keys_iff.2 ⟨first, found⟩)) free
    | domains _ _ ih => exact ih stored

theorem Reachable.exists_born {s : Store} (h : Reachable s) {name : String} {row : TokenRow}
    (stored : s.tokens.get? name = some row) : ∃ new, Born s name new := by
  have steps := h.leads
  clear h
  induction steps generalizing row with
  | refl => cases stored
  | @call t after c w first there left ih =>
    have later : Leads t after := .call .refl there left
    obtain ⟨-, rows⟩ := Call.accounted there left
    cases rows name row stored with
    | kept was => exact (ih was).imp fun _ origin => origin.leads later
    | updated was => exact (ih was).imp fun _ origin => origin.leads later
    | @created kind given new row free creates answered =>
      subst creates
      rw [Call.store_createToken] at left
      exact ⟨new, .created (.of_leads first) there free answered left .refl⟩
  | domains _ domains ih => exact (ih stored).imp fun _ origin => origin.leads (.domains .refl domains)

/-- What a token was given for a field by the last call that gave it something for it. -/
inductive LastGiven (name : String) (f : TokenField) : Store → f.Content → Prop where
  | given {s after : Store} {c : Call} {w : World} {content : f.Content} (reachable : Reachable s)
      (there : w.store = some s) (left : (c.job.run w).2.store = some after)
      (gives : c.Gives w name f content) : LastGiven name f after content
  | kept {s after : Store} {c : Call} {w : World} {content : f.Content}
      (before : LastGiven name f s content) (there : w.store = some s)
      (left : (c.job.run w).2.store = some after) (silent : ∀ other, ¬c.Gives w name f other) :
      LastGiven name f after content
  | domains {s : Store} {content : f.Content} (before : LastGiven name f s content)
      (domains : Table DomainRow) : LastGiven name f { s with domains } content

/-- A property of a row and of what its token was last given for a field. -/
structure Tracks (f : TokenField) (P : f.Content → TokenRow → Prop) : Prop where
  created : ∀ {name : String} {kind : Value} {given : Keyed String Value} {c : Clock}
    {new : NewToken} {row : TokenRow}, Creation.Stored name kind given c new row →
    P (new.token.content f) row
  given : ∀ {name : String} {row : TokenRow} {t : Token} {updates : Updates} {count : Answer Int}
    {d : Delta} {instant : Instant}, row.toToken name = .ok t → t.applied count updates = .ok d →
    f ∈ d.fields → P (d.after.content f) (row.update d.after d.fields instant)
  kept : ∀ {name : String} {content : f.Content} {row : TokenRow} {t : Token} {updates : Updates}
    {count : Answer Int} {d : Delta} {instant : Instant}, P content row →
    row.toToken name = .ok t → t.applied count updates = .ok d → f ∉ d.fields →
    P content (row.update d.after d.fields instant)

theorem LastGiven.holds {f : TokenField} {P : f.Content → TokenRow → Prop} (tracks : Tracks f P)
    {name : String} {s : Store} {content : f.Content} (h : LastGiven name f s content)
    {row : TokenRow} (stored : s.tokens.get? name = some row) : P content row := by
  induction h generalizing row with
  | given _ there left gives =>
    obtain ⟨-, rows⟩ := Call.accounted there left
    cases rows name row stored with
    | kept _ silent => exact absurd gives (silent f _)
    | updated _ shown applied only =>
      obtain ⟨changed, rfl⟩ := (only f _).1 gives
      exact tracks.given shown applied changed
    | created _ creates answered made =>
      subst creates
      cases gives with
      | created again =>
        cases answered.symm.trans again
        exact tracks.created made
  | kept _ there left silent ih =>
    obtain ⟨-, rows⟩ := Call.accounted there left
    cases rows name row stored with
    | kept was => exact ih was
    | updated was shown applied only =>
      exact tracks.kept (ih was) shown applied fun changed => silent _ ((only f _).2 ⟨changed, rfl⟩)
    | created _ creates answered =>
      subst creates
      exact absurd (.created answered) (silent _)
  | domains _ _ ih => exact ih stored

theorem Reachable.exists_lastGiven {s : Store} (h : Reachable s) {name : String} {row : TokenRow}
    (stored : s.tokens.get? name = some row) (f : TokenField) :
    ∃ content, LastGiven name f s content := by
  have steps := h.leads
  clear h
  induction steps generalizing row with
  | refl => cases stored
  | @call t after c w first there left ih =>
    by_cases gives : ∃ content, c.Gives w name f content
    · obtain ⟨content, gives⟩ := gives
      exact ⟨content, .given (.of_leads first) there left gives⟩
    · have silent : ∀ content, ¬c.Gives w name f content := not_exists.1 gives
      obtain ⟨-, rows⟩ := Call.accounted there left
      cases rows name row stored with
      | kept was => exact (ih was).imp fun _ before => before.kept there left silent
      | updated was => exact (ih was).imp fun _ before => before.kept there left silent
      | created _ creates answered =>
        subst creates
        exact absurd (.created answered) (silent _)
  | domains _ domains ih => exact (ih stored).imp fun _ before => before.domains domains

structure RowInvariant (P : String → TokenRow → Prop) : Prop where
  created : ∀ {identifier : String} {kind : Value} {given : Keyed String Value} {t : Token}
    {cell : Option String} {instant : Instant}, Token.Created identifier kind given t →
    t.fraction.isNaN = false → Column.writeText (Token.givenDomain given) = .ok cell →
    P identifier (TokenRow.ofToken { t with domain := cell } instant)
  updated : ∀ {name : String} {row : TokenRow} {t : Token} {updates : Updates}
    {count : Answer Int} {d : Delta} {instant : Instant}, P name row →
    row.toToken name = .ok t → t.applied count updates = .ok d →
    P name (row.update d.after d.fields instant)

def Rows (P : String → TokenRow → Prop) (s : Option Store) : Prop :=
  ∀ before, s = some before → ∀ name row, before.tokens.get? name = some row → P name row

theorem RowInvariant.lasting {P : String → TokenRow → Prop} (inv : RowInvariant P) :
    Lasting fun name _ row => P name row := by
  constructor
  · intro name kind given c new row stored
    obtain ⟨cell, _, instant, written, -, -, -, rfl⟩ := stored.stored
    exact inv.created stored.made stored.number (stored.domain ▸ written)
  · intro _ _ _ _ _ _ _ _ holds shown applied
    exact inv.updated holds shown applied

/-- What creations establish and updates keep holds of every row of a reachable store. -/
theorem Reachable.rows {P : String → TokenRow → Prop} (inv : RowInvariant P) {s : Store}
    (h : Reachable s) : Rows P (some s) := by
  rintro _ ⟨⟩ name row stored
  obtain ⟨_, born⟩ := h.exists_born stored
  exact born.holds inv.lasting stored

structure FieldInvariant (f : TokenField) (Q : f.Content → Prop) : Prop where
  created : ∀ {identifier : String} {kind : Value} {given : Keyed String Value} {t : Token},
    Token.Created identifier kind given t → Q (t.content f)
  updated : ∀ {count : Answer Int} {u : Updates} {t after : Token} {v : Value},
    Token.Updated count u t after → u.supplied? f = some v → Q (after.content f)

theorem FieldInvariant.rows {f : TokenField} {Q : f.Content → Prop} (inv : FieldInvariant f Q) :
    RowInvariant fun _ row => ∃ c, row.cell f = f.encode c ∧ Q c := by
  constructor
  · intro identifier kind given t cell instant created _ _
    have same : (TokenRow.ofToken { t with domain := cell } instant).cell f =
        f.encode (t.content f) := by
      cases f <;> rfl
    exact ⟨t.content f, same, inv.created created⟩
  · intro name row t updates count d instant before _ applied
    rw [TokenRow.cell_update]
    split
    · rename_i changed
      rcases Token.ok_of_applied applied with ⟨rfl, -⟩ | ⟨-, fields, updated⟩
      · cases changed
      · rw [fields] at changed
        obtain ⟨v, supplied⟩ := updated.supplied_of_differs changed
        exact ⟨_, rfl, inv.updated updated supplied⟩
    · exact before

theorem Reachable.cell {f : TokenField} {Q : f.Content → Prop} (inv : FieldInvariant f Q)
    {s : Store} (h : Reachable s) {name : String} {row : TokenRow}
    (stored : s.tokens.get? name = some row) : ∃ c, row.cell f = f.encode c ∧ Q c :=
  h.rows inv.rows s rfl name row stored

end RegistryTokens
