import RegistryTokens.Config
import RegistryTokens.Proofs.Keyed

/-!
# Overridden documents

A variable of the environment that holds something takes the place of one field of one section. The
other fields of the section and the other entries of the document are found as they were, and
overriding a document again changes nothing.
-/

set_option autoImplicit false

namespace RegistryTokens

theorem Value.beq_text_iff {k : Value} {name : String} :
    (k == text name) = true ↔ k.asText? = some name := by
  show (same? k (text name) == some true) = true ↔ _
  cases k <;> simp [same?, asText?, asNumber?]

namespace Config

theorem name_beq_self (name : String) : (Value.text name == Value.text name) = true :=
  Value.beq_text_iff.2 rfl

theorem name_apart {name other : String} (h : name ≠ other) (k : Value)
    (named : (k == Value.text name) = true) : ¬(k == Value.text other) = true := by
  intro again
  rw [Value.beq_text_iff] at named again
  exact h (Option.some.inj (named.symm.trans again))

@[simp] theorem field?_nil (name : String) : field? [] name = none := rfl

@[simp] theorem field?_cons (name other : String) (v : Value) (d : Document) :
    field? ((.text name, v) :: d) other = if name = other then some v else field? d other := by
  by_cases same : name = other
  · subst same
    simp [field?, Keyed.get?, name_beq_self]
  · have apart : ¬(Value.text name == Value.text other) = true :=
      name_apart same _ (name_beq_self name)
    simp [field?, Keyed.get?, apart, same]

theorem field?_put_self (name : String) (v : Value) (d : Document) :
    field? (Keyed.put (.text name) v d) name = some v :=
  Keyed.get?_put_of_beq (name_beq_self name) d v

theorem field?_put_of_ne {name other : String} (h : name ≠ other) (v : Value) (d : Document) :
    field? (Keyed.put (.text name) v d) other = field? d other :=
  Keyed.get?_put_of_apart (name_beq_self name) (name_apart h) d v

theorem sectionOf_congr {d d' : Document} {name : String} (same : field? d' name = field? d name) :
    sectionOf d' name = sectionOf d name := by
  unfold sectionOf
  rw [same]

theorem sectionOf_put_self (name : String) {fields : Document} (filled : fields ≠ [])
    (d : Document) : sectionOf (Keyed.put (.text name) (.map fields) d) name = .ok fields := by
  have truthy : (Value.map fields).truthy = true := by
    simp [Value.truthy, filled]
  unfold sectionOf
  rw [field?_put_self]
  dsimp only [Option.getD_some]
  rw [if_pos truthy]

def setting (e : Environment) (variableName : String) : Option String :=
  (Keyed.get? e variableName).filter fun value => !value.isEmpty

theorem setting_ne_empty {e : Environment} {variableName value : String}
    (held : setting e variableName = some value) : value ≠ "" := by
  have kept : (!value.isEmpty) = true := (Option.filter_eq_some_iff.1 held).2
  simpa using kept

def amended (fields : Document) (field : String) (value : Option String) : Document :=
  value.elim fields fun value => Keyed.put (.text field) (.text value) fields

def replaced (d : Document) (name field : String) (fields : Document) (value : Option String) :
    Document :=
  value.elim d fun value =>
    Keyed.put (.text name) (.map (Keyed.put (.text field) (.text value) fields)) d

theorem field?_amended (fields : Document) (field : String) (value : Option String) :
    field? (amended fields field value) field = (value.map Value.text).or (field? fields field) := by
  cases value with
  | none => rfl
  | some value => exact field?_put_self field (.text value) fields

theorem field?_amended_of_ne {field other : String} (h : field ≠ other) (fields : Document)
    (value : Option String) : field? (amended fields field value) other = field? fields other := by
  cases value with
  | none => rfl
  | some value => exact field?_put_of_ne h (.text value) fields

theorem field?_replaced_of_ne {name other : String} (h : name ≠ other) (d : Document)
    (field : String) (fields : Document) (value : Option String) :
    field? (replaced d name field fields value) other = field? d other := by
  cases value with
  | none => rfl
  | some value => exact field?_put_of_ne h _ d

theorem sectionOf_replaced {d fields : Document} {name : String}
    (read : sectionOf d name = .ok fields) (field : String) (value : Option String) :
    sectionOf (replaced d name field fields value) name = .ok (amended fields field value) := by
  cases value with
  | none => exact read
  | some value => exact sectionOf_put_self name (Keyed.put_ne_nil _ _ _) d

theorem field?_replaced_self {value : Option String} (given : value ≠ none) (d : Document)
    (name field : String) (fields : Document) :
    field? (replaced d name field fields value) name = some (.map (amended fields field value)) := by
  cases value with
  | none => exact absurd rfl given
  | some value => exact field?_put_self name _ d

theorem replaced_of_amended {d fields : Document} {name field : String} {value : Option String}
    (there : value ≠ none → field? d name = some (.map (amended fields field value))) :
    replaced d name field (amended fields field value) value = d := by
  cases value with
  | none => rfl
  | some value =>
    have same : Keyed.put (.text field) (.text value) (amended fields field (some value)) =
        amended fields field (some value) :=
      Keyed.put_put (name_beq_self field) fields _ _
    show Keyed.put _ (.map (Keyed.put _ _ (amended fields field (some value)))) d = d
    rw [same]
    exact Keyed.put_of_get? (there nofun)

theorem overrideField_of_section {given fields : Document} {name : String}
    (read : sectionOf given name = .ok fields) (e : Environment) (variableName field : String)
    (d : Document) : overrideField given e variableName name field d =
      .ok (replaced d name field fields (setting e variableName)) := by
  unfold overrideField setting replaced
  cases (Keyed.get? e variableName).filter fun value => !value.isEmpty with
  | none => rfl
  | some value =>
    rw [read]
    rfl

/-- The document that the environment makes of one whose sections can be read. -/
def overridden (d database logging : Document) (e : Environment) : Document :=
  replaced (replaced d "database" "url" database (setting e urlVariable)) "logging" "level" logging
    (setting e levelVariable)

variable {d database logging : Document} {e : Environment}

theorem override_of_sections (readDatabase : sectionOf d "database" = .ok database)
    (readLogging : sectionOf d "logging" = .ok logging) (e : Environment) :
    override d e = .ok (overridden d database logging e) := by
  unfold override
  rw [overrideField_of_section readDatabase]
  exact overrideField_of_section readLogging e levelVariable "level" _

theorem field?_overridden {name : String} (database' : "database" ≠ name)
    (logging' : "logging" ≠ name) :
    field? (overridden d database logging e) name = field? d name := by
  rw [overridden, field?_replaced_of_ne logging', field?_replaced_of_ne database']

theorem database_overridden (readDatabase : sectionOf d "database" = .ok database) :
    sectionOf (overridden d database logging e) "database" =
      .ok (amended database "url" (setting e urlVariable)) := by
  rw [overridden, sectionOf_congr (field?_replaced_of_ne (by decide) _ _ _ _),
    sectionOf_replaced readDatabase]

theorem logging_overridden (readLogging : sectionOf d "logging" = .ok logging) :
    sectionOf (overridden d database logging e) "logging" =
      .ok (amended logging "level" (setting e levelVariable)) := by
  have kept : sectionOf (replaced d "database" "url" database (setting e urlVariable)) "logging" =
      .ok logging := by
    rw [sectionOf_congr (field?_replaced_of_ne (by decide) _ _ _ _), readLogging]
  exact sectionOf_replaced kept "level" _

/-- A document to which the environment was applied is left alone by it. -/
theorem override_overridden (readDatabase : sectionOf d "database" = .ok database)
    (readLogging : sectionOf d "logging" = .ok logging) :
    override (overridden d database logging e) e = .ok (overridden d database logging e) := by
  rw [override_of_sections (database_overridden readDatabase) (logging_overridden readLogging)]
  have first : replaced (overridden d database logging e) "database" "url"
      (amended database "url" (setting e urlVariable)) (setting e urlVariable) =
        overridden d database logging e := by
    apply replaced_of_amended
    intro given
    rw [overridden, field?_replaced_of_ne (by decide)]
    exact field?_replaced_self given d "database" "url" database
  have second : replaced (overridden d database logging e) "logging" "level"
      (amended logging "level" (setting e levelVariable)) (setting e levelVariable) =
        overridden d database logging e := by
    apply replaced_of_amended
    intro given
    exact field?_replaced_self given _ "logging" "level" logging
  rw [overridden.eq_1 (overridden d database logging e), first, second]

end Config

end RegistryTokens
