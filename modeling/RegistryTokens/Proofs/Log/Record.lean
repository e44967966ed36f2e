import RegistryTokens.Log.Record
import RegistryTokens.Proofs.Keyed
import RegistryTokens.Proofs.Log.Encoding
import RegistryTokens.Proofs.Text.JsonLine
import RegistryTokens.Proofs.Text.JsonReader

/-!
# Lines that cannot be forged

The line of a record is one line, and what is read back from it is the record: the envelope and the
context as they are, whatever extras and attributes are called, and every text unchanged.
-/

set_option autoImplicit false

namespace RegistryTokens

open RegistryTokens.Text

namespace Log

/-! ## The fields of a record -/

namespace Record

theorem withExtras_eq (payload : Keyed String Value) (extras : List (String × Value)) :
    withExtras payload extras = payload ++ (Keyed.ofList extras).filter fun e =>
      !(reserved.contains e.1 || Keyed.has payload e.1) := by
  have each (entries : Keyed String Value) (apart : entries.keys.Nodup) :
      ∀ payload : Keyed String Value, entries.foldl (fun p e =>
        if reserved.contains e.1 || Keyed.has p e.1 then p else p ++ [e]) payload =
          payload ++ entries.filter fun e => !(reserved.contains e.1 || Keyed.has payload e.1) := by
    induction entries with
    | nil => simp
    | cons entry rest ih =>
      intro payload
      obtain ⟨fresh, apart⟩ := List.nodup_cons.1 apart
      rw [List.foldl_cons, ih apart, List.filter_cons]
      by_cases held : (reserved.contains entry.1 || Keyed.has payload entry.1) = true
      · rw [if_pos held, held, Bool.not_true, if_neg Bool.false_ne_true]
      · have same : rest.filter (fun e =>
            !(reserved.contains e.1 || Keyed.has (payload ++ [entry]) e.1)) =
            rest.filter fun e => !(reserved.contains e.1 || Keyed.has payload e.1) := by
          refine List.filter_congr fun e member => ?_
          have other : ¬(entry.1 == e.1) = true := fun equal =>
            fresh (List.mem_map.2 ⟨e, member, (eq_of_beq equal).symm⟩)
          simp [Keyed.has, other]
        rw [if_neg held, same, Bool.eq_false_iff.2 held]
        simp
  exact each _ (Keyed.nodup_ofList extras) payload

theorem get?_withExtras (payload : Keyed String Value) (extras : List (String × Value))
    (name : String) : Keyed.get? (withExtras payload extras) name =
      (Keyed.get? payload name).or
        (if reserved.contains name then none else Keyed.get? (Keyed.ofList extras) name) := by
  rw [withExtras_eq, Keyed.get?_append,
    Keyed.get?_filter fun name => !(reserved.contains name || Keyed.has payload name)]
  cases found : Keyed.get? payload name with
  | some v => rfl
  | none =>
    rw [Keyed.has_eq_isSome, found, Option.isSome_none, Bool.or_false]
    cases reserved.contains name <;> rfl

theorem keys_withExtras_nodup {payload : Keyed String Value} (h : payload.keys.Nodup)
    (extras : List (String × Value)) : (withExtras payload extras).keys.Nodup := by
  rw [withExtras_eq, Keyed.keys, List.map_append, List.nodup_append]
  refine ⟨h, (Keyed.nodup_ofList extras).sublist (List.filter_sublist.map _), ?_⟩
  intro name there other extra
  rintro rfl
  obtain ⟨e, member, rfl⟩ := List.mem_map.1 extra
  have new := (List.mem_filter.1 member).2
  rw [Keyed.has_iff.2 there] at new
  simp at new

theorem keys_envelope_nodup (r : Record) : r.envelope.keys.Nodup := by
  unfold envelope Context.fields
  cases r.created <;> cases batch : r.context.batch <;> cases token : r.context.token <;>
    simp [Keyed.keys, ContextField.all, Context.get, ContextField.name, timeName, batch, token]

theorem keys_payload_nodup (r : Record) : r.payload.keys.Nodup := by
  have told := keys_withExtras_nodup r.keys_envelope_nodup
    (r.extras.filter fun e => !r.withholds e.1)
  unfold payload
  cases r.incident with
  | none => exact told
  | some i => exact Keyed.nodup_extend told i.fields

theorem name_of_mem_fields {i : Incident} {name : String} (h : name ∈ i.fields.map (·.1)) :
    name = Incident.traceName ∨ ∃ rest, name = "exc_" ++ rest := by
  obtain ⟨f, member, rfl⟩ := List.mem_map.1 h
  simp only [Incident.fields, List.mem_append, List.mem_cons, List.mem_map, Option.mem_toList,
    List.mem_filter] at member
  rcases member with ((rfl | rfl | ⟨c, -, rfl⟩) | ⟨a, -, rfl⟩) | ⟨t, -, rfl⟩
  · exact .inr ⟨"type", rfl⟩
  · exact .inr ⟨"message", rfl⟩
  · exact .inr ⟨"code", rfl⟩
  · exact .inr ⟨a.1, rfl⟩
  · exact .inl rfl

def Apart (name : String) : Prop := name ≠ Incident.traceName ∧ name.toList.take 4 ≠ "exc_".toList

instance (name : String) : Decidable (Apart name) := inferInstanceAs (Decidable (_ ∧ _))

theorem get?_payload {r : Record} {name : String} (apart : Apart name) :
    Keyed.get? r.payload name = (Keyed.get? r.envelope name).or
      (if reserved.contains name || r.withholds name then none
        else Keyed.get? r.extras.reverse name) := by
  have told : Keyed.get? (withExtras r.envelope (r.extras.filter fun e => !r.withholds e.1)) name =
      (Keyed.get? r.envelope name).or (if reserved.contains name || r.withholds name then none
        else Keyed.get? r.extras.reverse name) := by
    rw [get?_withExtras, Keyed.get?_ofList, ← List.filter_reverse,
      Keyed.get?_filter fun name => !r.withholds name]
    cases reserved.contains name <;> cases r.withholds name <;> rfl
  unfold payload
  cases r.incident with
  | none => exact told
  | some i =>
    have other : name ∉ i.fields.map (·.1) := by
      intro used
      rcases name_of_mem_fields used with same | ⟨rest, same⟩
      · exact apart.1 same
      · exact apart.2 (by rw [same, String.toList_append]; rfl)
    exact (Keyed.get?_extend_of_not_mem other).trans told

structure Enveloped (r : Record) (field : String → Option Value) : Prop where
  time : field timeName = r.created.map fun i => .text i.iso
  level : field "level" = some (.text r.level.name)
  logger : field "logger" = some (.text r.logger)
  message : field "message" = some (.text r.message)
  context : ∀ f : ContextField, field f.name = (r.context.get f).map .text

theorem enveloped (r : Record) : Enveloped r (Keyed.get? r.envelope) := by
  obtain ⟨level, logger, message, ⟨batch, token⟩, extras, incident, created⟩ := r
  cases batch <;> cases token <;> cases created <;>
    exact ⟨rfl, rfl, rfl, rfl, fun f => by cases f <;> rfl⟩

theorem get?_payload_of_envelope {r : Record} {name : String} (apart : Apart name) {v : Value}
    (h : Keyed.get? r.envelope name = some v) : Keyed.get? r.payload name = some v := by
  rw [get?_payload apart, h, Option.some_or]

theorem get?_payload_time (r : Record) :
    Keyed.get? r.payload timeName = r.created.map fun i => .text i.iso := by
  rw [get?_payload (by decide), r.enveloped.time]
  cases made : r.created with
  | some i => rfl
  | none =>
    have withheld : r.withholds timeName = true := by
      rw [withholds, made]
      rfl
    rw [withheld, Bool.or_true]
    rfl

theorem get?_payload_context (r : Record) (f : ContextField) : Keyed.get? r.payload f.name =
    ((r.context.get f).map .text).or (Keyed.get? r.extras.reverse f.name) := by
  have free : reserved.contains f.name = false ∧ r.withholds f.name = false := by
    cases f <;> exact ⟨by decide, rfl⟩
  rw [get?_payload (by cases f <;> decide), r.enveloped.context, free.1, free.2]
  rfl

/-! ## The tree of a record -/

def Accepted (r : Record) : Prop := ∀ name v, (name, v) ∈ r.payload → Encodable v

theorem accepted_of_values {r : Record} (extras : ∀ e ∈ r.extras, Encodable e.2)
    (incident : ∀ i ∈ r.incident, ∀ f ∈ i.fields, Encodable f.2) : r.Accepted := by
  have envelope : ∀ e ∈ r.envelope, Encodable e.2 := by
    intro e member
    simp only [Record.envelope, List.mem_append, List.mem_map] at member
    rcases member with (⟨i, -, rfl⟩ | fixed) | ⟨f, -, rfl⟩
    · trivial
    · simp only [List.mem_cons, List.not_mem_nil, or_false] at fixed
      rcases fixed with rfl | rfl | rfl <;> trivial
    · trivial
  have told : ∀ e ∈ withExtras r.envelope (r.extras.filter fun e => !r.withholds e.1),
      Encodable e.2 := by
    intro e member
    rw [withExtras_eq, List.mem_append] at member
    rcases member with member | member
    · exact envelope e member
    · exact extras e (List.mem_filter.1 (Keyed.mem_of_mem_ofList (List.mem_filter.1 member).1)).1
  intro name v member
  unfold payload at member
  cases made : r.incident with
  | none =>
    rw [made] at member
    exact told _ member
  | some i =>
    rw [made] at member
    have apart := keys_withExtras_nodup r.keys_envelope_nodup
      (r.extras.filter fun e => !r.withholds e.1)
    rcases Keyed.mem_of_mem_extend apart member with field | ⟨old, -⟩
    · exact incident i made _ field
    · exact told _ old

theorem exists_trees {entries : Keyed String Value} (accepted : ∀ e ∈ entries, Encodable e.2) :
    ∃ trees : Keyed String Json,
      entries.mapM (fun f => do pure (f.1, ← encode f.2)) = Except.ok trees ∧
        trees.keys = entries.keys ∧
        ∀ name v, (name, v) ∈ entries → ∃ j, encode v = .ok j ∧ (name, j) ∈ trees := by
  induction entries with
  | nil => exact ⟨[], rfl, rfl, nofun⟩
  | cons e rest ih =>
    obtain ⟨first, later⟩ := List.forall_mem_cons.1 accepted
    obtain ⟨j, encoded⟩ := (exists_encode_iff e.2).2 first
    obtain ⟨trees, made, keys, each⟩ := ih later
    refine ⟨(e.1, j) :: trees, ?_, congrArg (e.1 :: ·) keys, fun name v member => ?_⟩
    · rw [List.mapM_cons, encoded, made]
      rfl
    · rcases List.mem_cons.1 member with rfl | member
      · exact ⟨j, encoded, List.mem_cons_self⟩
      · obtain ⟨k, encoded, member⟩ := each name v member
        exact ⟨k, encoded, List.mem_cons_of_mem _ member⟩

structure ReadBack (r : Record) (fields : List (String × Json)) : Prop where
  names : fields.map (·.1) = r.payload.keys
  distinct : (fields.map (·.1)).Nodup
  texts : ∀ name v s, (name, v) ∈ r.payload → encode v = .ok (.text s) → (name, .text s) ∈ fields
  values : ∀ name v, (name, v) ∈ r.payload → ∃ j, encode v = .ok j ∧ (name, j.settled) ∈ fields

theorem exists_readBack {r : Record} (accepted : r.Accepted) : ∃ line fields, r.line = .ok line ∧
    Text.Json.Plain line.toList ∧ Json.read? line = some (.object fields) ∧ r.ReadBack fields := by
  obtain ⟨trees, made, keys, each⟩ := exists_trees fun e member => accepted e.1 e.2 member
  have tree : r.tree = .ok (.object trees) := by
    rw [Record.tree, made]
    rfl
  have names : (Json.settledFields trees).map (·.1) = r.payload.keys := by
    rw [Json.settledFields_eq_map, List.map_map, ← keys]
    rfl
  have values : ∀ name v, (name, v) ∈ r.payload →
      ∃ j, encode v = .ok j ∧ (name, j.settled) ∈ Json.settledFields trees := by
    intro name v member
    obtain ⟨j, encoded, there⟩ := each name v member
    rw [Json.settledFields_eq_map]
    exact ⟨j, encoded, List.mem_map.2 ⟨_, there, rfl⟩⟩
  refine ⟨_, _, by rw [line, tree]; rfl, ?_, Json.read?_line _, names,
    names ▸ r.keys_payload_nodup, ?_, values⟩
  · rw [Json.line, String.toList_ofList]
    exact Json.plain_chars _
  · intro name v s member text
    obtain ⟨j, encoded, there⟩ := values name v member
    cases encoded.symm.trans text
    exact there

section
variable {r : Record} {fields : List (String × Json)} {name : String}

theorem ReadBack.field?_eq (h : r.ReadBack fields) (name : String) :
    Json.field? name (.object fields) = Keyed.get? fields name :=
  Keyed.get?_reverse h.distinct name

theorem ReadBack.field?_text (h : r.ReadBack fields) {s : String}
    (there : Keyed.get? r.payload name = some (.text s)) :
    Json.field? name (.object fields) = some (.text s) := by
  have member := (Keyed.get?_eq_some_iff r.keys_payload_nodup).1 there
  rw [h.field?_eq, Keyed.get?_eq_some_iff h.distinct]
  exact h.texts name _ s member rfl

theorem ReadBack.field?_none (h : r.ReadBack fields) (absent : Keyed.get? r.payload name = none) :
    Json.field? name (.object fields) = none := by
  rw [h.field?_eq, Keyed.get?_eq_none_iff, Keyed.keys, h.names]
  exact Keyed.get?_eq_none_iff.1 absent

theorem ReadBack.field?_some (h : r.ReadBack fields) {v : Value}
    (there : Keyed.get? r.payload name = some v) : ∃ j, encode v = .ok j ∧
      Json.field? name (.object fields) = some j.settled := by
  have member := (Keyed.get?_eq_some_iff r.keys_payload_nodup).1 there
  obtain ⟨j, encoded, found⟩ := h.values name v member
  exact ⟨j, encoded, by rw [h.field?_eq, Keyed.get?_eq_some_iff h.distinct]; exact found⟩

end

/-- What the fields of a line say of the record whatever its extras and its incident are called. A
field of the context that is not set says what the last extra of its name is, or nothing. -/
structure Unforged (r : Record) (fields : List (String × Json)) : Prop where
  time : Json.field? timeName (.object fields) = r.created.map fun i => .text i.iso
  level : Json.field? "level" (.object fields) = some (.text r.level.name)
  logger : Json.field? "logger" (.object fields) = some (.text r.logger)
  message : Json.field? "message" (.object fields) = some (.text r.message)
  set : ∀ (f : ContextField) v, r.context.get f = some v →
    Json.field? f.name (.object fields) = some (.text v)
  unset : ∀ (f : ContextField), r.context.get f = none →
    ∀ j, Json.field? f.name (.object fields) = some j → ∃ v tree,
      Keyed.get? r.extras.reverse f.name = some v ∧ encode v = .ok tree ∧ j = tree.settled

theorem ReadBack.unforged {r : Record} {fields : List (String × Json)} (h : r.ReadBack fields) :
    r.Unforged fields where
  time := by
    have told := r.get?_payload_time
    cases made : r.created with
    | some i =>
      rw [made] at told
      exact h.field?_text told
    | none =>
      rw [made] at told
      exact h.field?_none told
  level := h.field?_text (get?_payload_of_envelope (by decide) r.enveloped.level)
  logger := h.field?_text (get?_payload_of_envelope (by decide) r.enveloped.logger)
  message := h.field?_text (get?_payload_of_envelope (by decide) r.enveloped.message)
  set f v held := h.field?_text (by rw [get?_payload_context, held]; rfl)
  unset f free j found := by
    have told := r.get?_payload_context f
    rw [free, Option.map_none, Option.none_or] at told
    cases extra : Keyed.get? r.extras.reverse f.name with
    | none =>
      rw [h.field?_none (told.trans extra)] at found
      cases found
    | some v =>
      obtain ⟨tree, encoded, there⟩ := h.field?_some (told.trans extra)
      exact ⟨v, tree, rfl, encoded, Option.some.inj (found.symm.trans there)⟩

/-- The line of a record whose values are accepted is one line of printable ASCII, and reads back as
an object that tells the record. -/
theorem line_reads_back {r : Record} (accepted : r.Accepted) : ∃ line fields,
    r.line = .ok line ∧ (∀ c ∈ line.toList, ' '.toNat ≤ c.toNat ∧ c.toNat ≤ '~'.toNat) ∧
    Json.read? line = some (.object fields) ∧ r.ReadBack fields ∧ r.Unforged fields := by
  obtain ⟨line, fields, written, plain, read, told⟩ := exists_readBack accepted
  exact ⟨line, fields, written, plain, read, told, told.unforged⟩

/-- A record that is made to look like another one, by its words and by the names of its extras and
of the attributes of its failure. -/
def forgery : Record where
  level := .custom 35 "HIGH\n"
  logger := "a\"b"
  message := "done\", \"level\": \"DEBUG\n\u2028😀"
  context := { batch := some "B1" }
  extras := [("level", .text "DEBUG"), ("batch_id", .text "B2"), ("token_identifier", .text "T1"),
    ("ts", .null), ("message", .int 1), ("traceback", .float .nan)]
  incident := some { name := "E", code := some (.text "C"), trace := some "line 1\nline 2"
                     attributes := [("batch_id", .text "B3"), ("type", .null)] }

theorem line_reads_back_of_forgery : ∃ line fields, forgery.line = .ok line ∧
    Json.read? line = some (.object fields) ∧
    Json.field? "level" (.object fields) = some (.text "HIGH\n") ∧
    Json.field? "batch_id" (.object fields) = some (.text "B1") ∧
    Json.field? "token_identifier" (.object fields) = some (.text "T1") ∧
    ("traceback", .text "line 1\nline 2") ∈ fields := by
  have accepted : forgery.Accepted := by
    refine accepted_of_values (fun e member => ?_) fun i some f member => ?_
    · simp only [forgery, List.mem_cons, List.not_mem_nil, or_false] at member
      rcases member with rfl | rfl | rfl | rfl | rfl | rfl <;> trivial
    · cases some
      simp [Incident.fields, Incident.isPublic, Incident.traceName] at member
      rcases member with rfl | rfl | rfl | rfl | rfl | rfl <;> trivial
  obtain ⟨line, fields, written, -, read, told, unforged⟩ := line_reads_back accepted
  refine ⟨line, fields, written, read, unforged.level, unforged.set .batch "B1" rfl, ?_, ?_⟩
  · exact told.field?_text ((forgery.get?_payload_context .token).trans rfl)
  · have kept : Keyed.get? forgery.payload "traceback" = some (.text "line 1\nline 2") := rfl
    exact told.texts _ _ _ ((Keyed.get?_eq_some_iff forgery.keys_payload_nodup).1 kept) rfl

end Record

end Log

end RegistryTokens
