import RegistryTokens.Proofs.Answer
import RegistryTokens.Proofs.Config.Memory

/-!
# Reading a document

What can be read names a database and a level, and its counts are numbers that are no less than
zero. A document to which the environment was applied is read as before, but for the address and the
level that the environment gives; a level that there is not is the one thing that can go wrong.
-/

set_option autoImplicit false

namespace RegistryTokens.Config

open RegistryTokens.Text

theorem readCount_eq_ok {part name : String} {v : Value} {n : Int} :
    readCount part name v = .ok n ↔ v = .int n ∧ 0 ≤ n := by
  cases v with
  | int m =>
    by_cases negative : m < 0
    · simp only [readCount, negative, if_true, bad, Value.int.injEq]
      constructor
      · nofun
      · rintro ⟨rfl, atLeast⟩
        omega
    · simp only [readCount, negative, if_false, Value.int.injEq]
      constructor
      · intro same
        cases same
        exact ⟨rfl, Int.not_lt.1 negative⟩
      · rintro ⟨rfl, -⟩
        rfl
  | _ => simp [readCount, bad]

theorem readUrl_eq_ok {fields : Document} {url : String} : readUrl fields = .ok url ↔
    (field? fields "url").bind Value.asText? = some url ∧ url ≠ "" := by
  unfold readUrl
  cases (field? fields "url").bind Value.asText? with
  | none => simp [bad]
  | some given =>
    by_cases blank : given = ""
    · subst blank
      simp [bad]
    · have written : given.isEmpty = false := by simpa using blank
      simp only [written, Bool.false_eq_true, if_false, Except.ok.injEq, Option.some.injEq]
      constructor
      · rintro rfl
        exact ⟨rfl, blank⟩
      · exact fun named => named.1

def levelWord (fields : Document) : String := upper ((field? fields "level").getD "INFO").display

theorem find?_levels_iff {word : String} {l : Log.Level} :
    levels.find? (fun l => l.name == word) = some l ↔ l ∈ levels ∧ l.name = word := by
  constructor
  · intro found
    have named := List.find?_some found
    exact ⟨List.mem_of_find?_eq_some found, eq_of_beq named⟩
  · rintro ⟨there, rfl⟩
    revert l
    decide

theorem readLevel_eq_ok {fields : Document} {l : Log.Level} :
    readLevel fields = .ok l ↔ l ∈ levels ∧ l.name = levelWord fields := by
  rw [← find?_levels_iff]
  unfold readLevel levelWord
  dsimp only
  cases levels.find? fun l => l.name == upper ((field? fields "level").getD "INFO").display with
  | none => simp [bad]
  | some found => simp

def noLevel (word : String) : Answer Config :=
  bad ("logging.level must be one of CRITICAL, DEBUG, ERROR, INFO, WARNING, got " ++ quoted word)

structure Counts (fields : Document) (name : String) (otherwise n : Int) : Prop where
  written : (field? fields name).getD (.int otherwise) = .int n
  nonneg : 0 ≤ n

theorem readCount_eq_ok_iff {fields : Document} {part name : String} {otherwise n : Int} :
    readCount part name ((field? fields name).getD (.int otherwise)) = .ok n ↔
      Counts fields name otherwise n := by
  rw [readCount_eq_ok]
  constructor
  · intro h
    exact ⟨h.1, h.2⟩
  · intro h
    exact ⟨h.written, h.nonneg⟩

structure Parts (d database logging : Document) (c : Config) : Prop where
  identifier : c.identifier = ((field? d "config_id").getD "allocation-kernel").display
  version : Counts d "version" 1 c.version
  databaseRead : sectionOf d "database" = .ok database
  url : (field? database "url").bind Value.asText? = some c.url ∧ c.url ≠ ""
  echo : c.echo = ((field? database "echo").getD (.bool false)).truthy
  poolSize : Counts database "pool_size" 5 c.poolSize
  maxOverflow : Counts database "max_overflow" 10 c.maxOverflow
  loggingRead : sectionOf d "logging" = .ok logging

variable {d database logging : Document} {c : Config} {source : Option String}

theorem Parts.read (parts : Parts d database logging c) (source : Option String) :
    read source d = (readLevel logging).map fun level => { c with level, source } := by
  unfold Config.read
  rw [readCount_eq_ok_iff.2 parts.version, parts.databaseRead]
  dsimp only [bind, Except.bind]
  rw [readUrl_eq_ok.2 parts.url]
  dsimp only
  rw [readCount_eq_ok_iff.2 parts.poolSize]
  dsimp only
  rw [readCount_eq_ok_iff.2 parts.maxOverflow, parts.loggingRead]
  dsimp only
  cases readLevel logging with
  | error failure => rfl
  | ok level =>
    rw [← parts.identifier, ← parts.echo]
    rfl

theorem read_eq_ok : read source d = .ok c ↔ ∃ database logging,
    Parts d database logging c ∧ readLevel logging = .ok c.level ∧ c.source = source := by
  constructor
  · intro h
    unfold Config.read at h
    obtain ⟨version, hv, h⟩ := Answer.bind_eq_ok.1 h
    obtain ⟨database, hd, h⟩ := Answer.bind_eq_ok.1 h
    obtain ⟨url, hu, h⟩ := Answer.bind_eq_ok.1 h
    obtain ⟨poolSize, hp, h⟩ := Answer.bind_eq_ok.1 h
    obtain ⟨maxOverflow, hm, h⟩ := Answer.bind_eq_ok.1 h
    obtain ⟨logging, hl, h⟩ := Answer.bind_eq_ok.1 h
    obtain ⟨level, hn, h⟩ := Answer.bind_eq_ok.1 h
    cases h
    refine ⟨database, logging, ?_, hn, rfl⟩
    exact {
      identifier := rfl
      version := readCount_eq_ok_iff.1 hv
      databaseRead := hd
      url := readUrl_eq_ok.1 hu
      echo := rfl
      poolSize := readCount_eq_ok_iff.1 hp
      maxOverflow := readCount_eq_ok_iff.1 hm
      loggingRead := hl }
  · rintro ⟨database, logging, parts, named, rfl⟩
    rw [parts.read, named]
    rfl

theorem Counts.of_field? {fields fields' : Document} {name : String} {otherwise n : Int}
    (counts : Counts fields name otherwise n) (same : field? fields' name = field? fields name) :
    Counts fields' name otherwise n := by
  constructor
  · rw [same]
    exact counts.written
  · exact counts.nonneg

variable {e : Environment}

theorem url_amended {url : String}
    (read : (field? database "url").bind Value.asText? = some url ∧ url ≠ "") :
    (field? (amended database "url" (setting e urlVariable)) "url").bind Value.asText? =
        some ((setting e urlVariable).getD url) ∧ (setting e urlVariable).getD url ≠ "" := by
  rw [field?_amended]
  cases given : setting e urlVariable with
  | none => exact read
  | some value => exact ⟨rfl, setting_ne_empty given⟩

theorem Parts.overridden (parts : Parts d database logging c) (e : Environment) :
    Parts (overridden d database logging e) (amended database "url" (setting e urlVariable))
      (amended logging "level" (setting e levelVariable))
      { c with url := (setting e urlVariable).getD c.url } where
  identifier := by
    rw [field?_overridden (by decide) (by decide)]
    exact parts.identifier
  version := parts.version.of_field? (field?_overridden (by decide) (by decide))
  databaseRead := database_overridden parts.databaseRead
  url := url_amended parts.url
  echo := by
    rw [field?_amended_of_ne (by decide)]
    exact parts.echo
  poolSize := parts.poolSize.of_field? (field?_amended_of_ne (by decide) _ _)
  maxOverflow := parts.maxOverflow.of_field? (field?_amended_of_ne (by decide) _ _)
  loggingRead := logging_overridden parts.loggingRead

theorem levelWord_amended (logging : Document) (word : String) :
    levelWord (amended logging "level" (some word)) = upper word := by
  rw [levelWord, field?_amended]
  rfl

theorem readLevel_of_none {fields : Document} (none : ∀ l ∈ levels, l.name ≠ levelWord fields) :
    (readLevel fields).map (fun level => { c with level, source }) = noLevel (levelWord fields) := by
  have absent : levels.find? (fun l => l.name == levelWord fields) = .none := by
    apply List.find?_eq_none.2
    intro l there named
    exact none l there (eq_of_beq named)
  unfold readLevel
  dsimp only
  rw [show upper ((field? fields "level").getD "INFO").display = levelWord fields from rfl, absent]
  rfl

structure Valid (d : Document) (c : Config) : Prop where
  url : c.url ≠ ""
  version : Counts d "version" 1 c.version
  sizes : ∃ database, sectionOf d "database" = .ok database ∧
    Counts database "pool_size" 5 c.poolSize ∧ Counts database "max_overflow" 10 c.maxOverflow
  level : c.level ∈ levels

theorem valid_of_read (h : read source d = .ok c) : Valid d c := by
  obtain ⟨database, logging, parts, named, -⟩ := read_eq_ok.1 h
  constructor
  · exact parts.url.2
  · exact parts.version
  · exact ⟨database, parts.databaseRead, parts.poolSize, parts.maxOverflow⟩
  · exact (readLevel_eq_ok.1 named).1

/-- A document is another one with the environment applied: applying it again changes nothing, but for
the one field of each section all is as it was, and it is read as the other one but for what the
environment holds. A level that there is not is refused. -/
structure Overrides (source : Option String) (d d' : Document) (c : Config) (e : Environment) :
    Prop where
  again : override d' e = .ok d'
  others : ∀ name, "database" ≠ name → "logging" ≠ name → field? d' name = field? d name
  database : ∀ fields, sectionOf d "database" = .ok fields →
    sectionOf d' "database" = .ok (amended fields "url" (setting e urlVariable))
  logging : ∀ fields, sectionOf d "logging" = .ok fields →
    sectionOf d' "logging" = .ok (amended fields "level" (setting e levelVariable))
  unnamed : setting e levelVariable = none →
    read source d' = .ok { c with url := (setting e urlVariable).getD c.url }
  named : ∀ word, setting e levelVariable = some word → ∀ l ∈ levels, l.name = upper word →
    read source d' = .ok { c with url := (setting e urlVariable).getD c.url, level := l }
  unknown : ∀ word, setting e levelVariable = some word → (∀ l ∈ levels, l.name ≠ upper word) →
    read source d' = noLevel (upper word)

theorem overrides_overridden (parts : Parts d database logging c)
    (named : readLevel logging = .ok c.level) (e : Environment) :
    Overrides c.source d (overridden d database logging e) c e := by
  have read := (parts.overridden e).read c.source
  constructor
  · exact override_overridden parts.databaseRead parts.loggingRead
  · intro name apart apart'
    exact field?_overridden apart apart'
  · intro fields found
    cases parts.databaseRead.symm.trans found
    exact database_overridden found
  · intro fields found
    cases parts.loggingRead.symm.trans found
    exact logging_overridden found
  · intro none
    rw [read, none]
    show (readLevel logging).map _ = _
    rw [named]
    rfl
  · intro word given l there same
    have level : readLevel (amended logging "level" (some word)) = .ok l := by
      rw [readLevel_eq_ok, levelWord_amended]
      exact ⟨there, same⟩
    rw [read, given, level]
    rfl
  · intro word given absent
    rw [← levelWord_amended logging word] at absent
    rw [read, given, ← levelWord_amended logging word]
    exact readLevel_of_none absent

/-- A document that can be read is read, once the environment is applied to it, with the address and
the level of the environment in the place of its own and all else as before. In memory the overridden
document is a new one, and every document that was there before, the given one among them, reads as
it did. -/
theorem overridden_as_read (h : read source d = .ok c) (e : Environment) :
    Valid d c ∧ ∃ d', override d e = .ok d' ∧ Overrides source d d' c e ∧
      ∀ (m : Memory) (given : Nat), m.Whole → given < m.documents.length → m.view given = d →
        ∃ m', m.override given e = .ok m' ∧ m.Draft m' d' ∧
          ∀ place < m.documents.length, m'.view place = m.view place := by
  obtain ⟨database, logging, parts, named, rfl⟩ := read_eq_ok.1 h
  refine ⟨valid_of_read h, overridden d database logging e, ?_, overrides_overridden parts named e, ?_⟩
  · exact override_of_sections parts.databaseRead parts.loggingRead e
  · rintro m given whole inside rfl
    have made := Memory.follows_override whole inside e
    rw [override_of_sections parts.databaseRead parts.loggingRead] at made
    obtain ⟨m', answered, draft⟩ := made.exists_draft
    refine ⟨m', answered, draft, ?_⟩
    intro place before
    exact Memory.view_before draft whole before

theorem overridden_as_read_of_debug :
    let d : Document := [("version", .int 2), ("database", .map [("url", "sqlite://")])]
    let e : Environment := [(urlVariable, ""), (levelVariable, "debug")]
    let c : Config :=
      { identifier := "allocation-kernel", version := 2, url := "sqlite://", echo := false
        poolSize := 5, maxOverflow := 10, level := .info, source := none }
    let m : Memory :=
      { documents := [[("version", .value (.int 2)), ("database", .reference 0)]]
        sections := [[("url", "sqlite://")]] }
    read none d = .ok c ∧ ∃ d' m', override d e = .ok d' ∧
      read none d' = .ok { c with level := .debug } ∧
      m.override 0 e = .ok m' ∧ m'.view 0 = d ∧ m'.view 1 = d' := by
  intro d e c m
  have read : read none d = .ok c := by
    refine read_eq_ok.2 ⟨[("url", "sqlite://")], [], ?_, rfl, rfl⟩
    exact {
      identifier := by simp [d, c, Value.display]
      version := ⟨by simp [d, c], by decide⟩
      databaseRead := by simp [d, sectionOf, Value.truthy]
      url := ⟨by simp [c, Value.asText?], by decide⟩
      echo := by simp [c, Value.truthy]
      poolSize := ⟨by simp [c], by decide⟩
      maxOverflow := ⟨by simp [c], by decide⟩
      loggingRead := by simp [d, sectionOf, Value.truthy] }
  have whole : m.Whole := by
    intro slots there entry inside place refers
    rw [List.mem_singleton.1 there] at inside
    rcases List.mem_cons.1 inside with rfl | last
    · cases refers
    · cases List.mem_singleton.1 last ▸ refers
      exact Nat.one_pos
  obtain ⟨-, d', made, overrides, inMemory⟩ := overridden_as_read read e
  obtain ⟨m', made', draft, before⟩ := inMemory m 0 whole Nat.one_pos rfl
  refine ⟨read, d', m', made, ?_, made', before 0 Nat.one_pos, draft.reads⟩
  exact overrides.named "debug" rfl .debug (by decide) (by decide)

end RegistryTokens.Config
