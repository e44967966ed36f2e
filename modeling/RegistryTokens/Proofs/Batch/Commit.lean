import RegistryTokens.Proofs.Batch.Selection

/-!
# What a batch commits

Writing one change touches one row, and the targets of a batch are rows of their own; so writing
all changes treats each row as its own change says. A row is rewritten in the changed fields and in
the time of its update, and nothing else in the store moves.
-/

set_option autoImplicit false

namespace RegistryTokens

open RegistryTokens.Time RegistryTokens.Store

namespace Batch

structure Wrote (instant : Instant) (deltas : List Delta) (before after : Store) : Prop where
  packages : after.packages = before.packages
  domains : after.domains = before.domains
  keys : after.tokens.keys = before.tokens.keys
  row : ∀ d ∈ deltas, after.tokens.get? d.before.identifier =
    (before.tokens.get? d.before.identifier).map fun row => row.update d.after d.fields instant
  others : ∀ name, name ∉ deltas.map (·.before.identifier) →
    after.tokens.get? name = before.tokens.get? name

theorem writeDelta_eq_ok {instant : Instant} {s after : Store} {d : Delta}
    (h : writeDelta instant s d = .ok after) : after = { s with
      tokens := s.tokens.modify d.before.identifier fun row =>
        row.update d.after d.fields instant } := by
  unfold writeDelta at h
  dsimp only at h
  split at h
  · obtain ⟨_, -, h⟩ := Answer.bind_eq_ok.1 h
    cases h
    rfl
  · cases h
    rfl

theorem get?_writeDelta_self {instant : Instant} {s after : Store} {d : Delta}
    (h : writeDelta instant s d = .ok after) : after.tokens.get? d.before.identifier =
      (s.tokens.get? d.before.identifier).map fun row => row.update d.after d.fields instant := by
  rw [writeDelta_eq_ok h]
  exact Table.get?_modify_self _ _ _

theorem get?_writeDelta_of_ne {instant : Instant} {s after : Store} {d : Delta} {name : String}
    (h : writeDelta instant s d = .ok after) (other : name ≠ d.before.identifier) :
    after.tokens.get? name = s.tokens.get? name := by
  rw [writeDelta_eq_ok h]
  exact Table.get?_modify_of_ne _ _ other

theorem keys_writeDelta {instant : Instant} {s after : Store} {d : Delta}
    (h : writeDelta instant s d = .ok after) : after.tokens.keys = s.tokens.keys := by
  rw [writeDelta_eq_ok h]
  exact Table.keys_modify _ _ _

theorem Wrote.cons {instant : Instant} {d : Delta} {rest : List Delta} {before next after : Store}
    (fresh : d.before.identifier ∉ rest.map (·.before.identifier))
    (h : writeDelta instant before d = .ok next) (hr : Wrote instant rest next after) :
    Wrote instant (d :: rest) before after := by
  have first := writeDelta_eq_ok h
  constructor
  · rw [hr.packages, first]
  · rw [hr.domains, first]
  · rw [hr.keys, keys_writeDelta h]
  · intro e he
    rcases List.mem_cons.1 he with rfl | inRest
    · rw [hr.others _ fresh, get?_writeDelta_self h]
    · have other : e.before.identifier ≠ d.before.identifier := fun same =>
        fresh (same ▸ List.mem_map_of_mem inRest)
      rw [hr.row e inRest, get?_writeDelta_of_ne h other]
  · intro name absent
    rw [List.map_cons, List.mem_cons, not_or] at absent
    rw [hr.others name absent.2, get?_writeDelta_of_ne h absent.1]

theorem wrote_of_foldlM {instant : Instant} {deltas : List Delta} {before after : Store}
    (apart : (deltas.map (·.before.identifier)).Nodup)
    (h : deltas.foldlM (writeDelta instant) before = .ok after) :
    Wrote instant deltas before after := by
  induction deltas generalizing before with
  | nil =>
    cases h
    exact ⟨rfl, rfl, rfl, fun _ hd => absurd hd List.not_mem_nil, fun _ _ => rfl⟩
  | cons d rest ih =>
    obtain ⟨fresh, apart⟩ := List.nodup_cons.1 apart
    rw [List.foldlM_cons] at h
    obtain ⟨next, first, h⟩ := Answer.bind_eq_ok.1 h
    exact .cons fresh first (ih apart h)

theorem Wrote.unique {instant : Instant} {deltas others : List Delta} {before after stored : Store}
    (same : ∀ d, d ∈ deltas ↔ d ∈ others) (h : Wrote instant deltas before after)
    (ho : Wrote instant others before stored) : after = stored := by
  have tokens : after.tokens = stored.tokens := by
    refine Table.ext_get? (h.keys.trans ho.keys.symm) fun name => ?_
    by_cases named : name ∈ deltas.map (·.before.identifier)
    · obtain ⟨d, hd, rfl⟩ := List.mem_map.1 named
      rw [h.row d hd, ho.row d ((same d).1 hd)]
    · rw [h.others name named, ho.others name]
      intro among
      obtain ⟨d, hd, rfl⟩ := List.mem_map.1 among
      exact named (List.mem_map_of_mem ((same d).2 hd))
  have packages : after.packages = stored.packages := h.packages.trans ho.packages.symm
  have domains : after.domains = stored.domains := h.domains.trans ho.domains.symm
  cases after
  cases stored
  cases tokens
  cases packages
  cases domains
  rfl

/-- What is made of the row of a token when some of its fields change. -/
structure Rewritten (updates : Updates) (c : Clock) (t : Token) (fields : List TokenField)
    (row after : TokenRow) : Prop where
  fixed : after.fixed = row.fixed
  written : ∀ f ∈ fields, ∃ v content, updates.supplied? f = some v ∧
    t.reading f v = .ok content ∧ after.cell f = f.encode content
  kept : ∀ f, f ∉ fields → after.cell f = row.cell f
  stamped : ∃ stamp, c.now = .ok stamp ∧ Column.writeStamp stamp = .ok after.updated

structure Committed (updates : Updates) (c : Clock) (outcomes : List Outcome)
    (before after : Store) : Prop where
  packages : after.packages = before.packages
  domains : after.domains = before.domains
  keys : after.tokens.keys = before.tokens.keys
  changed : ∀ o ∈ outcomes, o.changed = true → ∃ row rewritten t,
    before.tokens.get? o.token = some row ∧ row.toToken o.token = .ok t ∧
    after.tokens.get? o.token = some rewritten ∧
    Rewritten updates c t o.fields row rewritten
  others : ∀ name, (∀ o ∈ outcomes, o.token = name → o.changed = false) →
    after.tokens.get? name = before.tokens.get? name

theorem before_of_change {updates : Updates} {t : Token} {s : Option Store} {c : Clock} {d : Delta}
    (h : change updates t s c = .ok d) : d.before = t := by
  rcases Token.ok_of_applied h with ⟨rfl, -⟩ | ⟨before, -⟩
  · rfl
  · exact before

theorem written_of_change {updates : Updates} {t : Token} {s : Option Store} {c : Clock} {d : Delta}
    (h : change updates t s c = .ok d) {f : TokenField} (hf : f ∈ d.fields) :
    ∃ v, updates.supplied? f = some v ∧ t.reading f v = .ok (d.after.content f) := by
  rcases Token.ok_of_applied h with ⟨rfl, -⟩ | ⟨-, fields, updated⟩
  · cases hf
  · rw [fields] at hf
    obtain ⟨v, supplied⟩ := updated.supplied_of_differs hf
    exact ⟨v, supplied, updated.given f v supplied⟩

theorem rewritten_of_change {updates : Updates} {t : Token} {s : Option Store} {c : Clock}
    {d : Delta} {row : TokenRow} {stamp : Stamp} {instant : Instant}
    (h : change updates t s c = .ok d) (now : c.now = .ok stamp)
    (written : Column.writeStamp stamp = .ok instant) :
    Rewritten updates c t d.fields row (row.update d.after d.fields instant) := by
  constructor
  · exact row.fixed_update _ _ _
  · intro f hf
    obtain ⟨v, supplied, read⟩ := written_of_change h hf
    refine ⟨v, _, supplied, read, ?_⟩
    rw [TokenRow.cell_update, if_pos hf]
  · intro f hf
    rw [TokenRow.cell_update, if_neg hf]
  · exact ⟨stamp, now, written⟩

theorem names_of_changes {updates : Updates} {ts : List Token} {s : Option Store} {c : Clock}
    {deltas : List Delta} (h : (ts.mapM fun t => change updates t s c) = .ok deltas) :
    deltas.map (·.before.identifier) = ts.map (·.identifier) :=
  Answer.map_of_mapM h fun _ _ _ changed => by rw [before_of_change changed]

theorem wrote_of_changes {updates : Updates} {ts : List Token} {s : Option Store} {c : Clock}
    {deltas : List Delta} {instant : Instant} {before after : Store}
    (apart : (ts.map (·.identifier)).Nodup)
    (changing : (ts.mapM fun t => change updates t s c) = .ok deltas)
    (h : (deltas.filter (·.changed)).foldlM (writeDelta instant) before = .ok after) :
    Wrote instant (deltas.filter (·.changed)) before after := by
  apply wrote_of_foldlM _ h
  rw [← names_of_changes changing] at apart
  exact apart.sublist (List.filter_sublist.map _)

theorem row_of_change {updates : Updates} {ts : List Token} {before : Store} {c : Clock}
    {deltas : List Delta} (standing : ∀ t ∈ ts, Stands (some before) t)
    (changing : (ts.mapM fun t => change updates t (some before) c) = .ok deltas) {d : Delta}
    (hd : d ∈ deltas) : ∃ row, before.tokens.get? d.before.identifier = some row ∧
      row.toToken d.before.identifier = .ok d.before ∧
      change updates d.before (some before) c = .ok d := by
  obtain ⟨t, ht, change⟩ := Answer.exists_of_mem_mapM changing hd
  obtain ⟨_, row, ⟨⟩, found, read⟩ := standing t ht
  have same := before_of_change change
  subst same
  exact ⟨row, found, read, change⟩

/-- What is written for the changes of standing targets commits them. -/
theorem committed_of_written {updates : Updates} {ts : List Token} {before : Store} {c : Clock}
    {deltas : List Delta} {after : Option Store} (standing : ∀ t ∈ ts, Stands (some before) t)
    (apart : (ts.map (·.identifier)).Nodup)
    (changing : (ts.mapM fun t => change updates t (some before) c) = .ok deltas)
    (h : written deltas (some before) c = .ok after) :
    ∃ stored, after = some stored ∧
      Committed updates c (deltas.map Outcome.ofDelta) before stored := by
  rcases written_eq_ok h with ⟨still, rfl⟩ |
    ⟨stamp, instant, _, stored, now, stamped, ⟨⟩, rfl, folded⟩
  · refine ⟨before, rfl, rfl, rfl, rfl, fun o ho changed => ?_, fun _ _ => rfl⟩
    obtain ⟨d, hd, rfl⟩ := List.mem_map.1 ho
    exact absurd changed (Bool.eq_false_iff.1 (still d hd))
  · have wrote := wrote_of_changes apart changing folded
    refine ⟨stored, rfl, wrote.packages, wrote.domains, wrote.keys, fun o ho changed => ?_,
      fun name still => wrote.others name fun named => ?_⟩
    · obtain ⟨d, hd, rfl⟩ := List.mem_map.1 ho
      obtain ⟨row, found, read, change⟩ := row_of_change standing changing hd
      refine ⟨row, _, d.before, found, read, ?_, rewritten_of_change change now stamped⟩
      have written := wrote.row d (List.mem_filter.2 ⟨hd, changed⟩)
      rw [found] at written
      exact written
    · obtain ⟨d, hd, rfl⟩ := List.mem_map.1 named
      obtain ⟨hd, changed⟩ := List.mem_filter.1 hd
      have unchanged := still (Outcome.ofDelta d) (List.mem_map_of_mem hd) rfl
      exact absurd changed (Bool.eq_false_iff.1 unchanged)

/-- A live batch that was carried out: its targets, their changes and the store that it left. -/
structure Carried (request : Request) (c : Clock) (before after : Store) (ts : List Token)
    (deltas : List Delta) : Prop where
  found : targets request.selection (some before) = .ok ts
  changing : (ts.mapM fun t => change request.updates t (some before) c) = .ok deltas
  writing : written deltas (some before) c = .ok (some after)

section
variable {request : Request} {c : Clock} {before after : Store} {ts : List Token}
  {deltas : List Delta}

theorem Carried.selected (h : Carried request c before after ts deltas) :
    Selected request.selection (some before) (ts.map (·.identifier)) :=
  (selected_of_targets h.found).1

theorem Carried.standing (h : Carried request c before after ts deltas) :
    ∀ t ∈ ts, Stands (some before) t :=
  (selected_of_targets h.found).2

theorem Carried.names (h : Carried request c before after ts deltas) :
    deltas.map (·.before.identifier) = ts.map (·.identifier) :=
  names_of_changes h.changing

theorem Carried.committed (h : Carried request c before after ts deltas) :
    Committed request.updates c (deltas.map Outcome.ofDelta) before after := by
  obtain ⟨_, ⟨⟩, committed⟩ :=
    committed_of_written h.standing h.selected.nodup h.changing h.writing
  exact committed

theorem Carried.unique (h : Carried request c before after ts deltas) {d e : Delta}
    (hd : d ∈ deltas) (he : e ∈ deltas) (same : e.before.identifier = d.before.identifier) :
    e = d := by
  obtain ⟨_, found, read, change⟩ := row_of_change h.standing h.changing hd
  obtain ⟨_, foundAgain, readAgain, changeAgain⟩ := row_of_change h.standing h.changing he
  rw [same, found] at foundAgain
  cases foundAgain
  rw [same, read] at readAgain
  rw [← Except.ok.inj readAgain, change] at changeAgain
  cases changeAgain
  rfl

theorem Carried.row (h : Carried request c before after ts deltas) {d : Delta} (hd : d ∈ deltas) :
    ∃ row, before.tokens.get? d.before.identifier = some row ∧
      row.toToken d.before.identifier = .ok d.before ∧
      change request.updates d.before (some before) c = .ok d ∧
      (d.fields = [] ∧ after.tokens.get? d.before.identifier = some row ∨
        ∃ stamp instant, c.now = .ok stamp ∧ Column.writeStamp stamp = .ok instant ∧
          after.tokens.get? d.before.identifier =
            some (row.update d.after d.fields instant)) := by
  obtain ⟨row, found, read, change⟩ := row_of_change h.standing h.changing hd
  have unchanged (still : d.changed = false) : d.fields = [] := by simpa [Delta.changed] using still
  refine ⟨row, found, read, change, ?_⟩
  rcases written_eq_ok h.writing with
    ⟨still, same⟩ | ⟨stamp, instant, _, _, now, stamped, ⟨⟩, ⟨⟩, folded⟩
  · cases same
    exact .inl ⟨unchanged (still d hd), found⟩
  · have wrote := wrote_of_changes h.selected.nodup h.changing folded
    cases differs : d.changed with
    | true =>
      refine .inr ⟨stamp, instant, now, stamped, ?_⟩
      rw [wrote.row d (List.mem_filter.2 ⟨hd, differs⟩), found]
      rfl
    | false =>
      refine .inl ⟨unchanged differs, ?_⟩
      rw [wrote.others _ fun named => ?_, found]
      obtain ⟨e, kept, same⟩ := List.mem_map.1 named
      obtain ⟨he, changed⟩ := List.mem_filter.1 kept
      cases h.unique hd he same
      cases differs.symm.trans changed

theorem Carried.others (h : Carried request c before after ts deltas) {name : String}
    (apart : name ∉ ts.map (·.identifier)) :
    after.tokens.get? name = before.tokens.get? name := by
  refine h.committed.others name fun o ho same => ?_
  obtain ⟨d, hd, rfl⟩ := List.mem_map.1 ho
  have named : d.before.identifier ∈ ts.map (·.identifier) := h.names ▸ List.mem_map_of_mem hd
  exact absurd (same ▸ named) apart

theorem carried_of_planned (live : request.dryRun = false) {left : Option Store}
    (h : planned request (some before) c = .ok (deltas, left)) :
    ∃ ts after, left = some after ∧ Carried request c before after ts deltas := by
  obtain ⟨ts, found, changing, ⟨dry, -⟩ | ⟨-, writing⟩⟩ := planned_eq_ok h
  · cases live.symm.trans dry
  · obtain ⟨selected, standing⟩ := selected_of_targets found
    obtain ⟨after, rfl, -⟩ := committed_of_written standing selected.nodup changing writing
    exact ⟨ts, after, rfl, found, changing, writing⟩

end

theorem before_of_planned {request : Request} {s : Option Store} {after : Store} {c : Clock}
    {deltas : List Delta} (h : planned request s c = .ok (deltas, some after)) :
    ∃ before, s = some before := by
  obtain ⟨_, -, -, ⟨-, same⟩ | ⟨-, writing⟩⟩ := planned_eq_ok h
  · exact ⟨after, same.symm⟩
  · rcases written_eq_ok writing with ⟨-, same⟩ | ⟨_, _, before, _, -, -, there, -, -⟩
    · exact ⟨after, same.symm⟩
    · exact ⟨before, there⟩

/-- A batch leaves a store with the same names and the same packages. -/
theorem keys_of_planned {request : Request} {before : Store} {after : Option Store} {c : Clock}
    {deltas : List Delta} (h : planned request (some before) c = .ok (deltas, after)) :
    ∃ stored, after = some stored ∧ stored.tokens.keys = before.tokens.keys ∧
      stored.packages = before.packages := by
  cases live : request.dryRun with
  | true => exact ⟨before, store_planned h (.inl live), rfl, rfl⟩
  | false =>
    obtain ⟨_, stored, rfl, carried⟩ := carried_of_planned live h
    exact ⟨stored, rfl, carried.committed.keys, carried.committed.packages⟩

/-- A row after a batch: one from before it of which no field is reported as changed, or the update
of one by the change of its token. -/
inductive RowLeft (request : Request) (c : Clock) (before : Store) (deltas : List Delta)
    (name : String) : TokenRow → Prop where
  | kept {row : TokenRow} (found : before.tokens.get? name = some row)
      (still : request.dryRun = false → ∀ d ∈ deltas, d.before.identifier = name → d.fields = []) :
      RowLeft request c before deltas name row
  | updated {old : TokenRow} {d : Delta} {instant : Instant} (live : request.dryRun = false)
      (listed : d ∈ deltas) (named : d.before.identifier = name)
      (alone : ∀ e ∈ deltas, e.before.identifier = name → e = d)
      (found : before.tokens.get? name = some old) (shown : old.toToken name = .ok d.before)
      (changed : change request.updates d.before (some before) c = .ok d) :
      RowLeft request c before deltas name (old.update d.after d.fields instant)

theorem row_of_planned {request : Request} {before after : Store} {c : Clock}
    {deltas : List Delta} (h : planned request (some before) c = .ok (deltas, some after))
    {name : String} {row : TokenRow} (hr : after.tokens.get? name = some row) :
    RowLeft request c before deltas name row := by
  cases live : request.dryRun with
  | true =>
    cases store_planned h (.inl live)
    exact .kept hr fun dry => nomatch live.symm.trans dry
  | false =>
    obtain ⟨ts, _, ⟨⟩, carried⟩ := carried_of_planned live h
    by_cases named : name ∈ ts.map (·.identifier)
    · rw [← carried.names] at named
      obtain ⟨d, hd, rfl⟩ := List.mem_map.1 named
      have alone : ∀ e ∈ deltas, e.before.identifier = d.before.identifier → e = d :=
        fun e he => carried.unique hd he
      obtain ⟨old, stored, read, change, ⟨still, kept⟩ | ⟨_, instant, -, -, updated⟩⟩ :=
        carried.row hd
      · cases hr.symm.trans kept
        exact .kept stored fun _ e he same => alone e he same ▸ still
      · cases hr.symm.trans updated
        exact .updated live hd rfl alone stored read change
    · rw [carried.others named] at hr
      refine .kept hr fun _ d hd same => absurd ?_ named
      rw [← same, ← carried.names]
      exact List.mem_map_of_mem hd

theorem planned_of_run {identifier : String} {request : Request} {w : World} {r : Result}
    (h : ((run identifier request).run w).1 = .ok r) : ∃ deltas,
      planned request w.store w.clock = .ok (deltas, ((run identifier request).run w).2.store) ∧
      r = report request deltas := by
  have does := Job.does_run identifier request
  rw [does.store]
  rw [does.answer] at h
  cases hp : planned request w.store w.clock with
  | error failure =>
    rw [hp] at h
    cases h
  | ok plan =>
    rw [hp] at h
    cases h
    exact ⟨plan.1, rfl, rfl⟩

theorem committed_report {request : Request} (live : request.dryRun = false)
    (deltas : List Delta) : (report request deltas).committed = true ↔
      ∃ o ∈ (report request deltas).outcomes, o.changed = true := by
  simp [report, live, List.length_pos_iff_exists_mem]

/-- The outcomes of a batch, one for each of its targets and in their order. -/
structure Answered (request : Request) (w : World) (outcomes : List Outcome) (ts : List Token) :
    Prop where
  resolved : ((Job.resolve request.selection).run w).1 = .ok ts
  selected : Selected request.selection w.store (ts.map (·.identifier))
  apart : (ts.map (·.identifier)).Nodup
  named : outcomes.map (·.token) = ts.map (·.identifier)
  judged : outcomes.map .ok =
    ts.map fun t => (answerFor request.updates t w).map Outcome.ofDelta

theorem answered_of_changes {request : Request} {w : World} {ts : List Token} {deltas : List Delta}
    (found : targets request.selection w.store = .ok ts)
    (changing : (ts.mapM fun t => change request.updates t w.store w.clock) = .ok deltas) :
    Answered request w (report request deltas).outcomes ts := by
  obtain ⟨selected, -⟩ := selected_of_targets found
  refine ⟨?_, selected, selected.nodup, ?_, ?_⟩
  · rw [(Job.reads_resolve request.selection).answer]
    exact found
  · rw [← names_of_changes changing]
    exact List.map_map
  · have each := congrArg (List.map (Except.map Outcome.ofDelta)) (Answer.mapM_eq_ok.1 changing)
    simp only [Job.answerFor_eq]
    rw [List.map_map] at each
    refine Eq.trans ?_ each.symm
    simp only [report, List.map_map]
    rfl

/-- A batch that is run to its end rewrites the rows of the changed targets and nothing else. -/
theorem run_commits {identifier : String} {request : Request} {w : World} {r : Result}
    (live : request.dryRun = false) (h : ((run identifier request).run w).1 = .ok r) :
    (∃ ts, Answered request w r.outcomes ts) ∧
    (r.committed = true ↔ ∃ o ∈ r.outcomes, o.changed = true) ∧
    (w.store = none → ((run identifier request).run w).2.store = none) ∧
    ∀ before, w.store = some before → ∃ after,
      ((run identifier request).run w).2.store = some after ∧
      Committed request.updates w.clock r.outcomes before after := by
  obtain ⟨deltas, planning, rfl⟩ := planned_of_run h
  obtain ⟨ts, found, changing, ⟨dry, -⟩ | ⟨-, writing⟩⟩ := planned_eq_ok planning
  · rw [live] at dry
    cases dry
  obtain ⟨selected, standing⟩ := selected_of_targets found
  refine ⟨⟨ts, answered_of_changes found changing⟩, committed_report live deltas,
    fun missing => ?_, fun before there => ?_⟩
  · refine (store_planned planning (.inr fun d hd => ?_)).trans missing
    obtain ⟨t, ht, -⟩ := Answer.exists_of_mem_mapM changing hd
    obtain ⟨_, _, there, -⟩ := standing t ht
    cases missing.symm.trans there
  · rw [there] at standing changing writing
    exact committed_of_written standing selected.nodup changing writing

def plainRow (tlds : List String) : TokenRow where
  kind := .singleUse
  domain := none
  tlds := tlds
  registrars := []
  actions := []
  fraction := Number.Binary64.zero
  premiums := false
  years := 1
  renewal := .standard
  registration := .standard
  transitions := [("1970-01-01T00:00:00+00:00", "NOT_STARTED")]
  created := Instant.epoch
  updated := Instant.epoch

def threeStore : Store where
  tokens := ⟨[("T1", plainRow []), ("T2", plainRow ["dev"]), ("T3", plainRow [])], by decide⟩
  packages := .empty
  domains := .empty

def threeWorld : World where
  store := some threeStore
  clock := ⟨Clock.defaultStart, 0⟩

def devUpdates : Updates := Updates.empty.give .tlds (.assigned (.list [.text "dev"]))

/-- A batch of one target that changes and one that is as it is asked for already, with a third
token that it does not concern. -/
theorem run_commits_of_three : ∃ after,
    ((run "B1" ⟨⟨some ["T1", "T2"], none⟩, devUpdates, false⟩).run threeWorld).2.store =
      some after ∧
    Committed devUpdates threeWorld.clock [⟨"T1", [.tlds]⟩, ⟨"T2", []⟩] threeStore after ∧
    (∃ row, after.tokens.get? "T1" = some row ∧ row.tlds = ["dev"]) ∧
    after.tokens.get? "T2" = some (plainRow ["dev"]) ∧
    after.tokens.get? "T3" = some (plainRow []) := by
  have answered :
      ((run "B1" ⟨⟨some ["T1", "T2"], none⟩, devUpdates, false⟩).run threeWorld).1 =
        .ok ⟨[⟨"T1", [.tlds]⟩, ⟨"T2", []⟩], true, false⟩ :=
    Answer.eq_ok_of_toOption (by decide +kernel)
  obtain ⟨after, left, committed⟩ := (run_commits rfl answered).2.2.2 threeStore rfl
  refine ⟨after, left, committed, ?_, committed.others "T2" (by decide),
    committed.others "T3" (by decide)⟩
  obtain ⟨_, row, _, -, -, found, rewritten⟩ :=
    committed.changed ⟨"T1", [.tlds]⟩ List.mem_cons_self rfl
  obtain ⟨_, content, ⟨⟩, ⟨⟩, written⟩ := rewritten.written .tlds List.mem_cons_self
  refine ⟨row, found, written.trans ?_⟩
  change Column.writeTexts (SortedSet.ofList (Field.displays [.text "dev"])) = ["dev"]
  decide +kernel

end Batch

end RegistryTokens
