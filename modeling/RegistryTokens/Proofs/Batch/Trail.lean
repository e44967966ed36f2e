import RegistryTokens.Proofs.Batch.Outage

/-!
# The trail of a batch

A batch opens with a note, works in a transaction and closes with a summary, or with a note that the
transaction was rolled back. What is noted while the change of a token is computed carries the name
of that token, and everything else what the caller was at; in the end the caller is there again.
-/

set_option autoImplicit false

namespace RegistryTokens

open RegistryTokens.Time RegistryTokens.Store

namespace Batch

open Job

def heads (identifier : String) (extras : List (String × Value)) (w : World) : List Log.Record :=
  [note (w.context.put .batch (some identifier)) .info logger "token_batch_started" extras,
    note (w.context.put .batch (some identifier)) .debug engineLogger "transaction_started" []]

def inside (identifier : String) (extras : List (String × Value)) (w : World) : World :=
  { w with
    context := w.context.put .batch (some identifier)
    journal := w.journal ++ heads identifier extras w }

def rolledBack (c : Log.Context) (failure : Failure) : Log.Record :=
  { note c .warning engineLogger "transaction_rolled_back" [] with
    incident := some (Log.Incident.ofFailure failure) }

def closing (c : Log.Context) (message : String) (counts : List Delta → List (String × Value)) :
    Answer (List Delta) → List Log.Record
  | .ok deltas => [note c .debug engineLogger "transaction_committed" [],
      note c .info logger message (counts deltas)]
  | .error failure => [rolledBack c failure]

theorem run_tellFault_transact (work : Job (List Delta)) (w : World) :
    (tellFault (transact work)).run w =
      match work.run (w.log .debug engineLogger "transaction_started" [] none) with
      | (.ok deltas, after) =>
        (.ok deltas, after.log .debug engineLogger "transaction_committed" [] none)
      | (.error failure, after) => (.error (told failure), { after with store := w.store }.log
          .warning engineLogger "transaction_rolled_back" []
            (some (Log.Incident.ofFailure failure))) := by
  simp only [tellFault, transact, ExceptT.run, ExceptT.mk]
  generalize work (w.log .debug engineLogger "transaction_started" [] none) = r
  obtain ⟨result, after⟩ := r
  cases result with
  | ok deltas => rfl
  | error failure => rfl

theorem run_surrounded (work : Job (List Delta)) (identifier : String) (w : World)
    (extras : List (String × Value)) (message : String)
    (counts : List Delta → List (String × Value)) (answer : List Delta → Result) :
    let around : Job Result := within [(.batch, identifier)] do
      Job.log .info logger "token_batch_started" extras
      let deltas ← tellFault (transact work)
      Job.log .info logger message (counts deltas)
      pure (answer deltas)
    let done := work.run (inside identifier extras w)
    (around.run w).1 = (done.1.mapError told).map answer ∧
      (around.run w).2.context = done.2.context.put .batch w.context.batch ∧
      (around.run w).2.journal =
        done.2.journal ++ closing done.2.context message counts done.1 := by
  have logged (level : Log.Level) (logger message : String) (extras : List (String × Value))
      (w : World) : (Job.log level logger message extras).run w =
        (.ok (), w.log level logger message extras none) := rfl
  intro around done
  simp only [around, run_within, run_bind, logged, run_tellFault_transact]
  have begins : ({ w with context := w.context.put .batch (some identifier) }.log .info logger
      "token_batch_started" extras none).log .debug engineLogger "transaction_started" [] none =
        inside identifier extras w := by
    rw [inside, heads, World.log, World.log, List.append_assoc]
    rfl
  rw [begins, show work.run (inside identifier extras w) = done from rfl]
  obtain ⟨result, after⟩ := done
  cases result with
  | ok deltas => exact ⟨rfl, rfl, List.append_assoc _ _ _⟩
  | error failure => exact ⟨rfl, rfl, rfl⟩

def summaryName (dryRun : Bool) : String :=
  if dryRun then "token_batch_dry_run" else "token_batch_committed"

def counts (request : Request) (deltas : List Delta) : List (String × Value) :=
  [("token_count", .int (report request deltas).outcomes.length),
    ("changed_count", .int ((report request deltas).outcomes.filter (·.changed)).length)]

theorem run_conduct (work : Job (List Delta)) (identifier : String) (request : Request)
    (w : World) : ∃ extras,
    let done := work.run (inside identifier extras w)
    ((conduct work identifier request).run w).1 = (done.1.mapError told).map (report request) ∧
      ((conduct work identifier request).run w).2.context =
        done.2.context.put .batch w.context.batch ∧
      ((conduct work identifier request).run w).2.journal = done.2.journal ++
        closing done.2.context (summaryName request.dryRun) (counts request) done.1 :=
  ⟨_, run_surrounded work identifier w _ _ _ (report request)⟩

def said (message : String) (records : List Log.Record) : List Log.Record :=
  records.filter fun r => r.message == message

theorem said_append (message : String) (front back : List Log.Record) :
    said message (front ++ back) = said message front ++ said message back :=
  List.filter_append ..

theorem said_singleton {r : Log.Record} {message : String} (same : r.message = message) :
    said message [r] = [r] := by
  rw [said, List.filter_cons_of_pos (by simpa using same)]
  rfl

theorem said_of_other {r : Log.Record} {message : String} (other : r.message ≠ message) :
    said message [r] = [] := by
  rw [said, List.filter_cons_of_neg (by simpa using other)]
  rfl

section
variable {o : Outage} {request : Request} {w : World} {opening : List Log.Record}

theorem Worked.said_opening (h : Worked o request w opening) {message : String}
    (other : message ≠ "tokens_selected") : said message opening = [] := by
  rcases h.selected with rfl | ⟨selected, rfl, named, -⟩
  · rfl
  · exact said_of_other (named ▸ other.symm)

theorem Worked.said_computed (h : Worked o request w opening) {message : String}
    (other : message ≠ "token_update_rejected") :
    said message (addedFor (deltaUnder o request.updates) (computed o request w opening)) = [] := by
  rcases h.ending with ⟨nothing, -⟩ | ⟨t, -, r, noted, -⟩
  · rw [nothing]
    rfl
  · rw [noted]
    exact said_of_other other.symm

end

theorem context_of_closing {c : Log.Context} {message : String}
    {extras : List Delta → List (String × Value)} {answer : Answer (List Delta)} {r : Log.Record}
    (member : r ∈ closing c message extras answer) : r.context = c := by
  cases answer with
  | ok deltas =>
    rcases List.mem_cons.1 member with rfl | member
    · rfl
    · rw [List.mem_singleton.1 member]
      rfl
  | error failure =>
    rw [List.mem_singleton.1 member]
    rfl

theorem said_closing_of_other {c : Log.Context} {name message : String}
    {extras : List Delta → List (String × Value)} {answer : Answer (List Delta)}
    (committed : message ≠ "transaction_committed") (summed : message ≠ name)
    (undone : message ≠ "transaction_rolled_back") :
    said message (closing c name extras answer) = [] := by
  cases answer with
  | ok deltas => simp [said, closing, note, committed.symm, summed.symm]
  | error failure => simp [said, closing, note, rolledBack, undone.symm]

/-- What the records of a batch tell, however it ends. -/
structure Audited (o : Outage) (identifier : String) (request : Request) (w : World)
    (answer : Answer Result) (records : List Log.Record) : Prop where
  identified : ∀ r ∈ records, r.context.batch = some identifier
  located : ∃ before after,
    let visited := computed o request { w with context := w.context.put .batch (some identifier) }
      before
    records = before ++ addedFor (deltaUnder o request.updates) visited ++ after ∧
      (∀ r ∈ before ++ after, r.context.token = w.context.token) ∧
      ∀ v ∈ visited, ∀ r ∈ added (deltaUnder o request.updates v.1) v.2,
        r.context.token = some v.1.identifier
  started : ∃ first rest, records = first :: rest ∧ said "token_batch_started" records = [first]
  returned : ∀ result, answer = .ok result →
    ((resolve request.selection).run w).1 = .ok (reached o request w) ∧
      (∃ summary, said (summaryName request.dryRun) records = [summary] ∧
        summary.extras = [("token_count", .int (reached o request w).length),
          ("changed_count", .int result.changedTokens.length)]) ∧
      said (summaryName !request.dryRun) records = [] ∧ said "transaction_rolled_back" records = []
  raised : ∀ failure, answer = .error failure →
    (∃ undone, said "transaction_rolled_back" records = [undone]) ∧
      ∀ dryRun, said (summaryName dryRun) records = []
  rejected : said "token_update_rejected" records = [] ∨
    ∃ t ∈ reached o request w, ∃ r note, said "token_update_rejected" records = [note] ∧
      note.context.token = some t.identifier ∧
      note.extras = [("error_code", .text r.code), ("reason", .text r.message)] ∧
      answer = .error (.refused r) ∧ r.token = some (.text t.identifier)

section
variable {o : Outage} {identifier : String} {request : Request} {w : World}
  {extras : List (String × Value)} {opening : List Log.Record}

theorem reached_inside : reached o request (inside identifier extras w) = reached o request w :=
  reached_congr o request rfl

theorem computed_inside : computed o request (inside identifier extras w) opening =
    computed o request { w with context := w.context.put .batch (some identifier) }
      (heads identifier extras w ++ opening) := by
  have same : reached o request { w with context := w.context.put .batch (some identifier) } =
      reached o request w := reached_congr o request rfl
  have journal : (inside identifier extras w).journal ++ opening =
      w.journal ++ (heads identifier extras w ++ opening) := List.append_assoc _ _ _
  rw [computed, computed, reached_inside, same, journal]
  rfl

def tails (o : Outage) (identifier : String) (request : Request) (extras : List (String × Value))
    (w : World) : List Log.Record :=
  closing (w.context.put .batch (some identifier)) (summaryName request.dryRun) (counts request)
    ((workUnder o request).run (inside identifier extras w)).1

/-- The records of a batch, from its opening note to its last. -/
def trail (o : Outage) (identifier : String) (request : Request) (extras : List (String × Value))
    (w : World) (opening : List Log.Record) : List Log.Record :=
  heads identifier extras w ++ opening ++ addedFor (deltaUnder o request.updates)
      (computed o request (inside identifier extras w) opening) ++
    tails o identifier request extras w

theorem Worked.said_trail (h : Worked o request (inside identifier extras w) opening)
    {message : String} (selected : message ≠ "tokens_selected")
    (rejected : message ≠ "token_update_rejected") :
    said message (trail o identifier request extras w opening) =
      said message (heads identifier extras w) ++
        said message (tails o identifier request extras w) := by
  rw [trail, said_append, said_append, said_append, h.said_opening selected,
    h.said_computed rejected, List.append_nil, List.append_nil]

theorem context_of_heads {r : Log.Record} (member : r ∈ heads identifier extras w) :
    r.context = w.context.put .batch (some identifier) := by
  rcases List.mem_cons.1 member with rfl | member
  · rfl
  · rw [List.mem_singleton.1 member]
    rfl

/-- Outside the computations everything is noted at what the caller was. -/
theorem Worked.context_around (h : Worked o request (inside identifier extras w) opening)
    {r : Log.Record}
    (member : r ∈ heads identifier extras w ++ opening ++ tails o identifier request extras w) :
    r.context = w.context.put .batch (some identifier) := by
  rcases List.mem_append.1 member with before | after
  · rcases List.mem_append.1 before with head | opened
    · exact context_of_heads head
    · exact h.context_of_opening opened
  · exact context_of_closing after

theorem Worked.identified (h : Worked o request (inside identifier extras w) opening)
    {r : Log.Record} (member : r ∈ trail o identifier request extras w opening) :
    r.context.batch = some identifier := by
  rcases List.mem_append.1 member with before | after
  · rcases List.mem_append.1 before with before | noted
    · rw [h.context_around (List.mem_append_left _ before)]
      rfl
    · obtain ⟨v, visited, noted⟩ := List.mem_flatMap.1 noted
      rw [context_of_added visited noted]
      rfl
  · rw [h.context_around (List.mem_append_right _ after)]
    rfl

theorem summaryName_ne (dryRun : Bool) : summaryName dryRun ≠ "tokens_selected" ∧
    summaryName dryRun ≠ "token_update_rejected" ∧
    summaryName dryRun ≠ "token_batch_started" := by
  cases dryRun <;> decide

theorem Worked.said_started (h : Worked o request (inside identifier extras w) opening) :
    said "token_batch_started" (trail o identifier request extras w opening) =
      [note (w.context.put .batch (some identifier)) .info logger "token_batch_started" extras] := by
  have behind : said "token_batch_started" (tails o identifier request extras w) = [] :=
    said_closing_of_other (by decide) (summaryName_ne request.dryRun).2.2.symm (by decide)
  rw [h.said_trail (by decide) (by decide), behind]
  simp [said, heads, note]

theorem Worked.said_returned (h : Worked o request (inside identifier extras w) opening)
    {ds : List Delta} (done : ((workUnder o request).run (inside identifier extras w)).1 = .ok ds) :
    said (summaryName request.dryRun) (trail o identifier request extras w opening) =
        [note (w.context.put .batch (some identifier)) .info logger (summaryName request.dryRun)
          (counts request ds)] ∧
      said (summaryName !request.dryRun) (trail o identifier request extras w opening) = [] ∧
      said "transaction_rolled_back" (trail o identifier request extras w opening) = [] := by
  have own := summaryName_ne request.dryRun
  have other := summaryName_ne !request.dryRun
  rw [h.said_trail own.1 own.2.1, h.said_trail other.1 other.2.1,
    h.said_trail (by decide) (by decide), tails, done]
  cases request.dryRun
  · simp [said, heads, note, closing, summaryName]
  · simp [said, heads, note, closing, summaryName]

theorem Worked.said_raised (h : Worked o request (inside identifier extras w) opening)
    {failure : Failure}
    (done : ((workUnder o request).run (inside identifier extras w)).1 = .error failure) :
    said "transaction_rolled_back" (trail o identifier request extras w opening) =
        [rolledBack (w.context.put .batch (some identifier)) failure] ∧
      ∀ dryRun, said (summaryName dryRun) (trail o identifier request extras w opening) = [] := by
  refine ⟨?_, fun dryRun => ?_⟩
  · rw [h.said_trail (by decide) (by decide), tails, done]
    simp [said, heads, note, closing, rolledBack]
  · have other := summaryName_ne dryRun
    rw [h.said_trail other.1 other.2.1, tails, done]
    cases dryRun
    · simp [said, heads, note, closing, summaryName, rolledBack]
    · simp [said, heads, note, closing, summaryName, rolledBack]

theorem Worked.said_rejected (h : Worked o request (inside identifier extras w) opening) :
    said "token_update_rejected" (trail o identifier request extras w opening) = [] ∨
    ∃ t ∈ reached o request w, ∃ r,
      said "token_update_rejected" (trail o identifier request extras w opening) =
        [rejection (w.context.put .batch (some identifier) |>.put .token (some t.identifier)) r] ∧
      ((workUnder o request).run (inside identifier extras w)).1 = .error (.refused r) ∧
      r.token = some (.text t.identifier) := by
  have before : said "token_update_rejected" (heads identifier extras w) = [] := by
    simp [said, heads, note]
  have behind : said "token_update_rejected" (tails o identifier request extras w) = [] :=
    said_closing_of_other (by decide) (summaryName_ne request.dryRun).2.1.symm (by decide)
  rw [trail, said_append, said_append, said_append, before, behind,
    h.said_opening (by decide), List.append_nil, List.append_nil, List.nil_append]
  rcases h.ending with ⟨nothing, -⟩ | ⟨t, member, r, noted, failed, blamed⟩
  · rw [nothing]
    exact .inl rfl
  · rw [reached_inside] at member
    rw [noted]
    exact .inr ⟨t, member, r, said_singleton rfl, failed, blamed⟩

theorem Worked.selected_of_done (h : Worked o request (inside identifier extras w) opening)
    {ds : List Delta} (done : ((workUnder o request).run (inside identifier extras w)).1 = .ok ds) :
    ((resolve request.selection).run w).1 = .ok (reached o request w) ∧
      ds.length = (reached o request w).length := by
  rcases h.ending with ⟨-, finished⟩ | ⟨t, -, r, -, failed, -⟩
  · have finished := finished ds done
    rw [reached_inside, (reads_resolve request.selection).answer] at finished
    rw [(reads_resolve request.selection).answer]
    exact finished
  · cases done.symm.trans failed

theorem Worked.audited (h : Worked o request (inside identifier extras w) opening) :
    Audited o identifier request w
      ((((workUnder o request).run (inside identifier extras w)).1.mapError told).map
        (report request)) (trail o identifier request extras w opening) := by
  constructor
  · exact fun r => h.identified
  · refine ⟨heads identifier extras w ++ opening, tails o identifier request extras w, ?_⟩
    dsimp only
    rw [← computed_inside]
    refine ⟨rfl, fun r member => ?_, fun v visited r member => ?_⟩
    · rw [h.context_around member]
      rfl
    · rw [context_of_added visited member]
      rfl
  · exact ⟨_, _, rfl, h.said_started⟩
  · intro result answered
    cases done : ((workUnder o request).run (inside identifier extras w)).1 with
    | error failure =>
      rw [done] at answered
      cases answered
    | ok ds =>
      rw [done] at answered
      cases answered
      obtain ⟨summed, other, standing⟩ := h.said_returned done
      obtain ⟨selected, length⟩ := h.selected_of_done done
      refine ⟨selected, ⟨_, summed, ?_⟩, other, standing⟩
      change counts request ds = _
      rw [counts, Result.changedTokens, List.length_map, ← length, report, List.length_map]
  · intro failure answered
    cases done : ((workUnder o request).run (inside identifier extras w)).1 with
    | ok ds =>
      rw [done] at answered
      cases answered
    | error failure =>
      obtain ⟨undone, others⟩ := h.said_raised done
      exact ⟨⟨_, undone⟩, others⟩
  · rcases h.said_rejected with none | ⟨t, member, r, noted, failed, blamed⟩
    · exact .inl none
    · rw [failed]
      exact .inr ⟨t, member, r, _, noted, rfl, rfl, rfl, blamed⟩

end

/-- Wherever the store breaks down, if it does, a batch leaves the trail of how it ends, and the
caller is where it was. -/
theorem runUnder_audited (o : Outage) (identifier : String) (request : Request) (w : World) :
    runUnder {} identifier request = run identifier request ∧
    ∃ records, ((runUnder o identifier request).run w).2.journal = w.journal ++ records ∧
      ((runUnder o identifier request).run w).2.context = w.context ∧
      Audited o identifier request w ((runUnder o identifier request).run w).1 records := by
  refine ⟨runUnder_none identifier request, ?_⟩
  obtain ⟨extras, answer, context, journal⟩ := run_conduct (workUnder o request) identifier request w
  obtain ⟨opening, work⟩ := worked o request (inside identifier extras w)
  refine ⟨trail o identifier request extras w opening, ?_, ?_, ?_⟩
  · rw [runUnder, journal, work.journal, work.context, inside, trail, tails, inside]
    simp only [List.append_assoc]
  · rw [runUnder, context, work.context]
    exact Log.Context.put_put_get w.context .batch _
  · rw [runUnder, answer]
    exact work.audited

end Batch

end RegistryTokens
