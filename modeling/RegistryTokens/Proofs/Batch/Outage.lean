import RegistryTokens.Proofs.Batch.Atomicity

/-!
# Batches over a store that breaks down

The store may break down at any point of a batch: as tokens are selected, as their domains are
counted, as changes are written or as the transaction is closed. Wherever the work of a batch ends,
it has noted its selection, if there was one, and the rejection of the token it ended at, if that was
rejected.
-/

set_option autoImplicit false

namespace RegistryTokens

open RegistryTokens.Time RegistryTokens.Store

namespace Job

def interrupt (fault : Option Breakdown) : Job Unit :=
  ofAnswer (fault.elim (.ok ()) fun b => .error (.broke b))

end Job

namespace Batch

open Job

/-- Where the store breaks down, if it does. -/
structure Outage where
  selecting : Option Breakdown := none
  counting : String → Option Breakdown := fun _ => none
  writing : Option Breakdown := none
  closing : Option Breakdown := none

def countUnder (o : Outage) (token : String) : Job Int := do
  interrupt (o.counting token)
  countBound token

def deltaUnder (o : Outage) (updates : Updates) (t : Token) : Job Delta :=
  within [(.token, t.identifier)] <|
    onFailure (t.apply (countUnder o t.identifier) updates) noteRejection

/-- What is done with the changes before the transaction is closed. -/
def closeUnder (o : Outage) (request : Request) (deltas : List Delta) : Job Unit :=
  if request.dryRun then interrupt o.closing
  else do
    interrupt o.writing
    write deltas
    interrupt o.closing

def workUnder (o : Outage) (request : Request) : Job (List Delta) := do
  interrupt o.selecting
  let targets ← resolve request.selection
  let deltas ← targets.mapM (deltaUnder o request.updates)
  closeUnder o request deltas
  pure deltas

def runUnder (o : Outage) (identifier : String) (request : Request) : Job Result :=
  conduct (workUnder o request) identifier request

theorem interrupt_none {α : Type} (next : Unit → Job α) : (interrupt none >>= next) = next () :=
  rfl

theorem runUnder_none (identifier : String) (request : Request) :
    runUnder {} identifier request = run identifier request := by
  have same : workUnder {} request = runWithin request := by
    have close (deltas : List Delta) : (do closeUnder {} request deltas; pure deltas) =
        (if request.dryRun then pure deltas else do write deltas; pure deltas) := by
      unfold closeUnder
      cases request.dryRun with
      | true => rfl
      | false =>
        simp only [Bool.false_eq_true, if_false, bind_assoc, interrupt_none]
    unfold workUnder runWithin
    simp only [close]
    rfl
  rw [runUnder, same, run]

theorem silent_interrupt (fault : Option Breakdown) : Moves Silent (interrupt fault) :=
  .still fun _ => rfl

theorem silent_countUnder (o : Outage) (token : String) : Moves Silent (countUnder o token) := by
  have cutoff : Moves Silent cutoff :=
    .bind (.still fun _ => rfl) fun _ =>
      .still fun _ => rfl
  exact (silent_interrupt _).bind fun _ => cutoff.bind fun _ =>
    .bind (.still fun _ => rfl) fun _ =>
      .still fun _ => rfl

theorem silent_write (deltas : List Delta) : Moves Silent (write deltas) := by
  refine .bind (.still fun _ => rfl) fun stamp => ?_
  dsimp only
  split
  · exact .still fun _ => rfl
  · refine .bind (.still fun _ => rfl) fun instant => ?_
    refine .bind (.still fun _ => rfl) fun s => ?_
    refine .bind (.still fun _ => rfl) fun after => ?_
    exact fun w => ⟨rfl, rfl⟩

theorem silent_closeUnder (o : Outage) (request : Request) (deltas : List Delta) :
    Moves Silent (closeUnder o request deltas) := by
  unfold closeUnder
  split
  · exact silent_interrupt _
  · exact (silent_interrupt _).bind fun _ =>
      (silent_write deltas).bind fun _ => silent_interrupt _

def rejection (c : Log.Context) (r : Refusal) : Log.Record :=
  note c .warning logger "token_update_rejected"
    [("error_code", .text r.code), ("reason", .text r.message)]

theorem recorded_noteRejection (failure : Failure) (w : World) :
    Recorded w (noteRejection failure w) := by
  cases failure with
  | refused r => exact w.recorded_log _ _ _ _ _
  | broke _ => exact Passing.refl w

theorem silent_apply (o : Outage) (updates : Updates) (t : Token) :
    Moves Silent (t.apply (countUnder o t.identifier) updates) :=
  (silent_countUnder o t.identifier).apply t updates

theorem recorded_deltaUnder (o : Outage) (updates : Updates) (t : Token) :
    Moves Recorded (deltaUnder o updates t) :=
  (((silent_apply o updates t).imp Silent.recorded).onFailure recorded_noteRejection).within _ _

def noted (c : Log.Context) : Answer Delta → List Log.Record
  | .error (.refused r) => [rejection c r]
  | _ => []

theorem added_deltaUnder (o : Outage) (updates : Updates) (t : Token) (w : World) :
    added (deltaUnder o updates t) w = noted (w.context.put .token (some t.identifier))
      ((deltaUnder o updates t).run w).1 := by
  obtain ⟨journal, context⟩ :=
    silent_apply o updates t { w with context := w.context.put .token (some t.identifier) }
  rw [added, deltaUnder, run_within, run_onFailure]
  generalize (t.apply (countUnder o t.identifier) updates).run _ = r at journal context ⊢
  obtain ⟨answer, after⟩ := r
  cases answer with
  | ok d =>
    change after.journal.drop w.journal.length = []
    rw [journal, List.drop_length]
  | error failure =>
    cases failure with
    | broke b =>
      change after.journal.drop w.journal.length = []
      rw [journal, List.drop_length]
    | refused r =>
      change (after.journal ++ [rejection after.context r]).drop w.journal.length = _
      rw [journal, context, List.drop_left]
      rfl

def boundUnder (o : Outage) (token : String) (s : Option Store) (c : Clock) : Answer Int := do
  (o.counting token).elim (.ok ()) fun b => .error (.broke b)
  bound token s c

theorem reads_deltaUnder (o : Outage) (updates : Updates) (t : Token) :
    Reads (deltaUnder o updates t) fun s c =>
      t.applied (boundUnder o t.identifier s c) updates := by
  have counted : Reads (countUnder o t.identifier) (boundUnder o t.identifier) :=
    (reads_ofAnswer _).bind fun _ => reads_countBound t.identifier
  exact (Does.onFailure (counted.apply t updates) noteRejection_keeps).within _

theorem token_of_rejected {o : Outage} {updates : Updates} {t : Token} {w : World} {r : Refusal}
    (h : ((deltaUnder o updates t).run w).1 = .error (.refused r)) :
    r.token = some (.text t.identifier) := by
  have concerns : Answer.Fails (Failure.Concerns t.identifier fun _ => True)
      (boundUnder o t.identifier w.store w.clock) := by
    refine Answer.Fails.bind ?_ fun _ _ => (fails_bound _ _ _ _).more fun _ _ => trivial
    cases o.counting t.identifier with
    | none => exact Answer.fails_ok ()
    | some b => exact Answer.fails_broke trivial
  rw [(reads_deltaUnder o updates t).answer] at h
  exact Token.token_of_applied_refused concerns h

theorem still_byIdentifiers (identifiers : List String) :
    Moves Unmoved (byIdentifiers identifiers) := by
  refine .mapM _ fun identifier => ?_
  refine .bind (.still fun _ => rfl) fun s => ?_
  refine .bind (.still fun _ => rfl) fun found => ?_
  cases found with
  | none => exact .still fun _ => rfl
  | some t => exact .still fun _ => rfl

theorem still_byStart (start : String) :
    Moves Unmoved (byStart start) := by
  have read : Moves Unmoved (do ofAnswer ((← tables).tokensFrom start)) :=
    .bind (.still fun _ => rfl) fun _ => .still fun _ => rfl
  unfold byStart
  split
  · exact .bind (.still fun _ => rfl) fun _ => read
  · exact read

def Selects (job : Job (List Token)) : Prop := ∀ w,
  (∃ ts selected, job.run w = (.ok ts, { w with journal := w.journal ++ [selected] }) ∧
    selected.message = "tokens_selected" ∧ selected.context = w.context) ∨
  ∃ failure, job.run w = (.error failure, w)

theorem selects_of_still {find : Job (List Token)} (still : Moves Unmoved find)
    (extras : List Token → List (String × Value)) : Selects (do
      let ts ← find
      log .info "selectors.token" "tokens_selected" (extras ts)
      pure ts) := by
  intro w
  have same := still w
  rw [run_bind]
  generalize find.run w = r at same
  obtain ⟨answer, after⟩ := r
  obtain rfl : after = w := same
  cases answer with
  | ok ts => exact .inl ⟨ts, _, rfl, rfl, rfl⟩
  | error failure => exact .inr ⟨failure, rfl⟩

theorem selects_resolve (selection : Selection) : Selects (resolve selection) := by
  obtain ⟨identifiers, start⟩ := selection
  cases identifiers with
  | some identifiers =>
    cases start with
    | some start => exact fun w => .inr ⟨_, rfl⟩
    | none =>
      simp only [resolve, pure_bind]
      exact selects_of_still (still_byIdentifiers identifiers) _
  | none =>
    cases start with
    | none => exact fun w => .inr ⟨_, rfl⟩
    | some start =>
      simp only [resolve, pure_bind]
      exact selects_of_still (still_byStart start) _

theorem noted_mapM (o : Outage) (updates : Updates) (ts : List Token) (w : World) :
    (∃ ds, ((ts.mapM (deltaUnder o updates)).run w).1 = .ok ds ∧ ds.length = ts.length ∧
      addedFor (deltaUnder o updates) (visits (deltaUnder o updates) ts w) = []) ∨
    ∃ t ∈ ts, ∃ failure, ((ts.mapM (deltaUnder o updates)).run w).1 = .error failure ∧
      addedFor (deltaUnder o updates) (visits (deltaUnder o updates) ts w) =
        noted (w.context.put .token (some t.identifier)) (.error failure) ∧
      ∀ r, failure = .refused r → r.token = some (.text t.identifier) := by
  have nothing {items : List (Token × World)}
      (passed : ∀ v ∈ items, ∃ d, ((deltaUnder o updates v.1).run v.2).1 = .ok d) :
      addedFor (deltaUnder o updates) items = [] := by
    refine List.flatMap_eq_nil_iff.2 fun v member => ?_
    obtain ⟨d, answered⟩ := passed v member
    rw [added_deltaUnder, answered]
    rfl
  rcases answer_mapM (deltaUnder o updates) ts w with ⟨ds, answered, length, passed⟩ |
    ⟨front, v, failure, last, passed, failed, answered⟩
  · exact .inl ⟨ds, answered, length, nothing passed⟩
  · have visited : v ∈ visits (deltaUnder o updates) ts w := by
      rw [last]
      exact List.mem_append_right front (List.mem_singleton_self v)
    refine .inr ⟨v.1, mem_of_visit visited, failure, answered, ?_, ?_⟩
    · rw [last, addedFor, List.flatMap_append, ← addedFor, nothing passed]
      rw [List.flatMap_singleton, added_deltaUnder, failed,
        context_of_visit (recorded_deltaUnder o updates) visited]
      rfl
    · rintro r rfl
      exact token_of_rejected failed

/-- The tokens whose changes are asked for: the targets, unless the selection fails. -/
def reached (o : Outage) (request : Request) (w : World) : List Token :=
  match o.selecting, ((resolve request.selection).run w).1 with
  | none, .ok ts => ts
  | _, _ => []

theorem reached_congr (o : Outage) (request : Request) {w v : World} (store : v.store = w.store) :
    reached o request v = reached o request w := by
  rw [reached, reached, (reads_resolve request.selection).answer,
    (reads_resolve request.selection).answer, store]

def computed (o : Outage) (request : Request) (w : World) (opening : List Log.Record) :
    List (Token × World) :=
  visits (deltaUnder o request.updates) (reached o request w)
    { w with journal := w.journal ++ opening }

structure Worked (o : Outage) (request : Request) (w : World) (opening : List Log.Record) :
    Prop where
  context : ((workUnder o request).run w).2.context = w.context
  journal : ((workUnder o request).run w).2.journal = w.journal ++ opening ++
    addedFor (deltaUnder o request.updates) (computed o request w opening)
  selected : opening = [] ∨ ∃ selected, opening = [selected] ∧
    selected.message = "tokens_selected" ∧ selected.context = w.context
  ending : addedFor (deltaUnder o request.updates) (computed o request w opening) = [] ∧
      (∀ ds, ((workUnder o request).run w).1 = .ok ds →
        ((resolve request.selection).run w).1 = .ok (reached o request w) ∧
          ds.length = (reached o request w).length) ∨
    ∃ t ∈ reached o request w, ∃ r,
      addedFor (deltaUnder o request.updates) (computed o request w opening) =
        [rejection (w.context.put .token (some t.identifier)) r] ∧
      ((workUnder o request).run w).1 = .error (.refused r) ∧ r.token = some (.text t.identifier)

theorem worked_of_unselected {o : Outage} {request : Request} {w : World} {failure : Failure}
    (run : (workUnder o request).run w = (.error failure, w)) (none : reached o request w = []) :
    Worked o request w [] := by
  have nothing : addedFor (deltaUnder o request.updates) (computed o request w []) = [] := by
    rw [computed, none]
    rfl
  refine ⟨?_, ?_, .inl rfl, .inl ⟨nothing, fun ds answered => ?_⟩⟩
  · rw [run]
  · rw [run, nothing, List.append_nil, List.append_nil]
  · rw [run] at answered
    cases answered

theorem worked_of_selected {o : Outage} {request : Request} {w : World} {ts : List Token}
    {selected : Log.Record} (reached_ : reached o request w = ts)
    (found : ((resolve request.selection).run w).1 = .ok ts)
    (run : (workUnder o request).run w = (do
      let deltas ← ts.mapM (deltaUnder o request.updates)
      closeUnder o request deltas
      pure deltas : Job (List Delta)).run { w with journal := w.journal ++ [selected] })
    (message : selected.message = "tokens_selected") (context : selected.context = w.context) :
    Worked o request w [selected] := by
  have each := recorded_deltaUnder o request.updates
  have journal := journal_mapM each ts { w with journal := w.journal ++ [selected] }
  have kept := (Moves.mapM ts each { w with journal := w.journal ++ [selected] }).2
  have noted := noted_mapM o request.updates ts { w with journal := w.journal ++ [selected] }
  rw [run_bind] at run
  generalize (ts.mapM (deltaUnder o request.updates)).run _ = r at run journal kept noted
  obtain ⟨answer, after⟩ := r
  have visited : computed o request w [selected] = visits (deltaUnder o request.updates) ts
      { w with journal := w.journal ++ [selected] } := by
    rw [computed, reached_]
  rcases noted with ⟨ds, rfl, length, nothing⟩ | ⟨t, member, failure, rfl, noted, blamed⟩
  · have closing := silent_closeUnder o request ds after
    dsimp only at run
    rw [run_bind] at run
    generalize (closeUnder o request ds).run after = r at run closing
    obtain ⟨closed, last⟩ := r
    have ends : ((workUnder o request).run w).2 = last ∧
        ∀ ds', ((workUnder o request).run w).1 = .ok ds' → ds' = ds := by
      rw [run]
      cases closed with
      | ok _ => exact ⟨rfl, fun ds' same => (Except.ok.inj same).symm⟩
      | error _ => exact ⟨rfl, nofun⟩
    refine ⟨?_, ?_, .inr ⟨selected, rfl, message, context⟩, .inl ⟨visited ▸ nothing, ?_⟩⟩
    · rw [ends.1]
      exact closing.2.trans kept
    · rw [ends.1, visited]
      exact closing.1.trans journal
    · intro ds' answered
      rw [ends.2 ds' answered, reached_]
      exact ⟨found, length⟩
  · dsimp only at run
    refine ⟨?_, ?_, .inr ⟨selected, rfl, message, context⟩, ?_⟩
    · rw [run]
      exact kept
    · rw [run, visited]
      exact journal
    · rw [visited, noted, reached_, run]
      cases failure with
      | broke b => exact .inl ⟨rfl, nofun⟩
      | refused r => exact .inr ⟨t, member, r, rfl, rfl, blamed r rfl⟩

theorem worked (o : Outage) (request : Request) (w : World) :
    ∃ opening, Worked o request w opening := by
  cases breaks : o.selecting with
  | some b =>
    have run : (workUnder o request).run w = (.error (.broke b), w) := by
      unfold workUnder
      rw [breaks]
      rfl
    refine ⟨[], worked_of_unselected run ?_⟩
    rw [reached, breaks]
  | none =>
    have begins : (workUnder o request).run w = (do
        let targets ← resolve request.selection
        let deltas ← targets.mapM (deltaUnder o request.updates)
        closeUnder o request deltas
        pure deltas : Job (List Delta)).run w := by
      unfold workUnder
      rw [breaks]
      rfl
    rw [run_bind] at begins
    rcases selects_resolve request.selection w with ⟨ts, selected, found, message, context⟩ |
      ⟨failure, failed⟩
    · rw [found] at begins
      have resolved := congrArg Prod.fst found
      refine ⟨[selected], worked_of_selected ?_ resolved begins message context⟩
      rw [reached, breaks, found]
    · rw [failed] at begins
      refine ⟨[], worked_of_unselected begins ?_⟩
      rw [reached, breaks, failed]

section
variable {o : Outage} {request : Request} {w : World} {opening : List Log.Record}

theorem context_of_added {v : Token × World} (visited : v ∈ computed o request w opening)
    {r : Log.Record} (member : r ∈ added (deltaUnder o request.updates v.1) v.2) :
    r.context = w.context.put .token (some v.1.identifier) := by
  unfold computed at visited
  rw [added_deltaUnder, context_of_visit (recorded_deltaUnder o request.updates) visited] at member
  revert member
  rcases ((deltaUnder o request.updates v.1).run v.2).1 with (refusal | b) | d
  · intro member
    rw [List.mem_singleton.1 member]
    rfl
  · exact nofun
  · exact nofun

theorem Worked.context_of_opening (h : Worked o request w opening) {r : Log.Record}
    (member : r ∈ opening) : r.context = w.context := by
  rcases h.selected with rfl | ⟨selected, rfl, -, context⟩
  · cases member
  · rw [List.mem_singleton.1 member, context]

end

end Batch

end RegistryTokens
