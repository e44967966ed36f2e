import RegistryTokens.Proofs.Batch.Breakdown

/-!
# Listing and splitting batches

What becomes of a listed token depends on its own row, on the domains and on the update, and writing
the others leaves all of that alone. So a batch does the same in whatever order its tokens are
listed, and as much as two batches do one after the other that share its tokens out.
-/

set_option autoImplicit false

namespace RegistryTokens

open RegistryTokens.Time RegistryTokens.Store

namespace Batch

open Job Answer

def listed (identifiers : List String) (updates : Updates) : Request :=
  ⟨⟨some identifiers, none⟩, updates, false⟩

/-- What becomes of the token of one name. -/
def fate (updates : Updates) (s : Option Store) (c : Clock) (name : String) : Answer Delta :=
  tokenIn s name >>= fun t => change updates t s c

theorem planned_listed_eq_ok {xs : List String} {u : Updates} {s after : Option Store} {c : Clock}
    {deltas : List Delta} : planned (listed xs u) s c = .ok (deltas, after) ↔
      (distinct xs).mapM (fate u s c) = .ok deltas ∧ written deltas s c = .ok after := by
  have each : changes (listed xs u) s c = .ok deltas ↔
      (distinct xs).mapM (fate u s c) = .ok deltas :=
    bind_eq_ok.trans mapM_bind_eq_ok.symm
  rw [← each]
  constructor
  · intro h
    obtain ⟨_, changing, h⟩ := bind_eq_ok.1 h
    obtain ⟨_, writing, h⟩ := bind_eq_ok.1 h
    cases h
    exact ⟨changing, writing⟩
  · rintro ⟨changing, writing⟩
    exact bind_eq_ok.2 ⟨deltas, changing, bind_eq_ok.2 ⟨after, writing, rfl⟩⟩

theorem name_of_fate {u : Updates} {s : Option Store} {c : Clock} {name : String} {d : Delta}
    (h : fate u s c name = .ok d) : d.before.identifier = name := by
  obtain ⟨t, token, change⟩ := bind_eq_ok.1 h
  rw [before_of_change change]
  exact (stands_of_tokenIn token).1

theorem names_of_fates {u : Updates} {s : Option Store} {c : Clock} {names : List String}
    {deltas : List Delta} (h : names.mapM (fate u s c) = .ok deltas) :
    deltas.map (·.before.identifier) = names := by
  have named := map_of_mapM (g := (·.before.identifier)) (k := id) h fun _ _ _ => name_of_fate
  rw [named, List.map_id]

theorem foldlM_writeDelta_perm {instant : Instant} {deltas others : List Delta}
    {before after : Store} (apart : (deltas.map (·.before.identifier)).Nodup)
    (same : deltas.Perm others) (h : deltas.foldlM (writeDelta instant) before = .ok after) :
    others.foldlM (writeDelta instant) before = .ok after := by
  cases hf : others.foldlM (writeDelta instant) before with
  | error failure =>
    obtain ⟨rfl, d, hd, unfit⟩ := foldlM_writeDelta_eq_error_iff.1 hf
    rw [foldlM_writeDelta_eq_error_iff.2 ⟨rfl, d, same.mem_iff.2 hd, unfit⟩] at h
    cases h
  | ok stored =>
    have othersApart := (same.map (·.before.identifier)).nodup_iff.1 apart
    have equal := (wrote_of_foldlM apart h).unique (fun d => same.mem_iff)
      (wrote_of_foldlM othersApart hf)
    rw [equal]

theorem written_perm {deltas others : List Delta} {s after : Option Store} {c : Clock}
    (apart : (deltas.map (·.before.identifier)).Nodup) (same : deltas.Perm others)
    (h : written deltas s c = .ok after) : written others s c = .ok after := by
  have kept : (deltas.filter (·.changed)).Perm (others.filter (·.changed)) := same.filter _
  obtain ⟨stamp, now, h⟩ := bind_eq_ok.1 h
  rw [written_of_now (now_eq_ok now)]
  unfold writtenAt at h ⊢
  rw [← kept.isEmpty_eq]
  split
  · rename_i none
    rw [if_pos none] at h
    exact h
  · rename_i some
    rw [if_neg some] at h
    obtain ⟨instant, stamped, h⟩ := bind_eq_ok.1 h
    obtain ⟨before, there, h⟩ := bind_eq_ok.1 h
    obtain ⟨stored, folded, rfl⟩ := map_eq_ok.1 h
    have keptApart := apart.sublist (List.filter_sublist (p := (·.changed)).map _)
    exact bind_eq_ok.2 ⟨instant, stamped, bind_eq_ok.2 ⟨before, there,
      map_eq_ok.2 ⟨stored, foldlM_writeDelta_perm keptApart kept folded, rfl⟩⟩⟩

theorem writtenAt_append (stamp : Stamp) (front back : List Delta) (s : Option Store) :
    writtenAt stamp (front ++ back) s = writtenAt stamp front s >>= writtenAt stamp back := by
  unfold writtenAt
  rw [List.filter_append]
  generalize front.filter (·.changed) = first
  generalize back.filter (·.changed) = second
  cases first with
  | nil => rfl
  | cons d first =>
    cases second with
    | nil =>
      rw [List.append_nil]
      exact (bind_pure _).symm
    | cons e second =>
      cases Column.writeStamp stamp with
      | error _ => rfl
      | ok instant =>
        cases s with
        | none => rfl
        | some before =>
          change some <$> (d :: first ++ e :: second).foldlM (writeDelta instant) before =
            some <$> (d :: first).foldlM (writeDelta instant) before >>= fun s =>
              standing s >>= fun between =>
                some <$> (e :: second).foldlM (writeDelta instant) between
          rw [List.foldlM_append]
          cases (d :: first).foldlM (writeDelta instant) before <;> rfl

theorem written_append (front back : List Delta) (s : Option Store) (c : Clock) :
    written (front ++ back) s c = written front s c >>= fun between => written back between c := by
  unfold written
  cases c.now.mapError Failure.ofClock with
  | error _ => rfl
  | ok stamp => exact writtenAt_append stamp front back s

theorem fate_of_unlisted {xs : List String} {u : Updates} {s between : Option Store} {c : Clock}
    {deltas : List Delta} (h : planned (listed xs u) s c = .ok (deltas, between)) {name : String}
    (unlisted : name ∉ xs) : fate u between c name = fate u s c name := by
  have names := names_of_fates (planned_listed_eq_ok.1 h).1
  cases s with
  | none =>
    cases between with
    | none => rfl
    | some after =>
      obtain ⟨_, ⟨⟩⟩ := before_of_planned h
  | some before =>
    obtain ⟨ts, after, rfl, carried⟩ := carried_of_planned rfl h
    have apart : name ∉ ts.map (·.identifier) := by
      rw [← carried.names, names, mem_distinct]
      exact unlisted
    unfold fate
    rw [tokenIn_of_row (carried.others apart)]
    simp only [change_of_domains carried.committed.domains]

theorem planned_perm {xs ys : List String} (same : ∀ name, name ∈ xs ↔ name ∈ ys) {u : Updates}
    {s after : Option Store} {c : Clock} {deltas : List Delta}
    (h : planned (listed xs u) s c = .ok (deltas, after)) :
    ∃ others, planned (listed ys u) s c = .ok (others, after) ∧ deltas.Perm others := by
  obtain ⟨fates, writing⟩ := planned_listed_eq_ok.1 h
  obtain ⟨others, fatesAgain, permuted⟩ := mapM_perm (distinct_perm same) fates
  have apart : (deltas.map (·.before.identifier)).Nodup := by
    rw [names_of_fates fates]
    exact nodup_distinct xs
  exact ⟨others, planned_listed_eq_ok.2 ⟨fatesAgain, written_perm apart permuted writing⟩, permuted⟩

/-- A list is planned at once or in two parts that have nothing in common. -/
theorem planned_append {xs ys : List String} (apart : ∀ name ∈ xs, name ∉ ys) {u : Updates}
    {s after : Option Store} {c : Clock} {deltas : List Delta} :
    planned (listed (xs ++ ys) u) s c = .ok (deltas, after) ↔
      ∃ first between second, planned (listed xs u) s c = .ok (first, between) ∧
        planned (listed ys u) between c = .ok (second, after) ∧ deltas = first ++ second := by
  have fates {first second : List Delta} {between : Option Store}
      (h : planned (listed xs u) s c = .ok (first, between)) :
      (distinct ys).mapM (fate u between c) = .ok second ↔
        (distinct ys).mapM (fate u s c) = .ok second := by
    have each : (distinct ys).map (fate u between c) = (distinct ys).map (fate u s c) :=
      List.map_congr_left fun name named =>
        fate_of_unlisted h fun listing => apart name listing (mem_distinct.1 named)
    rw [mapM_eq_ok, mapM_eq_ok, each]
  rw [planned_listed_eq_ok, distinct_append apart, mapM_append_eq_ok]
  constructor
  · rintro ⟨⟨first, second, front, back, rfl⟩, writing⟩
    rw [written_append] at writing
    obtain ⟨between, wrote, writing⟩ := bind_eq_ok.1 writing
    have planning : planned (listed xs u) s c = .ok (first, between) :=
      planned_listed_eq_ok.2 ⟨front, wrote⟩
    exact ⟨first, between, second, planning,
      planned_listed_eq_ok.2 ⟨(fates planning).2 back, writing⟩, rfl⟩
  · rintro ⟨first, between, second, planning, next, rfl⟩
    obtain ⟨front, wrote⟩ := planned_listed_eq_ok.1 planning
    obtain ⟨back, writing⟩ := planned_listed_eq_ok.1 next
    refine ⟨⟨first, second, front, (fates planning).1 back, rfl⟩, ?_⟩
    rw [written_append]
    exact bind_eq_ok.2 ⟨between, wrote, writing⟩

abbrev Ran := Answer Result × World

/-- Both runs succeed or none does, with the same outcomes up to order and the same store. -/
structure Interchangeable (a b : Ran) : Prop where
  succeeds : (∃ r, a.1 = .ok r) ↔ ∃ r, b.1 = .ok r
  outcomes : ∀ q r, a.1 = .ok q → b.1 = .ok r →
    q.outcomes.Perm r.outcomes ∧ q.committed = r.committed
  store : a.2.store = b.2.store

/-- One run succeeds just if two runs in a row do, with the outcomes of both and the same store. -/
structure Composes (whole first second : Ran) : Prop where
  succeeds : (∃ r, whole.1 = .ok r) ↔ (∃ p, first.1 = .ok p) ∧ ∃ q, second.1 = .ok q
  outcomes : ∀ r p q, whole.1 = .ok r → first.1 = .ok p → second.1 = .ok q →
    r.outcomes = p.outcomes ++ q.outcomes ∧ r.committed = (p.committed || q.committed)
  store : (∃ r, whole.1 = .ok r) → whole.2.store = second.2.store

theorem run_eq_ok_iff {identifier : String} {request : Request} {w : World} {r : Result} :
    ((run identifier request).run w).1 = .ok r ↔
      ∃ deltas after, planned request w.store w.clock = .ok (deltas, after) ∧
        r = report request deltas := by
  constructor
  · intro h
    obtain ⟨deltas, planning, same⟩ := planned_of_run h
    exact ⟨deltas, _, planning, same⟩
  · rintro ⟨deltas, after, planning, rfl⟩
    exact (run_of_planned planning).1

theorem exists_run_iff {identifier : String} {request : Request} {w : World} :
    (∃ r, ((run identifier request).run w).1 = .ok r) ↔
      ∃ deltas after, planned request w.store w.clock = .ok (deltas, after) := by
  simp only [run_eq_ok_iff]
  constructor
  · rintro ⟨_, deltas, after, planning, -⟩
    exact ⟨deltas, after, planning⟩
  · rintro ⟨deltas, after, planning⟩
    exact ⟨_, deltas, after, planning, rfl⟩

theorem committed_listed_iff (xs : List String) (u : Updates) (deltas : List Delta) :
    (report (listed xs u) deltas).committed = true ↔ ∃ d ∈ deltas, d.changed = true := by
  rw [committed_report rfl]
  constructor
  · rintro ⟨o, ho, changed⟩
    obtain ⟨d, hd, rfl⟩ := List.mem_map.1 ho
    exact ⟨d, hd, changed⟩
  · rintro ⟨d, hd, changed⟩
    exact ⟨_, List.mem_map_of_mem hd, changed⟩

theorem interchangeable_of_same {xs ys : List String} (same : ∀ name, name ∈ xs ↔ name ∈ ys)
    (u : Updates) (first second : String) (w : World) :
    Interchangeable ((run first (listed xs u)).run w) ((run second (listed ys u)).run w) := by
  have succeeds : (∃ r, ((run first (listed xs u)).run w).1 = .ok r) ↔
      ∃ r, ((run second (listed ys u)).run w).1 = .ok r := by
    rw [exists_run_iff, exists_run_iff]
    constructor
    · rintro ⟨deltas, after, planning⟩
      obtain ⟨others, again, -⟩ := planned_perm same planning
      exact ⟨others, after, again⟩
    · rintro ⟨others, after, planning⟩
      obtain ⟨deltas, again, -⟩ := planned_perm (fun name => (same name).symm) planning
      exact ⟨deltas, after, again⟩
  refine ⟨succeeds, fun q r hq hr => ?_, ?_⟩
  · obtain ⟨deltas, after, planning, rfl⟩ := run_eq_ok_iff.1 hq
    obtain ⟨others, stored, next, rfl⟩ := run_eq_ok_iff.1 hr
    obtain ⟨_, again, permuted⟩ := planned_perm same planning
    cases again.symm.trans next
    refine ⟨permuted.map _, Bool.eq_iff_iff.2 ?_⟩
    rw [committed_listed_iff, committed_listed_iff]
    simp only [permuted.mem_iff]
  · by_cases done : ∃ r, ((run first (listed xs u)).run w).1 = .ok r
    · obtain ⟨deltas, after, planning⟩ := exists_run_iff.1 done
      obtain ⟨others, again, -⟩ := planned_perm same planning
      rw [(run_of_planned planning).2, (run_of_planned again).2]
    · rw [store_run_of_failed done, store_run_of_failed (mt succeeds.2 done)]

theorem composes_of_apart {xs ys : List String} (apart : ∀ name ∈ xs, name ∉ ys) (u : Updates)
    (whole first second : String) (w : World) :
    Composes ((run whole (listed (xs ++ ys) u)).run w) ((run first (listed xs u)).run w)
      ((run second (listed ys u)).run ((run first (listed xs u)).run w).2) := by
  have clock := clock_run first (listed xs u) w
  constructor
  · rw [exists_run_iff, exists_run_iff, exists_run_iff, clock]
    constructor
    · rintro ⟨_, after, planning⟩
      obtain ⟨deltas, between, others, front, back, rfl⟩ := (planned_append apart).1 planning
      refine ⟨⟨deltas, between, front⟩, others, after, ?_⟩
      rw [(run_of_planned front).2]
      exact back
    · rintro ⟨⟨deltas, between, front⟩, others, after, back⟩
      rw [(run_of_planned front).2] at back
      exact ⟨_, after, (planned_append apart).2 ⟨deltas, between, others, front, back, rfl⟩⟩
  · intro r p q hr hp hq
    obtain ⟨deltas, after, planning, rfl⟩ := run_eq_ok_iff.1 hr
    obtain ⟨_, _, front, rfl⟩ := run_eq_ok_iff.1 hp
    obtain ⟨_, _, back, rfl⟩ := run_eq_ok_iff.1 hq
    obtain ⟨first, between, second, planFront, planBack, rfl⟩ := (planned_append apart).1 planning
    rw [clock, (run_of_planned front).2] at back
    cases front.symm.trans planFront
    cases back.symm.trans planBack
    refine ⟨List.map_append, Bool.eq_iff_iff.2 ?_⟩
    rw [Bool.or_eq_true, committed_listed_iff, committed_listed_iff, committed_listed_iff]
    simp only [List.mem_append, or_and_right, exists_or]
  · intro done
    obtain ⟨deltas, after, planning⟩ := exists_run_iff.1 done
    obtain ⟨first, between, second, front, back, -⟩ := (planned_append apart).1 planning
    rw [← (run_of_planned front).2, ← clock] at back
    rw [(run_of_planned planning).2, (run_of_planned back).2]

/-- A batch for listed tokens depends on which tokens are listed and on nothing else of the list, and
it can be split into batches for some of them and for the others. -/
theorem batches_split (u : Updates) (w : World) (xs ys : List String) :
    ((∀ name, name ∈ xs ↔ name ∈ ys) → ∀ first second,
      Interchangeable ((run first (listed xs u)).run w) ((run second (listed ys u)).run w)) ∧
    ((∀ name ∈ xs, name ∉ ys) → ∀ whole first second,
      Composes ((run whole (listed (xs ++ ys) u)).run w) ((run first (listed xs u)).run w)
        ((run second (listed ys u)).run ((run first (listed xs u)).run w).2)) :=
  ⟨fun same first second => interchangeable_of_same same u first second w,
    fun apart whole first second => composes_of_apart apart u whole first second w⟩

def pairWorld : World :=
  (Operation.session [.createToken "T1" (.text "SINGLE_USE") [],
    .createToken "T2" (.text "SINGLE_USE") []] false).run freshWorld

def pairRun (identifiers : List String) (w : World) : Ran :=
  (run "B1" (listed identifiers devUpdates)).run w

theorem split_of_pair :
    (pairRun ["T1", "T2"] pairWorld).1 = .ok ⟨[⟨"T1", [.tlds]⟩, ⟨"T2", [.tlds]⟩], true, false⟩ ∧
    Interchangeable (pairRun ["T1", "T2"] pairWorld) (pairRun ["T2", "T1", "T2"] pairWorld) ∧
    Composes (pairRun ["T1", "T2"] pairWorld) (pairRun ["T1"] pairWorld)
      (pairRun ["T2"] (pairRun ["T1"] pairWorld).2) := by
  refine ⟨eq_ok_of_toOption (by decide +kernel), ?_, ?_⟩
  · refine (batches_split devUpdates pairWorld ["T1", "T2"] ["T2", "T1", "T2"]).1 ?_ _ _
    intro name
    simp only [List.mem_cons, List.not_mem_nil, or_false]
    constructor
    · rintro (one | two)
      · exact .inr (.inl one)
      · exact .inl two
    · rintro (two | one | two)
      · exact .inr two
      · exact .inl one
      · exact .inr two
  · exact (batches_split devUpdates pairWorld ["T1"] ["T2"]).2 (by decide) _ _ _

end Batch

end RegistryTokens
