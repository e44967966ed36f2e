import Mathlib.Data.List.TakeDrop
import RegistryTokens.Field.Transitions
import RegistryTokens.Proofs.Drafting
import RegistryTokens.Proofs.Text.CommaList
import RegistryTokens.Proofs.Time.Iso

/-!
# Timelines as they may be written

The text form of a timeline is read back, and so is every text that says the same with more blanks,
with letters of another case, with empty entries or within quotes. What stands in an instant or in
the name of a status is neither blank nor a mark of the list, so every mark is found where it was
put.
-/

set_option autoImplicit false

namespace RegistryTokens.Field

open RegistryTokens.Number RegistryTokens.Text RegistryTokens.Time

def Gap (cs : List Char) : Prop := ∀ c ∈ cs, isBlank c = true

def Spells (cs : List Char) (word : String) : Prop := upperChars cs = word.toList

instance (cs : List Char) : Decidable (Gap cs) := List.decidableBAll _ cs

instance (cs : List Char) (word : String) : Decidable (Spells cs word) :=
  inferInstanceAs (Decidable (upperChars cs = word.toList))

/-- The text of an instant, or the word for the start of time. -/
def TellsInstant (cs : List Char) (i : Instant) : Prop :=
  cs = i.isoChars ∨ i = Instant.epoch ∧ Spells cs startOfTimeWord

/-- An entry with blanks around it and around its last equals sign. -/
inductive TellsEntry : List Char → Instant × Status → Prop where
  | mk {before instant left right name after : List Char} {i : Instant} {status : Status}
      (start : Gap before) (moment : TellsInstant instant i) (left_ : Gap left) (right_ : Gap right)
      (named : Spells name (word status)) (finish : Gap after) :
      TellsEntry (before ++ (instant ++ (left ++ '=' :: right) ++ name) ++ after) (i, status)

inductive TellsEntries : List (List Char) → List (Instant × Status) → Prop where
  | nil : TellsEntries [] []
  | gap {cell : List Char} {cells : List (List Char)} {entries : List (Instant × Status)}
      (empty : Gap cell) (rest : TellsEntries cells entries) : TellsEntries (cell :: cells) entries
  | entry {cell : List Char} {cells : List (List Char)} {e : Instant × Status}
      {entries : List (Instant × Status)} (first : TellsEntry cell e)
      (rest : TellsEntries cells entries) : TellsEntries (cell :: cells) (e :: entries)

/-- A text of a timeline: its entries between commas, with blanks around them all and with or
without one pair of quotes. -/
inductive Tells : String → Timeline Status → Prop where
  | plain {before after : List Char} {cells : List (List Char)} {t : Timeline Status}
      (start : Gap before) (listed : TellsEntries cells t.entries) (finish : Gap after) :
      Tells (String.ofList (before ++ List.intercalate [','] cells ++ after)) t
  | quoted {before after : List Char} {cells : List (List Char)} {t : Timeline Status}
      (start : Gap before) (listed : TellsEntries cells t.entries) (finish : Gap after) :
      Tells (String.ofList (before ++ '"' :: List.intercalate [','] cells ++ '"' :: after)) t

theorem Spells.of_toUpper {cs : List Char} {word : String}
    (ascii : word.toList.all (fun c => c.toNat < 128) = true)
    (h : cs.map Char.toUpper = word.toList) : Spells cs word :=
  upperChars_of_toUpper (fun c member => of_decide_eq_true (List.all_eq_true.1 ascii c member)) h

/-- A character that is neither blank nor a mark of the list. -/
def Inner (c : Char) : Prop := isBlank c = false ∧ c ≠ ',' ∧ c ≠ '=' ∧ c ≠ '"'

instance (c : Char) : Decidable (Inner c) := inferInstanceAs (Decidable (_ ∧ _))

theorem settled_of_not_inner {c : Char} (h : ¬Inner c) : Settled c.toNat := by
  by_cases blank : isBlank c = true
  · exact settled_of_isBlank blank
  · have mark : c = ',' ∨ c = '=' ∨ c = '"' := by
      by_contra other
      rw [not_or, not_or] at other
      exact h ⟨eq_false_of_ne_true blank, other⟩
    rcases mark with rfl | rfl | rfl
    all_goals exact settled_ascii (.inl (by decide))

def Solid (cs : List Char) : Prop := ∀ c ∈ cs, Inner c

instance (cs : List Char) : Decidable (Solid cs) := List.decidableBAll Inner cs

def Plain (word : String) : Prop := word.toList ≠ [] ∧ Solid word.toList

instance (word : String) : Decidable (Plain word) := inferInstanceAs (Decidable (_ ∧ _))

theorem plain_startOfTimeWord : Plain startOfTimeWord := by decide

theorem plain_word (status : Status) : Plain (word status) := by
  cases status <;> decide

theorem Spells.solid {cs : List Char} {word : String} (h : Spells cs word) (plain : Plain word) :
    Solid cs := by
  intro c member
  by_contra outer
  have capital := mem_upperChars_of_settled (settled_of_not_inner outer) member
  rw [h] at capital
  exact outer (plain.2 c capital)

theorem Spells.dense {cs : List Char} {word : String} (h : Spells cs word) (plain : Plain word) :
    Word cs := by
  refine ⟨?_, fun c member => (h.solid plain c member).1⟩
  rintro rfl
  exact plain.1 h.symm

theorem inner_of_isDigit {c : Char} (h : isDigit c = true) : Inner c := by
  have digits : ∀ n < 58, 48 ≤ n → Inner (Char.ofNat n) := by decide
  unfold isDigit digit? at h
  split at h
  · rename_i bounds
    have inner := digits c.toNat (Nat.lt_succ_of_le bounds.2) bounds.1
    rwa [Char.ofNat_toNat] at inner
  · cases h

theorem solid_isoChars (i : Instant) : Solid i.isoChars := by
  have zone : Solid Offset.utc.chars := by decide
  have digits {width n : Nat} {c : Char} (h : c ∈ padded width n) : Inner c :=
    inner_of_isDigit (isDigit_of_mem_padded h)
  intro c member
  rw [Reader.isoChars_eq, dateChars] at member
  simp only [List.mem_append, List.mem_cons] at member
  rcases member with ((year | rfl | month) | rfl | day) | rfl | clock | offset
  · exact digits year
  · decide
  · exact digits month
  · decide
  · exact digits day
  · decide
  · rcases Reader.mem_timeChars clock with digit | rfl | rfl
    · exact inner_of_isDigit digit
    · decide
    · decide
  · exact zone c offset

theorem TellsInstant.solid {cs : List Char} {i : Instant} (h : TellsInstant cs i) :
    Solid cs := by
  rcases h with rfl | ⟨-, spelled⟩
  · exact solid_isoChars i
  · exact spelled.solid plain_startOfTimeWord

theorem TellsInstant.dense {cs : List Char} {i : Instant} (h : TellsInstant cs i) : Word cs := by
  rcases h with rfl | ⟨-, spelled⟩
  · refine ⟨?_, fun c member => (solid_isoChars i c member).1⟩
    rw [Reader.isoChars_eq]
    exact List.append_ne_nil_of_right_ne_nil _ (List.cons_ne_nil _ _)
  · exact spelled.dense plain_startOfTimeWord

theorem readStamp_of_tells {cs gap : List Char} {i : Instant} (h : TellsInstant cs i)
    (blank : Gap gap) (parameter : String) :
    readStamp parameter (String.ofList (cs ++ gap)) = .ok (Stamp.ofInstant i) := by
  have trimmed : trim (String.ofList (cs ++ gap)) = String.ofList cs := by
    rw [trim, String.toList_ofList, trimChars_append_blank blank, trimChars_word h.dense]
  rw [readStamp, trimmed]
  rcases h with rfl | ⟨rfl, spelled⟩
  · have other : upper (String.ofList i.isoChars) ≠ startOfTimeWord := by
      intro same
      have hyphen : '-' ∈ upperChars i.isoChars := by
        refine mem_upperChars_of_settled (settled_ascii (.inl (by decide))) ?_
        rw [Reader.isoChars_eq, dateChars]
        simp only [List.mem_append, List.mem_cons, true_or, or_true]
      rw [upper, String.toList_ofList] at same
      have absent : '-' ∉ startOfTimeWord.toList := by decide
      rw [← same, String.toList_ofList] at absent
      exact absent hyphen
    rw [if_neg other, show String.ofList i.isoChars = i.iso from rfl, Stamp.ofIso?_iso]
    rfl
  · have same : upper (String.ofList cs) = startOfTimeWord := by
      rw [upper, String.toList_ofList, spelled, String.ofList_toList]
    rw [if_pos same]

theorem readStatus_of_spells {cs gap : List Char} {status : Status} (blank : Gap gap)
    (h : Spells cs (word status)) :
    readStatus (.text (String.ofList (gap ++ cs))) = .ok status := by
  have same : normal (String.ofList (gap ++ cs)) = word status := by
    rw [normal, trim, String.toList_ofList, trimChars_blank_append blank,
      trimChars_word (h.dense (plain_word status)), upper, String.toList_ofList, h, String.ofList_toList]
  unfold readStatus
  dsimp only [Value.display]
  rw [same, find?_word_status]

theorem splitLast_of_free {front back : List Char} (free : '=' ∉ back) :
    splitLast (front ++ '=' :: back) = some (front, back) := by
  have reversed : (front ++ '=' :: back).reverse = back.reverse ++ '=' :: front.reverse := by
    simp
  have ahead : ∀ c ∈ back.reverse, (c != '=') = true := by
    intro c member
    rw [bne_iff_ne]
    rintro rfl
    exact free (List.mem_reverse.1 member)
  rw [splitLast, reversed, List.span_eq_takeWhile_dropWhile, List.takeWhile_append_of_pos ahead,
    List.dropWhile_append_of_pos ahead]
  simp

theorem TellsEntry.read {cell : List Char} {e : Instant × Status} (h : TellsEntry cell e)
    (whole : Value) : (trimChars cell).isEmpty = false ∧ ∃ pair,
      splitEntry whole (trimChars cell) = .ok pair ∧
      readEntry pair = .ok (Stamp.ofInstant e.1, e.2) := by
  obtain ⟨start, moment, left_, right_, named, finish⟩ := h
  rename_i before instant left right name after i status
  have begins := moment.dense
  have ends := named.dense (plain_word status)
  have trimmed : trimChars (before ++ (instant ++ (left ++ '=' :: right) ++ name) ++ after) =
      (instant ++ left) ++ '=' :: (right ++ name) := by
    rw [trimChars_append_blank finish, trimChars_blank_append start, trimChars_between begins ends]
    simp
  have free : '=' ∉ right ++ name := by
    rw [List.mem_append, not_or]
    refine ⟨fun member => absurd (right_ _ member) (by decide), fun member => ?_⟩
    exact (named.solid (plain_word status) _ member).2.2.1 rfl
  have solid : ¬(instant ++ left).all isBlank = true := by
    obtain ⟨c, rest, rfl⟩ := List.exists_cons_of_ne_nil begins.nonempty
    simp [begins.dense c List.mem_cons_self]
  rw [trimmed]
  refine ⟨by simp, (.text (String.ofList (instant ++ left)), .text (String.ofList (right ++ name))),
    ?_, ?_⟩
  · rw [splitEntry, splitLast_of_free free]
    dsimp only
    rw [if_neg solid]
  · have stamp := readStamp_of_tells moment left_ transitionsName
    have status := readStatus_of_spells right_ named
    rw [readEntry]
    simp only [Value.display, stamp, status]
    rfl

theorem TellsEntries.read {cells : List (List Char)} {entries : List (Instant × Status)}
    (h : TellsEntries cells entries) (whole : Value) : ∃ pairs,
      (CommaList.kept cells).mapM (splitEntry whole) = .ok pairs ∧
      pairs.mapM readEntry = .ok (entries.map fun e => (Stamp.ofInstant e.1, e.2)) := by
  induction h with
  | nil => exact ⟨[], rfl, rfl⟩
  | @gap cell cells entries empty rest ih =>
    have dropped : CommaList.kept (cell :: cells) = CommaList.kept cells := by
      have none : trimChars cell = [] := by
        rw [← List.append_nil cell, trimChars_blank_append empty]
        rfl
      simp [CommaList.kept, none]
    rw [dropped]
    exact ih
  | @entry cell cells e entries first rest ih =>
    obtain ⟨some, pair, split, entry⟩ := first.read whole
    obtain ⟨pairs, splits, read⟩ := ih
    have held : CommaList.kept (cell :: cells) = trimChars cell :: CommaList.kept cells := by
      simp [CommaList.kept, some]
    rw [held]
    refine ⟨pair :: pairs, ?_, ?_⟩
    · rw [List.mapM_cons, split, splits]
      rfl
    · rw [List.mapM_cons, entry, read]
      rfl

theorem TellsEntry.unmarked {cell : List Char} {e : Instant × Status} (h : TellsEntry cell e) :
    ∀ c ∈ cell, c ≠ ',' ∧ c ≠ '"' := by
  obtain ⟨start, moment, left_, right_, named, finish⟩ := h
  have blank {c : Char} (h : isBlank c = true) : c ≠ ',' ∧ c ≠ '"' := by
    constructor
    all_goals
      rintro rfl
      exact absurd h (by decide)
  intro c member
  simp only [List.mem_append, List.mem_cons] at member
  rcases member with (before | (instant | left | rfl | right) | name) | after
  · exact blank (start c before)
  · have inner := moment.solid c instant
    exact ⟨inner.2.1, inner.2.2.2⟩
  · exact blank (left_ c left)
  · decide
  · exact blank (right_ c right)
  · have inner := named.solid (plain_word _) c name
    exact ⟨inner.2.1, inner.2.2.2⟩
  · exact blank (finish c after)

theorem TellsEntries.unmarked {cells : List (List Char)} {entries : List (Instant × Status)}
    (h : TellsEntries cells entries) : ∀ cell ∈ cells, ∀ c ∈ cell, c ≠ ',' ∧ c ≠ '"' := by
  induction h with
  | nil => exact nofun
  | @gap cell cells entries empty rest ih =>
    refine List.forall_mem_cons.2 ⟨fun c member => ?_, ih⟩
    have blank := empty c member
    constructor
    all_goals
      rintro rfl
      exact absurd blank (by decide)
  | entry first rest ih => exact List.forall_mem_cons.2 ⟨first.unmarked, ih⟩

theorem quote_not_mem_intercalate {cells : List (List Char)} (h : ∀ cell ∈ cells, '"' ∉ cell) :
    '"' ∉ List.intercalate [','] cells := by
  induction cells with
  | nil => exact List.not_mem_nil
  | cons cell rest ih =>
    obtain ⟨first, rest_⟩ := List.forall_mem_cons.1 h
    cases rest with
    | nil =>
      rw [List.intercalate_singleton]
      exact first
    | cons next rest =>
      rw [List.intercalate_cons_cons, List.mem_append, List.mem_append, not_or, not_or]
      exact ⟨⟨first, by decide⟩, ih rest_⟩

theorem itemChars_of_tells {s : String} {t : Timeline Status} (h : Tells s t) :
    ∃ cells, TellsEntries cells t.entries ∧
      CommaList.itemChars (unwrapped (trimChars s.toList)) = CommaList.kept cells := by
  cases h with
  | @plain before after cells t start listed finish =>
    have free : ∀ cell ∈ cells, ',' ∉ cell :=
      fun cell member comma => (listed.unmarked cell member _ comma).1 rfl
    have bare : '"' ∉ trimChars (List.intercalate [','] cells) := by
      intro member
      refine quote_not_mem_intercalate (fun cell member quote => ?_) (trimChars_subset _ member)
      exact (listed.unmarked cell member _ quote).2 rfl
    have unquoted : unwrapped (trimChars (List.intercalate [','] cells)) =
        trimChars (List.intercalate [','] cells) :=
      if_neg fun quoted => bare (List.mem_of_mem_head? quoted.2.1)
    refine ⟨cells, listed, ?_⟩
    rw [String.toList_ofList, trimChars_append_blank finish, trimChars_blank_append start, unquoted,
      CommaList.itemChars_trimChars, CommaList.itemChars_intercalate free]
  | @quoted before after cells t start listed finish =>
    have free : ∀ cell ∈ cells, ',' ∉ cell :=
      fun cell member comma => (listed.unmarked cell member _ comma).1 rfl
    have quote : Word ['"'] := ⟨nofun, List.forall_mem_singleton.2 (by decide)⟩
    have trimmed : trimChars (before ++ '"' :: List.intercalate [','] cells ++ '"' :: after) =
        '"' :: List.intercalate [','] cells ++ ['"'] := by
      have split : before ++ '"' :: List.intercalate [','] cells ++ '"' :: after =
          before ++ (['"'] ++ List.intercalate [','] cells ++ ['"']) ++ after := by
        simp
      rw [split, trimChars_append_blank finish, trimChars_blank_append start,
        trimChars_between quote quote]
      rfl
    have unquoted : unwrapped ('"' :: List.intercalate [','] cells ++ ['"']) =
        List.intercalate [','] cells := by
      rw [unwrapped, if_pos ⟨by simp, rfl, List.getLast?_concat⟩]
      simp
    refine ⟨cells, listed, ?_⟩
    rw [String.toList_ofList, trimmed, unquoted, CommaList.itemChars_intercalate free]

theorem build_ofInstants (t : Timeline Status) :
    build (t.entries.map fun e => (Stamp.ofInstant e.1, e.2)) = .ok t := by
  have told : Timeline.Told (t.entries.map fun e => (Stamp.ofInstant e.1, e.2)) t.entries := by
    rw [Timeline.Told, List.map_map]
    exact List.map_congr_left fun e _ => by simp
  rw [build, Timeline.build_eq_ok_iff.2 told]
  rfl

/-- Every text of a timeline is read as that timeline. -/
theorem readTransitions_of_tells {s : String} {t : Timeline Status} (h : Tells s t) :
    readTransitions (.text s) = .ok t := by
  obtain ⟨cells, listed, items⟩ := itemChars_of_tells h
  obtain ⟨pairs, split, read⟩ := listed.read (.text s)
  have entries : readEntries (.text s) = .ok (t.entries.map fun e => (Stamp.ofInstant e.1, e.2)) := by
    change (splitEntries (.text s) s >>= fun pairs => pairs.mapM readEntry) = _
    rw [splitEntries, items, split]
    exact read
  change (readEntries (.text s) >>= build) = _
  rw [entries]
  exact build_ofInstants t

theorem gap_nil : Gap [] := nofun

theorem spells_word (status : Status) : Spells (word status).toList (word status) := by
  cases status <;> decide

theorem tells_entryChars (e : Instant × Status) : TellsEntry (entryChars e) e := by
  obtain ⟨i, status⟩ := e
  have bare : entryChars (i, status) =
      [] ++ (i.isoChars ++ ([] ++ '=' :: []) ++ (word status).toList) ++ [] := by
    rw [entryChars, List.append_nil, List.nil_append, List.nil_append, List.append_assoc]
    rfl
  rw [bare]
  exact .mk gap_nil (.inl rfl) gap_nil gap_nil (spells_word status) gap_nil

theorem tells_transitionsText (t : Timeline Status) : Tells (transitionsText t) t := by
  have listed (entries : List (Instant × Status)) :
      TellsEntries (entries.map entryChars) entries := by
    induction entries with
    | nil => exact .nil
    | cons e rest ih => exact .entry (tells_entryChars e) ih
  have bare := Tells.plain gap_nil (listed t.entries) gap_nil
  rwa [List.nil_append, List.append_nil] at bare

/-- The text form of a timeline is read back, and whatever else tells the timeline is read as it. A
text that is read can be written anew. -/
theorem transitions_read_back :
    (∀ t : Timeline Status, readTransitions (.text (transitionsText t)) = .ok t) ∧
    (∀ (t : Timeline Status) (s : String), Tells s t → readTransitions (.text s) = .ok t) ∧
    ∀ (s : String) (t : Timeline Status), readTransitions (.text s) = .ok t →
      readTransitions (.text (transitionsText t)) = .ok t := by
  have back (t : Timeline Status) : readTransitions (.text (transitionsText t)) = .ok t :=
    readTransitions_of_tells (tells_transitionsText t)
  exact ⟨back, fun t s told => readTransitions_of_tells told, fun s t _ => back t⟩

/-- Quoted, in letters of both cases, with blanks at every place and empty entries at the end. -/
example : Tells "\t\" start_Of_time = Not_Started\t,, \"\n" (Timeline.constant .notStarted) := by
  have moment : TellsInstant "start_Of_time".toList Instant.epoch :=
    .inr ⟨rfl, .of_toUpper (by decide) (by decide)⟩
  have named : Spells "Not_Started".toList (word Status.notStarted) :=
    .of_toUpper (by decide) (by decide)
  have gap : Gap [' '] := by decide
  have tab : Gap ['\t'] := by decide
  have entry := TellsEntry.mk gap moment gap gap named tab
  have entries : TellsEntries _ (Timeline.constant Status.notStarted).entries :=
    .entry entry (.gap gap_nil (.gap gap .nil))
  have told := Tells.quoted tab entries (show Gap ['\n'] by decide)
  rwa [show String.ofList _ = "\t\" start_Of_time = Not_Started\t,, \"\n" by decide] at told

end RegistryTokens.Field
