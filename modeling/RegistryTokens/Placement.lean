/-!
# Placement

Items that carry numbers are laid out in a table and read off in the order of their places. The
size of a table is a power of two. An item belongs at its number modulo the size; if that place is
taken, the places that follow are tried, as many as are always tried together if they all lie within
the table, and then further starts, which the higher bits of the number help to choose. A table
that has become three fifths full is laid out anew in a larger one. The order depends on the order
of arrival only where items compete for a place.
-/

set_option autoImplicit false

namespace RegistryTokens.Placement

structure Seat (α : Type) where
  place : Nat
  number : Nat
  item : α

structure Table (α : Type) where
  size : Nat
  seats : List (Seat α)

def leastSize : Nat := 8

def followers : Nat := 9

/-- What a new start takes in of the number at once, as a power of two. -/
def startStep : Nat := 32

namespace Table

variable {α : Type}

def blank (size : Nat) : Table α := ⟨size, []⟩

def taken (t : Table α) (place : Nat) : Bool := t.seats.any (·.place == place)

def tried (t : Table α) (start : Nat) : List Nat :=
  if start + followers < t.size then List.range' start (followers + 1) else [start]

/-- The place of a number of which `rest` is still to be taken in, from a start on. Once nothing is
left, the starts run through the whole table, in which some place is free. -/
def freePlace (t : Table α) : Nat → Nat → Nat → Nat
  | 0, start, _ => start
  | n + 1, start, rest =>
    match (t.tried start).find? fun place => !t.taken place with
    | some place => place
    | none =>
      let rest := rest / startStep
      t.freePlace n ((5 * start + 1 + rest) % t.size) rest

def seat (t : Table α) (number : Nat) (item : α) : Table α :=
  let place := t.freePlace (t.size + number.log2 + 1) (number % t.size) number
  { t with seats :=
      t.seats.takeWhile (·.place < place) ++ ⟨place, number, item⟩ ::
        t.seats.dropWhile (·.place < place) }

/-- The size of a table that is laid out anew: the least power of two above four times the count
of items, or above twice a great count. -/
def nextSize (count : Nat) : Nat :=
  let wanted := if 50000 < count then 2 * count else 4 * count
  max leastSize (2 * 1 <<< wanted.log2)

def enlarge (t : Table α) : Table α :=
  t.seats.foldl (fun u s => u.seat s.number s.item) (blank (nextSize t.seats.length))

def add (t : Table α) (number : Nat) (item : α) : Table α :=
  let seated := t.seat number item
  if 5 * seated.seats.length < 3 * (t.size - 1) then seated else seated.enlarge

def items (t : Table α) : List α := t.seats.map (·.item)

theorem items_seat_perm (t : Table α) (number : Nat) (item : α) :
    (t.seat number item).items.Perm (item :: t.items) := by
  simp only [seat, items, List.map_append, List.map_cons]
  refine List.perm_middle.trans ?_
  rw [← List.map_append, List.takeWhile_append_dropWhile]

theorem items_seats_perm (seats : List (Seat α)) (t : Table α) :
    (seats.foldl (fun u s => u.seat s.number s.item) t).items.Perm
      (seats.map (·.item) ++ t.items) := by
  induction seats generalizing t with
  | nil => exact .refl _
  | cons s rest ih =>
    refine (ih (t.seat s.number s.item)).trans ?_
    exact ((items_seat_perm t s.number s.item).append_left _).trans List.perm_middle

theorem items_enlarge_perm (t : Table α) : t.enlarge.items.Perm t.items := by
  simpa [enlarge, blank, items] using items_seats_perm t.seats (blank (nextSize t.seats.length))

theorem items_add_perm (t : Table α) (number : Nat) (item : α) :
    (t.add number item).items.Perm (item :: t.items) := by
  simp only [add]
  split
  · exact items_seat_perm t number item
  · exact (items_enlarge_perm _).trans (items_seat_perm t number item)

end Table

def arrange {α : Type} (numbered : List (Nat × α)) : List α :=
  (numbered.foldl (fun t n => t.add n.1 n.2) (Table.blank leastSize)).items

theorem items_foldl_add_perm {α : Type} (numbered : List (Nat × α)) (t : Table α) :
    (numbered.foldl (fun t n => t.add n.1 n.2) t).items.Perm
      (numbered.map (·.2) ++ t.items) := by
  induction numbered generalizing t with
  | nil => exact .refl _
  | cons n rest ih =>
    refine (ih (t.add n.1 n.2)).trans ?_
    exact ((t.items_add_perm n.1 n.2).append_left _).trans List.perm_middle

theorem arrange_perm {α : Type} (numbered : List (Nat × α)) :
    (arrange numbered).Perm (numbered.map (·.2)) := by
  simpa [arrange, Table.blank, Table.items] using
    items_foldl_add_perm numbered (Table.blank leastSize)

end RegistryTokens.Placement
