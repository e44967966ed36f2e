import RegistryTokens.Log.Template.Conversion

/-!
# Message templates

A message may be a template with marks, each of which shows an argument; two percent signs stand
for one. Arguments are drawn one after the other, also for the measures that a mark leaves to them,
and every argument must be used up. A lone map as argument gives its entries to marks that name
them; it is itself the argument of the first mark if that names none. The first fault counts, in
the order in which the parts of the marks stand.
-/

set_option autoImplicit false

namespace RegistryTokens.Log.Template

inductive Source where
  | row (rest : List Value)
  | named (entries : List (Value × Value)) (pending : Option Value)

namespace Source

def draw : Source → Answer (Value × Source)
  | row (v :: rest) => .ok (v, row rest)
  | row [] => .error .wrongType
  | named entries (some v) => .ok (v, named entries none)
  | named _ none => .error .wrongType

def choose (s : Source) (key : Key) : Answer Source :=
  match key, s with
  | .absent, _ => .ok s
  | _, row _ => .error .wrongType
  | .unclosed, _ => .error badValue
  | .named name, named entries _ =>
    match Keyed.get? entries (.text name) with
    | some v => .ok (named entries (some v))
    | none => .error (.broke .missingKey)

/-- What a mark chose of a map it must also draw. -/
def settled : Source → Answer Unit
  | named _ (some _) => .error .wrongType
  | _ => .ok ()

def finished : Source → Answer Unit
  | row (_ :: _) => .error .wrongType
  | _ => .ok ()

def drawMeasure (s : Source) : Answer (Int × Source) := do
  let (v, s) ← s.draw
  pure (← Answer.ofOption .wrongType v.asInt?, s)

end Source

def maxWidth : Nat := 9223372036854775807

def maxPrecision : Nat := 2147483647

/-- The width of a mark. A negative argument asks for the left side; the least one has no positive
counterpart and asks for no width. -/
def width (s : Source) (m : Mark) : Answer (Nat × Flags × Source) :=
  match m.width with
  | .written n => if maxWidth < n then .error badValue else .ok (n, m.flags, s)
  | .drawn => do
    let (n, s) ← s.drawMeasure
    if n < -(maxWidth : Int) - 1 ∨ maxWidth < n then throw .overflow
    else if n < -(maxWidth : Int) then pure (0, { m.flags with left := true }, s)
    else if n < 0 then pure (n.natAbs, { m.flags with left := true }, s)
    else pure (n.natAbs, m.flags, s)

def precision (s : Source) (m : Mark) : Answer (Option Nat × Source) :=
  match m.precision with
  | none => .ok (none, s)
  | some (.written n) => if maxPrecision < n then .error badValue else .ok (some n, s)
  | some .drawn => do
    let (n, s) ← s.drawMeasure
    if n < -(maxPrecision : Int) - 1 ∨ maxPrecision < n then throw .overflow
    else pure (some n.toNat, s)

def shown (s : Source) (m : Mark) : Answer (List Char × Source) := do
  let s ← s.choose m.key
  let (width, flags, s) ← width s m
  let (precision, s) ← precision s m
  let letter ← Answer.ofOption badValue m.letter
  let (v, s) ← s.draw
  let filled ← fill { flags, width, precision } letter v
  s.settled
  pure (filled, s)

def expand (s : Source) (cs : List Char) : Answer (List Char) :=
  match cs with
  | [] => do s.finished; pure []
  | '%' :: '%' :: rest => do pure ('%' :: (← expand s rest))
  | '%' :: rest => do
    let (filled, s) ← shown s (Mark.read rest).1
    pure (filled ++ (← expand s (Mark.read rest).2))
  | c :: rest => do pure (c :: (← expand s rest))
termination_by cs.length
decreasing_by
  · simp only [List.length_cons]; omega
  · have := Mark.read_length rest
    simp only [List.length_cons]; omega
  · simp

/-- The message that a template makes of its arguments. Without arguments it stands as it is. -/
def format (template : String) (arguments : List Value) : Answer String :=
  let from_ (s : Source) : Answer String := (expand s template.toList).map String.ofList
  match arguments with
  | [] => .ok template
  | [.map (entry :: entries)] =>
    from_ (.named (entry :: entries) (some (.map (entry :: entries))))
  | arguments => from_ (.row arguments)

end RegistryTokens.Log.Template
