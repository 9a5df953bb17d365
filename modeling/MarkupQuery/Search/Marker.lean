/-!
# Marker ids

A search that hangs on the children of a scope marks the scope with a class of its own for a
moment. The class is made of a fixed beginning and an id; ids come from a source that hands out one
after the other and remembers which it has handed out.
-/

namespace MarkupQuery.Marker

def classStem : String := "fob-scope-"

/-- Where the next id comes from. -/
inductive Supply where
  /-- Thirty-two hexadecimal digits that no page carries by chance. -/
  | drawn (state : Nat)
  /-- The numbers from zero on, as far as sixty-four bits go. -/
  | counted (next : UInt64)
  /-- The ids of a list in turn; the last one is handed out again and again, and an empty list
  hands out the empty id. -/
  | listed (ids : List String)

/-- A supply of ids with those that it has handed out. -/
structure Source where
  supply : Supply
  /-- The ids handed out so far, last first. -/
  taken : List String

namespace Supply

/-- How many numbers an id of thirty-two hexadecimal digits can write. -/
def drawnLimit : Nat := 0x100000000000000000000000000000000

def drawnText (n : Nat) : String :=
  let digits := Nat.toDigits 16 (n % drawnLimit)
  String.ofList (List.replicate (32 - digits.length) '0' ++ digits)

/-- The next id, and the supply after it. Drawn ids follow a congruential sequence of full
period. -/
def next : Supply → String × Supply
  | drawn state =>
    (drawnText state, drawn ((6364136223846793005 * state + 1442695040888963407) % drawnLimit))
  | counted n => (toString n.toNat, counted (n + 1))
  | listed [] => ("", listed [])
  | listed [id] => (id, listed [id])
  | listed (id :: ids) => (id, listed ids)

end Supply

namespace Source

/-- A source that has handed out nothing yet. -/
def ofSupply (s : Supply) : Source := ⟨s, []⟩

def drawn : Source := ofSupply (.drawn 0xc2b2ae3d27d4eb4f165667b19e3779f9)

def counted : Source := ofSupply (.counted 0)

def listed (ids : List String) : Source := ofSupply (.listed ids)

def next (s : Source) : String × Source :=
  let (id, supply) := s.supply.next
  (id, ⟨supply, id :: s.taken⟩)

/-- The ids handed out so far, in order. -/
def history (s : Source) : List String := s.taken.reverse

end Source

end MarkupQuery.Marker
