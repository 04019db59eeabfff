import Toolsmith.Naming.ToolName

/-!
# Distinct names

A name that is taken already gets the first free number as a suffix. Every name has a counter of
its own, which goes on from the last number that was tried for it.
-/

namespace Toolsmith.Naming

/-- A name with a number as its suffix. -/
def numbered (name : Text) (number : Nat) : Text :=
  name ++ .char '_' :: Text.ofNat number

/-- The first number from `number` on whose suffix makes a name that is not taken. One of the next
`fuel` numbers is free if there are more of them than names taken. -/
def firstFree (taken : List Text) (name : Text) : Nat → Nat → Nat
  | 0, number => number
  | fuel + 1, number =>
    if taken.contains (numbered name number) then firstFree taken name fuel (number + 1)
    else number

/-- The names given so far, and for every repeated name the number it was given last. -/
structure Taken where
  names : List Text
  counters : List (Text × Nat)

namespace Taken

/-- The number that was given last for a name. -/
def counter (taken : Taken) (name : Text) : Nat :=
  (taken.counters.lookup name).getD 0

/-- The name that is given for a wish: the wish itself, or the wish with a number. This is one round
of `deduplicate_names`. -/
def give (taken : Taken) (wish : Text) : Text × Taken :=
  if taken.names.contains wish then
    let number := firstFree taken.names wish (taken.names.length + 1) (taken.counter wish + 1)
    let name := numbered wish number
    (name, ⟨name :: taken.names, (wish, number) :: taken.counters⟩)
  else
    (wish, ⟨wish :: taken.names, taken.counters⟩)

end Taken

/-- The names given for a list of wishes after others have been given. -/
def distinctAfter (taken : Taken) : List Text → List Text
  | [] => []
  | wish :: rest =>
    let (name, taken) := taken.give wish
    name :: distinctAfter taken rest

/-- Distinct names for a list of wishes, in order (`deduplicate_names`). -/
def distinct (wishes : List Text) : List Text :=
  distinctAfter ⟨[], []⟩ wishes

/-- The operations with distinct tool names (`name_operations`). -/
def nameAll (operations : List Operation) : List Operation :=
  (operations.zip (distinct (operations.map sharedName))).map
    fun (op, name) => { op with toolName := name }

end Toolsmith.Naming
