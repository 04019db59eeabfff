import Toolsmith.Number.Shortest
import Toolsmith.Text.Quoted

/-!
# Documents

The values that documents, manifests, indexes and registry answers are made of. Objects keep the
order of their members; a key that is written again keeps its place and takes the new value.
-/

namespace Toolsmith

/-- A value of a document. Integers of any size are apart from numbers with a fraction. -/
inductive Json where
  | null
  | bool (value : Bool)
  | integer (value : Int)
  | number (value : Binary64)
  | text (value : Text)
  | array (items : List Json)
  | object (members : List (Text × Json))
deriving Repr, Inhabited

/-- The members of an object, in order. -/
abbrev Members := List (Text × Json)

namespace Members

/-- The value of a key. -/
def get? (members : Members) (key : Text) : Option Json :=
  members.lookup key

/-- Whether a key is present. -/
def has (members : Members) (key : Text) : Bool :=
  (members.get? key).isSome

/-- Gives a key a value: in its place if the key is present, else at the end. -/
def set (key : Text) (value : Json) : Members → Members
  | [] => [(key, value)]
  | (k, v) :: rest => if k = key then (k, value) :: rest else (k, v) :: set key value rest

/-- The object of pairs that may repeat a key. -/
def ofPairs (pairs : List (Text × Json)) : Members :=
  pairs.foldl (fun members (key, value) => set key value members) []

end Members

namespace Json

/-- The text of a string. -/
def ofString (s : String) : Json :=
  text (Text.ofString s)

/-- The members of an object with keys given as strings. -/
def record (fields : List (String × Json)) : Json :=
  object (fields.map fun (key, value) => (Text.ofString key, value))

/-- Only an object's members. -/
def members? : Json → Option Members
  | object members => some members
  | _ => none

/-- Only a text's content. -/
def text? : Json → Option Text
  | text t => some t
  | _ => none

/-- The value under a key of an object; absent on any other value. -/
def get? (key : Text) : Json → Option Json
  | object members => Members.get? members key
  | _ => none

/-- Everything is true but null, false, zeros, the empty text and empty containers. -/
def isTrue : Json → Bool
  | null => false
  | bool b => b
  | integer n => n != 0
  | number x => !x.isZero
  | text t => !t.isEmpty
  | array items => !items.isEmpty
  | object members => !members.isEmpty

/-- The value if it is true in the sense of `isTrue`, else null. -/
def orNull (v : Json) : Json :=
  if v.isTrue then v else null

mutual

/-- How many arrays and objects are open at once at the innermost place of a value. -/
def depth : Json → Nat
  | array items => itemsDepth items + 1
  | object members => membersDepth members + 1
  | _ => 0

/-- The greatest depth of the items. -/
def itemsDepth : List Json → Nat
  | [] => 0
  | v :: rest => max (depth v) (itemsDepth rest)

/-- The greatest depth of the members' values. -/
def membersDepth : List (Text × Json) → Nat
  | [] => 0
  | (_, v) :: rest => max (depth v) (membersDepth rest)

end

/-- The most arrays and objects that may be open at once where a value is read or written. -/
def maxDepth : Nat := 990

/-- How a display writes the numbers that are not finite. -/
def displaySpelling : Binary64.Spelling := ⟨"nan", "inf"⟩

mutual

/-- The literal of a value: texts are quoted and containers are written on one line. -/
def literal : Json → Text
  | null => Text.ofString "None"
  | bool true => Text.ofString "True"
  | bool false => Text.ofString "False"
  | integer n => Text.ofInt n
  | number x => x.render displaySpelling
  | text t => t.quoted
  | array items => .char '[' :: literalItems items ++ [.char ']']
  | object members => .char '\x7b' :: literalMembers members ++ [.char '\x7d']

/-- The literals of items with a comma and a space between neighbours. -/
def literalItems : List Json → Text
  | [] => []
  | [v] => literal v
  | v :: w :: rest => literal v ++ Text.ofString ", " ++ literalItems (w :: rest)

/-- The literals of members with a comma and a space between neighbours. -/
def literalMembers : List (Text × Json) → Text
  | [] => []
  | [(key, v)] => key.quoted ++ Text.ofString ": " ++ literal v
  | (key, v) :: m :: rest =>
    key.quoted ++ Text.ofString ": " ++ literal v ++ Text.ofString ", " ++
      literalMembers (m :: rest)

end

/-- The text that stands for a value inside a longer text: a text is itself and any other value
its literal. -/
def display : Json → Text
  | text t => t
  | v => v.literal

/-- A value that can be a key of a set: anything but a container. -/
def isKey : Json → Bool
  | array _ => false
  | object _ => false
  | _ => true

/-- The integer that a boolean or an integer counts as. -/
def asInt? : Json → Option Int
  | bool b => some (if b then 1 else 0)
  | integer n => some n
  | _ => none

/-- Whether two values are the same key of a set: numbers of all kinds are compared by value, with
true as one and false as zero, and the undefined number is one key. Containers are no keys and equal
nothing. -/
def sameKey : Json → Json → Bool
  | null, null => true
  | text s, text t => s == t
  | number x, number y => x == y || x.equals y
  | number x, v => v.asInt?.any x.equalsInt
  | v, number y => v.asInt?.any y.equalsInt
  | v, w =>
    match v.asInt?, w.asInt? with
    | some m, some n => m == n
    | _, _ => false

end Json

end Toolsmith
