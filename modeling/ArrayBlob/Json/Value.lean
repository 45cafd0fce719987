import ArrayBlob.Json.Number

/-!
# JSON values

A JSON text denotes a tree of values. A string literal with an unpaired surrogate escape is well
formed and denotes no text.
-/

namespace ArrayBlob

/-- A JSON value. -/
inductive Json
  | null
  | bool (value : Bool)
  | number (literal : Number)
  /-- A string literal and its text, if it has one. -/
  | string (text : Option String)
  | array (elements : List Json)
  | object (members : List (Option String × Json))

namespace Json

/-- The value of a text. -/
def ofText (text : String) : Json :=
  string (some text)

/-- The value of a whole number. -/
def ofInt (n : Int) : Json :=
  number (Number.ofInt n)

/-- The value of a double; what is not finite has none. -/
def ofDouble (x : Double) : Json :=
  if x.isFinite then number (Number.ofDouble x) else null

/-- The value of named members. -/
def ofMembers (members : List (String × Json)) : Json :=
  object (members.map fun member => (some member.1, member.2))

/-- The text of a string. -/
def toText? : Json → Option String
  | string text => text
  | _ => none

/-- The truth value of a boolean. -/
def toBool? : Json → Option Bool
  | bool value => some value
  | _ => none

/-- The whole number of a number, if it is at least `lowest` and below `limit`. -/
def toIntBetween? (lowest limit : Int) : Json → Option Int
  | number literal => literal.toInt?.filter fun n => lowest ≤ n && n < limit
  | _ => none

/-- The double of a number. -/
def toDouble? : Json → Option Double
  | number literal => literal.toDouble?
  | _ => none

/-- The elements of an array. -/
def toElements? : Json → Option (List Json)
  | array elements => some elements
  | _ => none

/-- The members of an object whose names all denote a text. -/
def toMembers? : Json → Option (List (String × Json))
  | object members => members.mapM fun member => member.1.map fun name => (name, member.2)
  | _ => none

/-- The name of a choice without content, written as a string or as the only member of an object,
with the value null. -/
def toChoice? : Json → Option String
  | string text => text
  | object [(name, null)] => name
  | _ => none

end Json
end ArrayBlob
