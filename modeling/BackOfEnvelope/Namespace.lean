import BackOfEnvelope.Json
import BackOfEnvelope.OrderedDictionary

/-!
# Namespaces

A namespace gives names their current numbers.  A name may also be bound to no
value, when a step that carries the name could not produce one; that differs
from the name being absent.
-/

namespace BackOfEnvelope

/-- The current number of every bound name, in the order in which the names
were first bound. -/
abbrev Namespace := OrderedDictionary String (Option Float)

namespace Namespace

def empty : Namespace :=
  OrderedDictionary.empty

/-- What a name is bound to: absent, bound to no value, or bound to a number. -/
def binding (names : Namespace) (name : String) : Option (Option Float) :=
  names.find? name

/-- The number of a name, if it has one. -/
def number? (names : Namespace) (name : String) : Option Float :=
  (names.binding name).join

/-- Bind a name to the result of a step, which may be no value. -/
def bind (names : Namespace) (name : String) (value : Option Float) : Namespace :=
  names.insert name value

def set (names : Namespace) (name : String) (value : Float) : Namespace :=
  names.bind name (some value)

/-- Bind names to numbers, one after the other. -/
def setAll (names : Namespace) (settings : List (String × Float)) : Namespace :=
  settings.foldl (fun soFar setting => soFar.set setting.1 setting.2) names

/-- Remove a name; the others keep their order. -/
def remove (names : Namespace) (name : String) : Namespace :=
  names.erase name

theorem binding_empty (name : String) : empty.binding name = none :=
  rfl

theorem binding_bind (names : Namespace) (name other : String) (value : Option Float) :
    (names.bind name value).binding other =
      if name = other then some value else names.binding other :=
  OrderedDictionary.find?_insert names name other value

theorem binding_remove (names : Namespace) (name other : String) :
    (names.remove name).binding other = if name = other then none else names.binding other :=
  OrderedDictionary.find?_erase names name other

theorem keys_bind (names : Namespace) (name : String) (value : Option Float) :
    (names.bind name value).keys =
      if name ∈ names.keys then names.keys else names.keys ++ [name] :=
  OrderedDictionary.keys_insert names name value

theorem keys_remove (names : Namespace) (name : String) :
    (names.remove name).keys = names.keys.filter fun present => present ≠ name :=
  OrderedDictionary.keys_erase names name

/-- The JSON form of a namespace: an object in binding order, with null for no
value. -/
def toJson (names : Namespace) : Json :=
  .object (names.entries.map fun entry =>
    (entry.1, match entry.2 with | some value => Json.float value | none => Json.null))

end Namespace

end BackOfEnvelope
