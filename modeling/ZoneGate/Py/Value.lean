import Mathlib.Data.Int.Notation
import Mathlib.Data.List.Basic
import Mathlib.Data.List.Infix
import ZoneGate.Library.Dict

/-!
# Decoded JSON

The values that decoding a JSON text gives: what `json.loads` returns, and what Pydantic validates.
Subscripts and `in` are those of the Python value, with the exceptions they raise on the others.
-/

namespace Py

/-- A dictionary is its items in order; a `float` is its literal. -/
inductive Json
  | null
  | bool (b : Bool)
  | int (value : ℤ)
  | float (literal : String)
  | str (s : String)
  | arr (items : List Json)
  | obj (members : List (String × Json))

/-- The `str` of floats, lists and dictionaries, and the float literals that are zero once they are
rounded. -/
class ValueText where
  repr : Json → String
  isZero : String → Bool

/-- Exceptions of the interpreter. -/
inductive PyError
  | keyError | indexError | typeError | valueError | attributeError | recursionError
deriving DecidableEq, Repr

namespace Json

/-- `type(value).__name__` -/
def typeName : Json → String
  | null => "NoneType"
  | bool _ => "bool"
  | int _ => "int"
  | float _ => "float"
  | str _ => "str"
  | arr _ => "list"
  | obj _ => "dict"

/-- Neither a list nor a dictionary. -/
def IsScalar : Json → Prop
  | arr _ | obj _ => False
  | _ => True

/-- The value is the string. -/
def isStr (word : String) : Json → Bool
  | str s => s = word
  | _ => false

/-- `word in value`: a key, an element, or a part of a string. -/
def contains (word : String) : Json → Except PyError Bool
  | obj members => .ok (members.lookup word).isSome
  | arr items => .ok (items.any (isStr word))
  | str s => .ok (decide (word.toList <:+: s.toList))
  | _ => .error .typeError

/-- `value[key]` -/
def item (key : String) : Json → Except PyError Json
  | obj members => (members.lookup key).elim (.error .keyError) .ok
  | _ => .error .typeError

/-- `value[0]` -/
def first : Json → Except PyError Json
  | arr items => items.head?.elim (.error .indexError) .ok
  | str s => s.toList.head?.elim (.error .indexError) fun c => .ok (str (String.singleton c))
  | obj _ => .error .keyError
  | _ => .error .typeError

/-- `value[key] = v` -/
def setItem (value : Json) (key : String) (v : Json) : Except PyError Json :=
  match value with
  | obj members => .ok (obj (Dict.insert key v members))
  | _ => .error .typeError

/-- Iterating over a value: the elements, the keys or the characters. -/
def elements : Json → Except PyError (List Json)
  | arr items => .ok items
  | obj members => .ok (members.map fun e => str e.1)
  | str s => .ok (s.toList.map fun c => str (String.singleton c))
  | _ => .error .typeError

/-- The items of a value that is asked as a dictionary, by `value.get`. -/
def dict : Json → Except PyError (List (String × Json))
  | obj members => .ok members
  | _ => .error .attributeError

/-- `bool(value)` -/
def truthy [ValueText] : Json → Bool
  | null => false
  | bool b => b
  | int value => value ≠ 0
  | float literal => !ValueText.isZero literal
  | str s => s ≠ ""
  | arr items => !items.isEmpty
  | obj members => !members.isEmpty

/-- `str(value)` -/
def toStr [ValueText] : Json → String
  | null => "None"
  | bool b => if b then "True" else "False"
  | int value => toString value
  | str s => s
  | value => ValueText.repr value

/-- A value is a scalar, or it is built from values. -/
@[elab_as_elim]
theorem ind {P : Json → Prop} (scalar : ∀ v, v.IsScalar → P v)
    (list : ∀ items, (∀ v ∈ items, P v) → P (arr items))
    (dictionary : ∀ members, (∀ e ∈ members, P e.2) → P (obj members)) (v : Json) : P v :=
  match v with
  | arr items => list items fun v _ => ind scalar list dictionary v
  | obj members => dictionary members fun e _ => ind scalar list dictionary e.2
  | null | bool _ | int _ | float _ | str _ => scalar _ trivial
termination_by sizeOf v
decreasing_by
  · have inside : sizeOf v < sizeOf items := List.sizeOf_lt_of_mem (by assumption)
    rw [Json.arr.sizeOf_spec]
    omega
  · have inside : sizeOf e < sizeOf members := List.sizeOf_lt_of_mem (by assumption)
    have value : sizeOf e = 1 + sizeOf e.1 + sizeOf e.2 := Prod.mk.sizeOf_spec e.1 e.2
    rw [Json.obj.sizeOf_spec]
    omega

theorem item_eq_ok {key : String} {value found : Json} :
    value.item key = .ok found ↔
      ∃ members, value = obj members ∧ members.lookup key = some found := by
  cases value with
  | obj members => rcases h : members.lookup key with _ | v <;> simp [item, h]
  | _ => simp [item]

/-- An element of what is no list is no dictionary. -/
theorem first_item_eq_ok {key : String} {value found : Json} :
    value.first >>= item key = .ok found ↔
      ∃ head rest, value = arr (head :: rest) ∧ head.item key = .ok found := by
  cases value with
  | arr items =>
    cases items with
    | nil => exact iff_of_false nofun (by simp)
    | cons head rest =>
      constructor
      · exact fun h => ⟨head, rest, rfl, h⟩
      · rintro ⟨_, _, ⟨⟩, h⟩
        exact h
  | str s =>
    refine iff_of_false ?_ (by simp)
    rw [first]
    rcases s.toList.head? with _ | c <;> exact nofun
  | _ => exact iff_of_false nofun (by simp)

theorem item_ne_recursionError (key : String) (value : Json) :
    value.item key ≠ .error .recursionError := by
  cases value with
  | obj members => rcases h : members.lookup key with _ | v <;> simp [item, h]
  | _ => simp [item]

theorem first_ne_recursionError (value : Json) : value.first ≠ .error .recursionError := by
  cases value with
  | arr items => rcases items with _ | ⟨head, rest⟩ <;> simp [first]
  | str s => rcases h : s.toList.head? with _ | c <;> simp [first, h]
  | _ => simp [first]

end Json

end Py
