import ZoneGate.Library.Codec
import ZoneGate.Py.Timestamp

/-!
# Models and their JSON

How the types of fields are written in JSON by `model_dump_json` and read by `model_validate_json`,
and the models that are made of such fields and forbid others.
-/

namespace Py

open Codecs

/-- How Pydantic writes the values of a type, and what it accepts for them. -/
abbrev FieldCodec (α : Type) := Codec Json.WellFormed α

/-- The fields of a model. -/
abbrev Fields (α : Type) := Schema Json.WellFormed String α

namespace FieldCodec

variable {α : Type}

def str : FieldCodec String where
  write := .str
  read
    | .str s => some s
    | _ => none
  good := .str
  read_write _ := rfl

def bool : FieldCodec Bool where
  write := .bool
  read
    | .bool b => some b
    | _ => none
  good := .bool
  read_write _ := rfl

/-- `datetime`, in UTC -/
def datetime : FieldCodec DateTime :=
  str.build DateTime.ofJsonText DateTime.jsonText DateTime.ofJsonText_jsonText

/-- A `StrEnum` of these members. -/
def enum (value : α → String) (members : List α)
    (all : ∀ a, members.find? (fun b => value b = value a) = some a) : FieldCodec α :=
  str.build (fun s => members.find? fun b => value b = s) value all

/-- `T | None` -/
def nullable (c : FieldCodec α) (some' : ∀ a, c.write a ≠ .null) : FieldCodec (Option α) where
  write a := a.elim .null c.write
  read
    | .null => some none
    | v => (c.read v).map some
  good a := by
    cases a with
    | none => exact .null
    | some a => exact c.good a
  read_write a := by
    cases a with
    | none => rfl
    | some a =>
      have value := c.read_write a
      have written := some' a
      simp only [Option.elim_some]
      generalize c.write a = v at value written
      cases v <;> first
        | exact absurd rfl written
        | exact congrArg (Option.map some) value

/-- `list[T]` -/
def list (c : FieldCodec α) : FieldCodec (List α) where
  write l := .arr (l.map c.write)
  read
    | .arr items => items.mapM c.read
    | _ => none
  good l := .arr _ fun v mem => by
    obtain ⟨a, -, rfl⟩ := List.mem_map.1 mem
    exact c.good a
  read_write := mapM_map c.read_write

/-- `dict[str, T]` -/
def dict (c : FieldCodec α) : FieldCodec (List (String × α)) where
  write d := .obj (d.map fun e => (e.1, c.write e.2))
  read
    | .obj members => members.mapM fun m => (c.read m.2).map (m.1, ·)
    | _ => none
  good d := .obj _ fun m mem => by
    obtain ⟨e, -, rfl⟩ := List.mem_map.1 mem
    exact c.good e.2
  read_write := mapM_map fun e => by rw [c.read_write]; rfl

/-- A model with `extra="forbid"`. -/
def model (fields : Fields α) (distinct : fields.names.Nodup) : FieldCodec α where
  write a := .obj (fields.dump a)
  read
    | .obj members => if fields.Known members then fields.load members else none
    | _ => none
  good a := .obj _ (fields.good a)
  read_write a := by
    change (if fields.Known (fields.dump a) then fields.load (fields.dump a) else none) = some a
    rw [if_pos (fields.known_dump a), fields.load_dump distinct]

/-! ## Texts -/

/-- `value.model_dump_json()` -/
def modelDumpJson (c : FieldCodec α) (a : α) : String :=
  String.ofList (JsonStyle.compact.write (c.write a))

/-- `model_validate_json(text)`, with `none` for a validation error. -/
def modelValidateJson (c : FieldCodec α) (text : String) : Option α := (loads text).bind c.read

/-- What is dumped validates, to what was dumped. -/
theorem modelValidateJson_modelDumpJson (c : FieldCodec α) (a : α) :
    c.modelValidateJson (c.modelDumpJson a) = some a := by
  rw [modelValidateJson, modelDumpJson, loads_write _ (c.good a), Option.bind_some, c.read_write]

/-- `json.dumps(value)` -/
def dumps (c : FieldCodec α) (a : α) : String :=
  String.ofList (JsonStyle.ascii.write (c.write a))

theorem modelValidateJson_dumps (c : FieldCodec α) (a : α) :
    c.modelValidateJson (c.dumps a) = some a := by
  rw [modelValidateJson, dumps, loads_write _ (c.good a), Option.bind_some, c.read_write]

end FieldCodec

end Py
