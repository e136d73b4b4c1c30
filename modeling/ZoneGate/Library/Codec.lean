import ZoneGate.Library.Dict

/-!
# Codecs and schemas

A codec writes the values of a type in a format and reads them back.  A schema writes a record as
the items of a dictionary, one item a field, and reads it from any dictionary that has those items;
a field that is missing has its default.  Both are put together from those of the parts, with the
law that what is written is read.
-/

namespace Codecs

variable {V κ α β : Type} {Good : V → Prop}

/-- How the values of `α` are written in `V`; what is written is good, and is read as what was
written. -/
structure Codec (Good : V → Prop) (α : Type) where
  write : α → V
  read : V → Option α
  good : ∀ a, Good (write a)
  read_write : ∀ a, read (write a) = some a

namespace Codec

/-- Values that are built from those of another codec, where that may fail. -/
def build (c : Codec Good α) (f : α → Option β) (g : β → α) (h : ∀ b, f (g b) = some b) :
    Codec Good β where
  write b := c.write (g b)
  read v := (c.read v).bind f
  good b := c.good (g b)
  read_write b := by rw [c.read_write, Option.bind_some, h]

end Codec

/-- What reads each item reads the list. -/
theorem mapM_map {f : α → V} {g : V → Option α} (h : ∀ a, g (f a) = some a) (l : List α) :
    (l.map f).mapM g = some l := by
  induction l with
  | nil => rfl
  | cons a l ih =>
    rw [List.map_cons, List.mapM_cons, h, ih]
    rfl

/-! ## Schemas -/

/-- A field of a record: its name, how its values are written, and its default. -/
structure Field (Good : V → Prop) (κ α : Type) where
  name : κ
  codec : Codec Good α
  default : Option α := none

variable [DecidableEq κ]

/-- The value of a field in a dictionary. -/
def Field.load (f : Field Good κ α) (members : List (κ × V)) : Option α :=
  (members.lookup f.name).elim f.default f.codec.read

theorem Field.load_of_lookup (f : Field Good κ α) {members : List (κ × V)} {a : α}
    (h : members.lookup f.name = some (f.codec.write a)) : f.load members = some a := by
  rw [load, h, Option.elim_some, f.codec.read_write]

/-- How a record is written as the items of a dictionary, and read from them. -/
structure Schema (Good : V → Prop) (κ α : Type) [DecidableEq κ] where
  names : List κ
  dump : α → List (κ × V)
  load : List (κ × V) → Option α
  keys : ∀ a, (dump a).map Prod.fst = names
  good : ∀ a, ∀ e ∈ dump a, Good e.2
  load_of_lookup : ∀ a members, (∀ e ∈ dump a, members.lookup e.1 = some e.2) →
    load members = some a

namespace Schema

/-- One field. -/
def one (f : Field Good κ α) : Schema Good κ α where
  names := [f.name]
  dump a := [(f.name, f.codec.write a)]
  load := f.load
  keys _ := rfl
  good a e mem := by
    rw [List.mem_singleton.1 mem]
    exact f.codec.good a
  load_of_lookup _ _ h := f.load_of_lookup (h _ List.mem_cons_self)

/-- A field, and those of the schema. -/
def cons (f : Field Good κ α) (s : Schema Good κ β) : Schema Good κ (α × β) where
  names := f.name :: s.names
  dump a := (f.name, f.codec.write a.1) :: s.dump a.2
  load members := do
    let a ← f.load members
    let b ← s.load members
    return (a, b)
  keys a := by rw [List.map_cons, s.keys]
  good a e mem := by
    rcases List.mem_cons.1 mem with rfl | mem
    · exact f.codec.good a.1
    · exact s.good a.2 e mem
  load_of_lookup a members h := by
    rw [f.load_of_lookup (h _ List.mem_cons_self),
      s.load_of_lookup a.2 members fun e mem => h e (List.mem_cons_of_mem _ mem)]
    rfl

/-- The record that is built from the fields. -/
def build (s : Schema Good κ α) (f : α → Option β) (g : β → α) (h : ∀ b, f (g b) = some b) :
    Schema Good κ β where
  names := s.names
  dump b := s.dump (g b)
  load members := (s.load members).bind f
  keys b := s.keys (g b)
  good b := s.good (g b)
  load_of_lookup b members found := by
    rw [s.load_of_lookup (g b) members found, Option.bind_some, h]

/-- No field is left out or unknown when a record is read from what it was dumped to. -/
theorem load_dump (s : Schema Good κ α) (distinct : s.names.Nodup) (a : α) :
    s.load (s.dump a) = some a :=
  s.load_of_lookup a _ fun _ mem => Dict.lookup_of_mem (by rwa [s.keys]) mem

/-- Only fields of the record are dumped. -/
theorem mem_names (s : Schema Good κ α) {a : α} {e : κ × V} (mem : e ∈ s.dump a) :
    e.1 ∈ s.names := by
  rw [← s.keys a]
  exact List.mem_map_of_mem mem

/-- Every key names a field. -/
def Known (s : Schema Good κ α) (members : List (κ × V)) : Prop := ∀ e ∈ members, e.1 ∈ s.names

instance (s : Schema Good κ α) (members : List (κ × V)) : Decidable (s.Known members) := by
  unfold Known
  infer_instance

theorem known_dump (s : Schema Good κ α) (a : α) : s.Known (s.dump a) := fun _ => s.mem_names

end Schema

end Codecs
