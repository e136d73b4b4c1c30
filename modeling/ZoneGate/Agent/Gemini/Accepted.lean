import ZoneGate.Agent.Gemini.Weight

/-!
# What Gemini accepts

The walk of a schema tree ends, and in what it returns no dictionary has a key that Gemini rejects.
Null branches are gone as well, unless a definition is of type null itself.
-/

namespace ZoneGate

open Py Raising

namespace Gemini

/-! ## What is left of a schema -/

/-- Every dictionary in the value satisfies `P`, outside the values of the skipped keys. -/
inductive Everywhere (skipped : List String) (P : Node → Prop) : Json → Prop
  | scalar {v : Json} (scalar : v.IsScalar) : Everywhere skipped P v
  | items {items : List Json} (inside : ∀ v ∈ items, Everywhere skipped P v) :
      Everywhere skipped P (.arr items)
  | node {node : Node} (here : P node)
      (inside : ∀ e ∈ node, e.1 ∉ skipped → Everywhere skipped P e.2) :
      Everywhere skipped P (.obj node)

/-- The keys are distinct, and every value has the shape of its key. -/
@[mk_iff]
structure Shaped (shape : String → Json → Prop) (node : Node) : Prop where
  distinct : (node.map Prod.fst).Nodup
  values : ∀ e ∈ node, shape e.1 e.2

section Shaped

variable {shape : String → Json → Prop} {node base above : Node}

theorem shaped_nil : Shaped shape [] := ⟨List.nodup_nil, nofun⟩

theorem Shaped.lookup (h : Shaped shape node) {k : String} {v : Json}
    (found : node.lookup k = some v) :
    shape k v := h.values (k, v) (Dict.mem_of_lookup found)

theorem Shaped.select (h : Shaped shape node) (p : String → Bool) :
    Shaped shape (Dict.select p node) :=
  ⟨Dict.nodup_select p h.distinct, fun e mem => h.values e (Dict.mem_select.1 mem).1⟩

theorem Shaped.merge (h : Shaped shape base) (h' : Shaped shape above) :
    Shaped shape (Dict.merge base above) := by
  refine ⟨Dict.nodup_merge h.distinct above, fun e mem => ?_⟩
  exact (Dict.mem_merge mem).elim (h.values e) (h'.values e)

end Shaped

def IsText (v : Json) : Prop := ∃ s, v = .str s

def IsNode (v : Json) : Prop := ∃ node, v = .obj node

def IsListOf (P : Json → Prop) (v : Json) : Prop :=
  ∃ items, v = .arr items ∧ ∀ item ∈ items, P item

@[simp]
theorem isText_str (s : String) : IsText (.str s) := ⟨s, rfl⟩

@[simp]
theorem isNode_obj (node : Node) : IsNode (.obj node) := ⟨node, rfl⟩

@[simp]
theorem isListOf_arr {P : Json → Prop} {items : List Json} :
    IsListOf P (.arr items) ↔ ∀ item ∈ items, P item := by
  simp [IsListOf]

/-- What may stand in a schema tree.  The definitions are at the root, outside of it. -/
def TreeShape (key : String) (v : Json) : Prop :=
  key ≠ "$defs" ∧ (key = "$ref" → IsText v) ∧ (key = "anyOf" → IsListOf IsNode v)

/-- A schema tree; what is under an unsupported key may be anything. -/
def SchemaTree (v : Json) : Prop := Everywhere unsupportedSchemaKeys (Shaped TreeShape) v

theorem schemaTree_obj {node : Node} : SchemaTree (.obj node) ↔
    Shaped TreeShape node ∧ ∀ e ∈ supported node, SchemaTree e.2 := by
  constructor
  · intro tree
    cases tree with
    | scalar scalar => exact scalar.elim
    | node here inside =>
      refine ⟨here, fun e mem => ?_⟩
      obtain ⟨mem, kept⟩ := mem_supported.1 mem
      exact inside e mem kept
  · rintro ⟨here, inside⟩
    exact .node here fun e mem kept => inside e (mem_supported.2 ⟨mem, kept⟩)

theorem schemaTree_arr {items : List Json} :
    SchemaTree (.arr items) ↔ ∀ v ∈ items, SchemaTree v := by
  constructor
  · intro tree
    cases tree with
    | scalar scalar => exact scalar.elim
    | items inside => exact inside
  · exact .items

@[simp]
theorem schemaTree_str (s : String) : SchemaTree (.str s) := .scalar trivial

theorem SchemaTree.select {node : Node} (tree : SchemaTree (.obj node)) (p : String → Bool) :
    SchemaTree (.obj (Dict.select p node)) := by
  obtain ⟨here, inside⟩ := schemaTree_obj.1 tree
  refine schemaTree_obj.2 ⟨here.select p, fun e mem => ?_⟩
  obtain ⟨mem, kept⟩ := mem_supported.1 mem
  exact inside e (mem_supported.2 ⟨(Dict.mem_select.1 mem).1, kept⟩)

theorem SchemaTree.merge {base above : Node} (tree : SchemaTree (.obj base))
    (tree' : SchemaTree (.obj above)) : SchemaTree (.obj (Dict.merge base above)) := by
  obtain ⟨here, inside⟩ := schemaTree_obj.1 tree
  obtain ⟨here', inside'⟩ := schemaTree_obj.1 tree'
  refine schemaTree_obj.2 ⟨here.merge here', fun e mem => ?_⟩
  obtain ⟨mem, kept⟩ := mem_supported.1 mem
  rcases Dict.mem_merge mem with mem | mem
  · exact inside e (mem_supported.2 ⟨mem, kept⟩)
  · exact inside' e (mem_supported.2 ⟨mem, kept⟩)

section Trees

variable {defs : Json}
  (definitions : ∀ name node, defined defs name = some node → SchemaTree (.obj node))

include definitions in
theorem schemaTree_of_calls {v u : Json} (tree : SchemaTree v) (called : Calls defs v u) :
    SchemaTree u := by
  have branch {node variant : Node} {anyOf : Json} {branches : List Node}
      (tree : SchemaTree (.obj node)) (at_anyOf : node.lookup "anyOf" = some anyOf)
      (asked : branchesOf anyOf = .ok branches) (mem : variant ∈ variants branches) :
      SchemaTree (.obj variant) := by
    obtain ⟨items, rfl, inside⟩ := mem_of_branchesOf asked (List.mem_filter.1 mem).1
    exact schemaTree_arr.1 ((schemaTree_obj.1 tree).2 _ (anyOf_mem_supported at_anyOf)) _ inside
  cases called with
  | item mem => exact schemaTree_arr.1 tree _ mem
  | ref at_ref found =>
    refine SchemaTree.merge ?_ (tree.select _)
    obtain ⟨name, rfl, rfl | isDefined⟩ := definition_eq_ok found
    · exact schemaTree_obj.2 ⟨shaped_nil, nofun⟩
    · exact definitions _ _ isDefined
  | only no_ref at_anyOf asked single =>
    exact (branch tree at_anyOf asked (single ▸ List.mem_singleton_self _)).merge (tree.select _)
  | variant alone at_anyOf asked mem => exact branch tree at_anyOf asked mem
  | member alone mem => exact (schemaTree_obj.1 tree).2 _ (rest_subset_supported mem)

include definitions in
/-- What holds of every dictionary that a call builds, and is not undone by the mark of a null
branch, holds everywhere in what the walk returns. -/
theorem walk_everywhere {P : Node → Prop}
    (mark : ∀ members, P members → P (Dict.insert "nullable" (.bool true) members))
    (build : ∀ fuel node members, SchemaTree (.obj node) → StandsAlone node →
      Built (walk defs fuel) node members → P members)
    {fuel : ℕ} {v result : Json} (tree : SchemaTree v) (h : walk defs fuel v = .ok result) :
    Everywhere [] P result := by
  induction fuel generalizing v result with
  | zero => cases h
  | succ fuel ih =>
    have called {u r : Json} (calls : Calls defs v u) (h : walk defs fuel u = .ok r) :
        Everywhere [] P r := ih (schemaTree_of_calls definitions tree calls) h
    cases walked_of_walk h with
    | scalar scalar => exact .scalar scalar
    | items walked =>
      refine .items fun r mem => ?_
      obtain ⟨u, inside, h⟩ := mem_of_mapM_eq_ok walked mem
      exact called (.item inside) h
    | ref at_ref found walked => exact called (.ref at_ref found) walked
    | only no_ref at_anyOf asked single walked =>
      have kept := called (.only no_ref at_anyOf asked single) walked
      unfold marked
      split_ifs
      · exact kept
      · cases kept with
        | scalar scalar => exact scalar.elim
        | node here inside =>
          refine .node (mark _ here) fun e mem kept => ?_
          rcases Dict.mem_insert _ _ mem with rfl | mem
          · exact .scalar trivial
          · exact inside e mem kept
    | built alone built =>
      refine .node (build fuel _ _ tree alone built) fun e mem _ => ?_
      rcases built.calls alone mem with scalar | ⟨results, isArr, walked⟩ | ⟨u, calls, walked⟩
      · exact .scalar scalar
      · rw [isArr]
        refine .items fun r mem => ?_
        obtain ⟨u, calls, h⟩ := walked r mem
        exact called calls h
      · exact called calls walked

/-! ### Rejected keys -/

/-- The keys that Gemini rejects. -/
def rejectedKeys : List String := ["$ref", "$defs"] ++ unsupportedSchemaKeys

def Clean (node : Node) : Prop := ∀ e ∈ node, e.1 ∉ rejectedKeys

theorem not_rejected_of_rest {node : Node} {e : String × Json} (here : Shaped TreeShape node)
    (no_ref : node.lookup "$ref" = none) (mem : e ∈ rest node) : e.1 ∉ rejectedKeys := by
  obtain ⟨mem, -, kept⟩ := mem_rest.1 mem
  have key : e.1 ∈ node.map Prod.fst := List.mem_map_of_mem mem
  intro rejected
  rcases List.mem_append.1 rejected with rejected | rejected
  · rcases List.mem_cons.1 rejected with isRef | rejected
    · exact Dict.lookup_eq_none.1 no_ref (isRef ▸ key)
    · exact (here.values e mem).1 (List.mem_singleton.1 rejected)
  · exact kept rejected

theorem Built.clean {rec : Json → Except WalkError Json} {node members : Node}
    (here : Shaped TreeShape node) (no_ref : node.lookup "$ref" = none)
    (built : Built rec node members) : Clean members := by
  intro e mem
  rcases built.mem_cases mem with rfl | ⟨-, -, -, rfl, -⟩ | ⟨e', inside, same, -⟩
  · exact show "nullable" ∉ rejectedKeys by decide
  · exact show "anyOf" ∉ rejectedKeys by decide
  · exact same ▸ not_rejected_of_rest here no_ref inside

include definitions in
theorem walk_clean {fuel : ℕ} {v result : Json} (tree : SchemaTree v)
    (h : walk defs fuel v = .ok result) : Everywhere [] Clean result := by
  refine walk_everywhere definitions (fun members clean e mem => ?_)
    (fun _ _ _ tree alone built => built.clean (schemaTree_obj.1 tree).1 alone.1) tree h
  rcases Dict.mem_insert _ _ mem with rfl | mem
  · exact show "nullable" ∉ rejectedKeys by decide
  · exact clean e mem

/-! ### Null branches -/

/-- No branch of the union is of type null. -/
def NoNullBranch (node : Node) : Prop :=
  ∀ items, node.lookup "anyOf" = some (.arr items) → ∀ branch, .obj branch ∈ items →
    isNull branch = false

theorem isNull_of_lookup {node node' : Node} (h : node.lookup "type" = node'.lookup "type") :
    isNull node = isNull node' := by rw [isNull, isNull, h]

theorem isNull_merge {base above : Node} (distinct : (above.map Prod.fst).Nodup)
    (h : isNull base = false) (h' : isNull above = false) :
    isNull (Dict.merge base above) = false := by
  unfold isNull at *
  rw [Dict.lookup_merge base distinct]
  rcases found : above.lookup "type" with _ | type
  · exact h
  · rwa [found] at h'

theorem walk_str {fuel : ℕ} {v : Json} {s : String} (h : walk defs fuel v = .ok (.str s)) :
    v = .str s := by
  rcases walk_kind h with ⟨-, rfl⟩ | ⟨_, _, -, ⟨⟩⟩ | ⟨_, _, -, ⟨⟩⟩
  rfl

theorem Built.isNull {fuel : ℕ} {node members : Node} (built : Built (walk defs fuel) node members)
    (h : isNull node = false) : isNull members = false := by
  rcases type : members.lookup "type" with _ | v'
  · rw [Gemini.isNull, type]
    rfl
  obtain ⟨-, v, source, walked⟩ := (built.lookup (by decide) (by decide)).1 type
  rw [Gemini.isNull, source] at h
  rw [Gemini.isNull, type]
  cases v' with
  | str s =>
    obtain rfl := walk_str walked
    exact h
  | _ => rfl

section NotNull

variable (typed : ∀ name node, defined defs name = some node → isNull node = false)

include definitions typed in
/-- What is not of type null does not become so. -/
theorem walk_isNull {fuel : ℕ} {node members : Node} (tree : SchemaTree (.obj node))
    (notNull : isNull node = false) (h : walk defs fuel (.obj node) = .ok (.obj members)) :
    isNull members = false := by
  induction fuel generalizing node members with
  | zero => cases h
  | succ fuel ih =>
    have distinct := (schemaTree_obj.1 tree).1.distinct
    cases walked_of_walk h with
    | scalar scalar => exact scalar.elim
    | ref at_ref found walked =>
      refine ih (schemaTree_of_calls definitions tree (.ref at_ref found)) ?_ walked
      refine isNull_merge (Dict.nodup_select _ distinct) ?_ ?_
      · obtain ⟨name, rfl, rfl | isDefined⟩ := definition_eq_ok found
        · rfl
        · exact typed _ _ isDefined
      · rw [← notNull]
        exact isNull_of_lookup (Dict.lookup_select _ _ _)
    | @only _ variant resolved _ branches no_ref at_anyOf asked single walked =>
      have mem : variant ∈ variants branches := single ▸ List.mem_singleton_self variant
      have variantNotNull : isNull variant = false := by simpa using (List.mem_filter.1 mem).2
      have kept := ih (schemaTree_of_calls definitions tree (.only no_ref at_anyOf asked single))
        (isNull_merge (Dict.nodup_select _ distinct) variantNotNull (by
          rw [← notNull]
          exact isNull_of_lookup (Dict.lookup_select _ _ _))) walked
      rw [← kept]
      exact isNull_of_lookup (lookup_marked _ _ (by decide))
    | built alone built => exact built.isNull notNull

include definitions typed in
theorem walk_noNullBranch {fuel : ℕ} {v result : Json} (tree : SchemaTree v)
    (h : walk defs fuel v = .ok result) : Everywhere [] NoNullBranch result := by
  refine walk_everywhere definitions (fun members clean items found => ?_)
    (fun fuel node members tree alone built items found branch mem => ?_) tree h
  · rw [Dict.lookup_insert, if_neg (by decide)] at found
    exact clean items found
  · cases built with
    | union at_anyOf asked beside walked =>
      rw [lookup_marked _ _ (by decide), Dict.lookup_insert, if_pos rfl] at found
      cases found
      obtain ⟨variant, inside, h⟩ := mem_of_mapM_eq_ok walked mem
      have notNull : isNull variant = false := by simpa using (List.mem_filter.1 inside).2
      exact walk_isNull definitions typed
        (schemaTree_of_calls definitions tree (.variant alone at_anyOf asked inside)) notNull h
    | plain no_anyOf walked =>
      obtain ⟨v, source, -⟩ := (Dict.lookup_mapValuesM walked).1 found
      rw [rest, Dict.lookup_select, no_anyOf] at source
      simp at source

end NotNull

/-! ### Exceptions -/

/-- The definitions are a dictionary of dictionaries. -/
def DefinesNodes (defs : Json) : Prop :=
  ∃ definitions, defs = .obj definitions ∧ ∀ e ∈ definitions, IsNode e.2

theorem definition_returns (nodes : DefinesNodes defs) (name : String) :
    ∃ base, definition defs (.str name) = .ok base := by
  obtain ⟨definitions, rfl, nodes⟩ := nodes
  rcases found : definitions.lookup (refName name) with _ | v
  · exact ⟨[], by simp [definition, found]⟩
  · obtain ⟨node, rfl⟩ := nodes _ (Dict.mem_of_lookup found)
    exact ⟨node, by simp [definition, found]⟩

theorem branchesOf_returns {items : List Json} (nodes : ∀ branch ∈ items, IsNode branch) :
    ∃ branches, branchesOf (.arr items) = .ok branches := by
  have asked : ∃ branches, items.mapM Json.dict = .ok branches := by
    refine mapM_of_forall fun branch mem => ?_
    obtain ⟨node, rfl⟩ := nodes branch mem
    exact ⟨node, rfl⟩
  obtain ⟨branches, asked⟩ := asked
  exact ⟨branches, bind_eq_ok.2 ⟨items, rfl, asked⟩⟩

include definitions in
/-- The walk of a schema tree raises only at a definition that is no dictionary. -/
theorem walk_ne_raised (nodes : DefinesNodes defs) {fuel : ℕ} {v : Json} (tree : SchemaTree v)
    (e : PyError) : walk defs fuel v ≠ .error (.raised e) := by
  induction fuel generalizing v with
  | zero => exact nofun
  | succ fuel ih =>
    intro raised
    rcases walkWith_error walk_keepsNodes raised with
      ⟨u, called, raised⟩ | ⟨node, own, rfl, ⟨⟩, own_raised⟩
    · exact ih (schemaTree_of_calls definitions tree called) raised
    · have here := (schemaTree_obj.1 tree).1
      cases own_raised with
      | ref at_ref raised =>
        obtain ⟨name, rfl⟩ := (here.lookup at_ref).2.1 rfl
        obtain ⟨base, returned⟩ := definition_returns nodes name
        cases returned.symm.trans raised
      | anyOf no_ref at_anyOf raised =>
        obtain ⟨items, rfl, nodes⟩ := (here.lookup at_anyOf).2.2 rfl
        obtain ⟨branches, returned⟩ := branchesOf_returns nodes
        cases returned.symm.trans raised

end Trees

/-- The conversion of a schema tree whose definitions do not refer to each other in a cycle ends, and
what it returns has no rejected key and, unless a definition is of type null, no null branch.  It
returns if every definition is a dictionary. -/
theorem toGeminiSchema_ends (root : Node) (tree : SchemaTree (.obj (withoutDefs root)))
    (definitions : ∀ name node, defined (defsOf root) name = some node → SchemaTree (.obj node))
    (acyclic : NoCycle (defsOf root)) :
    ∃ fuel outcome, outcome ≠ .error .outOfFuel ∧
      (∀ more, fuel ≤ more → toGeminiSchema more root = outcome) ∧
      (DefinesNodes (defsOf root) → ∃ result, outcome = .ok result) ∧
      ∀ result, outcome = .ok result → Everywhere [] Clean result ∧
        ((∀ name node, defined (defsOf root) name = some node → isNull node = false) →
          Everywhere [] NoNullBranch result) := by
  obtain ⟨fuel, ends, stable⟩ := exists_walk acyclic (.obj (withoutDefs root))
  refine ⟨fuel, _, ends, stable, fun nodes => ?_, fun result returned => ⟨?_, fun typed => ?_⟩⟩
  · rcases outcome : walk (defsOf root) fuel (.obj (withoutDefs root)) with (_ | e) | result
    · exact absurd outcome ends
    · exact absurd outcome (walk_ne_raised definitions nodes tree e)
    · exact ⟨result, rfl⟩
  · exact walk_clean definitions tree returned
  · exact walk_noNullBranch definitions typed tree returned

end Gemini

/-! ### A note by way of two definitions -/

open Gemini

namespace Sample

def noteDefs : Node :=
  [("Outer", .obj [("$ref", .str "#/$defs/Inner"), ("description", .str "The note")]),
    ("Inner", .obj [("title", .str "Inner"), ("type", .str "string")])]

def optionalNote : Node :=
  [("anyOf", .arr [.obj [("$ref", .str "#/$defs/Outer")], .obj [("type", .str "null")]]),
    ("default", .null)]

/-- A model with an optional note. -/
def noteModel : Node :=
  [("$defs", .obj noteDefs), ("properties", .obj [("note", .obj optionalNote)]),
    ("title", .str "NoteModel"), ("type", .str "object")]

theorem noteDefs_defined {name : String} {node : Node}
    (h : defined (.obj noteDefs) name = some node) :
    (name = "Outer" ∧
      node = [("$ref", .str "#/$defs/Inner"), ("description", .str "The note")]) ∨
      (name = "Inner" ∧ node = [("title", .str "Inner"), ("type", .str "string")]) := by
  obtain ⟨_, ⟨⟩, mem⟩ := mem_of_defined h
  simpa [noteDefs] using mem

theorem noteDefs_noCycle : NoCycle (.obj noteDefs) := by
  refine noCycle_of_rank (fun name => if name = "Outer" then 1 else 0) ?_
  rintro a b ⟨node, isDefined, mentioned⟩
  rcases noteDefs_defined isDefined with ⟨rfl, rfl⟩ | ⟨rfl, rfl⟩
  · cases mentioned with
    | @here _ ref mem named =>
      have isInner : ref = "#/$defs/Inner" := by simpa using mem
      rw [isInner] at named
      subst named
      decide
    | member mem inside =>
      simp [mem_supported] at mem
      rcases mem.1 with rfl | rfl <;> cases inside
  · cases mentioned with
    | here mem named => simp at mem
    | member mem inside =>
      simp [mem_supported] at mem
      rcases mem.1 with rfl | rfl <;> cases inside

theorem noteDefs_tree {name : String} {node : Node} (h : defined (.obj noteDefs) name = some node) :
    SchemaTree (.obj node) := by
  rcases noteDefs_defined h with ⟨-, rfl⟩ | ⟨-, rfl⟩ <;>
    simp [schemaTree_obj, shaped_iff, TreeShape, mem_supported, or_imp, forall_and]

theorem noteModel_tree : SchemaTree (.obj (withoutDefs noteModel)) := by
  simp [noteModel, withoutDefs, Dict.select, optionalNote, schemaTree_obj, schemaTree_arr,
    shaped_iff, TreeShape, mem_supported, unsupportedSchemaKeys, or_imp, forall_and]

end Sample

example : toGeminiSchema 7 Sample.noteModel = .ok (.obj
    [("properties", .obj [("note", .obj
        [("type", .str "string"), ("description", .str "The note"), ("nullable", .bool true)])]),
      ("type", .str "object")]) := rfl

theorem toGeminiSchema_ends_note : NoCycle (.obj Sample.noteDefs) ∧
    ∃ fuel result, toGeminiSchema fuel Sample.noteModel = .ok result ∧ Everywhere [] Clean result := by
  refine ⟨Sample.noteDefs_noCycle, ?_⟩
  obtain ⟨fuel, outcome, -, reached, returns, clean⟩ := Gemini.toGeminiSchema_ends Sample.noteModel
    Sample.noteModel_tree (fun _ _ => Sample.noteDefs_tree) Sample.noteDefs_noCycle
  obtain ⟨result, rfl⟩ := returns ⟨_, rfl, by simp [Sample.noteDefs]⟩
  exact ⟨fuel, result, reached fuel (Nat.le_refl _), (clean result rfl).1⟩

end ZoneGate
