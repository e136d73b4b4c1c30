import ZoneGate.Library.Dict
import ZoneGate.Library.Raising
import ZoneGate.Py.Value

/-!
# Schemas for Gemini

`to_gemini_schema` rewrites the JSON schema of a model into the subset that Gemini accepts.  Its
`walk` does not descend on the schema: from a reference it goes on with the definition, and from an
optional with the only variant, each merged with the keys beside it.  Without a cycle of references
it ends all the same, and leaves nothing that Gemini rejects.
-/

namespace ZoneGate

open Py Raising

namespace Gemini

/-! ## The conversion -/

/-- `_UNSUPPORTED_SCHEMA_KEYS` -/
def unsupportedSchemaKeys : List String :=
  ["additionalProperties", "title", "$schema", "default", "examples"]

/-- The items of a dictionary of the schema. -/
abbrev Node := List (String × Json)

/-- An exception, or a walk that needs more fuel. -/
inductive WalkError
  | outOfFuel
  | raised (e : PyError)

/-- `ref.rsplit("/", 1)[-1]` -/
def refName (ref : String) : String :=
  String.ofList (ref.toList.reverse.takeWhile (· ≠ '/')).reverse

/-- `{**defs.get(name, {})}`, for the name that a reference ends in. -/
def definition (defs : Json) : Json → Except PyError Node
  | .str ref =>
      match defs with
      | .obj definitions =>
          match definitions.lookup (refName ref) with
          | none => .ok []
          | some (.obj node) => .ok node
          | some _ => .error .typeError
      | _ => .error .attributeError
  | _ => .error .attributeError

/-- The keys beside a reference. -/
def overrides (node : Node) : Node := Dict.select (· ≠ "$ref") node

/-- The branches of an `anyOf`, which are asked for their types. -/
def branchesOf (anyOf : Json) : Except PyError (List Node) := do
  let items ← anyOf.elements
  items.mapM Json.dict

/-- `v.get("type") == "null"` -/
def isNull (v : Node) : Bool := (v.lookup "type").any (Json.isStr "null")

def variants (branches : List Node) : List Node := branches.filter fun v => !isNull v

/-- What is kept of the keys beside an `anyOf`. -/
def rest (node : Node) : Node :=
  Dict.select (fun k => k ≠ "anyOf" ∧ k ∉ unsupportedSchemaKeys) node

def supported (node : Node) : Node := Dict.select (· ∉ unsupportedSchemaKeys) node

section Walk

variable (defs : Json) (rec : Json → Except WalkError Json)

/-- The only variant, or all of them, with the keys beside them. -/
def walkVariants (variants : List Node) (rest : Node) : Except WalkError Json :=
  match variants with
  | [variant] => rec (.obj (Dict.merge variant rest))
  | _ => do
      let resolved ← Dict.mapValuesM rec rest
      let walked ← variants.mapM fun v => rec (.obj v)
      return .obj (Dict.insert "anyOf" (.arr walked) resolved)

/-- The null branch of a union becomes a mark. -/
def markNullable (branches : List Node) (resolved : Json) : Except WalkError Json :=
  if (variants branches).length = branches.length then .ok resolved
  else (resolved.setItem "nullable" (.bool true)).mapError .raised

def walkNode (node : Node) : Except WalkError Json :=
  match node.lookup "$ref" with
  | some ref => do
      let base ← (definition defs ref).mapError .raised
      rec (.obj (Dict.merge base (overrides node)))
  | none =>
      match node.lookup "anyOf" with
      | some anyOf => do
          let branches ← (branchesOf anyOf).mapError .raised
          let resolved ← walkVariants rec (variants branches) (rest node)
          markNullable branches resolved
      | none => .obj <$> Dict.mapValuesM rec (supported node)

/-- One call of `walk`; `rec` are the calls it makes. -/
def walkWith : Json → Except WalkError Json
  | .arr items => .arr <$> items.mapM rec
  | .obj node => walkNode defs rec node
  | v => .ok v

end Walk

/-- `walk`, on a stack of calls that is so deep. -/
def walk (defs : Json) : ℕ → Json → Except WalkError Json
  | 0 => fun _ => .error .outOfFuel
  | fuel + 1 => walkWith defs (walk defs fuel)

/-- `root.pop("$defs", {})` -/
def defsOf (root : Node) : Json := (root.lookup "$defs").getD (.obj [])

def withoutDefs (root : Node) : Node := Dict.select (· ≠ "$defs") root

/-- `to_gemini_schema`, from the schema of the model. -/
def toGeminiSchema (fuel : ℕ) (root : Node) : Except WalkError Json :=
  walk (defsOf root) fuel (.obj (withoutDefs root))

/-! ## One call -/

/-- Neither a reference nor an optional of one variant: the node stands for itself. -/
def StandsAlone (node : Node) : Prop :=
  node.lookup "$ref" = none ∧ ∀ anyOf branches variant, node.lookup "anyOf" = some anyOf →
    branchesOf anyOf = .ok branches → variants branches ≠ [variant]

/-- The calls that a call makes. -/
inductive Calls (defs : Json) : Json → Json → Prop
  | item {items : List Json} {v : Json} (mem : v ∈ items) : Calls defs (.arr items) v
  | ref {node base : Node} {ref : Json} (at_ref : node.lookup "$ref" = some ref)
      (found : definition defs ref = .ok base) :
      Calls defs (.obj node) (.obj (Dict.merge base (overrides node)))
  | only {node variant : Node} {anyOf : Json} {branches : List Node}
      (no_ref : node.lookup "$ref" = none) (at_anyOf : node.lookup "anyOf" = some anyOf)
      (asked : branchesOf anyOf = .ok branches) (single : variants branches = [variant]) :
      Calls defs (.obj node) (.obj (Dict.merge variant (rest node)))
  | variant {node variant : Node} {anyOf : Json} {branches : List Node} (alone : StandsAlone node)
      (at_anyOf : node.lookup "anyOf" = some anyOf) (asked : branchesOf anyOf = .ok branches)
      (mem : variant ∈ variants branches) : Calls defs (.obj node) (.obj variant)
  | member {node : Node} {e : String × Json} (alone : StandsAlone node) (mem : e ∈ rest node) :
      Calls defs (.obj node) e.2

/-- The dictionary with the mark, if a branch was null. -/
def marked (branches : List Node) (resolved : Node) : Node :=
  if (variants branches).length = branches.length then resolved
  else Dict.insert "nullable" (.bool true) resolved

/-- The dictionary that a call builds from its own node. -/
inductive Built (rec : Json → Except WalkError Json) (node : Node) : Node → Prop
  | union {resolved : Node} {anyOf : Json} {branches : List Node} {results : List Json}
      (at_anyOf : node.lookup "anyOf" = some anyOf) (asked : branchesOf anyOf = .ok branches)
      (beside : Dict.mapValuesM rec (rest node) = .ok resolved)
      (walked : (variants branches).mapM (fun v => rec (.obj v)) = .ok results) :
      Built rec node (marked branches (Dict.insert "anyOf" (.arr results) resolved))
  | plain {resolved : Node} (no_anyOf : node.lookup "anyOf" = none)
      (walked : Dict.mapValuesM rec (rest node) = .ok resolved) : Built rec node resolved

/-- What a call returns, from what the calls it makes return. -/
inductive Walked (defs : Json) (rec : Json → Except WalkError Json) : Json → Json → Prop
  | scalar {v : Json} (scalar : v.IsScalar) : Walked defs rec v v
  | items {items results : List Json} (walked : items.mapM rec = .ok results) :
      Walked defs rec (.arr items) (.arr results)
  | ref {node base : Node} {ref result : Json} (at_ref : node.lookup "$ref" = some ref)
      (found : definition defs ref = .ok base)
      (walked : rec (.obj (Dict.merge base (overrides node))) = .ok result) :
      Walked defs rec (.obj node) result
  | only {node variant resolved : Node} {anyOf : Json} {branches : List Node}
      (no_ref : node.lookup "$ref" = none) (at_anyOf : node.lookup "anyOf" = some anyOf)
      (asked : branchesOf anyOf = .ok branches) (single : variants branches = [variant])
      (walked : rec (.obj (Dict.merge variant (rest node))) = .ok (.obj resolved)) :
      Walked defs rec (.obj node) (.obj (marked branches resolved))
  | built {node resolved : Node} (alone : StandsAlone node)
      (built : Built rec node resolved) : Walked defs rec (.obj node) (.obj resolved)

section Call

variable {defs : Json} {rec rec' : Json → Except WalkError Json}

theorem mem_rest {node : Node} {e : String × Json} :
    e ∈ rest node ↔ e ∈ node ∧ e.1 ≠ "anyOf" ∧ e.1 ∉ unsupportedSchemaKeys := by
  rw [rest, Dict.mem_select, decide_eq_true_iff]

theorem mem_supported {node : Node} {e : String × Json} :
    e ∈ supported node ↔ e ∈ node ∧ e.1 ∉ unsupportedSchemaKeys := by
  rw [supported, Dict.mem_select, decide_eq_true_iff]

theorem rest_subset_supported {node : Node} {e : String × Json} (h : e ∈ rest node) :
    e ∈ supported node := by
  obtain ⟨mem, -, kept⟩ := mem_rest.1 h
  exact mem_supported.2 ⟨mem, kept⟩

theorem anyOf_mem_supported {node : Node} {anyOf : Json}
    (at_anyOf : node.lookup "anyOf" = some anyOf) :
    ("anyOf", anyOf) ∈ supported node :=
  mem_supported.2 ⟨Dict.mem_of_lookup at_anyOf, show "anyOf" ∉ unsupportedSchemaKeys by decide⟩

/-- Without an `anyOf` the rest is all that is supported. -/
theorem supported_eq_rest {node : Node} (no_anyOf : node.lookup "anyOf" = none) :
    supported node = rest node := by
  refine List.filter_congr fun e mem => ?_
  have other : e.1 ≠ "anyOf" := fun same =>
    Dict.lookup_eq_none.1 no_anyOf (same ▸ List.mem_map_of_mem mem)
  simp [other]

theorem standsAlone_of_plain {node : Node} (no_ref : node.lookup "$ref" = none)
    (no_anyOf : node.lookup "anyOf" = none) : StandsAlone node := by
  refine ⟨no_ref, fun anyOf branches variant at_anyOf => ?_⟩
  cases no_anyOf.symm.trans at_anyOf

theorem standsAlone_of_several {node : Node} {anyOf : Json} {branches : List Node}
    (no_ref : node.lookup "$ref" = none) (at_anyOf : node.lookup "anyOf" = some anyOf)
    (asked : branchesOf anyOf = .ok branches) (several : ∀ v, variants branches ≠ [v]) :
    StandsAlone node := by
  refine ⟨no_ref, fun anyOf' branches' variant at_anyOf' asked' => ?_⟩
  cases at_anyOf.symm.trans at_anyOf'
  cases asked.symm.trans asked'
  exact several variant

theorem walkVariants_of_several {variants : List Node} (several : ∀ v, variants ≠ [v])
    (rest : Node) : walkVariants rec variants rest = (do
      let resolved ← Dict.mapValuesM rec rest
      let walked ← variants.mapM fun v => rec (.obj v)
      return .obj (Dict.insert "anyOf" (.arr walked) resolved)) := by
  unfold walkVariants
  split
  · exact absurd rfl (several _)
  · rfl

theorem markNullable_obj (branches : List Node) (resolved : Node) :
    markNullable branches (.obj resolved) = .ok (.obj (marked branches resolved)) := by
  unfold markNullable marked
  split_ifs <;> rfl

/-- A dictionary becomes a dictionary. -/
def KeepsNodes (rec : Json → Except WalkError Json) : Prop :=
  ∀ node result, rec (.obj node) = .ok result → ∃ members, result = .obj members

theorem walked_of_walkWith (nodes : KeepsNodes rec) {v result : Json}
    (h : walkWith defs rec v = .ok result) : Walked defs rec v result := by
  cases v with
  | arr items =>
    obtain ⟨results, walked, rfl⟩ := map_eq_ok.1 h
    exact .items walked
  | obj node =>
    change walkNode defs rec node = .ok result at h
    unfold walkNode at h
    split at h
    · rename_i ref at_ref
      obtain ⟨base, found, walked⟩ := bind_eq_ok.1 h
      exact .ref at_ref (mapError_eq_ok.1 found) walked
    · rename_i no_ref
      split at h
      · rename_i anyOf at_anyOf
        obtain ⟨branches, asked, h⟩ := bind_eq_ok.1 h
        obtain ⟨resolved, walked, marked⟩ := bind_eq_ok.1 h
        have asked := mapError_eq_ok.1 asked
        by_cases single : ∃ variant, variants branches = [variant]
        · obtain ⟨variant, single⟩ := single
          rw [single] at walked
          obtain ⟨members, rfl⟩ := nodes _ _ walked
          rw [markNullable_obj] at marked
          cases marked
          exact .only no_ref at_anyOf asked single walked
        · have several := not_exists.1 single
          rw [walkVariants_of_several several] at walked
          obtain ⟨members, beside, walked⟩ := bind_eq_ok.1 walked
          obtain ⟨results, branches_walked, built⟩ := bind_eq_ok.1 walked
          cases built
          rw [markNullable_obj] at marked
          cases marked
          exact .built (standsAlone_of_several no_ref at_anyOf asked several)
            (.union at_anyOf asked beside branches_walked)
      · rename_i no_anyOf
        obtain ⟨resolved, walked, rfl⟩ := map_eq_ok.1 h
        rw [supported_eq_rest no_anyOf] at walked
        exact .built (standsAlone_of_plain no_ref no_anyOf) (.plain no_anyOf walked)
  | _ =>
    cases h
    exact .scalar trivial

/-- A call depends on the calls it makes only. -/
theorem walkWith_congr {v : Json} (h : ∀ u, Calls defs v u → rec u = rec' u) :
    walkWith defs rec v = walkWith defs rec' v := by
  cases v with
  | arr items =>
    have same := mapM_congr fun u mem => h u (.item mem)
    rw [walkWith, walkWith, same]
  | obj node =>
    have members (alone : StandsAlone node) :
        Dict.mapValuesM rec (rest node) = Dict.mapValuesM rec' (rest node) :=
      Dict.mapValuesM_congr fun e mem => h e.2 (.member alone mem)
    change walkNode defs rec node = walkNode defs rec' node
    unfold walkNode
    split
    · rename_i ref at_ref
      rcases found : definition defs ref with e | base
      · rfl
      · exact h _ (.ref at_ref found)
    · rename_i no_ref
      split
      · rename_i anyOf at_anyOf
        rcases asked : branchesOf anyOf with e | branches
        · rfl
        have same : walkVariants rec (variants branches) (rest node) =
            walkVariants rec' (variants branches) (rest node) := by
          by_cases single : ∃ variant, variants branches = [variant]
          · obtain ⟨variant, single⟩ := single
            rw [single]
            exact h _ (.only no_ref at_anyOf asked single)
          · have several := not_exists.1 single
            have alone := standsAlone_of_several no_ref at_anyOf asked several
            rw [walkVariants_of_several several, walkVariants_of_several several, members alone,
              mapM_congr fun v mem => h (.obj v) (.variant alone at_anyOf asked mem)]
        exact congrArg (· >>= markNullable branches) same
      · rename_i no_anyOf
        rw [supported_eq_rest no_anyOf, members (standsAlone_of_plain no_ref no_anyOf)]
  | _ => rfl

/-- The exceptions of a call's own. -/
inductive Raises (defs : Json) (node : Node) (e : PyError) : Prop
  | ref {ref : Json} (at_ref : node.lookup "$ref" = some ref)
      (raised : definition defs ref = .error e)
  | anyOf {anyOf : Json} (no_ref : node.lookup "$ref" = none)
      (at_anyOf : node.lookup "anyOf" = some anyOf) (raised : branchesOf anyOf = .error e)

theorem walkVariants_error {node : Node} {anyOf : Json} {branches : List Node} {e : WalkError}
    (no_ref : node.lookup "$ref" = none) (at_anyOf : node.lookup "anyOf" = some anyOf)
    (asked : branchesOf anyOf = .ok branches)
    (h : walkVariants rec (variants branches) (rest node) = .error e) :
    ∃ u, Calls defs (.obj node) u ∧ rec u = .error e := by
  by_cases single : ∃ variant, variants branches = [variant]
  · obtain ⟨variant, single⟩ := single
    rw [single] at h
    exact ⟨_, .only no_ref at_anyOf asked single, h⟩
  · have several := not_exists.1 single
    have alone := standsAlone_of_several no_ref at_anyOf asked several
    rw [walkVariants_of_several several] at h
    rcases bind_eq_error.1 h with h | ⟨resolved, -, h⟩
    · obtain ⟨a, mem, h⟩ := Dict.exists_of_mapValuesM_error h
      exact ⟨_, .member alone mem, h⟩
    · rcases bind_eq_error.1 h with h | ⟨_, -, h⟩
      · obtain ⟨v, mem, h⟩ := exists_of_mapM_error h
        exact ⟨_, .variant alone at_anyOf asked mem, h⟩
      · cases h

theorem walkVariants_obj (nodes : KeepsNodes rec) {variants : List Node} {rest : Node}
    {resolved : Json} (h : walkVariants rec variants rest = .ok resolved) :
    ∃ members, resolved = .obj members := by
  by_cases single : ∃ variant, variants = [variant]
  · obtain ⟨variant, rfl⟩ := single
    exact nodes _ _ h
  · rw [walkVariants_of_several (not_exists.1 single)] at h
    obtain ⟨members, -, h⟩ := bind_eq_ok.1 h
    obtain ⟨results, -, h⟩ := bind_eq_ok.1 h
    cases h
    exact ⟨_, rfl⟩

/-- What a call raises is its own, or one of its calls raises it. -/
theorem walkWith_error (nodes : KeepsNodes rec) {v : Json} {e : WalkError}
    (h : walkWith defs rec v = .error e) :
    (∃ u, Calls defs v u ∧ rec u = .error e) ∨
      ∃ node own, v = .obj node ∧ e = .raised own ∧ Raises defs node own := by
  cases v with
  | arr items =>
    obtain ⟨u, mem, h⟩ := exists_of_mapM_error (map_eq_error.1 h)
    exact .inl ⟨u, .item mem, h⟩
  | obj node =>
    change walkNode defs rec node = .error e at h
    unfold walkNode at h
    split at h
    · rename_i ref at_ref
      rcases bind_eq_error.1 h with h | ⟨base, found, h⟩
      · obtain ⟨own, raised, rfl⟩ := mapError_eq_error.1 h
        exact .inr ⟨node, own, rfl, rfl, .ref at_ref raised⟩
      · exact .inl ⟨_, .ref at_ref (mapError_eq_ok.1 found), h⟩
    · rename_i no_ref
      split at h
      · rename_i anyOf at_anyOf
        rcases bind_eq_error.1 h with h | ⟨branches, asked, h⟩
        · obtain ⟨own, raised, rfl⟩ := mapError_eq_error.1 h
          exact .inr ⟨node, own, rfl, rfl, .anyOf no_ref at_anyOf raised⟩
        · rcases bind_eq_error.1 h with h | ⟨resolved, walked, h⟩
          · exact .inl (walkVariants_error no_ref at_anyOf (mapError_eq_ok.1 asked) h)
          · obtain ⟨members, rfl⟩ := walkVariants_obj nodes walked
            rw [markNullable_obj] at h
            cases h
      · rename_i no_anyOf
        obtain ⟨a, mem, h⟩ := Dict.exists_of_mapValuesM_error (map_eq_error.1 h)
        rw [supported_eq_rest no_anyOf] at mem
        exact .inl ⟨_, .member (standsAlone_of_plain no_ref no_anyOf) mem, h⟩
  | _ => cases h

theorem mem_marked {branches : List Node} {members : Node} {e : String × Json}
    (mem : e ∈ marked branches members) : e = ("nullable", .bool true) ∨ e ∈ members := by
  unfold marked at mem
  split_ifs at mem
  · exact .inr mem
  · exact Dict.mem_insert _ _ mem

theorem lookup_marked (branches : List Node) (members : Node) {k : String}
    (other : k ≠ "nullable") :
    (marked branches members).lookup k = members.lookup k := by
  unfold marked
  split_ifs
  · rfl
  · rw [Dict.lookup_insert, if_neg other]

/-- What stands in a built dictionary is the mark, the branches of the union, or what a call has
returned on a value beside it. -/
theorem Built.mem_cases {node members : Node} {e : String × Json} (built : Built rec node members)
    (mem : e ∈ members) : e = ("nullable", .bool true) ∨
      (∃ anyOf branches results, e = ("anyOf", .arr results) ∧ node.lookup "anyOf" = some anyOf ∧
        branchesOf anyOf = .ok branches ∧
          (variants branches).mapM (fun v => rec (.obj v)) = .ok results) ∨
      ∃ e' ∈ rest node, e'.1 = e.1 ∧ rec e'.2 = .ok e.2 := by
  cases built with
  | union at_anyOf asked beside walked =>
    rcases mem_marked mem with rfl | mem
    · exact .inl rfl
    rcases Dict.mem_insert _ _ mem with rfl | mem
    · exact .inr (.inl ⟨_, _, _, rfl, at_anyOf, asked, walked⟩)
    · exact .inr (.inr (Dict.mem_of_mapValuesM beside mem))
  | plain no_anyOf walked => exact .inr (.inr (Dict.mem_of_mapValuesM walked mem))

/-- But for the mark, calls have returned it. -/
theorem Built.calls {node members : Node} {e : String × Json} (alone : StandsAlone node)
    (built : Built rec node members) (mem : e ∈ members) : e.2.IsScalar ∨
      (∃ results, e.2 = .arr results ∧
        ∀ r ∈ results, ∃ u, Calls defs (.obj node) u ∧ rec u = .ok r) ∨
      ∃ u, Calls defs (.obj node) u ∧ rec u = .ok e.2 := by
  rcases built.mem_cases mem with
    rfl | ⟨anyOf, branches, results, rfl, at_anyOf, asked, walked⟩ | ⟨e', inside, -, h⟩
  · exact .inl trivial
  · refine .inr (.inl ⟨results, rfl, fun r mem => ?_⟩)
    obtain ⟨v, inside, h⟩ := mem_of_mapM_eq_ok walked mem
    exact ⟨_, .variant alone at_anyOf asked inside, h⟩
  · exact .inr (.inr ⟨_, .member alone inside, h⟩)

/-- The other keys lead to what has become of their values. -/
theorem Built.lookup {node members : Node} (built : Built rec node members) {k : String}
    {v' : Json} (no_anyOf : k ≠ "anyOf") (no_mark : k ≠ "nullable") :
    members.lookup k = some v' ↔
      k ∉ unsupportedSchemaKeys ∧ ∃ v, node.lookup k = some v ∧ rec v = .ok v' := by
  have beside {resolved : Node} (h : Dict.mapValuesM rec (rest node) = .ok resolved) :
      resolved.lookup k = some v' ↔
        k ∉ unsupportedSchemaKeys ∧ ∃ v, node.lookup k = some v ∧ rec v = .ok v' := by
    rw [Dict.lookup_mapValuesM h, rest, Dict.lookup_select]
    by_cases kept : k ∉ unsupportedSchemaKeys
    · simp [kept, no_anyOf]
    · simp [kept]
  cases built with
  | union at_anyOf asked h walked =>
    rw [lookup_marked _ _ no_mark, Dict.lookup_insert, if_neg no_anyOf, beside h]
  | plain _ h => exact beside h

/-- And no value of a key that is kept is lost. -/
theorem Built.exists_lookup {node members : Node} (built : Built rec node members) {k : String}
    {v : Json} (found : node.lookup k = some v) (kept : k ∉ unsupportedSchemaKeys)
    (no_anyOf : k ≠ "anyOf") (no_mark : k ≠ "nullable") :
    ∃ v', rec v = .ok v' ∧ members.lookup k = some v' := by
  have walked {resolved : Node} (h : Dict.mapValuesM rec (rest node) = .ok resolved) :
      ∃ v', rec v = .ok v' := by
    have mem : (k, v) ∈ rest node := mem_rest.2 ⟨Dict.mem_of_lookup found, no_anyOf, kept⟩
    obtain ⟨e', -, returned⟩ := Dict.exists_of_mapValuesM h mem
    exact ⟨e'.2, returned⟩
  have returned : ∃ v', rec v = .ok v' := by
    cases built with
    | union _ _ h _ => exact walked h
    | plain _ h => exact walked h
  obtain ⟨v', returned⟩ := returned
  exact ⟨v', returned, (built.lookup no_anyOf no_mark).2 ⟨kept, v, found, returned⟩⟩

/-- A union has the branches that the calls on its variants return. -/
theorem Built.exists_anyOf {node members : Node} (built : Built rec node members) {anyOf : Json}
    (at_anyOf : node.lookup "anyOf" = some anyOf) :
    ∃ branches results, branchesOf anyOf = .ok branches ∧
      members.lookup "anyOf" = some (.arr results) ∧
        (variants branches).mapM (fun v => rec (.obj v)) = .ok results := by
  cases built with
  | union at_anyOf' asked beside walked =>
    cases at_anyOf.symm.trans at_anyOf'
    refine ⟨_, _, asked, ?_, walked⟩
    rw [lookup_marked _ _ (by decide), Dict.lookup_insert, if_pos rfl]
  | plain no_anyOf => cases no_anyOf.symm.trans at_anyOf

theorem Built.known {node members : Node} {e : String × Json} (built : Built rec node members)
    (mem : e ∈ members) : e.1 = "nullable" ∨ e.1 ∈ node.map Prod.fst := by
  rcases built.mem_cases mem with
    rfl | ⟨anyOf, -, -, rfl, at_anyOf, -, -⟩ | ⟨e', inside, same, -⟩
  · exact .inl rfl
  · exact .inr (List.mem_map.2 ⟨_, Dict.mem_of_lookup at_anyOf, rfl⟩)
  · exact .inr (same ▸ List.mem_map_of_mem (mem_rest.1 inside).1)

end Call

section Walk

variable {defs : Json} {fuel : ℕ}

theorem walk_keepsNodes : KeepsNodes (walk defs fuel) := by
  induction fuel with
  | zero => exact fun _ _ h => nomatch h
  | succ fuel ih =>
    intro node result h
    cases walked_of_walkWith ih h with
    | scalar scalar => exact scalar.elim
    | ref at_ref found walked => exact ih _ _ walked
    | only => exact ⟨_, rfl⟩
    | built => exact ⟨_, rfl⟩

theorem walked_of_walk {v result : Json} (h : walk defs (fuel + 1) v = .ok result) :
    Walked defs (walk defs fuel) v result :=
  walked_of_walkWith walk_keepsNodes h

theorem walk_arr {items : List Json} {result : Json}
    (h : walk defs (fuel + 1) (.arr items) = .ok result) :
    ∃ results, result = .arr results ∧ items.mapM (walk defs fuel) = .ok results := by
  obtain ⟨results, walked, rfl⟩ := map_eq_ok.1 h
  exact ⟨results, rfl, walked⟩

/-- A scalar is left as it is, a list becomes a list and a dictionary a dictionary. -/
theorem walk_kind {v result : Json} (h : walk defs fuel v = .ok result) :
    v.IsScalar ∧ result = v ∨ (∃ items results, v = .arr items ∧ result = .arr results) ∨
      ∃ node members, v = .obj node ∧ result = .obj members := by
  cases fuel with
  | zero => cases h
  | succ fuel =>
    cases v with
    | arr items =>
      obtain ⟨results, rfl, -⟩ := walk_arr h
      exact .inr (.inl ⟨items, results, rfl, rfl⟩)
    | obj node =>
      obtain ⟨members, rfl⟩ := walk_keepsNodes _ _ h
      exact .inr (.inr ⟨node, members, rfl, rfl⟩)
    | _ =>
      cases h
      exact .inl ⟨trivial, rfl⟩

theorem walk_scalar {v : Json} (scalar : v.IsScalar) : walk defs (fuel + 1) v = .ok v := by
  cases v with
  | arr => exact scalar.elim
  | obj => exact scalar.elim
  | _ => rfl

end Walk

end Gemini

end ZoneGate
