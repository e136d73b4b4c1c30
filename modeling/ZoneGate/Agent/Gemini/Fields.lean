import ZoneGate.Agent.Gemini.Accepted

/-!
# The fields of a model

Under `properties` the keys are the names of fields, and the walk takes them for keywords all the
same: it drops a field `title` and follows a field `anyOf`.  So the fields of every object schema
are kept exactly when none that it comes to has such a name.
-/

namespace ZoneGate

open Py Raising

namespace Gemini

/-! ## Schemas of models -/

/-- The value of `properties`: object schemas under distinct names. -/
def IsFields (v : Json) : Prop :=
  ∃ fields, v = .obj fields ∧ (fields.map Prod.fst).Nodup ∧ ∀ e ∈ fields, IsNode e.2

/-- What may stand in the schema of a model.  A tag or a pattern may be called `properties` as well,
and then it has no fields. -/
def ModelShape (key : String) (v : Json) : Prop :=
  (key = "properties" → IsFields v ∨ v.IsScalar) ∧ (key = "nullable" → v.IsScalar)

/-- A schema in which the keys under `properties` are names, and all others may be keywords. -/
inductive Emitted : Json → Prop
  | scalar {v : Json} (scalar : v.IsScalar) : Emitted v
  | items {items : List Json} (inside : ∀ v ∈ items, Emitted v) : Emitted (.arr items)
  | node {node : Node} (here : Shaped ModelShape node)
      (fields : ∀ fields, ("properties", .obj fields) ∈ node → ∀ e ∈ fields, Emitted e.2)
      (others : ∀ e ∈ supported node, e.1 ≠ "properties" → Emitted e.2) : Emitted (.obj node)

/-- The schema of a model without recursive references. -/
structure EmittedSchema (root : Node) : Prop where
  nodes : DefinesNodes (defsOf root)
  definitions : ∀ name node, defined (defsOf root) name = some node → Emitted (.obj node)
  tree : Emitted (.obj (withoutDefs root))
  acyclic : NoCycle (defsOf root)

/-! ## Fields that are kept -/

/-- The object schema that a node stands for: the definition that it refers to, or the only variant
of the optional that it is, with the keys beside them. -/
inductive Resolves (defs : Json) : Node → Node → Prop
  | alone {node : Node} (alone : StandsAlone node) : Resolves defs node node
  | ref {node base target : Node} {ref : Json} (at_ref : node.lookup "$ref" = some ref)
      (found : definition defs ref = .ok base)
      (further : Resolves defs (Dict.merge base (overrides node)) target) :
      Resolves defs node target
  | only {node variant target : Node} {anyOf : Json} {branches : List Node}
      (no_ref : node.lookup "$ref" = none) (at_anyOf : node.lookup "anyOf" = some anyOf)
      (asked : branchesOf anyOf = .ok branches) (single : variants branches = [variant])
      (further : Resolves defs (Dict.merge variant (rest node)) target) :
      Resolves defs node target

/-- The fields of an object schema. -/
def fieldsOf (node : Node) : Option Node :=
  match node.lookup "properties" with
  | some (.obj fields) => some fields
  | _ => none

def asText : Json → Option String
  | .str s => some s
  | _ => none

/-- The required list of an object schema. -/
def requiredOf (node : Node) : Option (List String) :=
  match node.lookup "required" with
  | some (.arr names) => names.mapM asText
  | _ => none

/-- The same property names and the same required list. -/
structure SameFields (source result : Node) : Prop where
  names : (fieldsOf result).map (List.map Prod.fst) = (fieldsOf source).map (List.map Prod.fst)
  required : requiredOf result = requiredOf source

/-- All in the result comes from the source, and each dictionary in it has the fields of the object
schema that it comes from.  The mark of a null branch comes from nowhere. -/
inductive Keeps (defs : Json) : Json → Json → Prop
  | scalar {v : Json} (scalar : v.IsScalar) : Keeps defs v v
  | items {items results : List Json} (length : items.length = results.length)
      (each : ∀ p ∈ items.zip results, Keeps defs p.1 p.2) : Keeps defs (.arr items) (.arr results)
  | node {node source result : Node} (resolves : Resolves defs node source)
      (same : SameFields source result)
      (known : ∀ e ∈ result, e.1 = "nullable" ∨ e.1 ∈ source.map Prod.fst)
      (fields : ∀ fields fields' name v v', fieldsOf source = some fields →
        fieldsOf result = some fields' → fields.lookup name = some v →
          fields'.lookup name = some v' → Keeps defs v v')
      (branches : ∀ anyOf branches v', source.lookup "anyOf" = some anyOf →
        branchesOf anyOf = .ok branches → result.lookup "anyOf" = some v' →
          Keeps defs (.arr ((variants branches).map .obj)) v')
      (others : ∀ key v v', key ≠ "properties" → key ≠ "anyOf" → key ≠ "nullable" →
        source.lookup key = some v → result.lookup key = some v' → Keeps defs v v') :
      Keeps defs (.obj node) (.obj result)

/-- A required name is declared. -/
def Declared (node : Node) : Prop :=
  ∀ required, requiredOf node = some required → ∀ name ∈ required,
    ∃ names, (fieldsOf node).map (List.map Prod.fst) = some names ∧ name ∈ names

theorem SameFields.declared {source result : Node} (same : SameFields source result)
    (declared : Declared source) : Declared result := by
  intro required found name mem
  rw [same.required] at found
  rw [same.names]
  exact declared required found name mem

/-! ## Where the conversion comes to -/

/-- What a value is: a schema, or the fields of one. -/
inductive Position
  | schema | fields

/-- The conversion of the root comes to the value. -/
inductive Comes (defs root : Json) : Position → Json → Prop
  | root : Comes defs root .schema root
  | item {items : List Json} {v : Json} (before : Comes defs root .schema (.arr items))
      (mem : v ∈ items) : Comes defs root .schema v
  | ref {node base : Node} {ref : Json} (before : Comes defs root .schema (.obj node))
      (at_ref : node.lookup "$ref" = some ref) (found : definition defs ref = .ok base) :
      Comes defs root .schema (.obj (Dict.merge base (overrides node)))
  | only {node variant : Node} {anyOf : Json} {branches : List Node}
      (before : Comes defs root .schema (.obj node)) (no_ref : node.lookup "$ref" = none)
      (at_anyOf : node.lookup "anyOf" = some anyOf) (asked : branchesOf anyOf = .ok branches)
      (single : variants branches = [variant]) :
      Comes defs root .schema (.obj (Dict.merge variant (rest node)))
  | variant {node variant : Node} {anyOf : Json} {branches : List Node}
      (before : Comes defs root .schema (.obj node)) (alone : StandsAlone node)
      (at_anyOf : node.lookup "anyOf" = some anyOf) (asked : branchesOf anyOf = .ok branches)
      (mem : variant ∈ variants branches) : Comes defs root .schema (.obj variant)
  | member {node : Node} {e : String × Json} (before : Comes defs root .schema (.obj node))
      (alone : StandsAlone node) (mem : e ∈ rest node) (other : e.1 ≠ "properties") :
      Comes defs root .schema e.2
  | fields {node : Node} {v : Json} (before : Comes defs root .schema (.obj node))
      (alone : StandsAlone node) (mem : ("properties", v) ∈ node) : Comes defs root .fields v
  | field {fields : Node} {e : String × Json} (before : Comes defs root .fields (.obj fields))
      (mem : e ∈ fields) : Comes defs root .schema e.2

/-- A reference is a text, and without one an `anyOf` iterates over dictionaries only. -/
def Answers (node : Node) : Prop :=
  (∀ ref, node.lookup "$ref" = some ref → IsText ref) ∧
    (node.lookup "$ref" = none → ∀ anyOf, node.lookup "anyOf" = some anyOf →
      ∃ branches, branchesOf anyOf = .ok branches)

/-- The name is no keyword that the walk drops or follows. -/
def PlainName (name : String) : Prop :=
  name ∉ unsupportedSchemaKeys ∧ name ≠ "anyOf" ∧ name ≠ "$ref"

/-- The walk takes no name of a field for a keyword, and what it takes for one is one. -/
def Unmistaken : Position → Json → Prop
  | .schema, .obj node => Answers node
  | .fields, .obj fields => ∀ e ∈ fields, PlainName e.1
  | _, _ => True

section Emitted

variable {node base above : Node}

theorem emitted_obj : Emitted (.obj node) ↔ Shaped ModelShape node ∧
    (∀ fields, ("properties", .obj fields) ∈ node → ∀ e ∈ fields, Emitted e.2) ∧
      ∀ e ∈ supported node, e.1 ≠ "properties" → Emitted e.2 := by
  constructor
  · intro h
    cases h with
    | scalar scalar => exact scalar.elim
    | node here fields others => exact ⟨here, fields, others⟩
  · rintro ⟨here, fields, others⟩
    exact .node here fields others

theorem emitted_arr {items : List Json} : Emitted (.arr items) ↔ ∀ v ∈ items, Emitted v := by
  constructor
  · intro h
    cases h with
    | scalar scalar => exact scalar.elim
    | items inside => exact inside
  · exact .items

theorem Emitted.shaped (h : Emitted (.obj node)) : Shaped ModelShape node := (emitted_obj.1 h).1

theorem Emitted.fields (h : Emitted (.obj node)) {fields : Node}
    (mem : ("properties", .obj fields) ∈ node) : ∀ e ∈ fields, Emitted e.2 :=
  (emitted_obj.1 h).2.1 fields mem

theorem Emitted.others (h : Emitted (.obj node)) {e : String × Json} (mem : e ∈ supported node)
    (other : e.1 ≠ "properties") : Emitted e.2 := (emitted_obj.1 h).2.2 e mem other

@[simp]
theorem emitted_str (s : String) : Emitted (.str s) := .scalar trivial

theorem emitted_nil : Emitted (.obj []) := .node shaped_nil nofun nofun

theorem Emitted.select (h : Emitted (.obj node)) (p : String → Bool) :
    Emitted (.obj (Dict.select p node)) := by
  refine .node (h.shaped.select p) (fun fields mem => h.fields (Dict.mem_select.1 mem).1) ?_
  intro e mem other
  obtain ⟨mem, kept⟩ := mem_supported.1 mem
  exact h.others (mem_supported.2 ⟨(Dict.mem_select.1 mem).1, kept⟩) other

theorem Emitted.merge (h : Emitted (.obj base)) (h' : Emitted (.obj above)) :
    Emitted (.obj (Dict.merge base above)) := by
  refine .node (h.shaped.merge h'.shaped) (fun fields mem => ?_) fun e mem other => ?_
  · exact (Dict.mem_merge mem).elim h.fields h'.fields
  · obtain ⟨mem, kept⟩ := mem_supported.1 mem
    rcases Dict.mem_merge mem with mem | mem
    · exact h.others (mem_supported.2 ⟨mem, kept⟩) other
    · exact h'.others (mem_supported.2 ⟨mem, kept⟩) other

theorem Emitted.branch {variant : Node} {anyOf : Json} {branches : List Node}
    (h : Emitted (.obj node)) (at_anyOf : node.lookup "anyOf" = some anyOf)
    (asked : branchesOf anyOf = .ok branches) (mem : variant ∈ variants branches) :
    Emitted (.obj variant) := by
  obtain ⟨items, rfl, inside⟩ := mem_of_branchesOf asked (List.mem_filter.1 mem).1
  have inAnyOf := h.others (anyOf_mem_supported at_anyOf) (show "anyOf" ≠ "properties" by decide)
  exact emitted_arr.1 inAnyOf _ inside

end Emitted

section Comes

variable {defs root : Json}
  (definitions : ∀ name node, defined defs name = some node → Emitted (.obj node))
  (tree : Emitted root)

/-- What the schema of a model is where the conversion comes to it. -/
def EmittedAt : Position → Json → Prop
  | .schema, v => Emitted v
  | .fields, v => v.IsScalar ∨ IsFields v ∧ ∀ fields, v = .obj fields → ∀ e ∈ fields, Emitted e.2

include definitions tree in
theorem emitted_of_comes {p : Position} {v : Json} (comes : Comes defs root p v) :
    EmittedAt p v := by
  induction comes with
  | root => exact tree
  | item _ mem ih => exact emitted_arr.1 ih _ mem
  | ref _ at_ref found ih =>
    refine Emitted.merge ?_ (Emitted.select ih _)
    obtain ⟨name, rfl, rfl | isDefined⟩ := definition_eq_ok found
    · exact emitted_nil
    · exact definitions _ _ isDefined
  | only _ no_ref at_anyOf asked single ih =>
    exact (Emitted.branch ih at_anyOf asked (single ▸ List.mem_singleton_self _)).merge
      (Emitted.select ih _)
  | variant _ alone at_anyOf asked mem ih => exact Emitted.branch ih at_anyOf asked mem
  | member _ alone mem other ih => exact Emitted.others ih (rest_subset_supported mem) other
  | @fields node v _ alone mem ih =>
    rcases ((Emitted.shaped ih).values _ mem).1 rfl with isFields | scalar
    · refine .inr ⟨isFields, ?_⟩
      rintro fields rfl
      exact Emitted.fields ih mem
    · exact .inl scalar
  | field _ mem ih =>
    rcases ih with scalar | ⟨-, inside⟩
    · exact scalar.elim
    · exact inside _ rfl _ mem

end Comes

/-! ## What is kept of a node -/

section Resolves

variable {defs : Json} {node source : Node}

theorem Resolves.eq_of_alone (h : Resolves defs node source) (alone : StandsAlone node) :
    source = node := by
  cases h with
  | alone => rfl
  | ref at_ref => cases alone.1.symm.trans at_ref
  | only _ at_anyOf asked single => exact absurd single (alone.2 _ _ _ at_anyOf asked)

theorem Resolves.of_ref {base : Node} {ref : Json} (h : Resolves defs node source)
    (at_ref : node.lookup "$ref" = some ref) (found : definition defs ref = .ok base) :
    Resolves defs (Dict.merge base (overrides node)) source := by
  cases h with
  | alone alone => cases alone.1.symm.trans at_ref
  | ref at_ref' found' further =>
    cases at_ref.symm.trans at_ref'
    cases found.symm.trans found'
    exact further
  | only no_ref => cases no_ref.symm.trans at_ref

theorem Resolves.of_only {variant : Node} {anyOf : Json} {branches : List Node}
    (h : Resolves defs node source) (no_ref : node.lookup "$ref" = none)
    (at_anyOf : node.lookup "anyOf" = some anyOf) (asked : branchesOf anyOf = .ok branches)
    (single : variants branches = [variant]) :
    Resolves defs (Dict.merge variant (rest node)) source := by
  cases h with
  | alone alone => exact absurd single (alone.2 _ _ _ at_anyOf asked)
  | ref at_ref => cases no_ref.symm.trans at_ref
  | only _ at_anyOf' asked' single' further =>
    cases at_anyOf.symm.trans at_anyOf'
    cases asked.symm.trans asked'
    cases single.symm.trans single'
    exact further

end Resolves

section Keeps

variable {defs : Json} {node node' result result' : Node}

/-- Nodes that stand for the same object schemas keep the same. -/
theorem Keeps.redirect {v : Json}
    (step : ∀ source, Resolves defs node source → Resolves defs node' source)
    (h : Keeps defs (.obj node) v) : Keeps defs (.obj node') v := by
  cases h with
  | scalar scalar => exact scalar.elim
  | node resolves same known fields branches others =>
    exact .node (step _ resolves) same known fields branches others

theorem fieldsOf_congr (h : result.lookup "properties" = result'.lookup "properties") :
    fieldsOf result = fieldsOf result' := by rw [fieldsOf, fieldsOf, h]

theorem requiredOf_congr (h : result.lookup "required" = result'.lookup "required") :
    requiredOf result = requiredOf result' := by rw [requiredOf, requiredOf, h]

/-- The mark of a null branch is not looked at. -/
theorem Keeps.of_agree (agree : ∀ k, k ≠ "nullable" → result.lookup k = result'.lookup k)
    (h : Keeps defs (.obj node) (.obj result)) : Keeps defs (.obj node) (.obj result') := by
  cases h with
  | scalar scalar => exact scalar.elim
  | @node _ source _ resolves same known fields branches others =>
    have sameFields := fieldsOf_congr (agree "properties" (by decide))
    refine .node resolves ⟨?_, ?_⟩ (fun e mem => ?_) ?_ ?_ ?_
    · rw [← sameFields, same.names]
    · rw [← requiredOf_congr (agree "required" (by decide)), same.required]
    · by_cases mark : e.1 = "nullable"
      · exact .inl mark
      · have key : result.lookup e.1 ≠ none := by
          rw [agree _ mark, Ne, Dict.lookup_eq_none, not_not]
          exact List.mem_map_of_mem mem
        rw [Ne, Dict.lookup_eq_none, not_not] at key
        obtain ⟨e', mem', same⟩ := List.mem_map.1 key
        exact same ▸ known e' mem'
    · rw [← sameFields]
      exact fields
    · rw [← agree "anyOf" (by decide)]
      exact branches
    · intro key v v' noFields noAnyOf noMark
      rw [← agree key noMark]
      exact others key v v' noFields noAnyOf noMark

theorem keeps_marked_iff {branches : List Node} :
    Keeps defs (.obj node) (.obj (marked branches result)) ↔ Keeps defs (.obj node) (.obj result) :=
  ⟨.of_agree fun _ other => lookup_marked _ _ other,
    .of_agree fun _ other => (lookup_marked _ _ other).symm⟩

end Keeps

section Built

variable {defs : Json} {fuel : ℕ} {node result : Node}

theorem Built.fieldsOf_some (built : Built (walk defs fuel) node result) {fields : Node}
    (h : fieldsOf node = some fields) :
    ∃ fields', walk defs fuel (.obj fields) = .ok (.obj fields') ∧
      fieldsOf result = some fields' := by
  have found : node.lookup "properties" = some (.obj fields) := by
    unfold fieldsOf at h
    split at h
    · rename_i found
      cases h
      exact found
    · cases h
  obtain ⟨v', walked, at_key⟩ := built.exists_lookup found (by decide) (by decide) (by decide)
  obtain ⟨fields', rfl⟩ := walk_keepsNodes _ _ walked
  exact ⟨fields', walked, by rw [Gemini.fieldsOf, at_key]⟩

theorem Built.fieldsOf_none (built : Built (walk defs fuel) node result)
    (h : fieldsOf node = none) : fieldsOf result = none := by
  unfold Gemini.fieldsOf
  split
  · rename_i fields' at_key
    obtain ⟨-, v, found, walked⟩ := (built.lookup (by decide) (by decide)).1 at_key
    rcases walk_kind walked with ⟨-, rfl⟩ | ⟨_, _, -, ⟨⟩⟩ | ⟨fields, _, rfl, -⟩
    · simp [Gemini.fieldsOf, found] at h
    · simp [Gemini.fieldsOf, found] at h
  · rfl

theorem asText_walk {v v' : Json} (h : walk defs fuel v = .ok v') : asText v' = asText v := by
  rcases walk_kind h with ⟨-, rfl⟩ | ⟨_, _, rfl, rfl⟩ | ⟨_, _, rfl, rfl⟩ <;> rfl

theorem texts_walk {items results : List Json} (h : items.mapM (walk defs fuel) = .ok results) :
    results.mapM asText = items.mapM asText := by
  have pairs := mapM_eq_ok.1 h
  clear h
  induction pairs with
  | nil => rfl
  | cons here _ ih => rw [List.mapM_cons, List.mapM_cons, asText_walk here, ih]

theorem Built.requiredOf (built : Built (walk defs fuel) node result) :
    requiredOf result = requiredOf node := by
  rcases found : node.lookup "required" with _ | v
  · have absent : result.lookup "required" = none := by
      rcases at_key : result.lookup "required" with _ | v'
      · rfl
      · obtain ⟨-, v, found', -⟩ := (built.lookup (by decide) (by decide)).1 at_key
        cases found.symm.trans found'
    rw [Gemini.requiredOf, Gemini.requiredOf, found, absent]
  · obtain ⟨v', walked, at_key⟩ := built.exists_lookup found (by decide) (by decide) (by decide)
    rw [Gemini.requiredOf, Gemini.requiredOf, found, at_key]
    rcases walk_kind walked with ⟨-, rfl⟩ | ⟨items, _, rfl, -⟩ | ⟨_, _, rfl, rfl⟩
    · rfl
    · cases fuel with
      | zero => cases walked
      | succ fuel =>
        obtain ⟨results, rfl, inside⟩ := walk_arr walked
        exact texts_walk inside
    · rfl

end Built

/-! ## Plain names -/

theorem lookup_of_plain {fields : Node} (plain : ∀ e ∈ fields, PlainName e.1) :
    fields.lookup "$ref" = none ∧ fields.lookup "anyOf" = none := by
  refine ⟨Dict.lookup_eq_none.2 fun mem => ?_, Dict.lookup_eq_none.2 fun mem => ?_⟩
  · obtain ⟨e, mem, isRef⟩ := List.mem_map.1 mem
    exact (plain e mem).2.2 isRef
  · obtain ⟨e, mem, isAnyOf⟩ := List.mem_map.1 mem
    exact (plain e mem).2.1 isAnyOf

theorem rest_of_plain {fields : Node} (plain : ∀ e ∈ fields, PlainName e.1) :
    rest fields = fields := by
  refine List.filter_eq_self.2 fun e mem => ?_
  obtain ⟨kept, noAnyOf, -⟩ := plain e mem
  simp [kept, noAnyOf]

/-- Fields with plain names are walked one by one. -/
theorem walk_of_plain {defs : Json} {fuel : ℕ} {fields : Node}
    (plain : ∀ e ∈ fields, PlainName e.1) :
    walk defs (fuel + 1) (.obj fields) = .obj <$> Dict.mapValuesM (walk defs fuel) fields := by
  obtain ⟨no_ref, no_anyOf⟩ := lookup_of_plain plain
  change walkNode defs (walk defs fuel) fields = _
  rw [walkNode, no_ref, no_anyOf, supported_eq_rest no_anyOf, rest_of_plain plain]

section Unmistaken

variable {defs root : Json}

/-- The conversion comes to all that is called from where it comes to. -/
theorem comes_of_calls {p : Position} {v u : Json} (comes : Comes defs root p v)
    (emitted : EmittedAt p v) (unmistaken : Unmistaken p v) (called : Calls defs v u) :
    ∃ q, Comes defs root q u := by
  cases p with
  | schema =>
    cases called with
    | item mem => exact ⟨_, .item comes mem⟩
    | ref at_ref found => exact ⟨_, .ref comes at_ref found⟩
    | only no_ref at_anyOf asked single => exact ⟨_, .only comes no_ref at_anyOf asked single⟩
    | variant alone at_anyOf asked mem => exact ⟨_, .variant comes alone at_anyOf asked mem⟩
    | @member node e alone mem =>
      by_cases isFields : e.1 = "properties"
      · exact ⟨_, .fields comes alone (isFields ▸ (mem_rest.1 mem).1)⟩
      · exact ⟨_, .member comes alone mem isFields⟩
  | fields =>
    rcases emitted with scalar | ⟨⟨fields, rfl, -, -⟩, -⟩
    · cases called <;> exact scalar.elim
    · obtain ⟨no_ref, no_anyOf⟩ := lookup_of_plain unmistaken
      cases called with
      | ref at_ref => cases no_ref.symm.trans at_ref
      | only _ at_anyOf => cases no_anyOf.symm.trans at_anyOf
      | variant _ at_anyOf => cases no_anyOf.symm.trans at_anyOf
      | member alone mem => exact ⟨_, .field comes (mem_rest.1 mem).1⟩

variable (nodes : DefinesNodes defs)
  (definitions : ∀ name node, defined defs name = some node → Emitted (.obj node))
  (tree : Emitted root) (unmistaken : ∀ p v, Comes defs root p v → Unmistaken p v)

include nodes definitions tree unmistaken in
theorem walk_raises_nothing {fuel : ℕ} {p : Position} {v : Json} (comes : Comes defs root p v)
    (e : PyError) : walk defs fuel v ≠ .error (.raised e) := by
  induction fuel generalizing p v with
  | zero => exact nofun
  | succ fuel ih =>
    intro raised
    have emitted := emitted_of_comes definitions tree comes
    rcases walkWith_error walk_keepsNodes raised with
      ⟨u, called, raised⟩ | ⟨node, own, rfl, ⟨⟩, own_raised⟩
    · obtain ⟨q, comes⟩ := comes_of_calls comes emitted (unmistaken _ _ comes) called
      exact ih comes raised
    · have fine := unmistaken _ _ comes
      cases p with
      | schema =>
        cases own_raised with
        | ref at_ref raised =>
          obtain ⟨name, rfl⟩ := fine.1 _ at_ref
          obtain ⟨base, returned⟩ := definition_returns nodes name
          cases returned.symm.trans raised
        | anyOf no_ref at_anyOf raised =>
          obtain ⟨branches, returned⟩ := fine.2 no_ref _ at_anyOf
          cases returned.symm.trans raised
      | fields =>
        obtain ⟨no_ref, no_anyOf⟩ := lookup_of_plain fine
        cases own_raised with
        | ref at_ref => cases no_ref.symm.trans at_ref
        | anyOf _ at_anyOf => cases no_anyOf.symm.trans at_anyOf

/-- What is kept of what the conversion comes to. -/
def KeptAt (defs : Json) : Position → Json → Json → Prop
  | .schema, v, r => Keeps defs v r
  | .fields, v, r => ∀ fields, v = .obj fields → ∃ fields', r = .obj fields' ∧
      fields'.map Prod.fst = fields.map Prod.fst ∧ ∀ name v v', fields.lookup name = some v →
        fields'.lookup name = some v' → Keeps defs v v'

theorem fieldsOf_eq_some {node fields : Node} :
    fieldsOf node = some fields ↔ node.lookup "properties" = some (.obj fields) := by
  unfold fieldsOf
  split
  · rename_i found
    rw [found]
    simp
  · rename_i other
    exact iff_of_false nofun fun found => other _ found

omit root in
theorem keeps_of_mapM {fuel : ℕ} {items results : List Json}
    (walked : items.mapM (walk defs fuel) = .ok results)
    (each : ∀ v ∈ items, ∀ r, walk defs fuel v = .ok r → Keeps defs v r) :
    Keeps defs (.arr items) (.arr results) := by
  obtain ⟨length, pairs⟩ := List.forall₂_iff_zip.1 (mapM_eq_ok.1 walked)
  exact .items length fun p mem => each _ (List.of_mem_zip mem).1 _ (pairs mem)

omit root in
/-- A node that is built of what is kept is kept. -/
theorem Built.keeps {fuel : ℕ} {node result : Node} (alone : StandsAlone node)
    (built : Built (walk defs fuel) node result)
    (fields : ∀ v r, ("properties", v) ∈ node → walk defs fuel v = .ok r →
      KeptAt defs .fields v r)
    (variant : ∀ anyOf branches, node.lookup "anyOf" = some anyOf →
      branchesOf anyOf = .ok branches → ∀ v ∈ variants branches, ∀ r,
        walk defs fuel (.obj v) = .ok r → Keeps defs (.obj v) r)
    (member : ∀ e ∈ rest node, e.1 ≠ "properties" → ∀ r, walk defs fuel e.2 = .ok r →
      Keeps defs e.2 r) : Keeps defs (.obj node) (.obj result) := by
  have same : SameFields node result := by
    refine ⟨?_, built.requiredOf⟩
    rcases found : Gemini.fieldsOf node with _ | sources
    · rw [built.fieldsOf_none found]
    · obtain ⟨results, walked, at_key⟩ := built.fieldsOf_some found
      have mem := Dict.mem_of_lookup (fieldsOf_eq_some.1 found)
      obtain ⟨_, ⟨⟩, names, -⟩ := fields _ _ mem walked sources rfl
      rw [at_key, Option.map_some, Option.map_some, names]
  refine .node (.alone alone) same (fun e mem => built.known mem) ?_ ?_ ?_
  · intro sources results name v v' found at_key
    obtain ⟨results', walked, at_key'⟩ := built.fieldsOf_some found
    cases at_key.symm.trans at_key'
    have mem := Dict.mem_of_lookup (fieldsOf_eq_some.1 found)
    obtain ⟨_, ⟨⟩, -, each⟩ := fields _ _ mem walked sources rfl
    exact each name v v'
  · intro anyOf branches v' at_anyOf asked at_key
    obtain ⟨_, results, asked', at_key', walked⟩ := built.exists_anyOf at_anyOf
    cases asked.symm.trans asked'
    cases at_key.symm.trans at_key'
    refine keeps_of_mapM (List.mapM_map.trans walked) fun _ mem => ?_
    obtain ⟨v, inside, rfl⟩ := List.mem_map.1 mem
    exact variant _ _ at_anyOf asked v inside
  · intro key v v' noFields noAnyOf noMark found at_key
    obtain ⟨kept, u, found', walked⟩ := (built.lookup noAnyOf noMark).1 at_key
    cases found.symm.trans found'
    exact member (key, v) (mem_rest.2 ⟨Dict.mem_of_lookup found, noAnyOf, kept⟩) noFields _ walked

include unmistaken in
theorem kept_of_walk {fuel : ℕ} {p : Position} {v r : Json} (comes : Comes defs root p v)
    (h : walk defs fuel v = .ok r) : KeptAt defs p v r := by
  induction fuel generalizing p v r with
  | zero => cases h
  | succ fuel ih =>
    cases p with
    | schema =>
      cases walked_of_walk h with
      | scalar scalar => exact .scalar scalar
      | items walked =>
        exact keeps_of_mapM walked fun v mem r h => ih (.item comes mem) h
      | ref at_ref found walked =>
        exact (ih (.ref comes at_ref found) walked).redirect fun _ => .ref at_ref found
      | only no_ref at_anyOf asked single walked =>
        refine keeps_marked_iff.2 (Keeps.redirect (fun _ => .only no_ref at_anyOf asked single) ?_)
        exact ih (.only comes no_ref at_anyOf asked single) walked
      | built alone built =>
        refine built.keeps alone (fun v r mem h => ih (.fields comes alone mem) h) ?_ ?_
        · exact fun _ _ at_anyOf asked v mem r h => ih (.variant comes alone at_anyOf asked mem) h
        · exact fun e mem other r h => ih (.member comes alone mem other) h
    | fields =>
      rintro fields rfl
      have plain : ∀ e ∈ fields, PlainName e.1 := unmistaken _ _ comes
      rw [walk_of_plain plain] at h
      obtain ⟨fields', walked, rfl⟩ := map_eq_ok.1 h
      refine ⟨fields', rfl, Dict.keys_mapValuesM walked, fun name v v' found found' => ?_⟩
      obtain ⟨u, found'', h⟩ := (Dict.lookup_mapValuesM walked).1 found'
      cases found.symm.trans found''
      exact ih (.field comes (Dict.mem_of_lookup found)) h

end Unmistaken

/-! ## What is kept was not mistaken -/

section Kept

variable {defs root : Json}

/-- The two ways of a node that stands alone, to what it becomes. -/
theorem built_of_walk {fuel : ℕ} {node : Node} {r : Json} (alone : StandsAlone node)
    (h : walk defs (fuel + 1) (.obj node) = .ok r) :
    ∃ result, r = .obj result ∧ Built (walk defs fuel) node result := by
  cases walked_of_walk h with
  | scalar scalar => exact scalar.elim
  | ref at_ref => cases alone.1.symm.trans at_ref
  | only _ at_anyOf asked single => exact absurd single (alone.2 _ _ _ at_anyOf asked)
  | built _ built => exact ⟨_, rfl, built⟩

/-- A reference that a call has followed is a text, and an `anyOf` iterates over dictionaries. -/
theorem answers_of_walk {fuel : ℕ} {node : Node} {r : Json}
    (walked : walk defs fuel (.obj node) = .ok r) : Answers node := by
  cases fuel with
  | zero => cases walked
  | succ fuel =>
    cases walked_of_walk walked with
    | scalar scalar => exact scalar.elim
    | ref at_ref found =>
      obtain ⟨name, rfl, -⟩ := definition_eq_ok found
      refine ⟨fun ref at_ref' => ?_, fun no_ref => ?_⟩
      · cases at_ref.symm.trans at_ref'
        exact ⟨name, rfl⟩
      · cases no_ref.symm.trans at_ref
    | only no_ref at_anyOf asked =>
      refine ⟨fun ref at_ref => ?_, fun _ anyOf at_anyOf' => ?_⟩
      · cases no_ref.symm.trans at_ref
      · cases at_anyOf.symm.trans at_anyOf'
        exact ⟨_, asked⟩
    | built alone built =>
      refine ⟨fun ref at_ref => ?_, fun _ anyOf at_anyOf => ?_⟩
      · cases alone.1.symm.trans at_ref
      · obtain ⟨branches, _, asked, -⟩ := built.exists_anyOf at_anyOf
        exact ⟨branches, asked⟩

/-- A map of objects has no reference and no only variant. -/
theorem standsAlone_of_objects {fuel : ℕ} {fields : Node} {r : Json}
    (objects : ∀ e ∈ fields, IsNode e.2) (walked : walk defs fuel (.obj fields) = .ok r) :
    StandsAlone fields := by
  refine ⟨?_, fun anyOf branches variant at_anyOf asked single => ?_⟩
  · rcases at_ref : fields.lookup "$ref" with _ | ref
    · rfl
    · obtain ⟨name, rfl⟩ := (answers_of_walk walked).1 ref at_ref
      obtain ⟨_, ⟨⟩⟩ := objects _ (Dict.mem_of_lookup at_ref)
  · have mem := List.mem_filter.1 (single ▸ List.mem_singleton_self _)
    obtain ⟨items, rfl, -⟩ := mem_of_branchesOf asked mem.1
    obtain ⟨_, ⟨⟩⟩ := objects _ (Dict.mem_of_lookup at_anyOf)

/-- Fields that are all kept have plain names. -/
theorem plain_of_kept {fuel : ℕ} {fields fields' : Node}
    (distinct : (fields.map Prod.fst).Nodup) (objects : ∀ e ∈ fields, IsNode e.2)
    (walked : walk defs fuel (.obj fields) = .ok (.obj fields'))
    (names : fields'.map Prod.fst = fields.map Prod.fst)
    (each : ∀ name v v', fields.lookup name = some v → fields'.lookup name = some v' →
      Keeps defs v v') : ∀ e ∈ fields, PlainName e.1 := by
  cases fuel with
  | zero => cases walked
  | succ fuel =>
    have alone := standsAlone_of_objects objects walked
    obtain ⟨_, ⟨⟩, built⟩ := built_of_walk alone walked
    intro e mem
    have found : fields.lookup e.1 = some e.2 := Dict.lookup_of_mem distinct mem
    have noAnyOf : e.1 ≠ "anyOf" := by
      intro isAnyOf
      rw [isAnyOf] at found
      obtain ⟨_, results, -, at_key, -⟩ := built.exists_anyOf found
      obtain ⟨node, isNode⟩ := objects e mem
      -- a list is no dictionary
      have kept := each "anyOf" _ _ found at_key
      rw [isNode] at kept
      cases kept
    refine ⟨fun dropped => ?_, noAnyOf, fun isRef => ?_⟩
    · have there : e.1 ∈ fields'.map Prod.fst := names ▸ List.mem_map_of_mem mem
      rcases at_key : fields'.lookup e.1 with _ | v'
      · exact Dict.lookup_eq_none.1 at_key there
      · have noMark : e.1 ≠ "nullable" := fun mark =>
          absurd (mark ▸ dropped) (by decide)
        exact ((built.lookup noAnyOf noMark).1 at_key).1 dropped
    · rw [isRef, alone.1] at found
      cases found

variable (definitions : ∀ name node, defined defs name = some node → Emitted (.obj node))
  (tree : Emitted root) (kept : ∃ fuel r, walk defs fuel root = .ok r ∧ Keeps defs root r)

theorem walk_ref {fuel : ℕ} {node base : Node} {ref : Json}
    (at_ref : node.lookup "$ref" = some ref) (found : definition defs ref = .ok base) :
    walk defs (fuel + 1) (.obj node) =
      walk defs fuel (.obj (Dict.merge base (overrides node))) := by
  change walkNode defs (walk defs fuel) node = _
  rw [walkNode, at_ref]
  dsimp only
  rw [found]
  rfl

theorem walk_only {fuel : ℕ} {node variant : Node} {anyOf : Json} {branches : List Node}
    (no_ref : node.lookup "$ref" = none) (at_anyOf : node.lookup "anyOf" = some anyOf)
    (asked : branchesOf anyOf = .ok branches) (single : variants branches = [variant]) :
    walk defs (fuel + 1) (.obj node) =
      walk defs fuel (.obj (Dict.merge variant (rest node))) >>= markNullable branches := by
  change walkNode defs (walk defs fuel) node = _
  rw [walkNode, no_ref, at_anyOf]
  dsimp only
  rw [asked]
  change walkVariants (walk defs fuel) (variants branches) (rest node) >>= _ = _
  rw [single]
  rfl

theorem Keeps.of_alone {node result : Node} (alone : StandsAlone node)
    (h : Keeps defs (.obj node) (.obj result)) :
    SameFields node result ∧
      (∀ fields fields' name v v', fieldsOf node = some fields → fieldsOf result = some fields' →
        fields.lookup name = some v → fields'.lookup name = some v' → Keeps defs v v') ∧
      (∀ anyOf branches v', node.lookup "anyOf" = some anyOf → branchesOf anyOf = .ok branches →
        result.lookup "anyOf" = some v' → Keeps defs (.arr ((variants branches).map .obj)) v') ∧
      ∀ key v v', key ≠ "properties" → key ≠ "anyOf" → key ≠ "nullable" →
        node.lookup key = some v → result.lookup key = some v' → Keeps defs v v' := by
  cases h with
  | scalar scalar => exact scalar.elim
  | node resolves same known fields branches others =>
    cases resolves.eq_of_alone alone
    exact ⟨same, fields, branches, others⟩

theorem Keeps.of_mem {fuel : ℕ} {items results : List Json}
    (h : Keeps defs (.arr items) (.arr results))
    (walked : items.mapM (walk defs fuel) = .ok results) {v : Json} (mem : v ∈ items) :
    ∃ r, walk defs fuel v = .ok r ∧ Keeps defs v r := by
  obtain ⟨r, pair, returned⟩ := exists_of_mapM_eq_ok walked mem
  cases h with
  | scalar scalar => exact scalar.elim
  | items _ each => exact ⟨r, returned, each _ pair⟩

section Down

variable {fuel : ℕ} {node : Node} {r : Json} (walked : walk defs (fuel + 1) (.obj node) = .ok r)
  (keeps : Keeps defs (.obj node) r) (alone : StandsAlone node)

include walked keeps alone

/-- What a kept node calls on is kept. -/
theorem Keeps.of_variant {anyOf : Json} {branches : List Node} {v : Node}
    (at_anyOf : node.lookup "anyOf" = some anyOf) (asked : branchesOf anyOf = .ok branches)
    (mem : v ∈ variants branches) :
    ∃ r', walk defs fuel (.obj v) = .ok r' ∧ Keeps defs (.obj v) r' := by
  obtain ⟨result, rfl, built⟩ := built_of_walk alone walked
  obtain ⟨-, -, kept, -⟩ := Keeps.of_alone alone keeps
  obtain ⟨_, results, asked', at_key, each⟩ := built.exists_anyOf at_anyOf
  cases asked.symm.trans asked'
  have keeps := kept _ _ _ at_anyOf asked at_key
  exact Keeps.of_mem keeps (List.mapM_map.trans each) (List.mem_map_of_mem mem)

theorem Keeps.of_member {e : String × Json} (distinct : (node.map Prod.fst).Nodup)
    (mem : e ∈ rest node) (other : e.1 ≠ "properties") (noMark : e.1 ≠ "nullable") :
    ∃ r', walk defs fuel e.2 = .ok r' ∧ Keeps defs e.2 r' := by
  obtain ⟨inside, noAnyOf, supported⟩ := mem_rest.1 mem
  obtain ⟨result, rfl, built⟩ := built_of_walk alone walked
  obtain ⟨-, -, -, others⟩ := Keeps.of_alone alone keeps
  have found := Dict.lookup_of_mem distinct inside
  obtain ⟨v', walked, at_key⟩ := built.exists_lookup found supported noAnyOf noMark
  exact ⟨v', walked, others _ _ _ other noAnyOf noMark found at_key⟩

theorem Keeps.of_fields {fields : Node} (found : fieldsOf node = some fields) :
    ∃ r', walk defs fuel (.obj fields) = .ok r' ∧ KeptAt defs .fields (.obj fields) r' := by
  obtain ⟨result, rfl, built⟩ := built_of_walk alone walked
  obtain ⟨same, each, -, -⟩ := Keeps.of_alone alone keeps
  obtain ⟨fields', walked, found'⟩ := built.fieldsOf_some found
  have names := same.names
  rw [found, found', Option.map_some, Option.map_some] at names
  refine ⟨_, walked, ?_⟩
  rintro _ ⟨⟩
  exact ⟨fields', rfl, Option.some.inj names, fun name v v' => each _ _ name v v' found found'⟩

omit keeps alone in
theorem KeptAt.of_field (keeps : KeptAt defs .fields (.obj node) r)
    (distinct : (node.map Prod.fst).Nodup) (objects : ∀ e ∈ node, IsNode e.2)
    {e : String × Json} (mem : e ∈ node) :
    ∃ r', walk defs fuel e.2 = .ok r' ∧ Keeps defs e.2 r' := by
  obtain ⟨fields', rfl, names, each⟩ := keeps node rfl
  rw [walk_of_plain (plain_of_kept distinct objects walked names each)] at walked
  obtain ⟨_, walked, ⟨⟩⟩ := map_eq_ok.1 walked
  obtain ⟨e', -, returned⟩ := Dict.exists_of_mapValuesM walked mem
  have found := Dict.lookup_of_mem distinct mem
  exact ⟨_, returned, each e.1 _ _ found ((Dict.lookup_mapValuesM walked).2 ⟨e.2, found, returned⟩)⟩

end Down

include definitions tree kept in
/-- If the root is kept, so is all that the conversion comes to. -/
theorem kept_of_comes {p : Position} {v : Json} (comes : Comes defs root p v) :
    ∃ fuel r, walk defs fuel v = .ok r ∧ KeptAt defs p v r := by
  induction comes with
  | root => exact kept
  | item before mem ih =>
    obtain ⟨_ | fuel, r, walked, keeps⟩ := ih
    · cases walked
    obtain ⟨results, rfl, each⟩ := walk_arr walked
    exact ⟨fuel, Keeps.of_mem keeps each mem⟩
  | ref before at_ref found ih =>
    obtain ⟨_ | fuel, r, walked, keeps⟩ := ih
    · cases walked
    rw [walk_ref at_ref found] at walked
    exact ⟨fuel, r, walked, Keeps.redirect (fun _ h => h.of_ref at_ref found) keeps⟩
  | only before no_ref at_anyOf asked single ih =>
    obtain ⟨_ | fuel, r, walked, keeps⟩ := ih
    · cases walked
    rw [walk_only no_ref at_anyOf asked single] at walked
    obtain ⟨resolved, returned, isMarked⟩ := bind_eq_ok.1 walked
    obtain ⟨result, rfl⟩ := walk_keepsNodes _ _ returned
    rw [markNullable_obj] at isMarked
    cases isMarked
    refine ⟨fuel, _, returned, ?_⟩
    exact (keeps_marked_iff.1 keeps).redirect fun _ h => h.of_only no_ref at_anyOf asked single
  | variant before alone at_anyOf asked mem ih =>
    obtain ⟨_ | fuel, r, walked, keeps⟩ := ih
    · cases walked
    exact ⟨fuel, Keeps.of_variant walked keeps alone at_anyOf asked mem⟩
  | @member node e before alone mem other ih =>
    have emitted := emitted_of_comes definitions tree before
    by_cases mark : e.1 = "nullable"
    · have scalar := (emitted.shaped.values _ (mem_rest.1 mem).1).2 mark
      exact ⟨1, e.2, walk_scalar scalar, .scalar scalar⟩
    obtain ⟨_ | fuel, r, walked, keeps⟩ := ih
    · cases walked
    exact ⟨fuel, Keeps.of_member walked keeps alone emitted.shaped.distinct mem other mark⟩
  | @fields node v before alone mem ih =>
    have emitted := emitted_of_comes definitions tree before
    rcases (emitted.shaped.values _ mem).1 rfl with ⟨fields, rfl, -, -⟩ | scalar
    swap
    · refine ⟨1, v, walk_scalar scalar, ?_⟩
      rintro fields rfl
      exact scalar.elim
    obtain ⟨_ | fuel, r, walked, keeps⟩ := ih
    · cases walked
    have found := fieldsOf_eq_some.2 (Dict.lookup_of_mem emitted.shaped.distinct mem)
    exact ⟨fuel, Keeps.of_fields walked keeps alone found⟩
  | @field fields e before mem ih =>
    rcases emitted_of_comes definitions tree before with scalar | ⟨⟨_, ⟨⟩, distinct, objects⟩, -⟩
    · exact scalar.elim
    obtain ⟨_ | fuel, r, walked, keeps⟩ := ih
    · cases walked
    exact ⟨fuel, KeptAt.of_field walked keeps distinct objects mem⟩

include definitions tree kept in
theorem unmistaken_of_kept {p : Position} {v : Json} (comes : Comes defs root p v) :
    Unmistaken p v := by
  obtain ⟨fuel, r, walked, keeps⟩ := kept_of_comes definitions tree kept comes
  cases v with
  | obj members =>
    cases p with
    | schema => exact answers_of_walk walked
    | fields =>
      rcases emitted_of_comes definitions tree comes with scalar | ⟨⟨_, ⟨⟩, distinct, objects⟩, -⟩
      · exact scalar.elim
      · obtain ⟨fields', rfl, names, each⟩ := keeps members rfl
        exact plain_of_kept distinct objects walked names each
  | _ => cases p <;> trivial

end Kept

/-- The conversion of the schema of a model keeps the fields of every object schema exactly when no
field that it comes to has the name of a keyword that the walk drops or follows, and everything else
that it takes for a reference or a union is one. -/
theorem toGeminiSchema_keeps_iff (root : Node) (emitted : EmittedSchema root) :
    (∃ fuel result, toGeminiSchema fuel root = .ok result ∧
      Keeps (defsOf root) (.obj (withoutDefs root)) result) ↔
      ∀ p v, Comes (defsOf root) (.obj (withoutDefs root)) p v → Unmistaken p v := by
  constructor
  · exact fun kept p v comes => unmistaken_of_kept emitted.definitions emitted.tree kept comes
  · intro unmistaken
    obtain ⟨fuel, ends, -⟩ := exists_walk emitted.acyclic (.obj (withoutDefs root))
    rcases outcome : walk (defsOf root) fuel (.obj (withoutDefs root)) with (_ | e) | result
    · exact absurd outcome ends
    · exact absurd outcome
        (walk_raises_nothing emitted.nodes emitted.definitions emitted.tree unmistaken .root e)
    · exact ⟨fuel, result, outcome, kept_of_walk unmistaken .root outcome⟩

end Gemini

/-! ### A model with a title -/

open Gemini

namespace Sample

/-- A model with one required field, `title`. -/
def book : Node :=
  [("properties", .obj [("title", .obj [("title", .str "Title"), ("type", .str "string")])]),
    ("required", .arr [.str "title"]), ("title", .str "Book"), ("type", .str "object")]

/-- What the conversion makes of it. -/
def convertedBook : Node :=
  [("properties", .obj []), ("required", .arr [.str "title"]), ("type", .str "object")]

theorem book_emitted : EmittedSchema book := by
  refine ⟨⟨[], rfl, nofun⟩, nofun, ?_, noCycle_of_rank (fun _ => 0) ?_⟩
  · simp [book, withoutDefs, Dict.select, emitted_obj, emitted_arr, shaped_iff, ModelShape,
      IsFields, mem_supported, unsupportedSchemaKeys, or_imp, forall_and]
  · rintro a b ⟨node, isDefined, -⟩
    cases isDefined

theorem book_comes : Comes (defsOf book) (.obj (withoutDefs book)) .fields
    (.obj [("title", .obj [("title", .str "Title"), ("type", .str "string")])]) :=
  .fields .root ⟨rfl, nofun⟩ List.mem_cons_self

end Sample

theorem toGeminiSchema_keeps_iff_book : EmittedSchema Sample.book ∧
    ¬ ∃ fuel result, toGeminiSchema fuel Sample.book = .ok result ∧
      Keeps (defsOf Sample.book) (.obj (withoutDefs Sample.book)) result := by
  refine ⟨Sample.book_emitted, fun kept => ?_⟩
  have unmistaken := (Gemini.toGeminiSchema_keeps_iff Sample.book Sample.book_emitted).1 kept
  exact (unmistaken _ _ Sample.book_comes _ List.mem_cons_self).1 (by decide)

/-- The name is still required and declared no more. -/
theorem title_dropped : EmittedSchema Sample.book ∧
    (∀ fuel, toGeminiSchema (fuel + 4) Sample.book = .ok (.obj Sample.convertedBook)) ∧
    requiredOf Sample.convertedBook = some ["title"] ∧
    (fieldsOf Sample.convertedBook).map (List.map Prod.fst) = some [] ∧
    ¬ Keeps (defsOf Sample.book) (.obj (withoutDefs Sample.book)) (.obj Sample.convertedBook) := by
  refine ⟨Sample.book_emitted, fun fuel => rfl, rfl, rfl, fun keeps => ?_⟩
  have alone : StandsAlone (withoutDefs Sample.book) := ⟨rfl, nofun⟩
  cases (Keeps.of_alone alone keeps).1.names

end ZoneGate
