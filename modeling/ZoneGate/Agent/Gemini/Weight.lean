import ZoneGate.Agent.Gemini.Walk
import ZoneGate.Library.Acyclic

/-!
# The weight of a schema

What the walk enters weighs its size, and every reference in it what the definition does.  Without a
cycle of references there are such weights, and all that a call goes on with is lighter than what it
was called with.
-/

namespace ZoneGate

open Py Raising

namespace Gemini

/-! ## What a schema weighs -/

/-- A reference by the name stands in what the walk enters. -/
inductive Mentions (name : String) : Json → Prop
  | here {node : Node} {ref : String} (mem : ("$ref", .str ref) ∈ node)
      (named : refName ref = name) : Mentions name (.obj node)
  | item {items : List Json} {v : Json} (mem : v ∈ items) (inside : Mentions name v) :
      Mentions name (.arr items)
  | member {node : Node} {e : String × Json} (mem : e ∈ supported node)
      (inside : Mentions name e.2) : Mentions name (.obj node)

/-- The dictionary that a name is defined by. -/
def defined (defs : Json) (name : String) : Option Node :=
  match defs with
  | .obj definitions =>
      match definitions.lookup name with
      | some (.obj node) => some node
      | _ => none
  | _ => none

/-- The definition by the one name mentions the other. -/
def Refers (defs : Json) (a b : String) : Prop :=
  ∃ node, defined defs a = some node ∧ Mentions b (.obj node)

def NoCycle (defs : Json) : Prop := ∀ a, ¬ Relation.TransGen (Refers defs) a a

/-- A rank that falls along the references excludes cycles. -/
theorem noCycle_of_rank {defs : Json} (rank : String → ℕ)
    (falls : ∀ a b, Refers defs a b → rank b < rank a) : NoCycle defs := by
  have below {a b : String} (path : Relation.TransGen (Refers defs) a b) : rank b < rank a := by
    induction path with
    | single h => exact falls _ _ h
    | tail _ h ih => exact (falls _ _ h).trans ih
  exact fun a cycle => Nat.lt_irrefl _ (below cycle)

section Cost

variable (w : String → ℕ)

/-- What a reference weighs, by the name it ends in. -/
def refCost : String × Json → ℕ
  | (key, .str ref) => if key = "$ref" then w (refName ref) else 0
  | _ => 0

mutual

/-- The size of what the walk enters, each reference with the weight of its name. -/
def cost : Json → ℕ
  | .arr items => 1 + costs items
  | .obj members => 1 + memberCosts members
  | _ => 1

def costs : List Json → ℕ
  | [] => 0
  | v :: items => cost v + costs items

def memberCosts : List (String × Json) → ℕ
  | [] => 0
  | (key, v) :: members =>
      (if key ∈ unsupportedSchemaKeys then 0 else cost v + refCost w (key, v)) +
        memberCosts members

end

def memberCost (e : String × Json) : ℕ :=
  if e.1 ∈ unsupportedSchemaKeys then 0 else cost w e.2 + refCost w e

theorem cost_arr (items : List Json) : cost w (.arr items) = 1 + (items.map (cost w)).sum := by
  have go (items : List Json) : costs w items = (items.map (cost w)).sum := by
    induction items with
    | nil => rfl
    | cons v items ih => rw [costs, List.map_cons, List.sum_cons, ih]
  rw [cost, go]

theorem cost_obj (node : Node) : cost w (.obj node) = 1 + (node.map (memberCost w)).sum := by
  have go (node : Node) : memberCosts w node = (node.map (memberCost w)).sum := by
    induction node with
    | nil => rfl
    | cons e node ih =>
      rw [memberCosts, List.map_cons, List.sum_cons, ih]
      rfl
  rw [cost, go]

theorem cost_pos (v : Json) : 0 < cost w v := by
  cases v <;> simp [cost]

theorem cost_member_le {node : Node} {e : String × Json} (mem : e ∈ supported node) :
    cost w e.2 ≤ (node.map (memberCost w)).sum := by
  obtain ⟨mem, kept⟩ := mem_supported.1 mem
  have whole : memberCost w e = cost w e.2 + refCost w e := if_neg kept
  have part : memberCost w e ≤ (node.map (memberCost w)).sum :=
    List.le_sum_of_mem (List.mem_map_of_mem mem)
  omega

end Cost

theorem cost_congr {w w' : String → ℕ} {v : Json}
    (h : ∀ name, Mentions name v → w name = w' name) : cost w v = cost w' v := by
  induction v using Json.ind with
  | scalar v scalar =>
    cases v with
    | arr => exact scalar.elim
    | obj => exact scalar.elim
    | _ => rfl
  | list items ih =>
    have same := List.map_congr_left fun v mem => ih v mem fun name hn => h name (.item mem hn)
    rw [cost_arr, cost_arr, same]
  | dictionary node ih =>
    have same (e) (mem : e ∈ node) : memberCost w e = memberCost w' e := by
      by_cases dropped : e.1 ∈ unsupportedSchemaKeys
      · rw [memberCost, memberCost, if_pos dropped, if_pos dropped]
      · have value := ih e mem fun name hn => h name (.member (mem_supported.2 ⟨mem, dropped⟩) hn)
        have named : refCost w e = refCost w' e := by
          obtain ⟨key, v⟩ := e
          cases v with
          | str ref =>
            rw [refCost, refCost]
            split_ifs with isRef
            · subst isRef
              exact h _ (.here mem rfl)
            · rfl
          | _ => rfl
        rw [memberCost, memberCost, if_neg dropped, if_neg dropped, value, named]
    rw [cost_obj, cost_obj, List.map_congr_left same]

theorem mem_of_defined {defs : Json} {name : String} {node : Node}
    (h : defined defs name = some node) :
    ∃ definitions, defs = .obj definitions ∧ (name, .obj node) ∈ definitions := by
  cases defs with
  | obj definitions =>
    refine ⟨definitions, rfl, ?_⟩
    unfold defined at h
    dsimp only at h
    split at h
    · rename_i found
      cases h
      exact Dict.mem_of_lookup found
    · cases h
  | _ => cases h

/-- Without a cycle there are weights under which every definition weighs what its name does. -/
theorem exists_weights {defs : Json} (acyclic : NoCycle defs) :
    ∃ w : String → ℕ, ∀ name node, defined defs name = some node → w name = cost w (.obj node) := by
  have finite : {a | ∃ b, Refers defs a b}.Finite := by
    cases defs with
    | obj definitions =>
      refine (List.finite_toSet (definitions.map Prod.fst)).subset ?_
      rintro a ⟨b, node, found, -⟩
      obtain ⟨_, ⟨⟩, mem⟩ := mem_of_defined found
      exact List.mem_map.2 ⟨_, mem, rfl⟩
    | _ =>
      refine Set.finite_empty.subset ?_
      rintro a ⟨b, node, found, -⟩
      cases found
  let step (w : String → ℕ) (a : String) : ℕ := (defined defs a).elim 0 fun node => cost w (.obj node)
  have reads (w w' : String → ℕ) (a : String) (same : ∀ b, Refers defs a b → w b = w' b) :
      step w a = step w' a := by
    rcases found : defined defs a with _ | node
    · simp only [step, found, Option.elim_none]
    · simp only [step, found, Option.elim_some]
      exact cost_congr fun b mentioned => same b ⟨node, found, mentioned⟩
  obtain ⟨w, fixed⟩ := Acyclic.exists_fixed (Acyclic.wellFounded finite acyclic) step reads 0
  refine ⟨w, fun name node found => ?_⟩
  rw [fixed name]
  simp only [step, found, Option.elim_some]

theorem definition_eq_ok {defs ref : Json} {base : Node} (h : definition defs ref = .ok base) :
    ∃ name, ref = .str name ∧ (base = [] ∨ defined defs (refName name) = some base) := by
  cases ref with
  | str name =>
    refine ⟨name, rfl, ?_⟩
    cases defs with
    | obj definitions =>
      unfold definition at h
      dsimp only at h
      split at h
      · cases h
        exact .inl rfl
      · rename_i found
        cases h
        simp [defined, found]
      · cases h
    | _ => cases h
  | _ => cases h

theorem dict_eq_ok {v : Json} {node : Node} : v.dict = .ok node ↔ v = .obj node := by
  cases v with
  | obj members => exact ⟨fun h => congrArg _ (Except.ok.inj h), fun h => by cases h; rfl⟩
  | _ => exact iff_of_false nofun nofun

theorem mem_of_branchesOf {anyOf : Json} {branches : List Node} {variant : Node}
    (asked : branchesOf anyOf = .ok branches) (mem : variant ∈ branches) :
    ∃ items, anyOf = .arr items ∧ .obj variant ∈ items := by
  obtain ⟨items, elements, asked⟩ := bind_eq_ok.1 asked
  obtain ⟨v, inside, isDict⟩ := mem_of_mapM_eq_ok asked mem
  obtain rfl := dict_eq_ok.1 isDict
  cases anyOf with
  | arr _ =>
    cases elements
    exact ⟨items, rfl, inside⟩
  | obj members =>
    cases elements
    obtain ⟨_, -, ⟨⟩⟩ := List.mem_map.1 inside
  | str s =>
    cases elements
    obtain ⟨_, -, ⟨⟩⟩ := List.mem_map.1 inside
  | _ => cases elements

section Calls

variable {defs : Json} {w : String → ℕ}

/-- Every call is of something lighter. -/
theorem cost_lt_of_calls
    (weighed : ∀ name node, defined defs name = some node → w name = cost w (.obj node))
    {v u : Json} (called : Calls defs v u) : cost w u < cost w v := by
  cases called with
  | @item items v mem =>
    have part : cost w u ≤ (items.map (cost w)).sum :=
      List.le_sum_of_mem (List.mem_map_of_mem mem)
    rw [cost_arr]
    omega
  | @ref node base ref at_ref found =>
    obtain ⟨name, rfl, base_of⟩ := definition_eq_ok found
    have base_le : (base.map (memberCost w)).sum ≤ w (refName name) := by
      rcases base_of with rfl | isDefined
      · exact Nat.zero_le _
      · rw [weighed _ _ isDefined, cost_obj]
        omega
    have beside := Dict.sum_select_add_le (memberCost w) (p := (· ≠ "$ref"))
      (Dict.mem_of_lookup at_ref) (by simp)
    have merged := Dict.sum_merge_le (memberCost w) base (overrides node)
    have at_ref_cost : memberCost w ("$ref", .str name) = 1 + w (refName name) := rfl
    rw [cost_obj, cost_obj]
    change _ + ((overrides node).map (memberCost w)).sum ≤ _ at beside
    omega
  | @only node variant anyOf branches no_ref at_anyOf asked single =>
    have mem : variant ∈ variants branches := single ▸ List.mem_singleton_self variant
    obtain ⟨items, rfl, inside⟩ := mem_of_branchesOf asked (List.mem_filter.1 mem).1
    have part : cost w (.obj variant) ≤ (items.map (cost w)).sum :=
      List.le_sum_of_mem (List.mem_map_of_mem inside)
    have beside := Dict.sum_select_add_le (memberCost w)
      (p := fun k => k ≠ "anyOf" ∧ k ∉ unsupportedSchemaKeys) (Dict.mem_of_lookup at_anyOf) (by simp)
    have merged := Dict.sum_merge_le (memberCost w) variant (rest node)
    have at_anyOf_cost : memberCost w ("anyOf", .arr items) = cost w (.arr items) := rfl
    rw [cost_obj] at part
    rw [cost_arr] at at_anyOf_cost
    rw [cost_obj, cost_obj]
    change _ + ((rest node).map (memberCost w)).sum ≤ _ at beside
    omega
  | @variant node variant anyOf branches alone at_anyOf asked mem =>
    obtain ⟨items, rfl, inside⟩ := mem_of_branchesOf asked (List.mem_filter.1 mem).1
    have part : cost w (.obj variant) ≤ (items.map (cost w)).sum :=
      List.le_sum_of_mem (List.mem_map_of_mem inside)
    have whole := cost_member_le w (anyOf_mem_supported at_anyOf)
    rw [cost_arr] at whole
    rw [cost_obj w node]
    omega
  | @member node e alone mem =>
    have part := cost_member_le w (rest_subset_supported mem)
    rw [cost_obj]
    omega

/-- Fuel for the weight of a node is enough. -/
theorem walk_settled
    (weighed : ∀ name node, defined defs name = some node → w name = cost w (.obj node))
    {fuel : ℕ} {v : Json} (enough : cost w v ≤ fuel) :
    walk defs (fuel + 1) v = walk defs fuel v := by
  induction fuel generalizing v with
  | zero => exact absurd enough (Nat.not_le.2 (cost_pos w v))
  | succ fuel ih =>
    refine walkWith_congr fun u called => ih ?_
    have lighter := cost_lt_of_calls weighed called
    omega

theorem walk_ne_outOfFuel
    (weighed : ∀ name node, defined defs name = some node → w name = cost w (.obj node))
    {fuel : ℕ} {v : Json} (enough : cost w v ≤ fuel) : walk defs fuel v ≠ .error .outOfFuel := by
  induction fuel generalizing v with
  | zero => exact absurd enough (Nat.not_le.2 (cost_pos w v))
  | succ fuel ih =>
    intro exhausted
    rcases walkWith_error walk_keepsNodes exhausted with ⟨u, called, exhausted⟩ | ⟨_, _, -, ⟨⟩, -⟩
    have lighter := cost_lt_of_calls weighed called
    exact ih (by omega) exhausted

/-- Without a cycle of references every walk ends, and more fuel changes nothing. -/
theorem exists_walk (acyclic : NoCycle defs) (v : Json) :
    ∃ fuel, walk defs fuel v ≠ .error .outOfFuel ∧
      ∀ more, fuel ≤ more → walk defs more v = walk defs fuel v := by
  obtain ⟨w, weighed⟩ := exists_weights acyclic
  refine ⟨cost w v, walk_ne_outOfFuel weighed (Nat.le_refl _), fun more enough => ?_⟩
  induction more, enough using Nat.le_induction with
  | base => rfl
  | succ more enough ih => rw [walk_settled weighed enough, ih]

end Calls

end Gemini

end ZoneGate
