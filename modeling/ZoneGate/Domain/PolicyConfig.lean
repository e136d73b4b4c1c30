import ZoneGate.Library.Dict
import ZoneGate.Py.Case
import ZoneGate.Py.Value

/-!
# Policy configuration

The restricted cargo categories and the authority each one is handed to.  A `PolicyConfig` carries
what its validation establishes: the keys are distinct, and keys and authorities are stripped and
not blank.
-/

namespace ZoneGate

open Py

/-- The vocabulary that the console offers; which of these are restricted is configuration. -/
def cargoCategories : List String :=
  ["GENERAL", "PERISHABLE", "HIGH_VALUE", "HAZARDOUS", "CONTROLLED_SUBSTANCE", "WEAPONS"]

/-- Insert into a dictionary: a key that is there keeps its place. -/
def dictInsert (key value : String) : List (String × String) → List (String × String)
  | [] => [(key, value)]
  | e :: rest => if e.1 = key then (key, value) :: rest else e :: dictInsert key value rest

theorem dictInsert_eq_insert (key value : String) (d : List (String × String)) :
    dictInsert key value d = Dict.insert key value d := by
  induction d with
  | nil => rfl
  | cons e rest ih => rw [dictInsert, Dict.insert, ih]

/-- A restricted-category entry as validation leaves it. -/
def CleanEntry (e : String × String) : Prop :=
  strip e.1 = e.1 ∧ e.1 ≠ "" ∧ strip e.2 = e.2 ∧ e.2 ≠ ""

instance (e : String × String) : Decidable (CleanEntry e) := by unfold CleanEntry; infer_instance

structure PolicyConfig where
  restrictedCategories : List (String × String)
  nodup_keys : (restrictedCategories.map Prod.fst).Nodup
  clean : ∀ e ∈ restrictedCategories, CleanEntry e
deriving DecidableEq

namespace PolicyConfig

def defaultRestrictedCategories : List (String × String) :=
  [("HIGH_VALUE", "ROLE_CARGO_SUPERVISOR"), ("HAZARDOUS", "ROLE_SAFETY_OFFICER"),
    ("CONTROLLED_SUBSTANCE", "ROLE_COMPLIANCE_OFFICER"), ("WEAPONS", "ROLE_SECURITY_OFFICER")]

/-- `PolicyConfig()`. -/
def default : PolicyConfig :=
  ⟨defaultRestrictedCategories, by decide, by decide⟩

/-- The first entry with a blank name or a blank authority, as the validator reports it. -/
def firstError : List (String × String) → Option String
  | [] => none
  | (category, authority) :: rest =>
      if strip category = "" then some "A restricted category name cannot be blank"
      else if strip authority = "" then
        some ("Category '" ++ category ++ "' is restricted but names no approving authority. " ++
          "A category with nobody to escalate to would silently release.")
      else firstError rest

/-- The dictionary of the stripped entries; a later entry replaces an earlier one. -/
def strippedEntries (value : List (String × String)) : List (String × String) :=
  value.foldl (fun d e => dictInsert (strip e.1) (strip e.2) d) []

theorem not_blank_of_firstError {value : List (String × String)} (h : firstError value = none) :
    ∀ e ∈ value, strip e.1 ≠ "" ∧ strip e.2 ≠ "" := by
  induction value with
  | nil => simp
  | cons a rest ih =>
    obtain ⟨category, authority⟩ := a
    rw [firstError] at h
    split_ifs at h with h1 h2
    intro e he
    rcases List.mem_cons.1 he with rfl | he
    · exact ⟨h1, h2⟩
    · exact ih h e he

/-- What holds of every stripped entry, and of the dictionary it is inserted in, holds of the
resulting dictionary. -/
theorem strippedEntries_induction {P : List (String × String) → Prop} (value : List (String × String))
    (nil : P []) (insert : ∀ d, ∀ e ∈ value, P d → P (Dict.insert (strip e.1) (strip e.2) d)) :
    P (strippedEntries value) := by
  have go : ∀ (l d : List (String × String)), l ⊆ value → P d →
      P (l.foldl (fun d e => dictInsert (strip e.1) (strip e.2) d) d) := by
    intro l
    induction l with
    | nil => exact fun d _ hd => hd
    | cons e l ih =>
      intro d hl hd
      rw [List.foldl_cons, dictInsert_eq_insert]
      exact ih _ (fun x hx => hl (List.mem_cons_of_mem _ hx)) (insert d e (hl List.mem_cons_self) hd)
  exact go value [] (fun _ h => h) nil

theorem nodup_strippedEntries (value : List (String × String)) :
    ((strippedEntries value).map Prod.fst).Nodup :=
  strippedEntries_induction (P := fun d => (d.map Prod.fst).Nodup) value List.nodup_nil
    fun _ _ _ hd => Dict.nodup_insert _ _ hd

theorem clean_strippedEntries {value : List (String × String)} (h : firstError value = none) :
    ∀ e ∈ strippedEntries value, CleanEntry e :=
  strippedEntries_induction (P := fun d => ∀ e ∈ d, CleanEntry e) value (by simp)
    fun d e he hd x hx => by
      rcases Dict.mem_insert _ _ hx with rfl | hx
      · have := not_blank_of_firstError h e he
        exact ⟨strip_strip _, this.1, strip_strip _, this.2⟩
      · exact hd x hx

/-- `PolicyConfig(restricted_categories=value)`: the `_check_categories` validator. -/
def checkCategories (value : List (String × String)) : Except String PolicyConfig :=
  match h : firstError value with
  | some message => .error message
  | none => .ok ⟨strippedEntries value, nodup_strippedEntries value, clean_strippedEntries h⟩

/-! ### Validation again -/

/-- Clean entries are not reported. -/
theorem firstError_of_clean {entries : List (String × String)} (h : ∀ e ∈ entries, CleanEntry e) :
    firstError entries = none := by
  induction entries with
  | nil => rfl
  | cons e rest ih =>
    obtain ⟨stripped, named, stripped', named'⟩ := h e List.mem_cons_self
    rw [firstError, if_neg (by rwa [stripped]), if_neg (by rwa [stripped'])]
    exact ih fun x hx => h x (List.mem_cons_of_mem _ hx)

/-- Clean entries under distinct names are kept as they are. -/
theorem strippedEntries_of_clean {entries : List (String × String)}
    (distinct : (entries.map Prod.fst).Nodup) (clean : ∀ e ∈ entries, CleanEntry e) :
    strippedEntries entries = entries := by
  have go (l d : List (String × String)) (distinct : ((d ++ l).map Prod.fst).Nodup)
      (clean : ∀ e ∈ l, CleanEntry e) :
      l.foldl (fun d e => dictInsert (strip e.1) (strip e.2) d) d = d ++ l := by
    induction l generalizing d with
    | nil => rw [List.foldl_nil, List.append_nil]
    | cons e l ih =>
      obtain ⟨stripped, -, stripped', -⟩ := clean e List.mem_cons_self
      have new : e.1 ∉ d.map Prod.fst := by
        rw [List.map_append, List.map_cons] at distinct
        exact fun old => (List.nodup_append.1 distinct).2.2 e.1 old e.1 List.mem_cons_self rfl
      rw [List.foldl_cons, stripped, stripped', dictInsert_eq_insert,
        Dict.insert_of_not_mem _ _ new]
      rw [List.append_cons] at distinct
      rw [List.append_cons d e l]
      exact ih (d ++ [e]) distinct fun x hx => clean x (List.mem_cons_of_mem _ hx)
  exact go entries [] distinct clean

/-- Validation accepts what it has produced, and leaves it as it is. -/
theorem checkCategories_self (config : PolicyConfig) :
    checkCategories config.restrictedCategories = .ok config := by
  have kept := strippedEntries_of_clean config.nodup_keys config.clean
  have accepted := firstError_of_clean config.clean
  unfold checkCategories
  split
  · rename_i message refused
    rw [accepted] at refused
    cases refused
  · congr 1
    cases config
    simpa using kept

/-! ### Reading a configuration -/

/-- Fields an older configuration may still carry. -/
def retiredFields : List String := ["window_start_hour", "window_end_hour"]

/-- `_drop_retired_fields` -/
def dropRetiredFields : Json → Json
  | .obj data => .obj (data.filter fun m => m.1 ∉ retiredFields)
  | data => data

/-- A dictionary of strings; `none` for a value that is no string. -/
def stringItems (members : List (String × Json)) : Option (List (String × String)) :=
  members.mapM fun m =>
    match m.2 with
    | .str s => some (m.1, s)
    | _ => none

/-- `PolicyConfig.model_validate`, with `none` for a validation error.  Fields that are not declared
are forbidden. -/
def modelValidate (data : Json) : Option PolicyConfig :=
  match dropRetiredFields data with
  | .obj fields =>
      if fields.any fun m => m.1 ≠ "restricted_categories" then none
      else match fields.lookup "restricted_categories" with
      | none => some default
      | some (.obj members) => do
          let value ← stringItems members
          (checkCategories value).toOption
      | some _ => none
  | _ => none

/-- `config.model_dump()` -/
def modelDump (config : PolicyConfig) : Json :=
  .obj [("restricted_categories", .obj (config.restrictedCategories.map fun e => (e.1, .str e.2)))]

theorem stringItems_map (entries : List (String × String)) :
    stringItems (entries.map fun e => (e.1, .str e.2)) = some entries := by
  induction entries with
  | nil => rfl
  | cons e rest ih =>
    rw [List.map_cons, stringItems, List.mapM_cons]
    rw [stringItems] at ih
    rw [ih]
    rfl

/-- What is dumped validates, to what was dumped. -/
theorem modelValidate_modelDump (config : PolicyConfig) :
    modelValidate config.modelDump = some config := by
  have validates : modelValidate config.modelDump = (do
      let value ← stringItems (config.restrictedCategories.map fun e => (e.1, .str e.2))
      (checkCategories value).toOption) := rfl
  rw [validates, stringItems_map]
  exact congrArg Except.toOption (checkCategories_self config)

/-! ### The rule -/

/-- The role a category must be escalated to, or `none` if it is unrestricted. -/
def authorityFor (config : PolicyConfig) (category : String) : Option String :=
  config.restrictedCategories.lookup category

theorem authorityFor_ne_empty {config : PolicyConfig} {category authority : String}
    (h : config.authorityFor category = some authority) : authority ≠ "" :=
  (config.clean _ (Dict.mem_of_lookup h)).2.2.2

end PolicyConfig

end ZoneGate
