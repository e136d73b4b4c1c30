import ZoneGate.Authorization.Runs
import ZoneGate.Py.Case

/-!
# Role names

Roles are compared by the name of the job: without whitespace, letter case and the prefix.  The
normalisation strips, maps to upper case and removes one prefix, once and in this order;
`roles_by_name_iff` says for which roles and authorities that is enough.
-/

namespace ZoneGate

open Py Trim

/-! ## Spellings -/

/-- The same text but for the case of ASCII letters. -/
def SameLetters (s t : String) : Prop := s.toList.map Char.toLower = t.toList.map Char.toLower

instance (s t : String) : Decidable (SameLetters s t) := inferInstanceAs (Decidable (_ = _))

def rolePrefix : List Char := "ROLE_".toList

theorem toUpper_toLower {c : Char} (h : c.val < 0x80) : c.toLower.toUpper = c.toUpper :=
  forall_ascii (P := fun c => c.toLower.toUpper = c.toUpper) (by decide) h

theorem toLower_ascii {c : Char} (h : c.val < 0x80) : c.toLower.val < 0x80 :=
  forall_ascii (P := fun c => c.toLower.val < 0x80) (by decide) h

theorem isSpace_toLower_ascii {c : Char} (h : c.val < 0x80) : isSpace c.toLower = isSpace c :=
  forall_ascii (P := fun c => isSpace c.toLower = isSpace c) (by decide) h

theorem toLower_of_not_ascii {c : Char} (h : ¬ c.val < 0x80) : c.toLower = c := by
  refine dif_neg ?_
  rintro ⟨-, upper⟩
  exact h (UInt32.lt_of_le_of_lt upper (by decide : 'Z'.val < 0x80))

theorem isSpace_toLower (c : Char) : isSpace c.toLower = isSpace c := by
  by_cases ascii : c.val < 0x80
  · exact isSpace_toLower_ascii ascii
  · rw [toLower_of_not_ascii ascii]

theorem map_toLower_trim (l : List Char) :
    (trim isSpace l).map Char.toLower = trim isSpace (l.map Char.toLower) := by
  have image := trim_flatMap (p := isSpace) (q := isSpace) (f := fun c => [c.toLower])
    (fun c hc d hd => by rw [List.mem_singleton.1 hd, isSpace_toLower, hc])
    (fun c hc => ⟨List.cons_ne_nil _ _, fun d hd => by
      rw [List.mem_singleton.1 hd, isSpace_toLower, hc]⟩) l
  rw [← List.map_eq_flatMap, ← List.map_eq_flatMap] at image
  exact image.symm

section Names

variable [Unicode]

theorem upperChar_toLower (c : Char) : upperChar c.toLower = upperChar c := by
  by_cases ascii : c.val < 0x80
  · rw [upperChar, upperChar, if_pos (toLower_ascii ascii), if_pos ascii, toUpper_toLower ascii]
  · rw [toLower_of_not_ascii ascii]

/-- The upper case of what is stripped does not depend on the case of the letters. -/
theorem SameLetters.upper_strip {s t : String} (h : SameLetters s t) :
    upper (strip s) = upper (strip t) := by
  have folded (l : List Char) : l.flatMap upperChar = (l.map Char.toLower).flatMap upperChar := by
    rw [List.flatMap_map]
    exact List.flatMap_congr fun c _ => (upperChar_toLower c).symm
  rw [← String.toList_inj, toList_upper, toList_upper, toList_strip, toList_strip, folded,
    folded (trim isSpace t.toList), map_toLower_trim, map_toLower_trim, h]

/-! ## Normalised names -/

/-- The role carries the prefix, in any letter case. -/
def HasPrefix (role : String) : Prop := rolePrefix <+: (upper (strip role)).toList

instance (role : String) : Decidable (HasPrefix role) := inferInstanceAs (Decidable (_ <+: _))

/-- What follows the prefix. -/
def afterPrefix (role : String) : List Char := (upper (strip role)).toList.drop rolePrefix.length

omit [Unicode] in
theorem removePrefix_eq (s : String) : removePrefix "ROLE_" s =
    if rolePrefix <+: s.toList then .ofList (s.toList.drop rolePrefix.length) else s := by
  have length : "ROLE_".length = rolePrefix.length := rfl
  simp only [removePrefix, List.isPrefixOf_iff_prefix, length]
  rfl

theorem normalizeRole_eq (role : String) : normalizeRole (some role) =
    if HasPrefix role then .ofList (afterPrefix role) else upper (strip role) := removePrefix_eq _

theorem normalizeRole_congr {role other : String} (h : upper (strip role) = upper (strip other)) :
    normalizeRole (some role) = normalizeRole (some other) := by
  rw [normalizeRole, normalizeRole, Option.getD_some, Option.getD_some, h]

theorem normalizeRole_none : normalizeRole none = "" := rfl

theorem holdsAuthority_some {authority : String} (named : authority ≠ "") (role : Option String) :
    holdsAuthority role (some authority) =
      decide (normalizeRole role = normalizeRole (some authority)) := by
  rw [holdsAuthority, if_neg named]

theorem holdsAuthority_congr {role other : Option String}
    (h : normalizeRole role = normalizeRole other) (authority : Option String) :
    holdsAuthority role authority = holdsAuthority other authority := by
  rcases authority with _ | authority
  · rfl
  · simp only [holdsAuthority, h]

/-! ## What is promised of a comparison by name -/

/-- The spelling of a role does not matter, and its name is normalised for good. -/
structure RoleByName (role : String) : Prop where
  spaces : ∀ other, strip other = strip role → ∀ authority,
    holdsAuthority (some other) authority = holdsAuthority (some role) authority
  letters : ∀ other, SameLetters other role → ∀ authority,
    holdsAuthority (some other) authority = holdsAuthority (some role) authority
  prefixed : ¬ HasPrefix role → ∀ authority,
    holdsAuthority (some ("ROLE_" ++ role)) authority = holdsAuthority (some role) authority
  idempotent : normalizeRole (some (normalizeRole (some role))) = normalizeRole (some role)

/-- The spelling of an authority does not matter, and nobody holds one without a name. -/
structure AuthorityByName (authority : String) : Prop where
  spaces : ∀ other, strip other = strip authority → ∀ role,
    holdsAuthority role (some other) = holdsAuthority role (some authority)
  letters : ∀ other, SameLetters other authority → ∀ role,
    holdsAuthority role (some other) = holdsAuthority role (some authority)
  unheld : normalizeRole (some authority) = "" → ∀ role, holdsAuthority role (some authority) = false

/-- After the prefix comes neither another one nor whitespace; a role without the prefix does not
begin with whitespace, unless it is blank. -/
def WellSpelled (role : String) : Prop :=
  if HasPrefix role then
    ¬ rolePrefix <+: afterPrefix role ∧ ∀ c ∈ (afterPrefix role).head?, isSpace c = false
  else strip role = "" ∨ ∀ c ∈ role.toList.head?, isSpace c = false

/-- The authority is neither blank nor the bare prefix. -/
def NamesJob (authority : String) : Prop :=
  strip authority ≠ "" ∧ upper (strip authority) ≠ "ROLE_"

/-! ## When the promises are kept -/

section Laws

variable (laws : UpperCaseLaws)
include laws

theorem upper_strip_upper_strip (role : String) :
    upper (strip (upper (strip role))) = upper (strip role) := by
  rw [laws.strip_upper, laws.upper_upper, strip_strip]

/-- A stretch of an upper-case name is its own upper case. -/
theorem flatMap_upperChar_of_infix {role : String} {l : List Char}
    (h : l <:+: (upper (strip role)).toList) : l.flatMap upperChar = l := by
  refine flatMap_upperChar_of_fixed fun c hc => ?_
  have mem := h.subset hc
  rw [toList_upper] at mem
  obtain ⟨d, -, hd⟩ := List.mem_flatMap.1 mem
  exact laws.upperChar_fixed hd

/-- To normalise the name after the prefix is to strip it once more. -/
theorem upper_strip_afterPrefix (role : String) :
    (upper (strip (.ofList (afterPrefix role)))).toList = trim isSpace (afterPrefix role) := by
  rw [toList_upper, toList_strip, String.toList_ofList]
  have inside : trim isSpace (afterPrefix role) <:+: (upper (strip role)).toList :=
    (trim_isInfix isSpace _).trans (List.drop_suffix _ _).isInfix
  exact flatMap_upperChar_of_infix laws inside

/-- Nothing is to be stripped at the end of what follows the prefix. -/
theorem last_afterPrefix (role : String) : ∀ c ∈ (afterPrefix role).getLast?, isSpace c = false := by
  intro c hc
  have ends : Trimmed isSpace (upper (strip role)).toList := by
    rw [← laws.strip_upper, toList_strip]
    exact trimmed_trim _ _
  obtain ⟨front, whole⟩ := List.drop_suffix rolePrefix.length (upper (strip role)).toList
  refine ends.last c ?_
  rw [← whole]
  exact List.mem_getLast?_append_of_mem_getLast? hc

theorem idempotent_iff {role : String} (h : HasPrefix role) :
    normalizeRole (some (normalizeRole (some role))) = normalizeRole (some role) ↔
      ¬ rolePrefix <+: afterPrefix role ∧ ∀ c ∈ (afterPrefix role).head?, isSpace c = false := by
  have once : normalizeRole (some role) = .ofList (afterPrefix role) := by
    rw [normalizeRole_eq, if_pos h]
  have upperName := upper_strip_afterPrefix laws role
  rw [once, ← String.toList_inj, String.toList_ofList]
  constructor
  · intro same
    have shorter : (trim isSpace (afterPrefix role)).length ≤ (afterPrefix role).length :=
      (trim_isInfix isSpace (afterPrefix role)).length_le
    have unprefixed : ¬ HasPrefix (.ofList (afterPrefix role)) := by
      intro twice
      rw [normalizeRole_eq, if_pos twice, String.toList_ofList, afterPrefix, upperName] at same
      rw [HasPrefix, upperName] at twice
      have removed := congrArg List.length same
      have long := twice.length_le
      rw [List.length_drop] at removed
      have : rolePrefix.length = 5 := rfl
      omega
    rw [normalizeRole_eq, if_neg unprefixed, upperName] at same
    rw [HasPrefix, upperName, same] at unprefixed
    refine ⟨unprefixed, ?_⟩
    rw [← same]
    exact (trimmed_trim isSpace _).head
  · rintro ⟨single, named⟩
    have whole : trim isSpace (afterPrefix role) = afterPrefix role :=
      Trimmed.trim_eq ⟨named, last_afterPrefix laws role⟩
    have unprefixed : ¬ HasPrefix (.ofList (afterPrefix role)) := by
      rwa [HasPrefix, upperName, whole]
    rw [normalizeRole_eq, if_neg unprefixed, upperName, whole]

/-! ### A prefix that is put before a role -/

omit [Unicode] laws in
theorem trimmed_rolePrefix : Trimmed isSpace rolePrefix := by
  constructor
  · rintro c ⟨⟩
    decide
  · rintro c ⟨⟩
    decide

omit laws in
/-- The name of a role with a prefix before it: the name stripped at its end only. -/
theorem upper_strip_prefixed (role : String) : (upper (strip ("ROLE_" ++ role))).toList =
    rolePrefix ++ (role.toList.rdropWhile isSpace).flatMap upperChar := by
  have word : rolePrefix.flatMap upperChar = rolePrefix := by
    simp [rolePrefix, upperChar]
  rw [toList_upper, toList_strip, String.toList_append]
  rw [show "ROLE_".toList = rolePrefix from rfl,
    trimmed_rolePrefix.trim_append (List.cons_ne_nil _ _), List.flatMap_append, word]

omit laws in
theorem normalizeRole_prefixed (role : String) : normalizeRole (some ("ROLE_" ++ role)) =
    .ofList ((role.toList.rdropWhile isSpace).flatMap upperChar) := by
  have carries : HasPrefix ("ROLE_" ++ role) := by
    rw [HasPrefix, upper_strip_prefixed]
    exact List.prefix_append _ _
  rw [normalizeRole_eq, if_pos carries, afterPrefix, upper_strip_prefixed, List.drop_left]

theorem normalizeRole_prefixed_iff {role : String} (h : ¬ HasPrefix role) :
    normalizeRole (some ("ROLE_" ++ role)) = normalizeRole (some role) ↔
      strip role = "" ∨ ∀ c ∈ role.toList.head?, isSpace c = false := by
  rw [normalizeRole_prefixed, normalizeRole_eq, if_neg h, ← String.toList_inj,
    String.toList_ofList, toList_upper, toList_strip]
  by_cases blank : trim isSpace role.toList = []
  · have none : role.toList.rdropWhile isSpace = [] :=
      List.rdropWhile_eq_nil_iff.2 (trim_eq_nil_iff.1 blank)
    refine iff_of_true (by rw [blank, none]) (.inl ?_)
    rw [strip_eq_empty_iff, ← trim_eq_nil_iff, blank]
  have named : strip role ≠ "" := by
    rwa [Ne, strip_eq_empty_iff, ← trim_eq_nil_iff]
  have lead : (role.toList.takeWhile isSpace).flatMap upperChar = role.toList.takeWhile isSpace :=
    flatMap_upperChar_of_fixed fun c hc => laws.upperChar_space (List.mem_takeWhile_imp hc)
  rw [takeWhile_append_trim blank, List.flatMap_append, lead, List.append_left_eq_self]
  rw [or_iff_right named]
  rcases role.toList with _ | ⟨c, rest⟩
  · simp
  · simp [List.takeWhile_cons]

/-- The upper-case name of a role, as an authority, belongs to the roles of that name. -/
theorem holdsAuthority_upper_strip {role : String} (named : strip role ≠ "")
    (other : Option String) :
    holdsAuthority other (some (upper (strip role))) =
      decide (normalizeRole other = normalizeRole (some role)) := by
  have authority : upper (strip role) ≠ "" := (laws.upper_eq_empty_iff).not.2 named
  rw [holdsAuthority_some authority, normalizeRole_congr (upper_strip_upper_strip laws role)]

theorem prefixed_iff {role : String} (h : ¬ HasPrefix role) :
    (∀ authority, holdsAuthority (some ("ROLE_" ++ role)) authority =
        holdsAuthority (some role) authority) ↔
      strip role = "" ∨ ∀ c ∈ role.toList.head?, isSpace c = false := by
  constructor
  · intro same
    by_cases named : strip role = ""
    · exact .inl named
    have own := same (some (upper (strip role)))
    rw [holdsAuthority_upper_strip laws named, holdsAuthority_upper_strip laws named] at own
    exact (normalizeRole_prefixed_iff laws h).1 (by simpa using own)
  · intro spelled
    exact holdsAuthority_congr ((normalizeRole_prefixed_iff laws h).2 spelled)

theorem roleByName_iff (role : String) : RoleByName role ↔ WellSpelled role := by
  have spaces (other : String) (same : strip other = strip role) :
      normalizeRole (some other) = normalizeRole (some role) :=
    normalizeRole_congr (congrArg upper same)
  have letters (other : String) (same : SameLetters other role) :
      normalizeRole (some other) = normalizeRole (some role) :=
    normalizeRole_congr same.upper_strip
  by_cases carries : HasPrefix role
  · rw [WellSpelled, if_pos carries, ← idempotent_iff laws carries]
    exact ⟨RoleByName.idempotent, fun once =>
      ⟨fun other same => holdsAuthority_congr (spaces other same),
        fun other same => holdsAuthority_congr (letters other same),
        fun bare => absurd carries bare, once⟩⟩
  · rw [WellSpelled, if_neg carries, ← prefixed_iff laws carries]
    have once : normalizeRole (some (normalizeRole (some role))) = normalizeRole (some role) := by
      rw [normalizeRole_eq role, if_neg carries,
        normalizeRole_congr (upper_strip_upper_strip laws role), normalizeRole_eq, if_neg carries]
    exact ⟨fun kept => kept.prefixed carries, fun prefixed =>
      ⟨fun other same => holdsAuthority_congr (spaces other same),
        fun other same => holdsAuthority_congr (letters other same), fun _ => prefixed, once⟩⟩

/-! ### Authorities without a name -/

theorem normalizeRole_eq_empty_iff {authority : String} :
    normalizeRole (some authority) = "" ↔ ¬ NamesJob authority := by
  rw [NamesJob, not_and_or, not_not, not_not]
  by_cases carries : HasPrefix authority
  · obtain ⟨rest, whole⟩ := carries
    have present : strip authority ≠ "" := by
      intro blank
      rw [blank] at whole
      exact absurd (congrArg List.length whole) (by simp [rolePrefix, upper])
    have after : afterPrefix authority = rest := by rw [afterPrefix, ← whole, List.drop_left]
    have only : upper (strip authority) = "ROLE_" ↔ rest = [] := by
      rw [← String.toList_inj, ← whole]
      exact List.append_right_eq_self
    rw [normalizeRole_eq, if_pos ⟨rest, whole⟩, or_iff_right present, after, only,
      String.ofList_eq_empty_iff]
  · have bare : upper (strip authority) ≠ "ROLE_" := by
      intro only
      exact carries (by rw [HasPrefix, only]; exact List.prefix_refl _)
    rw [normalizeRole_eq, if_neg carries, or_iff_left bare, laws.upper_eq_empty_iff]

theorem authorityByName_iff (authority : String) :
    AuthorityByName authority ↔ NamesJob authority := by
  constructor
  · intro kept
    by_contra unnamed
    have empty := (normalizeRole_eq_empty_iff laws).2 unnamed
    by_cases given : authority = ""
    · -- whitespace around the empty authority gives it to whoever has no role
      subst given
      have changed := kept.spaces " " rfl none
      have blank : normalizeRole (some " ") = "" := @normalizeRole_congr _ " " "" rfl
      rw [holdsAuthority_some (by decide), blank, normalizeRole_none] at changed
      simp [holdsAuthority] at changed
    · have held := kept.unheld empty none
      rw [holdsAuthority_some given, empty, normalizeRole_none] at held
      simp at held
  · intro named
    have given (other : String) (same : normalizeRole (some other) = normalizeRole (some authority))
        (role : Option String) :
        holdsAuthority role (some other) = holdsAuthority role (some authority) := by
      have nonempty (a : String) (ha : normalizeRole (some a) = normalizeRole (some authority)) :
          a ≠ "" := by
        rintro rfl
        exact (normalizeRole_eq_empty_iff laws).1 ha.symm named
      rw [holdsAuthority_some (nonempty other same), holdsAuthority_some (nonempty authority rfl),
        same]
    exact ⟨fun other same => given other (normalizeRole_congr (congrArg upper same)),
      fun other same => given other (normalizeRole_congr same.upper_strip),
      fun empty => absurd named ((normalizeRole_eq_empty_iff laws).1 empty)⟩

/-- Roles are compared by the name of the job exactly when they are spelled so that one stripping
and the removal of one prefix leave the name, and authorities exactly when they name a job. -/
theorem roles_by_name_iff :
    (∀ role, RoleByName role ↔ WellSpelled role) ∧
      ∀ authority, AuthorityByName authority ↔ NamesJob authority :=
  ⟨roleByName_iff laws, authorityByName_iff laws⟩

end Laws

end Names

/-! ## Roles that are not compared by name -/

theorem Sample.upperCaseLaws : @UpperCaseLaws Sample.unicode :=
  let _ := Sample.unicode
  ⟨fun _ _ => List.cons_ne_nil _ _, fun _ _ _ => rfl,
    fun _ _ other d hd => by rwa [List.mem_singleton.1 hd],
    fun c beyond d hd => by
      obtain rfl := List.mem_singleton.1 hd
      exact if_neg beyond⟩

theorem roles_by_name_iff_sample :
    (∀ role, @RoleByName Sample.unicode role ↔ @WellSpelled Sample.unicode role) ∧
      ∀ authority, @AuthorityByName Sample.unicode authority ↔
        @NamesJob Sample.unicode authority :=
  @roles_by_name_iff Sample.unicode Sample.upperCaseLaws

/-- A leading blank survives a prefix, one prefix of two survives the normalisation, and somebody
without a role holds the authority that is only a prefix. -/
theorem blank_prefix_and_bare_prefix :
    ¬ @RoleByName Sample.unicode " SAFETY_OFFICER" ∧
      ¬ @RoleByName Sample.unicode "ROLE_ROLE_SAFETY_OFFICER" ∧
      ¬ @AuthorityByName Sample.unicode "ROLE_" := by
  let _ := Sample.unicode
  refine ⟨fun kept => ?_, fun kept => ?_, fun kept => ?_⟩
  · have same := kept.prefixed (by decide +kernel) (some "SAFETY_OFFICER")
    revert same
    decide +kernel
  · have once := kept.idempotent
    revert once
    decide +kernel
  · have held := kept.unheld (by decide +kernel) none
    revert held
    decide +kernel

end ZoneGate
