import PageRouter.Proofs.Route.Rearranged

namespace PageRouter

/-- What a definition has to satisfy in one place. The names on the way to a group are its `scope`. -/
inductive Requirement where
  /-- The group is not deeper than allowed. -/
  | shallow (scope : List String)
  /-- The name of the entry is not empty. -/
  | named (scope : List String) (name : String)
  /-- The name of the entry has no colon, which would part it in a name path. -/
  | unparted (scope : List String) (name : String)
  /-- No entry before it in the group has the name of the entry. -/
  | unused (scope : List String) (name : String) (earlier : List String)
  | compiles (template : String)
  deriving DecidableEq, Repr

namespace Requirement

/-- The error of what is not satisfied. -/
def error? (settings : Settings) : Requirement → Option RouteError
  | shallow scope =>
    if settings.maxNestingDepth < scope.length + 1 then
      some (.nestingTooDeep (joinNames scope) (scope.length + 1) settings.maxNestingDepth)
    else none
  | named scope name => if name = "" then some (.invalidName (joinNames (scope ++ [name])) .empty) else none
  | unparted scope name =>
    if ':' ∈ name.toList then some (.invalidName (joinNames (scope ++ [name])) .containsSeparator) else none
  | unused scope name earlier =>
    if name ∈ earlier then some (.invalidName (joinNames (scope ++ [name])) .repeated) else none
  | compiles template =>
    match Pattern.compile settings 0 template with
    | .ok _ => none
    | .error error => some error

/-- The requirements on a name. -/
def ofName (scope : List String) (name : String) (earlier : List String) : List Requirement :=
  [named scope name, unparted scope name, unused scope name earlier]

end Requirement

/-- The error of the first requirement that is not satisfied. -/
def firstError? (settings : Settings) (requirements : List Requirement) : Option RouteError :=
  requirements.findSome? (·.error? settings)

private theorem firstError?_append (settings : Settings) (requirements more : List Requirement) :
    firstError? settings (requirements ++ more) =
      (firstError? settings requirements).or (firstError? settings more) :=
  List.findSome?_append

private theorem firstError?_singleton (settings : Settings) (requirement : Requirement) :
    firstError? settings [requirement] = requirement.error? settings :=
  List.findSome?_singleton

namespace Routes

/-- The requirements on the entries of a group at `scope`, after entries with the names `earlier`. -/
def requirementsIn (scope earlier : List String) : Routes String → List Requirement
  | nil => []
  | leaf name template rest =>
    Requirement.ofName scope name earlier ++ ([.compiles template] ++ rest.requirementsIn scope (name :: earlier))
  | group name members rest =>
    Requirement.ofName scope name earlier ++ ([.shallow (scope ++ [name])] ++
      (members.requirementsIn (scope ++ [name]) [] ++ rest.requirementsIn scope (name :: earlier)))

/-- The requirements on a definition, whose outermost group is at no names. -/
def requirements (definition : Routes String) : List Requirement :=
  [.shallow []] ++ definition.requirementsIn [] []

end Routes

section Reports

variable {ε α β : Type} {result : Except ε α} {next : α → Except ε β} {found more : Option ε}

/-- A result is refused with the error that was found, and only then. -/
def Reports (result : Except ε α) (found : Option ε) : Prop :=
  ∀ error, result = .error error ↔ found = some error

private theorem reports_ok (value : α) : Reports (.ok value : Except ε α) none :=
  fun _ => iff_of_false (fun h => nomatch h) (fun h => nomatch h)

private theorem reports_error (error : ε) : Reports (.error error : Except ε α) (some error) := by
  intro other
  rw [Except.error.injEq, Option.some.injEq]

/-- What is found in a second part counts only where the first part succeeds. -/
theorem Reports.bind (hresult : Reports result found)
    (hnext : ∀ value, result = .ok value → Reports (next value) more) :
    Reports (result >>= next) (found.or more) := by
  intro error
  rw [bind_eq_error_iff, Option.or_eq_some_iff, hresult error]
  refine or_congr_right ⟨fun ⟨value, hvalue, herror⟩ => ⟨?_, (hnext value hvalue error).1 herror⟩, ?_⟩
  · refine Option.eq_none_iff_forall_not_mem.2 fun other hother => ?_
    have hrefused := (hresult other).2 hother
    rw [hvalue] at hrefused
    cases hrefused
  · rintro ⟨hnone, hmore⟩
    cases hfirst : result with
    | error other =>
      have hother := (hresult other).1 hfirst
      rw [hnone] at hother
      cases hother
    | ok value => exact ⟨value, rfl, (hnext value hfirst error).2 hmore⟩

/-- A second part that succeeds finds nothing. -/
theorem Reports.bind_ok (hresult : Reports result found) (hnext : ∀ value, ∃ last, next value = .ok last) :
    Reports (result >>= next) found := by
  have hnone : ∀ value, result = .ok value → Reports (next value) none := by
    intro value _
    obtain ⟨last, hlast⟩ := hnext value
    rw [hlast]
    exact reports_ok last
  have hbind := hresult.bind hnone
  rwa [Option.or_none] at hbind

end Reports

section Checks

variable {settings : Settings} {scope : List String} {name : String}

/-- Checking a name finds the first requirement on it that is not satisfied. -/
theorem reports_checkEntry (hscope : ∀ name ∈ scope, name ≠ "") (earlier : List String) :
    Reports (checkEntry (joinNames scope) earlier name)
      (firstError? settings (Requirement.ofName scope name earlier)) := by
  rw [checkEntry, joinName_joinNames hscope, entryFlaw?, firstError?, Requirement.ofName]
  by_cases hempty : name = ""
  · simp [Requirement.error?, hempty, reports_error]
  by_cases hcolon : ':' ∈ name.toList
  · simp [Requirement.error?, hempty, hcolon, reports_error]
  by_cases hearlier : name ∈ earlier
  · simp [Requirement.error?, hempty, hcolon, hearlier, reports_error]
  · simp [Requirement.error?, hempty, hcolon, hearlier, reports_ok]

private theorem reports_checkDepth (settings : Settings) (scope : List String) :
    Reports (checkDepth settings (joinNames scope) (scope.length + 1))
      ((Requirement.shallow scope).error? settings) := by
  rw [checkDepth, Requirement.error?]
  split
  · exact reports_error _
  · exact reports_ok ()

/-- A template is refused alike at all moments. -/
theorem reports_compile (settings : Settings) (serial : Nat) (template : String) :
    Reports (Pattern.compile settings serial template) ((Requirement.compiles template).error? settings) := by
  have hsame : ∀ error, Pattern.compile settings serial template = .error error ↔
      Pattern.compile settings 0 template = .error error := by
    intro error
    unfold Pattern.compile
    split
    · rfl
    · split
      · rfl
      · split
        · rfl
        · split
          · rfl
          · split
            · simp
            · rfl
  intro error
  rw [hsame error, Requirement.error?]
  cases Pattern.compile settings 0 template with
  | ok pattern => exact reports_ok pattern error
  | error other => exact reports_error other error

end Checks

namespace RouteTree

variable {settings : Settings} {serial next : Nat} {definition : Routes String} {tree : RouteTree}

/-- Compiling the entries of a group finds the first requirement on them that is not satisfied. -/
theorem reports_defineGroup (settings : Settings) {scope : List String} (hscope : ∀ name ∈ scope, name ≠ "")
    (earlier : List String) (serial : Nat) (definition : Routes String) :
    Reports (defineGroup settings (joinNames scope) (scope.length + 1) earlier serial definition)
      (firstError? settings (definition.requirementsIn scope earlier)) := by
  induction definition generalizing scope earlier serial with
  | nil => exact reports_ok (Routes.nil, serial)
  | leaf name template rest ih =>
    rw [defineGroup, Routes.requirementsIn, firstError?_append, firstError?_append, firstError?_singleton]
    refine (reports_checkEntry hscope earlier).bind fun _ _ => ?_
    refine (reports_compile settings serial template).bind fun pattern _ => ?_
    exact (ih hscope (name :: earlier) (serial + 1)).bind_ok fun later => ⟨_, rfl⟩
  | group name members rest ihMembers ihRest =>
    rw [defineGroup, Routes.requirementsIn, firstError?_append, firstError?_append, firstError?_append,
      firstError?_singleton, joinName_joinNames hscope]
    refine (reports_checkEntry hscope earlier).bind fun _ hentry => ?_
    -- The name has been checked, so that it can be on the way to what is inside.
    have hinner : ∀ other ∈ scope ++ [name], other ≠ "" := by
      rw [List.forall_mem_append, List.forall_mem_singleton]
      exact ⟨hscope, ((checkEntry_eq_ok_iff _).1 hentry).1.1⟩
    have hlength : (scope ++ [name]).length = scope.length + 1 := List.length_append
    rw [← hlength]
    refine (reports_checkDepth settings (scope ++ [name])).bind fun _ _ => ?_
    refine (ihMembers hinner [] serial).bind fun inner _ => ?_
    rw [hlength]
    exact (ihRest hscope (name :: earlier) inner.2).bind_ok fun later => ⟨_, rfl⟩

/-- Compiling a definition finds the first of its requirements that is not satisfied. -/
theorem reports_define (settings : Settings) (serial : Nat) (definition : Routes String) :
    Reports (define settings serial definition) (firstError? settings definition.requirements) := by
  rw [define, Routes.requirements, firstError?_append, firstError?_singleton]
  refine (reports_checkDepth settings []).bind fun _ _ => ?_
  exact reports_defineGroup settings (fun name hname => absurd hname List.not_mem_nil) [] serial definition

/-- A definition is accepted exactly if in all groups the names are not empty, have no colons and are different, no
group is nested deeper than allowed, and all templates compile. The tree of an accepted definition is that definition
with every template compiled. The error of a refused definition is that of the first requirement on the way through it
that is not satisfied. -/
theorem define_meets_requirements (settings : Settings) (serial : Nat) (definition : Routes String) :
    ((∃ tree next, define settings serial definition = .ok (tree, next)) ↔
      definition.WellNamed ∧ 1 + definition.nesting ≤ settings.maxNestingDepth ∧
        ∀ template ∈ definition.values, ∃ pattern, Pattern.compile settings 0 template = .ok pattern) ∧
      (∀ tree next, define settings serial definition = .ok (tree, next) →
        tree.map Pattern.template = definition ∧
          ∀ pattern ∈ tree.values, Pattern.compile settings pattern.serial pattern.template = .ok pattern) ∧
      ∀ error, define settings serial definition = .error error ↔
        ∃ met required unmet, definition.requirements = met ++ required :: unmet ∧
          (∀ other ∈ met, other.error? settings = none) ∧ required.error? settings = some error := by
  refine ⟨exists_define_iff, fun tree next hdefine => ?_, fun error => ?_⟩
  · have hgroup := defineGroup_of_define hdefine
    exact ⟨map_template_of_defineGroup hgroup, compile_template_of_defineGroup hgroup⟩
  · rw [reports_define settings serial definition error, firstError?, List.findSome?_eq_some_iff]
    constructor
    · rintro ⟨met, required, unmet, hrequirements, herror, hmet⟩
      exact ⟨met, required, unmet, hrequirements, hmet, herror⟩
    · rintro ⟨met, required, unmet, hrequirements, hmet, herror⟩
      exact ⟨met, required, unmet, hrequirements, herror, hmet⟩

/-- A group with an empty group in it, a name with a colon after that, and at the end nothing that could be used. -/
def crowdedDefinition : Routes String :=
  .group "a" (.leaf "b" "/x" (.group "c" .nil (.leaf "d:b" "" .nil))) (.leaf "" "" .nil)

/-- What is inside of a group comes before what follows the group, and the depth of a group before the next entry. -/
theorem define_meets_requirements_crowdedDefinition :
    siteTree.map Pattern.template = siteDefinition ∧
      define {} 0 crowdedDefinition = .error (.invalidName "a:d:b" .containsSeparator) ∧
      define { maxNestingDepth := 2 } 0 crowdedDefinition = .error (.nestingTooDeep "a:c" 3 2) := by
  have hsite : define {} 0 siteDefinition = .ok (siteTree, 3) := by decide +kernel
  obtain ⟨-, hshape, -⟩ := define_meets_requirements {} 0 siteDefinition
  obtain ⟨-, -, hparted⟩ := define_meets_requirements {} 0 crowdedDefinition
  obtain ⟨-, -, hdeep⟩ := define_meets_requirements { maxNestingDepth := 2 } 0 crowdedDefinition
  refine ⟨(hshape siteTree 3 hsite).1, (hparted _).2 ?_, (hdeep _).2 ?_⟩
  · exact ⟨crowdedDefinition.requirements.take 14, .unparted ["a"] "d:b", crowdedDefinition.requirements.drop 15,
      by decide, by decide +kernel, by decide⟩
  · exact ⟨crowdedDefinition.requirements.take 12, .shallow ["a", "c"], crowdedDefinition.requirements.drop 13,
      by decide, by decide +kernel, by decide⟩

end RouteTree

end PageRouter
