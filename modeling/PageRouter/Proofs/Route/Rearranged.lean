import PageRouter.Proofs.Route.Permuted
import PageRouter.Proofs.Route.Reversal

namespace PageRouter

/-- What a path gives to any pattern of a template. -/
def templateParams? (ignoreCase : Bool) (path template : String) : Option Params :=
  (Layout.ofTemplate? template).bind fun layout =>
    (Pattern.capture ignoreCase layout.segments path.toList).map Params.mk

/-- The number of parameters of any pattern of a template. -/
def templateSpecificity (template : String) : Nat :=
  ((Layout.ofTemplate? template).map fun layout => layout.names.length).getD 0

namespace Pattern

private theorem extract_eq_templateParams? (pattern : Pattern) (path : String) :
    pattern.extract path = templateParams? pattern.ignoreCase path pattern.template := by
  rw [templateParams?, pattern.layout_eq]
  rfl

private theorem specificity_eq_templateSpecificity (pattern : Pattern) :
    pattern.specificity = templateSpecificity pattern.template := by
  rw [templateSpecificity, pattern.layout_eq]
  rfl

/-- A template compiles to the same pattern at another moment, but for the number. -/
theorem compile_of_compile {settings : Settings} {serial : Nat} {template : String} {pattern : Pattern}
    (hcompile : compile settings serial template = .ok pattern) (other : Nat) :
    compile settings other template = .ok { pattern with serial := other } := by
  obtain ⟨-, hfields⟩ := compile_eq_ok_iff.1 hcompile
  exact compile_eq_ok_iff.2 ⟨rfl, hfields⟩

end Pattern

/-- Among different patterns nothing is met again. -/
theorem contenders_of_nodup {patterns : List Pattern} (hnodup : patterns.Nodup) (path : String) :
    contenders path patterns = patterns.filter (·.accepts path) := by
  induction patterns using List.reverseRecOn with
  | nil => simp [contenders]
  | append_singleton earlier pattern ih =>
    obtain ⟨hearlier, -, hdisjoint⟩ := List.nodup_append.1 hnodup
    have hnew : pattern ∉ earlier := fun hmem => hdisjoint pattern hmem pattern (List.mem_singleton_self pattern) rfl
    have hseen : pattern ∉ earlier.filter (·.accepts path) := fun hmem => hnew (List.mem_filter.1 hmem).1
    rw [contenders_concat, ih hearlier, List.filter_append]
    by_cases haccepts : pattern.accepts path = true
    · simp [haccepts, hseen]
    · simp [haccepts]

/-- Of different patterns, those lead that match a path and have no more parameters than any other that does. -/
theorem frontRunners_contenders_of_nodup {patterns : List Pattern} (hnodup : patterns.Nodup) (path : String) :
    frontRunners (contenders path patterns) = patterns.filter fun pattern => pattern.accepts path &&
      patterns.all fun other => !other.accepts path || pattern.specificity ≤ other.specificity := by
  have hcontenders := contenders_of_nodup hnodup path
  rw [frontRunners, hcontenders, List.filter_filter]
  apply List.filter_congr
  intro pattern hpattern
  cases haccepts : pattern.accepts path with
  | false => simp
  | true =>
    have hcontends : pattern ∈ patterns.filter (·.accepts path) := List.mem_filter.2 ⟨hpattern, haccepts⟩
    rw [Bool.and_true, Bool.true_and, Bool.eq_iff_iff, beq_iff_eq, leastSpecificity?_eq_some_iff, List.all_eq_true,
      and_iff_right ⟨pattern, hcontends, rfl⟩]
    simp only [List.mem_filter, Bool.or_eq_true, Bool.not_eq_true', decide_eq_true_eq]
    grind

/-- The routes among some with their templates that match a path and have no more parameters than any other that
does. -/
def frontLeaves (ignoreCase : Bool) (path : String) (leaves : List (String × String)) : List (String × String) :=
  leaves.filter fun leaf => (templateParams? ignoreCase path leaf.2).isSome && leaves.all fun other =>
    !(templateParams? ignoreCase path other.2).isSome || templateSpecificity leaf.2 ≤ templateSpecificity other.2

private theorem frontLeaves_perm (ignoreCase : Bool) (path : String) {leaves others : List (String × String)}
    (hperm : leaves.Perm others) : (frontLeaves ignoreCase path leaves).Perm (frontLeaves ignoreCase path others) := by
  have hall (leaf : String × String) : (leaves.all fun other =>
      !(templateParams? ignoreCase path other.2).isSome || templateSpecificity leaf.2 ≤ templateSpecificity other.2) =
        others.all fun other => !(templateParams? ignoreCase path other.2).isSome ||
          templateSpecificity leaf.2 ≤ templateSpecificity other.2 := hperm.all_eq
  simp only [frontLeaves, hall]
  exact hperm.filter _

namespace RouteTree

variable {settings : Settings} {scope : String} {depth : Nat} {earlier : List String} {serial next : Nat}
  {definition : Routes String} {tree : RouteTree}

/-- The templates of an accepted tree are its definition. -/
theorem map_template_of_defineGroup
    (hdefine : defineGroup settings scope depth earlier serial definition = .ok (tree, next)) :
    tree.map Pattern.template = definition := by
  induction definition generalizing scope depth earlier serial next tree with
  | nil =>
    cases hdefine
    rfl
  | leaf name template rest ih =>
    obtain ⟨-, pattern, hcompile, later, hrest, rfl⟩ := defineGroup_leaf_eq_ok_iff.1 hdefine
    rw [Routes.map, (Pattern.fields_of_compile hcompile).2.1, ih hrest]
  | group name members rest ihMembers ihRest =>
    obtain ⟨-, -, inner, middle, hmembers, later, hrest, rfl⟩ := defineGroup_group_eq_ok_iff.1 hdefine
    rw [Routes.map, ihMembers hmembers, ihRest hrest]

/-- Names that differ from the one before them, and are new where it is, are new after it. -/
theorem forall_notMem_cons {name : String} {earlier names : List String} (hname : name ∉ names)
    (hnew : ∀ other ∈ names, other ∉ earlier) : ∀ other ∈ names, other ∉ name :: earlier := by
  intro other hother hmem
  rcases List.mem_cons.1 hmem with rfl | hmem
  · exact hname hother
  · exact hnew other hother hmem

/-- A group is accepted exactly if it is well named, with names that are new, nested no deeper than allowed, and has
templates that compile. -/
theorem exists_defineGroup_iff (hdepth : depth ≤ settings.maxNestingDepth) :
    (∃ tree next, defineGroup settings scope depth earlier serial definition = .ok (tree, next)) ↔
      definition.WellNamed ∧ (∀ name ∈ definition.entryNames, name ∉ earlier) ∧
        depth + definition.nesting ≤ settings.maxNestingDepth ∧
        ∀ template ∈ definition.values, ∃ pattern, Pattern.compile settings 0 template = .ok pattern := by
  induction definition generalizing scope depth earlier serial with
  | nil =>
    refine iff_of_true ⟨.nil, serial, rfl⟩ ⟨trivial, fun name hname => absurd hname List.not_mem_nil, hdepth, ?_⟩
    exact fun template htemplate => absurd htemplate List.not_mem_nil
  | leaf name template rest ih =>
    simp only [defineGroup_leaf_eq_ok_iff]
    rw [Routes.WellNamed, Routes.entryNames, Routes.nesting, Routes.values_leaf]
    constructor
    · rintro ⟨_, next, ⟨hplain, hearlier⟩, pattern, hcompile, later, hrest, rfl⟩
      obtain ⟨hnamed, hnew, hnesting, htemplates⟩ := (ih hdepth).1 ⟨later, next, hrest⟩
      obtain ⟨hname, hall⟩ := forall_notMem_of_cons hearlier hnew
      exact ⟨⟨hplain, hname, hnamed⟩, hall, hnesting,
        List.forall_mem_cons.2 ⟨⟨_, Pattern.compile_of_compile hcompile 0⟩, htemplates⟩⟩
    · rintro ⟨⟨hplain, hname, hnamed⟩, hall, hnesting, htemplates⟩
      obtain ⟨hearlier, hnew⟩ := List.forall_mem_cons.1 hall
      obtain ⟨⟨pattern, hcompile⟩, htemplates⟩ := List.forall_mem_cons.1 htemplates
      obtain ⟨later, next, hrest⟩ :=
        (ih hdepth).2 ⟨hnamed, forall_notMem_cons hname hnew, hnesting, htemplates⟩
      exact ⟨_, next, ⟨hplain, hearlier⟩, _, Pattern.compile_of_compile hcompile serial, later, hrest, rfl⟩
  | group name members rest ihMembers ihRest =>
    -- Among the members no name was taken before, and they are one level deeper.
    simp only [defineGroup_group_eq_ok_iff]
    rw [Routes.WellNamed, Routes.entryNames, Routes.nesting, Routes.values_group, List.forall_mem_append]
    constructor
    · rintro ⟨_, next, ⟨hplain, hearlier⟩, hdeeper, inner, middle, hmembers, later, hrest, rfl⟩
      obtain ⟨hinner, -, hinnerNesting, hinnerTemplates⟩ := (ihMembers hdeeper).1 ⟨inner, middle, hmembers⟩
      obtain ⟨hnamed, hnew, hnesting, htemplates⟩ := (ihRest hdepth).1 ⟨later, next, hrest⟩
      obtain ⟨hname, hall⟩ := forall_notMem_of_cons hearlier hnew
      exact ⟨⟨hplain, hname, hinner, hnamed⟩, hall, by omega, hinnerTemplates, htemplates⟩
    · rintro ⟨⟨hplain, hname, hinner, hnamed⟩, hall, hnesting, hinnerTemplates, htemplates⟩
      obtain ⟨hearlier, hnew⟩ := List.forall_mem_cons.1 hall
      have hdeeper : depth + 1 ≤ settings.maxNestingDepth := by omega
      obtain ⟨inner, middle, hmembers⟩ := (ihMembers hdeeper).2
        ⟨hinner, fun other _ => List.not_mem_nil, by omega, hinnerTemplates⟩
      obtain ⟨later, next, hrest⟩ :=
        (ihRest hdepth).2 ⟨hnamed, forall_notMem_cons hname hnew, by omega, htemplates⟩
      exact ⟨_, next, ⟨hplain, hearlier⟩, hdeeper, inner, middle, hmembers, later, hrest, rfl⟩

/-- A definition is accepted as a group at the top. -/
theorem define_eq_ok_iff : define settings serial definition = .ok (tree, next) ↔
    1 ≤ settings.maxNestingDepth ∧ defineGroup settings "" 1 [] serial definition = .ok (tree, next) := by
  rw [define, checkDepth]
  split
  · next hdeep => exact iff_of_false (fun h => by cases h) fun h => by omega
  · next hdepth => exact (and_iff_right (by omega)).symm

/-- A definition is accepted exactly if its groups are well named, nested no deeper than allowed, and all templates
compile. -/
theorem exists_define_iff :
    (∃ tree next, define settings serial definition = .ok (tree, next)) ↔
      definition.WellNamed ∧ 1 + definition.nesting ≤ settings.maxNestingDepth ∧
        ∀ template ∈ definition.values, ∃ pattern, Pattern.compile settings 0 template = .ok pattern := by
  simp only [define_eq_ok_iff]
  constructor
  · rintro ⟨tree, next, hdepth, hgroup⟩
    obtain ⟨hnamed, -, hnesting, htemplates⟩ := (exists_defineGroup_iff hdepth).1 ⟨tree, next, hgroup⟩
    exact ⟨hnamed, hnesting, htemplates⟩
  · rintro ⟨hnamed, hnesting, htemplates⟩
    have hdepth : 1 ≤ settings.maxNestingDepth := by omega
    obtain ⟨tree, next, hgroup⟩ := (exists_defineGroup_iff hdepth).2
      ⟨hnamed, fun name _ => List.not_mem_nil, hnesting, htemplates⟩
    exact ⟨tree, next, hdepth, hgroup⟩

private theorem leaves_of_define (hdefine : define settings serial definition = .ok (tree, next)) :
    definition.leaves = tree.leaves.map fun leaf => (leaf.1, leaf.2.template) := by
  rw [← map_template_of_defineGroup (defineGroup_of_define hdefine), Routes.leaves_map]

private theorem names_of_define (hdefine : define settings serial definition = .ok (tree, next)) :
    tree.names = definition.names := by
  rw [Routes.names, Routes.names, leaves_of_define hdefine, List.map_map]
  rfl

/-- What is looked up in an accepted tree has the template that the definition has there. -/
theorem map_get?_eq_some_iff (hdefine : define settings serial definition = .ok (tree, next)) {name template : String} :
    (tree.get? name).map Pattern.template = some template ↔ (name, template) ∈ definition.leaves := by
  rw [Option.map_eq_some_iff, leaves_of_define hdefine, List.mem_map]
  simp only [Routes.get?_eq_some_iff (wellNamed_of_define hdefine), Prod.exists, Prod.mk.injEq]
  constructor
  · rintro ⟨pattern, hleaf, htemplate⟩
    exact ⟨name, pattern, hleaf, rfl, htemplate⟩
  · rintro ⟨_, pattern, hleaf, rfl, htemplate⟩
    exact ⟨pattern, hleaf, htemplate⟩

/-- The routes of an accepted tree that lead for a path, with their name paths, are those of its definition. -/
theorem exists_frontLeaves (hdefine : define settings serial definition = .ok (tree, next)) (path : String) :
    ∃ front : List (String × Pattern), front ⊆ tree.leaves ∧
      front.map Prod.snd = frontRunners (contenders path tree.values) ∧
      front.map (fun leaf => (leaf.1, leaf.2.template)) = frontLeaves settings.ignoreCase path definition.leaves := by
  have hcase := ignoreCase_of_defineGroup (defineGroup_of_define hdefine)
  have hreads : ∀ leaf ∈ tree.leaves,
      leaf.2.accepts path = (templateParams? settings.ignoreCase path leaf.2.template).isSome := by
    intro leaf hleaf
    rw [Pattern.accepts, Pattern.extract_eq_templateParams?, hcase _ (List.mem_map_of_mem hleaf)]
  refine ⟨tree.leaves.filter fun leaf => leaf.2.accepts path &&
    tree.leaves.all fun other => !other.2.accepts path || leaf.2.specificity ≤ other.2.specificity,
    (List.filter_sublist).subset, ?_, ?_⟩
  · rw [frontRunners_contenders_of_nodup (nodup_values_of_define hdefine), Routes.values, List.filter_map]
    simp only [List.all_map]
    rfl
  · rw [frontLeaves, leaves_of_define hdefine, List.filter_map]
    congr 1
    apply List.filter_congr
    intro leaf hleaf
    rw [Function.comp_apply, hreads leaf hleaf, List.all_map, Bool.eq_iff_iff]
    simp only [Bool.and_eq_true, List.all_eq_true, Pattern.specificity_eq_templateSpecificity]
    exact and_congr_right' (forall₂_congr fun other hother => by rw [hreads other hother, Function.comp_apply])

/-- What a path resolves to in an accepted tree is told by the routes of its definition that lead: nothing if there is
none, the route with its name path and what the path gives to its template if there is one, and otherwise a tie of the
templates. -/
theorem resolve_of_frontLeaves (hdefine : define settings serial definition = .ok (tree, next)) {path : String}
    {front : List (String × String)} (hfront : frontLeaves settings.ignoreCase path definition.leaves = front) :
    (front = [] → tree.resolve path = .ok none) ∧
      (∀ name template, front = [(name, template)] → ∃ found, tree.resolve path = .ok (some found) ∧
        tree.nameOf? found.pattern = some name ∧
        templateParams? settings.ignoreCase path template = some found.params) ∧
      (2 ≤ front.length → tree.resolve path = .error (.ambiguous path (front.map Prod.snd))) := by
  obtain ⟨leaves, hleaves, hrunners, hkeys⟩ := exists_frontLeaves hdefine path
  rw [hfront] at hkeys
  have hpatterns : (leaders path tree.values).map Match.pattern = leaves.map Prod.snd := by
    rw [map_pattern_leaders, hrunners]
  simp only [resolve, resolve_eq_verdict]
  -- The verdict counts leaders, which correspond one to one to the routes of the definition that lead.
  refine ⟨fun hnone => ?_, fun name template hone => ?_, fun htied => ?_⟩
  · rw [verdict_eq_ok_none_iff, ← List.map_eq_nil_iff (f := Match.pattern), hpatterns, List.map_eq_nil_iff,
      ← List.map_eq_nil_iff (f := fun leaf => (leaf.1, leaf.2.template)), hkeys, hnone]
  · obtain ⟨⟨_, pattern⟩, rfl, hkey⟩ := List.map_eq_singleton_iff.1 (hkeys.trans hone)
    cases hkey
    obtain ⟨found, hleaders, rfl⟩ := List.map_eq_singleton_iff.1 hpatterns
    obtain ⟨-, hmem, hextract⟩ := mem_of_mem_leaders (hleaders ▸ List.mem_singleton_self found)
    refine ⟨found, verdict_eq_ok_some_iff.2 hleaders, ?_, ?_⟩
    · exact (nameOf?_eq_some_iff fun first second => eq_of_mem_leaves hdefine).2 (hleaves List.mem_cons_self)
    · rw [← ignoreCase_of_defineGroup (defineGroup_of_define hdefine) _ hmem, ← Pattern.extract_eq_templateParams?]
      exact hextract
  · refine verdict_eq_error_iff.2 ⟨?_, ?_⟩
    · rw [← List.length_map (f := Match.pattern), hpatterns, List.length_map,
        ← List.length_map (f := fun leaf : String × Pattern => (leaf.1, leaf.2.template)), hkeys]
      exact htied
    · rw [map_template_leaders, ← hrunners, ← hkeys, List.map_map, List.map_map]
      rfl

section Permuted

variable {serial' next' : Nat} {definition' : Routes String} {tree' : RouteTree}
  (hperm : definition.Permuted definition')
include hperm

private theorem exists_define_permuted_iff :
    (∃ tree next, define settings serial definition = .ok (tree, next)) ↔
      ∃ tree next, define settings serial' definition' = .ok (tree, next) := by
  have hvalues : definition.values.Perm definition'.values := hperm.leaves.map Prod.snd
  simp only [exists_define_iff, hperm.wellNamed_iff, hperm.nesting_eq, hvalues.mem_iff]

variable (hdefine : define settings serial definition = .ok (tree, next))
  (hdefine' : define settings serial' definition' = .ok (tree', next'))
include hdefine hdefine'

private theorem names_permuted : tree.names.Perm tree'.names := by
  rw [names_of_define hdefine, names_of_define hdefine']
  exact hperm.leaves.map Prod.fst

private theorem template_permuted (name : String) :
    (tree.get? name).map Pattern.template = (tree'.get? name).map Pattern.template := by
  apply Option.ext
  intro template
  rw [map_get?_eq_some_iff hdefine, map_get?_eq_some_iff hdefine', hperm.leaves.mem_iff]

/-- What a path resolves to is the same but for the order in which tied templates are named. -/
theorem resolve_permuted (path : String) :
    (tree.resolve path = .ok none ∧ tree'.resolve path = .ok none) ∨
      (∃ found found' name, tree.resolve path = .ok (some found) ∧ tree'.resolve path = .ok (some found') ∧
        tree.nameOf? found.pattern = some name ∧ tree'.nameOf? found'.pattern = some name ∧
        found.params = found'.params) ∨
      ∃ templates templates', tree.resolve path = .error (.ambiguous path templates) ∧
        tree'.resolve path = .error (.ambiguous path templates') ∧ templates.Perm templates' := by
  have hfront := frontLeaves_perm settings.ignoreCase path hperm.leaves
  rcases hleaves : frontLeaves settings.ignoreCase path definition.leaves with
    _ | ⟨⟨name, template⟩, _ | ⟨second, more⟩⟩
  · rw [hleaves] at hfront
    exact .inl ⟨(resolve_of_frontLeaves hdefine hleaves).1 rfl,
      (resolve_of_frontLeaves hdefine' hfront.symm.eq_nil).1 rfl⟩
  · rw [hleaves] at hfront
    obtain ⟨found, hresolve, hname, hparams⟩ := (resolve_of_frontLeaves hdefine hleaves).2.1 name template rfl
    obtain ⟨found', hresolve', hname', hparams'⟩ :=
      (resolve_of_frontLeaves hdefine' (List.perm_singleton.1 hfront.symm)).2.1 name template rfl
    exact .inr (.inl ⟨found, found', name, hresolve, hresolve', hname, hname',
      Option.some.inj (hparams.symm.trans hparams')⟩)
  · have htied : 2 ≤ (frontLeaves settings.ignoreCase path definition.leaves).length := by
      rw [hleaves, List.length_cons, List.length_cons]
      omega
    exact .inr (.inr ⟨_, _, (resolve_of_frontLeaves hdefine rfl).2.2 htied,
      (resolve_of_frontLeaves hdefine' rfl).2.2 (hfront.length_eq ▸ htied), hfront.map Prod.snd⟩)

end Permuted

/-- Definitions that differ only in the order of the entries of groups are accepted together. Their trees have the same
name paths with the same templates, and every path resolves to nothing in both, to routes with one name path and the
same parameters, or to ties of the same templates. -/
theorem define_permuted {definition' : Routes String} (hperm : definition.Permuted definition') (serial' : Nat) :
    ((∃ tree next, define settings serial definition = .ok (tree, next)) ↔
      ∃ tree next, define settings serial' definition' = .ok (tree, next)) ∧
      ∀ tree next tree' next', define settings serial definition = .ok (tree, next) →
        define settings serial' definition' = .ok (tree', next') →
        tree.names.Perm tree'.names ∧
        (∀ name, (tree.get? name).map Pattern.template = (tree'.get? name).map Pattern.template) ∧
        ∀ path, (tree.resolve path = .ok none ∧ tree'.resolve path = .ok none) ∨
          (∃ found found' name, tree.resolve path = .ok (some found) ∧ tree'.resolve path = .ok (some found') ∧
            tree.nameOf? found.pattern = some name ∧ tree'.nameOf? found'.pattern = some name ∧
            found.params = found'.params) ∨
          ∃ templates templates', tree.resolve path = .error (.ambiguous path templates) ∧
            tree'.resolve path = .error (.ambiguous path templates') ∧ templates.Perm templates' := by
  refine ⟨exists_define_permuted_iff hperm, fun tree next tree' next' hdefine hdefine' => ⟨?_, ?_, ?_⟩⟩
  · exact names_permuted hperm hdefine hdefine'
  · exact template_permuted hperm hdefine hdefine'
  · exact resolve_permuted hperm hdefine hdefine'

/-- The definition of a site with its groups, and the entries of one of them, the other way round. -/
def turnedDefinition : Routes String :=
  .group "ab" (.leaf "b" "/:x" .nil) (.group "a" (.group "c" (.leaf "b" "/x" .nil) (.leaf "b" "/x" .nil)) .nil)

/-- The tree of that definition. -/
def turnedTree : RouteTree :=
  .group "ab" (.leaf "b" (anyPattern 5) .nil)
    (.group "a" (.group "c" (.leaf "b" (fixedPattern 6) .nil) (.leaf "b" (fixedPattern 7) .nil)) .nil)

/-- The groups of a site are sorted when they are put in one after the other. -/
theorem permuted_turnedDefinition : siteDefinition.Permuted turnedDefinition := by
  have hsorted : siteDefinition = Routes.insertSorted "ab" (.group (.leaf "b" "/:x" .nil))
      (.group "a" (.leaf "b" "/x" (.group "c" (.leaf "b" "/x" .nil) .nil)) .nil) := by decide +kernel
  rw [hsorted]
  refine (Routes.permuted_insertSorted _ _ _).trans (.group "ab" (.refl _) (.group "a" ?_ .nil))
  exact .swap "b" "c" (.leaf "/x") (.group (.leaf "b" "/x" .nil)) .nil

/-- The site with its groups the other way round has the same names, templates and routes for paths. -/
theorem define_permuted_siteDefinition :
    siteDefinition.Permuted turnedDefinition ∧ define {} 0 siteDefinition = .ok (siteTree, 3) ∧
      define {} 5 turnedDefinition = .ok (turnedTree, 8) ∧ siteTree.names.Perm turnedTree.names ∧
      (siteTree.get? "a:c:b").map Pattern.template = (turnedTree.get? "a:c:b").map Pattern.template ∧
      ∃ found found' name, siteTree.resolve "/y" = .ok (some found) ∧ turnedTree.resolve "/y" = .ok (some found') ∧
        siteTree.nameOf? found.pattern = some name ∧ turnedTree.nameOf? found'.pattern = some name ∧
        found.params = found'.params := by
  have hdefine : define {} 0 siteDefinition = .ok (siteTree, 3) := by decide +kernel
  have hdefine' : define {} 5 turnedDefinition = .ok (turnedTree, 8) := by decide +kernel
  have hfound : siteTree.resolve "/y" = .ok (some ⟨anyPattern 2, ⟨[("x", "y")]⟩⟩) := by decide +kernel
  obtain ⟨-, hagree⟩ := define_permuted permuted_turnedDefinition 5
  obtain ⟨hnames, htemplates, hresolve⟩ := hagree siteTree 3 turnedTree 8 hdefine hdefine'
  refine ⟨permuted_turnedDefinition, hdefine, hdefine', hnames, htemplates "a:c:b", ?_⟩
  rcases hresolve "/y" with ⟨hnone, -⟩ | hsame | ⟨templates, -, htied, -⟩
  · rw [hfound] at hnone
    cases hnone
  · exact hsame
  · rw [hfound] at htied
    cases htied

end RouteTree

end PageRouter
