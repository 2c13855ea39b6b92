import PageRouter.Proofs.Route.Branches
import PageRouter.Proofs.Route.Compiled
import PageRouter.Proofs.Route.Rebuild

namespace PageRouter

private theorem entryFlaw?_eq_none_iff {earlier : List String} {name : String} :
    entryFlaw? earlier name = none ↔ IsPlainName name ∧ name ∉ earlier := by
  rw [entryFlaw?, IsPlainName]
  by_cases hempty : name = ""
  · simp [hempty]
  by_cases hcolon : ':' ∈ name.toList
  · simp [hempty, hcolon]
  by_cases hearlier : name ∈ earlier
  · simp [hempty, hcolon, hearlier]
  · simp [hempty, hcolon, hearlier]

/-- A name is accepted if it is plain and new in its group. -/
theorem checkEntry_eq_ok_iff (scope : String) {earlier : List String} {name : String} :
    checkEntry scope earlier name = .ok () ↔ IsPlainName name ∧ name ∉ earlier := by
  rw [← entryFlaw?_eq_none_iff, checkEntry]
  cases entryFlaw? earlier name with
  | none => simp
  | some flaw => simp

/-- Names that were each checked against those before them are new and different. -/
theorem forall_notMem_of_cons {name : String} {earlier names : List String} (hearlier : name ∉ earlier)
    (hnew : ∀ other ∈ names, other ∉ name :: earlier) :
    name ∉ names ∧ ∀ other ∈ name :: names, other ∉ earlier := by
  constructor
  · exact fun hmem => hnew name hmem List.mem_cons_self
  · intro other hother
    rcases List.mem_cons.1 hother with rfl | hother
    · exact hearlier
    · exact fun hmem => hnew other hother (List.mem_cons_of_mem _ hmem)

namespace RouteTree

variable {settings : Settings} {scope : String} {depth : Nat} {earlier : List String} {serial next : Nat}
  {name template : String} {members rest : Routes String} {tree : RouteTree}

/-- A group that begins with a route is accepted if the name of the route is, its template compiles, and the rest is
accepted. -/
theorem defineGroup_leaf_eq_ok_iff :
    defineGroup settings scope depth earlier serial (.leaf name template rest) = .ok (tree, next) ↔
      (IsPlainName name ∧ name ∉ earlier) ∧ ∃ pattern, Pattern.compile settings serial template = .ok pattern ∧
        ∃ later, defineGroup settings scope depth (name :: earlier) (serial + 1) rest = .ok (later, next) ∧
          tree = .leaf name pattern later := by
  rw [defineGroup]
  simp only [bind_eq_ok_iff, ← checkEntry_eq_ok_iff scope, Prod.exists]
  constructor
  · rintro ⟨_, hentry, pattern, hcompile, later, last, hrest, heq⟩
    cases heq
    exact ⟨hentry, pattern, hcompile, later, hrest, rfl⟩
  · rintro ⟨hentry, pattern, hcompile, later, hrest, rfl⟩
    exact ⟨(), hentry, pattern, hcompile, later, next, hrest, rfl⟩

/-- A group that begins with a group is accepted if the name of that one is, it is not too deep, and its own entries
and the rest are accepted. -/
theorem defineGroup_group_eq_ok_iff :
    defineGroup settings scope depth earlier serial (.group name members rest) = .ok (tree, next) ↔
      (IsPlainName name ∧ name ∉ earlier) ∧ depth + 1 ≤ settings.maxNestingDepth ∧ ∃ inner middle,
        defineGroup settings (joinName scope name) (depth + 1) [] serial members = .ok (inner, middle) ∧
        ∃ later, defineGroup settings scope depth (name :: earlier) middle rest = .ok (later, next) ∧
          tree = .group name inner later := by
  have hdepth : checkDepth settings (joinName scope name) (depth + 1) = .ok () ↔
      depth + 1 ≤ settings.maxNestingDepth := by
    rw [checkDepth]
    split
    · simp; omega
    · simp; omega
  rw [defineGroup]
  simp only [bind_eq_ok_iff, ← checkEntry_eq_ok_iff scope, ← hdepth, Prod.exists]
  constructor
  · rintro ⟨_, hentry, _, hbound, inner, middle, hmembers, later, last, hrest, heq⟩
    cases heq
    exact ⟨hentry, hbound, inner, middle, hmembers, later, hrest, rfl⟩
  · rintro ⟨hentry, hbound, inner, middle, hmembers, later, hrest, rfl⟩
    exact ⟨(), hentry, (), hbound, inner, middle, hmembers, later, next, hrest, rfl⟩

/-- The entries of an accepted group have plain names, which are new and different. -/
theorem wellNamed_of_defineGroup {definition : Routes String}
    (hdefine : defineGroup settings scope depth earlier serial definition = .ok (tree, next)) :
    tree.WellNamed ∧ ∀ name ∈ tree.entryNames, name ∉ earlier := by
  induction definition generalizing scope depth earlier serial next tree with
  | nil =>
    cases hdefine
    exact ⟨trivial, fun name hname => absurd hname List.not_mem_nil⟩
  | leaf name template rest ih =>
    obtain ⟨⟨hplain, hearlier⟩, pattern, -, later, hrest, rfl⟩ := defineGroup_leaf_eq_ok_iff.1 hdefine
    obtain ⟨hnamed, hlater⟩ := ih hrest
    obtain ⟨hnew, hall⟩ := forall_notMem_of_cons hearlier hlater
    exact ⟨⟨hplain, hnew, hnamed⟩, hall⟩
  | group name members rest ihMembers ihRest =>
    obtain ⟨⟨hplain, hearlier⟩, -, inner, middle, hmembers, later, hrest, rfl⟩ :=
      defineGroup_group_eq_ok_iff.1 hdefine
    obtain ⟨hinner, -⟩ := ihMembers hmembers
    obtain ⟨hnamed, hlater⟩ := ihRest hrest
    obtain ⟨hnew, hall⟩ := forall_notMem_of_cons hearlier hlater
    exact ⟨⟨hplain, hnew, hinner, hnamed⟩, hall⟩

/-- The patterns of an accepted group are numbered one after the other, in order. -/
theorem map_serial_of_defineGroup {definition : Routes String}
    (hdefine : defineGroup settings scope depth earlier serial definition = .ok (tree, next)) :
    tree.values.map Pattern.serial = List.range' serial tree.values.length ∧
      next = serial + tree.values.length := by
  induction definition generalizing scope depth earlier serial next tree with
  | nil =>
    cases hdefine
    exact ⟨rfl, rfl⟩
  | leaf name template rest ih =>
    obtain ⟨-, pattern, hcompile, later, hrest, rfl⟩ := defineGroup_leaf_eq_ok_iff.1 hdefine
    obtain ⟨hserials, hnext⟩ := ih hrest
    rw [Routes.values_leaf, List.map_cons, List.length_cons, hserials, (Pattern.fields_of_compile hcompile).1,
      List.range'_succ]
    exact ⟨rfl, by omega⟩
  | group name members rest ihMembers ihRest =>
    obtain ⟨-, -, inner, middle, hmembers, later, hrest, rfl⟩ := defineGroup_group_eq_ok_iff.1 hdefine
    obtain ⟨hinner, hmiddle⟩ := ihMembers hmembers
    obtain ⟨hserials, hnext⟩ := ihRest hrest
    rw [Routes.values_group, List.map_append, List.length_append, hinner, hserials, hmiddle, List.range'_append_1]
    exact ⟨rfl, by omega⟩

/-- Every pattern of an accepted group is compiled from its own template. -/
theorem compile_template_of_defineGroup {definition : Routes String}
    (hdefine : defineGroup settings scope depth earlier serial definition = .ok (tree, next)) :
    ∀ pattern ∈ tree.values, Pattern.compile settings pattern.serial pattern.template = .ok pattern := by
  induction definition generalizing scope depth earlier serial next tree with
  | nil =>
    cases hdefine
    exact fun pattern hpattern => absurd hpattern List.not_mem_nil
  | leaf name template rest ih =>
    obtain ⟨-, pattern, hcompile, later, hrest, rfl⟩ := defineGroup_leaf_eq_ok_iff.1 hdefine
    obtain ⟨rfl, rfl, -⟩ := Pattern.fields_of_compile hcompile
    rw [Routes.values_leaf, List.forall_mem_cons]
    exact ⟨hcompile, ih hrest⟩
  | group name members rest ihMembers ihRest =>
    obtain ⟨-, -, inner, middle, hmembers, later, hrest, rfl⟩ := defineGroup_group_eq_ok_iff.1 hdefine
    rw [Routes.values_group, List.forall_mem_append]
    exact ⟨ihMembers hmembers, ihRest hrest⟩

/-- All patterns of an accepted group compare letters as the settings say. -/
theorem ignoreCase_of_defineGroup {definition : Routes String}
    (hdefine : defineGroup settings scope depth earlier serial definition = .ok (tree, next)) :
    ∀ pattern ∈ tree.values, pattern.ignoreCase = settings.ignoreCase := by
  intro pattern hpattern
  obtain ⟨-, -, hcase⟩ := Pattern.fields_of_compile (compile_template_of_defineGroup hdefine pattern hpattern)
  exact hcase

/-- A definition is accepted as its outermost group is. -/
theorem defineGroup_of_define {definition : Routes String}
    (hdefine : define settings serial definition = .ok (tree, next)) :
    defineGroup settings "" 1 [] serial definition = .ok (tree, next) := by
  rw [define, bind_eq_ok_iff] at hdefine
  obtain ⟨-, -, hgroup⟩ := hdefine
  exact hgroup

/-- No pattern stands twice in an accepted tree, since every one has a number of its own. -/
theorem nodup_values_of_define {definition : Routes String}
    (hdefine : define settings serial definition = .ok (tree, next)) : tree.values.Nodup := by
  obtain ⟨hserials, -⟩ := map_serial_of_defineGroup (defineGroup_of_define hdefine)
  apply List.Nodup.of_map Pattern.serial
  rw [hserials]
  exact List.nodup_range'

/-- The groups of an accepted tree are well named. -/
theorem wellNamed_of_define {definition : Routes String}
    (hdefine : define settings serial definition = .ok (tree, next)) : tree.WellNamed :=
  (wellNamed_of_defineGroup (defineGroup_of_define hdefine)).1

/-- A pattern stands in a tree only once. -/
theorem eq_of_mem_leaves {definition : Routes String} (hdefine : define settings serial definition = .ok (tree, next))
    {pattern : Pattern} {first second : String} (hfirst : (first, pattern) ∈ tree.leaves)
    (hsecond : (second, pattern) ∈ tree.leaves) : first = second := by
  have honce : (tree.leaves.map Prod.snd).Nodup := nodup_values_of_define hdefine
  exact congrArg Prod.fst (List.inj_on_of_nodup_map honce hfirst hsecond rfl)

/-- A pattern that stands in a tree only once is named as it stands there. -/
theorem nameOf?_eq_some_iff {pattern : Pattern} {path : String}
    (honce : ∀ first second, (first, pattern) ∈ tree.leaves → (second, pattern) ∈ tree.leaves → first = second) :
    tree.nameOf? pattern = some path ↔ (path, pattern) ∈ tree.leaves := by
  rw [nameOf?, Option.map_eq_some_iff]
  constructor
  · rintro ⟨⟨found, other⟩, hfind, rfl⟩
    have hsame : other = pattern := by simpa using List.find?_some hfind
    exact hsame ▸ List.mem_of_find?_eq_some hfind
  · intro hleaf
    have hfound : (tree.leaves.find? (·.2 = pattern)).isSome = true := by
      rw [List.find?_isSome]
      exact ⟨_, hleaf, by simp⟩
    obtain ⟨⟨found, other⟩, hfind⟩ := Option.isSome_iff_exists.1 hfound
    have hsame : other = pattern := by simpa using List.find?_some hfind
    subst hsame
    exact ⟨_, hfind, honce _ _ (List.mem_of_find?_eq_some hfind) hleaf⟩

private theorem nameOf?_eq_none_of_notMem {pattern : Pattern} (hpattern : pattern ∉ tree.values) :
    tree.nameOf? pattern = none := by
  rw [nameOf?, Option.map_eq_none_iff, List.find?_eq_none]
  intro leaf hleaf hsame
  have hsame : leaf.2 = pattern := by simpa using hsame
  exact hpattern (hsame ▸ List.mem_map_of_mem hleaf)

private theorem contains_selection_iff {pattern : Pattern} :
    tree.selection.contains pattern = true ↔ ∃ path, (path, pattern) ∈ tree.leaves := by
  rw [selection, Selection.contains, decide_eq_true_iff, Routes.values, List.mem_map]
  constructor
  · rintro ⟨⟨path, _⟩, hleaf, rfl⟩
    exact ⟨path, hleaf⟩
  · rintro ⟨path, hleaf⟩
    exact ⟨_, hleaf, rfl⟩

/-- In an accepted tree no two routes have one name path, looking up a name path finds the route that has it, and a
pattern is named by the name path where it stands, if it stands in the tree at all. In a group the names are what
follows the group's own name path and a colon in the tree, for looking up, for naming and for selecting. -/
theorem names_identify_leaves {definition : Routes String}
    (hdefine : define settings serial definition = .ok (tree, next)) :
    tree.names.Nodup ∧
      (∀ path, (tree.get? path).isSome = true ↔ path ∈ tree.names) ∧
      (∀ path pattern, (path, pattern) ∈ tree.leaves →
        tree.get? path = some pattern ∧ tree.nameOf? pattern = some path) ∧
      (∀ pattern, pattern ∉ tree.values → tree.nameOf? pattern = none) ∧
      ∀ (scope : String) (group : RouteTree), tree.group? scope = some group →
        (∀ path, tree.get? (scope ++ ":" ++ path) = group.get? path) ∧
        (∀ path pattern, group.nameOf? pattern = some path ↔
          tree.nameOf? pattern = some (scope ++ ":" ++ path)) ∧
        ∀ pattern, group.selection.contains pattern = true ↔
          ∃ path, (scope ++ ":" ++ path, pattern) ∈ tree.leaves := by
  have hnamed := wellNamed_of_define hdefine
  have hget : ∀ path pattern, tree.get? path = some pattern ↔ (path, pattern) ∈ tree.leaves :=
    fun path pattern => Routes.get?_eq_some_iff hnamed
  have hname : ∀ path pattern, tree.nameOf? pattern = some path ↔ (path, pattern) ∈ tree.leaves :=
    fun path pattern => nameOf?_eq_some_iff fun first second => eq_of_mem_leaves hdefine
  refine ⟨Routes.nodup_names hnamed, ?_, ?_, fun pattern => nameOf?_eq_none_of_notMem, ?_⟩
  · intro path
    rw [Option.isSome_iff_exists, Routes.names, List.mem_map]
    constructor
    · rintro ⟨pattern, hpattern⟩
      exact ⟨_, (hget path pattern).1 hpattern, rfl⟩
    · rintro ⟨⟨_, pattern⟩, hleaf, rfl⟩
      exact ⟨pattern, (hget _ pattern).2 hleaf⟩
  · intro path pattern hleaf
    exact ⟨(hget path pattern).2 hleaf, (hname path pattern).2 hleaf⟩
  · intro scope group hgroup
    have hleaves : ∀ path pattern, (scope ++ ":" ++ path, pattern) ∈ tree.leaves ↔ (path, pattern) ∈ group.leaves :=
      fun path pattern => Routes.mem_leaves_append_iff hnamed hgroup
    refine ⟨?_, ?_, ?_⟩
    · intro path
      apply Option.ext
      intro pattern
      rw [hget, hleaves, Routes.get?_eq_some_iff (hnamed.group? hgroup)]
    · intro path pattern
      rw [hname, hleaves]
      apply nameOf?_eq_some_iff
      intro first second hfirst hsecond
      -- Both names become names of the tree behind the same name path.
      have hsame := eq_of_mem_leaves hdefine ((hleaves first pattern).2 hfirst) ((hleaves second pattern).2 hsecond)
      simpa using hsame
    · intro pattern
      rw [contains_selection_iff]
      exact exists_congr fun path => (hleaves path pattern).symm

/-- Groups whose names begin alike, and patterns with one template. -/
def siteDefinition : Routes String :=
  .group "a" (.leaf "b" "/x" (.group "c" (.leaf "b" "/x" .nil) .nil)) (.group "ab" (.leaf "b" "/:x" .nil) .nil)

/-- A pattern without parameters. -/
def fixedPattern (serial : Nat) : Pattern where
  serial
  template := "/x"
  layout := ⟨[.literal "x"], false⟩
  ignoreCase := false
  layout_eq := by decide
  nodup_names := by decide
  empty_notMem_names := by decide

/-- A pattern with one parameter. -/
def anyPattern (serial : Nat) : Pattern where
  serial
  template := "/:x"
  layout := ⟨[.param "x"], false⟩
  ignoreCase := false
  layout_eq := by decide
  nodup_names := by decide
  empty_notMem_names := by decide

/-- The tree of the inner group. -/
def innerSite : RouteTree :=
  .leaf "b" (fixedPattern 1) .nil

/-- The tree of the definition. -/
def siteTree : RouteTree :=
  .group "a" (.leaf "b" (fixedPattern 0) (.group "c" innerSite .nil)) (.group "ab" (.leaf "b" (anyPattern 2) .nil) .nil)

/-- Two routes with one template are told apart by their names, and a group whose name begins like that of another one
is none of it. -/
theorem names_identify_leaves_siteTree :
    define {} 0 siteDefinition = .ok (siteTree, 3) ∧ siteTree.names = ["a:b", "a:c:b", "ab:b"] ∧
      siteTree.names.Nodup ∧ siteTree.nameOf? (fixedPattern 1) = some "a:c:b" ∧
      siteTree.group? "a:c" = some innerSite ∧ siteTree.get? ("a:c" ++ ":" ++ "b") = innerSite.get? "b" ∧
      ∀ pattern, innerSite.selection.contains pattern = true ↔
        ∃ path, ("a:c" ++ ":" ++ path, pattern) ∈ siteTree.leaves := by
  have hdefine : define {} 0 siteDefinition = .ok (siteTree, 3) := by decide +kernel
  have hgroup : siteTree.group? "a:c" = some innerSite := by decide +kernel
  have hleaf : ("a:c:b", fixedPattern 1) ∈ siteTree.leaves := by decide +kernel
  obtain ⟨hnodup, -, hleaves, -, hgroups⟩ := names_identify_leaves hdefine
  obtain ⟨hget, -, hselection⟩ := hgroups "a:c" innerSite hgroup
  exact ⟨hdefine, by decide +kernel, hnodup, (hleaves "a:c:b" (fixedPattern 1) hleaf).2, hgroup, hget "b", hselection⟩

end RouteTree

end PageRouter
