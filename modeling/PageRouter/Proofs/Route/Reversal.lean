import PageRouter.Proofs.Route.Naming
import PageRouter.Proofs.Route.Resolution

namespace PageRouter

/-- The front-runners among patterns of which one is given leave it behind or have it among them. -/
theorem frontRunners_of_mem {patterns : List Pattern} {pattern : Pattern} (hmem : pattern ∈ patterns) :
    (pattern ∈ frontRunners patterns ∧ ∀ other ∈ frontRunners patterns, other.specificity = pattern.specificity) ∨
      ∀ other ∈ frontRunners patterns, other.specificity < pattern.specificity := by
  by_cases hfront : pattern ∈ frontRunners patterns
  · left
    refine ⟨hfront, ?_⟩
    intro other hother
    have hleast := specificity_of_mem_frontRunners hother
    rw [specificity_of_mem_frontRunners hfront] at hleast
    exact (Option.some.inj hleast).symm
  · right
    intro other hother
    exact leastSpecificity?_lt_of_notMem (specificity_of_mem_frontRunners hother) hmem hfront

/-- A leader is a front-runner with what the path gives to it. -/
theorem mem_of_mem_leaders {path : String} {patterns : List Pattern} {found : Match}
    (hfound : found ∈ leaders path patterns) :
    found.pattern ∈ frontRunners (contenders path patterns) ∧ found.pattern ∈ patterns ∧
      found.pattern.extract path = some found.params := by
  obtain ⟨hfront, hextract⟩ := mem_of_mem_matchesOf hfound
  exact ⟨hfront, (mem_contenders.1 (mem_frontRunners.1 hfront).1).1, hextract⟩

/-- Whether resolving a path that a pattern matches ends with that pattern, or with patterns that have fewer
parameters. -/
theorem resolve_of_extract {path : String} {patterns : List Pattern} {pattern : Pattern} {params : Params}
    (hmem : pattern ∈ patterns) (hextract : pattern.extract path = some params) :
    (∃ found, resolve patterns path = .ok (some found) ∧
        (found = ⟨pattern, params⟩ ∨ found.pattern ∈ patterns ∧ found.pattern ≠ pattern ∧
          found.pattern.specificity < pattern.specificity)) ∨
      ∃ tied : List Pattern, resolve patterns path = .error (.ambiguous path (tied.map Pattern.template)) ∧
        2 ≤ tied.length ∧ tied.Nodup ∧ (∀ other ∈ tied, other ∈ patterns) ∧
        ((pattern ∈ tied ∧ ∀ other ∈ tied, other.specificity = pattern.specificity) ∨
          ∀ other ∈ tied, other.specificity < pattern.specificity) := by
  have haccepts : pattern.accepts path = true := by rw [Pattern.accepts, hextract, Option.isSome_some]
  have hcontends : pattern ∈ contenders path patterns := mem_contenders.2 ⟨hmem, haccepts⟩
  have hfronts := frontRunners_of_mem hcontends
  rw [resolve_eq_verdict]
  -- There is a leader, since this pattern contends; whether it is the only one decides between a match and a tie.
  cases hleaders : leaders path patterns with
  | nil =>
    rw [leaders_eq_nil_iff] at hleaders
    rw [hleaders] at hcontends
    exact absurd hcontends List.not_mem_nil
  | cons found more =>
    have hfound : found ∈ leaders path patterns := hleaders ▸ List.mem_cons_self
    obtain ⟨hfront, hin, hgives⟩ := mem_of_mem_leaders hfound
    cases more with
    | nil =>
      left
      refine ⟨found, rfl, ?_⟩
      rcases hfronts with ⟨hself, -⟩ | hfewer
      · left
        rw [(leaders_eq_singleton_iff.1 hleaders).1, List.mem_singleton] at hself
        rw [← hself, hextract] at hgives
        rw [Option.some.inj hgives, hself]
      · right
        refine ⟨hin, ?_, hfewer _ hfront⟩
        intro hsame
        have hless := hfewer _ hfront
        rw [hsame] at hless
        exact Nat.lt_irrefl _ hless
    | cons second more =>
      right
      refine ⟨frontRunners (contenders path patterns), ?_, ?_, ?_, ?_, hfronts⟩
      · rw [← map_template_leaders, hleaders]
        rfl
      · rw [← map_pattern_leaders, hleaders, List.length_map, List.length_cons, List.length_cons]
        omega
      · exact (nodup_contenders path patterns).filter _
      · intro other hother
        exact (mem_contenders.1 (mem_frontRunners.1 hother).1).1

namespace RouteTree

variable {settings : Settings} {serial next : Nat} {tree : RouteTree}

/-- A path is built by name from the pattern that has the name. -/
theorem reverse_eq_ok_iff {name path : String} {params : Option Params} {extras : Option Extras} :
    tree.reverse name params extras = .ok path ↔
      ∃ pattern, tree.get? name = some pattern ∧ pattern.build params extras = .ok path := by
  rw [reverse, bind_eq_ok_iff, Routes.find]
  cases tree.get? name with
  | none => simp
  | some pattern => simp

/-- A path that was built for a route of an accepted tree resolves to that route, with the values that were given for
it in the order of its template; or to another route, with fewer parameters; or to a tie of different routes, either
with the route among them and all with as many parameters, or all with fewer. -/
theorem resolve_reverse {definition : Routes String} (hdefine : define settings serial definition = .ok (tree, next))
    {name : String} {pattern : Pattern} (hleaf : (name, pattern) ∈ tree.leaves) {params : Option Params} {path : String}
    (hreverse : tree.reverse name params none = .ok path) :
    (∃ found, tree.resolve path = .ok (some found) ∧
        (found.pattern = pattern ∧ found.params.entries.map (fun entry => (entry.1, some entry.2)) =
            pattern.names.map (fun name => (name, (params.getD .empty).get? name)) ∨
          (∃ other, other ≠ name ∧ (other, found.pattern) ∈ tree.leaves) ∧
            found.pattern.specificity < pattern.specificity)) ∨
      ∃ tied : List Pattern, tree.resolve path = .error (.ambiguous path (tied.map Pattern.template)) ∧
        2 ≤ tied.length ∧ tied.Nodup ∧ (∀ other ∈ tied, other ∈ tree.values) ∧
        ((pattern ∈ tied ∧ ∀ other ∈ tied, other.specificity = pattern.specificity) ∨
          ∀ other ∈ tied, other.specificity < pattern.specificity) := by
  have hmem : pattern ∈ tree.values := List.mem_map.2 ⟨_, hleaf, rfl⟩
  have hget : tree.get? name = some pattern := (Routes.get?_eq_some_iff (wellNamed_of_define hdefine)).2 hleaf
  obtain ⟨built, hbuilt, hbuild⟩ := reverse_eq_ok_iff.1 hreverse
  rw [hget] at hbuilt
  cases hbuilt
  obtain ⟨found, hextract, hentries⟩ := Pattern.extract_of_build hbuild
  rcases resolve_of_extract hmem hextract with ⟨winner, hresolve, hwinner⟩ | htie
  · left
    refine ⟨winner, hresolve, ?_⟩
    rcases hwinner with rfl | ⟨hin, hne, hfewer⟩
    · exact .inl ⟨rfl, hentries⟩
    · obtain ⟨⟨other, _⟩, hother, rfl⟩ := List.mem_map.1 hin
      refine .inr ⟨⟨other, ?_, hother⟩, hfewer⟩
      rintro rfl
      -- One name path leads to one route.
      have hsame := (Routes.get?_eq_some_iff (wellNamed_of_define hdefine)).2 hother
      rw [hget] at hsame
      exact hne (Option.some.inj hsame).symm
  · exact .inr htie

/-- Two routes with fewer parameters tie where the route with a parameter was meant. -/
theorem resolve_reverse_siteTree :
    define {} 0 siteDefinition = .ok (siteTree, 3) ∧ ("ab:b", anyPattern 2) ∈ siteTree.leaves ∧
      siteTree.reverse "ab:b" (some ⟨[("x", "x")]⟩) none = .ok "/x" ∧
      ∃ tied : List Pattern, siteTree.resolve "/x" = .error (.ambiguous "/x" (tied.map Pattern.template)) ∧
        2 ≤ tied.length ∧ tied.Nodup ∧ (∀ other ∈ tied, other ∈ siteTree.values) ∧
        ((anyPattern 2 ∈ tied ∧ ∀ other ∈ tied, other.specificity = (anyPattern 2).specificity) ∨
          ∀ other ∈ tied, other.specificity < (anyPattern 2).specificity) := by
  have hdefine : define {} 0 siteDefinition = .ok (siteTree, 3) := by decide +kernel
  have hleaf : ("ab:b", anyPattern 2) ∈ siteTree.leaves := by decide +kernel
  have hreverse : siteTree.reverse "ab:b" (some ⟨[("x", "x")]⟩) none = .ok "/x" := by decide +kernel
  have htie : siteTree.resolve "/x" = .error (.ambiguous "/x" ["/x", "/x"]) := by decide +kernel
  refine ⟨hdefine, hleaf, hreverse, ?_⟩
  rcases resolve_reverse hdefine hleaf hreverse with ⟨found, hfound, -⟩ | htied
  · rw [htie] at hfound
    cases hfound
  · exact htied

end RouteTree

end PageRouter
