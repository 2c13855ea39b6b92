import Mathlib.Data.List.Induction
import PageRouter.Route.Resolve

namespace PageRouter

/-- The different patterns that match a path, in the order in which they first occur. -/
def contenders (path : String) (patterns : List Pattern) : List Pattern :=
  (patterns.filter (·.accepts path)).eraseDups

/-- The fewest parameters that a pattern of a list has, if there is a pattern. -/
def leastSpecificity? (patterns : List Pattern) : Option Nat :=
  (patterns.map Pattern.specificity).min?

/-- The patterns of a list with the fewest parameters, in order. -/
def frontRunners (patterns : List Pattern) : List Pattern :=
  patterns.filter fun pattern => leastSpecificity? patterns == some pattern.specificity

/-- Results of resolving that are the same but for the order of the tied templates. -/
def SameUpToOrder : Except RouteError (Option Match) → Except RouteError (Option Match) → Prop
  | .ok found, .ok other => found = other
  | .error (.ambiguous path templates), .error (.ambiguous path' templates') =>
    path = path' ∧ templates.Perm templates'
  | _, _ => False

/-- The contenders are the patterns of a list that match the path. -/
theorem mem_contenders {path : String} {patterns : List Pattern} {pattern : Pattern} :
    pattern ∈ contenders path patterns ↔ pattern ∈ patterns ∧ pattern.accepts path = true := by
  rw [contenders, List.mem_eraseDups, List.mem_filter]

/-- A pattern at the end of a list is one more contender if it matches and was not met before. -/
theorem contenders_concat (path : String) (patterns : List Pattern) (pattern : Pattern) :
    contenders path (patterns ++ [pattern]) =
      if pattern.accepts path ∧ pattern ∉ contenders path patterns then
        contenders path patterns ++ [pattern]
      else contenders path patterns := by
  by_cases haccepts : pattern.accepts path = true
  · have hmem : pattern ∈ contenders path patterns ↔ pattern ∈ patterns.filter (·.accepts path) := by
      rw [contenders, List.mem_eraseDups]
    by_cases hseen : pattern ∈ patterns.filter (·.accepts path)
    · rw [if_neg (by simp [hmem, hseen])]
      simp [contenders, List.eraseDups_append, List.removeAll, haccepts, List.mem_filter.1 hseen]
    · rw [if_pos ⟨haccepts, by rw [hmem]; exact hseen⟩]
      have hfresh : pattern ∉ patterns := fun h => hseen (List.mem_filter.2 ⟨h, haccepts⟩)
      simp [contenders, List.eraseDups_append, List.removeAll, haccepts, hfresh, List.eraseDups_cons]
  · rw [if_neg (by simp [haccepts])]
    simp [contenders, haccepts]

/-- No pattern contends twice. -/
theorem nodup_contenders (path : String) (patterns : List Pattern) :
    (contenders path patterns).Nodup := by
  induction patterns using List.reverseRecOn with
  | nil => simp [contenders]
  | append_singleton earlier pattern ih =>
    rw [contenders_concat]
    split
    · next h =>
      rw [List.nodup_append]
      refine ⟨ih, by simp, ?_⟩
      intro a ha b hb
      rw [List.mem_singleton.1 hb]
      rintro rfl
      exact h.2 ha
    · exact ih

/-- The fewest parameters are those of some pattern, and no pattern has fewer. -/
theorem leastSpecificity?_eq_some_iff {patterns : List Pattern} {least : Nat} :
    leastSpecificity? patterns = some least ↔
      (∃ pattern ∈ patterns, pattern.specificity = least) ∧
        ∀ pattern ∈ patterns, least ≤ pattern.specificity := by
  rw [leastSpecificity?, List.min?_eq_some_iff]
  simp

private theorem leastSpecificity?_eq_none_iff {patterns : List Pattern} :
    leastSpecificity? patterns = none ↔ patterns = [] := by
  rw [leastSpecificity?, List.min?_eq_none_iff, List.map_eq_nil_iff]

/-- A front-runner has no more parameters than any pattern of the list. -/
theorem mem_frontRunners {patterns : List Pattern} {pattern : Pattern} :
    pattern ∈ frontRunners patterns ↔
      pattern ∈ patterns ∧ ∀ other ∈ patterns, pattern.specificity ≤ other.specificity := by
  rw [frontRunners, List.mem_filter, beq_iff_eq, leastSpecificity?_eq_some_iff]
  constructor
  · rintro ⟨hmem, -, hle⟩
    exact ⟨hmem, hle⟩
  · rintro ⟨hmem, hle⟩
    exact ⟨hmem, ⟨pattern, hmem, rfl⟩, hle⟩

/-- Among patterns, some are in front. -/
theorem frontRunners_ne_nil {patterns : List Pattern} (hne : patterns ≠ []) :
    frontRunners patterns ≠ [] := by
  cases hleast : leastSpecificity? patterns with
  | none => exact absurd (leastSpecificity?_eq_none_iff.1 hleast) hne
  | some least =>
    obtain ⟨⟨pattern, hmem, hspec⟩, hle⟩ := leastSpecificity?_eq_some_iff.1 hleast
    exact List.ne_nil_of_mem (mem_frontRunners.2 ⟨hmem, by rw [hspec]; exact hle⟩)

/-- All front-runners have the same number of parameters. -/
theorem specificity_of_mem_frontRunners {patterns : List Pattern} {pattern : Pattern}
    (hmem : pattern ∈ frontRunners patterns) :
    leastSpecificity? patterns = some pattern.specificity := by
  rw [frontRunners, List.mem_filter, beq_iff_eq] at hmem
  exact hmem.2

/-- A pattern at the end of a list either ousts the front-runners, joins them or changes nothing, as it has
fewer, as many or more parameters. -/
theorem frontRunners_concat (patterns : List Pattern) (pattern : Pattern) {least : Nat}
    (hleast : leastSpecificity? patterns = some least) :
    frontRunners (patterns ++ [pattern]) =
      if pattern.specificity < least then [pattern]
      else if pattern.specificity = least then frontRunners patterns ++ [pattern]
      else frontRunners patterns := by
  have hnew : leastSpecificity? (patterns ++ [pattern]) = some (min least pattern.specificity) := by
    obtain ⟨⟨first, hfirst, hspec⟩, hle⟩ := leastSpecificity?_eq_some_iff.1 hleast
    refine leastSpecificity?_eq_some_iff.2 ⟨?_, ?_⟩
    · by_cases hlt : pattern.specificity < least
      · exact ⟨pattern, by simp, by omega⟩
      · exact ⟨first, by simp [hfirst], by omega⟩
    · intro other hother
      rcases List.mem_append.1 hother with hold | hlast
      · have := hle other hold
        omega
      · rw [List.mem_singleton.1 hlast]
        omega
  have hold : frontRunners patterns = patterns.filter fun other => least == other.specificity := by
    simp [frontRunners, hleast]
  rw [frontRunners, hnew, List.filter_append]
  by_cases hlt : pattern.specificity < least
  · -- Nobody of before has as few parameters as the new pattern.
    have hmin : min least pattern.specificity = pattern.specificity := by omega
    have hnone : (patterns.filter fun other => some pattern.specificity == some other.specificity) = [] := by
      rw [List.filter_eq_nil_iff]
      intro other hother
      have := (leastSpecificity?_eq_some_iff.1 hleast).2 other hother
      simp only [beq_iff_eq, Option.some.injEq]
      omega
    rw [hmin, hnone, if_pos hlt]
    simp
  · have hmin : min least pattern.specificity = least := by omega
    rw [hmin, if_neg hlt, hold]
    by_cases heq : pattern.specificity = least
    · simp [heq]
    · simp [heq, Ne.symm heq]

/-- The match of each pattern that has one. -/
def matchesOf (path : String) (patterns : List Pattern) : List Match :=
  patterns.filterMap fun pattern => (pattern.extract path).map (Match.mk pattern)

private theorem map_pattern_matchesOf {path : String} {patterns : List Pattern}
    (haccepts : ∀ pattern ∈ patterns, pattern.accepts path = true) :
    (matchesOf path patterns).map Match.pattern = patterns := by
  induction patterns with
  | nil => rfl
  | cons pattern more ih =>
    obtain ⟨params, hextract⟩ := Option.isSome_iff_exists.1 (haccepts pattern (by simp))
    have hmore := ih fun other hother => haccepts other (by simp [hother])
    simp only [matchesOf, List.filterMap_cons, hextract, Option.map_some, List.map_cons] at hmore ⊢
    rw [hmore]

/-- A match is that of a pattern of the list, with what the path gives to it. -/
theorem mem_of_mem_matchesOf {path : String} {patterns : List Pattern} {found : Match}
    (hfound : found ∈ matchesOf path patterns) :
    found.pattern ∈ patterns ∧ found.pattern.extract path = some found.params := by
  obtain ⟨pattern, hmem, hmatch⟩ := List.mem_filterMap.1 hfound
  obtain ⟨params, hextract, rfl⟩ := Option.map_eq_some_iff.1 hmatch
  exact ⟨hmem, hextract⟩

/-- The front-runners among the contenders, each with what the path gave it. The loop over the patterns keeps exactly
these, so the order of the patterns and their repetitions make no difference beyond the order of the templates in a
tie. -/
def leaders (path : String) (patterns : List Pattern) : List Match :=
  matchesOf path (frontRunners (contenders path patterns))

/-- Every front-runner leads, once and in its place. -/
theorem map_pattern_leaders (path : String) (patterns : List Pattern) :
    (leaders path patterns).map Match.pattern = frontRunners (contenders path patterns) :=
  map_pattern_matchesOf fun _ hmem => (mem_contenders.1 (mem_frontRunners.1 hmem).1).2

private theorem any_leaders {path : String} {patterns : List Pattern} {pattern : Pattern} :
    (leaders path patterns).any (·.pattern = pattern) = true ↔
      pattern ∈ frontRunners (contenders path patterns) := by
  rw [← map_pattern_leaders, List.mem_map, List.any_eq_true]
  simp

private theorem considerPattern_of_contains {path : String} {kept : List Match} {pattern : Pattern}
    (hkept : kept.any (·.pattern = pattern) = true) : considerPattern path kept pattern = kept := by
  unfold considerPattern
  exact if_pos hkept

private theorem considerPattern_of_extract_eq_none {path : String} (kept : List Match) {pattern : Pattern}
    (hextract : pattern.extract path = none) : considerPattern path kept pattern = kept := by
  unfold considerPattern
  rw [hextract]
  exact ite_self kept

/-- A pattern that matches ousts the matches kept so far, joins them or changes nothing. -/
theorem considerPattern_of_extract_eq_some {path : String} {leader : Match} {more : List Match} {pattern : Pattern}
    {params : Params} (hnew : ¬(leader :: more).any (·.pattern = pattern) = true)
    (hextract : pattern.extract path = some params) :
    considerPattern path (leader :: more) pattern =
      if pattern.specificity < leader.pattern.specificity then [⟨pattern, params⟩]
      else if pattern.specificity = leader.pattern.specificity then leader :: more ++ [⟨pattern, params⟩]
      else leader :: more := by
  unfold considerPattern
  rw [if_neg hnew, hextract]

private theorem contenders_concat_of_mem {path : String} {patterns : List Pattern} {pattern : Pattern}
    (hseen : pattern ∈ contenders path patterns) :
    contenders path (patterns ++ [pattern]) = contenders path patterns := by
  rw [contenders_concat, if_neg fun h => h.2 hseen]

/-- Leaders there are if anything matches, all of them with the fewest parameters. -/
theorem exists_leaders_eq_cons {path : String} {patterns : List Pattern} {least : Nat}
    (hleast : leastSpecificity? (contenders path patterns) = some least) :
    ∃ leader more, leaders path patterns = leader :: more ∧ leader.pattern.specificity = least := by
  have hne : contenders path patterns ≠ [] := by
    intro hnil
    rw [leastSpecificity?_eq_none_iff.2 hnil] at hleast
    cases hleast
  obtain ⟨leader, more, hleaders⟩ : ∃ leader more, leaders path patterns = leader :: more := by
    refine List.exists_cons_of_ne_nil fun hnil => frontRunners_ne_nil hne ?_
    rw [← map_pattern_leaders, hnil, List.map_nil]
  have hmem : leader.pattern ∈ frontRunners (contenders path patterns) := by
    rw [← map_pattern_leaders, hleaders]
    exact List.mem_cons_self
  have hsame := specificity_of_mem_frontRunners hmem
  rw [hleast] at hsame
  exact ⟨leader, more, hleaders, (Option.some.inj hsame).symm⟩

/-- A contender that is no front-runner has more parameters than those in front. -/
theorem leastSpecificity?_lt_of_notMem {patterns : List Pattern} {pattern : Pattern} {least : Nat}
    (hleast : leastSpecificity? patterns = some least) (hmem : pattern ∈ patterns)
    (hbehind : pattern ∉ frontRunners patterns) : least < pattern.specificity := by
  obtain ⟨-, hle⟩ := leastSpecificity?_eq_some_iff.1 hleast
  refine Nat.lt_of_not_le fun hnot => hbehind (mem_frontRunners.2 ⟨hmem, fun other hother => ?_⟩)
  exact Nat.le_trans hnot (hle other hother)

/-- A pattern that is considered once more among the leaders of a list does what it does at the end of the
list. If it is a contender without being a front-runner it may be met again at any time, to no effect. -/
theorem considerPattern_leaders (path : String) (patterns : List Pattern) (pattern : Pattern) :
    considerPattern path (leaders path patterns) pattern = leaders path (patterns ++ [pattern]) := by
  by_cases hfront : pattern ∈ frontRunners (contenders path patterns)
  · rw [considerPattern_of_contains (any_leaders.2 hfront), leaders, leaders,
      contenders_concat_of_mem (mem_frontRunners.1 hfront).1]
  · have hnew : ¬(leaders path patterns).any (·.pattern = pattern) = true :=
      fun hany => hfront (any_leaders.1 hany)
    cases hextract : pattern.extract path with
    | none =>
      have haccepts : ¬pattern.accepts path = true := by simp [Pattern.accepts, hextract]
      rw [considerPattern_of_extract_eq_none _ hextract, leaders, leaders, contenders_concat,
        if_neg (by simp [haccepts])]
    | some params =>
      have haccepts : pattern.accepts path = true := by simp [Pattern.accepts, hextract]
      cases hleast : leastSpecificity? (contenders path patterns) with
      | none =>
        have hnone := leastSpecificity?_eq_none_iff.1 hleast
        have hleaders : leaders path patterns = [] := by simp [leaders, hnone, frontRunners, matchesOf]
        rw [hleaders, leaders, contenders_concat, if_pos ⟨haccepts, by simp [hnone]⟩, hnone]
        simp [considerPattern, frontRunners, leastSpecificity?, matchesOf, hextract]
      | some least =>
        obtain ⟨leader, more, hleaders, hspec⟩ := exists_leaders_eq_cons hleast
        rw [hleaders] at hnew ⊢
        rw [considerPattern_of_extract_eq_some hnew hextract, hspec, ← hleaders]
        by_cases hseen : pattern ∈ contenders path patterns
        · -- It lost its place to a pattern with fewer parameters, and loses again.
          have hmore := leastSpecificity?_lt_of_notMem hleast hseen hfront
          rw [if_neg (by omega), if_neg (by omega), leaders, leaders, contenders_concat_of_mem hseen]
        · have hconcat : contenders path (patterns ++ [pattern]) = contenders path patterns ++ [pattern] := by
            rw [contenders_concat, if_pos ⟨haccepts, hseen⟩]
          rw [leaders, leaders, hconcat, frontRunners_concat _ _ hleast]
          split
          · simp [matchesOf, hextract]
          · split
            · simp [matchesOf, hextract]
            · rfl

/-- The loop over the patterns keeps the leaders. -/
theorem foldl_considerPattern (path : String) (patterns : List Pattern) :
    patterns.foldl (considerPattern path) [] = leaders path patterns := by
  induction patterns using List.reverseRecOn with
  | nil => simp [leaders, contenders, frontRunners, matchesOf]
  | append_singleton earlier pattern ih =>
    rw [List.foldl_append, List.foldl_cons, List.foldl_nil, ih, considerPattern_leaders]

/-- What is answered for the matches that the loop has kept. -/
def verdict (path : String) : List Match → Except RouteError (Option Match)
  | [] => .ok none
  | [found] => .ok (some found)
  | tied => .error (.ambiguous path (tied.map Match.template))

/-- A path is resolved by what is answered for the leaders. -/
theorem resolve_eq_verdict (path : String) (patterns : List Pattern) :
    resolve patterns path = verdict path (leaders path patterns) :=
  congrArg (verdict path) (foldl_considerPattern path patterns)

/-- No match is the answer if no match was kept. -/
theorem verdict_eq_ok_none_iff {path : String} {kept : List Match} :
    verdict path kept = .ok none ↔ kept = [] := by
  match kept with
  | [] => simp [verdict]
  | [found] => simp [verdict]
  | first :: second :: more => simp [verdict]

/-- A match is the answer if it alone was kept. -/
theorem verdict_eq_ok_some_iff {path : String} {kept : List Match} {found : Match} :
    verdict path kept = .ok (some found) ↔ kept = [found] := by
  match kept with
  | [] => simp [verdict]
  | [other] => simp [verdict]
  | first :: second :: more => simp [verdict]

/-- A tie is the answer if two matches or more were kept. -/
theorem verdict_eq_error_iff {path : String} {kept : List Match} {error : RouteError} :
    verdict path kept = .error error ↔
      2 ≤ kept.length ∧ error = .ambiguous path (kept.map Match.template) := by
  match kept with
  | [] => simp [verdict]
  | [found] => simp [verdict]
  | first :: second :: more => simp [verdict, eq_comm]

private theorem sameUpToOrder_verdict (path : String) {kept others : List Match} (hperm : others.Perm kept) :
    SameUpToOrder (verdict path others) (verdict path kept) := by
  have hlength := hperm.length_eq
  match kept, others with
  | [], [] => exact rfl
  | [found], [other] =>
    rw [List.singleton_perm_singleton.1 hperm]
    exact rfl
  | first :: second :: more, first' :: second' :: more' => exact ⟨rfl, hperm.map _⟩

/-- There are no leaders exactly if no pattern matches. -/
theorem leaders_eq_nil_iff {path : String} {patterns : List Pattern} :
    leaders path patterns = [] ↔ contenders path patterns = [] := by
  rw [← List.map_eq_nil_iff (f := Match.pattern), map_pattern_leaders]
  constructor
  · intro hnil
    by_contra hne
    exact frontRunners_ne_nil hne hnil
  · intro hnil
    simp [hnil, frontRunners]

/-- One leader is the only front-runner, with what the path gives to it. -/
theorem leaders_eq_singleton_iff {path : String} {patterns : List Pattern} {found : Match} :
    leaders path patterns = [found] ↔
      frontRunners (contenders path patterns) = [found.pattern] ∧
        found.pattern.extract path = some found.params := by
  constructor
  · intro hleaders
    have hmem : found ∈ leaders path patterns := by simp [hleaders]
    exact ⟨by rw [← map_pattern_leaders, hleaders]; rfl, (mem_of_mem_matchesOf hmem).2⟩
  · rintro ⟨hfront, hextract⟩
    simp [leaders, hfront, matchesOf, hextract]

/-- The templates of a tie are those of the front-runners, in order. -/
theorem map_template_leaders (path : String) (patterns : List Pattern) :
    (leaders path patterns).map Match.template =
      (frontRunners (contenders path patterns)).map Pattern.template := by
  rw [← map_pattern_leaders, List.map_map]
  rfl

private theorem leastSpecificity?_perm {patterns others : List Pattern} (hperm : patterns.Perm others) :
    leastSpecificity? patterns = leastSpecificity? others := by
  apply Option.ext
  intro least
  simp only [leastSpecificity?_eq_some_iff, hperm.mem_iff]

/-- Lists of the same patterns have the same leaders, but for their order. -/
theorem leaders_perm (path : String) {patterns others : List Pattern}
    (hsame : ∀ pattern, pattern ∈ others ↔ pattern ∈ patterns) :
    (leaders path others).Perm (leaders path patterns) := by
  have hcontenders : (contenders path others).Perm (contenders path patterns) := by
    rw [List.perm_ext_iff_of_nodup (nodup_contenders path others) (nodup_contenders path patterns)]
    intro pattern
    simp only [mem_contenders, hsame]
  unfold leaders matchesOf frontRunners
  rw [leastSpecificity?_perm hcontenders]
  exact (hcontenders.filter _).filterMap _

/-- A path resolves to nothing if no pattern matches it, to the only matching pattern with the fewest
parameters if there is only one, and otherwise to a tie of all of these, each named once, in the order in
which they first occur. Only the set of the patterns matters, but for the order in which a tie names them. -/
theorem resolve_unique_least (path : String) (patterns : List Pattern) :
    (resolve patterns path = .ok none ↔ contenders path patterns = []) ∧
      (∀ found, resolve patterns path = .ok (some found) ↔
        frontRunners (contenders path patterns) = [found.pattern] ∧
          found.pattern.extract path = some found.params) ∧
      (∀ error, resolve patterns path = .error error ↔
        2 ≤ (frontRunners (contenders path patterns)).length ∧
          error = .ambiguous path ((frontRunners (contenders path patterns)).map Pattern.template)) ∧
      ∀ others, (∀ pattern, pattern ∈ others ↔ pattern ∈ patterns) →
        SameUpToOrder (resolve others path) (resolve patterns path) := by
  have hlength : (frontRunners (contenders path patterns)).length = (leaders path patterns).length := by
    rw [← map_pattern_leaders, List.length_map]
  refine ⟨?_, ?_, ?_, ?_⟩
  · rw [← leaders_eq_nil_iff, resolve_eq_verdict]
    exact verdict_eq_ok_none_iff
  · intro found
    rw [← leaders_eq_singleton_iff, resolve_eq_verdict]
    exact verdict_eq_ok_some_iff
  · intro error
    rw [hlength, ← map_template_leaders, resolve_eq_verdict]
    exact verdict_eq_error_iff
  · intro others hsame
    rw [resolve_eq_verdict, resolve_eq_verdict]
    exact sameUpToOrder_verdict path (leaders_perm path hsame)

end PageRouter
