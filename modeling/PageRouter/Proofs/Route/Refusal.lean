import PageRouter.Proofs.Route.Inserted
import PageRouter.Proofs.Route.Recapture

namespace PageRouter

namespace Params

/-- Where no name stands twice, a name has the value that stands next to it, and no other. -/
theorem get?_eq_some_iff {params : Params} (hnodup : params.names.Nodup) {name value : String} :
    params.get? name = some value ↔ (name, value) ∈ params.entries := by
  constructor
  · intro hget
    have hname : name ∈ params.names := contains_eq_true_iff.1 (by rw [contains, hget, Option.isSome_some])
    obtain ⟨⟨key, held⟩, hentry, rfl⟩ := List.mem_map.1 hname
    obtain rfl : held = value := Option.some.inj ((get?_of_mem hnodup hentry).symm.trans hget)
    exact hentry
  · exact get?_of_mem hnodup

/-- Where no name stands twice, the order of the entries is not seen in what a name has. -/
theorem get?_of_perm {params reordered : Params} (hnodup : params.names.Nodup)
    (hperm : reordered.entries.Perm params.entries) (name : String) : reordered.get? name = params.get? name := by
  have hreordered : reordered.names.Nodup := (hperm.map Prod.fst).nodup_iff.2 hnodup
  refine Option.ext fun value => ?_
  rw [get?_eq_some_iff hreordered, get?_eq_some_iff hnodup, hperm.mem_iff]

private theorem exists_get?_of_mem {params : Params} {name : String} (hname : name ∈ params.names) :
    ∃ value, params.get? name = some value :=
  Option.isSome_iff_exists.1 (contains_eq_true_iff.2 hname)

end Params

/-- Results of building that are the same but for the order of the names that are not declared. -/
def SameUpToUnknown : Except RouteError String → Except RouteError String → Prop
  | .error (.unknownParams template names), .error (.unknownParams template' names') =>
    template = template' ∧ names.Perm names'
  | result, other => result = other

private theorem SameUpToUnknown.refl (result : Except RouteError String) : SameUpToUnknown result result := by
  rcases result with error | path
  · cases error with
    | unknownParams template names => exact ⟨rfl, .refl names⟩
    | _ => exact rfl
  · exact rfl

namespace Pattern

variable {pattern : Pattern} {params reordered : Params}

/-- The names without a value are the declared ones that were not supplied. -/
theorem missing_eq (pattern : Pattern) (params : Params) :
    pattern.missing params = pattern.names.filter (· ∉ params.names) := by
  refine List.filter_congr fun name _ => ?_
  rw [Bool.eq_iff_iff, Bool.not_eq_true', ← Bool.not_eq_true, Params.contains_eq_true_iff, decide_eq_true_iff]

/-- The names that are not declared are the supplied ones that the template does not have. -/
theorem unknown_eq (pattern : Pattern) (params : Params) :
    pattern.unknown params = params.names.filter (· ∉ pattern.names) := by
  refine List.filter_congr fun name _ => ?_
  simp

private theorem missing_eq_nil_iff : pattern.missing params = [] ↔ pattern.names ⊆ params.names := by
  rw [missing_eq, List.filter_eq_nil_iff]
  simp [List.subset_def]

private theorem unknown_eq_nil_iff : pattern.unknown params = [] ↔ params.names ⊆ pattern.names := by
  rw [unknown_eq, List.filter_eq_nil_iff]
  simp [List.subset_def]

private theorem fillAll_congr (template : String) (segments : List Segment)
    (hget : ∀ name, reordered.get? name = params.get? name) :
    fillAll template reordered segments = fillAll template params segments := by
  induction segments with
  | nil => rfl
  | cons segment more ih =>
    have hfill : fill template reordered segment = fill template params segment := by
      cases segment with
      | literal text => rfl
      | param name => rw [fill, fill, hget]
    rw [fillAll, fillAll, hfill, ih]

/-- Building goes by names and values, so another order of the entries tells the undeclared names in another order and
changes nothing else. -/
theorem build_of_perm (hnodup : params.names.Nodup) (hperm : reordered.entries.Perm params.entries)
    (extras : Option Extras) :
    SameUpToUnknown (pattern.build (some reordered) extras) (pattern.build (some params) extras) := by
  have hnames : reordered.names.Perm params.names := hperm.map Prod.fst
  have hmissing : pattern.missing reordered = pattern.missing params := by
    rw [missing_eq, missing_eq]
    exact List.filter_congr fun name _ => by simp [hnames.mem_iff]
  have hunknown : (pattern.unknown reordered).Perm (pattern.unknown params) := hnames.filter _
  have hfill := fillAll_congr pattern.template pattern.segments (Params.get?_of_perm hnodup hperm)
  unfold build suppliedPathname buildPathname
  simp only [hmissing, hfill]
  by_cases habsent : pattern.missing params = []
  · by_cases hsurplus : pattern.unknown params = []
    · have hsurplus' : pattern.unknown reordered = [] := List.perm_nil.1 (hsurplus ▸ hunknown)
      simp only [habsent, hsurplus, hsurplus']
      exact .refl _
    · have hsurplus' : pattern.unknown reordered ≠ [] := fun hnil =>
        hsurplus (List.perm_nil.1 (hnil ▸ hunknown.symm))
      simp only [habsent, hsurplus, hsurplus', ne_eq, not_true_eq_false, not_false_eq_true, if_false, if_true]
      exact ⟨rfl, hunknown⟩
  · simp only [habsent, ne_eq, not_false_eq_true, if_true]
    exact .refl _

private theorem exists_fitting_iff {name : String} (hname : name ∈ params.names) :
    (∃ value, params.get? name = some value ∧ isSubstitutable value = true) ↔
      isSubstitutable ((params.get? name).getD "") = true := by
  obtain ⟨value, hvalue⟩ := Params.exists_get?_of_mem hname
  simp [hvalue]

/-- A path is its pathname with the query and the fragment after it. -/
theorem build_eq_ok_iff {extras : Option Extras} {path : String} :
    pattern.build (some params) extras = .ok path ↔ ∃ pathname, pattern.buildPathname params = .ok pathname ∧
      path = pathname ++ (extras.getD {}).searchText ++ (extras.getD {}).hashText := by
  rw [build, suppliedPathname, bind_eq_ok_iff]
  simp [pure, Except.pure, eq_comm (a := path)]

/-- A query and a fragment never keep a path from being built. -/
theorem build_eq_error_iff_buildPathname {extras : Option Extras} {error : RouteError} :
    pattern.build (some params) extras = .error error ↔ pattern.buildPathname params = .error error := by
  rw [build, suppliedPathname, bind_eq_error_iff]
  simp [pure, Except.pure]

private theorem mem_names_iff {name : String} : name ∈ pattern.names ↔ Segment.param name ∈ pattern.segments := by
  rw [names, Layout.names, List.mem_filterMap]
  constructor
  · rintro ⟨segment, hsegment, hname⟩
    cases segment with
    | literal text => cases hname
    | param other =>
      cases hname
      exact hsegment
  · exact fun hsegment => ⟨_, hsegment, rfl⟩

/-- A path is built exactly from values for the declared names and no others that can all stand for their parameters. -/
theorem exists_build_iff {extras : Option Extras} :
    (∃ path, pattern.build (some params) extras = .ok path) ↔
      (∀ name, name ∈ params.names ↔ name ∈ pattern.names) ∧
        ∀ name ∈ pattern.names, ∃ value, params.get? name = some value ∧ isSubstitutable value = true := by
  simp only [build_eq_ok_iff, buildPathname_eq_ok_iff, missing_eq_nil_iff, unknown_eq_nil_iff, ← mem_names_iff]
  constructor
  · rintro ⟨path, pathname, ⟨hdeclared, hsupplied, hvalues, -⟩, -⟩
    exact ⟨fun name => ⟨fun hname => hsupplied hname, fun hname => hdeclared hname⟩,
      fun name hname => (exists_fitting_iff (hdeclared hname)).2 (hvalues name hname)⟩
  · rintro ⟨hsame, hvalues⟩
    exact ⟨_, _, ⟨fun name => (hsame name).2, fun name => (hsame name).1,
      fun name hname => (exists_fitting_iff ((hsame name).2 hname)).1 (hvalues name hname), rfl⟩, rfl⟩

/-- Building fails at the names that have no value, then at those that are not declared, then at the first value that
cannot stand for its parameter. -/
theorem build_eq_error_cases {extras : Option Extras} {error : RouteError} :
    pattern.build (some params) extras = .error error ↔
      (pattern.missing params ≠ [] ∧ error = .missingParams pattern.template (pattern.missing params)) ∨
      (pattern.missing params = [] ∧ pattern.unknown params ≠ [] ∧
        error = .unknownParams pattern.template (pattern.unknown params)) ∨
      (pattern.missing params = [] ∧ pattern.unknown params = [] ∧
        ∃ before name after value, pattern.names = before ++ name :: after ∧
          (∀ other ∈ before, ∃ value, params.get? other = some value ∧ isSubstitutable value = true) ∧
          params.get? name = some value ∧ isSubstitutable value = false ∧
          error = .invalidParam pattern.template name value) := by
  rw [build_eq_error_iff_buildPathname, buildPathname_eq_error_iff]
  refine or_congr_right (or_congr_right (and_congr_right fun hmissing => and_congr_right fun _ => ?_))
  have hdeclared : pattern.names ⊆ params.names := missing_eq_nil_iff.1 hmissing
  simp only [List.find?_eq_some_iff_append, Bool.not_eq_true', Bool.not_eq_false']
  constructor
  · rintro ⟨name, ⟨hbad, before, after, hnames, hgood⟩, rfl⟩
    have hname : name ∈ pattern.names := hnames ▸ List.mem_append_right _ List.mem_cons_self
    obtain ⟨value, hvalue⟩ := Params.exists_get?_of_mem (hdeclared hname)
    rw [hvalue, Option.getD_some] at hbad ⊢
    refine ⟨before, name, after, value, hnames, fun other hother => ?_, hvalue, hbad, rfl⟩
    have hmem : other ∈ params.names := hdeclared (hnames ▸ List.mem_append_left _ hother)
    exact (exists_fitting_iff hmem).2 (by simpa using hgood other hother)
  · rintro ⟨before, name, after, value, hnames, hgood, hvalue, hbad, rfl⟩
    refine ⟨name, ⟨by rw [hvalue, Option.getD_some, hbad], before, after, hnames, fun other hother => ?_⟩, by
      rw [hvalue, Option.getD_some]⟩
    have hmem : other ∈ params.names := hdeclared (hnames ▸ List.mem_append_left _ hother)
    simpa using (exists_fitting_iff hmem).1 (hgood other hother)

/-- A path is built exactly if the supplied names are the declared ones and all values can stand for their parameters,
where no parameters at all are as good as empty ones. Otherwise all names without a value are the error, in the order
of the template; if there are none, all names that are not declared, in the order in which they were supplied; and if
there are none of these either, the first parameter in the template whose value cannot stand for it. No query and no
fragment are an error. Supplying the same parameters in another order changes nothing but the order of the names that
are not declared. -/
theorem build_fails_exactly (pattern : Pattern) (extras : Option Extras) :
    pattern.build none extras = pattern.build (some .empty) extras ∧
      (∀ params, (∃ path, pattern.build (some params) extras = .ok path) ↔
        (∀ name, name ∈ params.names ↔ name ∈ pattern.names) ∧
          ∀ name ∈ pattern.names, ∃ value, params.get? name = some value ∧ isSubstitutable value = true) ∧
      (∀ params error, pattern.build (some params) extras = .error error ↔
        (pattern.names.filter (· ∉ params.names) ≠ [] ∧
          error = .missingParams pattern.template (pattern.names.filter (· ∉ params.names))) ∨
        (pattern.names.filter (· ∉ params.names) = [] ∧ params.names.filter (· ∉ pattern.names) ≠ [] ∧
          error = .unknownParams pattern.template (params.names.filter (· ∉ pattern.names))) ∨
        (pattern.names.filter (· ∉ params.names) = [] ∧ params.names.filter (· ∉ pattern.names) = [] ∧
          ∃ before name after value, pattern.names = before ++ name :: after ∧
            (∀ other ∈ before, ∃ value, params.get? other = some value ∧ isSubstitutable value = true) ∧
            params.get? name = some value ∧ isSubstitutable value = false ∧
            error = .invalidParam pattern.template name value)) ∧
      ∀ pairs reordered, reordered.entries.Perm (Params.ofList pairs).entries →
        SameUpToUnknown (pattern.build (some reordered) extras) (pattern.build (some (.ofList pairs)) extras) := by
  refine ⟨build_eq_build_some pattern none extras, fun params => exists_build_iff, fun params error => ?_,
    fun pairs reordered hperm => ?_⟩
  · rw [← missing_eq, ← unknown_eq]
    exact build_eq_error_cases
  · exact build_of_perm (Params.nodup_names_ofList pairs) hperm extras

/-- A missing name comes before an undeclared one, undeclared ones come in the order in which they were supplied, and
a value that cannot stand for its parameter comes last. -/
theorem build_fails_exactly_overviewPattern :
    overviewPattern.build (some ⟨[("z", ""), ("a", "..")]⟩) none =
        .error (.missingParams "/Über//:b/:a/" ["b"]) ∧
      overviewPattern.build (some ⟨[("z", ""), ("a", ".."), ("y", "?"), ("b", "#")]⟩) none =
        .error (.unknownParams "/Über//:b/:a/" ["z", "y"]) ∧
      overviewPattern.build (some ⟨[("a", ".."), ("b", "#")]⟩) none =
        .error (.invalidParam "/Über//:b/:a/" "b" "#") := by
  obtain ⟨-, -, hfails, -⟩ := build_fails_exactly overviewPattern none
  refine ⟨(hfails _ _).2 (.inl ⟨by decide, by decide⟩),
    (hfails _ _).2 (.inr (.inl ⟨by decide, by decide, by decide⟩)),
    (hfails _ _).2 (.inr (.inr ⟨by decide, by decide, [], "b", ["a"], "#", by decide, nofun, by decide, by decide, rfl⟩))⟩

end Pattern

end PageRouter
