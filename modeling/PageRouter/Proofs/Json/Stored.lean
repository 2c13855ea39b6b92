import PageRouter.Proofs.Json.Records
import PageRouter.Session.Stored

namespace PageRouter

open JsonValue

namespace JsonValue

/-- Each key of a record has the value that was put under it. -/
theorem record?_ofRecord (fields : List (String × JsonValue)) (hnodup : (fields.map Prod.fst).Nodup) :
    (ofRecord fields).record? (fields.map Prod.fst) = some (fields.map fun field => some field.2) := by
  have hfields : ofRecord fields = object (fields.map fun field => (some field.1, field.2)) := rfl
  have hproper : (fields.map fun field => (some field.1, field.2)).any (·.1.isNone) = false := by
    rw [List.any_map, List.any_eq_false]
    exact fun _ _ => Bool.false_ne_true
  rw [hfields, record?, hproper, if_neg Bool.false_ne_true]
  refine mapM_eq_some_iff.2 (List.forall₂_map_left_iff.2 (List.forall₂_map_right_iff.2 (List.forall₂_same.2 ?_)))
  rintro ⟨key, value⟩ hfield
  obtain ⟨before, after, rfl⟩ := List.append_of_mem hfield
  have hothers : ∀ other ∈ before ++ after, other.1 ≠ key := by
    intro other hother hsame
    rw [(List.perm_middle.map Prod.fst).nodup_iff, List.map_cons, List.nodup_cons] at hnodup
    have hkey : other.1 ∈ (before ++ after).map Prod.fst := List.mem_map_of_mem hother
    exact hnodup.1 (hsame ▸ hkey)
  rw [single?_perm (List.perm_middle.map _) key, List.map_cons]
  refine single?_cons (List.forall_mem_map.2 fun other hother => ?_)
  simpa using hothers other hother

end JsonValue

section RoundTrips

private theorem isValue_ofPair (pair : String × String) : IsValue (ofPair pair).chars (ofPair pair) := by
  refine isValue_array ?_
  simp only [List.forall_mem_cons]
  exact ⟨isValue_text pair.1, isValue_text pair.2, nofun⟩

/-- Parameters are written in the grammar. -/
theorem Params.isValue_toJson (params : Params) : IsValue params.toJson.chars params.toJson := by
  refine isValue_ofRecord (List.forall_mem_singleton.2 (isValue_array ?_))
  exact List.forall_mem_map.2 fun pair _ => isValue_ofPair pair

/-- A location is written in the grammar. -/
theorem Location.isValue_toJson (location : Location) : IsValue location.toJson.chars location.toJson := by
  refine isValue_ofRecord ?_
  simp only [List.forall_mem_cons]
  exact ⟨isValue_text _, isValue_text _, isValue_text _, isValue_text _, isValue_text _, nofun⟩

/-- An entry state is written in the grammar. -/
theorem EntryState.isValue_toJson (state : EntryState) : IsValue state.toJson.chars state.toJson := by
  refine isValue_ofRecord ?_
  simp only [List.forall_mem_cons]
  refine ⟨isValue_text _, ?_, state.params.isValue_toJson, nofun⟩
  cases state.routeName with
  | none => exact isValue_null
  | some name => exact isValue_text name

private theorem pair?_ofPair (pair : String × String) : pair? (ofPair pair) = some pair := rfl

/-- Parameters are read from the value that they are written as. -/
theorem Params.ofJson?_toJson (params : Params) : ofJson? params.toJson = some params := by
  have hrecord := record?_ofRecord [("entries", .array (params.entries.map ofPair))]
    (show ["entries"].Nodup by decide)
  have hentries : list? pair? (.array (params.entries.map ofPair)) = some params.entries :=
    mapM_eq_some_map fun pair _ => pair?_ofPair pair
  refine (congrArg (· >>= _) hrecord).trans ?_
  exact congrArg (· >>= _) hentries

/-- A location is read from the value that it is written as. -/
theorem Location.ofJson?_toJson (location : Location) : ofJson? location.toJson = some location := by
  have hrecord := record?_ofRecord [("origin", .text location.origin), ("href", .text location.href),
    ("pathname", .text location.pathname), ("search", .text location.search), ("hash", .text location.hash)]
    (show ["origin", "href", "pathname", "search", "hash"].Nodup by decide)
  exact congrArg (· >>= _) hrecord

private theorem EntryState.routeName?_eq (name : Option String) :
    routeName? ((name.map fun name => .text (some name)).getD .null) = some name := by
  cases name <;> rfl

/-- An entry state is read from the value that it is written as. -/
theorem EntryState.ofJson?_toJson (state : EntryState) : ofJson? state.toJson = some state := by
  have hrecord := record?_ofRecord [("path", .text state.path),
    ("route_name", (state.routeName.map fun name => .text (some name)).getD .null), ("params", state.params.toJson)]
    (show ["path", "route_name", "params"].Nodup by decide)
  refine (congrArg (· >>= _) hrecord).trans ?_
  refine (congrArg (· >>= _) (routeName?_eq state.routeName)).trans ?_
  exact congrArg (· >>= _) state.params.ofJson?_toJson

end RoundTrips

section Reading

/-- Parameters are a record of their entries. -/
theorem Params.readsMembers : ReadsMembers Params.ofJson? ["entries"] [] := by
  refine readsMembers_of_build (fun _ => rfl) (fun _ => Iff.rfl) fun values params hbuild => ?_
  split at hbuild
  · exact .cons nofun .nil
  · cases hbuild

/-- A location is a record of five texts. -/
theorem Location.readsMembers :
    ReadsMembers Location.ofJson? ["origin", "href", "pathname", "search", "hash"] [] := by
  refine readsMembers_of_build (fun _ => rfl) (fun _ => Iff.rfl) fun values location hbuild => ?_
  split at hbuild
  · exact .cons nofun (.cons nofun (.cons nofun (.cons nofun (.cons nofun .nil))))
  · cases hbuild

/-- An entry state is a record in which the name of the route may be missing. -/
theorem EntryState.readsMembers : ReadsMembers EntryState.ofJson? ["path", "params"] ["route_name"] := by
  refine @readsMembers_of_build _ _ ["path", "route_name", "params"] _ _ _ (fun _ => rfl) (fun key => ?_)
    fun values state hbuild => ?_
  · simp only [List.mem_cons, List.mem_append, List.not_mem_nil, or_false]
    tauto
  · split at hbuild
    · exact .cons nofun (.cons nofun (.cons nofun .nil))
    · exact .cons nofun (.cons (by decide) (.cons nofun .nil))
    · cases hbuild

end Reading

namespace EntryState

/-- The entry state with these parameters, of the values under the other known keys. -/
def withParams? (path name : Option JsonValue) (params : Params) : Option EntryState :=
  path.bind fun path => path.text?.bind fun path =>
    ((name.map routeName?).getD (some none)).bind fun routeName => some ⟨path, routeName, params⟩

private theorem withParams?_params {path name : Option JsonValue} {params : Params} {state : EntryState}
    (hread : withParams? path name params = some state) : state.params = params := by
  simp only [withParams?, Option.bind_eq_some_iff] at hread
  obtain ⟨_, _, _, _, _, _, heq⟩ := hread
  cases heq
  rfl

private theorem withParams?_unnamed {path name : Option JsonValue} {params : Params} {state : EntryState}
    (hread : withParams? path name params = some state) :
    withParams? path none params = some { state with routeName := none } := by
  simp only [withParams?, Option.bind_eq_some_iff] at hread ⊢
  obtain ⟨path, rfl, pathText, hpath, routeName, -, heq⟩ := hread
  cases heq
  exact ⟨path, rfl, pathText, hpath, none, rfl, rfl⟩

private theorem ofJson?_of_any_isNone {fields : List (Option String × JsonValue)}
    (hnone : fields.any (·.1.isNone) = true) : ofJson? (.object fields) = none := by
  rw [ofJson?, record?, if_pos hnone]
  rfl

private theorem ofJson?_object {fields : List (Option String × JsonValue)} (hproper : fields.any (·.1.isNone) = false) :
    ofJson? (.object fields) = (single? "params" fields).bind fun value => (value.bind Params.ofJson?).bind fun params =>
      (single? "path" fields).bind fun path => (single? "route_name" fields).bind fun name =>
        withParams? path name params := by
  rw [ofJson?, record?, hproper, if_neg Bool.false_ne_true]
  simp only [List.mapM_cons, List.mapM_nil, Option.bind_eq_bind, Option.bind_assoc, Option.pure_def, Option.bind_some]
  -- Whichever of the values is refused or missing, nothing is read in either order.
  rcases single? "path" fields with _ | _ | path <;> rcases single? "route_name" fields with _ | _ | name <;>
    rcases single? "params" fields with _ | _ | params <;>
    simp only [Option.bind_none, Option.bind_some, Option.bind_fun_none, withParams?]
  · exact Option.bind_comm path.text? (Params.ofJson? params)
  · refine (Option.bind_congr fun _ _ => Option.bind_comm (routeName? name) (Params.ofJson? params)).trans ?_
    exact Option.bind_comm path.text? (Params.ofJson? params)

/-- Without the name of its route, an entry state is read as one that has none. -/
theorem read_unnamed {input other : String} {members rest : List Member} {state : EntryState}
    (hinput : IsObjectText input members) (hother : IsObjectText other rest)
    (hperm : rest.Perm (members.filter fun member => member.key ≠ some "route_name"))
    (hread : (parse? input).bind ofJson? = some state) :
    (parse? other).bind ofJson? = some { state with routeName := none } := by
  rw [hinput.parse?_eq, Option.bind_some] at hread
  rw [hother.parse?_eq, Option.bind_some]
  have hproper : (members.map Member.field).any (·.1.isNone) = false := by
    refine Bool.eq_false_iff.2 fun hnone => ?_
    rw [ofJson?_of_any_isNone hnone] at hread
    cases hread
  have hfields : (rest.map Member.field).Perm
      ((members.map Member.field).filter fun field => field.1 ≠ some "route_name") := by
    rw [List.filter_map]
    exact hperm.map Member.field
  have hkept : (rest.map Member.field).any (·.1.isNone) = false := by
    rw [hfields.any_eq, List.any_eq_false]
    exact fun field hfield => List.any_eq_false.1 hproper field (List.mem_of_mem_filter hfield)
  have hsame {key : String} (hkey : key ≠ "route_name") :
      single? key (rest.map Member.field) = single? key (members.map Member.field) :=
    (single?_perm hfields key).trans (single?_filter fun _ => by simpa using hkey)
  have hunnamed : single? "route_name" (rest.map Member.field) = some none := by
    refine (single?_perm hfields _).trans (single?_of_missing fun field hfield => ?_)
    simpa using (List.mem_filter.1 hfield).2
  rw [ofJson?_object hproper] at hread
  rw [ofJson?_object hkept, hsame (by decide), hunnamed, hsame (by decide)]
  simp only [Option.bind_eq_some_iff] at hread ⊢
  obtain ⟨value, hvalue, params, hparams, path, hpath, name, -, hstate⟩ := hread
  exact ⟨value, hvalue, params, hparams, path, hpath, none, rfl, withParams?_unnamed hstate⟩

/-- The parameters of an entry state are read by themselves, and are the parameters of what is read. -/
theorem read_params (before after : List Member) :
    ∃ build : Params → Option EntryState, (∀ params state, build params = some state → state.params = params) ∧
      ∀ input member, IsObjectText input (before ++ member :: after) → member.key = some "params" →
        (parse? input).bind ofJson? = (Params.ofJson? member.value).bind build := by
  let others : List (Option String × JsonValue) := (before ++ after).map Member.field
  have hfront {member : Member} (hkey : member.key = some "params") :
      ((before ++ member :: after).map Member.field).Perm ((some "params", member.value) :: others) := by
    rw [← hkey]
    exact List.perm_middle.map Member.field
  have hproper {member : Member} (hkey : member.key = some "params") :
      ((before ++ member :: after).map Member.field).any (·.1.isNone) = others.any (·.1.isNone) :=
    (hfront hkey).any_eq
  have hother {member : Member} (hkey : member.key = some "params") {key : String} (hne : "params" ≠ key) :
      single? key ((before ++ member :: after).map Member.field) = single? key others :=
    (single?_perm (hfront hkey) key).trans (single?_cons_of_ne fun heq => hne (Option.some.inj heq))
  by_cases hrepeated : ∃ other ∈ before ++ after, other.key = some "params"
  · -- With parameters beside them, no others are read.
    obtain ⟨other, hmem, hparams⟩ := hrepeated
    refine ⟨fun _ => none, nofun, fun input member hinput hkey => ?_⟩
    rw [Option.bind_fun_none]
    rcases List.mem_append.1 hmem with hbefore | hafter
    · have hsublist : [other, member].Sublist (before ++ member :: after) :=
        (List.singleton_sublist.2 hbefore).append (List.singleton_sublist.2 List.mem_cons_self)
      exact readsMembers.repeated hinput (by decide) hsublist hparams hkey
    · have hsublist : [member, other].Sublist (before ++ member :: after) :=
        ((List.singleton_sublist.2 hafter).cons_cons member).trans (List.sublist_append_right before _)
      exact readsMembers.repeated hinput (by decide) hsublist hkey hparams
  rcases hnone : others.any (·.1.isNone) with _ | _
  · refine ⟨fun params => (single? "path" others).bind fun path => (single? "route_name" others).bind fun name =>
      withParams? path name params, fun params state hbuild => ?_, fun input member hinput hkey => ?_⟩
    · simp only [Option.bind_eq_some_iff] at hbuild
      obtain ⟨path, -, name, -, hstate⟩ := hbuild
      exact withParams?_params hstate
    · have honce : single? "params" ((before ++ member :: after).map Member.field) = some (some member.value) := by
        refine (single?_perm (hfront hkey) _).trans (single?_cons (List.forall_mem_map.2 fun other hmem hparams => ?_))
        exact hrepeated ⟨other, hmem, hparams⟩
      rw [hinput.parse?_eq, Option.bind_some, ofJson?_object ((hproper hkey).trans hnone), honce, Option.bind_some,
        hother hkey (by decide), hother hkey (by decide), Option.bind_some]
  · refine ⟨fun _ => none, nofun, fun input member hinput hkey => ?_⟩
    rw [hinput.parse?_eq, Option.bind_some, Option.bind_fun_none, ofJson?_of_any_isNone ((hproper hkey).trans hnone)]

end EntryState

/-- Parameters, locations and entry states survive as text, whatever characters, entries and names they hold. They are
read from the texts of objects, in which members may stand in any order and beside unknown ones; no known key may stand
there twice, and the name of a route is all that may be missing. The same goes for the parameters within an entry state. -/
theorem survives_as_text :
    Survives Params.toJson Params.ofJson? ["entries"] [] ∧
    Survives Location.toJson Location.ofJson? ["origin", "href", "pathname", "search", "hash"] [] ∧
    Survives EntryState.toJson EntryState.ofJson? ["path", "params"] ["route_name"] ∧
    (∀ input fields, parse? input = some (.object fields) ↔
      ∃ members, IsObjectText input members ∧ members.map Member.field = fields) ∧
    (∀ input other members rest state, IsObjectText input members → IsObjectText other rest →
      rest.Perm (members.filter fun member => member.key ≠ some "route_name") →
      (parse? input).bind EntryState.ofJson? = some state →
      (parse? other).bind EntryState.ofJson? = some { state with routeName := none }) ∧
    (∀ before after : List Member, ∃ build : Params → Option EntryState,
      (∀ params state, build params = some state → state.params = params) ∧
      ∀ input member, IsObjectText input (before ++ member :: after) → member.key = some "params" →
        (parse? input).bind EntryState.ofJson? = (Params.ofJson? member.value).bind build) := by
  refine ⟨⟨Params.readsMembers, fun params => ?_⟩, ⟨Location.readsMembers, fun location => ?_⟩,
    ⟨EntryState.readsMembers, fun state => ?_⟩, fun _ _ => parse?_eq_object_iff, ?_, EntryState.read_params⟩
  · rw [parse?_render params.isValue_toJson, Option.bind_some, params.ofJson?_toJson]
  · rw [parse?_render location.isValue_toJson, Option.bind_some, location.ofJson?_toJson]
  · rw [parse?_render state.isValue_toJson, Option.bind_some, state.ofJson?_toJson]
  · intro input other members rest state hinput hother hperm hread
    exact EntryState.read_unnamed hinput hother hperm hread

/-- The members stand in another order, beside an unknown one, and the route has no name. -/
example :
    (parse? "\x7b\"params\": \x7b\"entries\": [[\"slug\", \"caf\\u00e9\"]]\x7d, \"note\": -0.5, \"path\": \"/\"\x7d").bind
      EntryState.ofJson? = some { path := "/", params := ⟨[("slug", "café")]⟩ } := by
  cbv

end PageRouter
