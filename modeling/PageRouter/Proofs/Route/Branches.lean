import Mathlib.Data.List.Nodup
import PageRouter.Route.Tree

namespace PageRouter

/-- A name that can stand between colons. -/
def IsPlainName (name : String) : Prop :=
  name ≠ "" ∧ ':' ∉ name.toList

/-- The name path of names. -/
def joinNames (names : List String) : String :=
  String.ofList (Text.joinPieces ':' (names.map String.toList))

private theorem joinNames_singleton (name : String) : joinNames [name] = name := by
  rw [joinNames, List.map_singleton, Text.joinPieces, String.ofList_toList]

private theorem joinNames_cons (name : String) {more : List String} (hmore : more ≠ []) :
    joinNames (name :: more) = name ++ ":" ++ joinNames more := by
  obtain ⟨second, rest, rfl⟩ := List.exists_cons_of_ne_nil hmore
  rw [joinNames, joinNames, ← String.toList_inj, List.map_cons, List.map_cons, Text.joinPieces]
  · simp
  · exact List.cons_ne_nil _ _

/-- The names in the name path of names without colons. -/
theorem nameParts_joinNames {names : List String} (hne : names ≠ []) (hnames : ∀ name ∈ names, ':' ∉ name.toList) :
    Routes.nameParts (joinNames names) = names := by
  obtain ⟨first, more, rfl⟩ := List.exists_cons_of_ne_nil hne
  have hpieces : ∀ piece ∈ (first :: more).map String.toList, ':' ∉ piece := List.forall_mem_map.2 hnames
  rw [Routes.nameParts, joinNames, String.toList_ofList, List.map_cons, Text.pieces_joinPieces hpieces, ← List.map_cons,
    List.map_map]
  exact List.map_id'' (fun name => String.ofList_toList) _

/-- A name path is put together from its own parts. -/
theorem joinNames_nameParts (path : String) : joinNames (Routes.nameParts path) = path := by
  have hlists : (Routes.nameParts path).map String.toList = Text.pieces ':' path.toList := by
    rw [Routes.nameParts, List.map_map]
    exact List.map_id'' (fun piece => String.toList_ofList) _
  rw [joinNames, hlists, Text.joinPieces_pieces, String.ofList_toList]

/-- A colon parts the names on both sides of it, whatever they are. -/
theorem nameParts_append (scope path : String) :
    Routes.nameParts (scope ++ ":" ++ path) = Routes.nameParts scope ++ Routes.nameParts path := by
  have hcolon : (scope ++ ":" ++ path).toList = scope.toList ++ ':' :: path.toList := by simp
  rw [Routes.nameParts, hcolon, Text.pieces_append, List.map_append, Routes.nameParts, Routes.nameParts]

private theorem append_colon_ne_empty (scope name : String) : scope ++ ":" ++ name ≠ "" := by
  rw [← String.toList_inj.ne]
  simp

/-- A name path may be put together from either end. -/
theorem joinName_joinName {name : String} (hname : name ≠ "") (scope path : String) :
    joinName (joinName scope name) path = joinName scope (name ++ ":" ++ path) := by
  by_cases hscope : scope = ""
  · rw [joinName, joinName, joinName, if_pos hscope, if_pos hscope, if_neg hname]
  · rw [joinName, joinName, joinName, if_neg hscope, if_neg hscope, if_neg (append_colon_ne_empty scope name)]
    simp only [String.append_assoc]

/-- Names that are not empty have a name path that is not. -/
theorem joinNames_ne_empty {scope : List String} (hscope : ∀ name ∈ scope, name ≠ "") (hne : scope ≠ []) :
    joinNames scope ≠ "" := by
  obtain ⟨first, more, rfl⟩ := List.exists_cons_of_ne_nil hne
  by_cases hmore : more = []
  · rw [hmore, joinNames_singleton]
    exact hscope first List.mem_cons_self
  · rw [joinNames_cons first hmore]
    exact append_colon_ne_empty first (joinNames more)

/-- The name path of an entry, from the names on the way to its group. -/
theorem joinName_joinNames {scope : List String} (hscope : ∀ name ∈ scope, name ≠ "") (name : String) :
    joinName (joinNames scope) name = joinNames (scope ++ [name]) := by
  induction scope with
  | nil =>
    rw [List.nil_append, joinNames_singleton]
    rfl
  | cons first more ih =>
    obtain ⟨hfirst, hrest⟩ := List.forall_mem_cons.1 hscope
    rw [List.cons_append, joinNames_cons first (List.concat_ne_nil _ _), ← ih hrest]
    by_cases hmore : more = []
    · rw [hmore, joinNames_singleton, joinName, if_neg hfirst]
      rfl
    · rw [joinNames_cons first hmore, joinName, joinName, if_neg (append_colon_ne_empty _ _),
        if_neg (joinNames_ne_empty hrest hmore)]
      simp only [String.append_assoc]

namespace Routes

variable {α : Type}

/-- The routes of a group, each with the names on the way to it, in order. Where the names of every group are plain
and different, a name path leads to a route exactly if its names are those of a branch that ends there. -/
def branches : Routes α → List (List String × α)
  | nil => []
  | leaf name value rest => ([name], value) :: rest.branches
  | group name members rest => members.branches.map (fun branch => (name :: branch.1, branch.2)) ++ rest.branches

/-- Every group has plain names, one for each entry. -/
def WellNamed : Routes α → Prop
  | nil => True
  | leaf name _ rest => IsPlainName name ∧ name ∉ rest.entryNames ∧ rest.WellNamed
  | group name members rest => IsPlainName name ∧ name ∉ rest.entryNames ∧ members.WellNamed ∧ rest.WellNamed

end Routes

namespace RouteNode

variable {α : Type}

/-- The branches from a node on. -/
def branches : RouteNode α → List (List String × α)
  | leaf value => [([], value)]
  | group members => members.branches

/-- Every group from a node on has plain names, one for each entry. -/
def WellNamed : RouteNode α → Prop
  | leaf _ => True
  | group members => members.WellNamed

/-- What names lead to from a node on. -/
def walk? : RouteNode α → List String → Option (RouteNode α)
  | leaf value, [] => some (leaf value)
  | leaf _, _ :: _ => none
  | group members, names => members.walk? names

end RouteNode

namespace Routes

variable {α : Type}

/-- Every branch begins with the name of an entry. -/
theorem exists_cons_of_mem_branches {routes : Routes α} {branch : List String × α}
    (hbranch : branch ∈ routes.branches) :
    ∃ name more, branch.1 = name :: more ∧ name ∈ routes.entryNames := by
  induction routes with
  | nil => cases hbranch
  | leaf name value rest ih =>
    rcases List.mem_cons.1 hbranch with rfl | hbranch
    · exact ⟨name, [], rfl, List.mem_cons_self⟩
    · obtain ⟨first, more, hnames, hfirst⟩ := ih hbranch
      exact ⟨first, more, hnames, List.mem_cons_of_mem _ hfirst⟩
  | group name members rest _ ih =>
    rcases List.mem_append.1 hbranch with hbranch | hbranch
    · obtain ⟨inner, -, rfl⟩ := List.mem_map.1 hbranch
      exact ⟨name, inner.1, rfl, List.mem_cons_self⟩
    · obtain ⟨first, more, hnames, hfirst⟩ := ih hbranch
      exact ⟨first, more, hnames, List.mem_cons_of_mem _ hfirst⟩

private theorem mem_entryNames_of_mem_branches {routes : Routes α} {name : String} {more : List String} {value : α}
    (hbranch : (name :: more, value) ∈ routes.branches) : name ∈ routes.entryNames := by
  obtain ⟨first, rest, hnames, hfirst⟩ := exists_cons_of_mem_branches hbranch
  rw [(List.cons.inj hnames).1]
  exact hfirst

private theorem nil_notMem_branches (routes : Routes α) (value : α) : ([], value) ∉ routes.branches := by
  intro hbranch
  obtain ⟨name, more, hnames, -⟩ := exists_cons_of_mem_branches hbranch
  cases hnames

/-- The names of a branch are plain where all groups have plain names. -/
theorem plain_of_mem_branches {routes : Routes α} (hnamed : routes.WellNamed) {branch : List String × α}
    (hbranch : branch ∈ routes.branches) : ∀ name ∈ branch.1, IsPlainName name := by
  induction routes generalizing branch with
  | nil => cases hbranch
  | leaf name value rest ih =>
    obtain ⟨hplain, -, hrest⟩ := hnamed
    rcases List.mem_cons.1 hbranch with rfl | hbranch
    · intro other hother
      rw [List.mem_singleton.1 hother]
      exact hplain
    · exact ih hrest hbranch
  | group name members rest ihMembers ihRest =>
    obtain ⟨hplain, -, hmembers, hrest⟩ := hnamed
    rcases List.mem_append.1 hbranch with hbranch | hbranch
    · obtain ⟨inner, hinner, rfl⟩ := List.mem_map.1 hbranch
      exact List.forall_mem_cons.2 ⟨hplain, ihMembers hmembers hinner⟩
    · exact ihRest hrest hbranch

/-- No two routes are reached by the same names. -/
theorem nodup_map_fst_branches {routes : Routes α} (hnamed : routes.WellNamed) :
    (routes.branches.map Prod.fst).Nodup := by
  induction routes with
  | nil => exact List.nodup_nil
  | leaf name value rest ih =>
    obtain ⟨-, hnew, hrest⟩ := hnamed
    rw [branches, List.map_cons, List.nodup_cons]
    refine ⟨?_, ih hrest⟩
    intro hmem
    obtain ⟨⟨_, other⟩, hbranch, rfl⟩ := List.mem_map.1 hmem
    exact hnew (mem_entryNames_of_mem_branches hbranch)
  | group name members rest ihMembers ihRest =>
    obtain ⟨-, hnew, hmembers, hrest⟩ := hnamed
    have hinner : (members.branches.map (fun branch => (name :: branch.1, branch.2))).map Prod.fst =
        (members.branches.map Prod.fst).map (name :: ·) := by
      rw [List.map_map, List.map_map]
      rfl
    rw [branches, List.map_append, hinner]
    apply List.Nodup.append
    · exact (ihMembers hmembers).map fun _ _ heq => (List.cons.inj heq).2
    · exact ihRest hrest
    -- The branches of the group begin with its name, which no later entry has.
    · intro names hgroup hlater
      obtain ⟨more, -, rfl⟩ := List.mem_map.1 hgroup
      obtain ⟨⟨_, other⟩, hbranch, rfl⟩ := List.mem_map.1 hlater
      exact hnew (mem_entryNames_of_mem_branches hbranch)

private theorem mem_entryNames_of_child? {routes : Routes α} {name : String} {node : RouteNode α}
    (hchild : routes.child? name = some node) : name ∈ routes.entryNames := by
  induction routes with
  | nil => cases hchild
  | leaf key value rest ih =>
    by_cases hkey : key = name
    · exact List.mem_cons.2 (.inl hkey.symm)
    · rw [child?, if_neg hkey] at hchild
      exact List.mem_cons_of_mem _ (ih hchild)
  | group key members rest _ ih =>
    by_cases hkey : key = name
    · exact List.mem_cons.2 (.inl hkey.symm)
    · rw [child?, if_neg hkey] at hchild
      exact List.mem_cons_of_mem _ (ih hchild)

private theorem child?_eq_none_of_notMem {routes : Routes α} {name : String} (hname : name ∉ routes.entryNames) :
    routes.child? name = none := by
  cases hchild : routes.child? name with
  | none => rfl
  | some node => exact absurd (mem_entryNames_of_child? hchild) hname

/-- The branches that begin with a name go through the entry of that name. -/
theorem mem_branches_cons {routes : Routes α} (hnamed : routes.WellNamed) {name : String} {more : List String}
    {value : α} : (name :: more, value) ∈ routes.branches ↔
      ∃ node, routes.child? name = some node ∧ (more, value) ∈ node.branches := by
  induction routes with
  | nil => simp [branches, child?]
  | leaf key held rest ih =>
    obtain ⟨-, hnew, hrest⟩ := hnamed
    rw [branches, List.mem_cons, ih hrest, child?]
    by_cases hkey : key = name
    · subst hkey
      -- The rest of the group has no entry of that name.
      have hlater : rest.child? key = none := child?_eq_none_of_notMem hnew
      simp [hlater, RouteNode.branches]
    · have hother : (name :: more, value) ≠ ([key], held) := fun heq =>
        hkey (List.cons.inj (congrArg Prod.fst heq)).1.symm
      simp [hkey, hother]
  | group key members rest _ ih =>
    obtain ⟨-, hnew, -, hrest⟩ := hnamed
    rw [branches, List.mem_append, ih hrest, child?]
    by_cases hkey : key = name
    · subst hkey
      have hlater : rest.child? key = none := child?_eq_none_of_notMem hnew
      simp [hlater, RouteNode.branches]
    · have hother : (name :: more, value) ∉ members.branches.map (fun branch => (key :: branch.1, branch.2)) := by
        intro hmem
        obtain ⟨inner, -, heq⟩ := List.mem_map.1 hmem
        exact hkey (List.cons.inj (congrArg Prod.fst heq)).1
      simp [hkey, hother]

private theorem WellNamed.child? {routes : Routes α} (hnamed : routes.WellNamed) {name : String} {node : RouteNode α}
    (hchild : routes.child? name = some node) : node.WellNamed := by
  induction routes with
  | nil => cases hchild
  | leaf key value rest ih =>
    rw [Routes.child?] at hchild
    split at hchild
    · cases hchild
      exact trivial
    · exact ih hnamed.2.2 hchild
  | group key members rest _ ih =>
    rw [Routes.child?] at hchild
    split at hchild
    · cases hchild
      exact hnamed.2.2.1
    · exact ih hnamed.2.2.2 hchild

/-- The first of some names leads to an entry, from which the others lead on. -/
theorem walk?_cons (routes : Routes α) (name : String) (more : List String) :
    routes.walk? (name :: more) = (routes.child? name).bind (·.walk? more) := by
  rw [walk?.eq_def]
  dsimp only
  rcases routes.child? name with _ | (value | members)
  · rfl
  · cases more with
    | nil => rfl
    | cons => rfl
  · cases more with
    | nil => rfl
    | cons => rfl

end Routes

namespace RouteNode

variable {α : Type}

private theorem WellNamed.walk? {node target : RouteNode α} (hnamed : node.WellNamed) {names : List String}
    (hwalk : node.walk? names = some target) : target.WellNamed := by
  induction names generalizing node with
  | nil =>
    cases node with
    | leaf held =>
      cases hwalk
      exact trivial
    | group members =>
      cases hwalk
      exact hnamed
  | cons name names ih =>
    cases node with
    | leaf held => cases hwalk
    | group members =>
      rw [RouteNode.walk?, Routes.walk?_cons] at hwalk
      obtain ⟨child, hchild, hwalk⟩ := Option.bind_eq_some_iff.1 hwalk
      exact ih (Routes.WellNamed.child? hnamed hchild) hwalk

/-- Names that lead to a node are what the branches through that node begin with. -/
theorem mem_branches_append {node target : RouteNode α} (hnamed : node.WellNamed) {names more : List String}
    (hwalk : node.walk? names = some target) {value : α} :
    (names ++ more, value) ∈ node.branches ↔ (more, value) ∈ target.branches := by
  induction names generalizing node with
  | nil =>
    cases node with
    | leaf held =>
      cases hwalk
      rfl
    | group members =>
      cases hwalk
      rfl
  | cons name names ih =>
    cases node with
    | leaf held => cases hwalk
    | group members =>
      rw [walk?, Routes.walk?_cons] at hwalk
      obtain ⟨child, hchild, hwalk⟩ := Option.bind_eq_some_iff.1 hwalk
      rw [List.cons_append, branches, Routes.mem_branches_cons hnamed, hchild]
      rw [← ih (Routes.WellNamed.child? hnamed hchild) hwalk]
      constructor
      · rintro ⟨_, hsame, hmem⟩
        cases hsame
        exact hmem
      · exact fun hmem => ⟨child, rfl, hmem⟩

/-- The names of a branch lead to its route, and to a route lead only the names of its branch. -/
theorem walk?_eq_leaf_iff {node : RouteNode α} (hnamed : node.WellNamed) {names : List String} {value : α} :
    node.walk? names = some (.leaf value) ↔ (names, value) ∈ node.branches := by
  constructor
  · intro hwalk
    have hbranch : (names ++ [], value) ∈ node.branches := (mem_branches_append hnamed hwalk).2 List.mem_cons_self
    rw [List.append_nil] at hbranch
    exact hbranch
  · intro hbranch
    induction names generalizing node with
    | nil =>
      cases node with
      | leaf held =>
        cases List.mem_singleton.1 hbranch
        rfl
      | group members => exact absurd hbranch (Routes.nil_notMem_branches members value)
    | cons name more ih =>
      cases node with
      | leaf held => cases List.mem_singleton.1 hbranch
      | group members =>
        obtain ⟨child, hchild, hmore⟩ := (Routes.mem_branches_cons hnamed).1 hbranch
        rw [walk?, Routes.walk?_cons, hchild, Option.bind_some]
        exact ih (Routes.WellNamed.child? hnamed hchild) hmore

end RouteNode

namespace Routes

variable {α : Type}

private theorem map_snd_leavesIn (routes : Routes α) (scope : String) :
    (routes.leavesIn scope).map Prod.snd = routes.branches.map Prod.snd := by
  induction routes generalizing scope with
  | nil => rfl
  | leaf name value rest ih => rw [leavesIn, List.map_cons, ih, branches, List.map_cons]
  | group name members rest ihMembers ihRest =>
    rw [leavesIn, List.map_append, ihMembers, ihRest, branches, List.map_append, List.map_map]
    rfl

private theorem values_eq (routes : Routes α) : routes.values = routes.branches.map Prod.snd :=
  map_snd_leavesIn routes ""

/-- The first route of a group comes before what follows it. -/
theorem values_leaf (name : String) (value : α) (rest : Routes α) :
    (leaf name value rest).values = value :: rest.values := by
  rw [values_eq, values_eq, branches, List.map_cons]

/-- The routes of a group come before what follows the group. -/
theorem values_group (name : String) (members rest : Routes α) :
    (group name members rest).values = members.values ++ rest.values := by
  rw [values_eq, values_eq, values_eq, branches, List.map_append, List.map_map]
  rfl

private theorem leavesIn_eq {routes : Routes α} (hnamed : routes.WellNamed) (scope : String) :
    routes.leavesIn scope = routes.branches.map fun branch => (joinName scope (joinNames branch.1), branch.2) := by
  induction routes generalizing scope with
  | nil => rfl
  | leaf name value rest ih =>
    obtain ⟨-, -, hrest⟩ := hnamed
    rw [leavesIn, ih hrest, branches, List.map_cons, joinNames_singleton]
  | group name members rest ihMembers ihRest =>
    obtain ⟨⟨hne, -⟩, -, hmembers, hrest⟩ := hnamed
    rw [leavesIn, ihMembers hmembers, ihRest hrest, branches, List.map_append, List.map_map]
    congr 1
    apply List.map_congr_left
    intro branch hbranch
    -- Every branch has a name, so that the name of the group is joined to something.
    obtain ⟨first, more, hnames, -⟩ := exists_cons_of_mem_branches hbranch
    rw [Function.comp_apply, joinNames_cons name (hnames ▸ List.cons_ne_nil first more), joinName_joinName hne]

/-- The routes of a group with their name paths are its branches, with the names joined. -/
theorem leaves_eq {routes : Routes α} (hnamed : routes.WellNamed) :
    routes.leaves = routes.branches.map fun branch => (joinNames branch.1, branch.2) :=
  leavesIn_eq hnamed ""

private theorem nameParts_joinNames_of_mem {routes : Routes α} (hnamed : routes.WellNamed) {branch : List String × α}
    (hbranch : branch ∈ routes.branches) : nameParts (joinNames branch.1) = branch.1 := by
  obtain ⟨first, more, hnames, -⟩ := exists_cons_of_mem_branches hbranch
  apply nameParts_joinNames
  · exact hnames ▸ List.cons_ne_nil first more
  · exact fun name hname => (plain_of_mem_branches hnamed hbranch name hname).2

/-- A route has a name path exactly if the names in it are those of a branch that ends there. -/
theorem mem_leaves_iff {routes : Routes α} (hnamed : routes.WellNamed) {path : String} {value : α} :
    (path, value) ∈ routes.leaves ↔ (nameParts path, value) ∈ routes.branches := by
  rw [leaves_eq hnamed, List.mem_map]
  constructor
  · rintro ⟨branch, hbranch, heq⟩
    cases heq
    rw [nameParts_joinNames_of_mem hnamed hbranch]
    exact hbranch
  · intro hbranch
    exact ⟨_, hbranch, by rw [joinNames_nameParts]⟩

/-- No two routes have the same name path. -/
theorem nodup_names {routes : Routes α} (hnamed : routes.WellNamed) : routes.names.Nodup := by
  have hnames : routes.names = (routes.branches.map Prod.fst).map joinNames := by
    rw [names, leaves_eq hnamed, List.map_map, List.map_map]
    rfl
  rw [hnames]
  apply List.Nodup.map_on
  · intro first hfirst second hsecond heq
    obtain ⟨branch, hbranch, rfl⟩ := List.mem_map.1 hfirst
    obtain ⟨other, hother, rfl⟩ := List.mem_map.1 hsecond
    rw [← nameParts_joinNames_of_mem hnamed hbranch, heq, nameParts_joinNames_of_mem hnamed hother]
  · exact nodup_map_fst_branches hnamed

/-- Looking up a name path finds the route that has it. -/
theorem get?_eq_some_iff {routes : Routes α} (hnamed : routes.WellNamed) {path : String} {value : α} :
    routes.get? path = some value ↔ (path, value) ∈ routes.leaves := by
  have hroot : (RouteNode.group routes).WellNamed := hnamed
  have hwalk : (RouteNode.group routes).walk? (nameParts path) = some (.leaf value) ↔
      (nameParts path, value) ∈ (RouteNode.group routes).branches := RouteNode.walk?_eq_leaf_iff hroot
  rw [RouteNode.walk?, RouteNode.branches] at hwalk
  rw [mem_leaves_iff hnamed, ← hwalk, get?, node?]
  rcases routes.walk? (nameParts path) with _ | (held | members)
  · simp
  · simp
  · simp

private theorem group?_eq_some_iff {routes group : Routes α} {path : String} :
    routes.group? path = some group ↔ routes.walk? (nameParts path) = some (.group group) := by
  rw [group?, node?]
  rcases routes.walk? (nameParts path) with _ | (held | members)
  · simp
  · simp
  · simp

/-- A group of a well named tree is well named. -/
theorem WellNamed.group? {routes group : Routes α} (hnamed : routes.WellNamed) {scope : String}
    (hgroup : routes.group? scope = some group) : group.WellNamed := by
  have hroot : (RouteNode.group routes).WellNamed := hnamed
  have hwalk : (RouteNode.group routes).walk? (nameParts scope) = some (.group group) := group?_eq_some_iff.1 hgroup
  exact hroot.walk? hwalk

/-- The name paths of a group are those of the tree that begin with its own and a colon. -/
theorem mem_leaves_append_iff {routes group : Routes α} (hnamed : routes.WellNamed) {scope : String}
    (hgroup : routes.group? scope = some group) {path : String} {value : α} :
    (scope ++ ":" ++ path, value) ∈ routes.leaves ↔ (path, value) ∈ group.leaves := by
  have hroot : (RouteNode.group routes).WellNamed := hnamed
  have hwalk : (RouteNode.group routes).walk? (nameParts scope) = some (.group group) := group?_eq_some_iff.1 hgroup
  rw [mem_leaves_iff hnamed, mem_leaves_iff (hnamed.group? hgroup), nameParts_append]
  exact RouteNode.mem_branches_append hroot hwalk

end Routes

end PageRouter
