import PageRouter.Proofs.Route.Branches
import PageRouter.Route.Source

namespace PageRouter

namespace Routes

variable {α β : Type}

open insertSorted (ofNode)

/-- Routes that differ only in the order of the entries of groups. -/
inductive Permuted : Routes α → Routes α → Prop
  | nil : Permuted nil nil
  | leaf (name : String) (value : α) {rest rest' : Routes α} (hrest : Permuted rest rest') :
    Permuted (leaf name value rest) (leaf name value rest')
  | group (name : String) {members members' rest rest' : Routes α} (hmembers : Permuted members members')
    (hrest : Permuted rest rest') : Permuted (group name members rest) (group name members' rest')
  | swap (first second : String) (node other : RouteNode α) (rest : Routes α) :
    Permuted (ofNode first node (ofNode second other rest)) (ofNode second other (ofNode first node rest))
  | trans {first second third : Routes α} (hfirst : Permuted first second) (hsecond : Permuted second third) :
    Permuted first third

namespace Permuted

/-- Routes in their own order. -/
theorem refl (routes : Routes α) : Permuted routes routes := by
  induction routes with
  | nil => exact .nil
  | leaf name value rest ih => exact .leaf name value ih
  | group name members rest ihMembers ihRest => exact .group name ihMembers ihRest

private theorem symm {routes others : Routes α} (hperm : Permuted routes others) : Permuted others routes := by
  induction hperm with
  | nil => exact .nil
  | leaf name value _ ih => exact .leaf name value ih
  | group name _ _ ihMembers ihRest => exact .group name ihMembers ihRest
  | swap first second node other rest => exact .swap second first other node rest
  | trans _ _ ihFirst ihSecond => exact ihSecond.trans ihFirst

end Permuted

/-- Where an entry is put among others makes no difference but for the order. -/
theorem permuted_insertSorted (name : String) (node : RouteNode α) (routes : Routes α) :
    Permuted (routes.insertSorted name node) (ofNode name node routes) := by
  induction routes with
  | nil => exact .refl _
  | leaf key value rest ih =>
    rw [insertSorted]
    split
    · exact .refl _
    · exact (Permuted.leaf key value ih).trans (.swap key name (.leaf value) node rest)
  | group key members rest _ ih =>
    rw [insertSorted]
    split
    · exact .refl _
    · exact (Permuted.group key (.refl members) ih).trans (.swap key name (.group members) node rest)

/-- How many groups stand inside each other. -/
def nesting : Routes α → Nat
  | nil => 0
  | leaf _ _ rest => rest.nesting
  | group _ members rest => max (members.nesting + 1) rest.nesting

end Routes

namespace RouteNode

variable {α : Type}

/-- The routes from a node on, where the node itself is at `scope`. -/
def leavesIn (scope : String) : RouteNode α → List (String × α)
  | leaf value => [(scope, value)]
  | group members => members.leavesIn scope

/-- How many groups stand inside each other from a node on. -/
def nesting : RouteNode α → Nat
  | leaf _ => 0
  | group members => members.nesting + 1

end RouteNode

namespace Routes

variable {α β : Type}

open insertSorted (ofNode)

private theorem entryNames_ofNode (name : String) (node : RouteNode α) (rest : Routes α) :
    (ofNode name node rest).entryNames = name :: rest.entryNames := by
  cases node <;> rfl

/-- The routes of a group are those of its first entry and of the others. -/
theorem leavesIn_ofNode (scope name : String) (node : RouteNode α) (rest : Routes α) :
    (ofNode name node rest).leavesIn scope = node.leavesIn (joinName scope name) ++ rest.leavesIn scope := by
  cases node <;> rfl

/-- A group is well named if the name of its first entry is plain and new, and the rest is well named. -/
theorem wellNamed_ofNode_iff {name : String} {node : RouteNode α} {rest : Routes α} :
    (ofNode name node rest).WellNamed ↔
      IsPlainName name ∧ name ∉ rest.entryNames ∧ node.WellNamed ∧ rest.WellNamed := by
  cases node with
  | leaf value => simp [ofNode, WellNamed, RouteNode.WellNamed]
  | group members => exact Iff.rfl

private theorem nesting_ofNode (name : String) (node : RouteNode α) (rest : Routes α) :
    (ofNode name node rest).nesting = max node.nesting rest.nesting := by
  cases node with
  | leaf value => exact (Nat.zero_max rest.nesting).symm
  | group members => rfl

private theorem leavesIn_map (f : α → β) (routes : Routes α) (scope : String) :
    (routes.map f).leavesIn scope = (routes.leavesIn scope).map fun leaf => (leaf.1, f leaf.2) := by
  induction routes generalizing scope with
  | nil => rfl
  | leaf name value rest ih => rw [map, leavesIn, ih, leavesIn, List.map_cons]
  | group name members rest ihMembers ihRest => rw [map, leavesIn, ihMembers, ihRest, leavesIn, List.map_append]

/-- Changing what the routes of a tree are leaves their name paths. -/
theorem leaves_map (f : α → β) (routes : Routes α) :
    (routes.map f).leaves = routes.leaves.map fun leaf => (leaf.1, f leaf.2) :=
  leavesIn_map f routes ""

namespace Permuted

variable {routes others : Routes α}

private theorem entryNames (hperm : Permuted routes others) : routes.entryNames.Perm others.entryNames := by
  induction hperm with
  | nil => exact .nil
  | leaf name _ _ ih => exact ih.cons name
  | group name _ _ _ ih => exact ih.cons name
  | swap first second node other rest =>
    rw [entryNames_ofNode, entryNames_ofNode, entryNames_ofNode, entryNames_ofNode]
    exact .swap _ _ _
  | trans _ _ ihFirst ihSecond => exact ihFirst.trans ihSecond

/-- The same routes stand in groups in another order, with the same name paths. -/
theorem leavesIn (hperm : Permuted routes others) (scope : String) :
    (routes.leavesIn scope).Perm (others.leavesIn scope) := by
  induction hperm generalizing scope with
  | nil => exact .nil
  | leaf name value _ ih => exact (ih scope).cons _
  | group name _ _ ihMembers ihRest => exact (ihMembers _).append (ihRest scope)
  | swap first second node other rest =>
    rw [leavesIn_ofNode, leavesIn_ofNode, leavesIn_ofNode, leavesIn_ofNode, ← List.append_assoc, ← List.append_assoc]
    exact List.perm_append_comm.append_right _
  | trans _ _ ihFirst ihSecond => exact (ihFirst scope).trans (ihSecond scope)

/-- Definitions in another order have the same routes with the same name paths. -/
theorem leaves (hperm : Permuted routes others) : routes.leaves.Perm others.leaves :=
  hperm.leavesIn ""

/-- Definitions in another order are nested as deep. -/
theorem nesting_eq (hperm : Permuted routes others) : routes.nesting = others.nesting := by
  induction hperm with
  | nil => rfl
  | leaf name _ _ ih => exact ih
  | group name _ _ ihMembers ihRest => rw [nesting, nesting, ihMembers, ihRest]
  | swap first second node other rest =>
    rw [nesting_ofNode, nesting_ofNode, nesting_ofNode, nesting_ofNode, Nat.max_left_comm]
  | trans _ _ ihFirst ihSecond => exact ihFirst.trans ihSecond

/-- Checking each name against those before it finds the same, in whatever order the names come. -/
theorem wellNamed (hperm : Permuted routes others) (hnamed : routes.WellNamed) : others.WellNamed := by
  induction hperm with
  | nil => trivial
  | leaf name value hrest ih =>
    obtain ⟨hplain, hnew, hnamed⟩ := hnamed
    exact ⟨hplain, fun hmem => hnew (hrest.entryNames.mem_iff.2 hmem), ih hnamed⟩
  | group name hmembers hrest ihMembers ihRest =>
    obtain ⟨hplain, hnew, hinner, hnamed⟩ := hnamed
    exact ⟨hplain, fun hmem => hnew (hrest.entryNames.mem_iff.2 hmem), ihMembers hinner, ihRest hnamed⟩
  | swap first second node other rest =>
    simp only [wellNamed_ofNode_iff, entryNames_ofNode, List.mem_cons, not_or] at hnamed ⊢
    obtain ⟨hfirst, ⟨hne, hnew⟩, hnode, hsecond, hother, hwell, hrest⟩ := hnamed
    exact ⟨hsecond, ⟨Ne.symm hne, hother⟩, hwell, hfirst, hnew, hnode, hrest⟩
  | trans _ _ ihFirst ihSecond => exact ihSecond (ihFirst hnamed)

/-- Definitions in another order are named as well or as badly. -/
theorem wellNamed_iff (hperm : Permuted routes others) : routes.WellNamed ↔ others.WellNamed :=
  ⟨hperm.wellNamed, hperm.symm.wellNamed⟩

end Permuted

end Routes

end PageRouter
