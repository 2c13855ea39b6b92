import PageRouter.Proofs.Route.Address
import PageRouter.Proofs.Route.Recapture
import PageRouter.Proofs.Route.Reversal
import PageRouter.Proofs.Url.Spelled

namespace PageRouter

open Url (Clean IsSpelled)

namespace Pattern

/-- The pieces that a pattern reads a path as are segments of the path. -/
theorem clean_of_fills {ignoreCase : Bool} {segments : List Segment} {pieces : List (List Char)} {tail : List Char}
    (hfills : List.Forall₂ (Fills ignoreCase) segments pieces) (htail : tail = [] ∨ tail = ['/'])
    (hpath : IsSpelled (spell pieces ++ tail)) : ∀ piece ∈ pieces, Clean piece := by
  obtain ⟨parts, -, hparts, hspell⟩ := hpath
  have hslash := slash_notMem_of_fills hfills
  have hwhole : ∀ part ∈ parts, '/' ∉ part := fun part hpart => (hparts part hpart).slash_notMem
  rcases htail with rfl | rfl
  · rw [List.append_nil] at hspell
    rw [eq_of_spell_eq hslash hwhole hspell]
    exact hparts
  · -- The slash at the end is an empty segment of the path.
    rw [← Url.spell_concat] at hspell
    have hclosed : ∀ piece ∈ pieces ++ [[]], '/' ∉ piece :=
      List.forall_mem_append.2 ⟨hslash, List.forall_mem_singleton.2 List.not_mem_nil⟩
    rw [← eq_of_spell_eq hclosed hwhole hspell] at hparts
    exact (List.forall_mem_append.1 hparts).1

private theorem exists_piece_of_mem_captured {ignoreCase : Bool} {segments : List Segment} {pieces : List (List Char)}
    (hfills : List.Forall₂ (Fills ignoreCase) segments pieces) {entry : String × String}
    (hentry : entry ∈ captured segments pieces) : entry.2.toList ∈ pieces ∧ entry.2.toList ≠ [] := by
  induction hfills with
  | nil => cases hentry
  | @cons segment piece more rest hfill _ ih =>
    rw [captured_cons, List.mem_append] at hentry
    rcases hentry with hfirst | hlater
    · cases segment with
      | literal text => cases hfirst
      | param name =>
        obtain rfl := List.mem_singleton.1 hfirst
        rw [String.toList_ofList]
        exact ⟨List.mem_cons_self, by simpa [fits] using hfill.2⟩
    · exact (ih hlater).imp_left (List.mem_cons_of_mem piece)

/-- What a pattern takes from a path of clean segments can stand for its parameters. -/
theorem isSubstitutable_of_extract {pattern : Pattern} {path : String} {params : Params}
    (hextract : pattern.extract path = some params) (hpath : IsSpelled path.toList) :
    ∀ entry ∈ params.entries, isSubstitutable entry.2 = true := by
  obtain ⟨entries, hcapture, rfl⟩ := Option.map_eq_some_iff.1 hextract
  obtain ⟨pieces, tail, hfills, htail, hspelled, rfl⟩ := capture_eq_some_iff.1 hcapture
  have hclean := clean_of_fills hfills htail (hspelled ▸ hpath)
  intro entry hentry
  obtain ⟨hpiece, hne⟩ := exists_piece_of_mem_captured hfills hentry
  obtain ⟨hslash, hquestion, hsign, hsingle, hdouble⟩ := hclean _ hpiece
  refine isSubstitutable_iff.2 ⟨hne, ?_, hslash, hquestion, hsign⟩
  rw [isDotSegment_eq, hsingle, hdouble]
  rfl

end Pattern

namespace RouteTree

variable {settings : Settings} {serial next : Nat} {tree : RouteTree}

/-- A route that the path of a location on the web resolves to has a name, with which and with the parameters that were
found a path is built; that path gives the same parameters, and where case counts it is the path of the location, or
that path with a slash put to its end or taken from it. -/
theorem reverse_resolved {definition : Routes String} (hdefine : define settings serial definition = .ok (tree, next))
    {location : Location} (hobtained : location.Obtained)
    (hscheme : location.scheme = "http" ∨ location.scheme = "https") {found : Match}
    (hresolve : tree.resolve location.pathname = .ok (some found)) :
    ∃ name path, tree.nameOf? found.pattern = some name ∧ tree.reverse name (some found.params) none = .ok path ∧
      found.pattern.extract path = some found.params ∧ (settings.ignoreCase = false →
        path = location.pathname ∨ path = location.pathname ++ "/" ∨ location.pathname = path ++ "/") := by
  rw [resolve, resolve_eq_verdict, verdict_eq_ok_some_iff] at hresolve
  obtain ⟨-, hmem, hextract⟩ := mem_of_mem_leaders (hresolve ▸ List.mem_singleton_self found)
  obtain ⟨⟨name, _⟩, hleaf, rfl⟩ := List.mem_map.1 hmem
  have hnamed : tree.nameOf? found.pattern = some name :=
    (nameOf?_eq_some_iff fun first second => eq_of_mem_leaves hdefine).2 hleaf
  have hget : tree.get? name = some found.pattern := (Routes.get?_eq_some_iff (wellNamed_of_define hdefine)).2 hleaf
  have hvalues := Pattern.isSubstitutable_of_extract hextract (hobtained.isSpelled hscheme)
  obtain ⟨path, hbuild⟩ := (Pattern.build_ok_iff (Pattern.names_of_extract hextract)).2 hvalues
  refine ⟨name, path, hnamed, reverse_eq_ok_iff.2 ⟨_, hget, hbuild⟩, Pattern.extract_of_build_extract hextract hbuild,
    fun hcase => Pattern.eq_or_closed_of_build_extract hextract hbuild ?_⟩
  rw [ignoreCase_of_defineGroup (defineGroup_of_define hdefine) _ hmem, hcase]

/-- A definition in which a segment alone and one behind a fixed one are taken as parameters. -/
def shelfDefinition : Routes String :=
  .group "a" (.leaf "b" "/n/:a" .nil) (.leaf "c" "/:a" .nil)

/-- The tree of that definition. -/
def shelfTree : RouteTree :=
  .group "a" (.leaf "b" Pattern.notePattern .nil) (.leaf "c" { Pattern.slidePattern with serial := 1 } .nil)

/-- A location that dots and backslashes led to, with a slash at the end of its path. -/
def shelfLocation : Location :=
  ⟨"http://[::1]", "http://[::1]/n/%C3%A9%7B%2F%7D/?q", "/n/%C3%A9%7B%2F%7D/", "?q", ""⟩

/-- From the name of the route and the value that was taken, the path is built again, but for the slash at its end. -/
theorem reverse_resolved_shelfTree :
    define {} 0 shelfDefinition = .ok (shelfTree, 2) ∧
      Pattern.loopback.join "\\n/m/../%2E/é\x7b%2F\x7d/?q" = .ok shelfLocation ∧ shelfLocation.scheme = "http" ∧
      shelfTree.resolve shelfLocation.pathname = .ok (some ⟨Pattern.notePattern, ⟨[("a", "%C3%A9%7B%2F%7D")]⟩⟩) ∧
      ∃ name path, shelfTree.nameOf? Pattern.notePattern = some name ∧
        shelfTree.reverse name (some ⟨[("a", "%C3%A9%7B%2F%7D")]⟩) none = .ok path ∧
        Pattern.notePattern.extract path = some ⟨[("a", "%C3%A9%7B%2F%7D")]⟩ ∧
        (path = shelfLocation.pathname ∨ path = shelfLocation.pathname ++ "/" ∨
          shelfLocation.pathname = path ++ "/") := by
  have hdefine : define {} 0 shelfDefinition = .ok (shelfTree, 2) := by decide +kernel
  have hjoin : Pattern.loopback.join "\\n/m/../%2E/é\x7b%2F\x7d/?q" = .ok shelfLocation := by decide +kernel
  have hscheme : shelfLocation.scheme = "http" := by decide +kernel
  have hresolve : shelfTree.resolve shelfLocation.pathname =
      .ok (some ⟨Pattern.notePattern, ⟨[("a", "%C3%A9%7B%2F%7D")]⟩⟩) := by decide +kernel
  obtain ⟨name, path, hname, hreverse, hextract, hpath⟩ :=
    reverse_resolved hdefine (.join hjoin) (.inl hscheme) hresolve
  exact ⟨hdefine, hjoin, hscheme, hresolve, name, path, hname, hreverse, hextract, hpath rfl⟩

end RouteTree

end PageRouter
