import PageRouter.Proofs.Route.Grammar
import PageRouter.Proofs.Route.Reversal

namespace PageRouter

namespace Pattern

variable {pattern : Pattern} {path other : String} {params others : Params}

/-- Paths that differ by one slash at the end, if at all, give the same parameters. -/
theorem params_eq_of_agree (hextract : pattern.extract path = some params)
    (hother : pattern.extract other = some others)
    (hagree : path = other ∨ path = other ++ "/" ∨ other = path ++ "/") : params = others := by
  obtain ⟨pieces, hreads, rfl⟩ := extract_eq_some_iff.1 hextract
  obtain ⟨piecesOther, hreadsOther, rfl⟩ := extract_eq_some_iff.1 hother
  rw [hreads.eq_of_agree hreadsOther hagree]

end Pattern

private theorem extract_of_resolve {patterns : List Pattern} {path : String} {found : Match}
    (hresolve : resolve patterns path = .ok (some found)) : found.pattern.extract path = some found.params := by
  rw [resolve_eq_verdict, verdict_eq_ok_some_iff] at hresolve
  obtain ⟨-, -, hextract⟩ := mem_of_mem_leaders (hresolve ▸ List.mem_singleton_self found)
  exact hextract

namespace Match

variable {a b c : Match}

/-- Two matches are one route if they have one pattern and the same values for its names, whatever other names they
have. -/
theorem sameRoute_iff : a.sameRoute b = true ↔
    a.pattern = b.pattern ∧ ∀ name ∈ a.pattern.names, a.params.get? name = b.params.get? name := by
  simp [sameRoute]

private theorem sameRoute_refl (a : Match) : a.sameRoute a = true :=
  sameRoute_iff.2 ⟨rfl, fun _ _ => rfl⟩

/-- Which side the names are taken from makes no difference, since both have one pattern. -/
theorem sameRoute_symm (h : a.sameRoute b = true) : b.sameRoute a = true := by
  obtain ⟨hpattern, hvalues⟩ := sameRoute_iff.1 h
  exact sameRoute_iff.2 ⟨hpattern.symm, fun name hname => (hvalues name (hpattern ▸ hname)).symm⟩

private theorem sameRoute_trans (hab : a.sameRoute b = true) (hbc : b.sameRoute c = true) : a.sameRoute c = true := by
  obtain ⟨hpattern, hvalues⟩ := sameRoute_iff.1 hab
  obtain ⟨hpattern', hvalues'⟩ := sameRoute_iff.1 hbc
  refine sameRoute_iff.2 ⟨hpattern.trans hpattern', fun name hname => ?_⟩
  rw [hvalues name hname, hvalues' name (hpattern ▸ hname)]

/-- Matches of one pattern are one route exactly if they have the same parameters in the same order. -/
theorem sameRoute_iff_of_extract {path other : String} (ha : a.pattern.extract path = some a.params)
    (hb : b.pattern.extract other = some b.params) :
    a.sameRoute b = true ↔ a.pattern = b.pattern ∧ a.params = b.params := by
  rw [sameRoute_iff]
  refine and_congr_right fun hpattern => ⟨fun hvalues => ?_, fun hparams _ _ => by rw [hparams]⟩
  have hnames : a.params.names = a.pattern.names := Pattern.names_of_extract ha
  refine Params.eq_of_get?_eq (hnames ▸ a.pattern.nodup_names) ?_ (hnames ▸ hvalues)
  rw [hnames, hpattern, Pattern.names_of_extract hb]

/-- Being one route is an equivalence between any matches. Two matches that resolving gives, be it of other paths among
other patterns, are one route exactly if their patterns are the same and so are their parameters in order. Paths that
differ by one slash at the end, if at all, never tell matches of one pattern apart, and where case counts no other
paths fail to. -/
theorem sameRoute_of_resolve {patterns patternsOther : List Pattern} {path other : String}
    (ha : resolve patterns path = .ok (some a)) (hb : resolve patternsOther other = .ok (some b)) :
    Equivalence (fun first second : Match => first.sameRoute second = true) ∧
      (a.sameRoute b = true ↔ a.pattern = b.pattern ∧ a.params = b.params) ∧
      (a.pattern = b.pattern → path = other ∨ path = other ++ "/" ∨ other = path ++ "/" → a.sameRoute b = true) ∧
      (a.pattern.ignoreCase = false → (a.sameRoute b = true ↔
        a.pattern = b.pattern ∧ (path = other ∨ path = other ++ "/" ∨ other = path ++ "/"))) := by
  have hextract := extract_of_resolve ha
  have hextractOther := extract_of_resolve hb
  have hsame := sameRoute_iff_of_extract hextract hextractOther
  have hagree (hpattern : a.pattern = b.pattern)
      (hpaths : path = other ∨ path = other ++ "/" ∨ other = path ++ "/") : a.sameRoute b = true :=
    hsame.2 ⟨hpattern, Pattern.params_eq_of_agree hextract (hpattern ▸ hextractOther) hpaths⟩
  refine ⟨⟨sameRoute_refl, sameRoute_symm, sameRoute_trans⟩, hsame, hagree, fun hcase => ⟨fun hroute => ?_, ?_⟩⟩
  · obtain ⟨hpattern, hparams⟩ := hsame.1 hroute
    refine ⟨hpattern, Pattern.agree_of_params_eq hextract ?_ hcase⟩
    rw [hpattern, hparams, hextractOther]
  · exact fun ⟨hpattern, hpaths⟩ => hagree hpattern hpaths

/-- A path with and without a slash at its end is one route, among other patterns as well. -/
theorem sameRoute_of_resolve_memoPattern :
    resolve [Pattern.memoPattern] "/é//a" = .ok (some ⟨Pattern.memoPattern, ⟨[("b", "é"), ("a", "a")]⟩⟩) ∧
      resolve [Pattern.overviewPattern, Pattern.memoPattern] "/é//a/" =
        .ok (some ⟨Pattern.memoPattern, ⟨[("b", "é"), ("a", "a")]⟩⟩) ∧
      (⟨Pattern.memoPattern, ⟨[("b", "é"), ("a", "a")]⟩⟩ : Match).sameRoute
        ⟨Pattern.memoPattern, ⟨[("b", "é"), ("a", "a")]⟩⟩ = true := by
  have hopen : resolve [Pattern.memoPattern] "/é//a" =
      .ok (some ⟨Pattern.memoPattern, ⟨[("b", "é"), ("a", "a")]⟩⟩) := by decide +kernel
  have hclosed : resolve [Pattern.overviewPattern, Pattern.memoPattern] "/é//a/" =
      .ok (some ⟨Pattern.memoPattern, ⟨[("b", "é"), ("a", "a")]⟩⟩) := by decide +kernel
  obtain ⟨-, -, -, hpaths⟩ := sameRoute_of_resolve hopen hclosed
  exact ⟨hopen, hclosed, (hpaths rfl).2 ⟨rfl, .inr (.inr rfl)⟩⟩

/-- Where case does not count, paths that differ in a letter of a literal segment lead to one route. -/
example : Pattern.overviewPattern.extract "/Über//x/y" = Pattern.overviewPattern.extract "/üBER//x/y/" := by
  decide +kernel

end Match

end PageRouter
