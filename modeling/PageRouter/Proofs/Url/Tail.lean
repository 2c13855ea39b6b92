import Mathlib.Data.List.DropRight
import PageRouter.Proofs.Route.Rebuild
import PageRouter.Proofs.Url.Relative

namespace PageRouter.Url

/-- Whether a character neither starts a query nor a fragment. -/
def isInPath (c : Char) : Bool :=
  c != '?' && c != '#'

/-- The query and the fragment of a target, without the breaks in them. -/
def tail (text : List Char) : List Char :=
  dropBreaks (text.dropWhile isInPath)

/-- What neither starts a query nor a fragment is no part of the tail. -/
theorem tail_append {before : List Char} (hbefore : ∀ c ∈ before, isInPath c = true) (text : List Char) :
    tail (before ++ text) = tail text := by
  rw [tail, List.dropWhile_append_of_pos hbefore, tail]

private theorem tail_cons {c : Char} (hc : isInPath c = true) (text : List Char) : tail (c :: text) = tail text :=
  tail_append (List.forall_mem_singleton.2 hc) text

/-- The tail starts with the sign of a query or of a fragment. -/
theorem tail_of_not {c : Char} (hc : isInPath c = false) (text : List Char) :
    tail (c :: text) = dropBreaks (c :: text) := by
  rw [tail, List.dropWhile_cons_of_neg (Bool.eq_false_iff.1 hc)]

private theorem tail_eq_nil {text : List Char} (htext : ∀ c ∈ text, isInPath c = true) : tail text = [] := by
  rw [← List.append_nil text, tail_append htext]
  rfl

private theorem tail_dropWhile {p : Char → Bool} (hp : ∀ c, p c = true → isInPath c = true) (text : List Char) :
    tail (text.dropWhile p) = tail text := by
  rw [← tail_append fun c hc => hp c (List.mem_takeWhile_imp hc), List.takeWhile_append_dropWhile]

/-- A character that is shown is no break. -/
theorem isBreak_eq_false {c : Char} (hc : 0x20 < c.toNat) : isBreak c = false := by
  have hlow : ∀ other : Char, other.toNat ≤ 0x20 → c ≠ other := fun other hother heq => by
    rw [heq] at hc
    omega
  simp [isBreak, hlow '\t' (by decide), hlow '\n' (by decide), hlow '\r' (by decide)]

private theorem isInPath_of_isBreak {c : Char} (hc : isBreak c = true) : isInPath c = true := by
  simp only [isBreak, Bool.or_eq_true, beq_iff_eq] at hc
  rcases hc with (rfl | rfl) | rfl <;> decide

private theorem isInPath_of_isSlash {c : Char} (hc : isSlash c = true) : isInPath c = true := by
  simp only [isSlash, Bool.or_eq_true, beq_iff_eq] at hc
  rcases hc with rfl | rfl <;> decide

private theorem dropBreaks_dropBreaks (text : List Char) : dropBreaks (dropBreaks text) = dropBreaks text := by
  simp [dropBreaks]

/-- Breaks do not count. -/
theorem tail_dropBreaks (text : List Char) : tail (dropBreaks text) = tail text := by
  induction text with
  | nil => rfl
  | cons c text ih =>
    cases hbreak : isBreak c with
    | true =>
      have hdrop : dropBreaks (c :: text) = dropBreaks text := List.filter_cons_of_neg (by simp [hbreak])
      rw [hdrop, ih, tail_cons (isInPath_of_isBreak hbreak)]
    | false =>
      have hkeep : dropBreaks (c :: text) = c :: dropBreaks text := List.filter_cons_of_pos (by simp [hbreak])
      cases hpath : isInPath c with
      | true => rw [hkeep, tail_cons hpath, ih, tail_cons hpath]
      | false => rw [hkeep, tail_of_not hpath, ← hkeep, dropBreaks_dropBreaks, tail_of_not hpath]

/-- A slash in front does not count. -/
theorem tail_dropSlash (text : List Char) : tail (dropSlash text) = tail text := by
  unfold dropSlash
  split
  · rw [tail_cons (by decide)]
  · rw [tail_cons (by decide)]
  · rfl

/-- An address that has the query and the fragment of a target. -/
def EndsIn (url : Url) (text : List Char) : Prop :=
  ∃ before : Url, url = before.withTail (tail text)

/-- A path is extended by a text up to its tail, which is what the address ends in. -/
theorem endsIn_extend (url : Url) (path : List Char) {text target : List Char} (htail : tail text = tail target) :
    (url.extend path text).EndsIn target :=
  ⟨{ url with path := extendPath url.kind path (cutAtPathEnd text).1 }, htail ▸ rfl⟩

private theorem subset_cutAtPort (inside : Bool) (text : List Char) : (cutAtPort inside text).2 ⊆ text := by
  induction text generalizing inside with
  | nil => exact List.Subset.refl []
  | cons c text ih =>
    rw [cutAtPort]
    split
    · exact List.Subset.refl _
    · exact List.subset_cons_of_subset c (ih _)

private theorem subset_cutAtLastAt (text : List Char) : (cutAtLastAt text).2 ⊆ text := by
  rw [cutAtLastAt]
  split
  · intro c hc
    exact List.mem_reverse.1 ((List.takeWhile_sublist _).subset (List.mem_reverse.1 hc))
  · exact List.Subset.refl _

private theorem subset_of_readPort {scheme text rest : List Char} {port : Option Nat}
    (hread : readPort scheme text = .ok (port, rest)) : rest ⊆ text := by
  have hrest : rest = text.dropWhile Char.isDigit := by
    unfold readPort at hread
    simp only at hread
    split at hread
    · cases hread
    split at hread
    · cases hread
      rfl
    · cases hread
      rfl
  exact hrest ▸ (List.dropWhile_sublist _).subset

/-- A guard that has been passed can be left out. -/
theorem ok_of_guard {ε α : Type} {failing : Prop} [Decidable failing] {error : ε} {next : Unit → Except ε α}
    {result : α}
    (hguard : (if failing then (throw error : Except ε Unit) >>= next else next ()) = .ok result) :
    next () = .ok result := by
  split at hguard
  · cases hguard
  · exact hguard

private theorem ok_of_either {ε α β : Type} {choice : Prop} [Decidable choice] {first second : Except ε α}
    {next : α → Except ε β} {result : β}
    (heither : (if choice then first >>= next else second >>= next) = .ok result) :
    ∃ value, next value = .ok result := by
  split at heither
  · exact (bind_eq_ok_iff.1 heither).imp fun _ h => h.2
  · exact (bind_eq_ok_iff.1 heither).imp fun _ h => h.2

/-- What follows the host and the port of an address is what is no part of them, but for a backslash that could end
a port. -/
theorem rest_of_readAuthority {scheme text rest : List Char} {authority : Authority}
    (hread : readAuthority scheme text = .ok (authority, rest)) :
    ∃ before ⊆ text.takeWhile (!(SchemeKind.ofScheme scheme).endsAuthority ·),
      rest = before ++ text.dropWhile (!(SchemeKind.ofScheme scheme).endsAuthority ·) := by
  unfold readAuthority at hread
  extract_lets kind held after at hread
  rcases hat : cutAtLastAt held with ⟨user, hostAndPort⟩
  rw [hat] at hread
  have hread := ok_of_guard hread
  rcases hcolon : cutAtPort false hostAndPort with ⟨hostText, portText⟩
  rw [hcolon] at hread
  obtain ⟨host, hread⟩ := ok_of_either (ok_of_guard hread)
  obtain ⟨⟨port, before⟩, hport, hread⟩ := bind_eq_ok_iff.1 (ok_of_guard hread)
  obtain ⟨-, rfl⟩ := Prod.mk.inj (Except.ok.inj (ok_of_guard hread))
  have hbefore : before ⊆ portText := List.Subset.trans (subset_of_readPort hport) (List.drop_subset 1 portText)
  have hportText : portText ⊆ hostAndPort := by
    simpa only [hcolon] using subset_cutAtPort false hostAndPort
  have hhostAndPort : hostAndPort ⊆ held := by
    simpa only [hat] using subset_cutAtLastAt held
  exact ⟨before, List.Subset.trans hbefore (List.Subset.trans hportText hhostAndPort), rfl⟩

private theorem isInPath_of_not_endsAuthority {kind : SchemeKind} {c : Char} (hc : (!kind.endsAuthority c) = true) :
    isInPath c = true := by
  simp only [SchemeKind.endsAuthority, Bool.not_eq_true', Bool.or_eq_false_iff, beq_eq_false_iff_ne] at hc
  simp [isInPath, hc.1.1.2, hc.1.2]

/-- The host and the port of an address are no part of its tail. -/
theorem tail_of_readAuthority {scheme text rest : List Char} {authority : Authority}
    (hread : readAuthority scheme text = .ok (authority, rest)) : tail rest = tail text ∧ rest ⊆ text := by
  obtain ⟨before, hbefore, rfl⟩ := rest_of_readAuthority hread
  have hpath : ∀ c, (!(SchemeKind.ofScheme scheme).endsAuthority c) = true → isInPath c = true :=
    fun c => isInPath_of_not_endsAuthority
  refine ⟨?_, List.append_subset.2
    ⟨List.Subset.trans hbefore (List.takeWhile_sublist _).subset, (List.dropWhile_sublist _).subset⟩⟩
  rw [tail_append, tail_dropWhile hpath]
  intro c hc
  have hheld := hbefore hc
  exact hpath c (List.mem_takeWhile_imp (p := (!(SchemeKind.ofScheme scheme).endsAuthority ·)) hheld)

/-- What is read behind two slashes ends in the tail of the text. -/
theorem endsIn_readAfterSlashes {scheme text : List Char} {url : Url} (hbreaks : ∀ c ∈ text, isBreak c = false)
    (hread : readAfterSlashes scheme text = .ok url) : url.EndsIn text := by
  obtain ⟨⟨authority, rest⟩, hauthority, hread⟩ := bind_eq_ok_iff.1 hread
  obtain ⟨htail, hsubset⟩ := tail_of_readAuthority hauthority
  have hrest : dropBreaks rest = rest := List.filter_eq_self.2 fun c hc => by rw [hbreaks c (hsubset hc)]; rfl
  have hends (before : Url) (hown : tail rest = rest) : (before.withTail rest).EndsIn text :=
    ⟨before, congrArg _ (hown.symm.trans htail)⟩
  dsimp only at hread
  split at hread
  · cases hread
    exact endsIn_extend _ _ ((tail_dropSlash rest).trans htail)
  split at hread <;> cases hread
  · exact hends _ rfl
  · exact hends _ ((tail_of_not (c := '?') (by decide) _).trans hrest)
  · exact hends _ ((tail_of_not (c := '#') (by decide) _).trans hrest)
  · exact endsIn_extend _ _ htail
  · exact endsIn_extend _ _ htail

private theorem endsIn_readFileHost {text : List Char} {url : Url} (hread : readFileHost text = .ok url) :
    url.EndsIn text := by
  have hrest : tail (text.dropWhile fun c => !(isSlash c || c == '?' || c == '#')) = tail text := by
    refine tail_dropWhile (fun c hc => ?_) text
    simp only [Bool.not_eq_true', Bool.or_eq_false_iff, beq_eq_false_iff_ne] at hc
    simp [isInPath, hc.1.2, hc.2]
  unfold readFileHost at hread
  simp only at hread
  split at hread
  · cases hread
    split
    · exact endsIn_extend _ _ hrest
    · exact endsIn_extend _ _ rfl
  obtain ⟨host, -, hread⟩ := bind_eq_ok_iff.1 hread
  split at hread
  · cases hread
    exact endsIn_extend _ _ hrest
  · cases hread
    exact endsIn_extend _ _ ((tail_dropSlash _).trans hrest)

private theorem tail_drop_one {text : List Char} (hslash : text.head?.any isSlash = true) :
    tail (text.drop 1) = tail text := by
  cases text with
  | nil => rfl
  | cons c rest => exact (tail_cons (isInPath_of_isSlash hslash) rest).symm

section Rooted

variable {base url : Url} {rest : List Char}

/-- A target with a slash in front gives its tail to where it leads. -/
theorem endsIn_readRelative (hbreaks : ∀ c ∈ '/' :: rest, isBreak c = false)
    (hread : readRelative base ('/' :: rest) = .ok url) : url.EndsIn ('/' :: rest) := by
  change (if rest.head?.any isSlash = true then _ else _) = _ at hread
  split at hread
  · next hslash =>
    have htail : tail (rest.drop 1) = tail ('/' :: rest) :=
      (tail_drop_one hslash).trans (tail_cons (by decide) rest).symm
    split at hread
    · obtain ⟨before, rfl⟩ := endsIn_readAfterSlashes
        (fun c hc => hbreaks c (List.mem_cons_of_mem _ (List.mem_of_mem_drop hc))) hread
      exact ⟨before, congrArg _ htail⟩
    · obtain ⟨before, rfl⟩ := endsIn_readAfterSlashes
        (fun c hc => hbreaks c ((List.dropWhile_sublist _).subset hc)) hread
      exact ⟨before, congrArg _ (tail_dropWhile (fun c => isInPath_of_isSlash) _)⟩
  · cases hread
    exact endsIn_extend _ _ (tail_cons (by decide) rest).symm

/-- A file ends in the tail of the target. -/
theorem endsIn_readFile (hread : readFile (some base) ('/' :: rest) = .ok url) : url.EndsIn ('/' :: rest) := by
  change (if (rest.dropWhile isBreak).head?.any isSlash = true then _ else _) = _ at hread
  split at hread
  · next hslash =>
    have htail : tail ((rest.dropWhile isBreak).drop 1) = tail ('/' :: rest) := by
      rw [tail_drop_one hslash, tail_dropWhile fun c => isInPath_of_isBreak, tail_cons (by decide)]
    obtain ⟨before, rfl⟩ := endsIn_readFileHost hread
    exact ⟨before, congrArg _ htail⟩
  · cases hread
    exact endsIn_extend _ _ rfl

/-- Followed from anywhere, a target with a slash in front leads to an address that ends in its tail. -/
theorem endsIn_join {target : String} (hslash : (strip target.toList).head? = some '/')
    (hjoin : base.join target = .ok url) : url.EndsIn (strip target.toList) := by
  obtain ⟨rest, htarget⟩ := List.head?_eq_some_iff.1 hslash
  rw [htarget]
  have hscheme : cutScheme? ('/' :: rest) = none := rfl
  unfold join read at hjoin
  simp only [htarget, hscheme] at hjoin
  change (if base.isOpaque = true then _ else if (base.kind == .file) = true then _ else _) = _ at hjoin
  split at hjoin
  · cases hjoin
  split at hjoin
  · exact endsIn_readFile hjoin
  · have hbreaks : ∀ c ∈ dropBreaks ('/' :: rest), isBreak c = false := fun c hc => by
      simpa using (List.mem_filter.1 hc).2
    obtain ⟨before, rfl⟩ := endsIn_readRelative hbreaks hjoin
    exact ⟨before, congrArg _ (tail_dropBreaks ('/' :: rest))⟩

end Rooted

/-- A text that starts with a character that is shown is cut behind its last one only. -/
theorem exists_strip_append (before : List Char) {first last : Char} (hhead : before.head? = some first)
    (hfirst : 0x20 < first.toNat) (hgetLast : before.getLast? = some last) (hlast : 0x20 < last.toNat)
    (after : List Char) : ∃ rest, rest <+: after ∧ strip (before ++ after) = before ++ rest := by
  have hkeep {c : Char} {text : List Char} (hc : 0x20 < c.toNat) (htext : text.head? = some c) :
      text.dropWhile (fun c => decide (c.toNat ≤ 0x20)) = text := by
    obtain ⟨rest, rfl⟩ := List.head?_eq_some_iff.1 htext
    exact List.dropWhile_cons_of_neg (by simpa using hc)
  have hwhole : (before ++ after).head? = some first := by rw [List.head?_append, hhead, Option.some_or]
  have hreverse : before.reverse.head? = some last := by rw [List.head?_reverse, hgetLast]
  refine ⟨after.rdropWhile fun c => decide (c.toNat ≤ 0x20), List.rdropWhile_prefix _ after, ?_⟩
  rw [strip, hkeep hfirst hwhole, List.reverse_append, List.dropWhile_append, hkeep hlast hreverse, List.rdropWhile]
  split
  · next hempty => rw [List.isEmpty_iff.1 hempty, List.reverse_reverse, List.reverse_nil, List.append_nil]
  · rw [List.reverse_append, List.reverse_reverse]

/-- A text that is empty, or a fragment with its number sign. -/
def IsFragment (text : List Char) : Prop :=
  text = [] ∨ ∃ fragment, text = '#' :: fragment

private theorem IsFragment.dropBreaks_of_prefix {text rest : List Char} (htext : IsFragment text)
    (hrest : rest <+: text) : IsFragment (dropBreaks rest) := by
  rcases htext with rfl | ⟨fragment, rfl⟩
  · exact .inl (by rw [List.prefix_nil.1 hrest]; rfl)
  · rcases List.prefix_cons_iff.1 hrest with rfl | ⟨fragment, rfl, -⟩
    · exact .inl rfl
    · exact .inr ⟨dropBreaks fragment, rfl⟩

private theorem query_withTail_of_isFragment (url : Url) {text : List Char} (htext : IsFragment text) :
    (url.withTail text).query = none := by
  rcases htext with rfl | ⟨fragment, rfl⟩
  · rfl
  · rfl

private theorem query_withTail_question (url : Url) {query text : List Char} (hquery : '#' ∉ query)
    (htext : IsFragment text) : (url.withTail ('?' :: (query ++ text))).query =
      some (encodePart (isEncodedInQuery url.kind.isSpecial) query) := by
  have hall : ∀ c ∈ query, decide (c ≠ '#') = true := fun c hc => by
    have hne : c ≠ '#' := fun heq => hquery (heq ▸ hc)
    simpa using hne
  rw [withTail, List.takeWhile_append_of_pos hall, List.dropWhile_append_of_pos hall]
  rcases htext with rfl | ⟨fragment, rfl⟩
  · simp
  · simp [withFragment]

section Followed

variable {base url : Url} {target : String} {path : List Char} (hpath : ∀ c ∈ path, isInPath c = true)
  {fragment : List Char} (hfragment : IsFragment fragment) (hjoin : base.join target = .ok url)
include hpath hfragment hjoin

/-- A target that has a slash in front and no query leads to an address without one. -/
theorem query_join_of_no_query (htarget : target.toList = '/' :: path ++ fragment) : url.query = none := by
  have hends (text : List Char) (hstrip : strip target.toList = text) (hslash : text.head? = some '/')
      (htail : IsFragment (tail text)) : url.query = none := by
    obtain ⟨before, rfl⟩ := endsIn_join (hstrip ▸ hslash) hjoin
    rw [hstrip]
    exact query_withTail_of_isFragment before htail
  rcases hfragment with rfl | ⟨fragment, rfl⟩
  · obtain ⟨rest, hrest, hstrip⟩ := exists_strip_append ['/'] rfl (by decide) rfl (by decide) path
    refine hends ('/' :: rest) (by rw [htarget, List.append_nil]; exact hstrip) rfl (.inl (tail_eq_nil ?_))
    exact List.forall_mem_cons.2 ⟨by decide, fun c hc => hpath c (hrest.subset hc)⟩
  · obtain ⟨rest, -, hstrip⟩ := exists_strip_append ('/' :: path ++ ['#']) rfl (by decide)
      List.getLast?_concat (by decide) fragment
    refine hends ('/' :: path ++ ['#'] ++ rest) (by rw [htarget, List.append_cons, hstrip]) rfl
      (.inr ⟨dropBreaks rest, ?_⟩)
    rw [List.append_assoc, List.cons_append, tail_cons (by decide), tail_append hpath]
    rfl

/-- The query of a target that has a slash in front is the query of the address it leads to, if nothing in it has to
be encoded. -/
theorem query_join_of_query {query : List Char} (hne : query ≠ [])
    (hplain : ∀ c ∈ query, 0x20 < c.toNat ∧ c ≠ '#' ∧ ∀ special, isEncodedInQuery special c = false)
    (htarget : target.toList = '/' :: path ++ '?' :: query ++ fragment) : url.query = some query := by
  have hlast : ∃ last, ('/' :: path ++ '?' :: query).getLast? = some last ∧ 0x20 < last.toNat := by
    refine ⟨query.getLast hne, ?_, (hplain _ (List.getLast_mem hne)).1⟩
    rw [List.getLast?_append, List.getLast?_cons, List.getLast?_eq_getLast_of_ne_nil hne]
    rfl
  obtain ⟨last, hgetLast, hlast⟩ := hlast
  obtain ⟨rest, hrest, hstrip⟩ :=
    exists_strip_append ('/' :: path ++ '?' :: query) rfl (by decide) hgetLast hlast fragment
  rw [← htarget] at hstrip
  have hbreaks : dropBreaks query = query := List.filter_eq_self.2 fun c hc => by
    rw [isBreak_eq_false (hplain c hc).1]
    rfl
  have htail : tail ('/' :: path ++ '?' :: query ++ rest) = '?' :: (query ++ dropBreaks rest) := by
    rw [List.append_assoc, List.cons_append, tail_cons (by decide), tail_append hpath, List.cons_append,
      tail_of_not (by decide), dropBreaks, List.filter_cons_of_pos (by decide), List.filter_append]
    exact congrArg (fun text => '?' :: (text ++ dropBreaks rest)) hbreaks
  have hrest : IsFragment (dropBreaks rest) := hfragment.dropBreaks_of_prefix hrest
  obtain ⟨before, rfl⟩ := endsIn_join (by rw [hstrip]; rfl) hjoin
  rw [hstrip, htail, query_withTail_question before (fun hmem => (hplain _ hmem).2.1 rfl) hrest,
    encodePart_eq_self fun c hc => (hplain c hc).2.2 _]

end Followed

end PageRouter.Url

namespace PageRouter.Location

/-- A location is that of the address that was read. -/
theorem ofResult_eq_ok_iff {text : String} {outcome : Except UrlError Url} {location : Location} :
    ofResult text outcome = .ok location ↔ ∃ url, outcome = .ok url ∧ location = ofUrl url := by
  cases outcome with
  | error error => simp [ofResult]
  | ok url => simp [ofResult, eq_comm (a := location)]

/-- Following a target is joining addresses. -/
theorem join_eq_ok_iff {location result : Location} {target : String} :
    location.join target = .ok result ↔ ∃ base, Url.parse location.href = .ok base ∧
      ∃ url, base.join target = .ok url ∧ result = ofUrl url := by
  rw [join, ofResult_eq_ok_iff]
  simp only [bind_eq_ok_iff]
  grind

end PageRouter.Location
