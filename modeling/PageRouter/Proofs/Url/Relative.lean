import Mathlib.Data.List.TakeWhile
import PageRouter.Location
import PageRouter.Proofs.Url.Segments

namespace PageRouter.Url

@[simp] theorem scheme_withTail (url : Url) (tail : List Char) : (url.withTail tail).scheme = url.scheme := by
  unfold withTail
  split
  · dsimp only
    split <;> rfl
  · rfl
  · rfl

@[simp] theorem authority_withTail (url : Url) (tail : List Char) :
    (url.withTail tail).authority = url.authority := by
  unfold withTail
  split
  · dsimp only
    split <;> rfl
  · rfl
  · rfl

@[simp] theorem path_withTail (url : Url) (tail : List Char) : (url.withTail tail).path = url.path := by
  unfold withTail
  split
  · dsimp only
    split <;> rfl
  · rfl
  · rfl

@[simp] theorem scheme_extend (url : Url) (path text : List Char) : (url.extend path text).scheme = url.scheme :=
  scheme_withTail _ _

@[simp] theorem authority_extend (url : Url) (path text : List Char) :
    (url.extend path text).authority = url.authority :=
  authority_withTail _ _

/-- Extending a path takes the text up to the sign of a query or of a fragment. -/
theorem path_extend (url : Url) (path text : List Char) :
    (url.extend path text).path = extendPath url.kind path (cutAtPathEnd text).1 :=
  path_withTail _ _

/-- An address that has an authority, and a certain scheme. -/
def Stands (scheme : List Char) (url : Url) : Prop :=
  url.scheme = scheme ∧ url.authority.isSome = true

/-- What is read behind two slashes has the scheme in front of them, and an authority. -/
theorem stands_of_readAfterSlashes {scheme text : List Char} {url : Url}
    (hread : readAfterSlashes scheme text = .ok url) : url.Stands scheme := by
  unfold readAfterSlashes at hread
  rcases hauthority : readAuthority scheme text with error | ⟨authority, rest⟩
  · rw [hauthority] at hread
    cases hread
  · rw [hauthority] at hread
    simp only [bind, Except.bind] at hread
    split at hread
    · cases hread
      simp [Stands]
    · split at hread <;> cases hread <;> simp [Stands]

private theorem scheme_of_readFileHost {text : List Char} {url : Url} (hread : readFileHost text = .ok url) :
    url.scheme = fileUrl.scheme := by
  unfold readFileHost at hread
  simp only at hread
  split at hread
  · cases hread
    simp
  · simp only [bind, Except.bind] at hread
    split at hread
    · cases hread
    · split at hread
      · cases hread
        simp
      · cases hread
        split <;> simp

theorem scheme_fileRoot {base : Option Url} {text : List Char} : (fileRoot base text).1.scheme = fileUrl.scheme := by
  unfold fileRoot
  split
  · rfl
  · dsimp only
    split
    · rfl
    split
    · rfl
    · rfl

/-- What is read as a file, or relative to one, is a file. -/
theorem scheme_of_readFile {base : Option Url} (hbase : ∀ own ∈ base, own.scheme = fileUrl.scheme) {text : List Char}
    {url : Url} (hread : readFile base text = .ok url) : url.scheme = fileUrl.scheme := by
  unfold readFile at hread
  dsimp only at hread
  split at hread
  · split at hread
    · split at hread
      · exact scheme_of_readFileHost hread
      · cases hread
        rw [scheme_extend, scheme_fileRoot]
    · split at hread
      · cases hread
        exact scheme_extend _ _ _
      · next own =>
        have hown : own.scheme = fileUrl.scheme := hbase own rfl
        split at hread
        · cases hread
          rw [scheme_withTail, hown]
        split at hread
        · cases hread
          exact hown
        split at hread
        · cases hread
          exact scheme_extend _ _ _
        · cases hread
          rw [scheme_extend, hown]
  · split at hread
    · cases hread
      exact scheme_extend _ _ _
    · next own =>
      cases hread
      exact hbase own rfl

/-- What is read behind a scheme of its own has that scheme. -/
theorem scheme_of_readOther {scheme text : List Char} {url : Url} (hread : readOther scheme text = .ok url) :
    url.scheme = scheme := by
  unfold readOther at hread
  split at hread
  · exact (stands_of_readAfterSlashes hread).1
  · cases hread
    simp
  · cases hread
    simp

/-- What is read relative to a base has the scheme of the base. -/
theorem scheme_of_readRelative {base url : Url} {text : List Char} (hread : readRelative base text = .ok url) :
    url.scheme = base.scheme := by
  unfold readRelative at hread
  split at hread
  · cases hread
    rfl
  · cases hread
    exact scheme_withTail base _
  · cases hread
    rfl
  · split at hread
    · split at hread
      · exact (stands_of_readAfterSlashes hread).1
      · cases hread
        exact scheme_extend base _ _
    · cases hread
      exact scheme_extend base _ _

/-- There is one scheme of files. -/
theorem kind_eq_file_iff {url : Url} : url.kind = .file ↔ url.scheme = fileUrl.scheme := by
  rw [kind, SchemeKind.ofScheme]
  split
  · next hfile => exact iff_of_true rfl hfile
  · next hother => split <;> exact iff_of_false (by decide) hother

/-- Relative to a file there are only files. -/
theorem kind_of_readFile {base : Option Url} (hbase : ∀ own ∈ base, own.kind = .file) {text : List Char} {url : Url}
    (hread : readFile base text = .ok url) : url.kind = .file :=
  kind_eq_file_iff.2 (scheme_of_readFile (fun own hown => kind_eq_file_iff.1 (hbase own hown)) hread)

/-- How an address is read: behind a scheme of its own, or relative to the base. -/
inductive Reading (base : Option Url) (text : List Char) (url : Url) : Prop
  | file {own : Option Url} (hown : ∀ other ∈ own, base = some other ∧ other.kind = .file) {rest : List Char}
    (hread : readFile own rest = .ok url)
  | other {scheme rest : List Char} (hcut : cutScheme? (strip text) = some (scheme, rest))
    (hkind : SchemeKind.ofScheme scheme = .other) (hread : readOther scheme (dropBreaks rest) = .ok url)
  | web {scheme rest : List Char} (hcut : cutScheme? (strip text) = some (scheme, rest))
    (hkind : SchemeKind.ofScheme scheme = .web)
    (hread : readAfterSlashes scheme ((dropBreaks rest).dropWhile isSlash) = .ok url)
  | relative {own : Url} (hbase : base = some own) {rest : List Char} (hread : readRelative own rest = .ok url)
  | fragment {own : Url} (hbase : base = some own) (fragment : List Char) (hurl : url = own.withFragment fragment)

private theorem reading_of_readScheme {base : Option Url} {text scheme rest : List Char} {url : Url}
    (hcut : cutScheme? (strip text) = some (scheme, rest)) (hread : readScheme base scheme rest = .ok url) :
    Reading base text url := by
  unfold readScheme at hread
  split at hread
  · refine .file (fun other hother => ?_) hread
    obtain ⟨hbase, hkind⟩ := Option.filter_eq_some_iff.1 hother
    exact ⟨hbase, beq_iff_eq.1 hkind⟩
  · next hkind => exact .other hcut hkind hread
  · next hkind =>
    dsimp only at hread
    split at hread
    · split at hread
      · exact .relative rfl hread
      · exact .web hcut hkind hread
    · exact .web hcut hkind hread

/-- Every address is read in one of these ways. -/
theorem reading_of_read {base : Option Url} {text : List Char} {url : Url} (hread : read base text = .ok url) :
    Reading base text url := by
  unfold read at hread
  dsimp only at hread
  split at hread
  · next hcut => exact reading_of_readScheme hcut hread
  · cases hread
  · next own _ =>
    split at hread
    · exact .fragment rfl _ (Except.ok.inj hread).symm
    split at hread
    · cases hread
    split at hread
    · next hfile =>
      exact .file (fun other hother => ⟨hother, Option.some.inj hother ▸ beq_iff_eq.1 hfile⟩) hread
    · exact .relative rfl hread

/-- How an address of the web is read: with an authority of its own, or relative to a base that is one of the web. -/
inductive WebReading (base : Option Url) (url : Url) : Prop
  | absolute {scheme rest : List Char} (hread : readAfterSlashes scheme rest = .ok url)
  | relative {own : Url} (hbase : base = some own) (hkind : own.kind = .web) {rest : List Char}
    (hread : readRelative own rest = .ok url)
  | fragment {own : Url} (hbase : base = some own) (hkind : own.kind = .web) (fragment : List Char)
    (hurl : url = own.withFragment fragment)

/-- Every address of the web is read in one of these two ways. -/
theorem webReading_of_read {base : Option Url} {text : List Char} {url : Url} (hread : read base text = .ok url)
    (hweb : url.kind = .web) : WebReading base url := by
  cases reading_of_read hread with
  | file hown hread =>
    rw [kind_of_readFile (fun other hother => (hown other hother).2) hread] at hweb
    cases hweb
  | other _ hkind hread =>
    rw [kind, scheme_of_readOther hread, hkind] at hweb
    cases hweb
  | web _ _ hread => exact .absolute hread
  | @relative own hbase _ hread =>
    have hkind : own.kind = .web := by
      rw [kind, ← scheme_of_readRelative hread]
      exact hweb
    exact .relative hbase hkind hread
  | fragment hbase fragment hurl =>
    subst hurl
    exact .fragment hbase hweb fragment rfl

/-- An address of the web that was read by itself has an authority. -/
theorem authority_isSome_of_parse {text : String} {url : Url} (hparse : parse text = .ok url)
    (hweb : url.kind = .web) : url.authority.isSome = true := by
  cases webReading_of_read hparse hweb with
  | absolute hread => exact (stands_of_readAfterSlashes hread).2
  | relative hbase => cases hbase
  | fragment hbase => cases hbase

/-- The origin of an address of the web names its host and its port. -/
theorem origin_of_web {url : Url} (hweb : url.kind = .web) : url.origin = url.webOrigin?.getD "null".toList := by
  have hblob : url.scheme ≠ "blob".toList := by
    intro hscheme
    rw [kind, hscheme] at hweb
    exact absurd hweb (by decide)
  rw [origin, originWithin?, if_neg hblob]

/-- Whatever path is taken from the root of an address of the web, it leads nowhere else. -/
theorem origin_extend {url : Url} (hweb : url.kind = .web) (path text : List Char) :
    (url.extend path text).origin = url.origin := by
  have hkind : (url.extend path text).kind = url.kind := congrArg SchemeKind.ofScheme (scheme_extend url path text)
  rw [origin_of_web (hkind.trans hweb), origin_of_web hweb, webOrigin?, webOrigin?, hkind, authority_extend,
    scheme_extend]

/-- A text with no blanks at its ends is read as it is. -/
theorem strip_eq_self {text : List Char} (hfirst : ∀ c, text.head? = some c → 0x20 < c.toNat)
    (hlast : ∀ c, text.getLast? = some c → 0x20 < c.toNat) : strip text = text := by
  have hdrop {chars : List Char} (hhead : ∀ c, chars.head? = some c → 0x20 < c.toNat) :
      chars.dropWhile (fun c => decide (c.toNat ≤ 0x20)) = chars := by
    cases chars with
    | nil => rfl
    | cons c chars =>
      have hc : 0x20 < c.toNat := hhead c rfl
      exact List.dropWhile_cons_of_neg (by simpa using hc)
  rw [strip, hdrop hfirst, hdrop, List.reverse_reverse]
  simpa using hlast

/-- A target with one slash in front is followed from the root of an address of the web. -/
theorem join_rooted {base : Url} (hweb : base.kind = .web) (hauthority : base.authority.isSome = true)
    {target : String} {text : List Char} (htarget : strip target.toList = '/' :: text)
    (hrooted : (dropBreaks text).head?.any isSlash = false) :
    base.join target = .ok (base.extend ['/'] (dropBreaks text)) := by
  have hscheme : cutScheme? ('/' :: text) = none := rfl
  have hbase : base.isOpaque = false := by
    obtain ⟨authority, hsome⟩ := Option.isSome_iff_exists.1 hauthority
    simp [isOpaque, hsome]
  have hrelative : readRelative base ('/' :: dropBreaks text) = .ok (base.extend ['/'] (dropBreaks text)) := by
    change (if (dropBreaks text).head?.any isSlash = true then _ else _) = _
    rw [hrooted, if_neg Bool.false_ne_true]
  unfold join read
  simp only [htarget, hscheme]
  change (if base.isOpaque = true then _ else if (base.kind == .file) = true then _ else _) = _
  rw [hbase, hweb]
  exact hrelative

section Clean

variable {base : Url} {text : List Char} (hweb : base.kind = .web)
  (hclean : ∀ c ∈ text, c ≠ '\\' ∧ isBreak c = false)

include hweb hclean

/-- A target that no tab, line break or backslash is part of is followed as it is. -/
theorem join_clean (hauthority : base.authority.isSome = true) (hhead : text.head? ≠ some '/')
    (hlast : ∀ c, ('/' :: text).getLast? = some c → 0x20 < c.toNat) :
    base.join (String.ofList ('/' :: text)) = .ok (base.extend ['/'] text) := by
  have hwhole : dropBreaks text = text := List.filter_eq_self.2 fun c hc => by rw [(hclean c hc).2]; rfl
  have hstrip : strip (String.ofList ('/' :: text)).toList = '/' :: text := by
    rw [String.toList_ofList]
    exact strip_eq_self (fun c hc => Option.some.inj hc ▸ by decide) hlast
  have hrooted : (dropBreaks text).head?.any isSlash = false := by
    rw [hwhole]
    cases text with
    | nil => rfl
    | cons c text =>
      have hslash : c ≠ '/' := fun heq => hhead (congrArg some heq)
      have hback : c ≠ '\\' := (hclean c List.mem_cons_self).1
      simp [isSlash, hslash, hback]
  have hjoin := join_rooted hweb hauthority hstrip hrooted
  rwa [hwhole] at hjoin

/-- The path of a target without a query and a fragment is the target, percent-encoded. -/
theorem path_extend_clean (hquery : '?' ∉ text) (hfragment : '#' ∉ text)
    (hstays : ∀ segment ∈ Text.pieces '/' text, Stays segment) :
    (base.extend ['/'] text).path = encodePart isEncodedInPath ('/' :: text) := by
  have hall : ∀ c ∈ text, (c != '?' && c != '#') = true := fun c hc => by
    have hq : c ≠ '?' := fun heq => hquery (heq ▸ hc)
    have hf : c ≠ '#' := fun heq => hfragment (heq ▸ hc)
    simp [hq, hf]
  have hslash : isEncodedInPath '/' = false := by decide +kernel
  have hback : '\\' ∉ text := fun hmem => (hclean _ hmem).1 rfl
  rw [path_extend, hweb, cutAtPathEnd, List.takeWhile_eq_self_iff.2 hall,
    extendPath_web (fun c hc => (hclean c hc).2) hback hstays, encodePart_cons, hslash]
  rfl

end Clean

end PageRouter.Url

namespace PageRouter.Location

/-- A location that is on the web. -/
def OnWeb (location : Location) : Prop :=
  ∃ url, Url.parse location.href = .ok url ∧ url.kind = .web

/-- Following a target is joining it to the address of the location. -/
theorem join_of_parse {location : Location} {url : Url} (hurl : Url.parse location.href = .ok url)
    (target : String) : location.join target = ofResult target (url.join target) := by
  rw [join, hurl]
  rfl

/-- A target with one slash in front has the same path from everywhere on the web: it is followed from the root of the
address, which keeps its scheme, its host and its port. -/
theorem pathname_eq_of_rooted {first second firstTarget secondTarget : Location} (hfirst : first.OnWeb)
    (hsecond : second.OnWeb) {target : String} {text : List Char} (htarget : Url.strip target.toList = '/' :: text)
    (hrooted : (Url.dropBreaks text).head?.any Url.isSlash = false) (hfirstTarget : first.join target = .ok firstTarget)
    (hsecondTarget : second.join target = .ok secondTarget) : firstTarget.pathname = secondTarget.pathname := by
  have hpathname {location result : Location} (hweb : location.OnWeb) (hjoin : location.join target = .ok result) :
      result.pathname = String.ofList (Url.extendPath .web ['/'] (Url.cutAtPathEnd (Url.dropBreaks text)).1) := by
    obtain ⟨url, hurl, hkind⟩ := hweb
    rw [join_of_parse hurl, Url.join_rooted hkind (Url.authority_isSome_of_parse hurl hkind) htarget hrooted] at hjoin
    rw [← Except.ok.inj hjoin, ofUrl]
    dsimp only
    rw [Url.path_extend, hkind]
  rw [hpathname hfirst hfirstTarget, hpathname hsecond hsecondTarget]

end PageRouter.Location
