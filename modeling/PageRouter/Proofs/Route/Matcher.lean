import Mathlib.Data.List.Flatten
import Mathlib.Data.List.Forall2
import PageRouter.Route.Matcher

namespace PageRouter

namespace Text

/-- A character that comes before all letters, and so is folded to itself. -/
def IsLow (sign : Char) : Prop :=
  0 < sign.toNat ∧ sign.toNat ≤ 0x40

instance (sign : Char) : Decidable (IsLow sign) :=
  inferInstanceAs (Decidable (_ ∧ _))

private theorem IsLow.ofNat_ne {sign : Char} (hsign : IsLow sign) {code : Nat} (hcode : 0x40 < code) :
    Char.ofNat code ≠ sign := by
  have hnat : (Char.ofNat code).toNat = code ∨ (Char.ofNat code).toNat = 0 := by
    by_cases hvalid : code.isValidChar
    · exact .inl (congrArg Char.toNat (dif_pos hvalid))
    · exact .inr (congrArg Char.toNat (dif_neg hvalid))
  rintro rfl
  unfold IsLow at hsign
  omega

/-- A character before all letters is what only it is folded to. -/
theorem IsLow.foldChar_eq_iff {sign : Char} (hsign : IsLow sign) {c : Char} : foldChar c = sign ↔ c = sign := by
  have hruns : ∀ run ∈ foldRuns, 0x40 < run.first ∧ 0x40 < run.target := by decide +kernel
  have himages : ∀ code, foldRuns.findSome? (·.image? c.toNat) = some code → 0x40 < code ∧ 0x40 < c.toNat := by
    intro code hcode
    obtain ⟨run, hrun, himage⟩ := List.exists_of_findSome?_eq_some hcode
    obtain ⟨hfirst, htarget⟩ := hruns run hrun
    simp only [FoldRun.image?, Option.ite_none_right_eq_some, Option.some.injEq] at himage
    omega
  unfold foldChar
  split
  · next code hcode =>
    obtain ⟨hbound, hc⟩ := himages code hcode
    refine iff_of_false (hsign.ofNat_ne hbound) ?_
    rintro rfl
    exact absurd hsign.2 (Nat.not_le.2 hc)
  · exact Iff.rfl

end Text

/-- Being the same letter goes both ways. -/
theorem isSameLetter_comm (ignoreCase : Bool) (a b : Char) :
    isSameLetter ignoreCase a b = isSameLetter ignoreCase b a := by
  cases ignoreCase with
  | false => exact Bool.beq_comm
  | true => exact Bool.beq_comm

/-- A character before all letters is the same letter as itself alone. -/
theorem isSameLetter_iff_of_isLow {ignoreCase : Bool} {sign c : Char} (hsign : Text.IsLow sign) :
    isSameLetter ignoreCase sign c = true ↔ c = sign := by
  have hself : Text.foldChar sign = sign := hsign.foldChar_eq_iff.2 rfl
  cases ignoreCase with
  | false => simp [isSameLetter, eq_comm (a := c)]
  | true => simp [isSameLetter, hself, eq_comm (a := sign), hsign.foldChar_eq_iff]

/-- The slash of a matcher reads a slash and nothing else, in both case modes. -/
theorem holds_only_slash_iff {ignoreCase : Bool} {c : Char} :
    (CharSet.only '/').holds ignoreCase c = true ↔ c = '/' :=
  isSameLetter_iff_of_isLow (by decide)

/-- What a parameter reads is anything but a slash, in both case modes. -/
theorem holds_allBut_slash_iff {ignoreCase : Bool} {c : Char} :
    (CharSet.allBut '/').holds ignoreCase c = true ↔ c ≠ '/' := by
  rw [CharSet.holds, Bool.not_eq_true', ← Bool.not_eq_true, isSameLetter_iff_of_isLow (by decide)]

namespace Expression

section Reading

variable {outer : List Expression} {current : Expression}

/-- An expression with some steps after it. -/
def followedBy (current : Expression) (steps : List Expression) : Expression :=
  steps.foldl both current

/-- Steps that read a text character by character. -/
def spelling (text : List Char) : List Expression :=
  text.map fun c => one (.only c)

private theorem followedBy_cons (step : Expression) (steps : List Expression) :
    current.followedBy (step :: steps) = (both current step).followedBy steps :=
  rfl

private theorem followedBy_append (steps more : List Expression) :
    current.followedBy (steps ++ more) = (current.followedBy steps).followedBy more :=
  List.foldl_append

/-- A character without a meaning of its own is read as itself. -/
theorem readAfter_cons_of_not_isSign {c : Char} (hc : isSign c = false) (rest : List Char) :
    readAfter outer current (c :: rest) = readAfter outer (both current (one (.only c))) rest := by
  have hne : ∀ sign, isSign sign = true → c ≠ sign := by
    rintro sign hsign rfl
    rw [hc] at hsign
    cases hsign
  rw [readAfter]
  · simp [hc]
  · rintro d more rfl -
    exact hne '\\' (by decide) rfl
  · rintro d more rfl -
    exact hne '[' (by decide) rfl
  all_goals
    rintro rfl
    exact hne _ (by decide) rfl

/-- Nothing in an escaped text keeps a meaning of its own. -/
theorem readAfter_escape_append (text rest : List Char) :
    readAfter outer current (escape text ++ rest) = readAfter outer (current.followedBy (spelling text)) rest := by
  induction text generalizing current with
  | nil => rfl
  | cons c text ih =>
    have hsplit : escape (c :: text) ++ rest = (if isSign c then ['\\', c] else [c]) ++ (escape text ++ rest) := by
      rw [escape, List.flatMap_cons, List.append_assoc, escape]
    rw [hsplit, spelling, List.map_cons, followedBy_cons]
    cases hc : isSign c with
    | true =>
      rw [if_pos rfl]
      change readAfter outer current ('\\' :: c :: (escape text ++ rest)) = _
      rw [readAfter, if_pos hc, ih, spelling]
    | false =>
      rw [if_neg Bool.false_ne_true, List.singleton_append, readAfter_cons_of_not_isSign hc, ih, spelling]

end Reading

end Expression

open Expression

/-- What a segment is read with. -/
def Segment.steps : Segment → List Expression
  | literal text => spelling text.toList
  | param _ => [group (both nothing (oneOrMore (.allBut '/')))]

/-- What segments are read with, each after a slash. -/
def segmentSteps (segments : List Segment) : List Expression :=
  segments.flatMap fun segment => one (.only '/') :: segment.steps

/-- Segments are read one after the other, each after a slash. -/
theorem segmentSteps_cons (segment : Segment) (more : List Segment) :
    segmentSteps (segment :: more) = one (.only '/') :: segment.steps ++ segmentSteps more :=
  rfl

/-- The matcher of a template: the steps of its segments, one after the other, from the front of a text to its end. -/
def Layout.matcher (layout : Layout) : Expression :=
  (both nothing textStart).followedBy (segmentSteps layout.segments ++ [atMostOne (.only '/'), textEnd])

/-- The text of a segment is read as its steps. -/
theorem readAfter_segment (segment : Segment) (outer : List Expression) (current : Expression) (rest : List Char) :
    readAfter outer current (segment.matcherText ++ rest) =
      readAfter outer (current.followedBy segment.steps) rest := by
  cases segment with
  | literal text => exact readAfter_escape_append text.toList rest
  | param name => rfl

private theorem readAfter_segments (segments : List Segment) (outer : List Expression) (current : Expression)
    (rest : List Char) :
    readAfter outer current (segments.flatMap (fun segment => '/' :: segment.matcherText) ++ rest) =
      readAfter outer (current.followedBy (segmentSteps segments)) rest := by
  induction segments generalizing current with
  | nil => rfl
  | cons segment more ih =>
    rw [List.flatMap_cons, List.append_assoc, List.cons_append, readAfter_cons_of_not_isSign (by decide),
      readAfter_segment, ih, segmentSteps_cons, followedBy_append, followedBy_cons]

/-- The text of a matcher is read as the matcher. -/
theorem read?_matcherText (layout : Layout) : read? layout.matcherText = some layout.matcher := by
  rw [read?, Layout.matcherText, String.toList_ofList, List.cons_append]
  change readAfter [] (both nothing textStart) _ = _
  rw [readAfter_segments, Layout.matcher, followedBy_append]
  rfl

namespace Expression

/-- The places that steps lead to one after the other. -/
def waysThrough (ignoreCase : Bool) : List Expression → Place → List Place
  | [], place => [place]
  | first :: more, place => (first.ways ignoreCase place).flatMap (waysThrough ignoreCase more)

section Ways

variable {ignoreCase : Bool} {behind ahead : List Char} {groups : List (List Char)} {last : Place}

/-- An expression with steps after it leads where the steps lead from its own places. -/
theorem ways_followedBy (current : Expression) (steps : List Expression) (place : Place) :
    (current.followedBy steps).ways ignoreCase place =
      (current.ways ignoreCase place).flatMap (waysThrough ignoreCase steps) := by
  induction steps generalizing current with
  | nil => exact (List.flatMap_singleton' _).symm
  | cons step steps ih =>
    rw [followedBy_cons, ih, ways, List.flatMap_assoc]
    rfl

/-- Steps lead on from the places that the steps before them lead to. -/
theorem waysThrough_append (steps more : List Expression) (place : Place) :
    waysThrough ignoreCase (steps ++ more) place =
      (waysThrough ignoreCase steps place).flatMap (waysThrough ignoreCase more) := by
  induction steps generalizing place with
  | nil => simp [waysThrough]
  | cons step steps ih =>
    rw [List.cons_append, waysThrough, waysThrough, List.flatMap_assoc]
    exact List.flatMap_congr fun next _ => ih next

/-- A step leads behind one character of its set. -/
theorem mem_step_iff {set : CharSet} :
    last ∈ step ignoreCase set ⟨behind, ahead, groups⟩ ↔
      ∃ c rest, ahead = c :: rest ∧ set.holds ignoreCase c = true ∧ last = ⟨c :: behind, rest, groups⟩ := by
  cases ahead with
  | nil => simp [step]
  | cons c rest =>
    rw [step]
    by_cases hc : set.holds ignoreCase c = true
    · simp [hc]
    · simp [hc]

/-- Repetition leads behind every stretch of its characters but the empty one. -/
theorem mem_stretches_iff {set : CharSet} :
    last ∈ stretches ignoreCase set groups behind ahead ↔
      ∃ read rest, read ≠ [] ∧ (∀ c ∈ read, set.holds ignoreCase c = true) ∧ ahead = read ++ rest ∧
        last = ⟨read.reverse ++ behind, rest, groups⟩ := by
  induction ahead generalizing behind with
  | nil =>
    simp only [stretches, List.not_mem_nil, false_iff]
    rintro ⟨read, rest, hne, -, hread, -⟩
    exact hne (List.append_eq_nil_iff.1 hread.symm).1
  | cons c ahead ih =>
    rw [stretches]
    by_cases hc : set.holds ignoreCase c = true
    · rw [if_pos hc, List.mem_append, List.mem_singleton, ih]
      -- Behind `c` stands a stretch of what follows, or nothing more is taken.
      constructor
      · rintro (⟨read, rest, -, hread, rfl, rfl⟩ | rfl)
        · exact ⟨c :: read, rest, List.cons_ne_nil _ _, List.forall_mem_cons.2 ⟨hc, hread⟩, rfl, by simp⟩
        · exact ⟨[c], ahead, List.cons_ne_nil _ _, List.forall_mem_singleton.2 hc, rfl, rfl⟩
      · rintro ⟨read, rest, hne, hread, hahead, rfl⟩
        obtain ⟨d, more, rfl⟩ := List.exists_cons_of_ne_nil hne
        obtain ⟨rfl, rfl⟩ := List.cons.inj hahead
        rcases more with _ | ⟨e, more⟩
        · exact .inr rfl
        · exact .inl ⟨e :: more, rest, List.cons_ne_nil _ _, (List.forall_mem_cons.1 hread).2, rfl, by simp⟩
    · rw [if_neg hc]
      simp only [List.not_mem_nil, false_iff]
      rintro ⟨read, rest, hne, hread, hahead, -⟩
      obtain ⟨d, more, rfl⟩ := List.exists_cons_of_ne_nil hne
      obtain ⟨rfl, -⟩ := List.cons.inj hahead
      exact hc (hread c List.mem_cons_self)

/-- Spelled steps lead behind the texts that are the same letter by letter. -/
theorem mem_waysThrough_spelling_iff {text : List Char} :
    last ∈ waysThrough ignoreCase (spelling text) ⟨behind, ahead, groups⟩ ↔
      ∃ piece rest, List.Forall₂ (fun c d => isSameLetter ignoreCase c d = true) text piece ∧ ahead = piece ++ rest ∧
        last = ⟨piece.reverse ++ behind, rest, groups⟩ := by
  induction text generalizing behind ahead with
  | nil =>
    simp [spelling, waysThrough]
  | cons c text ih =>
    rw [spelling, List.map_cons, waysThrough, List.mem_flatMap]
    simp only [ways, mem_step_iff]
    constructor
    · rintro ⟨_, ⟨d, rest, rfl, hd, rfl⟩, hlast⟩
      obtain ⟨piece, after, hpiece, rfl, rfl⟩ := ih.1 hlast
      exact ⟨d :: piece, after, .cons hd hpiece, rfl, by simp⟩
    · rintro ⟨piece, after, hpiece, rfl, rfl⟩
      cases hpiece with
      | @cons _ d _ piece hd hpiece =>
        exact ⟨_, ⟨d, piece ++ after, rfl, hd, rfl⟩, ih.2 ⟨piece, after, hpiece, rfl, by simp⟩⟩

/-- A group leads where what is in it leads, and keeps what was read. -/
theorem mem_ways_group_iff {set : CharSet} :
    last ∈ (group (both nothing (oneOrMore set))).ways ignoreCase ⟨behind, ahead, groups⟩ ↔
      ∃ read rest, read ≠ [] ∧ (∀ c ∈ read, set.holds ignoreCase c = true) ∧ ahead = read ++ rest ∧
        last = ⟨read.reverse ++ behind, rest, groups ++ [read]⟩ := by
  simp only [ways, List.flatMap_singleton, List.mem_map, mem_stretches_iff]
  constructor
  · rintro ⟨_, ⟨read, rest, hne, hread, rfl, rfl⟩, rfl⟩
    exact ⟨read, rest, hne, hread, rfl, by simp⟩
  · rintro ⟨read, rest, hne, hread, rfl, rfl⟩
    exact ⟨_, ⟨read, rest, hne, hread, rfl, rfl⟩, by simp⟩

/-- After its segments a path may be closed by a slash, and ends. -/
theorem mem_waysThrough_closing_iff :
    last ∈ waysThrough ignoreCase [atMostOne (.only '/'), textEnd] ⟨behind, ahead, groups⟩ ↔
      (ahead = [] ∨ ahead = ['/']) ∧ last = ⟨ahead.reverse ++ behind, [], groups⟩ := by
  simp only [waysThrough, ways, List.flatMap_singleton', List.mem_flatMap, List.mem_append, List.mem_singleton,
    mem_step_iff, holds_only_slash_iff]
  constructor
  · rintro ⟨_, ⟨c, rest, rfl, rfl, rfl⟩ | rfl, hlast⟩
    · split at hlast
      · next hrest =>
        obtain rfl : rest = [] := hrest
        exact ⟨.inr rfl, List.mem_singleton.1 hlast⟩
      · cases hlast
    · split at hlast
      · next hrest =>
        obtain rfl : ahead = [] := hrest
        exact ⟨.inl rfl, List.mem_singleton.1 hlast⟩
      · cases hlast
  · rintro ⟨rfl | rfl, rfl⟩
    · exact ⟨_, .inr rfl, by simp⟩
    · exact ⟨_, .inl ⟨'/', [], rfl, rfl, rfl⟩, by simp⟩

private theorem places_eq_cons (behind ahead : List Char) :
    ∃ later, places behind ahead = ⟨behind, ahead, []⟩ :: later ∧ ∀ place ∈ later, place.behind ≠ [] := by
  induction ahead generalizing behind with
  | nil => exact ⟨[], rfl, by simp⟩
  | cons c ahead ih =>
    obtain ⟨later, hplaces, hlater⟩ := ih (c :: behind)
    refine ⟨places (c :: behind) ahead, rfl, ?_⟩
    rw [hplaces]
    exact List.forall_mem_cons.2 ⟨List.cons_ne_nil _ _, hlater⟩

/-- An expression that can only be read from the front of a text is searched for there. -/
theorem search_eq_of_textStart {expression : Expression}
    (hstart : ∀ place, place.behind ≠ [] → expression.ways ignoreCase place = []) (text : String) :
    expression.search ignoreCase text =
      ((expression.ways ignoreCase ⟨[], text.toList, []⟩).head?).map fun last => last.groups.map String.ofList := by
  obtain ⟨later, hplaces, hlater⟩ := places_eq_cons [] text.toList
  have hnone : (later.findSome? fun place => (expression.ways ignoreCase place).head?) = none := by
    rw [List.findSome?_eq_none_iff]
    intro place hplace
    rw [hstart place (hlater place hplace), List.head?_nil]
  rw [search, hplaces, List.findSome?_cons, hnone]
  cases (expression.ways ignoreCase ⟨[], text.toList, []⟩).head? <;> rfl

end Ways

end Expression

end PageRouter
