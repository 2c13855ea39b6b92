import PageRouter.Proofs.Url.CharacterParts
import PageRouter.Text.Split

namespace PageRouter.Url

/-- All parts of the characters of a text, in the order in which they come. -/
def takeApart (text : List Char) : List Char :=
  text.flatMap (decomposeChar 2)

/-- Parts with their marks in order, each inserted from the right. -/
def orderMarks (parts : List Char) : List Char :=
  parts.foldr insertMark []

private theorem decompose_eq (text : List Char) : decompose text = orderMarks (takeApart text) :=
  rfl

private theorem takeApart_append (front back : List Char) :
    takeApart (front ++ back) = takeApart front ++ takeApart back :=
  List.flatMap_append

private theorem takeApart_cons (c : Char) (text : List Char) :
    takeApart (c :: text) = decomposeChar 2 c ++ takeApart text :=
  List.flatMap_cons

private theorem decomposeChar_of_none {c : Char} (hparts : parts? c = none) (depth : Nat) :
    decomposeChar depth c = [c] := by
  cases depth with
  | zero => rfl
  | succ depth => rw [decomposeChar, hparts]

/-- Two steps take everything apart. -/
theorem decomposeChar_of_some {c first second : Char} (hparts : parts? c = some (first, second)) :
    decomposeChar 2 c = decomposeChar 2 first ++ [second] := by
  rw [decomposeChar, hparts]
  dsimp only
  rcases hfirst : parts? first with _ | ⟨first', second'⟩
  · rw [decomposeChar_of_none hfirst, decomposeChar_of_none hfirst]
  · have hnone := parts?_first_first hparts hfirst
    rw [decomposeChar, hfirst, decomposeChar, hfirst]
    dsimp only
    rw [decomposeChar_of_none hnone, decomposeChar_of_none hnone]

/-- What a character is taken apart into stands for itself. -/
theorem parts?_of_mem_decomposeChar {c part : Char} (hpart : part ∈ decomposeChar 2 c) : parts? part = none := by
  rcases hparts : parts? c with _ | ⟨first, second⟩
  · rw [decomposeChar_of_none hparts] at hpart
    rwa [List.mem_singleton.1 hpart]
  · rw [decomposeChar_of_some hparts] at hpart
    rcases List.mem_append.1 hpart with hpart | hpart
    · rcases hfirst : parts? first with _ | ⟨first', second'⟩
      · rw [decomposeChar_of_none hfirst] at hpart
        rwa [List.mem_singleton.1 hpart]
      · rw [decomposeChar_of_some hfirst, decomposeChar_of_none (parts?_first_first hparts hfirst)] at hpart
        rcases List.mem_pair.1 hpart with rfl | rfl
        · exact parts?_first_first hparts hfirst
        · exact parts?_second hfirst
    · rw [List.mem_singleton.1 hpart]
      exact parts?_second hparts

private theorem takeApart_eq_self {text : List Char} (htext : ∀ c ∈ text, parts? c = none) : takeApart text = text := by
  induction text with
  | nil => rfl
  | cons c text ih =>
    obtain ⟨hc, htext⟩ := List.forall_mem_cons.1 htext
    rw [takeApart_cons, decomposeChar_of_none hc, ih htext, List.singleton_append]

private theorem insertMark_cons_pos {c d : Char} (hbehind : combiningClass d ≠ 0 ∧ combiningClass d < combiningClass c)
    (text : List Char) : insertMark c (d :: text) = d :: insertMark c text := by
  rw [insertMark, if_pos hbehind]

private theorem insertMark_cons_neg {c d : Char}
    (hbefore : ¬(combiningClass d ≠ 0 ∧ combiningClass d < combiningClass c))
    (text : List Char) : insertMark c (d :: text) = c :: d :: text := by
  rw [insertMark, if_neg hbefore]

private theorem mem_insertMark {c d : Char} {text : List Char} : d ∈ insertMark c text ↔ d = c ∨ d ∈ text := by
  induction text with
  | nil => rw [insertMark, List.mem_singleton, List.mem_nil_iff, or_false]
  | cons first text ih =>
    rw [insertMark]
    split
    · rw [List.mem_cons, ih, List.mem_cons, or_left_comm]
    · rw [List.mem_cons]

private theorem mem_orderMarks {parts : List Char} {c : Char} : c ∈ orderMarks parts ↔ c ∈ parts := by
  induction parts with
  | nil => rfl
  | cons first parts ih =>
    have hcons : orderMarks (first :: parts) = insertMark first (orderMarks parts) := rfl
    rw [hcons, mem_insertMark, ih, List.mem_cons]

/-- Everything in a text that was taken apart stands for itself. -/
theorem parts?_of_mem_decompose {text : List Char} {c : Char} (hc : c ∈ decompose text) : parts? c = none := by
  rw [decompose_eq, mem_orderMarks] at hc
  obtain ⟨whole, -, hc⟩ := List.mem_flatMap.1 hc
  exact parts?_of_mem_decomposeChar hc

/-- A text whose marks are in the order of their classes, between each two characters that are no marks. -/
def IsOrdered (text : List Char) : Prop :=
  text.IsChain fun c d => combiningClass d = 0 ∨ combiningClass c ≤ combiningClass d

/-- Inserting a mark keeps the order. -/
theorem IsOrdered.insertMark {text : List Char} (htext : IsOrdered text) (c : Char) : IsOrdered (insertMark c text) := by
  induction text with
  | nil => exact List.isChain_singleton c
  | cons d text ih =>
    obtain ⟨hd, hmore⟩ := List.isChain_cons.1 htext
    rw [Url.insertMark]
    split
    · next hbehind =>
      refine List.isChain_cons.2 ⟨fun e he => ?_, ih hmore⟩
      -- Behind `d` stands what stood there before, or the inserted mark, which is of a higher class.
      cases text with
      | nil =>
        cases he
        exact .inr (Nat.le_of_lt hbehind.2)
      | cons e' text =>
        rw [Url.insertMark] at he
        split at he
        · exact hd e he
        · cases he
          exact .inr (Nat.le_of_lt hbehind.2)
    · next hbefore =>
      refine List.isChain_cons_cons.2 ⟨?_, htext⟩
      omega

/-- The marks are in order when all are inserted. -/
theorem isOrdered_orderMarks (parts : List Char) : IsOrdered (orderMarks parts) := by
  induction parts with
  | nil => exact List.isChain_nil
  | cons c parts ih => exact ih.insertMark c

private theorem insertMark_of_isOrdered {c : Char} {text : List Char} (htext : IsOrdered (c :: text)) :
    insertMark c text = c :: text := by
  cases text with
  | nil => rfl
  | cons d text =>
    have hd := (List.isChain_cons_cons.1 htext).1
    rw [insertMark, if_neg (by omega)]

/-- Marks that are in order stay where they are. -/
theorem orderMarks_eq_self {text : List Char} (htext : IsOrdered text) : orderMarks text = text := by
  induction text with
  | nil => rfl
  | cons c text ih =>
    have hcons : orderMarks (c :: text) = insertMark c (orderMarks text) := rfl
    rw [hcons, ih (List.isChain_cons.1 htext).2, insertMark_of_isOrdered htext]

/-- Marks of different classes can be inserted in any order. -/
theorem insertMark_comm {c d : Char} (hzero : combiningClass c ≠ 0) (hlt : combiningClass c < combiningClass d)
    (text : List Char) : insertMark d (insertMark c text) = insertMark c (insertMark d text) := by
  have hcd (text : List Char) : insertMark d (c :: text) = c :: insertMark d text := insertMark_cons_pos ⟨hzero, hlt⟩ text
  have hdc (text : List Char) : insertMark c (d :: text) = c :: d :: text := insertMark_cons_neg (by omega) text
  induction text with
  | nil => exact (hcd []).trans (hdc []).symm
  | cons e text ih =>
    -- Both marks pass `e`, or only `d` does, or neither.
    by_cases hc : combiningClass e ≠ 0 ∧ combiningClass e < combiningClass c
    · have hd : combiningClass e ≠ 0 ∧ combiningClass e < combiningClass d := ⟨hc.1, hc.2.trans hlt⟩
      rw [insertMark_cons_pos hc, insertMark_cons_pos hd, ih, insertMark_cons_pos hd, insertMark_cons_pos hc]
    · rw [insertMark_cons_neg hc, hcd]
      by_cases hd : combiningClass e ≠ 0 ∧ combiningClass e < combiningClass d
      · rw [insertMark_cons_pos hd, insertMark_cons_neg hc]
      · rw [insertMark_cons_neg hd, hdc]

/-- A mark can be put in front of marks of lower classes before the marks are ordered. -/
theorem orderMarks_front {marks : List Char} {c : Char}
    (hmarks : ∀ mark ∈ marks, combiningClass mark ≠ 0 ∧ combiningClass mark < combiningClass c) (rest : List Char) :
    insertMark c (orderMarks (marks ++ rest)) = orderMarks (marks ++ c :: rest) := by
  induction marks with
  | nil => rfl
  | cons mark marks ih =>
    obtain ⟨⟨hzero, hlt⟩, hmarks⟩ := List.forall_mem_cons.1 hmarks
    have hcons (parts : List Char) : orderMarks (mark :: parts) = insertMark mark (orderMarks parts) := rfl
    rw [List.cons_append, List.cons_append, hcons, hcons, insertMark_comm hzero hlt, ih hmarks]

private theorem orderMarks_append (front back : List Char) :
    orderMarks (front ++ back) = front.foldr insertMark (orderMarks back) :=
  List.foldr_append

/-- What composing knows while it goes through a text in order: the marks that stay behind the base, the last one
first, and the rest of the text. -/
structure Held (marks rest : List Char) : Prop where
  ordered : IsOrdered rest
  nonzero : ∀ mark ∈ marks, combiningClass mark ≠ 0
  sorted : marks.Pairwise fun later earlier => combiningClass earlier ≤ combiningClass later
  before : ∀ c ∈ rest.head?, combiningClass c ≠ 0 → ∀ mark ∈ marks, combiningClass mark ≤ combiningClass c

private theorem Held.reaches {c : Char} {marks rest : List Char} (hheld : Held marks (c :: rest))
    (hreaches : marks.head?.all (combiningClass · < combiningClass c) = true) :
    ∀ mark ∈ marks, combiningClass mark < combiningClass c := by
  cases marks with
  | nil => exact List.forall_mem_nil _
  | cons last marks =>
    have hlast : combiningClass last < combiningClass c := by simpa using hreaches
    refine List.forall_mem_cons.2 ⟨hlast, fun mark hmark => ?_⟩
    exact Nat.lt_of_le_of_lt ((List.pairwise_cons.1 hheld.sorted).1 mark hmark) hlast

/-- The class of what follows a mark is no lower, unless it is zero. -/
theorem Held.next {c : Char} {marks rest : List Char} (hheld : Held marks (c :: rest)) :
    IsOrdered rest ∧ ∀ d ∈ rest.head?, combiningClass d ≠ 0 → combiningClass c ≤ combiningClass d := by
  obtain ⟨hnext, hrest⟩ := List.isChain_cons.1 hheld.ordered
  exact ⟨hrest, fun d hd hzero => (hnext d hd).resolve_left hzero⟩

/-- A character that is made one with the base was reached over marks of lower classes only. -/
theorem Held.compose {c : Char} {marks rest : List Char} (hheld : Held marks (c :: rest))
    (hreaches : ∀ mark ∈ marks, combiningClass mark < combiningClass c) : Held marks rest where
  ordered := hheld.next.1
  nonzero := hheld.nonzero
  sorted := hheld.sorted
  before d hd hzero mark hmark := Nat.le_of_lt (Nat.lt_of_lt_of_le (hreaches mark hmark) (hheld.next.2 d hd hzero))

/-- A mark that is not made one with the base stays behind it. -/
theorem Held.keep {c : Char} {marks rest : List Char} (hheld : Held marks (c :: rest)) (hc : combiningClass c ≠ 0) :
    Held (c :: marks) rest where
  ordered := hheld.next.1
  nonzero := List.forall_mem_cons.2 ⟨hc, hheld.nonzero⟩
  sorted := List.pairwise_cons.2 ⟨hheld.before c rfl hc, hheld.sorted⟩
  before d hd hzero := by
    have hcd := hheld.next.2 d hd hzero
    exact List.forall_mem_cons.2 ⟨hcd, fun mark hmark => (hheld.before c rfl hc mark hmark).trans hcd⟩

private theorem held_nil {rest : List Char} (hrest : IsOrdered rest) : Held [] rest :=
  ⟨hrest, List.forall_mem_nil _, List.Pairwise.nil, fun _ _ _ => List.forall_mem_nil _⟩

/-- What is made of a base and the character behind it, if nothing cuts it off. -/
def reached? (base : Char) (marks : List Char) (c : Char) : Option Char :=
  if marks.head?.all (combiningClass · < combiningClass c) then composite? base c else none

private theorem reached?_eq_some_iff {base c composite : Char} {marks : List Char} :
    reached? base marks c = some composite ↔
      marks.head?.all (combiningClass · < combiningClass c) = true ∧ composite? base c = some composite := by
  rw [reached?, Option.ite_none_right_eq_some]

private theorem reached?_eq_none {base c : Char} (hnone : composite? base c = none) (marks : List Char) :
    reached? base marks c = none := by
  rw [reached?, hnone, ite_self]

private theorem composeFrom_some {base c composite : Char} {marks : List Char}
    (hreached : reached? base marks c = some composite)
    (rest : List Char) : composeFrom base marks (c :: rest) = composeFrom composite marks rest := by
  rw [reached?] at hreached
  rw [composeFrom, hreached]

private theorem composeFrom_none {base c : Char} {marks : List Char} (hreached : reached? base marks c = none)
    (rest : List Char) : composeFrom base marks (c :: rest) =
      if combiningClass c = 0 then base :: marks.reverse ++ composeFrom c [] rest
      else composeFrom base (c :: marks) rest := by
  rw [reached?] at hreached
  rw [composeFrom, hreached]

/-- Composing what has been taken apart. -/
def recompose : List Char → List Char
  | [] => []
  | c :: rest => composeFrom c [] rest

private theorem compose_eq (text : List Char) : compose text = recompose (decompose text) := by
  rw [compose]
  cases decompose text <;> rfl

/-- Composing a text whose marks are in order keeps its parts. -/
theorem decompose_composeFrom {base : Char} {marks rest : List Char} (hheld : Held marks rest)
    (hmarks : ∀ mark ∈ marks, parts? mark = none) (hrest : ∀ c ∈ rest, parts? c = none) :
    decompose (composeFrom base marks rest) = orderMarks (decomposeChar 2 base ++ (marks.reverse ++ rest)) := by
  have hkept {marks : List Char} (hmarks : ∀ mark ∈ marks, parts? mark = none) :
      takeApart marks.reverse = marks.reverse :=
    takeApart_eq_self fun mark hmark => hmarks mark (List.mem_reverse.1 hmark)
  -- The induction is on what is not composed yet. Its marks are in order behind those that were passed over, which is
  -- what `Held` says.
  induction rest generalizing base marks with
  | nil => rw [composeFrom, decompose_eq, takeApart_cons, hkept hmarks, List.append_nil]
  | cons c rest ih =>
    obtain ⟨hc, hrest⟩ := List.forall_mem_cons.1 hrest
    rcases hreached : reached? base marks c with _ | composite
    · rw [composeFrom_none hreached]
      split
      · have hfrom : decompose (composeFrom c [] rest) = _ := ih (held_nil hheld.next.1) (List.forall_mem_nil _) hrest
        rw [decomposeChar_of_none hc, List.reverse_nil, List.nil_append, List.singleton_append, decompose_eq] at hfrom
        rw [decompose_eq, List.cons_append, takeApart_cons, takeApart_append, hkept hmarks, ← List.append_assoc,
          orderMarks_append, hfrom, ← orderMarks_append, List.append_assoc]
      · next hzero =>
        rw [ih (hheld.keep hzero) (List.forall_mem_cons.2 ⟨hc, hmarks⟩) hrest, List.reverse_cons, List.append_assoc,
          List.singleton_append]
    · rw [composeFrom_some hreached]
      obtain ⟨hreaches, hcomposite⟩ := reached?_eq_some_iff.1 hreached
      -- A mark that is reached was reached over marks of lower classes only, so that it may as well stand right
      -- behind the base.
      have hbelow := hheld.reaches hreaches
      have hfront := orderMarks_front
        (fun mark (hmark : mark ∈ marks.reverse) =>
          ⟨hheld.nonzero mark (List.mem_reverse.1 hmark), hbelow mark (List.mem_reverse.1 hmark)⟩) rest
      rw [ih (hheld.compose hbelow) hmarks hrest, decomposeChar_of_some (parts?_of_composite? hcomposite),
        List.append_assoc, orderMarks_append, orderMarks_append [c],
        orderMarks_append (decomposeChar 2 base) (marks.reverse ++ c :: rest), ← hfront]
      rfl

/-- A composed text has the parts of the text that it was made of. -/
theorem decompose_compose (text : List Char) : decompose (compose text) = decompose text := by
  have hordered : IsOrdered (decompose text) := isOrdered_orderMarks _
  have hparts : ∀ c ∈ decompose text, parts? c = none := fun c hc => parts?_of_mem_decompose hc
  rw [compose_eq]
  generalize decompose text = parts at hordered hparts ⊢
  cases parts with
  | nil => rfl
  | cons c rest =>
    obtain ⟨hc, hrest⟩ := List.forall_mem_cons.1 hparts
    rw [recompose, decompose_composeFrom (held_nil (List.isChain_cons.1 hordered).2) (List.forall_mem_nil _) hrest,
      decomposeChar_of_none hc, List.reverse_nil, List.nil_append, List.singleton_append, orderMarks_eq_self hordered]

/-- A composed text is composed already. -/
theorem compose_compose (text : List Char) : compose (compose text) = compose text := by
  rw [compose_eq, decompose_compose, ← compose_eq]

section Closed

variable {p : Char → Prop} (hparts : ∀ {c first second : Char}, parts? c = some (first, second) → p first ∧ p second)
  (hcomposite : ∀ {first second c : Char}, composite? first second = some c → p c)

include hparts

private theorem forall_decompose {text : List Char} (htext : ∀ c ∈ text, p c) : ∀ c ∈ decompose text, p c := by
  have hdepth (depth : Nat) {c : Char} (hc : p c) : ∀ part ∈ decomposeChar depth c, p part := by
    induction depth generalizing c with
    | zero => exact List.forall_mem_singleton.2 hc
    | succ depth ih =>
      rw [decomposeChar]
      rcases hsome : parts? c with _ | ⟨first, second⟩
      · exact List.forall_mem_singleton.2 hc
      · exact List.forall_mem_append.2 ⟨ih (hparts hsome).1, List.forall_mem_singleton.2 (hparts hsome).2⟩
  intro c hc
  rw [decompose_eq, mem_orderMarks] at hc
  obtain ⟨whole, hwhole, hc⟩ := List.mem_flatMap.1 hc
  exact hdepth 2 (htext whole hwhole) c hc

include hcomposite

/-- What all parts and all composites have, a composed text has. -/
theorem forall_compose {text : List Char} (htext : ∀ c ∈ text, p c) : ∀ c ∈ compose text, p c := by
  have hfrom {base : Char} {marks rest : List Char} (hbase : p base) (hmarks : ∀ mark ∈ marks, p mark)
      (hrest : ∀ c ∈ rest, p c) : ∀ c ∈ composeFrom base marks rest, p c := by
    induction rest generalizing base marks with
    | nil => exact List.forall_mem_cons.2 ⟨hbase, fun mark hmark => hmarks mark (List.mem_reverse.1 hmark)⟩
    | cons c rest ih =>
      obtain ⟨hc, hrest⟩ := List.forall_mem_cons.1 hrest
      rcases hreached : reached? base marks c with _ | composite
      · rw [composeFrom_none hreached]
        split
        · exact List.forall_mem_append.2 ⟨List.forall_mem_cons.2
            ⟨hbase, fun mark hmark => hmarks mark (List.mem_reverse.1 hmark)⟩, ih hc (List.forall_mem_nil _) hrest⟩
        · exact ih hbase (List.forall_mem_cons.2 ⟨hc, hmarks⟩) hrest
      · rw [composeFrom_some hreached]
        exact ih (hcomposite (reached?_eq_some_iff.1 hreached).2) hmarks hrest
  have hdecompose := forall_decompose hparts htext
  rw [compose_eq]
  generalize decompose text = parts at hdecompose
  cases parts with
  | nil => exact List.forall_mem_nil _
  | cons c rest =>
    obtain ⟨hc, hrest⟩ := List.forall_mem_cons.1 hdecompose
    exact hfrom hc (List.forall_mem_nil _) hrest

end Closed

/-- Characters that have no parts, are no marks and are not composed with the one before them stay as they are. -/
theorem compose_ascii {text : List Char} (htext : ∀ c ∈ text, c.toNat < 128) : compose text = text := by
  have hordered : IsOrdered text := by
    induction text with
    | nil => exact List.isChain_nil
    | cons c text ih =>
      obtain ⟨-, htext⟩ := List.forall_mem_cons.1 htext
      exact List.isChain_cons.2 ⟨fun d hd => .inl (ascii_parts (htext d (List.mem_of_mem_head? hd))).2.1, ih htext⟩
  have hfrom {base : Char} {rest : List Char} (hrest : ∀ c ∈ rest, c.toNat < 128) :
      composeFrom base [] rest = base :: rest := by
    induction rest generalizing base with
    | nil => rfl
    | cons c rest ih =>
      obtain ⟨hc, hrest⟩ := List.forall_mem_cons.1 hrest
      obtain ⟨-, hclass, hnone⟩ := ascii_parts hc
      rw [composeFrom_none (reached?_eq_none (hnone base) []), if_pos hclass, ih hrest]
      rfl
  have hdecompose : decompose text = text := by
    rw [decompose_eq, takeApart_eq_self fun c hc => (ascii_parts (htext c hc)).1, orderMarks_eq_self hordered]
  rw [compose_eq, hdecompose]
  cases text with
  | nil => rfl
  | cons c rest => exact hfrom (List.forall_mem_cons.1 htext).2

private theorem insertMark_append_dot (c : Char) (front back : List Char) :
    insertMark c (front ++ '.' :: back) = insertMark c front ++ '.' :: back := by
  have hdot : combiningClass '.' = 0 := (ascii_parts (by decide)).2.1
  induction front with
  | nil => exact insertMark_cons_neg (fun h => h.1 hdot) back
  | cons d front ih =>
    by_cases hbehind : combiningClass d ≠ 0 ∧ combiningClass d < combiningClass c
    · rw [List.cons_append, insertMark_cons_pos hbehind, insertMark_cons_pos hbehind, ih, List.cons_append]
    · rw [List.cons_append, insertMark_cons_neg hbehind, insertMark_cons_neg hbehind]
      rfl

/-- A domain is taken apart label by label. -/
theorem decompose_append_dot (front back : List Char) :
    decompose (front ++ '.' :: back) = decompose front ++ '.' :: decompose back := by
  have hdot : orderMarks ('.' :: takeApart back) = '.' :: decompose back := by
    have hclass : combiningClass '.' = 0 := (ascii_parts (by decide)).2.1
    change insertMark '.' (decompose back) = '.' :: decompose back
    cases decompose back with
    | nil => rfl
    | cons c rest => exact insertMark_cons_neg (by omega) rest
  have hfront (parts : List Char) :
      parts.foldr insertMark ('.' :: decompose back) = orderMarks parts ++ '.' :: decompose back := by
    induction parts with
    | nil => rfl
    | cons c parts ih =>
      rw [List.foldr_cons, ih, insertMark_append_dot]
      rfl
  rw [decompose_eq, takeApart_append, takeApart_cons, decomposeChar_of_none (ascii_parts (by decide)).1,
    List.singleton_append, orderMarks_append, hdot, hfront, ← decompose_eq]

/-- A base that nothing is composed with leaves what follows it to itself. -/
theorem composeFrom_of_none {base : Char} (hbase : ∀ c, composite? base c = none) {marks : List Char}
    (rest : List Char) : composeFrom base marks rest = base :: marks.reverse ++ recompose rest := by
  induction rest generalizing base marks with
  | nil => exact (List.append_nil _).symm
  | cons c rest ih =>
    rw [composeFrom_none (reached?_eq_none (hbase c) marks)]
    split
    · rfl
    · next hclass =>
      have hmark (d : Char) : composite? c d = none := by
        rcases hcomposite : composite? c d with _ | composite
        · rfl
        · exact absurd (combiningClass_of_composite? hcomposite) hclass
      rw [ih hbase, recompose, ih hmark, List.reverse_cons]
      simp

private theorem recompose_append_dot (front back : List Char) :
    recompose (front ++ '.' :: back) = recompose front ++ '.' :: recompose back := by
  have hdot (c : Char) : composite? '.' c = none := by
    rcases hcomposite : composite? '.' c with _ | composite
    · rfl
    · exact absurd rfl (dot_not_part (parts?_of_composite? hcomposite)).1
  have hback : composeFrom '.' [] back = '.' :: recompose back := composeFrom_of_none hdot back
  obtain ⟨-, hclass, hsecond⟩ := ascii_parts (c := '.') (by decide)
  -- Nothing is composed with a dot, and a dot is no mark: composing comes to it and starts anew behind it.
  have hfrom {base : Char} {marks front : List Char} :
      composeFrom base marks (front ++ '.' :: back) = composeFrom base marks front ++ '.' :: recompose back := by
    induction front generalizing base marks with
    | nil =>
      rw [List.nil_append, composeFrom_none (reached?_eq_none (hsecond base) marks), if_pos hclass, hback]
      rfl
    | cons c front ih =>
      rcases hreached : reached? base marks c with _ | composite
      · rw [List.cons_append, composeFrom_none hreached, composeFrom_none hreached]
        split
        · rw [ih, List.append_assoc]
        · exact ih
      · rw [List.cons_append, composeFrom_some hreached, composeFrom_some hreached, ih]
  cases front with
  | nil => exact hback
  | cons c front => exact hfrom

/-- Nothing is composed with the dot between labels, or over it. -/
theorem compose_append_dot (front back : List Char) :
    compose (front ++ '.' :: back) = compose front ++ '.' :: compose back := by
  rw [compose_eq, decompose_append_dot, recompose_append_dot, ← compose_eq, ← compose_eq]

private theorem dot_notMem_compose {text : List Char} (htext : '.' ∉ text) : '.' ∉ compose text := by
  have hne : ∀ c ∈ compose text, c ≠ '.' := by
    refine forall_compose (fun hparts => dot_not_part hparts) (fun hcomposite => ?_) fun c hc heq => htext (heq ▸ hc)
    rintro rfl
    exact absurd ((ascii_parts (by decide)).1.symm.trans (parts?_of_composite? hcomposite)) (by simp)
  exact fun hmem => hne _ hmem rfl

/-- A domain is composed label by label. -/
theorem pieces_compose (text : List Char) :
    Text.pieces '.' (compose text) = (Text.pieces '.' text).map compose := by
  have hjoin (pieces : List (List Char)) :
      compose (Text.joinPieces '.' pieces) = Text.joinPieces '.' (pieces.map compose) := by
    induction pieces with
    | nil => rfl
    | cons piece more ih =>
      cases more with
      | nil => rfl
      | cons next more =>
        rw [Text.joinPieces, compose_append_dot, ih]
        · rfl
        · exact List.cons_ne_nil _ _
  have hpieces : ∀ piece ∈ (Text.pieces '.' text).map compose, '.' ∉ piece := fun piece hpiece => by
    obtain ⟨label, hlabel, rfl⟩ := List.mem_map.1 hpiece
    exact dot_notMem_compose (Text.not_mem_of_mem_pieces hlabel)
  obtain ⟨first, more, hsplit⟩ := List.exists_cons_of_ne_nil (Text.pieces_ne_nil '.' text)
  calc Text.pieces '.' (compose text)
      = Text.pieces '.' (compose (Text.joinPieces '.' (Text.pieces '.' text))) := by rw [Text.joinPieces_pieces]
    _ = Text.pieces '.' (Text.joinPieces '.' ((Text.pieces '.' text).map compose)) := by rw [hjoin]
    _ = (Text.pieces '.' text).map compose := by
        rw [hsplit, List.map_cons] at hpieces ⊢
        exact Text.pieces_joinPieces hpieces

/-- The labels of a composed domain are composed. -/
theorem compose_label {text label : List Char} (hlabel : label ∈ Text.pieces '.' (compose text)) :
    compose label = label := by
  rw [pieces_compose] at hlabel
  obtain ⟨label, -, rfl⟩ := List.mem_map.1 hlabel
  exact compose_compose label

end PageRouter.Url
