import PageRouter.Session.History

namespace PageRouter

/-- A history as what it stands for: the current entry between the past, latest first, and the future, nearest first.
Every call moves entries from one side to the other. -/
@[ext]
structure Zipper where
  past : List Entry
  current : Entry
  future : List Entry
  deriving DecidableEq, Repr

namespace Zipper

/-- Puts the current entry into the past, and a new one in its place. There is no future then. -/
def push (zipper : Zipper) (entry : Entry) : Zipper :=
  ⟨zipper.current :: zipper.past, entry, []⟩

/-- Puts a new entry in place of the current one. -/
def replace (zipper : Zipper) (entry : Entry) : Zipper :=
  { zipper with current := entry }

/-- Puts a new entry in place as an action says. -/
def record (zipper : Zipper) : Action → Entry → Zipper
  | .push => zipper.push
  | .replace => zipper.replace

/-- Goes one entry into the past, if there is one. -/
def back? (zipper : Zipper) : Option Zipper :=
  match zipper.past with
  | [] => none
  | entry :: past => some ⟨past, entry, zipper.current :: zipper.future⟩

/-- Goes one entry into the future, if there is one. -/
def forward? (zipper : Zipper) : Option Zipper :=
  match zipper.future with
  | [] => none
  | entry :: future => some ⟨zipper.current :: zipper.past, entry, future⟩

/-- Takes a number of steps, if each of them can be taken. -/
def steps? (step : Zipper → Option Zipper) : Nat → Zipper → Option Zipper
  | 0, zipper => some zipper
  | count + 1, zipper => (step zipper).bind (steps? step count)

/-- Goes as many entries as `delta` says, back if it is negative. To stay is not to go. -/
def go? (zipper : Zipper) (delta : Int) : Option Zipper :=
  match delta with
  | .ofNat 0 => none
  | .ofNat (count + 1) => zipper.steps? forward? (count + 1)
  | .negSucc count => zipper.steps? back? (count + 1)

/-- What can become of a zipper at once. -/
inductive Next (zipper : Zipper) : Zipper → Prop
  | push (entry : Entry) : Next zipper (zipper.push entry)
  | replace (entry : Entry) : Next zipper (zipper.replace entry)
  | go {delta : Int} {after : Zipper} (hgo : zipper.go? delta = some after) : Next zipper after

end Zipper

namespace History

/-- What a history stands for. -/
def zipper (history : History) : Zipper where
  past := (history.entries.take history.index).reverse
  current := history.current
  future := history.entries.drop (history.index + 1)

/-- The entries up to the current one are the past and the current one. -/
theorem take_succ_index (history : History) :
    history.entries.take (history.index + 1) = history.entries.take history.index ++ [history.current] :=
  (List.take_append_getElem history.index_lt).symm

private theorem drop_index (history : History) :
    history.entries.drop history.index = history.current :: history.entries.drop (history.index + 1) :=
  List.drop_eq_getElem_cons history.index_lt

/-- A history is its zipper in a row, so that it is never empty and its position is that of an entry. -/
theorem entries_eq_zipper (history : History) :
    history.entries = history.zipper.past.reverse ++ history.zipper.current :: history.zipper.future ∧
      history.index = history.zipper.past.length := by
  constructor
  · have hsplit := List.take_append_drop history.index history.entries
    rw [drop_index] at hsplit
    simp only [zipper, List.reverse_reverse]
    exact hsplit.symm
  · have hlt := history.index_lt
    simp only [zipper, List.length_reverse, List.length_take]
    omega

/-- Recording an entry does to the zipper what it says. -/
theorem zipper_commit (history : History) (action : Action) (entry : Entry) :
    (history.commit action entry).zipper = history.zipper.record action entry := by
  have hlt := history.index_lt
  cases action with
  | push =>
    have hlength : (history.entries.take (history.index + 1)).length = history.index + 1 := by
      rw [List.length_take]
      omega
    have hcurrent : (history.commit .push entry).current = entry := by
      simp only [current, commit, List.get_eq_getElem]
      rw [List.getElem_append_right (by omega)]
      simp
    have hpast : (history.commit .push entry).zipper.past = history.current :: history.zipper.past := by
      simp only [zipper, commit]
      rw [List.take_left' hlength, take_succ_index, List.reverse_append]
      rfl
    have hfuture : (history.commit .push entry).zipper.future = [] := by
      simp only [zipper, commit, List.drop_eq_nil_iff, List.length_append, hlength, List.length_singleton]
      omega
    exact Zipper.ext hpast hcurrent hfuture
  | replace =>
    have hcurrent : (history.commit .replace entry).current = entry := by
      simp only [current, commit, List.get_eq_getElem]
      exact List.getElem_set_self _
    have hpast : (history.commit .replace entry).zipper.past = history.zipper.past := by
      simp only [zipper, commit]
      rw [List.take_set_of_le (Nat.le_refl _)]
    have hfuture : (history.commit .replace entry).zipper.future = history.zipper.future := by
      simp only [zipper, commit]
      rw [List.drop_set_of_lt (Nat.lt_succ_self _)]
    exact Zipper.ext hpast hcurrent hfuture

/-- One entry into the future is one position further. -/
theorem forward?_zipper (history : History) :
    history.zipper.forward? =
      if h : history.index + 1 < history.entries.length then
        some (zipper ⟨history.entries, history.index + 1, h⟩)
      else none := by
  split
  · next h =>
    have hfuture := drop_index ⟨history.entries, history.index + 1, h⟩
    have hpast := take_succ_index history
    simp only [Zipper.forward?, zipper] at hfuture ⊢
    rw [hfuture, hpast, List.reverse_append]
    rfl
  · next h =>
    have hfuture : history.zipper.future = [] := List.drop_eq_nil_of_le (Nat.not_lt.1 h)
    rw [Zipper.forward?, hfuture]

/-- One entry into the past is one position back. -/
theorem back?_zipper (history : History) :
    history.zipper.back? =
      if h : 0 < history.index then
        some (zipper ⟨history.entries, history.index - 1, by have := history.index_lt; omega⟩)
      else none := by
  split
  · next h =>
    obtain ⟨entries, index, hlt⟩ := history
    obtain ⟨index, rfl⟩ := Nat.exists_eq_add_one_of_ne_zero (Nat.ne_of_gt h)
    have hpast := take_succ_index ⟨entries, index, Nat.lt_of_succ_lt hlt⟩
    have hfuture := drop_index ⟨entries, index + 1, hlt⟩
    simp only [Zipper.back?, zipper] at hpast hfuture ⊢
    rw [hpast, List.reverse_append, ← hfuture]
    rfl
  · next h =>
    have hstart : history.index = 0 := Nat.eq_zero_of_not_pos h
    have hpast : history.zipper.past = [] := by simp [zipper, hstart]
    rw [Zipper.back?, hpast]

private theorem steps?_forward?_zipper (history : History) (count : Nat) :
    history.zipper.steps? Zipper.forward? count =
      if h : history.index + count < history.entries.length then
        some (zipper ⟨history.entries, history.index + count, h⟩)
      else none := by
  induction count generalizing history with
  | zero => simp [Zipper.steps?, history.index_lt]
  | succ count ih =>
    rw [Zipper.steps?, forward?_zipper]
    by_cases hnext : history.index + 1 < history.entries.length
    · rw [dif_pos hnext, Option.bind_some, ih]
      simp only [Nat.add_assoc, Nat.add_comm 1 count]
    · have hbeyond : ¬history.index + (count + 1) < history.entries.length := by omega
      rw [dif_neg hnext, dif_neg hbeyond]
      rfl

private theorem steps?_back?_zipper (history : History) (count : Nat) :
    history.zipper.steps? Zipper.back? count =
      if count ≤ history.index then
        some (zipper ⟨history.entries, history.index - count, by have := history.index_lt; omega⟩)
      else none := by
  induction count generalizing history with
  | zero => simp [Zipper.steps?]
  | succ count ih =>
    rw [Zipper.steps?, back?_zipper]
    by_cases hnext : 0 < history.index
    · rw [dif_pos hnext, Option.bind_some, ih]
      have hiff : count ≤ history.index - 1 ↔ count + 1 ≤ history.index := by omega
      simp only [hiff, Nat.sub_sub, Nat.add_comm 1 count]
    · have hbeyond : ¬count + 1 ≤ history.index := by omega
      rw [dif_neg hnext, if_neg hbeyond]
      rfl

/-- A move goes as far as it says if there are that many entries, and else nowhere. -/
theorem go?_zipper (history : History) (delta : Int) :
    history.zipper.go? delta = (history.move? delta).map zipper := by
  have hlt := history.index_lt
  match delta with
  | .ofNat 0 =>
    rw [move?, dif_neg (by simp)]
    rfl
  | .ofNat (count + 1) =>
    rw [Zipper.go?, steps?_forward?_zipper]
    by_cases hwithin : history.index + (count + 1) < history.entries.length
    · have hmove : history.move? (Int.ofNat (count + 1)) =
          some ⟨history.entries, history.index + (count + 1), hwithin⟩ := by
        rw [move?, dif_pos (by simp only [Int.ofNat_eq_natCast]; omega)]
        congr
      rw [dif_pos hwithin, hmove]
      rfl
    · rw [dif_neg hwithin, move?, dif_neg (by simp only [Int.ofNat_eq_natCast]; omega)]
      rfl
  | .negSucc count =>
    rw [Zipper.go?, steps?_back?_zipper]
    by_cases hwithin : count + 1 ≤ history.index
    · have hmove : history.move? (Int.negSucc count) =
          some ⟨history.entries, history.index - (count + 1), by omega⟩ := by
        rw [move?, dif_pos (by omega)]
        congr 2
        omega
      rw [if_pos hwithin, hmove]
      rfl
    · rw [if_neg hwithin, move?, dif_neg (by omega)]
      rfl

end History

end PageRouter
