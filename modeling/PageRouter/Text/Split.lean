namespace PageRouter.Text

/-- The pieces of a text between separators: one more than there are separators. Joining them again gives back the
text, and no piece holds the separator, so they are the only such cut. -/
def pieces (separator : Char) : List Char → List (List Char)
  | [] => [[]]
  | c :: rest =>
    if c = separator then [] :: pieces separator rest
    else
      match pieces separator rest with
      | [] => [[c]]
      | piece :: more => (c :: piece) :: more

/-- Pieces with a separator between each two. -/
def joinPieces (separator : Char) : List (List Char) → List Char
  | [] => []
  | [piece] => piece
  | piece :: more => piece ++ separator :: joinPieces separator more

theorem pieces_ne_nil (separator : Char) (text : List Char) : pieces separator text ≠ [] := by
  cases text with
  | nil => simp [pieces]
  | cons c rest =>
    unfold pieces
    split
    · simp
    · split <;> simp

theorem joinPieces_pieces (separator : Char) (text : List Char) :
    joinPieces separator (pieces separator text) = text := by
  induction text with
  | nil => rfl
  | cons c rest ih =>
    unfold pieces
    cases h : pieces separator rest with
    | nil => exact absurd h (pieces_ne_nil _ _)
    | cons piece more =>
      rw [h] at ih
      by_cases hc : c = separator
      · simp [hc, joinPieces, ih]
      · cases more <;> simp_all [joinPieces]

theorem not_mem_of_mem_pieces {separator : Char} {text piece : List Char}
    (h : piece ∈ pieces separator text) : separator ∉ piece := by
  induction text generalizing piece with
  | nil => simp_all [pieces]
  | cons c rest ih =>
    unfold pieces at h
    cases hp : pieces separator rest with
    | nil => exact absurd hp (pieces_ne_nil _ _)
    | cons first more =>
      rw [hp] at h ih
      by_cases hc : c = separator
      · simp only [hc, if_true, List.mem_cons] at h
        rcases h with rfl | h | h
        · simp
        · exact ih (by simp [h])
        · exact ih (by simp [h])
      · simp only [hc, if_false, List.mem_cons] at h
        rcases h with rfl | h
        · have := @ih first (by simp)
          simp [this, Ne.symm hc]
        · exact ih (by simp [h])

theorem pieces_of_notMem {separator : Char} {piece : List Char} (hpiece : separator ∉ piece) :
    pieces separator piece = [piece] := by
  induction piece with
  | nil => rfl
  | cons c piece ih =>
    rw [List.mem_cons, not_or] at hpiece
    obtain ⟨hne, hmore⟩ := hpiece
    rw [pieces, if_neg (Ne.symm hne), ih hmore]

/-- A separator cuts a text whatever stands on both sides of it. -/
theorem pieces_append (separator : Char) (before after : List Char) :
    pieces separator (before ++ separator :: after) = pieces separator before ++ pieces separator after := by
  induction before with
  | nil => rw [List.nil_append, pieces, pieces, if_pos rfl, List.singleton_append]
  | cons c before ih =>
    rw [List.cons_append, pieces, pieces, ih]
    cases hbefore : pieces separator before with
    | nil => exact absurd hbefore (pieces_ne_nil _ _)
    | cons piece more =>
      split
      · rfl
      · rfl

theorem pieces_append_separator {separator : Char} {piece : List Char} (hpiece : separator ∉ piece)
    (rest : List Char) : pieces separator (piece ++ separator :: rest) = piece :: pieces separator rest := by
  rw [pieces_append, pieces_of_notMem hpiece, List.singleton_append]

/-- Pieces without the separator are what their joined text is cut into. -/
theorem pieces_joinPieces {separator : Char} {first : List Char} {more : List (List Char)}
    (hpieces : ∀ piece ∈ first :: more, separator ∉ piece) :
    pieces separator (joinPieces separator (first :: more)) = first :: more := by
  induction more generalizing first with
  | nil => exact pieces_of_notMem (hpieces first List.mem_cons_self)
  | cons second more ih =>
    obtain ⟨hfirst, hmore⟩ := List.forall_mem_cons.1 hpieces
    rw [joinPieces, pieces_append_separator hfirst, ih hmore]
    exact List.cons_ne_nil second more

def cutAtFirst (separator : Char) (text : List Char) : List Char × List Char :=
  (text.takeWhile (· ≠ separator), (text.dropWhile (· ≠ separator)).drop 1)

theorem cutAtFirst_append {separator : Char} {before : List Char} (hbefore : separator ∉ before)
    (after : List Char) : cutAtFirst separator (before ++ separator :: after) = (before, after) := by
  have hall : ∀ c ∈ before, (decide (c ≠ separator)) = true := by
    intro c hc
    have hne : c ≠ separator := fun h => hbefore (h ▸ hc)
    simpa using hne
  rw [cutAtFirst, List.takeWhile_append_of_pos hall, List.dropWhile_append_of_pos hall]
  simp

end PageRouter.Text
