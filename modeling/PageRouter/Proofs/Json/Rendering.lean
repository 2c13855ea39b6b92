import PageRouter.Json.Record
import PageRouter.Proofs.Json.Reading

namespace PageRouter.JsonValue

section Texts

private theorem IsUnits.append {front back : List Char} {first second : List Nat} (hfront : IsUnits front first)
    (hback : IsUnits back second) : IsUnits (front ++ back) (first ++ second) := by
  induction hfront with
  | nil => exact hback
  | plain hc _ ih => exact .plain hc ih
  | short hc _ ih => exact .short hc ih
  | hex hunit _ ih => exact .hex hunit ih

private theorem hexUnit?_controlEscape : ∀ code < 0x20,
    hexUnit? '0' '0' (Nat.digitChar (code / 16)) (Nat.digitChar (code % 16)) = some code := by
  decide

/-- Every character of a text is written so that it stands for itself. -/
theorem isUnits_textChar (c : Char) : IsUnits (textChar c) [c.toNat] := by
  rw [textChar.eq_def]
  split
  · exact .short rfl .nil
  · exact .short rfl .nil
  · exact .short rfl .nil
  · exact .short rfl .nil
  · exact .short rfl .nil
  · exact .short rfl .nil
  · exact .short rfl .nil
  · next hquote hbackslash _ _ _ _ _ =>
    split
    · next hcontrol => exact .hex (hexUnit?_controlEscape c.toNat hcontrol) .nil
    · next hcontrol => exact .plain ⟨Nat.not_lt.1 hcontrol, hquote, hbackslash⟩ .nil

/-- A text is written character by character. -/
theorem isUnits_flatMap (input : List Char) : IsUnits (input.flatMap textChar) (input.map Char.toNat) := by
  induction input with
  | nil => exact .nil
  | cons c more ih => exact (isUnits_textChar c).append ih

/-- Characters are no halves of surrogate pairs. -/
theorem joinUnits_map_toNat (input : List Char) : joinUnits (input.map Char.toNat) = some input := by
  induction input with
  | nil => rfl
  | cons c more ih =>
    have hvalid : c.toNat < 0xD800 ∨ 0xDFFF < c.toNat ∧ c.toNat < 0x110000 := c.valid
    rw [List.map_cons, joinUnits.eq_def]
    dsimp only
    rw [if_neg (by omega), if_neg (by omega), ih, Option.map_some, Char.ofNat_toNat]

private theorem unitText_map_toNat (value : String) : unitText (value.toList.map Char.toNat) = some value := by
  rw [unitText, joinUnits_map_toNat, Option.map_some, String.ofList_toList]

/-- The word for nothing is in the grammar. -/
theorem isValue_null : IsValue (chars .null) .null := by
  rw [chars]
  exact .null

/-- A text between quotes is in the grammar, whatever characters it holds. -/
theorem isValue_text (value : String) : IsValue (chars (.text (some value))) (.text (some value)) := by
  rw [chars]
  have hquoted := IsValue.quoted (isUnits_flatMap value.toList)
  rwa [unitText_map_toNat] at hquoted

end Texts

section Structures

/-- There may be no blanks around a value. -/
theorem IsValue.padded {body : List Char} {value : JsonValue} (h : IsValue body value) : IsPadded body value := by
  have hpadded := IsPadded.mk isBlanks_nil h isBlanks_nil
  rwa [List.nil_append, List.append_nil] at hpadded

private theorem isItems_itemChars {item : JsonValue} {more : List JsonValue} (hitem : IsValue item.chars item)
    (hmore : ∀ other ∈ more, IsValue other.chars other) : IsItems (chars.itemChars (item :: more)) (item :: more) := by
  induction more generalizing item with
  | nil =>
    rw [chars.itemChars]
    exact .one hitem.padded
  | cons next more ih =>
    obtain ⟨hnext, hmore⟩ := List.forall_mem_cons.1 hmore
    rw [chars.itemChars]
    · exact .more hitem.padded (ih hnext hmore)
    · exact nofun

/-- An array is in the grammar if its items are. -/
theorem isValue_array {items : List JsonValue} (hitems : ∀ item ∈ items, IsValue item.chars item) :
    IsValue (chars (array items)) (array items) := by
  rw [chars]
  cases items with
  | nil =>
    rw [chars.itemChars]
    exact .noItems isBlanks_nil
  | cons item more =>
    obtain ⟨hitem, hmore⟩ := List.forall_mem_cons.1 hitems
    exact .items (isItems_itemChars hitem hmore)

/-- A key with its value is in the grammar if the value is. -/
theorem isMember_of_isValue (key : String) {value : JsonValue} (hvalue : IsValue value.chars value) :
    IsMember (textLiteral (some key) ++ ':' :: value.chars) (some key, value) := by
  have hmember := IsMember.mk isBlanks_nil (isUnits_flatMap key.toList) isBlanks_nil hvalue.padded
  rw [unitText_map_toNat, List.nil_append, List.nil_append] at hmember
  have hliteral : textLiteral (some key) = '"' :: (key.toList.flatMap textChar ++ ['"']) := rfl
  rw [hliteral, List.cons_append, List.append_assoc]
  exact hmember

private theorem isMembers_fieldChars {field : String × JsonValue} {more : List (String × JsonValue)}
    (hfield : IsValue field.2.chars field.2) (hmore : ∀ other ∈ more, IsValue other.2.chars other.2) :
    IsMembers (chars.fieldChars ((field :: more).map fun (key, value) => (some key, value)))
      ((field :: more).map fun (key, value) => (some key, value)) := by
  induction more generalizing field with
  | nil =>
    rw [List.map_cons, List.map_nil, chars.fieldChars]
    exact .one (isMember_of_isValue field.1 hfield)
  | cons next more ih =>
    obtain ⟨hnext, hmore⟩ := List.forall_mem_cons.1 hmore
    have hmembers := IsMembers.more (isMember_of_isValue field.1 hfield) (ih hnext hmore)
    rw [List.map_cons, chars.fieldChars]
    · simpa only [List.append_assoc, List.cons_append] using hmembers
    · exact nofun

/-- An object is in the grammar if the values under its keys are. -/
theorem isValue_ofRecord {fields : List (String × JsonValue)} (hfields : ∀ field ∈ fields, IsValue field.2.chars field.2) :
    IsValue (ofRecord fields).chars (ofRecord fields) := by
  rw [ofRecord, chars]
  cases fields with
  | nil =>
    rw [List.map_nil, chars.fieldChars]
    exact .noMembers isBlanks_nil
  | cons field more =>
    obtain ⟨hfield, hmore⟩ := List.forall_mem_cons.1 hfields
    exact .members (isMembers_fieldChars hfield hmore)

end Structures

/-- What is rendered in the grammar reads back. -/
theorem parse?_render {value : JsonValue} (hvalue : IsValue value.chars value) : parse? value.render = some value := by
  rw [parse?_eq_some_iff, render, String.toList_ofList]
  exact hvalue.padded

end PageRouter.JsonValue
