import PageRouter.Proofs.Json.Rendering
import PageRouter.Proofs.Text.Lists

namespace PageRouter.JsonValue

/-- A member of an object, as it is written. -/
structure Member where
  body : List Char
  key : Option String
  value : JsonValue
  isMember : IsMember body (key, value)

/-- The key and the value of a member. -/
def Member.field (member : Member) : Option String × JsonValue :=
  (member.key, member.value)

/-- Members as they are written, with commas between them. -/
def memberChars : List Member → List Char
  | [] => []
  | [member] => member.body
  | member :: more => member.body ++ ',' :: memberChars more

/-- The text of an object with these members, in order, with blanks around it and behind its brace. -/
def IsObjectText (input : String) (members : List Member) : Prop :=
  ∃ before blanks after, IsBlanks before ∧ IsBlanks blanks ∧ IsBlanks after ∧
    input.toList = before ++ ('\x7b' :: (blanks ++ memberChars members ++ ['\x7d']) ++ after)

section Texts

/-- Members with commas between them are in the grammar. -/
theorem isMembers_memberChars (member : Member) (more : List Member) :
    IsMembers (memberChars (member :: more)) ((member :: more).map Member.field) := by
  induction more generalizing member with
  | nil => exact .one member.isMember
  | cons next more ih => exact .more member.isMember (ih next)

private theorem IsMember.of_blanks {blanks body : List Char} {field : Option String × JsonValue}
    (hblanks : IsBlanks blanks) (h : IsMember body field) : IsMember (blanks ++ body) field := by
  obtain ⟨hbefore, hkey, hbetween, hvalue⟩ := h
  rw [← List.append_assoc]
  exact .mk (hblanks.append hbefore) hkey hbetween hvalue

private theorem IsMembers.of_blanks {blanks body : List Char} {fields : List (Option String × JsonValue)}
    (hblanks : IsBlanks blanks) (h : IsMembers body fields) : IsMembers (blanks ++ body) fields := by
  cases h with
  | one hmember => exact .one (hmember.of_blanks hblanks)
  | more hmember hrest =>
    rw [← List.append_assoc]
    exact .more (hmember.of_blanks hblanks) hrest

/-- The text of an object reads as that object. -/
theorem IsObjectText.parse?_eq {input : String} {members : List Member} (h : IsObjectText input members) :
    parse? input = some (object (members.map Member.field)) := by
  obtain ⟨before, blanks, after, hbefore, hblanks, hafter, hinput⟩ := h
  rw [parse?_eq_some_iff, hinput]
  refine .mk hbefore ?_ hafter
  cases members with
  | nil =>
    rw [memberChars, List.append_nil]
    exact .noMembers hblanks
  | cons member more => exact .members ((isMembers_memberChars member more).of_blanks hblanks)

private theorem IsMembers.ne_nil {body : List Char} {fields : List (Option String × JsonValue)}
    (h : IsMembers body fields) : fields ≠ [] := by
  cases h <;> exact List.cons_ne_nil _ _

/-- Whatever is in the grammar of members can be cut into members. -/
theorem exists_members {body : List Char} {fields : List (Option String × JsonValue)} (h : IsMembers body fields) :
    ∃ members, members.map Member.field = fields ∧ memberChars members = body := by
  induction fields generalizing body with
  | nil => cases h
  | cons field fields ih =>
    cases h with
    | one hmember => exact ⟨[⟨body, field.1, field.2, hmember⟩], rfl, rfl⟩
    | @more front rest _ _ hmember hrest =>
      obtain ⟨members, rfl, rfl⟩ := ih hrest
      refine ⟨⟨front, field.1, field.2, hmember⟩ :: members, rfl, ?_⟩
      cases members with
      | nil => exact absurd rfl hrest.ne_nil
      | cons => rfl

private theorem Numeral.value_ne_object (numeral : Numeral) (fields : List (Option String × JsonValue)) :
    numeral.value ≠ object fields := by
  rw [Numeral.value, numeralValue]
  split <;> exact nofun

/-- The texts of objects are the texts that read as objects. -/
theorem parse?_eq_object_iff {input : String} {fields : List (Option String × JsonValue)} :
    parse? input = some (object fields) ↔
      ∃ members, IsObjectText input members ∧ members.map Member.field = fields := by
  refine ⟨fun hread => ?_, fun ⟨members, hinput, hfields⟩ => hfields ▸ hinput.parse?_eq⟩
  rw [parse?_eq_some_iff] at hread
  generalize hinput : input.toList = chars at hread
  obtain @⟨before, body, after, _, hbefore, hbody, hafter⟩ := hread
  generalize hvalue : object fields = value at hbody
  cases hbody with
  | numeral numeral => exact absurd hvalue.symm (numeral.value_ne_object fields)
  | @noMembers blanks hblanks =>
    cases hvalue
    exact ⟨[], ⟨before, blanks, after, hbefore, hblanks, hafter, by rwa [memberChars, List.append_nil]⟩, rfl⟩
  | members hmembers =>
    cases hvalue
    obtain ⟨members, hfields, rfl⟩ := exists_members hmembers
    exact ⟨members, ⟨before, [], after, hbefore, isBlanks_nil, hafter, hinput⟩, hfields⟩
  | _ => cases hvalue

end Texts

section Fields

variable {key : String} {fields : List (Option String × JsonValue)}

/-- What stands under a key does not depend on the order of the members. -/
theorem single?_perm {others : List (Option String × JsonValue)} (hperm : fields.Perm others) (key : String) :
    single? key fields = single? key others := by
  have hfiltered := hperm.filter (·.1 == some key)
  rw [single?, single?]
  generalize fields.filter (·.1 == some key) = found at hfiltered
  generalize others.filter (·.1 == some key) = others at hfiltered
  match found, others, hfiltered with
  | [], others, hfiltered => rw [hfiltered.nil_eq]
  | [field], others, hfiltered => rw [List.singleton_perm.1 hfiltered]
  | _ :: _ :: _, [], hfiltered => exact absurd hfiltered.length_eq (by simp)
  | _ :: _ :: _, [_], hfiltered => exact absurd hfiltered.length_eq (by simp)
  | _ :: _ :: _, _ :: _ :: _, _ => rfl

private theorem single?_append {extra : List (Option String × JsonValue)}
    (hextra : ∀ field ∈ extra, field.1 ≠ some key) : single? key (fields ++ extra) = single? key fields := by
  have hnone : extra.filter (·.1 == some key) = [] :=
    List.filter_eq_nil_iff.2 fun field hfield => by simpa using hextra field hfield
  rw [single?, List.filter_append, hnone, List.append_nil, single?]

/-- Members under other keys can be left out. -/
theorem single?_filter {keep : Option String × JsonValue → Bool} (hkeep : ∀ value, keep (some key, value) = true) :
    single? key (fields.filter keep) = single? key fields := by
  have hfiltered : (fields.filter keep).filter (·.1 == some key) = fields.filter (·.1 == some key) := by
    rw [List.filter_filter]
    refine List.filter_congr fun ⟨other, value⟩ _ => ?_
    by_cases hkey : other = some key
    · rw [hkey, hkeep, Bool.and_true]
    · rw [beq_eq_false_iff_ne.2 hkey, Bool.false_and]
  rw [single?, hfiltered, single?]

/-- A member under another key changes nothing. -/
theorem single?_cons_of_ne {field : Option String × JsonValue} (hne : field.1 ≠ some key) :
    single? key (field :: fields) = single? key fields := by
  rw [single?, List.filter_cons_of_neg (by simpa using hne), single?]

/-- A value that no other one stands beside under its key. -/
theorem single?_cons {value : JsonValue} (hothers : ∀ field ∈ fields, field.1 ≠ some key) :
    single? key ((some key, value) :: fields) = some (some value) :=
  (@single?_append key [(some key, value)] fields hothers).trans (by simp [single?])

/-- Without a member under a key there is no value under it. -/
theorem single?_of_missing (hmissing : ∀ field ∈ fields, field.1 ≠ some key) : single? key fields = some none :=
  @single?_append key [] fields hmissing

/-- A key that stands twice is refused. -/
theorem single?_of_repeated {first second : Option String × JsonValue} (hrepeated : [first, second].Sublist fields)
    (hfirst : first.1 = some key) (hsecond : second.1 = some key) : single? key fields = none := by
  have hfiltered := hrepeated.filter (·.1 == some key)
  rw [List.filter_cons_of_pos (by simpa using hfirst), List.filter_cons_of_pos (by simpa using hsecond),
    List.filter_nil] at hfiltered
  have hlength := hfiltered.length_le
  rw [single?]
  generalize fields.filter (·.1 == some key) = found at hlength
  match found with
  | [] | [_] => exact absurd hlength (by simp)
  | _ :: _ :: _ => rfl

/-- What a record is depends on whether all keys are texts, and on what stands under the known ones. -/
theorem record?_congr {keys : List String} {fields others : List (Option String × JsonValue)}
    (hproper : fields.any (·.1.isNone) = others.any (·.1.isNone))
    (hsame : ∀ key ∈ keys, single? key fields = single? key others) :
    (object fields).record? keys = (object others).record? keys := by
  rw [record?, record?, hproper, mapM_congr_of_mem hsame]

/-- The members of a record are found one by one. -/
theorem record?_eq_some {keys : List String} {fields : List (Option String × JsonValue)}
    {values : List (Option JsonValue)} (hrecord : (object fields).record? keys = some values) :
    List.Forall₂ (fun key value => single? key fields = some value) keys values := by
  rw [record?] at hrecord
  obtain ⟨-, hvalues⟩ := Option.ite_none_left_eq_some.1 hrecord
  exact mapM_eq_some_iff.1 hvalues

end Fields

/-- Reading a record takes the members of an object in any order, whatever stands under other keys. It takes no object in
which a required member is missing, or in which a known key stands twice. -/
structure ReadsMembers {α : Type} (read : JsonValue → Option α) (required optional : List String) : Prop where
  rearranged {input other : String} {members extra rearranged : List Member} (hinput : IsObjectText input members)
    (hother : IsObjectText other rearranged) (hperm : rearranged.Perm (members ++ extra))
    (hextra : ∀ member ∈ extra, ∃ key, member.key = some key ∧ key ∉ required ++ optional) :
    (parse? other).bind read = (parse? input).bind read
  missing {input : String} {members : List Member} {key : String} (hinput : IsObjectText input members)
    (hkey : key ∈ required) (hmissing : ∀ member ∈ members, member.key ≠ some key) : (parse? input).bind read = none
  repeated {input : String} {members : List Member} {key : String} {first second : Member}
    (hinput : IsObjectText input members) (hkey : key ∈ required ++ optional)
    (hrepeated : [first, second].Sublist members) (hfirst : first.key = some key) (hsecond : second.key = some key) :
    (parse? input).bind read = none

/-- Values survive as text: each reads back from the text that is written for it, and reading takes other texts with the
same members. -/
structure Survives {α : Type} (write : α → JsonValue) (read : JsonValue → Option α) (required optional : List String) :
    Prop extends ReadsMembers read required optional where
  read_written (value : α) : (parse? (write value).render).bind read = some value

section Building

variable {α : Type} {read : JsonValue → Option α} {keys required optional : List String}
  {build : List (Option JsonValue) → Option α}

/-- An object that is read has each known key at most once, and each required one. -/
theorem exists_single?_of_build (hread : ∀ json, read json = (json.record? keys).bind build)
    (hkeys : ∀ key, key ∈ keys ↔ key ∈ required ++ optional)
    (hbuild : ∀ values x, build values = some x →
      List.Forall₂ (fun key value => key ∈ required → value ≠ none) keys values)
    {fields : List (Option String × JsonValue)} {x : α} (hx : read (object fields) = some x) {key : String}
    (hkey : key ∈ required ++ optional) :
    ∃ value, single? key fields = some value ∧ (key ∈ required → value ≠ none) := by
  rw [hread, Option.bind_eq_some_iff] at hx
  obtain ⟨values, hvalues, hx⟩ := hx
  have hboth := List.Forall₂.mp
    (S := fun key value => single? key fields = some value ∧ (key ∈ required → value ≠ none))
    (fun _ _ => And.intro) (record?_eq_some hvalues) (hbuild values x hx)
  obtain ⟨value, -, hvalue⟩ := exists_of_forall₂ (List.Forall₂.flip hboth) ((hkeys key).2 hkey)
  exact ⟨value, hvalue⟩

/-- Fields under unknown keys change nothing, wherever they stand. -/
theorem record?_rearranged {fields extra rearranged : List (Option String × JsonValue)}
    (hperm : rearranged.Perm (fields ++ extra)) (hextra : ∀ field ∈ extra, ∃ key, field.1 = some key ∧ key ∉ keys) :
    (object rearranged).record? keys = (object fields).record? keys := by
  have hproper : extra.any (·.1.isNone) = false := by
    refine List.any_eq_false.2 fun field hfield hnone => ?_
    obtain ⟨key, hkey, -⟩ := hextra field hfield
    rw [hkey] at hnone
    cases hnone
  have hunknown {key : String} (hkey : key ∈ keys) : ∀ field ∈ extra, field.1 ≠ some key := by
    intro field hfield hsame
    obtain ⟨other, hother, hunknown⟩ := hextra field hfield
    obtain rfl : other = key := Option.some.inj (hother.symm.trans hsame)
    exact hunknown hkey
  refine record?_congr ?_ fun key hkey => ?_
  · rw [hperm.any_eq, List.any_append, hproper, Bool.or_false]
  · rw [single?_perm hperm key, single?_append (hunknown hkey)]

/-- A record with known keys is built of the values under them, and not without those that are required. -/
theorem readsMembers_of_build (hread : ∀ json, read json = (json.record? keys).bind build)
    (hkeys : ∀ key, key ∈ keys ↔ key ∈ required ++ optional)
    (hbuild : ∀ values x, build values = some x →
      List.Forall₂ (fun key value => key ∈ required → value ≠ none) keys values) :
    ReadsMembers read required optional := by
  refine ⟨?_, ?_, ?_⟩
  · intro input other members extra rearranged hinput hother hperm hextra
    have hfields : (rearranged.map Member.field).Perm (members.map Member.field ++ extra.map Member.field) := by
      rw [← List.map_append]
      exact hperm.map Member.field
    rw [hinput.parse?_eq, hother.parse?_eq, Option.bind_some, Option.bind_some, hread, hread]
    refine congrArg (Option.bind · build) (record?_rearranged hfields (List.forall_mem_map.2 fun member hmember => ?_))
    obtain ⟨key, hkey, hunknown⟩ := hextra member hmember
    exact ⟨key, hkey, mt (hkeys key).1 hunknown⟩
  · intro input members key hinput hkey hmissing
    rw [hinput.parse?_eq, Option.bind_some, Option.eq_none_iff_forall_ne_some]
    intro x hx
    obtain ⟨value, hvalue, hneeded⟩ := exists_single?_of_build hread hkeys hbuild hx (List.mem_append_left _ hkey)
    rw [single?_of_missing (List.forall_mem_map.2 hmissing)] at hvalue
    cases hvalue
    exact hneeded hkey rfl
  · intro input members key first second hinput hkey hrepeated hfirst hsecond
    rw [hinput.parse?_eq, Option.bind_some, Option.eq_none_iff_forall_ne_some]
    intro x hx
    obtain ⟨value, hvalue, -⟩ := exists_single?_of_build hread hkeys hbuild hx hkey
    rw [single?_of_repeated (hrepeated.map Member.field) hfirst hsecond] at hvalue
    cases hvalue

end Building

end PageRouter.JsonValue
