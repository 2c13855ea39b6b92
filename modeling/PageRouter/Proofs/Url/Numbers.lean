import PageRouter.Proofs.Text.Lists
import PageRouter.Proofs.Url.Authority

namespace PageRouter.Url

private theorem addDigit?_eq_some_iff {base value : Nat} {c : Char} {result : Nat} :
    addDigit? base value c = some result ↔
      ∃ d, Text.hexValue? c = some d ∧ d < base ∧ result = value * base + d := by
  rw [addDigit?, Option.bind_eq_some_iff]
  refine exists_congr fun d => and_congr_right fun _ => ?_
  split
  · next hd => simp [hd, eq_comm]
  · next hd => simp [hd]

/-- A number has no more digits than were read. -/
theorem digitsValue?_lt {base : Nat} {digits : List Char} {n : Nat} (hread : digitsValue? base digits = some n) :
    n < Nat.pow base digits.length := by
  rw [digitsValue?_eq_foldlM] at hread
  have hfrom {digits : List Char} {value n : Nat} (hread : digits.foldlM (addDigit? base) value = some n) :
      n < (value + 1) * base ^ digits.length := by
    induction digits generalizing value with
    | nil =>
      cases hread
      simp
    | cons c digits ih =>
      rw [List.foldlM_cons] at hread
      obtain ⟨next, hnext, hread⟩ := Option.bind_eq_some_iff.1 hread
      obtain ⟨d, -, hd, rfl⟩ := addDigit?_eq_some_iff.1 hnext
      calc n < (value * base + d + 1) * base ^ digits.length := ih hread
        _ ≤ ((value + 1) * base) * base ^ digits.length := Nat.mul_le_mul_right _ (by rw [Nat.add_mul, Nat.one_mul]; omega)
        _ = (value + 1) * base ^ (digits.length + 1) := by rw [Nat.mul_assoc, Nat.pow_succ, Nat.mul_comm base]
  have hlt := hfrom hread
  rwa [Nat.zero_add, Nat.one_mul] at hlt

/-- Groups of an address in brackets: two bytes each. -/
def AreGroups (groups : List Nat) : Prop :=
  ∀ group ∈ groups, group < 65536

private theorem lt_of_ipv6Group? {digits : List Char} {group : Nat} (hread : ipv6Group? digits = some group) :
    group < 65536 := by
  unfold ipv6Group? at hread
  split at hread
  · cases hread
  · next hlength =>
    have hle : digits.length ≤ 4 := by
      simp only [Bool.or_eq_true, decide_eq_true_eq, not_or] at hlength
      omega
    exact Nat.lt_of_lt_of_le (digitsValue?_lt hread) (Nat.pow_le_pow_right (show 0 < 16 by decide) hle)

private theorem le_of_quadByte? {digits : List Char} {byte : Nat} (hread : quadByte? digits = some byte) :
    byte ≤ 255 := by
  unfold quadByte? at hread
  split at hread
  · cases hread
  · cases hread
  · simpa using (Option.filter_eq_some_iff.1 hread).2

/-- Four bytes between dots are two groups. -/
theorem areGroups_quadGroups? {text : List Char} {groups : List Nat} (hread : quadGroups? text = some groups) :
    AreGroups groups := by
  unfold quadGroups? at hread
  split at hread
  · next a b c d hbytes =>
    cases hread
    have hbyte : ∀ byte ∈ [a, b, c, d], byte ≤ 255 := fun byte hbyte => by
      obtain ⟨piece, -, hpiece⟩ := exists_of_mem_mapM hbytes hbyte
      exact le_of_quadByte? hpiece
    simp only [List.forall_mem_cons] at hbyte
    intro group hgroup
    rcases List.mem_pair.1 hgroup with rfl | rfl <;> omega
  · cases hread

private theorem ipv6Groups?_cons (quadAllowed : Bool) (first next : List Char) (more : List (List Char)) :
    ipv6Groups? quadAllowed (first :: next :: more) = (ipv6Group? first).bind fun group =>
      (ipv6Groups? quadAllowed (next :: more)).bind fun groups => some (group :: groups) :=
  rfl

/-- What is read on one side of the double colon are groups. -/
theorem areGroups_ipv6Side? {quadAllowed : Bool} {text : List Char} {groups : List Nat}
    (hread : ipv6Side? quadAllowed text = some groups) : AreGroups groups := by
  have hpieces {pieces : List (List Char)} {groups : List Nat} (hread : ipv6Groups? quadAllowed pieces = some groups) :
      AreGroups groups := by
    induction pieces generalizing groups with
    | nil =>
      cases hread
      exact List.forall_mem_nil _
    | cons piece more ih =>
      cases more with
      | nil =>
        rw [ipv6Groups?] at hread
        split at hread
        · exact areGroups_quadGroups? hread
        · obtain ⟨group, hgroup, rfl⟩ := Option.map_eq_some_iff.1 hread
          exact List.forall_mem_singleton.2 (lt_of_ipv6Group? hgroup)
      | cons next more =>
        rw [ipv6Groups?_cons] at hread
        obtain ⟨group, hgroup, hread⟩ := Option.bind_eq_some_iff.1 hread
        obtain ⟨rest, hrest, hread⟩ := Option.bind_eq_some_iff.1 hread
        cases hread
        exact List.forall_mem_cons.2 ⟨lt_of_ipv6Group? hgroup, ih hrest⟩
  unfold ipv6Side? at hread
  split at hread
  · cases hread
    exact List.forall_mem_nil _
  · exact hpieces hread

/-- An address in brackets has eight groups. -/
theorem areGroups_ipv6Pieces? {text : List Char} {groups : List Nat} (hread : ipv6Pieces? text = some groups) :
    AreGroups groups ∧ groups.length = 8 := by
  unfold ipv6Pieces? at hread
  split at hread
  · obtain ⟨hread, hlength⟩ := Option.filter_eq_some_iff.1 hread
    exact ⟨areGroups_ipv6Side? hread, by simpa using hlength⟩
  · obtain ⟨left, hleft, hread⟩ := Option.bind_eq_some_iff.1 hread
    obtain ⟨right, hright, hread⟩ := Option.bind_eq_some_iff.1 hread
    obtain ⟨hshort, hread⟩ := some_of_guard hread
    cases hread
    refine ⟨fun group hgroup => ?_, ?_⟩
    · rcases List.mem_append.1 hgroup with hgroup | hgroup
      · rcases List.mem_append.1 hgroup with hgroup | hgroup
        · exact areGroups_ipv6Side? hleft group hgroup
        · rw [List.eq_of_mem_replicate hgroup]
          decide
      · exact areGroups_ipv6Side? hright group hgroup
    · simp only [List.length_append, List.length_replicate]
      omega

/-- A group is read from its digits. -/
theorem ipv6Group?_toDigits {group : Nat} (hgroup : group < 65536) : ipv6Group? (Nat.toDigits 16 group) = some group := by
  have hlength : (Nat.toDigits 16 group).length ≤ 4 := (Nat.length_toDigits_le_iff (by decide) (by decide)).2 hgroup
  have hne : (Nat.toDigits 16 group).length ≠ 0 := fun hzero => Nat.toDigits_ne_nil (List.length_eq_zero_iff.1 hzero)
  rw [ipv6Group?, if_neg (by simp only [Bool.or_eq_true, decide_eq_true_eq]; omega)]
  exact digitsValue?_toDigits (by decide) (by decide) group

private theorem notMem_toDigits {base : Nat} (hbase : 1 < base) (hsmall : base ≤ 16) {sign : Char}
    (hsign : ∀ d < 16, Nat.digitChar d ≠ sign) (n : Nat) : sign ∉ Nat.toDigits base n :=
  fun hmem => isOf_toDigits (p := (· ≠ sign)) hsign hbase hsmall n sign hmem rfl

/-- Groups are read one by one. -/
theorem ipv6Groups?_toDigits (quadAllowed : Bool) {groups : List Nat} (hgroups : AreGroups groups) :
    ipv6Groups? quadAllowed (groups.map (Nat.toDigits 16)) = some groups := by
  induction groups with
  | nil => rfl
  | cons group more ih =>
    obtain ⟨hgroup, hmore⟩ := List.forall_mem_cons.1 hgroups
    cases more with
    | nil =>
      have hdot : (Nat.toDigits 16 group).contains '.' = false := by
        simpa using notMem_toDigits (by decide) (by decide) (by decide) group
      rw [List.map_singleton, ipv6Groups?, hdot, Bool.and_false, if_neg Bool.false_ne_true, ipv6Group?_toDigits hgroup]
      rfl
    | cons next more =>
      rw [List.map_cons, List.map_cons, ipv6Groups?_cons, ipv6Group?_toDigits hgroup, Option.bind_some, ← List.map_cons,
        ih hmore, Option.bind_some]

private theorem toDigits_prefix_groupsText (group : Nat) (more : List Nat) :
    Nat.toDigits 16 group <+: groupsText (group :: more) := by
  cases more with
  | nil => exact List.prefix_refl _
  | cons next more => exact List.prefix_append _ _

private theorem groupsText_ne_nil {group : Nat} {more : List Nat} : groupsText (group :: more) ≠ [] :=
  fun hnil => Nat.toDigits_ne_nil (List.prefix_nil.1 (hnil ▸ toDigits_prefix_groupsText group more))

/-- What is written for groups is read as those groups. -/
theorem ipv6Side?_groupsText (quadAllowed : Bool) {groups : List Nat} (hgroups : AreGroups groups) :
    ipv6Side? quadAllowed (groupsText groups) = some groups := by
  cases groups with
  | nil => rfl
  | cons group more =>
    have hpieces : Text.pieces ':' (groupsText (group :: more)) = (group :: more).map (Nat.toDigits 16) := by
      rw [groupsText, List.map_cons]
      refine Text.pieces_joinPieces fun piece hpiece => ?_
      obtain ⟨n, -, rfl⟩ := List.mem_map.1 (List.map_cons ▸ hpiece : piece ∈ (group :: more).map (Nat.toDigits 16))
      exact notMem_toDigits (by decide) (by decide) (by decide) n
    rw [ipv6Side?, List.isEmpty_eq_false_iff.2 groupsText_ne_nil, if_neg Bool.false_ne_true, hpieces]
    exact ipv6Groups?_toDigits quadAllowed hgroups

private theorem cutAtDoubleColon_cons {c : Char} {text : List Char} (hc : c ≠ ':' ∨ text.head? ≠ some ':') :
    cutAtDoubleColon (c :: text) = (cutAtDoubleColon text).map (Prod.map (c :: ·) id) := by
  rw [cutAtDoubleColon]
  · rfl
  · rintro rest rfl rfl
    simp at hc

private theorem cutAtDoubleColon_append {piece : List Char} (hpiece : ':' ∉ piece) (text : List Char) :
    cutAtDoubleColon (piece ++ text) = (cutAtDoubleColon text).map (Prod.map (piece ++ ·) id) := by
  induction piece with
  | nil => exact (Option.map_id' (x := cutAtDoubleColon text)).symm
  | cons c piece ih =>
    rw [List.mem_cons, not_or] at hpiece
    rw [List.cons_append, cutAtDoubleColon_cons (.inl (Ne.symm hpiece.1)), ih hpiece.2, Option.map_map]
    rfl

/-- Between groups stands one colon only, so that the cut is at the colons that follow them. -/
theorem cutAtDoubleColon_groupsText (groups : List Nat) (text : List Char) :
    cutAtDoubleColon (groupsText groups ++ text) = (cutAtDoubleColon text).map (Prod.map (groupsText groups ++ ·) id) := by
  have hcolon (n : Nat) : ':' ∉ Nat.toDigits 16 n := notMem_toDigits (by decide) (by decide) (by decide) n
  induction groups with
  | nil => exact (Option.map_id' (x := cutAtDoubleColon text)).symm
  | cons group more ih =>
    cases more with
    | nil => exact cutAtDoubleColon_append (hcolon group) text
    | cons next more =>
      -- Behind the colon of a group stands a digit of the next one.
      have hhead : (groupsText (next :: more) ++ text).head? ≠ some ':' := by
        obtain ⟨rest, hrest⟩ := toDigits_prefix_groupsText next more
        obtain ⟨c, digits, hdigits⟩ := List.exists_cons_of_ne_nil (Nat.toDigits_ne_nil (n := next) (b := 16))
        have hne : c ≠ ':' := fun heq => hcolon next (by rw [hdigits, heq]; exact List.mem_cons_self)
        simpa [← hrest, hdigits] using hne
      have hsplit : groupsText (group :: next :: more) = Nat.toDigits 16 group ++ ':' :: groupsText (next :: more) := rfl
      rw [hsplit, List.append_assoc, List.cons_append, cutAtDoubleColon_append (hcolon group),
        cutAtDoubleColon_cons (.inr hhead), ih, Option.map_map, Option.map_map]
      congr 1
      funext cut
      exact Prod.ext (by simp) rfl

/-- A run of zeros that may be left out. -/
def IsZeroRun (groups : List Nat) (run : Nat × Nat) : Prop :=
  2 ≤ run.2 ∧ groups.drop run.1 = List.replicate run.2 0 ++ groups.drop (run.1 + run.2)

private theorem drop_zeroRun (groups : List Nat) (start : Nat) :
    groups.drop start = List.replicate (zeroRun groups start) 0 ++ groups.drop (start + zeroRun groups start) := by
  have hzeros : (groups.drop start).takeWhile (· = 0) = List.replicate (zeroRun groups start) 0 :=
    List.eq_replicate_iff.2 ⟨rfl, fun n hn => by simpa using List.mem_takeWhile_imp hn⟩
  have hrest : (groups.drop start).dropWhile (· = 0) = groups.drop (start + zeroRun groups start) := by
    have hdrop := @List.drop_left _ ((groups.drop start).takeWhile (· = 0)) ((groups.drop start).dropWhile (· = 0))
    rwa [List.takeWhile_append_dropWhile, ← zeroRun, List.drop_drop, eq_comm] at hdrop
  rw [← hzeros, ← hrest, List.takeWhile_append_dropWhile]

/-- The longest run of zeros is one that may be left out. -/
theorem isZeroRun_longestZeroRun {groups : List Nat} {run : Nat × Nat} (hrun : longestZeroRun groups = some run) :
    IsZeroRun groups run := by
  rw [← Option.mem_def, longestZeroRun] at hrun
  refine List.foldlRecOn (motive := fun best => ∀ run ∈ best, IsZeroRun groups run) (List.range groups.length) _ ?_
    (fun best hbest start _ => ?_) run hrun
  · exact fun run hnone => absurd hnone (Option.not_mem_none run)
  · intro run hrun
    dsimp only at hrun
    split at hrun
    · next length =>
      have htwo := (hbest _ rfl).1
      split at hrun
      · next hlonger =>
        cases hrun
        exact ⟨by dsimp only at htwo ⊢; omega, drop_zeroRun groups start⟩
      · exact hbest run hrun
    · split at hrun
      · next htwo =>
        cases hrun
        exact ⟨htwo, drop_zeroRun groups start⟩
      · cases hrun

/-- What is written for eight groups is read as these. -/
theorem ipv6Pieces?_ipv6Text {groups : List Nat} (hgroups : AreGroups groups) (hlength : groups.length = 8) :
    ipv6Pieces? (ipv6Text groups) = some groups := by
  unfold ipv6Text
  split
  · have hcut := cutAtDoubleColon_groupsText groups []
    rw [List.append_nil] at hcut
    rw [ipv6Pieces?, hcut]
    change (ipv6Side? true (groupsText groups)).filter _ = _
    rw [ipv6Side?_groupsText true hgroups]
    simp [hlength]
  · next start length hrun =>
    obtain ⟨htwo, hzeros⟩ := isZeroRun_longestZeroRun hrun
    have hcut : cutAtDoubleColon (groupsText (groups.take start) ++ [':', ':'] ++ groupsText (groups.drop (start + length))) =
        some (groupsText (groups.take start), groupsText (groups.drop (start + length))) := by
      rw [List.append_assoc, cutAtDoubleColon_groupsText]
      exact congrArg some (Prod.ext (List.append_nil _) rfl)
    have hleft : AreGroups (groups.take start) := fun group hgroup => hgroups group (List.mem_of_mem_take hgroup)
    have hright : AreGroups (groups.drop (start + length)) := fun group hgroup => hgroups group (List.mem_of_mem_drop hgroup)
    have hcount := congrArg List.length hzeros
    rw [List.length_append, List.length_replicate, List.length_drop, List.length_drop] at hcount
    rw [ipv6Pieces?, hcut]
    dsimp only
    rw [ipv6Side?_groupsText false hleft, ipv6Side?_groupsText true hright]
    simp only [Option.bind_eq_bind, Option.bind_some, List.length_take, List.length_drop]
    rw [if_neg (by omega), show 8 - min start groups.length - (groups.length - (start + length)) = length by omega,
      List.append_assoc, ← hzeros, List.take_append_drop]

/-- A host in brackets is read as itself. -/
theorem webHost_bracketHost {text host : List Char} (hread : bracketHost text = .ok host) : webHost host = .ok host := by
  unfold bracketHost at hread
  split at hread
  · cases hread
  split at hread
  · next address haddress =>
    cases hread
    obtain ⟨groups, hgroups, rfl⟩ := Option.map_eq_some_iff.1 haddress
    obtain ⟨hare, hlength⟩ := areGroups_ipv6Pieces? hgroups
    have hinner : (('[' :: ipv6Text groups ++ [']']).drop 1).dropLast = ipv6Text groups := List.dropLast_concat
    have hself : ipv6? (ipv6Text groups) = some (ipv6Text groups) := by
      rw [ipv6?, ipv6Pieces?_ipv6Text hare hlength, Option.map_some]
    change bracketHost ('[' :: ipv6Text groups ++ [']']) = _
    have hlast : ('[' :: ipv6Text groups ++ [']']).getLast? = some ']' := List.getLast?_concat
    rw [bracketHost, hinner, hself, hlast, if_neg (by decide)]
  · cases hread

/-- The bytes of a number that is a host. -/
def bytes (n : Nat) : List Nat :=
  [n / 16777216 % 256, n / 65536 % 256, n / 256 % 256, n % 256]

private theorem hostParts_ipv4Text (n : Nat) : hostParts (ipv4Text n) = (bytes n).map (Nat.toDigits 10) := by
  have hpieces : Text.pieces '.' (ipv4Text n) = (bytes n).map (Nat.toDigits 10) := by
    rw [ipv4Text_eq_joinPieces]
    refine Text.pieces_joinPieces fun piece hpiece => ?_
    rw [← List.map_cons] at hpiece
    obtain ⟨byte, -, rfl⟩ := List.mem_map.1 hpiece
    exact notMem_toDigits (by decide) (by decide) (by decide) byte
  have hlast : ((bytes n).map (Nat.toDigits 10)).getLast? ≠ some [] := fun hlast => by
    have hdigits : some (Nat.toDigits 10 (n % 256)) = some [] := hlast
    exact Nat.toDigits_ne_nil (Option.some.inj hdigits)
  rw [hostParts, hpieces, if_neg hlast]

/-- A decimal numeral is not taken for an octal or a hexadecimal one. -/
theorem ipv4Number?_toDigits (n : Nat) : ipv4Number? (Nat.toDigits 10 n) = some n := by
  rcases Nat.eq_zero_or_pos n with rfl | hn
  · decide
  obtain ⟨d, rest, hpos, hd, hdigits⟩ := exists_toDigits_eq_cons (show 1 < 10 by decide) hn
  have hzero : d.digitChar ≠ '0' := by
    have hall : ∀ d < 10, 0 < d → Nat.digitChar d ≠ '0' := by decide
    exact hall d hd hpos
  have hread := digitsValue?_toDigits (show 1 < 10 by decide) (by decide) n
  rw [hdigits] at hread ⊢
  rw [ipv4Number?]
  · exact hread
  all_goals simp [hzero]

/-- A number is written as its four bytes, which are read as that number. -/
theorem ipv4?_ipv4Text (n : Nat) : ipv4? (ipv4Text n) = some (ipv4Text n) := by
  have hnumbers : ((bytes n).map (Nat.toDigits 10)).mapM ipv4Number? = some (bytes n) :=
    mapM_eq_some_map fun byte _ => ipv4Number?_toDigits byte
  have hlast : (bytes n).getLast? = some (n % 256) := rfl
  have hleading : (bytes n).dropLast = [n / 16777216 % 256, n / 65536 % 256, n / 256 % 256] := rfl
  have hpower : Nat.pow 256 (4 - [n / 16777216 % 256, n / 65536 % 256, n / 256 % 256].length) = 256 := rfl
  have hvalid : ¬(n % 256 ≥ 256 || [n / 16777216 % 256, n / 65536 % 256, n / 256 % 256].any (· > 255)) := by
    simp only [List.any_cons, List.any_nil, Bool.or_false, Bool.or_eq_true, decide_eq_true_eq]
    omega
  have hbytes : bytes ((((0 * 256 + n / 16777216 % 256) * 256 + n / 65536 % 256) * 256 + n / 256 % 256) * 256 + n % 256) =
      bytes n := by
    simp only [bytes, List.cons.injEq, and_true]
    refine ⟨by omega, by omega, by omega, by omega⟩
  rw [ipv4?, hostParts_ipv4Text, if_neg (by simp [bytes]), hnumbers]
  simp only [Option.bind_eq_bind, Option.bind_some, hlast, hleading, hpower]
  rw [if_neg hvalid, List.foldl_cons, List.foldl_cons, List.foldl_cons, List.foldl_nil, ipv4Text_eq_joinPieces]
  exact congrArg some ((congrArg (fun bytes => Text.joinPieces '.' (bytes.map (Nat.toDigits 10))) hbytes).trans
    (ipv4Text_eq_joinPieces n).symm)

end PageRouter.Url
