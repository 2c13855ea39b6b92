import PageRouter.Proofs.Text.Numerals
import PageRouter.Proofs.Url.Encoded

namespace PageRouter.Url

/-- The text of a host: in brackets, or without any sign that means something in an address. -/
inductive IsHostText : List Char → Prop
  | bracketed {inner : List Char} (hinner : IsOf (fun c => isForbiddenInDomain c = false ∨ c = ':') inner) :
    IsHostText ('[' :: inner ++ [']'])
  | plain {host : List Char} (hne : host ≠ []) (hhost : IsOf (isForbiddenInDomain · = false) host) : IsHostText host

/-- Pieces of certain characters are joined to a text of such characters. -/
theorem isOf_joinPieces {p : Char → Prop} {separator : Char} (hseparator : p separator) {pieces : List (List Char)}
    (hpieces : ∀ piece ∈ pieces, IsOf p piece) : IsOf p (Text.joinPieces separator pieces) := by
  induction pieces with
  | nil => exact isOf_nil
  | cons piece more ih =>
    obtain ⟨hpiece, hmore⟩ := List.forall_mem_cons.1 hpieces
    cases more with
    | nil => exact hpiece
    | cons next more => exact hpiece.append (.cons hseparator (ih hmore))

/-- A number is written as its four bytes, between dots. -/
theorem ipv4Text_eq_joinPieces (address : Nat) :
    ipv4Text address = Text.joinPieces '.' ([address / 16777216 % 256, address / 65536 % 256, address / 256 % 256,
      address % 256].map (Nat.toDigits 10)) := by
  rw [ipv4Text, String.toList_intercalate]
  simp [Text.joinPieces, Nat.repr_eq_ofList_toDigits, List.intercalate_cons_cons]

section Digits

variable {p : Char → Prop} (hdigits : ∀ d < 16, p (Nat.digitChar d))

include hdigits

/-- What holds of the digits of a base holds of the characters of a numeral. -/
theorem isOf_toDigits {base : Nat} (hbase : 1 < base) (hsmall : base ≤ 16) (n : Nat) : IsOf p (Nat.toDigits base n) := by
  intro c hc
  obtain ⟨d, hd, rfl⟩ := exists_digitChar_of_mem_toDigits hbase hc
  exact hdigits d (by omega)

/-- An address in brackets is written with digits and colons. -/
theorem isOf_ipv6Text (hcolon : p ':') (groups : List Nat) : IsOf p (ipv6Text groups) := by
  have hgroups (groups : List Nat) : IsOf p (groupsText groups) := by
    refine isOf_joinPieces hcolon fun piece hpiece => ?_
    obtain ⟨group, -, rfl⟩ := List.mem_map.1 hpiece
    exact isOf_toDigits hdigits (by decide) (by decide) group
  unfold ipv6Text
  split
  · exact hgroups groups
  · exact ((hgroups _).append (.cons hcolon (isOf_singleton hcolon))).append (hgroups _)

/-- A number is written with digits and dots. -/
theorem isOf_ipv4Text (hdot : p '.') (address : Nat) : IsOf p (ipv4Text address) := by
  rw [ipv4Text_eq_joinPieces]
  refine isOf_joinPieces hdot fun piece hpiece => ?_
  obtain ⟨n, -, rfl⟩ := List.mem_map.1 hpiece
  exact isOf_toDigits hdigits (by decide) (by decide) n

end Digits

/-- Digits mean nothing in an address. -/
theorem digitChar_not_forbidden : ∀ d < 16, isForbiddenInDomain (Nat.digitChar d) = false := by decide +kernel

/-- A number is a host. -/
theorem isHostText_ipv4Text (address : Nat) : IsHostText (ipv4Text address) := by
  refine .plain ?_ (isOf_ipv4Text digitChar_not_forbidden (by decide +kernel) address)
  rw [ipv4Text_eq_joinPieces]
  exact List.append_ne_nil_of_right_ne_nil _ (List.cons_ne_nil _ _)

/-- What is read between brackets is a host. -/
theorem isHostText_bracketHost {text host : List Char} (hhost : bracketHost text = .ok host) : IsHostText host := by
  unfold bracketHost at hhost
  split at hhost
  · cases hhost
  · split at hhost
    · next address haddress =>
      cases hhost
      obtain ⟨groups, -, rfl⟩ := Option.map_eq_some_iff.1 haddress
      exact .bracketed (isOf_ipv6Text (fun d hd => .inl (digitChar_not_forbidden d hd)) (.inr rfl) groups)
    · cases hhost

/-- What is read behind a guard was not held back by it. -/
theorem some_of_guard {α β : Type} {failing : Prop} [Decidable failing] {next : α → Option β} {rest : Option β} {result : β}
    (hread : (if failing then none.bind next else rest) = some result) : ¬failing ∧ rest = some result := by
  split at hread
  · cases hread
  · next hpassed => exact ⟨hpassed, hread⟩

/-- Every number that is read as a host is written as one. -/
theorem exists_ipv4Text {host address : List Char} (haddress : ipv4? host = some address) :
    ∃ n, address = ipv4Text n := by
  unfold ipv4? at haddress
  obtain ⟨-, haddress⟩ := some_of_guard haddress
  obtain ⟨numbers, -, haddress⟩ := Option.bind_eq_some_iff.1 haddress
  obtain ⟨last, -, haddress⟩ := Option.bind_eq_some_iff.1 haddress
  obtain ⟨-, haddress⟩ := some_of_guard haddress
  exact ⟨_, (Option.some.inj haddress).symm⟩

/-- A domain is read in steps: its percent escapes, the images of its characters, their composed form, and its labels.
-/
theorem domain?_eq_some_iff {text domain : List Char} : domain? text = some domain ↔
    ∃ decoded images labels, Text.decode? (Text.percentDecode (Text.encode text)) = some decoded ∧
      decoded.mapM domainImage? = some images ∧
      (Text.pieces '.' (compose images.flatten)).mapM readLabel? = some labels ∧
      domain = Text.joinPieces '.' (labels.map labelText) ∧ keepOrder labels = true ∧
      domain.any isForbiddenInDomain = false := by
  simp only [domain?, Option.bind_eq_bind, Option.bind_eq_some_iff]
  constructor
  · rintro ⟨decoded, hdecoded, images, himages, labels, hlabels, hdomain⟩
    split at hdomain
    · cases hdomain
    · next hrefused =>
      cases hdomain
      rw [Bool.or_eq_true, not_or, Bool.not_eq_true, Bool.not_eq_true, Bool.not_eq_false'] at hrefused
      exact ⟨decoded, images, labels, hdecoded, himages, hlabels, rfl, hrefused⟩
  · rintro ⟨decoded, images, labels, hdecoded, himages, hlabels, rfl, horder, hplain⟩
    refine ⟨decoded, hdecoded, images, himages, labels, hlabels, if_neg ?_⟩
    rw [horder, hplain]
    decide

/-- A domain that was read holds no sign. -/
theorem isOf_domain {text domain : List Char} (hdomain : domain? text = some domain) :
    IsOf (isForbiddenInDomain · = false) domain := by
  obtain ⟨-, -, -, -, -, -, -, -, hplain⟩ := domain?_eq_some_iff.1 hdomain
  exact fun c hc => Bool.eq_false_iff.2 (List.any_eq_false.1 hplain c hc)

/-- What is read as the host of an address of the web is one. -/
theorem isHostText_webHost {text host : List Char} (hhost : webHost text = .ok host) : IsHostText host := by
  unfold webHost at hhost
  split at hhost
  · exact isHostText_bracketHost hhost
  · split at hhost
    · cases hhost
    · cases hhost
    · next domain hne hdomain =>
      split at hhost
      · split at hhost
        · next address haddress =>
          cases hhost
          obtain ⟨n, rfl⟩ := exists_ipv4Text haddress
          exact isHostText_ipv4Text n
        · cases hhost
      · cases hhost
        exact .plain hne (isOf_domain hdomain)

/-- No host is empty. -/
theorem IsHostText.ne_nil {host : List Char} (hhost : IsHostText host) : host ≠ [] := by
  cases hhost with
  | bracketed _ => exact List.cons_ne_nil _ _
  | plain hne _ => exact hne

/-- What stands in front of a path without ending there, and is no blank. -/
def InAuthority (c : Char) : Prop :=
  SchemeKind.web.endsAuthority c = false ∧ 0x20 < c.toNat

private theorem ne_of_hidden {isHidden : Char → Bool} {c sign : Char} (hc : isHidden c = false)
    (hsign : isHidden sign = true) : c ≠ sign := by
  rintro rfl
  exact absurd (hc.symm.trans hsign) (by decide)

/-- What is shown where the signs of an address are not. -/
theorem not_sign {isHidden : Char → Bool} (hsigns : ['/', '?', '#', '\\', '@', ':'].all isHidden = true)
    {c : Char} (hc : isHidden c = false) : SchemeKind.web.endsAuthority c = false ∧ c ≠ '@' ∧ c ≠ ':' := by
  have hne (sign : Char) (hsign : sign ∈ ['/', '?', '#', '\\', '@', ':']) : c ≠ sign :=
    ne_of_hidden hc (List.all_eq_true.1 hsigns sign hsign)
  refine ⟨?_, hne '@' (by decide), hne ':' (by decide)⟩
  rw [SchemeKind.endsAuthority, beq_eq_false_iff_ne.2 (hne '/' (by decide)), beq_eq_false_iff_ne.2 (hne '?' (by decide)),
    beq_eq_false_iff_ne.2 (hne '#' (by decide)), beq_eq_false_iff_ne.2 (hne '\\' (by decide))]
  rfl

private theorem inAuthority_of_host {c : Char} (hc : isForbiddenInDomain c = false) :
    InAuthority c ∧ c ≠ '@' ∧ c ≠ ':' := by
  obtain ⟨hends, hne⟩ := not_sign (by decide +kernel) hc
  refine ⟨⟨hends, ?_⟩, hne⟩
  simp only [isForbiddenInDomain, Bool.or_eq_false_iff, decide_eq_false_iff_not] at hc
  omega

private theorem inAuthority_of_userinfo {c : Char} (hc : isEncodedInUserinfo c = false) :
    InAuthority c ∧ c ≠ '@' ∧ c ≠ ':' := by
  obtain ⟨hends, hne⟩ := not_sign (by decide +kernel) hc
  refine ⟨⟨hends, ?_⟩, hne⟩
  rw [isEncodedInUserinfo, Bool.or_eq_false_iff, isEncodedInPath, Bool.or_eq_false_iff] at hc
  exact lt_toNat_of_fragment hc.1.1

/-- An authority of the web: user name and password are encoded, so that no sign in them ends them, the host was read,
and the port is not the default, so that it has to be written. -/
structure IsWebAuthority (scheme : List Char) (authority : Authority) : Prop where
  username : IsOf (isEncodedInUserinfo · = false) authority.username
  password : IsOf (isEncodedInUserinfo · = false) authority.password
  host : ∃ text, webHost text = .ok authority.host
  port : ∀ port ∈ authority.port, port ≤ 65535 ∧ some port ≠ defaultPort? scheme

private theorem isOf_encodeUserinfo (text : List Char) :
    IsOf (isEncodedInUserinfo · = false) (encodePart isEncodedInUserinfo text) :=
  isOf_encodePart (by decide +kernel) (by decide +kernel) fun _ _ hshown => hshown

section Cut

variable {scheme : List Char} (hweb : SchemeKind.ofScheme scheme = .web)
  {text held after hostAndPort hostText portText : List Char} {user : Option (List Char)}
  (hheld : text.takeWhile (!SchemeKind.web.endsAuthority ·) = held)
  (hafter : text.dropWhile (!SchemeKind.web.endsAuthority ·) = after)
  (huser : cutAtLastAt held = (user, hostAndPort)) (hhost : cutAtPort false hostAndPort = (hostText, portText))

include hweb hheld hafter huser hhost

/-- Reading the authority of an address of the web, cut at its signs. -/
theorem readAuthority_web_iff {authority : Authority} {rest : List Char} :
    readAuthority scheme text = .ok (authority, rest) ↔
      hostText ≠ [] ∧ webHost hostText = .ok authority.host ∧
      authority.username = encodePart isEncodedInUserinfo (Text.cutAtFirst ':' (user.getD [])).1 ∧
      authority.password = encodePart isEncodedInUserinfo (Text.cutAtFirst ':' (user.getD [])).2 ∧
      ∃ before, readPort scheme (portText.drop 1) = .ok (authority.port, before) ∧ rest = before ++ after := by
  -- An empty host is refused by a guard of its own; none of the other guards holds anything back once there is a
  -- host.
  by_cases hempty : hostText = []
  · refine iff_of_false (fun hread => ?_) fun hread => hread.1 hempty
    unfold readAuthority at hread
    simp only [hweb, hheld, hafter, huser, hhost] at hread
    have hread := ok_of_guard hread
    rw [if_pos (by simp [hempty])] at hread
    cases hread
  have hpair : hostAndPort ≠ [] := by
    rintro rfl
    exact hempty (Prod.mk.inj hhost).1.symm
  have hguard : ¬(user = some [] && hostAndPort.isEmpty && !after.isEmpty) = true := by simp [hpair]
  have hguard' : ¬((SchemeKind.web == .web) && hostText.isEmpty) = true := by simp [hempty]
  unfold readAuthority
  simp only [hweb, hheld, hafter, huser, hhost]
  rw [if_neg hguard, if_neg hguard', if_pos (by decide), bind_eq_ok_iff]
  constructor
  · rintro ⟨host, hhost', hread⟩
    obtain ⟨⟨port, before⟩, hport, hread⟩ := bind_eq_ok_iff.1 (ok_of_guard hread)
    obtain ⟨rfl, rfl⟩ := Prod.mk.inj (Except.ok.inj (ok_of_guard hread))
    exact ⟨hempty, hhost', rfl, rfl, before, hport, rfl⟩
  · rintro ⟨-, hhost', hname, hword, before, hport, rfl⟩
    have hne : authority.host.isEmpty = false := List.isEmpty_eq_false_iff.2 (isHostText_webHost hhost').ne_nil
    refine ⟨_, hhost', ?_⟩
    rw [hne, Bool.false_and, if_neg Bool.false_ne_true, bind_eq_ok_iff]
    refine ⟨_, hport, ?_⟩
    rw [Bool.false_and, if_neg Bool.false_ne_true, ← hname, ← hword]
    rfl

/-- A host that is refused is why the whole authority is. -/
theorem readAuthority_web_error (hne : hostText ≠ []) {error : UrlError} (hrefused : webHost hostText = .error error) :
    readAuthority scheme text = .error error := by
  have hpair : hostAndPort ≠ [] := by
    rintro rfl
    exact hne (Prod.mk.inj hhost).1.symm
  unfold readAuthority
  simp only [hweb, hheld, hafter, huser, hhost]
  rw [if_neg (by simp [hpair]), if_neg (by simp [hne]), if_pos (by decide), hrefused]
  rfl

end Cut

/-- A port that was read fits its bounds, and is not the default. -/
theorem port_of_readPort {scheme text : List Char} {port : Option Nat} {rest : List Char}
    (hread : readPort scheme text = .ok (port, rest)) : ∀ n ∈ port, n ≤ 65535 ∧ some n ≠ defaultPort? scheme := by
  unfold readPort at hread
  dsimp only at hread
  split at hread
  · cases hread
  · next hvalid =>
    split at hread
    · cases hread
      exact nofun
    · next hdefault =>
      cases hread
      rintro n ⟨⟩
      simp only [gt_iff_lt, Bool.or_eq_true, decide_eq_true_eq, not_or] at hvalid hdefault
      exact ⟨by omega, hdefault.2⟩

/-- What is read as an authority of the web is one. -/
theorem isWebAuthority_readAuthority {scheme : List Char} (hweb : SchemeKind.ofScheme scheme = .web)
    {text rest : List Char} {authority : Authority} (hread : readAuthority scheme text = .ok (authority, rest)) :
    IsWebAuthority scheme authority := by
  obtain ⟨-, hhost, hname, hword, before, hport, -⟩ := (readAuthority_web_iff hweb rfl rfl rfl rfl).1 hread
  exact ⟨hname ▸ isOf_encodeUserinfo _, hword ▸ isOf_encodeUserinfo _, ⟨_, hhost⟩, port_of_readPort hport⟩

private theorem cutAtLastAt_of_notMem {text : List Char} (htext : '@' ∉ text) : cutAtLastAt text = (none, text) := by
  rw [cutAtLastAt, if_neg (by simpa using htext)]

/-- User and host are cut at the last sign that stands between them. -/
theorem cutAtLastAt_append (front : List Char) {back : List Char} (hback : '@' ∉ back) :
    cutAtLastAt (front ++ '@' :: back) = (some front, back) := by
  have hall : ∀ c ∈ back.reverse, decide (c ≠ '@') = true := fun c hc => by
    have hne : c ≠ '@' := fun heq => hback (heq ▸ List.mem_reverse.1 hc)
    simpa using hne
  have hreverse : (front ++ '@' :: back).reverse = back.reverse ++ '@' :: front.reverse := by simp
  rw [cutAtLastAt, if_pos (by simp), hreverse, List.takeWhile_append_of_pos hall, List.dropWhile_append_of_pos hall]
  simp

section Port

variable {port : List Char} (hport : port = [] ∨ port.head? = some ':')

include hport

private theorem cutAtPort_port : cutAtPort false port = ([], port) := by
  rcases hport with rfl | hport
  · rfl
  · obtain ⟨rest, rfl⟩ := List.head?_eq_some_iff.1 hport
    rfl

private theorem cutAtPort_plain {host : List Char} (hhost : IsOf (isForbiddenInDomain · = false) host) :
    cutAtPort false (host ++ port) = (host, port) := by
  induction host with
  | nil => exact cutAtPort_port hport
  | cons c host ih =>
    obtain ⟨hc, hhost⟩ := List.forall_mem_cons.1 hhost
    have hcolon : (c == ':') = false := beq_eq_false_iff_ne.2 (ne_of_hidden hc (by decide +kernel))
    have hbracket : (c == '[') = false := beq_eq_false_iff_ne.2 (ne_of_hidden hc (by decide +kernel))
    rw [List.cons_append, cutAtPort, hcolon, hbracket]
    simp [ih hhost]

/-- Colons inside of brackets end no host. -/
theorem cutAtPort_inner {inner : List Char} (hinner : IsOf (fun c => isForbiddenInDomain c = false ∨ c = ':') inner) :
    cutAtPort true (inner ++ ']' :: port) = (inner ++ [']'], port) := by
  induction inner with
  | nil =>
    rw [List.nil_append, cutAtPort]
    simp [cutAtPort_port hport]
  | cons c inner ih =>
    obtain ⟨hc, hinner⟩ := List.forall_mem_cons.1 hinner
    have hne : (c != ']') = true := by
      rcases hc with hc | rfl
      · exact bne_iff_ne.2 (ne_of_hidden hc (by decide +kernel))
      · decide
    rw [List.cons_append, cutAtPort, hne]
    simp [ih hinner]

/-- A host ends where its port begins. -/
theorem cutAtPort_append {host : List Char} (hhost : IsHostText host) : cutAtPort false (host ++ port) = (host, port) := by
  cases hhost with
  | bracketed hinner =>
    rw [List.append_assoc, List.singleton_append, List.cons_append, cutAtPort]
    simp [cutAtPort_inner hport hinner]
  | plain _ hhost => exact cutAtPort_plain hport hhost

end Port

/-- The port of an authority as it is written, with its colon. -/
def portText (port : Option Nat) : List Char :=
  (port.map fun n => ':' :: Nat.toDigits 10 n).getD []

/-- A port starts with its colon, if there is one. -/
theorem head_portText (port : Option Nat) : portText port = [] ∨ (portText port).head? = some ':' := by
  cases port with
  | none => exact .inl rfl
  | some n => exact .inr rfl

private theorem isOf_portText (port : Option Nat) : IsOf (fun c => InAuthority c ∧ c ≠ '@') (portText port) := by
  cases port with
  | none => exact isOf_nil
  | some n =>
    have hdigits : ∀ d < 16, InAuthority (Nat.digitChar d) ∧ Nat.digitChar d ≠ '@' := fun d hd =>
      have hdigit := inAuthority_of_host (digitChar_not_forbidden d hd)
      ⟨hdigit.1, hdigit.2.1⟩
    exact .cons ⟨⟨by decide, by decide⟩, by decide⟩ (isOf_toDigits hdigits (by decide) (by decide) n)

/-- The value of decimal digits, as ports are read. -/
theorem foldl_toDigits (n : Nat) : (Nat.toDigits 10 n).foldl (fun value c => value * 10 + (c.toNat - 48)) 0 = n := by
  have hvalue := Nat.ofDigitChars_ten_toDigits (n := n)
  rw [Nat.ofDigitChars_eq_foldl] at hvalue
  simp only [Nat.mul_comm 10] at hvalue
  exact hvalue

/-- A port is read from what is written for it. -/
theorem readPort_portText {scheme : List Char} {port : Option Nat}
    (hport : ∀ n ∈ port, n ≤ 65535 ∧ some n ≠ defaultPort? scheme) :
    readPort scheme ((portText port).drop 1) = .ok (port, []) := by
  cases port with
  | none => rfl
  | some n =>
    obtain ⟨hbound, hdefault⟩ := hport n rfl
    have hdigits : ∀ c ∈ Nat.toDigits 10 n, c.isDigit = true := fun c hc =>
      Nat.isDigit_of_mem_toDigits (by decide) (by decide) hc
    change readPort scheme (Nat.toDigits 10 n) = _
    rw [readPort, List.takeWhile_eq_self_iff.2 hdigits, List.dropWhile_eq_nil_iff.2 hdigits, foldl_toDigits]
    simp [hdefault, Nat.toDigits_ne_nil, Nat.not_lt.2 hbound]

/-- User name and password as they are written. -/
def userText (authority : Authority) : List Char :=
  authority.username ++ if authority.password.isEmpty then [] else ':' :: authority.password

/-- An authority is written from user, host and port. -/
theorem text_eq (authority : Authority) :
    authority.text =
      (if (userText authority).isEmpty then [] else userText authority ++ ['@']) ++ authority.host ++
        portText authority.port := by
  obtain ⟨username, password, host, port⟩ := authority
  cases port with
  | none => rfl
  | some n =>
    have hdigits : (toString n).toList = Nat.toDigits 10 n := by
      rw [Nat.toString_eq_ofList_toDigits, String.toList_ofList]
    rw [portText, Option.map_some, Option.getD_some, ← hdigits]
    rfl

section Reread

variable {scheme : List Char} {authority : Authority} (hauthority : IsWebAuthority scheme authority)

include hauthority

/-- The host of an authority of the web is one that can be read. -/
theorem IsWebAuthority.isHostText : IsHostText authority.host := by
  obtain ⟨text, hhost⟩ := hauthority.host
  exact isHostText_webHost hhost

private theorem IsWebAuthority.isOf_host : IsOf (fun c => InAuthority c ∧ c ≠ '@') authority.host := by
  have hplain {c : Char} (hc : isForbiddenInDomain c = false) : InAuthority c ∧ c ≠ '@' :=
    ⟨(inAuthority_of_host hc).1, (inAuthority_of_host hc).2.1⟩
  have hsign {c : Char} (hc : c = '[' ∨ c = ']' ∨ c = ':') : InAuthority c ∧ c ≠ '@' := by
    rcases hc with rfl | rfl | rfl <;> exact ⟨⟨by decide, by decide⟩, by decide⟩
  have hhost := hauthority.isHostText
  generalize authority.host = host at hhost
  cases hhost with
  | bracketed hinner =>
    refine (IsOf.cons (hsign (.inl rfl)) fun c hc => ?_).append (isOf_singleton (hsign (.inr (.inl rfl))))
    exact (hinner c hc).elim hplain fun heq => hsign (.inr (.inr heq))
  | plain _ hhost => exact fun c hc => hplain (hhost c hc)

/-- Nothing in an authority ends it. -/
theorem IsWebAuthority.isOf_text : IsOf InAuthority authority.text := by
  have huserinfo {text : List Char} (htext : IsOf (isEncodedInUserinfo · = false) text) : IsOf InAuthority text :=
    fun c hc => (inAuthority_of_userinfo (htext c hc)).1
  have huser : IsOf InAuthority (userText authority) := by
    refine (huserinfo hauthority.username).append ?_
    split
    · exact isOf_nil
    · exact .cons ⟨by decide, by decide⟩ (huserinfo hauthority.password)
  rw [text_eq]
  refine IsOf.append (IsOf.append ?_ fun c hc => (hauthority.isOf_host c hc).1) fun c hc => (isOf_portText _ c hc).1
  split
  · exact isOf_nil
  · exact huser.append (isOf_singleton ⟨by decide, by decide⟩)

/-- No authority of the web is empty, as it has a host. -/
theorem IsWebAuthority.text_ne_nil : authority.text ≠ [] := by
  rw [text_eq]
  exact List.append_ne_nil_of_left_ne_nil (List.append_ne_nil_of_right_ne_nil _ hauthority.isHostText.ne_nil) _

/-- User, host and port are cut at their signs. -/
theorem IsWebAuthority.cutAtLastAt_text : ∃ user, cutAtLastAt authority.text =
      (user, authority.host ++ portText authority.port) ∧ user.getD [] = userText authority := by
  have hat : '@' ∉ authority.host ++ portText authority.port := fun hmem => by
    rcases List.mem_append.1 hmem with hmem | hmem
    · exact (hauthority.isOf_host _ hmem).2 rfl
    · exact (isOf_portText _ _ hmem).2 rfl
  rw [text_eq, List.append_assoc]
  split
  · next hempty => exact ⟨none, cutAtLastAt_of_notMem hat, (List.isEmpty_iff.1 hempty).symm⟩
  · exact ⟨some (userText authority), by rw [List.append_assoc]; exact cutAtLastAt_append _ hat, rfl⟩

private theorem IsWebAuthority.cutAtFirst_userText :
    Text.cutAtFirst ':' (userText authority) = (authority.username, authority.password) := by
  have hcolon : ':' ∉ authority.username := fun hmem => (inAuthority_of_userinfo (hauthority.username _ hmem)).2.2 rfl
  rw [userText]
  split
  · next hempty =>
    have hall : ∀ c ∈ authority.username, decide (c ≠ ':') = true := fun c hc => by
      have hne : c ≠ ':' := fun heq => hcolon (heq ▸ hc)
      simpa using hne
    rw [List.append_nil, Text.cutAtFirst, List.takeWhile_eq_self_iff.2 hall, List.dropWhile_eq_nil_iff.2 hall,
      List.isEmpty_iff.1 hempty]
    rfl
  · exact Text.cutAtFirst_append hcolon _

/-- An authority is read up to the slash behind it: as itself if its host is, and otherwise not at all. -/
theorem IsWebAuthority.readAuthority_text (hweb : SchemeKind.ofScheme scheme = .web) (rest : List Char) :
    (webHost authority.host = .ok authority.host →
      readAuthority scheme (authority.text ++ '/' :: rest) = .ok (authority, '/' :: rest)) ∧
    ∀ error, webHost authority.host = .error error →
      readAuthority scheme (authority.text ++ '/' :: rest) = .error error := by
  have hends : ∀ c ∈ authority.text, (!SchemeKind.web.endsAuthority c) = true := fun c hc => by
    rw [(hauthority.isOf_text c hc).1]
    rfl
  have hheld : (authority.text ++ '/' :: rest).takeWhile (!SchemeKind.web.endsAuthority ·) = authority.text := by
    rw [List.takeWhile_append_of_pos hends, List.takeWhile_cons_of_neg (by decide), List.append_nil]
  have hafter : (authority.text ++ '/' :: rest).dropWhile (!SchemeKind.web.endsAuthority ·) = '/' :: rest := by
    rw [List.dropWhile_append_of_pos hends, List.dropWhile_cons_of_neg (by decide)]
  obtain ⟨user, huser, hname⟩ := hauthority.cutAtLastAt_text
  have hhost := cutAtPort_append (head_portText authority.port) hauthority.isHostText
  refine ⟨fun hself => (readAuthority_web_iff hweb hheld hafter huser hhost).2 ?_, fun error =>
    readAuthority_web_error hweb hheld hafter huser hhost hauthority.isHostText.ne_nil⟩
  rw [hname, hauthority.cutAtFirst_userText]
  exact ⟨hauthority.isHostText.ne_nil, hself, (encodePart_eq_self hauthority.username).symm,
    (encodePart_eq_self hauthority.password).symm, [], readPort_portText hauthority.port, rfl⟩

end Reread

end PageRouter.Url
