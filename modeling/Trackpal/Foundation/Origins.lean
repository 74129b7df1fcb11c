import Trackpal.Foundation.Urls

/-!
# Origins of the web

A browser reads the address of a page, and names the origin of the page in its requests: a scheme,
a host as the host parser writes it, and a port that is not the one of the scheme.

Results:
1. `spelledAsSent_iff`: which authorities are those of an origin.
2. `readOrigin_serialize`: an origin is found again in what is sent of it.
-/

namespace Trackpal.Foundation

/-! ## The origin -/

inductive WebScheme where
  | http
  | https
deriving DecidableEq, Repr

def WebScheme.text : WebScheme → List Char
  | .http => ['h', 't', 't', 'p']
  | .https => ['h', 't', 't', 'p', 's']

def WebScheme.defaultPort : WebScheme → Nat
  | .http => 80
  | .https => 443

structure WebPort (scheme : WebScheme) where
  number : Nat
  valid : number ≤ 65535
  given : number ≠ scheme.defaultPort

def isDomainChar (c : Char) : Bool :=
  0x20 < c.toNat && c.toNat < 0x7f && !c.isUpper &&
    c ∉ ['#', '/', ':', '<', '>', '?', '@', '[', '\\', ']', '^', '|', '%']

/-- The characters of an address between brackets. -/
def isGroupChar (c : Char) : Bool := c.isDigit || c ∈ ['a', 'b', 'c', 'd', 'e', 'f', ':']

inductive IsHost : List Char → Prop where
  | domain {name : List Char} (hne : name ≠ []) (h : ∀ c ∈ name, isDomainChar c = true) :
      IsHost name
  | address {groups : List Char} (h : ∀ c ∈ groups, isGroupChar c = true) :
      IsHost ('[' :: (groups ++ [']']))

structure HostLibrary where
  parse : List Char → Option (List Char)
  parse_written : ∀ {text host : List Char}, parse text = some host → parse host = some host
  isHost : ∀ {text host : List Char}, parse text = some host → IsHost host

structure Origin (hosts : HostLibrary) where
  scheme : WebScheme
  host : List Char
  port : Option (WebPort scheme)
  written : hosts.parse host = some host

variable {hosts : HostLibrary}

def portText {scheme : WebScheme} : Option (WebPort scheme) → List Char
  | none => []
  | some port => ':' :: Nat.toDigits 10 port.number

/-- The host and the port as they are written. -/
def Origin.authority (o : Origin hosts) : List Char := o.host ++ portText o.port

def Origin.serialize (o : Origin hosts) : List Char :=
  o.scheme.text ++ ':' :: '/' :: '/' :: o.authority

/-! ## Reading an address -/

def isLow (c : Char) : Bool := c.toNat ≤ 0x20

def trimAddress (text : List Char) : List Char :=
  ((text.dropWhile isLow).rdropWhile isLow).filter fun c => c ∉ ['\t', '\r', '\n']

def WebScheme.read (name : List Char) : Option WebScheme :=
  if name.map Char.toLower = WebScheme.http.text then some .http
  else if name.map Char.toLower = WebScheme.https.text then some .https
  else none

/-- The text up to a colon that is not in brackets, and what follows. -/
def splitPort (inBrackets : Bool) : List Char → List Char × List Char
  | [] => ([], [])
  | c :: rest =>
    if c = ':' ∧ inBrackets = false then ([], c :: rest)
    else
      let after := splitPort (if c = '[' then true else if c = ']' then false else inBrackets) rest
      (c :: after.1, after.2)

/-- The port behind a colon: `none` is a failure. -/
def readWebPort (scheme : WebScheme) : List Char → Option (Option (WebPort scheme))
  | [] | [':'] => some none
  | _ :: digits =>
    if digits.all Char.isDigit then
      if h : digitsValue digits ≤ 65535 then
        if hport : digitsValue digits = scheme.defaultPort then some none
        else some (some ⟨digitsValue digits, h, hport⟩)
      else none
    else none

def readHost (hosts : HostLibrary) (scheme : WebScheme) (text after : List Char) :
    Option (Origin hosts) :=
  if text = [] then none
  else
    match h : hosts.parse text with
    | none => none
    | some host =>
      (readWebPort scheme after).map fun port =>
        { scheme, host, port, written := hosts.parse_written h }

def readAuthority (hosts : HostLibrary) (scheme : WebScheme) (authority : List Char) :
    Option (Origin hosts) :=
  let parts := splitPort false (authority.rtakeWhile (· ≠ '@'))
  readHost hosts scheme parts.1 parts.2

def readOrigin (hosts : HostLibrary) (text : List Char) : Option (Origin hosts) :=
  match upTo [':'] (trimAddress text) with
  | (name, _ :: rest) =>
    (WebScheme.read name).bind fun scheme =>
      readAuthority hosts scheme
        (upTo ['/', '\\', '?', '#'] (rest.dropWhile fun c => c = '/' ∨ c = '\\')).1
  | (_, []) => none

/-! ## The authority of an origin -/

def isPlainPort (scheme : WebScheme) : List Char → Bool
  | [] => true
  | colon :: digits =>
    colon = ':' && digits.all Char.isDigit && Nat.toDigits 10 (digitsValue digits) = digits &&
      digitsValue digits ≤ 65535 && digitsValue digits ≠ scheme.defaultPort

/-- The host is typed as the host parser writes it, and the port as it is written. -/
def spelledAsSent (hosts : HostLibrary) (scheme : WebScheme) (authority : List Char) : Bool :=
  hosts.parse (splitPort false authority).1 = some (splitPort false authority).1 &&
    isPlainPort scheme (splitPort false authority).2

namespace OriginsLemmas

variable {scheme : WebScheme} {o : Origin hosts} {name groups tail text close : List Char}

def isAuthorityChar (c : Char) : Bool := isDomainChar c || c ∈ ['[', ']', ':']

theorem authorityChar_of_ascii {p : Char → Bool} {c : Char}
    (hall : ∀ n < 128, isAuthorityChar (Char.ofNat n) = true → p (Char.ofNat n) = true)
    (hc : isAuthorityChar c = true) : p c = true := by
  have hascii : c.toNat < 128 := by
    have hcases := hc
    unfold isAuthorityChar isDomainChar at hcases
    simp only [Bool.or_eq_true, Bool.and_eq_true, decide_eq_true_eq, List.mem_cons,
      List.not_mem_nil, or_false] at hcases
    obtain ⟨⟨⟨-, hlt⟩, -⟩, -⟩ | rfl | rfl | rfl := hcases
    · exact Nat.lt_succ_of_lt hlt
    all_goals decide
  have hp := hall c.toNat hascii
  rw [Char.ofNat_toNat] at hp
  exact hp hc

theorem of_isDomainChar {c : Char} (h : isDomainChar c = true) : c ≠ ':' ∧ c ≠ '[' ∧ c ≠ ']' := by
  refine ⟨?_, ?_, ?_⟩ <;> rintro rfl <;> exact absurd h (by decide)

theorem of_isGroupChar {c : Char} (h : isGroupChar c = true) : c ≠ '[' ∧ c ≠ ']' := by
  refine ⟨?_, ?_⟩ <;> rintro rfl <;> exact absurd h (by decide)

def Follows (tail : List Char) : Prop := ∀ c ∈ tail.head?, c = ':'

theorem follows_portText {port : Option (WebPort scheme)} : Follows (portText port) := by
  cases port with
  | none => exact fun c hc => nomatch hc
  | some port => exact fun c hc => (Option.some.inj hc).symm

theorem splitPort_follows (h : Follows tail) : splitPort false tail = ([], tail) := by
  cases tail with
  | nil => rfl
  | cons c rest =>
    obtain rfl := h c rfl
    rfl

theorem splitPort_domain (hname : ∀ c ∈ name, isDomainChar c = true) (h : Follows tail) :
    splitPort false (name ++ tail) = (name, tail) := by
  induction name with
  | nil => exact splitPort_follows h
  | cons c rest ih =>
    obtain ⟨hcolon, hopen, hclose⟩ := of_isDomainChar (hname c List.mem_cons_self)
    have hrest := ih fun d hd => hname d (List.mem_cons_of_mem c hd)
    rw [List.cons_append, splitPort, if_neg fun hand => hcolon hand.1, if_neg hopen, if_neg hclose,
      hrest]

theorem splitPort_groups (hgroups : ∀ c ∈ groups, isGroupChar c = true) (h : Follows tail) :
    splitPort true (groups ++ ']' :: tail) = (groups ++ [']'], tail) := by
  induction groups with
  | nil =>
    rw [List.nil_append, splitPort, if_neg fun hand => Bool.noConfusion hand.2,
      if_neg (by decide), if_pos rfl, splitPort_follows h]
    rfl
  | cons c rest ih =>
    obtain ⟨hopen, hclose⟩ := of_isGroupChar (hgroups c List.mem_cons_self)
    have hrest := ih fun d hd => hgroups d (List.mem_cons_of_mem c hd)
    rw [List.cons_append, splitPort, if_neg fun hand => Bool.noConfusion hand.2, if_neg hopen,
      if_neg hclose, hrest]
    rfl

theorem splitPort_host {host : List Char} (hhost : IsHost host) (h : Follows tail) :
    splitPort false (host ++ tail) = (host, tail) := by
  cases hhost with
  | domain _ hname => exact splitPort_domain hname h
  | address hgroups =>
    rw [List.cons_append, List.append_assoc, List.singleton_append, splitPort,
      if_neg fun hand => absurd hand.1 (by decide), if_pos rfl, splitPort_groups hgroups h]

theorem splitPort_append {inBrackets : Bool} :
    (splitPort inBrackets text).1 ++ (splitPort inBrackets text).2 = text := by
  induction text generalizing inBrackets with
  | nil => rfl
  | cons c rest ih =>
    rw [splitPort]
    split
    · rfl
    · rw [List.cons_append, ih]

theorem splitPort_authority : splitPort false o.authority = (o.host, portText o.port) :=
  splitPort_host (hosts.isHost o.written) follows_portText

theorem toDigits_spec {n : Nat} :
    (Nat.toDigits 10 n).all Char.isDigit = true ∧ digitsValue (Nat.toDigits 10 n) = n :=
  ⟨List.all_eq_true.mpr fun _ hc => Nat.isDigit_of_mem_toDigits (by decide) (by decide) hc,
    Nat.ofDigitChars_ten_toDigits⟩

theorem readWebPort_portText {port : Option (WebPort scheme)} :
    readWebPort scheme (portText port) = some port := by
  cases port with
  | none => rfl
  | some port =>
    obtain ⟨n, hle, hne⟩ := port
    obtain ⟨hdigits, hvalue⟩ := @toDigits_spec n
    have hsome : Nat.toDigits 10 n ≠ [] := Nat.toDigits_ne_nil
    unfold portText
    dsimp only
    generalize Nat.toDigits 10 n = digits at hdigits hvalue hsome
    obtain rfl := hvalue
    unfold readWebPort
    split
    next heq => nomatch heq
    next heq => exact absurd (List.tail_eq_of_cons_eq heq) hsome
    next colon rest _ heq =>
      obtain rfl := List.tail_eq_of_cons_eq heq
      rw [if_pos hdigits, dif_pos hle, dif_neg hne]

theorem isPlainPort_iff : isPlainPort scheme text = true ↔
    ∃ port : Option (WebPort scheme), portText port = text := by
  constructor
  · intro h
    cases text with
    | nil => exact ⟨none, rfl⟩
    | cons colon digits =>
      unfold isPlainPort at h
      simp only [Bool.and_eq_true, decide_eq_true_eq] at h
      obtain ⟨⟨⟨⟨rfl, -⟩, hdigits⟩, hle⟩, hne⟩ := h
      exact ⟨some ⟨digitsValue digits, hle, hne⟩, congrArg (':' :: ·) hdigits⟩
  · rintro ⟨port, rfl⟩
    cases port with
    | none => rfl
    | some port =>
      obtain ⟨n, hle, hne⟩ := port
      obtain ⟨hdigits, hvalue⟩ := @toDigits_spec n
      unfold portText isPlainPort
      dsimp only
      rw [hvalue, hdigits, decide_eq_true hle, decide_eq_true hne, decide_eq_true rfl,
        decide_eq_true rfl]
      rfl

theorem host_ne_nil : o.host ≠ [] := by
  have hhost := hosts.isHost o.written
  generalize o.host = host at hhost
  cases hhost with
  | domain hne => exact hne
  | address => exact List.cons_ne_nil _ _

theorem authorityChars : ∀ c ∈ o.authority, isAuthorityChar c = true := by
  have hdigit : ∀ c : Char, c.isDigit = true → isDomainChar c = true := by
    intro c hc
    have hrange : 48 ≤ c.toNat ∧ c.toNat ≤ 57 := by
      unfold Char.isDigit at hc
      simp only [Bool.and_eq_true, decide_eq_true_eq, ge_iff_le, UInt32.le_iff_toNat_le] at hc
      exact hc
    have hall : ∀ n < 58, 48 ≤ n → isDomainChar (Char.ofNat n) = true := by decide
    have hdomain := hall c.toNat (Nat.lt_succ_of_le hrange.2) hrange.1
    rwa [Char.ofNat_toNat] at hdomain
  have hgroup : ∀ c : Char, isGroupChar c = true → isAuthorityChar c = true := by
    intro c hc
    unfold isGroupChar at hc
    obtain hc | hc := Bool.or_eq_true_iff.mp hc
    · exact Bool.or_eq_true_iff.mpr (.inl (hdigit c hc))
    · have hall : ['a', 'b', 'c', 'd', 'e', 'f', ':'].all isAuthorityChar = true := by decide
      exact List.all_eq_true.mp hall c (of_decide_eq_true hc)
  intro c hc
  obtain hc | hc := List.mem_append.mp hc
  · have hhost := hosts.isHost o.written
    generalize o.host = host at hhost hc
    cases hhost with
    | domain _ hname => exact Bool.or_eq_true_iff.mpr (.inl (hname c hc))
    | address hgroups =>
      obtain rfl | hc := List.mem_cons.mp hc
      · decide
      obtain hc | hc := List.mem_append.mp hc
      · exact hgroup c (hgroups c hc)
      · obtain rfl := List.mem_singleton.mp hc
        decide
  · generalize o.port = port at hc
    cases port with
    | none => nomatch hc
    | some port =>
      obtain rfl | hc := List.mem_cons.mp hc
      · decide
      · exact Bool.or_eq_true_iff.mpr
          (.inl (hdigit c (Nat.isDigit_of_mem_toDigits (by decide) (by decide) hc)))

theorem authority_all {p : Char → Bool}
    (hall : ∀ n < 128, isAuthorityChar (Char.ofNat n) = true → p (Char.ofNat n) = true) :
    ∀ c ∈ o.authority, p c = true :=
  fun c hc => authorityChar_of_ascii hall (authorityChars c hc)

theorem filter_dropWhile {p q : Char → Bool} (h : ∀ c, q c = false → p c = true) :
    (text.dropWhile p).filter q = (text.filter q).dropWhile p := by
  induction text with
  | nil => rfl
  | cons c rest ih =>
    cases hq : q c with
    | false => rw [List.dropWhile_cons_of_pos (h c hq), List.filter_cons_of_neg (by simp [hq]), ih]
    | true =>
      rw [List.filter_cons_of_pos hq]
      cases hp : p c with
      | false =>
        rw [List.dropWhile_cons_of_neg (by simp [hp]), List.dropWhile_cons_of_neg (by simp [hp]),
          List.filter_cons_of_pos hq]
      | true => rw [List.dropWhile_cons_of_pos hp, List.dropWhile_cons_of_pos hp, ih]

theorem trimAddress_eq : trimAddress text = (cleanUrl text).rdropWhile isLow := by
  have hbreak : ∀ c : Char, decide (c ∉ ['\t', '\r', '\n']) = false → isLow c = true := by
    intro c hc
    have hall : ['\t', '\r', '\n'].all isLow = true := by decide
    exact List.all_eq_true.mp hall c (not_not.mp (of_decide_eq_false hc))
  unfold trimAddress cleanUrl
  rw [List.rdropWhile, List.rdropWhile, List.filter_reverse, filter_dropWhile hbreak,
    List.filter_reverse]
  rfl

end OriginsLemmas

open OriginsLemmas

variable {scheme : WebScheme} {o : Origin hosts} {name text close : List Char}

theorem spelledAsSent_iff {authority : List Char} : spelledAsSent hosts scheme authority = true ↔
    ∃ o : Origin hosts, o.scheme = scheme ∧ o.authority = authority := by
  unfold spelledAsSent
  constructor
  · intro h
    obtain ⟨hhost, hport⟩ := Bool.and_eq_true_iff.mp h
    obtain ⟨port, hport⟩ := isPlainPort_iff.mp hport
    refine ⟨⟨scheme, (splitPort false authority).1, port, of_decide_eq_true hhost⟩, rfl, ?_⟩
    unfold Origin.authority
    rw [hport]
    exact splitPort_append
  · rintro ⟨o, rfl, rfl⟩
    rw [splitPort_authority]
    exact Bool.and_eq_true_iff.mpr ⟨decide_eq_true o.written, isPlainPort_iff.mpr ⟨o.port, rfl⟩⟩

theorem readAuthority_authority : readAuthority hosts o.scheme o.authority = some o := by
  have huser : o.authority.rtakeWhile (· ≠ '@') = o.authority := by
    refine List.rtakeWhile_eq_self_iff.mpr ?_
    exact authority_all (p := fun c => decide (c ≠ '@')) (by decide)
  unfold readAuthority
  rw [huser, splitPort_authority]
  unfold readHost
  rw [if_neg host_ne_nil]
  split
  next h => nomatch h.symm.trans o.written
  next host h =>
    obtain rfl := Option.some.inj (h.symm.trans o.written)
    rw [readWebPort_portText]
    rfl

theorem readOrigin_spelled (hscheme : WebScheme.read name = some o.scheme) (hname : ':' ∉ name)
    (hclose : ∀ c ∈ close.head?, c ∈ ['/', '\\', '?', '#'])
    (htext : trimAddress text = name ++ ':' :: '/' :: '/' :: (o.authority ++ close)) :
    readOrigin hosts text = some o := by
  have hsplit : upTo [':'] (name ++ ':' :: '/' :: '/' :: (o.authority ++ close)) =
      (name, ':' :: '/' :: '/' :: (o.authority ++ close)) := by
    refine UrlsLemmas.upTo_append (fun c hc hmark => ?_) fun c hc => ?_
    · obtain rfl := List.mem_singleton.mp hmark
      exact hname hc
    · obtain rfl := Option.some.inj hc
      exact List.mem_singleton_self _
  have hslashes : (('/' :: '/' :: (o.authority ++ close)).dropWhile fun c => c = '/' ∨ c = '\\') =
      o.authority ++ close := by
    have hfirst : ∀ c ∈ (o.authority ++ close).head?, decide (c = '/' ∨ c = '\\') = false := by
      intro c hc
      obtain ⟨first, rest, hauthority⟩ := List.exists_cons_of_ne_nil
        (fun hnil : o.authority = [] => host_ne_nil (List.append_eq_nil_iff.mp hnil).1)
      rw [hauthority] at hc
      obtain rfl := Option.some.inj hc
      have hnot := authority_all (o := o) (p := fun c => !decide (c = '/' ∨ c = '\\')) (by decide)
        first (hauthority ▸ List.mem_cons_self)
      exact (Bool.not_eq_true' _).mp hnot
    rw [List.dropWhile_cons_of_pos (by decide), List.dropWhile_cons_of_pos (by decide)]
    cases htail : o.authority ++ close with
    | nil => rfl
    | cons c rest =>
      rw [htail] at hfirst
      exact List.dropWhile_cons_of_neg fun hc => Bool.noConfusion ((hfirst c rfl).symm.trans hc)
  have hstop : upTo ['/', '\\', '?', '#'] (o.authority ++ close) = (o.authority, close) := by
    refine UrlsLemmas.upTo_append ?_ hclose
    intro c hc
    exact of_decide_eq_true (authority_all (p := fun c => decide (c ∉ ['/', '\\', '?', '#']))
      (by decide) c hc)
  unfold readOrigin
  rw [htext, hsplit]
  dsimp only
  rw [hscheme, hslashes, hstop]
  exact readAuthority_authority

/-! ## What is sent -/

namespace OriginsLemmas

theorem text_facts : ':' ∉ scheme.text ∧ '*' ∉ scheme.text ∧ isScheme scheme.text = true ∧
    (∀ c ∈ scheme.text, c.toNat < 128 ∧ isSpace c = false ∧ isLow c = false) ∧
    scheme.text.map Char.toLower = scheme.text ∧ scheme.text ≠ [] := by
  have hchars : scheme.text.all (fun c => c.toNat < 128 && !isSpace c && !isLow c) = true := by
    cases scheme <;> decide
  refine ⟨by cases scheme <;> decide, by cases scheme <;> decide, by cases scheme <;> decide,
    fun c hc => ?_, by cases scheme <;> decide, by cases scheme <;> decide⟩
  have hc := List.all_eq_true.mp hchars c hc
  simp only [Bool.and_eq_true, decide_eq_true_eq, Bool.not_eq_true'] at hc
  exact ⟨hc.1.1, hc.1.2, hc.2⟩

theorem serialize_all {p : Char → Bool}
    (hall : ∀ n < 128, isAuthorityChar (Char.ofNat n) = true → p (Char.ofNat n) = true)
    (hscheme : ∀ c ∈ o.scheme.text, p c = true) (hmarks : [':', '/'].all p = true) :
    ∀ c ∈ o.serialize, p c = true := by
  have hmark := List.all_eq_true.mp hmarks
  intro c hc
  unfold Origin.serialize at hc
  simp only [List.mem_append, List.mem_cons] at hc
  obtain hc | rfl | rfl | rfl | hc := hc
  · exact hscheme c hc
  · exact hmark _ (by decide)
  · exact hmark _ (by decide)
  · exact hmark _ (by decide)
  · exact authority_all hall c hc

theorem not_low_of_serialize : ∀ c ∈ o.serialize, isLow c = false := by
  obtain ⟨-, -, -, hchars, -, -⟩ := @text_facts o.scheme
  exact fun c hc => (Bool.not_eq_true' _).mp (serialize_all (p := fun c => !isLow c) (by decide)
    (fun c hc => (Bool.not_eq_true' _).mpr (hchars c hc).2.2) (by decide) c hc)

theorem cleanUrl_serialize : cleanUrl o.serialize = o.serialize := by
  have hbreaks : ∀ c ∈ o.serialize, decide (c ∉ ['\t', '\r', '\n']) = true := by
    refine fun c hc => decide_eq_true fun hmem => ?_
    have hall : ['\t', '\r', '\n'].all isLow = true := by decide
    exact Bool.noConfusion
      ((not_low_of_serialize c hc).symm.trans (List.all_eq_true.mp hall c hmem))
  have hdrop : o.serialize.dropWhile (fun c => decide (c.toNat ≤ 0x20)) = o.serialize := by
    cases htext : o.serialize with
    | nil => rfl
    | cons c rest =>
      refine List.dropWhile_cons_of_neg fun hlow => ?_
      exact Bool.noConfusion
        ((not_low_of_serialize c (htext ▸ List.mem_cons_self)).symm.trans hlow)
  unfold cleanUrl
  rw [hdrop, List.filter_eq_self.mpr hbreaks]

end OriginsLemmas

theorem readOrigin_serialize : readOrigin hosts o.serialize = some o := by
  obtain ⟨hcolon, -, -, -, hlower, -⟩ := @text_facts o.scheme
  have htrim : trimAddress o.serialize = o.serialize := by
    rw [trimAddress_eq, cleanUrl_serialize]
    exact List.rdropWhile_eq_self_iff.mpr fun hne hlow =>
      Bool.noConfusion ((not_low_of_serialize _ (List.getLast_mem hne)).symm.trans hlow)
  refine @readOrigin_spelled hosts o o.scheme.text _ [] ?_ hcolon (fun c hc => nomatch hc) ?_
  · unfold WebScheme.read
    rw [hlower]
    cases o.scheme <;> decide
  · rw [htrim, List.append_nil]
    rfl

theorem serialize_inj {a b : Origin hosts} (h : a.serialize = b.serialize) : a = b :=
  Option.some.inj (readOrigin_serialize.symm.trans (h ▸ readOrigin_serialize))

end Trackpal.Foundation
