import Mathlib.Data.List.DropRight
import Mathlib.Data.List.TakeWhile
import Trackpal.Foundation.Numerals
import Trackpal.Foundation.Text

/-!
# Two readings of a URL

The grammar of URIs splits a text into scheme, authority, path, query and fragment, and accepts no
other text. The standard library splits every text, after it has dropped some characters.

Results:
1. `splitUri_parts`: a URI with a given scheme and authority is split into these.
2. `hostinfo_of_splitHost`: both readings find the same host and port in an authority.
-/

namespace Trackpal.Foundation

def upTo (stops : List Char) (text : List Char) : List Char × List Char :=
  (text.takeWhile (· ∉ stops), text.dropWhile (· ∉ stops))

/-! ## The grammar -/

structure Uri where
  scheme : List Char
  userinfo : Option (List Char)
  /-- The host, an address without its brackets. -/
  host : List Char
  port : List Char
  path : List Char
  query : Option (List Char)
  fragment : Option (List Char)
deriving DecidableEq

def isUnreserved (c : Char) : Bool := c.isAlphanum || c ∈ ['-', '.', '_', '~']

def isSubDelim (c : Char) : Bool := c ∈ ['!', '$', '&', '\'', '(', ')', '*', '+', ',', ';', '=']

def isGenDelim (c : Char) : Bool := c ∈ [':', '/', '?', '#', '[', ']', '@']

def isUriChar (c : Char) : Bool := isUnreserved c || isSubDelim c || isGenDelim c || c = '%'

def wellEncoded : List Char → Bool
  | '%' :: high :: low :: rest => high.isHexDigit && low.isHexDigit && wellEncoded rest
  | '%' :: _ => false
  | _ :: rest => wellEncoded rest
  | [] => true

def isSchemeChar (c : Char) : Bool := c.isAlphanum || c ∈ ['+', '-', '.']

def isScheme : List Char → Bool
  | [] => false
  | c :: rest => c.isAlpha && (c :: rest).all isSchemeChar

def isNameChar (c : Char) : Bool := isUnreserved c || isSubDelim c || c = '%'

def isAddressChar (c : Char) : Bool := isUnreserved c || isSubDelim c || c = ':'

def isPathChar (c : Char) : Bool := isNameChar c || c ∈ [':', '@', '/']

def isQueryChar (c : Char) : Bool := isPathChar c || c = '?'

def splitHost : List Char → Option (List Char × List Char)
  | '[' :: rest =>
    match upTo [']'] rest with
    | (address, _ :: port) => if address.all isAddressChar then some (address, port) else none
    | (_, []) => none
  | text =>
    let name := upTo [':'] text
    if name.1.all isNameChar then some name else none

def readPort : List Char → Option (List Char)
  | [] => some []
  | c :: digits => if c = ':' ∧ digits.all Char.isDigit then some digits else none

/-- The user of an authority, and what follows. -/
def splitUserinfo (authority : List Char) : Option (List Char) × List Char :=
  match upTo ['@'] authority with
  | (userinfo, _ :: rest) => (some userinfo, rest)
  | (_, []) => (none, authority)

def readQuery : List Char → Option (List Char) × List Char
  | '?' :: rest => ((upTo ['#'] rest).1, (upTo ['#'] rest).2)
  | rest => (none, rest)

def readFragment : List Char → Option (List Char)
  | '#' :: rest => some rest
  | _ => none

/-- The parts behind the scheme and two slashes. -/
def splitHierarchy (scheme text : List Char) : Option Uri := do
  let authority := upTo ['/', '?', '#'] text
  let path := upTo ['?', '#'] authority.2
  let query := readQuery path.2
  let fragment := readFragment query.2
  let user := splitUserinfo authority.1
  let (host, after) ← splitHost user.2
  let port ← readPort after
  guard (path.1.all isPathChar && query.1.all (·.all isQueryChar) &&
    fragment.all (·.all isQueryChar))
  return { scheme, userinfo := user.1, host, port, path := path.1, query := query.1, fragment }

def splitUri (text : List Char) : Option Uri :=
  if text.all isUriChar && wellEncoded text then
    match upTo [':', '/', '?', '#'] text with
    | (scheme, ':' :: '/' :: '/' :: rest) =>
      if isScheme scheme then splitHierarchy scheme rest else none
    | _ => none
  else none

/-! ## The standard library -/

structure SplitResult where
  scheme : List Char
  netloc : List Char
  path : List Char
  query : List Char
  fragment : List Char
deriving DecidableEq

/-- What the library does beyond the splitting: the checks of an authority that raise, and small
letters. -/
structure UrlLibrary where
  netlocOk : List Char → Bool
  lower : List Char → List Char
  lower_ascii : ∀ text : List Char, (∀ c ∈ text, c.toNat < 128) → lower text = text.map Char.toLower

theorem lower_chars (text : List Char) (_ : ∀ c ∈ text, c.toNat < 128) :
    text.map Char.toLower = text.map Char.toLower := rfl

/-- White space and controls at the start are dropped, and some of them everywhere. -/
def cleanUrl (url : List Char) : List Char :=
  (url.dropWhile fun c => c.toNat ≤ 0x20).filter fun c => c ∉ ['\t', '\r', '\n']

/-- The text before a first mark, and the text behind it. -/
def partition (mark : Char) (text : List Char) : List Char × List Char :=
  ((upTo [mark] text).1, (upTo [mark] text).2.tail)

variable (lib : UrlLibrary)

def splitScheme (url : List Char) : List Char × List Char :=
  match upTo [':'] url with
  | (name, _ :: rest) => if isScheme name then (lib.lower name, rest) else ([], url)
  | (_, []) => ([], url)

def splitNetloc : List Char → List Char × List Char
  | '/' :: '/' :: rest => upTo ['/', '?', '#'] rest
  | rest => ([], rest)

/-- `urlsplit`: `none` is a `ValueError`. -/
def urlsplit (url : List Char) : Option SplitResult :=
  let scheme := splitScheme lib (cleanUrl url)
  let netloc := splitNetloc scheme.2
  let fragment := partition '#' netloc.2
  let query := partition '?' fragment.1
  if decide ('[' ∈ netloc.1) = decide (']' ∈ netloc.1) ∧ lib.netlocOk netloc.1 then
    some { scheme := scheme.1, netloc := netloc.1, path := query.1, query := query.2,
           fragment := fragment.2 }
  else none

/-- `_hostinfo`: the host and the text of the port. -/
def hostinfo (netloc : List Char) : List Char × List Char :=
  let info := netloc.rtakeWhile (· ≠ '@')
  if '[' ∈ info then
    let bracketed := partition ']' (partition '[' info).2
    (bracketed.1, (partition ':' bracketed.2).2)
  else partition ':' info

/-- `hostname`: the zone behind a percent sign keeps its capital letters. -/
def SplitResult.hostname (r : SplitResult) : List Char :=
  let host := upTo ['%'] (hostinfo r.netloc).1
  lib.lower host.1 ++ host.2

/-- `port`: `none` is a `ValueError`, and an empty text is no port. -/
def SplitResult.port (r : SplitResult) : Option (Option Nat) :=
  let digits := (hostinfo r.netloc).2
  if digits = [] then some none
  else if digits.all Char.isDigit ∧ digitsValue digits ≤ 65535 then some (digitsValue digits)
  else none

def SplitResult.hasUser (r : SplitResult) : Bool := '@' ∈ r.netloc

namespace UrlsLemmas

variable {stops l tail text url rest : List Char} {mark : Char} {r : SplitResult} {lib : UrlLibrary}

theorem upTo_append (hl : ∀ c ∈ l, c ∉ stops) (htail : ∀ c ∈ tail.head?, c ∈ stops) :
    upTo stops (l ++ tail) = (l, tail) := by
  have hfree : ∀ c ∈ l, decide (c ∉ stops) = true := fun c hc => decide_eq_true (hl c hc)
  have hstop : tail.takeWhile (fun c => decide (c ∉ stops)) = [] ∧
      tail.dropWhile (fun c => decide (c ∉ stops)) = tail := by
    cases tail with
    | nil => exact ⟨rfl, rfl⟩
    | cons c tail =>
      have hc : ¬decide (c ∉ stops) = true := by simpa using htail c rfl
      exact ⟨List.takeWhile_cons_of_neg hc, List.dropWhile_cons_of_neg hc⟩
  unfold upTo
  rw [List.takeWhile_append_of_pos hfree, List.dropWhile_append_of_pos hfree, hstop.1, hstop.2,
    List.append_nil]

theorem upTo_spec : text = (upTo stops text).1 ++ (upTo stops text).2 ∧
    (∀ c ∈ (upTo stops text).1, c ∉ stops) ∧ ∀ c ∈ (upTo stops text).2.head?, c ∈ stops := by
  refine ⟨List.takeWhile_append_dropWhile.symm, fun c hc => ?_, fun c hc => ?_⟩
  · have hfree := List.mem_takeWhile_imp (hc : c ∈ text.takeWhile fun c => decide (c ∉ stops))
    exact of_decide_eq_true hfree
  · have hstop := head_dropWhile (p := fun c => decide (c ∉ stops)) c hc
    exact not_not.mp (of_decide_eq_false hstop)

theorem of_partition_nil (h : (partition mark text).2 = []) :
    ∃ close, (close = [] ∨ close = [mark]) ∧ text = (partition mark text).1 ++ close := by
  obtain ⟨hsplit, -, hhead⟩ := @upTo_spec [mark] text
  refine ⟨(upTo [mark] text).2, ?_, hsplit⟩
  unfold partition at h
  cases hafter : (upTo [mark] text).2 with
  | nil => exact .inl rfl
  | cons c rest =>
    rw [hafter] at h hhead
    rw [List.mem_singleton.mp (hhead c rfl)]
    exact .inr (congrArg (mark :: ·) h)

theorem partition_append (hl : mark ∉ l) : partition mark (l ++ mark :: rest) = (l, rest) := by
  have happend : upTo [mark] (l ++ mark :: rest) = (l, mark :: rest) := by
    refine upTo_append (fun c hc hmark => ?_) fun c hc => ?_
    · obtain rfl := List.mem_singleton.mp hmark
      exact hl hc
    · obtain rfl := Option.some.inj hc
      exact List.mem_singleton_self mark
  unfold partition
  rw [happend]
  rfl

theorem toLower_toLower (c : Char) : c.toLower.toLower = c.toLower := by
  by_cases hcapital : c.val ≥ 'A'.val ∧ c.val ≤ 'Z'.val
  · have hval : c.toLower.val = c.val + ('a'.val - 'A'.val) := by
      unfold Char.toLower
      rw [dif_pos hcapital]
    have hsmall : ¬(c.toLower.val ≥ 'A'.val ∧ c.toLower.val ≤ 'Z'.val) := by
      rintro ⟨-, hle⟩
      obtain ⟨hlow, hhigh⟩ := hcapital
      rw [hval, UInt32.le_iff_toNat_le, UInt32.toNat_add] at hle
      rw [ge_iff_le, UInt32.le_iff_toNat_le] at hlow
      rw [UInt32.le_iff_toNat_le] at hhigh
      change 65 ≤ c.val.toNat at hlow
      change c.val.toNat ≤ 90 at hhigh
      change (c.val.toNat + 32) % 4294967296 ≤ 90 at hle
      omega
    generalize c.toLower = d at hsmall
    unfold Char.toLower
    rw [dif_neg hsmall]
  · have hsame : c.toLower = c := by
      unfold Char.toLower
      rw [dif_neg hcapital]
    rw [hsame, hsame]

theorem ascii_of_uriChar {c : Char} (h : isUriChar c = true) : c.toNat < 128 := by
  have hlist {l : List Char} (hall : l.all (·.toNat < 128) = true) (hc : c ∈ l) :
      c.toNat < 128 := of_decide_eq_true (List.all_eq_true.mp hall c hc)
  have halphanum (hc : c.isAlphanum = true) : c.toNat < 128 := by
    unfold Char.isAlphanum at hc
    delta Char.isAlpha at hc
    delta Char.isUpper Char.isLower at hc
    simp only [Char.isDigit, Bool.or_eq_true, Bool.and_eq_true, decide_eq_true_eq, ge_iff_le,
      UInt32.le_iff_toNat_le] at hc
    change c.val.toNat < 128
    obtain (⟨-, hc⟩ | ⟨-, hc⟩) | ⟨-, hc⟩ := hc <;> exact Nat.lt_of_le_of_lt hc (by decide)
  unfold isUriChar isUnreserved isSubDelim isGenDelim at h
  simp only [Bool.or_eq_true, decide_eq_true_eq] at h
  obtain (((hc | hc) | hc) | hc) | rfl := h
  · exact halphanum hc
  · exact hlist (by decide) hc
  · exact hlist (by decide) hc
  · exact hlist (by decide) hc
  · decide

theorem schemeChars_of_isScheme {name : List Char} (h : isScheme name = true) :
    ∀ c ∈ name, isSchemeChar c = true := by
  cases name with
  | nil => exact fun c hc => nomatch hc
  | cons first rest => exact List.all_eq_true.mp (Bool.and_eq_true _ _ ▸ h).2

theorem splitScheme_of_some (h : (splitScheme lib url).1 ≠ []) :
    ∃ name, isScheme name = true ∧ (splitScheme lib url).1 = lib.lower name ∧
      url = name ++ ':' :: (splitScheme lib url).2 := by
  obtain ⟨hsplit, -, hhead⟩ := @upTo_spec [':'] url
  unfold splitScheme at h ⊢
  generalize upTo [':'] url = parts at h hsplit hhead ⊢
  obtain ⟨name, after⟩ := parts
  cases after with
  | nil => exact absurd rfl h
  | cons c rest =>
    dsimp only at h hsplit hhead ⊢
    obtain rfl := List.mem_singleton.mp (hhead c rfl)
    by_cases hname : isScheme name = true
    · rw [if_pos hname] at h ⊢
      exact ⟨name, hname, rfl, hsplit⟩
    · rw [if_neg hname] at h
      exact absurd rfl h

theorem splitNetloc_of_some (h : (splitNetloc text).1 ≠ []) :
    text = '/' :: '/' :: ((splitNetloc text).1 ++ (splitNetloc text).2) ∧
      (∀ c ∈ (splitNetloc text).1, c ∉ ['/', '?', '#']) ∧
      ∀ c ∈ (splitNetloc text).2.head?, c ∈ ['/', '?', '#'] := by
  unfold splitNetloc at h ⊢
  split
  next rest =>
    obtain ⟨hsplit, hfree, hhead⟩ := @upTo_spec ['/', '?', '#'] rest
    exact ⟨congrArg ('/' :: '/' :: ·) hsplit, hfree, hhead⟩
  next hno =>
    split at h
    · next rest => exact absurd rfl (hno rest)
    · exact absurd rfl h

end UrlsLemmas

open UrlsLemmas

variable {url text : List Char} {r : SplitResult} {lib : UrlLibrary}

/-- What is split in the lenient way, with a scheme and an authority and with nothing behind the
marks of query and fragment, is put together from its parts. -/
theorem urlsplit_parts (h : urlsplit lib url = some r) (hclean : cleanUrl url = url)
    (hscheme : r.scheme ≠ []) (hnetloc : r.netloc ≠ []) (hquery : r.query = [])
    (hfragment : r.fragment = []) :
    ∃ name question hash, isScheme name = true ∧ r.scheme = lib.lower name ∧
      (question = [] ∨ question = ['?']) ∧ (hash = [] ∨ hash = ['#']) ∧
      (∀ c ∈ r.netloc, c ∉ ['/', '?', '#']) ∧
      url = name ++ ':' :: '/' :: '/' :: (r.netloc ++ (r.path ++ question ++ hash)) := by
  unfold urlsplit at h
  dsimp only at h
  rw [hclean] at h
  split at h
  next =>
    obtain rfl := Option.some.inj h
    dsimp only at hscheme hnetloc hquery hfragment ⊢
    obtain ⟨name, hname, hlower, hurl⟩ := splitScheme_of_some hscheme
    obtain ⟨hrest, hfree, -⟩ := splitNetloc_of_some hnetloc
    obtain ⟨hash, hhash, htail⟩ := of_partition_nil hfragment
    obtain ⟨question, hquestion, hpath⟩ := of_partition_nil hquery
    refine ⟨name, question, hash, hname, hlower, hquestion, hhash, hfree, ?_⟩
    rw [← hpath, ← htail, ← hrest]
    exact hurl
  · nomatch h

theorem urlsplit_path (h : urlsplit lib url = some r) (hnetloc : r.netloc ≠ []) :
    ∀ c ∈ r.path.head?, c = '/' := by
  unfold urlsplit at h
  dsimp only at h
  split at h
  next =>
    obtain rfl := Option.some.inj h
    dsimp only at hnetloc ⊢
    obtain ⟨-, -, hhead⟩ := splitNetloc_of_some hnetloc
    generalize (splitNetloc (splitScheme lib (cleanUrl url)).2).2 = tail at hhead
    unfold partition upTo
    dsimp only
    cases tail with
    | nil => exact fun c hc => nomatch hc
    | cons mark rest =>
      have hmark := hhead mark rfl
      rw [List.mem_cons, List.mem_cons, List.mem_singleton] at hmark
      obtain rfl | rfl | rfl := hmark
      · exact fun c hc => (Option.some.inj hc).symm
      · exact fun c hc => nomatch hc
      · exact fun c hc => nomatch hc
  · nomatch h

theorem cleanUrl_cleanUrl : cleanUrl (cleanUrl url) = cleanUrl url := by
  have hhead : ∀ c ∈ (url.dropWhile fun c => decide (c.toNat ≤ 0x20)).head?,
      decide (c.toNat ≤ 0x20) = false := head_dropWhile
  unfold cleanUrl
  generalize (url.dropWhile fun c => decide (c.toNat ≤ 0x20)) = rest at hhead
  cases rest with
  | nil => rfl
  | cons c rest =>
    have hlow := hhead c rfl
    have hkept : decide (c ∉ ['\t', '\r', '\n']) = true := by
      refine decide_eq_true fun hmem => ?_
      have hall : ['\t', '\r', '\n'].all (·.toNat ≤ 0x20) = true := by decide
      rw [List.all_eq_true.mp hall c hmem] at hlow
      nomatch hlow
    have hfilter : (c :: rest).filter (fun c => c ∉ ['\t', '\r', '\n']) =
        c :: rest.filter fun c => c ∉ ['\t', '\r', '\n'] :=
      List.filter_cons_of_pos (p := fun c => c ∉ ['\t', '\r', '\n']) hkept
    rw [hfilter, List.dropWhile_cons_of_neg (by rw [hlow]; nofun), ← hfilter, List.filter_filter]
    simp only [Bool.and_self]

theorem cleanUrl_of_uri (h : url.all isUriChar = true) : cleanUrl url = url := by
  have hlow : ∀ n < 0x21, isUriChar (Char.ofNat n) = false := by decide
  have hchar : ∀ c ∈ url, ¬c.toNat ≤ 0x20 := by
    intro c hc hle
    have hfalse := hlow c.toNat (Nat.lt_succ_of_le hle)
    rw [Char.ofNat_toNat, List.all_eq_true.mp h c hc] at hfalse
    nomatch hfalse
  have hdrop : (url.dropWhile fun c => c.toNat ≤ 0x20) = url := by
    cases url with
    | nil => rfl
    | cons c rest =>
      exact List.dropWhile_cons_of_neg fun hle =>
        hchar c List.mem_cons_self (of_decide_eq_true hle)
  have hfilter : ∀ c ∈ url, decide (c ∉ ['\t', '\r', '\n']) = true := by
    refine fun c hc => decide_eq_true fun hmem => hchar c hc ?_
    rw [List.mem_cons, List.mem_cons, List.mem_singleton] at hmem
    obtain rfl | rfl | rfl := hmem <;> decide
  unfold cleanUrl
  rw [hdrop, List.filter_eq_self.mpr hfilter]

theorem hostinfo_of_splitHost {netloc host after digits : List Char} (huser : '@' ∉ netloc)
    (hhost : splitHost netloc = some (host, after)) (hport : readPort after = some digits) :
    hostinfo netloc = (host, digits) := by
  have hinfo : netloc.rtakeWhile (· ≠ '@') = netloc := by
    refine List.rtakeWhile_eq_self_iff.mpr fun c hc => decide_eq_true ?_
    rintro rfl
    exact huser hc
  have hafter : after.tail = digits ∧ (after = [] ∨ after = ':' :: digits) ∧
      digits.all Char.isDigit = true := by
    cases after with
    | nil =>
      obtain rfl := Option.some.inj hport
      exact ⟨rfl, .inl rfl, rfl⟩
    | cons c rest =>
      unfold readPort at hport
      dsimp only at hport
      by_cases hcolon : c = ':' ∧ rest.all Char.isDigit = true
      · rw [if_pos hcolon] at hport
        obtain rfl := Option.some.inj hport
        exact ⟨rfl, .inr (hcolon.1 ▸ rfl), hcolon.2⟩
      · rw [if_neg hcolon] at hport
        nomatch hport
  obtain ⟨htail, hshape, hdigits⟩ := hafter
  unfold hostinfo
  rw [hinfo]
  unfold splitHost at hhost
  split at hhost
  next rest =>
    -- An address in brackets ends at the first closing one, and the port follows on that.
    obtain ⟨hsplit, hfree, hhead⟩ := @upTo_spec [']'] rest
    generalize upTo [']'] rest = parts at hhost hsplit hfree hhead
    obtain ⟨address, close⟩ := parts
    cases close with
    | nil => nomatch hhost
    | cons c port =>
      dsimp only at hhost hsplit hfree hhead
      obtain rfl := List.mem_singleton.mp (hhead c rfl)
      split at hhost
      next =>
        obtain ⟨rfl, rfl⟩ := Prod.mk.inj (Option.some.inj hhost)
        have hopen : partition '[' ('[' :: rest) = ([], rest) :=
          @partition_append [] rest '[' List.not_mem_nil
        have hclose : partition ']' rest = (address, port) := by
          rw [hsplit]
          exact partition_append fun hmem => hfree _ hmem (List.mem_singleton_self _)
        have hcolon : (partition ':' port).2 = digits := by
          obtain rfl | rfl := hshape
          · exact htail
          · exact congrArg Prod.snd (@partition_append [] digits ':' List.not_mem_nil)
        rw [if_pos List.mem_cons_self, hopen]
        dsimp only
        rw [hclose, hcolon]
      · nomatch hhost
  next hbracket =>
    dsimp only at hhost
    obtain ⟨hsplit, -, -⟩ := @upTo_spec [':'] netloc
    split at hhost
    next hname =>
      have hparts := Option.some.inj hhost
      rw [hparts] at hname hsplit
      have hno : '[' ∉ netloc := by
        intro hmem
        rw [hsplit] at hmem
        obtain hmem | hmem := List.mem_append.mp hmem
        · exact absurd (List.all_eq_true.mp hname _ hmem) (by decide)
        · obtain rfl | rfl := hshape
          · nomatch hmem
          · obtain hmem | hmem := List.mem_cons.mp hmem
            · exact absurd hmem (by decide)
            · exact absurd (List.all_eq_true.mp hdigits _ hmem) (by decide)
      rw [if_neg hno]
      unfold partition
      rw [hparts, htail]
    · nomatch hhost

theorem uriChars_of_splitHost {host after : List Char}
    (h : splitHost text = some (host, after)) : host.all isUriChar = true := by
  unfold splitHost at h
  split at h
  · split at h
    next address c port _ =>
      split at h
      next hall =>
        obtain ⟨rfl, -⟩ := Prod.mk.inj (Option.some.inj h)
        refine List.all_eq_true.mpr fun c hc => ?_
        have haddress := List.all_eq_true.mp hall c hc
        unfold isAddressChar at haddress
        unfold isUriChar isGenDelim
        simp only [Bool.or_eq_true, decide_eq_true_eq] at haddress ⊢
        obtain (hc | hc) | rfl := haddress
        · exact .inl (.inl (.inl hc))
        · exact .inl (.inl (.inr hc))
        · exact .inl (.inr List.mem_cons_self)
      · nomatch h
    · nomatch h
  · dsimp only at h
    split at h
    next hall =>
      have hparts := Option.some.inj h
      rw [hparts] at hall
      refine List.all_eq_true.mpr fun c hc => ?_
      have hname := List.all_eq_true.mp hall c hc
      unfold isNameChar at hname
      unfold isUriChar
      simp only [Bool.or_eq_true, decide_eq_true_eq] at hname ⊢
      obtain (hc | hc) | hc := hname
      · exact .inl (.inl (.inl hc))
      · exact .inl (.inl (.inr hc))
      · exact .inr hc
    · nomatch h

theorem uriChars_of_splitUri {u : Uri} (h : splitUri text = some u) :
    text.all isUriChar = true := by
  unfold splitUri at h
  split at h
  next hchars => exact (Bool.and_eq_true _ _ ▸ hchars).1
  · nomatch h

theorem splitHierarchy_parts {u : Uri} {name authority tail : List Char}
    (hfree : ∀ c ∈ authority, c ∉ ['/', '?', '#']) (htail : ∀ c ∈ tail.head?, c ∈ ['/', '?', '#'])
    (huser : '@' ∉ authority) (h : splitHierarchy name (authority ++ tail) = some u) :
    u.scheme = name ∧ u.path = (upTo ['?', '#'] tail).1 ∧
      u.query = (readQuery (upTo ['?', '#'] tail).2).1 ∧
      ∃ after, splitHost authority = some (u.host, after) ∧ readPort after = some u.port := by
  have hsplit : upTo ['/', '?', '#'] (authority ++ tail) = (authority, tail) :=
    upTo_append hfree htail
  have huserinfo : splitUserinfo authority = (none, authority) := by
    have hnone : upTo ['@'] (authority ++ []) = (authority, []) := by
      refine upTo_append (fun c hc hmark => ?_) fun c hc => nomatch hc
      obtain rfl := List.mem_singleton.mp hmark
      exact huser hc
    rw [List.append_nil] at hnone
    unfold splitUserinfo
    rw [hnone]
  unfold splitHierarchy at h
  rw [hsplit] at h
  dsimp only at h
  rw [huserinfo] at h
  obtain ⟨⟨host, after⟩, hhost, h⟩ := Option.bind_eq_some_iff.mp h
  obtain ⟨port, hport, h⟩ := Option.bind_eq_some_iff.mp h
  obtain ⟨_, -, h⟩ := Option.bind_eq_some_iff.mp h
  obtain rfl := Option.some.inj h
  exact ⟨rfl, rfl, rfl, after, hhost, hport⟩

theorem splitUri_parts {u : Uri} {name authority tail : List Char} (hname : isScheme name = true)
    (hfree : ∀ c ∈ authority, c ∉ ['/', '?', '#']) (htail : ∀ c ∈ tail.head?, c ∈ ['/', '?', '#'])
    (huser : '@' ∉ authority)
    (h : splitUri (name ++ ':' :: '/' :: '/' :: (authority ++ tail)) = some u) :
    u.scheme = name ∧ u.path = (upTo ['?', '#'] tail).1 ∧
      u.query = (readQuery (upTo ['?', '#'] tail).2).1 ∧
      ∃ after, splitHost authority = some (u.host, after) ∧ readPort after = some u.port := by
  have hchars : ∀ c ∈ name, c ∉ [':', '/', '?', '#'] := by
    have hmarks : [':', '/', '?', '#'].all (fun c => !isSchemeChar c) = true := by decide
    intro c hc hmem
    have hmark := List.all_eq_true.mp hmarks c hmem
    rw [schemeChars_of_isScheme hname c hc] at hmark
    nomatch hmark
  have hsplit : upTo [':', '/', '?', '#'] (name ++ ':' :: '/' :: '/' :: (authority ++ tail)) =
      (name, ':' :: '/' :: '/' :: (authority ++ tail)) := by
    refine upTo_append hchars fun c hc => ?_
    obtain rfl := Option.some.inj hc
    exact List.mem_cons_self
  unfold splitUri at h
  rw [hsplit] at h
  split at h
  next =>
    change (if isScheme name = true then splitHierarchy name (authority ++ tail) else none) =
      some u at h
    rw [if_pos hname] at h
    exact splitHierarchy_parts hfree htail huser h
  · nomatch h

end Trackpal.Foundation
