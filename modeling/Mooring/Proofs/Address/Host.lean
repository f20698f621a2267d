import Mooring.Address.Url
import Mooring.Proofs.Address.Literal
import Mooring.Proofs.Text.Case

/-! Hosts of daemons' URLs. Whatever parts a URL is put together from, its host is found again: the
user in front of it, the port and the path do not count, and neither do the brackets around an
address, whose colons are not the port's. -/

namespace Mooring.Address

open Text

/-! ### Characters -/

/-- ASCII that shows: no control and no blank. -/
def isPrinted (c : Char) : Bool := 33 ≤ c.toNat && c.toNat ≤ 126

def isBracket (c : Char) : Bool := c == '[' || c == ']'

/-- The characters of a path. -/
def isPathChar (c : Char) : Bool := isPrinted c && !isBracket c

/-- The characters of a user. -/
def isUserChar (c : Char) : Bool := isPathChar c && !isAuthorityEnd c && c != '@'

/-- The characters of a name. -/
def isNameChar (c : Char) : Bool := c.isAlphanum || c == '-' || c == '.'

/-- The characters of a host with its port. -/
def isPlaceChar (c : Char) : Bool := isNameChar c || c == ':' || isBracket c

/-- A text of characters of one kind. -/
abbrev Chars (p : Char → Bool) := { cs : List Char // ∀ c ∈ cs, p c = true }

section Kinds

variable {c : Char}

theorem ascii_of_isNameChar (h : isNameChar c = true) : c.toNat < 128 := by
  simp only [isNameChar, Bool.or_eq_true, beq_iff_eq] at h
  rcases h with (hletter | rfl) | rfl
  · unfold Char.isAlphanum Char.isAlpha Char.isUpper Char.isLower Char.isDigit at hletter
    simp only [Bool.or_eq_true, Bool.and_eq_true, decide_eq_true_eq, ge_iff_le,
      UInt32.le_iff_toNat_le] at hletter
    have hval : c.toNat = c.val.toNat := rfl
    have hcapital : 'Z'.val.toNat = 90 := rfl
    have hsmall : 'z'.val.toNat = 122 := rfl
    have hdigit : '9'.val.toNat = 57 := rfl
    omega
  all_goals decide

theorem ascii_of_isHexDigit (h : isHexDigit c = true) : c.toNat < 128 := by
  simp only [isHexDigit, isAsciiDigit, Bool.or_eq_true, Bool.and_eq_true, decide_eq_true_eq,
    Char.le_def, UInt32.le_iff_toNat_le] at h
  have hval : c.toNat = c.val.toNat := rfl
  have hcapital : 'F'.val.toNat = 70 := rfl
  have hsmall : 'f'.val.toNat = 102 := rfl
  have hdigit : '9'.val.toNat = 57 := rfl
  omega

/-- What holds of each character of ASCII. -/
theorem forall_ascii {p : Char → Bool} (h : ∀ n < 128, p (Char.ofNat n) = true)
    (hc : c.toNat < 128) : p c = true := by
  have hn := h c.toNat hc
  rwa [Char.ofNat_toNat] at hn

theorem isNameChar_of_isAsciiDigit (h : isAsciiDigit c = true) : isNameChar c = true := by
  have hascii := ascii_of_isHexDigit (c := c) (by simp [isHexDigit, h])
  have hall := forall_ascii (p := fun c => !isAsciiDigit c || isNameChar c) (by decide +kernel)
    hascii
  simpa [h] using hall

theorem not_isBracket_of_isNameChar (h : isNameChar c = true) : isBracket c = false := by
  have hall := forall_ascii (p := fun c => !isNameChar c || !isBracket c) (by decide +kernel)
    (ascii_of_isNameChar h)
  simpa [h] using hall

theorem isPlaceChar_of_isHexDigit (h : isHexDigit c = true) : isPlaceChar c = true := by
  have hall := forall_ascii (p := fun c => !isHexDigit c || isPlaceChar c) (by decide +kernel)
    (ascii_of_isHexDigit h)
  simpa [h] using hall

theorem isPlaceChar_of_isLiteralChar (h : isLiteralChar c = true) : isPlaceChar c = true := by
  simp only [isLiteralChar, Bool.or_eq_true, beq_iff_eq] at h
  rcases h with (hdigit | rfl) | rfl
  · exact isPlaceChar_of_isHexDigit hdigit
  all_goals rfl

theorem ascii_of_isPlaceChar (h : isPlaceChar c = true) : c.toNat < 128 := by
  simp only [isPlaceChar, isBracket, Bool.or_eq_true, beq_iff_eq] at h
  rcases h with (hname | rfl) | rfl | rfl
  · exact ascii_of_isNameChar hname
  all_goals decide

/-- The characters of a host end no authority. -/
theorem printed_of_isPlaceChar (h : isPlaceChar c = true) :
    isPrinted c = true ∧ isAuthorityEnd c = false ∧ c ≠ '@' := by
  have hall := forall_ascii
    (p := fun c => !isPlaceChar c || (isPrinted c && !isAuthorityEnd c && c != '@'))
    (by decide +kernel) (ascii_of_isPlaceChar h)
  simpa [h, and_assoc] using hall

theorem printed_of_isUserChar (h : isUserChar c = true) :
    isPrinted c = true ∧ isAuthorityEnd c = false ∧ isBracket c = false := by
  simp only [isUserChar, isPathChar, Bool.and_eq_true, Bool.not_eq_true'] at h
  exact ⟨h.1.1.1, h.1.2, h.1.1.2⟩

end Kinds

/-! ### URLs -/

/-- The schemes that a daemon is reached by. -/
inductive Scheme where
  | tcp
  | http
  | https
  | ssh
  | unix
  | npipe
  deriving DecidableEq

namespace Scheme

def chars : Scheme → List Char
  | tcp => "tcp".toList
  | http => "http".toList
  | https => "https".toList
  | ssh => "ssh".toList
  | unix => "unix".toList
  | npipe => "npipe".toList

/-- Whether a daemon is on this machine. -/
def isLocal : Scheme → Bool
  | unix | npipe => true
  | tcp | http | https | ssh => false

theorem isLocal_iff (s : Scheme) :
    (s.chars == "unix".toList || s.chars == "npipe".toList) = s.isLocal := by
  cases s <;> decide

end Scheme

theorem takeScheme_chars (s : Scheme) (rest : List Char) :
    takeScheme (s.chars ++ ':' :: rest) = (s.chars, rest) := by
  have hcolon : ':' ∉ s.chars := by cases s <;> decide
  have hscheme : ((s.chars.head?.any Char.isAlpha) && s.chars.all isSchemeChar) = true := by
    cases s <;> decide
  have hsmall : asciiLower s.chars = s.chars := by cases s <;> decide
  simp only [takeScheme, cutFirst_append hcolon, hscheme, hsmall, if_true]

/-- The host of a URL: a name, or an address of version 6 in brackets. -/
inductive Place where
  | named (name : Chars isNameChar) (h : name.val ≠ [])
  | literal (address : V6)

namespace Place

/-- The host itself. -/
def host : Place → List Char
  | named name _ => name.val
  | literal address => address.chars

/-- The host as a URL has it. -/
def chars : Place → List Char
  | named name _ => name.val
  | literal address => '[' :: (address.chars ++ [']'])

theorem isPlaceChar_of_mem_host (place : Place) : ∀ c ∈ place.host, isPlaceChar c = true := by
  cases place with
  | named name h =>
    intro c hc
    have hkind := name.property c hc
    simp [isPlaceChar, hkind]
  | literal address =>
    exact fun c hc => isPlaceChar_of_isLiteralChar (isLiteralChar_of_mem_chars address c hc)

theorem isPlaceChar_of_mem_chars (place : Place) : ∀ c ∈ place.chars, isPlaceChar c = true := by
  have hhost := place.isPlaceChar_of_mem_host
  cases place with
  | named name h => exact hhost
  | literal address =>
    rw [chars, List.forall_mem_cons, List.forall_mem_append]
    exact ⟨rfl, hhost, List.forall_mem_singleton.mpr rfl⟩

theorem lower_host (place : Place) : lower place.host = asciiLower place.host :=
  lower_of_ascii (fun c hc => ascii_of_isPlaceChar (place.isPlaceChar_of_mem_host c hc))

theorem host_ne_nil (place : Place) : place.host ≠ [] := by
  cases place with
  | named name h => exact h
  | literal address =>
    obtain ⟨l, r, hchars⟩ := exists_colon address
    simp [host, hchars]

end Place

/-- A URL of a daemon on another machine. -/
structure RemoteUrl where
  scheme : Scheme
  user : Option (Chars isUserChar)
  place : Place
  port : Option (Chars isAsciiDigit)
  path : Option (Chars isPathChar)
  remote : scheme.isLocal = false

namespace RemoteUrl

variable (u : RemoteUrl)

def userPart : List Char := (u.user.map (·.val ++ ['@'])).getD []

def portPart : List Char := (u.port.map (':' :: ·.val)).getD []

def pathPart : List Char := (u.path.map ('/' :: ·.val)).getD []

def authority : List Char := u.userPart ++ (u.place.chars ++ u.portPart)

def text : String :=
  String.ofList (u.scheme.chars ++ ':' :: '/' :: '/' :: (u.authority ++ u.pathPart))

end RemoteUrl

/-- A URL of a daemon on this machine. -/
structure LocalUrl where
  scheme : Scheme
  rest : Chars isPathChar
  isLocal : scheme.isLocal = true

def LocalUrl.text (u : LocalUrl) : String :=
  String.ofList (u.scheme.chars ++ ':' :: '/' :: '/' :: u.rest.val)

/-! ### Reading -/

/-- A URL without blanks is read up to the end of its authority. -/
theorem readUrl_of_printed (s : Scheme) {rest : List Char} (h : ∀ c ∈ rest, isPrinted c = true)
    (hcheck : checkAuthority (rest.takeWhile (fun c => !isAuthorityEnd c)) = .ok ()) :
    readUrl (s.chars ++ ':' :: '/' :: '/' :: rest) =
      .ok ⟨s.chars, rest.takeWhile (fun c => !isAuthorityEnd c)⟩ := by
  have hscheme : ∀ c ∈ s.chars, isPrinted c = true :=
    List.all_eq_true.mp (by cases s <;> rfl)
  have hall : ∀ c ∈ s.chars ++ ':' :: '/' :: '/' :: rest, isPrinted c = true := by
    simp only [List.forall_mem_append, List.forall_mem_cons]
    exact ⟨hscheme, rfl, rfl, rfl, h⟩
  have hlead : (s.chars ++ ':' :: '/' :: '/' :: rest).dropWhile isLeadIn =
      s.chars ++ ':' :: '/' :: '/' :: rest := by
    cases s <;> rfl
  have hkept : (s.chars ++ ':' :: '/' :: '/' :: rest).filter
      (fun c => c ≠ '\t' ∧ c ≠ '\r' ∧ c ≠ '\n') = s.chars ++ ':' :: '/' :: '/' :: rest := by
    rw [List.filter_eq_self]
    intro c hc
    have hprinted := hall c hc
    rw [decide_eq_true_eq]
    refine ⟨?_, ?_, ?_⟩
    all_goals
      rintro rfl
      cases hprinted
  simp only [readUrl, hlead, hkept, takeScheme_chars, hcheck]
  rfl

theorem undisguised {cs : List Char} (h : ∀ c ∈ cs, isPrinted c = true) :
    cs.any (fun c => disguised.contains c.toNat) = false := by
  have hbeyond : ∀ n ∈ disguised, 128 ≤ n := by decide
  rw [List.any_eq_false]
  intro c hc hdisguised
  have hprinted := h c hc
  simp only [isPrinted, Bool.and_eq_true, decide_eq_true_eq] at hprinted
  have hlarge := hbeyond _ (List.contains_iff_mem.mp hdisguised)
  omega

theorem checkAuthority_of_unbracketed {cs : List Char} (h : ∀ c ∈ cs, isPrinted c = true)
    (hopen : '[' ∉ cs) (hclose : ']' ∉ cs) : checkAuthority cs = .ok () := by
  have hopens : cs.contains '[' = false := by simpa using hopen
  have hcloses : cs.contains ']' = false := by simpa using hclose
  simp only [checkAuthority, hopens, hcloses, undisguised h]
  rfl

theorem checkAuthority_of_bracketed {cs : List Char} (h : ∀ c ∈ cs, isPrinted c = true)
    (hopen : '[' ∈ cs) (hclose : ']' ∈ cs) (hplace : checkPlace (afterLast '@' cs) = .ok ()) :
    checkAuthority cs = .ok () := by
  have hopens : cs.contains '[' = true := by simpa using hopen
  have hcloses : cs.contains ']' = true := by simpa using hclose
  simp only [checkAuthority, hopens, hcloses, undisguised h, hplace]
  rfl

/-! ### Authorities -/

namespace RemoteUrl

variable (u : RemoteUrl)

theorem forall_mem_userPart {p : Char → Prop} (huser : ∀ c, isUserChar c = true → p c)
    (hat : p '@') : ∀ c ∈ u.userPart, p c := by
  rw [userPart]
  cases u.user with
  | none => simp
  | some user =>
    simp only [Option.map_some, Option.getD_some, List.forall_mem_append, List.forall_mem_singleton]
    exact ⟨fun c hc => huser c (user.property c hc), hat⟩

theorem forall_mem_portPart {p : Char → Prop} (hcolon : p ':')
    (hdigit : ∀ c, isAsciiDigit c = true → p c) : ∀ c ∈ u.portPart, p c := by
  rw [portPart]
  cases u.port with
  | none => simp
  | some port =>
    simp only [Option.map_some, Option.getD_some, List.forall_mem_cons]
    exact ⟨hcolon, fun c hc => hdigit c (port.property c hc)⟩

theorem isPlaceChar_of_mem : ∀ c ∈ u.place.chars ++ u.portPart, isPlaceChar c = true := by
  have hdigit : ∀ c, isAsciiDigit c = true → isPlaceChar c = true := by
    intro c hc
    have hkind := isNameChar_of_isAsciiDigit hc
    simp [isPlaceChar, hkind]
  rw [List.forall_mem_append]
  exact ⟨u.place.isPlaceChar_of_mem_chars, u.forall_mem_portPart rfl hdigit⟩

/-- The user ends at the `@`, which is the only one. -/
theorem afterLast_authority : afterLast '@' u.authority = u.place.chars ++ u.portPart := by
  have hplace : '@' ∉ u.place.chars ++ u.portPart := fun hmem =>
    (printed_of_isPlaceChar (u.isPlaceChar_of_mem _ hmem)).2.2 rfl
  rw [authority, userPart]
  cases u.user with
  | none => exact afterLast_of_not_mem hplace
  | some user =>
    simp only [Option.map_some, Option.getD_some, List.append_assoc, List.singleton_append]
    exact afterLast_append hplace user.val

theorem printed_authority :
    ∀ c ∈ u.authority, isPrinted c = true ∧ isAuthorityEnd c = false := by
  have huser : ∀ c, isUserChar c = true → isPrinted c = true ∧ isAuthorityEnd c = false := by
    intro c hc
    have hprinted := printed_of_isUserChar hc
    exact ⟨hprinted.1, hprinted.2.1⟩
  rw [authority, List.forall_mem_append]
  refine ⟨u.forall_mem_userPart huser (by decide), fun c hc => ?_⟩
  have hprinted := printed_of_isPlaceChar (u.isPlaceChar_of_mem c hc)
  exact ⟨hprinted.1, hprinted.2.1⟩

theorem takeWhile_authority :
    (u.authority ++ u.pathPart).takeWhile (fun c => !isAuthorityEnd c) = u.authority := by
  have hall : ∀ c ∈ u.authority, (!isAuthorityEnd c) = true := by
    intro c hc
    rw [(u.printed_authority c hc).2]
    rfl
  have hpath : u.pathPart.takeWhile (fun c => !isAuthorityEnd c) = [] := by
    rw [pathPart]
    cases u.path <;> rfl
  rw [List.takeWhile_append_of_pos hall, hpath, List.append_nil]

theorem printed_rest : ∀ c ∈ u.authority ++ u.pathPart, isPrinted c = true := by
  have hpath : ∀ c ∈ u.pathPart, isPrinted c = true := by
    rw [pathPart]
    cases u.path with
    | none => simp
    | some path =>
      simp only [Option.map_some, Option.getD_some, List.forall_mem_cons]
      refine ⟨rfl, fun c hc => ?_⟩
      have hkind := path.property c hc
      simp only [isPathChar, Bool.and_eq_true] at hkind
      exact hkind.1
  rw [List.forall_mem_append]
  exact ⟨fun c hc => (u.printed_authority c hc).1, hpath⟩

end RemoteUrl

/-! ### Hosts -/

theorem checkBracketed_chars (a : V6) : checkBracketed a.chars = .ok () := by
  have hfuture : a.chars.head? ≠ some 'v' := fun h =>
    not_mem_chars a rfl (List.mem_of_head? h)
  simp [checkBracketed, hfuture, isV4_chars, isV6_chars]

namespace RemoteUrl

variable (u : RemoteUrl)

/-- Behind an address there is nothing, or a colon. -/
theorem checkPlace_literal (address : V6) :
    checkPlace ('[' :: (address.chars ++ ']' :: u.portPart)) = .ok () := by
  have hopen : cutFirst '[' ('[' :: (address.chars ++ ']' :: u.portPart)) =
      some ([], address.chars ++ ']' :: u.portPart) := rfl
  have hclose : cutFirst ']' (address.chars ++ ']' :: u.portPart) =
      some (address.chars, u.portPart) :=
    cutFirst_append (not_mem_chars address rfl) u.portPart
  rw [checkPlace, hopen]
  simp only [hclose]
  rw [portPart]
  cases u.port <;> exact checkBracketed_chars address

section Named

variable {u} {name : Chars isNameChar} {h : name.val ≠ []} (hplace : u.place = .named name h)

include hplace

theorem not_isBracket_of_named : ∀ c ∈ u.authority, isBracket c = false := by
  have huser : ∀ c, isUserChar c = true → isBracket c = false := fun c hc =>
    (printed_of_isUserChar hc).2.2
  have hname : ∀ c ∈ u.place.chars, isBracket c = false := by
    rw [hplace]
    exact fun c hc => not_isBracket_of_isNameChar (name.property c hc)
  have hport : ∀ c ∈ u.portPart, isBracket c = false :=
    u.forall_mem_portPart rfl
      (fun c hc => not_isBracket_of_isNameChar (isNameChar_of_isAsciiDigit hc))
  rw [authority, List.forall_mem_append, List.forall_mem_append]
  exact ⟨u.forall_mem_userPart huser rfl, hname, hport⟩

/-- A name ends at the first colon. -/
theorem before_colon_of_named : before ':' (u.place.chars ++ u.portPart) = name.val := by
  have hcolon : ':' ∉ name.val := by
    intro hmem
    have hkind := name.property _ hmem
    cases hkind
  rw [hplace, Place.chars, portPart]
  cases u.port with
  | none =>
    rw [Option.map_none, Option.getD_none, List.append_nil]
    exact before_of_not_mem hcolon
  | some port => exact before_append hcolon port.val

end Named

theorem checkAuthority_authority : checkAuthority u.authority = .ok () := by
  have hprinted : ∀ c ∈ u.authority, isPrinted c = true := fun c hc =>
    (u.printed_authority c hc).1
  cases hplace : u.place with
  | named name h =>
    have hplain := not_isBracket_of_named hplace
    refine checkAuthority_of_unbracketed hprinted ?_ ?_
    all_goals
      intro hmem
      cases hplain _ hmem
  | literal address =>
    have hchars : u.place.chars ++ u.portPart = '[' :: (address.chars ++ ']' :: u.portPart) := by
      simp [hplace, Place.chars]
    refine checkAuthority_of_bracketed hprinted ?_ ?_ ?_
    · simp [authority, hplace, Place.chars]
    · simp [authority, hplace, Place.chars]
    · rw [afterLast_authority, hchars, checkPlace_literal]

theorem readUrl_text :
    readUrl u.text.toList = .ok ⟨u.scheme.chars, u.authority⟩ := by
  have hread := readUrl_of_printed u.scheme u.printed_rest
  rw [takeWhile_authority] at hread
  rw [text, String.toList_ofList, hread u.checkAuthority_authority]

/-- The host of a URL is the one it was put together from, in small letters. -/
theorem host_authority :
    (Url.mk u.scheme.chars u.authority).host = asciiLower u.place.host := by
  have hzone : cutFirst '%' u.place.host = none := by
    rw [cutFirst_eq_none_iff]
    intro hmem
    cases u.place.isPlaceChar_of_mem_host _ hmem
  rw [Url.host]
  simp only [afterLast_authority]
  cases hplace : u.place with
  | named name h =>
    have hopen : cutFirst '[' (u.place.chars ++ u.portPart) = none := by
      rw [cutFirst_eq_none_iff]
      intro hmem
      cases not_isBracket_of_named hplace _ (List.mem_append_right _ hmem)
    have hname := before_colon_of_named hplace
    have hhost : u.place.host = name.val := by rw [hplace]; rfl
    rw [hplace] at hopen hname
    rw [hhost] at hzone
    simp only [hopen, hname, hzone]
    rw [← hhost, u.place.lower_host, hplace]
  | literal address =>
    have hopen : cutFirst '[' ((Place.literal address).chars ++ u.portPart) =
        some ([], address.chars ++ ']' :: u.portPart) := by
      simp [Place.chars, cutFirst]
    have hclose : before ']' (address.chars ++ ']' :: u.portPart) = address.chars :=
      before_append (not_mem_chars address rfl) u.portPart
    have hhost : u.place.host = address.chars := by rw [hplace]; rfl
    rw [hhost] at hzone
    simp only [hopen, hclose, hzone]
    rw [← hhost, u.place.lower_host, hplace]

end RemoteUrl

/-- A local URL is read whatever follows its scheme. -/
theorem LocalUrl.readUrl_text (u : LocalUrl) :
    ∃ authority, readUrl u.text.toList = .ok ⟨u.scheme.chars, authority⟩ := by
  have hkinds : ∀ c ∈ u.rest.val, isPrinted c = true ∧ isBracket c = false := by
    intro c hc
    have hkind := u.rest.property c hc
    simpa [isPathChar] using hkind
  have htaken : ∀ c ∈ u.rest.val.takeWhile (fun c => !isAuthorityEnd c), c ∈ u.rest.val :=
    fun c hc => List.takeWhile_subset _ hc
  have hopen : '[' ∉ u.rest.val.takeWhile (fun c => !isAuthorityEnd c) := by
    intro hmem
    cases (hkinds _ (htaken _ hmem)).2
  have hclose : ']' ∉ u.rest.val.takeWhile (fun c => !isAuthorityEnd c) := by
    intro hmem
    cases (hkinds _ (htaken _ hmem)).2
  have hcheck := checkAuthority_of_unbracketed
    (fun c hc => (hkinds c (htaken c hc)).1) hopen hclose
  have hread := readUrl_of_printed u.scheme (fun c hc => (hkinds c hc).1) hcheck
  exact ⟨_, by rw [text, String.toList_ofList, hread]⟩

end Mooring.Address
