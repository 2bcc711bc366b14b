import Mathlib

/-!
# Splitting and joining URLs

`urlsplit`, `urlunsplit` and `urljoin` of a standard library that takes texts as they come: what is
no URL is split as well, and few texts are refused. `urlsplit_https` is the round trip: a host and a
path without delimiters are read back from the URL that is made of them.
-/

set_option autoImplicit false

namespace Url

/-- A text, as the list of its characters. -/
abbrev Text := List Char

/-- What splitting a URL takes from the Unicode tables and from the parser of network addresses. -/
structure Tables where
  /-- `text.lower()`. -/
  lower : Text → Text
  /-- `unicodedata.normalize('NFKC', text)`. -/
  nfkc : Text → Text
  /-- The text is an address of the sixth version. -/
  isIpv6 : Text → Bool
  /-- Characters below 128 are lowered one by one. -/
  lower_ascii : ∀ {text : Text}, (∀ c ∈ text, c.toNat < 128) → lower text = text.map Char.toLower

/-! ## Texts -/

/-- `text.partition(sep)`: what stands before the first separator, whether there is one, and what
stands after it. -/
def partition (sep : Char) (text : Text) : Text × Bool × Text :=
  (text.takeWhile (· ≠ sep), text.contains sep, (text.dropWhile (· ≠ sep)).tail)

/-- `text.rpartition(sep)`: the same for the last separator. -/
def rpartition (sep : Char) (text : Text) : Text × Bool × Text :=
  if sep ∈ text then
    ((text.reverse.dropWhile (· ≠ sep)).tail.reverse, true, (text.reverse.takeWhile (· ≠ sep)).reverse)
  else ([], false, text)

/-- `text.split(sep)`. -/
def splitOn (sep : Char) : Text → List Text
  | [] => [[]]
  | c :: rest =>
      if c = sep then [] :: splitOn sep rest
      else match splitOn sep rest with
        | [] => [[c]]
        | part :: parts => (c :: part) :: parts

/-- `sep.join(parts)`. -/
def joinWith (sep : Char) : List Text → Text
  | [] => []
  | [part] => part
  | part :: parts => part ++ sep :: joinWith sep parts

/-- `text.rstrip(c)`. -/
def rstrip (c : Char) (text : Text) : Text := (text.reverse.dropWhile (· = c)).reverse

/-- A letter of the first 128 characters. -/
def isAsciiAlpha (c : Char) : Bool := c.isAlpha

/-- One of the characters of `scheme_chars`. -/
def isSchemeChar (c : Char) : Bool := c.isAlphanum || c = '+' || c = '-' || c = '.'

/-- One of the first 32 characters, or a blank. -/
def isControlOrSpace (c : Char) : Bool := c.toNat ≤ 32

/-- `text[:2] == '//'`. -/
def startsWithSlashes : Text → Bool
  | '/' :: '/' :: _ => true
  | _ => false

/-! ## Splitting -/

structure SplitResult where
  scheme : Text
  netloc : Text
  path : Text
  query : Text
  fragment : Text
  deriving DecidableEq

/-- Where the host ends. -/
def isDelimiter (c : Char) : Bool := c = '/' || c = '?' || c = '#'

/-- What is left of a URL whose blanks and line ends are dropped. -/
def clean (text : Text) : Text :=
  (text.dropWhile isControlOrSpace).filter fun c => c ≠ '\t' && c ≠ '\r' && c ≠ '\n'

/-- The scheme of a URL, or else the one that is given, and the rest. -/
def splitScheme (scheme : Text) : Text → Text × Text
  | [] => (scheme, [])
  | first :: rest =>
      let head := (first :: rest).takeWhile (· ≠ ':')
      if ':' ∈ first :: rest ∧ isAsciiAlpha first ∧ head.all isSchemeChar then
        (head.map Char.toLower, ((first :: rest).dropWhile (· ≠ ':')).tail)
      else (scheme, first :: rest)

/-- The network location of a URL without its scheme, and the rest. -/
def splitNetloc : Text → Text × Text
  | '/' :: '/' :: rest => (rest.takeWhile (! isDelimiter ·), rest.dropWhile (! isDelimiter ·))
  | text => ([], text)

/-- `text.split(sep, 1)`, with nothing after a separator that is not there. -/
def cut (sep : Char) (text : Text) : Text × Text :=
  (text.takeWhile (· ≠ sep), (text.dropWhile (· ≠ sep)).tail)

section

variable (tables : Tables)

/-- `_check_bracketed_host`. -/
def isBracketedHost (host : Text) : Bool :=
  match host with
  | 'v' :: rest =>
      let isHex := fun c : Char => c.isDigit || ('a' ≤ c && c ≤ 'f') || ('A' ≤ c && c ≤ 'F')
      match rest.takeWhile isHex, rest.dropWhile isHex with
      | _ :: _, '.' :: _ :: _ => true
      | _, _ => false
  | host => tables.isIpv6 host

/-- `_checknetloc`: no delimiter comes up in the network location when it is normalized. -/
def isNormalNetloc (netloc : Text) : Bool :=
  netloc.all (·.toNat < 128) ||
    (let kept := netloc.filter fun c => c ≠ '@' && c ≠ ':' && c ≠ '#' && c ≠ '?'
      let normal := tables.nfkc kept
      kept = normal || "/?#@:".toList.all fun c => ! normal.contains c)

/-- `urlsplit`, or the message of the `ValueError`. -/
def urlsplit (scheme url : Text) : Except String SplitResult :=
  let (scheme, url) := splitScheme (clean scheme) (clean url)
  let (netloc, url) := splitNetloc url
  if netloc.contains '[' ≠ netloc.contains ']' then .error "Invalid IPv6 URL"
  else if netloc.contains '[' ∧
      ¬ isBracketedHost tables (partition ']' (partition '[' netloc).2.2).1 then
    .error "bracketed host is invalid"
  else
    let (url, fragment) := cut '#' url
    let (path, query) := cut '?' url
    if isNormalNetloc tables netloc then .ok ⟨scheme, netloc, path, query, fragment⟩
    else .error "netloc contains invalid characters under NFKC normalization"

namespace SplitResult

def userinfo (parsed : SplitResult) : Option Text × Option Text :=
  match rpartition '@' parsed.netloc with
  | (info, true, _) =>
      match partition ':' info with
      | (username, true, password) => (some username, some password)
      | (username, false, _) => (some username, none)
  | (_, false, _) => (none, none)

def username (parsed : SplitResult) : Option Text := parsed.userinfo.1

def password (parsed : SplitResult) : Option Text := parsed.userinfo.2

/-- `_hostinfo`, with an empty text for a port that is not there. -/
def hostinfo (parsed : SplitResult) : Text × Text :=
  let info := (rpartition '@' parsed.netloc).2.2
  match partition '[' info with
  | (_, true, bracketed) =>
      ((partition ']' bracketed).1, (partition ':' (partition ']' bracketed).2.2).2.2)
  | (_, false, _) => ((partition ':' info).1, (partition ':' info).2.2)

/-- `hostname`: what stands before a zone is lowered. -/
def hostname (parsed : SplitResult) : Option Text :=
  match parsed.hostinfo.1 with
  | [] => none
  | host =>
      let (name, percent, zone) := partition '%' host
      some (tables.lower name ++ (if percent then ['%'] else []) ++ zone)

/-- The number that digits stand for. -/
def readDigits (digits : Text) : ℕ := digits.foldl (fun n c => n * 10 + (c.toNat - '0'.toNat)) 0

/-- `port`, or the message of the `ValueError`. -/
def port (parsed : SplitResult) : Except String (Option ℕ) :=
  match parsed.hostinfo.2 with
  | [] => .ok none
  | digits =>
      if digits.all Char.isDigit then
        if readDigits digits ≤ 65535 then .ok (some (readDigits digits))
        else .error "Port out of range 0-65535"
      else .error "Port could not be cast to integer value"

end SplitResult

/-! ## Joining -/

def usesNetloc : List String :=
  ["", "ftp", "http", "gopher", "nntp", "telnet", "imap", "wais", "file", "mms", "https", "shttp",
    "snews", "prospero", "rtsp", "rtsps", "rtspu", "rsync", "svn", "svn+ssh", "sftp", "nfs", "git",
    "git+ssh", "ws", "wss"]

def usesRelative : List String :=
  ["", "ftp", "http", "gopher", "nntp", "imap", "wais", "file", "https", "shttp", "mms", "prospero",
    "rtsp", "rtsps", "rtspu", "sftp", "svn", "svn+ssh", "ws", "wss"]

def usesParams : List String :=
  ["", "ftp", "hdl", "prospero", "http", "imap", "https", "shttp", "rtsp", "rtsps", "rtspu", "sip",
    "sips", "mms", "sftp", "tel"]

def urlunsplit (parts : SplitResult) : Text :=
  let url :=
    if parts.netloc ≠ [] ∨ (parts.scheme ≠ [] ∧ String.ofList parts.scheme ∈ usesNetloc) ∨
        startsWithSlashes parts.path then
      let path := if parts.path = [] ∨ parts.path.head? = some '/' then parts.path else '/' :: parts.path
      "//".toList ++ parts.netloc ++ path
    else parts.path
  let url := if parts.scheme = [] then url else parts.scheme ++ ':' :: url
  let url := if parts.query = [] then url else url ++ '?' :: parts.query
  if parts.fragment = [] then url else url ++ '#' :: parts.fragment

/-- `_splitparams`, of a path with a semicolon. -/
def splitParams (path : Text) : Text × Text :=
  match rpartition '/' path with
  | (folder, true, last) =>
      match partition ';' last with
      | (name, true, params) => (folder ++ '/' :: name, params)
      | (_, false, _) => (path, [])
  | (_, false, _) => ((partition ';' path).1, (partition ';' path).2.2)

/-- `urlparse`: the parts of a URL, and the parameters of its path. -/
def urlparse (scheme url : Text) : Except String (SplitResult × Text) := do
  let parts ← urlsplit tables scheme url
  if String.ofList parts.scheme ∈ usesParams ∧ ';' ∈ parts.path then
    let (path, params) := splitParams parts.path
    return ({ parts with path }, params)
  return (parts, [])

def urlunparse (parts : SplitResult) (params : Text) : Text :=
  urlunsplit (if params = [] then parts else { parts with path := parts.path ++ ';' :: params })

/-- `resolved_path`: the segments that are left when dots are followed. -/
def resolve (segments : List Text) : List Text :=
  let resolved := segments.foldl (fun resolved segment =>
    if segment = "..".toList then resolved.dropLast
    else if segment = ".".toList then resolved else resolved ++ [segment]) []
  match segments.getLast? with
  | some last => if last = "..".toList ∨ last = ".".toList then resolved ++ [[]] else resolved
  | none => resolved

/-- `segments` of a relative path: the folder of the base, and the path. -/
def segmentsOf (base path : Text) : List Text :=
  if path.head? = some '/' then splitOn '/' path
  else
    let parts := splitOn '/' base
    let folder := if parts.getLast? = some [] then parts else parts.dropLast
    let segments := folder ++ splitOn '/' path
    match segments with
    | [] => []
    | [segment] => [segment]
    | first :: rest => first :: rest.dropLast.filter (· ≠ []) ++ [rest.getLastD []]

/-- `urljoin`, or the message of the `ValueError`. -/
def urljoin (base url : Text) : Except String Text := do
  if base = [] then return url
  if url = [] then return base
  let (baseParts, baseParams) ← urlparse tables [] base
  let (parts, params) ← urlparse tables baseParts.scheme url
  if parts.scheme ≠ baseParts.scheme ∨ String.ofList parts.scheme ∉ usesRelative then return url
  if String.ofList parts.scheme ∈ usesNetloc ∧ parts.netloc ≠ [] then return urlunparse parts params
  let netloc := if String.ofList parts.scheme ∈ usesNetloc then baseParts.netloc else parts.netloc
  if parts.path = [] ∧ params = [] then
    let query := if parts.query = [] then baseParts.query else parts.query
    return urlunparse { parts with netloc, path := baseParts.path, query } baseParams
  let resolved := joinWith '/' (resolve (segmentsOf baseParts.path parts.path))
  return urlunparse { parts with netloc, path := if resolved = [] then ['/'] else resolved } params

end

/-! ## Hosts and paths -/

/-- A character of a host in small letters. -/
def isHostChar (c : Char) : Bool := c.isLower || c.isDigit || c = '-' || c = '.'

/-- A character that a path may have. -/
def isPathChar (c : Char) : Bool := c ≠ '?' && c ≠ '#' && c ≠ '\t' && c ≠ '\r' && c ≠ '\n'

theorem toNat_of_isHostChar {c : Char} (h : isHostChar c = true) :
    (97 ≤ c.toNat ∧ c.toNat ≤ 122) ∨ (48 ≤ c.toNat ∧ c.toNat ≤ 57) ∨ c.toNat = 45 ∨ c.toNat = 46 := by
  simp only [isHostChar, Bool.or_eq_true, decide_eq_true_eq] at h
  rcases h with ((h | h) | h) | h
  · simp only [Char.isLower, Bool.and_eq_true, decide_eq_true_eq] at h
    exact .inl h
  · simp only [Char.isDigit, Bool.and_eq_true, decide_eq_true_eq] at h
    exact .inr (.inl h)
  · rw [h]
    exact .inr (.inr (.inl rfl))
  · rw [h]
    exact .inr (.inr (.inr rfl))

theorem ne_of_isHostChar {c : Char} (h : isHostChar c = true) (other : Char)
    (hother : isHostChar other = false) : c ≠ other := by
  intro heq
  rw [heq, hother] at h
  cases h

theorem partition_of_notMem {sep : Char} {text : Text} (h : sep ∉ text) :
    partition sep text = (text, false, []) := by
  have hall : ∀ c ∈ text, decide (c ≠ sep) = true := by
    intro c hc
    rw [decide_eq_true_eq]
    intro heq
    exact h (heq ▸ hc)
  unfold partition
  rw [List.takeWhile_eq_self_iff.mpr hall, List.dropWhile_eq_nil_iff.mpr hall]
  have hcontains : text.contains sep = false := by simpa using h
  rw [hcontains]
  rfl

theorem cut_of_notMem {sep : Char} {text : Text} (h : sep ∉ text) : cut sep text = (text, []) := by
  have hparts := partition_of_notMem h
  simp only [partition, Prod.mk.injEq] at hparts
  unfold cut
  rw [hparts.1, hparts.2.2]

theorem cut_notMem (sep : Char) (text : Text) : sep ∉ (cut sep text).1 := by
  intro hmem
  have hne := List.mem_takeWhile_imp hmem
  rw [decide_eq_true_eq] at hne
  exact hne rfl

theorem mem_of_mem_cut {sep c : Char} {text : Text} (h : c ∈ (cut sep text).1) : c ∈ text :=
  (List.takeWhile_prefix _).subset h

theorem mem_of_mem_splitScheme {scheme url : Text} {c : Char} (h : c ∈ (splitScheme scheme url).2) :
    c ∈ url := by
  cases url with
  | nil => exact h
  | cons first rest =>
      unfold splitScheme at h
      dsimp only at h
      split at h
      · exact (List.dropWhile_suffix _).subset (List.mem_of_mem_tail h)
      · exact h

theorem mem_of_mem_splitNetloc {url : Text} {c : Char} (h : c ∈ (splitNetloc url).2) : c ∈ url := by
  unfold splitNetloc at h
  split at h
  · exact List.mem_cons_of_mem _ (List.mem_cons_of_mem _ ((List.dropWhile_suffix _).subset h))
  · exact h

variable {tables : Tables}

/-- What is split off as the path has no delimiters, and follows a network location with a slash. -/
theorem path_of_urlsplit {scheme url : Text} {parsed : SplitResult}
    (h : urlsplit tables scheme url = .ok parsed) :
    (∀ c ∈ parsed.path, isPathChar c = true) ∧
      (parsed.netloc ≠ [] → parsed.path = [] ∨ parsed.path.head? = some '/') := by
  unfold urlsplit at h
  dsimp only at h
  split at h
  · cases h
  · split at h
    · cases h
    · split at h
      · obtain rfl := Except.ok.inj h
        constructor
        · intro c hc
          have hquery : c ≠ '?' := fun heq => cut_notMem '?' _ (heq ▸ hc)
          have hc := mem_of_mem_cut hc
          have hfragment : c ≠ '#' := fun heq => cut_notMem '#' _ (heq ▸ hc)
          have hclean := mem_of_mem_splitScheme (mem_of_mem_splitNetloc (mem_of_mem_cut hc))
          unfold clean at hclean
          have hkept := (List.mem_filter.mp hclean).2
          simp only [Bool.and_eq_true, decide_eq_true_eq] at hkept
          simp [isPathChar, hquery, hfragment, hkept]
        · intro hnetloc
          dsimp only at hnetloc ⊢
          generalize (splitScheme (clean scheme) (clean url)).2 = rest at hnetloc ⊢
          unfold splitNetloc at hnetloc ⊢
          split
          · rename_i text
            cases hdrop : text.dropWhile (! isDelimiter ·) with
            | nil => exact .inl rfl
            | cons c tail =>
                have hc := List.head?_dropWhile_not (fun c => ! isDelimiter c) text
                rw [hdrop] at hc
                simp only [List.head?_cons, Bool.not_eq_false', isDelimiter, Bool.or_eq_true,
                  decide_eq_true_eq] at hc
                rcases hc with (rfl | rfl) | rfl
                · exact .inr rfl
                · exact .inl rfl
                · exact .inl rfl
          · rename_i hnone
            split at hnetloc
            · rename_i text
              exact absurd rfl (hnone text)
            · exact absurd rfl hnetloc
      · cases h

/-- **The round trip of a host and a path**: they are read back from the URL that is made of them. -/
theorem urlsplit_https {host path : Text} (hhost : ∀ c ∈ host, isHostChar c = true)
    (hhead : path.head? = some '/') (hpath : ∀ c ∈ path, isPathChar c = true) :
    urlsplit tables [] ("https://".toList ++ (host ++ path)) = .ok ⟨"https".toList, host, path, [], []⟩ := by
  obtain ⟨tail, rfl⟩ : ∃ tail, path = '/' :: tail := by
    cases path with
    | nil => cases hhead
    | cons c tail => exact ⟨tail, by rw [Option.some.inj hhead]⟩
  have hclean : clean ("https://".toList ++ (host ++ '/' :: tail)) =
      "https://".toList ++ (host ++ '/' :: tail) := by
    unfold clean
    have hdrop : ("https://".toList ++ (host ++ '/' :: tail)).dropWhile isControlOrSpace =
        "https://".toList ++ (host ++ '/' :: tail) := rfl
    rw [hdrop, List.filter_eq_self]
    intro c hc
    rcases List.mem_append.mp hc with hc | hc
    · have hall : ("https://".toList.all fun c => c ≠ '\t' && c ≠ '\r' && c ≠ '\n') = true := rfl
      exact List.all_eq_true.mp hall c hc
    · rcases List.mem_append.mp hc with hc | hc
      · have h := hhost c hc
        simp [ne_of_isHostChar h '\t' rfl, ne_of_isHostChar h '\r' rfl,
          ne_of_isHostChar h '\n' rfl]
      · have h := hpath c hc
        simp only [isPathChar, Bool.and_eq_true, decide_eq_true_eq] at h
        simp [h]
  have hscheme : splitScheme (clean []) ("https://".toList ++ (host ++ '/' :: tail)) =
      ("https".toList, "//".toList ++ (host ++ '/' :: tail)) := by
    have hhead : ("https://".toList ++ (host ++ '/' :: tail)).takeWhile (· ≠ ':') = "https".toList := rfl
    have hcolon : ':' ∈ "https://".toList ++ (host ++ '/' :: tail) := by
      exact List.mem_append_left _ (by decide)
    have hcons : "https://".toList ++ (host ++ '/' :: tail) =
        'h' :: ("ttps://".toList ++ (host ++ '/' :: tail)) := rfl
    rw [hcons] at hhead hcolon ⊢
    rw [splitScheme]
    rw [if_pos ⟨hcolon, rfl, by rw [hhead]; rfl⟩, hhead]
    rfl
  have hdelimiter : ∀ c ∈ host, (! isDelimiter c) = true := by
    intro c hc
    have h := hhost c hc
    simp [isDelimiter, ne_of_isHostChar h '/' rfl, ne_of_isHostChar h '?' rfl,
      ne_of_isHostChar h '#' rfl]
  have hnetloc : splitNetloc ("//".toList ++ (host ++ '/' :: tail)) = (host, '/' :: tail) := by
    change ((host ++ '/' :: tail).takeWhile (! isDelimiter ·),
      (host ++ '/' :: tail).dropWhile (! isDelimiter ·)) = _
    rw [List.takeWhile_append_of_pos hdelimiter, List.dropWhile_append_of_pos hdelimiter]
    simp [isDelimiter]
  have hbracket : ∀ c, isHostChar c = false → host.contains c = false := by
    intro c hc
    rw [← Bool.not_eq_true, List.contains_iff_mem]
    intro hmem
    exact ne_of_isHostChar (hhost c hmem) c hc rfl
  have hfragment : cut '#' ('/' :: tail) = ('/' :: tail, []) :=
    cut_of_notMem fun hmem => by simpa [isPathChar] using hpath '#' hmem
  have hquery : cut '?' ('/' :: tail) = ('/' :: tail, []) :=
    cut_of_notMem fun hmem => by simpa [isPathChar] using hpath '?' hmem
  have hnormal : isNormalNetloc tables host = true := by
    have hascii : host.all (·.toNat < 128) = true := by
      rw [List.all_eq_true]
      intro c hc
      have := toNat_of_isHostChar (hhost c hc)
      rw [decide_eq_true_eq]
      omega
    rw [isNormalNetloc, hascii, Bool.true_or]
  unfold urlsplit
  simp only [hclean, hscheme, hnetloc, hfragment, hquery, hnormal, hbracket '[' rfl, hbracket ']' rfl]
  rfl

/-- A host in small letters is in small letters. -/
theorem lower_of_isHostChar {host : Text} (hhost : ∀ c ∈ host, isHostChar c = true) :
    tables.lower host = host := by
  have hascii : ∀ c ∈ host, c.toNat < 128 := by
    intro c hc
    have := toNat_of_isHostChar (hhost c hc)
    omega
  have hsame : ∀ c ∈ host, c.toLower = id c := by
    intro c hc
    have hrange := toNat_of_isHostChar (hhost c hc)
    have hupper : ¬ (c.val ≥ 'A'.val ∧ c.val ≤ 'Z'.val) := by
      rw [ge_iff_le, UInt32.le_iff_toNat_le, UInt32.le_iff_toNat_le]
      change ¬ (65 ≤ c.toNat ∧ c.toNat ≤ 90)
      omega
    rw [Char.toLower, dif_neg hupper]
    rfl
  rw [tables.lower_ascii hascii, List.map_congr_left hsame, List.map_id]

/-- A host without delimiters has no credentials and no port. -/
theorem netloc_of_isHostChar {host : Text} (hhost : ∀ c ∈ host, isHostChar c = true) (hne : host ≠ [])
    {parsed : SplitResult} (hnetloc : parsed.netloc = host) :
    parsed.username = none ∧ parsed.password = none ∧ parsed.port = .ok none ∧
      parsed.hostname tables = some host := by
  have hnot : ∀ sep, isHostChar sep = false → sep ∉ host := by
    intro sep hsep hmem
    exact ne_of_isHostChar (hhost sep hmem) sep hsep rfl
  have huser : rpartition '@' parsed.netloc = ([], false, host) := by
    rw [hnetloc, rpartition, if_neg (hnot '@' rfl)]
  have hinfo : parsed.hostinfo = (host, []) := by
    unfold SplitResult.hostinfo
    simp only [huser, partition_of_notMem (hnot '[' rfl), partition_of_notMem (hnot ':' rfl)]
  have huserinfo : parsed.userinfo = (none, none) := by
    unfold SplitResult.userinfo
    rw [huser]
  have hport : parsed.port = .ok none := by
    unfold SplitResult.port
    rw [hinfo]
  refine ⟨?_, ?_, hport, ?_⟩
  · rw [SplitResult.username, huserinfo]
  · rw [SplitResult.password, huserinfo]
  · unfold SplitResult.hostname
    rw [hinfo]
    cases host with
    | nil => exact absurd rfl hne
    | cons first rest =>
        simp only [partition_of_notMem (hnot '%' rfl), lower_of_isHostChar hhost]
        simp

theorem urlunsplit_https {host path : Text} (hne : host ≠ []) (hhead : path.head? = some '/') :
    urlunsplit ⟨"https".toList, host, path, [], []⟩ = "https://".toList ++ (host ++ path) := by
  unfold urlunsplit
  simp only [ne_eq, hne, not_false_eq_true, true_or, if_true, hhead, or_true]
  rfl

theorem netloc_ne_nil {parsed : SplitResult} {host : Text} (h : parsed.hostname tables = some host) :
    parsed.netloc ≠ [] := by
  intro hnil
  have hinfo : parsed.hostinfo = ([], []) := by
    unfold SplitResult.hostinfo
    rw [hnil]
    rfl
  unfold SplitResult.hostname at h
  rw [hinfo] at h
  cases h

/-! ## Parts of a text -/

theorem splitOn_ne_nil (sep : Char) (text : Text) : splitOn sep text ≠ [] := by
  cases text with
  | nil => exact List.cons_ne_nil _ _
  | cons c rest =>
      unfold splitOn
      split
      · exact List.cons_ne_nil _ _
      · split <;> exact List.cons_ne_nil _ _

theorem splitOn_cons_of_ne {sep c : Char} (h : c ≠ sep) (text : Text) :
    ∃ part parts, splitOn sep text = part :: parts ∧ splitOn sep (c :: text) = (c :: part) :: parts := by
  obtain ⟨part, parts, hparts⟩ := List.exists_cons_of_ne_nil (splitOn_ne_nil sep text)
  refine ⟨part, parts, hparts, ?_⟩
  rw [splitOn, if_neg h, hparts]

/-- A character is a separator or in one of the parts. -/
theorem mem_splitOn {sep c : Char} {text : Text} (h : c ∈ text) :
    c = sep ∨ ∃ part ∈ splitOn sep text, c ∈ part := by
  induction text with
  | nil => cases h
  | cons first rest ih =>
      by_cases hsep : first = sep
      · rcases List.mem_cons.mp h with rfl | h
        · exact .inl hsep
        · refine (ih h).imp_right fun ⟨part, hpart, hc⟩ => ⟨part, ?_, hc⟩
          rw [splitOn, if_pos hsep]
          exact List.mem_cons_of_mem _ hpart
      · obtain ⟨part, parts, hrest, hcons⟩ := splitOn_cons_of_ne hsep rest
        rw [hcons]
        rcases List.mem_cons.mp h with rfl | h
        · exact .inr ⟨_, List.mem_cons_self, List.mem_cons_self⟩
        · refine (ih h).imp_right fun ⟨part', hpart', hc⟩ => ?_
          rw [hrest] at hpart'
          rcases List.mem_cons.mp hpart' with rfl | hpart'
          · exact ⟨_, List.mem_cons_self, List.mem_cons_of_mem _ hc⟩
          · exact ⟨part', List.mem_cons_of_mem _ hpart', hc⟩

theorem splitOn_append (sep : Char) (text : Text) :
    splitOn sep (text ++ [sep]) = splitOn sep text ++ [[]] := by
  induction text with
  | nil =>
      simp [splitOn]
  | cons c rest ih =>
      by_cases hsep : c = sep
      · rw [List.cons_append, splitOn, if_pos hsep, ih, splitOn, if_pos hsep, List.cons_append]
      · obtain ⟨part, parts, hrest, hcons⟩ := splitOn_cons_of_ne hsep rest
        rw [List.cons_append, splitOn, if_neg hsep, ih, hcons, hrest, List.cons_append, List.cons_append]

theorem rstrip_of_getLast {c : Char} {text : Text} (h : text.getLast? ≠ some c) :
    rstrip c text = text := by
  unfold rstrip
  cases hreverse : text.reverse with
  | nil => rw [List.reverse_eq_nil_iff.mp hreverse]; rfl
  | cons last rest =>
      have hlast : last ≠ c := by
        intro heq
        rw [← List.head?_reverse, hreverse, List.head?_cons, heq] at h
        exact h rfl
      rw [List.dropWhile_cons_of_neg (by simpa using hlast), ← hreverse, List.reverse_reverse]

end Url
