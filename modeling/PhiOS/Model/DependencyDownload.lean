import PhiOS.Library.Url
import PhiOS.Model.Value

/-!
# Downloading a dependency

`HttpsDependencyDownloader` of `apps/dependency_broker.py`. The opener follows no redirect by itself:
each one comes back as an error with its status, and `download` joins the location with the URL that
was asked for and checks what comes out of it. What a server answers depends on all requests so far;
the reads of a body are answered one after another, without end.
-/

set_option autoImplicit false

namespace PhiOS

namespace DependencyDownload

open Url

/-- `ValueError(message)`. -/
def err (message : String) : PyError := ⟨.valueError, message, []⟩

def maxArtifactBytes : ℕ := 64 * 1024 * 1024

def maxRedirects : ℕ := 5

/-- What the downloader takes from the standard library. -/
structure Runtime where
  tables : Tables
  /-- `int(text)`, or the message of the `ValueError`. -/
  int : Text → Except String ℤ

/-! ## URLs -/

/-- `_string`, of a text. -/
def string (value : Text) (label : String) (maximum : ℕ) : Except PyError Unit := do
  raiseIf (value = []) (err (label ++ " must be a non-empty string"))
  raiseIf (maximum < value.length) (err (label ++ " exceeds " ++ toString maximum ++ " characters"))
  raiseIf (∃ c ∈ value, c.toNat < 32) (err (label ++ " contains control characters"))

/-- A label of `_SAFE_HOST_RE`: letters, digits and inner hyphens, at most 63 of them. -/
def isSafeLabel (label : Text) : Bool :=
  label ≠ [] && label.length ≤ 63 && label.all (fun c => c.isLower || c.isDigit || c = '-') &&
    label.head? ≠ some '-' && label.getLast? ≠ some '-'

/-- `_SAFE_HOST_RE.fullmatch(host)`. -/
def isSafeHost (host : Text) : Bool :=
  1 ≤ host.length && host.length ≤ 253 && (splitOn '.' host).all isSafeLabel

section

variable (rt : Runtime)

def canonicalHost (value : Text) : Except PyError Text :=
  let host := rt.tables.lower (rstrip '.' value)
  if isSafeHost host then .ok host
  else .error (err ("Invalid dependency host: " ++ String.ofList value))

/-- `_validated_dependency_url`: the canonical URL and its host. -/
def validatedDependencyUrl (text : Text) : Except PyError (Text × Text) := do
  string text "dependency resolved URL" 2048
  let parsed ← (urlsplit rt.tables [] text).mapError err
  raiseIf (rt.tables.lower parsed.scheme ≠ "https".toList)
    (err "Dependency resolved URL must use HTTPS")
  match parsed.hostname rt.tables with
  | none => .error (err "Dependency resolved URL must contain a host")
  | some hostname => do
      raiseIf (parsed.username ≠ none ∨ parsed.password ≠ none)
        (err "Dependency resolved URL must not contain credentials")
      let port ← parsed.port.mapError err
      raiseIf (port ≠ none ∧ port ≠ some 443)
        (err "Dependency resolved URL must use the default HTTPS port")
      raiseIf (parsed.query ≠ [] ∨ parsed.fragment ≠ [])
        (err "Dependency resolved URL must not contain query or fragment data")
      let host ← canonicalHost rt hostname
      let path := if parsed.path = [] then ['/'] else parsed.path
      return (urlunsplit ⟨"https".toList, host, path, [], []⟩, host)

/-! ## Downloads -/

/-- What `opener.open` does: it raises `HTTPError` with a status and a `Location`, `URLError` or
another exception, or returns a response with its URL, its `Content-Length` and its reads. -/
inductive Answer
  | httpError (code : ℤ) (location : Option Text)
  | urlError
  | raised (e : PyError)
  | response (url : Text) (contentLength : Option Text) (read : ℕ → Except PyError (List UInt8))

/-- The check of the `Content-Length` of a response. -/
def checkLength : Option Text → Except PyError Unit
  | none => .ok ()
  | some header => do
      let length ← (rt.int header).mapError fun _ => err "Dependency Content-Length is invalid"
      raiseIf (length < 0 ∨ maxArtifactBytes < length) (err "Dependency artifact exceeds bounded size")

/-- The loop over the chunks of a body, from the read `k` on. -/
def readChunks (read : ℕ → Except PyError (List UInt8)) (k : ℕ) (buffer : List UInt8) :
    Except PyError (List UInt8) :=
  match read k with
  | .error e => .error e
  | .ok chunk =>
      if chunk = [] then .ok buffer
      else if maxArtifactBytes < (buffer ++ chunk).length then
        .error (err "Dependency artifact exceeds bounded size")
      else readChunks read (k + 1) (buffer ++ chunk)
termination_by maxArtifactBytes - buffer.length
decreasing_by
  rename_i hchunk hbound
  have hlength := List.length_pos_iff.mpr hchunk
  rw [List.length_append] at hbound ⊢
  omega

/-- What `download` does with a response. -/
def readResponse (allowed : List Text) (canonical url : Text) (contentLength : Option Text)
    (read : ℕ → Except PyError (List UInt8)) : Except PyError (List UInt8) := do
  let (finalUrl, finalHost) ← validatedDependencyUrl rt url
  raiseIf (finalHost ∉ allowed) (err "Dependency response escaped approved hosts")
  raiseIf (finalUrl ≠ canonical) (err "Dependency downloader observed an unreviewed redirect")
  checkLength rt contentLength
  readChunks read 0 []

/-- The statuses that `download` takes for a redirect. -/
def redirectCodes : List ℤ := [301, 302, 303, 307, 308]

/-- What `download` does with an `HTTPError`: the next URL. -/
def redirect (redirectCount : ℕ) (canonical : Text) (code : ℤ) (location : Option Text) :
    Except PyError Text := do
  raiseIf (code ∉ redirectCodes) (err ("Dependency download failed with HTTP " ++ toString code))
  raiseIf (maxRedirects ≤ redirectCount) (err "Dependency download exceeded redirect bound")
  match location with
  | none | some [] => .error (err "Dependency redirect omitted Location")
  | some location => (urljoin rt.tables canonical location).mapError err

/-- The URL of one request. -/
def requestOf (allowed : List Text) (url : Text) : Except PyError Text := do
  let (canonical, host) ← validatedDependencyUrl rt url
  raiseIf (host ∉ allowed)
    (err ("Dependency download host is not approved: " ++ String.ofList host))
  return canonical

/-- The loop of `download` over the counts of redirects that are left, after some requests: all
requests, and the bytes or what is raised. -/
def follow (server : List Text → Answer) (allowed : List Text) :
    List ℕ → List Text → Text → List Text × Except PyError (List UInt8)
  | [], requests, _ => (requests, .error (err "Dependency redirect loop exhausted"))
  | redirectCount :: counts, requests, url =>
      match requestOf rt allowed url with
      | .error e => (requests, .error e)
      | .ok canonical =>
          match server (requests ++ [canonical]) with
          | .httpError code location =>
              match redirect rt redirectCount canonical code location with
              | .error e => (requests ++ [canonical], .error e)
              | .ok next => follow server allowed counts (requests ++ [canonical]) next
          | .urlError => (requests ++ [canonical], .error (err "Dependency download failed"))
          | .raised e => (requests ++ [canonical], .error e)
          | .response url contentLength read =>
              (requests ++ [canonical], readResponse rt allowed canonical url contentLength read)

/-- `HttpsDependencyDownloader.download`, of the URL of an artifact. -/
def download (server : List Text → Answer) (resolvedUrl : Text) (approvedHosts : List Text) :
    List Text × Except PyError (List UInt8) :=
  follow rt server approvedHosts (List.range (maxRedirects + 1)) [] resolvedUrl

end

end DependencyDownload

end PhiOS
