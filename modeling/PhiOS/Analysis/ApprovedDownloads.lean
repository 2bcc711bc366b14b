import PhiOS.Model.DependencyDownload

/-!
# Downloads stay on approved hosts

Results on `HttpsDependencyDownloader.download`. A host that passes
`_SAFE_HOST_RE` has no delimiters, so that the URL which is made of it and of the path is read as just
these (`safe_of_requestOf`): every request is asked of an approved host, whatever text the last
location was. The loop over the redirects adds one request in each round (`follow_spec`), and the loop
over a body returns what was read up to the first empty chunk (`readChunks_spec`).
-/

set_option autoImplicit false

namespace PhiOS

namespace DependencyDownload

open Url

variable {rt : Runtime} {allowed : List Text}

/-! ## Requests -/

/-- A request that is an HTTPS URL of an approved host and nothing else than that and a path. -/
structure SafeRequest (rt : Runtime) (allowed : List Text) (request : Text) (parsed : SplitResult)
    (host : Text) : Prop where
  parses : urlsplit rt.tables [] request = .ok parsed
  scheme : parsed.scheme = "https".toList
  username : parsed.username = none
  password : parsed.password = none
  port : parsed.port = .ok none
  query : parsed.query = []
  fragment : parsed.fragment = []
  hostname : parsed.hostname rt.tables = some host
  canonical : canonicalHost rt host = .ok host
  approved : host ∈ allowed

theorem isSafeLabel_iff {label : Text} :
    isSafeLabel label = true ↔ label ≠ [] ∧ label.length ≤ 63 ∧
      (∀ c ∈ label, c.isLower = true ∨ c.isDigit = true ∨ c = '-') ∧ label.head? ≠ some '-' ∧
        label.getLast? ≠ some '-' := by
  simp [isSafeLabel, and_assoc, or_assoc]

/-- A host that passes has host characters only, and does not end with a dot. -/
theorem of_isSafeHost {host : Text} (h : isSafeHost host = true) :
    host ≠ [] ∧ (∀ c ∈ host, isHostChar c = true) ∧ host.getLast? ≠ some '.' := by
  simp only [isSafeHost, Bool.and_eq_true, decide_eq_true_eq, List.all_eq_true] at h
  obtain ⟨⟨hpositive, -⟩, hlabels⟩ := h
  refine ⟨List.ne_nil_of_length_pos hpositive, ?_, ?_⟩
  · intro c hc
    rcases @mem_splitOn '.' c host hc with rfl | ⟨label, hlabel, hc⟩
    · rfl
    · have hchar := (isSafeLabel_iff.mp (hlabels label hlabel)).2.2.1 c hc
      simp only [isHostChar, Bool.or_eq_true, decide_eq_true_eq]
      tauto
  · intro hlast
    obtain ⟨front, rfl⟩ := List.getLast?_eq_some_iff.mp hlast
    have hempty : [] ∈ splitOn '.' (front ++ ['.']) := by
      rw [splitOn_append]
      exact List.mem_append_right _ (List.mem_singleton_self _)
    exact (isSafeLabel_iff.mp (hlabels [] hempty)).1 rfl

theorem canonicalHost_eq_ok {value host : Text} (h : canonicalHost rt value = .ok host) :
    isSafeHost host = true ∧ canonicalHost rt host = .ok host := by
  unfold canonicalHost at h
  dsimp only at h
  split at h
  · rename_i hsafe
    obtain rfl := Except.ok.inj h
    generalize rt.tables.lower (rstrip '.' value) = host at hsafe ⊢
    refine ⟨hsafe, ?_⟩
    obtain ⟨-, hchars, hlast⟩ := of_isSafeHost hsafe
    unfold canonicalHost
    rw [rstrip_of_getLast hlast, lower_of_isHostChar hchars]
    dsimp only
    rw [if_pos hsafe]
  · cases h

/-- **a request is an HTTPS URL of an approved host**, without credentials, port, query or
fragment.
SOURCE: apps/dependency_broker.py:79-97, 610-613 -/
theorem safe_of_requestOf {url request : Text} (h : requestOf rt allowed url = .ok request) :
    ∃ parsed host, SafeRequest rt allowed request parsed host := by
  obtain ⟨⟨canonical, host⟩, hvalid, h⟩ := bind_eq_ok.mp h
  obtain ⟨_, hallowed, h⟩ := bind_eq_ok.mp h
  obtain rfl : canonical = request := Except.ok.inj h
  rw [raiseIf_eq_ok, not_not] at hallowed
  unfold validatedDependencyUrl at hvalid
  obtain ⟨_, -, hvalid⟩ := bind_eq_ok.mp hvalid
  obtain ⟨parsed, hparsed, hvalid⟩ := bind_eq_ok.mp hvalid
  obtain ⟨_, -, hvalid⟩ := bind_eq_ok.mp hvalid
  cases hhostname : parsed.hostname rt.tables with
  | none =>
      rw [hhostname] at hvalid
      cases hvalid
  | some hostname =>
      rw [hhostname] at hvalid
      obtain ⟨_, -, hvalid⟩ := bind_eq_ok.mp hvalid
      obtain ⟨port, -, hvalid⟩ := bind_eq_ok.mp hvalid
      obtain ⟨_, _, hvalid⟩ := ok_past_two hvalid
      obtain ⟨found, hfound, hvalid⟩ := bind_eq_ok.mp hvalid
      have hpair := Except.ok.inj hvalid
      rw [Prod.mk.injEq] at hpair
      obtain ⟨hcanonical, rfl⟩ := hpair
      obtain ⟨hsafe, hself⟩ := canonicalHost_eq_ok hfound
      obtain ⟨hne, hchars, -⟩ := of_isSafeHost hsafe
      have hsplit : urlsplit rt.tables [] url = .ok parsed := by
        cases hrun : urlsplit rt.tables [] url with
        | error message =>
            rw [hrun] at hparsed
            cases hparsed
        | ok found =>
            rw [hrun] at hparsed
            rw [Except.ok.inj hparsed]
      obtain ⟨hpathChars, hpathHead⟩ := path_of_urlsplit hsplit
      have hpath : (if parsed.path = [] then ['/'] else parsed.path).head? = some '/' ∧
          ∀ c ∈ if parsed.path = [] then ['/'] else parsed.path, isPathChar c = true := by
        split
        · exact ⟨rfl, List.forall_mem_singleton.mpr rfl⟩
        · rename_i hnonempty
          exact ⟨(hpathHead (netloc_ne_nil hhostname)).resolve_left hnonempty, hpathChars⟩
      generalize (if parsed.path = [] then ['/'] else parsed.path) = path at hcanonical hpath
      rw [urlunsplit_https hne hpath.1] at hcanonical
      have hhost := @netloc_of_isHostChar rt.tables found hchars hne
        ⟨"https".toList, found, path, [], []⟩ rfl
      refine ⟨_, found, ?_, rfl, hhost.1, hhost.2.1, hhost.2.2.1, rfl, rfl, hhost.2.2.2, hself, hallowed⟩
      rw [← hcanonical]
      exact urlsplit_https hchars hpath.1 hpath.2

/-! ## Bodies -/

/-- The bytes are what the reads of a body give, in order, up to the first empty one. -/
structure Delivered (read : ℕ → Except PyError (List UInt8)) (start : ℕ) (chunks : List (List UInt8)) :
    Prop where
  reads : ∀ k chunk, chunks[k]? = some chunk → read (start + k) = .ok chunk ∧ chunk ≠ []
  finished : read (start + chunks.length) = .ok []

/-- The loop over a body returns what it had and what it reads up to the first empty chunk,
within the bound. The induction is on the loop itself. -/
theorem readChunks_spec {read : ℕ → Except PyError (List UInt8)} {k : ℕ} {buffer bytes : List UInt8}
    (h : readChunks read k buffer = .ok bytes) (hbuffer : buffer.length ≤ maxArtifactBytes) :
    bytes.length ≤ maxArtifactBytes ∧
      ∃ chunks, bytes = buffer ++ chunks.flatten ∧ Delivered read k chunks := by
  fun_induction readChunks read k buffer with
  | case1 k buffer e hread => cases h
  | case2 k buffer hread =>
      obtain rfl := Except.ok.inj h
      refine ⟨hbuffer, [], by simp, ?_, hread⟩
      intro j chunk hj
      cases hj
  | case3 k buffer chunk hread hchunk hbound => cases h
  | case4 k buffer chunk hread hchunk hbound ih =>
      obtain ⟨hlength, chunks, hbytes, hdelivered⟩ := ih h (not_lt.mp hbound)
      refine ⟨hlength, chunk :: chunks, by simp [hbytes], ?_, ?_⟩
      · intro j found hj
        cases j with
        | zero =>
            obtain rfl := Option.some.inj hj
            exact ⟨hread, hchunk⟩
        | succ j =>
            have hnext := hdelivered.reads j found hj
            rwa [Nat.add_assoc, Nat.add_comm 1 j] at hnext
      · have hend := hdelivered.finished
        rwa [Nat.add_assoc, Nat.add_comm 1, ← List.length_cons] at hend

/-! ## Redirects -/

variable {server : List Text → Answer}

/-- What is true of the requests of a download and of what it returns. -/
structure Stays (rt : Runtime) (server : List Text → Answer) (allowed : List Text)
    (requests : List Text) (result : Except PyError (List UInt8)) : Prop where
  safe : ∀ request ∈ requests, ∃ parsed host, SafeRequest rt allowed request parsed host
  redirected : ∀ k, k + 1 < requests.length → ∃ code ∈ redirectCodes, ∃ location,
    server (requests.take (k + 1)) = .httpError code (some location)
  returned : ∀ bytes, result = .ok bytes → requests ≠ [] ∧ bytes.length ≤ maxArtifactBytes ∧
    ∃ url contentLength read chunks, server requests = .response url contentLength read ∧
      bytes = chunks.flatten ∧ Delivered read 0 chunks

theorem readResponse_spec {canonical url : Text} {contentLength : Option Text}
    {read : ℕ → Except PyError (List UInt8)} {bytes : List UInt8}
    (h : readResponse rt allowed canonical url contentLength read = .ok bytes) :
    bytes.length ≤ maxArtifactBytes ∧ ∃ chunks, bytes = chunks.flatten ∧ Delivered read 0 chunks := by
  obtain ⟨final, -, h⟩ := bind_eq_ok.mp h
  obtain ⟨_, _, _, h⟩ := ok_past_three h
  exact readChunks_spec h (Nat.zero_le _)

theorem redirect_eq_ok {redirectCount : ℕ} {canonical next : Text} {code : ℤ} {location : Option Text}
    (h : redirect rt redirectCount canonical code location = .ok next) :
    code ∈ redirectCodes ∧ ∃ text, location = some text := by
  obtain ⟨_, hcode, h⟩ := bind_eq_ok.mp h
  obtain ⟨_, -, h⟩ := bind_eq_ok.mp h
  rw [raiseIf_eq_ok, not_not] at hcode
  refine ⟨hcode, ?_⟩
  cases location with
  | none => cases h
  | some text => exact ⟨text, rfl⟩

/-- **the loop over the redirects** issues at most one request for each count, and stays on
the approved hosts. The induction is on the counts that are left: the requests so far are safe and all
of them were redirected.
SOURCE: apps/dependency_broker.py:607-653 -/
theorem follow_spec {counts : List ℕ} {requests : List Text} {url : Text}
    (hsafe : ∀ request ∈ requests, ∃ parsed host, SafeRequest rt allowed request parsed host)
    (hredirected : ∀ k, k < requests.length → ∃ code ∈ redirectCodes, ∃ location,
      server (requests.take (k + 1)) = .httpError code (some location)) :
    (follow rt server allowed counts requests url).1.length ≤ requests.length + counts.length ∧
      Stays rt server allowed (follow rt server allowed counts requests url).1
        (follow rt server allowed counts requests url).2 := by
  induction counts generalizing requests url with
  | nil =>
      have hstop : follow rt server allowed [] requests url =
          (requests, .error (err "Dependency redirect loop exhausted")) := rfl
      rw [hstop]
      refine ⟨by simp, hsafe, fun k hk => hredirected k (Nat.lt_of_succ_lt hk), fun bytes hbytes => ?_⟩
      cases hbytes
  | cons redirectCount counts ih =>
      unfold follow
      cases hrequest : requestOf rt allowed url with
      | error e =>
          refine ⟨by simp, hsafe, fun k hk => hredirected k (by dsimp only at hk; omega),
            fun bytes hbytes => ?_⟩
          cases hbytes
      | ok canonical =>
          have hsafe' : ∀ request ∈ requests ++ [canonical],
              ∃ parsed host, SafeRequest rt allowed request parsed host := by
            intro request hmem
            rcases List.mem_append.mp hmem with hmem | hmem
            · exact hsafe request hmem
            · rw [List.mem_singleton.mp hmem]
              exact safe_of_requestOf hrequest
          have hbefore : ∀ k, k < requests.length → ∃ code ∈ redirectCodes, ∃ location,
              server ((requests ++ [canonical]).take (k + 1)) = .httpError code (some location) := by
            intro k hk
            rw [List.take_append_of_le_length (by omega)]
            exact hredirected k hk
          have hlength : (requests ++ [canonical]).length = requests.length + 1 := by simp
          have hstop : ∀ result, (∀ bytes, result ≠ Except.ok bytes) →
              Stays rt server allowed (requests ++ [canonical]) result := by
            intro result hresult
            refine ⟨hsafe', fun k hk => hbefore k (by omega), fun bytes hbytes => ?_⟩
            exact absurd hbytes (hresult bytes)
          dsimp only
          cases hanswer : server (requests ++ [canonical]) with
          | httpError code location =>
              dsimp only
              cases hnext : redirect rt redirectCount canonical code location with
              | error e =>
                  exact ⟨by simp, hstop _ (by simp)⟩
              | ok next =>
                  obtain ⟨hcode, text, rfl⟩ := redirect_eq_ok hnext
                  have hall : ∀ k, k < (requests ++ [canonical]).length →
                      ∃ code ∈ redirectCodes, ∃ location,
                        server ((requests ++ [canonical]).take (k + 1)) =
                          .httpError code (some location) := by
                    intro k hk
                    by_cases hlast : k = requests.length
                    · refine ⟨code, hcode, text, ?_⟩
                      rw [hlast, ← hlength, List.take_length]
                      exact hanswer
                    · exact hbefore k (by omega)
                  obtain ⟨hbound, hstays⟩ := @ih (requests ++ [canonical]) next hsafe' hall
                  refine ⟨hbound.trans ?_, hstays⟩
                  rw [hlength, List.length_cons]
                  omega
          | urlError => exact ⟨by simp, hstop _ (by simp)⟩
          | raised e => exact ⟨by simp, hstop _ (by simp)⟩
          | response finalUrl contentLength read =>
              refine ⟨by simp, hsafe', fun k hk => hbefore k ?_, fun bytes hbytes => ?_⟩
              · change k + 1 < (requests ++ [canonical]).length at hk
                omega
              obtain ⟨hbound, chunks, hflat, hdelivered⟩ := readResponse_spec hbytes
              exact ⟨by simp, hbound, finalUrl, contentLength, read, chunks, hanswer, hflat, hdelivered⟩

/-- MAIN: **downloads stay on approved hosts.** Whatever the URL of the artifact, the approved hosts
and the answers of the server, a download asks at most once more than the bound on redirects. Every
request is an HTTPS URL without credentials, query, fragment or port whose host is its own canonical
host and approved; every request but the last was answered with a redirect; and what is returned is
what was read of the answer to the last request, a response, in order and up to the first empty read,
within the bound on the size.
SOURCE: apps/dependency_broker.py:72-97, 587-653 -/
theorem download_stays (rt : Runtime) (server : List Text → Answer) (resolvedUrl : Text)
    (approvedHosts : List Text) :
    (download rt server resolvedUrl approvedHosts).1.length ≤ maxRedirects + 1 ∧
      Stays rt server approvedHosts (download rt server resolvedUrl approvedHosts).1
        (download rt server resolvedUrl approvedHosts).2 := by
  have hspec := @follow_spec rt approvedHosts server (List.range (maxRedirects + 1)) [] resolvedUrl
    (by simp) (by simp)
  rw [List.length_range, List.length_nil, Nat.zero_add] at hspec
  exact hspec

end DependencyDownload

end PhiOS
