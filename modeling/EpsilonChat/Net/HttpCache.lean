import EpsilonChat.Base.I64
import EpsilonChat.Base.Text
import EpsilonChat.Blob.Name
import EpsilonChat.Lib.Table

/-!
# The HTTP cache

`read_url_blob` answers from the table `http_cache` if it can; otherwise it fetches the URL, follows
redirects, and stores the answer.  It looks up the URL that it was ASKED for and stores under the URL
that ANSWERED.

* `Env`: the network and the hash of a file;
* `httpCacheGet`, `httpCachePut`: the two sides of the table;
* `fetchUrl`, `readUrlBlob`: the reader;
* `Chain`: a chain of redirects that ends in an answer;
* `readUrlBlob_chain`: the first read follows it and stores the answer under its last URL;
* **`served_iff`**: the next read gets the same answer from the cache IFF the last URL is the first
  one, the entry is not stale, and neither the MIME type nor the encoding is an empty text;
* `Coherent`: the invariant of all reads: what is in the cache under a URL was answered by that URL;
* **`cache_answers`**: so a read from the cache gives what the URL has answered.

A stale entry is answered from the cache as well; a task in the background then fetches it again
(`Read.revalidates`).
-/

namespace EpsilonChat.Http
open Lib Text

/-! ## blobs -/

abbrev Bytes := List UInt8

structure Response where
  blob : Bytes
  mimetype : Option String
  encoding : Option String
  deriving DecidableEq

inductive Answer where
  /-- the URL cannot be parsed, there is no connection, or the answer breaks off -/
  | failed
  /-- the last `Location` header, if it is there and is text -/
  | redirect (location : Option String)
  /-- neither a redirection nor a success -/
  | status (code : ℕ)
  | success (response : Response)
  deriving DecidableEq

structure Env where
  context : Blob.Context
  /-- the answer to the request of that number -/
  answer : ℕ → String → Answer
  /-- the hexadecimal digits of the hash -/
  fileHash : Bytes → List (Fin 16)

def hexDigit (d : Fin 16) : Char := Char.ofNat (if d.val < 10 then 48 + d.val else 87 + d.val)

/-- the name that `create_and_deduplicate_from_bytes` gives to a file without extension -/
def blobName (env : Env) (data : Bytes) : List Char :=
  Blob.blobdirPrefix ++ ((env.fileHash data).take 31).map hexDigit

theorem isAcceptible_hex (digits : List (Fin 16)) :
    Blob.isAcceptibleBlobName (digits.map hexDigit) = true := by
  have hdigit : ∀ d : Fin 16, hexDigit d ∉ ['/', '\\', '\x00'] := by decide
  have hnot : ∀ c ∈ ['/', '\\', '\x00'], c ∉ digits.map hexDigit := by
    intro c hc hmem
    obtain ⟨d, -, rfl⟩ := List.mem_map.mp hmem
    exact hdigit d hc
  exact Blob.isAcceptible_iff.mpr
    ⟨hnot _ (by simp), hnot _ (by simp), hnot _ (by simp)⟩

theorem fromName_blobName (env : Env) (data : Bytes) :
    Blob.fromName env.context (blobName env data) =
      .ok { blobdir := env.context.blobdir, name := blobName env data } := by
  unfold blobName
  rw [Blob.fromName_iff, Blob.withoutBlobdir_append]
  exact ⟨isAcceptible_hex _, rfl⟩

/-! ## the table -/

structure CacheRow where
  expires : I64
  stale : I64
  blobname : List Char
  mimetype : String
  encoding : String
  deriving DecidableEq

structure State where
  cache : String → Option CacheRow := fun _ => none
  /-- the files of the blob directory -/
  blobs : List Char → Option Bytes := fun _ => none
  /-- the URLs that were requested so far -/
  requests : List String := []

def seconds (n : ℕ) (h : n < 2 ^ 31) : I64 := ⟨n, by omega⟩

def endsWith (s pat : String) : Bool := pat.toList.isSuffixOf s.toList

def httpUrlCacheTimestamps (now : I64) (url : String) (mimetype : Option String) : I64 × I64 :=
  let expires := I64.saturatingAdd now (seconds (3600 * 24 * 35) (by decide))
  let stale :=
    if endsWith url ".xdc" then expires
    else if startsWith url "https://tile.openstreetmap.org/" ||
        startsWith url "https://vector.openstreetmap.org/" then
      I64.saturatingAdd now (seconds (3600 * 24 * 7) (by decide))
    else if mimetype.any fun s => startsWith s "image/" then
      I64.saturatingAdd now (seconds (3600 * 24) (by decide))
    else I64.saturatingAdd now (seconds 3600 (by decide))
  (expires, stale)

def newRow (env : Env) (now : I64) (url : String) (response : Response) : CacheRow where
  expires := (httpUrlCacheTimestamps now url response.mimetype).1
  stale := (httpUrlCacheTimestamps now url response.mimetype).2
  blobname := blobName env response.blob
  mimetype := response.mimetype.getD ""
  encoding := response.encoding.getD ""

def httpCachePut (env : Env) (now : I64) (s : State) (url : String) (response : Response) : State :=
  { s with
    blobs := Function.update s.blobs (blobName env response.blob) (some response.blob)
    cache := Function.update s.cache url (some (newRow env now url response)) }

theorem httpCachePut_cache (env : Env) (now : I64) (s : State) (url : String)
    (response : Response) :
    (httpCachePut env now s url response).cache url = some (newRow env now url response) :=
  Function.update_self ..

theorem httpCachePut_blobs (env : Env) (now : I64) (s : State) (url : String)
    (response : Response) :
    (httpCachePut env now s url response).blobs (blobName env response.blob)
      = some response.blob :=
  Function.update_self ..

def nonEmpty (s : String) : Option String := (some s).filter (· ≠ "")

inductive ReadError where
  | blobName (error : Blob.BlobError)
  | failed
  /-- "Redirection doesn't have a target location" -/
  | noLocation
  /-- "The server returned a non-successful response code" -/
  | status (code : ℕ)
  /-- "Followed 10 redirections" -/
  | tooManyRedirections
  deriving DecidableEq

/-- the calls of `time()` during one read -/
structure Clock where
  look : I64
  /-- when an entry that was found is renewed -/
  touch : I64
  store : I64

/-- `none` for a miss; otherwise the response, and whether it is stale -/
def httpCacheGet (env : Env) (clock : Clock) (s : State) (url : String) :
    State × Except ReadError (Option (Response × Bool)) :=
  match (s.cache url).filter fun row => clock.look < row.expires with
  | none => (s, .ok none)
  | some row =>
    match Blob.fromName env.context row.blobname with
    | .error e => (s, .error (.blobName e))
    | .ok blobObject =>
      match s.blobs (Blob.asName blobObject) with
      | none => (s, .ok none)
      | some blob =>
        let isStale : Bool := row.stale < clock.look
        let mimetype := nonEmpty row.mimetype
        let response : Response := { blob, mimetype, encoding := nonEmpty row.encoding }
        let expires := (httpUrlCacheTimestamps clock.touch url mimetype).1
        -- `now + 60`, without saturation
        let stale := if isStale then ⟨(clock.look.val + 60 + 2 ^ 63) % 2 ^ 64 - 2 ^ 63, by omega⟩
          else row.stale
        ({ s with cache := updateRow s.cache url fun row => { row with expires, stale } },
          .ok (some (response, isStale)))

/-! ## reading -/

section
variable (env : Env) (clock : Clock) (strictTls : Bool)

def fetchLoop : ℕ → String → State → State × Except ReadError Response
  | 0, _, s => (s, .error .tooManyRedirections)
  | n + 1, url, s =>
    let answer := env.answer s.requests.length url
    let s := { s with requests := s.requests ++ [url] }
    match answer with
    | .failed => (s, .error .failed)
    | .redirect none => (s, .error .noLocation)
    | .redirect (some location) => fetchLoop n location s
    | .status code => (s, .error (.status code))
    | .success response =>
      (if strictTls then httpCachePut env clock.store s url response else s, .ok response)

def fetchUrl (originalUrl : String) (s : State) : State × Except ReadError Response :=
  fetchLoop env clock strictTls 10 originalUrl s

structure Read where
  state : State
  result : Except ReadError Response
  /-- the URL is fetched again in the background -/
  revalidates : Bool := false

def readUrlBlobWithTls (s : State) (url : String) : Read :=
  if !strictTls then
    let r := fetchUrl env clock strictTls url s
    { state := r.1, result := r.2 }
  else
    match httpCacheGet env clock s url with
    | (s, .error e) => { state := s, result := .error e }
    | (s, .ok (some (response, isStale))) =>
      { state := s, result := .ok response, revalidates := isStale }
    | (s, .ok none) =>
      let r := fetchUrl env clock true url s
      { state := r.1, result := r.2 }

def readUrlBlob (s : State) (url : String) : Read := readUrlBlobWithTls env clock true s url

end

/-! ## the second read -/

/-- the requests `urls`, from the one of number `k` on, lead to a response -/
inductive Chain (env : Env) : ℕ → List String → Response → Prop where
  | success {k : ℕ} {url : String} {response : Response} :
      env.answer k url = .success response → Chain env k [url] response
  | redirect {k : ℕ} {url next : String} {urls : List String} {response : Response} :
      env.answer k url = .redirect (some next) → Chain env (k + 1) (next :: urls) response →
      Chain env k (url :: next :: urls) response

section
variable {env : Env} {clock : Clock} {s : State} {url : String} {response : Response}

def stored (env : Env) (clock : Clock) (s : State) (url : String) (urls : List String)
    (response : Response) : State :=
  httpCachePut env clock.store { s with requests := s.requests ++ url :: urls }
    (urls.getLastD url) response

theorem fetchLoop_chain {urls : List String} {n : ℕ} (hlen : urls.length < n)
    (h : Chain env s.requests.length (url :: urls) response) :
    fetchLoop env clock true n url s = (stored env clock s url urls response, .ok response) := by
  induction urls generalizing n url s with
  | nil =>
    obtain ⟨n, rfl⟩ := Nat.exists_eq_succ_of_ne_zero (Nat.ne_of_gt hlen)
    cases h with
    | success h =>
      rw [fetchLoop, h]
      rfl
  | cons next urls ih =>
    rw [List.length_cons] at hlen
    obtain ⟨n, rfl⟩ := Nat.exists_eq_succ_of_ne_zero (show n ≠ 0 by omega)
    cases h with
    | redirect h hrest =>
      rw [fetchLoop, h]
      dsimp only
      rw [ih (by omega) (by rw [List.length_append]; exact hrest)]
      unfold stored
      rw [List.append_assoc, List.getLastD_cons]
      rfl

theorem requests_fetchLoop (n : ℕ) (url : String) (s : State) :
    s.requests.length + (if n = 0 then 0 else 1) ≤
      (fetchLoop env clock true n url s).1.requests.length := by
  induction n generalizing url s with
  | zero => exact Nat.le_refl _
  | succ n ih =>
    rw [fetchLoop, if_neg (Nat.succ_ne_zero n)]
    have hone : s.requests.length + 1 ≤ (s.requests ++ [url]).length := by
      rw [List.length_append, List.length_singleton]
    split
    · exact hone
    · exact hone
    · next location _ =>
      have := ih location { s with requests := s.requests ++ [url] }
      dsimp only at this ⊢
      omega
    · exact hone
    · exact hone

/-- there is no entry that has not expired -/
def Miss (clock : Clock) (s : State) (url : String) : Prop :=
  ∀ row, s.cache url = some row → row.expires ≤ clock.look

theorem httpCacheGet_miss (h : Miss clock s url) :
    httpCacheGet env clock s url = (s, .ok none) := by
  have hnone : ((s.cache url).filter fun row => clock.look < row.expires) = none := by
    rw [Option.filter_eq_none_iff]
    intro row hrow
    rw [decide_eq_true_iff]
    exact not_lt.mpr (h row hrow)
  rw [httpCacheGet, hnone]

theorem readUrlBlob_chain {urls : List String} (hmiss : Miss clock s url) (hlen : urls.length ≤ 9)
    (h : Chain env s.requests.length (url :: urls) response) :
    readUrlBlob env clock s url =
      { state := stored env clock s url urls response, result := .ok response } := by
  show readUrlBlobWithTls env clock true s url = _
  rw [readUrlBlobWithTls, httpCacheGet_miss hmiss]
  dsimp only
  rw [fetchUrl, fetchLoop_chain (by omega) h]
  rfl

theorem requests_of_miss (h : Miss clock s url) :
    (readUrlBlob env clock s url).state.requests ≠ s.requests := by
  intro e
  have hgrows : s.requests.length + 1 ≤ (fetchLoop env clock true 10 url s).1.requests.length :=
    requests_fetchLoop 10 url s
  have hstate : (readUrlBlob env clock s url).state = (fetchLoop env clock true 10 url s).1 := by
    show (readUrlBlobWithTls env clock true s url).state = _
    rw [readUrlBlobWithTls, httpCacheGet_miss h]
    rfl
  rw [← hstate, e] at hgrows
  omega

theorem nonEmpty_getD_iff (o : Option String) : nonEmpty (o.getD "") = o ↔ o ≠ some "" := by
  unfold nonEmpty
  cases o with
  | none => exact iff_of_true (by decide) (Option.some_ne_none "").symm
  | some s =>
    rw [Option.getD_some, Option.filter_some]
    by_cases h : s = ""
    · rw [if_neg (by simpa using h), h]
      exact iff_of_false (Option.some_ne_none "").symm fun e => e rfl
    · rw [if_pos (by simpa using h)]
      exact iff_of_true rfl fun e => h (Option.some.inj e)

def cached (response : Response) : Response where
  blob := response.blob
  mimetype := nonEmpty (response.mimetype.getD "")
  encoding := nonEmpty (response.encoding.getD "")

theorem cached_eq_iff : cached response = response ↔
    response.mimetype ≠ some "" ∧ response.encoding ≠ some "" := by
  rw [← nonEmpty_getD_iff, ← nonEmpty_getD_iff]
  obtain ⟨blob, mimetype, encoding⟩ := response
  unfold cached
  rw [Response.mk.injEq]
  exact and_iff_right rfl

theorem readUrlBlob_put (env : Env) (s : State) {second : Clock} {now : I64}
    (h : second.look < (httpUrlCacheTimestamps now url response.mimetype).1) :
    let r := readUrlBlob env second (httpCachePut env now s url response) url
    r.result = .ok (cached response) ∧ r.state.requests = s.requests ∧
      r.revalidates = decide ((httpUrlCacheTimestamps now url response.mimetype).2 < second.look) := by
  have hnew : second.look < (newRow env now url response).expires := h
  unfold readUrlBlob
  rw [readUrlBlobWithTls, httpCacheGet, httpCachePut_cache, Option.filter_some,
    decide_eq_true hnew, if_pos rfl]
  dsimp only
  rw [newRow, fromName_blobName]
  dsimp only
  rw [Blob.asName, httpCachePut_blobs]
  exact ⟨rfl, rfl, rfl⟩

/-- the first read gives the response, and the second one gives it again without a request, neither
at once nor in the background -/
def Served (env : Env) (first second : Clock) (s : State) (url : String) (response : Response) :
    Prop :=
  let r := readUrlBlob env first s url
  r.result = .ok response ∧ (readUrlBlob env second r.state url).result = .ok response ∧
    (readUrlBlob env second r.state url).state.requests = r.state.requests ∧
    (readUrlBlob env second r.state url).revalidates = false

end

/-- **A URL is read from the cache the second time, and gives the same response, IFF its redirects
lead back to it, the response is not stale yet and has no empty MIME type or encoding.** -/
theorem served_iff (env : Env) (first second : Clock) (s : State) (url : String)
    (urls : List String) (response : Response)
    (hchain : Chain env s.requests.length (url :: urls) response) (hlen : urls.length ≤ 9)
    (hmiss : Miss first s url) (hlater : first.look ≤ second.look)
    (hexpires : second.look < (httpUrlCacheTimestamps first.store url response.mimetype).1) :
    Served env first second s url response ↔
      urls.getLastD url = url ∧
        second.look ≤ (httpUrlCacheTimestamps first.store url response.mimetype).2 ∧
        response.mimetype ≠ some "" ∧ response.encoding ≠ some "" := by
  unfold Served
  rw [readUrlBlob_chain hmiss hlen hchain]
  dsimp only
  by_cases hlast : urls.getLastD url = url
  · have hstored : stored env first s url urls response = httpCachePut env first.store
        { s with requests := s.requests ++ url :: urls } url response := by
      rw [stored, hlast]
    obtain ⟨hresult, hrequests, hrevalidates⟩ :=
      readUrlBlob_put env { s with requests := s.requests ++ url :: urls } hexpires
    rw [hstored, hresult, hrequests, hrevalidates, ← cached_eq_iff, decide_eq_false_iff_not, not_lt]
    constructor
    · rintro ⟨-, hsame, -, hfresh⟩
      exact ⟨hlast, hfresh, Except.ok.inj hsame⟩
    · rintro ⟨-, hfresh, hsame⟩
      exact ⟨rfl, congrArg Except.ok hsame, rfl, hfresh⟩
  · refine iff_of_false ?_ fun h => hlast h.1
    rintro ⟨-, -, hrequests, -⟩
    -- the entry of the last URL does not help
    have hother : (stored env first s url urls response).cache url = s.cache url :=
      Function.update_of_ne (Ne.symm hlast) _ _
    refine requests_of_miss ?_ hrequests
    intro row hrow
    exact (hmiss row (hother.symm.trans hrow)).trans hlater

/-! ## all reads -/

/-- what is stored under a URL was answered by that URL, and files are answers under their names -/
structure Coherent (env : Env) (s : State) : Prop where
  rows : ∀ url row, s.cache url = some row → ∃ k response, s.requests[k]? = some url ∧
    env.answer k url = .success response ∧ row.blobname = blobName env response.blob ∧
    row.mimetype = response.mimetype.getD "" ∧ row.encoding = response.encoding.getD ""
  blobs : ∀ name data, s.blobs name = some data → name = blobName env data ∧
    ∃ k url response, env.answer k url = .success response ∧ response.blob = data

section
variable {env : Env} {s : State} {url : String} {response : Response}

theorem Coherent.request (h : Coherent env s) (url : String) :
    Coherent env { s with requests := s.requests ++ [url] } where
  rows := by
    intro url' row hrow
    obtain ⟨k, response, hk, hrest⟩ := h.rows url' row hrow
    have hlt : k < s.requests.length := (List.getElem?_eq_some_iff.mp hk).1
    exact ⟨k, response, (List.getElem?_append_left hlt).trans hk, hrest⟩
  blobs := h.blobs

theorem Coherent.put (h : Coherent env s) (now : I64) {k : ℕ} (hk : s.requests[k]? = some url)
    (hanswer : env.answer k url = .success response) :
    Coherent env (httpCachePut env now s url response) where
  rows := by
    intro url' row hrow
    by_cases e : url' = url
    · subst e
      obtain rfl := Option.some.inj ((httpCachePut_cache ..).symm.trans hrow)
      exact ⟨k, response, hk, hanswer, rfl, rfl, rfl⟩
    · exact h.rows url' row ((Function.update_of_ne e _ _).symm.trans hrow)
  blobs := by
    intro name data hname
    by_cases e : name = blobName env response.blob
    · subst e
      obtain rfl := Option.some.inj ((httpCachePut_blobs ..).symm.trans hname)
      exact ⟨rfl, k, url, response, hanswer, rfl⟩
    · exact h.blobs name data ((Function.update_of_ne e _ _).symm.trans hname)

theorem Coherent.fetchLoop (clock : Clock) (strictTls : Bool) (n : ℕ) (url : String)
    (h : Coherent env s) : Coherent env (fetchLoop env clock strictTls n url s).1 := by
  induction n generalizing url s with
  | zero => exact h
  | succ n ih =>
    rw [Http.fetchLoop]
    have hrequest := h.request url
    split
    · exact hrequest
    · exact hrequest
    · exact ih _ hrequest
    · exact hrequest
    · next response hanswer =>
      cases strictTls with
      | false => exact hrequest
      | true => exact hrequest.put _ List.getElem?_concat_length hanswer

theorem httpCacheGet_state (env : Env) (clock : Clock) (s : State) (url : String) :
    (httpCacheGet env clock s url).1 = s ∨ ∃ expires stale, (httpCacheGet env clock s url).1 =
      { s with cache := updateRow s.cache url fun row => { row with expires, stale } } := by
  unfold httpCacheGet
  split
  · exact .inl rfl
  · split
    · exact .inl rfl
    · split
      · exact .inl rfl
      · exact .inr ⟨_, _, rfl⟩

theorem Coherent.get (h : Coherent env s) (clock : Clock) (url : String) :
    Coherent env (httpCacheGet env clock s url).1 := by
  rcases httpCacheGet_state env clock s url with e | ⟨expires, stale, e⟩
  · rw [e]
    exact h
  · rw [e]
    refine ⟨?_, h.blobs⟩
    intro url' row hrow
    by_cases hurl : url' = url
    · subst hurl
      obtain ⟨old, hold, rfl⟩ := Option.map_eq_some_iff.mp ((updateRow_self ..).symm.trans hrow)
      exact h.rows url' old hold
    · exact h.rows url' row ((updateRow_of_ne _ hurl).symm.trans hrow)

theorem Coherent.read (h : Coherent env s) (clock : Clock) (strictTls : Bool) (url : String) :
    Coherent env (readUrlBlobWithTls env clock strictTls s url).state := by
  cases strictTls with
  | false => exact h.fetchLoop clock false 10 url
  | true =>
    have hget := h.get clock url
    rw [readUrlBlobWithTls]
    rcases hrun : httpCacheGet env clock s url with ⟨s', e | hit⟩
    · rw [hrun] at hget
      exact hget
    · rw [hrun] at hget
      cases hit with
      | none => exact hget.fetchLoop clock true 10 url
      | some hit => exact hget

def httpCacheCleanup (now : I64) (s : State) : State :=
  { s with cache := fun url => (s.cache url).filter fun row =>
      !(decide (row.expires < now) || decide (now.val + 31536000 < row.expires.val)) }

inductive Op where
  | read (clock : Clock) (strictTls : Bool) (url : String)
  /-- a stale entry is fetched in the background -/
  | revalidate (clock : Clock) (url : String)
  | cleanup (now : I64)
  /-- housekeeping takes a file for unused -/
  | removeFile (name : List Char)

def step (env : Env) (s : State) : Op → State
  | .read clock strictTls url => (readUrlBlobWithTls env clock strictTls s url).state
  | .revalidate clock url => (fetchUrl env clock true url s).1
  | .cleanup now => httpCacheCleanup now s
  | .removeFile name => { s with blobs := Function.update s.blobs name none }

theorem Coherent.step (h : Coherent env s) (op : Op) : Coherent env (step env s op) := by
  cases op with
  | read clock strictTls url => exact h.read clock strictTls url
  | revalidate clock url => exact h.fetchLoop clock true 10 url
  | cleanup now =>
    exact ⟨fun url row hrow => h.rows url row (Option.filter_eq_some_iff.mp hrow).1, h.blobs⟩
  | removeFile name =>
    refine ⟨h.rows, fun name' data hdata => ?_⟩
    by_cases e : name' = name
    · subst e
      exact absurd ((Function.update_self ..).symm.trans hdata) nofun
    · exact h.blobs name' data ((Function.update_of_ne e _ _).symm.trans hdata)

theorem coherent_run (env : Env) (ops : List Op) : Coherent env (ops.foldl (Http.step env) {}) := by
  have hempty : Coherent env {} := ⟨fun _ _ h => (by cases h), fun _ _ h => (by cases h)⟩
  exact List.foldlRecOn (motive := Coherent env) ops _ hempty fun _ h op _ => h.step op

/-- **What the cache answers for a URL is what the URL has answered**, after all reads, if no two
answers of the network have the same hash. -/
theorem cache_answers (env : Env) (ops : List Op)
    (hhash : ∀ k url r k' url' r', env.answer k url = .success r →
      env.answer k' url' = .success r' → blobName env r.blob = blobName env r'.blob →
      r.blob = r'.blob)
    (clock : Clock) (url : String) (s' : State) (r : Response) (isStale : Bool)
    (hget : httpCacheGet env clock (ops.foldl (step env) {}) url = (s', .ok (some (r, isStale)))) :
    ∃ k response, (ops.foldl (step env) {}).requests[k]? = some url ∧
      env.answer k url = .success response ∧ r = cached response := by
  have h := coherent_run env ops
  unfold httpCacheGet at hget
  split at hget
  · cases hget
  · next row hrow =>
    obtain ⟨hrow, -⟩ := Option.filter_eq_some_iff.mp hrow
    obtain ⟨k, response, hk, hanswer, hname, hmime, henc⟩ := h.rows url row hrow
    rw [hname, fromName_blobName] at hget
    dsimp only [Blob.asName] at hget
    split at hget
    · cases hget
    · next blob hblob =>
      cases hget
      obtain ⟨hsame, k', url', response', hanswer', rfl⟩ := h.blobs _ _ hblob
      have hblob' := hhash _ _ _ _ _ _ hanswer hanswer' hsame
      refine ⟨k, response, hk, hanswer, ?_⟩
      rw [hmime, henc, ← hblob']
      rfl

end

/-! ## a redirect -/

def page : Response := { blob := [60, 62], mimetype := some "text/html", encoding := none }

/-- the answer to `content-type: text/plain; charset=""` -/
def note : Response := { blob := [104, 105], mimetype := some "text/plain", encoding := some "" }

def hexDigits (b : UInt8) : List (Fin 16) := [Fin.ofNat 16 (b.toNat / 16), Fin.ofNat 16 b.toNat]

/-- two pages; the hash of a short file is its own digits -/
def redirecting : Env where
  context := { blobdir := UnixPath.ofChars "/db-blobs".toList, blobdir_ne := by decide }
  answer _ url :=
    if url = "https://a" then .redirect (some "https://b")
    else if url = "https://b" then .success page
    else if url = "https://c" then .success note
    else .status 404
  fileHash data := (data.flatMap hexDigits ++ List.replicate 64 0).take 64

def clockAt (now : I64) : Clock := ⟨now, now, now⟩

/-- The answer is stored for `https://b`; a second read of `https://a` asks the network again.  After
an hour, so does one of `https://b`, in the background.  The empty encoding of `https://c` is lost. -/
theorem redirected_not_served :
    let first := clockAt ⟨700, by decide⟩
    let second := clockAt ⟨701, by decide⟩
    let r := fun url => readUrlBlob redirecting first {} url
    ((r "https://a").result = .ok page ∧ ((r "https://a").state.cache "https://a").isNone ∧
      (readUrlBlob redirecting second (r "https://a").state "https://a").state.requests =
        ["https://a", "https://b", "https://a", "https://b"] ∧
      ¬ Served redirecting first second {} "https://a" page) ∧
    (readUrlBlob redirecting (clockAt ⟨4301, by decide⟩) (r "https://b").state "https://b").revalidates
      = true ∧
    (r "https://c").result = .ok note ∧
      (readUrlBlob redirecting second (r "https://c").state "https://c").result =
        .ok { note with encoding := none } := by
  intro first second r
  have hrequests : (readUrlBlob redirecting second (r "https://a").state "https://a").state.requests =
      ["https://a", "https://b", "https://a", "https://b"] := by decide +kernel
  have hfirst : (r "https://a").state.requests = ["https://a", "https://b"] := by decide +kernel
  refine ⟨⟨by decide +kernel, by decide +kernel, hrequests, ?_⟩, by decide +kernel,
    by decide +kernel, by decide +kernel⟩
  rintro ⟨-, -, h, -⟩
  rw [hrequests, hfirst] at h
  cases h

theorem cache_answers_direct :
    let s := [Op.read (clockAt ⟨700, by decide⟩) true "https://c",
      .read (clockAt ⟨700, by decide⟩) true "https://b"].foldl (step redirecting) {}
    (httpCacheGet redirecting (clockAt ⟨701, by decide⟩) s "https://b").2
        = .ok (some (page, false)) ∧
      ∃ k response, s.requests[k]? = some "https://b" ∧
        redirecting.answer k "https://b" = .success response ∧ page = cached response := by
  intro s
  have hget : (httpCacheGet redirecting (clockAt ⟨701, by decide⟩) s "https://b").2 =
      .ok (some (page, false)) := by decide +kernel
  refine ⟨hget, cache_answers redirecting _ ?_ _ _ _ page false (Prod.ext rfl hget)⟩
  have hpage : ∀ {k url r}, redirecting.answer k url = .success r → r = page ∨ r = note := by
    intro k url r h
    unfold redirecting at h
    dsimp only at h
    split_ifs at h <;> cases h
    · exact .inl rfl
    · exact .inr rfl
  have hnames : blobName redirecting page.blob ≠ blobName redirecting note.blob := by decide +kernel
  intro _ _ _ _ _ _ h h' hsame
  rcases hpage h with rfl | rfl <;> rcases hpage h' with rfl | rfl
  · rfl
  · exact absurd hsame hnames
  · exact absurd hsame.symm hnames
  · rfl

theorem served_iff_direct :
    Served redirecting (clockAt ⟨700, by decide⟩) (clockAt ⟨4300, by decide⟩) {} "https://b" page :=
  (served_iff redirecting _ _ {} "https://b" [] page (.success (by decide)) (by decide)
    (by intro row h; cases h) (by decide) (by decide +kernel)).mpr
      ⟨rfl, by decide +kernel, by decide, by decide⟩

end EpsilonChat.Http
