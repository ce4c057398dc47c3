import Qri.Go.Base64

/-!
The log sync over HTTP (`logbook/logsync/http.go`): `HTTPClient`'s `put`,
`get` and `del`, and `HTTPHandler`, which serves them from a `Logsync`. Each
request carries its author in two headers: `AuthorID`, and `PubKey`, the
author's public key in base64; the handler reads the sender back from them, and
a `get` response carries the receiver the same way.

What a request proves:
* the sender the handler reads is the author the client wrote, key and ID
  (`senderFromHTTPHeaders_addAuthorHTTPHeaders`), through the base64 round trip
  of `Qri.Go.Base64`;
* over an honest connection, `put` and `del` succeed exactly when the remote's
  do, acting for the client's author, and fail with its error text otherwise;
  `get` returns the remote's receiver and bytes (`put_httpHandler`,
  `del_httpHandler`, `get_httpHandler`).

Off that path the client is less careful: when `Do` fails, `put` and `del`
read the `StatusCode` of its nil response, and a refusal whose body cannot be
read returns the nil error of `Do`.

`Logsync` itself, `crypto`, and `net/http`'s transport, URL and `fmt` are
outside the sources: their calls are the fields of `Crypto`, `Net` and
`Server`.
-/

set_option autoImplicit false

namespace Qri

namespace Logsync

open Go Base64

/-! ## Authors in headers -/

/-- A `log.Author`, by what its two methods return. -/
structure Author (PubKey : Type) where
  authorID : GoString
  pubKey : PubKey

/-- The two calls of `crypto` (`go-libp2p-crypto`) on a public key. -/
structure Crypto (PubKey : Type) where
  /-- `PubKey.Bytes()`. -/
  bytes : PubKey → Except String GoString
  /-- `crypto.UnmarshalPublicKey`. -/
  unmarshalPublicKey : GoString → Except String PubKey

/-- An `http.Header`, by the two keys this file sets and reads. `Set` and `Get`
canonicalise a key the same way, and these two stay distinct (`Authorid`,
`Pubkey`); a key not set reads as `""`. -/
structure Header where
  authorID : Option GoString
  pubKey : Option GoString

/-- A header with neither key, as `http.NewRequest` and a `ResponseWriter` start. -/
def Header.empty : Header := ⟨none, none⟩

section Headers

variable {PubKey : Type} (crypto : Crypto PubKey)

/-- `addAuthorHTTPHeaders`: the header it leaves, and its error. The ID is set
before the key is serialised, so a failure leaves the ID and no key. -/
def addAuthorHTTPHeaders (h : Header) (author : Author PubKey) : Header × Except String Unit :=
  let h := { h with authorID := some author.authorID }
  match crypto.bytes author.pubKey with
  | .error err => (h, .error err)
  | .ok pubByteStr => ({ h with pubKey := some (encodeToString pubByteStr) }, .ok ())

/-- `senderFromHTTPHeaders`. -/
def senderFromHTTPHeaders (h : Header) : Except String (Author PubKey) :=
  match decodeString (h.pubKey.getD []) with
  | .error err => .error err
  | .ok data =>
    match crypto.unmarshalPublicKey data with
    | .error err => .error ("decoding public key: " ++ err)
    | .ok pub => .ok ⟨h.authorID.getD [], pub⟩

/-- What `addAuthorHTTPHeaders` writes for an author whose key serialises. -/
theorem addAuthorHTTPHeaders_eq (h : Header) (author : Author PubKey) (b : GoString)
    (hb : crypto.bytes author.pubKey = .ok b) :
    addAuthorHTTPHeaders crypto h author =
      ({ authorID := some author.authorID, pubKey := some (encodeToString b) }, .ok ()) := by
  simp only [addAuthorHTTPHeaders, hb]

/-- A header holding an ID and the base64 of a key's bytes reads as that ID and
the key unmarshalled from the bytes. -/
theorem senderFromHTTPHeaders_encoded (authorID b : GoString) (pub : PubKey)
    (hpub : crypto.unmarshalPublicKey b = .ok pub) :
    senderFromHTTPHeaders crypto ⟨some authorID, some (encodeToString b)⟩ = .ok ⟨authorID, pub⟩ := by
  simp only [senderFromHTTPHeaders, Option.getD_some, decodeString_encodeToString, hpub]

/-- An author whose key comes back from its own bytes. -/
def Crypto.RoundTrips (author : Author PubKey) : Prop :=
  ∃ b, crypto.bytes author.pubKey = .ok b ∧ crypto.unmarshalPublicKey b = .ok author.pubKey

end Headers

/-! ## Requests, the handler and the client -/

/-- An HTTP request: its method, URL, headers and body. -/
structure Request where
  method : String
  url : String
  header : Header
  body : GoString

/-- An HTTP response as the client sees it: its status, its headers and what
`ioutil.ReadAll` of its body returns. -/
structure Response where
  statusCode : Nat
  header : Header
  body : Except String GoString

/-- `http.StatusOK`. -/
def statusOK : Nat := 200

/-- `http.StatusBadRequest`. -/
def statusBadRequest : Nat := 400

/-- What the handler calls: the `*Logsync` it serves, and the parsing of a
request's `ref`. -/
structure Server (PubKey Ref : Type) where
  /-- `lsync.Author()`. -/
  author : Author PubKey
  /-- `lsync.put`, given the request's body. -/
  put : Author PubKey → GoString → Except String Unit
  /-- `lsync.get`: the receiver, and the bytes of the reader. -/
  get : Author PubKey → Ref → Except String (Author PubKey × GoString)
  /-- `lsync.del`. -/
  del : Author PubKey → Ref → Except String Unit
  /-- `r.FormValue("ref")` of the request's URL. -/
  formValue : String → String
  /-- `repo.ParseDatasetRef`, then `repo.ConvertToDsref`. -/
  parseDatasetRef : String → Except String Ref

/-- What the client calls of `net/http` and `fmt`. -/
structure Net (Ref : Type) where
  /-- The error of `http.NewRequest` for a URL it cannot parse. -/
  newRequest : String → Except String Unit
  /-- `http.DefaultClient.Do`: the response, or the error with a nil response. -/
  defaultClientDo : Request → Except String Response
  /-- `fmt.Sprintf("%s?ref=%s", c.URL, ref)`. -/
  refURL : String → Ref → String
  /-- `fmt.Errorf(string(errmsg))`: the text of the error whose format string is
  those bytes. -/
  errorf : GoString → String

/-- `HTTPClient`. -/
structure HTTPClient where
  url : String

section Protocol

variable {PubKey Ref : Type} (crypto : Crypto PubKey)

/-- `w.WriteHeader(http.StatusBadRequest); w.Write([]byte(err.Error()))`. -/
def badRequest (err : String) : Response := ⟨statusBadRequest, .empty, .ok (.ofString err)⟩

/-- `HTTPHandler(lsync)` on one request. After a successful call the headers
go out with the implicit `200`, and the error of that `addAuthorHTTPHeaders` is
dropped; a method other than the three writes nothing. -/
def httpHandler (lsync : Server PubKey Ref) (r : Request) : Response :=
  match senderFromHTTPHeaders crypto r.header with
  | .error err => badRequest err
  | .ok sender =>
    if r.method = "PUT" then
      match lsync.put sender r.body with
      | .error err => badRequest err
      | .ok () => ⟨statusOK, (addAuthorHTTPHeaders crypto .empty lsync.author).1, .ok []⟩
    else if r.method = "GET" then
      match lsync.parseDatasetRef (lsync.formValue r.url) with
      | .error err => badRequest err
      | .ok ref =>
        match lsync.get sender ref with
        | .error err => badRequest err
        | .ok (receiver, data) => ⟨statusOK, (addAuthorHTTPHeaders crypto .empty receiver).1, .ok data⟩
    else if r.method = "DELETE" then
      match lsync.parseDatasetRef (lsync.formValue r.url) with
      | .error err => badRequest err
      | .ok ref =>
        match lsync.del sender ref with
        | .error err => badRequest err
        | .ok () => ⟨statusOK, (addAuthorHTTPHeaders crypto .empty lsync.author).1, .ok []⟩
    else ⟨statusOK, .empty, .ok []⟩

variable (net : Net Ref)

/-- The start the three client methods share: `http.NewRequest`, then
`addAuthorHTTPHeaders` on its empty header; the request, or the error of either. -/
def authoredRequest (method url : String) (author : Author PubKey) (body : GoString) :
    Except String Request :=
  match net.newRequest url with
  | .error err => .error err
  | .ok () =>
    match addAuthorHTTPHeaders crypto .empty author with
    | (_, .error err) => .error err
    | (header, .ok ()) => .ok ⟨method, url, header, body⟩

/-- What `put` and `del` make of `Do`'s result. `none` is the nil dereference of
`res.StatusCode` when `Do` fails; a refused request whose body cannot be read
returns `Do`'s own error, which is nil. -/
def statusError (r : Except String Response) : Option (Except String Unit) :=
  match r with
  | .error _ => none
  | .ok res =>
    if res.statusCode ≠ statusOK then
      match res.body with
      | .ok errmsg => some (.error (net.errorf errmsg))
      | .error _ => some (.ok ())
    else some (.ok ())

/-- `HTTPClient.put`. -/
def HTTPClient.put (c : HTTPClient) (author : Author PubKey) (body : GoString) :
    Option (Except String Unit) :=
  match authoredRequest crypto net "PUT" c.url author body with
  | .error err => some (.error err)
  | .ok req => statusError net (net.defaultClientDo req)

/-- `HTTPClient.del`. -/
def HTTPClient.del (c : HTTPClient) (author : Author PubKey) (ref : Ref) :
    Option (Except String Unit) :=
  match authoredRequest crypto net "DELETE" (net.refURL c.url ref) author [] with
  | .error err => some (.error err)
  | .ok req => statusError net (net.defaultClientDo req)

/-- `HTTPClient.get`: the sender and the response's body; `none` is the nil
sender and reader it returns with a nil error. -/
def HTTPClient.get (c : HTTPClient) (author : Author PubKey) (ref : Ref) :
    Except String (Option (Author PubKey × Except String GoString)) :=
  match authoredRequest crypto net "GET" (net.refURL c.url ref) author [] with
  | .error err => .error err
  | .ok req =>
    match net.defaultClientDo req with
    | .error err => .error err
    | .ok res =>
      if res.statusCode ≠ statusOK then
        match res.body with
        | .ok errmsg => .error (net.errorf errmsg)
        | .error _ => .ok none
      else
        match senderFromHTTPHeaders crypto res.header with
        | .error err => .error err
        | .ok sender => .ok (some (sender, res.body))

end Protocol

/-! ## A loopback -/

/-- Keys that are their own bytes. -/
def bytesCrypto : Crypto GoString := ⟨.ok, .ok⟩

/-- A remote that keeps nothing: `put` succeeds, `get` answers with the sender
and no bytes, `del` finds nothing. -/
def emptyServer : Server GoString String where
  author := ⟨.ofString "remote", [1]⟩
  put _ _ := .ok ()
  get sender _ := .ok (sender, [])
  del _ ref := .error ("reference not found: " ++ ref)
  formValue url := url
  parseDatasetRef url := .ok url

/-- A connection that hands every request to `emptyServer`'s handler. -/
def loopback : Net String where
  newRequest _ := .ok ()
  defaultClientDo req := .ok (httpHandler bytesCrypto emptyServer req)
  refURL url ref := url ++ "?ref=" ++ ref
  errorf errmsg := String.mk (errmsg.map fun c => Char.ofNat c.toNat)

/-! ## The protocol -/

section Exchange

variable {PubKey Ref : Type} (crypto : Crypto PubKey) (net : Net Ref)

/-- **The sender read is the author written.** Whatever the header held, once
`addAuthorHTTPHeaders` has written an author whose key serialises, reading the
sender back gives the author's ID and the key unmarshalled from those bytes:
the author itself when the key unmarshals to itself. -/
theorem senderFromHTTPHeaders_addAuthorHTTPHeaders (h : Header) (author : Author PubKey)
    (b : GoString) (pub : PubKey) (hb : crypto.bytes author.pubKey = .ok b)
    (hpub : crypto.unmarshalPublicKey b = .ok pub) :
    (addAuthorHTTPHeaders crypto h author).2 = .ok () ∧
      senderFromHTTPHeaders crypto (addAuthorHTTPHeaders crypto h author).1 =
        .ok ⟨author.authorID, pub⟩ := by
  rw [addAuthorHTTPHeaders_eq crypto h author b hb]
  exact ⟨rfl, senderFromHTTPHeaders_encoded crypto _ b pub hpub⟩

/-- A key that is its own bytes, written and read back. -/
theorem senderFromHTTPHeaders_addAuthorHTTPHeaders_self :
    (addAuthorHTTPHeaders bytesCrypto .empty ⟨.ofString "alice", [7, 8, 9, 10]⟩).2 = .ok () ∧
      senderFromHTTPHeaders bytesCrypto
          (addAuthorHTTPHeaders bytesCrypto .empty ⟨.ofString "alice", [7, 8, 9, 10]⟩).1 =
        .ok ⟨.ofString "alice", [7, 8, 9, 10]⟩ :=
  senderFromHTTPHeaders_addAuthorHTTPHeaders bytesCrypto .empty _ [7, 8, 9, 10] _ rfl rfl

/-- The request a client builds once `http.NewRequest` accepts the URL and the
author's key serialises: the author's ID and the key's base64 in its header. -/
theorem authoredRequest_eq (method url : String) (author : Author PubKey) (body b : GoString)
    (hurl : net.newRequest url = .ok ()) (hb : crypto.bytes author.pubKey = .ok b) :
    authoredRequest crypto net method url author body =
      .ok ⟨method, url, ⟨some author.authorID, some (encodeToString b)⟩, body⟩ := by
  simp only [authoredRequest, hurl, addAuthorHTTPHeaders_eq crypto _ author b hb]

/-- The request a client builds for an author whose key round-trips carries
that author: the handler reads it back as the sender. -/
theorem authoredRequest_sender (method url : String) (author : Author PubKey) (body : GoString)
    (hurl : net.newRequest url = .ok ()) (hauthor : crypto.RoundTrips author) :
    ∃ header, authoredRequest crypto net method url author body = .ok ⟨method, url, header, body⟩ ∧
      senderFromHTTPHeaders crypto header = .ok author := by
  obtain ⟨b, hb, hpub⟩ := hauthor
  exact ⟨_, authoredRequest_eq crypto net method url author body b hurl hb,
    senderFromHTTPHeaders_encoded crypto _ b _ hpub⟩

/-- An honest connection: every request the client sends reaches the handler,
whose response comes back with its body readable. -/
def Honest (lsync : Server PubKey Ref) : Prop :=
  ∀ req, net.defaultClientDo req = .ok (httpHandler crypto lsync req)

/-- **`put` succeeds exactly when the remote's does.** Over an honest
connection to `HTTPHandler`, a client whose URL parses and whose author's key
round-trips gets the result of the remote's `put` for that same author and
body: success, or the remote's error text through `fmt.Errorf`. -/
theorem put_httpHandler (lsync : Server PubKey Ref) (c : HTTPClient) (author : Author PubKey)
    (body : GoString) (hdo : Honest crypto net lsync) (hurl : net.newRequest c.url = .ok ())
    (hauthor : crypto.RoundTrips author) :
    c.put crypto net author body =
      some ((lsync.put author body).mapError fun err => net.errorf (.ofString err)) := by
  obtain ⟨header, hreq, hsender⟩ := authoredRequest_sender crypto net "PUT" _ _ body hurl hauthor
  simp only [HTTPClient.put, hreq, hdo _, httpHandler, hsender, if_true]
  rcases lsync.put author body with err | ⟨⟩ <;> rfl

/-- A `put` through the loopback. -/
theorem put_httpHandler_loopback :
    (⟨"http://remote/logsync"⟩ : HTTPClient).put bytesCrypto loopback ⟨.ofString "alice", [7]⟩
        [1, 2, 3] =
      some ((emptyServer.put ⟨.ofString "alice", [7]⟩ [1, 2, 3]).mapError
        fun err => loopback.errorf (.ofString err)) :=
  put_httpHandler bytesCrypto loopback emptyServer _ _ _ (fun _ => rfl) rfl ⟨_, rfl, rfl⟩

/-- **`del` succeeds exactly when the remote's does.** Over an honest
connection, a client whose author's key round-trips gets, for a ref, the result
of the remote parsing the `ref` it reads from the URL and deleting it for that
same author: success, or the error text of either step through `fmt.Errorf`. -/
theorem del_httpHandler (lsync : Server PubKey Ref) (c : HTTPClient) (author : Author PubKey)
    (ref : Ref) (hdo : Honest crypto net lsync) (hurl : net.newRequest (net.refURL c.url ref) = .ok ())
    (hauthor : crypto.RoundTrips author) :
    c.del crypto net author ref =
      some ((lsync.parseDatasetRef (lsync.formValue (net.refURL c.url ref)) >>=
        lsync.del author).mapError fun err => net.errorf (.ofString err)) := by
  obtain ⟨header, hreq, hsender⟩ := authoredRequest_sender crypto net "DELETE" _ _ [] hurl hauthor
  have hput : ¬"DELETE" = "PUT" := by decide
  have hget : ¬"DELETE" = "GET" := by decide
  simp only [HTTPClient.del, hreq, hdo _, httpHandler, hsender, hput, hget, if_false, if_true]
  rcases lsync.parseDatasetRef (lsync.formValue (net.refURL c.url ref)) with err | ref'
  · rfl
  · simp only [Except.ok_bind]
    rcases lsync.del author ref' with err | ⟨⟩ <;> rfl

/-- A `del` through the loopback, which the remote refuses. -/
theorem del_httpHandler_loopback :
    (⟨"http://remote/logsync"⟩ : HTTPClient).del bytesCrypto loopback ⟨.ofString "alice", [7]⟩
        "alice/cities" =
      some ((emptyServer.parseDatasetRef (emptyServer.formValue
          (loopback.refURL "http://remote/logsync" "alice/cities")) >>=
        emptyServer.del ⟨.ofString "alice", [7]⟩).mapError fun err => loopback.errorf (.ofString err)) :=
  del_httpHandler bytesCrypto loopback emptyServer _ _ _ (fun _ => rfl) rfl ⟨_, rfl, rfl⟩

/-- **`get` returns what the remote's does.** Over an honest connection, a
client whose author's key round-trips gets, for a ref, the receiver and bytes
of the remote's `get` for that same author, when each receiver's key
round-trips too; or the error text of the parse or the `get`. -/
theorem get_httpHandler (lsync : Server PubKey Ref) (c : HTTPClient) (author : Author PubKey)
    (ref : Ref) (hdo : Honest crypto net lsync) (hurl : net.newRequest (net.refURL c.url ref) = .ok ())
    (hauthor : crypto.RoundTrips author)
    (hreceiver : ∀ ref' receiver data, lsync.get author ref' = .ok (receiver, data) →
      crypto.RoundTrips receiver) :
    c.get crypto net author ref =
      ((lsync.parseDatasetRef (lsync.formValue (net.refURL c.url ref)) >>=
        lsync.get author).mapError fun err => net.errorf (.ofString err)).map
          fun r => some (r.1, .ok r.2) := by
  obtain ⟨header, hreq, hsender⟩ := authoredRequest_sender crypto net "GET" _ _ [] hurl hauthor
  have hput : ¬"GET" = "PUT" := by decide
  simp only [HTTPClient.get, hreq, hdo _, httpHandler, hsender, hput, if_false, if_true]
  rcases lsync.parseDatasetRef (lsync.formValue (net.refURL c.url ref)) with err | ref'
  · rfl
  · simp only [Except.ok_bind]
    rcases hget : lsync.get author ref' with err | ⟨receiver, data⟩
    · rfl
    · obtain ⟨b, hb, hpub⟩ := hreceiver ref' receiver data hget
      simp only [addAuthorHTTPHeaders_eq crypto _ receiver b hb]
      simp only [senderFromHTTPHeaders_encoded crypto _ b _ hpub]
      rfl

/-- A `get` through the loopback. -/
theorem get_httpHandler_loopback :
    (⟨"http://remote/logsync"⟩ : HTTPClient).get bytesCrypto loopback ⟨.ofString "alice", [7]⟩
        "alice/cities" =
      ((emptyServer.parseDatasetRef (emptyServer.formValue
          (loopback.refURL "http://remote/logsync" "alice/cities")) >>=
        emptyServer.get ⟨.ofString "alice", [7]⟩).mapError fun err => loopback.errorf (.ofString err)).map
          fun r => some (r.1, .ok r.2) :=
  get_httpHandler bytesCrypto loopback emptyServer _ _ _ (fun _ => rfl) rfl ⟨_, rfl, rfl⟩
    (fun _ _ _ h => by cases h; exact ⟨_, rfl, rfl⟩)

end Exchange

end Logsync

end Qri
