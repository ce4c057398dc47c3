import Qri.P2p.Peers

/-!
Connecting to a peer and what the node knows of its connections, in the file
the sources keep as `repo/mem_repo_test.go`: `QriNode.ConnectToPeer`,
`DisconnectFromPeer`, `peerConnectionParamsToPeerInfo` and `getPeerInfo`
(lines 191-298), `peerDifference` (lines 129-141) and `ConnectedQriProfiles`
(lines 55-82).

`ConnectToPeer` connects, asks for the peer's profile, and then tests the
wrong error: the `err` of its first line, which is nil by then, since the later
checks each declare their own. So a call that gets this far reports that it
could not get the profile, found or not, and no call ever returns one.

`DisconnectFromPeer` closes the connections to the peer the parameters name,
stopping at the first that fails, whose error it returns
(`disconnectFromPeer_spec`).
`peerDifference` is the filter of its first list by the second
(`peerDifference_eq_filter`). `ConnectedQriProfiles` maps the profile of each
connected peer to its pod, online and with the address of the connection, or
returns nil as soon as one address does not parse
(`connectedQriProfiles_spec`).

What the functions call beyond the node's own code, in libp2p, the profile
store, the qri service and `fmt`, is a field of `Services`; a Go error is its
text. Closing a connection and clearing the dial backoff change the host, which
the model does not keep: it keeps what each function returns.
-/

set_option autoImplicit false

namespace Qri

namespace P2p

/-! ## Model -/

/-- `peer.AddrInfo`: a peer and its network addresses. -/
structure AddrInfo (Multiaddr : Type) where
  id : PeerID
  addrs : List Multiaddr

/-- `PeerConnectionParams`; `multiaddr` is `none` for a nil `ma.Multiaddr`. -/
structure PeerConnectionParams (Multiaddr : Type) where
  peername : String
  profileID : PeerID
  peerID : PeerID
  multiaddr : Option Multiaddr

/-- A `config.ProfilePod`, by the two fields `ConnectedQriProfiles` sets; `rest`
is what `Encode` fills in. -/
structure ProfilePod (Rest : Type) where
  rest : Rest
  online : Bool
  networkAddrs : List String

/-- The calls these functions make outside the sources. -/
structure Services (Profile Rest Multiaddr : Type) where
  /-- `toPeerInfos`: the peers of a list of multiaddrs. -/
  toPeerInfos : List Multiaddr → List (AddrInfo Multiaddr)
  /-- `host.Peerstore().PeerInfo(pid)`; an unknown peer has an empty ID. -/
  peerInfo : PeerID → AddrInfo Multiaddr
  /-- `n.IPFS()` and then its routing table's `FindPeer`: the error of either. -/
  findPeer : PeerID → Except String (AddrInfo Multiaddr)
  /-- `Repo.Profiles().PeernameID`. -/
  peernameID : String → Except String PeerID
  /-- `Repo.Profiles().PeerIDs`, with its error text. -/
  peerIDs : PeerID → Except String (List PeerID)
  /-- `Repo.Profiles().PeerProfile`. -/
  peerProfile : PeerID → Except String Profile
  /-- A profile's `ID`. -/
  profileID : Profile → PeerID
  /-- `Profile.Encode()`. -/
  encode : Profile → Except String (ProfilePod Rest)
  /-- `host.Connect`. -/
  connect : AddrInfo Multiaddr → Except String Unit
  /-- `conn.Close()`. -/
  close : Conn → Except String Unit
  /-- `qis.QriProfileRequest`. -/
  qriProfileRequest : PeerID → Except String Unit
  /-- `qis.ConnectedPeerProfile`: nil when the profile is not found. -/
  connectedPeerProfile : PeerID → Option Profile
  /-- `ma.NewMultiaddr`. -/
  newMultiaddr : String → Except String Multiaddr
  /-- `conn.RemoteMultiaddr()`. -/
  remoteMultiaddr : Conn → Multiaddr
  /-- The text of one multiaddr encapsulating another. -/
  encapsulateString : Multiaddr → Multiaddr → String
  /-- A peer's text: in full (`Pretty()`), as a `profile.ID` for `%s`, and
  quoted for `%q`. -/
  pretty : PeerID → String
  profileIDString : PeerID → String
  quote : PeerID → String

section Connect

variable {Profile Rest Multiaddr : Type} (n : QriNode) (s : Services Profile Rest Multiaddr)

/-- `QriNode.getPeerInfo`: the peerstore's info, unless its ID is empty, then the
IPFS routing table's. `none` is the nil host dereferenced. -/
def getPeerInfo (pid : PeerID) : Option (Except String (AddrInfo Multiaddr)) :=
  n.host.map fun _ =>
    let pinfo := s.peerInfo pid
    if 0 < pinfo.id.utf8ByteSize then .ok pinfo else s.findPeer pid

/-- `QriNode.peerConnectionParamsToPeerInfo`: the multiaddr's peer, else the peer
ID's, else the first peer of the profile, named by ID or by peername. `none` is
a panic: the first of no peer infos, or the nil host. -/
def peerConnectionParamsToPeerInfo (p : PeerConnectionParams Multiaddr) :
    Option (Except String (AddrInfo Multiaddr)) :=
  match p.multiaddr with
  | some addr => (s.toPeerInfos [addr]).head?.map .ok
  | none =>
    if 0 < p.peerID.utf8ByteSize then getPeerInfo n s p.peerID
    else
      let proID := if p.profileID.utf8ByteSize = 0 ∧ p.peername ≠ "" then s.peernameID p.peername
        else .ok p.profileID
      match proID with
      | .error err => some (.error err)
      | .ok proID =>
        match s.peerIDs proID with
        | .error err => some (.error err)
        | .ok [] => some (.error ("no network info for " ++ s.profileIDString proID))
        | .ok (id :: _) => getPeerInfo n s id

/-- `QriNode.ConnectToPeer`. The last check reads `err`, the first line's error,
which is nil once the parameters resolved: the later checks shadow it. `none` is
a panic. -/
def connectToPeer (p : PeerConnectionParams Multiaddr) : Option (Except String (Option Profile)) :=
  match peerConnectionParamsToPeerInfo n s p with
  | none => none
  | some (.error err) => some (.error err)
  | some (.ok pinfo) =>
    let err : Option String := none
    -- `n.host.Network()`, to clear the dial backoff
    n.host.map fun _ =>
      match s.connect pinfo with
      | .error e => .error ("host connect " ++ s.pretty pinfo.id ++ " failure: " ++ e)
      | .ok () =>
        match s.qriProfileRequest pinfo.id with
        | .error e => .error ("error establishing qri connections: " ++ e)
        | .ok () =>
          let pro := s.connectedPeerProfile pinfo.id
          if err = none then .error ("unable to get profile from peer " ++ s.quote pinfo.id)
          else .ok pro

/-- The loop of `DisconnectFromPeer`: close each connection, returning the first
error. -/
def closeConns : List Conn → Except String Unit
  | [] => .ok ()
  | conn :: conns => s.close conn >>= fun _ => closeConns conns

/-- `QriNode.DisconnectFromPeer`. `none` is a panic. -/
def disconnectFromPeer (p : PeerConnectionParams Multiaddr) : Option (Except String Unit) :=
  match peerConnectionParamsToPeerInfo n s p with
  | none => none
  | some (.error err) => some (.error err)
  | some (.ok pinfo) => n.host.map fun h => closeConns s (h.connsToPeer pinfo.id)

/-- Fixture: a node with one connection to "B", whose profile is found. -/
def bNode : QriNode := ⟨true, some ⟨[⟨"A", "B"⟩], fun _ => none⟩, fun _ => none⟩

/-- Fixture: services under which every call succeeds, "B"'s profile being "B". -/
def bServices : Services String Unit String where
  toPeerInfos addrs := addrs.map fun a => ⟨a, [a]⟩
  peerInfo pid := ⟨pid, []⟩
  findPeer pid := .ok ⟨pid, []⟩
  peernameID name := .ok name
  peerIDs id := .ok [id]
  peerProfile pid := .ok pid
  profileID p := p
  encode _ := .ok ⟨(), false, []⟩
  connect _ := .ok ()
  close _ := .ok ()
  qriProfileRequest _ := .ok ()
  connectedPeerProfile pid := some pid
  newMultiaddr a := .ok a
  remoteMultiaddr c := "/ip4/" ++ c.remotePeer
  encapsulateString a b := a ++ b
  pretty pid := pid
  profileIDString pid := pid
  quote pid := "\"" ++ pid ++ "\""

/-! ## `DisconnectFromPeer` -/

/-- The loop closes every connection, or fails. -/
theorem closeConns_eq_ok (conns : List Conn) :
    closeConns s conns = .ok () ↔ ∀ c ∈ conns, s.close c = .ok () := by
  induction conns with
  | nil => simp [closeConns]
  | cons conn conns ih =>
    rw [closeConns, Except.bind_eq_ok, List.forall_mem_cons, ← ih]
    exact ⟨fun ⟨_, h₁, h₂⟩ => ⟨h₁, h₂⟩, fun ⟨h₁, h₂⟩ => ⟨(), h₁, h₂⟩⟩

/-- The loop fails with the error of the first connection that does not close,
in connection order. -/
theorem closeConns_eq_error (conns : List Conn) (e : String) :
    closeConns s conns = .error e ↔
      ∃ pre c post, conns = pre ++ c :: post ∧ (∀ c' ∈ pre, s.close c' = .ok ()) ∧
        s.close c = .error e := by
  induction conns with
  | nil => simp [closeConns]
  | cons conn conns ih =>
    rcases hc : s.close conn with e' | ⟨⟩
    · -- the first connection fails
      rw [closeConns, hc, Qri.Except.error_bind]
      constructor
      · rintro ⟨⟩
        exact ⟨[], conn, conns, rfl, List.forall_mem_nil _, hc⟩
      · rintro ⟨pre, c, post, heq, hpre, hcl⟩
        cases pre with
        | nil => cases heq; rw [hc] at hcl; exact hcl
        | cons c₀ pre => cases heq; rw [hpre conn (.head _)] at hc; cases hc
    · -- it closes, and the rest decide
      rw [closeConns, hc, Qri.Except.ok_bind, ih]
      constructor
      · rintro ⟨pre, c, post, rfl, hpre, hcl⟩
        exact ⟨conn :: pre, c, post, rfl, List.forall_mem_cons.2 ⟨hc, hpre⟩, hcl⟩
      · rintro ⟨pre, c, post, heq, hpre, hcl⟩
        cases pre with
        | nil => cases heq; rw [hc] at hcl; cases hcl
        | cons c₀ pre => cases heq; exact ⟨pre, c, post, rfl, fun c' h => hpre c' (.tail _ h), hcl⟩

/-- **What `DisconnectFromPeer` returns.** It succeeds exactly when the
parameters name a peer and every connection to it closes. It fails with an
error exactly when the parameters do, or when they name a peer and a connection
to it does not close: the error is then that of the first such connection, in
the host's order, every one before it having closed. -/
theorem disconnectFromPeer_spec (p : PeerConnectionParams Multiaddr) :
    (disconnectFromPeer n s p = some (.ok ()) ↔
      ∃ pinfo h, peerConnectionParamsToPeerInfo n s p = some (.ok pinfo) ∧ n.host = some h ∧
        ∀ c ∈ h.conns, c.remotePeer = pinfo.id → s.close c = .ok ()) ∧
    ∀ e, disconnectFromPeer n s p = some (.error e) ↔
      peerConnectionParamsToPeerInfo n s p = some (.error e) ∨
      ∃ pinfo h, peerConnectionParamsToPeerInfo n s p = some (.ok pinfo) ∧ n.host = some h ∧
        ∃ pre c post, h.connsToPeer pinfo.id = pre ++ c :: post ∧
          (∀ c' ∈ pre, s.close c' = .ok ()) ∧ s.close c = .error e := by
  unfold disconnectFromPeer
  rcases peerConnectionParamsToPeerInfo n s p with _ | err | pinfo
  · simp
  · simp
  · cases n.host with
    | none => simp
    | some h =>
      simp only [Option.map_some', Option.some.injEq, closeConns_eq_ok, closeConns_eq_error,
        mem_connsToPeer, and_imp, reduceCtorEq, false_or, exists_and_left, exists_eq_left',
        true_and]
      exact ⟨⟨fun hc => ⟨pinfo, rfl, hc⟩, fun ⟨_, he, hc⟩ => by cases he; exact hc⟩,
        fun e => ⟨fun hc => ⟨pinfo, rfl, hc⟩, fun ⟨_, he, hc⟩ => by cases he; exact hc⟩⟩

end Connect

/-! ## `peerDifference` -/

section Difference

/-- `peerDifference`: the keys of `b` go into a map, then each peer of `a` not in
it is appended. -/
def peerDifference (a b : List PeerID) : List PeerID :=
  let m := b.foldl (fun m bid => bid :: m) []
  a.foldl (fun diff aid => if aid ∈ m then diff else diff ++ [aid]) []

theorem mem_foldl_cons (b m : List PeerID) (k : PeerID) :
    k ∈ b.foldl (fun m bid => bid :: m) m ↔ k ∈ b ∨ k ∈ m := by
  induction b generalizing m with
  | nil => simp
  | cons bid b ih => simp only [List.foldl_cons, ih, List.mem_cons, or_assoc, or_left_comm]

theorem foldl_append_filter (m a diff : List PeerID) :
    a.foldl (fun diff aid => if aid ∈ m then diff else diff ++ [aid]) diff =
      diff ++ a.filter fun aid => aid ∉ m := by
  induction a generalizing diff with
  | nil => simp
  | cons aid a ih => by_cases h : aid ∈ m <;> simp [h, ih]

/-- **`peerDifference` is the peers of `a` not in `b`**, in `a`'s order and
with `a`'s repeats. -/
theorem peerDifference_eq_filter (a b : List PeerID) :
    peerDifference a b = a.filter fun aid => aid ∉ b := by
  simp only [peerDifference, foldl_append_filter, List.nil_append, mem_foldl_cons,
    List.not_mem_nil, or_false]

end Difference

/-! ## `ConnectedQriProfiles` -/

section Profiles

variable {Profile Rest Multiaddr : Type} (s : Services Profile Rest Multiaddr)

/-- `m[id] = v` on a Go map, kept as its entries. -/
def mapSet {V : Type} (m : List (PeerID × V)) (id : PeerID) (v : V) : List (PeerID × V) :=
  (id, v) :: m.filter fun e => e.1 != id

/-- The pod `ConnectedQriProfiles` keeps for connection `conn`: the encoded
profile `pe`, marked online, with the connection's address. -/
def connectedPod (conn : Conn) (pe : ProfilePod Rest) (hostAddr : Multiaddr) : ProfilePod Rest :=
  { pe with online := true, networkAddrs := [s.encapsulateString (s.remoteMultiaddr conn) hostAddr] }

/-- The loop of `ConnectedQriProfiles` over the connections. `none` is the nil
map it returns when an address does not parse. -/
def connectedQriProfilesLoop :
    List Conn → List (PeerID × ProfilePod Rest) → Option (List (PeerID × ProfilePod Rest))
  | [], peers => some peers
  | conn :: conns, peers =>
    match s.peerProfile conn.remotePeer with
    | .error _ => connectedQriProfilesLoop conns peers
    | .ok p =>
      match s.encode p with
      | .error _ => connectedQriProfilesLoop conns peers
      | .ok pe =>
        match s.newMultiaddr ("/p2p/" ++ s.pretty conn.remotePeer) with
        | .error _ => none
        | .ok hostAddr =>
          connectedQriProfilesLoop conns (mapSet peers (s.profileID p) (connectedPod s conn pe hostAddr))

/-- `QriNode.ConnectedQriProfiles`. -/
def connectedQriProfiles (n : QriNode) : Option (List (PeerID × ProfilePod Rest)) :=
  match n.host with
  | none => some []
  | some h => connectedQriProfilesLoop s h.conns []

/-- The pod of `id` made from connection `c`: its profile's encoding, online,
with the connection's address. -/
def PodOf (c : Conn) (id : PeerID) (pod : ProfilePod Rest) : Prop :=
  ∃ p pe hostAddr, s.peerProfile c.remotePeer = .ok p ∧ s.profileID p = id ∧ s.encode p = .ok pe ∧
    s.newMultiaddr ("/p2p/" ++ s.pretty c.remotePeer) = .ok hostAddr ∧ pod = connectedPod s c pe hostAddr

/-- A connection whose peer's profile encodes, under that profile's ID. -/
def Encodes (c : Conn) (id : PeerID) : Prop :=
  ∃ p pe, s.peerProfile c.remotePeer = .ok p ∧ s.encode p = .ok pe ∧ s.profileID p = id

theorem mem_mapSet {V : Type} (m : List (PeerID × V)) (id : PeerID) (v : V) (e : PeerID × V) :
    e ∈ mapSet m id v ↔ e = (id, v) ∨ e ∈ m ∧ e.1 ≠ id := by
  simp [mapSet]

theorem mem_keys_mapSet {V : Type} (m : List (PeerID × V)) (id k : PeerID) (v : V) :
    k ∈ (mapSet m id v).map Prod.fst ↔ k = id ∨ k ∈ m.map Prod.fst := by
  simp only [List.mem_map, mem_mapSet]
  constructor
  · rintro ⟨e, rfl | ⟨he, -⟩, rfl⟩
    · exact .inl rfl
    · exact .inr ⟨e, he, rfl⟩
  · rintro (rfl | ⟨e, he, rfl⟩)
    · exact ⟨_, .inl rfl, rfl⟩
    · by_cases hk : e.1 = id
      · exact ⟨_, .inl rfl, hk.symm⟩
      · exact ⟨e, .inr ⟨he, hk⟩, rfl⟩

theorem nodup_keys_mapSet {V : Type} (m : List (PeerID × V)) (id : PeerID) (v : V)
    (hm : (m.map Prod.fst).Nodup) : ((mapSet m id v).map Prod.fst).Nodup := by
  rw [mapSet, List.map_cons, List.nodup_cons]
  exact ⟨by simp, hm.sublist ((List.filter_sublist m).map Prod.fst)⟩

/-- What one turn of the loop does: skip a connection whose peer's profile does
not encode, return nil, or store the connection's pod under its profile's ID. -/
theorem connectedQriProfilesLoop_cons (conn : Conn) (conns : List Conn)
    (peers : List (PeerID × ProfilePod Rest)) :
    (connectedQriProfilesLoop s (conn :: conns) peers = connectedQriProfilesLoop s conns peers ∧
      ∀ k, ¬ Encodes s conn k) ∨
    connectedQriProfilesLoop s (conn :: conns) peers = none ∨
    ∃ k pod, connectedQriProfilesLoop s (conn :: conns) peers =
        connectedQriProfilesLoop s conns (mapSet peers k pod) ∧
      PodOf s conn k pod ∧ ∀ k', Encodes s conn k' ↔ k' = k := by
  rcases hp : s.peerProfile conn.remotePeer with err | p
  · refine .inl ⟨by simp only [connectedQriProfilesLoop, hp], fun k ⟨_, _, h, _⟩ => ?_⟩
    rw [hp] at h
    cases h
  rcases he : s.encode p with err | pe
  · refine .inl ⟨by simp only [connectedQriProfilesLoop, hp, he], fun k ⟨_, _, h, h', _⟩ => ?_⟩
    rw [hp, Except.ok.injEq] at h
    subst h
    rw [he] at h'
    cases h'
  rcases ha : s.newMultiaddr ("/p2p/" ++ s.pretty conn.remotePeer) with err | hostAddr
  · exact .inr (.inl (by simp only [connectedQriProfilesLoop, hp, he, ha]))
  · refine .inr (.inr ⟨_, _, by simp only [connectedQriProfilesLoop, hp, he, ha],
      ⟨p, pe, hostAddr, hp, rfl, he, ha, rfl⟩, fun k => ⟨fun ⟨_, _, h, _, hk⟩ => ?_,
        fun hk => ⟨p, pe, hp, he, hk.symm⟩⟩⟩)
    rw [hp, Except.ok.injEq] at h
    exact h ▸ hk.symm

/-- **The loop builds a map of the connections' pods.** Unless it returns nil,
its keys are the given map's and those of the connections whose profile
encodes, each once, and each new pod is made from a connection. -/
theorem connectedQriProfilesLoop_spec (conns : List Conn) :
    ∀ (peers out : List (PeerID × ProfilePod Rest)),
      connectedQriProfilesLoop s conns peers = some out → (peers.map Prod.fst).Nodup →
      (out.map Prod.fst).Nodup ∧
        (∀ e ∈ out, e ∈ peers ∨ ∃ c ∈ conns, PodOf s c e.1 e.2) ∧
        ∀ k, k ∈ out.map Prod.fst ↔ k ∈ peers.map Prod.fst ∨ ∃ c ∈ conns, Encodes s c k := by
  induction conns with
  | nil =>
    intro peers out hloop hnd
    cases hloop
    exact ⟨hnd, fun e he => .inl he, fun k => (or_iff_left fun ⟨_, hc, _⟩ => List.not_mem_nil _ hc).symm⟩
  | cons conn conns ih =>
    intro peers out hloop hnd
    rcases connectedQriProfilesLoop_cons s conn conns peers with
      ⟨hstep, hskip⟩ | hnil | ⟨k, pod, hstep, hpod, henc⟩
    · -- a connection whose profile does not encode is skipped
      obtain ⟨hnd', hmem, hkeys⟩ := ih peers out (hstep.symm.trans hloop) hnd
      refine ⟨hnd', fun e he => (hmem e he).imp_right fun ⟨c, hc, h⟩ =>
        ⟨c, List.mem_cons_of_mem _ hc, h⟩, fun k' => ?_⟩
      simp only [hkeys, List.mem_cons, exists_eq_or_imp, hskip, false_or]
    · rw [hnil] at hloop
      cases hloop
    · -- the pod goes into the map under the profile's ID
      obtain ⟨hnd', hmem, hkeys⟩ := ih _ out (hstep.symm.trans hloop) (nodup_keys_mapSet _ _ _ hnd)
      refine ⟨hnd', fun e he => ?_, fun k' => ?_⟩
      · rcases hmem e he with h | ⟨c, hc, h⟩
        · rcases (mem_mapSet _ _ _ e).1 h with rfl | ⟨h, -⟩
          · exact .inr ⟨conn, List.mem_cons_self _ _, hpod⟩
          · exact .inl h
        · exact .inr ⟨c, List.mem_cons_of_mem _ hc, h⟩
      · simp only [hkeys, mem_keys_mapSet, List.mem_cons, exists_eq_or_imp, henc, or_assoc,
          or_left_comm]

/-- **What `ConnectedQriProfiles` returns.** Unless it returns nil, a map with
each key once, whose every pod is made from a connection of the host: the
encoding of the connected peer's profile under its ID, marked online, with the
connection's address; and every connected peer whose profile encodes has its
profile's ID among the keys. -/
theorem connectedQriProfiles_spec (n : QriNode) (peers : List (PeerID × ProfilePod Rest))
    (hres : connectedQriProfiles s n = some peers) :
    (peers.map Prod.fst).Nodup ∧
      (∀ e ∈ peers, ∃ h, n.host = some h ∧ ∃ c ∈ h.conns, PodOf s c e.1 e.2) ∧
      ∀ h, n.host = some h → ∀ c ∈ h.conns, ∀ k, Encodes s c k → k ∈ peers.map Prod.fst := by
  unfold connectedQriProfiles at hres
  cases hh : n.host with
  | none =>
    rw [hh, Option.some.injEq] at hres
    subst hres
    simp
  | some h =>
    rw [hh] at hres
    obtain ⟨hnd, hmem, hkeys⟩ := connectedQriProfilesLoop_spec s h.conns [] peers hres List.nodup_nil
    refine ⟨hnd, fun e he => ⟨h, rfl, by simpa using hmem e he⟩, fun h' hh' c hc k hk => ?_⟩
    obtain rfl : h' = h := Option.some.inj hh'.symm
    exact (hkeys k).2 (.inr ⟨c, hc, hk⟩)

/-- The node's one connection, to "B", gives "B"'s pod, online, with the
connection's address. -/
theorem connectedQriProfiles_spec_bNode :
    connectedQriProfiles bServices bNode = some [("B", ⟨(), true, ["/ip4/B/p2p/B"]⟩)] ∧
    ([("B", (⟨(), true, ["/ip4/B/p2p/B"]⟩ : ProfilePod Unit))].map Prod.fst).Nodup ∧
      (∀ e ∈ [("B", (⟨(), true, ["/ip4/B/p2p/B"]⟩ : ProfilePod Unit))],
        ∃ h, bNode.host = some h ∧ ∃ c ∈ h.conns, PodOf bServices c e.1 e.2) ∧
      ∀ h, bNode.host = some h → ∀ c ∈ h.conns, ∀ k, Encodes bServices c k →
        k ∈ [("B", (⟨(), true, ["/ip4/B/p2p/B"]⟩ : ProfilePod Unit))].map Prod.fst :=
  ⟨rfl, connectedQriProfiles_spec bServices bNode _ rfl⟩

end Profiles

end P2p

end Qri
