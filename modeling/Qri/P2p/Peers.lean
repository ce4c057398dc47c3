import Qri.Go.Basic
import Mathlib.Data.List.Basic

/-!
Peer lists of the qri p2p node: `QriNode.ClosestConnectedQriPeers` and
`QriNode.Peers` (package `p2p`, in the file the sources keep as
`repo/mem_repo_test.go`, lines 85-172).

`ClosestConnectedQriPeers` first keeps the profile's peers that have an open
connection, all of them and in the profile store's order, whatever `max` is.
Only when none is connected does it fall back to the connections, taking the
remote peer of each one whose peer supports the qri protocol, and stopping once
it has `max`. Neither loop looks at what it already took, so both repeat a peer:
the first when the profile store lists it twice, the second when it has two
connections (`closestConnectedQriPeers_over_max_and_repeated`). What does hold
is that every peer returned has an open connection, that connected profile
peers are preferred, and that the fallback keeps to `max`
(`closestConnectedQriPeers_spec`).

`Peers` is documented as the connected peers, but collects the local end of
every connection, the node's own ID (`peers_returns_local_peer`): it returns
the distinct local peers, each once (`peers_spec`).

The host keeps what the two functions read: the open connections, each with its
two ends, and the peerstore's answer to `SupportsProtocols(peer,
depQriProtocolID)` (the constant is defined outside the sources), `none` for an
error. The profile store is its answer to `PeerIDs`.
-/

set_option autoImplicit false

namespace Qri

namespace P2p

/-! ## Model -/

/-- `peer.ID`, a Go string; `profile.ID` is the same type. -/
abbrev PeerID := String

/-- A libp2p connection, by its two ends. -/
structure Conn where
  localPeer : PeerID
  remotePeer : PeerID
deriving Repr, DecidableEq

/-- The node's libp2p host. -/
structure Host where
  /-- `Network().Conns()`. -/
  conns : List Conn
  /-- `Peerstore().SupportsProtocols(peer, depQriProtocolID)`; `none` is an error. -/
  supportsQriProtocol : PeerID → Option (List String)

/-- `Network().ConnsToPeer(p)`: the connections whose remote end is `p`. -/
def Host.connsToPeer (h : Host) (p : PeerID) : List Conn :=
  h.conns.filter fun c => c.remotePeer == p

/-- `QriNode`, with the fields the two functions read. -/
structure QriNode where
  online : Bool
  /-- `host`, a Go interface that may be nil. -/
  host : Option Host
  /-- `Repo.Profiles().PeerIDs(ctx, profileID)`; `none` is an error. -/
  profilePeerIDs : PeerID → Option (List PeerID)

/-- The fallback loop of `ClosestConnectedQriPeers` over the connections: the
remote peer of a connection whose peer supports the qri protocol is appended,
and the loop stops once `added >= max`. -/
def collectQriPeers (h : Host) (max : Int) : List Conn → List PeerID → Int → List PeerID
  | [], pid, _ => pid
  | conn :: conns, pid, added =>
    match h.supportsQriProtocol conn.remotePeer with
    | none => collectQriPeers h max conns pid added
    | some protocols =>
      if protocols.length ≠ 0 then
        if added + 1 ≥ max then pid ++ [conn.remotePeer]
        else collectQriPeers h max conns (pid ++ [conn.remotePeer]) (added + 1)
      else collectQriPeers h max conns pid added

/-- `QriNode.ClosestConnectedQriPeers`; `none` is the nil `host` dereferenced,
which an online node without a host reaches in whichever loop runs. -/
def closestConnectedQriPeers (n : QriNode) (profileID : PeerID) (max : Int) :
    Option (List PeerID) :=
  if !n.online then some []
  else match n.host with
    | none => none
    | some h =>
      let pid := match n.profilePeerIDs profileID with
        | some peerIDs => peerIDs.filter fun peerID => 0 < (h.connsToPeer peerID).length
        | none => []
      some (if pid.length = 0 then collectQriPeers h max h.conns pid 0 else pid)

/-- The loop of `Peers`: each connection's local peer, skipped when `seen`. -/
def peersLoop : List Conn → List PeerID → List PeerID → List PeerID
  | [], _, peers => peers
  | c :: cs, seen, peers =>
    if c.localPeer ∈ seen then peersLoop cs seen peers
    else peersLoop cs (c.localPeer :: seen) (peers ++ [c.localPeer])

/-- `QriNode.Peers`. -/
def peers (n : QriNode) : List PeerID :=
  match n.host with
  | none => []
  | some h => peersLoop h.conns [] []

/-! ## `ClosestConnectedQriPeers` -/

section Closest

variable (h : Host) (max : Int)

/-- A peer the fallback takes: the remote end of a connection, supporting the
qri protocol. -/
def QriConnected (p : PeerID) : Prop :=
  (∃ c ∈ h.conns, c.remotePeer = p) ∧
    ∃ protocols, h.supportsQriProtocol p = some protocols ∧ protocols ≠ []

theorem mem_connsToPeer {p : PeerID} {c : Conn} :
    c ∈ h.connsToPeer p ↔ c ∈ h.conns ∧ c.remotePeer = p := by
  simp [Host.connsToPeer]

/-- The first loop keeps the peers with a connection. -/
theorem mem_filter_connected (p : PeerID) (l : List PeerID) :
    p ∈ l.filter (fun peerID => 0 < (h.connsToPeer peerID).length) ↔
      p ∈ l ∧ ∃ c ∈ h.conns, c.remotePeer = p := by
  rw [List.mem_filter, decide_eq_true_iff, List.length_pos_iff_exists_mem]
  simp only [mem_connsToPeer h]

/-- The fallback loop, from a list shorter than `max` and counted by `added`,
stays within `max` and only adds peers the fallback may take. -/
theorem collectQriPeers_spec (conns : List Conn) (hconns : ∀ c ∈ conns, c ∈ h.conns) :
    ∀ pid : List PeerID, (pid.length : Int) < max →
      (collectQriPeers h max conns pid pid.length).length ≤ max ∧
      ∀ p ∈ collectQriPeers h max conns pid pid.length, p ∈ pid ∨ QriConnected h p := by
  induction conns with
  | nil => exact fun pid hlt => ⟨hlt.le, fun p hp => .inl hp⟩
  | cons conn conns ih =>
    intro pid hlt
    have ih' := ih fun c hc => hconns c (List.mem_cons_of_mem _ hc)
    have htake : ∀ protocols, h.supportsQriProtocol conn.remotePeer = some protocols →
        protocols.length ≠ 0 → QriConnected h conn.remotePeer := fun protocols hs hne =>
      ⟨⟨conn, hconns conn (List.mem_cons_self _ _), rfl⟩, protocols, hs,
        fun he => hne (by simp [he])⟩
    cases hs : h.supportsQriProtocol conn.remotePeer with
    | none => simpa only [collectQriPeers, hs] using ih' pid hlt
    | some protocols =>
      by_cases hne : protocols.length ≠ 0
      · by_cases hstop : (pid.length : Int) + 1 ≥ max
        · simp only [collectQriPeers, hs, hne, hstop, if_true, ne_eq, not_false_eq_true]
          refine ⟨by simp; omega, fun p hp => ?_⟩
          rcases List.mem_append.1 hp with hp | hp
          · exact .inl hp
          · exact .inr (List.mem_singleton.1 hp ▸ htake protocols hs hne)
        · have hlen : ((pid ++ [conn.remotePeer]).length : Int) = pid.length + 1 := by simp
          obtain ⟨hle, hmem⟩ := ih' (pid ++ [conn.remotePeer]) (by omega)
          rw [hlen] at hle hmem
          simp only [collectQriPeers, hs, hne, hstop, if_false, ne_eq, not_false_eq_true, if_true]
          refine ⟨hle, fun p hp => ?_⟩
          rcases hmem p hp with hp | hp
          · rcases List.mem_append.1 hp with hp | hp
            · exact .inl hp
            · exact .inr (List.mem_singleton.1 hp ▸ htake protocols hs hne)
          · exact .inr hp
      · simpa only [collectQriPeers, hs, hne, if_false] using ih' pid hlt

/-- **What `ClosestConnectedQriPeers` returns.** For an online node with a host
and `max ≥ 1`: peers with an open connection; only the profile's own when one
of them is connected; otherwise at most `max`, each supporting the qri
protocol. -/
theorem closestConnectedQriPeers_spec (n : QriNode) (hhost : n.host = some h)
    (honline : n.online = true) (profileID : PeerID) (hmax : 1 ≤ max) :
    ∃ pids, closestConnectedQriPeers n profileID max = some pids ∧
      (∀ p ∈ pids, ∃ c ∈ h.conns, c.remotePeer = p) ∧
      ((∃ p ∈ (n.profilePeerIDs profileID).getD [], ∃ c ∈ h.conns, c.remotePeer = p) →
        ∀ p ∈ pids, p ∈ (n.profilePeerIDs profileID).getD []) ∧
      ((¬ ∃ p ∈ (n.profilePeerIDs profileID).getD [], ∃ c ∈ h.conns, c.remotePeer = p) →
        pids.length ≤ max ∧ ∀ p ∈ pids, QriConnected h p) := by
  -- the first loop keeps exactly the connected profile peers
  have hpid : (match n.profilePeerIDs profileID with
      | some peerIDs => peerIDs.filter fun peerID => 0 < (h.connsToPeer peerID).length
      | none => []) = ((n.profilePeerIDs profileID).getD []).filter
        fun peerID => 0 < (h.connsToPeer peerID).length := by
    cases n.profilePeerIDs profileID <;> rfl
  have hmemPid := fun p => mem_filter_connected h p ((n.profilePeerIDs profileID).getD [])
  simp only [closestConnectedQriPeers, honline, hhost, Bool.not_true, hpid]
  by_cases hempty : ((n.profilePeerIDs profileID).getD []).filter
      (fun peerID => 0 < (h.connsToPeer peerID).length) = []
  · -- no connected profile peer: the fallback from an empty list
    have hnone : ¬ ∃ p ∈ (n.profilePeerIDs profileID).getD [], ∃ c ∈ h.conns, c.remotePeer = p :=
      fun ⟨p, hp, hc⟩ => by simpa [hempty] using (hmemPid p).2 ⟨hp, hc⟩
    obtain ⟨hle, hmem⟩ := collectQriPeers_spec h max h.conns (fun _ hc => hc) [] (by simp; omega)
    have hqri : ∀ p ∈ collectQriPeers h max h.conns [] 0, QriConnected h p :=
      fun p hp => (hmem p (by simpa using hp)).resolve_left (List.not_mem_nil p)
    refine ⟨collectQriPeers h max h.conns [] 0, by simp [hempty], fun p hp => (hqri p hp).1,
      fun hsome => absurd hsome hnone, fun _ => ⟨by simpa using hle, hqri⟩⟩
  · -- the connected profile peers, whatever max is
    refine ⟨_, by simp [hempty], fun p hp => ((hmemPid p).1 hp).2, fun _ p hp => ((hmemPid p).1 hp).1,
      fun hnone => absurd ?_ hempty⟩
    exact List.eq_nil_iff_forall_not_mem.2 fun p hp => hnone ⟨p, (hmemPid p).1 hp⟩

/-- The theorem on a node whose profile has no connected peer, with a peer
reached twice and a peer without the qri protocol. -/
theorem closestConnectedQriPeers_spec_fallback :
    let h : Host := ⟨[⟨"A", "B"⟩, ⟨"A", "B"⟩, ⟨"A", "C"⟩],
      fun p => if p = "B" then some ["qri"] else some []⟩
    let n : QriNode := ⟨true, some h, fun _ => some ["D"]⟩
    n.host = some h ∧ n.online = true ∧ (1 : Int) ≤ 1 ∧
    ∃ pids, closestConnectedQriPeers n "P" 1 = some pids ∧
      (∀ p ∈ pids, ∃ c ∈ h.conns, c.remotePeer = p) ∧
      ((∃ p ∈ (n.profilePeerIDs "P").getD [], ∃ c ∈ h.conns, c.remotePeer = p) →
        ∀ p ∈ pids, p ∈ (n.profilePeerIDs "P").getD []) ∧
      ((¬ ∃ p ∈ (n.profilePeerIDs "P").getD [], ∃ c ∈ h.conns, c.remotePeer = p) →
        pids.length ≤ (1 : Int) ∧ ∀ p ∈ pids, QriConnected h p) := by
  intro h n
  exact ⟨rfl, rfl, le_refl _, closestConnectedQriPeers_spec h 1 n rfl rfl "P" (le_refl _)⟩

/-- Over `max`, and a peer twice: with `max = 1` and two connected profile
peers both are returned; in the fallback, two connections to one peer give it
twice. -/
theorem closestConnectedQriPeers_over_max_and_repeated :
    closestConnectedQriPeers ⟨true, some ⟨[⟨"A", "B"⟩, ⟨"A", "C"⟩], fun _ => none⟩,
      fun _ => some ["B", "C"]⟩ "P" 1 = some ["B", "C"] ∧
    closestConnectedQriPeers ⟨true, some ⟨[⟨"A", "B"⟩, ⟨"A", "B"⟩], fun _ => some ["qri"]⟩,
      fun _ => none⟩ "P" 2 = some ["B", "B"] := by
  decide

end Closest

/-! ## `Peers` -/

section Peers

/-- One turn of the loop keeps `peers` free of repeats and equal, as a set, to
`seen`. -/
theorem peersLoop_spec : ∀ (cs : List Conn) (seen peers : List PeerID), peers.Nodup →
    (∀ p, p ∈ seen ↔ p ∈ peers) →
    (peersLoop cs seen peers).Nodup ∧
      ∀ p, p ∈ peersLoop cs seen peers ↔ p ∈ peers ∨ ∃ c ∈ cs, c.localPeer = p
  | [], _, _, hnodup, _ => ⟨hnodup, by simp [peersLoop]⟩
  | c :: cs, seen, peers, hnodup, hseen => by
    by_cases hc : c.localPeer ∈ seen
    · -- a repeated peer is skipped
      obtain ⟨hnd, hmem⟩ := peersLoop_spec cs seen peers hnodup hseen
      simp only [peersLoop, hc, if_true]
      refine ⟨hnd, fun p => ?_⟩
      rw [hmem]
      constructor
      · rintro (hp | ⟨c', hc', rfl⟩)
        · exact .inl hp
        · exact .inr ⟨c', List.mem_cons_of_mem _ hc', rfl⟩
      · rintro (hp | ⟨c', hc', rfl⟩)
        · exact .inl hp
        · rcases List.mem_cons.1 hc' with rfl | hc'
          · exact .inl ((hseen _).1 hc)
          · exact .inr ⟨c', hc', rfl⟩
    · -- a new one is appended and remembered
      have hnew : c.localPeer ∉ peers := fun h => hc ((hseen _).2 h)
      obtain ⟨hnd, hmem⟩ := peersLoop_spec cs (c.localPeer :: seen) (peers ++ [c.localPeer])
        (List.nodup_append.2 ⟨hnodup, List.nodup_singleton _, by simpa using hnew⟩)
        (fun p => by simp [hseen p, or_comm])
      simp only [peersLoop, hc, if_false]
      refine ⟨hnd, fun p => ?_⟩
      rw [hmem, List.mem_append, List.mem_singleton, @eq_comm _ p]
      simp only [List.mem_cons, or_and_right, exists_or, exists_eq_left, or_assoc]

/-- **What `Peers` returns.** Every local peer of the node's connections, each
once, and nothing else. -/
theorem peers_spec (n : QriNode) :
    (peers n).Nodup ∧ ∀ p, p ∈ peers n ↔ ∃ h, n.host = some h ∧ ∃ c ∈ h.conns, c.localPeer = p := by
  cases hh : n.host with
  | none => simp [peers, hh]
  | some h =>
    obtain ⟨hnd, hmem⟩ := peersLoop_spec h.conns [] [] List.nodup_nil (fun _ => Iff.rfl)
    simp only [peers, hh]
    exact ⟨hnd, fun p => by simp [hmem]⟩

/-- Two connections of the node to `B` and `C` give its own ID, not `B` and `C`. -/
theorem peers_returns_local_peer :
    peers ⟨true, some ⟨[⟨"A", "B"⟩, ⟨"A", "C"⟩], fun _ => none⟩, fun _ => none⟩ = ["A"] := by
  decide

end Peers

end P2p

end Qri
