import Backplane.Rpc.Bucket
import Mathlib.Logic.ExistsUnique

namespace Backplane.Rpc.Bucket

/-- Who a call is counted as, and by which part of it. -/
inductive Identity
  | user (name : String)
  | token (start : List Char)
  | address (text : String)
  | nobody

namespace Identity

def write : Identity → String
  | user name => "user:" ++ name
  | token start => "token:" ++ String.ofList start
  | address text => "ip:" ++ text
  | nobody => "unknown"

/-- Identities are told from what is written of them. -/
theorem write_injective {first second : Identity} (same : first.write = second.write) :
    first = second := by
  cases first <;> cases second <;>
    simp_all [write, ← String.toList_inj]

end Identity

/-- The address of a caller: that of the other end, else the first that the call was forwarded for,
else the one that headers give as real. -/
def addressOf? (call : Call) : Option String :=
  (call.metadata.peer.map Peer.address).or <|
    (forwarded? call.headers).or <| (call.headers.text? "x-real-ip").map Text.trim

/-- Who a call is counted as. Each part of it counts only where those in front tell nothing. -/
inductive Identifies (call : Call) : Identity → Prop
  | user {name : String} (named : call.headers.text? "user-id" = some name) :
      Identifies call (.user name)
  | token {token : String} (unnamed : call.headers.text? "user-id" = none)
      (given : call.headers.text? "authorization" = some token) :
      Identifies call (.token (token.toList.take tokenLength))
  | address {address : String} (unnamed : call.headers.text? "user-id" = none)
      (missing : call.headers.text? "authorization" = none)
      (found : addressOf? call = some address) : Identifies call (.address address)
  | nobody (unnamed : call.headers.text? "user-id" = none)
      (missing : call.headers.text? "authorization" = none)
      (unknown : addressOf? call = none) : Identifies call .nobody

variable {call : Call} {identity : Identity}

/-- The bucket of a peer is its address, or stands for nobody. -/
theorem ofPeer_eq (call : Call) :
    ofPeer call = ((addressOf? call).elim Identity.nobody .address).write := by
  rw [ofPeer, addressOf?]
  cases call.metadata.peer with
  | some peer => rfl
  | none =>
      cases forwarded? call.headers with
      | some address => rfl
      | none => cases call.headers.text? "x-real-ip" <;> rfl

/-- The bucket of a user is the identity that counts. -/
theorem Identifies.ofUser_eq (identifies : Identifies call identity) :
    ofUser call = identity.write := by
  cases identifies with
  | user named => simp only [ofUser, named, Identity.write]
  | token unnamed given => simp only [ofUser, unnamed, given, Identity.write]
  | address unnamed missing found | nobody unnamed missing found =>
      simp only [ofUser, unnamed, missing, ofPeer_eq, found, Option.elim]

/-- Every call has an identity. -/
theorem exists_identifies (call : Call) : ∃ identity, Identifies call identity := by
  cases named : call.headers.text? "user-id" with
  | some name => exact ⟨_, .user named⟩
  | none =>
      cases given : call.headers.text? "authorization" with
      | some token => exact ⟨_, .token named given⟩
      | none =>
          cases found : addressOf? call with
          | some address => exact ⟨_, .address named given found⟩
          | none => exact ⟨_, .nobody named given found⟩

/-- Over a connection that knows its peer, the headers make no difference. -/
theorem ofPeer_over {connection : Connection} {peer : Peer} (known : connection.peer? = some peer)
    (call : Call) : ofPeer (call.over connection) = "ip:" ++ peer.address := by
  have found : (call.over connection).metadata.peer = some peer := known
  simp only [ofPeer, found]

/-- Each call counts as one identity: a user, a token, an address or nobody. Two calls count against
the same bucket exactly if they count as the same identity. Where the other end of the connection is
known, the bucket of the address follows from its address alone. -/
theorem buckets_tell_callers_apart :
    (∀ call : Call, ∃! identity, Identifies call identity) ∧
    (∀ call other : Call, ofUser call = ofUser other ↔
      ∃ identity, Identifies call identity ∧ Identifies other identity) ∧
    ∀ (connection beside : Connection) (peer neighbour : Peer) (call other : Call),
      connection.peer? = some peer → beside.peer? = some neighbour →
        (ofPeer (call.over connection) = ofPeer (other.over beside) ↔
          peer.address = neighbour.address) := by
  refine ⟨fun call => ?_, fun call other => ⟨fun same => ?_, ?_⟩, ?_⟩
  · obtain ⟨identity, identifies⟩ := exists_identifies call
    refine ⟨identity, identifies, fun another also => Identity.write_injective ?_⟩
    rw [← also.ofUser_eq, identifies.ofUser_eq]
  · obtain ⟨identity, identifies⟩ := exists_identifies call
    obtain ⟨another, also⟩ := exists_identifies other
    rw [identifies.ofUser_eq, also.ofUser_eq] at same
    exact ⟨identity, identifies, Identity.write_injective same ▸ also⟩
  · rintro ⟨identity, identifies, also⟩
    rw [identifies.ofUser_eq, also.ofUser_eq]
  · intro connection beside peer neighbour call other known near
    rw [ofPeer_over known, ofPeer_over near]
    simp [← String.toList_inj]

/-- A call that claims to be forwarded for another address. -/
def forged : Call :=
  { target := "/users.Users/Get"
    metadata := { headers := [("x-forwarded-for", Headers.bytes "1.1.1.1")] } }

/-- A plain connection whose other end is unknown, and a secured one. -/
def secured : Connection := { plain := some none, secured := some (some ⟨"10.0.0.5", 4242⟩) }

/-- A plain connection from the same address. -/
def plain : Connection := { plain := some (some ⟨"10.0.0.5", 80⟩) }

/-- A forged header over a connection that knows its peer. -/
theorem buckets_tell_callers_apart_forged :
    secured.peer? = some ⟨"10.0.0.5", 4242⟩ ∧ plain.peer? = some ⟨"10.0.0.5", 80⟩ ∧
      ofPeer (forged.over secured) = ofPeer (Call.over { target := "/" } plain) := by
  have known : secured.peer? = some ⟨"10.0.0.5", 4242⟩ := rfl
  have near : plain.peer? = some ⟨"10.0.0.5", 80⟩ := rfl
  refine ⟨known, near, ?_⟩
  exact (buckets_tell_callers_apart.2.2 _ _ _ _ forged { target := "/" } known near).mpr rfl

end Backplane.Rpc.Bucket
