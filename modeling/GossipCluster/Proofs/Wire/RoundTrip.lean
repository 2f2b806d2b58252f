import GossipCluster.Proofs.Message.Contents
import GossipCluster.Proofs.View.Built
import GossipCluster.Proofs.Wire.Reads

namespace GossipCluster

-- A view as it comes out of its bytes.
def View.carried (v : View) : View :=
  let bound := min v.vectorBound Wire.maxLength
  { v with
    vectorBound := bound
    versions    := if bound = 0 then v.versions else v.versions.prune v.memberIds bound }

def Message.carried (m : Message) : Message := m.mapViews View.carried

-- A view that the wire leaves as it is.
structure View.Portable (v : View) : Prop where
  pruned : 0 < v.vectorBound → v.versions.prune v.memberIds v.vectorBound = v.versions
  bound  : v.vectorBound < UInt32.size

namespace View

variable {v : View}

theorem Portable.carried_eq (h : v.Portable) : v.carried = v := by
  have : min v.vectorBound Wire.maxLength = v.vectorBound :=
    Nat.min_eq_left <| Nat.le_sub_one_of_lt h.bound
  rw [carried, this]
  refine View.ext rfl rfl rfl rfl rfl rfl rfl ?_ rfl rfl
  dsimp only
  split
  case isTrue => rfl
  case isFalse pos => exact h.pruned (Nat.pos_of_ne_zero pos)

-- The counts are not read but counted anew, and come out the same.
theorem ofParts_eq_carried (h : v.Counted) :
    .ofParts v.id v.epoch v.timestamp v.members.rows v.versions v.protocolVersion
      (min v.vectorBound Wire.maxLength) = v.carried := by
  rw [ofParts, Table.ofList_rows]
  ext1
  case healthy => exact h.healthy.symm
  case unhealthy => exact h.unhealthy.symm
  case quorum => exact h.quorum.symm
  all_goals rfl

end View

namespace Wire.Reads

variable {m : Member} {v : View}

theorem status {s : Status} : Reads Read.status (Write.byte s.toByte) s := by
  intro bytes hw rest
  simp only [Read.status, bind, byte bytes hw rest, Status.ofByte?_toByte]
  rfl

theorem address {s : String} (h : s.utf8ByteSize ≤ Member.maxAddressBytes) :
    Reads Read.address (Write.text s) s := by
  intro bytes hw rest
  simp only [Read.address, bind, text bytes hw rest, if_neg (Nat.not_lt.mpr h)]
  rfl

theorem member : Reads Read.member (Write.member m) m := by
  rw [Write.member]
  split
  case isTrue => exact fun _ h => nomatch h
  case isFalse short =>
    refine body [_, _, _, _, _, _, _, _, _, _] [] ?_
    refine text.cons <| text.cons <| (address (Nat.not_lt.mp short)).cons ?_
    exact counter.cons <| counter.cons <| time.cons <| status.cons <| time.cons <| map.cons (map.last rfl)

-- A vector is read back if its entries have no faults; that they are few enough was seen to when it
-- was written.
theorem versions {versions : VersionVector} (h : versions.Faultless) :
    Reads Read.versions (Write.listOf "version vector" VersionVector.maxEntries
      (fun e => Write.all [Write.text e.1, Write.word 8 e.2]) versions.entries) versions := by
  have entry (e : String × Nat) (he : e ∈ versions.entries) :
      Reads (do return (← Read.text "version vector id", ← Read.word "version vector counter" 8))
        (Write.all [Write.text e.1, Write.word 8 e.2]) e := by
    have le := (VersionVector.entryFault?_eq_none_iff.mp <| h e he).2
    have : VersionVector.maxCounter < 256 ^ 8 := by decide
    exact text.cons ((word (by omega)).last rfl)
  intro bytes hw rest
  have few : versions.entries.length ≤ VersionVector.maxEntries := by
    have ⟨_, _, hl, _⟩ := Write.all_cons_eq_ok hw
    exact (Write.length_eq_ok hl).1
  have rebuilt : .ofList versions.entries = versions.counters := versions.counters.ofList_rows
  have ok := VersionVector.ofEntries_eq_ok h (by rw [rebuilt]; exact few)
  refine (listOf entry).bind_pure ?_ bytes hw rest
  rw [ok, rebuilt]
  rfl

theorem view (hc : v.Counted) (hv : v.versions.Faultless) :
    Reads Read.view (Write.view v) v.carried := by
  rw [← View.ofParts_eq_carried hc]
  refine body [_, _, _, _, _, _, _] [_, _, _] ?_
  refine (word v.protocolVersion.toNat_lt).cons <| text.cons <| counter.cons <| time.cons ?_
  refine (word (Nat.lt_of_le_of_lt (Nat.min_le_right ..) (by decide))).cons ?_
  refine (listOf fun _ _ => member).cons <| (versions hv).cons ?_
  rw [UInt16.ofNat_toNat]
  exact nil

-- What stands behind the view of a response.
theorem standing {inQuorum : Bool} {leader : Option String} :
    Reads (do
      let inQuorum ← Read.byte "in quorum"
      let leader ← Read.byte "leader presence"
      let leader ← if leader = 0 then pure none else some <$> Read.text "leader address"
      return .viewResponse v (inQuorum ≠ 0) leader)
    (Write.all [Write.byte (if inQuorum then 1 else 0), Write.optional Write.text leader])
    (Message.viewResponse v inQuorum leader) := by
  refine byte.cons ?_
  have quorum : ((if inQuorum then 1 else 0 : UInt8) ≠ 0) = inQuorum := by cases inQuorum <;> simp
  simp only [quorum]
  simp only [Bool.decide_eq_true]
  cases leader with
  | none => exact byte.last rfl
  | some s =>
    have : Reads (some <$> Read.text "leader address") (Write.text s) (some s) := text.bind_pure rfl
    exact single <| byte.cons (this.last rfl)

theorem viewResponse {inQuorum : Bool} {leader : Option String} (hc : v.Counted)
    (hv : v.versions.Faultless) :
    Reads Read.viewResponse
      (Write.all [Write.byte 1, Write.view v, Write.byte (if inQuorum then 1 else 0),
        Write.optional Write.text leader])
      (.viewResponse v.carried inQuorum leader) :=
  byte.cons <| (view hc hv).cons standing

theorem rejection {r : Rejection} : Reads Read.rejection (Write.rejection r) r := by
  refine byte.cons <| (listOf fun _ _ => text).cons ?_
  rw [RejectKind.ofByte_toByte]
  exact text.last rfl

theorem message {m : Message} (h : ∀ v ∈ m.views, v.Built) :
    Reads Read.message (encode m) m.carried := by
  cases m with
  | joinRequest joiner token => exact byte.cons <| member.cons (text.last rfl)
  | joinResponse v =>
    have built := h v (by simp [Message.views])
    exact byte.cons (view built.counted built.faultless |>.last rfl)
  | gossip v =>
    have built := h v (by simp [Message.views])
    exact byte.cons (view built.counted built.faultless |>.last rfl)
  | viewResponse v inQuorum leader =>
    have built := h v (by simp [Message.views])
    exact byte.cons (viewResponse built.counted built.faultless)
  | forceDown nodeId token => exact byte.cons <| text.cons (text.last rfl)
  | triggerBroadcast token => exact byte.cons (text.last rfl)
  | updateState state => exact byte.cons (map.last rfl)
  | rejected r => exact byte.cons (rejection.last rfl)
  | user payload => exact byte.cons (blob.last rfl)
  | viewRequest | leaveRequest | leaveAck | adminAck =>
    exact byte.bind_pure rfl

end Wire.Reads

namespace Wire

theorem decode_encode {m : Message} (h : ∀ v ∈ m.views, v.Built) {bytes : List UInt8}
    (hb : encode m = .ok bytes) :
    (∀ rest, decode (bytes ++ rest) = .ok m.carried) ∧
      ((∀ v ∈ m.views, v.Portable) → decode bytes = .ok m) := by
  have read (rest : List UInt8) : decode (bytes ++ rest) = .ok m.carried := by
    rw [decode, Reads.message h bytes hb rest]
    rfl
  refine ⟨read, fun portable => ?_⟩
  have : m.carried = m := Message.mapViews_eq_self fun v hv => (portable v hv).carried_eq
  simpa [this] using read []

-- A vector that counts a node of which the view has no member, under a bound of 33 bits.
theorem decode_encode_unpruned :
    ∃ v : View, v.Built ∧ v.carried ≠ v ∧ ∃ bytes, encode (.gossip v) = .ok bytes ∧
      decode (bytes ++ [0]) = .ok (.gossip v.carried) := by
  let start := (View.new "v" 5 4294967296).add (.starting "a" "c" "h:1" 7)
  obtain ⟨v, hv⟩ : ∃ v, start.incrementVersion "zz" = .ok v := ⟨_, rfl⟩
  have built : v.Built := .incrementVersion (.add _ (.new "v" 5 4294967296)) hv
  have changed : v.carried ≠ v := by
    obtain rfl : _ = v := by injection hv
    decide +kernel
  obtain ⟨bytes, hb⟩ : ∃ bytes, encode (.gossip v) = .ok bytes := by
    obtain rfl : _ = v := by injection hv
    exact ⟨_, rfl⟩
  exact ⟨v, built, changed, bytes, hb, (decode_encode (by simpa [Message.views] using built) hb).1 [0]⟩

end Wire

end GossipCluster
