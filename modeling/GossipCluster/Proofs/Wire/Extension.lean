import GossipCluster.Proofs.Wire.RoundTrip

namespace GossipCluster

-- What comes out of the bytes of a view. Its counters have eight bytes each, and are looked over as they are read.
def View.received (v : View) : Except Error View :=
  let entries := v.versions.entries.map fun e => (e.1, e.2 % 256 ^ 8)
  ((VersionVector.ofEntries entries).mapError (.versionVector ·.message)).map fun versions =>
    .ofParts v.id v.epoch v.timestamp v.members.rows versions v.protocolVersion (min v.vectorBound Wire.maxLength)

def Message.received : Message → Except Error Message
  | joinResponse v => v.received.map joinResponse
  | gossip v => v.received.map gossip
  | viewResponse v inQuorum leader => v.received.map (viewResponse · inQuorum leader)
  | m => .ok m

namespace Wire

-- Bytes for the ends of the bodies. No member comes twice in a message, so each has bytes of its own.
structure Appendix where
  ofMember : Member → List UInt8
  ofView   : List UInt8

def Appendix.none : Appendix := ⟨fun _ => [], []⟩

namespace Write

def memberParts (m : Member) : List Written := [
  text m.id, text m.cluster, text m.address, counter m.generation, counter m.clock,
  time m.timestamp, byte m.status.toByte, time m.lastSeen, map m.labels, map m.state]

def viewParts (member : Member → Written) (v : View) : List Written := [
  word 2 v.protocolVersion.toNat, text v.id, counter v.epoch, time v.timestamp,
  word 4 (min v.vectorBound maxLength),
  listOf "members" maxMapEntries member v.members.rows,
  listOf "version vector" VersionVector.maxEntries (fun e => all [text e.1, word 8 e.2])
    v.versions.entries,
  word 4 v.healthy, word 4 v.unhealthy, word 4 v.quorum]

def memberWith (extra : Appendix) (m : Member) : Written :=
  if m.address.utf8ByteSize > Member.maxAddressBytes then .error addressTooLong
  else body "node state" (memberParts m ++ [.ok (extra.ofMember m)])

def viewWith (extra : Appendix) (v : View) : Written :=
  body "cluster view" (viewParts (memberWith extra) v ++ [.ok extra.ofView])

end Write

-- The encoding of a message whose members and views are written in another way.
def encodeBy (member : Member → Written) (view : View → Written) : Message → Written
  | .joinRequest m token => Write.all [Write.byte 1, member m, Write.text token]
  | .joinResponse v => Write.all [Write.byte 2, view v]
  | .gossip v => Write.all [Write.byte 3, view v]
  | .viewResponse v inQuorum leader => Write.all [
      Write.byte 5, Write.byte 1, view v, Write.byte (if inQuorum then 1 else 0),
      Write.optional Write.text leader]
  | m => encode m

def encodeWith (extra : Appendix) : Message → Written :=
  encodeBy (Write.memberWith extra) (Write.viewWith extra)

namespace Write

theorem all_append_nil (ws : List Written) : all (ws ++ [.ok []]) = all ws := by
  rw [all, all, List.mapM_append]
  cases ws.mapM id <;> simp [bind, Except.bind, Except.map, pure, Except.pure]

theorem body_append_nil (context : String) (ws : List Written) : body context (ws ++ [.ok []]) = body context ws := by
  rw [body, body, all_append_nil]

theorem memberWith_none : memberWith .none = member := by
  funext m
  rw [memberWith, Appendix.none, body_append_nil]
  rfl

theorem viewWith_none : viewWith .none = view := by
  funext v
  rw [viewWith, memberWith_none, Appendix.none, body_append_nil]
  rfl

end Write

-- A message that nothing is appended to.
theorem encodeWith_none (m : Message) : encodeWith .none m = encode m := by
  rw [encodeWith, Write.memberWith_none, Write.viewWith_none]
  cases m <;> rfl

theorem bigEndian_mod (width n : ℕ) : bigEndian width (n % 256 ^ width) = bigEndian width n := by
  induction width generalizing n with
  | zero => rfl
  | succ width ih =>
    have high : n % 256 ^ (width + 1) / 256 = n / 256 % 256 ^ width := by
      rw [Nat.pow_succ', Nat.mod_mul_right_div_self]
    have low : UInt8.ofNat (n % 256 ^ (width + 1)) = UInt8.ofNat n := by
      rw [Nat.pow_succ', UInt8.ofNat_eq_iff_mod_eq_toNat, UInt8.toNat_ofNat']
      exact Nat.mod_mul_right_mod ..
    rw [bigEndian, bigEndian, high, low, ih]

theorem Reads.memberWith (extra : Appendix) (m : Member) : Reads Read.member (Write.memberWith extra m) m := by
  rw [Write.memberWith]
  split
  case isTrue => exact fun _ h => nomatch h
  case isFalse short =>
    refine body (Write.memberParts m) _ ?_
    refine text.cons <| text.cons <| (address (Nat.not_lt.mp short)).cons ?_
    refine counter.cons <| counter.cons <| time.cons <| status.cons ?_
    exact time.cons <| map.cons (map.last rfl)

theorem Reads.plain {m : Message} (h : m.views = []) : Reads Read.message (encode m) m := by
  have same : m.carried = m := Message.mapViews_eq_self (by simp [h])
  have read : Reads Read.message (encode m) m.carried := message (by simp [h])
  rwa [same] at read

-- As `Reads`, where what has been written may be refused.
def Yields {α : Type} (r : Reader α) (w : Written) (outcome : Except Error α) : Prop :=
  ∀ bytes, w = .ok bytes → ∀ rest, r (bytes ++ rest) = outcome.map (·, rest)

namespace Yields

variable {α β : Type} {r : Reader α} {f : α → Reader β} {w : Written} {ws : List Written} {a : α}
  {context context' : String}

theorem of_reads (h : Reads r w a) : Yields r w (.ok a) := h

theorem cons {outcome : Except Error β} (h : Reads r w a) (hs : Yields (f a) (Write.all ws) outcome) :
    Yields (r >>= f) (Write.all (w :: ws)) outcome := by
  intro bytes hw rest
  have ⟨x, y, hx, hy, e⟩ := Write.all_cons_eq_ok hw
  simp only [bind, e, List.append_assoc, h x hx, hs y hy]

-- What has been refused is refused whatever comes after it.
theorem cons_map {outcome : Except Error α} {g : α → β} (h : Yields r w outcome)
    (hs : ∀ a, Reads (f a) (Write.all ws) (g a)) :
    Yields (r >>= f) (Write.all (w :: ws)) (outcome.map g) := by
  intro bytes hw rest
  have ⟨x, y, hx, hy, e⟩ := Write.all_cons_eq_ok hw
  simp only [bind, e, List.append_assoc, h x hx]
  cases outcome with
  | error => rfl
  | ok a => exact hs a y hy rest

theorem bind_ofExcept {outcome : Except Error β} (h : Reads r w a) (hf : f a = .ofExcept outcome) :
    Yields (r >>= f) w outcome := by
  intro bytes hw rest
  simp only [bind, h bytes hw, hf]
  cases outcome <;> rfl

theorem body {outcome : Except Error α} (ws more : List Written) (h : Yields r (Write.all ws) outcome) :
    Yields (Read.body context r) (Write.body context' (ws ++ more)) outcome := by
  intro bytes hw rest
  cases hp : Write.all (ws ++ more) with
  | error => simp [Write.body, hp, bind, Except.bind] at hw
  | ok inside =>
    simp only [Write.body, hp, bind, Except.bind] at hw
    obtain ⟨x, y, hx, _, e⟩ := Write.all_append_eq_ok hp
    have : Read.blob context maxLength (bytes ++ rest) = _ := Reads.blob bytes hw rest
    simp only [Read.body, bind, this, e, h x hx]
    cases outcome <;> rfl

-- Of a counter that has more than eight bytes the last eight are written.
theorem versions {versions : VersionVector} : Yields Read.versions
    (Write.listOf "version vector" VersionVector.maxEntries
      (fun e => Write.all [Write.text e.1, Write.word 8 e.2]) versions.entries)
    ((VersionVector.ofEntries (versions.entries.map fun e => (e.1, e.2 % 256 ^ 8))).mapError
      (.versionVector ·.message)) := by
  let write (e : String × ℕ) : Written := Write.all [Write.text e.1, Write.word 8 e.2]
  let cut (e : String × ℕ) : String × ℕ := (e.1, e.2 % 256 ^ 8)
  have cut_written (e : String × ℕ) : write (cut e) = write e :=
    congrArg (fun bytes => Write.all [Write.text e.1, .ok bytes]) (bigEndian_mod 8 e.2)
  have same : Write.listOf "version vector" VersionVector.maxEntries write versions.entries =
      Write.listOf "version vector" VersionVector.maxEntries write (versions.entries.map cut) := by
    rw [Write.listOf, Write.listOf, List.length_map, List.map_map]
    congr 2
    exact List.map_congr_left fun e _ => (cut_written e).symm
  have entry : ∀ e ∈ versions.entries.map cut, Reads
      (do return (← Read.text "version vector id", ← Read.word "version vector counter" 8)) (write e) e := by
    intro e he
    obtain ⟨e, _, rfl⟩ := List.mem_map.mp he
    exact Reads.text.cons ((Reads.word (Nat.mod_lt _ (by decide))).last rfl)
  exact same ▸ bind_ofExcept (Reads.listOf entry) rfl

theorem view (extra : Appendix) (v : View) : Yields Read.view (Write.viewWith extra v) v.received := by
  refine body [_, _, _, _, _, _, _] [_, _, _, _] ?_
  refine cons (Reads.word v.protocolVersion.toNat_lt) <| cons Reads.text <| cons Reads.counter <| cons Reads.time ?_
  refine cons (Reads.word (Nat.lt_of_le_of_lt (Nat.min_le_right ..) (by decide))) ?_
  refine cons (Reads.listOf fun m _ => Reads.memberWith extra m) <| cons_map versions fun versions => ?_
  rw [UInt16.ofNat_toNat]
  exact Reads.nil

-- A message is read as it was sent, if that is so of its members and views.
theorem message {ofMember : Member → Written} {ofView : View → Written}
    (hm : ∀ m, Reads Read.member (ofMember m) m) (hv : ∀ v, Yields Read.view (ofView v) v.received) (m : Message) :
    Yields Read.message (encodeBy ofMember ofView m) m.received := by
  cases h : m with
  | joinRequest joiner token => exact of_reads (Reads.byte.cons <| (hm joiner).cons (Reads.text.last rfl))
  | joinResponse v => exact cons Reads.byte (cons_map (hv v) fun _ => Reads.nil)
  | gossip v => exact cons Reads.byte (cons_map (hv v) fun _ => Reads.nil)
  | viewResponse v inQuorum leader =>
    exact cons Reads.byte <| cons Reads.byte <| cons_map (hv v) fun _ => Reads.standing
  | _ =>
    have read : Reads Read.message (encode m) m := Reads.plain (by rw [h]; rfl)
    rw [h] at read
    exact of_reads read

end Yields

-- What is read does not depend on what has been appended.
theorem decode_eq_received {m : Message} {extra : Appendix} {bytes : List UInt8}
    (h : encodeWith extra m = .ok bytes) : decode bytes = m.received := by
  have read : Yields Read.message (encodeWith extra m) m.received :=
    .message (.memberWith extra) (.view extra) m
  have : Read.message bytes = m.received.map (·, []) := by simpa using read bytes h []
  rw [decode, this]
  cases m.received <;> rfl

theorem decode_encodeWith {m : Message} {extra : Appendix} {bytes extended : List UInt8}
    (h : encode m = .ok bytes) (hx : encodeWith extra m = .ok extended) :
    decode extended = decode bytes ∧ ((∀ v ∈ m.views, v.Built) → decode extended = .ok m.carried) := by
  have same : decode extended = decode bytes := by
    rw [← encodeWith_none] at h
    rw [decode_eq_received h, decode_eq_received hx]
  refine ⟨same, fun built => ?_⟩
  have read : Read.message bytes = .ok (m.carried, []) := by simpa using Reads.message built bytes h []
  rw [same, decode, read]
  rfl

-- Three bytes more for the member and two for the view around it.
theorem decode_encodeWith_both : ∃ (m : Message) (extra : Appendix) (bytes extended : List UInt8),
    m.members ≠ [] ∧ encode m = .ok bytes ∧ encodeWith extra m = .ok extended ∧
    extended.length = bytes.length + 5 ∧ decode extended = decode bytes := by
  obtain ⟨m, hm⟩ : ∃ m, m =
      Message.viewResponse ((View.new "v" 5 0).add (.starting "a" "c" "h:1" 7)) true (some "h:1") := ⟨_, rfl⟩
  obtain ⟨extra, he⟩ : ∃ extra : Appendix, extra = ⟨fun _ => [9, 9, 9], [7, 7]⟩ := ⟨_, rfl⟩
  obtain ⟨bytes, h⟩ : ∃ bytes, encode m = .ok bytes := hm ▸ ⟨_, rfl⟩
  have longer : (encodeWith extra m).toOption.map List.length = (encode m).toOption.map (·.length + 5) := by
    rw [hm, he]
    decide +kernel
  cases hx : encodeWith extra m with
  | error => simp [h, hx, Except.toOption] at longer
  | ok extended =>
    have longer : extended.length = bytes.length + 5 := by simpa [h, hx, Except.toOption] using longer
    exact ⟨m, extra, bytes, extended, by rw [hm]; decide +kernel, h, hx, longer, (decode_encodeWith h hx).1⟩

end Wire

end GossipCluster
