import GossipCluster.Proofs.VersionVector.Rank
import GossipCluster.Proofs.View.Merge
import GossipCluster.Proofs.Wire.Cost
import GossipCluster.Proofs.Wire.RoundTrip

namespace GossipCluster

structure View.WellFormed (v : View) : Prop where
  keyed    : ∀ id m, v.member? id = some m → m.id = id
  counted  : v.Counted
  ids      : ∀ e ∈ v.versions.entries, 1 ≤ e.1.utf8ByteSize ∧ e.1.utf8ByteSize ≤ VersionVector.maxIdBytes
  counters : ∀ e ∈ v.versions.entries, e.2 ≤ VersionVector.maxCounter
  members  : 0 < v.vectorBound → ∀ e ∈ v.versions.entries, v.contains e.1
  bounded  : 0 < v.vectorBound → v.versions.size ≤ v.vectorBound

-- The address of a member is short enough to be passed on.
def Member.Addressed (m : Member) : Prop := m.address.utf8ByteSize ≤ Member.maxAddressBytes

-- All that a message carries can be passed on as it is.
structure Message.Passable (m : Message) : Prop where
  built     : ∀ v ∈ m.views, v.Built
  portable  : ∀ v ∈ m.views, v.Portable
  addressed : ∀ x ∈ m.members, x.Addressed

namespace VersionVector

variable {v : VersionVector} {entries : List (String × ℕ)} {ids : List String} {bound : ℕ}

theorem subperm_ofEntries (h : ofEntries entries = .ok v) :
    v.entries.Subperm entries ∧ v.entries.length ≤ maxEntries := by
  rw [ofEntries] at h
  split at h
  case isTrue => cases h
  case isFalse few =>
    split at h
    case h_1 => cases h
    case h_2 =>
      injection h with h
      subst h
      exact ⟨(Table.subperm_ofList _).trans (List.takeWhile_sublist _).subperm, Nat.not_lt.mp few⟩

theorem entries_prune_sublist : (v.prune ids bound).entries.Sublist v.entries :=
  (List.take_sublist ..).trans List.filter_sublist

end VersionVector

namespace View

variable {v : View}

theorem Portable.wellFormed (portable : v.Portable) (built : v.Built) : v.WellFormed := by
  have faultless (e) (he : e ∈ v.versions.entries) :=
    VersionVector.entryFault?_eq_none_iff.mp (built.faultless e he)
  constructor
  case keyed => exact fun _ _ => member?_id
  case counted => exact built.counted
  case ids => exact fun e he => VersionVector.idFault?_eq_none_iff.mp (faultless e he).1
  case counters => exact fun e he => (faultless e he).2
  case members =>
    intro pos e he
    rw [← portable.pruned pos] at he
    have listed := (Table.mem_filter_iff.mp (List.mem_of_mem_take he)).2
    exact mem_memberIds_iff.mpr (List.contains_iff_mem.mp listed)
  case bounded =>
    intro pos
    rw [← portable.pruned pos]
    exact List.length_take_le ..

-- What has been cut down to its bound stays so.
theorem portable_refresh (h : v.vectorBound < UInt32.size) : (refresh v).Portable where
  bound := h
  pruned pos := by
    have cut : (refresh v).versions = v.versions.prune v.memberIds v.vectorBound := if_neg (Nat.ne_of_gt pos)
    rw [cut]
    exact VersionVector.prune_prune

theorem entries_ofParts_sublist {id : String} {epoch : UInt64} {timestamp : Timestamp} {members : List Member}
    {versions : VersionVector} {protocolVersion : UInt16} {bound : ℕ} :
    (ofParts id epoch timestamp members versions protocolVersion bound).versions.entries.Sublist versions.entries := by
  rw [ofParts, refresh]
  dsimp only
  split
  case isTrue => exact .refl _
  case isFalse => exact VersionVector.entries_prune_sublist

end View

namespace Wire.Ensures

variable {context : String}

theorem status : Ensures Read.status fun s k => cost (Write.byte s.toByte) ≤ k := by
  refine byte.bind fun b k hb => ?_
  split
  case h_2 => exact fail
  case h_1 s hs => exact pure (Status.toByte_ofByte? hs ▸ hb)

theorem address : Ensures Read.address fun s k => cost (Write.text s) ≤ k ∧ s.utf8ByteSize ≤ Member.maxAddressBytes := by
  refine text.bind fun s k hs => ?_
  split
  case isTrue => exact fail
  case isFalse short => exact pure ⟨hs, Nat.not_lt.mp short⟩

theorem member : Ensures Read.member fun m k => m.Addressed ∧ cost (Write.member m) ≤ k := by
  refine (body (P := fun m k => m.Addressed ∧
    ∃ ws, Write.member m = Write.body "node state" ws ∧ cost (Write.all ws) ≤ k) ?fields).mono ?whole
  case fields =>
    refine text.bind fun _ _ id => text.bind fun _ _ cluster => address.bind fun _ _ address => ?_
    refine counter.bind fun _ _ generation => counter.bind fun _ _ clock => time.bind fun _ _ timestamp => ?_
    refine status.bind fun _ _ status => time.bind fun _ _ lastSeen => ?_
    refine map.bind fun _ _ labels => map.bind fun _ _ state => pure ?_
    refine ⟨address.2, _, if_neg (Nat.not_lt.mpr address.2), ?_⟩
    exact cost_all_cons id <| cost_all_cons cluster <| cost_all_cons address.1 <| cost_all_cons generation <|
      cost_all_cons clock <| cost_all_cons timestamp <| cost_all_cons status <| cost_all_cons lastSeen <|
      cost_all_cons labels <| cost_all_cons state cost_all_nil
  case whole =>
    rintro m k ⟨n, ⟨short, ws, written, costs⟩, few, taken⟩
    refine ⟨short, ?_⟩
    rw [written]
    exact (cost_body_le costs few).trans (by exact_mod_cast taken)

theorem versions : Ensures Read.versions fun v k => v.Built ∧ v.entries.length ≤ VersionVector.maxEntries ∧
    4 + (v.entries.map fun e => cost (Write.all [Write.text e.1, Write.word 8 e.2])).sum ≤ k := by
  have entry : Ensures (do return (← Read.text "version vector id", ← Read.word "version vector counter" 8)) fun e k =>
      True ∧ cost (Write.all [Write.text e.1, Write.word 8 e.2]) ≤ k :=
    text.bind fun _ _ id => word.bind fun _ _ counter =>
      pure ⟨trivial, cost_all_cons id <| cost_all_cons (cost_word_le counter.1) cost_all_nil⟩
  refine (listOf entry).bind fun entries k ⟨_, _, sum⟩ => ?_
  cases h : VersionVector.ofEntries entries with
  | error => exact fail
  | ok v =>
    have ⟨kept, few⟩ := VersionVector.subperm_ofEntries h
    exact pure ⟨.ofEntries h, few, (add_le_add_right (sum_le_of_subperm kept) 4).trans sum⟩

theorem view : Ensures Read.view fun v k => (v.Built ∧ v.Portable ∧ ∀ m ∈ v.members.rows, m.Addressed) ∧
    (k < 2 ^ 31 → cost (Write.view v) ≠ ⊤) := by
  refine (body (P := fun v k => (v.Built ∧ v.Portable ∧ ∀ m ∈ v.members.rows, m.Addressed) ∧
    ∃ ws, Write.view v = Write.body "cluster view" ws ∧ cost (Write.all ws) ≤ (k + 12 : ℕ)) ?fields).mono ?whole
  case fields =>
    refine word.bind fun protocolVersion _ version => text.bind fun viewId _ id => counter.bind fun epoch _ epochs => ?_
    refine time.bind fun timestamp _ time => word.bind fun bound _ hb => ?_
    refine (listOf member).bind fun members _ ⟨few, short, sum⟩ => versions.bind fun vector _ ⟨built, small, total⟩ => ?_
    refine pure ⟨⟨.ofParts _ _ _ _ _ _ _ built, View.portable_refresh hb.2, ?_⟩, _, rfl, ?_⟩
    · exact fun m hm => short m (VersionVector.mem_ofList hm)
    · have small : vector.entries.length ≤ VersionVector.maxEntries ∧ vector.entries.length ≤ maxLength :=
        ⟨small, small.trans (by decide)⟩
      -- The counts may come on top.
      refine le_trans ?parts (Nat.cast_le.mpr (?room : ?size ≤ _))
      case parts =>
        exact cost_all_cons (cost_word_le version.1) <| cost_all_cons id <| cost_all_cons epochs <|
          cost_all_cons time <| cost_all_cons (cost_word_le hb.1) <|
          cost_all_cons (cost_listOf_le (Table.subperm_ofList members) few sum) <|
          cost_all_cons (cost_listOf_le View.entries_ofParts_sublist.subperm small total) <|
          cost_all_cons (cost_word_le rfl) <| cost_all_cons (cost_word_le rfl) <|
          cost_all_cons (cost_word_le rfl) cost_all_nil
      case room => omega
  case whole =>
    rintro v k ⟨n, ⟨accepted, ws, written, costs⟩, few, taken⟩
    refine ⟨accepted, fun short => ?_⟩
    have room : n + 12 ≤ maxLength := by
      have : maxLength = 2 ^ 32 - 1 := rfl
      omega
    rw [written]
    exact ne_top_of_le_ne_top (by simp) (cost_body_le costs room)

theorem rejection : Ensures Read.rejection fun r _ => cost (Write.rejection r) ≠ ⊤ := by
  have param {context : String} : Ensures (Read.text context) fun s k => True ∧ cost (Write.text s) ≤ k :=
    text.mono fun _ _ h => ⟨trivial, h⟩
  refine byte.bind fun kind _ _ => (listOf param).bind fun params _ ⟨few, _, sum⟩ => text.bind fun message _ hm => ?_
  refine pure ?_
  have listed : cost (Write.listOf "rejection params" maxMapEntries Write.text params) ≠ ⊤ :=
    cost_ne_top (cost_listOf_le (List.Subperm.refl params) few sum)
  simp [Write.rejection, listed, cost_ne_top hm]

section

variable {m : Message} {v : View} {k : ℕ}

theorem passable_of_nothing (views : m.views = []) (members : m.members = []) : m.Passable := by
  constructor <;> simp [views, members]

theorem passable_of_view (views : m.views = [v]) (members : m.members = v.members.rows)
    (h : v.Built ∧ v.Portable ∧ ∀ x ∈ v.members.rows, x.Addressed) : m.Passable := by
  constructor <;> simp_all

end

theorem viewResponse : Ensures Read.viewResponse fun m k => m.Passable ∧ (k < 2 ^ 31 → cost (encode m) ≠ ⊤) := by
  have leader : Ensures (some <$> Read.text "leader address") fun leader _ =>
      cost (Write.optional Write.text leader) ≠ ⊤ := by
    refine text.bind fun s _ hs => pure ?_
    simp [Write.optional, cost_ne_top hs]
  refine byte.bind fun presence _ _ => ?_
  split
  case isTrue => exact fail
  case isFalse =>
    refine view.bind fun v _ hv => byte.bind fun inQuorum _ _ => byte.bind fun presence _ _ => ?_
    obtain ⟨hv, costs⟩ := hv
    have answer {leader : Option String} (written : cost (Write.view v) ≠ ⊤)
        (hl : cost (Write.optional Write.text leader) ≠ ⊤) :
        cost (encode (.viewResponse v (inQuorum ≠ 0) leader)) ≠ ⊤ := by
      simp [encode, written, hl]
    split
    case isTrue =>
      have nobody : cost (Write.optional Write.text none) ≠ ⊤ := by simp [Write.optional]
      exact pure (a := Message.viewResponse v (inQuorum ≠ 0) none)
        ⟨passable_of_view rfl rfl hv, fun short => answer (costs (by omega)) nobody⟩
    case isFalse =>
      exact leader.bind fun leader _ hl => pure
        ⟨passable_of_view rfl rfl hv, fun short => answer (costs (by omega)) hl⟩

theorem message : Ensures Read.message fun m k => m.Passable ∧ (k < 2 ^ 31 → cost (encode m) ≠ ⊤) := by
  refine byte.bind fun kind _ _ => ?_
  split
  case h_1 =>
    refine member.bind fun m _ hm => text.bind fun token _ ht => pure ⟨?_, fun _ => ?_⟩
    · constructor <;> simp [Message.views, Message.members, hm.1]
    · simp [encode, cost_ne_top hm.2, cost_ne_top ht]
  case h_2 | h_3 =>
    refine view.bind fun v _ hv => pure ⟨passable_of_view rfl rfl hv.1, fun short => ?_⟩
    simp [encode, hv.2 (by omega)]
  case h_5 => exact viewResponse.mono fun m k h => ⟨h.1, fun short => h.2 (by omega)⟩
  case h_8 =>
    refine text.bind fun id _ hi => text.bind fun token _ ht => pure ⟨passable_of_nothing rfl rfl, fun _ => ?_⟩
    simp [encode, cost_ne_top hi, cost_ne_top ht]
  case h_9 =>
    refine text.bind fun token _ ht => pure ⟨passable_of_nothing rfl rfl, fun _ => ?_⟩
    simp [encode, cost_ne_top ht]
  case h_11 =>
    refine map.bind fun state _ hs => pure ⟨passable_of_nothing rfl rfl, fun _ => ?_⟩
    simp [encode, cost_ne_top hs]
  case h_12 =>
    refine rejection.bind fun r _ hr => pure ⟨passable_of_nothing rfl rfl, fun _ => ?_⟩
    simp [encode, hr]
  case h_13 =>
    refine blob.bind fun payload _ hp => pure ⟨passable_of_nothing rfl rfl, fun _ => ?_⟩
    simp [encode, cost_blob hp.2.1 hp.2.2]
  case h_4 | h_6 | h_7 | h_10 =>
    exact pure ⟨passable_of_nothing rfl rfl, fun _ => by simp [encode]⟩
  case h_14 => exact fail

end Wire.Ensures

namespace Wire

theorem wellFormed_of_decode {bytes : List UInt8} {m : Message} (short : bytes.length < 2 ^ 31)
    (h : decode bytes = .ok m) : (∀ v ∈ m.views, v.WellFormed) ∧
      (∀ x ∈ m.members, x.address.utf8ByteSize ≤ Member.maxAddressBytes) ∧
      ∃ again, encode m = .ok again ∧ decode again = .ok m := by
  obtain ⟨rest, read⟩ : ∃ rest, Read.message bytes = .ok (m, rest) := by
    rw [decode] at h
    cases hr : Read.message bytes with
    | error =>
      rw [hr] at h
      cases h
    | ok p =>
      rw [hr] at h
      exact ⟨p.2, Except.ok.inj h ▸ rfl⟩
  obtain ⟨taken, length, passable, costs⟩ := Ensures.message bytes m rest read
  obtain ⟨again, written⟩ := cost_ne_top_iff.mp (costs (by omega))
  refine ⟨fun v hv => (passable.portable v hv).wellFormed (passable.built v hv), passable.addressed, again, written, ?_⟩
  have same : m.carried = m := Message.mapViews_eq_self fun v hv => (passable.portable v hv).carried_eq
  have back := Reads.message passable.built again written []
  rw [List.append_nil, same] at back
  rw [decode, back]
  rfl

-- A member and an id that come twice, an id that is no member, no counts, and bytes left over on three levels.
theorem wellFormed_of_decode_untidy : ∃ (bytes again : List UInt8) (m : Message), decode bytes = .ok m ∧
    m.views.map (fun v => (v.memberIds, v.versions.entries, v.quorum)) = [(["a"], [("a", 2)], 1)] ∧
    (∀ v ∈ m.views, v.WellFormed) ∧ encode m = .ok again ∧ decode again = .ok m := by
  let text (c : Char) : List UInt8 := bigEndian 4 1 ++ [.ofNat c.toNat]
  let member (clock : ℕ) : List UInt8 := bigEndian 4 57 ++ text 'a' ++ text 'c' ++ text 'h' ++ bigEndian 8 1 ++
    bigEndian 8 clock ++ bigEndian 8 7 ++ [1] ++ bigEndian 8 7 ++ bigEndian 4 0 ++ bigEndian 4 0 ++ [255]
  let vector : List UInt8 := bigEndian 4 3 ++ text 'a' ++ bigEndian 8 1 ++ text 'a' ++ bigEndian 8 2 ++
    text 'z' ++ bigEndian 8 5
  let bytes : List UInt8 := [3] ++ bigEndian 4 197 ++ bigEndian 2 1 ++ text 'v' ++ bigEndian 8 0 ++ bigEndian 8 0 ++
    bigEndian 4 1 ++ bigEndian 4 2 ++ member 1 ++ member 2 ++ vector ++ [9] ++ [9]
  have short : bytes.length < 2 ^ 31 := by decide +kernel
  have tidied : (decode bytes).toOption.any fun m =>
      m.views.map (fun v => (v.memberIds, v.versions.entries, v.quorum)) = [(["a"], [("a", 2)], 1)] := by cbv
  clear_value bytes
  cases decoded : decode bytes with
  | error =>
    rw [decoded] at tidied
    cases tidied
  | ok m =>
    obtain ⟨views, _, again, written, back⟩ := wellFormed_of_decode short decoded
    rw [decoded] at tidied
    exact ⟨bytes, again, m, decoded, of_decide_eq_true tidied, views, written, back⟩

end Wire

end GossipCluster
