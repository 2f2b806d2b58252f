import GossipCluster.Proofs.Node.Refusal
import GossipCluster.Proofs.Token.Acceptance

namespace GossipCluster.Token

-- Some of the address has gone over to the id, with the line break that comes after it.
def RunsInto (id address id' address' : String) : Prop :=
  ∃ part, id' = id ++ "\n" ++ part ∧ address = part ++ "\n" ++ address'

-- Two messages with the same signature.
def Collides (secret : String) (subject subject' : List UInt8) : Prop :=
  subject ≠ subject' ∧ sign secret subject = sign secret subject'

variable {secret cluster id address id' address' : String}

theorem utf8_append (s s' : String) : utf8 (s ++ s') = utf8 s ++ utf8 s' := by
  simp [utf8]

theorem utf8_inj {s s' : String} : utf8 s = utf8 s' ↔ s = s' := by
  simp [utf8, ← String.toByteArray_inj, ByteArray.ext_iff, Array.toList_inj]

theorem joinSubject_eq :
    joinSubject cluster id address = utf8 (cluster ++ "\n" ++ (id ++ "\n" ++ address)) := by
  simp [joinSubject, utf8_append]

-- Of two texts that agree one ends its first line no later than the other.
theorem lines_eq_iff : id ++ "\n" ++ address = id' ++ "\n" ++ address' ↔
    id' = id ∧ address' = address ∨ RunsInto id address id' address' ∨ RunsInto id' address' id address := by
  have toList (s s' : String) : (s ++ "\n" ++ s').toList = s.toList ++ '\n' :: s'.toList := by simp
  have runs {id address id' address' : String} {gap : List Char} (ids : id'.toList = id.toList ++ gap)
      (rest : '\n' :: address.toList = gap ++ '\n' :: address'.toList) :
      id' = id ∧ address' = address ∨ RunsInto id address id' address' := by
    cases gap with
    | nil =>
      have rest : address.toList = address'.toList := by simpa using rest
      exact .inl ⟨String.toList_inj.mp (by simpa using ids), String.toList_inj.mp rest.symm⟩
    | cons c part =>
      obtain ⟨rfl, rest⟩ := List.cons.inj rest
      refine .inr ⟨.ofList part, String.toList_inj.mp ?_, String.toList_inj.mp ?_⟩
      · simp [ids]
      · simpa using rest
  constructor
  case mp =>
    intro same
    rw [← String.toList_inj, toList, toList, List.append_eq_append_iff] at same
    rcases same with ⟨gap, ids, rest⟩ | ⟨gap, ids, rest⟩
    · exact (runs ids rest).imp_right .inl
    · exact (runs ids rest).imp (fun ⟨ids, addresses⟩ => ⟨ids.symm, addresses.symm⟩) .inr
  case mpr =>
    rintro (⟨rfl, rfl⟩ | ⟨part, rfl, rfl⟩ | ⟨part, rfl, rfl⟩)
    · rfl
    · simp [String.append_assoc]
    · simp [String.append_assoc]

theorem joinSubject_eq_iff : joinSubject cluster id address = joinSubject cluster id' address' ↔
    id' = id ∧ address' = address ∨ RunsInto id address id' address' ∨ RunsInto id' address' id address := by
  rw [joinSubject_eq, joinSubject_eq, utf8_inj, String.append_right_inj, lines_eq_iff]

theorem acceptsJoin_join_iff (h : secret ≠ "") (cluster id address id' address' : String) :
    acceptsJoin secret cluster id' address' (join secret cluster id address) ↔
      id' = id ∧ address' = address ∨ RunsInto id address id' address' ∨ RunsInto id' address' id address ∨
        Collides secret (joinSubject cluster id address) (joinSubject cluster id' address') := by
  have signed {m m' : List UInt8} : sign secret m = sign secret m' ↔ m = m' ∨ Collides secret m m' := by
    constructor
    case mp => exact fun e => or_iff_not_imp_left.mpr fun ne => ⟨ne, e⟩
    case mpr => exact fun e => e.elim (congrArg (sign secret)) And.right
  rw [acceptsJoin, join, accepts_encode_iff h, signed, joinSubject_eq_iff, or_assoc, or_assoc]

theorem acceptsJoin_join_own : "s3cret" ≠ "" ∧
    acceptsJoin "s3cret" "test" "a" "10.0.0.9:7000" (join "s3cret" "test" "a" "10.0.0.9:7000") := by
  have secret : "s3cret" ≠ "" := by decide
  exact ⟨secret, (acceptsJoin_join_iff secret ..).mpr (.inl ⟨rfl, rfl⟩)⟩

-- Two identities that a node takes for well formed, of which the one is let in with the token of the other.
theorem acceptsJoin_join_foreign : ∃ joiner impostor : Member, ¬Turn.isMalformed joiner ∧ ¬Turn.isMalformed impostor ∧
    ¬(impostor.id = joiner.id ∧ impostor.address = joiner.address) ∧
    ¬Collides "s3cret" (joinSubject "test" joiner.id joiner.address)
      (joinSubject "test" impostor.id impostor.address) ∧
    acceptsJoin "s3cret" "test" impostor.id impostor.address (join "s3cret" "test" joiner.id joiner.address) := by
  let joiner : Member := .starting "a" "test" "b\n10.0.0.9:7000" 0
  let impostor : Member := .starting "a\nb" "test" "10.0.0.9:7000" 0
  have runs : RunsInto joiner.id joiner.address impostor.id impostor.address := ⟨"b", rfl, rfl⟩
  have same : joinSubject "test" joiner.id joiner.address = joinSubject "test" impostor.id impostor.address :=
    joinSubject_eq_iff.mpr (.inr (.inl runs))
  refine ⟨joiner, impostor, by decide, by decide, by decide, fun ⟨ne, _⟩ => ne same, ?_⟩
  rw [acceptsJoin, join, same]
  exact accepts_encode

end GossipCluster.Token
