import GossipCluster.Proofs.Wire.RoundTrip

namespace GossipCluster.Wire

variable {α β : Type}

-- The reader has come to the end of the bytes and needs more of them.
def CutShort (outcome : Except Error α) : Prop :=
  ∃ context needed left, left < needed ∧ outcome = .error (Read.truncated context needed left)

-- Unless it runs out, a reader does the same when there are more bytes behind, and leaves those alone.
def Steady (r : Reader α) : Prop :=
  ∀ bytes more, CutShort (r bytes) ∨ r (bytes ++ more) = (r bytes).map fun (a, rest) => (a, rest ++ more)

theorem not_cutShort_ok {a : α} : ¬CutShort (.ok a) := nofun

theorem CutShort.map {outcome : Except Error α} (h : CutShort outcome) (f : α → β) : CutShort (outcome.map f) := by
  obtain ⟨context, needed, left, lt, rfl⟩ := h
  exact ⟨context, needed, left, lt, rfl⟩

namespace Steady

variable {r : Reader α} {f : α → Reader β} {context : String} {n max : ℕ}

theorem pure {a : α} : Steady (Pure.pure a) := fun _ _ => .inr rfl

theorem fail {e : Error} : Steady (Reader.fail e : Reader α) := fun _ _ => .inr rfl

theorem ofExcept {outcome : Except Error α} : Steady (Reader.ofExcept outcome) := by
  cases outcome with
  | error => exact fail
  | ok => exact pure

theorem bind (h : Steady r) (hf : ∀ a, Steady (f a)) : Steady (r >>= f) := by
  intro bytes more
  have first := h bytes more
  simp only [Bind.bind]
  cases hr : r bytes with
  | error e =>
    rw [hr] at first
    cases first with
    | inl short =>
      obtain ⟨_, _, _, lt, e⟩ := short
      injection e with e
      exact .inl ⟨_, _, _, lt, congrArg _ e⟩
    | inr same => exact .inr (by simp [same, Except.map])
  | ok read =>
    obtain ⟨a, rest⟩ := read
    rw [hr] at first
    have same := first.resolve_left not_cutShort_ok
    simp only [same, Except.map]
    exact hf a rest more

theorem exactly : Steady (Read.exactly context n) := by
  intro bytes more
  by_cases short : bytes.length < n
  case pos => exact .inl ⟨context, n, bytes.length, short, by simp [Read.exactly, short]⟩
  case neg =>
    have enough : n ≤ bytes.length := Nat.not_lt.mp short
    refine .inr ?_
    simp [Read.exactly, enough, List.take_append_of_le_length,
      List.drop_append_of_le_length, Except.map]

theorem word : Steady (Read.word context n) := .bind exactly fun _ => pure

theorem byte : Steady (Read.byte context) := .bind word fun _ => pure

theorem counter : Steady (Read.counter context) := .bind word fun _ => pure

theorem time : Steady (Read.time context) := .bind word fun _ => pure

theorem length : Steady (Read.length context max) := by
  refine .bind word fun n => ?_
  split
  case isTrue => exact fail
  case isFalse => exact pure

theorem blob : Steady (Read.blob context max) := .bind length fun _ => exactly

theorem text : Steady (Read.text context) := by
  refine .bind blob fun bytes => ?_
  split
  case h_1 => exact pure
  case h_2 => exact fail

theorem times (h : Steady r) : Steady (Read.times r n) := by
  suffices ∀ acc, Steady (Read.times.go r n acc) from this []
  induction n with
  | zero => exact fun acc => pure
  | succ n ih =>
    intro acc
    have : Steady (r >>= fun a => Read.times.go r n (a :: acc)) := h.bind fun a => ih (a :: acc)
    exact this

theorem listOf (h : Steady r) : Steady (Read.listOf context max r) := .bind length fun _ => h.times

theorem map : Steady (Read.map context) := by
  refine .bind (listOf ?_) fun _ => pure
  exact .bind text fun _ => .bind text fun _ => pure

-- Within a body only the bytes of the body are read, so that it does not matter how.
theorem body : Steady (Read.body context r) := by
  refine .bind blob fun bytes => ?_
  split
  case h_1 => exact pure
  case h_2 => exact fail

theorem member : Steady Read.member := body

theorem view : Steady Read.view := body

theorem viewResponse : Steady Read.viewResponse := by
  refine .bind byte fun presence => ?_
  split
  case isTrue => exact fail
  case isFalse =>
    refine .bind view fun v => .bind byte fun inQuorum => .bind byte fun presence => ?_
    have leader : Steady (some <$> Read.text "leader address") := .bind text fun _ => pure
    dsimp only
    split
    case isTrue => exact .bind pure fun _ => pure
    case isFalse => exact leader.bind fun _ => pure

theorem rejection : Steady Read.rejection :=
  .bind byte fun _ => .bind (listOf text) fun _ => .bind text fun _ => pure

theorem message : Steady Read.message := by
  refine .bind byte fun kind => ?_
  split
  case h_1 => exact .bind member fun _ => .bind text fun _ => pure
  case h_2 | h_3 => exact .bind view fun _ => pure
  case h_5 => exact viewResponse
  case h_8 => exact .bind text fun _ => .bind text fun _ => pure
  case h_9 => exact .bind text fun _ => pure
  case h_11 => exact .bind map fun _ => pure
  case h_12 => exact .bind rejection fun _ => pure
  case h_13 => exact .bind blob fun _ => pure
  case h_14 => exact fail
  all_goals exact pure

-- A reader that takes all that has been written needs all of it.
theorem cutShort {w : Written} {a : α} {bytes part : List UInt8} (h : Steady r) (hr : Reads r w a)
    (hw : w = .ok bytes) (hp : part <+: bytes) (lt : part ≠ bytes) : CutShort (r part) := by
  obtain ⟨more, rfl⟩ := hp
  have whole : r (part ++ more) = .ok (a, []) := by simpa using hr _ hw []
  refine (h part more).resolve_right fun same => ?_
  rw [whole] at same
  cases hpart : r part with
  | error => simp [hpart, Except.map] at same
  | ok read =>
    have left : [] = read.2 ++ more := by simpa [hpart, Except.map] using congrArg (·.map Prod.snd) same
    exact lt (by simp [(List.nil_eq_append_iff.mp left).2])

end Steady

theorem decode_cutShort {bytes part : List UInt8} (hp : part <+: bytes) (lt : part ≠ bytes) :
    (∀ m : Message, (∀ v ∈ m.views, v.Built) → encode m = .ok bytes → CutShort (decode part)) ∧
      ∀ v : View, v.Built → encodeView v = .ok bytes → CutShort (decodeView part) := by
  constructor
  · intro m built written
    exact (Steady.cutShort .message (Reads.message built) written hp lt).map Prod.fst
  · intro v built written
    exact (Steady.cutShort .view (Reads.view built.counted built.faultless) written hp lt).map Prod.fst

-- A view with one member, from which the last byte is missing.
theorem decode_cutShort_last : ∃ (v : View) (bytes : List UInt8), v.Built ∧ 0 < v.size ∧
    encode (.gossip v) = .ok bytes ∧ bytes.dropLast <+: bytes ∧ bytes.dropLast ≠ bytes ∧
    CutShort (decode bytes.dropLast) := by
  obtain ⟨v, hv⟩ : ∃ v, v = (View.new "v" 5 0).add (.starting "a" "c" "h:1" 7) := ⟨_, rfl⟩
  have built : v.Built := hv ▸ .add _ (.new "v" 5 0)
  have size : 0 < v.size := hv ▸ by decide +kernel
  obtain ⟨bytes, written⟩ : ∃ bytes, encode (.gossip v) = .ok bytes := hv ▸ ⟨_, rfl⟩
  have cut : bytes.dropLast ≠ bytes := by
    rw [hv] at written
    obtain rfl : _ = bytes := by injection written
    decide +kernel
  have front : bytes.dropLast <+: bytes := List.dropLast_prefix bytes
  refine ⟨v, bytes, built, size, written, front, cut, ?_⟩
  exact (decode_cutShort front cut).1 (.gossip v) (by simpa [Message.views] using built) written

end GossipCluster.Wire
