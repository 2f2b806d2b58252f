import GossipCluster.Proofs.View.Level

namespace GossipCluster

namespace View

def StaysAt (v : View) (id : String) : Prop := ∀ m, v.member? id = some m → ¬m.isDeparting

def Staying (v : View) : Prop := ∀ id, v.StaysAt id

structure Tidy (bound : ℕ) (v : View) : Prop where
  staying : v.Staying
  trimmed : v.trimmed bound = v.versions

-- Whoever the second view knows under an id was known to the first one, and departs only if it did so there,
-- or comes from elsewhere and does not depart.
def Stems (elsewhere : Set Member) (id : String) (v w : View) : Prop :=
  ∀ m, w.member? id = some m →
    (∃ m', v.member? id = some m' ∧ (m.isDeparting → m'.isDeparting)) ∨
    ¬m.isDeparting ∧ ∃ m' ∈ elsewhere, m'.id = id ∧ ¬m'.isDeparting

variable {elsewhere : Set Member} {v w u other : View} {options : MergeOptions} {now : Timestamp}
  {id i address : String} {m : Member} {status : Status} {ids : List String} {bound : ℕ}

namespace Stems

theorem of_member?_eq (h : w.member? id = v.member? id) : Stems elsewhere id v w :=
  fun m hm => .inl ⟨m, h.symm.trans hm, fun departs => departs⟩

theorem trans (a : Stems elsewhere id v w) (b : Stems elsewhere id w u) : Stems elsewhere id v u := by
  intro m hm
  rcases b m hm with ⟨m', hm', departs⟩ | foreign
  · rcases a m' hm' with ⟨m'', hm'', departs'⟩ | ⟨stays, source⟩
    · exact .inl ⟨m'', hm'', departs' ∘ departs⟩
    · exact .inr ⟨stays ∘ departs, source⟩
  · exact .inr foreign

theorem mono {wider : Set Member} (h : Stems elsewhere id v w) (le : elsewhere ⊆ wider) : Stems wider id v w :=
  fun m hm => (h m hm).imp_right fun ⟨stays, m', mem, source⟩ => ⟨stays, m', le mem, source⟩

theorem staysAt (h : Stems elsewhere id v w) (hv : v.StaysAt id) : w.StaysAt id := by
  intro m hm
  rcases h m hm with ⟨m', hm', departs⟩ | ⟨stays, _⟩
  · exact hv m' hm' ∘ departs
  · exact stays

theorem not_contains (h : Stems elsewhere id v w) (gone : ¬v.contains id)
    (nobody : ∀ m ∈ elsewhere, m.id = id → m.isDeparting) : ¬w.contains id := by
  intro known
  have ⟨m, hm⟩ := contains_iff.mp known
  rcases h m hm with ⟨m', hm', _⟩ | ⟨_, m', mem, same, stays⟩
  · exact gone (contains_iff.mpr ⟨m', hm'⟩)
  · exact stays (nobody m' mem same)

theorem touch : Stems elsewhere id v (v.touch i now) := by
  intro m hm
  rw [member?_touch, Option.map_eq_some_iff] at hm
  have ⟨m', hm', e⟩ := hm
  have : m.status = m'.status := by
    rw [← e]
    split <;> rfl
  exact .inl ⟨m', hm', by rw [Member.isDeparting, this]; exact fun departs => departs⟩

theorem setStatus (hs : ¬status.isDeparting) : Stems elsewhere id v (v.setStatus i status) := by
  intro m hm
  rw [member?_setStatus, Option.map_eq_some_iff] at hm
  have ⟨m', hm', e⟩ := hm
  refine .inl ⟨m', hm', fun departs => ?_⟩
  split at e
  case isTrue =>
    subst e
    exact absurd departs hs
  case isFalse => exact e ▸ departs

theorem revive : Stems elsewhere id v (Turn.revive v address now).1 := by
  rw [Turn.revive]
  split
  case h_1 => exact .of_member?_eq rfl
  case h_2 =>
    dsimp only
    split
    case isTrue => exact touch.trans (setStatus (by decide))
    case isFalse => exact touch

theorem suspectAll : Stems elsewhere id v (Turn.suspectAll v ids) := by
  induction ids generalizing v with
  | nil => exact .of_member?_eq rfl
  | cons i ids ih => exact (setStatus (by decide)).trans ih

theorem remove : Stems elsewhere id v (v.remove i) := by
  intro m hm
  rw [member?_remove] at hm
  split at hm
  case isTrue => exact nomatch hm
  case isFalse => exact .inl ⟨m, hm, fun departs => departs⟩

theorem removeAll : Stems elsewhere id v (Turn.removeAll v ids) := by
  induction ids generalizing v with
  | nil => exact .of_member?_eq rfl
  | cons i ids ih => exact remove.trans ih

theorem add (hm : m.id = id → ¬m.isDeparting ∧ ∃ m' ∈ elsewhere, m'.id = id ∧ ¬m'.isDeparting) :
    Stems elsewhere id v (v.add m) := by
  intro m' hm'
  rw [member?_add] at hm'
  split at hm'
  case isTrue same => exact .inr <| Option.some_inj.mp hm' ▸ hm same.1
  case isFalse => exact .inl ⟨m', hm', fun departs => departs⟩

theorem merge (hw : other.StaysAt id) (ho : ∀ m ∈ other.members.rows, m ∈ elsewhere) :
    Stems elsewhere id v (v.merge other options now).1 := by
  intro m hm
  have foreign {b} (theirs : other.member? id = some b) (departs : m.isDeparting → b.isDeparting) :
      ¬m.isDeparting ∧ ∃ m' ∈ elsewhere, m'.id = id ∧ ¬m'.isDeparting := by
    have ⟨mem, same⟩ := member?_eq_some_iff.mp theirs
    exact ⟨hw b theirs ∘ departs, b, ho b mem, same, hw b theirs⟩
  rw [member?_merge] at hm
  cases ours : v.member? id with
  | none =>
    rw [ours, Option.merge_none_left] at hm
    exact .inr (foreign hm fun departs => departs)
  | some a =>
    cases theirs : other.member? id with
    | none =>
      rw [ours, theirs, Option.merge_none_right] at hm
      exact .inl ⟨m, hm, fun departs => departs⟩
    | some b =>
      rw [ours, theirs] at hm
      injection hm with hm
      subst hm
      rcases Member.isDeparting_reconcile a b with e | e
      · exact .inl ⟨a, rfl, e.symm.trans⟩
      · exact .inr (foreign theirs e.symm.trans)

end Stems

theorem staysAt_removeAll (h : id ∈ ids ∨ v.StaysAt id) : (Turn.removeAll v ids).StaysAt id := by
  intro m hm
  rw [member?_removeAll] at hm
  split at hm
  case isTrue => exact nomatch hm
  case isFalse out => exact h.resolve_left out m hm

theorem trimmed_refresh : (refresh v).trimmed v.vectorBound = (refresh v).versions :=
  trimmed_eq (fun _ => Iff.rfl) (.inr rfl)

theorem trimmed_remove (h : v.contains i ∨ v.trimmed v.vectorBound = v.versions) :
    (v.remove i).trimmed v.vectorBound = (v.remove i).versions := by
  cases hi : v.member? i with
  | some m =>
    have : v.remove i = refresh { v with members := v.members.erase i } := by rw [remove, remove?, hi]; rfl
    exact this ▸ trimmed_refresh (v := { v with members := v.members.erase i })
  | none =>
    have : v.remove i = v := by rw [remove, remove?, hi]; rfl
    rw [this]
    refine h.resolve_left fun known => ?_
    obtain ⟨m, hm⟩ := contains_iff.mp known
    exact Option.some_ne_none m (hm.symm.trans hi)

theorem trimmed_removeAll (h : v.trimmed v.vectorBound = v.versions) :
    (Turn.removeAll v ids).trimmed v.vectorBound = (Turn.removeAll v ids).versions := by
  induction ids generalizing v with
  | nil => exact h
  | cons i ids ih =>
    have := trimmed_remove (i := i) (.inr h)
    rw [← vectorBound_remove (v := v) (i := i)] at this ⊢
    exact ih this

-- A view is cut down to its bound as soon as it loses a member.
theorem trimmed_removeAll_cons (h : v.contains i) :
    (Turn.removeAll v (i :: ids)).trimmed v.vectorBound = (Turn.removeAll v (i :: ids)).versions := by
  have := trimmed_remove (.inl h)
  rw [← vectorBound_remove (v := v) (i := i)] at this ⊢
  exact trimmed_removeAll this

end View

end GossipCluster
