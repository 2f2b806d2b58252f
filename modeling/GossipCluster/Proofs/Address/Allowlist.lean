import GossipCluster.Proofs.Address.HostPort

namespace GossipCluster

namespace Address

open Text

-- A host goes by a name without a port, with or without brackets around it.
def Names (entry host : String) : Prop :=
  entry ≠ "" ∧ '/' ∉ entry.toList ∧ (∀ h port, ¬Written h port entry) ∧ Stripped AddressAllowlist.isBracket entry host

-- A block of addresses has the one that the host stands for.
def Encloses (entry host : String) : Prop :=
  '/' ∈ entry.toList ∧ ∃ b ip, IpBlock.parse? entry = some b ∧ Ip.parse? host = some ip ∧ b.contains ip

-- An entry is the address itself, or is about its host.
def Covers (entry address : String) : Prop :=
  (entry = address ∧ '/' ∉ entry.toList ∧ ∃ host port, Written host port entry) ∨
    ∃ host, HostOf address host ∧ (Names entry host ∨ Encloses entry host)

variable {entry address host : String}

theorem exists_written_iff : (∃ host port, Written host port entry) ↔ (split? entry).isSome := by
  simp only [written_iff, Option.isSome_iff_exists, Prod.exists]

theorem not_covers_empty : ¬Covers "" address := by
  rintro (⟨rfl, _, written⟩ | ⟨_, _, ⟨named, _⟩ | ⟨slash, _⟩⟩)
  · exact absurd (exists_written_iff.mp written) (by decide +kernel)
  · exact named rfl
  · exact absurd slash (by decide)

theorem covers_host_iff : (∃ host, HostOf address host ∧ (Names entry host ∨ Encloses entry host)) ↔
    Names entry (Address.host address) ∨ Encloses entry (Address.host address) := by
  simp [hostOf_iff]

end Address

namespace AddressAllowlist

open Address Text

variable {entry address : String} {entries : List String} {rule : AddressRule} {l : AddressAllowlist}

theorem withoutBrackets_eq : withoutBrackets entry = strip isBracket entry := rfl

theorem covers_iff_of_slash (slash : '/' ∈ entry.toList) : Covers entry address ↔ Encloses entry (Address.host address) := by
  rw [Covers, covers_host_iff]
  simp [Names, slash]

theorem covers_iff_of_written (plain : '/' ∉ entry.toList) (written : ∃ host port, Written host port entry) :
    Covers entry address ↔ entry = address := by
  rw [Covers, covers_host_iff]
  simp [Names, Encloses, plain, written]

theorem covers_iff_of_unwritten (nonblank : entry ≠ "") (plain : '/' ∉ entry.toList)
    (unwritten : ∀ host port, ¬Written host port entry) :
    Covers entry address ↔ strip isBracket entry = Address.host address := by
  rw [Covers, covers_host_iff]
  simp [Names, Encloses, nonblank, plain, unwritten, stripped_iff]

-- What an entry was read as says the same of an address.
theorem admits_iff (nonblank : entry ≠ "") (read : parseRule entry = .ok rule) : admits address rule ↔ Covers entry address := by
  rw [parseRule] at read
  split at read
  case isTrue slash =>
    rw [covers_iff_of_slash (by simpa using slash)]
    split at read
    case h_1 b block =>
      obtain rfl := Except.ok.inj read
      have slash : '/' ∈ entry.toList := by simpa using slash
      simp [admits, Encloses, slash, block, Option.any_eq_true]
    case h_2 => exact nomatch read
  case isFalse plain =>
    have plain : '/' ∉ entry.toList := by simpa using plain
    split at read
    case isTrue written =>
      obtain rfl := Except.ok.inj read
      rw [covers_iff_of_written plain (exists_written_iff.mpr written), admits, decide_eq_true_eq]
    case isFalse unwritten =>
      have unwritten : ∀ host port, ¬Written host port entry := by simpa using mt exists_written_iff.mp unwritten
      obtain rfl := Except.ok.inj read
      rw [covers_iff_of_unwritten nonblank plain unwritten, admits, decide_eq_true_eq, withoutBrackets_eq]

theorem mem_of_mapM {α β ε : Type} {f : α → Except ε β} {as : List α} {bs : List β} (h : as.mapM f = .ok bs) :
    (∀ b, b ∈ bs ↔ ∃ a ∈ as, f a = .ok b) ∧ ∀ a ∈ as, ∃ b, f a = .ok b := by
  induction as generalizing bs with
  | nil =>
    obtain rfl := Except.ok.inj h
    simp
  | cons a as ih =>
    rw [List.mapM_cons] at h
    cases first : f a with
    | error => rw [first] at h; exact nomatch h
    | ok c =>
      cases rest : as.mapM f with
      | error => rw [first, rest] at h; exact nomatch h
      | ok cs =>
        rw [first, rest] at h
        obtain rfl := Except.ok.inj h
        have ⟨mem, read⟩ := ih rest
        exact ⟨fun b => by simp [mem, first, eq_comm], List.forall_mem_cons.mpr ⟨⟨c, first⟩, read⟩⟩

theorem rules_of_parse (parsed : parse entries = .ok l) :
    ((entries.map trim).filter (· != "")).mapM parseRule = .ok l.rules := by
  rw [parse] at parsed
  cases read : ((entries.map trim).filter (· != "")).mapM parseRule with
  | error => rw [read] at parsed; exact nomatch parsed
  | ok rules =>
    rw [read] at parsed
    obtain rfl := Except.ok.inj parsed
    rfl

theorem mem_rules_iff (parsed : parse entries = .ok l) :
    rule ∈ l.rules ↔ ∃ entry ∈ entries, trim entry ≠ "" ∧ parseRule (trim entry) = .ok rule := by
  rw [(mem_of_mapM (rules_of_parse parsed)).1]
  simp [and_assoc]

theorem exists_rule (parsed : parse entries = .ok l) (mem : entry ∈ entries) (nonblank : trim entry ≠ "") :
    ∃ rule ∈ l.rules, parseRule (trim entry) = .ok rule := by
  obtain ⟨rule, read⟩ := (mem_of_mapM (rules_of_parse parsed)).2 (trim entry) (by simpa using ⟨⟨entry, mem, rfl⟩, nonblank⟩)
  exact ⟨rule, (mem_rules_iff parsed).mpr ⟨entry, mem, nonblank, read⟩, read⟩

theorem isEmpty_iff (parsed : parse entries = .ok l) : l.isEmpty ↔ ∀ entry ∈ entries, trim entry = "" := by
  rw [isEmpty, List.isEmpty_iff, List.eq_nil_iff_forall_not_mem]
  constructor
  case mp =>
    intro ruleless entry mem
    by_contra nonblank
    obtain ⟨rule, listed, _⟩ := exists_rule parsed mem nonblank
    exact ruleless rule listed
  case mpr =>
    intro blank rule listed
    obtain ⟨entry, mem, nonblank, _⟩ := (mem_rules_iff parsed).mp listed
    exact nonblank (blank entry mem)

theorem allows_iff (parsed : parse entries = .ok l) : l.allows address ↔
    (∀ entry ∈ entries, trim entry = "") ∨ ∃ entry ∈ entries, Covers (trim entry) address := by
  rw [allows, Bool.or_eq_true, isEmpty_iff parsed, List.any_eq_true]
  refine or_congr_right ?_
  constructor
  case mp =>
    rintro ⟨rule, listed, admitted⟩
    obtain ⟨entry, mem, nonblank, read⟩ := (mem_rules_iff parsed).mp listed
    exact ⟨entry, mem, (admits_iff nonblank read).mp admitted⟩
  case mpr =>
    rintro ⟨entry, mem, covered⟩
    have nonblank : trim entry ≠ "" := fun blank => not_covers_empty (blank ▸ covered)
    obtain ⟨rule, listed, read⟩ := exists_rule parsed mem nonblank
    exact ⟨rule, listed, (admits_iff nonblank read).mpr covered⟩

theorem allows_covered (parsed : parse entries = .ok l) (address : String) :
    (l.allows address ↔ (∀ entry ∈ entries, Stripped isBlank entry "") ∨
      ∃ entry ∈ entries, ∃ rule, Stripped isBlank entry rule ∧ Covers rule address) ∧
    ∀ host port, Written host port address → (∃ entry ∈ entries, ∃ rule, Stripped isBlank entry rule ∧
      (Names rule host ∨ Encloses rule host)) → l.allows address := by
  have exact : l.allows address ↔ (∀ entry ∈ entries, Stripped isBlank entry "") ∨
      ∃ entry ∈ entries, ∃ rule, Stripped isBlank entry rule ∧ Covers rule address := by
    simp [allows_iff parsed, stripped_iff, trim_eq]
  refine ⟨exact, fun host port written ⟨entry, mem, rule, stripped, about⟩ => ?_⟩
  exact exact.mpr <| .inr ⟨entry, mem, rule, stripped, .inr ⟨host, .inl ⟨port, written⟩, about⟩⟩

-- A host by name, a block, a host with colons in brackets, and an address with its port.
theorem allows_covered_of_five :
    let entries := ["  node-a.internal ", "10.1.0.0/16", "[fd00::1]", "", "10.0.0.5:7000"]
    let l : AddressAllowlist := ⟨[.host "node-a.internal", .block ⟨.v4 0x0a010000, 16⟩, .host "fd00::1",
      .hostPort "10.0.0.5:7000"]⟩
    parse entries = .ok l ∧ Written "fd00::1" 7000 "[fd00::1]:7000" ∧ Names "[fd00::1]" "fd00::1" ∧
      l.allows "[fd00::1]:7000" ∧ ¬l.allows "10.0.0.5:7001" ∧
      ¬∃ entry ∈ entries, ∃ rule, Stripped isBlank entry rule ∧ Covers rule "10.0.0.5:7001" := by
  intro entries l
  have parsed : parse entries = .ok l := by decide +kernel
  have written : Written "fd00::1" 7000 "[fd00::1]:7000" := .bracketed "7000" (by decide +kernel) (by decide)
  have unwritten : ∀ h port, ¬Written h port "[fd00::1]" := fun h port written =>
    absurd (exists_written_iff.mp ⟨h, port, written⟩) (by decide +kernel)
  have names : Names "[fd00::1]" "fd00::1" :=
    ⟨by decide, by decide, unwritten, stripped_iff.mpr (by decide +kernel)⟩
  have stripped : Stripped isBlank "[fd00::1]" "[fd00::1]" := stripped_iff.mpr (by decide +kernel)
  have allowed : l.allows "[fd00::1]:7000" :=
    (allows_covered parsed _).2 _ _ written ⟨_, by simp [entries], _, stripped, .inl names⟩
  have refused : ¬l.allows "10.0.0.5:7001" := by decide +kernel
  exact ⟨parsed, written, names, allowed, refused, fun covered =>
    refused ((allows_covered parsed _).1.mpr (.inr covered))⟩

-- The only entry is blank: it is about nobody, and everybody is let in.
theorem allows_of_blank :
    parse [" "] = .ok ⟨[]⟩ ∧ AddressAllowlist.allows ⟨[]⟩ "10.0.0.5:7000" ∧
      ¬∃ entry ∈ [" "], ∃ rule, Stripped isBlank entry rule ∧ Covers rule "10.0.0.5:7000" := by
  refine ⟨by decide +kernel, by decide +kernel, ?_⟩
  rintro ⟨entry, mem, rule, stripped, covered⟩
  obtain rfl := List.mem_singleton.mp mem
  have blank : strip isBlank " " = "" := by decide +kernel
  obtain rfl := (stripped_iff.mp stripped).symm.trans blank
  exact not_covers_empty covered

end AddressAllowlist

end GossipCluster
