import GossipCluster.Node.Attempt
import GossipCluster.Proofs.Node.Refusal
import GossipCluster.Proofs.Node.Residence
import GossipCluster.Proofs.Token.Acceptance
import GossipCluster.Proofs.Wire.Rejection

namespace GossipCluster

-- The secret that a node has been given. None is as good as an empty one.
def Config.secret (c : Config) : String := c.security.joinSecret.getD ""

namespace Turn

variable {t : Turn} {n : Node} {m : Member} {token id : String}

theorem joinToken_eq (h : n.config.secret ≠ "") :
    joinToken n = Token.join n.config.secret n.config.clusterName n.self.id n.address := by
  rw [Config.secret] at h
  rw [joinToken, Config.secret]
  split
  case h_1 none => exact absurd (by rw [none]; rfl) h
  case h_2 empty => exact absurd (by rw [empty]; rfl) h
  case h_3 secret _ given => rw [given]; rfl

-- A node proves who it is to all that have been given the same secret, and to those without one.
theorem acceptsJoin_joinToken {secret : String} (h : secret = "" ∨ secret = n.config.secret) :
    Token.acceptsJoin secret n.config.clusterName n.self.id n.address (joinToken n) := by
  by_cases empty : secret = ""
  case pos => simp [Token.acceptsJoin, Token.accepts, empty]
  case neg =>
    have same : secret = n.config.secret := h.resolve_left empty
    rw [joinToken_eq (same ▸ empty), ← same]
    exact Token.accepts_encode

theorem ite_error_eq_error_iff {c : Prop} [Decidable c] {error error' : Error} {rest : Except Error Unit} :
    (if c then .error error else rest) = .error error' ↔ c ∧ error = error' ∨ ¬c ∧ rest = .error error' := by
  split <;> simp_all

theorem checkIdentity_of_joinAuthFailed (h : checkIdentity n m token = .error (.joinAuthFailed id)) :
    m.cluster = n.config.clusterName ∧
      ¬Token.acceptsJoin n.config.secret n.config.clusterName m.id m.address token := by
  simp only [checkIdentity, ite_error_eq_error_iff] at h
  simp at h
  obtain ⟨named, _, _, unproven, _⟩ := h
  exact ⟨named, by simp [Config.secret, unproven]⟩

-- What comes after the check of the token has other causes.
theorem checkAdmission_of_joinAuthFailed (h : (t.checkAdmission m token).2 = .error (.joinAuthFailed id)) :
    checkIdentity t.node m token = .error (.joinAuthFailed id) := by
  rw [checkAdmission] at h
  split at h
  case h_1 error refused => exact h ▸ refused
  case h_2 =>
    dsimp only at h
    split at h
    case isFalse => cases h
    case isTrue =>
      simp only [checkQuorum] at h
      split at h <;> cases h

end Turn

namespace Node

variable {config : Config} {n joiner seed : Node} {host : Host} {e : Envelope} {x : Effect} {r : Rejection}
  {id : String}

-- A refusal carries the error that it is about.
theorem eq_ofError_of_rejects (h : x ∈ (n.step host (.envelope e)).2) (rejects : .rejected r ∈ x.messages) :
    ∃ error, Turn.verdict ⟨host, n, []⟩ e = .error error ∧ r = .ofError error := by
  have ⟨error, refused⟩ := refused_of_rejects h rejects
  refine ⟨error, refused, ?_⟩
  have ⟨limiter, left, _⟩ := Turn.receive_of_refused refused
  have h : x ∈ (Turn.receive ⟨host, n, []⟩ e).effects := h
  rw [left] at h
  rcases Envelope.mem_refusal h with ⟨_, rfl⟩ | rfl | ⟨_, rfl⟩
  · exact nomatch rejects
  · simpa [Effect.messages, Message.ofError] using rejects
  · simpa [Effect.messages, Message.ofError] using rejects

theorem verdict_of_joinAuthFailed (h : x ∈ (n.step host (.envelope e)).2) (rejects : .rejected r ∈ x.messages)
    (cause : r.toError = .joinAuthFailed id) : Turn.verdict ⟨host, n, []⟩ e = .error (.joinAuthFailed id) := by
  obtain ⟨error, refused, rfl⟩ := eq_ofError_of_rejects h rejects
  rw [Rejection.toError_ofError] at cause
  split at cause
  case isTrue => rw [refused, cause]
  case isFalse => exact nomatch cause

theorem secret_of_joinAuthFailed (lives : joiner.Lives config)
    (asks : e.message = .joinRequest joiner.self (Turn.joinToken joiner))
    (refused : Turn.verdict ⟨host, seed, []⟩ e = .error (.joinAuthFailed id)) :
    seed.config.secret ≠ "" ∧ config.secret ≠ seed.config.secret := by
  have ⟨configured, named⟩ := lives.resident
  simp only [Turn.verdict, asks] at refused
  obtain ⟨same, unproven⟩ := Turn.checkIdentity_of_joinAuthFailed (Turn.checkAdmission_of_joinAuthFailed refused)
  have cluster : seed.config.clusterName = joiner.config.clusterName := by
    rw [configured, ← named]
    exact same.symm
  rw [cluster] at unproven
  have differs := mt Turn.acceptsJoin_joinToken unproven
  rw [configured] at differs
  exact ⟨fun empty => differs (.inl empty), fun agree => differs (.inr agree.symm)⟩

theorem join_authentication :
    (∀ {config : Config} {joiner seed : Node} {host host' : Host} {attempt number : ℕ} {self : Member}
        {token id : String} {seeds : List String} {e : Envelope} {x : Effect} {r : Rejection}, joiner.Lives config →
      .join number self token ∈ (Turn.beginJoin ⟨host, joiner, []⟩ attempt).effects →
      e.message = (JoinAttempt.begin number self token seeds).request →
      x ∈ (seed.step host' (.envelope e)).2 → .rejected r ∈ x.messages → r.toError = .joinAuthFailed id →
        seed.config.secret ≠ "" ∧ config.secret ≠ seed.config.secret) ∧
    ∀ secret ≠ "", ∀ cluster nodeId address token,
      (Token.acceptsJoin secret cluster nodeId address token ↔
        token.toLower = Token.join secret cluster nodeId address) ∧
      (Token.acceptsAdmin (some secret) token ↔ token.toLower = Token.admin secret) := by
  constructor
  case left =>
    intro config joiner seed host host' attempt number self token id seeds e x r lives begun asks answer rejects cause
    simp only [Turn.beginJoin, Turn.emit, Turn.setPhase, List.nil_append, List.mem_singleton] at begun
    obtain ⟨_, rfl, rfl⟩ := Effect.join.inj begun
    exact secret_of_joinAuthFailed lives asks (verdict_of_joinAuthFailed answer rejects cause)
  case right =>
    intro secret given cluster nodeId address token
    exact ⟨Token.accepts_iff given, Token.accepts_iff given⟩

-- A seed has a secret and the joiner has none. The token that would do is good in capitals as well.
theorem join_authentication_refused : ∃ (config : Config) (joiner seed : Node) (host : Host), joiner.Lives config ∧
    .reply (.ofError (.joinAuthFailed "b")) ∈
      (seed.step host (.envelope ⟨none, .joinRequest joiner.self (Turn.joinToken joiner), true⟩)).2 ∧
    seed.config.secret ≠ "" ∧ config.secret ≠ seed.config.secret ∧
    Token.acceptsJoin "s3cret" "meshwork" "b" "b:1" (Token.join "s3cret" "meshwork" "b" "b:1").toUpper := by
  let config (id : String) (secret : Option String) : Config :=
    { node := { id := id, address := id ++ ":1" }, failure := { crossTimeout := some (.ofMillis 200) },
      security := { joinSecret := secret } }
  let host : Host := ⟨0, 0, ⟨[], []⟩, fun _ _ => [], []⟩
  have ⟨joiner, seed, created, _, answer⟩ : ∃ joiner seed : Node, Node.create (config "b" none) 0 0 = .ok (some joiner) ∧
      Node.create (config "a" (some "s3cret")) 0 0 = .ok (some seed) ∧ .reply (.ofError (.joinAuthFailed "b")) ∈
        (seed.step host (.envelope ⟨none, .joinRequest joiner.self (Turn.joinToken joiner), true⟩)).2 :=
    ⟨_, _, rfl, rfl, by decide +kernel⟩
  have lives : joiner.Lives (config "b" none) := .created created
  have begun : .join 0 joiner.self (Turn.joinToken joiner) ∈ (Turn.beginJoin ⟨host, joiner, []⟩ 0).effects :=
    List.mem_cons_self
  have asks : .joinRequest joiner.self (Turn.joinToken joiner) =
      (JoinAttempt.begin 0 joiner.self (Turn.joinToken joiner) ["a:1"]).request := rfl
  have cause : (Rejection.ofError (.joinAuthFailed "b")).toError = .joinAuthFailed "b" := rfl
  have ⟨agree, exact⟩ := join_authentication
  have ⟨given, differs⟩ := agree lives begun asks answer List.mem_cons_self cause
  refine ⟨config "b" none, joiner, seed, host, lives, answer, given, differs, ?_⟩
  exact (exact "s3cret" (by decide) ..).1.mpr (by decide +kernel)

end Node

end GossipCluster
