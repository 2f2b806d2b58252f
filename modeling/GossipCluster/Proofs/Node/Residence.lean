import GossipCluster.Proofs.Node.Seclusion
import GossipCluster.Proofs.Node.SelfImage

namespace GossipCluster

namespace Turn

structure Stays (t u : Turn) : Prop where
  config : u.node.config = t.node.config
  site   : u.node.self.site = t.node.self.site

variable {t u w : Turn} {m : Member} {status : Status} {v incoming : View} {sender : Option Endpoint} {i : Input}

namespace Stays

theorem of_self (config : u.node.config = t.node.config) (self : u.node.self = t.node.self) : Stays t u :=
  ⟨config, congrArg Member.site self⟩

theorem refl (t : Turn) : Stays t t := ⟨rfl, rfl⟩

theorem trans (a : Stays t u) (b : Stays u w) : Stays t w :=
  ⟨b.config.trans a.config, b.site.trans a.site⟩

instance : IsPreorder Turn Stays where
  refl  := refl
  trans _ _ _ := trans

theorem of_quiet (h : Quiet t u) : Stays t u := of_self h.config h.self

theorem become (h : m.site = t.node.self.site) : Stays t (t.become m) := ⟨rfl, h⟩

theorem setSelf (h : m.site = t.node.self.site) : Stays t (t.setSelf m) := ⟨rfl, h⟩

theorem setStatus : Stays t (t.setStatus status) := ⟨rfl, rfl⟩

theorem heartbeat : Stays t t.heartbeat := ⟨rfl, rfl⟩

theorem setView : Stays t (t.setView v) := ⟨rfl, rfl⟩

theorem recordChange : Stays t t.recordChange := of_self Keeps.recordChange.config self_recordChange

theorem enterUp : Stays t t.enterUp := ⟨rfl, rfl⟩

theorem attend : Stays t (t.attend sender incoming).1 := by
  cases sender <;> exact ⟨rfl, rfl⟩

theorem learn : Stays t (t.learn incoming).1 := of_self Keeps.learn.config self_learn

theorem learnAll {views : List View} : Stays t (t.learnAll views).1 := learnAll_of fun _ _ _ => learn

theorem reassert : Stays t t.reassert :=
  reassert_of (setSelf rfl) (fun _ supersedes => setSelf supersedes.site) fun _ => recordChange

theorem depart : Stays t t.depart :=
  depart_of (fun _ => ⟨rfl, rfl⟩) (fun _ _ => setStatus) (fun _ => recordChange) fun _ => ⟨rfl, rfl⟩

end Stays

theorem Deed.stays (deed : Deed t i u) : Stays t u := by
  cases deed with
  | nothing => exact .refl t
  | beat => exact .heartbeat
  | discard => exact Stays.heartbeat.trans <| Stays.setView.trans .recordChange
  | absorb => exact Stays.attend.trans <| Stays.learn.trans .reassert
  | recover =>
    have idle : Stays t { t with node := { t.node with recovering := false } } := ⟨rfl, rfl⟩
    exact idle.trans <| Stays.learnAll.trans .reassert
  | enroll => exact Stays.setView.trans .recordChange
  | expel => exact Stays.setView.trans .recordChange
  | @rewrite _ state =>
    have rewritten : Stays t (t.become { t.node.self with state := state }) := .become rfl
    exact rewritten.trans <| Stays.setStatus.trans .recordChange
  | retry => exact ⟨rfl, rfl⟩
  | fail => exact ⟨rfl, rfl⟩
  | enter _ entered =>
    exact (Stays.become (site_of_entrant entered)).trans <| Stays.learn.trans <| Stays.setStatus.trans <|
      Stays.recordChange.trans .enterUp
  | depart => exact .depart

variable (t i) in
theorem stays_run : Stays t (t.run i) :=
  have ⟨_, deed, quiet⟩ := Does.run (t := t) (i := i)
  deed.stays.trans (.of_quiet quiet)

variable (t) in
theorem stays_start : Stays t t.start := by
  refine .trans ?_ (.of_quiet quiet_start)
  rw [opening]
  split
  case isTrue => exact Stays.setStatus.trans <| Stays.recordChange.trans .enterUp
  case isFalse => exact ⟨rfl, rfl⟩

end Turn

namespace Node

variable {config : Config} {n : Node}

-- A node of some configuration, from its creation to any moment after its start.
inductive Lives (config : Config) : Node → Prop
  | created {n now instant} : Node.create config now instant = .ok (some n) → Lives config n
  | started {n now instant} (host : Host) (hs : List Happening) : Node.create config now instant = .ok (some n) →
      Lives config ((n.start host).1.live hs)

-- What stays with a node as it is.
structure Resident (config : Config) (n : Node) : Prop where
  configured : n.config = config
  named      : n.self.cluster = config.clusterName

theorem Resident.stays {host : Host} {u : Turn} {effects : List Effect} (h : n.Resident config)
    (stays : Turn.Stays ⟨host, n, effects⟩ u) : u.node.Resident config where
  configured := stays.config.trans h.configured
  named      := (congrArg Prod.fst stays.site).trans h.named

theorem Resident.live (h : n.Resident config) (hs : List Happening) : (n.live hs).Resident config := by
  induction hs generalizing n with
  | nil => exact h
  | cons x hs ih =>
    refine ih ?_
    cases x with
    | input host i =>
      simp only [meet, step]
      exact h.stays (Turn.stays_run ⟨host, n, []⟩ i)
    | fired => exact ⟨h.configured, h.named⟩

theorem Lives.resident (h : n.Lives config) : n.Resident config := by
  cases h with
  | created created =>
    have ⟨_, configured, named⟩ := of_create created
    exact ⟨configured, named⟩
  | @started n _ _ host hs created =>
    have ⟨_, configured, named⟩ := of_create created
    have resident : n.Resident config := ⟨configured, named⟩
    refine Resident.live ?_ hs
    simp only [start]
    exact resident.stays (Turn.stays_start ⟨host, n, []⟩)

end Node

end GossipCluster
