import FleetConfig.Document.Basic
import FleetConfig.Proofs.Document.Decoding
import FleetConfig.Proofs.Duration.RoundTrip

/-!
# Durations in range

A text can denote a duration of at most `Duration.maxNanos`, so a longer duration could be written
but not read. All durations of a contract that was read are in range, and pruning keeps them so.

## Main definitions

* `Contract.durations` — all durations of a contract, section by section.
* `Contract.InRange` — they can be read back.

## Main results

* `Contract.inRange_of_decode` — contracts that are read are in range.
* `Contract.InRange.prune` — so are pruned ones.
-/

namespace FleetConfig

open Toml (Decoder Fault Node)

/-- Holds of durations that a text can denote. -/
def Duration.InRange (d : Duration) : Prop := d.nanos ≤ maxNanos

theorem Duration.inRange_of_decode {left : Nat} {node : Node} {d : Duration}
    (h : Duration.decode left node = .ok d) : d.InRange := by
  obtain ⟨s, -, h⟩ := bind_eq_ok.1 h
  exact nanos_le_of_parse (mapError_eq_ok.1 h)

/-! ### Durations of the sections -/

namespace Daemon

/-- The durations of the interface's timeouts. -/
def ApiTimeout.durations (t : ApiTimeout) : List Duration := t.shutdown.toList

/-- The durations of what other origins are allowed. -/
def Cors.durations (c : Cors) : List Duration := c.maxAge.toList

/-- The durations of the interface's section. -/
def Api.durations (a : Api) : List Duration :=
  a.timeout.toList.flatMap ApiTimeout.durations ++ a.cors.toList.flatMap Cors.durations

/-- The durations of the timeouts of servers. -/
def McpTimeout.durations (t : McpTimeout) : List Duration :=
  t.shutdown.toList ++ t.init.toList ++ t.health.toList

/-- The durations of the intervals of servers. -/
def McpInterval.durations (i : McpInterval) : List Duration := i.health.toList

/-- The durations of the servers' section. -/
def Mcp.durations (m : Mcp) : List Duration :=
  m.timeout.toList.flatMap McpTimeout.durations ++
    m.interval.toList.flatMap McpInterval.durations

/-- The durations of the daemon section. -/
def durations (d : Daemon) : List Duration :=
  d.api.toList.flatMap Api.durations ++ d.mcp.toList.flatMap Mcp.durations

end Daemon

/-- The durations of a contract. -/
def Contract.durations (k : Contract) : List Duration := k.daemon.toList.flatMap Daemon.durations

/-- The durations of a contract can all be read back. -/
def Contract.InRange (k : Contract) : Prop := ∀ d ∈ k.durations, d.InRange

theorem forall_mem_toList_flatMap {α β : Type} {a? : Option α} {f : α → List β} {P : β → Prop} :
    (∀ b ∈ a?.toList.flatMap f, P b) ↔ ∀ a ∈ a?, ∀ b ∈ f a, P b := by
  cases a? <;> simp

/-! ### Sections as they are read -/

namespace Daemon

variable {left : Nat} {node : Node}

theorem ApiTimeout.inRange_of_decode {t : ApiTimeout} (h : decode left node = .ok t) :
    ∀ d ∈ t.durations, d.InRange := by
  refine Decoder.record_invariant (P := fun t : ApiTimeout => ∀ d ∈ t.durations, d.InRange)
    (by simp [durations]) (fun name acc left node acc' hacc hset => ?_) h
  split at hset
  · obtain ⟨d, hd, hset⟩ := bind_eq_ok.1 hset
    cases hset
    exact List.forall_mem_singleton.2 (Duration.inRange_of_decode hd)
  · cases hset
    exact hacc

theorem McpInterval.inRange_of_decode {i : McpInterval} (h : decode left node = .ok i) :
    ∀ d ∈ i.durations, d.InRange := by
  refine Decoder.record_invariant (P := fun i : McpInterval => ∀ d ∈ i.durations, d.InRange)
    (by simp [durations]) (fun name acc left node acc' hacc hset => ?_) h
  split at hset
  · obtain ⟨d, hd, hset⟩ := bind_eq_ok.1 hset
    cases hset
    exact List.forall_mem_singleton.2 (Duration.inRange_of_decode hd)
  · cases hset
    exact hacc

theorem McpTimeout.inRange_of_decode {t : McpTimeout} (h : decode left node = .ok t) :
    ∀ d ∈ t.durations, d.InRange := by
  refine Decoder.record_invariant (P := fun t : McpTimeout => ∀ d ∈ t.durations, d.InRange)
    (by simp [durations]) (fun name acc left node acc' hacc hset => ?_) h
  simp only [durations, List.forall_mem_append] at hacc ⊢
  obtain ⟨⟨hshutdown, hinit⟩, hhealth⟩ := hacc
  split at hset
  · obtain ⟨d, hd, hset⟩ := bind_eq_ok.1 hset
    cases hset
    exact ⟨⟨List.forall_mem_singleton.2 (Duration.inRange_of_decode hd), hinit⟩, hhealth⟩
  · obtain ⟨d, hd, hset⟩ := bind_eq_ok.1 hset
    cases hset
    exact ⟨⟨hshutdown, List.forall_mem_singleton.2 (Duration.inRange_of_decode hd)⟩, hhealth⟩
  · obtain ⟨d, hd, hset⟩ := bind_eq_ok.1 hset
    cases hset
    exact ⟨⟨hshutdown, hinit⟩, List.forall_mem_singleton.2 (Duration.inRange_of_decode hd)⟩
  · cases hset
    exact ⟨⟨hshutdown, hinit⟩, hhealth⟩

theorem Cors.inRange_of_decode {c : Cors} (h : decode left node = .ok c) :
    ∀ d ∈ c.durations, d.InRange := by
  refine Decoder.record_invariant (P := fun c : Cors => ∀ d ∈ c.durations, d.InRange)
    (by simp [durations]) (fun name acc left node acc' hacc hset => ?_) h
  split at hset
  case h_7 =>
    obtain ⟨d, hd, hset⟩ := bind_eq_ok.1 hset
    cases hset
    exact List.forall_mem_singleton.2 (Duration.inRange_of_decode hd)
  case h_8 =>
    cases hset
    exact hacc
  all_goals
    -- The other fields hold no duration.
    obtain ⟨_, -, hset⟩ := bind_eq_ok.1 hset
    cases hset
    exact hacc

theorem Api.inRange_of_decode {a : Api} (h : decode left node = .ok a) :
    ∀ d ∈ a.durations, d.InRange := by
  refine Decoder.record_invariant (P := fun a : Api => ∀ d ∈ a.durations, d.InRange)
    (by simp [durations]) (fun name acc left node acc' hacc hset => ?_) h
  simp only [durations, List.forall_mem_append, forall_mem_toList_flatMap] at hacc ⊢
  obtain ⟨htimeout, hcors⟩ := hacc
  split at hset
  · obtain ⟨_, -, hset⟩ := bind_eq_ok.1 hset
    cases hset
    exact ⟨htimeout, hcors⟩
  · obtain ⟨t, ht, hset⟩ := bind_eq_ok.1 hset
    cases hset
    exact ⟨fun _ heq => by cases heq; exact ApiTimeout.inRange_of_decode ht, hcors⟩
  · obtain ⟨c, hc, hset⟩ := bind_eq_ok.1 hset
    cases hset
    exact ⟨htimeout, fun _ heq => by cases heq; exact Cors.inRange_of_decode hc⟩
  · cases hset
    exact ⟨htimeout, hcors⟩

theorem Mcp.inRange_of_decode {m : Mcp} (h : decode left node = .ok m) :
    ∀ d ∈ m.durations, d.InRange := by
  refine Decoder.record_invariant (P := fun m : Mcp => ∀ d ∈ m.durations, d.InRange)
    (by simp [durations]) (fun name acc left node acc' hacc hset => ?_) h
  simp only [durations, List.forall_mem_append, forall_mem_toList_flatMap] at hacc ⊢
  obtain ⟨htimeout, hinterval⟩ := hacc
  split at hset
  · obtain ⟨t, ht, hset⟩ := bind_eq_ok.1 hset
    cases hset
    exact ⟨fun _ heq => by cases heq; exact McpTimeout.inRange_of_decode ht, hinterval⟩
  · obtain ⟨i, hi, hset⟩ := bind_eq_ok.1 hset
    cases hset
    exact ⟨htimeout, fun _ heq => by cases heq; exact McpInterval.inRange_of_decode hi⟩
  · cases hset
    exact ⟨htimeout, hinterval⟩

theorem inRange_of_decode {d : Daemon} (h : decode left node = .ok d) :
    ∀ t ∈ d.durations, t.InRange := by
  refine Decoder.record_invariant (P := fun d : Daemon => ∀ t ∈ d.durations, t.InRange)
    (by simp [durations]) (fun name acc left node acc' hacc hset => ?_) h
  simp only [durations, List.forall_mem_append, forall_mem_toList_flatMap] at hacc ⊢
  obtain ⟨hapi, hmcp⟩ := hacc
  split at hset
  · obtain ⟨a, ha, hset⟩ := bind_eq_ok.1 hset
    cases hset
    exact ⟨fun _ heq => by cases heq; exact Api.inRange_of_decode ha, hmcp⟩
  · obtain ⟨m, hm, hset⟩ := bind_eq_ok.1 hset
    cases hset
    exact ⟨hapi, fun _ heq => by cases heq; exact Mcp.inRange_of_decode hm⟩
  · cases hset
    exact ⟨hapi, hmcp⟩

end Daemon

namespace Contract

/-- A contract that is read has all durations in range. -/
theorem inRange_of_decode {left : Nat} {node : Node} {k : Contract}
    (h : decode left node = .ok k) : k.InRange := by
  refine Decoder.record_invariant (P := InRange) (by simp [InRange, durations])
    (fun name acc left node acc' hacc hset => ?_) h
  simp only [InRange, durations, forall_mem_toList_flatMap] at hacc ⊢
  split at hset
  · obtain ⟨_, -, hset⟩ := bind_eq_ok.1 hset
    cases hset
    exact hacc
  · obtain ⟨d, hd, hset⟩ := bind_eq_ok.1 hset
    cases hset
    intro _ heq
    cases heq
    exact Daemon.inRange_of_decode hd
  · obtain ⟨_, -, hset⟩ := bind_eq_ok.1 hset
    cases hset
    exact hacc
  · cases hset
    exact hacc

end Contract

/-! ### Pruning -/

namespace Daemon

theorem mem_of_mem_dropEmpty {α : Type} [DecidableEq α] [Inhabited α] {a : α} {a? : Option α}
    (h : a ∈ dropEmpty a?) : a ∈ a? := by
  rw [dropEmpty] at h
  split at h
  · cases h
  · exact h

theorem Api.inRange_prune {a : Api} (h : ∀ d ∈ a.durations, d.InRange) :
    ∀ d ∈ a.prune.durations, d.InRange := by
  simp only [durations, prune, List.forall_mem_append, forall_mem_toList_flatMap] at h ⊢
  exact ⟨fun t ht => h.1 t (mem_of_mem_dropEmpty ht), fun c hc => h.2 c (mem_of_mem_dropEmpty hc)⟩

theorem Mcp.inRange_prune {m : Mcp} (h : ∀ d ∈ m.durations, d.InRange) :
    ∀ d ∈ m.prune.durations, d.InRange := by
  simp only [durations, prune, List.forall_mem_append, forall_mem_toList_flatMap] at h ⊢
  exact ⟨fun t ht => h.1 t (mem_of_mem_dropEmpty ht), fun i hi => h.2 i (mem_of_mem_dropEmpty hi)⟩

theorem inRange_prune {d : Daemon} (h : ∀ t ∈ d.durations, t.InRange) :
    ∀ t ∈ d.prune.durations, t.InRange := by
  simp only [durations, prune, List.forall_mem_append, forall_mem_toList_flatMap] at h ⊢
  constructor
  · intro a ha
    obtain ⟨a', ha', rfl⟩ := Option.map_eq_some_iff.1 (mem_of_mem_dropEmpty ha)
    exact Api.inRange_prune (h.1 a' ha')
  · intro m hm
    obtain ⟨m', hm', rfl⟩ := Option.map_eq_some_iff.1 (mem_of_mem_dropEmpty hm)
    exact Mcp.inRange_prune (h.2 m' hm')

end Daemon

/-- Pruning brings no duration into a contract. -/
theorem Contract.InRange.prune {k : Contract} (h : k.InRange) : k.prune.InRange := by
  simp only [InRange, durations, Contract.prune, forall_mem_toList_flatMap] at h ⊢
  intro d hd
  obtain ⟨hd, -⟩ := Option.filter_eq_some_iff.1 hd
  obtain ⟨d', hd', rfl⟩ := Option.map_eq_some_iff.1 hd
  exact Daemon.inRange_prune (h d' hd')

end FleetConfig
