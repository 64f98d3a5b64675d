import FleetConfig.Document.Basic
import FleetConfig.Proofs.Results

/-!
# Texts of either kind

The servers of a contract are an array and those of a context are a table. So a text that is read
as a contract and as a context as well says nothing of servers.

## Main results

* `Document.servers_eq_nil_of_parse` — a contract whose text is that of a context has no servers.
-/

namespace FleetConfig

open Toml (Decoder Node)

/-- What is an array is no table. -/
theorem Toml.Decoder.entriesOf?_of_itemsOf? {node : Node} {items : List Node}
    (h : Decoder.itemsOf? node = some items) : Decoder.entriesOf? node = none := by
  cases node with
  | array items left => rfl
  | tables items => rfl
  | scalar value left => cases h
  | table form left es => cases h

/-- No node is read both as a list and as a map. -/
theorem Toml.Decoder.not_map_of_list {α β : Type} {item : Decoder α} {value : Decoder β}
    {left left' : Nat} {node : Node} {as : List α} (h : Decoder.list item left node = .ok as)
    (m : NameMap β) : Decoder.map value left' node ≠ .ok m := by
  rw [Decoder.list] at h
  rw [Decoder.map]
  split at h
  · rename_i items hitems
    rw [Decoder.entriesOf?_of_itemsOf? hitems]
    exact nofun
  · cases h

namespace Document

/-- A contract whose text is that of a context has no servers. -/
theorem servers_eq_nil_of_parse {s : String} {k : Contract} {x : Context}
    (hk : Document.parse s = .ok k) (hx : Document.parse s = .ok x) : k.servers = [] := by
  obtain ⟨es, hes, hk⟩ := bind_eq_ok.1 (mapError_eq_ok.1 hk)
  obtain ⟨es', hes', hx⟩ := bind_eq_ok.1 (mapError_eq_ok.1 hx)
  cases hes.symm.trans hes'
  refine foldlM_invariant_of_mem (P := fun acc : Contract => acc.servers = []) ?_ rfl hk
  intro field hfield acc acc' hacc hstep
  obtain ⟨_, _, hread⟩ := exists_step_of_foldlM hx field hfield
  dsimp only at hstep hread
  by_cases hname : field.1 = "servers"
  · rw [hname] at hstep hread
    obtain ⟨ss, hlist, -⟩ := bind_eq_ok.1 hstep
    obtain ⟨m, hmap, -⟩ := bind_eq_ok.1 hread
    exact absurd hmap (Toml.Decoder.not_map_of_list hlist m)
  · split at hstep
    · contradiction
    · obtain ⟨_, -, hstep⟩ := bind_eq_ok.1 hstep
      cases hstep
      exact hacc
    · obtain ⟨_, -, hstep⟩ := bind_eq_ok.1 hstep
      cases hstep
      exact hacc
    · cases hstep
      exact hacc

end Document

end FleetConfig
