import FleetConfig.Proofs.Store.Saving

/-!
# What is kept in documents

Contracts and contexts can be kept in documents without loss: any text with any characters in it,
any number of servers, plugins, tools, arguments and variables, empty sections and absent ones. What
is printed is read back, and what is saved is loaded.
-/

namespace FleetConfig

open Store

/-- What is printed is read back as it was, and what is saved is loaded, pruned. The durations of a
contract must be such that a text can denote them. -/
theorem Document.persistent :
    (∀ k : Contract, k.InRange → Document.parse (Document.print k) = .ok k) ∧
      (∀ x : Context, Document.parse (Document.print x) = .ok x) ∧
      (∀ (k : Contract) (p : Path) (t t' : FileTree), k.InRange →
        (save p k).runOn t = (.ok (), t') → (load p).runOn t' = (.ok k.prune, t')) ∧
      ∀ (x : Context) (p : Path) (t t' : FileTree),
        (save p x).runOn t = (.ok (), t') → (load p).runOn t' = (.ok x, t') := by
  refine ⟨fun k h => Contract.parse_print_eq h, Context.parse_print_eq, ?_, ?_⟩
  · intro k p t t' hrange h
    exact load_of_writes (runOn_save_eq_ok h) hrange.prune
  · intro x p t t' h
    exact load_of_writes (d := Document.prune x) (runOn_save_eq_ok h) trivial

/-- A contract with texts that need quotes, escapes and lines of their own, and with sections that
say nothing. -/
def awkwardContract : Contract where
  servers := [{ name := "a.b", package := "one\n\"two\"'''\x07 ☃", env := .ofList [("", "=\t")] }]
  daemon := some { api := some { timeout := some { shutdown := some ⟨Duration.maxNanos⟩ } },
                   mcp := some {} }
  plugins := some (({} : Catalogue).withPlugins .audit [{ name := "p", required := some false }])

theorem Document.persistent_awkwardContract :
    Document.parse (Document.print awkwardContract) = .ok awkwardContract ∧
      ∃ t', (save ⟨"c.toml"⟩ awkwardContract).runOn { entries := [], workingDir := [] } =
          (.ok (), t') ∧
        (load ⟨"c.toml"⟩).runOn t' = (.ok awkwardContract.prune, t') := by
  have hrange : awkwardContract.InRange := List.forall_mem_singleton.2 (Nat.le_refl _)
  have hsave : (save ⟨"c.toml"⟩ awkwardContract).runOn { entries := [], workingDir := [] } =
      (.ok (), FileTree.put { entries := [], workingDir := [] } ["c.toml"]
        (.file (Document.print (Document.prune awkwardContract)).toUTF8)) := by
    rfl
  exact ⟨Document.persistent.1 _ hrange, _, hsave,
    Document.persistent.2.2.1 _ _ _ _ hrange hsave⟩

end FleetConfig
