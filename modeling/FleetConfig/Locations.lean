import FleetConfig.Files.Path

/-!
# Where documents are kept

The contract of a project lies in its directory. The execution context belongs to a user and lies in
the user's directory for configuration.

## Main definitions

* `Locations` — the paths of the two documents.
* `Locations.userDir?`, `Locations.defaultContext?` — the default place of the execution context.
-/

namespace FleetConfig

/-- The paths of the two documents. -/
structure Locations where
  /-- The contract. -/
  contract : Path
  /-- The execution context. -/
  context : Path
deriving DecidableEq, Inhabited

namespace Locations

/-- The default path of the contract. -/
def defaultContract : Path := ⟨".mcpd.toml"⟩

/-- The user's directory for configuration: under the given directory, if that is a path from the
root, else under the home directory. -/
def userDir? (configHome home : Option String) : Option Path :=
  match configHome.filter fun dir => (⟨dir⟩ : Path).isAbsolute with
  | some dir => some ((⟨dir⟩ : Path).join "mcpd")
  | none => (home.filter (· != "")).map fun dir => ((⟨dir⟩ : Path).join ".config").join "mcpd"

/-- The default path of the execution context. -/
def defaultContext? (configHome home : Option String) : Option Path :=
  (userDir? configHome home).map (·.join "secrets.dev.toml")

end Locations

end FleetConfig
