import FleetConfig.ConfigError
import FleetConfig.Text.Blank

/-!
# Categories of plugins

Plugins stand in categories, which run one after another in a fixed order.

## Main definitions

* `Plugin.Category` — the categories, in the order in which they run.
* `Plugin.Category.parse` — the category of a name.
-/

namespace FleetConfig.Plugin

/-- A category of plugins. -/
inductive Category where
  | authentication | authorization | rateLimiting | validation | content | observability | audit
deriving DecidableEq, Repr

namespace Category

/-- All categories, in the order in which they run. -/
def all : List Category :=
  [authentication, authorization, rateLimiting, validation, content, observability, audit]

/-- The name of a category. -/
def name : Category → String
  | authentication => "authentication"
  | authorization => "authorization"
  | rateLimiting => "rate_limiting"
  | validation => "validation"
  | content => "content"
  | observability => "observability"
  | audit => "audit"

/-- The spelling of a name that counts: trimmed, in lower case, with underscores for dashes. -/
def canonicalName (s : String) : String :=
  String.ofList ((Text.trimList s.toList).map fun c => if c = '-' then '_' else c.toLower)

/-- The category of a name. -/
def parse (s : String) : Except ConfigError Category :=
  match all.find? fun c => c.name == canonicalName s with
  | some c => .ok c
  | none =>
    .error (.invalidValue "category"
      ("unknown category '" ++ s ++ "' (valid: " ++ Text.join ", " (all.map name) ++ ")"))

theorem mem_all (c : Category) : c ∈ all := by cases c <;> decide

end Category

end FleetConfig.Plugin
