import FleetConfig.Proofs.Contract.Frames
import FleetConfig.Proofs.Contract.Validity
import FleetConfig.Proofs.Plugin.Slots

/-!
# Changes to the servers and the plugins of a contract

Servers have different names, and so do the plugins of a category. Along every row of changes the
names stay different, and each change is orderly: it is made or refused, it is about the one thing
that it names, and everything else keeps its content and its order.

## Main definitions

* `Contract.Distinct` — the names that are different.
* `Contract.Change`, `Contract.Change.edit`, `Contract.Change.apply`, `Contract.after` — changes,
  one or a row of them.
* `Contract.Change.Fits`, `Contract.Change.Makes` — when a change is made, and what it makes.
* `Contract.Change.Orderly` — how a change behaves.

## Main results

* `Contract.Change.orderly` — every change to a contract of distinct names is orderly.
* `Contract.orderly_after` — so is every change in a row.
-/

namespace FleetConfig.Contract

open Plugin (Category)
open Named (others put)

/-- Servers have different names, and so do the plugins of each category. -/
structure Distinct (k : Contract) : Prop where
  servers : (k.servers.map Server.name).Nodup
  plugins : k.catalogue.Distinct

/-- A change to the servers or to the plugins. -/
inductive Change where
  | upsertServer (s : Server)
  | deleteServer (name : String)
  | upsertPlugin (c : Category) (p : Plugin)
  | deletePlugin (c : Category) (name : String)
  | movePlugin (c : Category) (name : String) (m : Catalogue.Move)
  | setPluginDir (dir : Option String)

namespace Change

/-- The edit that a change is. -/
def edit : Change → Edit Contract Outcome
  | upsertServer s => upsertServerEdit s
  | deleteServer name => deleteServerEdit name
  | upsertPlugin c p => inPlugins (Catalogue.upsertEdit c p)
  | deletePlugin c name => inPlugins (Catalogue.deleteEdit c name)
  | movePlugin c name m => inPlugins (Catalogue.moveEdit c name m)
  | setPluginDir dir => inPlugins (modifyGet (·.setDir dir))

/-- Makes a change, or refuses it, and gives the contract that is there afterwards. -/
def apply (k : Contract) (change : Change) : Except ConfigError Outcome × Contract :=
  change.edit.on k

end Change

/-- The contract after a row of changes. -/
def after (k : Contract) (changes : List Change) : Contract :=
  changes.foldl (fun k change => (change.apply k).2) k

namespace Change

/-! ### What a change does -/

/-- What is put is valid, what is taken out is there, and so is what is moved and its new place. -/
def Fits (k : Contract) : Change → Prop
  | upsertServer s => s.violations = []
  | deleteServer name => name ∈ k.servers.map Server.name
  | upsertPlugin _ p => p.violations = []
  | deletePlugin c name => name ∈ (k.catalogue.plugins c).map Plugin.name
  | movePlugin c name m =>
    name ∈ (k.catalogue.plugins c).map Plugin.name ∧ m.Fits k.catalogue c name
  | setPluginDir _ => True

/-- The contract that a change makes. It differs from the contract before in the one thing that the
change names. -/
def Makes (k : Contract) : Change → Contract → Prop
  | upsertServer s, k' => k' = { k with servers := put Server.name s k.servers }
  | deleteServer name, k' => k' = { k with servers := others Server.name name k.servers }
  | upsertPlugin c p, k' =>
    let cat := k.catalogue
    k' = { k with plugins := some (cat.withPlugins c (put Plugin.name p (cat.plugins c))) }
  | deletePlugin c name, k' =>
    let cat := k.catalogue
    k' = { k with plugins := some (cat.withPlugins c (others Plugin.name name (cat.plugins c))) }
  | movePlugin c name m, k' => ∃ p ∈ k.catalogue.plugins c, p.name = name ∧
    ∃ cat, k' = { k with plugins := some cat } ∧
      k.catalogue.Moved c (m.toCategory.getD c) p cat
  | setPluginDir dir, k' =>
    let dir := (dir.map Text.trim).filter (· != "")
    k' = { k with plugins := some { k.catalogue with dir } }

/-- How a change to a contract behaves. -/
structure Orderly (change : Change) (k : Contract) : Prop where
  /-- It is made exactly if it fits. -/
  fits : (∃ o, (change.apply k).1 = .ok o) ↔ change.Fits k
  /-- If it is refused, the contract is as it was, up to an empty section that is opened. -/
  refused : ∀ e k', change.apply k = (.error e, k') → k'.prune = k.prune ∧
    (k' = k ∨ k.plugins = none ∧ k' = { k with plugins := some default })
  /-- If it is made, it makes its one difference. -/
  makes : ∀ o k', change.apply k = (.ok o, k') → change.Makes k k'
  /-- Nothing is said to have changed exactly if the contract is the same when pruned. -/
  noop : ∀ o k', change.apply k = (.ok o, k') → (o = .noop ↔ k'.prune = k.prune)
  /-- Names stay different. -/
  distinct : (change.apply k).2.Distinct

variable {k : Contract} {change : Change}

/-! ### Refused and made changes -/

theorem orderly_of_error {e : ConfigError} {k' : Contract}
    (happly : change.apply k = (.error e, k')) (h : k.Distinct) (hfits : ¬change.Fits k)
    (hkept : k' = k ∨ k.plugins = none ∧ k' = { k with plugins := some default }) :
    change.Orderly k := by
  have hcatalogue : k'.catalogue = k.catalogue := by
    rcases hkept with rfl | ⟨hnone, rfl⟩
    · rfl
    · rw [catalogue, catalogue, hnone]
      rfl
  have hservers : k'.servers = k.servers := by
    rcases hkept with rfl | ⟨-, rfl⟩ <;> rfl
  have hsettings : k'.settings = k.settings := by
    rcases hkept with rfl | ⟨-, rfl⟩ <;> rfl
  constructor
  case fits =>
    refine iff_of_false ?_ hfits
    rw [happly]
    exact not_exists_error_eq_ok
  case refused =>
    intro e' k₁ hrefused
    cases happly.symm.trans hrefused
    exact ⟨prune_eq_prune_iff.2 ⟨hservers, by rw [hsettings], hcatalogue⟩, hkept⟩
  case makes =>
    intro o k₁ hok
    cases happly.symm.trans hok
  case noop =>
    intro o k₁ hok
    cases happly.symm.trans hok
  case distinct =>
    rw [happly]
    exact ⟨by rw [hservers]; exact h.servers, by rw [hcatalogue]; exact h.plugins⟩

theorem orderly_of_ok {o : Outcome} {k' : Contract} (happly : change.apply k = (.ok o, k'))
    (hfits : change.Fits k) (hmakes : change.Makes k k') (hnoop : o = .noop ↔ k'.prune = k.prune)
    (hdistinct : k'.Distinct) : change.Orderly k where
  fits := iff_of_true ⟨o, by rw [happly]⟩ hfits
  refused e k₁ h := by cases happly.symm.trans h
  makes o₁ k₁ h := by
    cases happly.symm.trans h
    exact hmakes
  noop o₁ k₁ h := by
    cases happly.symm.trans h
    exact hnoop
  distinct := by rwa [happly]

/-- A change to the servers that makes what it should, and does nothing before it is refused. -/
theorem orderly_of_servers (h : k.Distinct) (hatomic : change.edit.AtomicOn k)
    (hfits : (∃ r, change.edit.made k = .ok r) ↔ change.Fits k)
    (hmade : ∀ o k', change.edit.made k = .ok (o, k') →
      change.Makes k k' ∧ (o = .noop ↔ k'.prune = k.prune) ∧ k'.Distinct) : change.Orderly k := by
  cases hedit : change.edit.made k with
  | error e =>
    rw [hedit] at hfits
    exact orderly_of_error (hatomic.on_eq hedit) h
      (fun hchange => not_exists_error_eq_ok (hfits.2 hchange)) (.inl rfl)
  | ok r =>
    obtain ⟨hmakes, hnoop, hdistinct⟩ := hmade r.1 r.2 hedit
    exact orderly_of_ok (Edit.made_eq_ok_iff.1 hedit) (hfits.1 ⟨r, hedit⟩) hmakes hnoop hdistinct

/-- A section that is opened was open, or is empty. -/
theorem opened_cases (k : Contract) : { k with plugins := some k.catalogue } = k ∨
    k.plugins = none ∧
      ({ k with plugins := some k.catalogue } : Contract) = { k with plugins := some default } := by
  obtain ⟨servers, daemon, plugins⟩ := k
  cases plugins with
  | none => exact .inr ⟨rfl, rfl⟩
  | some cat => exact .inl rfl

/-- A change to the plugins that makes what it should, and does nothing before it is refused. -/
theorem orderly_of_plugins {x : Edit Catalogue Outcome} (h : k.Distinct)
    (hedit : change.edit = inPlugins x) (hatomic : x.AtomicOn k.catalogue)
    (hfits : (∃ r, x.made k.catalogue = .ok r) ↔ change.Fits k)
    (hmade : ∀ o cat, x.made k.catalogue = .ok (o, cat) →
      change.Makes k { k with plugins := some cat } ∧ (o = .noop ↔ cat = k.catalogue) ∧
        cat.Distinct) : change.Orderly k := by
  have happly : change.apply k = (inPlugins x).on k := by rw [apply, hedit]
  cases hx : x.made k.catalogue with
  | error e =>
    rw [on_inPlugins_of_error hatomic hx] at happly
    rw [hx] at hfits
    exact orderly_of_error happly h (fun hchange => not_exists_error_eq_ok (hfits.2 hchange))
      (opened_cases k)
  | ok r =>
    obtain ⟨o, cat⟩ := r
    rw [on_inPlugins_of_ok hx] at happly
    obtain ⟨hmakes, hnoop, hdistinct⟩ := hmade o cat hx
    refine orderly_of_ok happly (hfits.1 ⟨_, hx⟩) hmakes ?_ ⟨h.servers, hdistinct⟩
    exact hnoop.trans (prune_plugins_eq_iff k).symm

/-! ### Servers -/

/-- A server is put into a contract exactly if it is valid. -/
theorem exists_upsertServer_iff {s : Server} :
    (∃ r, k.upsertServer s = .ok r) ↔ s.violations = [] := by
  rw [← Server.validate_eq_ok_iff]
  constructor
  · rintro ⟨r, hupsert⟩
    rw [Contract.upsertServer_eq] at hupsert
    obtain ⟨_, hs, -⟩ := bind_eq_ok.1 hupsert
    exact hs
  · intro hs
    rw [Contract.upsertServer_eq, hs]
    cases hi : k.indexOf? s.name with
    | none => exact ⟨_, rfl⟩
    | some i =>
      by_cases hsame : k.servers[i]? = some s
      · exact ⟨_, if_pos hsame⟩
      · exact ⟨_, if_neg hsame⟩

/-- A server is taken out of a contract exactly if it is there. -/
theorem exists_deleteServer_iff {name : String} :
    (∃ r, k.deleteServer name = .ok r) ↔ name ∈ k.servers.map Server.name := by
  rw [← Named.isSome_findIdx?_iff, Contract.deleteServer_eq, indexOf?]
  cases k.servers.findIdx? fun s => s.name == name with
  | none => exact iff_of_false not_exists_error_eq_ok Bool.false_ne_true
  | some i => exact iff_of_true ⟨_, rfl⟩ rfl

theorem eq_of_upsertServer {s : Server} {o : Outcome} {k' : Contract} (h : k.Distinct)
    (hupsert : k.upsertServer s = .ok (o, k')) :
    k' = { k with servers := put Server.name s k.servers } := by
  rw [← Named.putFirst_eq_put h.servers]
  exact eq_putFirst_of_upsertServer hupsert

theorem eq_of_deleteServer {name : String} {o : Outcome} {k' : Contract} (h : k.Distinct)
    (hdelete : k.deleteServer name = .ok (o, k')) :
    k' = { k with servers := others Server.name name k.servers } := by
  rw [← Named.rest_eq_others h.servers]
  exact eq_rest_of_deleteServer hdelete

/-! ### Each change -/

/-- Every change to a contract of distinct names is orderly. -/
theorem orderly (h : k.Distinct) (change : Change) : change.Orderly k := by
  cases change with
  | upsertServer s =>
    refine orderly_of_servers h (atomicOn_upsertServerEdit s k) exists_upsertServer_iff
      fun o k' hok => ?_
    obtain rfl := eq_of_upsertServer h hok
    exact ⟨rfl, outcome_upsertServer hok, Named.nodup_put h.servers, h.plugins⟩
  | deleteServer name =>
    refine orderly_of_servers h (atomicOn_deleteServerEdit name k) exists_deleteServer_iff
      fun o k' hok => ?_
    obtain rfl := eq_of_deleteServer h hok
    exact ⟨rfl, outcome_deleteServer hok, Named.nodup_others h.servers, h.plugins⟩
  | upsertPlugin c p =>
    refine orderly_of_plugins h rfl (Catalogue.atomicOn_upsertEdit c p _)
      Catalogue.exists_upsert_iff fun o cat hok => ?_
    obtain rfl := h.plugins.upsert hok
    exact ⟨rfl, Catalogue.outcome_upsert hok,
      h.plugins.withPlugins (Named.nodup_put (h.plugins c))⟩
  | deletePlugin c name =>
    refine orderly_of_plugins h rfl (Catalogue.atomicOn_deleteEdit c name _)
      Catalogue.exists_delete_iff fun o cat hok => ?_
    obtain rfl := h.plugins.delete hok
    exact ⟨rfl, Catalogue.outcome_delete hok,
      h.plugins.withPlugins (Named.nodup_others (h.plugins c))⟩
  | movePlugin c name m =>
    refine orderly_of_plugins h rfl (Catalogue.atomicOn_moveEdit c name m _)
      h.plugins.exists_move_iff fun o cat hok => ?_
    obtain ⟨p, hp, hname, hmoved⟩ := h.plugins.move hok
    obtain ⟨hsame, hnoop⟩ := Catalogue.outcome_move hok
    refine ⟨⟨p, hp, hname, cat, rfl, hmoved⟩, ⟨fun ho => hnoop ho fun _ => ?_, hsame⟩,
      hmoved.distinct h.plugins⟩
    exact List.nodup_iff_count_le_one.1 (h.plugins c) name
  | setPluginDir dir =>
    refine orderly_of_plugins h rfl (.of_made rfl) (iff_of_true ⟨_, rfl⟩ trivial)
      fun o cat hok => ?_
    cases hok
    exact ⟨rfl, k.catalogue.outcome_setDir dir, h.plugins⟩

end Change

/-! ### Rows of changes -/

variable {k : Contract}

/-- Names stay different along a row of changes. -/
theorem Distinct.after (h : k.Distinct) (changes : List Change) : (k.after changes).Distinct := by
  induction changes generalizing k with
  | nil => exact h
  | cons change changes ih => exact ih (Change.orderly h change).distinct

/-- After any row of changes to a contract of distinct names, names are different still, and the
next change is orderly. -/
theorem orderly_after (k : Contract) (h : k.Distinct) (changes : List Change) (change : Change) :
    (k.after changes).Distinct ∧ change.Orderly (k.after changes) :=
  ⟨h.after changes, Change.orderly (h.after changes) change⟩

/-- A contract with a plugin of one name in two categories. -/
def twinsContract : Contract where
  servers := [{ name := "s", package := "p" }]
  plugins := some ((({} : Catalogue).withPlugins .audit
    [{ name := "a", flows := { request := true } },
      { name := "b", flows := { request := true } }]).withPlugins .content
    [{ name := "a", flows := { response := true } }])

/-- The one twin replaces the other, and leaves the plugin that stood after it. -/
theorem orderly_after_forcedMove : twinsContract.Distinct ∧ ∃ o k',
    Change.apply (twinsContract.after [.deleteServer "s"])
      (.movePlugin .audit "a" { toCategory := some .content, force := true }) = (.ok o, k') ∧
    o ≠ .noop ∧ k'.catalogue.plugins .audit = [{ name := "b", flows := { request := true } }] := by
  have hdistinct : twinsContract.Distinct := by
    refine ⟨by decide, fun c => ?_⟩
    cases c <;> decide
  let move : Change := .movePlugin .audit "a" { toCategory := some .content, force := true }
  obtain ⟨-, horderly⟩ := orderly_after twinsContract hdistinct [.deleteServer "s"] move
  have hfits : move.Fits (twinsContract.after [.deleteServer "s"]) :=
    ⟨by decide, by decide, fun _ => rfl, nofun⟩
  obtain ⟨o, ho⟩ := horderly.fits.2 hfits
  obtain ⟨k', hk'⟩ : ∃ k', move.apply (twinsContract.after [.deleteServer "s"]) = (.ok o, k') :=
    ⟨_, Prod.ext ho rfl⟩
  obtain ⟨p, -, hname, cat, rfl, hmoved⟩ := horderly.makes o k' hk'
  have haudit := hmoved.left (by decide)
  rw [hname] at haudit
  refine ⟨hdistinct, o, _, hk', ?_, haudit⟩
  rw [Ne, horderly.noop o _ hk', prune_plugins_eq_iff]
  rintro rfl
  exact absurd haudit (by decide)

end FleetConfig.Contract
