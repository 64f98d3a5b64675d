import FleetConfig.Proofs.Contract.Gathering

/-!
# The places of a contract

What can be wrong with a contract is wrong at a place of it: a server's name, one of its flags, an
entry of a list, a key. The places are numbered like the paragraphs of a document, section by
section and item by item. What is wrong at a place is said without the check; what the check finds
is put to its place beside it.

## Main definitions

* `Contract.Place`, `Contract.Place.number` — the places of a contract and their order.
* `Contract.Wrong` — what is wrong at a place.
* `Contract.sites` — the violations that the check finds, each with its place.

## Main results

* `Contract.map_snd_sites` — the sites are the violations that the check finds, in its order.
-/

namespace FleetConfig.Contract

open Plugin (Category)
open Daemon (Key)

/-! ### Places -/

/-- What is looked at in a server, in this order. -/
inductive ServerPart where
  | repeated | name | package
  | arg (j : Nat)

/-- What is looked at in a plugin, in this order. -/
inductive PluginPart where
  | name | flows | commitHash | repeated

/-- A place of a contract at which something can be wrong. -/
inductive Place where
  /-- A part of the server at an index. -/
  | server (i : Nat) (part : ServerPart)
  /-- The listen address. -/
  | address
  /-- The method at an index. -/
  | method (i : Nat)
  /-- The origin at an index. -/
  | origin (i : Nat)
  /-- The duration under a key. -/
  | duration (key : Key)
  /-- The directory of the plugins. -/
  | dir
  /-- A part of the plugin at an index of a category. -/
  | plugin (c : Category) (i : Nat) (part : PluginPart)

/-- The number of a part among those of its server. -/
def ServerPart.number : ServerPart → List Nat
  | repeated => [0]
  | name => [1]
  | package => [2]
  | arg j => [3, j]

/-- The number of a part among those of its plugin. -/
def PluginPart.number : PluginPart → Nat
  | name => 0
  | flows => 1
  | commitHash => 2
  | repeated => 3

/-- The number of a place: its section, and then its way down from there. Keys are numbered in the
order of their paths, and categories in the order in which they run. -/
def Place.number : Place → List Nat
  | server i part => 0 :: i :: part.number
  | address => [1, 0]
  | method i => [1, 1, i]
  | origin i => [1, 2, i]
  | duration key => [1, 3, Key.all.idxOf key]
  | dir => [2, 0]
  | plugin c i part => [2, 1, Category.all.idxOf c, i, part.number]

/-! ### What is wrong -/

/-- Something is wrong at a place of a contract. -/
inductive Wrong (k : Contract) : Place → Violation → Prop
  /-- A server has the name of one before it. -/
  | repeatedServer {i : Nat} {s : Server} (hs : k.servers[i]? = some s)
      (h : s.name ∈ (k.servers.take i).map Server.name) :
      Wrong k (.server i .repeated) (.duplicateServer s.name)
  | noServerName {i : Nat} {s : Server} (hs : k.servers[i]? = some s) (h : s.name = "") :
      Wrong k (.server i .name) (.inServer (.badName .empty))
  | badServerName {i : Nat} {s : Server} {c : Char} (hs : k.servers[i]? = some s)
      (hc : c ∈ s.name.toList) (h : Server.isNameChar c = false) :
      Wrong k (.server i .name) (.inServer (.badName (.badChar s.name)))
  | blankPackage {i : Nat} {s : Server} (hs : k.servers[i]? = some s)
      (h : Text.trim s.package = "") :
      Wrong k (.server i .package) (.inServer (.blankPackage s.name))
  /-- A required flag is no `--name`, or comes with a value. -/
  | badFlag {i j : Nat} {s : Server} {flag : String} (hs : k.servers[i]? = some s)
      (hflag : s.requiredArgs.toList[j]? = some flag)
      (h : ∀ cs, flag.toList = '-' :: '-' :: cs → '=' ∈ cs) :
      Wrong k (.server i (.arg j)) (.inServer (.badFlag s.name flag))
  | badAddress {addr : String} {fault : Net.Address.Fault}
      (haddr : Key.apiAddr.read k.settings = some (.text addr))
      (h : Net.Address.check addr = .error fault) :
      Wrong k .address (.inDaemon (.badAddress addr fault))
  | badMethod {i : Nat} {m : String} {ms : List String}
      (hms : Key.corsMethods.read k.settings = some (.list ms)) (hm : ms[i]? = some m)
      (h : m.toUpper ∉ Daemon.allowedMethods) :
      Wrong k (.method i) (.inDaemon (.badMethod m))
  | badOrigin {i : Nat} {origin : String} {origins : List String} {fault : Net.Origin.Fault}
      (horigins : Key.corsAllowOrigins.read k.settings = some (.list origins))
      (horigin : origins[i]? = some origin) (h : Net.Origin.check origin = .error fault) :
      Wrong k (.origin i) (.inDaemon (.badOrigin origin fault))
  | zeroDuration {key : Key} {t : Duration} (ht : key.read k.settings = some (.duration t))
      (h : t.nanos = 0) : Wrong k (.duration key) (.inDaemon (.zeroDuration key))
  | blankDir {dir : String} (hdir : k.catalogue.dir = some dir) (h : Text.trim dir = "") :
      Wrong k .dir (.inPlugins .blankDir)
  | blankPluginName {c : Category} {i : Nat} {p : Plugin}
      (hp : (k.catalogue.plugins c)[i]? = some p) (h : Text.trim p.name = "") :
      Wrong k (.plugin c i .name) (.inPlugins (.inPlugin c .blankName))
  /-- A plugin's name is none of a file in a directory. -/
  | badPluginName {c : Category} {i : Nat} {p : Plugin}
      (hp : (k.catalogue.plugins c)[i]? = some p) (hname : Text.trim p.name ≠ "")
      (h : '/' ∈ (Text.trim p.name).toList ∨ '\\' ∈ (Text.trim p.name).toList ∨
        Text.trim p.name = "." ∨ Text.trim p.name = "..") :
      Wrong k (.plugin c i .name) (.inPlugins (.inPlugin c (.badName p.name)))
  | noFlow {c : Category} {i : Nat} {p : Plugin}
      (hp : (k.catalogue.plugins c)[i]? = some p) (h : p.flows.toList = []) :
      Wrong k (.plugin c i .flows) (.inPlugins (.inPlugin c (.noFlow p.name)))
  | blankCommitHash {c : Category} {i : Nat} {p : Plugin} {hash : String}
      (hp : (k.catalogue.plugins c)[i]? = some p) (hhash : p.commitHash = some hash)
      (h : Text.trim hash = "") :
      Wrong k (.plugin c i .commitHash) (.inPlugins (.inPlugin c (.blankCommitHash p.name)))
  /-- A plugin has the name of one before it in its category. -/
  | repeatedPlugin {c : Category} {i : Nat} {p : Plugin}
      (hp : (k.catalogue.plugins c)[i]? = some p)
      (h : p.name ∈ ((k.catalogue.plugins c).take i).map Plugin.name) :
      Wrong k (.plugin c i .repeated) (.inPlugins (.duplicate c p.name))

/-! ### Sites -/

/-- The violations of a server that stands behind others, with their places. -/
def serverSites (front : List Server) (s : Server) : List (Place × Violation) :=
  (if s.name ∈ front.map Server.name then
    [(.server front.length .repeated, .duplicateServer s.name)] else []) ++
  (Server.nameFault? s.name).toList.map
    (fun fault => (.server front.length .name, .inServer (.badName fault))) ++
  (if Text.isBlankText s.package then
    [(.server front.length .package, .inServer (.blankPackage s.name))] else []) ++
  walk (fun flags flag => if !Server.isBareFlag flag then
    [(.server front.length (.arg flags.length), .inServer (.badFlag s.name flag))] else []) []
    s.requiredArgs.toList

/-- The violations of a setting that is looked at on its own, with their places. -/
def settingSites : Key → Setting.Leaf → List (Place × Violation)
  | .apiAddr, .text addr =>
    (Daemon.addressViolations addr).map fun v => (.address, .inDaemon v)
  | .corsMethods, .list ms =>
    walk (fun front m => (Daemon.methodViolations [m]).map fun v =>
      (.method front.length, .inDaemon v)) [] ms
  | .corsAllowOrigins, .list origins =>
    walk (fun front origin => (Daemon.originViolations origin).map fun v =>
      (.origin front.length, .inDaemon v)) [] origins
  | _, _ => []

/-- The violation of a duration of no length under a key, with its place. -/
def durationSites (key : Key) (l : Setting.Leaf) : List (Place × Violation) :=
  (key.zeroFaults l).map fun v => (.duration key, .inDaemon v)

/-- The violations of the settings, with their places. -/
def daemonSites (d : Daemon) : List (Place × Violation) :=
  (Key.checked.flatMap fun key => (key.read d).toList.flatMap (settingSites key)) ++
    Key.all.flatMap fun key => (key.read d).toList.flatMap (durationSites key)

/-- The violations of a plugin that stands behind others, with their places. -/
def pluginSites (c : Category) (front : List Plugin) (p : Plugin) : List (Place × Violation) :=
  (Plugin.nameViolations p.name).map
    (fun v => (.plugin c front.length .name, .inPlugins (.inPlugin c v))) ++
  (if p.flows.isEmpty then
    [(.plugin c front.length .flows, .inPlugins (.inPlugin c (.noFlow p.name)))] else []) ++
  (if p.commitHash.any Text.isBlankText then
    [(.plugin c front.length .commitHash, .inPlugins (.inPlugin c (.blankCommitHash p.name)))]
    else []) ++
  if p.name ∈ front.map Plugin.name then
    [(.plugin c front.length .repeated, .inPlugins (.duplicate c p.name))] else []

/-- The violations of the plugins, with their places. -/
def catalogueSites (cat : Catalogue) : List (Place × Violation) :=
  (cat.dirViolations.map fun v => (.dir, .inPlugins v)) ++
    Category.all.flatMap fun c => walk (pluginSites c) [] (cat.plugins c)

/-- All violations, with their places. -/
def sites (k : Contract) : List (Place × Violation) :=
  walk serverSites [] k.servers ++ daemonSites k.settings ++ catalogueSites k.catalogue

/-! ### The sites are the violations -/

theorem map_snd_serverSites (front : List Server) (s : Server) :
    (serverSites front s).map Prod.snd = serverStep front s := by
  have hflags : (walk (fun flags flag => if !Server.isBareFlag flag then
      [(Place.server front.length (.arg flags.length), Violation.inServer (.badFlag s.name flag))]
      else []) [] s.requiredArgs.toList).map Prod.snd =
        (s.requiredArgs.toList.filter (!Server.isBareFlag ·)).map
          fun flag => Violation.inServer (.badFlag s.name flag) := by
    rw [map_walk, map_filter_eq_flatMap, ← walk_const]
    exact walk_congr fun _ flag => by split <;> rfl
  simp only [serverSites, serverStep, Server.violations, List.map_append, hflags, List.map_map,
    List.append_assoc]
  congr 1
  · split <;> rfl
  · congr 1
    congr 1
    split <;> rfl

theorem map_snd_settingSites (key : Key) (l : Setting.Leaf) :
    (settingSites key l).map Prod.snd = (key.faults l).map .inDaemon := by
  have hmethods (ms : List String) :
      ms.flatMap (fun m => Daemon.methodViolations [m]) = Daemon.methodViolations ms := by
    rw [Daemon.methodViolations, map_filter_eq_flatMap]
    exact List.flatMap_congr fun m _ => by
      rw [Daemon.methodViolations, map_filter_eq_flatMap, List.flatMap_singleton]
  cases l with
  | text addr =>
    cases key
    case apiAddr => exact List.map_map
    all_goals rfl
  | list xs =>
    cases key
    case corsMethods =>
      simp only [settingSites, map_walk, List.map_map]
      rw [Key.faults, ← hmethods, List.map_flatMap]
      exact walk_const fun m => (Daemon.methodViolations [m]).map Violation.inDaemon
    case corsAllowOrigins =>
      simp only [settingSites, map_walk, List.map_map]
      rw [Key.faults, List.map_flatMap]
      exact walk_const fun origin => (Daemon.originViolations origin).map Violation.inDaemon
    all_goals rfl
  | _ => cases key <;> rfl

theorem map_snd_daemonSites (d : Daemon) :
    (daemonSites d).map Prod.snd = d.violations.map .inDaemon := by
  rw [daemonSites, Daemon.violations_eq_flatMap_read]
  simp only [List.map_append, List.map_flatMap, map_snd_settingSites]
  simp only [durationSites, List.map_map]
  rfl

theorem map_snd_pluginSites (c : Category) (front : List Plugin) (p : Plugin) :
    (pluginSites c front p).map Prod.snd = (Catalogue.pluginStep c front p).map .inPlugins := by
  simp only [pluginSites, Catalogue.pluginStep, Plugin.violations, List.map_append, List.map_map,
    List.append_assoc]
  congr 1
  congr 1
  · split <;> rfl
  · congr 1
    · split <;> rfl
    · split <;> rfl

/-- The sites are the violations that the check finds, in its order. -/
theorem map_snd_sites (k : Contract) : k.sites.map Prod.snd = k.violations := by
  rw [violations_eq_append, sites, List.map_append, List.map_append, map_snd_daemonSites,
    catalogueSites, Catalogue.violations_eq_walk]
  simp only [List.map_append, List.map_map, List.map_flatMap, map_walk, map_snd_serverSites,
    map_snd_pluginSites]
  rfl

end FleetConfig.Contract
