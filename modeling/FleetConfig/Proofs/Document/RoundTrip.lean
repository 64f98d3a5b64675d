import FleetConfig.Proofs.Document.Range
import FleetConfig.Proofs.Document.Writing
import FleetConfig.Proofs.Toml.RoundTrip

/-!
# Documents read back

The text of a contract or a context is read back as the same contract or context. An absent field
stays apart from one that is there, and an empty section from an absent one.

## Main definitions

* `Document.Lawful` — kinds of data that are read back.

## Main results

* `Contract.parse_print`, `Context.parse_print` — contracts and contexts are read back.
-/

namespace FleetConfig

open Toml
open Toml.Decoder (Reads Fills reads_record reads_bind reads_text reads_texts reads_list
  reads_boolean reads_tables reads_map)

theorem Duration.reads {d : Duration} (h : d.InRange) : Reads decode d.encode d := by
  rintro left node hnode
  rw [decode, reads_text d.text left node hnode]
  show (parse d.text).mapError _ = _
  rw [parse_text d h]
  rfl

/-! ### The daemon section -/

namespace Daemon

theorem ApiTimeout.reads {t : ApiTimeout} (h : ∀ d ∈ t.durations, d.InRange) :
    Reads decode t.encode t := by
  apply reads_record
  exact .optional (fun d? => ({ shutdown := d? } : ApiTimeout)) (fun _ _ => rfl) fun d hd =>
    Duration.reads (h d (Option.mem_toList.2 hd))

theorem McpInterval.reads {i : McpInterval} (h : ∀ d ∈ i.durations, d.InRange) :
    Reads decode i.encode i := by
  apply reads_record
  exact .optional (fun d? => ({ health := d? } : McpInterval)) (fun _ _ => rfl) fun d hd =>
    Duration.reads (h d (Option.mem_toList.2 hd))

theorem McpTimeout.reads {t : McpTimeout} (h : ∀ d ∈ t.durations, d.InRange) :
    Reads decode t.encode t := by
  simp only [durations, List.forall_mem_append, Option.mem_toList] at h
  obtain ⟨⟨hshutdown, hinit⟩, hhealth⟩ := h
  obtain ⟨shutdown, init, health⟩ := t
  apply reads_record
  iterate 2 apply Fills.append
  · exact .optional (fun d? => ({ shutdown := d? } : McpTimeout)) (fun _ _ => rfl) fun d hd =>
      Duration.reads (hshutdown d hd)
  · exact .optional (fun d? => ({ shutdown, init := d? } : McpTimeout)) (fun _ _ => rfl) fun d hd =>
      Duration.reads (hinit d hd)
  · exact .optional (fun d? => ({ shutdown, init, health := d? } : McpTimeout)) (fun _ _ => rfl)
      fun d hd => Duration.reads (hhealth d hd)

theorem Cors.reads {c : Cors} (h : ∀ d ∈ c.durations, d.InRange) :
    Reads decode c.encode c := by
  obtain ⟨enable, allowOrigins, methods, allowHeaders, exposeHeaders, allowCredentials, maxAge⟩ := c
  apply reads_record
  iterate 6 apply Fills.append
  · exact .optional (fun b? => ({ enable := b? } : Cors)) (fun _ _ => rfl) fun b _ =>
      reads_boolean b
  · exact .listUnlessEmpty (fun xs => ({ enable, allowOrigins := xs } : Cors)) (fun _ _ => rfl)
      (reads_texts allowOrigins) id
  · exact .listUnlessEmpty (fun xs => ({ enable, allowOrigins, methods := xs } : Cors))
      (fun _ _ => rfl) (reads_texts methods) id
  · exact .listUnlessEmpty
      (fun xs => ({ enable, allowOrigins, methods, allowHeaders := xs } : Cors))
      (fun _ _ => rfl) (reads_texts allowHeaders) id
  · exact .listUnlessEmpty
      (fun xs => ({ enable, allowOrigins, methods, allowHeaders, exposeHeaders := xs } : Cors))
      (fun _ _ => rfl) (reads_texts exposeHeaders) id
  · exact .optional
      (fun b? => ({ enable, allowOrigins, methods, allowHeaders, exposeHeaders,
                    allowCredentials := b? } : Cors))
      (fun _ _ => rfl) fun b _ => reads_boolean b
  · exact .optional
      (fun d? => ({ enable, allowOrigins, methods, allowHeaders, exposeHeaders, allowCredentials,
                    maxAge := d? } : Cors))
      (fun _ _ => rfl) fun d hd => Duration.reads (h d (Option.mem_toList.2 hd))

theorem Api.reads {a : Api} (h : ∀ d ∈ a.durations, d.InRange) : Reads decode a.encode a := by
  simp only [durations, List.forall_mem_append, forall_mem_toList_flatMap] at h
  obtain ⟨addr, timeout, cors⟩ := a
  apply reads_record
  iterate 2 apply Fills.append
  · exact .optional (fun s? => ({ addr := s? } : Api)) (fun _ _ => rfl) fun s _ => reads_text s
  · exact .optional (fun t? => ({ addr, timeout := t? } : Api)) (fun _ _ => rfl) fun t ht =>
      ApiTimeout.reads (h.1 t ht)
  · exact .optional (fun c? => ({ addr, timeout, cors := c? } : Api)) (fun _ _ => rfl) fun c hc =>
      Cors.reads (h.2 c hc)

theorem Mcp.reads {m : Mcp} (h : ∀ d ∈ m.durations, d.InRange) : Reads decode m.encode m := by
  simp only [durations, List.forall_mem_append, forall_mem_toList_flatMap] at h
  obtain ⟨timeout, interval⟩ := m
  apply reads_record
  apply Fills.append
  · exact .optional (fun t? => ({ timeout := t? } : Mcp)) (fun _ _ => rfl) fun t ht =>
      McpTimeout.reads (h.1 t ht)
  · exact .optional (fun i? => ({ timeout, interval := i? } : Mcp)) (fun _ _ => rfl) fun i hi =>
      McpInterval.reads (h.2 i hi)

/-- The daemon section is read back with its empty sections. -/
theorem reads {d : Daemon} (h : ∀ t ∈ d.durations, t.InRange) : Reads decode d.encode d := by
  simp only [durations, List.forall_mem_append, forall_mem_toList_flatMap] at h
  obtain ⟨api, mcp⟩ := d
  apply reads_record
  apply Fills.append
  · exact .optional (fun a? => ({ api := a? } : Daemon)) (fun _ _ => rfl) fun a ha =>
      Api.reads (h.1 a ha)
  · exact .optional (fun m? => ({ api, mcp := m? } : Daemon)) (fun _ _ => rfl) fun m hm =>
      Mcp.reads (h.2 m hm)

end Daemon

/-! ### Plugins -/

namespace Plugin

theorem Flow.reads (f : Flow) : Reads decode (.text f.name) f := by
  rintro left node hnode
  cases hnode
  cases f <;> rfl

theorem FlowSet.ofList_toList (s : FlowSet) : ofList s.toList = s := by
  obtain ⟨request, response⟩ := s
  cases request <;> cases response <;> rfl

theorem reads (p : Plugin) : Reads decode (.table p.encode) p := by
  obtain ⟨name, flows, required, commitHash⟩ := p
  refine reads_bind ⟨some name, some (.ofList flows.toList), required, commitHash⟩ ?_ fun _ => ?_
  · apply reads_record
    iterate 2 apply Fills.append
    · apply Fills.cons
      · exact .field (fun s => ({ name := some s } : Draft)) (fun _ _ => rfl) (reads_text name)
      · exact .field (fun fs => ({ name := some name, flows := some (.ofList fs) } : Draft))
          (fun _ _ => rfl) (reads_list Flow.name fun f _ => Flow.reads f)
    · exact .optional
        (fun b? => ({ name := some name, flows := some _, required := b? } : Draft))
        (fun _ _ => rfl) fun b _ => reads_boolean b
    · exact .optional (fun s? => (⟨some name, some _, required, s?⟩ : Draft)) (fun _ _ => rfl)
        fun s _ => reads_text s
  · rw [FlowSet.ofList_toList]
    rfl

end Plugin

namespace Catalogue

open Plugin (Category)

/-- Categories without plugins are left out, and have none before they are read either. -/
private theorem fills_rows {set : String → Catalogue → Decoder Catalogue}
    (hset : ∀ (c : Category) acc left node, set c.name acc left node =
      do return acc.withPlugins c (← Decoder.list Plugin.decode left node))
    (cat : Catalogue) (cs : List Category) {acc : Catalogue}
    (hempty : ∀ c, cat.plugins c = [] → acc.plugins c = []) :
    Fills set
      (cs.flatMap fun c => Tree.tablesUnlessEmpty c.name ((cat.plugins c).map Plugin.encode)) acc
      (cs.foldl (fun acc c => acc.withPlugins c (cat.plugins c)) acc) := by
  induction cs generalizing acc with
  | nil => exact .nil _
  | cons c cs ih =>
    rw [List.flatMap_cons, List.foldl_cons]
    refine .append ?_ (ih fun c' hc' => ?_)
    · cases hc : cat.plugins c with
      | nil =>
        have hsame : acc.withPlugins c [] = acc := by
          rw [← hempty c hc, withPlugins_plugins]
        rw [hsame]
        exact .nil _
      | cons p ps =>
        exact .field (acc.withPlugins c) (hset c acc) (reads_tables fun p _ => p.reads)
    · rw [plugins_withPlugins]
      by_cases h : c' = c
      · rw [if_pos h, ← h, hc']
      · rw [if_neg h, hempty c' hc']

/-- The section of plugins is read back category by category. -/
theorem reads (cat : Catalogue) : Reads decode cat.encode cat := by
  apply reads_record
  apply Fills.append
  · exact .optional (fun s? => ({ dir := s? } : Catalogue)) (fun _ _ => rfl) fun s _ => reads_text s
  · have hall : Category.all.foldl (fun acc c => acc.withPlugins c (cat.plugins c))
        ({ dir := cat.dir } : Catalogue) = cat :=
      ext_all rfl fun c _ => by cases c <;> rfl
    rw [← hall]
    refine fills_rows (fun c acc left node => ?_) cat Category.all fun _ _ => rfl
    cases c <;> rfl

end Catalogue

/-! ### Servers -/

namespace Server

theorem reads_decodeNames (s : NameSet) : Reads decodeNames (.list s.toList) s := by
  rintro left node hnode
  rw [decodeNames, reads_texts s.toList left node hnode]
  exact congrArg Except.ok s.ofList_toList

theorem NameSet.eq_empty_of_toList {s : NameSet} (h : s.toList = []) : s = .empty := by
  rw [← s.ofList_toList, h]
  rfl

theorem reads_encodeMap (m : NameMap String) :
    Reads (Decoder.map Decoder.text) (.table (encodeMap m)) m :=
  reads_map .text m fun e _ => reads_text e.2

theorem eq_empty_of_encodeMap {m : NameMap String} (h : encodeMap m = []) : m = .empty :=
  NameMap.ext (List.map_eq_nil_iff.1 h)

theorem reads (s : Server) : Reads decode (.table s.encode) s := by
  obtain ⟨name, package, tools, requiredEnv, requiredArgs, args, env⟩ := s
  refine reads_bind ⟨some name, some package, tools, requiredEnv, requiredArgs, args, env⟩ ?_
    fun _ => rfl
  apply reads_record
  iterate 5 apply Fills.append
  · apply Fills.cons
    · exact .field (fun s => ({ name := some s } : Draft)) (fun _ _ => rfl) (reads_text name)
    · exact .field (fun s => ({ name := some name, package := some s } : Draft))
        (fun _ _ => rfl) (reads_text package)
  · exact .listUnlessEmpty
      (fun s => ({ name := some name, package := some package, tools := s } : Draft))
      (fun _ _ => rfl) (reads_decodeNames tools) NameSet.eq_empty_of_toList
  · exact .listUnlessEmpty
      (fun s => ({ name := some name, package := some package, tools, requiredEnv := s } : Draft))
      (fun _ _ => rfl) (reads_decodeNames requiredEnv) NameSet.eq_empty_of_toList
  · exact .listUnlessEmpty
      (fun s => ({ name := some name, package := some package, tools, requiredEnv,
                   requiredArgs := s } : Draft))
      (fun _ _ => rfl) (reads_decodeNames requiredArgs) NameSet.eq_empty_of_toList
  · exact .listUnlessEmpty
      (fun xs => ({ name := some name, package := some package, tools, requiredEnv, requiredArgs,
                    args := xs } : Draft))
      (fun _ _ => rfl) (reads_texts args) id
  · exact .tableUnlessEmpty
      (fun m => (⟨some name, some package, tools, requiredEnv, requiredArgs, args, m⟩ : Draft))
      (fun _ _ => rfl) (reads_encodeMap env) eq_empty_of_encodeMap

end Server

/-! ### Contracts -/

namespace Contract

theorem reads {k : Contract} (h : k.InRange) : Reads decode (.table k.encode) k := by
  rw [InRange, durations, forall_mem_toList_flatMap] at h
  obtain ⟨servers, daemon, plugins⟩ := k
  apply reads_record
  iterate 2 apply Fills.append
  · exact .tablesUnlessEmpty (fun ss => ({ servers := ss } : Contract)) (fun _ _ => rfl)
      fun s _ => s.reads
  · exact .optional (fun d? => ({ servers, daemon := d? } : Contract)) (fun _ _ => rfl)
      fun d hd => Daemon.reads (h d hd)
  · exact .optional (fun cat? => ({ servers, daemon, plugins := cat? } : Contract))
      (fun _ _ => rfl) fun cat _ => cat.reads

end Contract

/-! ### Contexts -/

namespace Context

theorem Entry.reads (e : Entry) : Reads decode (.table e.encode) e := by
  obtain ⟨args, env⟩ := e
  apply reads_record
  apply Fills.append
  · exact .listUnlessEmpty (fun xs => ({ args := xs } : Entry)) (fun _ _ => rfl)
      (reads_texts args) id
  · exact .tableUnlessEmpty (fun m => ({ args, env := m } : Entry)) (fun _ _ => rfl)
      (Server.reads_encodeMap env) Server.eq_empty_of_encodeMap

theorem reads (x : Context) : Reads decode (.table x.encode) x := by
  obtain ⟨servers⟩ := x
  apply reads_record
  exact .field (fun m => ({ servers := m } : Context)) (fun _ _ => rfl)
    (reads_map (fun e => .table e.encode) servers fun e _ => e.2.reads)

end Context

/-! ### Documents -/

namespace Document

/-- A kind of data that is read back from its text, if it is in range. -/
class Lawful (δ : Type) [Document δ] where
  /-- What can be written and read back. -/
  InRange : δ → Prop
  parse_print : ∀ d : δ, InRange d → parse (print d) = .ok d
  inRange_of_parse : ∀ (s : String) (d : δ), parse s = .ok d → InRange d
  inRange_prune : ∀ d : δ, InRange d → InRange (prune d)

variable {δ : Type} [Document δ]

theorem parse_print_of_reads {d : δ} {depth : Nat}
    (hwritten : WellFormed depth (Document.encode d)) (hdepth : depth < keyLimit)
    (hread : Reads Document.decode (.table (Document.encode d)) d) : parse (print d) = .ok d := by
  obtain ⟨hmark, nodes, hnodes, hagrees⟩ := Toml.parse_print hwritten hdepth
  have hroot : Agrees (.table (Document.encode d))
      (.table .header (some (Toml.print (Document.encode d)).toList.length) nodes) :=
    .table (by decide) _ hagrees
  have hdecode := hread (Toml.print (Document.encode d)).toList.length _ hroot
  rw [parse, print, hmark]
  show (parseChars _).mapError _ = _
  rw [parseChars, hnodes]
  show (Document.decode _ _).mapError _ = _
  rw [hdecode]
  rfl

theorem decode_of_parse {s : String} {d : δ} (h : parse s = .ok d) :
    ∃ left node, Document.decode left node = .ok d := by
  obtain ⟨nodes, -, h⟩ := bind_eq_ok.1 (mapError_eq_ok.1 h)
  exact ⟨_, _, h⟩

end Document

/-- A contract is read back from its text. -/
theorem Contract.parse_print_eq {k : Contract} (h : k.InRange) :
    Document.parse (Document.print k) = .ok k :=
  Document.parse_print_of_reads (k.wellFormed_encode 0) (by decide) (reads h)

/-- A context is read back from its text. -/
theorem Context.parse_print_eq (x : Context) : Document.parse (Document.print x) = .ok x :=
  Document.parse_print_of_reads (x.wellFormed_encode 0) (by decide) x.reads

instance : Document.Lawful Contract where
  InRange := Contract.InRange
  parse_print _ := Contract.parse_print_eq
  inRange_of_parse s k h := by
    obtain ⟨left, node, h⟩ := Document.decode_of_parse h
    exact Contract.inRange_of_decode h
  inRange_prune _ := Contract.InRange.prune

instance : Document.Lawful Context where
  InRange _ := True
  parse_print x _ := x.parse_print_eq
  inRange_of_parse _ _ _ := trivial
  inRange_prune _ _ := trivial

end FleetConfig
