import FleetConfig.Proofs.Toml.Building

/-!
# Documents read back

What is written to a document is read from it again: the same names in the same order, with the same
values and tables under them.

## Main results

* `Toml.parse_print` — the text of a document is read as a document that agrees with it.
-/

namespace FleetConfig.Toml

/-- No line starts with a mark of byte order. -/
theorem statements_byteOrderMark (cs : List Char) :
    (statements ('\ufeff' :: cs)).2 = some ⟨cs.length + 1⟩ := by
  have hskip : skipBlanks ('\ufeff' :: cs) = '\ufeff' :: cs :=
    skipBlanks_of_not_isBlank (by decide) cs
  have hline : line ('\ufeff' :: cs) = .wrong ⟨cs.length + 1⟩ := rfl
  rw [statements, hskip]
  simp only [hline]

theorem skipByteOrderMark_of_statements {cs : List Char} (h : (statements cs).2 = none) :
    skipByteOrderMark cs = cs := by
  fun_cases skipByteOrderMark cs
  · rw [statements_byteOrderMark] at h
    contradiction
  · rfl

/-- The statements of a document build it up. -/
theorem leads_document {depth : Nat} {es : Tree.Entries} (h : WellFormed depth es)
    {sts : List Statement} (hsts : Follows (⟨none, es⟩ :: sectionsOfEntries [] es) sts) :
    Leads sts {} fun nodes => AgreesEntries es nodes := by
  cases hsts with
  | @untitled _ pairs hpairs _ sts hsts =>
    obtain ⟨nodes, hfold, hvalues⟩ := add_pairs hpairs h.ordered.nodup (b := {}) fun _ _ => rfl
    rw [List.nil_append] at hfold
    have hroot : Leads pairs {} fun nodes' => nodes' = nodes := ⟨_, nodes, hfold, rfl, rfl⟩
    refine hroot.append ?_
    rintro b nodes hclose rfl
    have hfresh : ∀ e ∈ tablesOf es, find? e.1 nodes = none := fun e he =>
      find?_eq_none_of_agrees hvalues fun e' he' => h.ordered.ne_of_mem he' he
    refine (leads_sectionsOfEntries [] es h _ _ _ _ hclose rfl hfresh hsts).mono ?_
    have hall := h.ordered.valuesOf_append_tablesOf
    rintro nodes' (⟨hnone, rfl⟩ | ⟨ks, added, hks, htables, hputs⟩)
    · rw [hnone, List.append_nil] at hall
      exact hall ▸ hvalues
    · obtain rfl : ks = [] := List.map_eq_nil_iff.1 hks
      rw [puts_nil] at hputs
      rw [← hputs, ← hall]
      exact hvalues.append htables

/-- The text of a document is read as a document that agrees with it. -/
theorem parse_print {depth : Nat} {es : Tree.Entries} (h : WellFormed depth es)
    (hdepth : depth < keyLimit) :
    skipByteOrderMark (print es).toList = (print es).toList ∧
      ∃ nodes, parse (print es).toList = .ok nodes ∧ AgreesEntries es nodes := by
  have hpaths : ∀ s ∈ (⟨none, es⟩ :: sectionsOfEntries [] es : List Section),
      ∀ h ∈ s.header, h.2 ≠ [] ∧ h.2.length < keyLimit := by
    refine List.forall_mem_cons.2 ⟨fun _ h => (nomatch h), fun s hs header hheader => ?_⟩
    have hwithin := headersWithin_sectionsOfEntries [] es h s hs header hheader
    rw [List.length_nil, Nat.zero_add] at hwithin
    exact ⟨hwithin.1, Nat.lt_of_le_of_lt hwithin.2 hdepth⟩
  obtain ⟨sts, hsts, hfollows⟩ := statements_printBlocks hpaths true
  have htext : (print es).toList =
      printBlocks ((⟨none, es⟩ :: sectionsOfEntries [] es : List Section).map Section.block)
        true := by
    rw [print, String.toList_ofList, List.map_cons, ← blocksOfEntries_eq_map]
    rfl
  have hmark : skipByteOrderMark (print es).toList = (print es).toList :=
    skipByteOrderMark_of_statements (by rw [htext, hsts])
  obtain ⟨b, nodes, hfold, hclose, hagrees⟩ := leads_document h hfollows
  refine ⟨hmark, nodes, ?_, hagrees⟩
  rw [parse, hmark, htext, hsts]
  show (sts.foldlM Builder.add {} >>= fun b => Except.ok (b.close.getD [])) = _
  rw [hfold]
  show Except.ok (b.close.getD []) = _
  rw [hclose, Option.getD_some]

end FleetConfig.Toml
