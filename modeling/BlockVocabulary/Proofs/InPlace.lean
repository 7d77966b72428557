import BlockVocabulary.CompilePass
import BlockVocabulary.Proofs.Accounting
import BlockVocabulary.Proofs.Settled

/-!
The compile in place and the compile by outcomes.

The pass changes the registries, the diagnostics, the names that are taken and the log entry by
entry, and leaves off in the middle of an entry that fails. It ends where the outcomes of the
settled vocabulary lead: what each entry adds is what its outcome says, and a failure leaves nothing
else behind. Every check of the pass is compared on its own with its part of the outcome.
-/

namespace BlockVocabulary

variable {σ : Type}

namespace CompileState

def warned (s : CompileState σ) (ds : List Diagnostic) : CompileState σ := ds.foldl report s

/-- With outcomes added, the sources being left in the given state. -/
def record (s : CompileState σ) (sources : σ) (outs : List Outcome) : CompileState σ where
  sources := sources
  registries := outs.foldl Registries.record s.registries
  diagnostics := s.diagnostics.pushAll (outs.flatMap Outcome.diagnostics)
  accepted := s.accepted ++ acceptedNames outs
  compiled := s.compiled + (acceptedNames outs).length
  log := s.log ++ (outs.flatMap Outcome.log).toArray

lemma warned_eq (s : CompileState σ) (ds : List Diagnostic) :
    s.warned ds =
      { s with log := s.log ++ (ds.map fun d => (⟨.warn, d.text⟩ : LogLine)).toArray
               diagnostics := s.diagnostics.pushAll ds } := by
  induction ds generalizing s with
  | nil => simp [warned, Diagnostics.pushAll]
  | cons d ds ih =>
    rw [warned, List.foldl_cons]
    refine (ih (s.report d)).trans ?_
    simp [report, Diagnostics.pushAll]

lemma record_record (s : CompileState σ) (sources sources' : σ) (outs outs' : List Outcome) :
    (s.record sources outs).record sources' outs' = s.record sources' (outs ++ outs') := by
  simp [record, Diagnostics.pushAll, acceptedNames_append, Nat.add_assoc]

lemma warned_append (s : CompileState σ) (ds ds' : List Diagnostic) :
    s.warned (ds ++ ds') = (s.warned ds).warned ds' := List.foldl_append

end CompileState

namespace EntryPass

lemma run_report (d : Diagnostic) (s : CompileState σ) :
    (report d).run s = .ok () (s.warned [d]) := rfl

lemma run_reports (ds : List ℕ) (f : ℕ → Diagnostic) (s : CompileState σ) :
    (ds.forM fun d => report (f d) : EntryPass σ Unit).run s = .ok () (s.warned (ds.map f)) := by
  induction ds generalizing s with
  | nil => rfl
  | cons d ds ih => exact ih (s.report (f d))

/-- Under the strict policy the first repeated name is an error, else all of them are warnings. -/
lemma run_connections (p : DuplicatePolicy) (origin : Origin) (noted reported names : List String)
    (s : CompileState σ) :
    (connections p origin noted reported names).run s =
      let repeated := (repeatsAfter noted reported names).map (Collision.ofConnection origin)
      match (p.apply repeated).2 with
      | none => .ok () (s.warned (p.apply repeated).1)
      | some d => .error d s := by
  induction names generalizing noted reported s with
  | nil => cases p <;> rfl
  | cons n ns ih =>
    rw [connections, repeatsAfter]
    by_cases hn : n ∈ noted
    · by_cases hr : n ∈ reported
      · rw [if_pos hn, if_pos hn, if_pos hr, if_pos hr]
        exact ih _ _ _
      · rw [if_pos hn, if_pos hn, if_neg hr, if_neg hr]
        cases p with
        | warn => exact (run_bind (run_report _ s) _).trans (ih _ _ _)
        | strict => rfl
    · rw [if_neg hn, if_neg hn]
      exact ih _ _ _

/-- **The layout of the pass is that of the settled template.** -/
lemma run_feedAll (policy : UnknownFieldPolicy) (origin : Origin) (ls : LayoutState) (index : ℕ)
    (fs : List (Field (WidgetSource σ))) (s : CompileState σ) :
    (feedAll policy origin ls index fs).run s =
      match ls.feedAll policy index (settleFields policy index s.sources fs).1 with
      | .ok ls =>
        .ok ls { s with sources := (settleFields policy index s.sources fs).2 }
      | .error e =>
        .error (e.diagnostic origin)
          { s with sources := (settleFields policy index s.sources fs).2 } := by
  induction fs generalizing ls index s with
  | nil => rfl
  | cons f fs ih =>
    have hmake : (make f).run s =
        .ok (f.make.run s.sources).1 { s with sources := (f.make.run s.sources).2 } := rfl
    rw [feedAll, run_bind hmake, settleFields]
    rcases f.make.run s.sources with ⟨f, sources⟩
    dsimp only
    rcases hf : f.refusal? policy index with _ | e
    · have hfeed : ls.feed policy index f = .ok (ls.accept index f) := by
        rw [LayoutState.feed_eq, hf]
        rfl
      rw [if_neg (by simp), LayoutState.feedAll, hfeed]
      exact ih (ls.accept index f) (index + 1) { s with sources := sources }
    · have hfeed : ls.feed policy index f = .error e := by
        rw [LayoutState.feed_eq, hf]
        rfl
      rw [if_pos (by simp), LayoutState.feedAll, hfeed]
      rfl

lemma run_checkName (p : DuplicatePolicy) (origin : Origin) (s : CompileState σ) :
    (checkName p origin).run s =
      if p = .strict ∧ s.accepted.contains origin.entry = true then
        .error (Collision.ofEntry origin).failure s
      else .ok () (s.warned (p.nameWarnings origin (s.accepted.contains origin.entry))) := by
  have hget : (get : EntryPass σ (CompileState σ)).run s = .ok s s := rfl
  rw [checkName, run_bind hget]
  rcases s.accepted.contains origin.entry <;> cases p <;> rfl

lemma run_lay (o : LayoutOptions) (origin : Origin) (template : List (Field (WidgetSource σ)))
    (s : CompileState σ) :
    (lay o origin template).run s =
      match layOut o (settleFields o.unknownFields 0 s.sources template).1 with
      | .ok l =>
        .ok l { s with sources := (settleFields o.unknownFields 0 s.sources template).2 }
      | .error e =>
        .error (e.diagnostic origin)
          { s with sources := (settleFields o.unknownFields 0 s.sources template).2 } := by
  have h := run_feedAll o.unknownFields origin .empty 0 template s
  rw [lay, layOut]
  generalize LayoutState.empty.feedAll o.unknownFields 0
    (settleFields o.unknownFields 0 s.sources template).1 = fed at h ⊢
  rcases fed with e | ls
  · exact run_bind_error h _
  · exact run_bind h _

/-- Names that may stand are reported. -/
lemma run_connections_of_nodup {p : DuplicatePolicy} {l : Layout}
    (hr : p = .strict → l.connections.Nodup) (origin : Origin) (s : CompileState σ) :
    (connections p origin [] [] l.connections).run s =
      .ok () (s.warned (p.connectionWarnings origin l)) := by
  have h := run_connections p origin [] [] l.connections s
  rw [show repeatsAfter [] [] l.connections = repeats l.connections from rfl] at h
  cases p with
  | warn => simpa [DuplicatePolicy.apply, DuplicatePolicy.connectionWarnings] using h
  | strict =>
    rw [(repeats_eq_nil_iff _).mpr (hr rfl)] at h
    exact h

/-- The strict policy refuses an entry for the first name that does not stand alone. -/
lemma run_connections_of_repeats {l : Layout} {name : String} {names : List String}
    (hr : repeats l.connections = name :: names) (origin : Origin) (s : CompileState σ) :
    (connections .strict origin [] [] l.connections).run s =
      .error (Collision.ofConnection origin name).failure s := by
  have h := run_connections .strict origin [] [] l.connections s
  rw [show repeatsAfter [] [] l.connections = repeats l.connections from rfl, hr] at h
  exact h

/-- With an entry registered. -/
def registered (e : Entry (WidgetSource σ)) (schema : BlockSchema) (s : CompileState σ) :
    CompileState σ :=
  { s with
    registries := (s.registries.addBlock schema).addGenerator e.name e.generator
    accepted := s.accepted ++ [e.name]
    log := s.log.push (LogLine.registered schema) }

/-- Once the names of its connections are settled, the output of an entry decides. -/
lemma run_complete {o : Options} {l : Layout} (hr : o.duplicates = .strict → l.connections.Nodup)
    (origin : Origin) (colour : String) (e : Entry (WidgetSource σ)) (s : CompileState σ) :
    (complete o origin colour e l).run s =
      let t := s.warned (l.skipped.map (skippedWarning origin) ++
        o.duplicates.connectionWarnings origin l)
      match e.assemble colour l.rows with
      | .error error => .error (error.diagnostic origin) t
      | .ok schema => .ok (BlockReference.ofSchema schema) (registered e schema t) := by
  rw [complete, run_bind (run_reports _ _ s), run_bind (run_connections_of_nodup hr _ _),
    CompileState.warned_append]
  rcases e.assemble colour l.rows with error | schema <;> rfl

/-- An entry that is not refused for its name is laid out. -/
lemma run_entry_of_not_declared {o : Options} (shown : ToolboxCategory)
    {e : Entry (WidgetSource σ)} {s : CompileState σ}
    (hd : o.duplicates = .strict → s.accepted.contains e.name = false) :
    let origin : Origin := { category := shown.name, entry := e.name }
    let made := e.settle o (s.accepted.contains e.name) s.sources
    let t := { s with sources := made.2 }.warned
      (o.duplicates.nameWarnings origin (s.accepted.contains e.name))
    (entry o shown e).run s =
      match layOut o.toLayoutOptions made.1.template with
      | .error error => .error (error.diagnostic origin) t
      | .ok l => (complete o origin shown.colour e l).run t := by
  have hname := run_checkName o.duplicates { category := shown.name, entry := e.name } s
  rw [if_neg (by simpa using hd)] at hname
  have hlay := run_lay o.toLayoutOptions { category := shown.name, entry := e.name } e.template
    (s.warned (o.duplicates.nameWarnings { category := shown.name, entry := e.name }
      (s.accepted.contains e.name)))
  rw [entry, run_bind hname, settle_of_not_declared hd]
  simp only [CompileState.warned_eq] at hlay ⊢
  rcases hl : layOut o.toLayoutOptions (settleFields o.unknownFields 0 s.sources e.template).1
    with error | l
  · rw [hl] at hlay
    exact run_bind_error hlay _
  · rw [hl] at hlay
    exact run_bind hlay _

/-- The strict policy refuses an entry after what was skipped in it has been reported. -/
lemma run_complete_of_repeats {o : Options} {l : Layout} {name : String} {names : List String}
    (hp : o.duplicates = .strict) (hr : repeats l.connections = name :: names) (origin : Origin)
    (colour : String) (e : Entry (WidgetSource σ)) (s : CompileState σ) :
    (complete o origin colour e l).run s =
      .error (Collision.ofConnection origin name).failure
        (s.warned (l.skipped.map (skippedWarning origin))) := by
  rw [complete, run_bind (run_reports _ _ s), hp]
  exact run_bind_error (run_connections_of_repeats hr _ _) _

/-- **What an entry changes is what its outcome says.** Its warnings are reported whether or not it
fails; of one that fails nothing else is left but widgets that were made for it. -/
lemma run_entry {o : Options} {shown : ToolboxCategory} {e : Entry (WidgetSource σ)}
    {s : CompileState σ} {out : Outcome}
    (hv : Verdict o shown.name shown.colour (s.accepted.contains e.name)
      (e.settle o (s.accepted.contains e.name) s.sources).1 out) :
    let sources := (e.settle o (s.accepted.contains e.name) s.sources).2
    let t := { s with sources := sources }.warned out.warnings
    (entry o shown e).run s =
      match out.result with
      | .error d => .error d t
      | .ok schema => .ok (BlockReference.ofSchema schema) (registered e schema t) := by
  have horigin : (e.settle o (s.accepted.contains e.name) s.sources).1.origin shown.name =
      { category := shown.name, entry := e.name } := by
    rw [Entry.origin, name_settle]
  cases hv with
  | declaredBefore hp hd =>
    have hname := run_checkName o.duplicates { category := shown.name, entry := e.name } s
    rw [if_pos ⟨hp, hd⟩] at hname
    rw [settle_of_declared ⟨hp, hd⟩]
    exact run_bind_error hname _
  | noLayout hd hl =>
    rw [run_entry_of_not_declared shown hd, hl, horigin]
  | repeatedConnection hp hd hl hr =>
    rw [run_entry_of_not_declared shown fun _ => hd, hl, horigin]
    dsimp only
    rw [run_complete_of_repeats hp hr, hp, DuplicatePolicy.layoutWarnings]
    simp [DuplicatePolicy.nameWarnings, DuplicatePolicy.connectionWarnings, CompileState.warned]
  | noShape hd hl hr ha =>
    rw [run_entry_of_not_declared shown hd, hl, horigin]
    rw [assemble_settle] at ha
    dsimp only
    rw [run_complete hr, ha, DuplicatePolicy.layoutWarnings]
    simp only [List.append_assoc, CompileState.warned_append]
  | accepted hd hl hr ha =>
    rw [run_entry_of_not_declared shown hd, hl, horigin]
    rw [assemble_settle] at ha
    dsimp only
    rw [run_complete hr, ha, DuplicatePolicy.layoutWarnings]
    simp only [List.append_assoc, CompileState.warned_append]

end EntryPass

namespace CompilePass

lemma run_bind {α β : Type} (x : CompilePass σ α) (k : α → CompilePass σ β) (s : CompileState σ) :
    (x >>= k).run s = (k (x.run s).1).run (x.run s).2 := rfl

/-- An entry that fails adds its warnings and its error. -/
lemma record_of_failed {out : Outcome} {d : Diagnostic} (h : out.result = .error d)
    (s : CompileState σ) (sources : σ) :
    s.record sources [out] = ({ s with sources := sources }.warned out.warnings).report d := by
  obtain ⟨e, ws, result⟩ := out
  obtain rfl : result = .error d := h
  simp [CompileState.record, CompileState.warned_eq, CompileState.report, Registries.record,
    Outcome.schema?, Except.toOption, Outcome.diagnostics, Outcome.failure?, Outcome.log,
    acceptedNames, Diagnostics.pushAll]

/-- An entry that is accepted adds its warnings, its schema and its generator, and takes its
name. -/
lemma record_of_accepted {out : Outcome} {schema : BlockSchema} (h : out.result = .ok schema)
    {e : Entry (WidgetSource σ)} (hname : schema.type = e.name) (hentry : out.entry.name = e.name)
    (hgenerator : out.entry.generator = e.generator) (s : CompileState σ) (sources : σ) :
    let t := EntryPass.registered e schema ({ s with sources := sources }.warned out.warnings)
    s.record sources [out] = { t with compiled := t.compiled + 1 } := by
  obtain ⟨e, ws, result⟩ := out
  obtain rfl : result = .ok schema := h
  simp [CompileState.record, CompileState.warned_eq, EntryPass.registered, Registries.record,
    Outcome.schema?, Except.toOption, Outcome.diagnostics, Outcome.failure?, Outcome.log,
    acceptedNames, Diagnostics.pushAll, hname, ← hentry, ← hgenerator]

lemma run_entry_ok {o : Options} {shown : ToolboxCategory} {e : Entry (WidgetSource σ)}
    {s t : CompileState σ} {reference : BlockReference}
    (h : (EntryPass.entry o shown e).run s = .ok reference t) :
    (entry o shown e).run s = (some reference, { t with compiled := t.compiled + 1 }) := by
  simp only [entry, StateT.run, h]

lemma run_entry_error {o : Options} {shown : ToolboxCategory} {e : Entry (WidgetSource σ)}
    {s t : CompileState σ} {d : Diagnostic}
    (h : (EntryPass.entry o shown e).run s = .error d t) :
    (entry o shown e).run s = (none, t.report d) := by
  simp only [entry, StateT.run, h]

/-- An entry adds its outcome to the state of a compile. -/
lemma run_entry (o : Options) (shown : ToolboxCategory) (e : Entry (WidgetSource σ))
    (s : CompileState σ) :
    let settled := e.settle o (s.accepted.contains e.name) s.sources
    let out := settled.1.outcome o shown.name shown.colour (s.accepted.contains e.name)
    (entry o shown e).run s =
      (out.schema?.map BlockReference.ofSchema, s.record settled.2 [out]) := by
  intro settled out
  have hrun := EntryPass.run_entry
    (verdict_outcome o shown.name shown.colour (s.accepted.contains e.name) settled.1)
  have hentry : out.entry = settled.1 := entry_outcome _ _ _ _ _
  have hnamed : out.Named := named_outcome _ _ _ _ _
  rcases hr : out.result with d | schema
  · have hs : out.schema? = none := by rw [Outcome.schema?, hr]; rfl
    rw [hr] at hrun
    rw [run_entry_error hrun, record_of_failed hr, hs]
    rfl
  · have hs : out.schema? = some schema := by rw [Outcome.schema?, hr]; rfl
    have hname : out.entry.name = e.name := by rw [hentry, name_settle]
    rw [hr] at hrun
    rw [run_entry_ok hrun, record_of_accepted hr ((hnamed schema hs).trans hname) hname
      (by rw [hentry, generator_settle]), hs]
    rfl

lemma record_nil (s : CompileState σ) : s.record s.sources [] = s := by
  simp [CompileState.record, Diagnostics.pushAll, acceptedNames]

/-- The entries of a category add their outcomes, and those that are accepted are shown. -/
lemma run_entries (o : Options) (shown : ToolboxCategory) (es : List (Entry (WidgetSource σ)))
    (s : CompileState σ) :
    let settled := settleEntries o shown.name shown.colour s.accepted s.sources es
    let outs := compileEntries o shown.name shown.colour s.accepted settled.1
    (entries o shown es).run s =
      ({ shown with contents := shown.contents ++
          outs.filterMap fun out => out.schema?.map BlockReference.ofSchema },
        s.record settled.2 outs) := by
  induction es generalizing shown s with
  | nil =>
    dsimp only [settleEntries, compileEntries]
    rw [record_nil, List.filterMap_nil, List.append_nil]
    rfl
  | cons e es ih =>
    rw [entries, run_bind, run_entry, settleEntries]
    dsimp only
    rw [compileEntries, name_settle]
    generalize hout : (e.settle o (s.accepted.contains e.name) s.sources).1.outcome o shown.name
      shown.colour (s.accepted.contains e.name) = out
    rcases hs : out.schema? with _ | schema
    · simp only [List.filterMap_cons, hs, Option.map_none]
      refine (ih shown _).trans ?_
      rw [CompileState.record_record]
      rfl
    · simp only [List.filterMap_cons, hs, Option.map_some]
      refine (ih _ _).trans ?_
      rw [CompileState.record_record, List.append_assoc]
      rfl

lemma run_categories (o : Options) (cs : List (Category (WidgetSource σ))) (s : CompileState σ) :
    let settled := settleCategories o s.accepted s.sources cs
    let ccs := compileCategories o s.accepted settled.1
    (categories o cs).run s =
      (ccs.map CompiledCategory.toolboxCategory,
        s.record settled.2 (ccs.flatMap CompiledCategory.outcomes)) := by
  induction cs generalizing s with
  | nil =>
    dsimp only [settleCategories]
    rw [compileCategories, List.flatMap_nil, record_nil]
    rfl
  | cons c cs ih =>
    rw [categories, run_bind, run_entries, run_bind, ih, settleCategories]
    dsimp only
    rw [compileCategories, List.map_cons, List.flatMap_cons]
    dsimp only
    rw [← CompileState.record_record]
    rfl

/-- **The compile in place is the compile by outcomes**, of the vocabulary that it finds. -/
theorem run_compile (o : Options) (vocabulary : List (Category (WidgetSource σ))) (sources : σ)
    (r : Registries) :
    let settled := settle o sources vocabulary
    let c := BlockVocabulary.compile o settled.1
    (compile o vocabulary).run (.start sources r) =
      ({ toolbox := c.toolbox, descriptors? := c.descriptors? r, diagnostics := c.diagnostics },
        { sources := settled.2, registries := c.register r, diagnostics := c.diagnostics
          accepted := c.names, compiled := c.names.length, log := c.log.toArray }) := by
  intro settled c
  have htotal : c.outcomes.length = (vocabulary.flatMap (·.entries)).length := by
    rw [length_outcomes, length_declarations, List.length_flatMap, entries_settle,
      ← List.length_flatMap]
  have hcount : c.categories.length = vocabulary.length := by
    rw [show c.categories.length = settled.1.length from length_compileCategories o [] settled.1]
    simpa using congrArg List.length (entries_settle o sources vocabulary)
  have hlog : c.log = c.outcomes.flatMap Outcome.log ++ [LogLine.summary c.names.length
      (vocabulary.flatMap (·.entries)).length vocabulary.length c.diagnostics] := by
    rw [Compilation.log, Compilation.summary, htotal, hcount]
  have hstate : (CompileState.start sources r).record settled.2 c.outcomes =
      { sources := settled.2, registries := c.register r, diagnostics := c.diagnostics
        accepted := c.names, compiled := c.names.length
        log := (c.outcomes.flatMap Outcome.log).toArray } := by
    simp [CompileState.record, CompileState.start, Compilation.register, Compilation.diagnostics,
      Compilation.names]
  have hrun : (categories o vocabulary).run (.start sources r) =
      (c.categories.map CompiledCategory.toolboxCategory,
        (CompileState.start sources r).record settled.2 c.outcomes) :=
    run_categories o vocabulary (.start sources r)
  rw [compile, run_bind, hrun, hstate, hlog, ← List.push_toArray]
  rfl

/-- **A vocabulary that was read is compiled as it stands.** -/
theorem run_compile_declared (o : Options) (vocabulary : List Category) (sources : σ)
    (r : Registries) :
    let c := BlockVocabulary.compile o vocabulary
    (compile o (vocabulary.map Category.declared)).run (.start sources r) =
      ({ toolbox := c.toolbox, descriptors? := c.descriptors? r, diagnostics := c.diagnostics },
        { sources := sources, registries := c.register r, diagnostics := c.diagnostics
          accepted := c.names, compiled := c.names.length, log := c.log.toArray }) := by
  have h := run_compile o (vocabulary.map Category.declared) sources r
  rwa [settle_declared] at h

end CompilePass

end BlockVocabulary
