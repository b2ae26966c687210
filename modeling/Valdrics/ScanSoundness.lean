import Valdrics.ScanMerging

/-! What a scan that is not partial has seen: every item of a detector's region is in the payload,
and what the scan resolves none of its plugins kept. -/
namespace Valdrics.ZombieScan

open Enforcement (Json Uuid)

section Stamps

variable {rt : Runtime} {features : Features} {connection : Connection} {regionOverride : Option String}
  {item : Item} {reported : Reported} {step : Step} {run : RegionScan} {key : String}

theorem lookup_assign (members : Item) (key other : String) (value : Json) :
    (assign members key value).lookup other = if other = key then some value else members.lookup other := by
  have replaced : ∀ list : Item, (list.map fun e => if e.1 = key then (key,value) else e).lookup other =
      if other = key then (list.lookup other).map fun _ => value else list.lookup other := by
    intro list
    induction list with
    | nil => simp
    | cons e rest ih =>
      obtain ⟨name,held⟩ := e
      by_cases same : name = key
      · subst same
        by_cases hit : other = name
        · simp [hit]
        · simp [List.lookup_cons,ih,hit,beq_false_of_ne hit]
      · by_cases hit : other = name
        · subst hit
          simp [same]
        · simp [List.lookup_cons,ih,same,beq_false_of_ne hit]
  simp only [assign]
  split
  next present =>
    rw [replaced]
    by_cases hit : other = key
    · subst hit
      cases held : members.lookup other with
      | some old => simp
      | none =>
        obtain ⟨e,member,same⟩ := List.any_eq_true.mp present
        have absent := List.lookup_eq_none_iff.mp held e member
        simp [of_decide_eq_true same] at absent
    · simp [hit]
  next absent =>
    rw [List.lookup_append]
    by_cases hit : other = key
    · subst hit
      have missing : members.lookup other = none := by
        refine List.lookup_eq_none_iff.mpr fun e member => ?_
        rw [bne_iff_ne]
        rintro rfl
        exact absent (List.any_eq_true.mpr ⟨e,member,by simp⟩)
      simp [missing]
    · simp [hit,List.lookup_cons,beq_false_of_ne hit]

theorem entry_assign (members : Item) (key other : String) (value : Json) :
    Item.entry (assign members key value) other = if other = key then value else members.entry other := by
  simp only [Item.entry,lookup_assign]
  split <;> rfl

theorem orElse_again (a b : Json) : orElse (orElse a b) b = orElse a b := by
  simp only [orElse]
  by_cases first : JsonValue.truthy a = true
  · simp [first]
  · by_cases second : JsonValue.truthy b = true <;> simp [first,second]

/-- The summary's region is the one that a stamped item of the scan carries. -/
theorem stamp_spec (stamped : stamp rt features connection regionOverride item = some reported)
    {region : String} (named : region ≠ "")
    (placed : orElse (.str (regionOverride.getD "")) (item.entry "region") = .str region) :
    reported.provider = connection.provider ∧ reported.connectionId = connection.id ∧
      reported.item.entry "region" = .str region ∧
      resourceId rt reported.item = resourceId rt item ∧
      ∀ category, resourceType rt category reported.item = resourceType rt category item := by
  obtain ⟨cost,_,rfl⟩ := Option.map_eq_some_iff.mp stamped
  have whole : orElse (.str (regionOverride.getD "")) (orElse (item.entry "region") (item.entry "zone")) =
      .str region := by
    by_cases overridden : regionOverride.getD "" = ""
    · simp only [orElse,overridden,JsonValue.truthy] at placed ⊢
      simp only [ne_eq,not_true_eq_false,decide_false,Bool.false_eq_true,if_false] at placed ⊢
      simp [placed,JsonValue.truthy,named]
    · simp only [orElse,JsonValue.truthy] at placed ⊢
      simpa [overridden] using placed
  have truthful : JsonValue.truthy (.str region) = true := by simp [JsonValue.truthy,named]
  refine ⟨rfl,rfl,?_,?_,?_⟩
  · simp only [whole,truthful,if_true,entry_assign]
  · simp only [whole,truthful,if_true,resourceId,entry_assign]
    simp [orElse_again]
  · intro category
    simp only [whole,truthful,if_true,resourceType,entry_assign]
    simp

theorem keptItems_region {provider : Provider} {category : String}
    (listed : item ∈ run.keptItems provider category) :
    item.entry "region" = .str (run.detectorRegion provider) := by
  simp only [RegionScan.keptItems] at listed
  split at listed
  · split at listed
    · simp at listed
    · obtain ⟨value,_,passed⟩ := List.mem_filterMap.mp listed
      simp only [inRegion] at passed
      split at passed
      · split at passed
        · cases passed
          rw [entry_assign,if_pos rfl]
        · contradiction
      · contradiction
  · simp at listed

theorem summaryRegion_ne (provider : Provider) (run : RegionScan) : run.summaryRegion provider ≠ "" := by
  cases provider <;> simp only [RegionScan.summaryRegion,RegionScan.regionOverride,
    RegionScan.detectorRegion]
  · exact run.named
  all_goals
    split
    · exact run.named
    · exact run.named

theorem placed_summary {provider : Provider}
    (region : item.entry "region" = .str (run.detectorRegion provider)) :
    orElse (.str ((run.regionOverride provider).getD "")) (item.entry "region") =
      .str (run.summaryRegion provider) := by
  have named := run.named
  cases provider <;> simp only [RegionScan.summaryRegion,RegionScan.regionOverride,
    RegionScan.detectorRegion] at region ⊢
  · simp [orElse,JsonValue.truthy,named]
  all_goals
    split
    · simp [orElse,JsonValue.truthy,region]
    · simp [orElse,JsonValue.truthy,named]

end Stamps

section Findings

variable {rt : Runtime} {scan : TenantScan} {payload : Payload} {now : Int} {findings : Findings rt}
  {key : FindingKey rt} {row : OptimizationFinding}

def rewriteRow (held : Option OptimizationFinding) (observed : OptimizationFinding) :
    Option OptimizationFinding :=
  some (held.elim observed fun row => { observed with firstDetectedAt := row.firstDetectedAt })

theorem find_upserts (entries : List (FindingKey rt × OptimizationFinding)) (findings : Findings rt) :
    (entries.foldl upsert findings).find key =
      ((entries.filter (·.1 = key)).map Prod.snd).foldl rewriteRow (findings.find key) := by
  induction entries generalizing findings with
  | nil => rfl
  | cons entry rest ih =>
    rw [List.foldl_cons,ih,upsert,Table.find_upsert]
    by_cases same : entry.1 = key
    · subst same
      simp [rewriteRow]
    · simp [same,Ne.symm same]

theorem observations_open {entry : FindingKey rt × OptimizationFinding}
    (listed : entry ∈ observations rt now payload) : entry.2.status = .opened := by
  obtain ⟨bucket,_,within⟩ := List.mem_flatMap.mp listed
  obtain ⟨reported,_,made⟩ := List.mem_filterMap.mp within
  obtain ⟨key,_,rfl⟩ := Option.map_eq_some_iff.mp made
  rfl

theorem rewriteRow_opened {list : List OptimizationFinding}
    (opened : ∀ observed ∈ list, observed.status = .opened) (held : Option OptimizationFinding)
    (found : list.foldl rewriteRow held = some row) : held = some row ∨ row.status = .opened := by
  induction list generalizing held with
  | nil => exact .inl found
  | cons observed rest ih =>
    have opens := opened observed List.mem_cons_self
    rcases ih (fun later listed => opened later (List.mem_cons_of_mem _ listed)) _ found with now | later
    · refine .inr ?_
      cases now
      cases held <;> exact opens
    · exact .inr later

theorem upserts_status {entries : List (FindingKey rt × OptimizationFinding)}
    (opened : ∀ entry ∈ entries, entry.2.status = .opened)
    (found : (entries.foldl upsert findings).find key = some row) :
    findings.find key = some row ∨ row.status = .opened := by
  rw [find_upserts] at found
  refine rewriteRow_opened ?_ _ found
  intro observed listed
  obtain ⟨entry,within,rfl⟩ := List.mem_map.mp listed
  exact opened entry (List.mem_filter.mp within).1

theorem persist_resolves {before row : OptimizationFinding} (found : findings.find key = some before)
    (opened : before.status = .opened)
    (after : (persistScanFindings rt now payload findings).find key = some row)
    (resolved : row.status = .resolved) : payload.partialResults = false ∧
      (key.provider,key.connectionId,normalizeRegion rt key.region.1) ∈ scopes rt now payload ∧
      key ∉ (observations rt now payload).map Prod.fst := by
  have unresolved : ∀ written, ((observations rt now payload).foldl upsert findings).find key =
      some written → written.status = .opened := by
    intro written held
    rcases upserts_status (fun entry => observations_open) held with old | new
    · cases found.symm.trans old
      exact opened
    · exact new
  simp only [persistScanFindings] at after
  split at after
  · rw [unresolved row after] at resolved
    contradiction
  next complete =>
    simp only [resolveUnseen,Table.find_mapRows] at after
    obtain ⟨written,held,rewritten⟩ := Option.map_eq_some_iff.mp after
    have open_row := unresolved written held
    refine ⟨by simpa using complete,?_,?_⟩
    · by_contra outside
      rw [if_pos outside] at rewritten
      subst rewritten
      rw [open_row] at resolved
      contradiction
    · intro seen
      rw [if_pos seen] at rewritten
      split at rewritten
      all_goals
        subst rewritten
        rw [open_row] at resolved
        contradiction

end Findings

structure Covers (rt : Runtime) (step : Step) (run : RegionScan) (key : FindingKey rt) : Prop where
  outcome : step.outcome = .scanned run
  provider : step.connection.provider = key.provider
  connection : step.connection.id = key.connectionId
  region : normalizeRegion rt (run.summaryRegion step.connection.provider) = key.region.1

section Law

variable {rt : Runtime} {scan : TenantScan} {payload : Payload} {key : FindingKey rt}

theorem initial_bucket (count : Nat) (key : String) : (Payload.initial count).bucket key = [] := by
  cases found : (Payload.initial count).buckets.find key with
  | none => simp [Payload.bucket,found]
  | some items =>
    have member := Table.find_eq_some_iff.mp found
    obtain ⟨name,_,same⟩ := List.mem_map.mp member
    cases same
    simp [Payload.bucket,found]

theorem reported_origin (merged : mergeSteps rt scan.features (.initial scan.scannedConnections) scan.steps =
      .ok payload) (clean : payload.partialResults = false) {bucket : String} {items : List Reported}
    {reported : Reported} (listed : (bucket,items) ∈ payload.buckets.rows) (within : reported ∈ items) :
    ∃ step ∈ scan.steps, ∃ run, step.outcome = .scanned run ∧
      ∃ category ∈ step.connection.provider.plugins, uiKey category = bucket ∧
        ∃ item ∈ run.keptItems step.connection.provider category,
          stamp rt scan.features step.connection (run.regionOverride step.connection.provider) item =
            some reported := by
  have there : some reported ∈ (payload.bucket bucket).map some := by
    simp only [Payload.bucket,Table.find_eq_some_iff.mpr listed]
    exact List.mem_map.mpr ⟨reported,within,rfl⟩
  rw [(mergeSteps_clean merged clean).2.2.1,initial_bucket,List.map_nil,List.nil_append] at there
  obtain ⟨step,inScan,stamped⟩ := List.mem_flatMap.mp there
  obtain ⟨item,kept,made⟩ := List.mem_map.mp stamped
  obtain ⟨run,outcome,_⟩ := (mergeSteps_clean merged clean).2.1 step inScan
  simp only [Step.kept,outcome] at kept
  obtain ⟨category,chosen,held⟩ := List.mem_flatMap.mp kept
  obtain ⟨plugin,same⟩ := List.mem_filter.mp chosen
  simp only [Step.regionOverride,outcome] at made
  exact ⟨step,inScan,run,outcome,category,plugin,by simpa using same,item,held,made⟩

theorem findingKey_stamped (bucket : String) {step : Step} {run : RegionScan} {category : String}
    {item : Item} {reported : Reported} (held : item ∈ run.keptItems step.connection.provider category)
    (stamped : stamp rt scan.features step.connection (run.regionOverride step.connection.provider) item =
      some reported) : reported.provider = step.connection.provider ∧
      reported.connectionId = step.connection.id ∧
      normalizeRegion rt (textOr rt (reported.item.entry "region")) =
        normalizeRegion rt (run.summaryRegion step.connection.provider) ∧
      resourceId rt reported.item = resourceId rt item ∧
      resourceType rt bucket reported.item = resourceType rt bucket item := by
  have named := summaryRegion_ne step.connection.provider run
  obtain ⟨provider,connection,region,resource,type⟩ :=
    stamp_spec stamped named (placed_summary (keptItems_region held))
  refine ⟨provider,connection,?_,resource,type bucket⟩
  rw [region]
  simp [textOr,JsonValue.truthy,named,Runtime.str]

theorem scope_covered (merged : mergeSteps rt scan.features (.initial scan.scannedConnections) scan.steps =
      .ok payload) (clean : payload.partialResults = false)
    (inScope : (key.provider,key.connectionId,normalizeRegion rt key.region.1) ∈
      scopes rt scan.now payload) : ∃ step ∈ scan.steps, ∃ run, Covers rt step run key := by
  rw [key.region.2] at inScope
  rcases List.mem_append.mp inScope with summarized | observed
  · have listed : (key.provider,key.connectionId,key.region.1) ∈
        payload.scanCompleteness.map (Summary.scope rt) := summarized
    rw [(mergeSteps_clean merged clean).2.2.2] at listed
    simp only [Payload.initial,List.map_nil,List.nil_append] at listed
    obtain ⟨step,inScan,scope⟩ := List.mem_filterMap.mp listed
    split at scope
    next run outcome =>
      simp only [Option.some.injEq,Prod.mk.injEq] at scope
      exact ⟨step,inScan,run,outcome,scope.1,scope.2.1,scope.2.2⟩
    · contradiction
  · obtain ⟨entry,made,scope⟩ := List.mem_map.mp observed
    obtain ⟨⟨bucket,items⟩,listed,within⟩ := List.mem_flatMap.mp made
    obtain ⟨reported,there,keyed⟩ := List.mem_filterMap.mp within
    obtain ⟨found,named,rfl⟩ := Option.map_eq_some_iff.mp keyed
    obtain ⟨step,inScan,run,outcome,category,_,_,item,held,stamped⟩ :=
      reported_origin merged clean listed there
    obtain ⟨provider,connection,region,_⟩ := findingKey_stamped bucket held stamped
    simp only [findingKey] at named
    split at named
    · contradiction
    · cases named
      simp only [Prod.mk.injEq] at scope
      exact ⟨step,inScan,run,outcome,by rw [← provider,scope.1],by rw [← connection,scope.2.1],
        by rw [← region,scope.2.2]⟩

theorem kept_seen (merged : mergeSteps rt scan.features (.initial scan.scannedConnections) scan.steps =
      .ok payload) (clean : payload.partialResults = false) {step : Step} {run : RegionScan}
    (inScan : step ∈ scan.steps) (covers : Covers rt step run key) {category : String}
    (plugin : category ∈ step.connection.provider.plugins) (mapped : uiKey category = key.category)
    {item : Item} (held : item ∈ run.keptItems step.connection.provider category)
    (resource : resourceId rt item = key.resourceId.1)
    (type : resourceType rt key.category item = key.resourceType) :
    key ∈ (observations rt scan.now payload).map Prod.fst := by
  have kept : item ∈ step.kept key.category := by
    simp only [Step.kept,covers.outcome]
    exact List.mem_flatMap.mpr ⟨category,List.mem_filter.mpr ⟨plugin,by simpa using mapped⟩,held⟩
  have override : step.regionOverride = run.regionOverride step.connection.provider := by
    simp [Step.regionOverride,covers.outcome]
  have stamped : stamp rt scan.features step.connection step.regionOverride item ∈
      (payload.bucket key.category).map some := by
    rw [(mergeSteps_clean merged clean).2.2.1]
    exact List.mem_append_right _ (List.mem_flatMap.mpr ⟨step,inScan,List.mem_map.mpr ⟨item,kept,rfl⟩⟩)
  obtain ⟨reported,there,made⟩ := List.mem_map.mp stamped
  rw [override] at made
  obtain ⟨provider,connection,region,sameResource,sameType⟩ :=
    findingKey_stamped key.category held made.symm
  have identified : findingKey rt key.category reported = some key := by
    have named : resourceId rt reported.item ≠ "" := by
      rw [sameResource,resource]
      exact key.resourceId.2
    simp only [findingKey,named,dite_false,Option.some.injEq]
    obtain ⟨keyProvider,keyConnection,keyCategory,keyRegion,keyResource,keyType⟩ := key
    simp only [FindingKey.mk.injEq]
    exact ⟨provider.trans covers.provider,connection.trans covers.connection,trivial,
      Subtype.ext (region.trans covers.region),Subtype.ext (sameResource.trans resource),
      sameType.trans type⟩
  cases found : payload.buckets.find key.category with
  | none => simp [Payload.bucket,found] at there
  | some items =>
    simp only [Payload.bucket,found,Option.getD_some] at there
    refine List.mem_map.mpr ⟨(key,observe rt scan.now reported),?_,rfl⟩
    refine List.mem_flatMap.mpr ⟨(key.category,items),Table.find_eq_some_iff.mp found,?_⟩
    exact List.mem_filterMap.mpr ⟨reported,there,by simp [identified]⟩

structure FoundGone (rt : Runtime) (scan : TenantScan) (key : FindingKey rt) : Prop where
  covered : ∃ step ∈ scan.steps, ∃ run, Covers rt step run key
  ended : ∀ step ∈ scan.steps, ∀ run, Covers rt step run key →
    ∀ category ∈ step.connection.provider.plugins,
      run.Looked step.connection.provider category ∨ run.Swallowed step.connection.provider category
  gone : ∀ step ∈ scan.steps, ∀ run, Covers rt step run key →
    ∀ category ∈ step.connection.provider.plugins, uiKey category = key.category →
      ∀ item ∈ run.keptItems step.connection.provider category, resourceId rt item = key.resourceId.1 →
        resourceType rt key.category item ≠ key.resourceType

theorem persist_gone {findings : Findings rt} {before row : OptimizationFinding}
    (merged : mergeSteps rt scan.features (.initial scan.scannedConnections) scan.steps = .ok payload)
    (found : findings.find key = some before) (opened : before.status = .opened)
    (after : (persistScanFindings rt scan.now payload findings).find key = some row)
    (resolved : row.status = .resolved) : payload.partialResults = false ∧ FoundGone rt scan key := by
  obtain ⟨clean,inScope,unseen⟩ := persist_resolves found opened after resolved
  refine ⟨clean,scope_covered merged clean inScope,?_,?_⟩
  · intro step inScan run covers
    obtain ⟨other,outcome,ended⟩ := (mergeSteps_clean merged clean).2.1 step inScan
    cases covers.outcome.symm.trans outcome
    exact ended
  · intro step inScan run covers category plugin mapped item held resource type
    exact unseen (kept_seen merged clean inScan covers plugin mapped held resource type)

end Law

end Valdrics.ZombieScan
