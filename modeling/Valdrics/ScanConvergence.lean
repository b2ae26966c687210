import Valdrics.ApprovalToken
import Valdrics.ScanLaw

/-! The findings of a scan payload as the dictionary that it is: what is read of its buckets and its
completeness rows, which stored findings are loaded, written and resolved, and where this ends. -/
namespace Valdrics.ZombieScan

open Enforcement (Json Uuid)
open JsonValue (truthy)
open PythonText

abbrev ScanPayload := Table String Json

def nonActionableBuckets : List String := ["errors","scan_completeness"]

def supportedProviders : List Provider := [.aws,.azure,.gcp,.saas,.license,.platform,.hybrid]

/-- `normalize_provider`; `none` is the empty string. -/
def normalizeProvider (rt : Runtime) (value : Json) : Option Provider :=
  supportedProviders.find? fun provider => provider.name = rt.text.lower (strip (textOr rt value))

/-- `_coerce_uuid`. -/
def coerceUuid : Json → Option Uuid
  | .str value => Enforcement.ApprovalToken.parseUuid (strip value)
  | _ => none

def located (rt : Runtime) (entry : Item) : Option (Provider × Uuid) :=
  match normalizeProvider rt (entry.entry "provider"), coerceUuid (entry.entry "connection_id") with
  | some provider, some connectionId => some (provider,connectionId)
  | _, _ => none

/-- The scope of a row of `scan_completeness`. -/
def summaryScope (rt : Runtime) : Json → Option Scope
  | .obj summary => (located rt summary).map fun place =>
      (place.1,place.2,normalizeRegion rt (textOr rt (Item.entry summary "region")))
  | _ => none

def summaryScopes (rt : Runtime) (payload : ScanPayload) : List Scope :=
  match payload.find "scan_completeness" with
  | some (.arr rows) => rows.filterMap (summaryScope rt)
  | _ => []

/-- An item of a bucket under its fingerprint, if it is well formed. -/
def readItem (rt : Runtime) (category : String) : Json → Option (FindingKey rt × Reported)
  | .obj item => (located rt item).bind fun place =>
      let reported : Reported :=
        { provider := place.1
          connectionId := place.2
          connectionName := textOr rt (Item.entry item "connection_name")
          item }
      (findingKey rt category reported).map fun key => (key,reported)
  | _ => none

def bucketItems (category : String) : Json → List Json
  | .arr items => if category ∈ nonActionableBuckets then [] else items
  | _ => []

def payloadItems (rt : Runtime) (payload : ScanPayload) : List (FindingKey rt × Reported) :=
  payload.rows.flatMap fun bucket => (bucketItems bucket.1 bucket.2).filterMap (readItem rt bucket.1)

def FindingKey.scope {rt : Runtime} (key : FindingKey rt) : Scope :=
  (key.provider,key.connectionId,key.region.1)

def payloadScopes (rt : Runtime) (payload : ScanPayload) : List Scope :=
  summaryScopes rt payload ++ (payloadItems rt payload).map fun entry => entry.1.scope

def isPartial (payload : ScanPayload) : Bool := truthy ((payload.find "partial_results").getD .null)

/-- The fingerprints of `existing_rows`. -/
def loadedKeys {rt : Runtime} (connections : List Uuid) (findings : Findings rt) : List (FindingKey rt) :=
  (findings.rows.map Prod.fst).filter fun key => key.connectionId ∈ connections

/-- The write of one item, beside the fingerprints that are known; `none` is a second row under one
fingerprint. -/
def writeFinding (rt : Runtime) (now : Int) (state : List (FindingKey rt) × Findings rt)
    (entry : FindingKey rt × Reported) : Option (List (FindingKey rt) × Findings rt) :=
  let observed := observe rt now entry.2
  if entry.1 ∈ state.1 then
    some (state.1,state.2.update entry.1 fun held =>
      { observed with firstDetectedAt := held.firstDetectedAt })
  else (state.2.insert entry.1 observed).map fun next => (entry.1 :: state.1,next)

def resolveRow {rt : Runtime} (now : Int) (inScope : List Scope) (seen : List (FindingKey rt))
    (key : FindingKey rt) (row : OptimizationFinding) : OptimizationFinding :=
  if (key.provider,key.connectionId,normalizeRegion rt key.region.1) ∉ inScope then row
  else if key ∈ seen then row
  else if row.status = .resolved then row
  else { row with status := .resolved,resolvedAt := some now }

def marked (item : Item) (id : String) : Item :=
  assign (assign item "finding_id" (.str id)) "finding_status" (.str "open")

def annotateItem (rt : Runtime) (ids : FindingKey rt → String) (category : String) (value : Json) : Json :=
  match readItem rt category value with
  | none => value
  | some (key,reported) => .obj (marked reported.item (ids key))

def annotateBucket (rt : Runtime) (ids : FindingKey rt → String) (category : String) : Json → Json
  | .arr items =>
    if category ∈ nonActionableBuckets then .arr items
    else .arr (items.map (annotateItem rt ids category))
  | value => value

/-- `persist_scan_findings` on the dictionary; `ids` are the ids of the rows by fingerprint. -/
def persistScanPayload (rt : Runtime) (ids : FindingKey rt → String) (now : Int) (payload : ScanPayload)
    (findings : Findings rt) : Option (ScanPayload × Findings rt) :=
  let items := payloadItems rt payload
  let scopes := payloadScopes rt payload
  let existing := loadedKeys (scopes.map fun scope => scope.2.1) findings
  let seen := items.map Prod.fst
  (items.foldlM (writeFinding rt now) (existing,findings)).map fun written =>
    (payload.mapRows (annotateBucket rt ids),
      if isPartial payload then written.2
      else written.2.mapRows fun key row =>
        if key ∈ existing then resolveRow now scopes seen key row else row)

section Write

variable {rt : Runtime} {now : Int} {connections : List Uuid} {key : FindingKey rt}

def Known (connections : List Uuid) (state : List (FindingKey rt) × Findings rt) : Prop :=
  ∀ key : FindingKey rt, key.connectionId ∈ connections →
    (key ∈ state.1 ↔ ∃ row, state.2.find key = some row)

theorem loadedKeys_known (connections : List Uuid) (findings : Findings rt) :
    Known connections (loadedKeys connections findings,findings) := by
  intro key within
  simp only [loadedKeys,List.mem_filter,within,decide_true,and_true]
  constructor
  · intro listed
    obtain ⟨e,member,rfl⟩ := List.mem_map.mp listed
    exact ⟨e.2,Table.find_eq_some_iff.mpr member⟩
  · rintro ⟨row,found⟩
    exact List.mem_map.mpr ⟨_,Table.find_eq_some_iff.mp found,rfl⟩

/-- The lookup among the loaded rows decides as the table itself would. -/
theorem writeFinding_known (now : Int) {state : List (FindingKey rt) × Findings rt}
    {entry : FindingKey rt × Reported} (known : Known connections state)
    (within : entry.1.connectionId ∈ connections) :
    ∃ next, writeFinding rt now state entry = some next ∧ Known connections next ∧
      next.2 = upsert state.2 (entry.1,observe rt now entry.2) := by
  by_cases listed : entry.1 ∈ state.1
  · obtain ⟨row,found⟩ := (known entry.1 within).mp listed
    have present : state.2.insert entry.1 (observe rt now entry.2) = none :=
      Table.insert_eq_none_iff.mpr ⟨row,found⟩
    refine ⟨_,if_pos listed,?_,?_⟩
    · intro key inside
      rw [Table.find_update]
      by_cases same : key = entry.1
      · subst same
        simp [listed,found]
      · simpa [same] using known key inside
    · simp [upsert,Table.upsert,present]
  · have fresh : state.2.find entry.1 = none := by
      cases found : state.2.find entry.1 with
      | none => rfl
      | some row => exact absurd ((known entry.1 within).mpr ⟨row,found⟩) listed
    obtain ⟨next,inserted⟩ := Table.insert_exists (observe rt now entry.2) fresh
    refine ⟨(entry.1 :: state.1,next),?_,?_,?_⟩
    · simp [writeFinding,listed,inserted]
    · intro key inside
      rw [Table.find_insert inserted]
      by_cases same : key = entry.1
      · simp [same]
      · simpa [same] using known key inside
    · simp [upsert,Table.upsert,inserted]

theorem writeFindings_known (now : Int) {state : List (FindingKey rt) × Findings rt}
    (entries : List (FindingKey rt × Reported)) (known : Known connections state)
    (within : ∀ entry ∈ entries, entry.1.connectionId ∈ connections) :
    ∃ next, entries.foldlM (writeFinding rt now) state = some next ∧
      next.2 = (entries.map fun entry => (entry.1,observe rt now entry.2)).foldl upsert state.2 := by
  induction entries generalizing state with
  | nil => exact ⟨state,rfl,rfl⟩
  | cons entry rest ih =>
    obtain ⟨middle,wrote,known',made⟩ :=
      writeFinding_known now known (within entry List.mem_cons_self)
    obtain ⟨next,rest_wrote,all⟩ := ih known' fun later listed =>
      within later (List.mem_cons_of_mem _ listed)
    refine ⟨next,?_,?_⟩
    · rw [List.foldlM_cons,wrote]
      exact rest_wrote
    · rw [all,made]
      rfl

def latest (items : List (FindingKey rt × Reported)) (key : FindingKey rt) : Option Reported :=
  ((items.filter (·.1 = key)).map Prod.snd).getLast?

theorem latest_isSome (items : List (FindingKey rt × Reported)) (key : FindingKey rt) :
    (latest items key).isSome ↔ key ∈ items.map Prod.fst := by
  rw [← not_iff_not,Bool.not_eq_true,Option.isSome_eq_false_iff,Option.isNone_iff_eq_none,latest,
    List.getLast?_eq_none_iff,List.map_eq_nil_iff,List.filter_eq_nil_iff]
  simp only [decide_eq_true_eq,List.mem_map,not_exists,not_and]

def writtenOver (rt : Runtime) (now : Int) (held : Option OptimizationFinding) (reported : Reported) :
    OptimizationFinding :=
  { observe rt now reported with firstDetectedAt := held.elim now fun row => row.firstDetectedAt }

theorem rewriteRow_latest (list : List Reported) (held : Option OptimizationFinding) :
    (list.map (observe rt now)).foldl rewriteRow held = match list.getLast? with
      | none => held
      | some reported => some (writtenOver rt now held reported) := by
  induction list generalizing held with
  | nil => rfl
  | cons reported rest ih =>
    rw [List.map_cons,List.foldl_cons,ih]
    cases last : rest.getLast? with
    | none =>
      obtain rfl := List.getLast?_eq_none_iff.mp last
      cases held <;> rfl
    | some later =>
      rw [List.getLast?_cons,last]
      cases held <;> rfl

theorem scope_normal (key : FindingKey rt) :
    (key.provider,key.connectionId,normalizeRegion rt key.region.1) = key.scope := by
  rw [key.region.2]
  rfl

theorem payloadItems_scope {payload : ScanPayload} (seen : key ∈ (payloadItems rt payload).map Prod.fst) :
    key.scope ∈ payloadScopes rt payload := by
  obtain ⟨entry,listed,rfl⟩ := List.mem_map.mp seen
  exact List.mem_append_right _ (List.mem_map.mpr ⟨entry,listed,rfl⟩)

/-- What becomes of a finding: its last item is written over it, or it is resolved once its scope
was scanned without it. -/
def settled (rt : Runtime) (now : Int) (payload : ScanPayload) (key : FindingKey rt)
    (held : Option OptimizationFinding) : Option OptimizationFinding :=
  match latest (payloadItems rt payload) key with
  | some reported => some (writtenOver rt now held reported)
  | none => held.map fun row =>
      if isPartial payload = false ∧ key.scope ∈ payloadScopes rt payload ∧ row.status = .opened then
        { row with status := .resolved,resolvedAt := some now }
      else row

theorem persistScanPayload_settles (now : Int) (ids : FindingKey rt → String) (payload : ScanPayload)
    (findings : Findings rt) : ∃ after,
      persistScanPayload rt ids now payload findings =
        some (payload.mapRows (annotateBucket rt ids),after) ∧
      ∀ key, after.find key = settled rt now payload key (findings.find key) := by
  have known := loadedKeys_known ((payloadScopes rt payload).map fun scope => scope.2.1) findings
  have within : ∀ entry ∈ payloadItems rt payload,
      entry.1.connectionId ∈ (payloadScopes rt payload).map fun scope => scope.2.1 := by
    intro entry listed
    exact List.mem_map.mpr ⟨_,payloadItems_scope (List.mem_map_of_mem listed),rfl⟩
  obtain ⟨written,wrote,made⟩ := writeFindings_known now _ known within
  refine ⟨_,by simp only [persistScanPayload,wrote]; rfl,fun key => ?_⟩
  have found : written.2.find key = match latest (payloadItems rt payload) key with
      | none => findings.find key
      | some reported => some (writtenOver rt now (findings.find key) reported) := by
    rw [made,find_upserts,latest,← rewriteRow_latest,List.filter_map,List.map_map,List.map_map]
    rfl
  have seen := latest_isSome (payloadItems rt payload) key
  cases partly : isPartial payload with
  | true =>
    simp only [if_true,found,settled,partly]
    cases latest (payloadItems rt payload) key <;> simp
  | false =>
    simp only [Bool.false_eq_true,if_false,Table.find_mapRows,found,settled,partly,true_and]
    cases last : latest (payloadItems rt payload) key with
    | some reported =>
      rw [last,Option.isSome_some] at seen
      simp [resolveRow,seen.mp rfl]
    | none =>
      have absent : key ∉ (payloadItems rt payload).map Prod.fst := by
        intro listed
        have named := seen.mpr listed
        simp [last] at named
      cases held : findings.find key with
      | none => rfl
      | some row =>
        simp only [Option.map_some,resolveRow,scope_normal,absent,if_false]
        by_cases inScope : key.scope ∈ payloadScopes rt payload
        · have connected : key.connectionId ∈ (payloadScopes rt payload).map fun scope => scope.2.1 :=
            List.mem_map.mpr ⟨_,inScope,rfl⟩
          have loaded := (known key connected).mpr ⟨row,held⟩
          cases status : row.status <;> simp [loaded,inScope]
        · simp [inScope]

end Write

section Annotations

variable {rt : Runtime} {ids : FindingKey rt → String} {category : String} {item : Item} {value : Json}
  {entry : FindingKey rt × Reported}

theorem marked_lookup (id : String) {name : String} (other : name ≠ "finding_id")
    (apart : name ≠ "finding_status") : (marked item id).lookup name = item.lookup name := by
  rw [marked,lookup_assign,if_neg apart,lookup_assign,if_neg other]

theorem marked_entry (id : String) {name : String} (other : name ≠ "finding_id")
    (apart : name ≠ "finding_status") : Item.entry (marked item id) name = Item.entry item name := by
  rw [Item.entry,marked_lookup id other apart,Item.entry]

theorem filter_assign (members : Item) (name : String) (value : Json) (keep : String × Json → Bool)
    (dropped : ∀ held, keep (name,held) = false) :
    (assign members name value).filter keep = members.filter keep := by
  simp only [assign]
  split
  next present =>
    clear present
    induction members with
    | nil => rfl
    | cons e rest ih =>
      obtain ⟨key,held⟩ := e
      by_cases same : key = name
      · subst same
        simp [dropped,ih]
      · simp [List.filter_cons,same,ih]
  next absent => simp [dropped]

theorem observe_marked (now : Int) (reported : Reported) (id : String) :
    observe rt now { reported with item := marked reported.item id } = observe rt now reported := by
  have kept : (marked reported.item id).filter
      (fun e => decide (e.1 ≠ "finding_id") && decide (e.1 ≠ "finding_status")) =
      reported.item.filter fun e => decide (e.1 ≠ "finding_id") && decide (e.1 ≠ "finding_status") := by
    rw [marked,filter_assign _ _ _ _ (by simp),filter_assign _ _ _ _ (by simp)]
  simp only [observe,kept,marked_lookup,marked_entry,ne_eq,String.reduceEq,not_false_eq_true]

theorem readItem_item (read : readItem rt category value = some entry) :
    value = .obj entry.2.item := by
  cases value with
  | obj item =>
    obtain ⟨place,_,named⟩ := Option.bind_eq_some_iff.mp read
    obtain ⟨key,_,rfl⟩ := Option.map_eq_some_iff.mp named
    rfl
  | _ => contradiction

theorem readItem_marked (read : readItem rt category (.obj item) = some entry) (id : String) :
    readItem rt category (.obj (marked item id)) =
      some (entry.1,{ entry.2 with item := marked entry.2.item id }) := by
  obtain ⟨place,there,named⟩ := Option.bind_eq_some_iff.mp read
  obtain ⟨key,found,rfl⟩ := Option.map_eq_some_iff.mp named
  have placed : located rt (marked item id) = some place := by
    simpa only [located,marked_entry,ne_eq,String.reduceEq,not_false_eq_true] using there
  have unnamed : resourceId rt (marked item id) = resourceId rt item := by
    simp only [resourceId,marked_entry,ne_eq,String.reduceEq,not_false_eq_true]
  have typed : resourceType rt category (marked item id) = resourceType rt category item := by
    simp only [resourceType,marked_entry,ne_eq,String.reduceEq,not_false_eq_true]
  simp only [findingKey] at found
  split at found
  · contradiction
  next resource =>
    obtain rfl := Option.some.inj found
    simp [readItem,placed,findingKey,unnamed,typed,resource,marked_entry]

def annotated (ids : FindingKey rt → String) (entry : FindingKey rt × Reported) :
    FindingKey rt × Reported :=
  (entry.1,{ entry.2 with item := marked entry.2.item (ids entry.1) })

theorem readItem_annotateItem (value : Json) :
    readItem rt category (annotateItem rt ids category value) =
      (readItem rt category value).map (annotated ids) := by
  simp only [annotateItem]
  cases read : readItem rt category value with
  | none => simpa using read
  | some entry =>
    obtain rfl := readItem_item read
    exact readItem_marked read (ids entry.1)

theorem bucketItems_annotateBucket (value : Json) :
    (bucketItems category (annotateBucket rt ids category value)).filterMap (readItem rt category) =
      ((bucketItems category value).filterMap (readItem rt category)).map (annotated ids) := by
  cases value with
  | arr items =>
    by_cases reserved : category ∈ nonActionableBuckets
    · simp [annotateBucket,bucketItems,reserved]
    · simp only [annotateBucket,bucketItems,reserved,if_false,List.filterMap_map,List.map_filterMap]
      congr 1
      funext item
      exact readItem_annotateItem item
  | _ => rfl

theorem payloadItems_annotated (payload : ScanPayload) :
    payloadItems rt (payload.mapRows (annotateBucket rt ids)) =
      (payloadItems rt payload).map (annotated ids) := by
  simp only [payloadItems,Table.mapRows,List.flatMap_map,List.map_flatMap,bucketItems_annotateBucket]

theorem summaryScopes_annotated (payload : ScanPayload) :
    summaryScopes rt (payload.mapRows (annotateBucket rt ids)) = summaryScopes rt payload := by
  simp only [summaryScopes,Table.find_mapRows]
  cases payload.find "scan_completeness" with
  | none => rfl
  | some value => cases value <;> rfl

theorem isPartial_annotated (payload : ScanPayload) :
    isPartial (payload.mapRows (annotateBucket rt ids)) = isPartial payload := by
  simp only [isPartial,Table.find_mapRows]
  cases payload.find "partial_results" with
  | none => rfl
  | some value =>
    cases value with
    | arr items => simp [annotateBucket,nonActionableBuckets,truthy]
    | _ => rfl

end Annotations

section Convergence

variable {rt : Runtime} {ids : FindingKey rt → String} {now : Int} {payload : ScanPayload}
  {before after : Findings rt} {key : FindingKey rt}

structure SameItems (rt : Runtime) (payload other : ScanPayload) : Prop where
  latest : ∀ key now, (latest (payloadItems rt other) key).map (observe rt now) =
    (latest (payloadItems rt payload) key).map (observe rt now)
  scopes : payloadScopes rt other = payloadScopes rt payload
  isPartial : isPartial other = isPartial payload

theorem annotated_sameItems (ids : FindingKey rt → String) (payload : ScanPayload) :
    SameItems rt payload (payload.mapRows (annotateBucket rt ids)) := by
  refine ⟨fun key now => ?_,?_,isPartial_annotated payload⟩
  · simp only [latest,payloadItems_annotated,List.filter_map,List.map_map,← List.getLast?_map]
    congr 1
    exact List.map_congr_left fun entry _ => observe_marked now entry.2 (ids entry.1)
  · rw [payloadScopes,summaryScopes_annotated,payloadItems_annotated,List.map_map]
    rfl

theorem settled_again {other : ScanPayload} (same : SameItems rt payload other) (later : Int)
    (held : Option OptimizationFinding) :
    settled rt later other key (settled rt now payload key held) =
      (settled rt now payload key held).map fun row =>
        if key ∈ (payloadItems rt payload).map Prod.fst then { row with lastDetectedAt := later } else row := by
  have latestSame := same.latest key later
  have seen := latest_isSome (payloadItems rt payload) key
  cases last : latest (payloadItems rt payload) key with
  | some reported =>
    rw [last,Option.isSome_some] at seen
    rw [last,Option.map_some] at latestSame
    obtain ⟨again,found,observed⟩ := Option.map_eq_some_iff.mp latestSame
    simp only [settled,last,found,Option.map_some,if_pos (seen.mp rfl),writtenOver,observed]
    rfl
  | none =>
    rw [last,Option.isSome_none] at seen
    rw [last,Option.map_none,Option.map_eq_none_iff] at latestSame
    have absent : key ∉ (payloadItems rt payload).map Prod.fst := by
      intro listed
      simpa using seen.mpr listed
    simp only [settled,last,latestSame,same.scopes,same.isPartial,if_neg absent]
    cases held with
    | none => rfl
    | some row =>
      simp only [Option.map_some,Option.some.injEq]
      by_cases resolves : isPartial payload = false ∧ key.scope ∈ payloadScopes rt payload ∧
          row.status = .opened
      · simp [resolves]
      · simp [if_neg resolves]

structure Converges (rt : Runtime) (payload : ScanPayload) (before after : Findings rt) : Prop where
  /-- A fingerprint is open once, if and only if an item of the scope has it. -/
  opened : isPartial payload = false → ∀ scope ∈ payloadScopes rt payload,
    ((after.rows.filter fun e => e.1.scope = scope ∧ e.2.status = .opened).map Prod.fst).Perm
      (((payloadItems rt payload).map Prod.fst).filter fun key => key.scope = scope).dedup
  firstDetected : ∀ key row, before.find key = some row →
    ∃ next, after.find key = some next ∧ next.firstDetectedAt = row.firstDetectedAt
  untouched : ∀ key : FindingKey rt, key.scope ∉ payloadScopes rt payload →
    after.find key = before.find key
  unresolved : isPartial payload = true → ∀ key row, after.find key = some row →
    row.status = .resolved → before.find key = some row

theorem latest_eq_none_iff : latest (payloadItems rt payload) key = none ↔
    key ∉ (payloadItems rt payload).map Prod.fst := by
  rw [← latest_isSome,Bool.not_eq_true,Option.isSome_eq_false_iff,Option.isNone_iff_eq_none]

theorem settled_opened (now : Int) (complete : isPartial payload = false)
    (inScope : key.scope ∈ payloadScopes rt payload) (held : Option OptimizationFinding) :
    (∃ row, settled rt now payload key held = some row ∧ row.status = .opened) ↔
      key ∈ (payloadItems rt payload).map Prod.fst := by
  rw [← latest_isSome]
  cases last : latest (payloadItems rt payload) key with
  | some reported => simp [settled,last,writtenOver,observe]
  | none =>
    simp only [settled,last,complete,inScope,true_and,Option.isSome_none,Bool.false_eq_true,iff_false]
    rintro ⟨row,found,opened⟩
    obtain ⟨old,_,rfl⟩ := Option.map_eq_some_iff.mp found
    by_cases status : old.status = .opened
    · simp [status] at opened
    · simp [status] at opened

theorem converges_of_settled
    (settles : ∀ key, after.find key = settled rt now payload key (before.find key)) :
    Converges rt payload before after := by
  refine ⟨fun complete scope named => ?_,fun key row found => ?_,fun key outside => ?_,
    fun partly key row found resolved => ?_⟩
  · have distinct : ((after.rows.filter fun e => e.1.scope = scope ∧ e.2.status = .opened).map
        Prod.fst).Nodup := after.distinct.sublist (List.filter_sublist.map Prod.fst)
    refine (List.perm_ext_iff_of_nodup distinct (List.nodup_dedup _)).mpr fun key => ?_
    rw [List.mem_dedup,List.mem_filter]
    constructor
    · intro listed
      obtain ⟨e,member,rfl⟩ := List.mem_map.mp listed
      obtain ⟨there,both⟩ := List.mem_filter.mp member
      obtain ⟨rfl,opened⟩ := of_decide_eq_true both
      have found := (settles e.1).symm.trans (Table.find_eq_some_iff.mpr there)
      exact ⟨(settled_opened now complete named _).mp ⟨e.2,found,opened⟩,by simp⟩
    · rintro ⟨seen,same⟩
      obtain rfl := of_decide_eq_true same
      obtain ⟨row,found,opened⟩ := (settled_opened now complete named (before.find key)).mpr seen
      refine List.mem_map.mpr ⟨(key,row),List.mem_filter.mpr ⟨?_,by simp [opened]⟩,rfl⟩
      exact Table.find_eq_some_iff.mp ((settles key).trans found)
  · rw [settles,found]
    cases last : latest (payloadItems rt payload) key with
    | some reported => exact ⟨writtenOver rt now (some row) reported,by simp [settled,last],rfl⟩
    | none =>
      refine ⟨_,by simp only [settled,last,Option.map_some]; rfl,?_⟩
      split <;> rfl
  · have unseen : latest (payloadItems rt payload) key = none :=
      latest_eq_none_iff.mpr fun seen => outside (payloadItems_scope seen)
    simp [settles,settled,unseen,outside]
  · rw [settles] at found
    cases last : latest (payloadItems rt payload) key with
    | some reported =>
      simp only [settled,last,Option.some.injEq] at found
      subst found
      simp [writtenOver,observe] at resolved
    | none => simpa [settled,last,partly] using found

/-- The findings converge to the scan; a payload that is written again, with or without the
annotations of the first time, moves nothing but the times of the last detection. -/
theorem persistScanPayload_converges (rt : Runtime) (ids : FindingKey rt → String) (now : Int)
    (payload : ScanPayload) (before : Findings rt) : ∃ annotated after,
      persistScanPayload rt ids now payload before = some (annotated,after) ∧
      Converges rt payload before after ∧
      ∀ again ∈ [payload,annotated], ∀ later, ∃ remarked final,
        persistScanPayload rt ids later again after = some (remarked,final) ∧
        ∀ key, final.find key = (after.find key).map fun row =>
          if key ∈ (payloadItems rt payload).map Prod.fst then { row with lastDetectedAt := later }
          else row := by
  obtain ⟨after,persisted,settles⟩ := persistScanPayload_settles now ids payload before
  refine ⟨_,after,persisted,converges_of_settled settles,fun again either later => ?_⟩
  obtain ⟨final,repeated,settlesAgain⟩ := persistScanPayload_settles later ids again after
  have same : SameItems rt payload again := by
    rcases List.mem_pair.mp either with rfl | rfl
    · exact ⟨fun _ _ => rfl,rfl,rfl⟩
    · exact annotated_sameItems ids payload
  refine ⟨_,final,repeated,fun key => ?_⟩
  rw [settlesAgain,settles]
  exact settled_again same later (before.find key)

end Convergence

/-- One resource reported twice, a malformed item and a completeness row. -/
def disksPayload : ScanPayload :=
  ⟨[("scan_completeness",.arr [.obj [("provider",.str "azure"),("region",.str "EastUS"),
      ("connection_id",.str "00000000-0000-0000-0000-000000000001")]]),
    ("unattached_volumes",.arr
      [.obj [("provider",.str "Azure "),("region",.str "eastus"),("id",.str "d-1"),
          ("connection_id",.str "00000000-0000-0000-0000-000000000001")],
        .obj [("provider",.str "azure"),("region",.str "EASTUS"),("resource_id",.str " d-1"),
          ("connection_id",.str "{00000000-0000-0000-0000-000000000001}")],
        .obj [("provider",.str "azure")]])],by decide⟩

theorem persistScanPayload_converges_disks : ∃ annotated after,
    persistScanPayload plainRuntime (fun _ => "f-1") 2 disksPayload
      (storedFinding (oneFinding .azure "idle_instances")) = some (annotated,after) ∧
    Converges plainRuntime disksPayload (storedFinding (oneFinding .azure "idle_instances")) after ∧
    ∃ remarked final,
      persistScanPayload plainRuntime (fun _ => "f-1") 3 annotated after = some (remarked,final) := by
  obtain ⟨annotated,after,persisted,converges,repeats⟩ := persistScanPayload_converges plainRuntime
    (fun _ => "f-1") 2 disksPayload (storedFinding (oneFinding .azure "idle_instances"))
  obtain ⟨remarked,final,repeated,_⟩ := repeats annotated (by simp) 3
  exact ⟨annotated,after,persisted,converges,remarked,final,repeated⟩

example : ((persistScanPayload plainRuntime (fun _ => "f-1") 2 disksPayload
    (storedFinding (oneFinding .azure "idle_instances"))).map fun persisted =>
      persisted.2.rows.map fun e => (e.1.resourceId.1,e.2.status,e.2.firstDetectedAt)) =
    some [("r-1",.resolved,1),("d-1",.opened,2)] := by decide +kernel

end Valdrics.ZombieScan
