import Mathlib.Data.List.Sort
import Valdrics.GlobPattern
import Valdrics.KeyedTable
import Valdrics.MemoryCache

/-! The scans of the process-local cache client, and the two invalidations that delete while they
scan: a cursor counts the places of the keys that are left, so that deleting a page moves the next
one below it. -/
namespace Valdrics.Cache

open PythonText (fnmatchcase)

abbrev Content := Table String Record

/-- What the calls for single keys see of it. -/
def Content.store (content : Content) : Store := content.find

namespace Content

variable (content : Content)

/-- `_purge_if_expired` of every key. -/
def purge (now : Nat) : Content := content.filter fun _ record => !record.expired now

/-- `_matching_keys` of a purged dictionary. -/
def matchingKeys (pattern : String) : List String :=
  ((content.rows.map Prod.fst).filter fun key => fnmatchcase key pattern).mergeSort (· ≤ ·)

/-- `delete` with the number of keys that were there. -/
def delete (keys : List String) : Nat × Content :=
  keys.foldl (fun state key =>
    if (state.2.find key).isSome then (state.1 + 1,state.2.filter fun other _ => other ≠ key)
    else state) (0,content)

/-- `scan` of a purged dictionary: the next cursor and the batch. -/
def scan (cursor : Int) (pattern : String) (count : Int) : Int × List String :=
  let keys := content.matchingKeys pattern
  let start := cursor.toNat
  let stop := start + (max count 1).toNat
  (if keys.length ≤ stop then 0 else stop,(keys.take stop).drop start)

def scanRound (pattern : String) (now : Nat) (cursor : Int) : Int × Content :=
  let purged := content.purge now
  let (next,keys) := purged.scan cursor pattern 100
  (next,if keys = [] then purged else (purged.delete keys).2)

/-- The loop of an invalidation, which reads the clock in every round: its last round and what it
leaves. `none` is a loop that goes on. -/
def scanLoop (pattern : String) (clock : Nat → Nat) :
    Nat → Nat → Int → Content → Option (Nat × Content)
  | 0, _, _, _ => none
  | fuel + 1, round, cursor, content =>
    let (next,left) := content.scanRound pattern (clock round) cursor
    if next = 0 then some (round,left) else scanLoop pattern clock fuel (round + 1) next left

/-- The scan branch of `CacheService.delete_pattern`. -/
def deletePattern (pattern : String) (clock : Nat → Nat) (fuel : Nat) : Option (Nat × Content) :=
  scanLoop pattern clock fuel 0 0 content

end Content

def tenantPattern (tenantId : String) : String := "query_cache:tenant:" ++ tenantId ++ ":*"

/-- `QueryCache.invalidate_tenant_cache`. -/
def Content.invalidateTenantCache (content : Content) (tenantId : String) (clock : Nat → Nat)
    (fuel : Nat) : Option (Nat × Content) :=
  scanLoop (tenantPattern tenantId) clock fuel 0 0 content

structure Invalidated (pattern : String) (before after : Content) (now : Nat) : Prop where
  gone : ∀ key, fnmatchcase key pattern = true → after.store.read key now = none
  kept : ∀ key, fnmatchcase key pattern = false →
    after.store.read key now = before.store.read key now

/-- However the clock goes on, the invalidation ends and leaves nothing of the pattern. -/
def Complete (invalidate : (Nat → Nat) → Nat → Option (Nat × Content)) (pattern : String)
    (content : Content) (start : Nat) : Prop :=
  ∀ clock, Monotone clock → clock 0 = start → ∃ fuel last after,
    invalidate clock fuel = some (last,after) ∧
      ∀ now, clock last ≤ now → Invalidated pattern content after now

def Content.liveKeys (content : Content) (pattern : String) (now : Nat) : List String :=
  ((content.rows.filter fun entry => !entry.2.expired now).map Prod.fst).filter
    fun key => fnmatchcase key pattern

section Keys

variable {content : Content} {pattern key : String} {now : Nat}

theorem find_delete (keys : List String) :
    (content.delete keys).2.find key = if key ∈ keys then none else content.find key := by
  suffices general : ∀ (state : Nat × Content), (keys.foldl (fun state key =>
      if (state.2.find key).isSome then (state.1 + 1,state.2.filter fun other _ => other ≠ key)
      else state) state).2.find key = if key ∈ keys then none else state.2.find key from general _
  induction keys with
  | nil => simp
  | cons first keys ih =>
    intro state
    rw [List.foldl_cons,ih]
    by_cases later : key ∈ keys
    · simp [later]
    by_cases same : key = first
    · subst same
      cases found : state.2.find key <;> simp [later,found,Table.find_filter]
    · have away : key ∉ first :: keys := by simp [later,same]
      rw [if_neg later,if_neg away]
      split
      · rw [Table.find_filter]
        cases state.2.find key <;> simp [same]
      · rfl

theorem find_purge : (content.purge now).find key = content.store.read key now := Table.find_filter _

theorem mem_matchingKeys : key ∈ content.matchingKeys pattern ↔
    fnmatchcase key pattern = true ∧ ∃ record, content.find key = some record := by
  simp only [Content.matchingKeys,List.mem_mergeSort,List.mem_filter,List.mem_map,
    Table.find_eq_some_iff,Prod.exists,exists_and_right,exists_eq_right]
  exact and_comm

theorem matchingKeys_nodup : (content.matchingKeys pattern).Nodup :=
  List.nodup_mergeSort.mpr (content.distinct.filter _)

theorem matchingKeys_length :
    ((content.purge now).matchingKeys pattern).length = (content.liveKeys pattern now).length := by
  simp only [Content.matchingKeys,List.length_mergeSort]
  rfl

theorem read_later (content : Content) {later : Nat} (after : now ≤ later) :
    (content.store.read key now).filter (fun record => !record.expired later) =
      content.store.read key later := by
  simp only [Store.read,Content.store]
  cases content.find key with
  | none => rfl
  | some record =>
    by_cases expired : record.expired now = true
    · have still : record.expired later = true := by
        simp only [Record.expired,Option.any_eq_true,decide_eq_true_eq] at expired ⊢
        obtain ⟨at_,some_,past⟩ := expired
        exact ⟨at_,some_,past.trans after⟩
      simp [Option.filter_some,expired,still]
    · simp [Option.filter_some,expired]

end Keys

section Rounds

variable {content : Content} {pattern key : String} {now : Nat} {cursor : Int}

def Content.page (content : Content) (pattern : String) (now : Nat) (cursor : Int) : List String :=
  (((content.purge now).matchingKeys pattern).take (cursor.toNat + 100)).drop cursor.toNat

theorem scanRound_find : (content.scanRound pattern now cursor).2.find key =
    if key ∈ content.page pattern now cursor then none else content.store.read key now := by
  have left : (content.scanRound pattern now cursor).2 =
      if content.page pattern now cursor = [] then content.purge now
      else ((content.purge now).delete (content.page pattern now cursor)).2 := rfl
  rw [left]
  split
  · next empty => simp [empty,find_purge]
  · rw [find_delete,find_purge]

theorem scanRound_next : (content.scanRound pattern now cursor).1 =
    if (content.liveKeys pattern now).length ≤ cursor.toNat + 100 then 0
    else ((cursor.toNat + 100 : Nat) : Int) := by
  rw [← matchingKeys_length]
  rfl

theorem scanRound_read {later : Nat} (after : now ≤ later) :
    (content.scanRound pattern now cursor).2.store.read key later =
      if key ∈ content.page pattern now cursor then none else content.store.read key later := by
  rw [← read_later content after,Store.read,Content.store,scanRound_find]
  split <;> rfl

theorem mem_page (deleted : key ∈ content.page pattern now cursor) :
    fnmatchcase key pattern = true :=
  (mem_matchingKeys.mp (List.mem_of_mem_take (List.mem_of_mem_drop deleted))).1

/-- A live key that stands below the cursor or beyond its page is left. -/
theorem scanRound_leaves {place : Nat} {left : String}
    (listed : ((content.purge now).matchingKeys pattern)[place]? = some left)
    (outside : place < cursor.toNat ∨ cursor.toNat + 100 ≤ place) :
    left ∉ content.page pattern now cursor := by
  intro deleted
  obtain ⟨index,inPage⟩ := List.mem_iff_getElem?.mp deleted
  simp only [Content.page,List.getElem?_drop,List.getElem?_take] at inPage
  split at inPage
  · next within =>
    have same := (List.getElem?_inj (List.getElem?_eq_some_iff.mp listed).1 matchingKeys_nodup).mp
      (listed.trans inPage.symm)
    omega
  · simp at inPage

theorem live_iff : content.liveKeys pattern now ≠ [] ↔ ∃ key, fnmatchcase key pattern = true ∧
    ∃ record, content.store.read key now = some record := by
  rw [← List.length_pos_iff_ne_nil,← matchingKeys_length,List.length_pos_iff_exists_mem]
  simp only [mem_matchingKeys,find_purge]

theorem scanRound_live {place : Nat} (there : place < (content.liveKeys pattern now).length)
    (outside : place < cursor.toNat ∨ cursor.toNat + 100 ≤ place) :
    (content.scanRound pattern now cursor).2.liveKeys pattern now ≠ [] := by
  rw [← matchingKeys_length] at there
  have listed := List.getElem?_eq_getElem there
  have kept := scanRound_leaves listed outside
  obtain ⟨matching,record,found⟩ := mem_matchingKeys.mp (List.mem_of_getElem? listed)
  refine live_iff.mpr ⟨_,matching,record,?_⟩
  rw [scanRound_read le_rfl,if_neg kept,← find_purge,found]

end Rounds

section Loop

variable {content after : Content} {pattern : String} {clock : Nat → Nat} {start : Nat}

theorem scanLoop_page (few : (content.liveKeys pattern (clock 0)).length ≤ 100) :
    ∃ after, Content.scanLoop pattern clock 1 0 0 content = some (0,after) ∧
      ∀ now, clock 0 ≤ now → Invalidated pattern content after now := by
  refine ⟨(content.scanRound pattern (clock 0) 0).2,?_,fun now later => ⟨?_,?_⟩⟩
  · have next : (content.scanRound pattern (clock 0) 0).1 = 0 := by
      rw [scanRound_next]
      exact if_pos (by simpa using few)
    simp only [Content.scanLoop,next,if_true]
  · intro key matching
    rw [scanRound_read later]
    split
    · rfl
    · next kept =>
      rw [← read_later content later]
      cases live : content.store.read key (clock 0) with
      | none => rfl
      | some record =>
        have listed : key ∈ (content.purge (clock 0)).matchingKeys pattern :=
          mem_matchingKeys.mpr ⟨matching,record,find_purge.trans live⟩
        have whole : content.page pattern (clock 0) 0 =
            (content.purge (clock 0)).matchingKeys pattern := by
          rw [← matchingKeys_length] at few
          simp [Content.page,List.take_of_length_le few]
        exact absurd (whole ▸ listed) kept
  · intro key other
    rw [scanRound_read later,if_neg fun deleted => ?_]
    simp [mem_page deleted] at other

theorem scanLoop_leaves (fuel round : Nat) {cursor : Int} (moved : 0 < cursor.toNat)
    (live : content.liveKeys pattern start ≠ []) {last : Nat}
    (done : Content.scanLoop pattern (fun _ => start) fuel round cursor content =
      some (last,after)) : after.liveKeys pattern start ≠ [] := by
  induction fuel generalizing round cursor content with
  | zero => simp [Content.scanLoop] at done
  | succ fuel ih =>
    have left := scanRound_live (List.length_pos_iff_ne_nil.mpr live) (.inl moved)
    simp only [Content.scanLoop] at done
    split at done
    · obtain ⟨-,rfl⟩ := Prod.mk.inj (Option.some.inj done)
      exact left
    · next goesOn =>
      refine ih (round + 1) ?_ left done
      rw [scanRound_next] at goesOn ⊢
      split at goesOn
      · contradiction
      · next beyond =>
        rw [if_neg beyond]
        omega

theorem scanLoop_complete_iff : Complete (fun clock fuel => Content.scanLoop pattern clock fuel 0 0
    content) pattern content start ↔ (content.liveKeys pattern start).length ≤ 100 := by
  constructor
  · intro complete
    by_contra many
    obtain ⟨fuel,last,after,done,invalidated⟩ :=
      complete (fun _ => start) monotone_const rfl
    have live : after.liveKeys pattern start ≠ [] := by
      cases fuel with
      | zero => simp [Content.scanLoop] at done
      | succ fuel =>
        have left : (content.scanRound pattern start 0).2.liveKeys pattern start ≠ [] :=
          scanRound_live (Nat.lt_of_not_le many) (.inr le_rfl)
        have next : (content.scanRound pattern start 0).1 = 100 := by
          rw [scanRound_next,if_neg (by simpa using many)]
          rfl
        simp only [Content.scanLoop,next] at done
        exact scanLoop_leaves fuel 1 (by decide) left done
    obtain ⟨key,matching,record,found⟩ := live_iff.mp live
    have gone := (invalidated start le_rfl).gone key matching
    simp [gone] at found
  · rintro few clock - rfl
    obtain ⟨after,done,invalidated⟩ := scanLoop_page few
    exact ⟨1,0,after,done,invalidated⟩

theorem delete_length (keys : List String) : (content.delete keys).2.rows.length ≤ content.rows.length := by
  refine List.foldlRecOn (motive := fun state : Nat × Content =>
    state.2.rows.length ≤ content.rows.length) keys _ le_rfl fun state smaller key _ => ?_
  split
  · exact (List.length_filter_le ..).trans smaller
  · exact smaller

theorem scanRound_length {now : Nat} {cursor : Int} :
    (content.scanRound pattern now cursor).2.rows.length ≤ content.rows.length := by
  have purged : (content.purge now).rows.length ≤ content.rows.length := List.length_filter_le ..
  simp only [Content.scanRound]
  split
  · exact purged
  · exact (delete_length _).trans purged

theorem scanLoop_spares {fuel round : Nat} {cursor : Int} (onward : Monotone clock) (some_ : 0 < fuel)
    (enough : content.rows.length < cursor.toNat + fuel) :
    ∃ last after, Content.scanLoop pattern clock fuel round cursor content = some (last,after) ∧
      round ≤ last ∧ ∀ key now, clock last ≤ now →
        after.store.read key now = content.store.read key now ∨
        fnmatchcase key pattern = true ∧ after.store.read key now = none := by
  induction fuel generalizing round cursor content with
  | zero => omega
  | succ fuel ih =>
    have spares : ∀ key now, clock round ≤ now →
        (content.scanRound pattern (clock round) cursor).2.store.read key now =
          content.store.read key now ∨ fnmatchcase key pattern = true ∧
        (content.scanRound pattern (clock round) cursor).2.store.read key now = none := by
      intro key now later
      rw [scanRound_read later]
      split
      · next deleted => exact .inr ⟨mem_page deleted,rfl⟩
      · exact .inl rfl
    simp only [Content.scanLoop,scanRound_next]
    by_cases few : (content.liveKeys pattern (clock round)).length ≤ cursor.toNat + 100
    · rw [if_pos few,if_pos rfl]
      exact ⟨_,_,rfl,le_rfl,spares⟩
    · have keys : (content.liveKeys pattern (clock round)).length ≤ content.rows.length := by
        refine (List.length_filter_le ..).trans ?_
        rw [List.length_map]
        exact List.length_filter_le ..
      have fewer := @scanRound_length content pattern (clock round) cursor
      rw [if_neg few,if_neg (by omega)]
      obtain ⟨last,after,ends,further,spared⟩ := @ih (content.scanRound pattern (clock round) cursor).2
        (round + 1) ((cursor.toNat + 100 : Nat) : Int) (by omega) (by omega)
      refine ⟨last,after,ends,by omega,fun key now later => ?_⟩
      rcases spared key now later with same | gone
      · rw [same]
        exact spares key now ((onward (by omega)).trans later)
      · exact .inr gone

end Loop

/-- The keys of a tenant whose id has no special character start with its prefix. -/
theorem tenantPattern_matches {tenantId key : String} (plain : ∀ c ∈ tenantId.toList,
    PythonText.PlainGlob c) : fnmatchcase key (tenantPattern tenantId) = true ↔
      ("query_cache:tenant:" ++ tenantId ++ ":").toList <+: key.toList := by
  have split : tenantPattern tenantId = "query_cache:tenant:" ++ tenantId ++ ":" ++ "*" := by
    have colon : (":*" : String) = ":" ++ "*" := by rfl
    exact (congrArg (("query_cache:tenant:" ++ tenantId) ++ ·) colon).trans String.append_assoc.symm
  rw [split]
  refine PythonText.fnmatchcase_prefix ?_ key
  refine PythonText.plainGlob_append (PythonText.plainGlob_append ?_ plain) ?_
  · simp [PythonText.PlainGlob]
  · simp [PythonText.PlainGlob]

/-- Both invalidations are complete exactly if the pattern has at most one page of live keys. -/
theorem invalidation_complete_iff (content : Content) (start : Nat) (tenantId pattern : String) :
    (Complete (content.invalidateTenantCache tenantId) (tenantPattern tenantId) content start ↔
      (content.liveKeys (tenantPattern tenantId) start).length ≤ 100) ∧
    (Complete (content.deletePattern pattern) pattern content start ↔
      (content.liveKeys pattern start).length ≤ 100) :=
  ⟨scanLoop_complete_iff,scanLoop_complete_iff⟩

namespace Sample

def tenantKey (n : Nat) : String :=
  "query_cache:tenant:" ++ "t" ++ ":" ++ String.ofList (List.replicate n 'a')

theorem repeated_injective (head : String) :
    Function.Injective fun n => head ++ String.ofList (List.replicate n 'a') := by
  intro n m same
  have lengths := congrArg (fun key => key.toList.length) same
  simp only [String.toList_append,List.length_append,String.toList_ofList,
    List.length_replicate] at lengths
  exact Nat.add_left_cancel lengths

theorem head_prefix (head tail : String) : head.toList <+: (head ++ tail).toList := by
  rw [String.toList_append]
  exact List.prefix_append ..

def crowded : Content where
  rows := (List.range 101).map fun n => (tenantKey n,⟨.text "[]",none⟩)
  distinct := by
    rw [List.map_map]
    exact List.nodup_range.map (repeated_injective _)

theorem crowded_live (now : Nat) : (crowded.liveKeys (tenantPattern "t") now).length = 101 := by
  have matching : ∀ n, fnmatchcase (tenantKey n) (tenantPattern "t") = true := by
    intro n
    refine (tenantPattern_matches (by simp [PythonText.PlainGlob])).mpr ?_
    exact head_prefix _ _
  have live : crowded.rows.filter (fun entry => !entry.2.expired now) = crowded.rows := by
    rw [List.filter_eq_self]
    intro entry listed
    obtain ⟨n,-,rfl⟩ := List.mem_map.mp listed
    rfl
  have keys : ∀ key ∈ crowded.rows.map Prod.fst, fnmatchcase key (tenantPattern "t") = true := by
    intro key listed
    obtain ⟨entry,stored,rfl⟩ := List.mem_map.mp listed
    obtain ⟨n,-,rfl⟩ := List.mem_map.mp stored
    exact matching n
  rw [Content.liveKeys,live,List.filter_eq_self.mpr keys,List.length_map]
  exact (List.length_map ..).trans List.length_range

end Sample

open Sample in
/-- Of a hundred and one keys one is left. -/
theorem second_page_left :
    ¬Complete (crowded.invalidateTenantCache "t") (tenantPattern "t") crowded 0 ∧
    ¬Complete (crowded.deletePattern (tenantPattern "t")) (tenantPattern "t") crowded 0 := by
  have many : ¬(crowded.liveKeys (tenantPattern "t") 0).length ≤ 100 := by
    rw [crowded_live]
    decide
  exact ⟨fun complete => many (scanLoop_complete_iff.mp complete),
    fun complete => many (scanLoop_complete_iff.mp complete)⟩

/-- Complete or not, the invalidation of a tenant ends, and all it does to lookups is that keys with
the tenant's prefix are no longer found. -/
theorem invalidateTenantCache_spares (content : Content) {tenantId : String} {clock : Nat → Nat}
    (onward : Monotone clock) (plain : ∀ c ∈ tenantId.toList, PythonText.PlainGlob c) :
    ∃ last after,
      content.invalidateTenantCache tenantId clock (content.rows.length + 1) = some (last,after) ∧
      ∀ key now, clock last ≤ now → after.store.read key now = content.store.read key now ∨
        ("query_cache:tenant:" ++ tenantId ++ ":").toList <+: key.toList ∧
          after.store.read key now = none := by
  obtain ⟨last,after,ends,-,spared⟩ := @scanLoop_spares content (tenantPattern tenantId) clock
    (content.rows.length + 1) 0 0 onward (Nat.succ_pos _) (by omega)
  refine ⟨last,after,ends,fun key now later => ?_⟩
  rw [← tenantPattern_matches plain]
  exact spared key now later

theorem invalidateTenantCache_spares_crowded : ∃ last after,
    Sample.crowded.invalidateTenantCache "t" id 102 = some (last,after) ∧
      ∀ key now, last ≤ now → after.store.read key now = Sample.crowded.store.read key now ∨
        ("query_cache:tenant:" ++ "t" ++ ":").toList <+: key.toList ∧
          after.store.read key now = none := by
  have rows : Sample.crowded.rows.length = 101 := by rw [Sample.crowded,List.length_map,List.length_range]
  have spared := @invalidateTenantCache_spares Sample.crowded "t" id monotone_id
    (by simp [PythonText.PlainGlob])
  rwa [rows] at spared

end Valdrics.Cache
