import Valdrics.TierCache

/-! What the runtime cache keeps of a tier: an assignment, the loss of expired entries, and the loop
that drops the oldest, which never reaches the entry just written. -/
namespace Valdrics.TenantTier

open Enforcement (PricingTier Uuid)

namespace RuntimeCache

variable {cache : RuntimeCache} {tenant other : Uuid} {entry found : CacheEntry} {now : Int}
  {tier : PricingTier}

theorem rows_pop {row : Uuid × CacheEntry} (member : row ∈ (cache.pop tenant).rows) :
    row ∈ cache.rows :=
  (List.mem_filter.mp member).1

theorem length_pop : (cache.pop tenant).rows.length ≤ cache.rows.length := List.length_filter_le _ _

theorem length_pop_lt (member : (tenant,entry) ∈ cache.rows) :
    (cache.pop tenant).rows.length < cache.rows.length := by
  refine List.length_filter_lt_length_iff_exists.mpr ⟨_,member,?_⟩
  simp

theorem find_put : (cache.put tenant entry).find other =
    if other = tenant then some entry else cache.find other := by
  rw [put,Table.find_upsert]
  cases cache.find tenant <;> rfl

def EndsNewest (cache : RuntimeCache) (tenant : Uuid) (entry : CacheEntry) : Prop :=
  ∃ front, cache.rows = front ++ [(tenant,entry)] ∧ ∀ row ∈ front, row.2.cachedAt ≤ entry.cachedAt

theorem oldest_member {rows : List (Uuid × CacheEntry)} {row : Uuid × CacheEntry}
    (least : oldest rows = some row) : row ∈ rows := by
  induction rows with
  | nil => simp [oldest] at least
  | cons first rest ih =>
    simp only [oldest] at least
    cases later : oldest rest with
    | none =>
      rw [later] at least
      cases least
      exact List.mem_cons_self
    | some other =>
      simp only [later] at least
      split at least
      · cases least
        exact List.mem_cons_self
      · cases least
        exact List.mem_cons_of_mem _ (ih later)

theorem oldest_append {front : List (Uuid × CacheEntry)} (row : Uuid × CacheEntry)
    (some_front : front ≠ []) (newest : ∀ other ∈ front, other.2.cachedAt ≤ row.2.cachedAt) :
    ∃ least ∈ front, oldest (front ++ [row]) = some least := by
  induction front with
  | nil => contradiction
  | cons first rest ih =>
    by_cases last : rest = []
    · subst last
      refine ⟨first,List.mem_cons_self,?_⟩
      simp [oldest,newest first List.mem_cons_self]
    · obtain ⟨least,member,found⟩ := ih last fun other listed =>
        newest other (List.mem_cons_of_mem _ listed)
      by_cases before : first.2.cachedAt ≤ least.2.cachedAt
      · exact ⟨first,List.mem_cons_self,by simp [oldest,found,before]⟩
      · exact ⟨least,List.mem_cons_of_mem _ member,by simp [oldest,found,before]⟩

theorem EndsNewest.find (newest : EndsNewest cache tenant entry) : cache.find tenant = some entry := by
  obtain ⟨front,rows,_⟩ := newest
  exact Table.find_eq_some_iff.mpr (by simp [rows])

theorem EndsNewest.filter (newest : EndsNewest cache tenant entry) {keep : Uuid → CacheEntry → Bool}
    (kept : keep tenant entry = true) : EndsNewest (cache.filter keep) tenant entry := by
  obtain ⟨front,rows,times⟩ := newest
  refine ⟨front.filter fun row => keep row.1 row.2,?_,?_⟩
  · simp [Table.filter,rows,kept]
  · intro row member
    exact times row (List.mem_filter.mp member).1

theorem EndsNewest.popOldest (newest : EndsNewest cache tenant entry)
    (several : 1 < cache.rows.length) : EndsNewest cache.popOldest tenant entry := by
  obtain ⟨front,rows,times⟩ := newest
  have some_front : front ≠ [] := by
    rintro rfl
    simp [rows] at several
  obtain ⟨least,member,found⟩ := oldest_append (tenant,entry) some_front times
  have apart : tenant ≠ least.1 := by
    intro same
    have distinct := cache.distinct
    rw [rows,List.map_append,List.nodup_append] at distinct
    exact distinct.2.2 least.1 (List.mem_map.mpr ⟨least,member,rfl⟩) tenant (by simp) same.symm
  simp only [RuntimeCache.popOldest,rows,found]
  exact EndsNewest.filter ⟨front,rows,times⟩ (by simpa using apart)

theorem popOldest_rows {row : Uuid × CacheEntry} (member : row ∈ cache.popOldest.rows) :
    row ∈ cache.rows := by
  simp only [popOldest] at member
  split at member
  · exact member
  · exact rows_pop member

theorem length_popOldest (some_row : cache.rows ≠ []) :
    cache.popOldest.rows.length < cache.rows.length := by
  cases found : oldest cache.rows with
  | none =>
    obtain ⟨first,rest,rows⟩ := List.exists_cons_of_ne_nil some_row
    simp only [rows,oldest] at found
    split at found
    · contradiction
    · split at found <;> contradiction
  | some least =>
    simp only [popOldest,found]
    exact length_pop_lt (oldest_member found)

theorem shrink_rows (rounds : Nat) {row : Uuid × CacheEntry}
    (member : row ∈ (shrink rounds cache).rows) : row ∈ cache.rows := by
  induction rounds generalizing cache with
  | zero => exact member
  | succ rounds ih =>
    simp only [shrink] at member
    split at member
    · exact member
    · exact popOldest_rows (ih member)

theorem shrink_bounded (rounds : Nat) (enough : cache.rows.length ≤ tenantTierCacheMaxEntries + rounds) :
    (shrink rounds cache).rows.length ≤ tenantTierCacheMaxEntries := by
  induction rounds generalizing cache with
  | zero => exact enough
  | succ rounds ih =>
    simp only [shrink]
    split
    next fits => exact fits
    next beyond =>
      have some_row : cache.rows ≠ [] := by
        intro empty
        simp [empty] at beyond
      have fewer := length_popOldest some_row
      exact ih (by omega)

theorem EndsNewest.shrink (rounds : Nat) (newest : EndsNewest cache tenant entry) :
    EndsNewest (RuntimeCache.shrink rounds cache) tenant entry := by
  induction rounds generalizing cache with
  | zero => exact newest
  | succ rounds ih =>
    simp only [RuntimeCache.shrink]
    split
    · exact newest
    next beyond =>
      refine ih (newest.popOldest ?_)
      simp only [tenantTierCacheMaxEntries] at beyond
      omega

structure SetSpec (cache next : RuntimeCache) (tenant : Uuid) (entry : CacheEntry) : Prop where
  bounded : next.rows.length ≤ tenantTierCacheMaxEntries
  self : next.find tenant = some entry
  rows : ∀ row ∈ next.rows, row = (tenant,entry) ∨ row ∈ cache.rows

theorem put_rows {row : Uuid × CacheEntry} (member : row ∈ (cache.put tenant entry).rows) :
    row = (tenant,entry) ∨ row ∈ cache.rows := by
  obtain ⟨key,value⟩ := row
  have found := Table.find_eq_some_iff.mpr member
  rw [find_put] at found
  split at found
  next same =>
    cases found
    exact .inl (by rw [same])
  · exact .inr (Table.find_eq_some_iff.mp found)

theorem runtimeCacheSet_spec (bounded : cache.rows.length ≤ tenantTierCacheMaxEntries)
    (dated : ∀ row ∈ cache.rows, row.2.cachedAt ≤ now) :
    SetSpec cache (cache.runtimeCacheSet tenant tier now) tenant ⟨now,tier⟩ := by
  simp only [runtimeCacheSet]
  split
  next fits => exact ⟨fits,by simp [find_put],fun row member => put_rows member⟩
  next beyond =>
    rcases Table.upsert_cases cache tenant ⟨now,tier⟩ (fun _ => ⟨now,tier⟩) with
      ⟨_,rows⟩ | ⟨_,updated⟩
    · have newest : EndsNewest (dropExpired (cache.put tenant ⟨now,tier⟩) now) tenant ⟨now,tier⟩ := by
        refine EndsNewest.filter ⟨cache.rows,rows,dated⟩ ?_
        simp [tenantTierCacheTtl]
      have fewer : (dropExpired (cache.put tenant ⟨now,tier⟩) now).rows.length ≤
          (cache.put tenant ⟨now,tier⟩).rows.length := List.length_filter_le _ _
      refine ⟨shrink_bounded _ (by omega),(newest.shrink _).find,?_⟩
      intro row member
      exact put_rows (List.mem_filter.mp (shrink_rows _ member)).1
    · rw [put,updated] at beyond
      simp [Table.update,bounded] at beyond

theorem SetSpec.find_other {next : RuntimeCache} (spec : SetSpec cache next tenant entry)
    (apart : other ≠ tenant) (held : next.find other = some found) : cache.find other = some found := by
  rcases spec.rows _ (Table.find_eq_some_iff.mp held) with new | old
  · cases new
    contradiction
  · exact Table.find_eq_some_iff.mpr old

end RuntimeCache

end Valdrics.TenantTier
