import Valdrics.DollarCosts
import Valdrics.SeatFeed

/-! One record for each person of a manual license feed: rows that share a name have to agree on the
key that the loop consolidates by. -/
namespace Valdrics.SeatFeed

open Enforcement (Json)
open PythonText
open Reporting (FeedRuntime)
open ZombieScan (Item orElse)

section Names

variable {rt : FeedRuntime} {entry a b : Item} {i e : String}

theorem userId_mem (found : userId rt entry = some i) : i ∈ identifiers rt entry := by
  have picked : ∃ key ∈ ["user_id","principal_id","resource_id","id"],
      normalizeText rt (entry.entry key) = some i := by
    simp only [userId,orElse] at found
    split at found
    · exact ⟨_,by simp,found⟩
    · split at found
      · exact ⟨_,by simp,found⟩
      · split at found
        · exact ⟨_,by simp,found⟩
        · exact ⟨_,by simp,found⟩
  exact List.mem_filterMap.mpr picked

theorem normalizeEmail_spec {value : Json} (found : normalizeEmail rt value = some e) :
    '@' ∈ e.toList ∧ rt.python.text.lower e = e := by
  unfold normalizeEmail at found
  split at found
  next text =>
    simp only [Option.ite_none_left_eq_some,not_or,not_not,Option.some.injEq] at found
    obtain ⟨⟨_,at_⟩,rfl⟩ := found
    exact ⟨at_,rt.python.text.idempotent _⟩
  next => simp at found

theorem addressOf_email {value : Json} (found : normalizeEmail rt value = some e) :
    addressOf rt.python.text e = some e := by
  obtain ⟨at_,lowered⟩ := normalizeEmail_spec found
  rw [addressOf,if_pos at_,lowered]

theorem email_mem (found : email rt entry = some e) : e ∈ addresses rt entry := by
  rw [email,Option.or_eq_some_iff] at found
  rcases found with field | ⟨_,derived⟩
  · exact List.mem_append_left _ (by simp [field])
  · obtain ⟨i,isId,address⟩ := Option.bind_eq_some_iff.mp derived
    exact List.mem_append_right _ (List.mem_filterMap.mpr ⟨i,userId_mem isId,address⟩)

theorem address_of_identifier (listed : i ∈ identifiers rt entry)
    (address : addressOf rt.python.text i = some e) : e ∈ addresses rt entry :=
  List.mem_append_right _ (List.mem_filterMap.mpr ⟨i,listed,address⟩)

theorem identity_cases (found : identity rt entry = some i) :
    i ∈ identifiers rt entry ∨ i ∈ addresses rt entry ∧ addressOf rt.python.text i = some i := by
  rw [identity,Option.or_eq_some_iff] at found
  rcases found with isId | ⟨noId,isEmail⟩
  · exact Or.inl (userId_mem isId)
  · refine Or.inr ⟨email_mem isEmail,?_⟩
    rw [email,noId,Option.bind_none,Option.or_none] at isEmail
    exact addressOf_email isEmail

theorem address_of_identity (found : identity rt entry = some i)
    (address : addressOf rt.python.text i = some e) : e ∈ addresses rt entry := by
  rcases identity_cases found with listed | ⟨listed,own⟩
  · exact address_of_identifier listed address
  · rw [own] at address
    rwa [← Option.some.inj address]

theorem named_of_identity (found : identity rt entry = some i) : Named rt entry := by
  rcases identity_cases found with listed | ⟨listed,_⟩
  · exact Or.inl (List.ne_nil_of_mem listed)
  · exact Or.inr (List.ne_nil_of_mem listed)

theorem linked_of_identifier (found : identity rt a = some i) (listed : i ∈ identifiers rt b) :
    Linked rt a b := by
  rcases identity_cases found with own | ⟨own,address⟩
  · exact Or.inl ⟨i,own,listed⟩
  · exact Or.inr ⟨i,own,address_of_identifier listed address⟩

theorem linked_of_identity (one : identity rt a = some i) (two : identity rt b = some i) :
    Linked rt a b := by
  rcases identity_cases two with listed | ⟨listed,address⟩
  · exact linked_of_identifier one listed
  · exact Or.inr ⟨i,address_of_identity one address,listed⟩

end Names

/-! The loop. -/

section Loop

variable {rt : FeedRuntime} {now : Nat}

def sightings (rt : FeedRuntime) (now : Nat) (feed : List Json) : List Sighting :=
  feed.filterMap fun entry => (sighting rt now entry).join

def table (sightings : List Sighting) : Table String Activity :=
  Table.groupBy Sighting.identity opened merged sightings

theorem foldlM_consolidate (feed : List Json) (start last : Table String Activity) :
    feed.foldlM (fun t entry => (sighting rt now entry).map (consolidate t)) start = some last ↔
      (∀ entry ∈ feed, (sighting rt now entry).isSome = true) ∧
        last = (sightings rt now feed).foldl
          (fun t s => t.upsert s.identity (opened s) fun current => merged current s) start := by
  induction feed generalizing start with
  | nil =>
    have done : some start = some last ↔ last = start := Option.some_inj.trans eq_comm
    simpa [sightings] using done
  | cons entry rest ih =>
    rw [List.foldlM_cons,List.forall_mem_cons]
    cases read : sighting rt now entry with
    | none => simp
    | some seen =>
      have next := ih (consolidate start seen)
      cases seen with
      | none => simpa [sightings,read,consolidate] using next
      | some s => simpa [sightings,read,consolidate] using next

theorem list_eq_some {feed : List Json} {records : List Activity} :
    listManualFeedActivity rt now (.arr feed) = some records ↔
      (∀ entry ∈ feed, (sighting rt now entry).isSome = true) ∧
        records = (table (sightings rt now feed)).rows.map Prod.snd := by
  have fold := @foldlM_consolidate rt now feed Table.empty
  simp only [listManualFeedActivity,bind,Option.bind_eq_some_iff,pure,Option.some.injEq]
  constructor
  · rintro ⟨last,run,rfl⟩
    obtain ⟨all,rfl⟩ := (fold last).mp run
    exact ⟨all,rfl⟩
  · rintro ⟨all,rfl⟩
    exact ⟨_,(fold _).mpr ⟨all,rfl⟩,rfl⟩

theorem sighting_obj {entry : Item} {i : String} {time : Option Nat}
    (found : identity rt entry = some i) (read : lastActive rt now entry = some time) :
    sighting rt now (.obj entry) = some (some ⟨i,email rt entry,fullName rt entry,time,
      isAdmin rt entry,suspended rt entry⟩) := by
  simp only [sighting,found,read,Option.map_some]

theorem mem_rows {feed : List Json} {entry : Item} : entry ∈ rows feed ↔ Json.obj entry ∈ feed := by
  rw [rows,List.mem_filterMap]
  constructor
  · rintro ⟨value,listed,is⟩
    cases value <;> simp_all
  · exact fun listed => ⟨_,listed,rfl⟩

theorem mem_sightings {feed : List Json} {s : Sighting} :
    s ∈ sightings rt now feed ↔ ∃ entry ∈ rows feed, identity rt entry = some s.identity ∧
      email rt entry = s.email ∧ fullName rt entry = s.fullName ∧
      lastActive rt now entry = some s.lastActiveAt ∧ isAdmin rt entry = s.isAdmin ∧
      suspended rt entry = s.suspended := by
  rw [sightings,List.mem_filterMap]
  constructor
  · rintro ⟨value,listed,joined⟩
    have read := Option.join_eq_some_iff.mp joined
    cases value with
    | obj entry =>
      refine ⟨entry,mem_rows.mpr listed,?_⟩
      simp only [sighting] at read
      split at read
      next => simp at read
      next i found =>
        obtain ⟨time,active,same⟩ := Option.map_eq_some_iff.mp read
        obtain rfl := Option.some.inj same
        exact ⟨found,rfl,rfl,active,rfl,rfl⟩
    | _ => simp [sighting] at read
  · rintro ⟨entry,listed,found,mail,name,active,admin,idle⟩
    refine ⟨_,mem_rows.mp listed,Option.join_eq_some_iff.mpr ?_⟩
    rw [sighting_obj found active,mail,name,admin,idle]

end Loop

structure Sums (group : List Sighting) (record : Activity) : Prop where
  email : record.email = group.findSome? Sighting.email
  latest : Latest (group.map Sighting.lastActiveAt) record.lastActiveAt
  isAdmin : record.isAdmin = group.any Sighting.isAdmin
  suspended : record.suspended = group.any Sighting.suspended

theorem latest_single (time : Option Nat) : Latest [time] time := by
  constructor
  · intro t listed
    exact ⟨t,(List.mem_singleton.mp listed).symm,le_refl t⟩
  · intro last is
    simp [is]

theorem latest_later {times : List (Option Nat)} {existing : Option Nat}
    (latest : Latest times existing) (time : Option Nat) :
    Latest (times ++ [time]) (later existing time) := by
  obtain ⟨bound,reached⟩ := latest
  cases time with
  | none =>
    refine ⟨fun t listed => bound t ?_,fun last is => List.mem_append_left _ (reached last is)⟩
    simpa using listed
  | some time =>
    rw [later]
    by_cases newer : existing.all (· < time) = true
    · rw [if_pos newer]
      refine ⟨fun t listed => ⟨time,rfl,?_⟩,by simp⟩
      rcases List.mem_append.mp listed with old | new
      · obtain ⟨last,is,le⟩ := bound t old
        subst is
        have below : last < time := by simpa using newer
        omega
      · have same : t = time := by simpa using new
        exact same.le
    · rw [if_neg newer]
      cases existing with
      | none => simp at newer
      | some last =>
        have above : time ≤ last := by simpa using newer
        refine ⟨fun t listed => ?_,fun _ is => List.mem_append_left _ (reached _ is)⟩
        rcases List.mem_append.mp listed with old | new
        · exact bound t old
        · have same : t = time := by simpa using new
          exact ⟨last,rfl,same.le.trans above⟩

theorem sums_single (s : Sighting) : Sums [s] (opened s) :=
  ⟨by simp [opened],latest_single _,by simp [opened],by simp [opened]⟩

theorem sums_merged {group : List Sighting} {record : Activity} (sums : Sums group record)
    (s : Sighting) : Sums (group ++ [s]) (merged record s) := by
  constructor
  · simp [merged,sums.email,List.findSome?_append]
  · rw [List.map_append]
    exact latest_later sums.latest _
  · simp [merged,sums.isAdmin]
  · simp [merged,sums.suspended]

theorem gather_spec {group : List Sighting} {record : Activity}
    (gathered : Table.gather opened merged group = some record) :
    Sums group record ∧ ∃ s, group.head? = some s ∧ record.userId = s.identity := by
  induction group using List.reverseRecOn generalizing record with
  | nil => simp [Table.gather] at gathered
  | append_singleton front s ih =>
    rw [Table.gather_append] at gathered
    cases before : Table.gather opened merged front with
    | none =>
      have empty : front = [] := by
        cases front with
        | nil => rfl
        | cons => simp [Table.gather] at before
      subst empty
      obtain rfl : opened s = record := by simpa [before] using gathered
      exact ⟨sums_single s,s,rfl,rfl⟩
    | some current =>
      obtain rfl : merged current s = record := by simpa [before] using gathered
      obtain ⟨sums,first,head,same⟩ := ih before
      refine ⟨sums_merged sums s,first,?_,same⟩
      rw [List.head?_append,head]
      rfl

/-! The records of a feed that is read through. -/

section Records

variable {rt : FeedRuntime} {now : Nat} {feed : List Json} {records : List Activity}
  {record : Activity} {entry a b : Item} {i e : String}

def seen (rt : FeedRuntime) (now : Nat) (feed : List Json) (i : String) : List Sighting :=
  (sightings rt now feed).filter fun s => s.identity = i

theorem find_table : (table (sightings rt now feed)).find i =
    Table.gather opened merged (seen rt now feed i) :=
  Table.find_groupBy _ _ _ _ _

theorem find_spec (found : (table (sightings rt now feed)).find i = some record) :
    record.userId = i ∧ Sums (seen rt now feed i) record ∧
      ∃ s ∈ sightings rt now feed, s.identity = i := by
  rw [find_table] at found
  obtain ⟨sums,s,head,same⟩ := gather_spec found
  have listed := List.mem_filter.mp (List.mem_of_head? head)
  have own : s.identity = i := of_decide_eq_true listed.2
  exact ⟨same.trans own,sums,s,listed.1,own⟩

theorem mem_records (run : listManualFeedActivity rt now (.arr feed) = some records) :
    record ∈ records ↔ (table (sightings rt now feed)).find record.userId = some record := by
  rw [(list_eq_some.mp run).2,List.mem_map]
  constructor
  · rintro ⟨⟨key,_⟩,listed,rfl⟩
    have found := Table.find_eq_some_iff.mpr listed
    rwa [(find_spec found).1]
  · exact fun found => ⟨_,Table.find_eq_some_iff.mp found,rfl⟩

theorem records_pairwise (run : listManualFeedActivity rt now (.arr feed) = some records) :
    records.Pairwise fun a b => a.userId ≠ b.userId := by
  have keys : (table (sightings rt now feed)).rows.map Prod.fst =
      (table (sightings rt now feed)).rows.map fun row => row.2.userId := by
    refine List.map_congr_left fun row listed => ?_
    exact (find_spec (Table.find_eq_some_iff.mpr listed)).1.symm
  have distinct := (table (sightings rt now feed)).distinct
  rw [keys] at distinct
  rw [(list_eq_some.mp run).2,List.pairwise_map]
  exact List.pairwise_map.mp distinct

theorem active_of_run (run : listManualFeedActivity rt now (.arr feed) = some records)
    (listed : entry ∈ rows feed) (found : identity rt entry = some i) :
    ∃ time, lastActive rt now entry = some time := by
  have read := (list_eq_some.mp run).1 _ (mem_rows.mp listed)
  simpa [sighting,found,Option.isSome_iff_exists] using read

theorem mem_seen {s : Sighting} : s ∈ seen rt now feed i ↔
    ∃ entry ∈ rows feed, identity rt entry = some i ∧ s.identity = i ∧
      email rt entry = s.email ∧ lastActive rt now entry = some s.lastActiveAt ∧
      isAdmin rt entry = s.isAdmin ∧ suspended rt entry = s.suspended ∧
      fullName rt entry = s.fullName := by
  rw [seen,List.mem_filter,mem_sightings]
  constructor
  · rintro ⟨⟨entry,listed,found,mail,name,active,admin,idle⟩,own⟩
    have same : s.identity = i := of_decide_eq_true own
    exact ⟨entry,listed,by rw [← same]; exact found,same,mail,active,admin,idle,name⟩
  · rintro ⟨entry,listed,found,same,mail,active,admin,idle,name⟩
    exact ⟨⟨entry,listed,by rw [same]; exact found,mail,name,active,admin,idle⟩,
      decide_eq_true same⟩

def said (rt : FeedRuntime) (entry : Item) (i : String) (time : Option Nat) : Sighting :=
  ⟨i,email rt entry,fullName rt entry,time,isAdmin rt entry,suspended rt entry⟩

theorem said_mem {time : Option Nat} (there : entry ∈ rows feed) (found : identity rt entry = some i)
    (active : lastActive rt now entry = some time) :
    said rt entry i time ∈ seen rt now feed i :=
  mem_seen.mpr ⟨entry,there,found,rfl,rfl,active,rfl,rfl,rfl⟩

theorem record_exists (run : listManualFeedActivity rt now (.arr feed) = some records)
    (listed : entry ∈ rows feed) (found : identity rt entry = some i) :
    ∃ record ∈ records, record.userId = i := by
  obtain ⟨time,active⟩ := active_of_run run listed found
  have there := said_mem listed found active
  obtain ⟨first,rest,group⟩ := List.exists_cons_of_ne_nil (List.ne_nil_of_mem there)
  have gathered : (table (sightings rt now feed)).find i =
      some (rest.foldl merged (opened first)) := by
    rw [find_table,group]
    rfl
  have own := (find_spec gathered).1
  exact ⟨_,(mem_records run).mpr (by rw [own]; exact gathered),own⟩

theorem any_seen (run : listManualFeedActivity rt now (.arr feed) = some records)
    (column : Item → Bool) (held : Sighting → Bool)
    (same : ∀ entry i time, held (said rt entry i time) = column entry) :
    (seen rt now feed i).any held = true ↔
      ∃ entry ∈ rows feed, identity rt entry = some i ∧ column entry = true := by
  rw [List.any_eq_true]
  constructor
  · rintro ⟨⟨own,mail,name,time,admin,idle⟩,listed,holds⟩
    obtain ⟨entry,there,found,_,rfl,_,rfl,rfl,rfl⟩ := mem_seen.mp listed
    exact ⟨entry,there,found,by rw [← same entry own time]; exact holds⟩
  · rintro ⟨entry,there,found,holds⟩
    obtain ⟨time,active⟩ := active_of_run run there found
    exact ⟨_,said_mem there found active,by rw [same]; exact holds⟩

theorem record_columns (run : listManualFeedActivity rt now (.arr feed) = some records)
    (listed : record ∈ records) :
    (record.isAdmin = true ↔ ∃ entry ∈ rows feed, Contributes rt entry record ∧
      isAdmin rt entry = true) ∧
    (record.suspended = true ↔ ∃ entry ∈ rows feed, Contributes rt entry record ∧
      suspended rt entry = true) ∧
    (∀ entry ∈ rows feed, Contributes rt entry record → ∀ time,
      lastActive rt now entry = some (some time) →
        ∃ last, record.lastActiveAt = some last ∧ time ≤ last) ∧
    ∀ last, record.lastActiveAt = some last → ∃ entry ∈ rows feed, Contributes rt entry record ∧
      lastActive rt now entry = some (some last) := by
  obtain ⟨_,sums,_⟩ := find_spec ((mem_records run).mp listed)
  refine ⟨?_,?_,?_,?_⟩
  · rw [sums.isAdmin]
    exact any_seen run (isAdmin rt) Sighting.isAdmin fun _ _ _ => rfl
  · rw [sums.suspended]
    exact any_seen run (suspended rt) Sighting.suspended fun _ _ _ => rfl
  · intro entry there found time active
    exact sums.latest.1 time (List.mem_map.mpr ⟨_,said_mem there found active,rfl⟩)
  · intro last is
    obtain ⟨s,group,time⟩ := List.mem_map.mp (sums.latest.2 last is)
    obtain ⟨entry,there,found,_,_,active,_⟩ := mem_seen.mp group
    exact ⟨entry,there,found,by rw [active,time]⟩

theorem record_email (run : listManualFeedActivity rt now (.arr feed) = some records)
    (listed : record ∈ records) (mail : record.email = some e) :
    ∃ entry ∈ rows feed, Contributes rt entry record ∧ email rt entry = some e := by
  obtain ⟨_,sums,_⟩ := find_spec ((mem_records run).mp listed)
  rw [sums.email] at mail
  obtain ⟨s,group,own⟩ := List.exists_of_findSome?_eq_some mail
  obtain ⟨entry,there,found,_,mail,_⟩ := mem_seen.mp group
  exact ⟨entry,there,found,mail.trans own⟩

theorem record_email_isSome (run : listManualFeedActivity rt now (.arr feed) = some records)
    (listed : record ∈ records) (there : entry ∈ rows feed) (own : Contributes rt entry record)
    (mail : email rt entry = some e) : ∃ f, record.email = some f := by
  obtain ⟨_,sums,_⟩ := find_spec ((mem_records run).mp listed)
  obtain ⟨time,active⟩ := active_of_run run there own
  rw [sums.email]
  refine Option.isSome_iff_exists.mp (List.findSome?_isSome_iff.mpr ?_)
  exact ⟨_,said_mem there own active,Option.isSome_iff_exists.mpr ⟨e,mail⟩⟩

theorem contributor_exists (run : listManualFeedActivity rt now (.arr feed) = some records)
    (listed : record ∈ records) : ∃ entry ∈ rows feed, Contributes rt entry record := by
  obtain ⟨_,_,s,there,own⟩ := find_spec ((mem_records run).mp listed)
  obtain ⟨entry,member,found,_⟩ := mem_sightings.mp there
  exact ⟨entry,member,by rw [Contributes,found,own]⟩

theorem address_origin (run : listManualFeedActivity rt now (.arr feed) = some records)
    (listed : record ∈ records) (known : e ∈ record.addresses rt.python.text) :
    ∃ entry ∈ rows feed, Contributes rt entry record ∧ e ∈ addresses rt entry := by
  rcases List.mem_append.mp known with mail | own
  · obtain ⟨entry,there,found,mail⟩ := record_email run listed (by simpa using mail)
    exact ⟨entry,there,found,email_mem mail⟩
  · obtain ⟨entry,there,found⟩ := contributor_exists run listed
    exact ⟨entry,there,found,address_of_identity found (by simpa using own)⟩

end Records

/-! Where the rows agree on their keys, each person has one record. -/

section Sufficient

variable {rt : FeedRuntime} {now : Nat} {feed feed' : List Json} {records records' : List Activity}
  {record : Activity} {entry other a b : Item} {i e : String}

theorem samePerson_identity (coherent : Coherent rt now feed)
    (same : SamePerson rt feed a b) : identity rt a = identity rt b := by
  induction same with
  | refl => rfl
  | tail _ step ih => exact ih.trans (coherent.agreed _ step.1 _ step.2.1 step.2.2)

theorem samePerson_of_identity (one : a ∈ rows feed) (two : b ∈ rows feed)
    (found : identity rt a = some i) (found' : identity rt b = some i) :
    SamePerson rt feed a b :=
  Relation.ReflTransGen.single ⟨one,two,linked_of_identity found found'⟩

theorem rows_perm (perm : feed.Perm feed') (entry : Item) :
    entry ∈ rows feed ↔ entry ∈ rows feed' := by
  rw [mem_rows,mem_rows,perm.mem_iff]

theorem Coherent.perm (coherent : Coherent rt now feed) (perm : feed.Perm feed') :
    Coherent rt now feed' := by
  have back := fun entry => (rows_perm perm entry).mpr
  exact ⟨fun entry listed => coherent.readable entry (back entry listed),
    fun entry listed => coherent.identified entry (back entry listed),
    fun a one b two => coherent.agreed a (back a one) b (back b two),
    fun a one b two => coherent.oneEmail a (back a one) b (back b two)⟩

theorem Coherent.runs (coherent : Coherent rt now feed) :
    ∃ records, listManualFeedActivity rt now (.arr feed) = some records := by
  refine ⟨_,list_eq_some.mpr ⟨fun value listed => ?_,rfl⟩⟩
  cases value with
  | obj entry =>
    cases found : identity rt entry with
    | none => simp [sighting,found]
    | some i =>
      have read := coherent.readable entry (mem_rows.mpr listed) (named_of_identity found)
      obtain ⟨time,active⟩ := Option.isSome_iff_exists.mp read
      rw [sighting_obj found active]
      rfl
  | _ => rfl

theorem Coherent.one (coherent : Coherent rt now feed)
    (run : listManualFeedActivity rt now (.arr feed) = some records) (listed : entry ∈ rows feed)
    (named : Named rt entry) : ∃ record ∈ records, OneRecord rt now feed entry record := by
  obtain ⟨i,found⟩ := Option.isSome_iff_exists.mp (coherent.identified entry listed named)
  obtain ⟨record,member,rfl⟩ := record_exists run listed found
  obtain ⟨admin,idle,notBefore,reached⟩ := record_columns run member
  have contributes : ∀ other, SamePerson rt feed entry other → Contributes rt other record :=
    fun other same => (samePerson_identity coherent same).symm.trans found
  have same : ∀ other ∈ rows feed, Contributes rt other record → SamePerson rt feed entry other :=
    fun other there own => samePerson_of_identity listed there found own
  refine ⟨record,member,fun other _ person => contributes other person,?_,?_,?_,?_⟩
  · rw [admin]
    constructor
    · rintro ⟨other,there,own,shown⟩
      exact ⟨other,there,same other there own,shown⟩
    · rintro ⟨other,there,person,shown⟩
      exact ⟨other,there,contributes other person,shown⟩
  · rw [idle]
    constructor
    · rintro ⟨other,there,own,shown⟩
      exact ⟨other,there,same other there own,shown⟩
    · rintro ⟨other,there,person,shown⟩
      exact ⟨other,there,contributes other person,shown⟩
  · exact fun other there person => notBefore other there (contributes other person)
  · intro last is
    obtain ⟨other,there,own,active⟩ := reached last is
    exact ⟨other,there,same other there own,active⟩

theorem Coherent.apart (coherent : Coherent rt now feed)
    (run : listManualFeedActivity rt now (.arr feed) = some records) :
    records.Pairwise fun a b => ¬ Shares rt.python.text a b := by
  refine (records_pairwise run).imp_of_mem fun {a b} one two differ shares => ?_
  rcases shares with same | ⟨e,mine,yours⟩
  · exact differ same
  · obtain ⟨entry,there,own,known⟩ := address_origin run one mine
    obtain ⟨other,there',own',known'⟩ := address_origin run two yours
    have agreed := coherent.agreed entry there other there' (Or.inr ⟨e,known,known'⟩)
    exact differ (Option.some.inj (own.symm.trans (agreed.trans own')))

/-- A record holds what the rows of its identity say, in any order. -/
theorem Coherent.same_essence (coherent : Coherent rt now feed) (perm : feed.Perm feed')
    (run : listManualFeedActivity rt now (.arr feed) = some records)
    (run' : listManualFeedActivity rt now (.arr feed') = some records')
    (listed : record ∈ records) : record.essence ∈ records'.map Activity.essence := by
  have moved := fun entry => rows_perm perm entry
  obtain ⟨entry,there,own⟩ := contributor_exists run listed
  obtain ⟨other,member,same⟩ := record_exists run' ((moved entry).mp there) own
  have contributes : ∀ row, Contributes rt row other ↔ Contributes rt row record := by
    intro row
    rw [Contributes,Contributes,same]
  obtain ⟨admin,idle,notBefore,reached⟩ := record_columns run listed
  obtain ⟨admin',idle',notBefore',reached'⟩ := record_columns run' member
  have isAdmin_eq : other.isAdmin = record.isAdmin := by
    rw [Bool.eq_iff_iff,admin,admin']
    exact exists_congr fun row => by rw [moved row,contributes row]
  have suspended_eq : other.suspended = record.suspended := by
    rw [Bool.eq_iff_iff,idle,idle']
    exact exists_congr fun row => by rw [moved row,contributes row]
  have latest_eq : other.lastActiveAt = record.lastActiveAt := by
    have le : ∀ last, other.lastActiveAt = some last →
        ∃ last', record.lastActiveAt = some last' ∧ last ≤ last' := by
      intro last is
      obtain ⟨row,at_,mine,active⟩ := reached' last is
      exact notBefore row ((moved row).mpr at_) ((contributes row).mp mine) last active
    have ge : ∀ last, record.lastActiveAt = some last →
        ∃ last', other.lastActiveAt = some last' ∧ last ≤ last' := by
      intro last is
      obtain ⟨row,at_,mine,active⟩ := reached last is
      exact notBefore' row ((moved row).mp at_) ((contributes row).mpr mine) last active
    cases held : other.lastActiveAt with
    | none =>
      cases held' : record.lastActiveAt with
      | none => rfl
      | some last =>
        obtain ⟨_,is,_⟩ := ge last held'
        simp [held] at is
    | some last =>
      obtain ⟨last',is,below⟩ := le last held
      obtain ⟨last'',is',above⟩ := ge last' is
      have again : last = last'' := Option.some.inj (held.symm.trans is')
      rw [is]
      congr 1
      omega
  have email_eq : other.email = record.email := by
    have agree : ∀ e f, other.email = some e → record.email = some f → e = f := by
      intro e f mail mail'
      obtain ⟨row,at_,mine,held⟩ := record_email run' member mail
      obtain ⟨row',at',mine',held'⟩ := record_email run listed mail'
      have mine'' := ((contributes row).mp mine).trans mine'.symm
      exact coherent.oneEmail row ((moved row).mpr at_) row' at' mine'' e f held held'
    cases mail : other.email with
    | none =>
      cases mail' : record.email with
      | none => rfl
      | some f =>
        obtain ⟨row,at_,mine,held⟩ := record_email run listed mail'
        obtain ⟨e,is⟩ := record_email_isSome run' member ((moved row).mp at_)
          ((contributes row).mpr mine) held
        simp [mail] at is
    | some e =>
      obtain ⟨row,at_,mine,held⟩ := record_email run' member mail
      obtain ⟨f,is⟩ := record_email_isSome run listed ((moved row).mpr at_)
        ((contributes row).mp mine) held
      rw [is,agree e f mail is]
  refine List.mem_map.mpr ⟨other,member,?_⟩
  rw [Activity.essence,Activity.essence,same,email_eq,latest_eq,isAdmin_eq,suspended_eq]

/-- What the run may reclaim is a record that shows no protection. -/
theorem assess_idle {env : LicenseGovernance.Environment} {user : LicenseGovernance.IdleUser}
    (idle : LicenseGovernance.assess env record.payload = .idle user) :
    record.isAdmin = false ∧ record.suspended = false ∧
      ∀ time, record.lastActiveAt = some time → (time : Int) < env.cutoffDate := by
  have suspendedCell : (LicenseGovernance.cell record.cells "suspended").truthy =
      record.suspended := rfl
  have adminCell : (LicenseGovernance.cell record.cells "is_admin").truthy = record.isAdmin := rfl
  have activeCell : LicenseGovernance.cell record.cells "last_active_at" =
      record.lastActiveAt.elim (.json .null) fun time => .datetime ⟨time,some 0⟩ := rfl
  rw [Activity.payload,LicenseGovernance.assess,suspendedCell,adminCell] at idle
  split at idle
  next => simp at idle
  next notIdle =>
    split at idle
    next => simp at idle
    next noAdmin =>
      refine ⟨Bool.not_eq_true _ ▸ noAdmin,Bool.not_eq_true _ ▸ notIdle,fun time active => ?_⟩
      have read : env.normalizeLastActive (LicenseGovernance.cell record.cells "last_active_at") =
          some (some ⟨time,some 0⟩) := by
        rw [activeCell,active]
        rfl
      rw [read] at idle
      split at idle
      next =>
        simp only [LicenseGovernance.DateTime.instant,Option.getD_some,sub_zero] at idle
        split at idle
        next before => exact before
        next => simp at idle
      next => simp at idle

theorem Coherent.safe (coherent : Coherent rt now feed)
    (run : listManualFeedActivity rt now (.arr feed) = some records)
    (env : LicenseGovernance.Environment) (there : entry ∈ rows feed)
    (protects : Protects rt now env.cutoffDate entry) (listed : record ∈ records)
    (about : ∃ other ∈ rows feed, SamePerson rt feed entry other ∧ Mentions rt record other)
    (user : LicenseGovernance.IdleUser) :
    LicenseGovernance.assess env record.payload ≠ .idle user := by
  obtain ⟨other,member,person,mentions⟩ := about
  have named : ∃ row ∈ rows feed, Contributes rt row record ∧ Linked rt row other := by
    rcases mentions with identifier | ⟨e,known,known'⟩
    · obtain ⟨row,at_,own⟩ := contributor_exists run listed
      exact ⟨row,at_,own,linked_of_identifier own identifier⟩
    · obtain ⟨row,at_,own,known''⟩ := address_origin run listed known
      exact ⟨row,at_,own,Or.inr ⟨e,known'',known'⟩⟩
  obtain ⟨row,at_,own,linked⟩ := named
  have mine : Contributes rt entry record := calc
    identity rt entry = identity rt other := samePerson_identity coherent person
    _ = identity rt row := (coherent.agreed row at_ other member linked).symm
    _ = some record.userId := own
  obtain ⟨admin,idle,notBefore,_⟩ := record_columns run listed
  intro reclaimed
  obtain ⟨noAdmin,notIdle,old⟩ := assess_idle reclaimed
  rcases protects with shown | shown | ⟨time,active,recent⟩
  · rw [admin.mpr ⟨entry,there,mine,shown⟩] at noAdmin
    contradiction
  · rw [idle.mpr ⟨entry,there,mine,shown⟩] at notIdle
    contradiction
  · obtain ⟨last,is,le⟩ := notBefore entry there mine time active
    have before := old last is
    omega

theorem Coherent.lists (coherent : Coherent rt now feed) : ListsPersons rt now feed := by
  obtain ⟨records,run⟩ := coherent.runs
  refine ⟨records,run,fun entry listed named => coherent.one run listed named,coherent.apart run,?_,
    fun env entry there protects record listed about user =>
      coherent.safe run env there protects listed about user⟩
  intro feed' perm
  obtain ⟨records',run'⟩ := (coherent.perm perm).runs
  refine ⟨records',run',fun essence => ⟨fun held => ?_,fun held => ?_⟩⟩
  · obtain ⟨record,listed,rfl⟩ := List.mem_map.mp held
    exact coherent.same_essence perm run run' listed
  · obtain ⟨record,listed,rfl⟩ := List.mem_map.mp held
    exact (coherent.perm perm).same_essence perm.symm run' run listed

end Sufficient

/-! One record for each person takes rows that agree. -/

section Necessary

variable {rt : FeedRuntime} {now : Nat} {feed : List Json} {records : List Activity}
  {entry a b : Item} {i e f : String}

theorem first_email {rest : List Json}
    (run : listManualFeedActivity rt now (.arr (.obj a :: rest)) = some records)
    (found : identity rt a = some i) (mail : email rt a = some e) :
    ∃ record ∈ records, record.userId = i ∧ record.email = some e := by
  have there : a ∈ rows (.obj a :: rest) := mem_rows.mpr (List.mem_cons_self ..)
  obtain ⟨record,listed,own⟩ := record_exists run there found
  obtain ⟨_,sums,_⟩ := find_spec ((mem_records run).mp listed)
  obtain ⟨time,active⟩ := active_of_run run there found
  have head : seen rt now (.obj a :: rest) i =
      said rt a i time :: seen rt now rest i := by
    have first : sightings rt now (.obj a :: rest) = said rt a i time :: sightings rt now rest := by
      simp only [sightings,List.filterMap_cons,sighting_obj found active,Option.join_some]
      rfl
    have own : decide ((said rt a i time).identity = i) = true := decide_eq_true rfl
    simp only [seen,first,List.filter_cons,own,if_true]
  refine ⟨record,listed,own,?_⟩
  rw [sums.email,own,head,List.findSome?_cons]
  simp [said,mail]

theorem email_of_orderless (one : OnePerPerson rt now feed records)
    (there : a ∈ rows feed) (found : identity rt a = some i) (mail : email rt a = some e) :
    ∃ record ∈ records, record.userId = i ∧ record.email = some e := by
  obtain ⟨before,after,split⟩ := List.append_of_mem (mem_rows.mp there)
  have perm : feed.Perm (.obj a :: (before ++ after)) := by
    rw [split]
    exact List.perm_middle
  obtain ⟨records',run,same⟩ := one.orderless _ perm
  obtain ⟨record',listed',own,held⟩ := first_email run found mail
  obtain ⟨record,listed,essence⟩ := List.mem_map.mp
    ((same record'.essence).mpr (List.mem_map_of_mem listed'))
  simp only [Activity.essence,Prod.mk.injEq] at essence
  exact ⟨record,listed,essence.1.trans own,essence.2.1.trans held⟩

theorem OnePerPerson.coherent (one : OnePerPerson rt now feed records)
    (run : listManualFeedActivity rt now (.arr feed) = some records) : Coherent rt now feed := by
  have identified : ∀ entry ∈ rows feed, Named rt entry → ∃ i, identity rt entry = some i := by
    intro entry listed named
    obtain ⟨record,_,held⟩ := one.one entry listed named
    exact ⟨_,held.contributes entry listed .refl⟩
  constructor
  · intro entry listed named
    obtain ⟨i,found⟩ := identified entry listed named
    exact Option.isSome_iff_exists.mpr (active_of_run run listed found)
  · exact fun entry listed named => Option.isSome_iff_exists.mpr (identified entry listed named)
  · intro a one_ b two linked
    have named : Named rt a := by
      rcases linked with ⟨i,known,_⟩ | ⟨e,known,_⟩
      · exact Or.inl (List.ne_nil_of_mem known)
      · exact Or.inr (List.ne_nil_of_mem known)
    obtain ⟨record,_,held⟩ := one.one a one_ named
    have first := held.contributes a one_ .refl
    have second := held.contributes b two (.single ⟨one_,two,linked⟩)
    exact Eq.trans first second.symm
  · intro a one_ b two same e f mail mail'
    have found : ∃ i, identity rt a = some i := by
      cases isId : userId rt a with
      | none => exact ⟨e,by rw [identity,isId,mail]; rfl⟩
      | some i => exact ⟨i,by rw [identity,isId]; rfl⟩
    obtain ⟨i,found⟩ := found
    obtain ⟨record,listed,own,held⟩ := email_of_orderless one one_ found mail
    obtain ⟨record',listed',own',held'⟩ := email_of_orderless one two (same ▸ found) mail'
    have equal : record = record' := by
      have here := (mem_records run).mp listed
      have there := (mem_records run).mp listed'
      rw [own] at here
      rw [own'] at there
      exact Option.some.inj (here.symm.trans there)
    rw [equal,held'] at held
    exact (Option.some.inj held).symm

/-- A feed lists each person once, with all that its rows say and in any order of them, exactly if
the rows that share a name agree on the key and on the email of the record. -/
theorem lists_persons_iff (rt : FeedRuntime) (now : Nat) (feed : List Json) :
    ListsPersons rt now feed ↔ Coherent rt now feed :=
  ⟨fun ⟨_,run,one⟩ => one.coherent run,Coherent.lists⟩

end Necessary

namespace Sample

open Reporting.Sample (feedRuntime)

/-- A user of long ago, and a row that shows the same address as an administrator's. -/
def splitFeed : List Json :=
  [.obj [("user_id",.str "u1"),("email",.str "ada@acme.io"),("last_active_at",.int 1000)],
    .obj [("email",.str "Ada@acme.io"),("is_admin",.bool true)]]

end Sample

open Sample Reporting.Sample in
/-- The administrator is listed once more, as an idle user without rights. -/
theorem admin_listed_twice :
    listManualFeedActivity feedRuntime 0 (.arr splitFeed) =
      some [⟨"u1",some "ada@acme.io",none,some 1000000000,false,false⟩,
        ⟨"ada@acme.io",some "ada@acme.io",none,none,true,false⟩] ∧
    ¬ListsPersons feedRuntime 0 splitFeed := by
  refine ⟨by decide +kernel,fun ⟨records,run,one⟩ => ?_⟩
  have listed : listManualFeedActivity feedRuntime 0 (.arr splitFeed) =
      some [⟨"u1",some "ada@acme.io",none,some 1000000000,false,false⟩,
        ⟨"ada@acme.io",some "ada@acme.io",none,none,true,false⟩] := by decide +kernel
  obtain rfl := Option.some.inj (listed.symm.trans run)
  have shared : "ada@acme.io" ∈
      (⟨"u1",some "ada@acme.io",none,some 1000000000,false,false⟩ : Activity).addresses
        feedRuntime.python.text := by decide +kernel
  have shared' : "ada@acme.io" ∈
      (⟨"ada@acme.io",some "ada@acme.io",none,none,true,false⟩ : Activity).addresses
        feedRuntime.python.text := by decide +kernel
  have apart := List.rel_of_pairwise_cons one.apart (List.mem_singleton_self _)
  exact apart (Or.inr ⟨_,shared,shared'⟩)

end Valdrics.SeatFeed
