import Valdrics.Runs
import Valdrics.SecretKeys

/-! Which changes of the keys lose no secret. The cache never shows in a result; a secret is read
exactly while its master key is the primary key of its context or a fallback key. -/
namespace Valdrics.SecretKeys

open PythonText
open ExpiringMemo (Sound remember_eq)

variable {c : Crypto} {settings : Settings} {now : Int} {cache : KeyCache c} {salt context : String}
  {bytes : List Nat} {v : Vault c}

def RightKey (c : Crypto) : CacheKey → c.Key → Prop
  | .derived fingerprint salt version iterations, key =>
    ∃ masterKey, fingerprint = c.sha256 masterKey ∧
      deriveFrom c masterKey salt version iterations = .ok key
  | .fernet fingerprint salt, key =>
    ∃ masterKey, fingerprint = c.sha256 masterKey ∧
      deriveFrom c masterKey salt 1 kdfIterations = .ok key

theorem deriveKey_eq (sound : Sound (RightKey c) cache) (masterKey salt : String) :
    (deriveKey c settings now masterKey salt cache).1 = deriveFrom c masterKey salt 1 kdfIterations ∧
      Sound (RightKey c) (deriveKey c settings now masterKey salt cache).2 := by
  apply remember_eq sound
  · exact fun _ kept => ⟨rfl,kept⟩
  · intro key
    constructor
    · rintro ⟨other,same,is⟩
      rwa [c.sha256_injective _ _ same]
    · exact fun is => ⟨masterKey,rfl,is⟩

theorem createFernetForKey_eq (sound : Sound (RightKey c) cache) (masterKey salt : String) :
    (createFernetForKey c settings now masterKey salt cache).1 =
        deriveFrom c masterKey salt 1 kdfIterations ∧
      Sound (RightKey c) (createFernetForKey c settings now masterKey salt cache).2 := by
  apply remember_eq sound
  · exact fun _ kept => deriveKey_eq kept masterKey salt
  · intro key
    constructor
    · rintro ⟨other,same,is⟩
      rwa [c.sha256_injective _ _ same]
    · exact fun is => ⟨masterKey,rfl,is⟩

def keyOf (c : Crypto) (bytes : List Nat) (masterKey : String) : c.Key :=
  c.pbkdf2 (masterKey ++ ":v" ++ toString 1) bytes kdfIterations

theorem deriveFrom_ok (decoded : decodeSalt salt = .ok bytes) (masterKey : String) :
    deriveFrom c masterKey salt 1 kdfIterations = .ok (keyOf c bytes masterKey) := by
  simp only [deriveFrom,decoded,Except.map,keyOf]

theorem keyOf_injective {a b : String} (same : keyOf c bytes a = keyOf c bytes b) : a = b := by
  have texts := congrArg String.toList (c.pbkdf2_injective _ _ _ _ same)
  simp only [String.toList_append,List.append_cancel_right_eq] at texts
  exact String.toList_inj.mp texts

theorem createFernets_ok (decoded : decodeSalt salt = .ok bytes) (primary : Bool)
    (keys : List String) (sound : Sound (RightKey c) cache) :
    (createFernets c settings now salt primary keys cache).1 = .ok (keys.map (keyOf c bytes)) ∧
      Sound (RightKey c) (createFernets c settings now salt primary keys cache).2 := by
  induction keys generalizing primary cache with
  | nil => exact ⟨rfl,sound⟩
  | cons key rest ih =>
    obtain ⟨is,kept⟩ := @createFernetForKey_eq c settings now _ sound key salt
    rw [deriveFrom_ok decoded] at is
    cases made : createFernetForKey c settings now key salt cache with
    | mk fernet cache =>
      rw [made] at is kept
      cases is
      obtain ⟨all,kept⟩ := ih false kept
      cases others : createFernets c settings now salt false rest cache with
      | mk fernets cache =>
        rw [others] at all kept
        cases all
        simp only [createFernets,made,others]
        exact ⟨rfl,kept⟩

theorem createFernets_error {failure : KeyFailure} (undecoded : decodeSalt salt = .error failure)
    (key : String) (rest : List String) (sound : Sound (RightKey c) cache) :
    (createFernets c settings now salt true (key :: rest) cache).1 = .error failure ∧
      Sound (RightKey c) (createFernets c settings now salt true (key :: rest) cache).2 := by
  obtain ⟨is,kept⟩ := @createFernetForKey_eq c settings now _ sound key salt
  simp only [deriveFrom,undecoded,Except.map] at is
  cases made : createFernetForKey c settings now key salt cache with
  | mk fernet cache =>
    rw [made] at is kept
    cases is
    simp only [createFernets,made,if_true]
    exact ⟨trivial,kept⟩

def masterKeys (settings : Settings) (context : String) : List String :=
  (given (settings.primaryKey context)).toList ++ settings.encryptionFallbackKeys

def keyRing (c : Crypto) (settings : Settings) (context : String) :
    Except KeyFailure (List c.Key) :=
  match given (settings.primaryKey context) with
  | none => .error .noKey
  | some primary =>
    match settings.salt with
    | .error failure => .error failure
    | .ok salt => (decodeSalt salt).map fun bytes =>
      (primary :: settings.encryptionFallbackKeys).map (keyOf c bytes)

theorem multiFernet_eq (sound : Sound (RightKey c) cache) :
    (multiFernet c settings now context cache).1 = keyRing c settings context ∧
      Sound (RightKey c) (multiFernet c settings now context cache).2 := by
  simp only [multiFernet,keyRing]
  cases given (settings.primaryKey context) with
  | none => exact ⟨rfl,sound⟩
  | some primary =>
    cases settings.salt with
    | error failure => exact ⟨rfl,sound⟩
    | ok salt =>
      cases decoded : decodeSalt salt with
      | error failure =>
        simp only [decoded,Except.map]
        exact createFernets_error decoded _ _ sound
      | ok bytes =>
        simp only [decoded,Except.map]
        exact createFernets_ok decoded _ _ sound

theorem encryptString_eq (sound : Sound (RightKey c) cache) (nonce : Nat) (value context : String) :
    (encryptString c settings now nonce value context cache).1 =
        (if value = "" then .ok none
          else (keyRing c settings context).map fun keys =>
            keys.head?.map fun key => c.encrypt key nonce value) ∧
      Sound (RightKey c) (encryptString c settings now nonce value context cache).2 := by
  obtain ⟨is,kept⟩ := @multiFernet_eq c settings now _ context sound
  simp only [encryptString]
  split
  · exact ⟨rfl,sound⟩
  · rw [← is]
    cases made : multiFernet c settings now context cache with
    | mk keys cache =>
      rw [made] at kept
      cases keys with
      | error failure => exact ⟨rfl,kept⟩
      | ok keys => exact ⟨rfl,kept⟩

theorem decryptString_eq (sound : Sound (RightKey c) cache) (value context : String) :
    (decryptString c settings now value context cache).1 =
        (if value = "" then .ok none
          else match keyRing c settings context with
            | .ok keys => ((keys.findSome? fun key => c.decrypt key value).map fun text =>
              Except.ok (some text)).getD (failClosed settings)
            | .error _ => failClosed settings) ∧
      Sound (RightKey c) (decryptString c settings now value context cache).2 := by
  obtain ⟨is,kept⟩ := @multiFernet_eq c settings now _ context sound
  simp only [decryptString]
  split
  · exact ⟨rfl,sound⟩
  · rw [← is]
    cases made : multiFernet c settings now context cache with
    | mk keys cache =>
      rw [made] at kept
      cases keys with
      | error failure => exact ⟨rfl,kept⟩
      | ok keys => cases found : keys.findSome? fun key => c.decrypt key value with
        | none => simpa [found] using kept
        | some text => simpa [found] using kept

theorem warmKeys_sound (seen keys : List String) (sound : Sound (RightKey c) cache) :
    Sound (RightKey c) (warmKeys c settings now salt seen keys cache) := by
  induction keys generalizing seen cache with
  | nil => exact sound
  | cons rawKey rest ih =>
    simp only [warmKeys]
    split
    · exact ih seen sound
    · exact ih _ (createFernetForKey_eq sound _ salt).2

theorem clearKeyCaches_sound (settings : Settings) (now : Int) :
    Sound (RightKey c) (clearKeyCaches c settings now) := by
  have empty : Sound (RightKey c) ([] : KeyCache c) := by simp [Sound]
  simp only [clearKeyCaches]
  split
  · exact empty
  · exact warmKeys_sound _ _ empty

theorem findSome_decrypt (masters : List String) (masterKey : String) (nonce : Nat) (value : String) :
    (masters.map (keyOf c bytes)).findSome? (fun key =>
        c.decrypt key (c.encrypt (keyOf c bytes masterKey) nonce value)) =
      if masterKey ∈ masters then some value else none := by
  induction masters with
  | nil => rfl
  | cons head rest ih =>
    rw [List.map_cons,List.findSome?_cons]
    by_cases same : head = masterKey
    · cases same
      simp [c.decrypt_encrypt]
    · have other : keyOf c bytes head ≠ keyOf c bytes masterKey := fun equal =>
        same (keyOf_injective equal)
      rw [c.decrypt_other _ _ _ _ other,ih]
      simp [Ne.symm same]

theorem given_some {text : Option String} {s : String} : given text = some s ↔
    text = some s ∧ s ≠ "" := by
  cases text with
  | none => simp [given]
  | some t =>
    simp only [given,Option.filter,Option.some.injEq]
    by_cases empty : t = ""
    · simp only [empty,ne_eq,not_true,decide_false,Bool.false_eq_true,if_false]
      constructor
      · intro none
        cases none
      · rintro ⟨rfl,nonempty⟩
        exact absurd rfl nonempty
    · simp only [empty,ne_eq,not_false_eq_true,decide_true,if_true,Option.some.injEq]
      constructor
      · rintro rfl
        exact ⟨rfl,empty⟩
      · exact fun both => both.1

theorem keyRing_ok {keys : List c.Key} (rings : keyRing c settings context = .ok keys) :
    ∃ primary salt bytes, given (settings.primaryKey context) = some primary ∧
      settings.salt = .ok salt ∧ decodeSalt salt = .ok bytes ∧
      keys = (masterKeys settings context).map (keyOf c bytes) := by
  simp only [keyRing] at rings
  cases configured : given (settings.primaryKey context) with
  | none => simp [configured] at rings
  | some primary =>
    cases salted : settings.salt with
    | error failure => simp [configured,salted] at rings
    | ok salt =>
      cases decoded : decodeSalt salt with
      | error failure => simp [configured,salted,decoded,Except.map] at rings
      | ok bytes =>
        simp only [configured,salted,decoded,Except.map,Except.ok.injEq] at rings
        refine ⟨primary,salt,bytes,rfl,rfl,decoded,?_⟩
        simp [← rings,masterKeys,configured]

theorem encryptString_ok {nonce : Nat} {value token : String} (sound : Sound (RightKey c) cache)
    (encrypts : (encryptString c settings now nonce value context cache).1 = .ok (some token)) :
    value ≠ "" ∧ ∃ primary salt bytes, given (settings.primaryKey context) = some primary ∧
      settings.salt = .ok salt ∧ decodeSalt salt = .ok bytes ∧
      token = c.encrypt (keyOf c bytes primary) nonce value := by
  rw [(encryptString_eq sound nonce value context).1] at encrypts
  split at encrypts
  · cases encrypts
  next nonempty =>
    refine ⟨nonempty,?_⟩
    cases rings : keyRing c settings context with
    | error failure => simp [rings,Except.map] at encrypts
    | ok keys =>
      obtain ⟨primary,salt,bytes,configured,salted,decoded,rfl⟩ := keyRing_ok rings
      refine ⟨primary,salt,bytes,configured,salted,decoded,?_⟩
      simpa [rings,Except.map,masterKeys,configured] using encrypts.symm

structure Recorded (v : Vault c) : Prop where
  cache : Sound (RightKey c) v.cache
  sealed : ∀ w ∈ v.written, w.value ≠ "" ∧
    (∃ primary, given (v.settings.primaryKey w.context) = some primary) ∧
    ∃ salt bytes nonce, v.settings.salt = .ok salt ∧ decodeSalt salt = .ok bytes ∧
      w.token = c.encrypt (keyOf c bytes w.masterKey) nonce w.value

structure Kept (v : Vault c) : Prop extends Recorded v where
  opens : ∀ w ∈ v.written, w.masterKey ∈ masterKeys v.settings w.context

theorem failClosed_ne (settings : Settings) (text : String) :
    failClosed settings ≠ .ok (some text) := by
  simp only [failClosed]
  split
  · simp
  · split <;> simp

theorem reads_iff (recorded : Recorded v) {w : Written} (listed : w ∈ v.written) (now : Int) :
    (decryptString c v.settings now w.token w.context v.cache).1 = .ok (some w.value) ↔
      w.masterKey ∈ masterKeys v.settings w.context := by
  obtain ⟨_,⟨primary,configured⟩,salt,bytes,nonce,salted,decoded,token⟩ := recorded.sealed w listed
  have nonempty : w.token ≠ "" := by
    rw [token]
    exact c.token_nonempty _ _ _
  have rings : keyRing c v.settings w.context =
      .ok ((masterKeys v.settings w.context).map (keyOf c bytes)) := by
    simp [keyRing,configured,salted,decoded,Except.map,masterKeys]
  rw [(decryptString_eq recorded.cache w.token w.context).1,if_neg nonempty,rings]
  simp only [token,findSome_decrypt]
  by_cases member : w.masterKey ∈ masterKeys v.settings w.context
  · simp [member]
  · simpa [member] using failClosed_ne v.settings w.value

theorem retained_of_kept (kept : Kept v) : Retained v := by
  constructor
  · intro w listed now
    exact (reads_iff kept.toRecorded listed now).mpr (kept.opens w listed)
  · intro context value nonce now token encrypts
    obtain ⟨_,primary,salt,bytes,configured,salted,decoded,is⟩ := encryptString_ok kept.cache encrypts
    exact ⟨primary,salt,keyOf c bytes primary,(given_some.mp configured).1,salted,
      deriveFrom_ok decoded primary,is⟩

theorem rotate_primary {name : KeyName} {old new : String} (context : String)
    (configured : given (settings.key name) = some old) (nonempty : new ≠ "") :
    (settings.rotate name old new).primaryKey context = settings.primaryKey context ∨
      ((settings.rotate name old new).primaryKey context = some new ∧
        given (settings.primaryKey context) = some old) := by
  have fresh : given (some new) = some new := given_some.mpr ⟨rfl,nonempty⟩
  have present := given_some.mp configured
  cases name with
  | encryption =>
    simp only [Settings.key] at configured
    by_cases api : context = "api_key"
    · cases own : given settings.apiKeyEncryptionKey with
      | none => simp [Settings.primaryKey,Settings.rotate,Settings.setKey,api,own,configured]
      | some key => simp [Settings.primaryKey,Settings.rotate,Settings.setKey,api,own]
    · by_cases pii : context = "pii"
      · cases own : given settings.piiEncryptionKey with
        | none => simp [Settings.primaryKey,Settings.rotate,Settings.setKey,pii,own,configured]
        | some key => simp [Settings.primaryKey,Settings.rotate,Settings.setKey,pii,own]
      · simp [Settings.primaryKey,Settings.rotate,Settings.setKey,api,pii,configured]
  | pii =>
    simp only [Settings.key] at configured
    by_cases api : context = "api_key"
    · simp [Settings.primaryKey,Settings.rotate,Settings.setKey,api]
    · by_cases pii : context = "pii"
      · right
        simp [Settings.primaryKey,Settings.rotate,Settings.setKey,pii,fresh,configured,
          given_some,present.2]
      · simp [Settings.primaryKey,Settings.rotate,Settings.setKey,api,pii]
  | apiKey =>
    simp only [Settings.key] at configured
    by_cases api : context = "api_key"
    · right
      simp [Settings.primaryKey,Settings.rotate,Settings.setKey,api,fresh,configured,
        given_some,present.2]
    · by_cases pii : context = "pii"
      · simp [Settings.primaryKey,Settings.rotate,Settings.setKey,pii]
      · simp [Settings.primaryKey,Settings.rotate,Settings.setKey,api,pii]

theorem introduce_primary {name : KeyName} {new own : String} (context : String)
    (named : name.context = some own) (unset : given (settings.key name) = none)
    (nonempty : new ≠ "") :
    if context = own then (settings.setKey name new).primaryKey context = some new ∧
        settings.primaryKey context = settings.encryptionKey
      else (settings.setKey name new).primaryKey context = settings.primaryKey context := by
  have fresh : given (some new) = some new := given_some.mpr ⟨rfl,nonempty⟩
  cases name with
  | encryption => cases named
  | pii =>
    cases named
    simp only [Settings.key] at unset
    by_cases pii : context = "pii"
    · simp [Settings.primaryKey,Settings.setKey,pii,fresh,unset]
    · by_cases api : context = "api_key" <;> simp [Settings.primaryKey,Settings.setKey,pii,api]
  | apiKey =>
    cases named
    simp only [Settings.key] at unset
    by_cases api : context = "api_key"
    · simp [Settings.primaryKey,Settings.setKey,api,fresh,unset]
    · by_cases pii : context = "pii" <;> simp [Settings.primaryKey,Settings.setKey,pii,api]

/-- Other settings under which every recorded secret can still be decrypted. -/
theorem Kept.reload (kept : Kept v) {settings : Settings} (now : Int)
    (salt : settings.salt = v.settings.salt)
    (primary : ∀ w ∈ v.written, ∃ primary, given (settings.primaryKey w.context) = some primary)
    (opens : ∀ w ∈ v.written, w.masterKey ∈ masterKeys settings w.context) :
    Kept (v.reload settings now) := by
  refine ⟨⟨clearKeyCaches_sound settings now,?_⟩,opens⟩
  intro w listed
  obtain ⟨nonempty,_,sealed⟩ := kept.sealed w listed
  have salted : (v.reload settings now).settings.salt = v.settings.salt := salt
  rw [salted]
  exact ⟨nonempty,primary w listed,sealed⟩

theorem Kept.withCache (kept : Kept v) {cache : KeyCache c} (sound : Sound (RightKey c) cache) :
    Kept { v with cache } := ⟨⟨sound,kept.sealed⟩,kept.opens⟩

theorem Kept.write (kept : Kept v) (context value : String) (nonce : Nat) (now : Int) :
    Kept (v.step (.write context value nonce now)) := by
  simp only [Vault.step]
  have sound := (@encryptString_eq c v.settings now v.cache kept.cache nonce value context).2
  have sealed := fun token => @encryptString_ok c v.settings now v.cache context nonce value token
    kept.cache
  cases encrypted : encryptString c v.settings now nonce value context v.cache with
  | mk result cache =>
    rw [encrypted] at sound sealed
    cases result with
    | error failure => exact kept.withCache sound
    | ok token =>
      cases token with
      | none => exact kept.withCache sound
      | some token =>
        obtain ⟨nonempty,primary,salt,bytes,configured,salted,decoded,is⟩ := sealed token rfl
        have text : v.settings.primaryKey context = some primary := (given_some.mp configured).1
        refine ⟨⟨sound,?_⟩,?_⟩
        · intro w listed
          rcases List.mem_append.mp listed with listed | listed
          · exact kept.sealed w listed
          · cases List.mem_singleton.mp listed
            refine ⟨nonempty,⟨primary,configured⟩,salt,bytes,nonce,salted,decoded,?_⟩
            simpa [text] using is
        · intro w listed
          rcases List.mem_append.mp listed with listed | listed
          · exact kept.opens w listed
          · cases List.mem_singleton.mp listed
            rw [text] at configured
            simp [masterKeys,configured,text]

theorem Kept.replaceKey (kept : Kept v) (name : KeyName) (new : String) (now : Int) :
    Kept (v.step (.replaceKey name new now)) := by
  simp only [Vault.step]
  cases configured : given (v.settings.key name) with
  | none => exact kept
  | some old =>
    cases fresh : given (some new) with
    | none => exact kept
    | some other =>
      obtain ⟨same,nonempty⟩ := given_some.mp fresh
      cases same
      have change := fun context => @rotate_primary v.settings name old new context configured nonempty
      have salt : (v.settings.rotate name old new).salt = v.settings.salt := by
        cases name <;> rfl
      apply kept.reload now salt
      · intro w listed
        rcases change w.context with unchanged | ⟨changed,_⟩
        · rw [unchanged]
          exact (kept.sealed w listed).2.1
        · exact ⟨new,by rw [changed]; exact fresh⟩
      · intro w listed
        have member := kept.opens w listed
        simp only [masterKeys,List.mem_append,Option.mem_toList] at member ⊢
        have fallback : (v.settings.rotate name old new).encryptionFallbackKeys =
            v.settings.encryptionFallbackKeys ++ [old] := rfl
        rw [fallback,List.mem_append,List.mem_singleton]
        rcases member with primary | member
        · rcases change w.context with unchanged | ⟨_,was⟩
          · exact .inl (by rw [unchanged]; exact primary)
          · rw [was] at primary
            exact .inr (.inr (Option.some.inj primary).symm)
        · exact .inr (.inl member)

theorem mem_introduced {name : KeyName} {new own : String} (w : Written)
    (named : name.context = some own) (unset : given (settings.key name) = none)
    (nonempty : new ≠ "") : w.masterKey ∈ masterKeys (settings.setKey name new) w.context ↔
      if w.context = own then w.masterKey = new ∨ w.masterKey ∈ settings.encryptionFallbackKeys
      else w.masterKey ∈ masterKeys settings w.context := by
  have change := introduce_primary w.context named unset nonempty
  have fresh : given (some new) = some new := given_some.mpr ⟨rfl,nonempty⟩
  have fallback : (settings.setKey name new).encryptionFallbackKeys =
      settings.encryptionFallbackKeys := by cases name <;> rfl
  by_cases here : w.context = own
  · rw [if_pos here] at change ⊢
    simp [masterKeys,change.1,fresh,fallback,eq_comm]
  · rw [if_neg here] at change ⊢
    simp only [masterKeys,change,fallback]

theorem Kept.introduceKey (kept : Kept v) {name : KeyName} {new : String} {now : Int}
    (keeps : KeepsDefault v (.introduceKey name new now)) :
    Kept (v.step (.introduceKey name new now)) := by
  simp only [Vault.step]
  cases named : name.context with
  | none => exact kept
  | some own =>
    cases unset : given (v.settings.key name) with
    | some old => exact kept
    | none =>
      cases fresh : given (some new) with
      | none => exact kept
      | some other =>
        obtain ⟨same,nonempty⟩ := given_some.mp fresh
        cases same
        have salt : (v.settings.setKey name new).salt = v.settings.salt := by cases name <;> rfl
        apply kept.reload now salt
        · intro w listed
          have change := introduce_primary w.context named unset nonempty
          split at change
          · exact ⟨new,by rw [change.1]; exact fresh⟩
          · rw [change]
            exact (kept.sealed w listed).2.1
        · intro w listed
          rw [mem_introduced w named unset nonempty]
          have member := kept.opens w listed
          split
          next here =>
            have change := introduce_primary w.context named unset nonempty
            rw [if_pos here] at change
            simp only [masterKeys,List.mem_append,Option.mem_toList,change.2] at member
            rcases member with primary | member
            · exact keeps name new now own rfl named unset nonempty w listed here
                (given_some.mp primary).1
            · exact .inr member
          · exact member

theorem introduceKey_loses (kept : Kept v) {event : VaultEvent} (loses : ¬KeepsDefault v event) :
    ¬Retained (v.step event) := by
  simp only [KeepsDefault,not_forall] at loses
  obtain ⟨name,new,now,own,rfl,named,unset,nonempty,w,listed,here,default,lost⟩ := loses
  have fresh : given (some new) = some new := given_some.mpr ⟨rfl,nonempty⟩
  intro retained
  simp only [Vault.step,named,unset,fresh] at retained
  have recorded : Recorded (v.reload (v.settings.setKey name new) now) := by
    refine ⟨clearKeyCaches_sound _ _,?_⟩
    intro other otherListed
    obtain ⟨value,primary,sealed⟩ := kept.sealed other otherListed
    have salt : (v.settings.setKey name new).salt = v.settings.salt := by cases name <;> rfl
    have salted : (v.reload (v.settings.setKey name new) now).settings.salt = v.settings.salt := salt
    rw [salted]
    refine ⟨value,?_,sealed⟩
    have change := introduce_primary other.context named unset nonempty
    simp only [Vault.reload]
    split at change
    · exact ⟨new,by rw [change.1]; exact fresh⟩
    · rw [change]
      exact primary
  have member := (reads_iff recorded listed now).mp (retained.reads w listed now)
  have opened := (mem_introduced w named unset nonempty).mp member
  rw [if_pos here] at opened
  exact lost opened

def Vault.start (c : Crypto) (settings : Settings) : Vault c := { settings }

/-- In a run of writes, reads, rotations and introductions of keys no secret is ever lost exactly
when every key that a context gets of its own leaves the default key to its secrets. -/
theorem retained_iff (c : Crypto) (settings : Settings) (events : List VaultEvent) :
    Always Vault.exec Retained (Vault.start c settings) events ↔
      EachStep Vault.exec KeepsDefault (Vault.start c settings) events := by
  refine always_iff_eachStep _ _ _ Kept (fun _ => retained_of_kept) ?_ ?_ _ _ ?_
  · intro v event kept keeps
    cases event with
    | write context value nonce now => exact kept.write context value nonce now
    | read context token now => exact kept.withCache (decryptString_eq kept.cache token context).2
    | replaceKey name new now => exact kept.replaceKey name new now
    | introduceKey name new now => exact kept.introduceKey keeps
  · exact fun v event kept => introduceKey_loses kept
  · refine ⟨⟨?_,?_⟩,?_⟩ <;> simp [Vault.start,Sound]

section Plain

def plainToken (key text : String) : String :=
  String.ofList (List.replicate key.toList.length 'k' ++ '.' :: (key.toList ++ text.toList))

def plainText (key token : String) : Option String :=
  let length := (token.toList.takeWhile (· = 'k')).length
  let rest := (token.toList.dropWhile (· = 'k')).drop 1
  if rest.take length = key.toList then some (String.ofList (rest.drop length)) else none

theorem plainText_plainToken (key other text : String) :
    plainText other (plainToken key text) = if other = key then some text else none := by
  have marks : ∀ n (cs : List Char), (List.replicate n 'k' ++ '.' :: cs).takeWhile (· = 'k') =
      List.replicate n 'k' := by
    intro n cs
    induction n with
    | zero => rfl
    | succ n ih => simp [List.replicate_succ,ih]
  have rest : ∀ n (cs : List Char), (List.replicate n 'k' ++ '.' :: cs).dropWhile (· = 'k') =
      '.' :: cs := by
    intro n cs
    induction n with
    | zero => rfl
    | succ n ih => simp [List.replicate_succ,ih]
  simp only [plainText,plainToken,String.toList_ofList,marks,rest,List.length_replicate,
    List.drop_succ_cons,List.drop_zero,List.take_left,List.drop_left,String.ofList_toList]
  by_cases same : other = key
  · simp [same]
  · have apart : key.toList ≠ other.toList := fun equal => same (String.toList_inj.mp equal).symm
    simp [same,apart]

/-- Cryptography that hides nothing and obeys the laws of the ideal one. -/
def plainCrypto : Crypto where
  Key := String
  sha256 := id
  pbkdf2 := fun input _ _ => input
  encrypt := fun key _ text => plainToken key text
  decrypt := plainText
  sha256_injective := fun _ _ same => same
  pbkdf2_injective := fun _ _ _ _ same => same
  decrypt_encrypt := by simp [plainText_plainToken]
  decrypt_other := by simp +contextual [plainText_plainToken]
  token_nonempty := by
    intro key _ text empty
    have chars := congrArg String.toList empty
    simp [plainToken] at chars

end Plain

def defaultKeyOnly : Settings :=
  { encryptionKey := some "default"
    kdfSalt := some "AAAAAAAAAAAAAAAAAAAAAAAAAAAAAAAAAAAAAAAAAAA=" }

def piiKeyArrives : List VaultEvent :=
  [.write "pii" "secret" 0 0,.introduceKey .pii "own" 1]

/-- The secret is lost with the key that gave way. -/
theorem stored_secret_lost :
    ¬Always Vault.exec Retained (Vault.start plainCrypto defaultKeyOnly) piiKeyArrives := by
  intro always
  have reads := always.2.2.reads
    { context := "pii", value := "secret", token := plainToken "default:v1" "secret"
      masterKey := "default" } (List.mem_singleton.mpr rfl) 2
  have none : (decryptString plainCrypto { defaultKeyOnly with piiEncryptionKey := some "own" } 2
      (plainToken "default:v1" "secret") "pii" (clearKeyCaches plainCrypto
        { defaultKeyOnly with piiEncryptionKey := some "own" } 1)).1 = .ok none := rfl
  have lost := none.symm.trans reads
  cases lost

end Valdrics.SecretKeys
