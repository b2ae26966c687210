import Valdrics.ProxyHeaders

/-! When the client chooses neither the address nor the scheme of its request: the values are
counted from the right over what is left of the header, so an entry of the proxies that is dropped
lets a value of the client take its place. -/
namespace Valdrics.ProxyHeaders

open PythonText
open SeparatedText (elements fromRight)

variable {lowercase : Lowercase} {settings : Settings} {request : Request} {header : String}
  {addresses protos : TrustedSuffix settings} {values : List String}

theorem parts_eq (text : String) : parts text =
    (elements ',' isSpace text.toList).map String.ofList := by
  have same : strip ∘ String.ofList = String.ofList ∘ SeparatedText.trim isSpace := by
    funext cs
    simp only [Function.comp,strip,String.toList_ofList]
    rfl
  have empty : ((fun s : String => decide (s ≠ "")) ∘ String.ofList) = fun cs => decide (cs ≠ []) := by
    funext cs
    simp [Function.comp]
  rw [parts,splitCommas,elements,List.map_map,same,← List.map_map,List.filter_map,empty]

theorem parts_strip (text : String) : parts (strip text) = parts text := by
  rw [parts_eq,parts_eq,strip,String.toList_ofList]
  exact congrArg _ (SeparatedText.elements_trim (by decide) text.toList)

theorem parts_append (text entry : String) :
    parts (text ++ "," ++ entry) = parts text ++ parts entry := by
  have chars : (text ++ "," ++ entry).toList = text.toList ++ ',' :: entry.toList := by simp
  rw [parts_eq,parts_eq,parts_eq,chars,SeparatedText.elements_append,List.map_append]

theorem parts_entry {entry : String} (single : ',' ∉ entry.toList) :
    parts entry = [strip entry].filter (· ≠ "") := by
  rw [parts,splitCommas,List.splitOn_eq_singleton single]
  simp

theorem parts_forwarded (client : Option String) (entries : List String)
    (single : ∀ entry ∈ entries, ',' ∉ entry.toList) :
    parts ((forwarded client entries).getD "") =
      parts (client.getD "") ++ (entries.map strip).filter (· ≠ "") := by
  induction entries generalizing client with
  | nil => simp [forwarded]
  | cons entry rest ih =>
    obtain ⟨first,later⟩ := List.forall_mem_cons.mp single
    have step : forwarded client (entry :: rest) = forwarded (appendEntry client entry) rest := rfl
    have split : (entry :: rest).map strip = [strip entry] ++ rest.map strip := rfl
    rw [step,ih _ later,split,List.filter_append,← List.append_assoc,← parts_entry first]
    congr 1
    cases client with
    | none =>
      have blank : parts "" = [] := by decide
      simp [appendEntry,blank]
    | some text => exact parts_append text entry

theorem hops_pos (settings : Settings) : 0 < trustedProxyHops settings := by
  simp only [trustedProxyHops]
  omega

theorem pick_eq {hops : Nat} (positive : 0 < hops) (values : List String) :
    pick values hops = fromRight values hops := by
  simp only [pick,fromRight]
  by_cases enough : hops ≤ values.length
  · have index : ((values.length : Int) - hops).toNat = values.length - hops := by omega
    rw [if_neg (by omega),if_neg (by omega),if_pos enough,index]
  · rw [if_pos (by omega),if_neg enough]

/-- A trusted peer's request has the value that counts, if there is one. -/
theorem resolveClientIp_trusted (trusted : trustedProxy lowercase settings request = true) :
    resolveClientIp lowercase settings request =
      (fromRight (forwardedAddresses (request.xForwardedFor.getD ""))
        (trustedProxyHops settings)).getD (fallbackClientHost request) := by
  have same : forwardedAddresses (strip (request.xForwardedFor.getD "")) =
      forwardedAddresses (request.xForwardedFor.getD "") := by
    simp only [forwardedAddresses,parts_strip]
  have none : fromRight ([] : List String) (trustedProxyHops settings) = none :=
    SeparatedText.fromRight_short (hops_pos settings)
  rw [← same]
  simp only [resolveClientIp,trusted,Bool.true_eq_false,if_false]
  split
  next blank =>
    have empty : forwardedAddresses "" = [] := by decide
    rw [blank,empty,none]
    rfl
  · split
    next empty =>
      rw [empty,none]
      rfl
    · rw [pick_eq (hops_pos settings)]

theorem resolveRequestScheme_trusted (trusted : trustedProxy lowercase settings request = true) :
    resolveRequestScheme lowercase settings request =
      ((fromRight (forwardedSchemes lowercase (request.xForwardedProto.getD ""))
        (trustedProxyHops settings)).filter fun scheme => scheme ∈ ["http","https"]).getD
          (ownScheme lowercase request) := by
  have same : forwardedSchemes lowercase (strip (request.xForwardedProto.getD "")) =
      forwardedSchemes lowercase (request.xForwardedProto.getD "") := by
    simp only [forwardedSchemes,parts_strip]
  have none : fromRight ([] : List String) (trustedProxyHops settings) = none :=
    SeparatedText.fromRight_short (hops_pos settings)
  rw [← same]
  simp only [resolveRequestScheme,trusted,Bool.true_eq_false,if_false]
  split
  next blank =>
    have parts : parts "" = [] := by decide
    have empty : forwardedSchemes lowercase "" = [] := by simp [forwardedSchemes,parts]
    rw [blank,empty,none]
    rfl
  · split
    next empty =>
      rw [empty,none]
      rfl
    · rw [pick_eq (hops_pos settings)]
      cases fromRight (forwardedSchemes lowercase (strip (request.xForwardedProto.getD "")))
          (trustedProxyHops settings) with
      | none => rfl
      | some candidate =>
        by_cases allowed : candidate ∈ ["http","https"]
        · simp only [Option.filter,allowed,decide_true,if_true,Option.getD_some]
        · simp only [Option.filter,allowed,decide_false,if_false,Option.getD_none,
            Bool.false_eq_true]

def addressText (candidate : String) : Option String :=
  (IpAddresses.parse candidate).map (·.text)

theorem addressText_empty : addressText "" = none := by decide

def entryAddresses (entries : List String) : List String :=
  entries.filterMap fun entry => addressText (strip entry)

def entrySchemes (lowercase : Lowercase) (entries : List String) : List String :=
  ((entries.map strip).filter (· ≠ "")).map lowercase.lower

theorem entryAddresses_eq (entries : List String) :
    ((entries.map strip).filter (· ≠ "")).filterMap addressText = entryAddresses entries := by
  induction entries with
  | nil => simp [entryAddresses]
  | cons entry rest ih =>
    by_cases empty : strip entry = ""
    · simpa [entryAddresses,empty,addressText_empty] using ih
    · simp only [entryAddresses] at ih ⊢
      simp only [List.map_cons,List.filter_cons,empty,ne_eq,not_false_eq_true,decide_true,if_true,
        List.filterMap_cons,ih]

theorem forwardedAddresses_forwarded (client : Option String) (entries : List String)
    (single : ∀ entry ∈ entries, ',' ∉ entry.toList) :
    forwardedAddresses ((forwarded client entries).getD "") =
      forwardedAddresses (client.getD "") ++ entryAddresses entries := by
  have eq : ∀ header, forwardedAddresses header = (parts header).filterMap addressText :=
    fun _ => rfl
  rw [eq,eq,parts_forwarded client entries single,List.filterMap_append,entryAddresses_eq]

theorem forwardedSchemes_forwarded (client : Option String) (entries : List String)
    (single : ∀ entry ∈ entries, ',' ∉ entry.toList) :
    forwardedSchemes lowercase ((forwarded client entries).getD "") =
      forwardedSchemes lowercase (client.getD "") ++ entrySchemes lowercase entries := by
  simp only [forwardedSchemes,parts_forwarded client entries single,List.map_append,entrySchemes]

theorem entryAddresses_length (entries : List String) : (entryAddresses entries).length ≤ entries.length :=
  List.length_filterMap_le _ _

theorem entryAddresses_all {entries : List String} :
    (entryAddresses entries).length = entries.length ↔
      ∀ entry ∈ entries, (IpAddresses.parse (strip entry)).isSome = true := by
  rw [entryAddresses,List.filterMap_length_eq_length]
  simp only [addressText,Option.isSome_map]

theorem entrySchemes_length (entries : List String) :
    (entrySchemes lowercase entries).length ≤ entries.length := by
  rw [entrySchemes,List.length_map]
  exact (List.length_filter_le _ _).trans (by simp)

theorem entrySchemes_all {entries : List String} :
    (entrySchemes lowercase entries).length = entries.length ↔
      ∀ entry ∈ entries, strip entry ≠ "" := by
  have counts : (entries.map strip).length = entries.length := List.length_map _
  rw [entrySchemes,List.length_map,← counts,List.length_filter_eq_length_iff]
  simp

def copies (settings : Settings) (value : String) : List String :=
  List.replicate (trustedProxyHops settings) value

theorem resolveClientIp_legible (trusted : trustedProxy lowercase settings request = true)
    (legible : ∀ entry ∈ addresses.entries, (IpAddresses.parse (strip entry)).isSome = true)
    (clientFor clientProto : Option String) :
    resolveClientIp lowercase settings (request.arriving addresses protos clientFor clientProto) =
      (entryAddresses addresses.entries).head?.getD (fallbackClientHost request) := by
  have count : (entryAddresses addresses.entries).length = trustedProxyHops settings :=
    (entryAddresses_all.mpr legible).trans addresses.hops
  have same : trustedProxy lowercase settings
      (request.arriving addresses protos clientFor clientProto) = true := trusted
  rw [resolveClientIp_trusted same]
  simp only [Request.arriving,forwardedAddresses_forwarded _ _ addresses.single]
  rw [← count,SeparatedText.fromRight_append]
  rfl

theorem resolveRequestScheme_legible (trusted : trustedProxy lowercase settings request = true)
    (legible : ∀ entry ∈ protos.entries, strip entry ≠ "") (clientFor clientProto : Option String) :
    resolveRequestScheme lowercase settings
        (request.arriving addresses protos clientFor clientProto) =
      ((entrySchemes lowercase protos.entries).head?.filter fun scheme =>
        scheme ∈ ["http","https"]).getD (ownScheme lowercase request) := by
  have count : (entrySchemes lowercase protos.entries).length = trustedProxyHops settings :=
    (entrySchemes_all.mpr legible).trans protos.hops
  have same : trustedProxy lowercase settings
      (request.arriving addresses protos clientFor clientProto) = true := trusted
  rw [resolveRequestScheme_trusted same]
  simp only [Request.arriving,forwardedSchemes_forwarded _ _ protos.single]
  rw [← count,SeparatedText.fromRight_append]
  rfl

theorem resolveClientIp_untrusted (untrusted : trustedProxy lowercase settings request = false)
    (xForwardedFor xForwardedProto : Option String) :
    resolveClientIp lowercase settings { request with xForwardedFor, xForwardedProto } =
      fallbackClientHost request := if_pos untrusted

theorem resolveRequestScheme_untrusted (untrusted : trustedProxy lowercase settings request = false)
    (xForwardedFor xForwardedProto : Option String) :
    resolveRequestScheme lowercase settings { request with xForwardedFor, xForwardedProto } =
      ownScheme lowercase request := if_pos untrusted

theorem resolveClientIp_chosen (trusted : trustedProxy lowercase settings request = true)
    (illegible : ¬∀ entry ∈ addresses.entries, (IpAddresses.parse (strip entry)).isSome = true)
    (proto : Option String) {address : String} (isAddress : addressText (strip address) = some address)
    (single : ',' ∉ address.toList) :
    resolveClientIp lowercase settings (request.arriving addresses protos none proto) =
        fallbackClientHost request ∧
      resolveClientIp lowercase settings
        (request.arriving addresses protos (forwarded none (copies settings address)) proto) =
          address := by
  have few : (entryAddresses addresses.entries).length < trustedProxyHops settings := by
    have bound := entryAddresses_length addresses.entries
    have different : (entryAddresses addresses.entries).length ≠ addresses.entries.length :=
      fun same => illegible (entryAddresses_all.mp same)
    have hops := addresses.hops
    omega
  have arrives : ∀ header, trustedProxy lowercase settings
      (request.arriving addresses protos header proto) = true := fun _ => trusted
  constructor
  · rw [resolveClientIp_trusted (arrives none)]
    have none : forwardedAddresses "" = [] := by decide
    simp only [Request.arriving,forwardedAddresses_forwarded _ _ addresses.single,
      Option.getD_none,none,List.nil_append,SeparatedText.fromRight_short few]
    rfl
  · rw [resolveClientIp_trusted (arrives _)]
    have copied : forwardedAddresses ((forwarded none (copies settings address)).getD "") =
        List.replicate (trustedProxyHops settings) address := by
      have commas : ∀ entry ∈ copies settings address, ',' ∉ entry.toList := by
        intro entry listed
        rwa [List.eq_of_mem_replicate listed]
      have none : forwardedAddresses "" = [] := by decide
      rw [forwardedAddresses_forwarded _ _ commas,Option.getD_none,none,List.nil_append,copies,
        entryAddresses,List.filterMap_replicate_of_some (f := fun entry => addressText (strip entry))
          isAddress]
    simp only [Request.arriving,forwardedAddresses_forwarded _ _ addresses.single,copied,
      SeparatedText.fromRight_replicate _ _ few,Option.getD_some]

theorem resolveRequestScheme_chosen (trusted : trustedProxy lowercase settings request = true)
    (illegible : ¬∀ entry ∈ protos.entries, strip entry ≠ "") (clientFor : Option String)
    {scheme : String} (allowed : scheme ∈ ["http","https"]) :
    resolveRequestScheme lowercase settings (request.arriving addresses protos clientFor none) =
        ownScheme lowercase request ∧
      resolveRequestScheme lowercase settings
        (request.arriving addresses protos clientFor (forwarded none (copies settings scheme))) =
          scheme := by
  have few : (entrySchemes lowercase protos.entries).length < trustedProxyHops settings := by
    have bound := @entrySchemes_length lowercase protos.entries
    have different : (entrySchemes lowercase protos.entries).length ≠ protos.entries.length :=
      fun same => illegible (entrySchemes_all.mp same)
    have hops := protos.hops
    omega
  have arrives : ∀ header, trustedProxy lowercase settings
      (request.arriving addresses protos clientFor header) = true := fun _ => trusted
  have none : forwardedSchemes lowercase "" = [] := by
    have parts : parts "" = [] := by decide
    simp [forwardedSchemes,parts]
  constructor
  · rw [resolveRequestScheme_trusted (arrives Option.none)]
    simp only [Request.arriving,forwardedSchemes_forwarded _ _ protos.single,Option.getD_none,none,
      List.nil_append,SeparatedText.fromRight_short few]
    rfl
  · rw [resolveRequestScheme_trusted (arrives _)]
    have plain : ',' ∉ scheme.toList ∧ strip scheme = scheme ∧ scheme ≠ "" ∧
        lowercase.lower scheme = scheme := by
      rcases List.mem_cons.mp allowed with rfl | other
      · exact ⟨by decide,by decide,by decide,lowercase.ascii _ (by decide)⟩
      · cases List.mem_singleton.mp other
        exact ⟨by decide,by decide,by decide,lowercase.ascii _ (by decide)⟩
    have copied : forwardedSchemes lowercase ((forwarded Option.none (copies settings scheme)).getD "") =
        List.replicate (trustedProxyHops settings) scheme := by
      have commas : ∀ entry ∈ copies settings scheme, ',' ∉ entry.toList := by
        intro entry listed
        rw [List.eq_of_mem_replicate listed]
        exact plain.1
      rw [forwardedSchemes_forwarded _ _ commas,Option.getD_none,none,List.nil_append,copies,
        entrySchemes]
      simp [plain.2.1,plain.2.2.1,plain.2.2.2]
    simp only [Request.arriving,forwardedSchemes_forwarded _ _ protos.single,copied,
      SeparatedText.fromRight_replicate _ _ few]
    simp only [Option.filter,allowed,decide_true,if_true,Option.getD_some]

def AddressFixed (lowercase : Lowercase) (settings : Settings) (request : Request)
    (addresses protos : TrustedSuffix settings) : Prop :=
  ∀ for₁ proto₁ for₂ proto₂,
    resolveClientIp lowercase settings (request.arriving addresses protos for₁ proto₁) =
      resolveClientIp lowercase settings (request.arriving addresses protos for₂ proto₂)

theorem addressFixed_of_legible
    (legible : trustedProxy lowercase settings request = true →
      ∀ entry ∈ addresses.entries, (IpAddresses.parse (strip entry)).isSome = true) :
    AddressFixed lowercase settings request addresses protos := by
  intro for₁ proto₁ for₂ proto₂
  cases trusted : trustedProxy lowercase settings request with
  | true =>
    rw [resolveClientIp_legible trusted (legible trusted),
      resolveClientIp_legible trusted (legible trusted)]
  | false =>
    simp only [Request.arriving,resolveClientIp_untrusted trusted]

theorem fallbackClientHost_again :
    fallbackClientHost { request with client := some (fallbackClientHost request) } =
      fallbackClientHost request := by
  have nonempty : fallbackClientHost request ≠ "" := by
    simp only [fallbackClientHost]
    split
    · split
      · decide
      next host filled => exact filled
    · decide
  rw [fallbackClientHost]
  simp only [if_neg nonempty]

/-- Who resolves the address again, after the middleware, gets one that the client does not choose
either. -/
theorem keyedClientIp_fixed
    (legible : trustedProxy lowercase settings request = true →
      ∀ entry ∈ addresses.entries, (IpAddresses.parse (strip entry)).isSome = true)
    (for₁ proto₁ for₂ proto₂ : Option String) :
    keyedClientIp lowercase settings (request.arriving addresses protos for₁ proto₁) =
      keyedClientIp lowercase settings (request.arriving addresses protos for₂ proto₂) := by
  have first : AddressFixed lowercase settings request addresses protos :=
    addressFixed_of_legible legible
  let resolved := resolveClientIp lowercase settings (request.arriving addresses protos for₁ proto₁)
  have second : AddressFixed lowercase settings { request with client := some resolved } addresses
      protos := by
    apply addressFixed_of_legible
    intro trusted
    cases peer : trustedProxy lowercase settings request with
    | true => exact legible peer
    | false =>
      have own : resolved = fallbackClientHost request := resolveClientIp_untrusted peer _ _
      rw [own] at trusted
      simp only [trustedProxy,fallbackClientHost_again] at trusted peer
      rw [peer] at trusted
      cases trusted
  have swap : ∀ headerFor headerProto scheme, resolveClientIp lowercase settings
      { request.arriving addresses protos headerFor headerProto with client := some resolved, scheme } =
      resolveClientIp lowercase settings (Request.arriving { request with client := some resolved }
        addresses protos headerFor headerProto) := fun _ _ _ => rfl
  have same : resolveClientIp lowercase settings (request.arriving addresses protos for₂ proto₂) =
      resolved := first for₂ proto₂ for₁ proto₁
  simp only [keyedClientIp,applyTrustedProxyHeaders,same]
  exact (swap for₁ proto₁ _).trans ((second for₁ proto₁ for₂ proto₂).trans (swap for₂ proto₂ _).symm)

theorem exists_otherAddress (fallback : String) : ∃ address, address ≠ fallback ∧
    addressText (strip address) = some address ∧ ',' ∉ address.toList := by
  by_cases first : fallback = "192.0.2.1"
  · exact ⟨"192.0.2.2",by rw [first]; decide,by decide,by decide⟩
  · exact ⟨"192.0.2.1",fun same => first same.symm,by decide,by decide⟩

theorem exists_otherScheme (fallback : String) : ∃ scheme, scheme ≠ fallback ∧
    scheme ∈ ["http","https"] := by
  by_cases first : fallback = "http"
  · exact ⟨"https",by rw [first]; decide,by decide⟩
  · exact ⟨"http",fun same => first same.symm,by decide⟩

/-- The client does not choose its address or scheme exactly when its peer may not forward or
every entry of the proxies is legible. -/
theorem notChosen_iff (lowercase : Lowercase) (settings : Settings) (request : Request)
    (addresses protos : TrustedSuffix settings) :
    NotChosen lowercase settings request addresses protos ↔
      (trustedProxy lowercase settings request = true → Legible addresses protos) := by
  constructor
  · intro notChosen trusted
    constructor
    · by_contra illegible
      obtain ⟨address,other,isAddress,single⟩ := exists_otherAddress (fallbackClientHost request)
      obtain ⟨own,chosen⟩ := @resolveClientIp_chosen lowercase settings request addresses protos
        trusted illegible none _ isAddress single
      have fixed := notChosen.address none none (forwarded none (copies settings address)) none
      rw [own,chosen] at fixed
      exact other fixed.symm
    · by_contra illegible
      obtain ⟨scheme,other,allowed⟩ := exists_otherScheme (ownScheme lowercase request)
      obtain ⟨own,chosen⟩ := @resolveRequestScheme_chosen lowercase settings request addresses
        protos trusted illegible none _ allowed
      have fixed := notChosen.scheme none none none (forwarded none (copies settings scheme))
      rw [own,chosen] at fixed
      exact other fixed.symm
  · intro legible
    have readable := fun trusted => (legible trusted).1
    refine ⟨addressFixed_of_legible readable,?_,?_,resolveClientIp_untrusted⟩
    · intro for₁ proto₁ for₂ proto₂
      cases trusted : trustedProxy lowercase settings request with
      | true =>
        rw [resolveRequestScheme_legible trusted (legible trusted).2,
          resolveRequestScheme_legible trusted (legible trusted).2]
      | false => simp only [Request.arriving,resolveRequestScheme_untrusted trusted]
    · intro for₁ proto₁ for₂ proto₂
      simp only [webhookOriginAllowed,keyedClientIp_fixed readable for₁ proto₁ for₂ proto₂]

def onePrivateProxy : Settings :=
  { trustProxyHeaders := .bool true, trustedProxyCidrs := .list ["10.0.0.0/8"] }

def withPort : TrustedSuffix onePrivateProxy :=
  { entries := ["203.0.113.9:5678"], hops := by decide, single := by decide }

def plainHttps : TrustedSuffix onePrivateProxy :=
  { entries := ["https"], hops := by decide, single := by decide }

/-- The client's own header counts in the place of the entry with the port. -/
theorem client_chooses_address :
    ¬NotChosen .asciiOnly onePrivateProxy { client := some "10.0.0.1" } withPort plainHttps := by
  intro notChosen
  have fixed := notChosen.address (some "192.0.2.1") none none none
  revert fixed
  decide

end Valdrics.ProxyHeaders
