import Mathlib.Data.List.TakeWhile
import Reconciler.Proofs.Listing

/-!
# The version that compute requests name

Compute requests name a version and a generation in their queries.  The addresses that the client
puts together do; where a listing goes on is up to the provider.
-/

namespace Reconciler.Http

/-- The query of an address: what stands between its first question mark and its fragment. -/
def query (address : String) : List Char :=
  ((address.toList.takeWhile (· != '#')).dropWhile (· != '?')).drop 1

/-- The fields of an address's query. -/
def queryFields (address : String) : List String :=
  ((query address).splitOn '&').map String.ofList

/-- An address with neither a query nor a fragment. -/
def Plain (address : String) : Prop := '?' ∉ address.toList ∧ '#' ∉ address.toList

instance (address : String) : Decidable (Plain address) := by unfold Plain; infer_instance

/-- An address below a base whose query names the version and the generation. -/
structure Versioned (base address : String) : Prop where
  below : base.toList ++ ['/'] <+: address.toList
  version : "version=" ++ apiVersion ∈ queryFields address
  generation : "generation=2" ∈ queryFields address

theorem versioned_iff {base address : String} :
    Versioned base address ↔ base.toList ++ ['/'] <+: address.toList ∧
      "version=" ++ apiVersion ∈ queryFields address ∧ "generation=2" ∈ queryFields address :=
  ⟨fun ⟨hbelow, hversion, hgeneration⟩ => ⟨hbelow, hversion, hgeneration⟩,
    fun ⟨hbelow, hversion, hgeneration⟩ => ⟨hbelow, hversion, hgeneration⟩⟩

instance (base address : String) : Decidable (Versioned base address) :=
  decidable_of_iff' _ versioned_iff

theorem query_eq {address : String} {front back : List Char}
    (haddress : address.toList = front ++ '?' :: back) (hfront : '?' ∉ front)
    (hfragment : '#' ∉ address.toList) : query address = back := by
  have hwhole : address.toList.takeWhile (· != '#') = address.toList :=
    List.takeWhile_eq_self_iff.mpr fun c hc => by grind
  have hdrop : (front ++ '?' :: back).dropWhile (· != '?') = '?' :: back :=
    List.dropWhile_append_of_pos fun c hc => by grind
  rw [query, hwhole, haddress, hdrop, List.drop_one, List.tail_cons]

/-- The fields that end every query. -/
def versionFields : List Char := ("version=" ++ apiVersion ++ "&generation=2").toList

theorem splitOn_versionFields :
    versionFields.splitOn '&' = [("version=" ++ apiVersion).toList, "generation=2".toList] := by
  decide +kernel

theorem toList_versioned (base path : String) :
    (versioned base path).toList =
      base.toList ++ path.toList ++ (if '?' ∈ path.toList then '&' else '?') :: versionFields := by
  unfold versioned versionFields
  rw [String.contains_char_eq]
  split <;> simp_all

/-- Whatever else the query of an address holds, it ends with the version and the generation. -/
theorem queryFields_versioned {base path : String} (hbase : Plain base)
    (hpath : '#' ∉ path.toList) :
    ∃ given, queryFields (versioned base path) =
      given ++ ["version=" ++ apiVersion, "generation=2"] := by
  obtain ⟨hquery, hfragment⟩ := hbase
  have hwritten := toList_versioned base path
  have hwhole : '#' ∉ (versioned base path).toList := by
    rw [hwritten]
    have hend : '#' ∉ versionFields := by decide +kernel
    split <;> simp_all
  by_cases hmark : '?' ∈ path.toList
  · obtain ⟨front, back, hsplit, hfront⟩ := List.eq_append_cons_of_mem hmark
    have hparts : (versioned base path).toList =
        (base.toList ++ front) ++ '?' :: (back ++ '&' :: versionFields) := by
      rw [hwritten, if_pos hmark, hsplit]
      simp only [List.append_assoc, List.cons_append]
    have hplain : '?' ∉ base.toList ++ front := by simp [hquery, hfront]
    refine ⟨(back.splitOn '&').map String.ofList, ?_⟩
    rw [queryFields, query_eq hparts hplain hwhole, List.splitOn_append_cons_self,
      splitOn_versionFields, List.map_append]
    simp only [List.map_cons, List.map_nil, String.ofList_toList]
  · rw [if_neg hmark] at hwritten
    have hplain : '?' ∉ base.toList ++ path.toList := by simp [hquery, hmark]
    refine ⟨[], ?_⟩
    rw [queryFields, query_eq hwritten hplain hwhole, splitOn_versionFields]
    simp only [List.map_cons, List.map_nil, String.ofList_toList, List.nil_append]

/-- The addresses that the client puts together name the version. -/
theorem versioned_versioned {base path : String} (hbase : Plain base)
    (hroot : path.toList.head? = some '/') (hpath : '#' ∉ path.toList) :
    Versioned base (versioned base path) := by
  obtain ⟨given, hfields⟩ := queryFields_versioned hbase hpath
  obtain ⟨rest, hrest⟩ := List.head?_eq_some_iff.mp hroot
  refine ⟨?_, by simp [hfields], by simp [hfields]⟩
  rw [toList_versioned, hrest]
  exact ⟨_, by simp only [List.append_assoc, List.cons_append, List.nil_append]; rfl⟩

end Reconciler.Http

namespace Reconciler

open Http

namespace VpcCall

/-- The words given to a call that stand in the addresses of its requests. -/
def words : VpcCall → List String
  | .getInstance id => [id]
  | .getInstanceByName name => [name]
  | .createInstance prototype => prototype.imageName.toList
  | .deleteInstance id => [id]
  | .tagResource .. => []
  | .getLoadBalancer id => [id]
  | .getLoadBalancerByName _ => []
  | .listMembers loadBalancer pool => [loadBalancer, pool]
  | .createMember loadBalancer pool .. => [loadBalancer, pool]
  | .deleteMember loadBalancer pool member => [loadBalancer, pool, member]

/-- The links of the provider that a call went on to. -/
def links (sent : List Dispatch) : VpcCall → List String
  | .getLoadBalancerByName _ => sent.dropLast.filterMap Dispatch.next?
  | _ => []

end VpcCall

namespace Http

open Account VpcCall

variable {provider : Provider} {pages : Nat} {region : Option String}

/-- All calls but the look-up in a listing put the addresses of their requests together. -/
theorem vpc_maintains_sentTo (hbase : Plain (provider.vpcBase region)) {call : VpcCall}
    (hwords : ∀ word ∈ call.words, '#' ∉ word.toList)
    (htag : ∀ tag crn, call ≠ .tagResource tag crn)
    (hlookup : ∀ name, call ≠ .getLoadBalancerByName name) :
    (provider.vpc pages region call).Maintains dispatching
      (SentTo (Versioned (provider.vpcBase region))) := by
  have hpath {path : String} (hroot : path.toList.head? = some '/') (hpath : '#' ∉ path.toList) :
      provider.MaintainsAt dispatching (SentTo (Versioned (provider.vpcBase region)))
        (versioned (provider.vpcBase region) path) :=
    maintainsAt_sentTo (versioned_versioned hbase hroot hpath)
  have hmembers (loadBalancer pool : String) (hloadBalancer : '#' ∉ loadBalancer.toList)
      (hpool : '#' ∉ pool.toList) :
      '#' ∉ ("/load_balancers/" ++ loadBalancer ++ "/pools/" ++ pool ++ "/members").toList := by
    simp [hloadBalancer, hpool]
  cases call with
  | getInstance id => exact find_maintains (hpath (by simp) (by simpa [words] using hwords))
  | getInstanceByName name =>
      refine (get_maintains (hpath (by simp) ?_)).bind fun _ => .ofExcept (.ok _)
      simpa [words] using hwords
  | createInstance prototype =>
      refine (prototypeImage_maintains fun name hname => hpath (by simp) ?_).bind fun image => ?_
      · simpa [words, hname] using hwords
      · exact post_maintains (hpath rfl (by decide))
  | deleteInstance id => exact delete_maintains (hpath (by simp) (by simpa [words] using hwords))
  | tagResource tag crn => exact absurd rfl (htag tag crn)
  | getLoadBalancer id => exact find_maintains (hpath (by simp) (by simpa [words] using hwords))
  | getLoadBalancerByName name => exact absurd rfl (hlookup name)
  | listMembers loadBalancer pool =>
      simp only [words, List.forall_mem_cons] at hwords
      exact get_maintains (hpath (by simp) (hmembers _ _ hwords.1 hwords.2.1))
  | createMember loadBalancer pool address port weight =>
      simp only [words, List.forall_mem_cons] at hwords
      exact post_maintains (hpath (by simp) (hmembers _ _ hwords.1 hwords.2.1))
  | deleteMember loadBalancer pool member =>
      simp only [words, List.forall_mem_cons] at hwords
      refine delete_maintains (hpath (by simp) ?_)
      simpa [hwords.2.2.1] using hmembers loadBalancer pool hwords.1 hwords.2.1

/-- Every compute request goes below the client's base address and names its version exactly when
the links that the provider gives for further pages of a listing do. -/
theorem requests_versioned_iff (hbase : Plain (provider.vpcBase region)) (call : VpcCall)
    (hwords : ∀ word ∈ call.words, '#' ∉ word.toList)
    (htag : ∀ tag crn, call ≠ .tagResource tag crn) (token : Option Token) {W : Type}
    (answer : (question : Question) → W → Outcome question.Answer × W) (world : W) :
    let sent := dispatches
      ((provider.vpc pages region call token).exchanges (I := network) answer world)
    (∀ dispatch ∈ sent, Versioned (provider.vpcBase region) dispatch.url) ↔
      ∀ link ∈ call.links sent, Versioned (provider.vpcBase region) link := by
  intro sent
  by_cases hlookup : ∃ name, call = .getLoadBalancerByName name
  · obtain ⟨name, rfl⟩ := hlookup
    obtain ⟨trail, hfollows, hsent⟩ : ∃ trail, Follows _ trail ∧ sent = [] ++ trail :=
      ensures_dispatches (Account.findLoadBalancer_follows name pages _ token []) answer world
    have hfirst : Versioned (provider.vpcBase region)
        (versioned (provider.vpcBase region) "/load_balancers?limit=50") :=
      versioned_versioned hbase rfl (by decide)
    rw [hsent, List.nil_append]
    rcases eq_or_ne trail [] with rfl | htrail
    · exact ⟨fun _ _ hlink => absurd hlink List.not_mem_nil,
        fun _ _ hdispatch => absurd hdispatch List.not_mem_nil⟩
    · rw [← List.forall_mem_map (f := Dispatch.url), hfollows.urls htrail, List.forall_mem_cons]
      exact and_iff_right hfirst
  · have hmaintains : (provider.vpc pages region call).Maintains dispatching _ :=
      vpc_maintains_sentTo hbase hwords htag fun name hname => hlookup ⟨name, hname⟩
    have hsent : ∀ dispatch ∈ sent, Versioned (provider.vpcBase region) dispatch.url :=
      ensures_dispatches (hmaintains token [] fun _ hdispatch => absurd hdispatch List.not_mem_nil)
        answer world
    refine iff_of_true hsent fun link hlink => ?_
    cases call with
    | getLoadBalancerByName name => exact absurd ⟨name, rfl⟩ hlookup
    | _ => exact absurd hlink List.not_mem_nil

/-- A world in which requests succeed with these bodies, one after the other. -/
def scripted : (question : Question) → List String → Outcome question.Answer × List String
  | .now, bodies => (.returned 0, bodies)
  | .later seconds, bodies => (.returned (seconds * 1000), bodies)
  | .send _, body :: bodies => (.returned (some ⟨200, body⟩), bodies)
  | .send _, [] => (.expired, [])

def usSouth : Provider where
  identityEndpoint := "https://iam.cloud.ibm.com"
  apiKey := some "key"
  vpcRegion := "us-south"
  powerVsRegion := "us-south"

/-- The requests of a look-up in a listing of two pages, of which the first names the second one. -/
def lookups (link : String) : List Dispatch :=
  dispatches ((usSouth.vpc 5 none (.getLoadBalancerByName "web") none).exchanges (I := network)
    scripted
    ["\x7b\"access_token\": \"token\", \"expires_in\": 3600\x7d",
      "\x7b\"load_balancers\": [], \"next\": \x7b\"href\": \"" ++ link ++ "\"\x7d\x7d",
      "\x7b\"load_balancers\": []\x7d"])

theorem requests_versioned_with_link :
    let base := "https://us-south.iaas.cloud.ibm.com/v1"
    let link := base ++ "/load_balancers?start=abc&version=2024-11-12&generation=2"
    Plain (usSouth.vpcBase none) ∧ Versioned base link ∧
      VpcCall.links (lookups link) (.getLoadBalancerByName "web") = [link] ∧
      ∀ dispatch ∈ lookups link, Versioned base dispatch.url := by
  intro base link
  have hplain : Plain (usSouth.vpcBase none) := by decide +kernel
  have hlink : Versioned base link := by decide +kernel
  have hlinks : VpcCall.links (lookups link) (.getLoadBalancerByName "web") = [link] := by
    decide +kernel
  refine ⟨hplain, hlink, hlinks, ?_⟩
  refine (requests_versioned_iff hplain (.getLoadBalancerByName "web")
    (fun _ hword => absurd hword List.not_mem_nil) nofun none scripted _).mpr ?_
  intro next hnext
  rw [show next = link from List.mem_singleton.mp (hlinks ▸ hnext)]
  exact hlink

/-- A link that says nothing of the version is followed as it is. -/
theorem link_without_version_followed :
    let base := "https://us-south.iaas.cloud.ibm.com/v1"
    let link := base ++ "/load_balancers?start=abc&limit=50"
    (lookups link)[1]?.map Dispatch.url = some link ∧
      ¬∀ dispatch ∈ lookups link, Versioned base dispatch.url := by
  intro base link
  have hsecond : (lookups link)[1]?.map Dispatch.url = some link := by decide +kernel
  refine ⟨hsecond, fun hversioned => ?_⟩
  obtain ⟨dispatch, hdispatch, hurl⟩ := Option.map_eq_some_iff.mp hsecond
  have hlink : ¬Versioned base link := by decide +kernel
  exact hlink (hurl ▸ hversioned dispatch (List.mem_of_getElem? hdispatch))

end Http

end Reconciler
