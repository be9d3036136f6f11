import Irpc.XClient.WeightedSelect

/-! The selector that weighs the servers by how long a ping takes. It asks the pingers for their
statistics before they have sent anything. -/
namespace Irpc.XClient

open Irpc.Foundation Irpc.Protocol

/-- What the package for pings does: `newPinger` fails for a host that cannot be resolved, and
`avgRtt` is the average in the statistics of a new pinger. -/
structure Pings where
  newPinger : Bytes → Option GoError
  avgRtt : Bytes → Int64

namespace Pings

/-- No packet has been sent, and there is nothing to average. -/
def Unsent (pings : Pings) : Prop := ∀ host, pings.avgRtt host = 0

def Resolves (pings : Pings) (host : Bytes) : Prop := pings.newPinger host = none

instance (pings : Pings) (host : Bytes) : Decidable (pings.Resolves host) :=
  inferInstanceAs (Decidable (pings.newPinger host = none))

def ping (pings : Pings) (host : Bytes) : Int64 × Option GoError :=
  match pings.newPinger host with
  | some err => (1000, some err)
  | none => (pings.avgRtt host, none)

end Pings

def calculateWeight (rtt : Int64) : Int64 :=
  if 0 ≤ rtt ∧ rtt ≤ 10 then 191
  else if 10 < rtt ∧ rtt ≤ 200 then 201 - rtt
  else if 100 < rtt ∧ rtt < 1000 then 1
  else 0

def lastIndex (bytes : Bytes) (byte : UInt8) : Option Nat :=
  (bytes.reverse.findIdx? (· = byte)).map fun behind => bytes.length - 1 - behind

/-- `net.SplitHostPort`, with no result if it reports an error. -/
def splitHostPort (hostport : Bytes) : Option (Bytes × Bytes) := do
  let i ← lastIndex hostport 58
  let (host, j, k) ←
    if hostport.head? = some 91 then do
      let close ← hostport.findIdx? (· = 93)
      if close + 1 = i then some ((hostport.take close).drop 1, 1, close + 1) else none
    else if 58 ∈ hostport.take i then none
    else some (hostport.take i, 0, 0)
  if 91 ∈ hostport.drop j ∨ 93 ∈ hostport.drop k then none
  else some (host, hostport.drop (i + 1))

example : splitHostPort (utf8 "localhost:8972") = some (utf8 "localhost", utf8 "8972") := by decide
example : splitHostPort (utf8 "[::1]:8972") = some (utf8 "::1", utf8 "8972") := by decide
example : splitHostPort (utf8 "localhost") = none := by decide

/-- The host of a server, where a name without `@` panics. -/
def hostOf (k : Bytes) : Option Bytes :=
  (k.splitOn 64)[1]?.map fun address => ((splitHostPort address).map Prod.fst).getD []

/-- `createICMPWeighted`, with no result if it panics. -/
def createICMPWeighted (pings : Pings) (servers : IterationOrder) : Option (List (Option Weighted)) :=
  servers.keys.mapM fun k => (hostOf k).map fun host =>
    let rtt := calculateWeight (pings.ping host).1
    some ⟨k, rtt, 0, rtt⟩

def Weightless (servers : List (Option Weighted)) : Prop :=
  ∀ w, w ∈ servers → ∃ name, w = some ⟨name, 0, 0, 0⟩

theorem run_of_weightless {servers : List (Option Weighted)} (weightless : Weightless servers) (i : Nat) :
    Scan.run i ⟨0, some (0, 0)⟩ servers = ⟨0, some (0, 0)⟩ := by
  induction servers generalizing i with
  | nil => rfl
  | cons w rest ih =>
    obtain ⟨name, rfl⟩ := weightless w List.mem_cons_self
    exact ih (fun v member => weightless v (List.mem_cons_of_mem _ member)) (i + 1)

/-- The first one is chosen, and nothing changes. -/
theorem nextWeighted_of_weightless {servers : List (Option Weighted)} (weightless : Weightless servers)
    (filled : servers ≠ []) : nextWeighted servers = (some 0, servers) := by
  cases servers with
  | nil => exact absurd rfl filled
  | cons w rest =>
    obtain ⟨name, rfl⟩ := weightless w List.mem_cons_self
    have later : Weightless rest := fun v member => weightless v (List.mem_cons_of_mem _ member)
    have scanned : Scan.run 0 ⟨0, none⟩ (some ⟨name, 0, 0, 0⟩ :: rest) = ⟨0, some (0, 0)⟩ :=
      run_of_weightless later 1
    have bumped : rest.map (Option.map Weighted.bump) = rest := by
      nth_rewrite 2 [← List.map_id rest]
      refine List.map_congr_left fun v member => ?_
      obtain ⟨other, rfl⟩ := later v member
      rfl
    rw [nextWeighted, scanned, List.map_cons, bumped]
    simp [Weighted.bump, Weighted.pay]

theorem afterCalls_of_weightless {servers : List (Option Weighted)} (weightless : Weightless servers)
    (filled : servers ≠ []) (calls : Nat) : afterCalls servers calls = servers := by
  induction calls with
  | zero => rfl
  | succ calls ih => rw [afterCalls, ih, nextWeighted_of_weightless weightless filled]

section Even

variable {pings : Pings} {order : IterationOrder} {servers : List (Option Weighted)}

def HostFound (pings : Pings) (k : Bytes) : Prop := ∃ host ∈ hostOf k, pings.Resolves host

instance (pings : Pings) (k : Bytes) : Decidable (HostFound pings k) :=
  decidable_of_iff ((hostOf k).any (fun host => pings.Resolves host)) (by simp [HostFound, Option.any_eq_true])

/-- The weights come to this. -/
def evenWeight (pings : Pings) (k : Bytes) : Int64 := if HostFound pings k then 191 else 0

/-- The servers as they are created, with the weights they come to. -/
def evenServers (pings : Pings) (order : IterationOrder) : List (Option Weighted) :=
  order.keys.map fun k => some ⟨k, evenWeight pings k, 0, evenWeight pings k⟩

theorem calculateWeight_ping (unsent : pings.Unsent) (named : hostOf k = some host) :
    calculateWeight (pings.ping host).1 = evenWeight pings k := by
  unfold Pings.ping evenWeight
  cases made : pings.newPinger host with
  | some err =>
    have lost : ¬ HostFound pings k := by simp [HostFound, named, Pings.Resolves, made]
    have weight : calculateWeight 1000 = 0 := by decide
    rw [if_neg lost]
    exact weight
  | none =>
    have found : HostFound pings k := ⟨host, named, made⟩
    have weight : calculateWeight 0 = 191 := by decide
    rw [if_pos found]
    dsimp only
    rw [unsent host, weight]

/-- Whatever the servers are, they differ in nothing but whether they are found. -/
theorem createICMPWeighted_eq (unsent : pings.Unsent) (created : createICMPWeighted pings order = some servers) :
    servers = evenServers pings order := by
  unfold createICMPWeighted at created
  unfold evenServers
  generalize order.keys = keys at created ⊢
  induction keys generalizing servers with
  | nil =>
    cases created
    rfl
  | cons k rest ih =>
    rw [List.mapM_cons] at created
    obtain ⟨first, weighed, created⟩ := Option.bind_eq_some_iff.mp created
    obtain ⟨others, later, same⟩ := Option.bind_eq_some_iff.mp created
    obtain ⟨host, named, rfl⟩ := Option.map_eq_some_iff.mp weighed
    cases same
    rw [List.map_cons, ← ih later, calculateWeight_ping unsent named]

def foundNames (pings : Pings) (order : IterationOrder) : List Bytes := order.keys.filter fun k => HostFound pings k

theorem entry_evenServers (pings : Pings) (order : IterationOrder) (i : Nat) :
    entry (evenServers pings order) i =
      order.keys[i]?.map fun k => ⟨k, evenWeight pings k, 0, evenWeight pings k⟩ := by
  rw [entry, evenServers, List.getElem?_map]
  cases order.keys[i]? <;> rfl

theorem mem_evenServers (member : some w ∈ evenServers pings order) :
    ∃ k ∈ order.keys, w = ⟨k, evenWeight pings k, 0, evenWeight pings k⟩ := by
  obtain ⟨k, listed, same⟩ := List.mem_map.mp member
  exact ⟨k, listed, (Option.some.inj same).symm⟩

theorem toInt_evenWeight (pings : Pings) (k : Bytes) :
    (evenWeight pings k).toInt = if HostFound pings k then 191 else 0 := by
  unfold evenWeight
  split
  · rfl
  · rfl

theorem fresh_evenServers (pings : Pings) (order : IterationOrder) : Fresh (evenServers pings order) where
  steady w member := by
    obtain ⟨k, -, rfl⟩ := mem_evenServers member
    rfl
  nonneg w member := by
    obtain ⟨k, -, rfl⟩ := mem_evenServers member
    dsimp only
    rw [Int64.le_iff_toInt_le, toInt_evenWeight]
    split
    · decide
    · decide
  unused w member := by
    obtain ⟨k, -, rfl⟩ := mem_evenServers member
    rfl

theorem totalWeight_evenServers (pings : Pings) (order : IterationOrder) :
    totalWeight (evenServers pings order) = 191 * (foundNames pings order).length := by
  have sum := sum_map_eq (·.weight.toInt) (evenServers pings order)
  unfold totalWeight weightAt
  rw [← sum, evenServers, List.map_map, foundNames]
  generalize order.keys = keys
  induction keys with
  | nil => rfl
  | cons k rest ih =>
    rw [List.map_cons, List.sum_cons, ih, List.filter_cons]
    simp only [Function.comp_apply, Option.map_some, Option.getD_some, toInt_evenWeight, decide_eq_true_eq]
    split
    · rw [List.length_cons]
      push_cast
      ring
    · ring

theorem weightAt_evenServers (listed : order.keys[i]? = some name) :
    weightAt (evenServers pings order) i = if HostFound pings name then 191 else 0 := by
  rw [weightAt, entry_evenServers, listed, Option.map_some, Option.map_some, Option.getD_some, toInt_evenWeight]

theorem mem_parties_evenServers :
    i ∈ parties (evenServers pings order) ↔ ∃ name, order.keys[i]? = some name := by
  simp [mem_parties, entry_evenServers]

theorem nameAt_evenServers (pings : Pings) (order : IterationOrder) (i : Nat) :
    nameAt (evenServers pings order) i = order.keys[i]? := by
  rw [nameAt, entry_evenServers, Option.map_map]
  exact Option.map_id' ..

/-- The names are different, and so a name is selected as often as its index is chosen. -/
theorem selectedAt_eq_iff (chosen : ∀ calls, chosenAt (evenServers pings order) calls ≠ none)
    (listed : order.keys[i]? = some name) (calls : Nat) :
    selectedAt (evenServers pings order) calls = name ↔ chosenAt (evenServers pings order) calls = some i := by
  have filled : evenServers pings order ≠ [] := by
    rintro empty
    have none : order.keys = [] := List.map_eq_nil_iff.mp empty
    simp [none] at listed
  obtain ⟨j, found⟩ := Option.ne_none_iff_exists'.mp (chosen calls)
  obtain ⟨other, held⟩ := mem_parties_evenServers.mp
    (parties_afterCalls (evenServers pings order) calls ▸ mem_parties_of_chosen found)
  rw [selectedAt_eq filled, found, Option.bind_some, nameAt_evenServers, held, Option.getD_some, Option.some.injEq]
  constructor
  · rintro rfl
    have inside : j < order.keys.length := (List.getElem?_eq_some_iff.mp held).1
    exact (List.getElem?_inj inside (AList.keys_nodup order)).mp (held.trans listed.symm)
  · rintro rfl
    exact Option.some.inj (held.symm.trans listed)

section Positive

variable (someone : foundNames pings order ≠ [])
  (small : order.keys.length * (191 * (foundNames pings order).length) < 2 ^ 63)

include someone in
theorem totalWeight_evenServers_pos : 0 < totalWeight (evenServers pings order) := by
  have present := List.length_pos_iff.mpr someone
  rw [totalWeight_evenServers]
  omega

include someone small in
theorem turns_evenServers (calls : Nat) :
    Turns (parties (evenServers pings order)) (weightAt (evenServers pings order)) calls
      (fun call => currentAt (afterCalls (evenServers pings order) call)) (chosenAt (evenServers pings order)) := by
  have fresh := fresh_evenServers pings order
  have positive := totalWeight_evenServers_pos someone
  refine fresh.steady.turns fresh.unused (present_of_pos positive) fun call _ => ?_
  refine fresh.exact_of_small positive ?_ call
  rw [totalWeight_evenServers, evenServers, List.length_map]
  exact_mod_cast small

include someone small in
/-- Each server that is found has its turn once in a round. -/
theorem timesChosen_evenServers (rounds : Nat) (listed : order.keys[i]? = some name) :
    timesChosen (chosenAt (evenServers pings order)) i (rounds * (foundNames pings order).length) =
      if HostFound pings name then rounds else 0 := by
  have fresh := fresh_evenServers pings order
  have run := turns_evenServers someone small (rounds * (foundNames pings order).length)
  have sum : ∑ party ∈ parties (evenServers pings order), weightAt (evenServers pings order) party =
      191 * (foundNames pings order).length := totalWeight_evenServers pings order
  have even : ∀ other ∈ parties (evenServers pings order),
      ((rounds * (foundNames pings order).length : Nat) : Int) * weightAt (evenServers pings order) other =
        (rounds * (weightAt (evenServers pings order) other / 191)) *
          ∑ party ∈ parties (evenServers pings order), weightAt (evenServers pings order) party := by
    intro other member
    obtain ⟨name, listed⟩ := mem_parties_evenServers.mp member
    rw [sum, weightAt_evenServers listed]
    push_cast
    split
    · norm_num
      ring
    · norm_num
  have nonneg : ∀ i ∈ parties (evenServers pings order), 0 ≤ weightAt (evenServers pings order) i :=
    fun i => fresh.weightAt_nonneg
  have positive := totalWeight_evenServers_pos someone
  have times := run.timesChosen_eq_share nonneg positive even (mem_parties_evenServers.mpr ⟨name, listed⟩)
  rw [weightAt_evenServers listed] at times
  split at times
  case isTrue found =>
    rw [if_pos found]
    norm_num at times
    exact times
  case isFalse lost =>
    rw [if_neg lost]
    norm_num at times
    exact times

end Positive

theorem weightless_evenServers (nobody : foundNames pings order = []) : Weightless (evenServers pings order) := by
  intro w member
  obtain ⟨k, listed, rfl⟩ := List.mem_map.mp member
  have lost : ¬ HostFound pings k := by simpa using List.filter_eq_nil_iff.mp nobody k listed
  exact ⟨k, by rw [evenWeight, if_neg lost]⟩

/-- The pings have no influence but on which servers are selected at all: from a selector's
creation, or an update of its servers, each server whose host is found is selected once in
each round, and the others never. If none is found, the first one gets all the calls. -/
theorem icmp_takes_turns (unsent : pings.Unsent) (created : createICMPWeighted pings order = some servers)
    (small : order.keys.length * (191 * (foundNames pings order).length) < 2 ^ 63) :
    (foundNames pings order ≠ [] → ∀ rounds, ∀ name ∈ order.keys,
      Nat.count (fun call => selectedAt servers call = name) (rounds * (foundNames pings order).length) =
        if HostFound pings name then rounds else 0) ∧
    (foundNames pings order = [] → ∀ call, selectedAt servers call = order.keys.headD []) := by
  obtain rfl : servers = evenServers pings order := createICMPWeighted_eq unsent created
  refine ⟨fun someone rounds name member => ?_, fun nobody call => ?_⟩
  · obtain ⟨i, listed⟩ := List.mem_iff_getElem?.mp member
    have chosen : ∀ calls, chosenAt (evenServers pings order) calls ≠ none := by
      intro calls
      obtain ⟨party, found, -⟩ := (turns_evenServers someone small (calls + 1)).turn calls (Nat.lt_succ_self calls)
      simp [found]
    rw [← timesChosen_evenServers someone small rounds listed, timesChosen]
    simp only [selectedAt_eq_iff chosen listed]
  · cases listed : order.keys with
    | nil =>
      have empty : evenServers pings order = [] := by rw [evenServers, listed, List.map_nil]
      have none : (afterCalls (evenServers pings order) call).length = 0 := by
        rw [length_afterCalls, empty, List.length_nil]
      rw [selectedAt, selectWeighted, if_pos none]
      rfl
    | cons first rest =>
      have filled : evenServers pings order ≠ [] := by simp [evenServers, listed]
      have weightless := weightless_evenServers nobody
      rw [selectedAt_eq filled, chosenAt, afterCalls_of_weightless weightless filled,
        nextWeighted_of_weightless weightless filled, Option.bind_some, nameAt_evenServers, listed]
      rfl

def samplePings : Pings where
  newPinger host := if host = utf8 "c" then some .eof else none
  avgRtt _ := 0

def pingedServers : IterationOrder :=
  ((AList.singleton (utf8 "tcp@c:1") []).insert (utf8 "tcp@b:1") []).insert (utf8 "tcp@a:1") []

theorem icmp_takes_turns_pinged :
    ∃ servers, createICMPWeighted samplePings pingedServers = some servers ∧
      Nat.count (fun call => selectedAt servers call = utf8 "tcp@a:1") (3 * 2) = 3 ∧
      Nat.count (fun call => selectedAt servers call = utf8 "tcp@c:1") (3 * 2) = 0 := by
  obtain ⟨servers, created⟩ : ∃ servers, createICMPWeighted samplePings pingedServers = some servers :=
    Option.isSome_iff_exists.mp (by decide +kernel)
  have names : pingedServers.keys = [utf8 "tcp@a:1", utf8 "tcp@b:1", utf8 "tcp@c:1"] := by decide +kernel
  have found : foundNames samplePings pingedServers = [utf8 "tcp@a:1", utf8 "tcp@b:1"] := by decide +kernel
  obtain ⟨turns, -⟩ := icmp_takes_turns (fun _ => rfl) created (by rw [names, found]; decide)
  rw [names, found] at turns
  have three := turns (List.cons_ne_nil _ _) 3
  have first := three (utf8 "tcp@a:1") (by simp)
  have last := three (utf8 "tcp@c:1") (by simp)
  rw [if_pos (by decide +kernel)] at first
  rw [if_neg (by decide +kernel)] at last
  exact ⟨servers, created, first, last⟩

end Even

end Irpc.XClient
