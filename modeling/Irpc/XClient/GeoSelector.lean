import Irpc.Protocol.Message
import Irpc.XClient.WeightedRoundRobin
import Mathlib

/-! The selector that takes the closest server. The coordinates come from the metadata of the
servers and need not be numbers, and a distance that is not a number compares with no other. -/
namespace Irpc.XClient

open Irpc.Foundation Irpc.Protocol

/-- What the selector uses of the floating-point numbers. A distance that is not a number is
no distance. -/
structure Geometry (Coordinate Distance : Type) where
  parseFloat : Bytes → Option Coordinate
  getDistanceFrom : (latitude longitude otherLatitude otherLongitude : Coordinate) → Option Distance
  maxFloat64 : Distance

structure GeoServer (Coordinate : Type) where
  server : Bytes
  latitude : Coordinate
  longitude : Coordinate

structure GeoSelector (Coordinate : Type) where
  servers : List (GeoServer Coordinate)
  latitude : Coordinate
  longitude : Coordinate

/-- The servers with the least distance the loop of `Select` has found, and that distance. -/
structure Candidates (Distance : Type) where
  server : List Bytes
  min : Distance

variable {Coordinate Distance : Type} (geometry : Geometry Coordinate Distance)

def createGeoServerTurn (s metadata : Bytes) : Option (GeoServer Coordinate) := do
  let v ← parseQuery metadata
  let latStr := valuesGet v (utf8 "latitude")
  let lonStr := valuesGet v (utf8 "longitude")
  if latStr = [] ∨ lonStr = [] then none
  else
    let lat ← geometry.parseFloat latStr
    let lon ← geometry.parseFloat lonStr
    some ⟨s, lat, lon⟩

def createGeoServer (servers : IterationOrder) : List (GeoServer Coordinate) :=
  servers.entries.filterMap fun entry => createGeoServerTurn geometry entry.1 entry.2

def newGeoSelector (servers : IterationOrder) (latitude longitude : Coordinate) : GeoSelector Coordinate :=
  ⟨createGeoServer geometry servers, latitude, longitude⟩

/-- `Intn`, which panics unless its bound is positive. -/
def intn (draw bound : Nat) : Option Nat := if bound = 0 then none else some (draw % bound)

namespace GeoSelector

def updateServer (selector : GeoSelector Coordinate) (servers : IterationOrder) : GeoSelector Coordinate :=
  { selector with servers := createGeoServer geometry servers }

theorem updateServer_eq (selector : GeoSelector Coordinate) (servers : IterationOrder) :
    selector.updateServer geometry servers = newGeoSelector geometry servers selector.latitude selector.longitude :=
  rfl

def distance (selector : GeoSelector Coordinate) (gs : GeoServer Coordinate) : Option Distance :=
  geometry.getDistanceFrom selector.latitude selector.longitude gs.latitude gs.longitude

end GeoSelector

def Locates (geometry : Geometry Coordinate Distance) (metadata : Bytes) (latitude longitude : Coordinate) : Prop :=
  ∃ values, parseQuery metadata = some values ∧
    valuesGet values (utf8 "latitude") ≠ [] ∧ valuesGet values (utf8 "longitude") ≠ [] ∧
    geometry.parseFloat (valuesGet values (utf8 "latitude")) = some latitude ∧
    geometry.parseFloat (valuesGet values (utf8 "longitude")) = some longitude

theorem createGeoServerTurn_eq_some_iff {gs : GeoServer Coordinate} :
    createGeoServerTurn geometry s metadata = some gs ↔
      gs.server = s ∧ Locates geometry metadata gs.latitude gs.longitude := by
  cases parsed : parseQuery metadata with
  | none => simp [createGeoServerTurn, Locates, parsed]
  | some v =>
    simp only [createGeoServerTurn, Locates, parsed, Option.bind_eq_bind, Option.bind_some, Option.some.injEq,
      exists_eq_left']
    split
    · rename_i missing
      refine ⟨nofun, fun ⟨_, given, alsoGiven, _⟩ => ?_⟩
      exact absurd missing (not_or.mpr ⟨given, alsoGiven⟩)
    · rename_i given
      simp only [Option.bind_eq_some_iff]
      constructor
      · rintro ⟨lat, latitude, lon, longitude, same⟩
        cases Option.some.inj same
        exact ⟨rfl, (not_or.mp given).1, (not_or.mp given).2, latitude, longitude⟩
      · rintro ⟨rfl, -, -, latitude, longitude⟩
        exact ⟨_, latitude, _, longitude, rfl⟩

/-- A server of the map has coordinates, and this is its distance. -/
def Away (geometry : Geometry Coordinate Distance) (servers : IterationOrder) (latitude longitude : Coordinate)
    (name : Bytes) (distance : Option Distance) : Prop :=
  ∃ metadata otherLatitude otherLongitude, servers.lookup name = some metadata ∧
    Locates geometry metadata otherLatitude otherLongitude ∧
    geometry.getDistanceFrom latitude longitude otherLatitude otherLongitude = distance

variable {servers : IterationOrder} {latitude longitude : Coordinate}

theorem away_iff {name : Bytes} {distance : Option Distance} :
    Away geometry servers latitude longitude name distance ↔
      ∃ gs ∈ createGeoServer geometry servers, gs.server = name ∧
        (newGeoSelector geometry servers latitude longitude).distance geometry gs = distance := by
  simp only [createGeoServer, List.mem_filterMap, createGeoServerTurn_eq_some_iff]
  constructor
  · rintro ⟨metadata, lat, lon, stored, located, measured⟩
    exact ⟨⟨name, lat, lon⟩, ⟨⟨name, metadata⟩, AList.mem_lookup_iff.mp stored, rfl, located⟩, rfl, measured⟩
  · rintro ⟨gs, ⟨entry, listed, named, located⟩, rfl, measured⟩
    refine ⟨entry.2, gs.latitude, gs.longitude, ?_, located, measured⟩
    rw [named]
    exact AList.mem_lookup_iff.mpr listed

theorem newGeoSelector_eq_nil_iff :
    (newGeoSelector geometry servers latitude longitude).servers = [] ↔
      ∀ name distance, ¬ Away geometry servers latitude longitude name distance := by
  rw [List.eq_nil_iff_forall_not_mem]
  constructor
  · rintro empty name distance away
    obtain ⟨gs, member, -⟩ := (away_iff geometry).mp away
    exact empty gs member
  · intro nobody gs member
    exact nobody gs.server _ ((away_iff geometry).mpr ⟨gs, member, rfl, rfl⟩)

section Ordered

variable [LinearOrder Distance]

/-- One turn of the loop of `Select`. Neither comparison holds of a distance that is not a
number. -/
def Candidates.visit (candidates : Candidates Distance) (d : Option Distance) (s : Bytes) : Candidates Distance :=
  match d with
  | none => candidates
  | some d =>
    if d < candidates.min then ⟨[s], d⟩
    else if d = candidates.min then { candidates with server := candidates.server ++ [s] }
    else candidates

namespace GeoSelector

def scan (selector : GeoSelector Coordinate) : Candidates Distance :=
  selector.servers.foldl (fun candidates gs => candidates.visit (selector.distance geometry gs) gs.server)
    ⟨[], geometry.maxFloat64⟩

/-- `Select`, with what the source of random numbers has drawn. It has no result if it
panics. -/
def select (selector : GeoSelector Coordinate) (draw : Nat) : Option Bytes :=
  if selector.servers.length = 0 then some []
  else
    let server := (selector.scan geometry).server
    if server.length = 1 then server[0]? else (intn draw server.length).bind (server[·]?)

end GeoSelector

/-- What the loop has found once it has seen these servers. -/
structure Candidates.Found (distance : GeoServer Coordinate → Option Distance) (highest : Distance)
    (seen : List (GeoServer Coordinate)) (candidates : Candidates Distance) : Prop where
  bounded : candidates.min ≤ highest
  least : ∀ gs ∈ seen, ∀ d, distance gs = some d → candidates.min ≤ d
  server : candidates.server = (seen.filter fun gs => distance gs = some candidates.min).map GeoServer.server
  untouched : candidates.server = [] → candidates.min = highest

namespace Candidates

variable {distance : GeoServer Coordinate → Option Distance} {highest : Distance}
  {seen : List (GeoServer Coordinate)} {candidates : Candidates Distance}

theorem Found.visit (found : Found distance highest seen candidates) (gs : GeoServer Coordinate) :
    Found distance highest (seen ++ [gs]) (candidates.visit (distance gs) gs.server) := by
  cases measured : distance gs with
  | none =>
    simp only [Candidates.visit]
    refine ⟨found.bounded, List.forall_mem_append.mpr ⟨found.least, ?_⟩, ?_, found.untouched⟩
    · simp [measured]
    · simp [measured, found.server]
  | some d =>
    rcases lt_trichotomy d candidates.min with closer | same | farther
    · -- none of the servers before is as close
      have alone : (seen.filter fun other => distance other = some d) = [] := by
        apply List.filter_eq_nil_iff.mpr
        intro other member away
        exact absurd (found.least other member d (of_decide_eq_true away)) (not_le.mpr closer)
      simp only [Candidates.visit, closer, if_true]
      refine ⟨closer.le.trans found.bounded, List.forall_mem_append.mpr ⟨?_, ?_⟩, ?_, ?_⟩
      · intro other before e away
        exact closer.le.trans (found.least other before e away)
      · simp [measured]
      · simp [alone, measured]
      · simp
    · subst same
      simp only [Candidates.visit, lt_irrefl, if_false, if_true]
      refine ⟨found.bounded, List.forall_mem_append.mpr ⟨found.least, ?_⟩, ?_, ?_⟩
      · simp [measured]
      · simp [found.server, measured]
      · simp
    · simp only [Candidates.visit, farther.not_gt, farther.ne', if_false]
      refine ⟨found.bounded, List.forall_mem_append.mpr ⟨found.least, ?_⟩, ?_, found.untouched⟩
      · simp [measured, farther.le]
      · simp [found.server, measured, farther.ne']

theorem Found.foldl (found : Found distance highest seen candidates) (rest : List (GeoServer Coordinate)) :
    Found distance highest (seen ++ rest)
      (rest.foldl (fun candidates gs => candidates.visit (distance gs) gs.server) candidates) := by
  induction rest generalizing seen candidates with
  | nil => simpa using found
  | cons gs rest ih =>
    rw [List.foldl_cons, List.append_cons]
    exact ih (found.visit gs)

end Candidates

/-- A server with a comparable distance, and none is closer. -/
def Closest (geometry : Geometry Coordinate Distance) (servers : IterationOrder) (latitude longitude : Coordinate)
    (name : Bytes) : Prop :=
  ∃ d, Away geometry servers latitude longitude name (some d) ∧
    ∀ other e, Away geometry servers latitude longitude other (some e) → d ≤ e

/-- `Select` returns, with a closest server, or with no name if no server has a comparable
distance. -/
def RightChoice (geometry : Geometry Coordinate Distance) (servers : IterationOrder)
    (latitude longitude : Coordinate) (result : Option Bytes) : Prop :=
  ∃ name, result = some name ∧ (Closest geometry servers latitude longitude name ∨
    name = [] ∧ ∀ other e, ¬ Away geometry servers latitude longitude other (some e))

theorem found_scan (selector : GeoSelector Coordinate) :
    (selector.scan geometry).Found (selector.distance geometry) geometry.maxFloat64 selector.servers := by
  have start : Candidates.Found (selector.distance geometry) geometry.maxFloat64 [] ⟨[], geometry.maxFloat64⟩ :=
    ⟨le_rfl, by simp, rfl, fun _ => rfl⟩
  exact start.foldl selector.servers

theorem mem_scan_iff :
    name ∈ ((newGeoSelector geometry servers latitude longitude).scan geometry).server ↔
      Away geometry servers latitude longitude name
        (some ((newGeoSelector geometry servers latitude longitude).scan geometry).min) := by
  rw [(found_scan geometry _).server, away_iff]
  simp only [List.mem_map, List.mem_filter, decide_eq_true_eq]
  exact exists_congr fun gs => ⟨fun ⟨⟨member, away⟩, same⟩ => ⟨member, same, away⟩,
    fun ⟨member, same, away⟩ => ⟨⟨member, away⟩, same⟩⟩

theorem scan_least (away : Away geometry servers latitude longitude other (some e)) :
    ((newGeoSelector geometry servers latitude longitude).scan geometry).min ≤ e := by
  obtain ⟨gs, member, -, measured⟩ := (away_iff geometry).mp away
  exact (found_scan geometry _).least gs member e measured

/-- The loop finds a server exactly if one is not farther away than the greatest number. -/
theorem scan_ne_nil_iff :
    ((newGeoSelector geometry servers latitude longitude).scan geometry).server ≠ [] ↔
      ∃ name d, Away geometry servers latitude longitude name (some d) ∧ d ≤ geometry.maxFloat64 := by
  have found := found_scan geometry (newGeoSelector geometry servers latitude longitude)
  constructor
  · intro filled
    obtain ⟨name, member⟩ := List.exists_mem_of_ne_nil _ filled
    exact ⟨name, _, (mem_scan_iff geometry).mp member, found.bounded⟩
  · rintro ⟨name, d, away, close⟩ empty
    have same : d = ((newGeoSelector geometry servers latitude longitude).scan geometry).min :=
      le_antisymm (close.trans (found.untouched empty).ge) (scan_least geometry away)
    rw [same, ← mem_scan_iff, empty] at away
    cases away

theorem intn_bind (draw : Nat) {list : List Bytes} (filled : list ≠ []) :
    ∃ name ∈ list, (intn draw list.length).bind (list[·]?) = some name := by
  have positive := List.length_pos_iff.mpr filled
  have inside : draw % list.length < list.length := Nat.mod_lt draw positive
  refine ⟨list[draw % list.length], List.getElem_mem inside, ?_⟩
  rw [intn, if_neg positive.ne', Option.bind_some, List.getElem?_eq_getElem inside]

namespace GeoSelector

variable {selector : GeoSelector Coordinate}

theorem select_of_nil (empty : selector.servers = []) (draw : Nat) : selector.select geometry draw = some [] := by
  simp [select, empty]

theorem select_of_candidates (found : (selector.scan geometry).server ≠ []) (draw : Nat) :
    ∃ name ∈ (selector.scan geometry).server, selector.select geometry draw = some name := by
  have located : selector.servers.length ≠ 0 := by
    intro empty
    apply found
    rw [scan, List.eq_nil_of_length_eq_zero empty, List.foldl_nil]
  rw [select, if_neg located]
  dsimp only
  split
  · rename_i single
    obtain ⟨only, same⟩ := List.length_eq_one_iff.mp single
    exact ⟨only, by simp [same], by simp [same]⟩
  · exact intn_bind draw found

theorem select_of_no_candidate (located : selector.servers ≠ []) (nothing : (selector.scan geometry).server = [])
    (draw : Nat) : selector.select geometry draw = none := by
  rw [select, if_neg (List.length_eq_zero_iff.not.mpr located)]
  simp [nothing, intn]

end GeoSelector

/-- `Select` chooses rightly, whatever is drawn, exactly if no server has coordinates or one of
them has a distance that is a number, and not above the greatest one. -/
theorem select_right_iff (servers : IterationOrder) (latitude longitude : Coordinate) :
    (∀ draw, RightChoice geometry servers latitude longitude
      ((newGeoSelector geometry servers latitude longitude).select geometry draw)) ↔
      (∀ name distance, ¬ Away geometry servers latitude longitude name distance) ∨
      ∃ name d, Away geometry servers latitude longitude name (some d) ∧ d ≤ geometry.maxFloat64 := by
  constructor
  · intro right
    rw [← newGeoSelector_eq_nil_iff, ← scan_ne_nil_iff, or_iff_not_imp_left]
    intro located nothing
    obtain ⟨name, returned, -⟩ := right 0
    rw [GeoSelector.select_of_no_candidate geometry located nothing] at returned
    cases returned
  · rintro (nobody | close) draw
    · have empty := (newGeoSelector_eq_nil_iff geometry).mpr nobody
      refine ⟨[], GeoSelector.select_of_nil geometry empty draw, .inr ⟨rfl, ?_⟩⟩
      exact fun other e => nobody other (some e)
    · obtain ⟨name, member, returned⟩ :=
        GeoSelector.select_of_candidates geometry ((scan_ne_nil_iff geometry).mpr close) draw
      exact ⟨name, returned, .inl ⟨_, (mem_scan_iff geometry).mp member, fun other e => scan_least geometry⟩⟩

end Ordered

/-- Whole degrees, and the distance along them. A coordinate or a distance may be no number. -/
def wholeDegrees : Geometry (Option Int) Int where
  parseFloat text := if text = utf8 "NaN" then some none else (atoi text).map fun degrees => some degrees.toInt
  getDistanceFrom latitude longitude otherLatitude otherLongitude := do
    let first ← latitude
    let second ← longitude
    let otherFirst ← otherLatitude
    let otherSecond ← otherLongitude
    some (|otherFirst - first| + |otherSecond - second|)
  maxFloat64 := 1000

/-- `Select` panics if the only server is at a place that is no number. -/
theorem select_not_a_number :
    (newGeoSelector wholeDegrees (AList.singleton (utf8 "tcp@a") (utf8 "latitude=NaN&longitude=0")) (some 0)
      (some 0)).select wholeDegrees 0 = none := by
  decide +kernel

end Irpc.XClient
