import ClusterAdmission.Proofs.Chain.Clusters
import ClusterAdmission.Proofs.Policy.Updates

/-!
# The history of a cluster

As long as a cluster is stored, it changes by admitted updates only, each of which is compared with
the one before it (`Policies.History.isChain`). What each of them keeps, the whole history keeps
(`Policies.History.keeps`). So a version goes down only through an empty one
(`version_never_lowered`), and several nodes become one only through none
(`several_nodes_never_one`).
-/

namespace ClusterAdmission

open Api (resourcePlace createdPlace)

/-- The updates between two moments at which a cluster is stored: at most one, which has passed. -/
theorem Policies.Follows.cluster {p : Policies} {u v : Store} {space name : String}
    {c d : ClusterSpec} (h : p.Follows u v) (hc : u.spec? .databaseCluster space name = some c)
    (hd : v.spec? .databaseCluster space name = some d) : d = c ∨ Policy.UpdatePasses p c d := by
  rcases h with hsame | ⟨r, s, e, hadmitted, hsu, he, hhappens⟩
  · rw [hsame.spec?_eq, hc] at hd
    exact .inl (Option.some.inj hd).symm
  rw [hsu.spec?_eq] at hc
  by_cases hplace : resourcePlace .databaseCluster space name = e.place
  · cases hop : r.op with
    | createCluster new =>
      -- A cluster is created at a free place only.
      rw [hop] at he
      cases he
      rw [hhappens.spec?_create hplace] at hc
      cases hc
    | updateCluster new =>
      have hcheck := hadmitted (Policy.clusterUpdate p new) (by rw [hop]; rfl)
      rw [hop] at he
      cases he
      obtain rfl : space = new.space := congrArg Place.space hplace
      obtain rfl : name = new.name := congrArg Place.name hplace
      obtain ⟨old, hold, hpasses⟩ := Policy.clusterUpdate_ok hcheck
      have hread : s.spec? .databaseCluster new.space new.name = some old.spec :=
        Store.spec?_of_getResource hold
      rw [hc] at hread
      rw [hhappens.spec?_replace] at hd
      obtain rfl := Option.some.inj hread
      obtain rfl := Option.some.inj hd
      exact .inr hpasses
    | deleteCluster space' name' =>
      rw [hop] at he
      cases he
      have hgone : v.get? (resourcePlace .databaseCluster space name) = none := by
        rw [hplace]
        exact hhappens.leaves
      rw [Store.spec?, hgone] at hd
      cases hd
    | getCluster | listClusters | listStorages =>
      rw [hop] at he
      cases he
    | _ =>
      rw [hop] at he
      cases he
      cases congrArg Place.collection hplace
  · rw [hhappens.spec?_of_ne hplace, hc] at hd
    exact .inl (Option.some.inj hd).symm

namespace Policies

/-- What a cluster asks for at each moment of a stretch of a run throughout which it is stored. -/
def History (p : Policies) (s : Chain.State) (rs : List Submission) (space name : String)
    (specs : List ClusterSpec) : Prop :=
  ∃ stretch : List Store, stretch <:+: p.moments s rs ∧
    stretch.map (fun t => t.spec? .databaseCluster space name) = specs.map some

variable {p : Policies} {s : Chain.State} {rs : List Submission} {space name : String}
  {c : ClusterSpec} {specs later : List ClusterSpec}

/-- The history of a cluster is a sequence of admitted updates. -/
theorem History.isChain (h : p.History s rs space name specs) :
    specs.IsChain fun c d => d = c ∨ Policy.UpdatePasses p c d := by
  obtain ⟨stretch, hinfix, hspecs⟩ := h
  have hfollows : stretch.IsChain p.Follows := follows_of_infix hinfix
  have hmapped : (stretch.map fun t => t.spec? .databaseCluster space name).IsChain fun x y =>
      ∀ c d, x = some c → y = some d → d = c ∨ Policy.UpdatePasses p c d :=
    (List.isChain_map _).2 (hfollows.imp fun _ _ huv _ _ hc hd => huv.cluster hc hd)
  rw [hspecs, List.isChain_map] at hmapped
  exact hmapped.imp fun c d hcd => hcd c d rfl rfl

/-- What every admitted update keeps holds throughout the history, if it holds at its start. -/
theorem History.keeps {P : ClusterSpec → Prop} (h : p.History s rs space name (c :: later))
    (hc : P c) (hstep : ∀ x, P x → ∀ y ∈ later, Policy.UpdatePasses p x y → P y) :
    ∀ d ∈ later, P d := by
  have hchain := h.isChain
  clear h
  induction later generalizing c with
  | nil => exact fun d hd => absurd hd List.not_mem_nil
  | cons x rest ih =>
    obtain ⟨hfirst, hchain⟩ := List.isChain_cons_cons.1 hchain
    have hx : P x := by
      rcases hfirst with rfl | hpasses
      · exact hc
      · exact hstep c hc x List.mem_cons_self hpasses
    refine List.forall_mem_cons.2 ⟨hx, ih hx (fun y hy z hz => ?_) hchain⟩
    exact hstep y hy z (List.mem_cons_of_mem x hz)

theorem history_of_drop (n : Nat)
    (h : ((p.moments s rs).drop n).map (fun t => t.spec? .databaseCluster space name) =
      specs.map some) : p.History s rs space name specs :=
  ⟨(p.moments s rs).drop n, (List.drop_suffix n _).isInfix, h⟩

end Policies

/-! ## A platform with releases -/

namespace Sample

/-- A platform whose operator is allowed two versions. -/
def releases : Chain.State where
  store :=
    let engine : DatabaseEngine :=
      { operator with spec := { engine := .pxc, allowedVersions := ["8.0.21", "8.0.36"] } }
    SortedMap.empty.insert (createdPlace engine) engine.toJson

/-- A cluster without backups, of a version and a count of nodes. -/
def revision (version : String) (replicas : Int32) : DatabaseCluster where
  metadata := named "orders"
  spec :=
    { engine :=
        { engine := .pxc, version, replicas, storage := { size := "10G" }
          resources := { cpu := some "1", memory := some "2G" } } }

/-- The requests that create a cluster and update it, once for each revision. -/
def revise (first : DatabaseCluster) (others : List DatabaseCluster) : List Submission :=
  { op := .createCluster first } :: others.map fun c => { op := .updateCluster c }

end Sample

/-! ## Versions -/

variable {p : Policies} {s : Chain.State} {rs : List Submission} {space name : String}
  {c : ClusterSpec} {later : List ClusterSpec}

/-- As long as a cluster has a version and stays with its engine, the version never goes down, and
only that of a MongoDB cluster changes its major number. -/
theorem version_never_lowered {engine : EngineType} {v : Version}
    (h : p.History s rs space name (c :: later))
    (hkept : ∀ x ∈ later, x.engine.engine = engine ∧ x.engine.version ≠ "")
    (hv : Version.parse? c.engine.version = some v) :
    ∀ d ∈ later, KeepsVersion engine v d.engine.version := by
  refine h.keeps (P := fun d => KeepsVersion engine v d.engine.version) (.self hv) ?_
  rintro x ⟨w, hw, hbelow, hmajor⟩ y hy hpasses
  obtain ⟨hengine, hversion⟩ := hkept y hy
  have hstep : KeepsVersion engine w y.engine.version := by
    rw [← hengine]
    exact hpasses.version_kept hw hversion
  exact hstep.trans hbelow hmajor

theorem version_never_lowered_of_sample :
    let first := Sample.revision "8.0.21" 3
    let second := Sample.revision "8.0.36" 3
    let later := List.replicate 3 first.spec ++ List.replicate 2 second.spec
    Policies.default.History Sample.releases (Sample.revise first [second]) "ns" "orders"
        (first.spec :: later) ∧
      (∀ x ∈ later, x.engine.engine = .pxc ∧ x.engine.version ≠ "") ∧
      Version.parse? first.spec.engine.version = some ⟨8, 0, 21, [], []⟩ ∧
      ∀ d ∈ later, KeepsVersion .pxc ⟨8, 0, 21, [], []⟩ d.engine.version := by
  intro first second later
  have hhistory : Policies.default.History Sample.releases (Sample.revise first [second])
      "ns" "orders" (first.spec :: later) :=
    Policies.history_of_drop 2 (by decide +kernel)
  have hkept : ∀ x ∈ later, x.engine.engine = .pxc ∧ x.engine.version ≠ "" := by decide
  have hv : Version.parse? first.spec.engine.version = some ⟨8, 0, 21, [], []⟩ := by decide +kernel
  exact ⟨hhistory, hkept, hv, version_never_lowered hhistory hkept hv⟩

/-- Clearing the version and setting it again is not compared with the version before. -/
theorem version_lowered :
    let first := Sample.revision "8.0.36" 3
    let cleared := Sample.revision "" 3
    let last := Sample.revision "8.0.21" 3
    let between := List.replicate 3 first.spec ++ List.replicate 4 cleared.spec ++ [last.spec]
    Policies.default.History Sample.releases (Sample.revise first [cleared, last]) "ns" "orders"
        (first.spec :: between ++ [last.spec]) ∧
      (∀ x ∈ first.spec :: between ++ [last.spec], x.engine.engine = .pxc) ∧
      ∃ v w, Version.parse? first.spec.engine.version = some v ∧
        Version.parse? last.spec.engine.version = some w ∧ w.below v = true := by
  intro first cleared last between
  refine ⟨Policies.history_of_drop 2 (by decide +kernel), by decide, ⟨8, 0, 36, [], []⟩,
    ⟨8, 0, 21, [], []⟩, ?_, ?_, ?_⟩
  all_goals decide +kernel

/-! ## Counts of nodes -/

/-- As long as a cluster of several nodes is not taken to none, it keeps several. -/
theorem several_nodes_never_one (h : p.History s rs space name (c :: later))
    (hc : 1 < c.engine.replicas.toInt) (hnone : ∀ x ∈ later, x.engine.replicas.toInt ≠ 0) :
    ∀ d ∈ later, 1 < d.engine.replicas.toInt := by
  refine h.keeps hc ?_
  intro x hx y hy hpasses
  exact (hpasses.several_nodes hx).resolve_right (hnone y hy)

theorem several_nodes_never_one_of_sample :
    let first := Sample.revision "" 3
    let second := Sample.revision "" 5
    let later := List.replicate 3 first.spec ++ List.replicate 2 second.spec
    Policies.default.History Sample.releases (Sample.revise first [second]) "ns" "orders"
        (first.spec :: later) ∧
      1 < first.spec.engine.replicas.toInt ∧
      (∀ x ∈ later, x.engine.replicas.toInt ≠ 0) ∧ ∀ d ∈ later, 1 < d.engine.replicas.toInt := by
  intro first second later
  have hhistory : Policies.default.History Sample.releases (Sample.revise first [second])
      "ns" "orders" (first.spec :: later) :=
    Policies.history_of_drop 2 (by decide +kernel)
  have hseveral : 1 < first.spec.engine.replicas.toInt := by decide
  have hnone : ∀ x ∈ later, x.engine.replicas.toInt ≠ 0 := by decide
  exact ⟨hhistory, hseveral, hnone, several_nodes_never_one hhistory hseveral hnone⟩

/-- A cluster that has been taken to no nodes starts again with any count. -/
theorem several_nodes_to_one :
    let first := Sample.revision "" 3
    let stopped := Sample.revision "" 0
    let last := Sample.revision "" 1
    let between := List.replicate 3 first.spec ++ List.replicate 4 stopped.spec ++ [last.spec]
    Policies.default.History Sample.releases (Sample.revise first [stopped, last]) "ns" "orders"
        (first.spec :: between ++ [last.spec]) ∧
      1 < first.spec.engine.replicas.toInt ∧ last.spec.engine.replicas.toInt = 1 := by
  intro first stopped last between
  exact ⟨Policies.history_of_drop 2 (by decide +kernel), by decide, by decide⟩

end ClusterAdmission
