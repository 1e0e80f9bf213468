import Wiretap.Proofs.Supervise.Fleet
/-! # What shared counters come to

At every moment a counter that lanes count in is the sum of what the lanes with its labels have to
report (`Fleet.Squares`): a lane adds to its own counters, and nothing else adds to any. So the
counters of a port are the sums of the reports of its lanes, as soon as all of them have ended.
-/

namespace Wiretap

namespace Voyage

variable {v : Voyage}

/-- What a session contributes to a counter that has the labels of one lane. -/
theorem Squares.share_directed (h : v.Squares) {family : Family}
    (directed : ∀ setup : LaneSetup,
      setup.labels family = [Counters.portLabel setup.localPort, setup.direction.name])
    (p : UInt16) (direction : Direction) :
    v.share family [Counters.portLabel p, direction.name] =
      if v.session.localPort = p then (v.session.lane direction).figure family else 0 := by
  have lane (e : Direction) :
      (v.session.lane e).share family [Counters.portLabel p, direction.name] =
        if v.session.localPort = p ∧ e = direction then (v.session.lane e).figure family else 0 := by
    rw [Lane.share, directed, h.localPort, h.direction]
    simp only [Counters.join_port_direction_eq_iff]
  change (v.session.lane .client).share _ _ + (v.session.lane .server).share _ _ = _
  rw [lane, lane]
  cases direction <;> simp

/-- What a session contributes to a counter that has the labels of both lanes. -/
theorem Squares.share_inspectionFailures (h : v.Squares) (p : UInt16) :
    v.share .inspectionFailures [Counters.portLabel p] =
      if v.session.localPort = p then
        v.session.up.inspectionFailures + v.session.down.inspectionFailures
      else 0 := by
  have lane (e : Direction) :
      (v.session.lane e).share .inspectionFailures [Counters.portLabel p] =
        if v.session.localPort = p then (v.session.lane e).inspectionFailures else 0 := by
    rw [Lane.share, LaneSetup.labels, h.localPort]
    simp only [Counters.join_port_eq_iff]
    rfl
  change (v.session.lane .client).share _ _ + (v.session.lane .server).share _ _ = _
  rw [lane, lane]
  split
  · rfl
  · exact UInt64.add_zero 0

end Voyage

namespace Fleet

variable {f : Fleet}

/-! ## What the counters show -/

/-- The lanes have counted what they did, and the counters show the sums of that. -/
structure Squares (f : Fleet) : Prop where
  voyages : ∀ v ∈ f.voyages, v.Squares
  total (family : Family) (labels : List String) (traffic : family.isTraffic = true) :
    f.scene.counters.value family labels = (f.voyages.map (Voyage.share family labels)).sum

theorem Squares.goes {g : Fleet} (h : f.Squares) (goes : f.Goes g) : g.Squares := by
  cases goes with
  | rests same kept =>
      refine ⟨fun v member => h.voyages v (same.mem_iff.mp member), fun family labels traffic => ?_⟩
      rw [kept family labels traffic, h.total family labels traffic]
      exact (same.symm.map _).sum_eq
  | begins isNew same kept =>
      constructor
      · intro v member
        rcases List.mem_cons.mp (same.mem_iff.mp member) with rfl | earlier
        · exact isNew.squares
        · exact h.voyages v earlier
      · intro family labels traffic
        rw [kept family labels traffic, h.total family labels traffic, (same.map _).sum_eq,
          List.map_cons, List.sum_cons, isNew.share, UInt64.zero_add]
  | @sails v rest direction here there scene =>
      constructor
      · intro u member
        rcases List.mem_cons.mp (there.mem_iff.mp member) with rfl | other
        · exact (h.voyages v (here.mem_iff.mpr List.mem_cons_self)).sail direction f.scene
        · exact h.voyages u (here.mem_iff.mpr (List.mem_cons_of_mem v other))
      · intro family labels traffic
        obtain ⟨n, value, share⟩ := v.value_sail direction f.scene family labels
        rw [scene, value, h.total family labels traffic, (here.map _).sum_eq, (there.map _).sum_eq,
          List.map_cons, List.map_cons, List.sum_cons, List.sum_cons, share, add_right_comm]

def ofPort (f : Fleet) (localPort : UInt16) : List Voyage :=
  f.voyages.filter (·.session.localPort = localPort)

/-- The reports of the lanes of a port and direction that have ended. -/
def reports (f : Fleet) (localPort : UInt16) (direction : Direction) : List LaneReport :=
  (f.ofPort localPort).filterMap fun v => (v.session.lane direction).report?

theorem sum_ofPort (f : Fleet) (p : UInt16) (g : Voyage → UInt64) :
    (f.voyages.map fun v => if v.session.localPort = p then g v else 0).sum =
      ((f.ofPort p).map g).sum := by
  rw [List.sum_map_ite, List.sum_map_zero, add_zero]
  rfl

theorem Squares.value_directed (h : f.Squares) {family : Family} (traffic : family.isTraffic = true)
    (directed : ∀ setup : LaneSetup,
      setup.labels family = [Counters.portLabel setup.localPort, setup.direction.name])
    (p : UInt16) (direction : Direction) :
    f.scene.counters.value family [Counters.portLabel p, direction.name] =
      ((f.ofPort p).map fun v => (v.session.lane direction).figure family).sum := by
  rw [h.total family _ traffic, ← sum_ofPort]
  congr 1
  exact List.map_congr_left fun v member => (h.voyages v member).share_directed directed p direction

theorem Squares.chunksAt_eq (h : f.Squares) (p : UInt16) (direction : Direction) :
    f.scene.counters.chunksAt p direction =
      ((f.ofPort p).map fun v => (v.session.lane direction).chunks).sum := by
  rw [Counters.chunksAt, Counters.fst_get]
  exact h.value_directed rfl (fun _ => rfl) p direction

theorem Squares.inspectionFailuresAt_eq (h : f.Squares) (p : UInt16) :
    f.scene.counters.inspectionFailuresAt p =
      ((f.ofPort p).map fun v =>
        v.session.up.inspectionFailures + v.session.down.inspectionFailures).sum := by
  rw [Counters.inspectionFailuresAt, Counters.fst_get, h.total _ _ rfl, ← sum_ofPort]
  congr 1
  exact List.map_congr_left fun v member => (h.voyages v member).share_inspectionFailures p

def onNetwork (f : Network → Network) : Move := .besides fun s => { s with network := f s.network }

end Fleet

end Wiretap
