import Mathlib
import TensorScan.Proofs.Graph.Outcome
import TensorScan.Proofs.Scan.Totals

set_option autoImplicit false

/-! # Scans along different axes

An array of integers can be scanned along one axis and then along another, in either order: each
element becomes the total of a box, taken by rows in one order and by columns in the other. The two
scans must accumulate with the same operation; their directions and whether they are exclusive do
not matter, since these only say which box it is. This is `ScanMode.scanGrid_comm`.

In a graph the two orders are four nodes over a common source (`ScanGraph.IsScan`).
`ScanGraph.Drafted.evaluate_exchange` says that the second scans of the two orders get the same
value.
-/

namespace TensorScan

/-! ## Arrays -/

/-- **Scans along different axes commute** for integers, if they accumulate with the same
operation. -/
theorem ScanMode.scanGrid_comm {first second : ScanMode} (hop : first.op = second.op) {d : DType}
    (hd : d.isInteger = true) (shape : Shape) {a b : Nat} (hab : a ≠ b) (f : Grid d) :
    second.scanGrid d shape b (first.scanGrid d shape a f) =
      first.scanGrid d shape a (second.scanGrid d shape b f) := by
  funext p
  set rows := second.visited (shape.getD b 0) (p.getD b 0)
  set columns := first.visited (shape.getD a 0) (p.getD a 0)
  calc second.scanGrid d shape b (first.scanGrid d shape a f) p
      = second.op.total d (rows.map fun j =>
          second.op.total d (columns.map fun i => f ((p.set b j).set a i))) := by
        -- a step along one axis leaves the coordinate of the other alone
        simp only [scanGrid, Shape.getD_set_ne hab.symm, hop]
        rfl
    _ = second.op.total d (columns.map fun i =>
          second.op.total d (rows.map fun j => f ((p.set b j).set a i))) :=
        second.op.total_exchange hd rows columns _
    _ = second.op.total d (columns.map fun i =>
          second.op.total d (rows.map fun j => f ((p.set a i).set b j))) := by
        simp only [List.set_comm _ _ hab.symm]
    _ = first.scanGrid d shape a (second.scanGrid d shape b f) p := by
        simp only [scanGrid, Shape.getD_set_ne hab, hop]
        rfl

/-! ## Nodes -/

namespace ScanGraph

/-- Is node `id` a scan of `source`? -/
def IsScan (g : ScanGraph) (id source : Nat) (axis : Fin 4) (mode : ScanMode) : Prop :=
  ∃ desc, g.nodes[id]? = some ⟨.scan source axis mode, desc⟩

section Nodes

variable {g : ScanGraph} {tensors : List Tensor}

/-- A scan has the descriptor of its source, and stands for the scanned array. -/
theorem IsScan.of_desc {id source : Nat} {axis : Fin 4} {mode : ScanMode}
    (h : g.IsScan id source axis mode) (hg : g.Drafted) {desc : Descriptor}
    (hdesc : g.desc? source = some desc) :
    g.desc? id = some desc ∧ ∀ d, g.denote tensors d id =
      mode.scanGrid d desc.sizes axis (g.denote tensors d source) := by
  obtain ⟨own, hnode⟩ := h
  obtain ⟨hlt, op, hsource⟩ := hg.linked.scan hnode
  have hown : own = desc := by
    rw [desc?, hsource] at hdesc
    exact Option.some.inj hdesc
  subst hown
  refine ⟨?_, fun d => denote_scan hnode hlt d⟩
  rw [desc?, hnode]
  rfl

/-- **Scans in either order get the same value.** Let a graph scan a source of integers along two
different axes in both orders, with one operation. In every run that succeeds the last nodes of the
two orders have the same value, and wherever one of them is returned, this value is the result. -/
theorem Drafted.evaluate_exchange (hg : g.Drafted) (htensors : ∀ t ∈ tensors, t.Built)
    {source a ab b ba : Nat} {axisA axisB : Fin 4} (haxes : axisA ≠ axisB)
    {modeA modeB : ScanMode} (hop : modeA.op = modeB.op)
    (ha : g.IsScan a source axisA modeA) (hab : g.IsScan ab a axisB modeB)
    (hb : g.IsScan b source axisB modeB) (hba : g.IsScan ba b axisA modeA)
    {desc : Descriptor} (hdesc : g.desc? source = some desc)
    (hinteger : desc.dtype.isInteger = true) {features : Features} {results : List Tensor}
    (hrun : (evaluate features g tensors).outcome = .ok results) :
    ∃ values t, (evaluateNodes features tensors g.nodes []).outcome = .ok values ∧
      values[ab]? = some t ∧ values[ba]? = some t ∧
      List.Forall₂ (fun id result => id = ab ∨ id = ba → result = t) g.outputs results := by
  obtain ⟨haccept, values, hvalues, hresults⟩ := evaluate_eq_ok.1 hrun
  obtain ⟨hlen, hcomputed⟩ :=
    (hg.ready htensors haccept).computed_of_evaluateNodes (List.append_nil _).symm hvalues
  -- all four scans have the descriptor of the source
  obtain ⟨hdescA, hdenoteA⟩ := ha.of_desc hg hdesc
  obtain ⟨hdescAB, hdenoteAB⟩ := hab.of_desc hg hdescA
  obtain ⟨hdescB, hdenoteB⟩ := hb.of_desc hg hdesc
  obtain ⟨hdescBA, hdenoteBA⟩ := hba.of_desc hg hdescB
  have hdenote : g.denote tensors desc.dtype ab = g.denote tensors desc.dtype ba := by
    rw [hdenoteAB, hdenoteA, hdenoteBA, hdenoteB]
    exact ScanMode.scanGrid_comm hop hinteger desc.sizes (Fin.val_ne_of_ne haxes) _
  obtain ⟨t, hvalueAB, ht, hholds⟩ := hcomputed.exists_value hlen hdescAB
  obtain ⟨s, hvalueBA, hs, hholds'⟩ := hcomputed.exists_value hlen hdescBA
  have hsame : s = t := hs.wellFormed.eq_of_holds ht.wellFormed (hs.shape.trans ht.shape.symm)
    hs.dtype ht.dtype hholds' (hdenote ▸ hholds)
  rw [hsame] at hvalueBA
  refine ⟨values, t, hvalues, hvalueAB, hvalueBA, hresults.imp ?_⟩
  intro id result hread hlast
  rw [valueOf_eq_ok] at hread
  rcases hlast with rfl | rfl
  · exact Option.some.inj (hread.symm.trans hvalueAB)
  · exact Option.some.inj (hread.symm.trans hvalueBA)

end Nodes

/-- The dimension of four whose steps go down the columns. -/
def downColumns : Fin 4 := ⟨1, by decide⟩

/-- The dimension of four whose steps go along the rows. -/
def alongRows : Fin 4 := ⟨3, by decide⟩

/-- Running sums down the columns, and of what comes later in the rows, in both orders. -/
def crossedScans : ScanGraph where
  nodes := [⟨.input 0, ⟨.i32, 1, 2, 1, 3⟩⟩,
    ⟨.scan 0 downColumns ⟨.sum, .increasing, false⟩, ⟨.i32, 1, 2, 1, 3⟩⟩,
    ⟨.scan 1 alongRows ⟨.sum, .decreasing, true⟩, ⟨.i32, 1, 2, 1, 3⟩⟩,
    ⟨.scan 0 alongRows ⟨.sum, .decreasing, true⟩, ⟨.i32, 1, 2, 1, 3⟩⟩,
    ⟨.scan 3 downColumns ⟨.sum, .increasing, false⟩, ⟨.i32, 1, 2, 1, 3⟩⟩]
  inputs := [⟨.i32, 1, 2, 1, 3⟩]
  outputs := [2, 1, 4]

theorem crossedScans_drafted : crossedScans.Drafted :=
  ⟨[.input ⟨.i32, 1, 2, 1, 3⟩, .runningSum 0 1 .increasing false, .runningSum 1 3 .decreasing true,
    .runningSum 0 3 .decreasing true, .runningSum 3 1 .increasing false], [2, 1, 4], rfl⟩

/-- Two rows of numbers, with sums that wrap around. -/
def crossedRows : Tensor := ⟨[2, 3], .i32, bytesOfWords .i32 [1, 2, 0x7FFFFFFF, 3, 4, 5]⟩

theorem crossedRows_built : ∀ t ∈ [crossedRows], t.Built := by
  intro t ht
  rw [List.mem_singleton.1 ht]
  exact Tensor.Built.of_words (by decide) (by decide)

/-- What the two orders come to, and between them the sums down the columns alone. -/
def crossedResults : List Tensor :=
  [⟨[1, 2, 1, 3], .i32,
      bytesOfWords .i32 [0x80000001, 0x7FFFFFFF, 0, 0x8000000A, 0x80000004, 0]⟩,
    ⟨[1, 2, 1, 3], .i32, bytesOfWords .i32 [1, 2, 0x7FFFFFFF, 4, 6, 0x80000004]⟩,
    ⟨[1, 2, 1, 3], .i32,
      bytesOfWords .i32 [0x80000001, 0x7FFFFFFF, 0, 0x8000000A, 0x80000004, 0]⟩]

theorem crossedScans_exchange :
    (evaluate ⟨false⟩ crossedScans [crossedRows]).outcome = .ok crossedResults ∧
      ∃ values t, (evaluateNodes ⟨false⟩ [crossedRows] crossedScans.nodes []).outcome =
          .ok values ∧
        values[2]? = some t ∧ values[4]? = some t ∧
        t.element? .i32 [0, 1, 0, 0] = some 0x8000000A := by
  have hrun : (evaluate ⟨false⟩ crossedScans [crossedRows]).outcome = .ok crossedResults := by
    decide +kernel
  have hcolumns : crossedScans.IsScan 1 0 downColumns ⟨.sum, .increasing, false⟩ := ⟨_, rfl⟩
  have hcolumnsRows : crossedScans.IsScan 2 1 alongRows ⟨.sum, .decreasing, true⟩ := ⟨_, rfl⟩
  have hrows : crossedScans.IsScan 3 0 alongRows ⟨.sum, .decreasing, true⟩ := ⟨_, rfl⟩
  have hrowsColumns : crossedScans.IsScan 4 3 downColumns ⟨.sum, .increasing, false⟩ := ⟨_, rfl⟩
  have haxes : downColumns ≠ alongRows := by decide
  have hop : (ScanMode.mk .sum .increasing false).op = (ScanMode.mk .sum .decreasing true).op := rfl
  obtain ⟨values, t, hvalues, hleft, hright, hresults⟩ :=
    crossedScans_drafted.evaluate_exchange crossedRows_built haxes hop hcolumns hcolumnsRows hrows
      hrowsColumns rfl rfl hrun
  have hfirst := (List.forall₂_cons.1 hresults).1 (Or.inl rfl)
  refine ⟨hrun, values, t, hvalues, hleft, hright, ?_⟩
  rw [← hfirst]
  decide +kernel

end ScanGraph

end TensorScan
