import Mathlib.Logic.Relation
import PduExamObserver.Library.Except

/-! # Tensors of an ONNX model

The traversal of `ModelRuntime._verify_onnx_bytes` over the parsed message, and the tensors that it reaches. -/

namespace PduExamObserver.Showcase.Onnx
open Relation
set_option autoImplicit false

/-! ## Messages -/

inductive DataLocation
  | default
  | external
  deriving DecidableEq

structure TensorProto where
  dataLocation : DataLocation := .default
  externalData : List (String × String) := []
  deriving DecidableEq

structure SparseTensorProto where
  values : Option TensorProto := none
  indices : Option TensorProto := none
  deriving DecidableEq

inductive AttributeType
  | undefined
  | float
  | int
  | string
  | tensor
  | graph
  | sparseTensor
  | typeProto
  | floats
  | ints
  | strings
  | tensors
  | graphs
  | sparseTensors
  | typeProtos
  deriving DecidableEq

-- The value fields of an attribute that hold no tensor (numbers, strings, type protos) are left out.
mutual

inductive AttributeProto
  | mk (type : AttributeType) (t : Option TensorProto) (g : Option GraphProto)
    (sparseTensor : Option SparseTensorProto) (tensors : List TensorProto) (graphs : List GraphProto)
    (sparseTensors : List SparseTensorProto)

inductive NodeProto
  | mk (attributes : List AttributeProto)

inductive GraphProto
  | mk (node : List NodeProto) (initializer : List TensorProto) (sparseInitializer : List SparseTensorProto)

end

namespace AttributeProto

def type : AttributeProto → AttributeType
  | ⟨type, _, _, _, _, _, _⟩ => type

def t : AttributeProto → Option TensorProto
  | ⟨_, t, _, _, _, _, _⟩ => t

def g : AttributeProto → Option GraphProto
  | ⟨_, _, g, _, _, _, _⟩ => g

def sparseTensor : AttributeProto → Option SparseTensorProto
  | ⟨_, _, _, sparseTensor, _, _, _⟩ => sparseTensor

def tensors : AttributeProto → List TensorProto
  | ⟨_, _, _, _, tensors, _, _⟩ => tensors

def graphs : AttributeProto → List GraphProto
  | ⟨_, _, _, _, _, graphs, _⟩ => graphs

def sparseTensors : AttributeProto → List SparseTensorProto
  | ⟨_, _, _, _, _, _, sparseTensors⟩ => sparseTensors

structure Typed (attr : AttributeProto) : Prop where
  t : attr.type ≠ .tensor → attr.t = none
  tensors : attr.type ≠ .tensors → attr.tensors = []
  sparseTensor : attr.type ≠ .sparseTensor → attr.sparseTensor = none
  sparseTensors : attr.type ≠ .sparseTensors → attr.sparseTensors = []
  g : attr.type ≠ .graph → attr.g = none
  graphs : attr.type ≠ .graphs → attr.graphs = []

end AttributeProto

def NodeProto.attributes : NodeProto → List AttributeProto
  | ⟨attributes⟩ => attributes

namespace GraphProto

def node : GraphProto → List NodeProto
  | ⟨node, _, _⟩ => node

def initializer : GraphProto → List TensorProto
  | ⟨_, initializer, _⟩ => initializer

def sparseInitializer : GraphProto → List SparseTensorProto
  | ⟨_, _, sparseInitializer⟩ => sparseInitializer

end GraphProto

structure TrainingInfoProto where
  initialization : Option GraphProto := none
  algorithm : Option GraphProto := none

structure FunctionProto where
  node : List NodeProto := []
  attributeProto : List AttributeProto := []

structure ModelProto where
  graph : Option GraphProto := none
  trainingInfo : List TrainingInfoProto := []
  functions : List FunctionProto := []

/-! ## The traversal -/

def verifyTensor (tensor : TensorProto) : Except String Unit :=
  require (tensor.dataLocation ≠ .external ∧ tensor.externalData = []) "ONNX external tensor data is forbidden"

def verifySparseTensor (tensor : SparseTensorProto) : Except String Unit := do
  verifyTensor (tensor.values.getD {})
  verifyTensor (tensor.indices.getD {})

-- Each loop of the source over a repeated field is a function on its list.
mutual

def verifyAttribute : AttributeProto → Except String Unit
  | ⟨type, t, g, sparseTensor, tensors, graphs, sparseTensors⟩ =>
    match type with
    | .tensor => verifyTensor (t.getD {})
    | .tensors => tensors.forM verifyTensor
    | .sparseTensor => verifySparseTensor (sparseTensor.getD {})
    | .sparseTensors => sparseTensors.forM verifySparseTensor
    | .graph => verifyField g
    | .graphs => verifyGraphs graphs
    | _ => .ok ()

def verifyAttributes : List AttributeProto → Except String Unit
  | [] => .ok ()
  | attr :: rest => do
    verifyAttribute attr
    verifyAttributes rest

def verifyNode : NodeProto → Except String Unit
  | ⟨attributes⟩ => verifyAttributes attributes

def verifyNodes : List NodeProto → Except String Unit
  | [] => .ok ()
  | node :: rest => do
    verifyNode node
    verifyNodes rest

def verifyGraph : GraphProto → Except String Unit
  | ⟨node, initializer, sparseInitializer⟩ => do
    initializer.forM verifyTensor
    sparseInitializer.forM verifySparseTensor
    verifyNodes node

def verifyField : Option GraphProto → Except String Unit
  | none => .ok ()
  | some graph => verifyGraph graph

def verifyGraphs : List GraphProto → Except String Unit
  | [] => .ok ()
  | graph :: rest => do
    verifyGraph graph
    verifyGraphs rest

end

/-- `_verify_onnx_bytes`; `load` is `load_model_from_string`, `check` is `onnx.checker.check_model`. -/
def verifyOnnxBytes {Bytes : Type*} (load : Bytes → Except String ModelProto) (check : ModelProto → Except String Unit)
    (modelBytes : Bytes) : Except String Unit := do
  let model ← load modelBytes
  verifyField model.graph
  model.trainingInfo.forM fun training => do
    verifyField training.algorithm
    verifyField training.initialization
  model.functions.forM fun function => verifyNodes function.node
  check model

/-! ## Reachable tensors -/

inductive Message
  | model (model : ModelProto)
  | trainingInfo (training : TrainingInfoProto)
  | function (function : FunctionProto)
  | graph (graph : GraphProto)
  | node (node : NodeProto)
  | attr (attr : AttributeProto)
  | sparseTensor (tensor : SparseTensorProto)
  | tensor (tensor : TensorProto)

inductive Holds : Message → Message → Prop
  | graph {model : ModelProto} {graph : GraphProto} (h : model.graph = some graph) : Holds (.model model) (.graph graph)
  | trainingInfo {model : ModelProto} {training : TrainingInfoProto} (h : training ∈ model.trainingInfo) :
      Holds (.model model) (.trainingInfo training)
  | functions {model : ModelProto} {function : FunctionProto} (h : function ∈ model.functions) :
      Holds (.model model) (.function function)
  | initialization {training : TrainingInfoProto} {graph : GraphProto} (h : training.initialization = some graph) :
      Holds (.trainingInfo training) (.graph graph)
  | algorithm {training : TrainingInfoProto} {graph : GraphProto} (h : training.algorithm = some graph) :
      Holds (.trainingInfo training) (.graph graph)
  | functionNode {function : FunctionProto} {node : NodeProto} (h : node ∈ function.node) :
      Holds (.function function) (.node node)
  | attributeProto {function : FunctionProto} {attr : AttributeProto} (h : attr ∈ function.attributeProto) :
      Holds (.function function) (.attr attr)
  | node {graph : GraphProto} {node : NodeProto} (h : node ∈ graph.node) : Holds (.graph graph) (.node node)
  | initializer {graph : GraphProto} {tensor : TensorProto} (h : tensor ∈ graph.initializer) :
      Holds (.graph graph) (.tensor tensor)
  | sparseInitializer {graph : GraphProto} {tensor : SparseTensorProto} (h : tensor ∈ graph.sparseInitializer) :
      Holds (.graph graph) (.sparseTensor tensor)
  | attributes {node : NodeProto} {attr : AttributeProto} (h : attr ∈ node.attributes) : Holds (.node node) (.attr attr)
  | t {attr : AttributeProto} {tensor : TensorProto} (h : attr.t = some tensor) : Holds (.attr attr) (.tensor tensor)
  | tensors {attr : AttributeProto} {tensor : TensorProto} (h : tensor ∈ attr.tensors) :
      Holds (.attr attr) (.tensor tensor)
  | attrSparseTensor {attr : AttributeProto} {tensor : SparseTensorProto} (h : attr.sparseTensor = some tensor) :
      Holds (.attr attr) (.sparseTensor tensor)
  | sparseTensors {attr : AttributeProto} {tensor : SparseTensorProto} (h : tensor ∈ attr.sparseTensors) :
      Holds (.attr attr) (.sparseTensor tensor)
  | g {attr : AttributeProto} {graph : GraphProto} (h : attr.g = some graph) : Holds (.attr attr) (.graph graph)
  | graphs {attr : AttributeProto} {graph : GraphProto} (h : graph ∈ attr.graphs) : Holds (.attr attr) (.graph graph)
  | values {sparse : SparseTensorProto} {tensor : TensorProto} (h : sparse.values = some tensor) :
      Holds (.sparseTensor sparse) (.tensor tensor)
  | indices {sparse : SparseTensorProto} {tensor : TensorProto} (h : sparse.indices = some tensor) :
      Holds (.sparseTensor sparse) (.tensor tensor)

abbrev Reachable : Message → Message → Prop := ReflTransGen Holds

def TensorProto.Internal (tensor : TensorProto) : Prop := tensor.dataLocation ≠ .external ∧ tensor.externalData = []

theorem verifyTensor_ok_iff {tensor : TensorProto} : verifyTensor tensor = .ok () ↔ tensor.Internal := by
  rw [verifyTensor, require_eq_ok, TensorProto.Internal]

theorem verifySparseTensor_ok_iff {tensor : SparseTensorProto} : verifySparseTensor tensor = .ok () ↔
    (tensor.values.getD {}).Internal ∧ (tensor.indices.getD {}).Internal := by
  rw [verifySparseTensor, bind_ok_iff, verifyTensor_ok_iff]
  constructor
  · rintro ⟨⟨⟩, hvalues, hindices⟩
    exact ⟨verifyTensor_ok_iff.mp hvalues, hindices⟩
  · rintro ⟨hvalues, hindices⟩
    exact ⟨⟨⟩, verifyTensor_ok_iff.mpr hvalues, hindices⟩

theorem verifyAttributes_ok {attributes : List AttributeProto} (h : verifyAttributes attributes = .ok ()) :
    ∀ attr ∈ attributes, verifyAttribute attr = .ok () := by
  induction attributes with
  | nil => exact fun attr hattr => absurd hattr List.not_mem_nil
  | cons first rest ih =>
    rw [verifyAttributes, bind_ok_iff] at h
    obtain ⟨⟨⟩, hfirst, hrest⟩ := h
    exact List.forall_mem_cons.mpr ⟨hfirst, ih hrest⟩

theorem verifyNodes_ok {nodes : List NodeProto} (h : verifyNodes nodes = .ok ()) :
    ∀ node ∈ nodes, verifyNode node = .ok () := by
  induction nodes with
  | nil => exact fun node hnode => absurd hnode List.not_mem_nil
  | cons first rest ih =>
    rw [verifyNodes, bind_ok_iff] at h
    obtain ⟨⟨⟩, hfirst, hrest⟩ := h
    exact List.forall_mem_cons.mpr ⟨hfirst, ih hrest⟩

theorem verifyGraphs_ok {graphs : List GraphProto} (h : verifyGraphs graphs = .ok ()) :
    ∀ graph ∈ graphs, verifyGraph graph = .ok () := by
  induction graphs with
  | nil => exact fun graph hgraph => absurd hgraph List.not_mem_nil
  | cons first rest ih =>
    rw [verifyGraphs, bind_ok_iff] at h
    obtain ⟨⟨⟩, hfirst, hrest⟩ := h
    exact List.forall_mem_cons.mpr ⟨hfirst, ih hrest⟩

variable {graph : GraphProto} {attr : AttributeProto}

theorem verifyGraph_ok (h : verifyGraph graph = .ok ()) :
    (∀ tensor ∈ graph.initializer, verifyTensor tensor = .ok ()) ∧
      (∀ tensor ∈ graph.sparseInitializer, verifySparseTensor tensor = .ok ()) ∧
      ∀ node ∈ graph.node, verifyNode node = .ok () := by
  obtain ⟨node, initializer, sparseInitializer⟩ := graph
  rw [verifyGraph, bind_ok_iff] at h
  obtain ⟨⟨⟩, hinitializer, h⟩ := h
  obtain ⟨⟨⟩, hsparse, hnodes⟩ := bind_ok_iff.mp h
  exact ⟨forM_ok_iff.mp hinitializer, forM_ok_iff.mp hsparse, verifyNodes_ok hnodes⟩

def TrainingInfoProto.Verified (training : TrainingInfoProto) : Prop :=
  verifyField training.algorithm = .ok () ∧ verifyField training.initialization = .ok ()

def Verified : Message → Prop
  | .model model => verifyField model.graph = .ok () ∧ (∀ training ∈ model.trainingInfo, training.Verified) ∧
      ∀ function ∈ model.functions, verifyNodes function.node = .ok ()
  | .trainingInfo training => training.Verified
  | .function function => verifyNodes function.node = .ok ()
  | .graph graph => verifyGraph graph = .ok ()
  | .node node => verifyNode node = .ok ()
  | .attr attr => verifyAttribute attr = .ok ()
  | .sparseTensor tensor => verifySparseTensor tensor = .ok ()
  | .tensor tensor => verifyTensor tensor = .ok ()

theorem named {α : Type*} {type wanted : AttributeType} {field empty : α} (h : type ≠ wanted → field = empty)
    (hfield : field ≠ empty) : type = wanted :=
  Decidable.of_not_not fun hother => hfield (h hother)

theorem verifyAttribute_t (htyped : attr.Typed) (h : verifyAttribute attr = .ok ())
    {tensor : TensorProto} (ht : attr.t = some tensor) : verifyTensor tensor = .ok () := by
  have htype : attr.type = .tensor := named htyped.t (Option.ne_none_iff_exists'.mpr ⟨_, ht⟩)
  obtain ⟨type, t, g, sparseTensor, tensors, graphs, sparseTensors⟩ := attr
  cases htype
  cases ht
  exact h

theorem verifyAttribute_tensors (htyped : attr.Typed) (h : verifyAttribute attr = .ok ())
    {tensor : TensorProto} (ht : tensor ∈ attr.tensors) : verifyTensor tensor = .ok () := by
  have htype : attr.type = .tensors := named htyped.tensors (List.ne_nil_of_mem ht)
  obtain ⟨type, t, g, sparseTensor, tensors, graphs, sparseTensors⟩ := attr
  cases htype
  exact forM_ok_iff.mp h tensor ht

theorem verifyAttribute_sparseTensor (htyped : attr.Typed) (h : verifyAttribute attr = .ok ())
    {tensor : SparseTensorProto} (ht : attr.sparseTensor = some tensor) : verifySparseTensor tensor = .ok () := by
  have htype : attr.type = .sparseTensor := named htyped.sparseTensor (Option.ne_none_iff_exists'.mpr ⟨_, ht⟩)
  obtain ⟨type, t, g, sparseTensor, tensors, graphs, sparseTensors⟩ := attr
  cases htype
  cases ht
  exact h

theorem verifyAttribute_sparseTensors (htyped : attr.Typed) (h : verifyAttribute attr = .ok ())
    {tensor : SparseTensorProto} (ht : tensor ∈ attr.sparseTensors) : verifySparseTensor tensor = .ok () := by
  have htype : attr.type = .sparseTensors := named htyped.sparseTensors (List.ne_nil_of_mem ht)
  obtain ⟨type, t, g, sparseTensor, tensors, graphs, sparseTensors⟩ := attr
  cases htype
  exact forM_ok_iff.mp h tensor ht

theorem verifyAttribute_g (htyped : attr.Typed) (h : verifyAttribute attr = .ok ())
    (hg : attr.g = some graph) : verifyGraph graph = .ok () := by
  have htype : attr.type = .graph := named htyped.g (Option.ne_none_iff_exists'.mpr ⟨_, hg⟩)
  obtain ⟨type, t, g, sparseTensor, tensors, graphs, sparseTensors⟩ := attr
  cases htype
  cases hg
  exact h

theorem verifyAttribute_graphs (htyped : attr.Typed) (h : verifyAttribute attr = .ok ())
    (hg : graph ∈ attr.graphs) : verifyGraph graph = .ok () := by
  have htype : attr.type = .graphs := named htyped.graphs (List.ne_nil_of_mem hg)
  obtain ⟨type, t, g, sparseTensor, tensors, graphs, sparseTensors⟩ := attr
  cases htype
  exact verifyGraphs_ok h graph hg

variable {x y : Message}

def Unvisited : Message → Message → Prop
  | .function _, .attr _ => True
  | _, _ => False

theorem Holds.verified (h : Holds x y) (hvisited : ¬ Unvisited x y) (htyped : ∀ attr, x = .attr attr → attr.Typed)
    (hx : Verified x) : Verified y := by
  cases h with
  | graph h =>
    have hgraph := hx.left
    rw [h] at hgraph
    exact hgraph
  | trainingInfo h => exact hx.right.left _ h
  | functions h => exact hx.right.right _ h
  | initialization h =>
    have hgraph := hx.right
    rw [h] at hgraph
    exact hgraph
  | algorithm h =>
    have hgraph := hx.left
    rw [h] at hgraph
    exact hgraph
  | functionNode h => exact verifyNodes_ok hx _ h
  | attributeProto h => exact absurd trivial hvisited
  | node h => exact (verifyGraph_ok hx).right.right _ h
  | initializer h => exact (verifyGraph_ok hx).left _ h
  | sparseInitializer h => exact (verifyGraph_ok hx).right.left _ h
  | @attributes node attr h =>
    obtain ⟨attributes⟩ := node
    exact verifyAttributes_ok hx attr h
  | t h => exact verifyAttribute_t (htyped _ rfl) hx h
  | tensors h => exact verifyAttribute_tensors (htyped _ rfl) hx h
  | attrSparseTensor h => exact verifyAttribute_sparseTensor (htyped _ rfl) hx h
  | sparseTensors h => exact verifyAttribute_sparseTensors (htyped _ rfl) hx h
  | g h => exact verifyAttribute_g (htyped _ rfl) hx h
  | graphs h => exact verifyAttribute_graphs (htyped _ rfl) hx h
  | values h =>
    have hvalues := (verifySparseTensor_ok_iff.mp hx).left
    rw [h] at hvalues
    exact verifyTensor_ok_iff.mpr hvalues
  | indices h =>
    have hindices := (verifySparseTensor_ok_iff.mp hx).right
    rw [h] at hindices
    exact verifyTensor_ok_iff.mpr hindices

/-! ## Accepted models -/

theorem reachable_model {model : ModelProto} (h : Reachable x (.model model)) : x = .model model := by
  cases h with
  | refl => rfl
  | tail hbefore hlast => cases hlast

theorem reachable_function {model : ModelProto} {function : FunctionProto}
    (h : Reachable (.model model) (.function function)) : function ∈ model.functions := by
  cases h with
  | tail hbefore hlast =>
    cases hlast with
    | functions hfunction =>
      cases reachable_model hbefore
      exact hfunction

theorem reachable_verified {model : ModelProto} (hmodel : Verified (.model model))
    (htyped : ∀ attr, Reachable (.model model) (.attr attr) → attr.Typed) (h : Reachable (.model model) y) :
    Verified y ∨ ∃ function ∈ model.functions, ∃ attr ∈ function.attributeProto, Reachable (.attr attr) y := by
  induction h with
  | refl => exact Or.inl hmodel
  | @tail y z hbefore hlast ih =>
    rcases ih with hverified | ⟨function, hfunction, attr, hattr, hbelow⟩
    · by_cases hvisited : Unvisited y z
      · cases hlast with
        | attributeProto h => exact Or.inr ⟨_, reachable_function hbefore, _, h, .refl⟩
        | _ => exact hvisited.elim
      · have hattr (attr : AttributeProto) (heq : y = .attr attr) : attr.Typed := by
          rw [heq] at hbefore
          exact htyped attr hbefore
        exact Or.inl (hlast.verified hvisited hattr hverified)
    · exact Or.inr ⟨function, hfunction, attr, hattr, hbelow.tail hlast⟩

theorem verifyOnnxBytes_ok {Bytes : Type*} {load : Bytes → Except String ModelProto}
    {check : ModelProto → Except String Unit} {modelBytes : Bytes} {model : ModelProto}
    (hload : load modelBytes = .ok model) (h : verifyOnnxBytes load check modelBytes = .ok ()) :
    Verified (.model model) := by
  rw [verifyOnnxBytes, hload, ok_bind, bind_ok_iff] at h
  obtain ⟨⟨⟩, hgraph, h⟩ := h
  obtain ⟨⟨⟩, htraining, h⟩ := bind_ok_iff.mp h
  obtain ⟨⟨⟩, hfunctions, -⟩ := bind_ok_iff.mp h
  refine ⟨hgraph, fun training hmem => ?_, forM_ok_iff.mp hfunctions⟩
  obtain ⟨⟨⟩, halgorithm, hinitialization⟩ := bind_ok_iff.mp (forM_ok_iff.mp htraining training hmem)
  exact ⟨halgorithm, hinitialization⟩

/-- In an accepted model whose attributes are typed every tensor is internal, if and only if every tensor in a default
attribute of a function is. -/
theorem accepted_internal {Bytes : Type*} (load : Bytes → Except String ModelProto)
    (check : ModelProto → Except String Unit) (modelBytes : Bytes) (model : ModelProto)
    (hload : load modelBytes = .ok model) (htyped : ∀ attr, Reachable (.model model) (.attr attr) → attr.Typed)
    (haccepted : verifyOnnxBytes load check modelBytes = .ok ()) :
    (∀ tensor, Reachable (.model model) (.tensor tensor) → tensor.Internal) ↔
      ∀ function ∈ model.functions, ∀ attr ∈ function.attributeProto,
        ∀ tensor, Reachable (.attr attr) (.tensor tensor) → tensor.Internal := by
  constructor
  · intro hinternal function hfunction attr hattr tensor htensor
    have hreached : Reachable (.model model) (.attr attr) := .tail (.single (.functions hfunction)) (.attributeProto hattr)
    exact hinternal tensor (hreached.trans htensor)
  · intro hdefaults tensor htensor
    rcases reachable_verified (verifyOnnxBytes_ok hload haccepted) htyped htensor with
      hverified | ⟨function, hfunction, attr, hattr, hbelow⟩
    · exact verifyTensor_ok_iff.mp hverified
    · exact hdefaults function hfunction attr hattr tensor hbelow

/-! ## A function with a default attribute -/

namespace Sample

def default (tensor : TensorProto) : AttributeProto := ⟨.tensor, some tensor, none, none, [], [], []⟩

/-- A graph of one node, which calls a function whose attribute `value` defaults to a tensor. -/
def model (tensor : TensorProto) : ModelProto :=
  { graph := some ⟨[⟨[]⟩], [{}], []⟩, functions := [{ node := [⟨[]⟩], attributeProto := [default tensor] }] }

def load (tensor : TensorProto) : Except String ModelProto := .ok (model tensor)

def check (_ : ModelProto) : Except String Unit := .ok ()

def outside : TensorProto := { dataLocation := .external, externalData := [("location", "../../outside.bin")] }

variable {tensor : TensorProto} {y : Message}

def Known (tensor : TensorProto) : Message → Prop
  | .model m => m = model tensor
  | .trainingInfo _ => False
  | .function f => f = { node := [⟨[]⟩], attributeProto := [default tensor] }
  | .graph g => g = ⟨[⟨[]⟩], [{}], []⟩
  | .node n => n = ⟨[]⟩
  | .attr a => a = default tensor
  | .sparseTensor _ => False
  | .tensor t => t = {} ∨ t = tensor

theorem reachable_known (h : Reachable (.model (model tensor)) y) : Known tensor y := by
  induction h with
  | refl => rfl
  | tail hbefore hlast ih =>
    cases hlast with
    | graph h =>
      cases ih
      exact (Option.some.inj h).symm
    | trainingInfo h =>
      cases ih
      cases h
    | functions h =>
      cases ih
      exact List.mem_singleton.mp h
    | initialization h => exact ih.elim
    | algorithm h => exact ih.elim
    | functionNode h =>
      cases ih
      exact List.mem_singleton.mp h
    | attributeProto h =>
      cases ih
      exact List.mem_singleton.mp h
    | node h =>
      cases ih
      exact List.mem_singleton.mp h
    | initializer h =>
      cases ih
      exact Or.inl (List.mem_singleton.mp h)
    | sparseInitializer h =>
      cases ih
      cases h
    | attributes h =>
      cases ih
      cases h
    | t h =>
      cases ih
      exact Or.inr (Option.some.inj h).symm
    | tensors h =>
      cases ih
      cases h
    | attrSparseTensor h =>
      cases ih
      cases h
    | sparseTensors h =>
      cases ih
      cases h
    | g h =>
      cases ih
      cases h
    | graphs h =>
      cases ih
      cases h
    | values h => exact ih.elim
    | indices h => exact ih.elim

theorem typed (attr : AttributeProto) (h : Reachable (.model (model tensor)) (.attr attr)) : attr.Typed := by
  cases reachable_known h
  exact ⟨fun hother => absurd rfl hother, fun _ => rfl, fun _ => rfl, fun _ => rfl, fun _ => rfl, fun _ => rfl⟩

theorem reachable_default : Reachable (.model (model tensor)) (.tensor tensor) :=
  .tail (.tail (.single (.functions List.mem_cons_self)) (.attributeProto List.mem_cons_self)) (.t rfl)

end Sample

/-- A function whose default attribute holds its own data. -/
theorem accepted_internal_default : verifyOnnxBytes Sample.load Sample.check {} = .ok () ∧
    ∀ tensor, Reachable (.model (Sample.model {})) (.tensor tensor) → tensor.Internal := by
  refine ⟨rfl, (accepted_internal Sample.load Sample.check {} (Sample.model {}) rfl Sample.typed rfl).mpr ?_⟩
  intro function hfunction attr hattr tensor htensor
  have hreached : Reachable (.model (Sample.model {})) (.attr attr) :=
    .tail (.single (.functions hfunction)) (.attributeProto hattr)
  rcases Sample.reachable_known (hreached.trans htensor) with rfl | rfl
  · exact ⟨nofun, rfl⟩
  · exact ⟨nofun, rfl⟩

/-- A function whose default attribute names a file outside the bundle is accepted. -/
theorem accepted_external :
    (∀ attr, Reachable (.model (Sample.model Sample.outside)) (.attr attr) → attr.Typed) ∧
      verifyOnnxBytes Sample.load Sample.check Sample.outside = .ok () ∧
      Reachable (.model (Sample.model Sample.outside)) (.tensor Sample.outside) ∧ ¬ Sample.outside.Internal :=
  ⟨Sample.typed, rfl, Sample.reachable_default, fun hinternal => hinternal.left rfl⟩

end PduExamObserver.Showcase.Onnx
