import Mathlib.Tactic.FieldSimp
import Mathlib.Tactic.Linarith
import PduExamObserver.Training.RuntimeExports

/-! # The windows of the runtime

The runtime gives its model a packet of the frames of the last six seconds, and the training package cuts its windows of
the records of the same frames. A packet and a window that start at one frame have the same tensor; their contexts are
means over the frames of six seconds and over ninety frames. -/

namespace PduExamObserver.Training
open ResearchRuntime Rounding Showcase
set_option autoImplicit false

/-! ## Packets -/

structure Packet where
  tensor : Tensor
  context : ContextRow
  sourceKind : SourceKind
  deriving DecidableEq

def modelPacket (arith : Arithmetic) (row : Session) (frames : List Observation) : Except String Packet := do
  let tensor ← resamplePoseWindow arith (frames.map frameSource)
  let context ← aggregateContextRows (frames.map frameContext)
  return { tensor, context, sourceKind := row.sourceKind }

def packetFrames (memory : Memory) (observation : Observation) : List Observation :=
  memory.poseBuffer.filter fun item => observation.capturedNs - 6000000000 ≤ item.capturedNs

/-- At the last of the frames that it has taken, the runtime builds the packet and gives it to the provider. -/
structure Serves (arith : Arithmetic) (emit : EmitEnv) (row : Session) (memory : Memory) (taken : List Observation)
    (observation : Observation) (packet : Packet) : Prop where
  buffer : memory.poseBuffer = taken.foldl pushBounded []
  latest : taken.getLast? = some observation
  due : modelDue emit memory observation.capturedNs (ResearchRuntime.offsetMs taken observation)
  quality : (frameScores emit observation).1 = true
  single : ∀ item ∈ packetFrames memory observation, item.poseCount = 1
  focus : observation.focus ≠ .focusUnknown
  built : modelPacket arith row (packetFrames memory observation) = .ok packet

variable {arith : Arithmetic} {env : LoaderEnv} {emit : EmitEnv} {row : Session} {memory : Memory}
  {taken observations stretch : List Observation} {observation : Observation} {packet : Packet}

/-! ## The frames of a packet -/

theorem foldl_pushBounded (taken : List Observation) : taken.foldl pushBounded [] <:+ taken := by
  induction taken using List.reverseRecOn with
  | nil => exact List.suffix_rfl
  | append_singleton taken observation ih =>
    rw [List.foldl_append, List.foldl_cons, List.foldl_nil, pushBounded]
    obtain ⟨earlier, hearlier⟩ := ih
    refine (List.drop_suffix _ _).trans ⟨earlier, ?_⟩
    rw [← List.append_assoc, hearlier]

theorem filter_suffix {α : Type} {p : α → Bool} {l : List α} (h : l.Pairwise fun a b => p a = true → p b = true) :
    l.filter p <:+ l := by
  induction l with
  | nil => exact List.suffix_rfl
  | cons a rest ih =>
    obtain ⟨ha, hrest⟩ := List.pairwise_cons.mp h
    by_cases hp : p a = true
    · rw [List.filter_eq_self.mpr]
      exact List.forall_mem_cons.mpr ⟨hp, fun b hb => ha b hb hp⟩
    · rw [List.filter_cons_of_neg hp]
      exact (ih hrest).trans (List.suffix_cons a rest)

theorem packetFrames_suffix (hbuffer : memory.poseBuffer = taken.foldl pushBounded [])
    (hincreasing : (taken.map Observation.capturedNs).Pairwise (· < ·)) :
    packetFrames memory observation <:+ taken := by
  have hsuffix : memory.poseBuffer <:+ taken := hbuffer ▸ foldl_pushBounded taken
  refine List.IsSuffix.trans (filter_suffix ?_) hsuffix
  rw [List.pairwise_map] at hincreasing
  refine (hincreasing.sublist hsuffix.sublist).imp fun {a b} hlt hle => ?_
  simp only [decide_eq_true_eq] at hle ⊢
  omega

/-! ## Means -/

theorem columnMean_append {column : ContextRow → Rat} {rows more : List ContextRow} (hrows : rows ≠ [])
    (hmore : more ≠ []) :
    columnMean column (rows ++ more) = columnMean column rows ↔ columnMean column more = columnMean column rows := by
  have hlength : (0 : Rat) < rows.length := by exact_mod_cast List.length_pos_iff.mpr hrows
  have hmoreLength : (0 : Rat) < more.length := by exact_mod_cast List.length_pos_iff.mpr hmore
  unfold columnMean
  rw [List.map_append, List.sum_append, List.length_append, Nat.cast_add, div_eq_div_iff (by positivity) hlength.ne',
    div_eq_div_iff hmoreLength.ne' hlength.ne']
  constructor <;> intro h <;> linarith

def contextOrder : List (ContextRow → Rat) :=
  [ContextRow.visibilityMean, ContextRow.blurScore, ContextRow.exposureScore, ContextRow.frameGapRatio,
    ContextRow.focusFraction, ContextRow.scaledFocusSignalAge]

theorem aggregate_ok_iff {rows : List ContextRow} {context : ContextRow} :
    aggregateContextRows rows = .ok context ↔ rows ≠ [] ∧ ∀ column ∈ contextOrder, column context = columnMean column rows := by
  unfold aggregateContextRows contextOrder
  simp only [bind_ok_iff, require_eq_ok, List.forall_mem_cons, List.not_mem_nil, false_implies, implies_true, and_true]
  constructor
  · rintro ⟨⟨⟩, hnonempty, h⟩
    obtain rfl := Except.ok.inj h
    exact ⟨hnonempty, rfl, rfl, rfl, rfl, rfl, rfl⟩
  · rintro ⟨hnonempty, hvisibility, hblur, hexposure, hgap, hfocus, hage⟩
    refine ⟨(), hnonempty, congrArg Except.ok ?_⟩
    rw [← hvisibility, ← hblur, ← hexposure, ← hgap, ← hfocus, ← hage]

/-- The rows that one of two beginnings of a list has more than the other have in every column the mean of those that
both have. -/
def SameMeans (n m : Nat) (rows : List ContextRow) : Prop :=
  n = m ∨ ∀ column ∈ contextOrder,
    columnMean column ((rows.take (max n m)).drop (min n m)) = columnMean column (rows.take (min n m))

theorem sameMeans_comm {n m : Nat} {rows : List ContextRow} : SameMeans n m rows ↔ SameMeans m n rows := by
  unfold SameMeans
  rw [eq_comm, max_comm, min_comm]

theorem aggregate_eq_iff {n m : Nat} {rows : List ContextRow} {a b : ContextRow} (hn : n ≤ rows.length)
    (hm : m ≤ rows.length) (ha : aggregateContextRows (rows.take n) = .ok a)
    (hb : aggregateContextRows (rows.take m) = .ok b) : a = b ↔ SameMeans n m rows := by
  wlog hle : n ≤ m generalizing n m a b
  · rw [sameMeans_comm, eq_comm]
    exact this hm hn hb ha (Nat.le_of_not_le hle)
  obtain ⟨hrows, hcolumns⟩ := aggregate_ok_iff.mp ha
  obtain ⟨-, hcolumns'⟩ := aggregate_ok_iff.mp hb
  have hequal : a = b ↔ ∀ column ∈ contextOrder, columnMean column (rows.take n) = columnMean column (rows.take m) := by
    constructor
    · rintro rfl column hcolumn
      exact (hcolumns column hcolumn).symm.trans (hcolumns' column hcolumn)
    · intro h
      have hcontext := aggregate_ok_iff.mpr ⟨(aggregate_ok_iff.mp hb).1, fun column hcolumn =>
        (hcolumns column hcolumn).trans (h column hcolumn)⟩
      exact Except.ok.inj (hcontext.symm.trans hb)
  rw [hequal, SameMeans, max_eq_right hle, min_eq_left hle]
  rcases Nat.lt_or_eq_of_le hle with hlt | rfl
  · have hsplit : rows.take m = rows.take n ++ (rows.take m).drop n := by
      conv_lhs => rw [← List.take_append_drop n (rows.take m)]
      rw [List.take_take, min_eq_left hle]
    have hmore : (rows.take m).drop n ≠ [] := by
      refine List.ne_nil_of_length_pos ?_
      rw [List.length_drop, List.length_take]
      omega
    rw [or_iff_right (Nat.ne_of_lt hlt)]
    refine forall₂_congr fun column _ => ?_
    rw [eq_comm, hsplit, columnMean_append hrows hmore, ← hsplit]
  · simp

/-! ## Windows and packets -/

variable {entries : List (String × Observation)} {archive : Archive}
  {loaded : LoadedRuntimeExport} {phase : String} {candidate : List Record} {window : Window} {first : Observation}

def onwards (observations : List Observation) (first : Observation) : List Observation :=
  observations.filter fun item => first.capturedNs ≤ item.capturedNs

theorem prefix_onwards (hincreasing : (observations.map Observation.capturedNs).Pairwise (· < ·))
    (hstretch : stretch <:+: observations) (hfirst : stretch.head?.map Observation.capturedNs = some first.capturedNs) :
    stretch <+: onwards observations first := by
  obtain ⟨earlier, later, rfl⟩ := hstretch
  obtain ⟨start, rest, rfl⟩ := List.exists_cons_of_ne_nil (l := stretch) (by rintro rfl; cases hfirst)
  have hstart : start.capturedNs = first.capturedNs := Option.some.inj hfirst
  rw [List.pairwise_map, List.append_assoc, List.pairwise_append] at hincreasing
  obtain ⟨-, hrest, hearlier⟩ := hincreasing
  rw [List.cons_append, List.pairwise_cons] at hrest
  refine ⟨later, ?_⟩
  rw [onwards, List.append_assoc, List.filter_append, List.filter_eq_nil_iff.mpr, List.nil_append,
    List.filter_eq_self.mpr]
  · intro item hmem
    rcases List.mem_cons.mp hmem with rfl | hmem
    · simp [hstart]
    · have hlt := hrest.1 item hmem
      simp only [decide_eq_true_eq]
      omega
  · intro item hmem
    have hlt := hearlier item hmem start List.mem_cons_self
    simp only [decide_eq_true_eq]
    omega

theorem Builds.selected (h : Builds row phase observations entries archive)
    (hincreasing : (observations.map Observation.capturedNs).Pairwise (· < ·)) (hcandidate : IsCandidate archive candidate) :
    ∃ selected : List (String × Observation), candidate = selected.map (archiveRecord row phase observations archive.manifest) ∧
      (∀ entry ∈ selected, entry.2 ∈ observations) ∧ selected.map Prod.snd <:+: observations := by
  obtain ⟨-, grouped, hgrouped, hstretch⟩ := hcandidate.infix
  rw [h.grouped] at hgrouped
  obtain rfl := List.mem_singleton.mp hgrouped
  rw [h.ordered_of_captured (hincreasing.imp fun hlt => hlt.le), h.records] at hstretch
  obtain ⟨selected, hselected, rfl⟩ := List.infix_map_iff.mp hstretch
  have hframes : selected.map Prod.snd <:+: observations := h.frames ▸ hselected.map _
  exact ⟨selected, rfl, fun entry hmem => hframes.subset (List.mem_map_of_mem hmem), hframes⟩

theorem mapM_contextRow {manifest : Manifest} {l : List (String × Observation)} (h : ∀ entry ∈ l, Accepted entry.2)
    (hclean : row.contaminatedFromSeq = none) :
    (l.map (archiveRecord row phase observations manifest)).mapM contextRow =
      .ok ((l.map Prod.snd).map frameContext) := by
  induction l with
  | nil => rfl
  | cons entry rest ih =>
    obtain ⟨haccepted, hrest⟩ := List.forall_mem_cons.mp h
    rw [List.map_cons, List.mapM_cons, contextRow_archiveRecord haccepted hclean, ok_bind, ih hrest]
    rfl

theorem times_frames (frames : List Observation) : times (frames.map frameSource) = frames.map Observation.capturedNs := by
  rw [times, List.map_map]
  rfl

theorem endsExactly_frames {frames : List Observation}
    (h : ∀ observation ∈ frames, arith.float observation.capturedNs = observation.capturedNs) :
    EndsExactly arith (frames.map frameSource) := by
  unfold EndsExactly
  rw [times_frames]
  rcases List.eq_nil_or_concat frames with rfl | ⟨earlier, last, rfl⟩
  · exact arith.zero
  · rw [List.concat_eq_append, List.map_append, List.map_singleton, List.getLastD_eq_getLast?, List.getLast?_concat]
    exact h last (by simp)

theorem tensor_eq {a b : List SourceFrame} {tensor tensor' : Tensor} (hbegins : a <+: b) (hends : EndsExactly arith a)
    (ha : resamplePoseWindow arith a = .ok tensor) (hb : resamplePoseWindow arith b = .ok tensor') : tensor = tensor' := by
  obtain ⟨later, rfl⟩ := hbegins
  obtain ⟨hvalid, hcovers, -⟩ := resamplePoseWindow_ok_iff.mp ha
  obtain ⟨hall, hcoversAll, -⟩ := resamplePoseWindow_ok_iff.mp hb
  have hsame := (resamplePoseWindow_append hvalid hcovers hends hall hcoversAll).mp hb
  exact Except.ok.inj (ha.symm.trans hsame)

theorem Builds.head_capturedNs (h : Builds row phase observations entries archive) :
    archive.records.head?.map Record.capturedNs = observations.head?.map Observation.capturedNs := by
  have hmap := congrArg List.head? (h.map_eq (f := Record.capturedNs) (g := Observation.capturedNs) fun _ => rfl)
  rwa [List.head?_map, List.head?_map] at hmap

theorem packet_eq_window_of_builds (h : Builds row phase observations entries archive)
    (hclean : row.contaminatedFromSeq = none) (haccepted : ∀ observation ∈ observations, Accepted observation)
    (hincreasing : (observations.map Observation.capturedNs).Pairwise (· < ·))
    (hexact : ∀ observation ∈ observations, env.arith.float observation.capturedNs = observation.capturedNs)
    (htaken : taken <+: observations) (hserves : Serves env.arith emit row memory taken observation packet)
    (hfirst : (packetFrames memory observation).head? = some first) (hcuts : Cuts env archive loaded candidate window)
    (hstart : candidate.head?.map Record.capturedNs = some first.capturedNs) :
    packet.tensor = window.tensor ∧ (packet.context = window.context ↔
      SameMeans (packetFrames memory observation).length windowFrames ((onwards observations first).map frameContext)) := by
  -- both are beginnings of the frames from the first one on
  have hsuffix : packetFrames memory observation <:+ taken :=
    packetFrames_suffix hserves.buffer (hincreasing.sublist (htaken.sublist.map _))
  have hpacket : packetFrames memory observation <+: onwards observations first :=
    prefix_onwards hincreasing (hsuffix.isInfix.trans htaken.isInfix) (by rw [hfirst]; rfl)
  obtain ⟨selected, rfl, hselected, hstretch⟩ := h.selected hincreasing hcuts.isCandidate
  have hwindow : selected.map Prod.snd <+: onwards observations first := by
    refine prefix_onwards hincreasing hstretch ?_
    rw [← hstart]
    cases selected <;> rfl
  have hlong : windowFrames ≤ (selected.map Prod.snd).length := by
    have hlength := hcuts.isCandidate.infix.1
    rwa [List.length_map] at hlength ⊢
  obtain ⟨record, source, hcut⟩ := windowOf_some hcuts.cut
  obtain ⟨-, rfl⟩ := (mapM_sourceFrame_iff fun entry hmem => haccepted _ (hselected entry hmem)).mp hcut.frames
  have hbuilt := hserves.built
  unfold modelPacket at hbuilt
  simp only [bind_ok_iff] at hbuilt
  obtain ⟨tensor, htensor, context, hcontext, hpair⟩ := hbuilt
  obtain rfl := Except.ok.inj hpair
  refine ⟨?_, ?_⟩
  · have hrows : (selected.map fun entry => frameSource entry.2) = (selected.map Prod.snd).map frameSource := by
      rw [List.map_map]
      rfl
    have hcutTensor := hcut.tensor
    rw [hrows] at hcutTensor
    rcases List.prefix_or_prefix_of_prefix hpacket hwindow with hle | hle
    · exact tensor_eq (hle.map frameSource) (endsExactly_frames fun item hmem =>
        hexact item (htaken.subset (hsuffix.subset hmem))) htensor hcutTensor
    · exact (tensor_eq (hle.map frameSource) (endsExactly_frames fun item hmem =>
        hexact item (hstretch.subset hmem)) hcutTensor htensor).symm
  · have hwindowContext : aggregateContextRows (((onwards observations first).map frameContext).take windowFrames) =
        .ok window.context := by
      have hcutContext := hcut.context
      unfold Training.context at hcutContext
      rw [← List.map_take,
        mapM_contextRow (fun entry hmem => haccepted _ (hselected entry (List.mem_of_mem_take hmem))) hclean, ok_bind,
        List.map_take, List.map_take] at hcutContext
      obtain ⟨others, hothers⟩ := hwindow
      rwa [← hothers, List.map_append, List.take_append_of_le_length (by rwa [List.length_map])]
    have hpacketContext : aggregateContextRows (((onwards observations first).map frameContext).take
        (packetFrames memory observation).length) = .ok context := by
      rw [← List.map_take, ← List.prefix_iff_eq_take.mp hpacket]
      exact hcontext
    refine aggregate_eq_iff ?_ ?_ hpacketContext hwindowContext
    · rw [List.length_map]
      exact hpacket.length_le
    · rw [List.length_map]
      exact hlong.trans hwindow.length_le

/-- Where the capture times are floats, a packet and a window of the same frames that start at one frame agree exactly if the packet has ninety frames, or the
frames that only one of the two averages have in every column the mean of the frames that both do. -/
theorem packet_eq_window (setup : Setup) (env : LoaderEnv) (answer : AuthorityAnswer) (contaminated : Nat → Bool)
    (row : Session) (directory : Option Directory) (observations : List Observation) (records : List ExportRecord)
    (sampleIds : List String) (exportId : String) (archive : Archive) (loaded : LoadedRuntimeExport) (emit : EmitEnv)
    (memory : Memory) (taken : List Observation) (observation first : Observation) (packet : Packet)
    (candidate : List Record) (window : Window) (hreal : row.sourceKind = .real)
    (hclean : row.contaminatedFromSeq = none)
    (htimeline : timelineObservations setup row directory = .ok observations)
    (haccepted : ∀ observation ∈ observations, Accepted observation)
    (hincreasing : (observations.map Observation.capturedNs).Pairwise (· < ·))
    (hexact : ∀ observation ∈ observations, env.arith.float observation.capturedNs = observation.capturedNs)
    (hexport : exportRecords setup answer contaminated row directory = .ok records)
    (hdrawn : sampleIds.length = records.length)
    (hbuild : buildResearchExport env.sha256 (documents sampleIds records) exportId = .ok archive)
    (htaken : taken <+: observations) (hserves : Serves env.arith emit row memory taken observation packet)
    (hfirst : (packetFrames memory observation).head? = some first) (hcuts : Cuts env archive loaded candidate window)
    (hstart : candidate.head?.map Record.capturedNs = some first.capturedNs) :
    packet.tensor = window.tensor ∧ packet.context = window.context ↔
      SameMeans (packetFrames memory observation).length windowFrames ((onwards observations first).map frameContext) := by
  obtain ⟨phase, entries, h, -⟩ := exists_builds hreal htimeline hexport hdrawn hbuild
  obtain ⟨htensor, hcontext⟩ :=
    packet_eq_window_of_builds h hclean haccepted hincreasing hexact htaken hserves hfirst hcuts hstart
  rw [← hcontext]
  exact and_iff_right htensor

namespace Sample

variable {stepNs n : Nat}

def provided : EmitEnv where
  frozenRules := none
  authority := ResearchRuntime.Sample.pilot
  orientation := some (0, 0)
  hasModelProvider := true
  infer _ := .ok none

def remembered (taken : List Observation) : Memory := { poseBuffer := taken.foldl pushBounded [] }

theorem foldl_pushBounded_short (taken : List Observation) (h : taken.length ≤ 180) :
    taken.foldl pushBounded [] = taken := by
  induction taken using List.reverseRecOn with
  | nil => rfl
  | append_singleton taken observation ih =>
    rw [List.length_append, List.length_singleton] at h
    rw [List.foldl_append, List.foldl_cons, List.foldl_nil, ih (by omega), pushBounded,
      Nat.sub_eq_zero_of_le (by omega), List.drop_zero]

theorem frames_due (hlong : 2 ≤ n) (hsmall : n ≤ 180) (hdue : 5933333334 ≤ (n - 1) * stepNs) :
    (frames stepNs present n).getLast? = some (frame stepNs present (n - 1)) ∧
      modelDue provided (remembered (frames stepNs present n)) (frame stepNs present (n - 1)).capturedNs
        (ResearchRuntime.offsetMs (frames stepNs present n) (frame stepNs present (n - 1))) := by
  obtain ⟨m, rfl⟩ : ∃ m, n = m + 2 := ⟨n - 2, by omega⟩
  have hbuffer : (remembered (frames stepNs present (m + 2))).poseBuffer = frames stepNs present (m + 2) :=
    foldl_pushBounded_short _ (by simpa [frames] using hsmall)
  have hlast : (frame stepNs present (m + 2 - 1)).capturedNs = ((m + 2 - 1) * stepNs : Nat) := by
    simp [frame]
  obtain ⟨rest, hrest⟩ : ∃ rest, frames stepNs present (m + 2) = frame stepNs present 0 :: frame stepNs present 1 :: rest := by
    rw [frames, List.range_succ_eq_map, List.range_succ_eq_map]
    exact ⟨_, rfl⟩
  refine ⟨?_, _, _, rest, hbuffer.trans hrest, rfl, ?_, ?_⟩
  · rw [frames, List.range_succ, List.map_append, List.map_singleton, List.getLast?_concat]
    rfl
  · rw [hlast]
    simp only [frame]
    omega
  · have hoffset : 0 ≤ ResearchRuntime.offsetMs (frames stepNs present (m + 2)) (frame stepNs present (m + 2 - 1)) := by
      unfold ResearchRuntime.offsetMs
      rw [hlast]
      simp only [frames, List.range_succ_eq_map, List.map_cons, List.head?_cons, Option.map_some, Option.getD_some, frame]
      omega
    simp only [remembered, Option.getD_none]
    omega

theorem exists_packet (hstep : 1000000 ≤ stepNs) (hlong : windowFrames ≤ n) (hsmall : n ≤ 180)
    (hcovers : 89000000000 ≤ 15 * ((n - 1) * stepNs)) (hdue : 5933333334 ≤ (n - 1) * stepNs)
    (hwithin : (n - 1) * stepNs ≤ 6000000000) :
    packetFrames (remembered (frames stepNs present n)) (frame stepNs present (n - 1)) = frames stepNs present n ∧
      ∃ packet, Serves loader.arith provided session (remembered (frames stepNs present n)) (frames stepNs present n)
        (frame stepNs present (n - 1)) packet := by
  obtain ⟨m, rfl⟩ : ∃ m, n = m + 2 := ⟨n - 2, by unfold windowFrames at hlong; omega⟩
  have hbuffer : (remembered (frames stepNs present (m + 2))).poseBuffer = frames stepNs present (m + 2) :=
    foldl_pushBounded_short _ (by simpa [frames] using hsmall)
  have hmem : ∀ item ∈ frames stepNs present (m + 2), 0 ≤ item.capturedNs ∧ item.poseCount = 1 := by
    intro item hitem
    obtain ⟨i, -, rfl⟩ := List.mem_map.mp hitem
    exact ⟨Int.mul_nonneg (Int.natCast_nonneg i) (Int.natCast_nonneg stepNs), rfl⟩
  have hlast : (frame stepNs present (m + 2 - 1)).capturedNs = ((m + 2 - 1) * stepNs : Nat) := by
    simp [frame]
  have hpacket : packetFrames (remembered (frames stepNs present (m + 2))) (frame stepNs present (m + 2 - 1)) =
      frames stepNs present (m + 2) := by
    unfold packetFrames
    rw [hbuffer, List.filter_eq_self]
    intro item hitem
    have hpositive := (hmem item hitem).1
    rw [hlast]
    simp only [decide_eq_true_eq]
    omega
  obtain ⟨tensor, htensor⟩ := exists_tensor hstep (le_trans (by decide) hlong) hcovers
  obtain ⟨packet, hbuilt⟩ : ∃ packet, modelPacket loader.arith session (frames stepNs present (m + 2)) = .ok packet := by
    unfold modelPacket aggregateContextRows
    rw [htensor, require, if_pos (by simp [frames])]
    exact ⟨_, rfl⟩
  have htwo : 2 ≤ m + 2 := by omega
  obtain ⟨hlatest, hmodelDue⟩ := frames_due htwo hsmall hdue
  refine ⟨hpacket, packet, rfl, hlatest, hmodelDue, rfl, ?_, by simp [frame], by rw [hpacket]; exact hbuilt⟩
  rw [hpacket]
  exact fun item hitem => (hmem item hitem).2

theorem frames_prefix {m : Nat} (hle : m ≤ n) : frames stepNs present m <+: frames stepNs present n := by
  refine List.IsPrefix.map _ ⟨(List.range (n - m)).map (m + ·), ?_⟩
  rw [← List.range_add, Nat.add_sub_cancel' hle]

theorem frames_increasing (hstep : 1000000 ≤ stepNs) (n : Nat) :
    ((frames stepNs present n).map Observation.capturedNs).Pairwise (· < ·) := by
  rw [capturedNs_frames, List.pairwise_map]
  refine List.pairwise_lt_range.imp fun {i j} hlt => ?_
  exact_mod_cast Nat.mul_lt_mul_of_pos_right hlt (by omega : 0 < stepNs)

theorem frames_exact (n : Nat) (hsmall : n * stepNs < 2 ^ 53) :
    ∀ observation ∈ frames stepNs present n, loader.arith.float observation.capturedNs = observation.capturedNs := by
  intro observation hmem
  obtain ⟨i, hi, rfl⟩ := List.mem_map.mp hmem
  have hle := lt_of_le_of_lt (Nat.mul_le_mul_right stepNs (List.mem_range.mp hi).le) hsmall
  have htime : (frame stepNs present i).capturedNs = (i * stepNs : Nat) := by simp [frame]
  rw [htime]
  exact toFloat_intCast (abs_lt.mpr ⟨by omega, by exact_mod_cast hle⟩)

end Sample

/-- At fifteen frames a second the first packet is the first window. -/
theorem packet_eq_window_steady : ∃ archive loaded packet window, loadRuntimeExport Sample.loader archive = .ok loaded ∧
    Serves Sample.loader.arith Sample.provided Sample.session (Sample.remembered (Sample.frames 66666667 Sample.present 90))
      (Sample.frames 66666667 Sample.present 90) (Sample.frame 66666667 Sample.present 89) packet ∧
    Cuts Sample.loader archive loaded archive.records window ∧
    packet.tensor = window.tensor ∧ packet.context = window.context := by
  obtain ⟨archive, phase, entries, loaded, h, htimeline, hexport, hbuild, hload, window, hcuts⟩ :=
    @Sample.exists_window 66666667 90 (by decide) (by decide) (by decide) (by decide) (by decide)
  obtain ⟨hframes, packet, hserves⟩ :=
    @Sample.exists_packet 66666667 90 (by decide) (by decide) (by decide) (by decide) (by decide) (by decide)
  have hstart : archive.records.head?.map Record.capturedNs = some 0 := by
    rw [h.head_capturedNs]
    rfl
  refine ⟨archive, loaded, packet, window, hload, hserves, hcuts, ?_⟩
  refine (packet_eq_window ResearchRuntime.Sample.setup Sample.loader ResearchRuntime.Sample.pilot (fun _ => false)
    Sample.session _ _ _ (Sample.drawn 90) "E" archive loaded Sample.provided _ _ _
    (Sample.frame 66666667 Sample.present 0) packet archive.records window rfl rfl htimeline
    (fun observation hmem => ((Sample.frames_accepted (by decide) 90 Sample.present).1 observation hmem).1)
    (Sample.frames_increasing (by decide) 90) (Sample.frames_exact 90 (by decide)) hexport (by simp [Sample.drawn, Sample.exported, Sample.frames]) hbuild
    List.prefix_rfl hserves ?_ hcuts hstart).mpr (.inl ?_)
  · rw [hframes]
    rfl
  · rw [hframes]
    simp [Sample.frames, windowFrames]

/-- At thirty frames a second the first packet averages six seconds and the first window three. -/
theorem packet_ne_window : ∃ archive loaded packet window, loadRuntimeExport Sample.loader archive = .ok loaded ∧
    timelineObservations ResearchRuntime.Sample.setup Sample.session
      (Sample.folder (Sample.frames 33333334 Sample.present 200)) = .ok (Sample.frames 33333334 Sample.present 200) ∧
    exportRecords ResearchRuntime.Sample.setup ResearchRuntime.Sample.pilot (fun _ => false) Sample.session
      (Sample.folder (Sample.frames 33333334 Sample.present 200)) =
        .ok (Sample.exported (Sample.frames 33333334 Sample.present 200)) ∧
    buildResearchExport Sample.loader.sha256
      (documents (Sample.drawn 200) (Sample.exported (Sample.frames 33333334 Sample.present 200))) "E" = .ok archive ∧
    Serves Sample.loader.arith Sample.provided Sample.session (Sample.remembered (Sample.frames 33333334 Sample.present 179))
      (Sample.frames 33333334 Sample.present 179) (Sample.frame 33333334 Sample.present 178) packet ∧
    packetFrames (Sample.remembered (Sample.frames 33333334 Sample.present 179))
      (Sample.frame 33333334 Sample.present 178) = Sample.frames 33333334 Sample.present 179 ∧
    Cuts Sample.loader archive loaded archive.records window ∧
    ¬ (packet.tensor = window.tensor ∧ packet.context = window.context) := by
  obtain ⟨archive, phase, entries, loaded, h, htimeline, hexport, hbuild, hload, window, hcuts⟩ :=
    @Sample.exists_window 33333334 200 (by decide) (by decide) (by decide) (by decide) (by decide)
  obtain ⟨hframes, packet, hserves⟩ :=
    @Sample.exists_packet 33333334 179 (by decide) (by decide) (by decide) (by decide) (by decide) (by decide)
  have hstart : archive.records.head?.map Record.capturedNs = some 0 := by
    rw [h.head_capturedNs]
    rfl
  refine ⟨archive, loaded, packet, window, hload, htimeline, hexport, hbuild, hserves, hframes, hcuts, fun hsame => ?_⟩
  have hmeans := (packet_eq_window_of_builds h rfl
    (fun observation hmem => ((Sample.frames_accepted (by decide) 200 Sample.present).1 observation hmem).1)
    (Sample.frames_increasing (by decide) 200) (Sample.frames_exact 200 (by decide)) (Sample.frames_prefix (by decide)) hserves (by rw [hframes]; rfl) hcuts
    hstart).2.mp hsame.2
  rw [hframes] at hmeans
  rcases hmeans with hcount | hmeans
  · simp [Sample.frames, windowFrames] at hcount
  · have hblur := hmeans ContextRow.blurScore (by simp [contextOrder])
    revert hblur
    decide +kernel

end PduExamObserver.Training
