import PduExamObserver.Native.HandleLeaf

/-! # The leaf is swapped soundly

Whatever the operations answer: a success has read back what it wrote, over what was expected; nothing is written
before the contents have been read as expected; and what was opened is closed once. -/

namespace PduExamObserver.HandleLeaf
open Stateful
set_option autoImplicit false

variable {World α : Type}

/-! ## Calls and states -/

/-- The run has made further calls, all with `P`. -/
def Extends (P : Entry → Prop) (s t : Drive World) : Prop := ∃ new, t.calls = s.calls ++ new ∧ ∀ entry ∈ new, P entry

theorem Extends.refl (P : Entry → Prop) (s : Drive World) : Extends P s s := ⟨[], by simp, by simp⟩

variable {s t : Drive World}

theorem Extends.trans {P : Entry → Prop} {r : Drive World} (h : Extends P r s) (h' : Extends P s t) :
    Extends P r t := by
  obtain ⟨new, hcalls, hnew⟩ := h
  obtain ⟨new', hcalls', hnew'⟩ := h'
  refine ⟨new ++ new', by rw [hcalls', hcalls, List.append_assoc], ?_⟩
  intro entry hentry
  rcases List.mem_append.mp hentry with h | h
  · exact hnew entry h
  · exact hnew' entry h

instance (P : Entry → Prop) : IsPreorder (Drive World) (Extends P) where
  refl := Extends.refl P
  trans _ _ _ h h' := h.trans h'

theorem Extends.mono {P Q : Entry → Prop} (hPQ : ∀ entry, P entry → Q entry)
    (h : Extends P s t) : Extends Q s t := by
  obtain ⟨new, hcalls, hnew⟩ := h
  exact ⟨new, hcalls, fun entry hentry => hPQ entry (hnew entry hentry)⟩

theorem final_perform (call : World → Except Raised α × World) (entry : Except Raised α → Entry) (s : Drive World) :
    final ((perform call entry).run s) = { world := (call s.world).2, calls := s.calls ++ [entry (call s.world).1] } := by
  change final (perform call entry s) = _
  unfold perform
  cases (call s.world).1 <;> rfl

theorem perform_ok {call : World → Except Raised α × World} {entry : Except Raised α → Entry}
    {a : α} (h : (perform call entry).run s = .ok a t) :
    (call s.world).1 = .ok a ∧ t = { world := (call s.world).2, calls := s.calls ++ [entry (.ok a)] } := by
  have hfinal := final_perform call entry s
  rw [h] at hfinal
  have hanswer : (call s.world).1 = .ok a := by
    change perform call entry s = _ at h
    unfold perform at h
    cases hcall : (call s.world).1 with
    | ok b =>
      rw [hcall] at h
      cases h
      rfl
    | error e =>
      rw [hcall] at h
      cases h
  rw [hanswer] at hfinal
  exact ⟨hanswer, hfinal⟩

theorem keeps_perform {P : Entry → Prop} (call : World → Except Raised α × World) {entry : Except Raised α → Entry}
    (h : ∀ answer, P (entry answer)) : Keeps (Extends P) (perform call entry) := by
  intro s
  rw [final_perform]
  exact ⟨[entry (call s.world).1], rfl, by simpa using h _⟩

theorem final_ofExcept (answer : Except Raised α) (s : Drive World) : final ((ofExcept answer).run s) = s := by
  cases answer <;> rfl

theorem ofExcept_ok {answer : Except Raised α} {a : α} (h : (ofExcept answer).run s = .ok a t) :
    answer = .ok a ∧ t = s := by
  cases answer with
  | ok b =>
    cases h
    exact ⟨rfl, rfl⟩
  | error e => cases h

namespace SameHandleLeaf

variable (leaf : SameHandleLeaf World) {handle : Int} {codec : Codec} {payload : Bytes} {expected : Option Bytes}

/-! ## What a method may call -/

section Calls

variable {P : Entry → Prop}

theorem keeps_unless {c : Prop} [Decidable c] {x y : Leaf World α} (hx : Keeps (Extends P) x)
    (hy : Keeps (Extends P) y) : Keeps (Extends P) (if c then x else y) :=
  Keeps.ite (fun _ => hx) fun _ => hy

theorem keeps_ofExcept (answer : Except Raised α) : Keeps (Extends P) (ofExcept answer : Leaf World α) := by
  intro s
  rw [final_ofExcept]
  exact Extends.refl P s

theorem keeps_validPayload : Keeps (Extends P) (validPayload payload codec : Leaf World Bool) :=
  keeps_unless (keeps_ofExcept _) (Keeps.return _)

theorem keeps_exceptException {body : Leaf World α} {caught : α} (h : Keeps (Extends P) body) :
    Keeps (Extends P) (exceptException body caught) :=
  Keeps.tryCatch h fun _ => keeps_unless (Keeps.return _) (Keeps.throw _)

theorem keeps_some {body : Leaf World α} (h : Keeps (Extends P) body) : Keeps (Extends P) (some <$> body) := by
  rw [map_eq_pure_bind]
  exact Keeps.bind h fun _ => Keeps.return _

end Calls

def Looks (handle : Int) (entry : Entry) : Prop := entry.Uses handle ∧ ¬ entry.Mutates

theorem info_looks : Keeps (Extends (Looks handle)) (leaf.info handle) := keeps_perform _ fun _ => ⟨rfl, id⟩

theorem read_looks (limit : Nat) : Keeps (Extends (Looks handle)) (leaf.read handle limit) :=
  keeps_perform _ fun _ => ⟨rfl, id⟩

theorem seekStart_looks : Keeps (Extends (Looks handle)) (leaf.seekStart handle) := keeps_perform _ fun _ => ⟨rfl, id⟩

theorem checkExpected_looks : Keeps (Extends (Looks handle)) (leaf.checkExpected handle expected codec) := by
  unfold checkExpected
  cases expected with
  | none => exact Keeps.return _
  | some bytes =>
    refine Keeps.bind (leaf.read_looks _) fun current => ?_
    cases current with
    | none => exact Keeps.return _
    | some current =>
      exact Keeps.bind keeps_validPayload fun _ => keeps_unless (Keeps.return _) (keeps_unless (Keeps.return _) (Keeps.return _))

theorem writeFrom_uses (rest : Bytes) : Keeps (Extends (Entry.Uses handle)) (leaf.writeFrom handle rest) := by
  induction hlength : rest.length using Nat.strongRecOn generalizing rest with
  | ind n ih =>
    unfold writeFrom
    refine keeps_unless (Keeps.return _) (Keeps.bind (keeps_perform _ fun _ => rfl) fun written => ?_)
    split
    · refine ih _ ?_ _ rfl
      rw [List.length_drop]
      omega
    · exact Keeps.return _

theorem replaceContents_uses : Keeps (Extends (Entry.Uses handle)) (leaf.replaceContents handle payload) := by
  have hseek : Keeps (Extends (Entry.Uses handle)) (leaf.seekStart handle) := keeps_perform _ fun _ => rfl
  unfold replaceContents
  refine Keeps.bind hseek fun _ => keeps_unless (Keeps.return _) ?_
  refine Keeps.bind (leaf.writeFrom_uses payload) fun _ => keeps_unless (Keeps.return _) ?_
  refine Keeps.bind (keeps_perform _ fun _ => rfl) fun _ => keeps_unless (Keeps.return _) ?_
  refine Keeps.bind (keeps_perform _ fun _ => rfl) fun _ => keeps_unless (Keeps.return _) ?_
  refine Keeps.bind hseek fun _ => keeps_unless (Keeps.return _) ?_
  exact Keeps.bind (keeps_perform _ fun _ => rfl) fun _ => keeps_unless (Keeps.return _) (Keeps.return _)

theorem overwrite_uses (handle : Int) (payload : Bytes) (initial : HandleInfo) :
    Keeps (Extends (Entry.Uses handle)) (leaf.overwrite handle initial payload) := by
  unfold overwrite
  refine Keeps.bind leaf.replaceContents_uses fun given => ?_
  cases given with
  | some failure => exact Keeps.return _
  | none =>
    refine Keeps.bind (keeps_perform _ fun _ => rfl) fun last => ?_
    exact keeps_unless (Keeps.return _) (keeps_unless (Keeps.return _) (Keeps.return _))

theorem commitOpen_uses : Keeps (Extends (Entry.Uses handle)) (leaf.commitOpen handle expected payload codec) := by
  have hinfo : Keeps (Extends (Entry.Uses handle)) (leaf.info handle) := keeps_perform _ fun _ => rfl
  have hcheck : Keeps (Extends (Entry.Uses handle)) (leaf.checkExpected handle expected codec) := fun s =>
    (leaf.checkExpected_looks s).mono fun _ h => h.left
  unfold commitOpen
  refine Keeps.bind hinfo fun initial => keeps_unless (Keeps.return _) ?_
  refine Keeps.bind keeps_validPayload fun _ => keeps_unless (Keeps.return _) ?_
  refine Keeps.bind hcheck fun given => ?_
  cases given with
  | some failure => exact Keeps.return _
  | none => exact leaf.overwrite_uses handle payload initial

theorem inspectOpen_looks (handle : Int) (codec : Codec) : Keeps (Extends (Looks handle)) (leaf.inspectOpen handle codec) := by
  unfold inspectOpen
  refine Keeps.bind (keeps_exceptException (keeps_some leaf.info_looks)) fun initial => ?_
  cases initial with
  | none => exact Keeps.return _
  | some initial =>
    refine keeps_unless (Keeps.return _) ?_
    refine Keeps.bind (keeps_exceptException leaf.seekStart_looks) fun _ => keeps_unless (Keeps.return _) ?_
    refine Keeps.bind (keeps_exceptException (leaf.read_looks _)) fun payload => ?_
    cases payload with
    | none => exact Keeps.return _
    | some payload =>
      refine keeps_unless (Keeps.return _) ?_
      refine Keeps.bind (keeps_exceptException (keeps_ofExcept _)) fun _ => keeps_unless (Keeps.return _) ?_
      refine Keeps.bind (keeps_exceptException (keeps_some leaf.info_looks)) fun last => ?_
      cases last with
      | none => exact Keeps.return _
      | some last => exact keeps_unless (Keeps.return _) (keeps_unless (Keeps.return _) (Keeps.return _))

/-! ## What a returned call says -/

def Admitted (codec : Codec) (payload : Bytes) : Prop :=
  0 < payload.length ∧ payload.length ≤ maxAuthorityRecordBytes ∧ codec payload = .ok true

theorem validPayload_true (h : (validPayload payload codec).run s = .ok true t) :
    Admitted codec payload ∧ t = s := by
  unfold validPayload at h
  split at h
  · rename_i hsize
    obtain ⟨hcodec, hstate⟩ := ofExcept_ok h
    exact ⟨⟨hsize.left, hsize.right, hcodec⟩, hstate⟩
  · cases h

theorem info_ok {info : HandleInfo} (h : (leaf.info handle).run s = .ok info t) :
    leaf.ops.file t.world = leaf.ops.file s.world ∧
      leaf.ops.position t.world handle = leaf.ops.position s.world handle ∧
      t.calls = s.calls ++ [.info handle (.ok info)] := by
  obtain ⟨-, rfl⟩ := perform_ok h
  exact ⟨(leaf.ops.info_file handle s.world).left, (leaf.ops.info_file handle s.world).right, rfl⟩

variable {bytes : Bytes} {result : LeafResult}

theorem read_whole (h : (leaf.read handle (maxAuthorityRecordBytes + 1)).run s = .ok (some bytes) t)
    (hstart : leaf.ops.position s.world handle = 0) (hsize : bytes.length ≤ maxAuthorityRecordBytes) :
    leaf.ops.file s.world = some bytes ∧ leaf.ops.file t.world = some bytes ∧
      t.calls = s.calls ++ [.read handle (maxAuthorityRecordBytes + 1) (.ok (some bytes))] := by
  obtain ⟨hanswer, rfl⟩ := perform_ok h
  obtain ⟨contents, hcontents, hbytes⟩ := leaf.ops.read_bytes hanswer
  rw [hstart, List.drop_zero] at hbytes
  have hwhole : bytes = contents := by
    rw [hbytes, List.length_take] at hsize
    rw [hbytes]
    exact List.take_of_length_le (by omega)
  subst hwhole
  exact ⟨hcontents, (leaf.ops.read_file handle _ s.world).trans hcontents, rfl⟩

theorem seekStart_ok (h : (leaf.seekStart handle).run s = .ok true t) :
    leaf.ops.position t.world handle = 0 := by
  obtain ⟨hanswer, rfl⟩ := perform_ok h
  exact leaf.ops.seekStart_position hanswer

theorem checkExpected_ok (h : (leaf.checkExpected handle expected codec).run s = .ok none t)
    (hexpected : expected = some bytes) (hstart : leaf.ops.position s.world handle = 0) :
    leaf.ops.file s.world = some bytes ∧ Admitted codec bytes ∧
      t.calls = s.calls ++ [.read handle (maxAuthorityRecordBytes + 1) (.ok (some bytes))] := by
  subst hexpected
  obtain ⟨current, u, hread, h⟩ := run_bind_eq_ok h
  cases current with
  | none => cases h
  | some current =>
    obtain ⟨admitted, v, hvalid, hrest⟩ := run_bind_eq_ok h
    cases admitted with
    | false => cases hrest
    | true =>
      obtain ⟨hadmitted, rfl⟩ := validPayload_true hvalid
      by_cases hcurrent : current = bytes
      · subst hcurrent
        obtain ⟨hfile, -, hcalls⟩ := leaf.read_whole hread hstart hadmitted.right.left
        rw [if_neg (by simp), if_neg (by simp)] at hrest
        cases hrest
        exact ⟨hfile, hadmitted, hcalls⟩
      · rw [if_neg (by simp), if_pos hcurrent] at hrest
        cases hrest

theorem replaceContents_ok (h : (leaf.replaceContents handle payload).run s = .ok none t)
    (hsize : payload.length ≤ maxAuthorityRecordBytes) : leaf.ops.file t.world = some payload := by
  unfold replaceContents at h
  obtain ⟨started, s₁, -, h⟩ := run_bind_eq_ok h
  cases started
  · cases h
  obtain ⟨written, s₂, -, h⟩ := run_bind_eq_ok h
  cases written
  · cases h
  obtain ⟨truncated, s₃, -, h⟩ := run_bind_eq_ok h
  cases truncated
  · cases h
  obtain ⟨flushed, s₄, -, h⟩ := run_bind_eq_ok h
  cases flushed
  · cases h
  obtain ⟨restarted, s₅, hseek, h⟩ := run_bind_eq_ok h
  cases restarted
  · cases h
  obtain ⟨readback, s₆, hread, h⟩ := run_bind_eq_ok h
  by_cases hreadback : readback = some payload
  · subst hreadback
    rw [if_neg (by simp)] at h
    cases h
    exact (leaf.read_whole hread (leaf.seekStart_ok hseek) hsize).right.left
  · rw [if_pos hreadback] at h
    cases h

theorem overwrite_ok {initial : HandleInfo}
    (h : (leaf.overwrite handle initial payload).run s = .ok result t) (hresult : result.failure = none)
    (hsize : payload.length ≤ maxAuthorityRecordBytes) :
    result.payload = some payload ∧ leaf.ops.file t.world = some payload ∧
      ∃ middle last, t.calls = s.calls ++ (middle ++ [.info handle (.ok last)]) ∧ leaf.valid last ∧
        last.identity = initial.identity := by
  obtain ⟨given, u, hreplace, h⟩ := run_bind_eq_ok h
  cases given with
  | some failure =>
    cases h
    cases hresult
  | none =>
  obtain ⟨last, v, hlast, h⟩ := run_bind_eq_ok h
  by_cases hvalid : leaf.valid last = true
  case neg =>
    rw [if_pos hvalid] at h
    cases h
    cases hresult
  by_cases hidentity : last.identity = initial.identity
  case neg =>
    rw [if_neg (by simpa using hvalid), if_pos hidentity] at h
    cases h
    cases hresult
  rw [if_neg (by simpa using hvalid), if_neg (by simpa using hidentity)] at h
  cases h
  obtain ⟨hfile, -, hcalls⟩ := leaf.info_ok hlast
  obtain ⟨middle, hmiddle, -⟩ := leaf.replaceContents_uses.ok hreplace
  refine ⟨rfl, hfile.trans (leaf.replaceContents_ok hreplace hsize), middle, last, ?_, hvalid, hidentity⟩
  rw [hcalls, hmiddle, List.append_assoc]

theorem commitOpen_ok (h : (leaf.commitOpen handle expected payload codec).run s = .ok result t) (hresult : result.failure = none) :
    result.payload = some payload ∧ Admitted codec payload ∧ leaf.ops.file t.world = some payload ∧
      (∀ bytes, expected = some bytes → leaf.ops.position s.world handle = 0 →
        leaf.ops.file s.world = some bytes ∧ Admitted codec bytes) ∧
      ∃ initial middle last, t.calls = s.calls ++ (.info handle (.ok initial) :: middle ++ [.info handle (.ok last)]) ∧
        leaf.valid initial ∧ leaf.valid last ∧ last.identity = initial.identity := by
  unfold commitOpen at h
  obtain ⟨initial, s₁, hinfo, h⟩ := run_bind_eq_ok h
  by_cases hinitial : leaf.valid initial = true
  case neg =>
    rw [if_pos hinitial] at h
    cases h
    cases hresult
  rw [if_neg (by simpa using hinitial)] at h
  obtain ⟨admitted, s₂, hvalid, hbody⟩ := run_bind_eq_ok h
  cases admitted
  · cases hbody
    cases hresult
  obtain ⟨hadmitted, rfl⟩ := validPayload_true hvalid
  clear h
  obtain ⟨given, s₃, hcheck, h⟩ := run_bind_eq_ok hbody
  cases given with
  | some failure =>
    cases h
    cases hresult
  | none =>
  obtain ⟨hpayload, hleft, middle, last, hmiddle, hlast, hidentity⟩ := leaf.overwrite_ok h hresult hadmitted.right.left
  obtain ⟨hfile, hposition, hcalls⟩ := leaf.info_ok hinfo
  obtain ⟨looks, hlooks, -⟩ := leaf.checkExpected_looks.ok hcheck
  refine ⟨hpayload, hadmitted, hleft, ?_, initial, looks ++ middle, last, ?_, hinitial, hlast, hidentity⟩
  · intro bytes hbytes hstart
    obtain ⟨hfound, hexpected, -⟩ := leaf.checkExpected_ok hcheck hbytes (hposition.trans hstart)
    exact ⟨hfile.symm.trans hfound, hexpected⟩
  · rw [hmiddle, hlooks, hcalls]
    simp

/-! ## Closing -/

theorem run_closing (handle : Int) (message : String) (body : Leaf World LeafResult) (s : Drive World) :
    ∃ result escaped,
      (escaped = none → body.run s ≠ .ok result (final (body.run s)) → result.failure ≠ none) ∧
      (leaf.closing handle message body).run s =
        match (leaf.close handle).run (final (body.run s)) with
        | .ok closed t =>
          match escaped with
          | some e => .error (if closed then e else .group message e (.exception "CLOSE_FAILED")) t
          | none => .ok (if closed then result else failed .closeFailed) t
        | .error closeError t =>
          match escaped with
          | some e => .error (.group message e closeError) t
          | none => .ok (failed .closeFailed) t := by
  cases hbody : body.run s with
  | ok result u =>
    refine ⟨result, none, fun _ h => absurd rfl h, ?_⟩
    simp only [closing, EStateM.run_bind, run_tryCatch, hbody, EStateM.run_pure, final_ok]
    cases (leaf.close handle).run u <;> rfl
  | error e u =>
    refine ⟨failed .handleValidationFailed, if e.isException then none else some e, ?_, ?_⟩
    · exact fun _ _ h => by cases h
    · simp only [closing, EStateM.run_bind, run_tryCatch, hbody, EStateM.run_pure, final_error]
      cases (leaf.close handle).run u with
      | ok closed v => cases e.isException <;> cases closed <;> rfl
      | error closeError v => cases e.isException <;> rfl

theorem final_closing (message : String) (body : Leaf World LeafResult) (s : Drive World) :
    final ((leaf.closing handle message body).run s) = final ((leaf.close handle).run (final (body.run s))) := by
  obtain ⟨result, escaped, -, hrun⟩ := leaf.run_closing handle message body s
  rw [hrun]
  cases (leaf.close handle).run (final (body.run s)) <;> cases escaped <;> rfl

theorem closing_ok {message : String} {body : Leaf World LeafResult} (h : (leaf.closing handle message body).run s = .ok result t) (hresult : result.failure = none) :
    ∃ u, body.run s = .ok result u ∧ (leaf.close handle).run u = .ok true t := by
  obtain ⟨result', escaped, hcaught, hrun⟩ := leaf.run_closing handle message body s
  rw [hrun] at h
  cases hclose : (leaf.close handle).run (final (body.run s)) with
  | error e v =>
    rw [hclose] at h
    cases escaped <;> cases h
    cases hresult
  | ok closed v =>
    rw [hclose] at h
    cases escaped with
    | some e => cases h
    | none =>
      cases closed with
      | false =>
        cases h
        cases hresult
      | true =>
        cases h
        exact ⟨_, by_contra fun hnot => hcaught rfl hnot hresult, hclose⟩

/-! ## Nothing is written before the contents are read as expected -/

/-- Every call that changes the contents comes after a read that answered `expected`. -/
def ReadFirst (expected : Bytes) (calls : List Entry) : Prop :=
  ∀ before entry rest, calls = before ++ entry :: rest → entry.Mutates →
    ∃ handle limit, Entry.read handle limit (.ok (some expected)) ∈ before

theorem ReadFirst.of_no_mutation {calls : List Entry} (h : ∀ entry ∈ calls, ¬ entry.Mutates) :
    ReadFirst bytes calls := by
  intro before entry rest hcalls hmutates
  exact absurd hmutates (h entry (by rw [hcalls]; simp))

theorem ReadFirst.of_read {looks rest : List Entry} {limit : Nat}
    (hlooks : ∀ entry ∈ looks, ¬ entry.Mutates) (hread : .read handle limit (.ok (some bytes)) ∈ looks) :
    ReadFirst bytes (looks ++ rest) := by
  intro before entry after hcalls hmutates
  rcases List.append_eq_append_iff.mp hcalls with ⟨more, hbefore, -⟩ | ⟨more, hbefore, hmore⟩
  · exact ⟨handle, limit, by rw [hbefore]; exact List.mem_append_left _ hread⟩
  · cases more with
    | nil => exact ⟨handle, limit, by rw [← List.append_nil before, ← hbefore]; exact hread⟩
    | cons first others =>
      cases hmore
      exact absurd hmutates (hlooks entry (by rw [hbefore]; simp))

theorem commitOpen_guarded (s : Drive World) :
    Extends (Looks handle) s (final ((leaf.commitOpen handle expected payload codec).run s)) ∨
      Admitted codec payload ∧ ∃ looks rest,
        (final ((leaf.commitOpen handle expected payload codec).run s)).calls = s.calls ++ (looks ++ rest) ∧
        (∀ entry ∈ looks, Looks handle entry) ∧
        ∀ bytes, expected = some bytes → leaf.ops.position s.world handle = 0 →
          leaf.ops.file s.world = some bytes ∧ Admitted codec bytes ∧
          ∃ limit, Entry.read handle limit (.ok (some bytes)) ∈ looks := by
  unfold commitOpen
  cases hrun : (leaf.info handle).run s with
  | error e s₁ =>
    rw [run_bind_error hrun]
    exact .inl (leaf.info_looks.error hrun)
  | ok initial s₁ =>
  have hinfo : Extends (Looks handle) s s₁ := leaf.info_looks.ok hrun
  rw [run_bind_ok hrun]
  by_cases hinitial : leaf.valid initial = true
  case neg =>
    rw [if_pos hinitial]
    exact .inl hinfo
  rw [if_neg (by simpa using hinitial)]
  cases hvalid : (validPayload payload codec : Leaf World Bool).run s₁ with
  | error e s₂ =>
    rw [run_bind_error hvalid]
    exact .inl (hinfo.trans (keeps_validPayload.error hvalid))
  | ok admitted s₂ =>
  rw [run_bind_ok hvalid]
  cases admitted with
  | false => exact .inl (hinfo.trans (keeps_validPayload.ok hvalid))
  | true =>
  obtain ⟨hadmitted, rfl⟩ := validPayload_true hvalid
  cases hcheck : (leaf.checkExpected handle expected codec).run s₂ with
  | error e s₃ =>
    rw [if_neg (by simp), run_bind_error hcheck]
    exact .inl (hinfo.trans (leaf.checkExpected_looks.error hcheck))
  | ok given s₃ =>
  have hcheckLooks : Extends (Looks handle) s₂ s₃ := leaf.checkExpected_looks.ok hcheck
  rw [if_neg (by simp), run_bind_ok hcheck]
  cases given with
  | some failure => exact .inl (hinfo.trans hcheckLooks)
  | none =>
    obtain ⟨hfile, hposition, -⟩ := leaf.info_ok hrun
    obtain ⟨looks, hcalls, hall⟩ := hinfo.trans hcheckLooks
    obtain ⟨rest, hrest, -⟩ := leaf.overwrite_uses handle payload initial s₃
    refine .inr ⟨hadmitted, looks, rest, by rw [← List.append_assoc, ← hcalls]; exact hrest, hall, ?_⟩
    intro bytes hbytes hstart
    obtain ⟨hfound, hexpected, hread⟩ := leaf.checkExpected_ok hcheck hbytes (hposition.trans hstart)
    refine ⟨hfile.symm.trans hfound, hexpected, maxAuthorityRecordBytes + 1, ?_⟩
    have hinfoCalls := (leaf.info_ok hrun).right.right
    rw [hread, hinfoCalls, List.append_assoc, List.append_cancel_left_eq] at hcalls
    rw [← hcalls]
    simp

/-! ## The methods -/

/-- The method opens its handle by `call` and runs `body` with it, or gives up. -/
def Opens (method : Leaf World LeafResult) (call : World → Except Raised (Option Int) × World)
    (entry : Except Raised (Option Int) → Entry) (body : Int → Leaf World LeafResult) : Prop :=
  ∀ s : Drive World,
    let opened : Drive World := { world := (call s.world).2, calls := s.calls ++ [entry (call s.world).1] }
    (∃ handle, (call s.world).1 = .ok (some handle) ∧ method.run s = (body handle).run opened) ∨
      (∀ handle, (call s.world).1 ≠ .ok (some handle)) ∧ final (method.run s) = opened ∧
        ∀ result t, method.run s = .ok result t → result.failure ≠ none

theorem run_perform (call : World → Except Raised α × World) (entry : Except Raised α → Entry) (s : Drive World) :
    (perform call entry).run s =
      let opened : Drive World := { world := (call s.world).2, calls := s.calls ++ [entry (call s.world).1] }
      match (call s.world).1 with
      | .ok answer => .ok answer opened
      | .error e => .error e opened := rfl

theorem create_opens : Opens (leaf.create payload codec) leaf.ops.createNew .createNew fun handle =>
    leaf.commit handle none payload codec := by
  intro s
  unfold create
  rw [EStateM.run_bind, run_perform]
  rcases leaf.ops.createNew s.world with ⟨e | handle | handle, next⟩
  · exact .inr ⟨by simp, rfl, by simp⟩
  · refine .inr ⟨by simp, rfl, ?_⟩
    intro result t h
    cases h
    simp [failed]
  · exact .inl ⟨handle, rfl, rfl⟩

theorem opening_opens (call : World → Except Raised (Option Int) × World)
    (entry : Except Raised (Option Int) → Entry) (missing : LeafFailure) (body : Int → Leaf World LeafResult) :
    Opens (opening (perform call entry) missing body) call entry body := by
  intro s
  simp only [opening, exceptException]
  rw [EStateM.run_bind, run_tryCatch, map_eq_pure_bind, EStateM.run_bind, run_perform]
  rcases call s.world with ⟨e | handle | handle, next⟩
  · refine .inr ⟨by simp, ?_, ?_⟩
    · cases e <;> rfl
    · intro result t h
      cases e <;> cases h
      simp [failed]
  · refine .inr ⟨by simp, rfl, ?_⟩
    intro result t h
    cases h
    simp [failed]
  · exact .inl ⟨handle, rfl, rfl⟩

/-- The calls of a method: an opening that gives no handle, or one whose handle is used and then closed, once. -/
inductive ClosedOnce (entry : Except Raised (Option Int) → Entry) : List Entry → Prop
  | unopened (answer : Except Raised (Option Int)) (h : ∀ handle, answer ≠ .ok (some handle)) :
      ClosedOnce entry [entry answer]
  | closed (handle : Int) (middle : List Entry) (answer : Except Raised Bool) (h : ∀ used ∈ middle, used.Uses handle) :
      ClosedOnce entry (entry (.ok (some handle)) :: (middle ++ [.close handle answer]))

section Opened

variable {method : Leaf World LeafResult} {call : World → Except Raised (Option Int) × World}
  {entry : Except Raised (Option Int) → Entry} {message : String} {body : Int → Leaf World LeafResult}

theorem Opens.calls (h : Opens method call entry fun handle => leaf.closing handle message (body handle))
    (s : Drive World) :
    let opened : Drive World := { world := (call s.world).2, calls := s.calls ++ [entry (call s.world).1] }
    (∃ handle answer, (call s.world).1 = .ok (some handle) ∧
      (final (method.run s)).calls = (final ((body handle).run opened)).calls ++ [.close handle answer]) ∨
    (∀ handle, (call s.world).1 ≠ .ok (some handle)) ∧ (final (method.run s)).calls = opened.calls := by
  intro opened
  rcases h s with ⟨handle, hhandle, hrun⟩ | ⟨hnone, hfinal, -⟩
  · refine .inl ⟨handle, (leaf.ops.close handle (final ((body handle).run opened)).world).1, hhandle, ?_⟩
    rw [hrun, final_closing, close, final_perform]
  · exact .inr ⟨hnone, by rw [hfinal]⟩

theorem Opens.closedOnce (h : Opens method call entry fun handle => leaf.closing handle message (body handle))
    (hbody : ∀ handle, Keeps (Extends (Entry.Uses handle)) (body handle)) (s : Drive World) :
    ∃ new, (final (method.run s)).calls = s.calls ++ new ∧ ClosedOnce entry new := by
  rcases h.calls leaf s with ⟨handle, answer, hhandle, hcalls⟩ | ⟨hnone, hcalls⟩
  · obtain ⟨middle, hmiddle, hall⟩ :=
      hbody handle { world := (call s.world).2, calls := s.calls ++ [entry (call s.world).1] }
    refine ⟨entry (.ok (some handle)) :: (middle ++ [.close handle answer]), ?_, .closed handle middle answer hall⟩
    rw [hcalls, hmiddle, hhandle]
    simp
  · exact ⟨[entry (call s.world).1], hcalls, .unopened _ hnone⟩

theorem Opens.success (h : Opens method call entry fun handle => leaf.closing handle message (body handle))
    (hrun : method.run s = .ok result t) (hresult : result.failure = none) :
    ∃ handle u, (call s.world).1 = .ok (some handle) ∧
      (body handle).run { world := (call s.world).2, calls := s.calls ++ [entry (.ok (some handle))] } =
        .ok result u ∧
      leaf.ops.file t.world = leaf.ops.file u.world ∧ t.calls = u.calls ++ [.close handle (.ok true)] := by
  rcases h s with ⟨handle, hhandle, hsame⟩ | ⟨-, -, hfailed⟩
  · rw [hsame] at hrun
    obtain ⟨u, hbody, hclose⟩ := leaf.closing_ok hrun hresult
    obtain ⟨-, rfl⟩ := perform_ok hclose
    rw [hhandle] at hbody
    exact ⟨handle, u, hhandle, hbody, leaf.ops.close_file handle u.world, rfl⟩
  · exact absurd hresult (hfailed result t hrun)

end Opened

/-! ## The swap -/

/-- What a successful method did: it found what it expected, left its admitted payload as the whole contents, saw
one valid identity between its opening and its closing, and closed the handle. -/
structure Swapped (codec : Codec) (expected : Option Bytes) (payload : Bytes) (before after : Drive World) : Prop where
  found : leaf.ops.file before.world = expected
  left : leaf.ops.file after.world = some payload
  admitted : Admitted codec payload
  expected_admitted : ∀ bytes, expected = some bytes → Admitted codec bytes
  identity : ∃ handle opening initial middle last,
    after.calls = before.calls ++ (opening :: .info handle (.ok initial) :: middle ++
      [.info handle (.ok last), .close handle (.ok true)]) ∧
    leaf.valid initial ∧ leaf.valid last ∧ last.identity = initial.identity

theorem transition_opens {expected : Bytes} : Opens (leaf.transition expected payload codec) leaf.ops.openExisting
    .openExisting fun handle => leaf.commit handle (some expected) payload codec := opening_opens _ _ _ _

theorem inspect_opens : Opens (leaf.inspect codec) leaf.ops.openInspection .openInspection fun handle =>
    leaf.inspectCommit handle codec := opening_opens _ _ _ _

theorem transition_swapped {expected : Bytes} {before after : Drive World}
    (h : (leaf.transition expected payload codec).run before = .ok result after) (hresult : result.failure = none) :
    result.payload = some payload ∧ leaf.Swapped codec (some expected) payload before after := by
  obtain ⟨handle, u, hopen, hbody, hfile, hcalls⟩ := leaf.transition_opens.success leaf h hresult
  obtain ⟨hpayload, hadmitted, hleft, hfound, initial, middle, last, hmiddle, hinitial, hlast, hidentity⟩ :=
    leaf.commitOpen_ok hbody hresult
  obtain ⟨hopened, hposition⟩ := leaf.ops.openExisting_file (Prod.ext hopen rfl)
  obtain ⟨hexpected, hexpectedAdmitted⟩ := hfound expected rfl hposition
  refine ⟨hpayload, hopened.symm.trans hexpected, hfile.trans hleft, hadmitted, ?_, handle,
    .openExisting (.ok (some handle)), initial, middle, last, ?_, hinitial, hlast, hidentity⟩
  · intro bytes hbytes
    cases hbytes
    exact hexpectedAdmitted
  · rw [hcalls, hmiddle]
    simp only [List.append_assoc, List.cons_append, List.nil_append]

theorem create_swapped {before after : Drive World}
    (h : (leaf.create payload codec).run before = .ok result after) (hresult : result.failure = none) :
    result.payload = some payload ∧ leaf.Swapped codec none payload before after := by
  obtain ⟨handle, u, hopen, hbody, hfile, hcalls⟩ := leaf.create_opens.success leaf h hresult
  obtain ⟨hpayload, hadmitted, hleft, -, initial, middle, last, hmiddle, hinitial, hlast, hidentity⟩ :=
    leaf.commitOpen_ok hbody hresult
  obtain ⟨hnew, -⟩ := leaf.ops.createNew_file (Prod.ext hopen rfl)
  refine ⟨hpayload, hnew, hfile.trans hleft, hadmitted, ?_, handle, .createNew (.ok (some handle)), initial,
    middle, last, ?_, hinitial, hlast, hidentity⟩
  · intro bytes hbytes
    cases hbytes
  · rw [hcalls, hmiddle]
    simp only [List.append_assoc, List.cons_append, List.nil_append]

theorem calls_of_commit (codec : Codec) (payload : Bytes) (expected : Option Bytes) {method : Leaf World LeafResult}
    {call : World → Except Raised (Option Int) × World} {entry : Except Raised (Option Int) → Entry} (hentry : ∀ answer, ¬ (entry answer).Mutates)
    (h : Opens method call entry fun handle => leaf.commit handle expected payload codec) (s : Drive World) :
    ∃ new, (final (method.run s)).calls = s.calls ++ new ∧ ClosedOnce entry new ∧
      ((∀ used ∈ new, ¬ used.Mutates) ∨
        Admitted codec payload ∧ ∃ handle, (call s.world).1 = .ok (some handle) ∧
        ∀ bytes, expected = some bytes → leaf.ops.position (call s.world).2 handle = 0 →
          leaf.ops.file (call s.world).2 = some bytes ∧ Admitted codec bytes ∧ ReadFirst bytes new) := by
  obtain ⟨new, hnew, honce⟩ := h.closedOnce leaf (fun _ => leaf.commitOpen_uses) s
  refine ⟨new, hnew, honce, ?_⟩
  rcases h.calls leaf s with ⟨handle, answer, hhandle, hcalls⟩ | ⟨-, hcalls⟩
  · have hsame : ∀ body, (final ((leaf.commitOpen handle expected payload codec).run
        { world := (call s.world).2, calls := s.calls ++ [entry (call s.world).1] })).calls =
          s.calls ++ [entry (call s.world).1] ++ body →
        new = (entry (call s.world).1 :: body) ++ [.close handle answer] := by
      intro body hbody
      rw [hcalls, hbody] at hnew
      simpa using hnew.symm
    rcases leaf.commitOpen_guarded { world := (call s.world).2, calls := s.calls ++ [entry (call s.world).1] }
      with ⟨looks, hlooks, hall⟩ | ⟨hadmitted, looks, rest, hrest, hall, hread⟩
    · left
      rw [hsame looks hlooks]
      intro used hused
      simp only [List.cons_append, List.mem_cons, List.mem_append, List.not_mem_nil, or_false] at hused
      rcases hused with rfl | hused | rfl
      · exact hentry _
      · exact (hall used hused).right
      · exact id
    · refine .inr ⟨hadmitted, handle, hhandle, ?_⟩
      intro bytes hbytes hstart
      obtain ⟨hfound, hexpected, limit, hmem⟩ := hread bytes hbytes hstart
      refine ⟨hfound, hexpected, ?_⟩
      have hnew' : new = (entry (call s.world).1 :: looks) ++ (rest ++ [.close handle answer]) := by
        rw [hsame (looks ++ rest) hrest]
        simp
      rw [hnew']
      refine ReadFirst.of_read ?_ (List.mem_cons_of_mem _ hmem)
      intro used hused
      rcases List.mem_cons.mp hused with rfl | hused
      · exact hentry _
      · exact (hall used hused).right
  · left
    have hnew' : new = [entry (call s.world).1] := by
      rw [hcalls] at hnew
      simpa using hnew.symm
    rw [hnew']
    simpa using hentry _

theorem calls_of_inspect (s : Drive World) :
    ∃ new, (final ((leaf.inspect codec).run s)).calls = s.calls ++ new ∧ ClosedOnce .openInspection new ∧
      ∀ used ∈ new, ¬ used.Mutates := by
  have huses : ∀ handle, Keeps (Extends (Entry.Uses handle)) (leaf.inspectOpen handle codec) := fun handle s =>
    (leaf.inspectOpen_looks handle codec s).mono fun _ h => h.left
  obtain ⟨new, hnew, honce⟩ := leaf.inspect_opens.closedOnce leaf huses s
  refine ⟨new, hnew, honce, ?_⟩
  rcases leaf.inspect_opens.calls leaf s with ⟨handle, answer, hhandle, hcalls⟩ | ⟨-, hcalls⟩
  · obtain ⟨looks, hlooks, hall⟩ := leaf.inspectOpen_looks handle codec
      { world := (leaf.ops.openInspection s.world).2,
        calls := s.calls ++ [.openInspection (leaf.ops.openInspection s.world).1] }
    have hnew' : new = (.openInspection (leaf.ops.openInspection s.world).1 :: looks) ++ [.close handle answer] := by
      rw [hcalls, hlooks] at hnew
      simpa using hnew.symm
    rw [hnew']
    intro used hused
    simp only [List.cons_append, List.mem_cons, List.mem_append, List.not_mem_nil, or_false] at hused
    rcases hused with rfl | hused | rfl
    · exact id
    · exact (hall used hused).right
    · exact id
  · have hnew' : new = [.openInspection (leaf.ops.openInspection s.world).1] := by
      rw [hcalls] at hnew
      simpa using hnew.symm
    rw [hnew']
    simp [Entry.Mutates]

/-- Whatever the operations and the codec answer, a successful `transition` or `create` has swapped the contents; a
`transition` changes nothing before it has read `expected`, and nothing if the contents or a byte string are not as
they must be; `inspect` changes nothing; and every opened handle is closed once, also when the method raises. -/
theorem leaf_swap (codec : Codec) (expected payload : Bytes) (before : Drive World) :
    (∀ result after, (leaf.transition expected payload codec).run before = .ok result after →
      result.failure = none → result.payload = some payload ∧ leaf.Swapped codec (some expected) payload before after) ∧
    (∀ result after, (leaf.create payload codec).run before = .ok result after →
      result.failure = none → result.payload = some payload ∧ leaf.Swapped codec none payload before after) ∧
    (∃ new, (final ((leaf.transition expected payload codec).run before)).calls = before.calls ++ new ∧
      ClosedOnce .openExisting new ∧ ReadFirst expected new ∧
      (leaf.ops.file before.world ≠ some expected ∨ ¬ Admitted codec expected ∨ ¬ Admitted codec payload →
        ∀ entry ∈ new, ¬ entry.Mutates)) ∧
    (∃ new, (final ((leaf.create payload codec).run before)).calls = before.calls ++ new ∧
      ClosedOnce .createNew new ∧
      (leaf.ops.file before.world ≠ none ∨ ¬ Admitted codec payload → ∀ entry ∈ new, ¬ entry.Mutates)) ∧
    ∃ new, (final ((leaf.inspect codec).run before)).calls = before.calls ++ new ∧
      ClosedOnce .openInspection new ∧ ∀ entry ∈ new, ¬ entry.Mutates := by
  refine ⟨fun _ _ => leaf.transition_swapped, fun _ _ => leaf.create_swapped, ?_, ?_, leaf.calls_of_inspect before⟩
  · obtain ⟨new, hnew, honce, hquiet⟩ := leaf.calls_of_commit codec payload (some expected) (fun _ => id)
      leaf.transition_opens before
    refine ⟨new, hnew, honce, ?_⟩
    rcases hquiet with hquiet | ⟨hadmitted, handle, hopen, hread⟩
    · exact ⟨ReadFirst.of_no_mutation hquiet, fun _ => hquiet⟩
    · obtain ⟨hopened, hposition⟩ := leaf.ops.openExisting_file (Prod.ext hopen rfl)
      obtain ⟨hfound, hexpected, hfirst⟩ := hread expected rfl hposition
      refine ⟨hfirst, ?_⟩
      rintro (hfile | hcodec | hcodec)
      · exact absurd (hopened.symm.trans hfound) hfile
      · exact absurd hexpected hcodec
      · exact absurd hadmitted hcodec
  · obtain ⟨new, hnew, honce, hquiet⟩ := leaf.calls_of_commit codec payload none (fun _ => id) leaf.create_opens before
    refine ⟨new, hnew, honce, ?_⟩
    rcases hquiet with hquiet | ⟨hadmitted, handle, hopen, -⟩
    · exact fun _ => hquiet
    · obtain ⟨hnone, -⟩ := leaf.ops.createNew_file (Prod.ext hopen rfl)
      rintro (hfile | hcodec)
      · exact absurd hnone hfile
      · exact absurd hadmitted hcodec

end SameHandleLeaf

/-! ## A file on a disk -/

namespace Sample

/-- One file, and the position of the one handle. -/
structure Disk where
  file : Option Bytes
  position : Nat

def Disk.open (disk : Disk) : Except Raised (Option Int) × Disk :=
  if disk.file.isSome then (.ok (some 3), { disk with position := 0 }) else (.ok none, disk)

def Disk.slice (disk : Disk) (limit : Nat) : Option Bytes := disk.file.map fun bytes => (bytes.drop disk.position).take limit

/-- Operations that write two bytes at a time. -/
def ops : HandleOps Disk where
  file := Disk.file
  position disk _ := disk.position
  createNew disk := if disk.file.isSome then (.ok none, disk) else (.ok (some 3), ⟨some [], 0⟩)
  openExisting := Disk.open
  openInspection := Disk.open
  info _ disk := (.ok ⟨true, false, false, false, 1, "c:\\leaf", "1:7", 0⟩, disk)
  read _ limit disk := (.ok (disk.slice limit), { disk with position := disk.position + ((disk.slice limit).getD []).length })
  seekStart _ disk := (.ok true, { disk with position := 0 })
  write _ data disk := (.ok (data.take 2).length, {
    file := disk.file.map fun bytes => bytes.take disk.position ++ data.take 2 ++ bytes.drop (disk.position + (data.take 2).length)
    position := disk.position + (data.take 2).length })
  truncate _ disk := (.ok true, { disk with file := disk.file.map (·.take disk.position) })
  flush _ disk := (.ok true, disk)
  close _ disk := (.ok true, disk)
  createNew_file := by
    intro disk next handle h
    split_ifs at h with hfile
    · cases h
    · cases h
      exact ⟨Option.not_isSome_iff_eq_none.mp hfile, rfl⟩
  openExisting_file := by
    intro disk next handle h
    unfold Disk.open at h
    split_ifs at h <;> cases h
    exact ⟨rfl, rfl⟩
  info_file := fun _ _ => ⟨rfl, rfl⟩
  read_file := fun _ _ _ => rfl
  read_bytes := by
    intro handle limit disk bytes h
    obtain ⟨contents, hfile, rfl⟩ := Option.map_eq_some_iff.mp (Except.ok.inj h)
    exact ⟨contents, hfile, rfl⟩
  seekStart_file := fun _ _ => rfl
  seekStart_position := fun _ => rfl
  flush_file := fun _ _ => rfl
  close_file := fun _ _ => rfl

def leaf : SameHandleLeaf Disk := ⟨ops, "c:/leaf", id⟩

def before : Drive Disk := ⟨⟨some [1, 2, 3], 0⟩, []⟩

def codec : Codec := fun bytes => .ok (bytes.length < 9)

def succeeded : EStateM.Result Raised (Drive Disk) LeafResult → Bool
  | .ok result _ => result.failure.isNone
  | .error _ _ => false

end Sample

theorem leaf_swap_short : ∃ result after,
    (Sample.leaf.transition [1, 2, 3] [4, 5, 6, 7, 8] Sample.codec).run Sample.before = .ok result after ∧
    result.payload = some [4, 5, 6, 7, 8] ∧
    Sample.leaf.Swapped Sample.codec (some [1, 2, 3]) [4, 5, 6, 7, 8] Sample.before after := by
  have hsucceeds : Sample.succeeded
      ((Sample.leaf.transition [1, 2, 3] [4, 5, 6, 7, 8] Sample.codec).run Sample.before) = true := by decide +kernel
  have hswap := (Sample.leaf.leaf_swap Sample.codec [1, 2, 3] [4, 5, 6, 7, 8] Sample.before).1
  cases hrun : (Sample.leaf.transition [1, 2, 3] [4, 5, 6, 7, 8] Sample.codec).run Sample.before with
  | ok result after =>
    rw [hrun] at hsucceeds
    exact ⟨result, after, rfl, hswap result after hrun (Option.isNone_iff_eq_none.mp hsucceeds)⟩
  | error e after =>
    rw [hrun] at hsucceeds
    cases hsucceeds

end PduExamObserver.HandleLeaf
