import Mathlib.Data.List.Basic
import Mathlib.Data.List.Nodup

/-! # Folders

A folder of files whose names are compared up to a fold, such as the case of letters. A file keeps the name that it
was created with. -/

namespace PduExamObserver.Folder
set_option autoImplicit false

variable {ν κ β : Type*} [DecidableEq κ] (fold : ν → κ)

/-- The content of the file that the name denotes. -/
def read? (folder : List (ν × β)) (name : ν) : Option β :=
  (folder.find? fun entry => fold entry.1 = fold name).map Prod.snd

def contains (folder : List (ν × β)) (name : ν) : Bool := folder.any fun entry => fold entry.1 = fold name

def remove (folder : List (ν × β)) (name : ν) : List (ν × β) := folder.filter fun entry => fold entry.1 ≠ fold name

/-- Puts a file in place of the one that the name denotes. -/
def put (folder : List (ν × β)) (name : ν) (content : β) : List (ν × β) := remove fold folder name ++ [(name, content)]

/-- No two names denote one file. -/
def Distinct (folder : List (ν × β)) : Prop := (folder.map fun entry => fold entry.1).Nodup

variable {fold} {folder : List (ν × β)} {name other : ν} {content : β} {entry : ν × β}

theorem mem_remove : entry ∈ remove fold folder name ↔ entry ∈ folder ∧ fold entry.1 ≠ fold name := by
  rw [remove, List.mem_filter, decide_eq_true_eq]

theorem mem_put : entry ∈ put fold folder name content ↔
    entry ∈ folder ∧ fold entry.1 ≠ fold name ∨ entry = (name, content) := by
  rw [put, List.mem_append, mem_remove, List.mem_singleton]

theorem Distinct.remove (h : Distinct fold folder) (name : ν) : Distinct fold (remove fold folder name) :=
  h.sublist (List.filter_sublist.map _)

theorem Distinct.put (h : Distinct fold folder) (name : ν) (content : β) : Distinct fold (put fold folder name content) := by
  rw [Distinct, Folder.put, List.map_append, List.nodup_append]
  refine ⟨h.remove name, List.nodup_singleton _, fun key hkey last hlast heq => ?_⟩
  obtain ⟨entry, hentry, rfl⟩ := List.mem_map.mp hkey
  rw [List.map_singleton, List.mem_singleton] at hlast
  exact (mem_remove.mp hentry).2 (heq.trans hlast)

theorem read?_eq_some (h : Distinct fold folder) (hentry : entry ∈ folder) (hname : fold entry.1 = fold name) :
    read? fold folder name = some entry.2 := by
  unfold read?
  cases hfind : folder.find? fun entry => fold entry.1 = fold name with
  | none =>
    rw [List.find?_eq_none] at hfind
    exact absurd (decide_eq_true hname) (hfind entry hentry)
  | some found =>
    have hkey : fold found.1 = fold name := by simpa using List.find?_some hfind
    have hfound : fold found.1 = fold entry.1 := hkey.trans hname.symm
    have heq : found = entry := List.inj_on_of_nodup_map h (List.mem_of_find?_eq_some hfind) hentry hfound
    rw [heq]
    rfl

end PduExamObserver.Folder
