import Mathlib

/-!
# Advisory locks on files

A table of the locks that open file descriptions hold. A description has a file; it holds
at most one lock, shared or exclusive. A lock can be taken when every other description that
has the file locked shares it and the new lock is shared too.
-/

namespace Flock
set_option autoImplicit false

inductive Mode where
  | shared | exclusive
  deriving DecidableEq

structure Hold (D : Type) where
  owner : D
  mode : Mode
  deriving DecidableEq

section
variable {D F : Type} (file : D → F)

def Grantable (table : List (Hold D)) (d : D) (mode : Mode) : Prop :=
  ∀ hold ∈ table, file hold.owner = file d → hold.owner ≠ d → hold.mode = .shared ∧ mode = .shared

/-- Locks of different descriptions on one file are shared. -/
def Exclusion (table : List (Hold D)) : Prop :=
  ∀ a ∈ table, ∀ b ∈ table, file a.owner = file b.owner → a.owner ≠ b.owner →
    a.mode = .shared ∧ b.mode = .shared

variable {file}

variable {table : List (Hold D)}

theorem Exclusion.mono {table' : List (Hold D)} (h : Exclusion file table)
    (hsub : ∀ hold ∈ table', hold ∈ table) : Exclusion file table' := by
  intro a ha b hb
  exact h a (hsub a ha) b (hsub b hb)

theorem Exclusion.alone (h : Exclusion file table) {a b : Hold D}
    (ha : a ∈ table) (hb : b ∈ table) (hfile : file a.owner = file b.owner)
    (hmode : a.mode = .exclusive) : a.owner = b.owner := by
  by_contra hne
  have hshared := (h a ha b hb hfile hne).1
  rw [hmode] at hshared
  cases hshared

variable [DecidableEq D]

def release (table : List (Hold D)) (d : D) : List (Hold D) :=
  table.filter fun hold => decide (hold.owner ≠ d)

/-- A description that has a lock already exchanges it. -/
def take (table : List (Hold D)) (d : D) (mode : Mode) : List (Hold D) :=
  ⟨d, mode⟩ :: release table d

theorem mem_release {d : D} {hold : Hold D} :
    hold ∈ release table d ↔ hold ∈ table ∧ hold.owner ≠ d := by
  simp [release]

theorem mem_take {d : D} {mode : Mode} {hold : Hold D} :
    hold ∈ take table d mode ↔ hold = ⟨d, mode⟩ ∨ hold ∈ table ∧ hold.owner ≠ d := by
  rw [take, List.mem_cons, mem_release]

theorem Exclusion.take {d : D} {mode : Mode} (h : Exclusion file table)
    (hgrant : Grantable file table d mode) : Exclusion file (take table d mode) := by
  intro a ha b hb hfile hne
  rcases mem_take.mp ha with rfl | ⟨ha, -⟩
  · rcases mem_take.mp hb with rfl | ⟨hb, hother⟩
    · exact absurd rfl hne
    · exact (hgrant b hb hfile.symm hother).symm
  · rcases mem_take.mp hb with rfl | ⟨hb, -⟩
    · exact hgrant a ha hfile hne
    · exact h a ha b hb hfile hne

end

end Flock
