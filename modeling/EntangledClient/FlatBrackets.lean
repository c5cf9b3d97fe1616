import Mathlib.Data.List.Infix

/-!
# Flat bracketings

A scan of a list counts how many opened brackets are not closed yet; a closing
bracket that closes nothing is ignored.  A list is flat if the count never
exceeds one and ends at zero.
-/

/-- Which elements open a bracket and which close one. -/
structure Brackets (α : Type*) where
  opens : α → Bool
  closes : α → Bool

namespace Brackets

variable {α β : Type*} (brackets : Brackets α)

/-- The depth after one more element. -/
def next (depth : Nat) (element : α) : Nat :=
  if brackets.opens element then depth + 1
  else if brackets.closes element then depth - 1
  else depth

/-- The depth after a list of elements. -/
def depthAfter (depth : Nat) (elements : List α) : Nat :=
  elements.foldl brackets.next depth

/-- No bracket is opened inside another one, and none is left open. -/
structure Flat (elements : List α) : Prop where
  bounded : ∀ front, front <+: elements → brackets.depthAfter 0 front ≤ 1
  closed : brackets.depthAfter 0 elements = 0

variable {brackets}

theorem depthAfter_append (depth : Nat) (front back : List α) :
    brackets.depthAfter depth (front ++ back) =
      brackets.depthAfter (brackets.depthAfter depth front) back :=
  List.foldl_append

/-- Elements that are no brackets leave the depth as it is. -/
theorem depthAfter_neutral {elements : List α}
    (neutral : ∀ element ∈ elements,
      brackets.opens element = false ∧ brackets.closes element = false) (depth : Nat) :
    brackets.depthAfter depth elements = depth := by
  induction elements with
  | nil => rfl
  | cons element elements ih =>
      obtain ⟨noOpen, noClose⟩ := neutral element (List.mem_cons_self ..)
      have same : brackets.next depth element = depth := by
        simp [next, noOpen, noClose]
      change brackets.depthAfter (brackets.next depth element) elements = depth
      rw [same]
      exact ih fun other member => neutral other (List.mem_cons_of_mem _ member)

theorem flat_nil : brackets.Flat [] where
  bounded := by
    intro front isPrefix
    rw [List.prefix_nil.mp isPrefix]
    exact Nat.zero_le _
  closed := rfl

theorem flat_of_neutral {elements : List α}
    (neutral : ∀ element ∈ elements,
      brackets.opens element = false ∧ brackets.closes element = false) :
    brackets.Flat elements where
  bounded front isPrefix := by
    rw [depthAfter_neutral fun element member => neutral element (isPrefix.subset member)]
    exact Nat.zero_le _
  closed := depthAfter_neutral neutral 0

theorem Flat.append {front back : List α} (first : brackets.Flat front)
    (second : brackets.Flat back) : brackets.Flat (front ++ back) where
  bounded := by
    intro part isPrefix
    rcases List.prefix_or_prefix_of_prefix isPrefix (List.prefix_append front back) with
      inside | beyond
    · exact first.bounded part inside
    · obtain ⟨rest, rfl⟩ := beyond
      rw [depthAfter_append, first.closed]
      exact second.bounded rest ((List.prefix_append_right_inj front).mp isPrefix)
  closed := by
    rw [depthAfter_append, first.closed, second.closed]

theorem Flat.flatten {parts : List (List α)} (flat : ∀ part ∈ parts, brackets.Flat part) :
    brackets.Flat parts.flatten := by
  induction parts with
  | nil => exact flat_nil
  | cons part parts ih =>
      rw [List.flatten_cons]
      exact (flat part (List.mem_cons_self ..)).append
        (ih fun other member => flat other (List.mem_cons_of_mem _ member))

/-- A pair of brackets around elements that are none. -/
theorem flat_wrapped {opening closing : α} {inner : List α}
    (opens : brackets.opens opening = true) (noOpen : brackets.opens closing = false)
    (closes : brackets.closes closing = true)
    (neutral : ∀ element ∈ inner,
      brackets.opens element = false ∧ brackets.closes element = false) :
    brackets.Flat (opening :: (inner ++ [closing])) where
  bounded := by
    intro front isPrefix
    rcases List.prefix_cons_iff.mp isPrefix with rfl | ⟨rest, rfl, inRest⟩
    · exact Nat.zero_le _
    · have opened : brackets.next 0 opening = 1 := by simp [next, opens]
      change brackets.depthAfter (brackets.next 0 opening) rest ≤ 1
      rw [opened]
      rcases List.prefix_concat_iff.mp inRest with rfl | inInner
      · rw [depthAfter_append, depthAfter_neutral neutral]
        simp [depthAfter, next, noOpen, closes]
      · rw [depthAfter_neutral fun element member =>
          neutral element (inInner.subset member)]
  closed := by
    have opened : brackets.next 0 opening = 1 := by simp [next, opens]
    change brackets.depthAfter (brackets.next 0 opening) (inner ++ [closing]) = 0
    rw [opened, depthAfter_append, depthAfter_neutral neutral]
    simp [depthAfter, next, noOpen, closes]

end Brackets
