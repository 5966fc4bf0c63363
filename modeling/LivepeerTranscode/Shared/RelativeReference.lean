import Mathlib

/-!
# Relative references

The resolution of a relative-path reference against the path of a base (RFC 3986, 5.2.3 and
5.2.4): the reference replaces what follows the last slash of the base, then the dot segments
are taken out.
-/

namespace RelativeReference
set_option autoImplicit false

/-- The segments after those already taken, which are kept in reverse. -/
def removeDotSegments : List (List Char) → List (List Char) → List (List Char)
  | taken, [] => taken.reverse
  | taken, [last] =>
    if last = ['.'] then ([] :: taken).reverse
    else if last = ['.', '.'] then ([] :: taken.tail).reverse
    else (last :: taken).reverse
  | taken, segment :: next :: rest =>
    if segment = ['.'] then removeDotSegments taken (next :: rest)
    else if segment = ['.', '.'] then removeDotSegments taken.tail (next :: rest)
    else removeDotSegments (segment :: taken) (next :: rest)

def resolve (base reference : List Char) : List Char :=
  ['/'].intercalate (removeDotSegments [] ((base.splitOn '/').dropLast ++ reference.splitOn '/'))

def Proper (segment : List Char) : Prop := segment ≠ ['.'] ∧ segment ≠ ['.', '.']

theorem removeDotSegments_pair (front taken : List (List Char)) {a b : List Char} (ha : Proper a) (hb : Proper b) :
    ∃ kept, removeDotSegments taken (front ++ [a, b]) = kept ++ [a, b] := by
  induction front generalizing taken with
  | nil =>
    refine ⟨taken.reverse, ?_⟩
    simp only [List.nil_append, removeDotSegments, if_neg ha.1, if_neg ha.2, if_neg hb.1, if_neg hb.2]
    simp
  | cons segment front ih =>
    obtain ⟨next, rest, hrest⟩ : ∃ next rest, front ++ [a, b] = next :: rest := by
      cases front with
      | nil => exact ⟨a, [b], rfl⟩
      | cons next front => exact ⟨next, front ++ [a, b], rfl⟩
    rw [List.cons_append, hrest, removeDotSegments, ← hrest]
    split
    · exact ih taken
    · split
      · exact ih taken.tail
      · exact ih (segment :: taken)

theorem intercalate_concat (separator : Char) (segments : List (List Char)) (last : List Char) :
    [separator].intercalate (segments ++ [last]) = segments.flatMap (· ++ [separator]) ++ last := by
  induction segments with
  | nil => exact List.intercalate_singleton
  | cons segment segments ih =>
    obtain ⟨next, rest, hrest⟩ : ∃ next rest, segments ++ [last] = next :: rest := by
      cases segments with
      | nil => exact ⟨last, [], rfl⟩
      | cons next segments => exact ⟨next, segments ++ [last], rfl⟩
    rw [List.cons_append, hrest, List.intercalate_cons_cons, ← hrest, ih, List.flatMap_cons]
    simp only [List.append_assoc]

theorem getLast?_flatMap (separator : Char) (segments : List (List Char)) :
    ∀ c ∈ (segments.flatMap (· ++ [separator])).getLast?, c = separator := by
  intro c hc
  induction segments using List.reverseRecOn with
  | nil => cases hc
  | append_singleton segments segment _ =>
    rw [List.flatMap_append, List.flatMap_singleton, ← List.append_assoc, List.getLast?_concat] at hc
    exact (Option.some.inj hc).symm

theorem resolve_pair (base : List Char) {a b : List Char} (ha : Proper a) (hb : Proper b) (hslash : '/' ∉ a)
    (hslash' : '/' ∉ b) :
    ∃ front, resolve base (a ++ '/' :: b) = front ++ (a ++ '/' :: b) ∧ ∀ c ∈ front.getLast?, c = '/' := by
  have hsegments : (a ++ '/' :: b).splitOn '/' = [a, b] := by
    rw [List.splitOn_append_cons_self_of_not_mem hslash, List.splitOn_eq_singleton hslash']
  obtain ⟨kept, hkept⟩ := removeDotSegments_pair (base.splitOn '/').dropLast [] ha hb
  refine ⟨kept.flatMap (· ++ ['/']), ?_, getLast?_flatMap '/' kept⟩
  have hpair : kept ++ [a, b] = (kept ++ [a]) ++ [b] := by simp
  rw [resolve, hsegments, hkept, hpair, intercalate_concat, List.flatMap_append]
  simp

end RelativeReference
