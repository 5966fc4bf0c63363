import LivepeerTranscode.AbrRunner.Replays
import LivepeerTranscode.Shared.NodeJson

/-!
# The event stream of a response

The text a response has written: its events with their sequence numbers and names, and the
comments that keep the connection alive. An event is three lines and a comment is one; a blank
line follows each of them.
-/

namespace LivepeerTranscode.AbrRunner
open Interaction Actors Checked GoText JsonText
set_option autoImplicit false

/-- `fmt.Fprintf(w, "id: %d\nevent: %s\ndata: %s\n\n", …)` -/
def writeSSEEventV2 (event : StoredSSEEventV2) : List Char :=
  ['i', 'd', ':', ' '] ++ Nat.toDigits 10 event.sequence ++
    '\n' :: ['e', 'v', 'e', 'n', 't', ':', ' '] ++ event.event.toList ++
    '\n' :: ['d', 'a', 't', 'a', ':', ' '] ++ event.data ++ ['\n', '\n']

def keepaliveComment : List Char :=
  [':', ' ', 'k', 'e', 'e', 'p', 'a', 'l', 'i', 'v', 'e', '\n', '\n']

/-- What a call has added to an event stream; a refusal is none. -/
def streamPart : AbrEvent → List Char
  | ⟨.reply (.event stored), true⟩ => writeSSEEventV2 stored
  | ⟨.reply .keepalive, true⟩ => keepaliveComment
  | _ => []

def streamText (calls : List AbrEvent) : List Char := calls.flatMap streamPart

/-! ## Blocks -/

/-- A line that a reader of event streams takes as one. -/
def PlainLine (line : List Char) : Prop := line ≠ [] ∧ ∀ c ∈ line, c ≠ '\n' ∧ c ≠ '\r'

def eventLines (stored : StoredSSEEventV2) : List (List Char) :=
  [['i', 'd', ':', ' '] ++ Nat.toDigits 10 stored.sequence,
    ['e', 'v', 'e', 'n', 't', ':', ' '] ++ stored.event.toList, ['d', 'a', 't', 'a', ':', ' '] ++ stored.data]

def commentLines : List (List Char) := [[':', ' ', 'k', 'e', 'e', 'p', 'a', 'l', 'i', 'v', 'e']]

def streamBlock : AbrEvent → Option (List (List Char))
  | ⟨.reply (.event stored), true⟩ => some (eventLines stored)
  | ⟨.reply .keepalive, true⟩ => some commentLines
  | _ => none

def blockText (lines : List (List Char)) : List Char := ['\n'].intercalate lines

theorem writeSSEEventV2_lines (stored : StoredSSEEventV2) :
    writeSSEEventV2 stored = blockText (eventLines stored) ++ ['\n', '\n'] := by
  unfold writeSSEEventV2 blockText eventLines
  simp only [List.intercalate, List.intersperse_cons_cons, List.intersperse_singleton, List.flatten_cons,
    List.flatten_nil, List.append_nil, List.append_assoc, List.cons_append, List.nil_append]

theorem streamPart_block (call : AbrEvent) :
    streamPart call = ((streamBlock call).map fun lines => blockText lines ++ ['\n', '\n']).getD [] := by
  unfold streamPart streamBlock
  split
  · exact writeSSEEventV2_lines _
  · rfl
  · rfl

theorem streamText_blocks (calls : List AbrEvent) :
    streamText calls = (calls.filterMap streamBlock).flatMap fun lines => blockText lines ++ ['\n', '\n'] := by
  induction calls with
  | nil => rfl
  | cons call calls ih =>
    rw [streamText, List.flatMap_cons, List.filterMap_cons, streamPart_block]
    rw [streamText] at ih
    rw [ih]
    cases streamBlock call with
    | none => rfl
    | some lines => rfl

theorem plain_of_all {text : List Char} (h : (text.all fun c => c != '\n' && c != '\r') = true) :
    ∀ c ∈ text, c ≠ '\n' ∧ c ≠ '\r' := by
  simpa using h

theorem commentLines_plain : ∀ line ∈ commentLines, PlainLine line := by
  intro line hline
  rw [commentLines, List.mem_singleton] at hline
  rw [hline]
  exact ⟨nofun, plain_of_all rfl⟩

theorem eventLines_plain {stored : StoredSSEEventV2} {value : GoValue} (hdata : stored.data = marshal value)
    (hname : stored.event = "progress" ∨ stored.isTerminal) : ∀ line ∈ eventLines stored, PlainLine line := by
  have hdigits : ∀ c ∈ Nat.toDigits 10 stored.sequence, c ≠ '\n' ∧ c ≠ '\r' := by
    intro c hc
    have hdigit := Nat.isDigit_of_mem_toDigits (by omega) (by omega) hc
    constructor <;> (rintro rfl; cases hdigit)
  have hevent : ∀ c ∈ stored.event.toList, c ≠ '\n' ∧ c ≠ '\r' := by
    rcases hname with hname | hname | hname <;> rw [hname] <;> exact plain_of_all rfl
  have hvalue : ∀ c ∈ stored.data, c ≠ '\n' ∧ c ≠ '\r' := by
    intro c hc
    rw [hdata] at hc
    have hprintable := marshal_printable value c hc
    constructor <;> (rintro rfl; revert hprintable; decide)
  have hfront : ∀ {front back : List Char}, (∀ c ∈ front, c ≠ '\n' ∧ c ≠ '\r') → front ≠ [] →
      (∀ c ∈ back, c ≠ '\n' ∧ c ≠ '\r') → PlainLine (front ++ back) := by
    intro front back hfront hne hback
    refine ⟨List.append_ne_nil_of_left_ne_nil hne _, ?_⟩
    intro c hc
    exact (List.mem_append.mp hc).elim (hfront c) (hback c)
  intro line hline
  simp only [eventLines, List.mem_cons, List.not_mem_nil, or_false] at hline
  rcases hline with rfl | rfl | rfl
  · exact hfront (plain_of_all rfl) (by decide) hdigits
  · exact hfront (plain_of_all rfl) (by decide) hevent
  · exact hfront (plain_of_all rfl) (by decide) hvalue

end LivepeerTranscode.AbrRunner
