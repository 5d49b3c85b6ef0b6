import DocPress.Text.Basic

/-!
# Code spans

A code span is a text between two fences of backticks. The fence is one backtick longer than the
longest run inside, so no run inside can close the span. If there is a run at all, a space on
either side keeps one at the ends from growing together with the fence.
-/

namespace DocPress.CodeSpan

/-- The length of the longest run of backticks; `n` of them stand before the text. -/
def longestRun (n : Nat) : Text → Nat
  | [] => n
  | c :: cs => if c = '`' then longestRun (n + 1) cs else max n (longestRun 0 cs)

/-- The text as a code span. -/
def write (t : Text) : Text :=
  let longest := longestRun 0 t
  let fence := List.replicate (longest + 1) '`'
  if longest = 0 then fence ++ t ++ fence else fence ++ ' ' :: t ++ ' ' :: fence

end DocPress.CodeSpan
