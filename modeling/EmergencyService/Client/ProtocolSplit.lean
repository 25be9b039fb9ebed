import EmergencyService.Foundation.SeparatedPieces
import EmergencyService.Client.ReportLines

/- `StompProtocol::split` with its loops: the words of a command, the lines of an answer and
   those of a report are the pieces that it finds. -/
namespace ProtocolSplit
open JavaRuntime SplitLoops SeparatedPieces

def split (line : Text) (delimiter : Char) : List Text :=
  splitLoop delimiter (fun part _ => if part = [] then [] else [part]) (fun part => [part]) line

theorem split_loops (line : Text) (delimiter : Char) :
    split line delimiter = EventReport.split line delimiter := by
  unfold split
  induction line using @cut_induction Char _ delimiter with
  | whole t free =>
    by_cases empty : t = []
    · subst empty
      rw [loop_nil, ReportLines.split_empty]
    · rw [loop_last free empty, ReportLines.split_piece free empty]
  | cut a rest free ih =>
    rw [loop_cut free, ReportLines.split_append, ih]
    by_cases empty : a = []
    · subst empty
      rw [if_pos rfl, ReportLines.split_empty]
    · rw [if_neg empty, ReportLines.split_piece free empty]

/-- Every maximal piece is returned once, in order, and nothing else; separators at the start,
    at the end or next to another one make no difference. -/
theorem split_exact (line : Text) (delimiter : Char) :
    MaximalPieces delimiter line (split line delimiter) ∧
      (∀ piece ∈ split line delimiter, piece ≠ [] ∧ delimiter ∉ piece) ∧
      ∀ line', Respaced delimiter line line' ↔ split line' delimiter = split line delimiter := by
  have maximal : MaximalPieces delimiter line (split line delimiter) :=
    pieces_maximal delimiter line
  refine ⟨maximal, ?_, ?_⟩
  · intro piece member
    obtain ⟨found, parts, _, all⟩ := maximal
    rw [← parts] at member
    obtain ⟨⟨start, piece'⟩, there, rfl⟩ := List.mem_map.mp member
    have held := (all start piece').mp there
    exact ⟨held.nonempty, held.free⟩
  · intro line'
    rw [eq_comm]
    exact pieces_eq_iff.symm

example : split "  join  police " ' ' = ["join", "police"] := by
  rw [split_loops]
  decide

end ProtocolSplit
