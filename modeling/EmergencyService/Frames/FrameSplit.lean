import EmergencyService.Foundation.SplitLoops
import EmergencyService.Frames.FrameShape

/- The splitters of both frame classes with their loops, and the normal form of a text that
   the two of them compute. -/
namespace FrameSplit
open JavaRuntime JavaFrame FrameExchange FrameShape SeparatorRuns SplitLoops

/-- `StompFrame.split` of the server. The literal "\n" is added, whatever the delimiter. -/
def javaSplit (line : Text) (delimiter : Char) : List Token :=
  splitLoop delimiter
    (fun part rest =>
      if part = [] then []
      else .part part :: .newline :: if rest.head? = some delimiter then [.newline] else [])
    (fun part => [.part part]) line

/-- `StompFrame::split` of the client. -/
def cppSplit (line : Text) (delimiter : Char) : List Text :=
  splitLoop delimiter
    (fun part rest =>
      if part = [] then []
      else part :: ['\n'] :: if rest.head? = some delimiter then [['\n']] else [])
    (fun part => [part]) line

/-- A token is the newline alone or a piece of a line. -/
def FrameToken (token : Text) : Prop := token = ['\n'] ∨ token ≠ [] ∧ LineFree token

section Loops

theorem java_split_eq (s : Text) : javaSplit s '\n' = split s := by
  unfold javaSplit
  induction s using @cut_induction Char _ '\n' with
  | whole t free =>
    by_cases empty : t = []
    · simp [empty]
    · have line : splitFrom [] (t ++ []) = splitFrom ([] ++ t) [] := split_from_line free []
      rw [loop_last free empty]
      simpa [split, splitFrom, empty] using line.symm
  | cut a rest free ih =>
    rw [loop_cut free, ih]
    by_cases empty : a = []
    · simp [empty]
    · rw [split_line empty free, if_neg empty]

theorem cpp_split_texts (s : Text) (delimiter : Char) :
    cppSplit s delimiter = (javaSplit s delimiter).map Token.text := by
  unfold cppSplit javaSplit
  rw [loop_map]
  congr 1
  funext part rest
  by_cases empty : part = []
  · simp [empty]
  · by_cases again : rest.head? = some delimiter <;> simp [empty, again]

theorem cpp_split_eq (s : Text) : cppSplit s '\n' = CppFrame.split s := by
  rw [cpp_split_texts, java_split_eq, CppFrame.split_texts]

end Loops

theorem split_first (s part : Text) : (splitFrom part s).head? ≠ some .newline := by
  induction s generalizing part with
  | nil => by_cases empty : part = [] <;> simp [splitFrom, empty]
  | cons c rest ih =>
    by_cases line : c = '\n'
    · by_cases empty : part = []
      · simpa [splitFrom, line, empty] using ih []
      · simp [splitFrom, line, empty]
    · simpa [splitFrom, line] using ih (part ++ [c])

theorem frame_token {s : Text} {token : Token} (member : token ∈ split s) :
    FrameToken token.text := by
  have blank : LineFree [] := by simp [LineFree]
  rcases split_token blank token member with rfl | ⟨t, rfl, nonempty, free⟩
  · exact Or.inl rfl
  · exact Or.inr ⟨nonempty, free⟩

theorem first_token (s : Text) : (CppFrame.split s).head? ≠ some ['\n'] := by
  rw [CppFrame.split_texts, List.head?_map]
  intro first
  obtain ⟨token, found, text⟩ := Option.map_eq_some_iff.mp first
  have blank : LineFree [] := by simp [LineFree]
  rcases split_token blank token (List.mem_of_head? found) with rfl | ⟨t, rfl, _, free⟩
  · exact split_first s [] found
  · rw [text_part] at text
    exact free (by simp [text])

/-- The normal form: the newlines in front are gone, and of every other run of newlines at
    most two are left. -/
theorem split_normal_form (s : Text) :
    cppSplit s '\n' = (javaSplit s '\n').map Token.text ∧
      (∀ token ∈ cppSplit s '\n', FrameToken token) ∧
      (cppSplit s '\n').head? ≠ some ['\n'] ∧
      (cppSplit s '\n').flatten = shortened '\n' (s.dropWhile (· = '\n')) := by
  have same := cpp_split_texts s '\n'
  rw [java_split_eq] at same ⊢
  refine ⟨same, ?_, ?_, ?_⟩
  · intro token member
    rw [same] at member
    obtain ⟨token', found, rfl⟩ := List.mem_map.mp member
    exact frame_token found
  · rw [cpp_split_eq]
    exact first_token s
  · rw [same, ← squeezed_eq_shortened, ← glued_eq_squeezed]
    rfl

end FrameSplit
