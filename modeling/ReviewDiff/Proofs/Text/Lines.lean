import Mathlib.Data.List.Infix
import ReviewDiff.Proofs.Text.Points
import ReviewDiff.Text.Line

/-!
# Lines and what ends them

A line feed ends a line, together with the carriage return directly in front of it if there is
one. Every text is cut at these terminators in one way only. The lines of the cut, in their order,
are the records of the text, with one exception: the carriage return of a text that ends in one
belongs to no terminator and is dropped all the same.
-/

set_option autoImplicit false

namespace ReviewDiff

inductive Terminator where
  | lf
  | crlf
  deriving DecidableEq, Repr

namespace Terminator

def front : Terminator → Points
  | .lf => []
  | .crlf => [carriageReturn]

def chars (t : Terminator) : Points := t.front ++ [lineFeed]

theorem feed_not_mem_front (t : Terminator) : lineFeed ∉ t.front := by
  cases t <;> simp [front]

end Terminator

@[ext]
structure EndedLine where
  line : Points
  terminator : Terminator
  feedless : lineFeed ∉ line
  /-- The terminator takes along a carriage return in front of the line feed. -/
  whole : terminator = .lf → line.getLast? ≠ some carriageReturn

namespace EndedLine

def chars (e : EndedLine) : Points := e.line ++ e.terminator.chars

def piece (e : EndedLine) : Points := e.line ++ e.terminator.front

theorem chars_eq (e : EndedLine) : e.chars = e.piece ++ [lineFeed] := by
  simp [chars, piece, Terminator.chars]

theorem feed_not_mem_piece (e : EndedLine) : lineFeed ∉ e.piece := by
  simp [piece, e.feedless, e.terminator.feed_not_mem_front]

theorem piece_getLast? (e : EndedLine) :
    e.piece.getLast? = some carriageReturn ↔ e.terminator = .crlf := by
  rcases e with ⟨line, terminator, -, whole⟩
  cases terminator with
  | lf => simpa [piece, Terminator.front] using whole
  | crlf => simp [piece, Terminator.front]

@[simp] theorem stripReturn_piece (e : EndedLine) : LineRecord.stripReturn e.piece = e.line := by
  rw [LineRecord.stripReturn]
  cases hterminator : e.terminator with
  | lf =>
    have hlast : e.piece.getLast? ≠ some carriageReturn := by simp [piece_getLast?, hterminator]
    rw [if_neg hlast]
    simp [piece, hterminator, Terminator.front]
  | crlf =>
    have hlast : e.piece.getLast? = some carriageReturn := by simp [piece_getLast?, hterminator]
    rw [if_pos hlast]
    simp [piece, hterminator, Terminator.front]

theorem piece_injective : Function.Injective piece := by
  intro a b h
  have hterminator : a.terminator = b.terminator := by
    have hreturns := congrArg (fun piece : Points => piece.getLast? = some carriageReturn) h
    simp only [piece_getLast?, eq_iff_iff] at hreturns
    cases ha : a.terminator <;> cases hb : b.terminator <;> simp_all
  apply EndedLine.ext
  · rw [← stripReturn_piece a, h, stripReturn_piece]
  · exact hterminator

theorem exists_piece {piece : Points} (h : lineFeed ∉ piece) :
    ∃ e : EndedLine, e.piece = piece := by
  by_cases hlast : piece.getLast? = some carriageReturn
  · have hpiece : piece.dropLast ++ [carriageReturn] = piece :=
      List.dropLast_append_getLast? carriageReturn hlast
    refine ⟨⟨piece.dropLast, .crlf, fun hmem => h (List.mem_of_mem_dropLast hmem), ?_⟩, hpiece⟩
    simp
  · exact ⟨⟨piece, .lf, h, fun _ => hlast⟩, by simp [EndedLine.piece, Terminator.front]⟩

end EndedLine

/-- A text that is cut at every terminator. -/
@[ext]
structure Cut where
  ended : List EndedLine
  /-- What stands behind the last terminator. -/
  rest : Points
  feedless : lineFeed ∉ rest

namespace Cut

def text (cut : Cut) : Points := cut.ended.flatMap EndedLine.chars ++ cut.rest

/-- The lines of the text. What stands behind the last terminator is one if it is not empty. -/
def lines (cut : Cut) : List Points :=
  cut.ended.map EndedLine.line ++ if cut.rest = [] then [] else [cut.rest]

theorem pieces_text (cut : Cut) :
    cut.text.splitOn lineFeed = cut.ended.map EndedLine.piece ++ [cut.rest] := by
  rcases cut with ⟨ended, rest, feedless⟩
  simp only [text]
  induction ended with
  | nil => exact List.splitOn_eq_singleton feedless
  | cons e ended ih =>
    simp only [List.flatMap_cons, e.chars_eq, List.append_assoc, List.cons_append,
      List.nil_append]
    rw [List.splitOn_append_cons_self, List.splitOn_eq_singleton e.feed_not_mem_piece, ih]
    simp

theorem text_injective : Function.Injective text := by
  intro a b h
  have hpieces :
      a.ended.map EndedLine.piece ++ [a.rest] = b.ended.map EndedLine.piece ++ [b.rest] := by
    rw [← pieces_text, h, pieces_text]
  obtain ⟨hended, hrest⟩ := List.append_inj' hpieces rfl
  apply Cut.ext
  · exact List.map_injective_iff.mpr EndedLine.piece_injective hended
  · exact List.singleton_injective hrest

theorem exists_join {pieces : List Points} (hne : pieces ≠ [])
    (h : ∀ piece ∈ pieces, lineFeed ∉ piece) :
    ∃ cut : Cut, cut.text = List.intercalate [lineFeed] pieces := by
  -- all pieces but the last one are ended by the feed behind them
  induction pieces with
  | nil => exact absurd rfl hne
  | cons piece pieces ih =>
    have hpiece : lineFeed ∉ piece := h piece List.mem_cons_self
    by_cases hlast : pieces = []
    · exact ⟨⟨[], piece, hpiece⟩, by simp [text, hlast]⟩
    · obtain ⟨e, he⟩ := EndedLine.exists_piece hpiece
      obtain ⟨cut, hcut⟩ := ih hlast fun other hmem => h other (List.mem_cons_of_mem piece hmem)
      refine ⟨⟨e :: cut.ended, cut.rest, cut.feedless⟩, ?_⟩
      rw [List.intercalate_cons_of_ne_nil hlast, ← hcut, ← he]
      simp [text, e.chars_eq]

theorem exists_text (s : Points) : ∃ cut : Cut, ∀ other : Cut, other.text = s ↔ other = cut := by
  have hpieces : ∀ piece ∈ s.splitOn lineFeed, lineFeed ∉ piece := fun _ => separator_not_mem
  obtain ⟨cut, hcut⟩ := exists_join (List.splitOn_ne_nil lineFeed s) hpieces
  rw [List.intercalate_splitOn] at hcut
  refine ⟨cut, fun other => ?_⟩
  rw [← hcut]
  exact text_injective.eq_iff

theorem text_getLast? (cut : Cut) :
    cut.text.getLast? = some carriageReturn ↔ cut.rest.getLast? = some carriageReturn := by
  rcases cut with ⟨ended, rest, feedless⟩
  by_cases hrest : rest = []
  · rcases List.eq_nil_or_concat ended with rfl | ⟨front, e, rfl⟩
    · simp [text]
    · simp [text, hrest, EndedLine.chars, Terminator.chars]
  · simp [text, List.getLast?_append, List.getLast?_eq_some_getLast hrest]

end Cut

namespace LineRecord

theorem dropFinalEmpty_concat (pieces : List Points) (last : Points) :
    dropFinalEmpty (pieces ++ [last]) = pieces ++ if last = [] then [] else [last] := by
  induction pieces with
  | nil => simp [dropFinalEmpty, List.isEmpty_iff]
  | cons piece pieces ih =>
    rw [List.cons_append, dropFinalEmpty, ih, List.cons_append]
    simp

theorem contents_text (cut : Cut) : contents cut.text =
    cut.ended.map EndedLine.line ++ if cut.rest = [] then [] else [stripReturn cut.rest] := by
  rw [contents, cut.pieces_text, dropFinalEmpty_concat]
  by_cases hrest : cut.rest = [] <;>
    simp [hrest]

@[simp] theorem number_indices (index : Nat) (lines : List Points) :
    (number index lines).map (·.index) = List.range' index lines.length := by
  induction lines generalizing index with
  | nil => rfl
  | cons line lines ih => simp [number, ih, List.range'_succ]

@[simp] theorem number_texts (index : Nat) (lines : List Points) :
    texts (number index lines) = lines := by
  induction lines generalizing index with
  | nil => rfl
  | cons line lines ih =>
    have hrest := ih (index + 1)
    simp only [texts] at hrest
    simp [texts, number, hrest]

theorem contents_lines (cut : Cut) (h : cut.rest.getLast? ≠ some carriageReturn) :
    contents cut.text = cut.lines := by
  simp [contents_text, Cut.lines, stripReturn, h]

theorem contents_subset {text line : Points} (h : line ∈ contents text) : line ⊆ text := by
  obtain ⟨cut, hcut⟩ := Cut.exists_text text
  obtain rfl : cut.text = text := (hcut cut).mpr rfl
  rw [contents_text] at h
  obtain hended | hrest := List.mem_append.mp h
  · obtain ⟨e, he, rfl⟩ := List.mem_map.mp hended
    intro point hpoint
    exact List.mem_append_left cut.rest
      (List.mem_flatMap.mpr ⟨e, he, List.mem_append_left e.terminator.chars hpoint⟩)
  · split at hrest
    · cases hrest
    · obtain rfl := List.mem_singleton.mp hrest
      have hstripped : stripReturn cut.rest ⊆ cut.rest := by
        rw [stripReturn]
        split
        · exact List.dropLast_subset cut.rest
        · exact List.Subset.refl cut.rest
      exact fun point hpoint =>
        List.mem_append_right (cut.ended.flatMap EndedLine.chars) (hstripped hpoint)

theorem split_encodable {text : Points} (h : text.Encodable) :
    ∀ line ∈ texts (split text), line.Encodable := by
  intro line hline point hpoint
  rw [split, number_texts] at hline
  exact h point (contents_subset hline hpoint)

/-- The records of a text are the lines that its terminators cut it into, each as it stands in the
text, numbered from 1. Only where the text ends in a carriage return, that one character is missing
from the last of them. -/
theorem split_cut (text : Points) :
    ∃ cut : Cut, (∀ other : Cut, other.text = text ↔ other = cut) ∧
      (split text).map (·.index) = List.range' 1 cut.lines.length ∧
      (text.getLast? ≠ some carriageReturn → texts (split text) = cut.lines) ∧
      (text.getLast? = some carriageReturn → ∃ kept, cut.rest = kept ++ [carriageReturn] ∧
        texts (split text) = cut.ended.map EndedLine.line ++ [kept]) := by
  obtain ⟨cut, hcut⟩ := Cut.exists_text text
  have htext : cut.text = text := (hcut cut).mpr rfl
  have hsplit : split text = number 1 (contents cut.text) := by rw [htext, split]
  refine ⟨cut, hcut, ?_, ?_, ?_⟩
  · rw [hsplit, number_indices, contents_text, Cut.lines]
    split <;> simp
  · intro hlast
    rw [← htext, ne_eq, cut.text_getLast?] at hlast
    rw [hsplit, number_texts, contents_lines cut hlast]
  · intro hlast
    rw [← htext, cut.text_getLast?] at hlast
    have hrest : cut.rest ≠ [] := by
      intro hnil
      simp [hnil] at hlast
    refine ⟨cut.rest.dropLast, (List.dropLast_append_getLast? carriageReturn hlast).symm, ?_⟩
    rw [hsplit, number_texts, contents_text, if_neg hrest, stripReturn, if_pos hlast]

/-- A carriage return that no line feed follows is content, and yet lost at the end of a text. -/
theorem split_loses_return :
    ∃ cut : Cut, cut.text = "a\r" ∧ cut.lines = [("a\r" : Points)] ∧
      split "a\r" = [⟨1, "a"⟩] :=
  ⟨⟨[], "a\r", by decide⟩, rfl, rfl, rfl⟩

end LineRecord

end ReviewDiff
