import Mathlib.Data.List.Infix
import LightningGateway.Transport.Socket

/-!
# Answers in pieces

The bytes of an answer come over the socket in pieces that may be cut anywhere, inside a character
or between the two line breaks of the empty line at the end. As long as no other empty line stands
in the bytes, what is answered depends on the bytes alone, and it is answered with the last piece:
not before, and without waiting for more if the empty line has come.
-/

namespace LightningGateway.Socket

/-- An empty line stands nowhere in the bytes but at their end. -/
def EndsOnce (bytes : List UInt8) : Prop :=
  ∀ before after, bytes = before ++ terminator ++ after → after = []

theorem endsOnce_iff {bytes : List UInt8} : EndsOnce bytes ↔ ¬ terminator <:+: bytes.dropLast := by
  constructor
  · rintro once ⟨before, after, inside⟩
    have filled : bytes ≠ [] := by
      rintro rfl
      simp [terminator] at inside
    have parts := List.dropLast_concat_getLast filled
    rw [← inside, List.append_assoc] at parts
    have last := once before _ parts.symm
    simp at last
  · rintro outside before after rfl
    by_contra more
    rw [List.dropLast_append_of_ne_nil more] at outside
    exact outside ⟨before, after.dropLast, rfl⟩

instance (bytes : List UInt8) : Decidable (EndsOnce bytes) :=
  decidable_of_iff' _ endsOnce_iff

theorem not_suffix_of_endsOnce {front back : List UInt8} (once : EndsOnce (front ++ back))
    (more : back ≠ []) : ¬ terminator <:+ front := by
  rintro ⟨before, rfl⟩
  exact more (once before back rfl)

theorem read_ended (connectionEnds : Bool) {received piece : List UInt8}
    (ended : terminator <:+ received ++ piece) (rest : List (List UInt8)) :
    read connectionEnds received (piece :: rest) = .answered (parse (received ++ piece)) := by
  rw [read, if_pos (List.isSuffixOf_iff_suffix.mpr ended)]

theorem read_unended (connectionEnds : Bool) {received piece : List UInt8}
    (unended : ¬ terminator <:+ received ++ piece) (rest : List (List UInt8)) :
    read connectionEnds received (piece :: rest) =
      read connectionEnds (received ++ piece) rest := by
  rw [read, if_neg fun suffix => unended (List.isSuffixOf_iff_suffix.mp suffix)]

/-- Pieces are read one after another until the bytes so far are an answer. -/
theorem read_append (connectionEnds : Bool) (received : List UInt8)
    (first rest : List (List UInt8)) :
    read connectionEnds received (first ++ rest) =
      match read false received first with
      | .answered result => .answered result
      | .waiting => read connectionEnds (received ++ first.flatten) rest := by
  induction first generalizing received with
  | nil => simp [read]
  | cons piece first ih =>
      rw [List.cons_append]
      by_cases ended : terminator <:+ received ++ piece
      · rw [read_ended _ ended, read_ended _ ended]
      · rw [read_unended _ ended, read_unended _ ended, ih, List.flatten_cons, List.append_assoc]

/-- Nothing is answered as long as some of the bytes have not come. -/
theorem read_eq_waiting {received left : List UInt8} {first : List (List UInt8)}
    (once : EndsOnce (received ++ first.flatten ++ left)) (more : left ≠ []) :
    read false received first = .waiting := by
  induction first generalizing received with
  | nil => rfl
  | cons piece first ih =>
      rw [List.flatten_cons, ← List.append_assoc received] at once
      have unended : ¬ terminator <:+ received ++ piece := by
        rw [List.append_assoc] at once
        exact not_suffix_of_endsOnce once (by simp [more])
      rw [read_unended _ unended]
      exact ih once

theorem read_last (connectionEnds : Bool) {received last : List UInt8} (filled : last ≠ [])
    (stops : connectionEnds = true ∨ terminator <:+ received ++ last) :
    read connectionEnds received [last] = .answered (parse (received ++ last)) := by
  by_cases ended : terminator <:+ received ++ last
  · exact read_ended _ ended []
  · obtain rfl : connectionEnds = true := stops.resolve_right ended
    rw [read_unended _ ended, read, if_pos rfl, if_neg]
    simp [filled]

/-- The last piece completes the answer if the connection ends then or an empty line has come. -/
theorem read_pieces {connectionEnds : Bool} {pieces : List (List UInt8)}
    (once : EndsOnce pieces.flatten) (solid : ∀ piece ∈ pieces, piece ≠ [])
    (stops : connectionEnds = true ∨ terminator <:+ pieces.flatten) :
    read connectionEnds [] pieces =
      .answered (if pieces.flatten = [] then
        .error (.ipc "Socket closed before a response was sent")
      else parse pieces.flatten) := by
  rcases pieces.eq_nil_or_concat with rfl | ⟨first, last, rfl⟩
  · have unended : ¬ terminator <:+ [] := by decide
    rw [stops.resolve_right unended]
    rfl
  · rw [List.concat_eq_append] at *
    have filled : last ≠ [] := solid last (by simp)
    rw [List.flatten_append, List.flatten_singleton] at *
    rw [read_append, read_eq_waiting once filled, if_neg (by simp [filled])]
    exact read_last connectionEnds filled stops

/-- What is answered is what the bytes say, however they are cut into pieces. It is answered with
the last piece, and nothing that comes later matters once the empty line has come. -/
theorem answer_of_pieces {connectionEnds : Bool} {bytes : List UInt8} {pieces : List (List UInt8)}
    (once : EndsOnce bytes) (cut : pieces.flatten = bytes) (solid : ∀ piece ∈ pieces, piece ≠ [])
    (stops : connectionEnds = true ∨ terminator <:+ bytes) :
    (read connectionEnds [] pieces =
      .answered (if bytes = [] then .error (.ipc "Socket closed before a response was sent")
        else
          match (Text.utf8? bytes).bind Json.ofText? with
          | some value => .ok value
          | none => .error (.serialization "malformed JSON"))) ∧
    (∀ first rest, pieces = first ++ rest → rest ≠ [] → read false [] first = .waiting) ∧
    (terminator <:+ bytes → ∀ endsLater more,
      read endsLater [] (pieces ++ more) = read connectionEnds [] pieces) := by
  subst cut
  refine ⟨read_pieces once solid stops, fun first rest same more => ?_,
    fun ended endsLater more => ?_⟩
  · rw [same, List.flatten_append] at once
    have left : rest.flatten ≠ [] := by
      obtain ⟨piece, member⟩ := List.exists_mem_of_ne_nil rest more
      have filled := solid piece (same ▸ List.mem_append_right first member)
      exact fun empty => filled (List.flatten_eq_nil_iff.mp empty piece member)
    exact read_eq_waiting once left
  · rw [read_append, read_pieces once solid (.inr ended), read_pieces once solid stops]

/-- A text with an accent, cut inside the accented character and inside the empty line, is read
while the connection stays open. -/
theorem answer_of_accent :
    EndsOnce [0x22, 0xC3, 0xA9, 0x22, 0x0A, 0x0A] ∧
    read false [] [[0x22, 0xC3], [0xA9, 0x22, 0x0A], [0x0A]] = .answered (.ok (.string "é")) ∧
    read false [] [[0x22, 0xC3], [0xA9, 0x22, 0x0A]] = .waiting := by
  have once : EndsOnce [0x22, 0xC3, 0xA9, 0x22, 0x0A, 0x0A] := by decide
  have parsed : (Text.utf8? [0x22, 0xC3, 0xA9, 0x22, 0x0A, 0x0A]).bind Json.ofText? =
      some (.string "é") := rfl
  obtain ⟨answered, early, -⟩ := @answer_of_pieces false _
    [[0x22, 0xC3], [0xA9, 0x22, 0x0A], [0x0A]] once rfl (by decide) (.inr (by decide))
  refine ⟨once, ?_, early [[0x22, 0xC3], [0xA9, 0x22, 0x0A]] [[0x0A]] rfl (by decide)⟩
  rw [answered, if_neg (by decide), parsed]

end LightningGateway.Socket
