import Transclude.Proofs.Text.Piece
import Transclude.Proofs.Text.Return

/-!
# Positions in a text with carriage returns

Where a text is cut, the same text with carriage returns in front of some of its newlines is cut at
a position further back (`Meet`).  The pieces between such positions are the same up to carriage
returns (`Meet.exists_piece`).
-/

namespace Transclude

namespace Text

variable {text text' piece : String} {start start' stop stop' : Nat} {cs cs' : List Char}

/-- The positions between characters of two texts that are the same up to carriage returns, the
    first of which are at `p` and at `p'`. -/
def meetings (p p' : Nat) : List Char → List Char → List (Nat × Nat)
  | [], _ => [(p, p')]
  | c :: cs, cs' =>
    if cs'.head? = some '\r' then (p, p') :: meetings (p + 1) (p' + 2) cs (cs'.drop 2)
    else (p, p') :: meetings (p + c.utf8Size) (p' + c.utf8Size) cs (cs'.drop 1)

/-- A position of a text and the position of the other text that stands for it. -/
def Meet (text text' : String) (position position' : Nat) : Prop :=
  (position, position') ∈ meetings 0 0 text.toList text'.toList

instance (text text' : String) (position position' : Nat) :
    Decidable (Meet text text' position position') :=
  inferInstanceAs (Decidable (_ ∈ meetings 0 0 text.toList text'.toList))

/-- The position of the other text that stands for a position of a text. -/
def meeting (text text' : String) (position : Nat) : Nat :=
  ((meetings 0 0 text.toList text'.toList).lookup position).getD 0

/-- Where two texts are cut, there are beginnings that are the same up to carriage returns. -/
private theorem exists_of_mem_meetings {first first' : Nat} (h : Returned cs cs')
    (hmem : (start, start') ∈ meetings first first' cs cs') :
    ∃ front back front' back', cs = front ++ back ∧ cs' = front' ++ back' ∧
      Returned front front' ∧ first + (String.ofList front).utf8ByteSize = start ∧
      first' + (String.ofList front').utf8ByteSize = start' := by
  -- The induction is on the returns; every position of the one text has its twin in the other.
  induction h generalizing first first' with
  | nil =>
    cases List.mem_singleton.1 hmem
    exact ⟨[], [], [], [], rfl, rfl, .nil, rfl, rfl⟩
  | @cons c cs cs' hc h ih =>
    rw [meetings, if_neg (by simpa using hc)] at hmem
    rcases List.mem_cons.1 hmem with heq | hmem
    · cases heq
      exact ⟨[], c :: cs, [], c :: cs', rfl, rfl, .nil, rfl, rfl⟩
    · obtain ⟨front, back, front', back', rfl, hcs', hfront, hsize, hsize'⟩ := ih hmem
      refine ⟨c :: front, back, c :: front', back', rfl, congrArg _ hcs', .cons hc hfront, ?_, ?_⟩
      · rw [utf8ByteSize_ofList_cons, ← Nat.add_assoc, hsize]
      · rw [utf8ByteSize_ofList_cons, ← Nat.add_assoc, hsize']
  | @newline cs cs' h ih =>
    rw [meetings, if_pos List.head?_cons] at hmem
    rcases List.mem_cons.1 hmem with heq | hmem
    · cases heq
      exact ⟨[], '\n' :: cs, [], '\r' :: '\n' :: cs', rfl, rfl, .nil, rfl, rfl⟩
    · obtain ⟨front, back, front', back', rfl, hcs', hfront, hsize, hsize'⟩ := ih hmem
      -- A newline and a return take one byte each.
      have hnewline : '\n'.utf8Size = 1 := rfl
      have hreturn : '\r'.utf8Size = 1 := rfl
      refine ⟨'\n' :: front, back, '\r' :: '\n' :: front', back', rfl,
        congrArg (fun cs => '\r' :: '\n' :: cs) hcs', .newline hfront, ?_, ?_⟩
      · rw [utf8ByteSize_ofList_cons, hnewline]
        omega
      · rw [utf8ByteSize_ofList_cons, utf8ByteSize_ofList_cons, hnewline, hreturn]
        omega

namespace Meet

/-- Where positions meet, both texts are cut, and the parts are the same up to carriage returns. -/
private theorem exists_append (h : Returned text.toList text'.toList)
    (hmeet : Meet text text' start start') :
    ∃ front back front' back', text = front ++ back ∧ text' = front' ++ back' ∧
      Returned front.toList front'.toList ∧ front.utf8ByteSize = start ∧
      front'.utf8ByteSize = start' := by
  -- The ends are read off the lists and turned into texts again.
  obtain ⟨front, back, front', back', htext, htext', hfront, hsize, hsize'⟩ :=
    exists_of_mem_meetings h hmeet
  refine ⟨String.ofList front, String.ofList back, String.ofList front',
    String.ofList back', ?_, ?_,
    by simpa using hfront, by omega, by omega⟩
  · rw [← String.ofList_append, ← htext, String.ofList_toList]
  · rw [← String.ofList_append, ← htext', String.ofList_toList]

/-- A piece of one text is a piece of the other text, up to carriage returns. -/
theorem exists_piece (h : Returned text.toList text'.toList) (hstart : Meet text text' start start')
    (hstop : Meet text text' stop stop') (hpiece : Piece text start stop piece) :
    ∃ piece', Piece text' start' stop' piece' ∧ Returned piece.toList piece'.toList := by
  obtain ⟨front, back, rfl, hfront, hfrontPiece⟩ := hpiece
  obtain ⟨a, _, a', b', htext, htext', ha, hsize, hsize'⟩ := hstart.exists_append h
  obtain ⟨c, _, c', d', htext₂, htext₂', hc, hsize₂, hsize₂'⟩ := hstop.exists_append h
  obtain ⟨rfl, -⟩ := append_inj_of_size ((String.append_assoc ..).symm.trans htext)
    (hfront.trans hsize.symm)
  obtain ⟨rfl, -⟩ := append_inj_of_size htext₂ (hfrontPiece.trans hsize₂.symm)
  rw [String.toList_append] at hc
  obtain ⟨x, y, hxy, hx, hy⟩ := hc.exists_of_append
  -- Both beginnings of the other text end where the piece starts.
  have heq : a'.toList ++ b'.toList = x ++ (y ++ d'.toList) := by
    rw [← List.append_assoc, ← hxy, ← String.toList_append, ← String.toList_append,
      ← htext', htext₂']
  obtain rfl := ha.unique_of_append hx heq
  have hc' : c' = a' ++ String.ofList y := by
    rw [← String.toList_inj, hxy, String.toList_append, String.toList_ofList]
  refine ⟨String.ofList y, ⟨a', d', by rw [htext₂', hc'], hsize', by rw [← hc', hsize₂']⟩, ?_⟩
  rwa [String.toList_ofList]

end Meet

end Text

end Transclude
