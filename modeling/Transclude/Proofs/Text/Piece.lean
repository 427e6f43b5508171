import Transclude.Syntax.Tree

/-!
# Pieces of a text, by positions in its bytes

A text can be cut at the positions between its characters (`Boundary`).  Between two of them stands
a piece of it (`exists_piece`), and that is what the bytes between the two positions say
(`Piece.slice_eq`).  Pieces that meet make a piece (`Piece.append`).
-/

namespace Transclude.Text

variable {text piece piece' : String} {start stop position : Nat}

/-! ## Positions -/

/-- The positions between some characters, the first of which is at `position`. -/
def positions (position : Nat) : List Char → List Nat
  | [] => [position]
  | c :: rest => position :: positions (position + c.utf8Size) rest

/-- The text can be cut at a position. -/
def Boundary (text : String) (position : Nat) : Prop := position ∈ positions 0 text.toList

instance (text : String) (position : Nat) : Decidable (Boundary text position) :=
  inferInstanceAs (Decidable (position ∈ positions 0 text.toList))

/-- The size of a text in bytes, character by character. -/
theorem utf8ByteSize_ofList_cons (c : Char) (cs : List Char) :
    (String.ofList (c :: cs)).utf8ByteSize = c.utf8Size + (String.ofList cs).utf8ByteSize := by
  rw [String.ofList_cons, String.utf8ByteSize_append, String.utf8ByteSize_singleton]

/-- A position stands between two parts of the characters. -/
private theorem mem_positions_iff {first : Nat} {cs : List Char} :
    position ∈ positions first cs ↔
      ∃ front back, cs = front ++ back ∧ position = first + (String.ofList front).utf8ByteSize := by
  -- A position is the start or lies behind the first character.
  induction cs generalizing first with
  | nil => simp [positions]
  | cons c rest ih =>
    rw [positions, List.mem_cons, ih]
    constructor
    · rintro (rfl | ⟨front, back, rfl, rfl⟩)
      · exact ⟨[], c :: rest, rfl, rfl⟩
      · exact ⟨c :: front, back, rfl, by rw [utf8ByteSize_ofList_cons, Nat.add_assoc]⟩
    · rintro ⟨front, back, hchars, rfl⟩
      cases front with
      | nil => exact .inl rfl
      | cons c' front =>
        cases hchars
        exact .inr ⟨front, back, rfl, by rw [utf8ByteSize_ofList_cons, Nat.add_assoc]⟩

/-- A text can be cut where a beginning of it ends. -/
theorem boundary_iff :
    Boundary text position ↔ ∃ front back, text = front ++ back ∧
    front.utf8ByteSize = position := by
  rw [Boundary, mem_positions_iff]
  constructor
  · rintro ⟨front, back, hchars, rfl⟩
    refine ⟨String.ofList front, String.ofList back, ?_, (Nat.zero_add _).symm⟩
    rw [← String.ofList_append, ← hchars, String.ofList_toList]
  · rintro ⟨front, back, rfl, rfl⟩
    refine ⟨front.toList, back.toList, String.toList_append, ?_⟩
    rw [String.ofList_toList, Nat.zero_add]

/-! ## Pieces -/

/-- Between two positions stands a piece of the text. -/
def Piece (text : String) (start stop : Nat) (piece : String) : Prop :=
  ∃ front back, text = front ++ piece ++ back ∧ front.utf8ByteSize = start ∧
    (front ++ piece).utf8ByteSize = stop

/-- A text without bytes is empty. -/
private theorem eq_nil_of_utf8ByteSize {cs : List Char}
    (h : (String.ofList cs).utf8ByteSize = 0) : cs = [] := by
  cases cs with
  | nil => rfl
  | cons c rest =>
    rw [utf8ByteSize_ofList_cons] at h
    have := c.utf8Size_pos
    omega

/-- A text that another one of the same size goes on from is that text. -/
private theorem eq_of_toList_eq_append {front front' : String} {more : List Char}
    (h : front'.toList = front.toList ++ more) (hsize : front.utf8ByteSize = front'.utf8ByteSize) :
    front = front' := by
  have hfront' : front' = front ++ String.ofList more := by
    rw [← String.toList_inj, String.toList_append, String.toList_ofList, h]
  rw [hfront', String.utf8ByteSize_append] at hsize
  obtain rfl : more = [] := eq_nil_of_utf8ByteSize (by omega)
  rw [hfront', String.ofList_nil, String.append_empty]

/-- Beginnings of a text of the same size are the same. -/
theorem append_inj_of_size {front back front' back' : String}
    (h : front ++ back = front' ++ back') (hsize : front.utf8ByteSize = front'.utf8ByteSize) :
    front = front' ∧ back = back' := by
  have hchars := congrArg String.toList h
  rw [String.toList_append, String.toList_append] at hchars
  have heq : front = front' := by
    -- One beginning starts the other, and they are equally long.
    rcases List.append_eq_append_iff.1 hchars with ⟨more, hmore, -⟩ | ⟨more, hmore, -⟩
    · exact eq_of_toList_eq_append hmore hsize
    · exact (eq_of_toList_eq_append hmore hsize.symm).symm
  exact ⟨heq, (String.append_right_inj front').1 (heq ▸ h)⟩

/-- Between two positions where a text can be cut stands a piece. -/
theorem exists_piece (hstart : Boundary text start) (hstop : Boundary text stop)
    (hle : start ≤ stop) : ∃ piece, Piece text start stop piece := by
  obtain ⟨front, rest, rfl, rfl⟩ := boundary_iff.1 hstart
  -- The two cuts of the text meet where the shorter one ends.
  obtain ⟨front', back, htext, rfl⟩ := boundary_iff.1 hstop
  have hchars := congrArg String.toList htext
  rw [String.toList_append, String.toList_append] at hchars
  rcases List.append_eq_append_iff.1 hchars with ⟨piece, hfront, -⟩ | ⟨piece, hfront, -⟩
  · -- The longer beginning goes on with the piece.
    have hfront' : front' = front ++ String.ofList piece := by
      rw [← String.toList_inj, String.toList_append, String.toList_ofList, hfront]
    exact ⟨String.ofList piece, front, back, by rw [htext, hfront'], rfl, by rw [hfront']⟩
  · -- The beginning that is not longer is as long, and there is nothing between.
    have hfront' : front = front' ++ String.ofList piece := by
      rw [← String.toList_inj, String.toList_append, String.toList_ofList, hfront]
    rw [hfront', String.utf8ByteSize_append] at hle
    have hsize : front.utf8ByteSize = front'.utf8ByteSize := by
      rw [hfront', String.utf8ByteSize_append]
      omega
    obtain ⟨rfl, rfl⟩ := append_inj_of_size htext hsize
    exact ⟨"", front, rest, by rw [String.append_empty], rfl, by rw [String.append_empty]⟩

namespace Piece

/-- A piece is as long as its positions say. -/
theorem size_eq (h : Piece text start stop piece) : start + piece.utf8ByteSize = stop := by
  obtain ⟨front, back, -, rfl, rfl⟩ := h
  exact String.utf8ByteSize_append.symm

/-- The bytes between two positions say the piece that stands there. -/
theorem slice_eq (h : Piece text start stop piece) :
    Syntax.slice (encode text) start stop = .ok piece := by
  obtain ⟨front, back, rfl, rfl, rfl⟩ := h
  -- The bytes of the piece are those between the two positions.
  have hbytes : (encode (front ++ piece ++ back)).extract front.utf8ByteSize
      (front ++ piece).utf8ByteSize = encode piece := by
    show (front ++ piece ++ back).toByteArray.extract _ _ = piece.toByteArray
    rw [String.toByteArray_append, ByteArray.extract_append, String.size_toByteArray, Nat.sub_self,
      String.toByteArray_append]
    rw [ByteArray.extract_append_eq_right String.size_toByteArray.symm]
    · simp
    · rw [String.utf8ByteSize_append, String.size_toByteArray, String.size_toByteArray]
  unfold Syntax.slice
  rw [hbytes, decode_encode]

/-- Between two positions stands one piece. -/
theorem eq (h : Piece text start stop piece) (h' : Piece text start stop piece') :
    piece = piece' := by
  have hslice := h.slice_eq
  rw [h'.slice_eq] at hslice
  cases hslice
  rfl

/-- What stands between two positions can be computed. -/
theorem iff_slice : Piece text start stop piece ↔ Boundary text start ∧ Boundary text stop ∧
    start ≤ stop ∧ (Syntax.slice (encode text) start stop).toOption = some piece := by
  constructor
  · intro h
    have hslice := h.slice_eq
    have hsize := h.size_eq
    obtain ⟨front, back, htext, hfront, hstop⟩ := h
    refine ⟨boundary_iff.2 ⟨front, piece ++ back, by rw [htext, String.append_assoc], hfront⟩,
      boundary_iff.2 ⟨front ++ piece, back, htext, hstop⟩, by omega, ?_⟩
    rw [hslice]
    rfl
  · rintro ⟨hstart, hstop, hle, hslice⟩
    -- Two pieces at the same positions are one piece.
    obtain ⟨piece', hpiece'⟩ := exists_piece hstart hstop hle
    rw [hpiece'.slice_eq] at hslice
    cases hslice
    exact hpiece'

instance : Decidable (Piece text start stop piece) := decidable_of_iff' _ iff_slice

/-- Pieces that meet make a piece. -/
theorem append (h : Piece text start position piece) (h' : Piece text position stop piece') :
    Piece text start stop (piece ++ piece') := by
  obtain ⟨front, back, htext, rfl, rfl⟩ := h
  obtain ⟨front', back', rfl, hsize, rfl⟩ := h'
  rw [String.append_assoc] at htext
  obtain ⟨rfl, -⟩ := append_inj_of_size htext hsize
  exact ⟨front, back', by simp only [String.append_assoc], rfl, by rw [String.append_assoc]⟩

end Piece

end Transclude.Text
