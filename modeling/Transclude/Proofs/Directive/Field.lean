import Transclude.Directive
import Transclude.Proofs.Text.Spaced

/-!
# Frame and fields of a directive

A line has arguments if it is the frame with these arguments between its parentheses
(`arguments?_eq_some_iff`).  The arguments fall into pieces that give them back when commas are
put between them (`intercalate_pieces`).  A text that holds no comma outside quotation marks and
leaves none open is not cut apart (`Closed`), so such pieces are found again
(`pieces_intercalate`).  Arguments are their fields with commas between them and blanks around
each (`separated_of_fields`), and the fields are found again (`fields_eq_of_separated`).
-/

namespace Transclude.Directive

open Text (Spaced isBlank)

/-! ## The frame -/

/-- What stands behind a word. -/
private theorem after?_eq_some_iff {word cs rest : List Char} :
    after? word cs = some rest ↔ cs = word ++ rest := by
  unfold after?
  constructor
  · intro h
    split at h
    · rename_i hprefix
      obtain ⟨more, rfl⟩ := List.isPrefixOf_iff_prefix.1 hprefix
      simpa using h
    · cases h
  · rintro rfl
    simp

/-- What stands in front of a word. -/
private theorem ahead?_eq_some_iff {word cs rest : List Char} :
    ahead? word cs = some rest ↔ cs = rest ++ word := by
  simp only [ahead?, Option.map_eq_some_iff, after?_eq_some_iff]
  constructor
  · rintro ⟨more, hmore, rfl⟩
    rw [← List.reverse_inj, hmore]
    simp
  · rintro rfl
    exact ⟨rest.reverse, by simp, by simp⟩

/-- The tokens around some arguments. -/
def frame (arguments : List Char) : List (List Char) :=
  [['<', '!', '-', '-'], ['p', 'l', 'u', 'c', 'k'], '(' :: (arguments ++ [')']), ['-', '-', '>']]

/-- A line has arguments if it is their frame, and no newline is among them. -/
theorem arguments?_eq_some_iff {line arguments : List Char} :
    arguments? line = some arguments ↔ Spaced (frame arguments) line ∧ '\n' ∉ arguments := by
  constructor
  · intro h
    simp only [arguments?, Option.bind_eq_bind, Option.bind_eq_some_iff, after?_eq_some_iff,
      ahead?_eq_some_iff] at h
    obtain ⟨a, ha, b, hb, c, hc, d, hd, e, he, h⟩ := h
    split at h
    · cases h
    · rename_i hnewline
      cases h
      refine ⟨?_, by simpa using hnewline⟩
      -- What is dropped by trimming are the blanks between the tokens.
      obtain ⟨g, hg, hc'⟩ := Text.exists_trimRight_append c
      obtain ⟨g', hg', hd'⟩ := Text.exists_trimRight_append d
      rw [hd] at hc'
      rw [he] at hd'
      rw [← Text.leadingBlanks_append_trimLeft line, ha, ← Text.leadingBlanks_append_trimLeft a, hb,
        ← Text.leadingBlanks_append_trimLeft b, hc, hc', hd']
      have hleading : ∀ cs : List Char, ∀ c ∈ Text.leadingBlanks cs, isBlank c = true :=
        fun _ _ => Text.isBlank_of_mem_leadingBlanks
      have hlast : Spaced [['-', '-', '>']] (g' ++ (['-', '-', '>'] ++ g)) := .cons hg' (.nil hg)
      have hopening : Spaced ['(' :: (arguments ++ [')']), ['-', '-', '>']] _ :=
        .cons (hleading b) hlast
      have hword : Spaced (['p', 'l', 'u', 'c', 'k'] :: _) _ := .cons (hleading a) hopening
      have hframe : Spaced (frame arguments) _ := .cons (hleading line) hword
      simpa using hframe
  · rintro ⟨h, hnewline⟩
    -- The tokens and the blanks between them are given, and trimming finds them again.
    obtain ⟨g₀, a, rfl, hg₀, h⟩ := Text.spaced_cons_iff.1 h
    obtain ⟨g₁, b, rfl, hg₁, h⟩ := Text.spaced_cons_iff.1 h
    obtain ⟨g₂, c, rfl, hg₂, h⟩ := Text.spaced_cons_iff.1 h
    obtain ⟨g₃, d, rfl, hg₃, h⟩ := Text.spaced_cons_iff.1 h
    have hd := Text.spaced_nil_iff.1 h
    have hleft : ∀ {gap : List Char} (c : Char) (cs : List Char), (∀ b ∈ gap, isBlank b = true) →
        isBlank c = false → Text.trimLeft (gap ++ c :: cs) = c :: cs := fun c cs hgap hc => by
      rw [Text.trimLeft_append hgap, Text.trimLeft_cons_of_not_blank hc]
    have hright : ∀ {gap : List Char} (cs : List Char) (c : Char), (∀ b ∈ gap, isBlank b = true) →
        isBlank c = false → Text.trimRight (cs ++ [c] ++ gap) = cs ++ [c] := fun cs c hgap hc => by
      rw [Text.trimRight_append hgap, Text.trimRight_concat_of_not_blank hc]
    simp only [arguments?, Option.bind_eq_bind, Option.bind_eq_some_iff, after?_eq_some_iff,
      ahead?_eq_some_iff]
    refine ⟨_, hleft '<' _ hg₀ (by decide), _, hleft 'p' _ hg₁ (by decide),
      arguments ++ [')'] ++ (g₃ ++ (['-', '-', '>'] ++ d)), ?_,
      arguments ++ [')'] ++ g₃, ?_, arguments, hright _ _ hg₃ (by decide), by simp [hnewline]⟩
    · simpa using hleft '(' _ hg₂ (by decide)
    · simpa using hright (arguments ++ [')'] ++ g₃ ++ ['-', '-']) '>' hd (by decide)

/-! ## The pieces -/

/-- There is always a piece, even of nothing. -/
private theorem pieces_ne_nil (inside : Bool) (cs : List Char) : pieces inside cs ≠ [] := by
  cases cs with
  | nil => exact List.cons_ne_nil _ _
  | cons c cs =>
    rw [pieces]
    generalize (if c = '"' then !inside else inside) = inside
    split
    · exact List.cons_ne_nil _ _
    · split <;> exact List.cons_ne_nil _ _

/-- A comma outside quotation marks ends a piece. -/
theorem pieces_comma (cs : List Char) : pieces false (',' :: cs) = [] :: pieces false cs := by
  simp [pieces]

/-- Any other character goes to the piece behind it. -/
theorem pieces_cons {inside : Bool} {c : Char} (h : c ≠ ',' ∨ inside = true) (cs : List Char) :
    pieces inside (c :: cs) =
      (pieces (if c = '"' then !inside else inside) cs).modifyHead (c :: ·) := by
  rw [pieces]
  have hcut : (c = ',' && !(if c = '"' then !inside else inside)) = false := by
    rcases h with h | rfl
    · simp [h]
    · by_cases hcomma : c = ','
      · simp [hcomma]
      · simp [hcomma]
  rw [hcut, if_neg Bool.false_ne_true]
  cases hpieces : pieces (if c = '"' then !inside else inside) cs with
  | nil => exact absurd hpieces (pieces_ne_nil _ _)
  | cons piece rest => rfl

/-- What is put in front of the first part stands in front of all. -/
private theorem intercalate_modifyHead {sep cs : List Char} {parts : List (List Char)}
    (h : parts ≠ []) :
    sep.intercalate (parts.modifyHead (cs ++ ·)) = cs ++ sep.intercalate parts := by
  cases parts with
  | nil => exact absurd rfl h
  | cons part parts => cases parts <;> simp [List.intercalate]

/-- The pieces with commas between them are the text. -/
theorem intercalate_pieces (inside : Bool) (cs : List Char) :
    [','].intercalate (pieces inside cs) = cs := by
  induction cs generalizing inside with
  | nil => rfl
  | cons c cs ih =>
    -- A comma outside of quotes starts a piece, and every other character goes to the first one.
    by_cases hcut : c = ',' ∧ inside = false
    · obtain ⟨rfl, rfl⟩ := hcut
      have := ih false
      rw [pieces_comma]
      cases hpieces : pieces false cs with
      | nil => exact absurd hpieces (pieces_ne_nil _ _)
      | cons piece rest =>
        rw [hpieces] at this
        simpa [List.intercalate] using this
    · rw [pieces_cons (by cases inside <;> simp_all)]
      refine (@intercalate_modifyHead [','] [c] _ (pieces_ne_nil _ _)).trans ?_
      rw [ih, List.singleton_append]

/-- Outside quotation marks the text is one piece, and no mark is open behind it. -/
def Closed (cs : List Char) : Prop :=
  ∀ rest, pieces false (cs ++ rest) = (pieces false rest).modifyHead (cs ++ ·)

/-- Closed texts can be put behind each other. -/
private theorem Closed.append {as bs : List Char} (ha : Closed as) (hb : Closed bs) :
    Closed (as ++ bs) := by
  intro rest
  rw [List.append_assoc, ha, hb, List.modifyHead_modifyHead]
  congr 1
  funext cs
  simp

/-- A text without quotes and commas is closed. -/
private theorem closed_of_not_mem {cs : List Char} (hmark : '"' ∉ cs)
    (hcomma : ',' ∉ cs) : Closed cs := by
  intro rest
  induction cs with
  | nil => exact (congrFun List.modifyHead_id _).symm
  | cons c cs ih =>
    simp only [List.mem_cons, not_or] at hmark hcomma
    rw [List.cons_append, pieces_cons (.inl (Ne.symm hcomma.1)), if_neg (Ne.symm hmark.1),
      ih hmark.2 hcomma.2, List.modifyHead_modifyHead]
    rfl

/-- Between quotation marks commas cut nothing. -/
theorem closed_quoted {cs : List Char} (hmark : '"' ∉ cs) : Closed ('"' :: (cs ++ ['"'])) := by
  intro rest
  -- Behind the first mark the text goes on to the second one.
  have hinside : pieces true (cs ++ '"' :: rest) =
      (pieces false rest).modifyHead (cs ++ '"' :: ·) := by
    induction cs with
    | nil => rw [List.nil_append, pieces_cons (.inl (by decide))]; rfl
    | cons c cs ih =>
      simp only [List.mem_cons, not_or] at hmark
      rw [List.cons_append, pieces_cons (.inr rfl), if_neg (Ne.symm hmark.1), ih hmark.2,
        List.modifyHead_modifyHead]
      rfl
  have hsplit : '"' :: (cs ++ ['"']) ++ rest = '"' :: (cs ++ '"' :: rest) := by simp
  rw [hsplit, pieces_cons (.inl (by decide)), if_pos rfl, Bool.not_false, hinside,
    List.modifyHead_modifyHead]
  congr 1
  funext piece
  simp

/-- Closed texts with commas between them are found again. -/
theorem pieces_intercalate {parts : List (List Char)} (hne : parts ≠ [])
    (h : ∀ part ∈ parts, Closed part) : pieces false ([','].intercalate parts) = parts := by
  induction parts with
  | nil => exact absurd rfl hne
  | cons part parts ih =>
    have hpart := h part List.mem_cons_self
    cases parts with
    | nil => simpa [List.intercalate, pieces] using hpart []
    | cons second parts =>
      have hsplit : [','].intercalate (part :: second :: parts) =
          part ++ ',' :: [','].intercalate (second :: parts) := by simp [List.intercalate]
      rw [hsplit, hpart, pieces_comma, ih (by simp) fun p hp => h p (List.mem_cons_of_mem _ hp)]
      simp

/-! ## The fields -/

/-- A text is quoted if it is marks around a text without marks. -/
theorem unquote?_eq_some_iff {cs inner : List Char} :
    unquote? cs = some inner ↔ cs = '"' :: (inner ++ ['"']) ∧ '"' ∉ inner := by
  constructor
  · intro h
    unfold unquote? at h
    split at h
    · rename_i cs
      split at h
      -- The reversed text starts with the closing quote.
      · rename_i reversed hreversed
        split at h
        · cases h
        · rename_i hmark
          cases h
          -- Behind both quotes the text stands the right way round.
          rw [← List.reverse_reverse cs, hreversed]
          simpa using hmark
      · cases h
    · cases h
  · rintro ⟨rfl, hmark⟩
    simp [unquote?, hmark]

namespace Field

/-- A field with its quotation marks, if it has them. -/
def written (f : Field) : List Char :=
  if f.quoted then '"' :: (f.text.toList ++ ['"']) else f.text.toList

/-- A quoted field holds no quotation mark; a bare one has no blanks at its ends and is not a
    quoted text. -/
def Proper (f : Field) : Prop :=
  if f.quoted then '"' ∉ f.text.toList
  else Text.trim f.text.toList = f.text.toList ∧ unquote? f.text.toList = none

/-- The pieces that are read as a field are the field with blanks around it. -/
theorem ofPiece_eq_iff {f : Field} {piece : List Char} :
    ofPiece piece = f ↔ f.Proper ∧ Spaced [f.written] piece := by
  obtain ⟨text, quoted⟩ := f
  unfold ofPiece
  cases quoted with
  | true =>
    -- A quoted field is what stands in quotes once the piece is trimmed.
    simp only [Proper, written, if_true]
    rw [Text.spaced_singleton_iff_trim (Text.trim_eq_self_of_ends (by decide) (by decide)),
      and_comm, ← unquote?_eq_some_iff]
    cases hpiece : unquote? (Text.trim piece) with
    | none => simp
    | some inner => simp [← String.toList_inj]
  | false =>
    simp only [Proper, written, Bool.false_eq_true, if_false]
    -- A bare field is the trimmed piece, unless that can be read as a quoted one.
    cases hpiece : unquote? (Text.trim piece) with
    | none =>
      constructor
      · rintro h
        obtain rfl : String.ofList (Text.trim piece) = text := congrArg Field.text h
        rw [String.toList_ofList, ← (Text.spaced_trim piece).trim_eq]
        exact ⟨⟨rfl, hpiece⟩, Text.spaced_trim piece⟩
      · rintro ⟨⟨htrim, -⟩, hspaced⟩
        rw [(Text.spaced_singleton_iff_trim htrim).1 hspaced, String.ofList_toList]
    | some inner =>
      constructor
      · intro h
        cases h
      · rintro ⟨⟨htrim, hunquote⟩, hspaced⟩
        rw [(Text.spaced_singleton_iff_trim htrim).1 hspaced, hunquote] at hpiece
        cases hpiece

/-- A bare field without marks and commas is closed, and so is a quoted one. -/
theorem Proper.closed {f : Field} (h : f.Proper)
    (hbare : f.quoted = false → '"' ∉ f.text.toList ∧ ',' ∉ f.text.toList) : Closed f.written := by
  unfold Proper written at *
  cases hquoted : f.quoted with
  | true =>
    rw [hquoted] at h
    exact closed_quoted h
  | false => exact closed_of_not_mem (hbare hquoted).1 (hbare hquoted).2

end Field

/-- The text is the fields with commas between them and blanks around each. -/
def Separated (fs : List Field) (arguments : List Char) : Prop :=
  Spaced ((fs.map Field.written).intersperse [',']) arguments

/-- Arguments are their fields, and each field is one that can be read. -/
theorem separated_of_fields {arguments : List Char} {fs : List Field} (h : fields arguments = fs) :
    Separated fs arguments ∧ ∀ f ∈ fs, f.Proper := by
  subst h
  constructor
  · refine (Text.spaced_intersperse_iff ?_).2 ⟨pieces false arguments, ?_, ?_⟩
    · simp [fields, pieces_ne_nil]
    · rw [fields, List.map_map, List.forall₂_map_left_iff, List.forall₂_same]
      exact fun piece _ => (Field.ofPiece_eq_iff.1 rfl).2
    · exact (intercalate_pieces false arguments).symm
  · intro f hf
    obtain ⟨piece, -, rfl⟩ := List.mem_map.1 hf
    exact (Field.ofPiece_eq_iff.1 rfl).1

/-- Blanks are neither quotation marks nor commas. -/
theorem closed_of_blank {gap : List Char} (h : ∀ c ∈ gap, isBlank c = true) : Closed gap := by
  refine closed_of_not_mem (fun hmem => ?_) (fun hmem => ?_)
  · exact absurd (h _ hmem) (by decide)
  · exact absurd (h _ hmem) (by decide)

/-- Closed fields are read from any text in which they are separated. -/
theorem fields_eq_of_separated {arguments : List Char} {fs : List Field} (hne : fs ≠ [])
    (hproper : ∀ f ∈ fs, f.Proper ∧ Closed f.written) (h : Separated fs arguments) :
    fields arguments = fs := by
  obtain ⟨parts, hparts, rfl⟩ := (Text.spaced_intersperse_iff (by simpa using hne)).1 h
  rw [List.forall₂_map_left_iff] at hparts
  -- Each part is read as its field, and is closed, by induction on the fields.
  have hread : parts.map Field.ofPiece = fs ∧ ∀ part ∈ parts, Closed part := by
    clear h hne
    induction hparts with
    | nil => simp
    | cons hpart _ ih =>
      obtain ⟨⟨hf, hclosed⟩, hfs⟩ := List.forall_mem_cons.1 hproper
      obtain ⟨hmap, hmore⟩ := ih hfs
      obtain ⟨front, back, rfl, hfront, hback⟩ := Text.spaced_singleton_iff.1 hpart
      refine ⟨by rw [List.map_cons, hmap, Field.ofPiece_eq_iff.2 ⟨hf, hpart⟩], ?_⟩
      exact List.forall_mem_cons.2
        ⟨((closed_of_blank hfront).append hclosed).append (closed_of_blank hback), hmore⟩
  rw [fields, pieces_intercalate _ hread.2, hread.1]
  rintro rfl
  exact hne hread.1.symm

end Transclude.Directive
